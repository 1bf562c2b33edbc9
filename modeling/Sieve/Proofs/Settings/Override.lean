import Sieve.Proofs.Settings.Environment
import Sieve.Proofs.Settings.Options

/-!
Options given over those of a file.

The environment is merged by spelling, and only then are options read from it: each from the first
of its spellings that stands there. So an option that is given counts only if no earlier spelling of
it stands in the file or in the variables. If one does, what is given has no effect.
-/

namespace Sieve.Settings

open Value Files Schema

variable {s : Surroundings} {path : Option Path} {given file ves below : List (Value × Value)}
  {settings : Settings} {opts : Options}

/-- The options with an environment given over `below` and `vars`, against those without it: what is
given counts under a spelling with none earlier, and has no effect under any other. -/
def CountsBySpelling (s : Surroundings) (path : Option Path)
    (given below vars : List (Value × Value)) (opts : Options) : Prop :=
  ∃ settings' opts', (load s path given).value = .ok settings' ∧ settings'.options = .ok opts' ∧
    ∀ (o : Options.Field) (n : String) (v : Value), n ∈ o.names → lookup (envOf given) n = some v →
      (∀ m ∈ before o.names n, lookup (envOf given) m = none) →
        ((∀ m ∈ before o.names n, lookup below m = none ∧ lookup vars m = none) →
          o.read v = .ok (o.get opts')) ∧
        ((∃ m ∈ before o.names n, lookup below m ≠ none ∨ lookup vars m ≠ none) →
          o.get opts' = o.get opts)

/-- Every option that is given can be read. -/
def IsReadable (above : List (Value × Value)) : Prop :=
  ∀ (o : Options.Field) (n : String) (v : Value), n ∈ o.names → lookup above n = some v →
    ∃ x, o.read v = .ok x

/-- No mapping that is given falls into one that variables give. -/
def IsApart (above vars : List (Value × Value)) : Prop :=
  ∀ n v, lookup above n = some v → lookup vars n = none ∨ ∀ es, v ≠ .map es

/-! ### The rest of what is read -/

lemma rest_overNamed : rest (overNamed file given) = overlay (rest file) (rest given) := by
  unfold overNamed
  split
  · rw [rest_put_env, rest_overlay]
  · rw [rest_overlay]

lemma rest_passed : rest (passed path file (rest given)) = rest (passed path file given) := by
  rcases path with _ | p
  · exact rest_rest
  · simp only [passed, rest_overlay, rest_overNamed, rest_rest]

lemma rest_merged : rest (merged path file ves (rest given)) = rest (merged path file ves given) := by
  rcases path with _ | p
  · simp only [merged, rest_mergeFile, rest_deepEntries, rest_renameGiven, rest_passed]
  · simp only [merged, rest_deepEntries, rest_renameGiven, rest_passed]

/-! ### Options -/

/-- Options in an environment with others laid over it. -/
lemma exists_options {env env' above : List (Value × Value)} (hopts : Options.ofEntries env = .ok opts)
    (habove : IsReadable above) (h : ∀ k, lookup env' k = (lookup above k).or (lookup env k)) :
    ∃ opts', Options.ofEntries env' = .ok opts' := by
  refine Options.exists_ofEntries fun o => ?_
  have hfield : o.readIn env' = o.readIn env ∨ ∃ n ∈ o.names, ∃ v, lookup above n = some v ∧
      o.readIn env' = Read.at n (o.read v) := firstField_over fun n _ => h n
  rcases hfield with hsame | ⟨n, hn, v, hv, hread⟩
  · exact ⟨o.get opts, hsame.trans (Options.ofEntries_eq_ok_iff.mp hopts o)⟩
  · obtain ⟨x, hx⟩ := habove o n v hn hv
    exact ⟨x, hread.trans (at_eq_ok_iff.mpr hx)⟩

/-- An environment that is given lies over the one that settings have without it. -/
lemma exists_options_over (hves : variableEntries s = .ok ves) (hfile : HasFile s ves path file)
    (hbelow : lookup file "env" = some (.map below)) (htext : HasTextKeys below)
    (hgiven : IsGiven given) (hsettings : (load s path (rest given)).value = .ok settings)
    (hopts : settings.options = .ok opts) (hread : IsReadable (envOf given))
    (hapart : IsApart (envOf given) (envOf ves)) :
    ∃ settings' opts', (load s path given).value = .ok settings' ∧ settings'.options = .ok opts' ∧
      (∀ k, lookup settings'.envEntries k =
        (lookup (envOf given) k).or (lookup settings.envEntries k)) ∧
      ∀ k, lookup settings.envEntries k = none ↔
        lookup below k = none ∧ lookup (envOf ves) k = none := by
  have hvars := isTextMapping_variables hves
  -- The settings without the environment.
  obtain ⟨htaken, hbase⟩ := (load_eq_ok_iff hfile hves hgiven.rest.distinct hgiven.rest.noSkip).mp
    hsettings
  obtain ⟨env, henv, henvText, henvAt⟩ := exists_env_merged hfile hbelow htext hvars hgiven.rest
  have hbare : envOf (rest given) = [] := by
    rw [envOf, lookup_rest_env]
    rfl
  rw [hbare] at henvAt
  have henvEntries : settings.envEntries = env := envEntries_eq hbase henv henvText
  -- The settings with it: all the rest is read as it was.
  obtain ⟨env', henv', henvText', henvAt'⟩ := exists_env_merged hfile hbelow htext hvars hgiven
  obtain ⟨l, hload⟩ := exists_ofEntries_of_rest hbase rest_merged.symm henv' henvText'
  have henvEntries' := envEntries_eq hload henv' henvText'
  have htaken' : AreTaken (passed path file given) := by
    rwa [← areTaken_rest_iff, ← rest_passed, areTaken_rest_iff]
  have hover : ∀ k, lookup env' k = (lookup (envOf given) k).or (lookup env k) := by
    intro k
    rw [henvAt', henvAt, envAt_over (hapart k)]
  have hopts' : Options.ofEntries env = .ok opts := by rw [← henvEntries, ← hopts]; rfl
  obtain ⟨opts', hopts''⟩ := exists_options hopts' hread hover
  refine ⟨_, opts', (load_eq_ok_iff hfile hves hgiven.distinct hgiven.noSkip).mpr ⟨htaken', hload⟩,
    ?_, ?_, ?_⟩
  · unfold Settings.options
    rw [henvEntries', hopts'']
  · rw [henvEntries, henvEntries']
    exact hover
  · intro k
    rw [henvEntries, henvAt, envAt_nil_eq_none_iff]

/-- **An option that is given** counts by its spelling. -/
lemma countsBySpelling (hves : variableEntries s = .ok ves) (hfile : HasFile s ves path file)
    (hbelow : lookup file "env" = some (.map below)) (htext : HasTextKeys below)
    (hgiven : IsGiven given) (hsettings : (load s path (rest given)).value = .ok settings)
    (hopts : settings.options = .ok opts) (hread : IsReadable (envOf given))
    (hapart : IsApart (envOf given) (envOf ves)) :
    CountsBySpelling s path given below (envOf ves) opts := by
  obtain ⟨settings', opts', hload, hopts', hover, hnone⟩ :=
    exists_options_over hves hfile hbelow htext hgiven hsettings hopts hread hapart
  refine ⟨settings', opts', hload, hopts', fun o n v hn hv hfirst => ⟨fun hfree => ?_, ?_⟩⟩
  · have hreadIn : o.readIn settings'.envEntries = Read.at n (o.read v) := by
      refine firstField_eq_at hn (by rw [hover, hv]; rfl) fun m hm => ?_
      rw [hover, hfirst m hm, (hnone m).mpr (hfree m hm)]
      rfl
    rw [← at_eq_ok_iff, ← hreadIn]
    exact Options.ofEntries_eq_ok_iff.mp hopts' o
  · rintro ⟨m, hm, htaken⟩
    have hreadIn : o.readIn settings'.envEntries = o.readIn settings.envEntries := by
      refine firstField_eq_of_before ⟨m, hm, ?_⟩ fun m hm => ?_
      · rw [Ne, hnone, not_and_or]
        exact htaken
      · rw [hover, hfirst m hm]
        rfl
    have hold := Options.ofEntries_eq_ok_iff.mp hopts o
    have hnew := Options.ofEntries_eq_ok_iff.mp hopts' o
    rw [hreadIn, hold] at hnew
    exact (Except.ok.inj hnew).symm

end Sieve.Settings
