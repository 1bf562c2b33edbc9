import Sieve.Proofs.Settings.Load

/-!
The environment that settings are read with.

An environment that is given lies over those of variables and of a file, key by key. Which of these
two lies over the other depends on whether the file is named or found.
-/

namespace Sieve.Settings

open Value Files

variable {s : Surroundings} {path : Option Path} {given file ves es top below : List (Value × Value)}
  {k : String}

/-- Entries that may be given: each key once, no other environment than a mapping from texts, and
nothing that keeps files from being read. -/
structure IsGiven (given : List (Value × Value)) : Prop where
  distinct : HasDistinctKeys given
  env : rest given = given ∨
    (lookup given "env" = some (.map (envOf given)) ∧ IsTextMapping (envOf given))
  noSkip : lookup given Variables.skipKey = none

/-- What stands under a key of the environment: a file that is named lies over the variables, one
that is found beneath them. -/
def envAt (path : Option Path) (below vars above : List (Value × Value)) (k : String) :
    Option Value :=
  match path with
  | some _ => over? ((lookup above k).or (lookup below k)) (lookup vars k)
  | none => (over? (lookup above k) (lookup vars k)).or (lookup below k)

lemma rest_rest : rest (rest given) = rest given := by simp [rest, List.filter_filter]

lemma lookup_env_of_rest (h : rest given = given) : lookup given "env" = none := by
  rw [← h, lookup_rest_env]

lemma textKeys_rest : (textKeys (rest given)).Sublist (textKeys given) :=
  List.Sublist.filterMap _ List.filter_sublist

lemma IsGiven.rest (h : IsGiven given) : IsGiven (rest given) :=
  ⟨List.Nodup.sublist textKeys_rest h.distinct, Or.inl rest_rest, by
    rw [lookup_rest (by decide), h.noSkip]⟩

lemma IsGiven.isTextMapping (h : IsGiven given) : IsTextMapping (envOf given) := by
  rcases h.env with hrest | ⟨-, htext⟩
  · rw [envOf, lookup_env_of_rest hrest]
    exact isTextMapping_nil
  · exact htext

lemma IsGiven.lookup_renameGiven (h : IsGiven given) :
    lookup (renameGiven given) "env" = lookup given "env" := by
  rcases h.env with hrest | ⟨henv, -⟩
  · rw [← hrest, ← rest_renameGiven, lookup_rest_env, lookup_rest_env]
  · exact lookup_renameGiven_env h.distinct (by simp [henv])

/-! ### The environment given -/

lemma lookup_overNamed_env (hgiven : IsGiven given) (hbelow : lookup file "env" = some (.map below)) :
    lookup (overNamed file given) "env" = some (.map (overlay below (envOf given))) := by
  unfold overNamed
  rw [hbelow]
  rcases hgiven.env with hrest | ⟨henv, -⟩
  · rw [envOf, lookup_env_of_rest hrest]
    dsimp only
    rw [lookup_overlay hgiven.distinct, lookup_env_of_rest hrest, hbelow]
    rfl
  · rw [henv]
    dsimp only
    rw [lookup_put, if_pos rfl]

/-- An environment that lies in that of variables. -/
lemma lookup_envOf_over (htop : lookup top "env" = none ∨ lookup top "env" = some (.map (envOf top)))
    (htext : IsTextMapping (envOf top)) (hves : IsTextMapping (envOf ves))
    (h : lookup es "env" = over? (lookup top "env") (lookup ves "env")) :
    IsTextMapping (envOf es) ∧
      ∀ k, lookup (envOf es) k = over? (lookup (envOf top) k) (lookup (envOf ves) k) := by
  rcases htop with htop | htop
  · have hes : envOf es = envOf ves := by rw [envOf, envOf, h, htop, over?]
    have hnone : envOf top = [] := by rw [envOf, htop]; rfl
    rw [hes, hnone]
    exact ⟨hves, fun k => rfl⟩
  · rw [htop, over?] at h
    rcases deepOver_map (envOf top) (lookup ves "env") with ⟨env, henv, hover⟩ | ⟨hnone, hover⟩
    · rw [hover] at h
      rw [envOf_eq henv] at hves ⊢
      rw [envOf_eq h]
      exact ⟨hves.deepEntries htext.text, fun k => lookup_deepEntries htext.distinct⟩
    · rw [hover] at h
      rw [envOf_eq_nil hnone, envOf_eq h]
      exact ⟨htext, fun k => over?_none_right.symm⟩

lemma lookup_mergeFile_env (h : lookup file "env" = some (.map below)) :
    lookup (mergeFile file es) "env" = some (.map (overlay below (envOf es))) := by
  have henv : lookup (mergePart file es (overlay file es) "env") "env" =
      some (.map (overlay below (envOf es))) := by
    unfold mergePart
    rw [h]
    dsimp only
    rw [lookup_put, if_pos rfl, envOf]
  rw [mergeFile_eq, mergePart]
  split
  · rw [lookup_put, if_neg (by decide), henv]
  · exact henv

lemma lookup_passed_named {p : Path} (hfile : HasDistinctKeys file)
    (hbelow : lookup file "env" = some (.map below)) (hgiven : IsGiven given) :
    lookup (renameGiven (passed (some p) file given)) "env" =
      some (.map (overlay below (envOf given))) := by
  have hpassed : lookup (passed (some p) file given) "env" =
      some (.map (overlay below (envOf given))) := by
    unfold passed
    rw [lookup_overlay (hasDistinctKeys_overNamed hfile), lookup_overNamed_env hgiven hbelow]
    rfl
  rw [lookup_renameGiven_env hasDistinctKeys_passed_named (by simp [hpassed]), hpassed]

/-- With a file that is named, what is passed on has an environment, which lies over that of the
variables. -/
lemma exists_env_named {p : Path} (hfile : IsFilled file)
    (hbelow : lookup file "env" = some (.map below)) (htext : HasTextKeys below)
    (hves : IsTextMapping (envOf ves)) (hgiven : IsGiven given) :
    ∃ env, lookup (merged (some p) file ves given) "env" = some (.map env) ∧ IsTextMapping env ∧
      ∀ k, lookup env k = envAt (some p) below (envOf ves) (envOf given) k := by
  have htop := hgiven.isTextMapping
  have hbelowText : IsTextMapping below := ⟨htext, hfile.2 _ _ hbelow⟩
  set top := renameGiven (passed (some p) file given)
  have hlookup : lookup top "env" = some (.map (overlay below (envOf given))) :=
    lookup_passed_named hfile.1 hbelow hgiven
  have henvOf : envOf top = overlay below (envOf given) := envOf_eq hlookup
  have hmerged : lookup (merged (some p) file ves given) "env" =
      over? (lookup top "env") (lookup ves "env") := lookup_deepEntries hasDistinctKeys_renameGiven
  obtain ⟨env, henv⟩ : ∃ env, lookup (merged (some p) file ves given) "env" = some (.map env) := by
    rw [hmerged, hlookup]
    rcases deepOver_map (overlay below (envOf given)) (lookup ves "env") with
      ⟨es, -, hover⟩ | ⟨-, hover⟩
    · exact ⟨_, congrArg some hover⟩
    · exact ⟨_, congrArg some hover⟩
  obtain ⟨hmap, hentries⟩ := lookup_envOf_over (Or.inr (by rw [hlookup, henvOf]))
    (by rw [henvOf]; exact hbelowText.overlay htop.text) hves hmerged
  rw [envOf_eq henv] at hmap hentries
  refine ⟨env, henv, hmap, fun k => ?_⟩
  rw [hentries, henvOf, lookup_overlay htop.distinct]
  rfl

/-- With a file that is found, the environment that is given lies over that of the variables, and
both lie over that of the file. -/
lemma exists_env_found (hfile : IsFilled file) (hbelow : lookup file "env" = some (.map below))
    (htext : HasTextKeys below) (hves : IsTextMapping (envOf ves)) (hgiven : IsGiven given) :
    ∃ env, lookup (merged none file ves given) "env" = some (.map env) ∧ IsTextMapping env ∧
      ∀ k, lookup env k = envAt none below (envOf ves) (envOf given) k := by
  have hbelowText : IsTextMapping below := ⟨htext, hfile.2 _ _ hbelow⟩
  set es := deepEntries (renameGiven given) ves
  have henvOf : envOf (renameGiven given) = envOf given := by
    rw [envOf, hgiven.lookup_renameGiven, envOf]
  have hes : lookup es "env" = over? (lookup (renameGiven given) "env") (lookup ves "env") :=
    lookup_deepEntries hasDistinctKeys_renameGiven
  have hmap : lookup (renameGiven given) "env" = none ∨
      lookup (renameGiven given) "env" = some (.map (envOf (renameGiven given))) := by
    rw [henvOf, hgiven.lookup_renameGiven]
    exact hgiven.env.imp lookup_env_of_rest And.left
  obtain ⟨htextEs, hentries⟩ := lookup_envOf_over hmap
    (by rw [henvOf]; exact hgiven.isTextMapping) hves hes
  refine ⟨overlay below (envOf es), lookup_mergeFile_env hbelow,
    hbelowText.overlay htextEs.text, fun k => ?_⟩
  rw [lookup_overlay htextEs.distinct, hentries, henvOf]
  rfl

/-- **The environment of settings**, where a file of settings has one. -/
theorem exists_env_merged (hfile : HasFile s ves path file)
    (hbelow : lookup file "env" = some (.map below)) (htext : HasTextKeys below)
    (hves : IsTextMapping (envOf ves)) (hgiven : IsGiven given) :
    ∃ env, lookup (merged path file ves given) "env" = some (.map env) ∧ IsTextMapping env ∧
      ∀ k, lookup env k = envAt path below (envOf ves) (envOf given) k := by
  cases path with
  | some p => exact exists_env_named hfile.isFilled hbelow htext hves hgiven
  | none => exact exists_env_found hfile.isFilled hbelow htext hves hgiven

lemma envAt_nil_eq_none_iff {vars : List (Value × Value)} :
    envAt path below vars [] k = none ↔ lookup below k = none ∧ lookup vars k = none := by
  rcases path with _ | p
  · simp [envAt, lookup, over?, and_comm]
  · rcases hbelow : lookup below k with _ | v <;> simp [envAt, lookup, over?, hbelow]

/-- What is given in an environment counts, unless it is a mapping in a mapping of variables. -/
lemma envAt_over {vars above : List (Value × Value)}
    (h : ∀ v, lookup above k = some v → lookup vars k = none ∨ ∀ es, v ≠ .map es) :
    envAt path below vars above k = (lookup above k).or (envAt path below vars [] k) := by
  rcases habove : lookup above k with _ | v
  · rcases path with _ | p <;> simp [envAt, lookup, habove]
  · have hover : over? (some v) (lookup vars k) = some v := by
      rcases h v habove with hnone | hmap
      · rw [hnone, over?_none_right]
      · rw [over?, deepOver_of_ne_map hmap]
    rcases path with _ | p
    · simp only [envAt, habove, hover, Option.some_or]
    · simp only [envAt, habove, hover, Option.some_or]

end Sieve.Settings
