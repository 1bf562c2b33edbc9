import Sieve.Proofs.Settings.Document
import Sieve.Proofs.Settings.Variables
import Sieve.Settings.Load

/-!
How settings are merged.

What is given lies over what variables give, mappings in mappings too. The file of settings lies
beneath: beneath what is given, if the file is named, and beneath the variables too, if it is found.
The environment is merged key by key.
-/

namespace Sieve.Settings

open Value Files Schema

variable {s : Surroundings} {given ves es env : List (Value × Value)} {k : String}

/-- The environment that entries hold; none if it is no mapping. -/
def envOf (es : List (Value × Value)) : List (Value × Value) :=
  ((lookup es "env").bind entries?).getD []

/-- The entries of all variables: those of the process over those of a file. -/
def variableEntries (s : Surroundings) : Except LoadFault (List (Value × Value)) := do
  let bindings ← (envFile s).mapError .file
  let process := Variables.Table.ofBindings (s.environment.map fun (k, v) => (k, some v))
  let fromProcess ← (Variables.entries .process process).mapError .source
  let fromFile ← (Variables.entries .file (.ofBindings bindings)).mapError .source
  return deepEntries fromProcess fromFile

lemma envOf_eq (h : lookup es "env" = some (.map env)) : envOf es = env := by
  simp [envOf, h, entries?]

lemma envOf_eq_nil (h : ∀ env, lookup es "env" ≠ some (.map env)) : envOf es = [] := by
  unfold envOf
  rcases hlookup : lookup es "env" with _ | v
  · rfl
  · cases v with
    | map env => exact absurd hlookup (h env)
    | _ => rfl

lemma gather_eq :
    gather s given = (variableEntries s).map fun ves => deepEntries (renameGiven given) ves := by
  unfold gather variableEntries
  simp only [bind, Except.bind, pure, Except.pure]
  rcases (envFile s).mapError LoadFault.file with f | bindings
  · rfl
  dsimp only
  rcases (Variables.entries .process _).mapError LoadFault.source with f | fromProcess
  · rfl
  dsimp only
  rcases (Variables.entries .file _).mapError LoadFault.source with f | fromFile
  · rfl
  · rfl

/-- Variables give an environment from texts. -/
lemma isTextMapping_variables (h : variableEntries s = .ok ves) : IsTextMapping (envOf ves) := by
  unfold variableEntries at h
  obtain ⟨bindings, -, h⟩ := bind_eq_ok_iff.mp h
  obtain ⟨fromProcess, hprocess, h⟩ := bind_eq_ok_iff.mp h
  obtain ⟨fromFile, hfile, h⟩ := bind_eq_ok_iff.mp h
  rw [mapError_eq_ok_iff] at hprocess hfile
  cases h
  by_cases henv : ∃ env, lookup (deepEntries fromProcess fromFile) "env" = some (.map env)
  · obtain ⟨env, henv⟩ := henv
    rw [envOf_eq henv]
    rw [lookup_deepEntries (Variables.hasDistinctKeys_process hprocess)] at henv
    exact isTextMapping_of_over? henv (fun _ => Variables.isTextMapping_entries hprocess)
      (fun _ => Variables.isTextMapping_entries hfile)
  · rw [envOf_eq_nil fun env hlookup => henv ⟨env, hlookup⟩]
    exact isTextMapping_nil

/-! ### What is given -/

/-- The key that a given text stands for. -/
def meantKey (given : List (Value × Value)) (name : String) : String :=
  let small := Text.lower name
  if (Variables.fields.lookup small).isSome && name ≠ small && (lookup given small).isNone then small
  else name

/-- A given entry under the key that it stands for. -/
def putMeant (given acc : List (Value × Value)) (e : Value × Value) : List (Value × Value) :=
  match e.1 with
  | .str name => put acc (meantKey given name) e.2
  | key => putKey acc key e.2

lemma renameGiven_eq : renameGiven given = given.foldl (putMeant given) [] := by
  unfold renameGiven
  congr 1
  funext acc e
  obtain ⟨key, v⟩ := e
  cases key with
  | str name =>
    simp only [putMeant, meantKey]
    split_ifs <;> rfl
  | _ => rfl

lemma meantKey_eq_or {name : String} :
    meantKey given name = name ∨
      (meantKey given name = Text.lower name ∧
        (Variables.fields.lookup (Text.lower name)).isSome = true ∧
        lookup given (Text.lower name) = none) := by
  unfold meantKey
  dsimp only
  split_ifs with h
  · simp only [Bool.and_eq_true, Option.isNone_iff_eq_none] at h
    exact Or.inr ⟨rfl, h.1.1, h.2⟩
  · exact Or.inl rfl

lemma hasDistinctKeys_renameGiven : HasDistinctKeys (renameGiven given) := by
  rw [renameGiven_eq]
  refine HasDistinctKeys.foldl (fun acc e h => ?_) hasDistinctKeys_nil
  unfold putMeant
  split
  · exact h.put
  · exact h.putKey

/-- What is given under a key counts, if the key alone stands for it. -/
lemma lookup_renameGiven (hgiven : HasDistinctKeys given)
    (hk : ∀ name ∈ textKeys given, meantKey given name = k ↔ name = k) :
    lookup (renameGiven given) k = lookup given k := by
  rw [renameGiven_eq, lookup_foldl _ hgiven]
  · simp [lookup]
  · rintro ⟨key, v⟩ he acc
    cases key with
    | str name =>
      have hname : name ∈ textKeys given := List.mem_filterMap.mpr ⟨_, he, rfl⟩
      simp only [putMeant, lookup_put, hk name hname, string?, Option.some.injEq]
    | _ => simp only [putMeant, lookup_putKey]

lemma lookup_renameGiven_env (hgiven : HasDistinctKeys given) (h : lookup given "env" ≠ none) :
    lookup (renameGiven given) "env" = lookup given "env" := by
  refine lookup_renameGiven hgiven fun name _ => ?_
  have hlower : Text.lower "env" = "env" := by decide
  constructor
  · intro hmeant
    rcases @meantKey_eq_or given name with hsame | ⟨hsmall, -, hnone⟩
    · rw [← hsame, hmeant]
    · rw [← hsmall, hmeant] at hnone
      exact absurd hnone h
  · rintro rfl
    rcases @meantKey_eq_or given "env" with hsame | ⟨hsmall, -, -⟩
    · exact hsame
    · rw [hsmall, hlower]

lemma lookup_renameGiven_skipKey (hgiven : HasDistinctKeys given) :
    lookup (renameGiven given) Variables.skipKey = lookup given Variables.skipKey := by
  refine lookup_renameGiven hgiven fun name _ => ?_
  constructor
  · intro hmeant
    rcases @meantKey_eq_or given name with hsame | ⟨hsmall, hfield, -⟩
    · rw [← hsame, hmeant]
    · rw [← hsmall, hmeant] at hfield
      exact absurd hfield (by decide)
  · rintro rfl
    rcases @meantKey_eq_or given Variables.skipKey with hsame | ⟨hsmall, -, -⟩
    · exact hsame
    · rw [hsmall]
      decide

/-! ### A file beneath -/

/-- A mapping in a file, laid beneath the one that stands under its key. -/
def mergePart (file given acc : List (Value × Value)) (key : String) : List (Value × Value) :=
  match lookup file key with
  | some (.map below) =>
    put acc key (.map (overlay below (((lookup given key).bind entries?).getD [])))
  | _ => acc

lemma mergeFile_eq {file : List (Value × Value)} :
    mergeFile file given =
      mergePart file given (mergePart file given (overlay file given) "env") "logging" := rfl

end Sieve.Settings
