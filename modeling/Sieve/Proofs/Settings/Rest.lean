import Sieve.Proofs.Settings.Merging

/-!
What an environment leaves alone.

Merging takes one key at a time. So entries that are the same but for the environment are merged
into entries that are the same but for the environment, and all other settings are read from them
as they were.
-/

namespace Sieve.Settings

open Value Schema

variable {given file es es' top : List (Value × Value)} {key v : Value} {k : String}

/-- The key of the environment, in letters of any case. -/
def namesEnv (key : Value) : Bool := key.string?.any fun name => Text.lower name = "env"

/-- The entries but for the environment. -/
def rest (es : List (Value × Value)) : List (Value × Value) := es.filter fun e => !namesEnv e.1

lemma namesEnv_env : namesEnv (.str "env") = true := by decide

lemma namesEnv_str : namesEnv (.str k) = true ↔ Text.lower k = "env" := by
  simp [namesEnv, string?]

lemma rest_cons {e : Value × Value} :
    rest (e :: es) = if namesEnv e.1 = true then rest es else e :: rest es := by
  unfold rest
  rw [List.filter_cons]
  split_ifs <;> simp_all

lemma lookup_rest (hk : Text.lower k ≠ "env") : lookup (rest es) k = lookup es k := by
  induction es with
  | nil => rfl
  | cons e es ih =>
    rw [rest_cons, lookup_cons]
    split_ifs with henv hkey hkey
    · rw [string?_eq_some_iff.mp hkey, namesEnv_str] at henv
      exact absurd henv hk
    · exact ih
    · rw [lookup_cons, if_pos hkey]
    · rw [lookup_cons, if_neg hkey, ih]

lemma lookup_rest_env : lookup (rest es) "env" = none := by
  refine lookup_eq_none_of_not_mem fun hmem => ?_
  obtain ⟨e, he, hkey⟩ := List.mem_filterMap.mp hmem
  have henv : namesEnv e.1 = true := by
    rw [string?_eq_some_iff.mp hkey]
    exact namesEnv_env
  simpa [henv] using (List.mem_filter.mp he).2

/-- Only other keys may be no texts. -/
lemma hasTextKeys_rest_iff : HasTextKeys (rest es) ↔ HasTextKeys es := by
  constructor
  · intro h e he
    by_cases henv : namesEnv e.1 = true
    · rcases hname : e.1.string? with _ | name
      · simp [namesEnv, hname] at henv
      · exact ⟨name, string?_eq_some_iff.mp hname⟩
    · exact h e (List.mem_filter.mpr ⟨he, by simpa using henv⟩)
  · exact fun h e he => h e (List.mem_of_mem_filter he)

/-! ### Merging -/

lemma rest_update {f : Option Value → Value} :
    rest (update es key f) = if namesEnv key = true then rest es else update (rest es) key f := by
  induction es with
  | nil => rw [update, rest_cons]; rfl
  | cons e es ih =>
    obtain ⟨key', w⟩ := e
    rw [update]
    by_cases hsame : key'.same key = true
    · have henv : namesEnv key' = namesEnv key := by
        unfold namesEnv
        rw [string?_eq_of_same hsame]
      rw [if_pos hsame, rest_cons, rest_cons, henv]
      split_ifs
      · rfl
      · rw [update, if_pos hsame]
    · rw [if_neg hsame, rest_cons, rest_cons, ih]
      split_ifs
      · rfl
      · rfl
      · rfl
      · rw [update, if_neg hsame]

lemma rest_putKey :
    rest (putKey es key v) = if namesEnv key = true then rest es else putKey (rest es) key v := by
  rw [putKey_eq_update, putKey_eq_update, rest_update]

lemma rest_put :
    rest (put es k v) = if Text.lower k = "env" then rest es else put (rest es) k v := by
  rw [put_eq_update, put_eq_update, rest_update, if_congr namesEnv_str rfl rfl]

lemma rest_put_env : rest (put es "env" v) = rest es := by
  rw [rest_put, if_pos (by decide)]

lemma rest_overlay : rest (overlay es top) = overlay (rest es) (rest top) := by
  induction top generalizing es with
  | nil => rfl
  | cons e top ih =>
    obtain ⟨key, v⟩ := e
    change rest (overlay (putKey es key v) top) = _
    rw [ih, rest_putKey, rest_cons]
    split_ifs <;> rfl

lemma rest_deepEntries : rest (deepEntries top es) = deepEntries (rest top) (rest es) := by
  induction top generalizing es with
  | nil => rw [deepEntries]; rfl
  | cons e top ih =>
    obtain ⟨key, v⟩ := e
    rw [deepEntries, ih, rest_update, rest_cons]
    split_ifs
    · rfl
    · rw [deepEntries]

/-- The names of all settings are in small letters. -/
lemma lower_of_field (h : (Variables.fields.lookup k).isSome = true) : Text.lower k = k := by
  have hsmall : ∀ f ∈ Variables.fields, Text.lower f.1 = f.1 := by decide
  obtain ⟨form, hform⟩ := Option.isSome_iff_exists.mp h
  obtain ⟨l, r, hl, -⟩ := List.lookup_eq_some_iff.mp hform
  exact hsmall (k, form) (by rw [hl]; simp)

/-- The environment decides nothing about what other keys stand for. -/
lemma meantKey_rest {name : String} (h : Text.lower name ≠ "env") :
    meantKey (rest given) name = meantKey given name := by
  unfold meantKey
  dsimp only
  by_cases hfield : (Variables.fields.lookup (Text.lower name)).isSome = true
  · rw [lookup_rest (by rwa [lower_of_field hfield])]
  · simp [hfield]

lemma lower_meantKey_eq_env_iff {name : String} :
    Text.lower (meantKey given name) = "env" ↔ Text.lower name = "env" := by
  rcases @meantKey_eq_or given name with hsame | ⟨hsmall, hfield, -⟩
  · rw [hsame]
  · rw [hsmall, lower_of_field hfield]

lemma rest_putMeant {e : Value × Value} :
    rest (putMeant given es e) =
      if namesEnv e.1 = true then rest es else putMeant (rest given) (rest es) e := by
  obtain ⟨key, v⟩ := e
  unfold putMeant
  cases key with
  | str name =>
    dsimp only
    rw [rest_put, if_congr namesEnv_str rfl rfl, if_congr lower_meantKey_eq_env_iff rfl rfl]
    split_ifs with henv
    · rfl
    · rw [meantKey_rest henv]
  | _ => exact rest_putKey

lemma rest_renameGiven : rest (renameGiven given) = renameGiven (rest given) := by
  rw [renameGiven_eq, renameGiven_eq]
  have hfold : ∀ l acc, rest (l.foldl (putMeant given) acc) =
      (rest l).foldl (putMeant (rest given)) (rest acc) := by
    intro l
    induction l with
    | nil => exact fun acc => rfl
    | cons e l ih =>
      intro acc
      rw [List.foldl_cons, ih, rest_putMeant, rest_cons]
      split_ifs <;> rfl
  exact hfold given []

lemma rest_mergePart_env {acc : List (Value × Value)} :
    rest (mergePart file es acc "env") = rest acc := by
  unfold mergePart
  split
  · exact rest_put_env
  · rfl

lemma rest_mergePart {acc : List (Value × Value)} (hk : Text.lower k ≠ "env") :
    rest (mergePart file es acc k) = mergePart (rest file) (rest es) (rest acc) k := by
  unfold mergePart
  rw [lookup_rest hk, lookup_rest hk]
  split
  · rw [rest_put, if_neg hk]
  · rfl

lemma rest_mergeFile : rest (mergeFile file es) =
    mergePart (rest file) (rest es) (overlay (rest file) (rest es)) "logging" := by
  rw [mergeFile_eq, rest_mergePart (by decide), rest_mergePart_env, rest_overlay]

end Sieve.Settings
