import Sieve.Proofs.Settings.Rest
import Sieve.Settings.Parameter

/-!
Parameters among the keys that are given.

Whether a parameter is followed or refused depends on what stands under the names of parameters
alone, and no other key, nor the environment, has such a name.
-/

namespace Sieve.Settings

open Value

variable {es es' : List (Value × Value)} {name : String}

namespace Parameter

/-- The name of a parameter. -/
def IsName (name : String) : Prop := name = self ∨ starts.any (Text.startsWith name) = true

lemma isName_envFile : IsName envFile := Or.inr (by decide)

lemma isName_secretsDir : IsName secretsDir := Or.inr (by decide)

/-- All of them begin with the same sign. -/
lemma IsName.exists_toList (h : IsName name) : ∃ l, name.toList = '_' :: l := by
  rcases h with rfl | h
  · exact ⟨_, rfl⟩
  · have hsign : ∀ start ∈ starts, start.toList.head? = some '_' := by decide
    obtain ⟨start, hstart, hname⟩ := List.any_eq_true.mp h
    obtain ⟨rest, hrest⟩ := List.isPrefixOf_iff_prefix.mp hname
    obtain ⟨l, hl⟩ := List.head?_eq_some_iff.mp (hsign start hstart)
    exact ⟨l ++ rest, by rw [← hrest, hl]; rfl⟩

lemma IsName.lower_ne_env (h : IsName name) : Text.lower name ≠ "env" := by
  obtain ⟨l, hl⟩ := h.exists_toList
  intro henv
  have hlist : Text.lowerFrom [] name.toList = "env".toList := by
    rw [← henv, Text.lower, String.toList_ofList]
  rw [hl, Text.lowerFrom, show Text.lowerChar '_' = '_' by decide] at hlist
  exact absurd (congrArg List.head? hlist) (by simp)

lemma IsName.ne_env (h : IsName name) : name ≠ "env" := by
  rintro rfl
  exact h.lower_ne_env (by decide)

lemma IsName.ne_skipKey (h : IsName name) : name ≠ Variables.skipKey := by
  rintro rfl
  exact absurd h (by unfold IsName; decide)

lemma isName_of_isInstruction {v : Value} (h : isInstruction name v = true) : IsName name :=
  Or.inr (Bool.and_eq_true_iff.mp h).1

/-- Nothing under the names of parameters is followed. -/
lemma instruction?_eq_none_iff :
    instruction? es = none ↔
      ∀ name, IsName name → ∀ v, lookup es name = some v → isInstruction name v = false := by
  change (textKeys es).find? _ = none ↔ _
  rw [List.find?_eq_none]
  constructor
  · intro h name _ v hv
    have hmem : name ∈ textKeys es := mem_textKeys_iff.mpr (by simp [hv])
    simpa [hv] using h name hmem
  · intro h name _ hany
    obtain ⟨v, hv, hfollowed⟩ := (Option.any_eq_true _ _).mp hany
    rw [h name (isName_of_isInstruction hfollowed) v hv] at hfollowed
    cases hfollowed

section Congr

variable (h : ∀ name, IsName name → lookup es name = lookup es' name)
include h

lemma instruction?_eq_none_congr : instruction? es = none ↔ instruction? es' = none := by
  rw [instruction?_eq_none_iff, instruction?_eq_none_iff]
  exact forall₂_congr fun name hname => by rw [h name hname]

lemma refusal?_congr : refusal? es = refusal? es' := by
  unfold refusal? noNames?
  rw [h self (Or.inl rfl), h envFile isName_envFile]

lemma lateRefusal?_congr : lateRefusal? es = lateRefusal? es' := by
  unfold lateRefusal? noNames?
  rw [h secretsDir isName_secretsDir]

end Congr

end Parameter

/-- No key has the name of a parameter. -/
def HasNoParameters (es : List (Value × Value)) : Prop :=
  ∀ name, Parameter.IsName name → lookup es name = none

lemma hasNoParameters_of_keys (h : ∀ name ∈ textKeys es, name.toList.head? ≠ some '_') :
    HasNoParameters es := by
  intro name hname
  refine lookup_eq_none_of_not_mem fun hmem => h name hmem ?_
  obtain ⟨l, hl⟩ := hname.exists_toList
  rw [hl]
  rfl

/-- The class of settings takes entries as settings: their keys are texts, and none of them is a
parameter that is followed or refused. -/
structure AreTaken (es : List (Value × Value)) : Prop where
  text : HasTextKeys es
  notFollowed : Parameter.instruction? es = none
  notRefused : Parameter.refusal? es = none
  notRefusedLate : Parameter.lateRefusal? es = none

lemma HasNoParameters.areTaken (h : HasNoParameters es) (htext : HasTextKeys es) : AreTaken es where
  text := htext
  notFollowed := Parameter.instruction?_eq_none_iff.mpr fun name hname v hv => by
    rw [h name hname] at hv
    cases hv
  notRefused := by
    unfold Parameter.refusal? Parameter.noNames?
    rw [h _ (Or.inl rfl), h _ Parameter.isName_envFile]
    rfl
  notRefusedLate := by
    unfold Parameter.lateRefusal? Parameter.noNames?
    rw [h _ Parameter.isName_secretsDir]
    rfl

lemma areTaken_nil : AreTaken [] :=
  HasNoParameters.areTaken (fun _ _ => rfl) (List.forall_mem_nil _)

lemma any_noText_iff : (es.any fun e => e.1.string?.isNone) = true ↔ ¬ HasTextKeys es := by
  simp only [List.any_eq_true, Option.isNone_iff_eq_none, HasTextKeys, not_forall, not_exists]
  simp only [← string?_eq_some_iff, Option.eq_none_iff_forall_not_mem, Option.mem_def, exists_prop]

/-- Entries are taken if nothing keeps them from being given, nor the class refuses them late. -/
lemma areTaken_iff : AreTaken es ↔ givenFault? es = none ∧ Parameter.lateRefusal? es = none := by
  unfold givenFault?
  by_cases htext : HasTextKeys es
  · rw [if_neg (mt any_noText_iff.mp (not_not.mpr htext))]
    rcases hfollowed : Parameter.instruction? es with _ | name
    · rw [Option.map_eq_none_iff]
      exact ⟨fun h => ⟨h.notRefused, h.notRefusedLate⟩, fun h => ⟨htext, hfollowed, h.1, h.2⟩⟩
    · exact iff_of_false (fun h => by simpa [hfollowed] using h.notFollowed) (by simp)
  · rw [if_pos (any_noText_iff.mpr htext)]
    exact iff_of_false (fun h => htext h.text) (by simp)

/-- Entries that are the same but for the environment are taken, or not, alike. -/
lemma areTaken_rest_iff : AreTaken (rest es) ↔ AreTaken es := by
  have hrest : ∀ name, Parameter.IsName name → lookup (rest es) name = lookup es name :=
    fun name hname => lookup_rest hname.lower_ne_env
  have hfollowed := Parameter.instruction?_eq_none_congr hrest
  have hrefused := Parameter.refusal?_congr hrest
  have hlate := Parameter.lateRefusal?_congr hrest
  constructor <;> intro h
  · exact ⟨hasTextKeys_rest_iff.mp h.text, hfollowed.mp h.notFollowed,
      hrefused.symm.trans h.notRefused, hlate.symm.trans h.notRefusedLate⟩
  · exact ⟨hasTextKeys_rest_iff.mpr h.text, hfollowed.mpr h.notFollowed,
      hrefused.trans h.notRefused, hlate.trans h.notRefusedLate⟩

end Sieve.Settings
