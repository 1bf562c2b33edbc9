import Sieve.Proofs.Except
import Sieve.Spec.Outline

/-!
What a mapping says of a suite or test: its name and its tags.

A reading that succeeds depends on the value under the key alone, not on the place of the mapping.
It fails without naming a rule only where an integer has too many digits to be written.
-/

namespace Sieve.Spec

open Document

/-! ### What can be shown -/

/-- The document has a part: itself, or one in its items, keys or values. -/
inductive Document.Has (part : Document) : Document → Prop where
  | here : Has part part
  | item {line items d} : d ∈ items → Has part d → Has part (.seq line items)
  | key {line es k v} : (k, v) ∈ es → Has part k → Has part (.map line es)
  | value {line es k v} : (k, v) ∈ es → Has part v → Has part (.map line es)

/-- Some integer in the document has too many digits. -/
def HasUnwritable (d : Document) : Prop := ∃ n, Value.isWritable n = false ∧ Has (.int n) d

/-- A document cannot be written where the whole one occurs that cannot, or such an integer. -/
def Blocked (shown : Option String) (d : Document) : Prop :=
  HasUnwritable d ∨ (shown = none ∧ Has .whole d)

variable {shown : Option String}

lemma has_seq_iff {part : Document} {line : Option Nat} {items : List Document} :
    Has part (.seq line items) ↔ part = .seq line items ∨ ∃ d ∈ items, Has part d := by
  constructor
  · rintro (_ | ⟨hd, h⟩)
    · exact Or.inl rfl
    · exact Or.inr ⟨_, hd, h⟩
  · rintro (rfl | ⟨d, hd, h⟩)
    · exact .here
    · exact .item hd h

lemma has_map_iff {part : Document} {line : Option Nat} {es : Entries} :
    Has part (.map line es) ↔
      part = .map line es ∨ ∃ e ∈ es, Has part e.1 ∨ Has part e.2 := by
  constructor
  · rintro (_ | _ | ⟨he, h⟩ | ⟨he, h⟩)
    · exact Or.inl rfl
    · exact Or.inr ⟨_, he, Or.inl h⟩
    · exact Or.inr ⟨_, he, Or.inr h⟩
  · rintro (rfl | ⟨e, he, h | h⟩)
    · exact .here
    · exact .key he h
    · exact .value he h

lemma Document.Has.trans {a b c : Document} (hab : Has a b) (hbc : Has b c) : Has a c := by
  induction hbc with
  | here => exact hab
  | item hd _ ih => exact .item hd ih
  | key he _ ih => exact .key he ih
  | value he _ ih => exact .value he ih

lemma has_of_get? {line : Option Nat} {es : Entries} {key : String} {d : Document}
    (h : get? es key = some d) : Has d (.map line es) := by
  unfold get? lookup at h
  obtain ⟨e, he, rfl⟩ := Option.map_eq_some_iff.mp h
  exact .value (List.mem_of_find?_eq_some he) .here

lemma has_of_testsOf {line tline : Option Nat} {es : Entries} {items : List Document}
    (h : testsOf es = .listed tline items) {d : Document} (hd : d ∈ items) :
    Has d (.map line es) := by
  unfold testsOf at h
  split at h <;> try contradiction
  rename_i l xs hg
  cases h
  exact (Has.item hd .here).trans (has_of_get? hg)

lemma blocked_seq_iff {line : Option Nat} {items : List Document} :
    Blocked shown (.seq line items) ↔ ∃ d ∈ items, Blocked shown d := by
  simp only [Blocked, HasUnwritable, has_seq_iff, reduceCtorEq, false_or]
  constructor
  · rintro (⟨n, hn, d, hd, h⟩ | ⟨hs, d, hd, h⟩)
    · exact ⟨d, hd, Or.inl ⟨n, hn, h⟩⟩
    · exact ⟨d, hd, Or.inr ⟨hs, h⟩⟩
  · rintro ⟨d, hd, ⟨n, hn, h⟩ | ⟨hs, h⟩⟩
    · exact Or.inl ⟨n, hn, d, hd, h⟩
    · exact Or.inr ⟨hs, d, hd, h⟩

lemma blocked_map_iff {line : Option Nat} {es : Entries} :
    Blocked shown (.map line es) ↔ ∃ e ∈ es, Blocked shown e.1 ∨ Blocked shown e.2 := by
  simp only [Blocked, HasUnwritable, has_map_iff, reduceCtorEq, false_or]
  constructor
  · rintro (⟨n, hn, e, he, h | h⟩ | ⟨hs, e, he, h | h⟩)
    · exact ⟨e, he, Or.inl (Or.inl ⟨n, hn, h⟩)⟩
    · exact ⟨e, he, Or.inr (Or.inl ⟨n, hn, h⟩)⟩
    · exact ⟨e, he, Or.inl (Or.inr ⟨hs, h⟩)⟩
    · exact ⟨e, he, Or.inr (Or.inr ⟨hs, h⟩)⟩
  · rintro ⟨e, he, (⟨n, hn, h⟩ | ⟨hs, h⟩) | (⟨n, hn, h⟩ | ⟨hs, h⟩)⟩
    · exact Or.inl ⟨n, hn, e, he, Or.inl h⟩
    · exact Or.inr ⟨hs, e, he, Or.inl h⟩
    · exact Or.inl ⟨n, hn, e, he, Or.inr h⟩
    · exact Or.inr ⟨hs, e, he, Or.inr h⟩

/-- A document without parts has itself alone. -/
lemma has_leaf_iff {part d : Document} (hseq : ∀ line items, d ≠ .seq line items)
    (hmap : ∀ line es, d ≠ .map line es) : Has part d ↔ d = part := by
  constructor
  · rintro (_ | _)
    · rfl
    · exact absurd rfl (hseq _ _)
    · exact absurd rfl (hmap _ _)
    · exact absurd rfl (hmap _ _)
  · rintro rfl
    exact .here

lemma has_str_iff {part : Document} {s : String} : Has part (.str s) ↔ .str s = part :=
  has_leaf_iff (by simp) (by simp)

lemma has_int_iff {part : Document} {n : Int} : Has part (.int n) ↔ .int n = part :=
  has_leaf_iff (by simp) (by simp)

/-- A document without parts is blocked only by what it is. -/
lemma blocked_leaf_iff {d : Document} (hseq : ∀ line items, d ≠ .seq line items)
    (hmap : ∀ line es, d ≠ .map line es) :
    Blocked shown d ↔
      (∃ n, Value.isWritable n = false ∧ d = .int n) ∨ (shown = none ∧ d = .whole) := by
  simp only [Blocked, HasUnwritable, has_leaf_iff hseq hmap]

mutual

theorem innerText?_eq_none_iff : ∀ d : Document, innerText? shown d = none ↔ Blocked shown d
  | .int n => by
    rw [blocked_leaf_iff (by simp) (by simp)]
    cases h : Value.isWritable n <;> simp [innerText?, h]
  | .whole => by
    rw [blocked_leaf_iff (by simp) (by simp)]
    simp [innerText?]
  | .seq line items => by
    rw [blocked_seq_iff, ← itemTexts?_eq_none_iff items]
    simp [innerText?]
  | .map line es => by
    rw [blocked_map_iff, ← entryTexts?_eq_none_iff es]
    simp [innerText?]
  | .null | .bool _ | .float _ | .str _ | .special _ => by
    rw [blocked_leaf_iff (by simp) (by simp)]
    simp [innerText?]

theorem itemTexts?_eq_none_iff :
    ∀ l : List Document, itemTexts? shown l = none ↔ ∃ d ∈ l, Blocked shown d
  | [] => by simp [itemTexts?]
  | d :: l => by
    rw [List.exists_mem_cons_iff, ← innerText?_eq_none_iff d, ← itemTexts?_eq_none_iff l, itemTexts?]
    cases innerText? shown d <;> cases itemTexts? shown l <;> simp

theorem entryTexts?_eq_none_iff :
    ∀ l : Entries, entryTexts? shown l = none ↔ ∃ e ∈ l, Blocked shown e.1 ∨ Blocked shown e.2
  | [] => by simp [entryTexts?]
  | (k, v) :: l => by
    rw [List.exists_mem_cons_iff, ← innerText?_eq_none_iff k, ← innerText?_eq_none_iff v,
      ← entryTexts?_eq_none_iff l, entryTexts?]
    cases innerText? shown k <;> cases innerText? shown v <;> cases entryTexts? shown l <;> simp

end

/-- A part of a document can be shown unless an integer gets in the way, directly or because the
part refers to the whole document. -/
theorem show?_eq_none_iff {root : Mapping} {d : Document} :
    root.show? d = none ↔
      HasUnwritable d ∨ (HasUnwritable (.map root.line root.entries) ∧ Has .whole d) := by
  -- Inside itself the whole document is shown by an ellipsis, so only an integer blocks it.
  have hroot : (Document.map root.line root.entries).inner? = none ↔
      HasUnwritable (.map root.line root.entries) := by
    rw [inner?, innerText?_eq_none_iff]
    simp [Blocked]
  rw [Mapping.show?, innerText?_eq_none_iff, Blocked, hroot]

/-! ### Names -/

/-- The name under a key: a text or a number, trimmed. -/
def NameIs (es : Entries) (key : String) (name : String) : Prop :=
  ∃ text, (get? es key).bind nameText? = some (some text) ∧ isBlankText text = false ∧
    name = Text.trimmed text

/-- The name under a key is an integer with too many digits. -/
def NameUnwritable (es : Entries) (key : String) : Prop :=
  ∃ n, get? es key = some (.int n) ∧ Value.isWritable n = false

variable {root : Mapping} {es : Entries} {key : String} {location : Location} {line : Option Nat}

lemma readName_eq_ok_iff {name : String} :
    readName es key location line = .ok name ↔ NameIs es key name := by
  unfold readName NameIs
  rcases (get? es key).bind nameText? with _ | _ | text
  · simp
  · simp
  · by_cases h : isBlankText text = true
    · simp [h]
    · simpa [h] using eq_comm

lemma readName_eq_noText_iff :
    readName es key location line = .error .noText ↔ NameUnwritable es key := by
  unfold readName NameUnwritable
  rcases h : get? es key with _ | d
  · simp [violation]
  · cases d with
    | int n =>
      by_cases hn : Value.isWritable n = true
      · simp only [Option.bind_some, nameText?, inner?, innerText?, hn, if_true]
        split_ifs <;> simp [violation, hn]
      · simp [nameText?, inner?, innerText?, hn]
    | str s =>
      simp only [Option.bind_some, nameText?]
      split_ifs <;> simp [violation]
    | float x =>
      simp only [Option.bind_some, nameText?, inner?, innerText?]
      split_ifs <;> simp [violation]
    | _ => simp [nameText?, violation]

lemma readName_ne {e : Failure} (hrule : ∀ v, .violation v ≠ e) (htext : .noText ≠ e) :
    readName es key location line ≠ .error e := by
  unfold readName
  rcases (get? es key).bind nameText? with _ | _ | text
  · simp [violation, hrule]
  · simp [htext]
  · dsimp only
    split_ifs <;> simp [violation, hrule]

lemma readName_ne_endless : readName es key location line ≠ .error .endless :=
  readName_ne (by simp) (by simp)

/-! ### Tags -/

/-- A tag: a text that is not blank. -/
def IsTag (d : Document) (tag : String) : Prop :=
  ∃ s, d = .str s ∧ isBlankText s = false ∧ tag = Text.trimmed s

/-- The tags under a key, each trimmed. -/
def TagsAre (es : Entries) (key : String) (tags : List String) : Prop :=
  ((get? es key = none ∨ get? es key = some .null) ∧ tags = []) ∨
  (∃ s tag, get? es key = some (.str s) ∧ IsTag (.str s) tag ∧ tags = [tag]) ∨
  (∃ line items l, get? es key = some (.seq line items) ∧ List.Forall₂ IsTag items l ∧
    tags = distinct l)

/-- The first of the listed tags that is none cannot be shown. -/
def TagsUnwritable (root : Mapping) (es : Entries) (key : String) : Prop :=
  ∃ line before d after, get? es key = some (.seq line (before ++ d :: after)) ∧
    (∀ b ∈ before, ∃ tag, IsTag b tag) ∧ root.show? d = none

lemma readTag_eq_ok_iff {d : Document} {tag : String} :
    readTag root key location line d = .ok tag ↔ IsTag d tag := by
  unfold readTag IsTag
  cases d with
  | str s =>
    by_cases h : isBlankText s = true
    · rcases root.show? (.str s) with _ | shown <;> simp [h]
    · simpa [h] using eq_comm
  | _ =>
    simp only [reduceCtorEq, false_and, exists_false, iff_false]
    split <;> simp

lemma readTag_eq_noText_iff {d : Document} :
    readTag root key location line d = .error .noText ↔ root.show? d = none := by
  unfold readTag
  cases d with
  | str s =>
    have hs : root.show? (.str s) = some (Text.quoted s) := rfl
    by_cases h : isBlankText s = true <;> simp [h, hs, violation]
  | _ => dsimp only; split <;> simp_all [violation]

lemma readTag_ne {e : Failure} (hrule : ∀ v, .violation v ≠ e) (htext : .noText ≠ e)
    {d : Document} : readTag root key location line d ≠ .error e := by
  unfold readTag
  cases d with
  | str s =>
    have hs : root.show? (.str s) = some (Text.quoted s) := rfl
    by_cases h : isBlankText s = true <;> simp [h, hs, violation, hrule]
  | _ => dsimp only; split <;> simp [violation, hrule, htext]

theorem readTags_eq_ok_iff {tags : List String} :
    readTags root es key location line = .ok tags ↔ TagsAre es key tags := by
  unfold readTags TagsAre
  rcases h : get? es key with _ | d
  · simp [eq_comm]
  · cases d with
    | null => simp [eq_comm]
    | str s => simp [map_eq_ok_iff, readTag_eq_ok_iff]
    | seq tline items => simp [map_eq_ok_iff, mapM_eq_ok_iff, readTag_eq_ok_iff]
    | _ => simp [violation]

theorem readTags_eq_noText_iff :
    readTags root es key location line = .error .noText ↔ TagsUnwritable root es key := by
  unfold readTags TagsUnwritable
  rcases h : get? es key with _ | d
  · simp
  · cases d with
    | str s =>
      have hs : root.show? (.str s) = some (Text.quoted s) := rfl
      simp [map_eq_error_iff, readTag_eq_noText_iff, hs]
    | seq tline items =>
      simp [map_eq_error_iff, mapM_eq_error_iff, readTag_eq_noText_iff, readTag_eq_ok_iff]
    | _ => simp [violation]

lemma readTags_ne {e : Failure} (hrule : ∀ v, .violation v ≠ e) (htext : .noText ≠ e) :
    readTags root es key location line ≠ .error e := by
  unfold readTags
  rcases h : get? es key with _ | d
  · simp
  · cases d with
    | str s => simp [map_eq_error_iff, readTag_ne hrule htext]
    | seq tline items => simp [map_eq_error_iff, mapM_eq_error_iff, readTag_ne hrule htext]
    | _ => simp [violation, hrule]

lemma readTags_ne_endless : readTags root es key location line ≠ .error .endless :=
  readTags_ne (by simp) (by simp)

end Sieve.Spec
