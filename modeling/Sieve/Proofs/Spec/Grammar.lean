import Sieve.Proofs.Filter.Candidate
import Sieve.Proofs.Spec.Steps

/-!
What a mapping says of itself, apart from how it is read: its name, its tags and its tests, and
what may stand there.
-/

namespace Sieve.Spec

open Document

variable {root : Mapping} {es : Entries} {key : String}

/-- The text of a name. A truth value has none. -/
inductive NameText : Document → String → Prop
  | str (s : String) : NameText (.str s) s
  | int (n : Int) : NameText (.int n) (toString n)
  | float (x : Float) : NameText (.float x) (Decimal.text x)

/-- The name under a key, without the blanks around it; something is left of it. -/
def HasName (es : Entries) (key name : String) : Prop :=
  ∃ d text, get? es key = some d ∧ NameText d text ∧ name = Text.trimmed text ∧ name ≠ ""

/-- The tags under a key as they stand there: a single text, or a list. -/
def Lists (es : Entries) (key : String) (tags : List Document) : Prop :=
  (∃ s, get? es key = some (.str s) ∧ tags = [.str s]) ∨
    ∃ line, get? es key = some (.seq line tags)

/-- A tag stands under a key, with blanks around it perhaps. -/
def HasTag (es : Entries) (key tag : String) : Prop :=
  ∃ tags s, Lists es key tags ∧ .str s ∈ tags ∧ tag = Text.trimmed s

/-- A tag as it stands: a text of which something is left without the blanks around it. -/
def IsTagText (d : Document) : Prop := ∃ s, d = .str s ∧ Text.trimmed s ≠ ""

/-- What may stand under a key for tags: nothing, a single tag, or a list of them. -/
def TagsAllowed (es : Entries) (key : String) : Prop :=
  get? es key = none ∨ get? es key = some .null ∨
    ∃ tags, Lists es key tags ∧ ∀ d ∈ tags, IsTagText d

/-- What may stand in a list of tests: a mapping with the key of a suite or of a test. -/
def IsEntry (d : Document) : Prop :=
  ∃ line es, d = .map line es ∧ (hasKey es "suite" = true ∨ hasKey es "name" = true)

/-- What may stand under `tests`: nothing, or a list of suites and tests. -/
def TestsAllowed (es : Entries) : Prop :=
  get? es "tests" = none ∨ get? es "tests" = some .null ∨
    ∃ line items, get? es "tests" = some (.seq line items) ∧ ∀ d ∈ items, IsEntry d

lemma isBlankText_eq_false_iff {s : String} : isBlankText s = false ↔ Text.trimmed s ≠ "" := by
  unfold isBlankText
  rw [← Bool.not_eq_true, not_iff_not]
  exact String.isEmpty_iff

lemma nameText_of_nameText? {d : Document} {text : String}
    (h : nameText? d = some (some text)) : NameText d text := by
  cases d with
  | str s =>
    obtain rfl : s = text := by simpa [nameText?] using h
    exact .str s
  | int n =>
    simp only [nameText?, inner?, innerText?, Option.some.injEq] at h
    split_ifs at h
    cases h
    exact .int n
  | float x =>
    simp only [nameText?, inner?, innerText?, Option.some.injEq] at h
    cases h
    exact .float x
  | _ => cases h

/-- A name that can be read is one. -/
lemma NameIs.hasName {name : String} (h : NameIs es key name) : HasName es key name := by
  obtain ⟨text, htext, hblank, rfl⟩ := h
  obtain ⟨d, hd, hname⟩ := Option.bind_eq_some_iff.mp htext
  exact ⟨d, text, hd, nameText_of_nameText? hname, rfl, isBlankText_eq_false_iff.mp hblank⟩

/-- A document has one text as a name. -/
lemma NameText.unique {d : Document} {text text' : String} (h : NameText d text)
    (h' : NameText d text') : text = text' := by
  cases h <;> cases h' <;> rfl

lemma HasName.unique {name name' : String} (h : HasName es key name) (h' : HasName es key name') :
    name = name' := by
  obtain ⟨d, text, hd, htext, rfl, -⟩ := h
  obtain ⟨d', text', hd', htext', rfl, -⟩ := h'
  obtain rfl := Option.some.inj (hd.symm.trans hd')
  rw [htext.unique htext']

lemma isTagText_iff {d : Document} : IsTagText d ↔ ∃ tag, IsTag d tag := by
  simp only [IsTagText, IsTag, isBlankText_eq_false_iff]
  constructor
  · rintro ⟨s, rfl, hs⟩
    exact ⟨_, s, rfl, hs, rfl⟩
  · rintro ⟨_, s, rfl, hs, -⟩
    exact ⟨s, rfl, hs⟩

lemma isTagText_of_forall₂ {items : List Document} {tags : List String}
    (h : List.Forall₂ IsTag items tags) : ∀ d ∈ items, IsTagText d := by
  induction h with
  | nil => simp
  | cons hd _ ih => exact List.forall_mem_cons.mpr ⟨isTagText_iff.mpr ⟨_, hd⟩, ih⟩

/-- Tags that can be read may stand there. -/
lemma IsTagged.tagsAllowed (h : IsTagged es key) : TagsAllowed es key := by
  obtain ⟨_, ⟨hnone | hnull, -⟩ | ⟨s, tag, hs, htag, -⟩ | ⟨line, items, tags, hseq, htags, -⟩⟩ := h
  · exact Or.inl hnone
  · exact Or.inr (Or.inl hnull)
  · refine Or.inr (Or.inr ⟨[.str s], Or.inl ⟨s, hs, rfl⟩, ?_⟩)
    exact List.forall_mem_singleton.mpr (isTagText_iff.mpr ⟨tag, htag⟩)
  · exact Or.inr (Or.inr ⟨items, Or.inr ⟨line, hseq⟩, isTagText_of_forall₂ htags⟩)

lemma HasName.hasKey {name : String} (h : HasName es key name) : hasKey es key = true := by
  obtain ⟨d, text, hd, -⟩ := h
  simp [Document.hasKey, hd]

/-- A list is read as the tests. -/
lemma testsOf_eq_listed_iff {line : Option Nat} {items : List Document} :
    testsOf es = .listed line items ↔ get? es "tests" = some (.seq line items) := by
  unfold testsOf
  split <;> simp_all

/-- Tests that can be read may stand there, if each of them may. -/
lemma testsAllowed_of_testsOf (h : testsOf es ≠ .malformed)
    (hitems : ∀ line items, testsOf es = .listed line items → ∀ d ∈ items, IsEntry d) :
    TestsAllowed es := by
  unfold TestsAllowed
  rcases htests : testsOf es with _ | ⟨line, items⟩ | _
  · unfold testsOf at htests
    split at htests <;> simp_all
  · exact Or.inr (Or.inr ⟨line, items, testsOf_eq_listed_iff.mp htests, hitems line items htests⟩)
  · exact absurd htests h

lemma TestsAllowed.isEntry (h : TestsAllowed es) {line : Option Nat} {items : List Document}
    (htests : testsOf es = .listed line items) : ∀ d ∈ items, IsEntry d := by
  have hget := testsOf_eq_listed_iff.mp htests
  rcases h with h | h | ⟨line', items', h, hitems⟩
  · cases h.symm.trans hget
  · cases h.symm.trans hget
  · cases h.symm.trans hget
    exact hitems

/-- Items that are tags stand for themselves, without the blanks around them. -/
lemma mem_iff_of_forall₂_isTag {items : List Document} {tags : List String}
    (h : List.Forall₂ IsTag items tags) {t : String} :
    t ∈ tags ↔ ∃ s, .str s ∈ items ∧ t = Text.trimmed s := by
  induction h with
  | nil => simp
  | cons hd _ ih =>
    obtain ⟨s', rfl, -, rfl⟩ := hd
    simp only [List.mem_cons, ih, str.injEq, or_and_right, exists_or, exists_eq_left]

/-- The tags that are read are those that stand there. -/
lemma TagsAre.mem_iff_hasTag {tags : List String} (h : TagsAre es key tags) {t : String} :
    t ∈ tags ↔ HasTag es key t := by
  unfold HasTag Lists
  rcases h with ⟨hnone | hnull, rfl⟩ | ⟨s, tag, hs, ⟨s', hss', -, rfl⟩, rfl⟩ |
    ⟨line, items, l, hseq, hitems, rfl⟩
  · simp [hnone]
  · simp [hnull]
  · cases hss'
    simp [hs]
  · simp [mem_iff_of_forall₂_isTag hitems, hseq]

end Sieve.Spec
