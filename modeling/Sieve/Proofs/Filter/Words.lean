import Sieve.Proofs.Filter.Decision
import Sieve.Proofs.Text.Sigma

/-!
Words in titles.

A word is looked for in small letters. So a word that stands in a title as it is may be missed:
a capital sigma at its end is written otherwise where a letter follows in the title. It is found
wherever it stands if and only if none of its sigmas depends on what stands around. A word without a
space is in a title joined from names if and only if it is in one of them, so that a filter by such
words can look at the names one by one.
-/

namespace Sieve

open Text

variable {w title : String}

/-- What becomes of a word in a title: a test so titled that no required tag forces does not run
where the word is excluded, and runs where it is asked for, unless an excluded word is found or
there is a tag part. -/
def IsHeeded (w title : String) : Prop :=
  ∀ (f : Filter) (tags : List String) (untaggedPass : Bool),
    (w ∈ f.title.negated → f.admits ⟨title, tags, false⟩ untaggedPass = false) ∧
    (w ∈ f.title.words → (∀ v ∈ f.title.negated, ¬ Mentions v title) → f.tags.isEmpty = true →
      f.admits ⟨title, tags, false⟩ untaggedPass = true)

lemma isHeeded_of_mentions (h : Mentions w title) : IsHeeded w title := by
  intro f tags untaggedPass
  constructor
  · intro hw
    rw [← Bool.not_eq_true, Filter.admits_iff]
    rintro (hrequired | ⟨hnegated, -⟩)
    · exact Bool.false_ne_true hrequired
    · exact hnegated w hw h
  · intro hw hnegated htags
    obtain ⟨hgroups, hinverted⟩ := TagFilter.isEmpty_iff.mp htags
    refine Filter.admits_iff.mpr (Or.inr ⟨hnegated, ?_, Or.inr ⟨w, hw, h⟩, ?_⟩)
    · simp [hinverted]
    · exact Or.inl ⟨hgroups, hinverted⟩

/-- A word is heeded if and only if it is found in small letters. -/
theorem isHeeded_iff : IsHeeded w title ↔ Mentions w title := by
  refine ⟨fun h => ?_, isHeeded_of_mentions⟩
  -- The filter that excludes the word alone lets all other titles run.
  have hexcluded := (h ⟨⟨[], [w]⟩, .none⟩ [] false).1 (List.mem_singleton_self w)
  by_contra hmissed
  rw [← Bool.not_eq_true, Filter.admits_iff] at hexcluded
  refine hexcluded (Or.inr ⟨?_, ?_, Or.inl rfl, Or.inl ⟨rfl, rfl⟩⟩)
  · simpa using hmissed
  · simp [TagFilter.none]

lemma mentions_iff : Mentions w title ↔ lowerFrom [] w.toList <:+: lowerFrom [] title.toList := by
  rw [Mentions, lower, lower, String.toList_ofList, String.toList_ofList]

/-- **A word that stands in a title** is heeded if its sigmas keep their forms there. It is heeded in
each title in which it stands if and only if it is steady. -/
theorem heeded_where_it_stands (w : String) :
    (∀ (title : String) (before after : List Char), title.toList = before ++ w.toList ++ after →
      KeepsSigmas before.reverse after w.toList → IsHeeded w title) ∧
    ((∀ title, contains title w = true → IsHeeded w title) ↔ IsSteady w.toList) := by
  constructor
  · intro title before after htitle hkeeps
    rw [isHeeded_iff, mentions_iff, htitle]
    exact infix_lowerFrom_of_keepsSigmas hkeeps
  · rw [← infix_lowerFrom_iff_isSteady]
    simp only [contains_iff, isHeeded_iff, mentions_iff]
    constructor
    · intro h l hl
      simpa using h (String.ofList l) (by simpa using hl)
    · exact fun h title hstands => h title.toList hstands

/-- A word that ends in a sigma is not found before a letter, neither to exclude nor to admit. -/
theorem missed_before_a_letter :
    contains "ΑΣΑ" "ΑΣ" = true ∧
    (Filter.ofExpressions (some "-ΑΣ") none).title = ⟨[], ["ΑΣ"]⟩ ∧
    (Filter.ofExpressions (some "-ΑΣ") none).admits ⟨"ΑΣΑ", [], false⟩ false = true ∧
    (Filter.ofExpressions (some "ΑΣ") none).title = ⟨["ΑΣ"], []⟩ ∧
    (Filter.ofExpressions (some "ΑΣ") none).admits ⟨"ΑΣΑ", [], false⟩ false = false := by
  decide +kernel

/-! ### Titles joined from names -/

/-- **A title joined from names** is decided by the names one by one if no word has a space in it:
no name may hold an excluded word, and if words are asked for, some name has to hold one. -/
theorem admits_join_iff {f : Filter} {names : List String} (tags : List String)
    (untaggedPass : Bool) (htags : f.tags.isEmpty = true) (hne : names ≠ [])
    (hspace : ∀ w ∈ f.title.words ++ f.title.negated, ' ' ∉ w.toList) :
    f.admits ⟨" ".intercalate names, tags, false⟩ untaggedPass = true ↔
      (∀ name ∈ names, ∀ w ∈ f.title.negated, ¬ Mentions w name) ∧
      (f.title.words = [] ∨ ∃ name ∈ names, ∃ w ∈ f.title.words, Mentions w name) := by
  obtain ⟨hgroups, hinverted⟩ := TagFilter.isEmpty_iff.mp htags
  have hnegated : (∀ w ∈ f.title.negated, ¬ Mentions w (" ".intercalate names)) ↔
      ∀ name ∈ names, ∀ w ∈ f.title.negated, ¬ Mentions w name := by
    constructor
    · intro h name hname w hw hm
      exact h w hw (mentions_join_of_mem hname hm)
    · intro h w hw hm
      obtain ⟨name, hname, hm⟩ :=
        (mentions_join_iff (hspace w (List.mem_append_right _ hw)) hne).mp hm
      exact h name hname w hw hm
  have hwords : (∃ w ∈ f.title.words, Mentions w (" ".intercalate names)) ↔
      ∃ name ∈ names, ∃ w ∈ f.title.words, Mentions w name := by
    constructor
    · rintro ⟨w, hw, hm⟩
      obtain ⟨name, hname, hm⟩ :=
        (mentions_join_iff (hspace w (List.mem_append_left _ hw)) hne).mp hm
      exact ⟨name, hname, w, hw, hm⟩
    · rintro ⟨name, hname, w, hw, hm⟩
      exact ⟨w, hw, mentions_join_of_mem hname hm⟩
  have hadmits : f.tags.Admits tags untaggedPass := Or.inl ⟨hgroups, hinverted⟩
  rw [Filter.admits_iff, hnegated, hwords, or_iff_right Bool.false_ne_true]
  simp [hinverted, hadmits]

/-- A title whose names end in sigmas and have spaces in them. -/
theorem names_with_sigmas_are_decided :
    (Filter.ofExpressions (some "ΟΔΟΣ;-slow") none).admits
        ⟨" ".intercalate ["Η ΟΔΟΣ", "user login"], ["a"], false⟩ false = true ∧
    (∃ name ∈ ["Η ΟΔΟΣ", "user login"],
      ∃ w ∈ (Filter.ofExpressions (some "ΟΔΟΣ;-slow") none).title.words, Mentions w name) := by
  have hadmits : (Filter.ofExpressions (some "ΟΔΟΣ;-slow") none).admits
      ⟨" ".intercalate ["Η ΟΔΟΣ", "user login"], ["a"], false⟩ false = true := by decide +kernel
  have hwords : (Filter.ofExpressions (some "ΟΔΟΣ;-slow") none).title.words ≠ [] := by
    decide +kernel
  exact ⟨hadmits, ((admits_join_iff ["a"] false (by decide +kernel) (by decide)
    (by decide +kernel)).mp hadmits).2.resolve_left hwords⟩

end Sieve
