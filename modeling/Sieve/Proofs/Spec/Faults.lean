import Sieve.Proofs.Spec.Grammar
import Sieve.Proofs.Spec.Tests

/-!
The rules that a mapping breaks.

The rules of a mapping are checked one after another: of an entry its keys, tags, required tags,
name and tests, of the root its name, tags, required tags and tests. The position of a check in
this order is its rank. A reading that fails names the rule of the least rank that is broken.
-/

namespace Sieve.Spec

open Document

variable {root : Mapping} {es : Entries} {key : String} {location : Location} {line : Option Nat}
  {r : Rule} {v : Violation}

/-! ### Names, tags and tests -/

/-- What is wrong with the name under a key: it is no text or number, or it is blank. -/
inductive NameFault (es : Entries) (key : String) : Rule → Prop
  | type : (∀ d text, get? es key = some d → ¬ NameText d text) →
      NameFault es key (.nameType key)
  | blank {d text} : get? es key = some d → NameText d text → Text.trimmed text = "" →
      NameFault es key (.nameBlank key)

/-- What is wrong with the tags under a key: they are neither a text nor a list, or one of them,
of which the first is shown, is no text or blank. -/
inductive TagsFault (root : Mapping) (es : Entries) (key : String) : Rule → Prop
  | type {d} : get? es key = some d → d ≠ .null → (∀ tags, ¬ Lists es key tags) →
      TagsFault root es key (.tagsType key)
  | tag {before d after shown} : Lists es key (before ++ d :: after) →
      (∀ b ∈ before, IsTagText b) → ¬ IsTagText d → root.show? d = some shown →
      TagsFault root es key (.tag key shown)

/-- What is wrong with the tests: they are no list. -/
inductive TestsFault (es : Entries) : Rule → Prop
  | type {d} : get? es "tests" = some d → d ≠ .null → (∀ line items, d ≠ .seq line items) →
      TestsFault es .testsType

lemma not_nameFault {name : String} (h : HasName es key name) : ¬ NameFault es key r := by
  obtain ⟨d, text, hd, htext, rfl, hne⟩ := h
  rintro (hnone | ⟨hd', htext', hblank⟩)
  · exact hnone d text hd htext
  · obtain rfl := Option.some.inj (hd.symm.trans hd')
    exact hne (htext.unique htext' ▸ hblank)

lemma Lists.unique {tags tags' : List Document} (h : Lists es key tags)
    (h' : Lists es key tags') : tags = tags' := by
  rcases h with ⟨s, hs, rfl⟩ | ⟨line, hs⟩ <;> rcases h' with ⟨s', hs', rfl⟩ | ⟨line', hs'⟩ <;>
    cases hs.symm.trans hs' <;> rfl

lemma not_tagsFault (h : TagsAllowed es key) : ¬ TagsFault root es key r := by
  rintro (⟨hd, hnull, hnone⟩ | ⟨hlists, -, hbad, -⟩)
  · rcases h with h | h | ⟨tags, h, -⟩
    · cases h.symm.trans hd
    · cases h.symm.trans hd
      exact hnull rfl
    · exact hnone tags h
  · rcases h with h | h | ⟨tags, h, htags⟩
    · rcases hlists with ⟨s, hs, -⟩ | ⟨line, hs⟩ <;> cases h.symm.trans hs
    · rcases hlists with ⟨s, hs, -⟩ | ⟨line, hs⟩ <;> cases h.symm.trans hs
    · rw [h.unique hlists] at htags
      exact hbad (htags _ (by simp))

/-- The first of a list of which something does not hold. -/
lemma eq_of_first {P : Document → Prop} {d d' : Document} {a b a' b' : List Document}
    (h : a ++ d :: b = a' ++ d' :: b') (ha : ∀ x ∈ a, P x) (hd : ¬ P d) (ha' : ∀ x ∈ a', P x)
    (hd' : ¬ P d') : d = d' := by
  rcases List.append_eq_append_iff.mp h with ⟨c, rfl, hc⟩ | ⟨c, rfl, hc⟩ <;>
    rcases c with _ | ⟨e, c⟩
  · exact (List.cons.inj hc).1
  · obtain rfl := (List.cons.inj hc).1
    exact absurd (ha' d (by simp)) hd
  · exact (List.cons.inj hc).1.symm
  · obtain rfl := (List.cons.inj hc).1
    exact absurd (ha d' (by simp)) hd'

lemma NameFault.unique {r' : Rule} (h : NameFault es key r) (h' : NameFault es key r') : r = r' := by
  rcases h with hnone | ⟨hd, htext, -⟩ <;> rcases h' with hnone' | ⟨hd', htext', -⟩
  · rfl
  · exact absurd htext' (hnone _ _ hd')
  · exact absurd htext (hnone' _ _ hd)
  · rfl

lemma TagsFault.unique {r' : Rule} (h : TagsFault root es key r) (h' : TagsFault root es key r') :
    r = r' := by
  rcases h with ⟨-, -, hnone⟩ | ⟨hlists, hbefore, hbad, hshow⟩ <;>
    rcases h' with ⟨-, -, hnone'⟩ | ⟨hlists', hbefore', hbad', hshow'⟩
  · rfl
  · exact absurd hlists' (hnone _)
  · exact absurd hlists (hnone' _)
  · obtain rfl := eq_of_first (hlists.unique hlists') hbefore hbad hbefore' hbad'
    rw [Option.some.inj (hshow.symm.trans hshow')]

lemma not_testsFault (h : TestsAllowed es) : ¬ TestsFault es r := by
  rintro ⟨hd, hnull, hseq⟩
  rcases h with h | h | ⟨line, items, h, -⟩
  · cases h.symm.trans hd
  · exact hnull (Option.some.inj (hd.symm.trans h))
  · exact hseq line items (Option.some.inj (hd.symm.trans h))

lemma testsFault_iff : TestsFault es r ↔ testsOf es = .malformed ∧ r = .testsType := by
  constructor
  · rintro ⟨hd, hnull, hseq⟩
    unfold testsOf
    rw [hd]
    refine ⟨?_, rfl⟩
    split
    · rename_i h
      cases h
    · rename_i h
      exact absurd (Option.some.inj h) hnull
    · rename_i h
      exact absurd (Option.some.inj h) (hseq _ _)
    · rfl
  · rintro ⟨h, rfl⟩
    unfold testsOf at h
    split at h <;> try contradiction
    rename_i d hnull hseq hd
    exact .type hd hnull hseq

/-- A name that breaks a rule. -/
lemma nameFault_of_readName (h : readName es key location line = .error (.violation v)) :
    ∃ r, NameFault es key r ∧ v = ⟨r, some location, line⟩ := by
  unfold readName at h
  rcases hname : (get? es key).bind nameText? with _ | _ | text <;> rw [hname] at h
  · cases h
    refine ⟨_, .type fun d text hd htext => ?_, rfl⟩
    rw [hd, Option.bind_some] at hname
    cases htext <;> cases hname
  · cases h
  · dsimp only at h
    split_ifs at h with hblank
    cases h
    obtain ⟨d, hd, htext⟩ := Option.bind_eq_some_iff.mp hname
    exact ⟨_, .blank hd (nameText_of_nameText? htext) (String.isEmpty_iff.mp hblank), rfl⟩

/-- A tag that is none breaks a rule, if it can be shown. -/
lemma not_isTagText_of_readTag {d : Document}
    (h : readTag root key location line d = .error (.violation v)) :
    ¬ IsTagText d ∧ ∃ shown, root.show? d = some shown ∧
      v = ⟨.tag key shown, some location, line⟩ := by
  constructor
  · intro htag
    obtain ⟨tag, htag⟩ := isTagText_iff.mp htag
    rw [readTag_eq_ok_iff.mpr htag] at h
    cases h
  · rcases hshow : root.show? d with _ | shown
    · rw [readTag_eq_noText_iff.mpr hshow] at h
      cases h
    · refine ⟨shown, rfl, ?_⟩
      simp only [readTag, hshow] at h
      split at h
      · split_ifs at h
        cases h
        rfl
      · cases h
        rfl

/-- Tags that break a rule. -/
lemma tagsFault_of_readTags (h : readTags root es key location line = .error (.violation v)) :
    ∃ r, TagsFault root es key r ∧ v = ⟨r, some location, line⟩ := by
  unfold readTags at h
  split at h
  · cases h
  · cases h
  · rename_i s hs
    rw [map_eq_error_iff] at h
    obtain ⟨hbad, shown, hshow, rfl⟩ := not_isTagText_of_readTag h
    exact ⟨_, .tag (Or.inl ⟨s, hs, List.nil_append _⟩) (by simp) hbad hshow, rfl⟩
  · rename_i tline items hseq
    rw [map_eq_error_iff, mapM_eq_error_iff] at h
    obtain ⟨before, d, after, rfl, hbefore, hd⟩ := h
    obtain ⟨hbad, shown, hshow, rfl⟩ := not_isTagText_of_readTag hd
    refine ⟨_, .tag (Or.inr ⟨tline, hseq⟩) (fun b hb => ?_) hbad hshow, rfl⟩
    obtain ⟨tag, htag⟩ := hbefore b hb
    exact isTagText_iff.mpr ⟨tag, readTag_eq_ok_iff.mp htag⟩
  · rename_i d hnull hstr hseq hd
    cases h
    refine ⟨_, .type hd hnull ?_, rfl⟩
    rintro tags (⟨s, hs, -⟩ | ⟨tline, hs⟩)
    · exact hstr s (Option.some.inj (hd.symm.trans hs))
    · exact hseq tline tags (Option.some.inj (hd.symm.trans hs))

lemma not_tagsFault_of_readTags {tags : List String}
    (h : readTags root es key location line = .ok tags) : ¬ TagsFault root es key r :=
  not_tagsFault (IsTagged.tagsAllowed ⟨tags, readTags_eq_ok_iff.mp h⟩)

lemma not_nameFault_of_readName {name : String}
    (h : readName es key location line = .ok name) : ¬ NameFault es key r :=
  not_nameFault (readName_eq_ok_iff.mp h).hasName

/-- A list of tests that is none breaks a rule. -/
lemma testsFault_of_checkTests {α : Type} {m : Mapping}
    (h : (checkTests m location : Walk α).failure = some (.violation v)) :
    ∃ r, TestsFault m.entries r ∧ v = ⟨r, some location, m.line⟩ := by
  unfold checkTests at h
  split at h
  · rename_i hmalformed
    cases h
    exact ⟨_, testsFault_iff.mpr ⟨hmalformed, rfl⟩, rfl⟩
  · cases h

/-! ### The rules of a mapping -/

/-- The rules that an entry of a list of tests breaks, with their ranks. -/
inductive EntryFault (root : Mapping) (es : Entries) : Nat → Rule → Prop
  | nameless : hasKey es "suite" = false → hasKey es "name" = false →
      EntryFault root es 0 .entryNameless
  | tags {r : Rule} : TagsFault root es "tags" r → EntryFault root es 1 r
  | required {r : Rule} : TagsFault root es "required_tags" r → EntryFault root es 2 r
  | name {r : Rule} : NameFault es (nameKey es) r → EntryFault root es 3 r
  | tests {r : Rule} : hasKey es "suite" = true → TestsFault es r → EntryFault root es 4 r

/-- The rules that the root breaks, with their ranks. -/
inductive RootFault (root : Mapping) : Nat → Rule → Prop
  | name {r : Rule} : hasKey root.entries "suite" = true → NameFault root.entries "suite" r →
      RootFault root 0 r
  | tags {r : Rule} : TagsFault root root.entries "tags" r → RootFault root 1 r
  | required {r : Rule} : TagsFault root root.entries "required_tags" r → RootFault root 2 r
  | tests {r : Rule} : TestsFault root.entries r → RootFault root 3 r

/-- At each rank at most one rule is broken. -/
lemma EntryFault.unique {rank : Nat} {r' : Rule} (h : EntryFault root es rank r)
    (h' : EntryFault root es rank r') : r = r' := by
  rcases h with _ | h | h | h | ⟨-, h⟩ <;> rcases h' with _ | h' | h' | h' | ⟨-, h'⟩
  · rfl
  · exact h.unique h'
  · exact h.unique h'
  · exact h.unique h'
  · exact (testsFault_iff.mp h).2.trans (testsFault_iff.mp h').2.symm

lemma RootFault.unique {rank : Nat} {r' : Rule} (h : RootFault root rank r)
    (h' : RootFault root rank r') : r = r' := by
  rcases h with ⟨-, h⟩ | h | h | h <;> rcases h' with ⟨-, h'⟩ | h' | h' | h'
  · exact h.unique h'
  · exact h.unique h'
  · exact h.unique h'
  · exact (testsFault_iff.mp h).2.trans (testsFault_iff.mp h').2.symm

/-- The broken rule of the least rank. -/
def IsFirst (broken : Nat → Rule → Prop) (rank : Nat) (r : Rule) : Prop :=
  broken rank r ∧ ∀ rank' r', broken rank' r' → rank ≤ rank'

lemma IsNamed.exists_hasName (h : IsNamed es) : ∃ name, HasName es (nameKey es) name :=
  h.imp fun _ hname => hname.hasName

/-- The first rule that an entry breaks is the one that the step over tests names. -/
lemma isFirst_of_testsOfEntry {i : Inherited}
    (h : (testsOfEntry root es line i fun _ => checkTests ⟨line, es⟩ i.location).failure =
      some (.violation v)) :
    ∃ rank r, IsFirst (EntryFault root es) rank r ∧ v = ⟨r, some i.location, line⟩ := by
  unfold testsOfEntry at h
  by_cases hkeys : hasKey es "suite" = false ∧ hasKey es "name" = false
  · rw [if_pos (by simp [hkeys])] at h
    cases h
    exact ⟨0, _, ⟨.nameless hkeys.1 hkeys.2, fun _ _ _ => Nat.zero_le _⟩, rfl⟩
  -- Each check that is passed raises the least rank at which a rule may be broken.
  have hone : ∀ rank r, EntryFault root es rank r → 1 ≤ rank := by
    intro rank r hr
    cases hr with
    | nameless hs hn => exact absurd ⟨hs, hn⟩ hkeys
    | _ => omega
  rw [if_neg (by simpa using hkeys), Walk.failure_after_eq_some_iff] at h
  rcases h with h | ⟨tags, htags, h⟩
  · obtain ⟨r, hr, rfl⟩ := tagsFault_of_readTags h
    exact ⟨1, r, ⟨.tags hr, hone⟩, rfl⟩
  have htwo : ∀ rank r, EntryFault root es rank r → 2 ≤ rank := by
    intro rank r hr
    have := hone rank r hr
    cases hr with
    | tags hr => exact absurd hr (not_tagsFault_of_readTags htags)
    | _ => omega
  rw [Walk.failure_after_eq_some_iff] at h
  rcases h with h | ⟨required, hrequired, h⟩
  · obtain ⟨r, hr, rfl⟩ := tagsFault_of_readTags h
    exact ⟨2, r, ⟨.required hr, htwo⟩, rfl⟩
  have hthree : ∀ rank r, EntryFault root es rank r → 3 ≤ rank := by
    intro rank r hr
    have := htwo rank r hr
    cases hr with
    | required hr => exact absurd hr (not_tagsFault_of_readTags hrequired)
    | _ => omega
  dsimp only at h
  split_ifs at h with hsuite
  · have hkey : nameKey es = "suite" := if_pos hsuite
    rw [Walk.failure_after_eq_some_iff] at h
    rcases h with h | ⟨name, hname, h⟩
    · obtain ⟨r, hr, rfl⟩ := nameFault_of_readName h
      exact ⟨3, r, ⟨.name (hkey ▸ hr), hthree⟩, rfl⟩
    obtain ⟨r, hr, rfl⟩ := testsFault_of_checkTests h
    refine ⟨4, r, ⟨.tests hsuite hr, fun rank r hr => ?_⟩, rfl⟩
    have := hthree rank r hr
    cases hr with
    | name hr => exact absurd (hkey ▸ hr) (not_nameFault_of_readName hname)
    | _ => omega
  · have hkey : nameKey es = "name" := if_neg hsuite
    unfold testOf at h
    rw [Walk.failure_after_eq_some_iff] at h
    rcases h with h | ⟨name, hname, h⟩
    · obtain ⟨r, hr, rfl⟩ := nameFault_of_readName h
      exact ⟨3, r, ⟨.name (hkey ▸ hr), hthree⟩, rfl⟩
    · cases h

/-- An entry that the step over tests passes breaks no rule. -/
lemma not_entryFault (htags : IsTagged es "tags") (hrequired : IsTagged es "required_tags")
    (hname : IsNamed es) (htests : hasKey es "suite" = true → testsOf es ≠ .malformed)
    {rank : Nat} : ¬ EntryFault root es rank r := by
  rintro (⟨hs, hn⟩ | h | h | h | ⟨hs, h⟩)
  · exact not_isNamed_of_nameless hs hn hname
  · exact not_tagsFault htags.tagsAllowed h
  · exact not_tagsFault hrequired.tagsAllowed h
  · exact hname.exists_hasName.elim fun _ hname => not_nameFault hname h
  · exact htests hs (testsFault_iff.mp h).1

/-- The first rule that the root breaks is the one that is named where nothing is handed down. -/
lemma isFirst_of_readBase (h : root.readBase = .error (.violation v)) :
    ∃ rank r, IsFirst (RootFault root) rank r ∧ v = ⟨r, some [], root.line⟩ := by
  unfold Mapping.readBase at h
  rw [bind_eq_error_iff] at h
  rcases h with h | ⟨titles, htitles, h⟩
  · split_ifs at h with hsuite
    obtain ⟨r, hr, rfl⟩ := nameFault_of_readName (map_eq_error_iff.mp h)
    exact ⟨0, r, ⟨.name hsuite hr, fun _ _ _ => Nat.zero_le _⟩, rfl⟩
  have hone : ∀ rank r, RootFault root rank r → 1 ≤ rank := by
    intro rank r hr
    cases hr with
    | name hsuite hr =>
      rw [if_pos hsuite, map_eq_ok_iff] at htitles
      obtain ⟨name, hname, -⟩ := htitles
      exact absurd hr (not_nameFault_of_readName hname)
    | _ => omega
  rw [bind_eq_error_iff] at h
  rcases h with h | ⟨tags, htags, h⟩
  · obtain ⟨r, hr, rfl⟩ := tagsFault_of_readTags h
    exact ⟨1, r, ⟨.tags hr, hone⟩, rfl⟩
  have htwo : ∀ rank r, RootFault root rank r → 2 ≤ rank := by
    intro rank r hr
    have := hone rank r hr
    cases hr with
    | tags hr => exact absurd hr (not_tagsFault_of_readTags htags)
    | _ => omega
  rw [bind_eq_error_iff] at h
  rcases h with h | ⟨required, hrequired, h⟩
  · obtain ⟨r, hr, rfl⟩ := tagsFault_of_readTags h
    exact ⟨2, r, ⟨.required hr, htwo⟩, rfl⟩
  · cases h

/-- Where the root hands down what it has, at most its tests break a rule. -/
lemma Mapping.HasBase.testsFault {rank : Nat} (h : root.HasBase) (hr : RootFault root rank r) :
    rank = 3 ∧ TestsFault root.entries r := by
  cases hr with
  | name hsuite hr =>
    obtain ⟨name, hname⟩ := h.own hsuite
    exact absurd hr (not_nameFault hname.hasName)
  | tags hr => exact absurd hr (not_tagsFault h.tags.tagsAllowed)
  | required hr => exact absurd hr (not_tagsFault h.required.tagsAllowed)
  | tests hr => exact ⟨rfl, hr⟩

end Sieve.Spec
