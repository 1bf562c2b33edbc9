import Sieve.Proofs.Files.Discovery
import Sieve.Proofs.Files.Tree

/-!
Paths read as patterns.

A path without wildcards names, as a pattern, itself and nothing else.
-/

namespace Sieve.Files

variable {t : Tree} {folder p : Path} {s : Search}

namespace Glob

/-- The path holds no wildcard. -/
def IsPlain (p : Path) : Prop := ∀ n ∈ p.parts, Wild.isWild n = false

lemma segmentOf_of_plain {n : String} (h : Wild.isWild n = false) : segmentOf n = .name n := by
  have hdeep : n ≠ "**" := by
    rintro rfl
    exact absurd h (by decide)
  rw [segmentOf, if_neg hdeep, if_neg (by simp [h])]

/-- A plain path, read as a pattern, is made of its names. -/
lemma ofText_text (h : p.IsProper) (hplain : IsPlain p) :
    ofText p.text = ⟨p.anchor, p.parts.map .name, false⟩ := by
  unfold ofText
  rw [Path.pieces_text h, Path.anchorOf_text h, Path.getLast?_text h]
  congr 1
  exact List.map_congr_left fun n hn => segmentOf_of_plain (hplain n hn)

lemma isName_map (names : List String) : ∀ s ∈ names.map Segment.name, s.isName = true := by
  simp [Segment.isName, Segment.name?]

lemma places_names {anchor : Anchor} {names : List String} :
    places t folder ⟨anchor, names.map .name, false⟩ =
      if (t.find? ((base folder ⟨anchor, names.map .name, false⟩).join ⟨.here, names⟩)).isSome
        then [names] else [] := by
  have hrest : (names.map Segment.name).dropWhile Segment.isName = [] :=
    List.dropWhile_eq_nil_iff.mpr (isName_map names)
  have hstart : start ⟨anchor, names.map .name, false⟩ = names := by
    unfold start
    rw [List.takeWhile_eq_self_iff.mpr (isName_map names), List.filterMap_map]
    exact List.filterMap_some
  unfold places
  simp only [hrest, hstart]
  rfl

lemma find?_of_isFileAt (h : t.isFileAt p = true) : (t.find? p).isSome = true := by
  obtain ⟨bytes, hfind⟩ := Tree.isFileAt_iff.mp h
  rw [Tree.find?, hfind]
  rfl

/-- **A plain path** names itself, if a file lies there, and nothing else. -/
theorem files_text (h : p.IsProper) (hplain : IsPlain p) :
    (ofText p.text).files t folder = [p].filter t.isFileAt := by
  have hbase : (base folder ⟨p.anchor, p.parts.map .name, false⟩).join ⟨.here, p.parts⟩ = p := by
    rw [base, if_neg (by simp [h.rooted])]
    rfl
  rw [ofText_text h hplain, files, places_names, hbase]
  split_ifs with hfind
  · rw [List.map_singleton, h.resolve]
  · have hfile : t.isFileAt p = false :=
      Bool.eq_false_iff.mpr fun hfile => hfind (find?_of_isFileAt hfile)
    simp [hfile]

end Glob

/-! ### What is named -/

namespace Search

lemma resolved_of_mem_named (h : p ∈ s.named t) :
    t.isFileAt p = true ∧ ∃ q, p = s.folder.resolve q := by
  obtain ⟨pattern, -, hp⟩ := List.mem_flatMap.mp h
  obtain ⟨hmap, hfile⟩ := List.mem_filter.mp hp
  obtain ⟨names, -, rfl⟩ := List.mem_map.mp hmap
  exact ⟨hfile, _, rfl⟩

lemma absolute_folderAt {cwd : Path} (h : cwd.anchor ≠ .here) :
    (folderAt cwd p).anchor ≠ .here := by
  unfold folderAt
  split_ifs
  · exact Path.absolute_join h
  · exact Path.absolute_resolve h

/-- A plain path is looked up as a whole, in no directory before it. -/
lemma isUnreachable_of_plain (h : p.IsProper) (hplain : Glob.IsPlain p) :
    isUnreachable p.text = false := by
  unfold isUnreachable
  rw [Glob.ofText_text h hplain]
  dsimp only
  rw [List.all_eq_true.mpr (Glob.isName_map p.parts)]
  rfl

/-- All that is named is a file below the root. -/
theorem isProper_of_mem_named (hdir : t.isDir = true) (ht : t.isNamed = true)
    (hfolder : s.folder.anchor ≠ .here) (h : p ∈ s.named t) : p.IsProper := by
  obtain ⟨hfile, q, rfl⟩ := resolved_of_mem_named h
  exact Tree.isProper_of_isFileAt hdir ht (Path.anchor_resolve hfolder)
    (fun _ => Path.ne_dots_of_mem_resolve) hfile

end Search

end Sieve.Files
