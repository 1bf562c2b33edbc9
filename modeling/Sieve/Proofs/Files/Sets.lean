import Sieve.Proofs.Files.Glob

/-!
Searches as sets.

A search finds the files that one of its patterns names and that no other pattern leaves out. So the
files of more patterns are the union of theirs, what is left by more patterns of what is left out is
the intersection of what they leave, and neither order nor repetition of patterns counts.
-/

namespace Sieve.Files.Search

variable {t : Tree} {folder p : Path} {P Q X Y : List String} {l m n : List Path} {x : String}
  {excludes : List Exclude} {s : Search}

/-- The files that a search finds. -/
def found (t : Tree) (folder : Path) (patterns excludes : List String) :
    Except ExcludeFault (List Path) :=
  ((Search.mk patterns folder excludes).run t).map Discovery.files

/-- Some pattern names the path. -/
def IsNamed (t : Tree) (folder : Path) (patterns : List String) (p : Path) : Prop :=
  ∃ x ∈ patterns, p ∈ (Glob.ofText x).files t folder

/-- A pattern of what is left out can be read, or is ignored. -/
def IsReadable (folder : Path) (x : String) : Prop :=
  ∀ q, fromFolder? folder x = some q → ∃ e, Exclude.ofLine? ("/" ++ q) = .ok e

/-- The pattern leaves out the path. -/
def LeavesOut (folder : Path) (x : String) (p : Path) : Prop :=
  ∃ q e names, fromFolder? folder x = some q ∧ Exclude.ofLine? ("/" ++ q) = .ok (some e) ∧
    p.relativeTo? folder = some names ∧ e.leavesOut names = true

/-! ### What is left out -/

lemma excluded?_eq_ok_iff : s.excluded? = .ok excludes ↔
    ∃ read, (s.excludes.filterMap (fromFolder? s.folder)).mapM
      (fun q => Exclude.ofLine? ("/" ++ q)) = .ok read ∧ excludes = read.filterMap id := by
  have hmap : s.excluded? = ((s.excludes.filterMap (fromFolder? s.folder)).mapM
      fun q => Exclude.ofLine? ("/" ++ q)).map fun read => read.filterMap id := by
    unfold excluded?
    rcases (s.excludes.filterMap (fromFolder? s.folder)).mapM
      (fun q => Exclude.ofLine? ("/" ++ q)) with e | read <;> rfl
  rw [hmap]
  exact map_eq_ok_iff

lemma exists_excluded?_iff :
    (∃ excludes, s.excluded? = .ok excludes) ↔ ∀ x ∈ s.excludes, IsReadable s.folder x := by
  constructor
  · rintro ⟨excludes, h⟩ x hx q hq
    obtain ⟨read, hread, -⟩ := excluded?_eq_ok_iff.mp h
    rcases hline : Exclude.ofLine? ("/" ++ q) with e | e
    · obtain ⟨e', he'⟩ := (exists_mapM_eq_error_iff (f := fun q => Exclude.ofLine? ("/" ++ q))).mpr
        ⟨q, List.mem_filterMap.mpr ⟨x, hx, hq⟩, e, hline⟩
      rw [hread] at he'
      cases he'
    · exact ⟨e, rfl⟩
  · intro h
    rcases hread : (s.excludes.filterMap (fromFolder? s.folder)).mapM
      (fun q => Exclude.ofLine? ("/" ++ q)) with e | read
    · obtain ⟨q, hq, e', he'⟩ := exists_mapM_eq_error_iff.mp ⟨e, hread⟩
      obtain ⟨x, hx, hxq⟩ := List.mem_filterMap.mp hq
      obtain ⟨e, he⟩ := h x hx q hxq
      rw [he'] at he
      cases he
    · exact ⟨_, excluded?_eq_ok_iff.mpr ⟨read, hread, rfl⟩⟩

lemma isExcluded_iff (h : s.excluded? = .ok excludes) :
    isExcluded s.folder excludes p = true ↔ ∃ x ∈ s.excludes, LeavesOut s.folder x p := by
  obtain ⟨read, hread, rfl⟩ := excluded?_eq_ok_iff.mp h
  have hmem : ∀ e, e ∈ read.filterMap id ↔ ∃ x ∈ s.excludes, ∃ q,
      fromFolder? s.folder x = some q ∧ Exclude.ofLine? ("/" ++ q) = .ok (some e) := by
    intro e
    rw [List.mem_filterMap]
    simp only [id_eq, exists_eq_right, mem_iff_of_mapM hread, List.mem_filterMap]
    constructor
    · rintro ⟨q, ⟨x, hx, hq⟩, he⟩
      exact ⟨x, hx, q, hq, he⟩
    · rintro ⟨x, hx, q, hq, he⟩
      exact ⟨q, ⟨x, hx, hq⟩, he⟩
  unfold isExcluded LeavesOut
  rcases p.relativeTo? s.folder with _ | names
  · simp
  · simp only [List.any_eq_true, hmem, Option.some.injEq]
    constructor
    · rintro ⟨e, ⟨x, hx, q, hq, he⟩, hleft⟩
      exact ⟨x, hx, q, e, names, hq, he, rfl, hleft⟩
    · rintro ⟨x, hx, q, e, _, hq, he, rfl, hleft⟩
      exact ⟨e, ⟨x, hx, q, hq, he⟩, hleft⟩

/-! ### What is found -/

/-- **A search as a set**: if the patterns of what is left out can be read, it finds what is named
and not left out, in ascending order. -/
theorem found_eq_ok_iff : found t folder P X = .ok l ↔
    (∀ x ∈ X, IsReadable folder x) ∧ IsAscending l ∧
      ∀ p, p ∈ l ↔ IsNamed t folder P p ∧ ∀ x ∈ X, ¬ LeavesOut folder x p := by
  have hnamed : ∀ p, p ∈ (Search.mk P folder X).named t ↔ IsNamed t folder P p := by
    simp [named, IsNamed]
  constructor
  · intro h
    obtain ⟨d, hrun, -⟩ := map_eq_ok_iff.mp h
    obtain ⟨excludes, hexcludes, -⟩ := run_eq_ok_iff.mp hrun
    obtain ⟨hascending, hmem⟩ := (files_eq_iff hexcludes).mp h
    refine ⟨exists_excluded?_iff.mp ⟨excludes, hexcludes⟩, hascending, fun p => ?_⟩
    rw [hmem p, hnamed, ← Bool.not_eq_true, isExcluded_iff hexcludes]
    simp
  · rintro ⟨hreadable, hascending, hmem⟩
    obtain ⟨excludes, hexcludes⟩ := (exists_excluded?_iff (s := ⟨P, folder, X⟩)).mpr hreadable
    refine (files_eq_iff hexcludes).mpr ⟨hascending, fun p => ?_⟩
    rw [hmem p, hnamed, ← Bool.not_eq_true, isExcluded_iff hexcludes]
    simp

lemma exists_found_iff : (∃ l, found t folder P X = .ok l) ↔ ∀ x ∈ X, IsReadable folder x := by
  constructor
  · rintro ⟨l, h⟩
    exact (found_eq_ok_iff.mp h).1
  · intro h
    obtain ⟨excludes, hexcludes⟩ := (exists_excluded?_iff (s := ⟨P, folder, X⟩)).mpr h
    exact ⟨_, map_eq_ok_iff.mpr ⟨_, run_eq_ok_iff.mpr ⟨excludes, hexcludes, rfl⟩, rfl⟩⟩

lemma mem_found_iff (h : found t folder P X = .ok l) :
    p ∈ l ↔ IsNamed t folder P p ∧ ∀ x ∈ X, ¬ LeavesOut folder x p :=
  (found_eq_ok_iff.mp h).2.2 p

lemma isNamed_append : IsNamed t folder (P ++ Q) p ↔ IsNamed t folder P p ∨ IsNamed t folder Q p := by
  simp only [IsNamed, List.mem_append, or_and_right, exists_or]

lemma IsNamed.isFileAt (h : IsNamed t folder P p) : t.isFileAt p = true := by
  obtain ⟨x, -, hx⟩ := h
  exact (List.mem_filter.mp hx).2

lemma IsNamed.anchor_eq (h : IsNamed t folder P p) (hfolder : folder.anchor ≠ .here) :
    p.anchor = .root := by
  obtain ⟨x, -, hx⟩ := h
  obtain ⟨names, -, rfl⟩ := List.mem_map.mp (List.mem_filter.mp hx).1
  exact Path.anchor_resolve hfolder

/-- More patterns find the union. -/
theorem found_append_left_iff : found t folder (P ++ Q) X = .ok n ↔
    ∃ l m, found t folder P X = .ok l ∧ found t folder Q X = .ok m ∧ IsAscending n ∧
      ∀ p, p ∈ n ↔ p ∈ l ∨ p ∈ m := by
  constructor
  · intro h
    obtain ⟨hreadable, hascending, hmem⟩ := found_eq_ok_iff.mp h
    obtain ⟨l, hl⟩ := exists_found_iff.mpr hreadable
    obtain ⟨m, hm⟩ := exists_found_iff.mpr hreadable
    refine ⟨l, m, hl, hm, hascending, fun p => ?_⟩
    rw [hmem, mem_found_iff hl, mem_found_iff hm, isNamed_append, or_and_right]
  · rintro ⟨l, m, hl, hm, hascending, hmem⟩
    refine found_eq_ok_iff.mpr ⟨(found_eq_ok_iff.mp hl).1, hascending, fun p => ?_⟩
    rw [hmem, mem_found_iff hl, mem_found_iff hm, isNamed_append, or_and_right]

/-- More patterns of what is left out leave the intersection. -/
theorem found_append_right_iff : found t folder P (X ++ Y) = .ok n ↔
    ∃ l m, found t folder P X = .ok l ∧ found t folder P Y = .ok m ∧ IsAscending n ∧
      ∀ p, p ∈ n ↔ p ∈ l ∧ p ∈ m := by
  constructor
  · intro h
    obtain ⟨hreadable, hascending, hmem⟩ := found_eq_ok_iff.mp h
    rw [List.forall_mem_append] at hreadable
    obtain ⟨l, hl⟩ := exists_found_iff.mpr hreadable.1
    obtain ⟨m, hm⟩ := exists_found_iff.mpr hreadable.2
    refine ⟨l, m, hl, hm, hascending, fun p => ?_⟩
    rw [hmem, mem_found_iff hl, mem_found_iff hm, List.forall_mem_append, and_and_left]
  · rintro ⟨l, m, hl, hm, hascending, hmem⟩
    refine found_eq_ok_iff.mpr ⟨?_, hascending, fun p => ?_⟩
    · exact List.forall_mem_append.mpr ⟨(found_eq_ok_iff.mp hl).1, (found_eq_ok_iff.mp hm).1⟩
    · rw [hmem, mem_found_iff hl, mem_found_iff hm, List.forall_mem_append, ← and_and_left]

/-- A search is known by which patterns it has. -/
theorem found_congr (hP : ∀ x, x ∈ P ↔ x ∈ Q) (hX : ∀ x, x ∈ X ↔ x ∈ Y) :
    found t folder P X = .ok l ↔ found t folder Q Y = .ok l := by
  simp only [found_eq_ok_iff, IsNamed, hP, hX]

/-- To leave out more finds less. -/
theorem subset_of_found (hXY : X ⊆ Y) (hl : found t folder P X = .ok l)
    (hm : found t folder P Y = .ok m) : m ⊆ l := by
  intro p hp
  obtain ⟨hnamed, hleft⟩ := (mem_found_iff hm).mp hp
  exact (mem_found_iff hl).mpr ⟨hnamed, fun x hx => hleft x (hXY hx)⟩

/-- **Searches are operations on sets** of patterns: what is found are files below the root in
ascending order, more patterns find the union, more patterns of what is left out leave the
intersection and never bring a file back, and order and repetition do not count. -/
theorem searches_are_set_operations {cwd : Path} (hcwd : cwd.anchor ≠ .here) (t : Tree)
    (folder : Path) :
    (∀ P X l, found t (cwd.resolve folder) P X = .ok l →
      IsAscending l ∧ l.Nodup ∧ ∀ p ∈ l, p.anchor = .root ∧ t.isFileAt p = true) ∧
    (∀ P Q X n, found t (cwd.resolve folder) (P ++ Q) X = .ok n ↔
      ∃ l m, found t (cwd.resolve folder) P X = .ok l ∧ found t (cwd.resolve folder) Q X = .ok m ∧
        IsAscending n ∧ ∀ p, p ∈ n ↔ p ∈ l ∨ p ∈ m) ∧
    (∀ P X Y n, found t (cwd.resolve folder) P (X ++ Y) = .ok n ↔
      ∃ l m, found t (cwd.resolve folder) P X = .ok l ∧ found t (cwd.resolve folder) P Y = .ok m ∧
        IsAscending n ∧ ∀ p, p ∈ n ↔ p ∈ l ∧ p ∈ m) ∧
    (∀ P X Y l m, X ⊆ Y → found t (cwd.resolve folder) P X = .ok l →
      found t (cwd.resolve folder) P Y = .ok m → m ⊆ l) ∧
    (∀ P Q X Y l, (∀ x, x ∈ P ↔ x ∈ Q) → (∀ x, x ∈ X ↔ x ∈ Y) →
      found t (cwd.resolve folder) P X = .ok l → found t (cwd.resolve folder) Q Y = .ok l) := by
  refine ⟨fun P X l h => ?_, fun _ _ _ _ => found_append_left_iff,
    fun _ _ _ _ => found_append_right_iff, fun _ _ _ _ _ => subset_of_found,
    fun _ _ _ _ _ hP hX => (found_congr hP hX).mp⟩
  have hascending := (found_eq_ok_iff.mp h).2.1
  refine ⟨hascending, hascending.nodup, fun p hp => ?_⟩
  have hnamed := ((mem_found_iff h).mp hp).1
  exact ⟨hnamed.anchor_eq (Path.absolute_resolve hcwd), hnamed.isFileAt⟩

/-! ### Patterns with marks in front -/

lemma found_of_named {l' : List Path} (hnamed : (Search.mk P folder X).named t = l')
    (hexcludes : (Search.mk P folder X).excluded? = .ok excludes) (hascending : IsAscending l')
    (hkept : l'.filter (fun p => !isExcluded folder excludes p) = l) :
    found t folder P X = .ok l := by
  refine (files_eq_iff hexcludes).mpr ⟨hkept ▸ hascending.filter _, fun p => ?_⟩
  rw [← hkept, hnamed, List.mem_filter, Bool.not_eq_true']

/-- A folder with two files, one of which has an exclamation mark in front. -/
def markedTree : Tree := .dir [("d", .dir [("!a.yaml", .file []), ("b.yaml", .file [])])]

def markedPath : Path := ⟨.root, ["d", "!a.yaml"]⟩

def plainPath : Path := ⟨.root, ["d", "b.yaml"]⟩

lemma named_markedTree :
    (Search.mk ["*.yaml"] ⟨.root, ["d"]⟩ X).named markedTree = [markedPath, plainPath] :=
  calc (Search.mk ["*.yaml"] ⟨.root, ["d"]⟩ X).named markedTree
    _ = (Search.mk ["*.yaml"] ⟨.root, ["d"]⟩ []).named markedTree := rfl
    _ = [markedPath, plainPath] := by decide +kernel

/-- The pattern that a name without wildcards is read as. -/
def nameAlone (name : String) : Exclude := ⟨[.name (name.toList.map .char)], false⟩

lemma found_markedTree (excludes : List Exclude)
    (hx : (Search.mk ["*.yaml"] ⟨.root, ["d"]⟩ [x]).excluded? = .ok excludes)
    (hkept : [markedPath, plainPath].filter
      (fun p => !isExcluded ⟨.root, ["d"]⟩ excludes p) = l) :
    found markedTree ⟨.root, ["d"]⟩ ["*.yaml"] [x] = .ok l :=
  found_of_named named_markedTree hx (by unfold IsAscending; decide +kernel) hkept

/-- The first pattern leaves out the file with the mark and nothing else, the absolute one the other
file, and both leave nothing. -/
theorem marked_and_absolute_leave_nothing :
    found markedTree ((⟨.root, []⟩ : Path).resolve ⟨.here, ["d"]⟩) ["*.yaml"]
      (["!a.yaml"] ++ ["/d/./b.yaml"]) = .ok [] := by
  have hmarked : found markedTree ⟨.root, ["d"]⟩ ["*.yaml"] ["!a.yaml"] = .ok [plainPath] :=
    found_markedTree [nameAlone "!a.yaml"] (eq_ok_of_toOption (by decide +kernel)) (by decide +kernel)
  have hplain : found markedTree ⟨.root, ["d"]⟩ ["*.yaml"] ["/d/./b.yaml"] = .ok [markedPath] :=
    found_markedTree [nameAlone "b.yaml"] (eq_ok_of_toOption (by decide +kernel)) (by decide +kernel)
  refine ((searches_are_set_operations (by decide) markedTree ⟨.here, ["d"]⟩).2.2.1 _ _ _ _).mpr
    ⟨_, _, hmarked, hplain, List.Pairwise.nil, ?_⟩
  simp [markedPath, plainPath]

end Sieve.Files.Search
