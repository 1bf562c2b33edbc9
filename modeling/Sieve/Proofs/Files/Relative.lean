import Sieve.Proofs.Files.Line
import Sieve.Proofs.Files.Sets

/-!
Relative and absolute patterns of what is left out.

An absolute pattern in the folder is resolved, and so it is read as the names that it leads to. A
relative one is read as it stands. So the two are the same for a pattern made of names alone. A
relative pattern with dots or an empty name in it leaves out nothing, whatever it leads to, and with
a slash at its end it leaves out only what lies below.
-/

namespace Sieve.Files

variable {t : Tree} {cwd folder p : Path} {f x r : String} {names P : List String}

namespace Path

/-! ### Paths behind a folder -/

lemma isAbsolute_ofText : (ofText x).isAbsolute = (x.toList.head? == some '/') := by
  unfold isAbsolute ofText
  rcases x.toList with _ | ⟨c, l⟩
  · rfl
  · by_cases hc : c = '/'
    · subst hc
      simp only [anchorOf, List.head?_cons]
      split <;> simp_all
    · simp [anchorOf, hc]

lemma relativeTo?_eq_some_iff :
    p.relativeTo? folder = some names ↔ p.anchor = folder.anchor ∧ p.parts = folder.parts ++ names := by
  unfold relativeTo?
  by_cases hanchor : p.anchor = folder.anchor
  · by_cases hstarts : folder.parts <+: p.parts
    · obtain ⟨rest, hrest⟩ := hstarts
      simp [hanchor, ← hrest]
    · have hparts : p.parts ≠ folder.parts ++ names := fun h => hstarts ⟨names, h.symm⟩
      simp [hstarts, hparts]
  · simp [hanchor]

lemma relativeTo?_eq_some_nil_iff : p.relativeTo? folder = some [] ↔ p = folder := by
  rw [relativeTo?_eq_some_iff, List.append_nil]
  constructor
  · rintro ⟨hanchor, hparts⟩
    cases p
    cases folder
    exact congrArg₂ mk hanchor hparts
  · rintro rfl
    exact ⟨rfl, rfl⟩

lemma parts_ofText_behind :
    (ofText (f ++ "/" ++ x)).parts = (ofText f).parts ++ (ofText x).parts := by
  have htext : (f ++ "/" ++ x).toList = f.toList ++ '/' :: x.toList := by
    rw [String.toList_append, String.toList_append, List.append_assoc]
    rfl
  simp only [ofText, Text.pieces, htext, Text.splitOn_append_sep, List.map_append,
    List.filter_append]

lemma resolve_of_isAbsolute (h : p.isAbsolute = true) :
    cwd.resolve p = ⟨.root, p.parts.foldl stepTo []⟩ := by
  have hjoin : cwd.join p = p := if_pos h
  have hplace : p.anchor.place = .root := by
    rcases hanchor : p.anchor
    · simp [isAbsolute, hanchor] at h
    · rfl
    · rfl
  unfold resolve absolute
  simp only [hjoin, hplace]

lemma resolve_of_relative (hroot : folder.anchor = .root)
    (hdots : ∀ n ∈ folder.parts, n ≠ "." ∧ n ≠ "..") (h : p.isAbsolute = false) :
    folder.resolve p = ⟨.root, p.parts.foldl stepTo folder.parts⟩ := by
  have hjoin : folder.join p = ⟨.root, folder.parts ++ p.parts⟩ := by
    rw [join, h, hroot]
    rfl
  unfold resolve absolute
  simp only [hjoin, List.foldl_append, foldl_stepTo hdots, List.nil_append]
  rfl

/-- An absolute text that leads to the folder. -/
structure IsTextOf (f : String) (folder : Path) : Prop where
  isAbsolute : (ofText f).isAbsolute = true
  resolve : ∀ cwd : Path, cwd.resolve (.ofText f) = folder

lemma IsTextOf.eq (h : IsTextOf f folder) : folder = ⟨.root, (ofText f).parts.foldl stepTo []⟩ :=
  (h.resolve ⟨.root, []⟩).symm.trans (resolve_of_isAbsolute h.isAbsolute)

lemma IsTextOf.ne_dots (h : IsTextOf f folder) : ∀ n ∈ folder.parts, n ≠ "." ∧ n ≠ ".." := by
  rw [← h.resolve ⟨.root, []⟩]
  exact fun _ => ne_dots_of_mem_resolve

lemma IsTextOf.isName (h : IsTextOf f folder) : ∀ n ∈ folder.parts, IsName n := by
  rw [h.eq]
  exact fun _ => isName_of_mem_foldl_stepTo (List.forall_mem_nil _)

lemma IsTextOf.resolve_relative (h : IsTextOf f folder) (hp : p.isAbsolute = false) :
    folder.resolve p = ⟨.root, p.parts.foldl stepTo folder.parts⟩ :=
  resolve_of_relative (by rw [h.eq]) h.ne_dots hp

lemma IsTextOf.isAbsolute_behind (h : IsTextOf f folder) :
    (ofText (f ++ "/" ++ x)).isAbsolute = true := by
  have hf := h.isAbsolute
  rw [isAbsolute_ofText, beq_iff_eq] at hf ⊢
  rw [String.toList_append, String.toList_append, List.head?_append, List.head?_append, hf]
  rfl

/-- A relative path leads to the same place as the path behind the text of the folder. -/
lemma IsTextOf.resolve_behind (h : IsTextOf f folder) (hx : (ofText x).isAbsolute = false) :
    folder.resolve (.ofText (f ++ "/" ++ x)) = folder.resolve (.ofText x) := by
  have hparts : folder.parts = (ofText f).parts.foldl stepTo [] := by rw [h.eq]
  rw [resolve_of_isAbsolute h.isAbsolute_behind, h.resolve_relative hx, parts_ofText_behind,
    List.foldl_append, hparts]

lemma IsTextOf.isName_of_relativeTo? (h : IsTextOf f folder) (hx : (ofText x).isAbsolute = false)
    (hnames : (folder.resolve (.ofText x)).relativeTo? folder = some names) :
    ∀ n ∈ names, IsName n := by
  intro n hn
  have hparts := (relativeTo?_eq_some_iff.mp hnames).2
  rw [h.resolve_relative hx] at hparts
  exact isName_of_mem_foldl_stepTo h.isName (hparts ▸ List.mem_append_right _ hn)

end Path

/-! ### Patterns made of names alone -/

lemma IsSpelled.exists_cons (hx : IsSpelled x) : ∃ c l, x.toList = c :: l ∧ c ≠ '/' := by
  have hempty : "" ∉ Text.pieces '/' x := fun h => (hx "" h).1 rfl
  rw [Text.pieces] at hempty
  rcases hl : x.toList with _ | ⟨c, l⟩ <;> rw [hl] at hempty
  · exact absurd List.mem_cons_self hempty
  · refine ⟨c, l, rfl, ?_⟩
    rintro rfl
    rw [Text.splitOn, if_pos rfl] at hempty
    exact hempty List.mem_cons_self

lemma IsSpelled.isAbsolute (hx : IsSpelled x) : (Path.ofText x).isAbsolute = false := by
  obtain ⟨c, l, hl, hc⟩ := hx.exists_cons
  simp [Path.isAbsolute_ofText, hl, hc]

lemma IsSpelled.isAbsolute_slash (hx : IsSpelled x) :
    (Path.ofText (x ++ "/")).isAbsolute = false := by
  obtain ⟨c, l, hl, hc⟩ := hx.exists_cons
  simp [Path.isAbsolute_ofText, hl, hc]

lemma IsSpelled.parts_ofText (hx : IsSpelled x) : (Path.ofText x).parts = Text.pieces '/' x :=
  List.filter_eq_self.mpr fun n hn => by simp [(hx n hn).1, (hx n hn).2.1]

lemma IsSpelled.text_pieces (hx : IsSpelled x) : Path.text ⟨.here, Text.pieces '/' x⟩ = x := by
  have hpieces : (Text.pieces '/' x).map String.toList = Text.splitOn '/' x.toList := by
    simp [Text.pieces, Function.comp_def]
  apply String.toList_injective
  rw [Path.toList_text_here hx (Text.pieces_ne_nil _ _), hpieces, Text.splitOn_eq, List.intercalate_splitOn]

lemma isAbsolute_text_here (hnames : ∀ n ∈ names, IsName n) :
    (Path.ofText (Path.text ⟨.here, names⟩)).isAbsolute = false := by
  by_cases hne : names = []
  · rw [hne]
    decide
  · refine IsSpelled.isAbsolute ?_
    rw [IsSpelled, Text.pieces, Path.splitOn_text_here hnames hne]
    simpa [Function.comp_def] using hnames

lemma parts_ofText_slash : (Path.ofText (x ++ "/")).parts = (Path.ofText x).parts := by
  simp only [Path.ofText, Text.pieces, splitOn_slash_end, List.map_append, List.filter_append]
  simp

namespace Search

/-! ### Patterns seen from the folder -/

lemma fromFolder?_relative (hx : (Path.ofText x).isAbsolute = false) :
    fromFolder? folder x = some x := by
  unfold fromFolder?
  simp [hx]

lemma fromFolder?_behind (hfolder : Path.IsTextOf f folder)
    (hx : (Path.ofText x).isAbsolute = false) :
    fromFolder? folder (f ++ "/" ++ x) =
      ((folder.resolve (.ofText x)).relativeTo? folder).map fun names =>
        Path.text ⟨.here, names⟩ := by
  unfold fromFolder?
  simp only [hfolder.isAbsolute_behind, if_true, hfolder.resolve_behind hx]

lemma relativeTo?_of_isSpelled (hfolder : Path.IsTextOf f folder) (hx : IsSpelled x)
    (hp : p.isAbsolute = false) (hparts : p.parts = Text.pieces '/' x) :
    (folder.resolve p).relativeTo? folder = some (Text.pieces '/' x) := by
  have hdots : ∀ n ∈ Text.pieces '/' x, n ≠ "." ∧ n ≠ ".." := fun n hn =>
    ⟨(hx n hn).2.1, (hx n hn).2.2.1⟩
  have hroot : folder.anchor = .root := by rw [hfolder.eq]
  rw [Path.relativeTo?_eq_some_iff, hfolder.resolve_relative hp, hparts, Path.foldl_stepTo hdots]
  exact ⟨hroot.symm, rfl⟩

lemma found_of_fromFolder? {y : String} (h : fromFolder? folder x = fromFolder? folder y) :
    found t folder P [x] = found t folder P [y] := by
  unfold found run excluded?
  simp only [List.filterMap_cons, h]

lemma IsNamed.isName (ht : t.isNamed = true) (h : IsNamed t folder P p) :
    ∀ n ∈ p.parts, IsName n := by
  obtain ⟨bytes, hfind⟩ := Tree.isFileAt_iff.mp h.isFileAt
  obtain ⟨x, -, hx⟩ := h
  obtain ⟨names, -, rfl⟩ := List.mem_map.mp (List.mem_filter.mp hx).1
  exact Tree.names_of_get? ht (Tree.get?_of_follow (fun _ => Path.ne_dots_of_mem_resolve) hfind)

/-- **A pattern with a name that no file may have** leaves out no file. -/
theorem not_leavesOut_of_hasIdleName (ht : t.isNamed = true) (hfolder : t.isFileAt folder = false)
    (hrel : (Path.ofText x).isAbsolute = false) (hx : HasIdleName x) (h : IsNamed t folder P p) :
    ¬ LeavesOut folder x p := by
  rintro ⟨q, e, names, hq, he, hnames, hleft⟩
  rw [fromFolder?_relative hrel, Option.some.injEq] at hq
  subst hq
  have hparts := (Path.relativeTo?_eq_some_iff.mp hnames).2
  have hne : names ≠ [] := by
    rintro rfl
    rw [← Path.relativeTo?_eq_some_nil_iff.mp hnames, h.isFileAt] at hfolder
    cases hfolder
  have hisName : ∀ n ∈ names, IsName n := fun n hn =>
    h.isName ht n (hparts ▸ List.mem_append_right _ hn)
  rw [Exclude.leavesOut_of_isIdle (Exclude.isIdle_of_hasIdleName hx he) hisName hne] at hleft
  cases hleft

/-- **A slash behind a name** leaves out the files whose directory the name leaves out. -/
theorem leavesOut_slash_iff (hr : Exclude.EndsInName r) (h : ∀ n ∈ p.parts, IsName n) :
    LeavesOut folder (r ++ "/") p ↔ p.parent ≠ folder ∧ LeavesOut folder r p.parent := by
  have hisName : ∀ {names}, p.parts = folder.parts ++ names → ∀ n ∈ names, IsName n :=
    fun hparts n hn => h n (hparts ▸ List.mem_append_right _ hn)
  constructor
  · rintro ⟨q, e, names, hq, he, hnames, hleft⟩
    rw [fromFolder?_relative hr.spelled.isAbsolute_slash, Option.some.injEq] at hq
    subst hq
    obtain ⟨init, ws, hinit, rfl⟩ := hr.slash_iff.mp he
    obtain ⟨hanchor, hparts⟩ := Path.relativeTo?_eq_some_iff.mp hnames
    obtain ⟨dir, n, rfl, hdir, hleft⟩ :=
      (Exclude.leavesOut_anyDepth_end_iff (hisName hparts)).mp hleft
    have hparent : p.parent.relativeTo? folder = some dir := by
      rw [Path.relativeTo?_eq_some_iff, Path.parent, hparts, ← List.append_assoc,
        List.dropLast_concat]
      exact ⟨hanchor, rfl⟩
    refine ⟨fun heq => hdir ?_, r, _, dir, fromFolder?_relative hr.spelled.isAbsolute, hinit,
      hparent, hleft⟩
    rw [Path.relativeTo?_eq_some_nil_iff.mpr heq] at hparent
    exact (Option.some.inj hparent).symm
  · rintro ⟨hbelow, q, e, dir, hq, he, hdir, hleft⟩
    rw [fromFolder?_relative hr.spelled.isAbsolute, Option.some.injEq] at hq
    subst hq
    obtain ⟨init, ws, rfl⟩ := hr.exists_init he
    obtain ⟨hanchor, hparent⟩ := Path.relativeTo?_eq_some_iff.mp hdir
    have hne : dir ≠ [] := by
      rintro rfl
      exact hbelow (Path.relativeTo?_eq_some_nil_iff.mp hdir)
    obtain ⟨n, hparts⟩ : ∃ n, p.parts = folder.parts ++ (dir ++ [n]) := by
      change p.parts.dropLast = folder.parts ++ dir at hparent
      rcases p.parts.eq_nil_or_concat' with hnil | ⟨dirs, n, hp⟩
      · rw [hnil] at hparent
        exact absurd (List.append_eq_nil_iff.mp hparent.symm).2 hne
      · rw [hp, List.dropLast_concat] at hparent
        exact ⟨n, by rw [hp, hparent, List.append_assoc]⟩
    exact ⟨_, _, _, fromFolder?_relative hr.spelled.isAbsolute_slash,
      hr.slash_iff.mpr ⟨init, ws, he, rfl⟩, Path.relativeTo?_eq_some_iff.mpr ⟨hanchor, hparts⟩,
      (Exclude.leavesOut_anyDepth_end_iff (hisName hparts)).mpr ⟨dir, n, rfl, hne, hleft⟩⟩

/-- **Absolute and relative patterns.** An absolute one in the folder leaves out what the names that
it leads to leave out. A relative one does the same if it is made of names alone; with dots or an
empty name in it it leaves out nothing, and with a slash behind its last name only the files whose
directory the names leave out. -/
theorem absolute_patterns_are_read_as_names (hfolder : Path.IsTextOf f folder)
    (ht : t.isNamed = true) (P : List String) :
    (∀ x, IsSpelled x → found t folder P [x] = found t folder P [f ++ "/" ++ x]) ∧
    (∀ x names, (Path.ofText x).isAbsolute = false →
      (folder.resolve (.ofText x)).relativeTo? folder = some names →
      found t folder P [f ++ "/" ++ x] = found t folder P [Path.text ⟨.here, names⟩]) ∧
    (∀ x, (Path.ofText x).isAbsolute = false → HasIdleName x → t.isFileAt folder = false →
      IsReadable folder x → found t folder P [x] = found t folder P []) ∧
    (∀ r, Exclude.EndsInName r →
      found t folder P [f ++ "/" ++ (r ++ "/")] = found t folder P [r] ∧
      ∀ l, found t folder P [r ++ "/"] = .ok l →
        ∀ p, p ∈ l ↔ IsNamed t folder P p ∧
          (p.parent = folder ∨ ¬ LeavesOut folder r p.parent)) := by
  refine ⟨fun x hx => ?_, fun x names hx hnames => ?_, fun x hrel hx hfile hreadable => ?_,
    fun r hr => ⟨?_, fun l hl p => ?_⟩⟩
  · refine found_of_fromFolder? ?_
    rw [fromFolder?_relative hx.isAbsolute, fromFolder?_behind hfolder hx.isAbsolute,
      relativeTo?_of_isSpelled hfolder hx hx.isAbsolute hx.parts_ofText, Option.map_some,
      hx.text_pieces]
  · refine found_of_fromFolder? ?_
    rw [fromFolder?_behind hfolder hx, hnames, Option.map_some,
      fromFolder?_relative (isAbsolute_text_here (hfolder.isName_of_relativeTo? hx hnames))]
  · obtain ⟨l, hl⟩ := exists_found_iff.mpr (List.forall_mem_singleton.mpr hreadable)
    rw [hl]
    refine (found_eq_ok_iff.mpr ⟨List.forall_mem_nil _, (found_eq_ok_iff.mp hl).2.1, fun p => ?_⟩).symm
    rw [mem_found_iff hl, List.forall_mem_singleton]
    refine and_congr_right fun hnamed => iff_of_true ?_ (List.forall_mem_nil _)
    exact not_leavesOut_of_hasIdleName ht hfile hrel hx hnamed
  · refine found_of_fromFolder? ?_
    rw [fromFolder?_relative hr.spelled.isAbsolute,
      fromFolder?_behind hfolder hr.spelled.isAbsolute_slash,
      relativeTo?_of_isSpelled hfolder hr.spelled hr.spelled.isAbsolute_slash
        (parts_ofText_slash.trans hr.spelled.parts_ofText), Option.map_some, hr.spelled.text_pieces]
  · rw [mem_found_iff hl, List.forall_mem_singleton]
    refine and_congr_right fun hnamed => ?_
    rw [leavesOut_slash_iff hr (hnamed.isName ht), not_and_or, ne_eq, not_not]

lemma found_behind_dot :
    found markedTree ⟨.root, ["d"]⟩ ["*.yaml"] ["./b.yaml"] = .ok [markedPath, plainPath] :=
  found_markedTree [⟨[.name [.char '.'], .name ("b.yaml".toList.map .char)], false⟩]
    (eq_ok_of_toOption (by decide +kernel)) (by decide +kernel)

/-- A name is left out behind the text of the folder too; behind a dot nothing is. -/
theorem left_out_by_a_name_not_behind_a_dot :
    found markedTree ⟨.root, ["d"]⟩ ["*.yaml"] ["/d" ++ "/" ++ "b.yaml"] = .ok [markedPath] ∧
    found markedTree ⟨.root, ["d"]⟩ ["*.yaml"] ["./b.yaml"] =
      found markedTree ⟨.root, ["d"]⟩ ["*.yaml"] [] := by
  have hfolder : Path.IsTextOf "/d" ⟨.root, ["d"]⟩ :=
    ⟨by decide, fun _ => Path.resolve_of_isAbsolute (by decide)⟩
  have hfound : found markedTree ⟨.root, ["d"]⟩ ["*.yaml"] ["b.yaml"] = .ok [markedPath] :=
    found_markedTree [nameAlone "b.yaml"] (eq_ok_of_toOption (by decide +kernel))
      (by decide +kernel)
  have hread : IsReadable ⟨.root, ["d"]⟩ "./b.yaml" :=
    exists_found_iff.mp ⟨_, found_behind_dot⟩ _ (List.mem_singleton_self _)
  obtain ⟨hspelled, -, hidle, -⟩ :=
    absolute_patterns_are_read_as_names hfolder (t := markedTree) (by decide +kernel) ["*.yaml"]
  exact ⟨(hspelled "b.yaml" (by decide)).symm.trans hfound, hidle "./b.yaml" (by decide)
    ⟨[], ".", ["b.yaml"], by decide, by decide, by decide⟩ (by decide +kernel) hread⟩

/-- A relative pattern with a dot in front does not leave out the file that it leads to. -/
theorem kept_by_a_relative_pattern :
    ((⟨.root, ["d"]⟩ : Path).resolve (.ofText "./b.yaml")).relativeTo? ⟨.root, ["d"]⟩ =
      some ["b.yaml"] ∧
    found markedTree ⟨.root, ["d"]⟩ ["*.yaml"] ["./b.yaml"] = .ok [markedPath, plainPath] ∧
    found markedTree ⟨.root, ["d"]⟩ ["*.yaml"] ["/d" ++ "/" ++ "./b.yaml"] = .ok [markedPath] := by
  have hplain : found markedTree ⟨.root, ["d"]⟩ ["*.yaml"] ["/d" ++ "/" ++ "./b.yaml"] =
      .ok [markedPath] :=
    found_markedTree [nameAlone "b.yaml"] (eq_ok_of_toOption (by decide +kernel))
      (by decide +kernel)
  exact ⟨by decide +kernel, found_behind_dot, hplain⟩

end Search

end Sieve.Files
