import Sieve.Proofs.Files.Exclude

/-!
How lines are read as patterns of what is left out.

Blanks at the end of a line go, and the rest is cut at its slashes. Names that no file may have stay
as segments, and a slash at the end becomes a segment of any depth.
-/

namespace Sieve.Files

/-- The pattern is made of names that files may have, with slashes between them. -/
def IsSpelled (p : String) : Prop := ∀ n ∈ Text.pieces '/' p, IsName n

instance (p : String) : Decidable (IsSpelled p) :=
  inferInstanceAs (Decidable (∀ n ∈ Text.pieces '/' p, IsName n))

/-- Some name in the pattern is none that a file may have: one of dots, or an empty one with
something behind it. -/
def HasIdleName (p : String) : Prop :=
  ∃ before n after, Text.pieces '/' p = before ++ n :: after ∧ ¬ IsName n ∧ (n = "" → after ≠ [])

lemma splitOn_slash_end {r : String} :
    Text.splitOn '/' (r ++ "/").toList = Text.splitOn '/' r.toList ++ [[]] := by
  rw [String.toList_append]
  exact Text.splitOn_append_sep _ _

namespace Exclude

variable {p line : String} {l last : List Char} {init : List (List Char)} {e : Exclude}
  {ws : List Wild} {segments rest : List ExcludeSegment}

lemma ofLine?_eq_iff :
    ofLine? line = .ok (some e) ↔ stripped line ≠ ['/'] ∧
      ∃ segments, (segmentTexts (stripped line)).1.mapM segmentOf? = some segments ∧
        backward 1 false (collapse segments) = none ∧
        ⟨collapse segments, (segmentTexts (stripped line)).2⟩ = e := by
  unfold ofLine?
  simp only
  split_ifs with hslash
  · simp [hslash]
  · rcases (segmentTexts (stripped line)).1.mapM segmentOf? with _ | segments
    · simp
    · rcases hback : backward 1 false (collapse segments) with _ | f <;> simp [hslash, hback]

/-! ### Blanks and slashes at the end -/

lemma stripped_slash (p : String) :
    ∃ kept blanks, p.toList = kept ++ blanks ∧ (∀ c ∈ blanks, Text.isBlank c = true) ∧
      stripped ("/" ++ p) = '/' :: kept := by
  have hline : ("/" ++ p).toList = '/' :: p.toList := String.toList_append
  have hslash : Text.isBlank '/' = false := by decide
  unfold stripped
  simp only [hline]
  split_ifs
  · exact ⟨p.toList, [], (List.append_nil _).symm, List.forall_mem_nil _,
      List.dropWhile_cons_of_neg (by simp [hslash])⟩
  · obtain ⟨blanks, hp, hblanks⟩ := Text.exists_rdropWhile_append Text.isBlank p.toList
    refine ⟨_, blanks, hp, hblanks, Text.trim_eq_iff.mpr ⟨⟨[], blanks, ?_, by simp, hblanks⟩, ?_, ?_⟩⟩
    · rw [List.nil_append, List.cons_append, ← hp]
    · simp [hslash]
    · intro c hc
      rcases hkept : p.toList.rdropWhile Text.isBlank with _ | ⟨d, kept⟩
      · rw [hkept, List.getLast?_singleton, Option.mem_some_iff] at hc
        rw [← hc, hslash]
      · rw [hkept, List.getLast?_cons_cons, ← hkept] at hc
        exact Text.last_rdropWhile hc

lemma stripped_of_last (h : ∀ c ∈ p.toList.getLast?, Text.isBlank c = false) :
    stripped ("/" ++ p) = '/' :: p.toList := by
  obtain ⟨kept, blanks, hp, hblanks, hstripped⟩ := stripped_slash p
  rcases blanks.eq_nil_or_concat with rfl | ⟨blanks, c, rfl⟩
  · rw [hstripped, hp, List.append_nil]
  · have hc := h c (by rw [hp]; simp)
    rw [hblanks c (by simp)] at hc
    cases hc

lemma segmentTexts_slash (h : Text.splitOn '/' l = init ++ [last]) :
    segmentTexts ('/' :: l) =
      if init ≠ [] ∧ last = [] then (init.map String.ofList ++ ["**"], true)
      else ((init ++ [last]).map String.ofList, false) := by
  have hlength : 1 < ((init ++ [last]).map String.ofList).length ↔ init ≠ [] := by
    rw [← List.length_pos_iff]
    simp
  have hlast : ((init ++ [last]).map String.ofList).getLast? = some "" ↔ last = [] := by
    simp
  unfold segmentTexts
  simp only [List.drop_succ_cons, List.drop_zero, h, Bool.and_eq_true, decide_eq_true_eq, hlength,
    hlast]
  split_ifs
  · simp
  · rfl

/-! ### Segments one by one -/

lemma collapse_append_name :
    collapse (segments ++ .name ws :: rest) = collapse segments ++ .name ws :: collapse rest := by
  induction segments using collapse.induct with
  | case1 l ih => simpa only [List.cons_append, collapse] using ih
  | case2 s l h ih =>
    have hdeep : ∀ r, s = .anyDepth → l ++ .name ws :: rest ≠ .anyDepth :: r := by
      rintro r hs hl
      rcases l with _ | ⟨s', l⟩
      · cases hl
      · exact h l hs (by rw [(List.cons_eq_cons.mp hl).1])
    rw [List.cons_append, collapse, ih, collapse]
    · rfl
    · exact h
    · exact hdeep
  | case3 =>
    rw [List.nil_append, collapse, collapse, List.nil_append]
    nofun

lemma backward_anyDepth_end (place : Nat) (slashed : Bool) :
    backward place slashed (segments ++ [.anyDepth]) = backward place slashed segments := by
  induction segments generalizing place slashed with
  | nil => rfl
  | cons s segments ih =>
    cases s <;> simp only [List.cons_append, backward, ih]

lemma mapM_segmentOf?_append {xs ys : List String} :
    (xs ++ ys).mapM segmentOf? = some segments ↔
      ∃ a b, xs.mapM segmentOf? = some a ∧ ys.mapM segmentOf? = some b ∧ a ++ b = segments := by
  rw [List.mapM_append]
  simp [Option.bind_eq_some_iff]

lemma mapM_segmentOf?_cons {x : String} {ys : List String} :
    (x :: ys).mapM segmentOf? = some segments ↔
      ∃ a b, segmentOf? x = some a ∧ ys.mapM segmentOf? = some b ∧ a :: b = segments := by
  rw [List.mapM_cons]
  simp [Option.bind_eq_some_iff]

/-! ### Names that no file may have -/

lemma eq_dots_of_not_isName {n : String} (hn : ¬ IsName n) (hslash : '/' ∉ n.toList) :
    n = "" ∨ n = "." ∨ n = ".." := by
  unfold IsName at hn
  tauto

lemma segmentOf?_of_not_isName {n : String} (hn : ¬ IsName n) (hslash : '/' ∉ n.toList) :
    segmentOf? n = some (.name (n.toList.map .char)) := by
  rcases eq_dots_of_not_isName hn hslash with rfl | rfl | rfl <;> rfl

lemma slash_notMem_of_pieces {before after : List String} {n : String}
    (h : Text.pieces '/' p = before ++ n :: after) : '/' ∉ n.toList := by
  have hmem : n ∈ Text.pieces '/' p := by
    rw [h]
    simp
  obtain ⟨l, hl, rfl⟩ := List.mem_map.mp hmem
  rw [String.toList_ofList]
  exact (Text.mem_splitOn_iff.mp hl).1

/-- Such a name stays when the blanks at the end go. -/
lemma hasIdleName_of_blanks {kept blanks : List Char} (h : HasIdleName p)
    (hp : p.toList = kept ++ blanks) (hblanks : ∀ c ∈ blanks, Text.isBlank c = true) :
    HasIdleName (String.ofList kept) := by
  obtain ⟨before, n, after, hpieces, hn, hafter⟩ := h
  have hslash : '/' ∉ n.toList := slash_notMem_of_pieces hpieces
  have hnoslash : '/' ∉ blanks := fun hmem => absurd (hblanks _ hmem) (by decide)
  obtain ⟨init, last, hkept, hcut⟩ := Text.splitOn_append_of_not_mem (l := kept) hnoslash
  rw [Text.pieces, hp, hcut, List.map_append, List.map_singleton] at hpieces
  unfold HasIdleName Text.pieces
  rw [String.toList_ofList, hkept, List.map_append, List.map_singleton]
  rcases after.eq_nil_or_concat' with rfl | ⟨after, z, rfl⟩
  · -- The name stands last: its dot is no blank, so nothing behind it is cut off.
    obtain ⟨rfl, hlast⟩ := List.append_inj' hpieces rfl
    have hdot : n.toList.getLast? = some '.' := by
      rcases eq_dots_of_not_isName hn hslash with rfl | rfl | rfl
      · exact absurd rfl (hafter rfl)
      · rfl
      · rfl
    have hjoin : n.toList = last ++ blanks := by
      rw [← (List.cons_eq_cons.mp hlast).1, String.toList_ofList]
    obtain rfl : blanks = [] := by
      rcases blanks.eq_nil_or_concat' with rfl | ⟨blanks, c, rfl⟩
      · rfl
      · rw [hjoin, ← List.append_assoc, List.getLast?_concat, Option.some.injEq] at hdot
        exact absurd (hblanks '.' (by simp [hdot])) (by decide)
    refine ⟨init.map String.ofList, n, [], ?_, hn, hafter⟩
    rw [List.append_nil] at hlast
    rw [hlast]
  · rw [← List.cons_append, ← List.append_assoc] at hpieces
    obtain ⟨hinit, -⟩ := List.append_inj' hpieces rfl
    refine ⟨before, n, after ++ [String.ofList last], ?_, hn, fun _ => by simp⟩
    rw [hinit, List.append_assoc, List.cons_append]

/-- Such a name stays when the line is cut. -/
lemma exists_segmentTexts_eq (h : HasIdleName (String.ofList l)) :
    ∃ before n after, (segmentTexts ('/' :: l)).1 = before ++ n :: after ∧ ¬ IsName n ∧
      '/' ∉ n.toList := by
  obtain ⟨before, n, after, hpieces, hn, hafter⟩ := h
  have hslash : '/' ∉ n.toList := slash_notMem_of_pieces hpieces
  rw [Text.pieces, String.toList_ofList] at hpieces
  obtain ⟨init, last, hcut, -⟩ := Text.splitOn_append_of_not_mem (l := l) (List.not_mem_nil (a := '/'))
  rw [segmentTexts_slash hcut]
  rw [hcut, List.map_append, List.map_singleton] at hpieces
  split_ifs with hend
  · -- The empty piece at the end is replaced, and it is not the name.
    rcases after.eq_nil_or_concat' with rfl | ⟨after, z, rfl⟩
    · obtain ⟨-, hlast⟩ := List.append_inj' hpieces rfl
      rw [hend.2] at hlast
      exact absurd rfl (hafter (List.cons_eq_cons.mp hlast).1.symm)
    · rw [← List.cons_append, ← List.append_assoc] at hpieces
      obtain ⟨hinit, -⟩ := List.append_inj' hpieces rfl
      refine ⟨before, n, after ++ ["**"], ?_, hn, hslash⟩
      rw [hinit, List.append_assoc, List.cons_append]
  · exact ⟨before, n, after, by simpa using hpieces, hn, hslash⟩

/-- **A name that no file may have** is read as one. -/
theorem isIdle_of_hasIdleName (hp : HasIdleName p) (h : ofLine? ("/" ++ p) = .ok (some e)) :
    IsIdle e.segments := by
  obtain ⟨kept, blanks, hkept, hblanks, hstripped⟩ := stripped_slash p
  obtain ⟨before, n, after, htexts, hn, hslash⟩ :=
    exists_segmentTexts_eq (hasIdleName_of_blanks hp hkept hblanks)
  obtain ⟨-, segments, hsegments, -, rfl⟩ := ofLine?_eq_iff.mp h
  rw [hstripped, htexts] at hsegments
  obtain ⟨a, _, -, hrest, rfl⟩ := mapM_segmentOf?_append.mp hsegments
  obtain ⟨s, b, hs, -, rfl⟩ := mapM_segmentOf?_cons.mp hrest
  rw [segmentOf?_of_not_isName hn hslash, Option.some.injEq] at hs
  subst hs
  exact ⟨collapse a, n, collapse b, collapse_append_name, hn, hslash⟩

/-! ### A slash at the end -/

/-- The pattern ends in a name that is read as it stands: not in a blank, which would go, and not in
any depth. -/
structure EndsInName (r : String) : Prop where
  spelled : IsSpelled r
  no_blank : ∀ c ∈ r.toList.getLast?, Text.isBlank c = false
  no_depth : (Text.pieces '/' r).getLast? ≠ some "**"

section EndsInName

variable {r : String} {init : List ExcludeSegment}

lemma EndsInName.exists_splitOn (hr : EndsInName r) :
    ∃ texts last, Text.splitOn '/' r.toList = texts ++ [last] ∧ last ≠ [] ∧
      String.ofList last ≠ "**" := by
  obtain ⟨texts, last, hcut, -⟩ :=
    Text.splitOn_append_of_not_mem (l := r.toList) (List.not_mem_nil (a := '/'))
  have hpieces : Text.pieces '/' r = texts.map String.ofList ++ [String.ofList last] := by
    rw [Text.pieces, hcut, List.map_append, List.map_singleton]
  refine ⟨texts, last, hcut, ?_, ?_⟩
  · rintro rfl
    exact (hr.spelled "" (by rw [hpieces]; simp)).1 rfl
  · intro hdeep
    exact hr.no_depth (by rw [hpieces, hdeep, List.getLast?_concat])

lemma exists_name_of_segmentOf? {n : String} {s : ExcludeSegment} (hn : n ≠ "**")
    (h : segmentOf? n = some s) : ∃ ws, s = .name ws := by
  unfold segmentOf? at h
  rw [if_neg hn] at h
  split_ifs at h
  · exact ⟨_, (Option.some.inj h).symm⟩
  · obtain ⟨ws, -, rfl⟩ := Option.map_eq_some_iff.mp h
    exact ⟨ws, rfl⟩

/-- The last of the segments is a name. -/
lemma EndsInName.exists_segments (hr : EndsInName r)
    (h : (Text.pieces '/' r).mapM segmentOf? = some segments) :
    ∃ init ws, segments = init ++ [.name ws] := by
  obtain ⟨texts, last, hcut, -, hdeep⟩ := hr.exists_splitOn
  rw [Text.pieces, hcut, List.map_append, List.map_singleton] at h
  obtain ⟨init, _, -, hlast, rfl⟩ := mapM_segmentOf?_append.mp h
  obtain ⟨s, _, hs, hnil, rfl⟩ := mapM_segmentOf?_cons.mp hlast
  obtain ⟨ws, rfl⟩ := exists_name_of_segmentOf? hdeep hs
  obtain rfl := Option.some.inj hnil
  exact ⟨init, ws, rfl⟩

lemma EndsInName.ofLine?_iff (hr : EndsInName r) :
    ofLine? ("/" ++ r) = .ok (some e) ↔
      ∃ segments, (Text.pieces '/' r).mapM segmentOf? = some segments ∧
        backward 1 false (collapse segments) = none ∧ ⟨collapse segments, false⟩ = e := by
  obtain ⟨texts, last, hcut, hlast, -⟩ := hr.exists_splitOn
  have hne : '/' :: r.toList ≠ ['/'] := by
    intro h
    rw [(List.cons_eq_cons.mp h).2] at hcut
    have hempty : [] ++ [[]] = texts ++ [last] := hcut
    exact hlast (List.cons_eq_cons.mp (List.append_inj' hempty rfl).2).1.symm
  rw [ofLine?_eq_iff, stripped_of_last hr.no_blank, segmentTexts_slash hcut,
    if_neg (fun h => hlast h.2), ← hcut]
  simp [hne, Text.pieces]

lemma ofLine?_slash_iff :
    ofLine? ("/" ++ (r ++ "/")) = .ok (some e) ↔
      ∃ segments, (Text.pieces '/' r).mapM segmentOf? = some segments ∧
        backward 1 false (collapse (segments ++ [.anyDepth])) = none ∧
        ⟨collapse (segments ++ [.anyDepth]), true⟩ = e := by
  have hline : (r ++ "/").toList = r.toList ++ ['/'] := String.toList_append
  have hne : '/' :: (r ++ "/").toList ≠ ['/'] := by
    rw [hline]
    simp
  have hdeep : ["**"].mapM segmentOf? = some [.anyDepth] := rfl
  rw [ofLine?_eq_iff, stripped_of_last (by rw [hline]; simp; decide), segmentTexts_slash splitOn_slash_end,
    if_pos ⟨Text.splitOn_ne_nil _ _, rfl⟩]
  simp only [ne_eq, hne, not_false_eq_true, true_and, mapM_segmentOf?_append, hdeep]
  constructor
  · rintro ⟨_, ⟨a, b, ha, hb, rfl⟩, hback, he⟩
    obtain rfl := Option.some.inj hb
    exact ⟨a, ha, hback, he⟩
  · rintro ⟨a, ha, hback, he⟩
    exact ⟨_, ⟨a, _, ha, rfl, rfl⟩, hback, he⟩

lemma EndsInName.exists_init (hr : EndsInName r) (h : ofLine? ("/" ++ r) = .ok (some e)) :
    ∃ init ws, e = ⟨init ++ [.name ws], false⟩ := by
  obtain ⟨segments, hsegments, -, rfl⟩ := hr.ofLine?_iff.mp h
  obtain ⟨init, ws, rfl⟩ := hr.exists_segments hsegments
  exact ⟨collapse init, ws, by rw [collapse_append_name]; rfl⟩

/-- **A slash behind a name** adds a segment of any depth. -/
theorem EndsInName.slash_iff (hr : EndsInName r) :
    ofLine? ("/" ++ (r ++ "/")) = .ok (some e) ↔
      ∃ init ws, ofLine? ("/" ++ r) = .ok (some ⟨init ++ [.name ws], false⟩) ∧
        ⟨init ++ [.name ws, .anyDepth], true⟩ = e := by
  have hcollapse : ∀ (init : List ExcludeSegment) (ws : List Wild),
      collapse (init ++ [.name ws]) = collapse init ++ [.name ws] ∧
      collapse (init ++ [.name ws] ++ [.anyDepth]) = collapse init ++ [.name ws] ++ [.anyDepth] := by
    intro init ws
    rw [List.append_assoc, List.append_assoc, List.singleton_append, collapse_append_name,
      collapse_append_name]
    exact ⟨rfl, rfl⟩
  simp only [ofLine?_slash_iff, hr.ofLine?_iff]
  constructor
  · rintro ⟨segments, hsegments, hback, rfl⟩
    obtain ⟨init, ws, rfl⟩ := hr.exists_segments hsegments
    obtain ⟨hname, hdeep⟩ := hcollapse init ws
    rw [hdeep, backward_anyDepth_end, ← hname] at hback
    refine ⟨collapse init, ws, ⟨_, hsegments, hback, by rw [hname]⟩, ?_⟩
    rw [hdeep, List.append_assoc, List.singleton_append]
  · rintro ⟨init, ws, ⟨segments, hsegments, hback, hname⟩, rfl⟩
    obtain ⟨init', ws', rfl⟩ := hr.exists_segments hsegments
    obtain ⟨hname', hdeep⟩ := hcollapse init' ws'
    refine ⟨_, hsegments, ?_, ?_⟩
    · rw [hdeep, backward_anyDepth_end, ← hname', hback]
    · rw [hdeep, ← hname', (Exclude.mk.inj hname).1, List.append_assoc, List.singleton_append]

end EndsInName

end Exclude

end Sieve.Files
