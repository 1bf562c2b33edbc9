import Sieve.Proofs.Files.Relative

/-!
How far down patterns of what is left out reach.

A pattern without `**` is read part by part. So it leads to places with one name for each of its
parts, or with more where a set in brackets takes a slash. What lies below such a place is left out
with it: a star stays in its directory only as long as no directory answers the pattern.
-/

namespace Sieve.Files

variable {folder p : Path} {x : String} {names : List String}

namespace Wild

variable {w : Wild} {ws : List Wild} {l : List Char}

lemma matchesAll_cons :
    matchesAll (w :: ws) l = true ↔ ∃ u v, l = u ++ v ∧ w.Spans u ∧ matchesAll ws v = true :=
  before_iff

/-- What wildcards take has no slash, if none of them takes one. -/
lemma slash_notMem_of_matchesAll (hws : ∀ w ∈ ws, w.takes '/' = false)
    (h : matchesAll ws l = true) : '/' ∉ l := by
  induction ws generalizing l with
  | nil =>
    rw [List.isEmpty_iff.mp (show l.isEmpty = true from h)]
    exact List.not_mem_nil
  | cons w ws ih =>
    obtain ⟨u, v, rfl, hu, hv⟩ := matchesAll_cons.mp h
    obtain ⟨hw, hws⟩ := List.forall_mem_cons.mp hws
    have hone : ∀ c ∈ u, w.takes c = true := by
      cases w with
      | run => exact hu
      | char | one | oneOf =>
        obtain ⟨c, rfl, hc⟩ := hu
        exact List.forall_mem_singleton.mpr hc
    rw [List.mem_append, not_or]
    refine ⟨fun hslash => ?_, ih hws hv⟩
    rw [hone '/' hslash] at hw
    cases hw

end Wild

/-! ### Pieces of names -/

section Pieces

variable {us : List (List Char)}

lemma length_splitOn_pos (l : List Char) : 0 < (Text.splitOn '/' l).length :=
  List.length_pos_of_ne_nil (Text.splitOn_ne_nil _ _)

/-- A piece with a slash in it is several names. -/
lemma one_lt_length_splitOn {l : List Char} (h : '/' ∈ l) : 1 < (Text.splitOn '/' l).length := by
  obtain ⟨a, z, rfl, -⟩ := Text.exists_eq_append_sep h
  have ha := length_splitOn_pos a
  have hz := length_splitOn_pos z
  rw [Text.splitOn_append_sep, List.length_append]
  omega

lemma length_le_length_flatMap (us : List (List Char)) :
    us.length ≤ (us.flatMap (Text.splitOn '/')).length := by
  induction us with
  | nil => exact le_refl 0
  | cons u us ih =>
    have hu := length_splitOn_pos u
    rw [List.flatMap_cons, List.length_append, List.length_cons]
    omega

/-- Pieces of which each is one name have no slash. -/
lemma slash_notMem_of_length_flatMap (h : (us.flatMap (Text.splitOn '/')).length = us.length) :
    ∀ u ∈ us, '/' ∉ u := by
  induction us with
  | nil => exact List.forall_mem_nil _
  | cons u us ih =>
    have hu := length_splitOn_pos u
    have hus := length_le_length_flatMap us
    rw [List.flatMap_cons, List.length_append, List.length_cons] at h
    refine List.forall_mem_cons.mpr ⟨fun hslash => ?_, ih (by omega)⟩
    have hslash := one_lt_length_splitOn hslash
    omega

lemma flatMap_splitOn_of_notMem (h : ∀ u ∈ us, '/' ∉ u) : us.flatMap (Text.splitOn '/') = us := by
  induction us with
  | nil => rfl
  | cons u us ih =>
    obtain ⟨hu, hus⟩ := List.forall_mem_cons.mp h
    rw [List.flatMap_cons, Text.splitOn_of_not_mem hu, ih hus]
    rfl

/-- Pieces that are joined to the text of names. -/
def Joins (us : List (List Char)) (names : List String) : Prop :=
  us ≠ [] ∧ (Path.text ⟨.here, names⟩).toList = ['/'].intercalate us

lemma Joins.flatMap_eq (h : Joins us names) (hnames : ∀ n ∈ names, IsName n) (hne : names ≠ []) :
    us.flatMap (Text.splitOn '/') = names.map String.toList := by
  rw [← Text.splitOn_join h.1, ← h.2, Path.splitOn_text_here hnames hne]

/-- There are no more pieces than names. -/
lemma Joins.length_le (h : Joins us names) (hnames : ∀ n ∈ names, IsName n) (hne : names ≠ []) :
    us.length ≤ names.length := by
  have hlength := congrArg List.length (h.flatMap_eq hnames hne)
  rw [List.length_map] at hlength
  rw [← hlength]
  exact length_le_length_flatMap us

/-- As many pieces as names are the names. -/
lemma Joins.eq_of_length (h : Joins us names) (hnames : ∀ n ∈ names, IsName n) (hne : names ≠ [])
    (hlength : names.length = us.length) : us = names.map String.toList := by
  have hflat := h.flatMap_eq hnames hne
  have hcount : (us.flatMap (Text.splitOn '/')).length = us.length := by
    rw [hflat, List.length_map, hlength]
  rw [← hflat, flatMap_splitOn_of_notMem (slash_notMem_of_length_flatMap hcount)]

/-- Pieces without a slash are the names. -/
lemma Joins.eq_of_notMem (h : Joins us names) (hnames : ∀ n ∈ names, IsName n) (hne : names ≠ [])
    (hus : ∀ u ∈ us, '/' ∉ u) : us = names.map String.toList := by
  rw [← h.flatMap_eq hnames hne, flatMap_splitOn_of_notMem hus]

lemma joins_names (hnames : ∀ n ∈ names, IsName n) (hne : names ≠ []) :
    Joins (names.map String.toList) names :=
  ⟨by simpa using hne, Path.toList_text_here hnames hne⟩

end Pieces

namespace Exclude

variable {segments : List ExcludeSegment} {l : List Char}

/-! ### Segments part by part -/

/-- The segment stands for a name, and its wildcards take the piece. -/
def Takes (s : ExcludeSegment) (u : List Char) : Prop :=
  ∃ ws, s = .name ws ∧ Wild.matchesAll ws u = true

instance (s : ExcludeSegment) (u : List Char) : Decidable (Takes s u) :=
  match s with
  | .name ws => decidable_of_iff (Wild.matchesAll ws u = true) (by simp [Takes])
  | .anyDepth => .isFalse nofun

/-- **Segments of names** lead to a head of the path that is cut into pieces, one for each. -/
theorem leadsTo_names_iff (hne : segments ≠ []) (hdeep : .anyDepth ∉ segments) :
    leadsTo segments l = true ↔
      ∃ us v, List.Forall₂ Takes segments us ∧ l = ['/'].intercalate us ++ v ∧
        (v = [] ∨ ∃ r, v = '/' :: r) := by
  induction segments generalizing l with
  | nil => exact absurd rfl hne
  | cons s rest ih =>
    rw [List.mem_cons, not_or] at hdeep
    cases s with
    | anyDepth => exact absurd rfl hdeep.1
    | name ws =>
      have htakes : ∀ u, Takes (.name ws) u ↔ Wild.matchesAll ws u = true := fun u => by
        simp [Takes]
      by_cases hrest : rest = []
      · subst hrest
        simp only [leadsTo_name_iff, List.forall₂_cons_left_iff, List.forall₂_nil_left_iff, htakes]
        constructor
        · rintro ⟨u, v, rfl, hu, hv⟩
          exact ⟨[u], v, ⟨u, [], hu, rfl, rfl⟩, by simp, hv⟩
        · rintro ⟨_, v, ⟨u, _, hu, rfl, rfl⟩, rfl, hv⟩
          exact ⟨u, v, by simp, hu, hv⟩
      · have hjoin : ∀ {us} (u : List Char), List.Forall₂ Takes rest us →
            ['/'].intercalate (u :: us) = u ++ '/' :: ['/'].intercalate us := by
          intro us u hus
          have hus : us ≠ [] := by
            rintro rfl
            exact hrest (List.forall₂_nil_right_iff.mp hus)
          obtain ⟨u', us, rfl⟩ := List.exists_cons_of_ne_nil hus
          rw [List.intercalate_cons_cons, List.append_assoc, List.singleton_append]
        simp only [leadsTo_name_cons_iff hrest, ih hrest hdeep.2, List.forall₂_cons_left_iff,
          htakes]
        constructor
        · rintro ⟨u, _, rfl, hu, us, v, hus, rfl, hv⟩
          exact ⟨u :: us, v, ⟨u, us, hu, hus, rfl⟩, by rw [hjoin u hus]; simp, hv⟩
        · rintro ⟨_, v, ⟨u, us, hu, hus, rfl⟩, rfl, hv⟩
          exact ⟨u, _, by rw [hjoin u hus]; simp, hu, us, v, hus, rfl, hv⟩

/-- **Segments of names** leave out what they lead to and all below it. -/
theorem leavesOut_names_iff (hne : segments ≠ []) (hdeep : .anyDepth ∉ segments)
    (hnames : ∀ n ∈ names, IsName n) (hnonempty : names ≠ []) :
    (⟨segments, false⟩ : Exclude).leavesOut names = true ↔
      ∃ dir below, names = dir ++ below ∧ dir ≠ [] ∧
        ∃ us, List.Forall₂ Takes segments us ∧ Joins us dir := by
  have hnot : segments ≠ [.anyDepth] := by
    rintro rfl
    exact hdeep (List.mem_singleton_self _)
  have hus : ∀ {us}, List.Forall₂ Takes segments us → us ≠ [] := by
    rintro _ h rfl
    exact hne (List.forall₂_nil_right_iff.mp h)
  simp only [leavesOut, if_neg hnot, leadsTo_names_iff hne hdeep]
  constructor
  · rintro ⟨us, v, htakes, htext, rfl | ⟨r, rfl⟩⟩
    · rw [List.append_nil] at htext
      exact ⟨names, [], (List.append_nil _).symm, hnonempty, us, htakes, hus htakes, htext⟩
    · obtain ⟨dir, below, rfl, hdir, -, hjoin, -⟩ :=
        Path.exists_of_text_here_eq hnames hnonempty htext
      exact ⟨dir, below, rfl, hdir, us, htakes, hus htakes, hjoin.symm⟩
  · rintro ⟨dir, below, rfl, hdir, us, htakes, -, hjoin⟩
    refine ⟨us, ?_⟩
    by_cases hbelow : below = []
    · exact ⟨[], htakes, by rw [hbelow, List.append_nil, List.append_nil, hjoin], Or.inl rfl⟩
    · exact ⟨_, htakes, by rw [Path.toList_text_here_append hnames hdir hbelow, hjoin],
        Or.inr ⟨_, rfl⟩⟩

/-! ### Patterns part by part -/

/-- The pattern is made of names and wildcards for them: no part is any depth, and no blank stands
at the end, where it would go. -/
structure IsShallow (x : String) : Prop where
  spelled : IsSpelled x
  no_blank : ∀ c ∈ x.toList.getLast?, Text.isBlank c = false
  no_depth : "**" ∉ Text.pieces '/' x

instance (x : String) : Decidable (IsShallow x) :=
  decidable_of_iff (IsSpelled x ∧ x.toList.getLast?.all (!Text.isBlank ·) = true ∧
      "**" ∉ Text.pieces '/' x)
    ⟨fun h => ⟨h.1, by simpa [Option.all_eq_true] using h.2.1, h.2.2⟩,
      fun h => ⟨h.spelled, by simpa [Option.all_eq_true] using h.no_blank, h.no_depth⟩⟩

/-- The wildcards of a part of a pattern take the piece. -/
def Answers (part : String) (u : List Char) : Prop := ∃ s, segmentOf? part = some s ∧ Takes s u

instance (part : String) (u : List Char) : Decidable (Answers part u) :=
  inferInstanceAs (Decidable (∃ s ∈ segmentOf? part, Takes s u))

/-- The names answer the parts of the pattern one by one. -/
def AnswersByName (x : String) (names : List String) : Prop :=
  List.Forall₂ Answers (Text.pieces '/' x) (names.map String.toList)

instance (x : String) (names : List String) : Decidable (AnswersByName x names) :=
  inferInstanceAs (Decidable (List.Forall₂ _ _ _))

/-- The text of the names is cut into pieces that answer the parts of the pattern. -/
def AnswersByPiece (x : String) (names : List String) : Prop :=
  ∃ us, List.Forall₂ Answers (Text.pieces '/' x) us ∧ Joins us names

/-- No set in the pattern takes a slash. -/
def IsClosed (x : String) : Prop :=
  ∀ part ∈ Text.pieces '/' x, ∀ ws, segmentOf? part = some (.name ws) →
    ∀ w ∈ ws, w.takes '/' = false

lemma mapM_segmentOf?_iff {parts : List String} :
    parts.mapM segmentOf? = some segments ↔
      List.Forall₂ (fun part s => segmentOf? part = some s) parts segments := by
  induction parts generalizing segments with
  | nil => simp [eq_comm]
  | cons part parts ih =>
    rw [mapM_segmentOf?_cons, List.forall₂_cons_left_iff]
    simp only [ih, eq_comm]

lemma forall₂_answers_iff {parts : List String} {us : List (List Char)}
    (h : List.Forall₂ (fun part s => segmentOf? part = some s) parts segments) :
    List.Forall₂ Answers parts us ↔ List.Forall₂ Takes segments us := by
  induction h generalizing us with
  | nil => simp
  | cons hs _ ih => simp [List.forall₂_cons_left_iff, Answers, hs, ih]

lemma exists_of_forall₂ {α β : Type} {R : α → β → Prop} {l : List α} {m : List β} {b : β}
    (h : List.Forall₂ R l m) (hb : b ∈ m) : ∃ a ∈ l, R a b := by
  induction h with
  | nil => cases hb
  | @cons a b' l m hab _ ih =>
    rcases List.mem_cons.mp hb with rfl | hb
    · exact ⟨a, List.mem_cons_self, hab⟩
    · obtain ⟨a', ha', hab'⟩ := ih hb
      exact ⟨a', List.mem_cons_of_mem _ ha', hab'⟩

lemma collapse_of_notMem (h : .anyDepth ∉ segments) : collapse segments = segments := by
  induction segments with
  | nil => rfl
  | cons s segments ih =>
    rw [List.mem_cons, not_or] at h
    cases s with
    | anyDepth => exact absurd rfl h.1
    | name ws =>
      rw [collapse, ih h.2]
      rintro _ ⟨⟩

lemma ofLine?_ne_none {line : String} (h : stripped line ≠ ['/']) : ofLine? line ≠ .ok none := by
  unfold ofLine?
  simp only [if_neg h]
  rcases (segmentTexts (stripped line)).1.mapM segmentOf? with _ | segments
  · simp
  · rcases hback : backward 1 false (collapse segments) with _ | f <;> simp [hback]

lemma AnswersByName.length_eq (h : AnswersByName x names) :
    names.length = (Text.pieces '/' x).length := by
  rw [List.Forall₂.length_eq h, List.length_map]

lemma AnswersByName.ne_nil (h : AnswersByName x names) : names ≠ [] := by
  rintro rfl
  exact Text.pieces_ne_nil _ _ (List.eq_nil_of_length_eq_zero h.length_eq.symm)

section Answers

variable (hnames : ∀ n ∈ names, IsName n) (hne : names ≠ [])
include hnames hne

lemma AnswersByName.byPiece (h : AnswersByName x names) : AnswersByPiece x names :=
  ⟨_, h, joins_names hnames hne⟩

lemma AnswersByPiece.length_le (h : AnswersByPiece x names) :
    (Text.pieces '/' x).length ≤ names.length := by
  obtain ⟨us, hus, hjoin⟩ := h
  rw [hus.length_eq]
  exact hjoin.length_le hnames hne

lemma AnswersByPiece.byName (h : AnswersByPiece x names)
    (hlength : names.length = (Text.pieces '/' x).length) : AnswersByName x names := by
  obtain ⟨us, hus, hjoin⟩ := h
  rw [hus.length_eq] at hlength
  rwa [AnswersByName, ← hjoin.eq_of_length hnames hne hlength]

/-- Without a set that takes a slash, pieces are names. -/
lemma IsClosed.byName (hx : IsClosed x) (h : AnswersByPiece x names) : AnswersByName x names := by
  obtain ⟨us, hus, hjoin⟩ := h
  have hslash : ∀ u ∈ us, '/' ∉ u := by
    intro u hu
    obtain ⟨part, hpart, s, hs, ws, rfl, hmatch⟩ := exists_of_forall₂ hus hu
    exact Wild.slash_notMem_of_matchesAll (hx part hpart ws hs) hmatch
  rwa [AnswersByName, ← hjoin.eq_of_notMem hnames hne hslash]

end Answers

namespace IsShallow

lemma endsInName (hx : IsShallow x) : EndsInName x :=
  ⟨hx.spelled, hx.no_blank, fun h => hx.no_depth (List.mem_of_getLast? h)⟩

/-- Such a pattern is read part by part. -/
lemma exists_segments (hx : IsShallow x) {e : Option Exclude} (he : ofLine? ("/" ++ x) = .ok e) :
    ∃ segments, e = some ⟨segments, false⟩ ∧ segments ≠ [] ∧ .anyDepth ∉ segments ∧
      List.Forall₂ (fun part s => segmentOf? part = some s) (Text.pieces '/' x) segments := by
  obtain ⟨c, l, hl, -⟩ := hx.spelled.exists_cons
  have hnone : stripped ("/" ++ x) ≠ ['/'] := by
    rw [stripped_of_last hx.no_blank, hl]
    simp
  rcases e with _ | e
  · exact absurd he (ofLine?_ne_none hnone)
  · obtain ⟨segments, hsegments, -, rfl⟩ := hx.endsInName.ofLine?_iff.mp he
    have hparts := mapM_segmentOf?_iff.mp hsegments
    have hdeep : .anyDepth ∉ segments := by
      intro h
      obtain ⟨part, hpart, hs⟩ := exists_of_forall₂ hparts h
      obtain ⟨ws, hws⟩ := exists_name_of_segmentOf? (fun hstars => hx.no_depth (hstars ▸ hpart)) hs
      cases hws
    refine ⟨segments, by rw [collapse_of_notMem hdeep], ?_, hdeep, hparts⟩
    rintro rfl
    exact Text.pieces_ne_nil _ _ (List.forall₂_nil_right_iff.mp hparts)

end IsShallow

end Exclude

namespace Search

open Exclude (AnswersByName AnswersByPiece IsClosed IsShallow)

variable {t : Tree} {P X : List String} {l m : List Path}

/-- The path has as many names behind the folder as the pattern has parts. -/
def IsLevel (folder : Path) (x : String) (p : Path) : Prop :=
  ∃ names, p.relativeTo? folder = some names ∧ names.length = (Text.pieces '/' x).length

/-- The path lies below the names behind the folder. -/
def LiesBelow (folder : Path) (dir : List String) (p : Path) : Prop :=
  ∃ below, below ≠ [] ∧ p.relativeTo? folder = some (dir ++ below)

lemma leavesOut_shallow_iff (hx : IsShallow x) (hreadable : IsReadable folder x)
    (hnames : ∀ n ∈ p.parts, IsName n) (hp : p ≠ folder) :
    LeavesOut folder x p ↔ ∃ dir below, p.relativeTo? folder = some (dir ++ below) ∧ dir ≠ [] ∧
      AnswersByPiece x dir := by
  have hq : fromFolder? folder x = some x := fromFolder?_relative hx.spelled.isAbsolute
  obtain ⟨e, he⟩ := hreadable x hq
  obtain ⟨segments, rfl, hne, hdeep, hparts⟩ := hx.exists_segments he
  have hleft : ∀ {names}, p.relativeTo? folder = some names →
      ((⟨segments, false⟩ : Exclude).leavesOut names = true ↔
        ∃ dir below, names = dir ++ below ∧ dir ≠ [] ∧ AnswersByPiece x dir) := by
    intro names hrel
    have hbehind := (Path.relativeTo?_eq_some_iff.mp hrel).2
    have hnonempty : names ≠ [] := by
      rintro rfl
      exact hp (Path.relativeTo?_eq_some_nil_iff.mp hrel)
    rw [Exclude.leavesOut_names_iff hne hdeep
      (fun n hn => hnames n (hbehind ▸ List.mem_append_right _ hn)) hnonempty]
    simp only [AnswersByPiece, Exclude.forall₂_answers_iff hparts]
  constructor
  · rintro ⟨q, e, names, hq', he', hrel, h⟩
    rw [hq, Option.some.injEq] at hq'
    subst hq'
    rw [he, Except.ok.injEq, Option.some.injEq] at he'
    subst he'
    obtain ⟨dir, below, rfl, hdir⟩ := (hleft hrel).mp h
    exact ⟨dir, below, hrel, hdir⟩
  · rintro ⟨dir, below, hrel, hdir⟩
    exact ⟨x, _, _, hq, he, hrel, (hleft hrel).mpr ⟨dir, below, rfl, hdir⟩⟩

/-- One more pattern drops what it leaves out. -/
lemma notMem_found_iff (hl : found t folder P X = .ok l) (hm : found t folder P (X ++ [x]) = .ok m)
    (hp : p ∈ l) : p ∉ m ↔ LeavesOut folder x p := by
  obtain ⟨hnamed, hkept⟩ := (mem_found_iff hl).mp hp
  rw [mem_found_iff hm, List.forall_mem_append, List.forall_mem_singleton]
  constructor
  · intro h
    by_contra hleft
    exact h ⟨hnamed, hkept, hleft⟩
  · exact fun hleft h => h.2.2 hleft

section Dropped

variable (ht : t.isNamed = true) (hl : found t folder P X = .ok l)
include ht hl

lemma isName_of_found {names : List String} (hp : p ∈ l)
    (hrel : p.relativeTo? folder = some names) : ∀ n ∈ names, IsName n := fun n hn =>
  ((mem_found_iff hl).mp hp).1.isName ht n
    ((Path.relativeTo?_eq_some_iff.mp hrel).2 ▸ List.mem_append_right _ hn)

variable (hfolder : t.isFileAt folder = false) (hx : IsShallow x)
  (hm : found t folder P (X ++ [x]) = .ok m)
include hfolder hx hm

/-- The pattern drops what its parts lead to and all below it. -/
lemma dropped_iff (hp : p ∈ l) : p ∉ m ↔
    ∃ dir below, p.relativeTo? folder = some (dir ++ below) ∧ dir ≠ [] ∧ AnswersByPiece x dir := by
  have hnamed := ((mem_found_iff hl).mp hp).1
  have hne : p ≠ folder := by
    rintro rfl
    rw [hnamed.isFileAt] at hfolder
    cases hfolder
  have hreadable : IsReadable folder x :=
    exists_found_iff.mp ⟨m, hm⟩ x (List.mem_append_right _ (List.mem_singleton_self x))
  rw [notMem_found_iff hl hm hp, leavesOut_shallow_iff hx hreadable (hnamed.isName ht) hne]

/-- What is dropped is never above the level of the pattern, and on it only by name. -/
lemma level_of_dropped (hp : p ∈ l) (hpm : p ∉ m) :
    ∃ names, p.relativeTo? folder = some names ∧
      (Text.pieces '/' x).length ≤ names.length ∧
      (names.length = (Text.pieces '/' x).length ↔ AnswersByName x names) := by
  obtain ⟨dir, below, hrel, hdir, hpiece⟩ := (dropped_iff ht hl hfolder hx hm hp).mp hpm
  have hnames := isName_of_found ht hl hp hrel
  have hlength := hpiece.length_le (fun n hn => hnames n (List.mem_append_left _ hn)) hdir
  refine ⟨_, hrel, by rw [List.length_append]; omega, fun heq => ?_, fun hname => ?_⟩
  · have hnil : below = [] := by
      rw [List.length_append] at heq
      exact List.eq_nil_of_length_eq_zero (by omega)
    rw [hnil, List.append_nil] at hnames heq ⊢
    exact hpiece.byName hnames hdir heq
  · exact hname.length_eq

/-- All that is dropped is on the level of the pattern if nothing lies below a directory that
answers it, and only then. -/
lemma isLevel_dropped_iff (hclosed : IsClosed x) :
    (∀ p ∈ l, p ∉ m → IsLevel folder x p) ↔
      ∀ p ∈ l, ∀ dir, AnswersByName x dir → ¬ LiesBelow folder dir p := by
  constructor
  · rintro hlevel p hp dir hdir ⟨below, hne, hrel⟩
    have hnames := isName_of_found ht hl hp hrel
    have hpiece := hdir.byPiece (fun n hn => hnames n (List.mem_append_left _ hn)) hdir.ne_nil
    obtain ⟨names, hrel', hlength⟩ := hlevel p hp
      ((dropped_iff ht hl hfolder hx hm hp).mpr ⟨dir, below, hrel, hdir.ne_nil, hpiece⟩)
    obtain rfl : dir ++ below = names := Option.some.inj (hrel.symm.trans hrel')
    rw [← hdir.length_eq, List.length_append] at hlength
    exact hne (List.eq_nil_of_length_eq_zero (by omega))
  · intro hbelow p hp hpm
    obtain ⟨dir, below, hrel, hdir, hpiece⟩ := (dropped_iff ht hl hfolder hx hm hp).mp hpm
    have hnames := isName_of_found ht hl hp hrel
    have hname := hclosed.byName (fun n hn => hnames n (List.mem_append_left _ hn)) hdir hpiece
    have hnil : below = [] := by
      by_contra hne
      exact hbelow p hp dir hname ⟨below, hne, hrel⟩
    rw [hnil, List.append_nil] at hrel
    exact ⟨dir, hrel, hname.length_eq⟩

end Dropped

/-- **What a pattern without `**` drops.** It drops what its parts lead to and all below it. So a
file that it drops has at least as many names as the pattern has parts, and as many exactly if its
names answer the parts one by one. If no set takes a slash, then all that it drops is on its own
level if and only if nothing lies below a directory that answers it. -/
theorem patterns_drop_what_lies_below (ht : t.isNamed = true) (hfolder : t.isFileAt folder = false)
    (hx : IsShallow x) (hl : found t folder P X = .ok l)
    (hm : found t folder P (X ++ [x]) = .ok m) :
    (∀ p ∈ l, p ∉ m ↔
      ∃ dir below, p.relativeTo? folder = some (dir ++ below) ∧ dir ≠ [] ∧ AnswersByPiece x dir) ∧
    (∀ p ∈ l, p ∉ m → ∃ names, p.relativeTo? folder = some names ∧
      (Text.pieces '/' x).length ≤ names.length ∧
      (names.length = (Text.pieces '/' x).length ↔ AnswersByName x names)) ∧
    (IsClosed x → ((∀ p ∈ l, p ∉ m → IsLevel folder x p) ↔
      ∀ p ∈ l, ∀ dir, AnswersByName x dir → ¬ LiesBelow folder dir p)) :=
  ⟨fun _ => dropped_iff ht hl hfolder hx hm, fun _ => level_of_dropped ht hl hfolder hx hm,
    isLevel_dropped_iff ht hl hfolder hx hm⟩

/-- A folder with a file and a directory with one. -/
def nestedTree : Tree :=
  .dir [("d", .dir [("auth.yaml", .file []), ("nested", .dir [("deep.yaml", .file [])])])]

def topPath : Path := ⟨.root, ["d", "auth.yaml"]⟩

def deepPath : Path := ⟨.root, ["d", "nested", "deep.yaml"]⟩

lemma found_nestedTree (excludes : List Exclude)
    (hexcludes : (Search.mk ["**/*.yaml"] ⟨.root, ["d"]⟩ X).excluded? = .ok excludes)
    (hkept : [topPath, deepPath].filter
      (fun p => !isExcluded ⟨.root, ["d"]⟩ excludes p) = l) :
    found nestedTree ⟨.root, ["d"]⟩ ["**/*.yaml"] X = .ok l := by
  have hnamed : (Search.mk ["**/*.yaml"] ⟨.root, ["d"]⟩ X).named nestedTree = [topPath, deepPath] :=
    calc (Search.mk ["**/*.yaml"] ⟨.root, ["d"]⟩ X).named nestedTree
      _ = (Search.mk ["**/*.yaml"] ⟨.root, ["d"]⟩ []).named nestedTree := rfl
      _ = [topPath, deepPath] := by decide +kernel
  exact found_of_named hnamed hexcludes (by unfold IsAscending; decide +kernel) hkept

lemma found_all_nestedTree :
    found nestedTree ⟨.root, ["d"]⟩ ["**/*.yaml"] [] = .ok [topPath, deepPath] :=
  found_nestedTree [] rfl (by decide +kernel)

/-- No directory is called like a file here, so `*.yaml` drops the file at the top only. -/
theorem dropped_at_the_top_only :
    found nestedTree ⟨.root, ["d"]⟩ ["**/*.yaml"] [] = .ok [topPath, deepPath] ∧
    found nestedTree ⟨.root, ["d"]⟩ ["**/*.yaml"] ["*.yaml"] = .ok [deepPath] ∧
    IsLevel ⟨.root, ["d"]⟩ "*.yaml" topPath := by
  have hfound : found nestedTree ⟨.root, ["d"]⟩ ["**/*.yaml"] ["*.yaml"] = .ok [deepPath] :=
    found_nestedTree [⟨[.name (.run :: ".yaml".toList.map .char)], false⟩]
      (eq_ok_of_toOption (by decide +kernel)) (by decide +kernel)
  refine ⟨found_all_nestedTree, hfound, ?_⟩
  refine ((patterns_drop_what_lies_below (by decide +kernel) (by decide +kernel)
    (by decide +kernel) found_all_nestedTree hfound).2.2 ?_).mpr ?_ topPath (by decide) (by decide)
  · intro part hpart ws hws
    obtain rfl : part = "*.yaml" := List.mem_singleton.mp hpart
    have hread : Exclude.segmentOf? "*.yaml" = some (.name (.run :: ".yaml".toList.map .char)) := by
      decide +kernel
    obtain rfl := ExcludeSegment.name.inj (Option.some.inj (hread.symm.trans hws))
    decide
  · rintro p hp dir hdir ⟨below, hbelow, hrel⟩
    obtain ⟨n, rfl⟩ := List.length_eq_one_iff.mp hdir.length_eq
    rcases List.mem_pair.mp hp with rfl | rfl
    · have hnames : ["auth.yaml"] = n :: below := Option.some.inj hrel
      exact hbelow (List.cons.inj hnames).2.symm
    · have hnames : ["nested", "deep.yaml"] = n :: below := Option.some.inj hrel
      obtain rfl := (List.cons.inj hnames).1
      exact absurd hdir (by decide +kernel)

/-- A star drops a file in a directory too, although it has one part and the file two names. -/
theorem dropped_below_a_directory :
    found nestedTree ⟨.root, ["d"]⟩ ["**/*.yaml"] [] = .ok [topPath, deepPath] ∧
    found nestedTree ⟨.root, ["d"]⟩ ["**/*.yaml"] ["*"] = .ok [] ∧
    ¬ IsLevel ⟨.root, ["d"]⟩ "*" deepPath := by
  refine ⟨found_all_nestedTree, found_nestedTree [⟨[.name [.one, .run]], false⟩]
    (eq_ok_of_toOption (by decide +kernel)) (by decide +kernel), ?_⟩
  rintro ⟨names, hrel, hlength⟩
  obtain rfl : ["nested", "deep.yaml"] = names := Option.some.inj hrel
  exact absurd hlength (by decide)

end Search

end Sieve.Files
