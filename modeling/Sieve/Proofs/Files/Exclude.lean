import Sieve.Files.Exclude
import Sieve.Proofs.Except
import Sieve.Proofs.Files.Path

/-!
What patterns leave out.

Wildcards take the head of a text, and segments lead to a path from where a name begins. So an empty
segment or one of dots leads to no path, as no file has such a name. A slash at the end of a pattern
leads to what lies below the places that the pattern leads to.
-/

namespace Sieve.Files

/-! ### Wildcards -/

namespace Wild

variable {w : Wild} {ws : List Wild} {k : List Char → Bool} {l u v : List Char}

/-- The wildcard takes these characters. -/
def Spans (w : Wild) (u : List Char) : Prop :=
  match w with
  | run => ∀ c ∈ u, run.takes c = true
  | w => ∃ c, u = [c] ∧ w.takes c = true

lemma afterRun_iff {p : Char → Bool} :
    afterRun p k l = true ↔ ∃ u v, l = u ++ v ∧ (∀ c ∈ u, p c = true) ∧ k v = true := by
  induction l with
  | nil => simp [afterRun]
  | cons c l ih =>
    rw [afterRun, Bool.or_eq_true, Bool.and_eq_true, ih]
    constructor
    · rintro (h | ⟨hc, u, v, rfl, hu, h⟩)
      · exact ⟨[], c :: l, rfl, List.forall_mem_nil _, h⟩
      · exact ⟨c :: u, v, rfl, List.forall_mem_cons.mpr ⟨hc, hu⟩, h⟩
    · rintro ⟨_ | ⟨d, u⟩, v, hl, hu, h⟩
      · exact Or.inl (hl ▸ h)
      · obtain ⟨rfl, rfl⟩ := List.cons_eq_cons.mp hl
        obtain ⟨hc, hu⟩ := List.forall_mem_cons.mp hu
        exact Or.inr ⟨hc, u, v, rfl, hu, h⟩

lemma before_iff : before w k l = true ↔ ∃ u v, l = u ++ v ∧ w.Spans u ∧ k v = true := by
  have hone : ∀ p : Char → Bool, (∃ u v, l = u ++ v ∧ (∃ c, u = [c] ∧ p c = true) ∧ k v = true) ↔
      ∃ c r, l = c :: r ∧ p c = true ∧ k r = true := by
    intro p
    constructor
    · rintro ⟨_, r, rfl, ⟨c, rfl, hc⟩, hr⟩
      exact ⟨c, r, rfl, hc, hr⟩
    · rintro ⟨c, r, rfl, hc, hr⟩
      exact ⟨[c], r, rfl, ⟨c, rfl, hc⟩, hr⟩
  cases w with
  | run => exact afterRun_iff
  | char | one | oneOf =>
    simp only [Spans, hone]
    cases l <;> simp [before]

/-- **Wildcards** take the head of a text. -/
theorem allBefore_iff :
    allBefore ws k l = true ↔ ∃ u v, l = u ++ v ∧ matchesAll ws u = true ∧ k v = true := by
  have hstep : ∀ (w : Wild) (ws : List Wild) (k : List Char → Bool) (l : List Char),
      allBefore (w :: ws) k l = true ↔
        ∃ u v, l = u ++ v ∧ w.Spans u ∧ allBefore ws k v = true := fun _ _ _ _ => before_iff
  induction ws generalizing l with
  | nil => simp [allBefore, matchesAll]
  | cons w ws ih =>
    rw [hstep]
    simp only [ih, matchesAll, hstep]
    constructor
    · rintro ⟨u, _, rfl, hu, u', v, rfl, hu', hv⟩
      exact ⟨u ++ u', v, by rw [List.append_assoc], ⟨u, u', rfl, hu, hu'⟩, hv⟩
    · rintro ⟨_, v, rfl, ⟨u, u', rfl, hu, hu'⟩, hv⟩
      exact ⟨u, u' ++ v, by rw [List.append_assoc], hu, u', v, rfl, hu', hv⟩

/-- Characters stand for themselves. -/
lemma matchesAll_char : matchesAll (u.map char) l = true ↔ l = u := by
  induction u generalizing l with
  | nil => simp [matchesAll, allBefore]
  | cons a u ih =>
    change before (char a) (matchesAll (u.map char)) l = true ↔ _
    rcases l with _ | ⟨c, l⟩
    · exact iff_of_false Bool.false_ne_true (List.cons_ne_nil _ _).symm
    · simp [before, takes, ih, eq_comm (a := a) (b := c)]

end Wild

namespace Exclude

open Wild

variable {ws : List Wild} {k : List Char → Bool} {l u v : List Char} {names : List String}
  {segments rest init : List ExcludeSegment}

/-! ### Segments -/

lemma laterName_iff : atSomeName.laterName k l = true ↔ ∃ u v, l = u ++ '/' :: v ∧ k v = true := by
  induction l with
  | nil => simp [atSomeName.laterName]
  | cons c l ih =>
    rw [atSomeName.laterName, Bool.or_eq_true, Bool.and_eq_true, beq_iff_eq, ih]
    constructor
    · rintro (⟨rfl, h⟩ | ⟨u, v, rfl, h⟩)
      · exact ⟨[], l, rfl, h⟩
      · exact ⟨c :: u, v, rfl, h⟩
    · rintro ⟨_ | ⟨d, u⟩, v, hl, h⟩
      · obtain ⟨rfl, rfl⟩ := List.cons_eq_cons.mp hl
        exact Or.inl ⟨rfl, h⟩
      · obtain ⟨rfl, rfl⟩ := List.cons_eq_cons.mp hl
        exact Or.inr ⟨u, v, rfl, h⟩

lemma leadsTo_anyDepth_iff (h : rest ≠ []) :
    leadsTo (.anyDepth :: rest) l = true ↔
      leadsTo rest l = true ∨ ∃ u v, l = u ++ '/' :: v ∧ leadsTo rest v = true := by
  obtain ⟨s, rest, rfl⟩ := List.exists_cons_of_ne_nil h
  change atSomeName (leadsTo (s :: rest)) l = true ↔ _
  cases l with
  | nil => simp [atSomeName]
  | cons c l => rw [atSomeName, Bool.or_eq_true, laterName_iff]

lemma leadsTo_name_iff :
    leadsTo [.name ws] l = true ↔
      ∃ u v, l = u ++ v ∧ matchesAll ws u = true ∧ (v = [] ∨ ∃ r, v = '/' :: r) := by
  have hend : ∀ v, endsOrGoesBelow v = true ↔ v = [] ∨ ∃ r, v = '/' :: r := by
    intro v
    cases v <;> simp [endsOrGoesBelow]
  simp only [leadsTo, allBefore_iff, hend]

lemma leadsTo_name_cons_iff (h : rest ≠ []) :
    leadsTo (.name ws :: rest) l = true ↔
      ∃ u v, l = u ++ '/' :: v ∧ matchesAll ws u = true ∧ leadsTo rest v = true := by
  obtain ⟨s, rest, rfl⟩ := List.exists_cons_of_ne_nil h
  have hbelow : ∀ v, behindSlash (leadsTo (s :: rest)) v = true ↔
      ∃ r, v = '/' :: r ∧ leadsTo (s :: rest) r = true := by
    intro v
    unfold behindSlash
    split <;> simp_all
  change allBefore ws (behindSlash (leadsTo (s :: rest))) l = true ↔ _
  rw [allBefore_iff]
  simp only [hbelow]
  constructor
  · rintro ⟨u, _, rfl, hu, v, rfl, hv⟩
    exact ⟨u, v, rfl, hu, hv⟩
  · rintro ⟨u, v, rfl, hu, hv⟩
    exact ⟨u, _, rfl, hu, v, rfl, hv⟩

/-! ### Segments that no name answers -/

/-- A segment asks for a name that no file may have: an empty one or one of dots. -/
def IsIdle (segments : List ExcludeSegment) : Prop :=
  ∃ before n after, segments = before ++ .name (n.toList.map .char) :: after ∧ ¬ IsName n ∧
    '/' ∉ n.toList

section IsIdle

variable {n : String}

lemma text_here_ne (hn : ¬ IsName n) (hslash : '/' ∉ n.toList) (hnames : ∀ m ∈ names, IsName m)
    (hne : names ≠ []) : (Path.text ⟨.here, names⟩).toList ≠ n.toList := by
  intro htext
  rw [Path.eq_singleton_of_text_here_eq hnames hne hslash htext] at hnames
  exact hn (hnames n (List.mem_singleton_self n))

lemma text_here_ne_append (hn : ¬ IsName n) (hslash : '/' ∉ n.toList)
    (hnames : ∀ m ∈ names, IsName m) (hne : names ≠ []) (v : List Char) :
    (Path.text ⟨.here, names⟩).toList ≠ n.toList ++ '/' :: v := by
  intro htext
  obtain ⟨before, _, rfl, hbne, -, hu, -⟩ := Path.exists_of_text_here_eq hnames hne htext
  exact text_here_ne hn hslash (List.forall_mem_append.mp hnames).1 hbne hu.symm

/-- A segment that no name answers leads to no path of names. -/
lemma leadsTo_idle_head (hn : ¬ IsName n) (hslash : '/' ∉ n.toList)
    (hnames : ∀ m ∈ names, IsName m) (hne : names ≠ []) :
    leadsTo (.name (n.toList.map .char) :: rest) (Path.text ⟨.here, names⟩).toList = false := by
  rw [← Bool.not_eq_true]
  intro hleads
  by_cases hrest : rest = []
  · rw [hrest] at hleads
    obtain ⟨u, v, htext, hu, hv⟩ := leadsTo_name_iff.mp hleads
    rw [matchesAll_char] at hu
    subst hu
    rcases hv with rfl | ⟨r, rfl⟩
    · exact text_here_ne hn hslash hnames hne (by rw [htext, List.append_nil])
    · exact text_here_ne_append hn hslash hnames hne r htext
  · obtain ⟨u, v, htext, hu, -⟩ := (leadsTo_name_cons_iff hrest).mp hleads
    rw [matchesAll_char] at hu
    subst hu
    exact text_here_ne_append hn hslash hnames hne v htext

/-- **Idle segments** lead to no path of names. -/
theorem leadsTo_of_isIdle (h : IsIdle segments) (hnames : ∀ n ∈ names, IsName n)
    (hne : names ≠ []) : leadsTo segments (Path.text ⟨.here, names⟩).toList = false := by
  obtain ⟨before, n, after, rfl, hn, hslash⟩ := h
  -- On the segments before the idle one; each of them leaves a path of names behind.
  induction before generalizing names with
  | nil => exact leadsTo_idle_head hn hslash hnames hne
  | cons s before ih =>
    have hrest : before ++ .name (n.toList.map .char) :: after ≠ [] := by simp
    have hbehind : ∀ {u v}, (Path.text ⟨.here, names⟩).toList = u ++ '/' :: v →
        leadsTo (before ++ .name (n.toList.map .char) :: after) v ≠ true := by
      intro u v htext
      obtain ⟨_, names', rfl, -, hne', -, rfl⟩ := Path.exists_of_text_here_eq hnames hne htext
      rw [ne_eq, Bool.not_eq_true]
      exact ih (List.forall_mem_append.mp hnames).2 hne'
    rw [← Bool.not_eq_true, List.cons_append]
    intro hleads
    cases s with
    | anyDepth =>
      rcases (leadsTo_anyDepth_iff hrest).mp hleads with hhere | ⟨u, v, htext, hv⟩
      · rw [ih hnames hne] at hhere
        cases hhere
      · exact hbehind htext hv
    | name ws =>
      obtain ⟨u, v, htext, -, hv⟩ := (leadsTo_name_cons_iff hrest).mp hleads
      exact hbehind htext hv

lemma leavesOut_of_isIdle {e : Exclude} (h : IsIdle e.segments) (hnames : ∀ n ∈ names, IsName n)
    (hne : names ≠ []) : e.leavesOut names = false := by
  have hdeep : e.segments ≠ [.anyDepth] := by
    obtain ⟨before, n, after, hsegments, -⟩ := h
    intro hdeep
    have hmem : .name (n.toList.map .char) ∈ e.segments := by
      rw [hsegments]
      simp
    rw [hdeep, List.mem_singleton] at hmem
    cases hmem
  unfold leavesOut
  rw [if_neg hdeep, leadsTo_of_isIdle h hnames hne]

end IsIdle

/-! ### A slash at the end -/

/-- **Any depth at the end** leads to what lies in a place that the other segments lead to. -/
theorem leadsTo_anyDepth_end_iff :
    leadsTo (init ++ [.name ws, .anyDepth]) l = true ↔
      ∃ u v, l = u ++ '/' :: v ∧ '/' ∉ v ∧ leadsTo (init ++ [.name ws]) u = true := by
  induction init generalizing l with
  | nil =>
    have hbelow : leadsTo [.name ws, .anyDepth] l = true ↔
        ∃ u v, l = u ++ '/' :: v ∧ matchesAll ws u = true := by
      rw [leadsTo_name_cons_iff (List.cons_ne_nil _ _)]
      simp [leadsTo]
    simp only [List.nil_append, hbelow, leadsTo_name_iff]
    constructor
    · rintro ⟨u, v, rfl, hu⟩
      by_cases hslash : '/' ∈ v
      · obtain ⟨a, z, rfl, hz⟩ := Text.exists_eq_append_sep hslash
        exact ⟨u ++ '/' :: a, z, by simp, hz, u, '/' :: a, rfl, hu, Or.inr ⟨a, rfl⟩⟩
      · exact ⟨u, v, rfl, hslash, u, [], (List.append_nil u).symm, hu, Or.inl rfl⟩
    · rintro ⟨_, z, rfl, -, u, v, rfl, hu, rfl | ⟨r, rfl⟩⟩
      · exact ⟨u, z, by rw [List.append_nil], hu⟩
      · exact ⟨u, r ++ '/' :: z, by simp, hu⟩
  | cons s init ih =>
    have hrest : init ++ [.name ws, .anyDepth] ≠ [] := by simp
    have hrest' : init ++ [.name ws] ≠ [] := by simp
    have hbehind : ∀ u, (∃ v, l = u ++ '/' :: v ∧ leadsTo (init ++ [.name ws, .anyDepth]) v = true) ↔
        ∃ v z, l = (u ++ '/' :: v) ++ '/' :: z ∧ '/' ∉ z ∧ leadsTo (init ++ [.name ws]) v = true := by
      intro u
      simp only [ih]
      constructor
      · rintro ⟨_, rfl, v, z, rfl, hz, hv⟩
        exact ⟨v, z, by simp, hz, hv⟩
      · rintro ⟨v, z, rfl, hz, hv⟩
        exact ⟨v ++ '/' :: z, by simp, v, z, rfl, hz, hv⟩
    cases s with
    | anyDepth =>
      rw [List.cons_append, leadsTo_anyDepth_iff hrest, exists_congr hbehind, ih]
      simp only [List.cons_append, leadsTo_anyDepth_iff hrest']
      constructor
      · rintro (⟨u, z, rfl, hz, hu⟩ | ⟨u, v, z, rfl, hz, hv⟩)
        · exact ⟨u, z, rfl, hz, Or.inl hu⟩
        · exact ⟨_, z, rfl, hz, Or.inr ⟨u, v, rfl, hv⟩⟩
      · rintro ⟨_, z, rfl, hz, hu | ⟨u, v, rfl, hv⟩⟩
        · exact Or.inl ⟨_, z, rfl, hz, hu⟩
        · exact Or.inr ⟨u, v, z, rfl, hz, hv⟩
    | name ws' =>
      simp only [List.cons_append, leadsTo_name_cons_iff hrest, leadsTo_name_cons_iff hrest']
      constructor
      · rintro ⟨u, v, hl, hu, hv⟩
        obtain ⟨v, z, rfl, hz, hv⟩ := (hbehind u).mp ⟨v, hl, hv⟩
        exact ⟨_, z, rfl, hz, u, v, rfl, hu, hv⟩
      · rintro ⟨_, z, rfl, hz, u, v, rfl, hu, hv⟩
        obtain ⟨v, hl, hv⟩ := (hbehind u).mpr ⟨v, z, rfl, hz, hv⟩
        exact ⟨u, v, hl, hu, hv⟩

/-- With any depth at the end a pattern leaves out what lies in the places that it leaves out
without. -/
theorem leavesOut_anyDepth_end_iff (hnames : ∀ n ∈ names, IsName n) :
    (⟨init ++ [.name ws, .anyDepth], true⟩ : Exclude).leavesOut names = true ↔
      ∃ dir n, names = dir ++ [n] ∧ dir ≠ [] ∧
        (⟨init ++ [.name ws], false⟩ : Exclude).leavesOut dir = true := by
  have hdeep : init ++ [.name ws, .anyDepth] ≠ [.anyDepth] := by
    rcases init with _ | ⟨s, init⟩ <;> simp
  have hname : init ++ [.name ws] ≠ [.anyDepth] := by
    rcases init with _ | ⟨s, init⟩ <;> simp
  simp only [leavesOut, if_neg hdeep, if_neg hname]
  rw [leadsTo_anyDepth_end_iff]
  constructor
  · rintro ⟨u, v, htext, hv, hu⟩
    have hne : names ≠ [] := by
      rintro rfl
      have hslash : '/' ∈ (Path.text ⟨.here, []⟩).toList := by
        rw [htext]
        simp
      exact absurd hslash (by decide)
    obtain ⟨dir, after, rfl, hdir, hafter, rfl, rfl⟩ := Path.exists_of_text_here_eq hnames hne htext
    have hnames' := (List.forall_mem_append.mp hnames).2
    -- The last part has no slash, so it is one name.
    have hone : after = [String.ofList (Path.text ⟨.here, after⟩).toList] :=
      Path.eq_singleton_of_text_here_eq hnames' hafter (by simpa using hv) (by simp)
    exact ⟨dir, _, by rw [← hone], hdir, hu⟩
  · rintro ⟨dir, n, rfl, hdir, hleads⟩
    have hn := (hnames n (by simp)).2.2.2
    exact ⟨_, _, Path.toList_text_here_concat hnames hdir, hn, hleads⟩

end Exclude

end Sieve.Files
