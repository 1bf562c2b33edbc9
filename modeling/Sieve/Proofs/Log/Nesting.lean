import Sieve.Log.Context
import Sieve.Selection.Narrowing
import Mathlib.Data.List.Induction

/-!
Contexts that nest.

Each context keeps one id for itself, and contexts may be left in any order. But where each context
is entered once and the innermost one is left first, contexts are a stack: each brings back the id
that was current right before it was entered, whatever has been set since.
-/

namespace Sieve.Log

variable {l a b : List Turn} {o o' : List Nat} {n : Nat} {x : Context} {s s' : Contexts}
  {c : Correlation} {t : Turn}

/-! ### Nested turns -/

/-- The contexts that are open after a turn, the innermost first, if only the innermost is left. -/
def nest (o : List Nat) : Turn → Option (List Nat)
  | .enter x => some (x.number :: o)
  | .leave n => if o.head? = some n then some o.tail else none
  | .set _ => some o

/-- The contexts that are open in the end. -/
def opened? (l : List Turn) : Option (List Nat) := l.foldlM nest []

/-- The contexts that are entered, each as often as it is. -/
def entered (l : List Turn) : List Nat :=
  l.filterMap fun
    | .enter x => some x.number
    | _ => none

/-- Only the innermost context is left, and no context is entered twice. -/
structure IsNested (l : List Turn) : Prop where
  innermost : (opened? l).isSome = true
  distinct : (entered l).Nodup

instance (l : List Turn) : Decidable (IsNested l) :=
  decidable_of_iff ((opened? l).isSome = true ∧ (entered l).Nodup)
    ⟨fun h => ⟨h.1, h.2⟩, fun h => ⟨h.1, h.2⟩⟩

lemma opened?_snoc (l : List Turn) (t : Turn) :
    opened? (l ++ [t]) = (opened? l).bind (nest · t) := by
  simp [opened?, List.foldlM_append]

lemma entered_append (a b : List Turn) : entered (a ++ b) = entered a ++ entered b :=
  List.filterMap_append

lemma IsNested.left (h : IsNested (a ++ b)) : IsNested a := by
  obtain ⟨hopened, hdistinct⟩ := h
  refine ⟨?_, ?_⟩
  · rw [opened?, List.foldlM_append] at hopened
    obtain ⟨o, ho⟩ := Option.isSome_iff_exists.mp hopened
    obtain ⟨o', ho', -⟩ := Option.bind_eq_some_iff.mp ho
    exact Option.isSome_iff_exists.mpr ⟨o', ho'⟩
  · rw [entered_append] at hdistinct
    exact (List.nodup_append.mp hdistinct).1

/-- What is open has been entered once, and not left. -/
structure AreOpen (l : List Turn) (o : List Nat) : Prop where
  nodup : o.Nodup
  subset : o ⊆ entered l
  notLeft : ∀ n, .leave n ∈ l → n ∈ entered l ∧ n ∉ o

lemma AreOpen.enter (h : AreOpen l o) (hnew : x.number ∉ entered l) :
    AreOpen (l ++ [.enter x]) (x.number :: o) := by
  obtain ⟨hnodup, hentered, hleft⟩ := h
  have hsnoc : entered (l ++ [.enter x]) = entered l ++ [x.number] := entered_append l _
  refine ⟨List.nodup_cons.mpr ⟨fun hmem => hnew (hentered hmem), hnodup⟩, ?_, fun n hn => ?_⟩
  · rw [hsnoc]
    exact List.cons_subset.mpr ⟨by simp, fun n hn => List.mem_append_left _ (hentered hn)⟩
  · obtain ⟨hmem, hnot⟩ := hleft n (by simpa using hn)
    rw [hsnoc, List.mem_cons, not_or]
    exact ⟨List.mem_append_left _ hmem, fun heq => hnew (heq ▸ hmem), hnot⟩

lemma AreOpen.leave (h : AreOpen l (n :: o)) : AreOpen (l ++ [.leave n]) o := by
  obtain ⟨hnodup, hentered, hleft⟩ := h
  have hsame : entered (l ++ [.leave n]) = entered l := by simp [entered]
  obtain ⟨hn, ho⟩ := List.nodup_cons.mp hnodup
  refine ⟨ho, ?_, fun k hk => ?_⟩
  · rw [hsame]
    exact (List.cons_subset.mp hentered).2
  · rw [hsame]
    rcases List.mem_append.mp hk with hk | hk
    · exact ⟨(hleft k hk).1, fun hmem => (hleft k hk).2 (List.mem_cons_of_mem _ hmem)⟩
    · cases List.mem_singleton.mp hk
      exact ⟨hentered List.mem_cons_self, hn⟩

lemma AreOpen.set {id : Option String} (h : AreOpen l o) : AreOpen (l ++ [.set id]) o := by
  obtain ⟨hnodup, hentered, hleft⟩ := h
  have hsame : entered (l ++ [.set id]) = entered l := by simp [entered]
  refine ⟨hnodup, by rwa [hsame], fun k hk => ?_⟩
  rw [hsame]
  exact hleft k (by simpa using hk)

lemma eq_cons_of_nest_leave (h : nest o (.leave n) = some o') : o = n :: o' := by
  rw [nest] at h
  split_ifs at h with hhead
  obtain ⟨rest, rfl⟩ := List.head?_eq_some_iff.mp hhead
  cases h
  rfl

lemma areOpen (hdistinct : (entered l).Nodup) (ho : opened? l = some o) : AreOpen l o := by
  induction l using List.reverseRecOn generalizing o with
  | nil =>
    cases ho
    exact ⟨List.nodup_nil, List.nil_subset _, fun _ h => absurd h List.not_mem_nil⟩
  | append_singleton l t ih =>
    rw [opened?_snoc] at ho
    obtain ⟨o', ho', hnest⟩ := Option.bind_eq_some_iff.mp ho
    rw [entered_append, List.nodup_append] at hdistinct
    have h : AreOpen l o' := ih hdistinct.1 ho'
    cases t with
    | enter x =>
      cases hnest
      exact h.enter fun hmem => hdistinct.2.2 _ hmem _ List.mem_cons_self rfl
    | leave n =>
      cases eq_cons_of_nest_leave hnest
      exact h.leave
    | set id =>
      cases hnest
      exact h.set

/-! ### Contexts as a stack -/

lemma lookup_filter_ne {α : Type} {k : Nat} (hne : k ≠ n) (l : List (Nat × α)) :
    (l.filter (·.1 != n)).lookup k = l.lookup k := by
  induction l with
  | nil => rfl
  | cons e l ih =>
    by_cases hn : e.1 = n
    · have hk : (k == e.1) = false := beq_eq_false_iff_ne.mpr fun h => hne (h.trans hn)
      rw [List.filter_cons_of_neg (by simp [hn]), ih, List.lookup_cons, hk]
    · rw [List.filter_cons_of_pos (by simpa using hn), List.lookup_cons, List.lookup_cons, ih]

namespace Contexts

@[simp] lemma lookup_enter_self : (s.enter x).kept.lookup x.number = some s.current := by
  simp [enter]

lemma lookup_enter_of_ne (h : n ≠ x.number) :
    (s.enter x).kept.lookup n = s.kept.lookup n := by
  rw [enter, List.lookup_cons, beq_eq_false_iff_ne.mpr h]

lemma leave?_eq_some_iff : s.leave? n = some s' ↔
    ∃ id, s.kept.lookup n = some id ∧ s' = ⟨id, s.kept.filter (·.1 != n)⟩ := by
  rw [leave?, Option.map_eq_some_iff]
  simp only [eq_comm (a := s')]

lemma run_append (s : Contexts) (a b : List Turn) : s.run (a ++ b) = (s.run a).bind (·.run b) := by
  simp [run, List.foldlM_append]

lemma run_singleton (s : Contexts) (t : Turn) : s.run [t] = s.turn t := by
  simp [run]

end Contexts

namespace Correlation

lemma run_append (c : Correlation) (a b : List Turn) :
    c.run (a ++ b) = (c.run a).bind (·.run b) := by
  simp [run, List.foldlM_append]

lemma run_singleton (c : Correlation) (t : Turn) : c.run [t] = c.turn t := by
  simp [run]

end Correlation

/-- The stack has the same current id, and on top of what it began with it holds what the open
contexts keep. -/
structure Agrees (below : List (Option String)) (o : List Nat) (s : Contexts) (c : Correlation) :
    Prop where
  current : c.current = s.current
  saved : ∃ above, c.saved = above ++ below ∧ o.map (s.kept.lookup ·) = above.map some

variable {below : List (Option String)}

lemma Agrees.enter (h : Agrees below o s c) (hnew : x.number ∉ o) :
    Agrees below (x.number :: o) (s.enter x) (c.enter x.id) := by
  obtain ⟨hcurrent, above, hsaved, hkept⟩ := h
  have hsame : o.map ((s.enter x).kept.lookup ·) = o.map (s.kept.lookup ·) :=
    List.map_congr_left fun n hn => Contexts.lookup_enter_of_ne fun h => hnew (h ▸ hn)
  refine ⟨rfl, c.current :: above, ?_, ?_⟩
  · rw [Correlation.enter, hsaved]
    rfl
  · rw [List.map_cons, hsame, hkept, hcurrent, Contexts.lookup_enter_self]
    rfl

lemma Agrees.leave (h : Agrees below (n :: o) s c) (hn : n ∉ o) :
    ∃ s' c', s.leave? n = some s' ∧ c.leave? = some c' ∧ Agrees below o s' c' := by
  obtain ⟨hcurrent, above, hsaved, hkept⟩ := h
  rcases above with _ | ⟨id, above⟩
  · cases hkept
  obtain ⟨hid, ho⟩ : s.kept.lookup n = some id ∧ o.map (s.kept.lookup ·) = above.map some :=
    List.cons.inj hkept
  refine ⟨_, ⟨id, above ++ below⟩, Contexts.leave?_eq_some_iff.mpr ⟨id, hid, rfl⟩, ?_, rfl, above,
    rfl, ?_⟩
  · rw [Correlation.leave?, hsaved]
    rfl
  · rw [← ho]
    refine List.map_congr_left fun k hk => lookup_filter_ne ?_ s.kept
    rintro rfl
    exact hn hk

/-- A turn keeps the agreement. -/
lemma agrees_turn (h : Agrees below o s c) (hnest : nest o t = some o') (ho : o.Nodup)
    (ho' : o'.Nodup) :
    ∃ s' c', s.turn t = some s' ∧ c.turn t = some c' ∧ Agrees below o' s' c' := by
  cases t with
  | enter x =>
    cases hnest
    exact ⟨_, _, rfl, rfl, h.enter (List.nodup_cons.mp ho').1⟩
  | leave n =>
    cases eq_cons_of_nest_leave hnest
    exact h.leave (List.nodup_cons.mp ho).1
  | set id =>
    cases hnest
    exact ⟨_, _, rfl, rfl, rfl, h.saved⟩

/-- **Nested contexts are a stack**: they and the stack go through all turns, with the same current
id. -/
theorem agrees_run (hl : IsNested l) (s : Contexts) (saved : List (Option String)) :
    ∃ o s' c', opened? l = some o ∧ s.run l = some s' ∧
      Correlation.run ⟨s.current, saved⟩ l = some c' ∧ Agrees saved o s' c' := by
  -- From the end, since what may come next depends on the contexts that are open by then.
  induction l using List.reverseRecOn with
  | nil => exact ⟨[], s, ⟨s.current, saved⟩, rfl, rfl, rfl, rfl, [], rfl, rfl⟩
  | append_singleton l t ih =>
    obtain ⟨o, s₁, c₁, ho, hs, hc, hagrees⟩ := ih hl.left
    obtain ⟨o', ho'⟩ := Option.isSome_iff_exists.mp hl.innermost
    have hnest : nest o t = some o' := by rwa [opened?_snoc, ho] at ho'
    obtain ⟨s', c', hs', hc', hagrees'⟩ := agrees_turn hagrees hnest
      (areOpen hl.left.distinct ho).nodup (areOpen hl.distinct ho').nodup
    refine ⟨o', s', c', ho', ?_, ?_, hagrees'⟩
    · rw [Contexts.run_append, hs, Option.bind_some, Contexts.run_singleton, hs']
    · rw [Correlation.run_append, hc, Option.bind_some, Correlation.run_singleton, hc']

/-! ### What a context brings back -/

/-- What a context keeps stays, as long as it is not entered or left. -/
lemma lookup_run (hb : ∀ t ∈ b, (∀ x, t = .enter x → x.number ≠ n) ∧ t ≠ .leave n)
    (h : s.run b = some s') : s'.kept.lookup n = s.kept.lookup n := by
  induction b generalizing s with
  | nil =>
    cases h
    rfl
  | cons t b ih =>
    obtain ⟨⟨henter, hleave⟩, hb⟩ := List.forall_mem_cons.mp hb
    rw [Contexts.run, List.foldlM_cons] at h
    obtain ⟨s₁, hs₁, hrun⟩ := Option.bind_eq_some_iff.mp h
    rw [ih hb hrun]
    cases t with
    | enter x =>
      cases hs₁
      exact Contexts.lookup_enter_of_ne (henter x rfl).symm
    | leave k =>
      obtain ⟨id, -, rfl⟩ := Contexts.leave?_eq_some_iff.mp hs₁
      refine lookup_filter_ne ?_ s.kept
      rintro rfl
      exact hleave rfl
    | set id =>
      cases hs₁
      rfl

/-- Between a turn that enters a context and the one that leaves it, it is neither entered nor
left. -/
lemma untouched_between (hl : IsNested (a ++ .enter x :: b ++ [.leave x.number])) :
    ∀ t ∈ b, (∀ y, t = .enter y → y.number ≠ x.number) ∧ t ≠ .leave x.number := by
  obtain ⟨o, ho⟩ := Option.isSome_iff_exists.mp hl.left.innermost
  obtain ⟨o', ho'⟩ := Option.isSome_iff_exists.mp hl.innermost
  rw [opened?_snoc, ho] at ho'
  have hopen : x.number ∈ o := by
    rw [eq_cons_of_nest_leave ho']
    exact List.mem_cons_self
  have hdistinct := hl.left.distinct
  rw [entered_append] at hdistinct
  have hnew : x.number ∉ entered b := (List.nodup_cons.mp (List.nodup_append.mp hdistinct).2.1).1
  intro t ht
  constructor
  · rintro y rfl heq
    exact hnew (heq ▸ List.mem_filterMap.mpr ⟨_, ht, rfl⟩)
  · rintro rfl
    exact ((areOpen hl.left.distinct ho).notLeft _ (by simp [ht])).2 hopen

/-- A context that is left brings back the id from right before it was entered. -/
theorem current_of_left (hl : IsNested (a ++ .enter x :: b ++ [.leave x.number])) (s : Contexts) :
    ∃ id, (s.run a).map Contexts.current = some id ∧
      (s.run (a ++ .enter x :: b ++ [.leave x.number])).map Contexts.current = some id := by
  obtain ⟨-, s', -, -, hrun, -⟩ := agrees_run hl s []
  rw [hrun]
  rw [Contexts.run_append, Option.bind_eq_some_iff] at hrun
  obtain ⟨s₂, hbefore, hleave⟩ := hrun
  rw [Contexts.run_append, Option.bind_eq_some_iff] at hbefore
  obtain ⟨s₁, ha, hb⟩ := hbefore
  have hkept : s₂.kept.lookup x.number = some s₁.current := by
    rw [lookup_run (s := s₁.enter x) (untouched_between hl) hb, Contexts.lookup_enter_self]
  rw [Contexts.run_singleton] at hleave
  obtain ⟨id, hid, rfl⟩ := Contexts.leave?_eq_some_iff.mp hleave
  rw [hkept] at hid
  cases hid
  exact ⟨s₁.current, congrArg (Option.map Contexts.current) ha, rfl⟩

/-- A run in a context of its own, whatever comes of it, leaves all contexts as they were. -/
lemma correlation_narrowSettings {w : Surroundings} {s : Settings} {ex : Selection.Extractors}
    {id : String} : (Selection.narrowSettings w s ex id c).2 = c := by
  unfold Selection.narrowSettings
  split_ifs <;> rfl

/-- **Contexts nest like a stack.** Where contexts are entered once each and the innermost is left
first, with ids set at any time, all turns can be taken. Right after a context is entered its own id
is the current one; right after it is left, the id is that from right before it was entered. The
stack has the same current id at any time. And settings that are narrowed leave the current id as it
was, whether they come back as they were, come back narrowed, or fail. -/
theorem contexts_nest (hl : IsNested l) (s : Contexts) :
    (s.run l).isSome = true ∧
    (∀ a x b, l = a ++ .enter x :: b →
      (s.run (a ++ [.enter x])).map Contexts.current = some (some x.id)) ∧
    (∀ a x b later, l = a ++ .enter x :: b ++ .leave x.number :: later →
      ∃ id, (s.run a).map Contexts.current = some id ∧
        (s.run (a ++ .enter x :: b ++ [.leave x.number])).map Contexts.current = some id) ∧
    (∀ a b saved, l = a ++ b →
      (Correlation.run ⟨s.current, saved⟩ a).map Correlation.current =
        (s.run a).map Contexts.current) ∧
    ∀ w settings ex id (c : Correlation),
      (Selection.narrowSettings w settings ex id c).2.current = c.current := by
  refine ⟨?_, ?_, ?_, ?_, fun w settings ex id c => by rw [correlation_narrowSettings]⟩
  · obtain ⟨-, s', -, -, hrun, -⟩ := agrees_run hl s []
    rw [hrun]
    rfl
  · rintro a x b rfl
    obtain ⟨-, s', -, -, hrun, -⟩ := agrees_run hl.left s []
    rw [Contexts.run_append, hrun]
    rfl
  · rintro a x b later rfl
    refine current_of_left (IsNested.left (b := later) ?_) s
    simpa using hl
  · rintro a b saved rfl
    obtain ⟨_, s', c', -, hs, hc, hagrees⟩ := agrees_run hl.left s saved
    rw [hs, hc]
    exact congrArg some hagrees.current

/-- Two contexts, one in the other, with ids set in both; the inner one has a generated id. -/
theorem brought_back_over_set_ids :
    let x : Context := .make 0 (some "a") "generated"
    let y : Context := .make 1 (some "") "generated"
    let l : List Turn := [.set (some "first"), .enter x, .set none, .enter y, .set (some "second"),
      .leave 1, .set (some "third"), .leave 0]
    let currentAfter (k : Nat) := ((Contexts.mk none []).run (l.take k)).map Contexts.current
    IsNested l ∧ currentAfter 4 = some (some "generated") ∧ currentAfter 6 = some none ∧
      currentAfter 8 = some (some "first") := by
  intro x y l currentAfter
  have hl : IsNested l := by decide
  obtain ⟨-, hentered, hleft, -, -⟩ := contexts_nest hl ⟨none, []⟩
  obtain ⟨id, hbefore, hafter⟩ := hleft [.set (some "first"), .enter x, .set none] y
    [.set (some "second")] [.set (some "third"), .leave 0] rfl
  obtain ⟨id', hbefore', hafter'⟩ := hleft [.set (some "first")] x
    [.set none, .enter y, .set (some "second"), .leave 1, .set (some "third")] [] rfl
  cases hbefore
  cases hbefore'
  refine ⟨hl, ?_, hafter, hafter'⟩
  exact hentered [.set (some "first"), .enter x, .set none] y
    [.set (some "second"), .leave 1, .set (some "third"), .leave 0] rfl

end Sieve.Log
