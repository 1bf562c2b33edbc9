import Sieve.Proofs.Selection.Safety
import Sieve.Selection.Pool

/-!
Checks side by side keep what checks one after the other keep.

A step changes one check and hands at most one slot over, so slots that are free and slots that are
held add up to the workers, and an answer stays with the file it is about. Each step also brings
one check nearer to its end, by one of three, so no order of steps goes on for ever; and while a
check is left, some check can go on.
-/

namespace Sieve.Selection

open Files Log

variable {f : Prefilter} {t : Tree} {cwd : Path} {files : List Path} {s s' : Pool} {i : Nat}
  {c c' : Stage} {r : Except LookFault Bool} {n n' : Nat} {order : List Nat}

/-! ### One check -/

namespace Stage

/-- The steps that a check has yet to take. -/
def left : Stage → Nat
  | waiting => 3
  | running => 2
  | answered _ => 1
  | ended _ => 0

/-- The check has given no answer but this one. -/
def IsFor (r : Except LookFault Bool) : Stage → Prop
  | waiting => True
  | running => True
  | answered r' => r' = r
  | ended r' => r' = r

/-- A step of a check, with the slots that are free before and after it. -/
inductive Goes (r : Except LookFault Bool) : Nat → Stage → Nat → Stage → Prop where
  | enters (n : Nat) : Goes r (n + 1) .waiting n .running
  | answers (n : Nat) : Goes r n .running n (.answered r)
  | leaves (n : Nat) (r' : Except LookFault Bool) : Goes r n (.answered r') (n + 1) (.ended r')

lemma Goes.slots_eq (h : Goes r n c n' c') : n' + c'.slots = n + c.slots := by
  cases h <;> simp [slots]

lemma Goes.left_eq (h : Goes r n c n' c') : c'.left + 1 = c.left := by
  cases h <;> rfl

lemma Goes.isFor (h : Goes r n c n' c') (hc : c.IsFor r) : c'.IsFor r := by
  cases h with
  | enters => trivial
  | answers => rfl
  | leaves => exact hc

/-- A check goes on unless it has ended, or waits while no slot is free. -/
lemma exists_goes (hended : c.isEnded = false) (hfree : c = .waiting → n ≠ 0) :
    ∃ n' c', Goes r n c n' c' := by
  cases c with
  | waiting =>
    obtain ⟨m, rfl⟩ := Nat.exists_eq_succ_of_ne_zero (hfree rfl)
    exact ⟨m, _, .enters m⟩
  | running => exact ⟨n, _, .answers n⟩
  | answered r' => exact ⟨n + 1, _, .leaves n r'⟩
  | ended r' => cases hended

end Stage

/-! ### One step -/

lemma advance_eq_some_iff :
    f.advance t cwd files s i = some s' ↔
      ∃ p c n c', files[i]? = some p ∧ s.checks[i]? = some c ∧
        Stage.Goes (f.keeps t cwd p).value s.free c n c' ∧ s' = ⟨n, s.checks.set i c'⟩ := by
  obtain ⟨free, checks⟩ := s
  unfold Prefilter.advance
  rcases files[i]? with _ | p
  · simp
  rcases checks[i]? with _ | c
  · simp
  constructor
  · intro h
    cases c with
    | waiting =>
      dsimp only at h
      split_ifs at h with hfree
      cases h
      obtain ⟨m, rfl⟩ := Nat.exists_eq_succ_of_ne_zero hfree
      exact ⟨p, _, m, _, rfl, rfl, .enters m, rfl⟩
    | running =>
      cases h
      exact ⟨p, _, free, _, rfl, rfl, .answers free, rfl⟩
    | answered r =>
      cases h
      exact ⟨p, _, free + 1, _, rfl, rfl, .leaves free r, rfl⟩
    | ended r => cases h
  · rintro ⟨p, c, n, c', ⟨⟩, ⟨⟩, hgoes, rfl⟩
    dsimp only at hgoes
    cases hgoes <;> rfl

/-- A change of one check changes a sum over all of them by what it changes of that one. -/
lemma total_set (g : Stage → Nat) (c' : Stage) {l : List Stage} (h : l[i]? = some c) :
    Stage.total g (l.set i c') + g c = Stage.total g l + g c' := by
  induction l generalizing i with
  | nil => simp at h
  | cons a l ih =>
    cases i with
    | zero =>
      obtain rfl : a = c := by simpa using h
      simp only [List.set_cons_zero, Stage.total]
      omega
    | succ i =>
      have := ih (by simpa using h)
      simp only [List.set_cons_succ, Stage.total]
      omega

lemma exists_of_total_pos {g : Stage → Nat} {l : List Stage} (h : 0 < Stage.total g l) :
    ∃ c ∈ l, 0 < g c := by
  induction l with
  | nil => exact absurd h (Nat.lt_irrefl 0)
  | cons a l ih =>
    rw [Stage.total] at h
    by_cases ha : g a = 0
    · obtain ⟨c, hc, hpos⟩ := ih (by omega)
      exact ⟨c, List.mem_cons_of_mem a hc, hpos⟩
    · exact ⟨a, List.mem_cons_self, by omega⟩

lemma total_pool (g : Stage → Nat) :
    Stage.total g (f.pool files).checks = g .waiting * files.length := by
  unfold Prefilter.pool
  dsimp only
  induction files with
  | nil => rfl
  | cons p files ih =>
    rw [List.map_cons, Stage.total, ih, List.length_cons, Nat.mul_succ, Nat.add_comm]

/-- The steps that are left. -/
def Pool.left (s : Pool) : Nat := Stage.total Stage.left s.checks

lemma left_advance (h : f.advance t cwd files s i = some s') : s'.left + 1 = s.left := by
  obtain ⟨p, c, n, c', -, hc, hgoes, rfl⟩ := advance_eq_some_iff.mp h
  have hsum := total_set Stage.left c' hc
  have hleft := hgoes.left_eq
  unfold Pool.left
  dsimp only
  omega

/-- Free slots and held ones are as many as the workers, and each answer is about its file. -/
structure Pool.IsSound (f : Prefilter) (t : Tree) (cwd : Path) (files : List Path) (s : Pool) :
    Prop where
  slots : s.free + s.busy = f.workers
  length : s.checks.length = files.length
  answers : ∀ (i : Nat) (p : Path) (c : Stage), files[i]? = some p → s.checks[i]? = some c →
    c.IsFor (f.keeps t cwd p).value

lemma isSound_pool : (f.pool files).IsSound f t cwd files where
  slots := by
    rw [Pool.busy, total_pool, Stage.slots, Nat.zero_mul]
    rfl
  length := by simp [Prefilter.pool]
  answers i p c hp hc := by
    simp only [Prefilter.pool, List.getElem?_map, hp, Option.map_some, Option.some.injEq] at hc
    subst hc
    trivial

/-- **A step keeps** the slots and the answers. -/
lemma isSound_advance (hs : s.IsSound f t cwd files) (h : f.advance t cwd files s i = some s') :
    s'.IsSound f t cwd files := by
  obtain ⟨p, c, n, c', hp, hc, hgoes, rfl⟩ := advance_eq_some_iff.mp h
  refine ⟨?_, ?_, ?_⟩
  · have hsum := total_set Stage.slots c' hc
    have hslots := hgoes.slots_eq
    have hworkers := hs.slots
    unfold Pool.busy at hworkers ⊢
    dsimp only
    omega
  · rw [List.length_set, hs.length]
  · intro j q d hq hd
    rw [List.getElem?_set] at hd
    split_ifs at hd with hij hlt
    · subst hij
      cases hd
      obtain rfl : p = q := Option.some.inj (hp.symm.trans hq)
      exact hgoes.isFor (hs.answers i p c hp hc)
    · exact hs.answers j q d hq hd

/-- **Some check can go on** until all have ended, for there is a worker. -/
lemma exists_advance (hworkers : f.workers ≠ 0) (hs : s.IsSound f t cwd files)
    (hdone : s.isDone = false) : ∃ i s', f.advance t cwd files s i = some s' := by
  -- It is enough to find a check that goes on: its file is at the same place.
  have hgoes : (∃ c ∈ s.checks, c.isEnded = false ∧ (c = .waiting → s.free ≠ 0)) →
      ∃ i s', f.advance t cwd files s i = some s' := by
    rintro ⟨c, hc, hended, hfree⟩
    obtain ⟨i, hi, hget⟩ := List.mem_iff_getElem.mp hc
    have hlt : i < files.length := hs.length ▸ hi
    obtain ⟨n, c', hgoes⟩ := Stage.exists_goes (r := (f.keeps t cwd files[i]).value) hended hfree
    exact ⟨i, _, advance_eq_some_iff.mpr ⟨files[i], c, n, c', List.getElem?_eq_getElem hlt,
      by rw [List.getElem?_eq_getElem hi, hget], hgoes, rfl⟩⟩
  obtain ⟨c, hc, hended⟩ : ∃ c ∈ s.checks, c.isEnded = false := by
    simpa [Pool.isDone] using hdone
  by_cases hfree : s.free = 0
  · -- All slots are held, and who holds one goes on.
    have hbusy : 0 < s.busy := by
      have := hs.slots
      omega
    obtain ⟨d, hd, hpos⟩ := exists_of_total_pos hbusy
    refine hgoes ⟨d, hd, ?_, ?_⟩
    · cases d with
      | ended r => exact absurd hpos (Nat.lt_irrefl 0)
      | _ => rfl
    · rintro rfl
      exact absurd hpos (Nat.lt_irrefl 0)
  · exact hgoes ⟨c, hc, hended, fun _ => hfree⟩

/-! ### All steps -/

lemma schedule_cons {order : List Nat} :
    f.schedule t cwd files s (i :: order) = some s' ↔
      ∃ next, f.advance t cwd files s i = some next ∧
        f.schedule t cwd files next order = some s' := by
  simp only [Prefilter.schedule, List.foldlM_cons, Option.bind_eq_bind, Option.bind_eq_some_iff]

lemma isSound_schedule (hs : s.IsSound f t cwd files)
    (h : f.schedule t cwd files s order = some s') : s'.IsSound f t cwd files := by
  induction order generalizing s with
  | nil =>
    cases h
    exact hs
  | cons i order ih =>
    obtain ⟨next, hstep, hrest⟩ := schedule_cons.mp h
    exact ih (isSound_advance hs hstep) hrest

lemma left_schedule (h : f.schedule t cwd files s order = some s') :
    order.length + s'.left = s.left := by
  induction order generalizing s with
  | nil =>
    cases h
    simp
  | cons i order ih =>
    obtain ⟨next, hstep, hrest⟩ := schedule_cons.mp h
    have hleft := left_advance hstep
    have hrest' := ih hrest
    rw [List.length_cons]
    omega

/-- Once all checks have ended, each has the answer about its file. -/
lemma checks_of_isDone (hs : s.IsSound f t cwd files) (hdone : s.isDone = true) :
    s.checks = files.map fun p => .ended (f.keeps t cwd p).value := by
  refine List.ext_getElem (by rw [hs.length, List.length_map]) fun i hi hfiles => ?_
  rw [List.length_map] at hfiles
  have hfor := hs.answers i files[i] s.checks[i] (List.getElem?_eq_getElem hfiles)
    (List.getElem?_eq_getElem hi)
  have hended : s.checks[i].isEnded = true :=
    List.all_eq_true.mp hdone _ (List.getElem_mem hi)
  rw [List.getElem_map]
  rcases hcheck : s.checks[i] with _ | _ | r | r
  · rw [hcheck] at hended
    cases hended
  · rw [hcheck] at hended
    cases hended
  · rw [hcheck] at hended
    cases hended
  · rw [hcheck] at hfor
    exact congrArg Stage.ended hfor

/-- The files that come back once all checks have ended without failing. -/
lemma returned?_of_checks (hchecks : s.checks = files.map fun p => .ended (f.keeps t cwd p).value)
    (hall : ∀ p ∈ files, ∃ b, (f.keeps t cwd p).value = .ok b) :
    s.returned? files = some (f.keptOf t cwd files) := by
  have hanswers : s.answers? =
      some (files.map fun p => decide ((f.keeps t cwd p).value = .ok true)) := by
    rw [Pool.answers?, hchecks]
    clear hchecks
    induction files with
    | nil => rfl
    | cons p files ih =>
      obtain ⟨b, hb⟩ := hall p List.mem_cons_self
      have hrest := ih fun q hq => hall q (List.mem_cons_of_mem p hq)
      rw [List.map_cons, List.mapM_cons, hrest, hb]
      cases b <;> simp [Stage.keep?, hb]
  rw [Pool.returned?, hanswers, Option.map_some, Prefilter.keptOf]
  congr 1
  clear hanswers hchecks hall
  induction files with
  | nil => rfl
  | cons p files ih =>
    simp only [List.map_cons, List.zip_cons_cons, List.filter_cons]
    split_ifs with hkeep
    · rw [List.map_cons, ih]
    · exact ih

/-- **Whatever the order of the steps**, at most as many checks run at once as there are workers,
and at least one worker there is; some check can go on until all have ended, after three steps
each. Then each has the answer about its own file. If none failed, the files that come back are
those that are kept, in their order and as often as they are listed, as when one file is looked at
after the other. -/
theorem returned_whatever_order (title tags : Option String) (ex : Extractors) (workers : Int)
    (t : Tree) (cwd : Path) (files : List Path) (order : List Nat) (s : Pool) :
    let f := Prefilter.ofExpressions title tags ex workers
    f.schedule t cwd files (f.pool files) order = some s →
      (s.busy : Int) ≤ max 1 workers ∧
      (s.isDone = false → ∃ i s', f.advance t cwd files s i = some s') ∧
      order.length + s.left = 3 * files.length ∧
      (s.isDone = true → s.checks = files.map fun p => .ended (f.keeps t cwd p).value) ∧
      ((∀ c ∈ s.checks, ∃ b, c = .ended (.ok b)) →
        s.returned? files = some (files.filter fun p => (f.keeps t cwd p).value = .ok true) ∧
        (f.run t cwd files).value =
          .ok (files.filter fun p => (f.keeps t cwd p).value = .ok true)) := by
  intro f hschedule
  have hworkers : (f.workers : Int) = max 1 workers := Int.toNat_of_nonneg (by omega)
  have hsound : s.IsSound f t cwd files := isSound_schedule isSound_pool hschedule
  refine ⟨?_, ?_, ?_, ?_, ?_⟩
  · have := hsound.slots
    omega
  · intro hdone
    exact exists_advance (by omega) hsound hdone
  · have hstart : (f.pool files).left = 3 * files.length := total_pool Stage.left
    rw [← hstart, left_schedule hschedule]
  · intro hdone
    exact checks_of_isDone hsound hdone
  · intro hended
    have hdone : s.isDone = true := by
      refine List.all_eq_true.mpr fun c hc => ?_
      obtain ⟨b, rfl⟩ := hended c hc
      rfl
    have hchecks := checks_of_isDone hsound hdone
    have hall : ∀ p ∈ files, ∃ b, (f.keeps t cwd p).value = .ok b := by
      intro p hp
      obtain ⟨b, hb⟩ := hended (.ended (f.keeps t cwd p).value)
        (hchecks ▸ List.mem_map_of_mem hp)
      exact ⟨b, Stage.ended.inj hb⟩
    exact ⟨returned?_of_checks hchecks hall, Prefilter.run_eq_ok_iff.mpr ⟨hall, rfl⟩⟩

/-! ### Two workers on three files -/

/-- The steps of three checks for two slots: the second check ends before the first. -/
def threeChecks : List Nat := [0, 1, 1, 1, 2, 2, 0, 0, 2]

def logFilter : Prefilter := .ofExpressions (some "log") none wholeTexts 2

lemma keeps_pathA : (logFilter.keeps twoFiles.tree twoFiles.cwd pathA).value = .ok true :=
  eq_ok_of_toOption (by decide +kernel)

lemma keeps_pathB : (logFilter.keeps twoFiles.tree twoFiles.cwd pathB).value = .ok false :=
  eq_ok_of_toOption (by decide +kernel)

lemma schedule_threeChecks :
    logFilter.schedule twoFiles.tree twoFiles.cwd [pathA, pathB, pathA]
        (logFilter.pool [pathA, pathB, pathA]) threeChecks =
      some ⟨2, [.ended (.ok true), .ended (.ok false), .ended (.ok true)]⟩ := by
  have hpool : logFilter.pool [pathA, pathB, pathA] = ⟨2, [.waiting, .waiting, .waiting]⟩ := rfl
  rw [hpool]
  simp [threeChecks, Prefilter.schedule, Prefilter.advance, keeps_pathA, keeps_pathB]

/-- A file that is listed twice and kept comes back twice. -/
theorem returned_for_three_checks :
    (⟨2, [.ended (.ok true), .ended (.ok false), .ended (.ok true)]⟩ : Pool).returned?
      [pathA, pathB, pathA] = some [pathA, pathA] := by
  obtain ⟨-, -, -, -, hreturned⟩ := returned_whatever_order (some "log") none wholeTexts 2
    twoFiles.tree twoFiles.cwd [pathA, pathB, pathA] threeChecks _ schedule_threeChecks
  obtain ⟨hfiles, -⟩ := hreturned (by simp)
  rw [hfiles]
  have hA := keeps_pathA
  have hB := keeps_pathB
  unfold logFilter at hA hB
  simp [hA, hB]

end Sieve.Selection
