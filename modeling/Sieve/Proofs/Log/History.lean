import Sieve.Log.Event
import Sieve.Proofs.Log.Threshold
import Mathlib.Data.List.Induction

/-!
Levels of modules that are set and cleared.

Whatever the changes, each module that has been set since the last clearing has the level to which
it was set last, and no other module has one. An event of a part is dropped if it weighs less than
the level of the longest of these modules that covers the part. So it does not count in which order
they were set, and a module that merely begins like the name of another one does not count for it.
-/

namespace Sieve.Log.Levels

variable {t t' : Levels} {e : String × Int} {m n logger call : String} {θ θ' weight : Int}

/-- A change of the levels. -/
inductive Change where
  | set (module : String) (level : Int)
  | clear
deriving DecidableEq, Repr

def change (t : Levels) : Change → Levels
  | .set m θ => t.set m θ
  | .clear => []

/-- The levels after changes in their order. -/
def after (l : List Change) : Levels := l.foldl change []

/-- The module has been set to the level; since then the levels have not been cleared, and the
module has not been set. -/
def IsSet (l : List Change) (m : String) (θ : Int) : Prop :=
  ∃ before later, l = before ++ .set m θ :: later ∧
    ∀ c ∈ later, c ≠ .clear ∧ ∀ θ', c ≠ .set m θ'

/-- The longest module with a name that is set and covers the part, and its level. -/
structure IsNearestSet (l : List Change) (logger m : String) (θ : Int) : Prop where
  isSet : IsSet l m θ
  named : m ≠ ""
  covers : Covers m logger
  longest : ∀ n θ', IsSet l n θ' → Covers n logger → n.length ≤ m.length

/-! ### Modules that are set -/

lemma map_fst_set (t : Levels) (m : String) (θ : Int) :
    (t.set m θ).map Prod.fst =
      if m ∈ t.map Prod.fst then t.map Prod.fst else t.map Prod.fst ++ [m] := by
  induction t with
  | nil => rfl
  | cons e t ih =>
    rw [set]
    by_cases hm : e.1 = m
    · simp [hm]
    · simp only [if_neg hm, List.map_cons, ih, List.mem_cons, Ne.symm hm, false_or]
      split_ifs <;> rfl

lemma IsTable.set (ht : IsTable t) (m : String) (θ : Int) : IsTable (t.set m θ) := by
  unfold IsTable at ht ⊢
  rw [map_fst_set]
  split_ifs with hm
  · exact ht
  · exact List.nodup_append_comm.mp (List.nodup_cons.mpr ⟨hm, ht⟩)

lemma mem_set_iff (ht : IsTable t) : e ∈ t.set m θ ↔ e = (m, θ) ∨ e ∈ t ∧ e.1 ≠ m := by
  induction t with
  | nil => simp [Levels.set]
  | cons e' t ih =>
    obtain ⟨hnew, ht'⟩ := List.nodup_cons.mp ht
    rw [Levels.set]
    by_cases hm : e'.1 = m
    · have hother : e ∈ t → e.1 ≠ m := by
        rintro he rfl
        exact hnew (hm ▸ List.mem_map_of_mem he)
      rw [if_pos hm, List.mem_cons, List.mem_cons, hm]
      refine or_congr_right ⟨fun he => ⟨Or.inr he, hother he⟩, ?_⟩
      rintro ⟨rfl | he, hne⟩
      · exact absurd hm hne
      · exact he
    · rw [if_neg hm, List.mem_cons, List.mem_cons, ih ht']
      grind

lemma after_snoc (l : List Change) (c : Change) : after (l ++ [c]) = change (after l) c := by
  rw [after, List.foldl_append]
  rfl

lemma isTable_after (l : List Change) : IsTable (after l) := by
  induction l using List.reverseRecOn with
  | nil => exact List.nodup_nil
  | append_singleton l c ih =>
    rw [after_snoc]
    cases c with
    | set m θ => exact ih.set m θ
    | clear => exact List.nodup_nil

lemma isSet_snoc_clear (l : List Change) : ¬ IsSet (l ++ [.clear]) m θ := by
  rintro ⟨before, later, heq, hlater⟩
  rcases List.eq_nil_or_concat later with rfl | ⟨later, c, rfl⟩
  · cases (List.append_inj' heq rfl).2
  · rw [List.concat_eq_append, ← List.cons_append, ← List.append_assoc] at heq
    cases (List.append_inj' heq rfl).2
    exact (hlater .clear (by simp)).1 rfl

/-- What is set by a last change, or was set before it and is left alone by it. -/
lemma isSet_snoc_set (l : List Change) :
    IsSet (l ++ [.set n θ']) m θ ↔ (m, θ) = (n, θ') ∨ IsSet l m θ ∧ m ≠ n := by
  constructor
  · rintro ⟨before, later, heq, hlater⟩
    rcases List.eq_nil_or_concat later with rfl | ⟨later, c, rfl⟩
    · cases (List.append_inj' heq rfl).2
      exact Or.inl rfl
    · rw [List.concat_eq_append, ← List.cons_append, ← List.append_assoc] at heq
      obtain ⟨rfl, hc⟩ := List.append_inj' heq rfl
      cases hc
      refine Or.inr ⟨⟨before, later, rfl, fun c hc => hlater c (by simp [hc])⟩, ?_⟩
      rintro rfl
      exact (hlater (.set m θ') (by simp)).2 θ' rfl
  · rintro (heq | ⟨⟨before, later, rfl, hlater⟩, hne⟩)
    · cases heq
      exact ⟨l, [], rfl, List.forall_mem_nil _⟩
    · refine ⟨before, later ++ [.set n θ'], by simp, fun c hc => ?_⟩
      rcases List.mem_append.mp hc with hc | hc
      · exact hlater c hc
      · rw [List.mem_singleton.mp hc]
        exact ⟨Change.noConfusion, fun _ h => hne (Change.set.inj h).1.symm⟩

/-- **What the levels are** after any changes. -/
theorem mem_after_iff (l : List Change) : (m, θ) ∈ after l ↔ IsSet l m θ := by
  -- From the end: the last change decides before all others.
  induction l using List.reverseRecOn with
  | nil =>
    refine iff_of_false List.not_mem_nil ?_
    rintro ⟨before, later, heq, -⟩
    simp at heq
  | append_singleton l c ih =>
    rw [after_snoc]
    cases c with
    | set n θ' => rw [isSet_snoc_set, ← ih, change, mem_set_iff (isTable_after l)]
    | clear => exact iff_of_false List.not_mem_nil (isSet_snoc_clear l)

lemma isNearest_after_iff (l : List Change) :
    IsNearest (after l) logger (m, θ) ↔ IsNearestSet l logger m θ := by
  constructor
  · rintro ⟨hmem, hnamed, hcovers, hlongest⟩
    exact ⟨(mem_after_iff l).mp hmem, hnamed, hcovers, fun n θ' hset =>
      hlongest (n, θ') ((mem_after_iff l).mpr hset)⟩
  · rintro ⟨hset, hnamed, hcovers, hlongest⟩
    exact ⟨(mem_after_iff l).mpr hset, hnamed, hcovers, fun e he =>
      hlongest e.1 e.2 ((mem_after_iff l).mp he)⟩

/-! ### Tables with the same levels -/

lemma get?_eq_some_iff (ht : IsTable t) : t.get? m = some θ ↔ (m, θ) ∈ t := by
  unfold get?
  induction t with
  | nil => simp
  | cons e t ih =>
    obtain ⟨n, θ'⟩ := e
    obtain ⟨hnew, ht'⟩ := List.nodup_cons.mp ht
    rw [List.lookup_cons, List.mem_cons, Prod.mk.injEq]
    by_cases hm : m = n
    · subst hm
      have hnot : (m, θ) ∉ t := fun hmem => hnew (List.mem_map.mpr ⟨_, hmem, rfl⟩)
      simp [hnot, eq_comm]
    · simp [hm, beq_eq_false_iff_ne.mpr hm, ih ht']

lemma mem_iff_of_get? (ht : IsTable t) (ht' : IsTable t') (h : ∀ m, t'.get? m = t.get? m) :
    e ∈ t' ↔ e ∈ t := by
  rw [← get?_eq_some_iff ht (m := e.1), ← get?_eq_some_iff ht' (m := e.1), h]

/-- What is nearest depends only on the entries that cover the part. -/
lemma isNearest_congr (h : ∀ e, Covers e.1 logger → (e ∈ t' ↔ e ∈ t)) :
    IsNearest t' logger e ↔ IsNearest t logger e := by
  constructor
  · rintro ⟨hmem, hnamed, hcovers, hlongest⟩
    exact ⟨(h e hcovers).mp hmem, hnamed, hcovers, fun e' he' hcovers' =>
      hlongest e' ((h e' hcovers').mpr he') hcovers'⟩
  · rintro ⟨hmem, hnamed, hcovers, hlongest⟩
    exact ⟨(h e hcovers).mpr hmem, hnamed, hcovers, fun e' he' hcovers' =>
      hlongest e' ((h e' hcovers').mp he') hcovers'⟩

lemma refuses_iff_isNearest (ht : IsTable t) :
    t.refuses logger weight = true ↔ ∃ m θ, IsNearest t logger (m, θ) ∧ weight < θ := by
  simp only [refuses, threshold?, ← nearest?_eq_some_iff ht, Option.any_eq_true,
    Option.map_eq_some_iff, decide_eq_true_eq]
  constructor
  · rintro ⟨θ, ⟨⟨m, θ⟩, hnearest, rfl⟩, hlt⟩
    exact ⟨m, θ, hnearest, hlt⟩
  · rintro ⟨m, θ, hnearest, hlt⟩
    exact ⟨θ, ⟨(m, θ), hnearest, rfl⟩, hlt⟩

lemma refuses_congr (ht : IsTable t) (ht' : IsTable t')
    (h : ∀ e, IsNearest t' logger e ↔ IsNearest t logger e) :
    t'.refuses logger weight = t.refuses logger weight := by
  rw [Bool.eq_iff_iff, refuses_iff_isNearest ht, refuses_iff_isNearest ht']
  simp only [h]

/-- Tables with the same levels let the same events pass. -/
theorem sift_congr (ht : IsTable t) (ht' : IsTable t') (h : ∀ m, t'.get? m = t.get? m) :
    t'.sift = t.sift := by
  have hmem : ∀ e, e ∈ t' ↔ e ∈ t := fun e => mem_iff_of_get? ht ht' h
  have hempty : t'.isEmpty = t.isEmpty := by
    rw [Bool.eq_iff_iff, List.isEmpty_iff, List.isEmpty_iff, List.eq_nil_iff_forall_not_mem,
      List.eq_nil_iff_forall_not_mem]
    simp only [hmem]
  funext call e
  unfold sift admits
  simp only [hempty, refuses_congr ht ht' fun e => isNearest_congr fun e _ => hmem e]

/-! ### Modules that do not cover a part -/

/-- A module that only begins like another one covers nothing that the other covers. -/
lemma not_covers_of_prefix (hn : Covers n logger) (hbegins : m.toList <+: n.toList)
    (hplain : ¬ Covers m n) : ¬ Covers m logger := by
  obtain ⟨rest, hrest⟩ := hbegins
  rcases hn with rfl | ⟨below, hbelow⟩
  · exact hplain
  rintro (rfl | ⟨tail, htail⟩)
  · have hlength := congrArg List.length hbelow
    rw [← hrest] at hlength
    simp at hlength
  · rw [← htail, ← hrest, List.append_assoc, List.append_assoc, List.append_assoc,
      List.append_cancel_left_eq] at hbelow
    rcases rest with _ | ⟨c, rest⟩
    · rw [List.append_nil] at hrest
      exact hplain (Or.inl (String.toList_injective hrest).symm)
    · cases (List.cons.inj hbelow).1
      exact hplain (Or.inr ⟨rest, by simpa using hrest⟩)

/-- To set a module leaves the others as they were, whatever happens after that. -/
lemma isSet_insert {a b : List Change} (hne : m ≠ n) :
    IsSet (a ++ .set n θ' :: b) m θ ↔ IsSet (a ++ b) m θ := by
  induction b using List.reverseRecOn with
  | nil =>
    rw [isSet_snoc_set, List.append_nil]
    simp [hne]
  | append_singleton b c ih =>
    rw [← List.cons_append, ← List.append_assoc, ← List.append_assoc]
    cases c with
    | set k θ => rw [isSet_snoc_set, isSet_snoc_set, ih]
    | clear => exact iff_of_false (isSet_snoc_clear _) (isSet_snoc_clear _)

lemma isNearest_after_insert {a b : List Change} (hn : ¬ Covers n logger) :
    IsNearest (after (a ++ .set n θ' :: b)) logger e ↔ IsNearest (after (a ++ b)) logger e := by
  refine isNearest_congr fun ⟨m, θ⟩ hm => ?_
  have hne : m ≠ n := fun heq => hn (heq ▸ hm)
  rw [mem_after_iff, mem_after_iff, isSet_insert hne]

/-! ### Events -/

lemma sift_of_named {e : Event} (he : Value.lookup e "logger" = some (.str logger))
    (hlogger : logger ≠ "") :
    t.sift call e = .ok (if t.refuses logger (weightOfCall call) then none else some e) := by
  have htruthy : (Value.str logger).isTruthy = true := by simpa [Value.isTruthy] using hlogger
  unfold sift admits
  simp only [he, Option.getD_some, htruthy, Bool.not_true, Bool.or_false]
  rcases t with _ | ⟨entry, t⟩
  · rfl
  · rcases refuses (entry :: t) logger (weightOfCall call) <;> rfl

/-- **The most specific module decides**, whatever the order in which modules were set. An event of
a part with a name is dropped if and only if it weighs less than the level of the longest module
that is set and covers the part, and passes as it is otherwise. Changes that lead to the same levels
let the same events pass, and to set a module that only begins like one that covers the part changes
nothing for the event. -/
theorem dropped_below_nearest (l : List Change) (call : String) {e : Event} {logger : String}
    (he : Value.lookup e "logger" = some (.str logger)) (hlogger : logger ≠ "") :
    ((after l).sift call e = .ok none ↔
      ∃ m θ, IsNearestSet l logger m θ ∧ weightOfCall call < θ) ∧
    ((after l).sift call e ≠ .ok none → (after l).sift call e = .ok (some e)) ∧
    (∀ l', (∀ m, (after l').get? m = (after l).get? m) → (after l').sift = (after l).sift) ∧
    ∀ a b m n θ, l = a ++ b → Covers n logger → m.toList <+: n.toList → ¬ Covers m n →
      (after (a ++ .set m θ :: b)).sift call e = (after l).sift call e := by
  refine ⟨?_, ?_, fun l' h => sift_congr (isTable_after l) (isTable_after l') h, ?_⟩
  · simp only [sift_of_named he hlogger, ← isNearest_after_iff,
      ← refuses_iff_isNearest (isTable_after l)]
    split_ifs with hrefuses <;> simp [hrefuses]
  · rw [sift_of_named he hlogger]
    split_ifs <;> simp
  · rintro a b m n θ rfl hn hbegins hplain
    have hcovers : ¬ Covers m logger := not_covers_of_prefix hn hbegins hplain
    rw [sift_of_named he hlogger, sift_of_named he hlogger,
      refuses_congr (isTable_after _) (isTable_after _) fun e => isNearest_after_insert hcovers]

/-- A module that is set anew after a clearing, one without a name, and one that only begins like
the module of the part. -/
theorem dropped_below_the_last_level :
    let e : Event := [(.str "event", .str "x"), (.str "logger", .str "ab.c")]
    let l : List Change := [.set "ab.c" 50, .clear, .set "ab" 10, .set "" 50, .set "ab" 40]
    (after l).sift "warning" e = .ok none ∧ (after l).sift "error" e = .ok (some e) ∧
      (after (l ++ [.set "a" 50])).sift "error" e = .ok (some e) := by
  intro e l
  have hnearest : IsNearest (after l) "ab.c" ("ab", 40) :=
    (nearest?_eq_some_iff (isTable_after l)).mp (by decide +kernel)
  have hdrops := (dropped_below_nearest l "warning" (e := e) rfl (by decide)).1
  obtain ⟨hdropped, hpasses, -, hplain⟩ := dropped_below_nearest l "error" (e := e) rfl (by decide)
  have hpassed : (after l).sift "error" e = .ok (some e) := by
    refine hpasses fun h => ?_
    obtain ⟨m, θ, hm, hlt⟩ := hdropped.mp h
    cases hnearest.unique (isTable_after l) ((isNearest_after_iff l).mpr hm)
    exact absurd hlt (by decide)
  refine ⟨hdrops.mpr ⟨"ab", 40, (isNearest_after_iff l).mp hnearest, by decide⟩, hpassed, ?_⟩
  rw [hplain l [] "a" "ab" 50 (List.append_nil l).symm (covers_iff.mp (by decide)) (by decide)
    (mt covers_iff.mpr (by decide)), hpassed]

end Sieve.Log.Levels
