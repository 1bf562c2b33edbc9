import Sieve.Proofs.Log.Refusal
import Mathlib.Data.List.Nodup

/-!
Levels of modules as thresholds.

The nearest module of a part is the longest one that is the part or that the part lies below, in
whatever order the modules stand. Its level raises the level for all, but never lowers it: what
weighs less than the level for all is not written, whatever the module says. And what passes that
but weighs less than the level of its module ends the run.
-/

namespace Sieve.Log

variable {modules : List (String × Int)} {logger m n : String} {l level θ : Int}

namespace Levels

variable {t : Levels} {e e' : String × Int} {best : Option (String × Int)}

/-! ### Tables -/

/-- Each module stands once. -/
def IsTable (t : Levels) : Prop := (t.map Prod.fst).Nodup

instance (t : Levels) : Decidable (IsTable t) := inferInstanceAs (Decidable (List.Nodup _))

lemma set_of_notMem (h : m ∉ t.map Prod.fst) : t.set m l = t ++ [(m, l)] := by
  induction t with
  | nil => rfl
  | cons e t ih =>
    rw [List.map_cons, List.mem_cons, not_or] at h
    rw [set, if_neg (Ne.symm h.1), ih h.2]
    rfl

/-- Modules that are set one after the other are the table. -/
lemma foldl_set (h : IsTable (t ++ modules)) :
    modules.foldl (fun t e => set t e.1 e.2) t = t ++ modules := by
  induction modules generalizing t with
  | nil => exact (List.append_nil t).symm
  | cons e modules ih =>
    have hnew : e.1 ∉ t.map Prod.fst := by
      rw [IsTable, List.map_append, List.nodup_append] at h
      exact fun hmem => h.2.2 _ hmem _ List.mem_cons_self rfl
    rw [List.foldl_cons, set_of_notMem hnew, ih (by simpa [IsTable] using h), List.append_assoc]
    rfl

/-! ### The nearest module -/

/-- The module is the part of the program, or its name and a dot begin that of the part. -/
def Covers (module logger : String) : Prop :=
  logger = module ∨ module.toList ++ ['.'] <+: logger.toList

lemma covers_iff : covers m logger = true ↔ Covers m logger := by
  simp [covers, Covers]

lemma prefix_of_covers (h : Covers m logger) : m.toList <+: logger.toList := by
  rcases h with rfl | hbelow
  · exact List.prefix_refl _
  · exact (List.prefix_append _ _).trans hbelow

/-- Of one length there is one module that covers a part. -/
lemma eq_of_covers (hm : Covers m logger) (hn : Covers n logger)
    (hlength : m.length = n.length) : m = n := by
  rw [← String.length_toList, ← String.length_toList] at hlength
  have hbegins : m.toList <+: n.toList :=
    List.prefix_of_prefix_length_le (prefix_of_covers hm) (prefix_of_covers hn)
      (Nat.le_of_eq hlength)
  exact String.toList_injective (hbegins.eq_of_length hlength)

/-- The entry of the longest module with a name that covers the part. -/
structure IsNearest (t : Levels) (logger : String) (e : String × Int) : Prop where
  mem : e ∈ t
  named : e.1 ≠ ""
  covers : Covers e.1 logger
  longest : ∀ e' ∈ t, Covers e'.1 logger → e'.1.length ≤ e.1.length

lemma IsNearest.unique (ht : IsTable t) (h : IsNearest t logger e) (h' : IsNearest t logger e') :
    e = e' := by
  have hlength : e.1.length = e'.1.length :=
    Nat.le_antisymm (h'.longest e h.mem h.covers) (h.longest e' h'.mem h'.covers)
  exact List.inj_on_of_nodup_map ht h.mem h'.mem (eq_of_covers h.covers h'.covers hlength)

/-- The length of the name of the best module so far. -/
def nameLength (best : Option (String × Int)) : Nat := (best.map (·.1.length)).getD 0

/-- A step takes a module that covers the part and has a longer name. -/
lemma better_cases (logger : String) (best : Option (String × Int)) (e : String × Int) :
    (better logger best e = best ∧ (Covers e.1 logger → e.1.length ≤ nameLength best)) ∨
      (better logger best e = some e ∧ Covers e.1 logger ∧
        nameLength best < e.1.length) := by
  unfold better
  dsimp only
  split_ifs with h
  · simp only [Bool.and_eq_true, decide_eq_true_eq, covers_iff] at h
    exact Or.inr ⟨rfl, h⟩
  · simp only [Bool.and_eq_true, decide_eq_true_eq, covers_iff, not_and, Nat.not_lt] at h
    exact Or.inl ⟨rfl, h⟩

/-- What is best in the end is best of all, and has a longer name than what was best before. -/
lemma foldl_better {r : Option (String × Int)} (h : t.foldl (better logger) best = r) :
    (∀ e ∈ t, Covers e.1 logger → e.1.length ≤ nameLength r) ∧
      (r = best ∨ nameLength best < nameLength r ∧
        ∃ e ∈ t, r = some e ∧ Covers e.1 logger) := by
  induction t generalizing best with
  | nil => exact ⟨List.forall_mem_nil _, Or.inl h.symm⟩
  | cons e t ih =>
    obtain ⟨hlongest, hr⟩ := ih h
    rcases better_cases logger best e with ⟨hsame, hshort⟩ | ⟨hnew, hcovers, hlonger⟩
    · rw [hsame] at hr
      refine ⟨List.forall_mem_cons.mpr ⟨fun hcovers => ?_, hlongest⟩, ?_⟩
      · rcases hr with rfl | ⟨hlt, -⟩
        · exact hshort hcovers
        · exact Nat.le_trans (hshort hcovers) (Nat.le_of_lt hlt)
      · refine hr.imp_right fun ⟨hlt, e', he', hr⟩ => ⟨hlt, e', List.mem_cons_of_mem _ he', hr⟩
    · rw [hnew] at hr
      change r = some e ∨ e.1.length < nameLength r ∧ _ at hr
      refine ⟨List.forall_mem_cons.mpr ⟨fun _ => ?_, hlongest⟩, Or.inr ?_⟩
      · rcases hr with rfl | ⟨hlt, -⟩
        · exact Nat.le_refl _
        · exact Nat.le_of_lt hlt
      · rcases hr with rfl | ⟨hlt, e', he', hr⟩
        · exact ⟨hlonger, e, List.mem_cons_self, rfl, hcovers⟩
        · exact ⟨Nat.lt_trans hlonger hlt, e', List.mem_cons_of_mem _ he', hr⟩

/-- **The most specific module** is the longest one that covers the part. -/
theorem nearest?_eq_some_iff (ht : IsTable t) :
    t.nearest? logger = some e ↔ IsNearest t logger e := by
  have hsound : ∀ {e}, t.nearest? logger = some e → IsNearest t logger e := by
    intro e h
    obtain ⟨hlongest, hnone | ⟨hlength, e', he', heq, hcovers⟩⟩ := foldl_better h
    · cases hnone
    · obtain rfl := Option.some.inj heq
      refine ⟨he', ?_, hcovers, hlongest⟩
      rintro hempty
      change 0 < e.1.length at hlength
      rw [hempty] at hlength
      exact absurd hlength (by decide)
  refine ⟨hsound, fun h => ?_⟩
  rcases hr : t.nearest? logger with _ | e'
  · obtain ⟨hlongest, -⟩ := foldl_better hr
    have hempty : e.1.length = 0 := Nat.le_zero.mp (hlongest e h.mem h.covers)
    exact absurd (String.length_eq_zero_iff.mp hempty) h.named
  · rw [(hsound hr).unique ht h]

end Levels

open Levels (IsTable IsNearest)

/-! ### Thresholds -/

/-- The level that an event of a part has to reach: that of its nearest module, or that for all if
no module with a name covers it. -/
inductive IsThreshold (modules : Levels) (level : Int) (logger : String) : Int → Prop
  | module {m : String} {l : Int} : IsNearest modules logger (m, l) →
    IsThreshold modules level logger l
  | global : (∀ e, ¬ IsNearest modules logger e) → IsThreshold modules level logger level

lemma isThreshold_iff (ht : IsTable modules) : IsThreshold modules level logger θ ↔
    θ = (Levels.threshold? modules logger).getD level := by
  unfold Levels.threshold?
  rcases hnearest : Levels.nearest? modules logger with _ | ⟨m, l⟩
  · have hnone : ∀ e, ¬ IsNearest modules logger e := by
      intro e he
      rw [← Levels.nearest?_eq_some_iff ht, hnearest] at he
      cases he
    constructor
    · rintro (he | -)
      · exact absurd he (hnone _)
      · rfl
    · rintro rfl
      exact .global hnone
  · have he := (Levels.nearest?_eq_some_iff ht).mp hnearest
    constructor
    · rintro (he' | hnone)
      · exact congrArg Prod.snd (he'.unique ht he)
      · exact absurd he (hnone _)
    · rintro rfl
      exact .module he

/-- Of what passes the level for all, that below the threshold is refused. -/
lemma refuses_iff {weight : Int} (ht : IsTable modules)
    (hθ : IsThreshold modules level logger θ) (hlevel : level ≤ weight) :
    Levels.refuses modules logger weight = true ↔ weight < θ := by
  rw [(isThreshold_iff ht).mp hθ, Levels.refuses]
  rcases Levels.threshold? modules logger with _ | l
  · simpa using hlevel
  · simp

namespace Setup

/-- A setup that is asked for anew has the levels of modules that are given. -/
lemma modules_configure_reset (v : Setup) {t : Files.Tree} {cwd : Files.Path}
    (hmodules : IsTable modules) :
    (v.reset.configure t cwd ⟨level, .none, modules⟩).1 =
      ⟨level, [.console], modules, v.reset.correlation⟩ := by
  rw [configure_of_none rfl]
  change Setup.mk level [.console] (modules.foldl (fun t e => Levels.set t e.1 e.2) []) _ = _
  rw [Levels.foldl_set (show IsTable ([] ++ modules) from hmodules), List.nil_append]
  rfl

/-- **What becomes of an event**: it is not written below the level for all; else it is written from
the threshold on, and refused below it. -/
theorem emit_cases {u : Setup} (hsinks : u.sinks ≠ []) (hmodules : IsTable u.modules)
    (stamp : Stamp) (message : String) (weight : Level)
    (hθ : IsThreshold u.modules u.level (nameOf logger) θ) :
    (weight.number < u.level ∧ u.emit stamp logger weight.number message = .silent) ∨
    (u.level ≤ weight.number ∧ weight.number < θ ∧
      u.emit stamp logger weight.number message = .refused) ∨
    (u.level ≤ weight.number ∧ θ ≤ weight.number ∧
      ∃ e, u.emit stamp logger weight.number message = .written e) := by
  have hpos : ¬ weight.number ≤ 0 := Int.not_le.mpr (number_pos weight)
  have hsome : u.sinks.isEmpty = false := by simpa using hsinks
  unfold emit
  simp only [weightOfCall_callOf, hsome, hpos, decide_false, Bool.false_or, decide_eq_true_eq,
    Bool.false_eq_true, if_false]
  by_cases hlevel : u.level ≤ weight.number
  · rw [if_neg (Int.not_lt.mpr hlevel)]
    have hrefuses := refuses_iff hmodules hθ hlevel
    by_cases hlt : weight.number < θ
    · rw [if_pos (hrefuses.mpr hlt)]
      exact Or.inr (Or.inl ⟨hlevel, hlt, rfl⟩)
    · rw [if_neg (mt hrefuses.mp hlt)]
      exact Or.inr (Or.inr ⟨hlevel, Int.not_lt.mp hlt, _, rfl⟩)
  · rw [if_pos (Int.not_le.mp hlevel)]
    exact Or.inl ⟨Int.not_le.mp hlevel, rfl⟩

/-- **Levels of modules override in one direction only.** In a setup that is made anew, each part
has one threshold. An event is written if it reaches both that and the level for all. One that
reaches the level for all and not the threshold is refused, which ends the run. So an event is
written by its threshold alone, except where it reaches that but not the level for all. -/
theorem written_by_threshold_iff (hmodules : IsTable modules) (v : Setup) (t : Files.Tree)
    (cwd : Files.Path) (level : Int) (logger message : String) (stamp : Stamp) (weight : Level) :
    ∃ θ, (∀ θ', IsThreshold modules level (nameOf logger) θ' ↔ θ' = θ) ∧
      let x := (v.reset.configure t cwd ⟨level, .none, modules⟩).1.emit stamp logger weight.number
        message
      ((∃ e, x = .written e) ↔ level ≤ weight.number ∧ θ ≤ weight.number) ∧
      (x = .refused ↔ level ≤ weight.number ∧ weight.number < θ) ∧
      (x = .silent ↔ weight.number < level) ∧
      (((∃ e, x = .written e) ↔ θ ≤ weight.number) ↔
        ¬ (θ ≤ weight.number ∧ weight.number < level)) := by
  refine ⟨_, fun θ' => isThreshold_iff hmodules, ?_⟩
  generalize hθ : (Levels.threshold? modules (nameOf logger)).getD level = θ
  rw [modules_configure_reset v hmodules]
  intro x
  have hcases := emit_cases (u := ⟨level, [.console], modules, v.reset.correlation⟩)
    (List.cons_ne_nil _ _) hmodules stamp message weight ((isThreshold_iff hmodules).mpr hθ.symm)
  change (weight.number < level ∧ x = _) ∨ (level ≤ _ ∧ _ ∧ x = _) ∨ (level ≤ _ ∧ _ ∧ ∃ e, x = _)
    at hcases
  rcases hcases with ⟨hlt, hx⟩ | ⟨hle, hlt, hx⟩ | ⟨hle, hθle, e, hx⟩
  · simp only [hx, reduceCtorEq, exists_false, false_iff, true_iff]
    omega
  · simp only [hx, reduceCtorEq, exists_false, false_iff, true_iff]
    omega
  · simp only [hx, reduceCtorEq, Emission.written.injEq, exists_eq', false_iff, true_iff]
    omega

/-! ### A module below another one -/

def someStamp : Stamp := ⟨"host", "2024-01-01T00:00:00Z"⟩

/-- The longer one of two modules counts, also where it stands first. -/
theorem refused_by_the_longer_module :
    (Setup.none.reset.configure (.dir []) ⟨.root, []⟩
        ⟨20, .none, [("a.b", 40), ("a", 10)]⟩).1.emit someStamp "a.b.c" 30 "x" = .refused ∧
    ∃ e, (Setup.none.reset.configure (.dir []) ⟨.root, []⟩
        ⟨20, .none, [("a.b", 40), ("a", 10)]⟩).1.emit someStamp "a.bc" 20 "x" = .written e := by
  have hmodules : IsTable [("a.b", 40), ("a", 10)] := by decide
  have hnearest : ∀ {logger e}, Levels.nearest? [("a.b", 40), ("a", 10)] logger = some e →
      IsNearest [("a.b", 40), ("a", 10)] logger e := (Levels.nearest?_eq_some_iff hmodules).mp
  obtain ⟨θ, hθ, -, hrefused, -⟩ := written_by_threshold_iff hmodules Setup.none (.dir [])
    ⟨.root, []⟩ 20 "a.b.c" "x" someStamp .warning
  obtain ⟨θ', hθ', hwritten, -⟩ := written_by_threshold_iff hmodules Setup.none (.dir [])
    ⟨.root, []⟩ 20 "a.bc" "x" someStamp .info
  obtain rfl : 40 = θ := (hθ 40).mp (.module (m := "a.b") (hnearest (by decide +kernel)))
  obtain rfl : 10 = θ' := (hθ' 10).mp (.module (m := "a") (hnearest (by decide +kernel)))
  exact ⟨hrefused.mpr (by decide), hwritten.mpr (by decide)⟩

/-- An event that reaches the level of its module is not written, since it is below the level for
all. -/
theorem silent_above_its_threshold :
    IsThreshold [("a", 10)] 20 (nameOf "a") 10 ∧ 10 ≤ Level.debug.number ∧
    (Setup.none.reset.configure (.dir []) ⟨.root, []⟩ ⟨20, .none, [("a", 10)]⟩).1.emit someStamp "a"
      Level.debug.number "hi" = .silent := by
  refine ⟨.module (m := "a") ?_, by decide, ?_⟩
  · exact (Levels.nearest?_eq_some_iff (by decide)).mp (by decide +kernel)
  · rfl

end Setup

end Sieve.Log
