import Sieve.Log.Setup
import Mathlib.Tactic.Common

/-!
Records that a setup refuses.

A record passes the level for all, or it is not written. One that passes is refused if it weighs
less than the level of its module. Apart from that the levels of modules count for nothing.
-/

namespace Sieve.Log

namespace Levels

variable {t : Levels} {logger : String} {e : String × Int}

lemma mem_of_foldl_better {best : Option (String × Int)}
    (h : t.foldl (better logger) best = some e) : best = some e ∨ e ∈ t := by
  induction t generalizing best with
  | nil => exact Or.inl h
  | cons entry t ih =>
    rcases ih h with hbest | hmem
    · unfold better at hbest
      dsimp only at hbest
      split_ifs at hbest
      · exact Or.inr (Option.some.inj hbest ▸ List.mem_cons_self)
      · exact Or.inl hbest
    · exact Or.inr (List.mem_cons_of_mem _ hmem)

lemma mem_of_nearest? (h : t.nearest? logger = some e) : e ∈ t :=
  (mem_of_foldl_better h).resolve_left (by simp)

lemma mem_of_mem_set {module : String} {level : Int} (h : e ∈ t.set module level) :
    e ∈ t ∨ e = (module, level) := by
  induction t with
  | nil => exact Or.inr (List.mem_singleton.mp h)
  | cons entry t ih =>
    obtain ⟨m, l⟩ := entry
    rw [set] at h
    split_ifs at h with hm
    · rcases List.mem_cons.mp h with rfl | hmem
      · exact Or.inr (by rw [hm])
      · exact Or.inl (List.mem_cons_of_mem _ hmem)
    · rcases List.mem_cons.mp h with rfl | hmem
      · exact Or.inl List.mem_cons_self
      · exact (ih hmem).imp_left (List.mem_cons_of_mem _)

end Levels

namespace Setup

variable {u : Setup} {stamp : Stamp} {r : Record} {rs : List Record}

lemma mem_of_mem_setModules {modules : List (String × Int)} {e : String × Int}
    (h : e ∈ (u.setModules modules).modules) : e ∈ u.modules ∨ e ∈ modules := by
  unfold setModules at h
  dsimp only at h
  generalize u.modules = t at h ⊢
  induction modules generalizing t with
  | nil => exact Or.inl h
  | cons entry modules ih =>
    rcases ih _ h with hmem | hmem
    · rcases Levels.mem_of_mem_set hmem with hmem | rfl
      · exact Or.inl hmem
      · exact Or.inr List.mem_cons_self
    · exact Or.inr (List.mem_cons_of_mem _ hmem)

/-- The setup that is asked for, with what it writes to. -/
def asked (u : Setup) (q : SetupRequest) (sinks : List Sink) : Setup :=
  { u.setModules q.modules with level := q.level, sinks }

lemma configure_of_none {t : Files.Tree} {cwd : Files.Path} {q : SetupRequest}
    (h : q.file.filter (!·.isEmpty) = .none) :
    u.configure t cwd q = (u.asked q [.console], t, .none) := by
  unfold configure
  rw [h]
  rfl

lemma configure_of_some {t : Files.Tree} {cwd : Files.Path} {q : SetupRequest} {file : String}
    (h : q.file.filter (!·.isEmpty) = some file) :
    u.configure t cwd q =
      match openAtEnd t (cwd.absolute (.ofText file)) with
      | .ok t => (u.asked q [.console, .file (cwd.absolute (.ofText file))], t, .none)
      | .error f => (u.asked q [.console], t, some ⟨f, cwd.absolute (.ofText file)⟩) := by
  unfold configure
  rw [h]
  rfl

/-- The record would be written but for the level of its module. -/
def Refuses (u : Setup) (r : Record) : Prop :=
  u.sinks ≠ [] ∧ u.level ≤ r.level.number ∧
    u.modules.refuses (nameOf r.logger) r.level.number = true

instance (u : Setup) (r : Record) : Decidable (u.Refuses r) :=
  inferInstanceAs (Decidable (_ ∧ _ ∧ _))

/-- None of the records is refused. -/
def Admits (u : Setup) (rs : List Record) : Prop := ∀ r ∈ rs, ¬ u.Refuses r

instance (u : Setup) (rs : List Record) : Decidable (u.Admits rs) :=
  inferInstanceAs (Decidable (∀ r ∈ rs, _))

lemma admits_nil : u.Admits [] := List.forall_mem_nil _

lemma admits_append {rs rs' : List Record} : u.Admits (rs ++ rs') ↔ u.Admits rs ∧ u.Admits rs' :=
  List.forall_mem_append

/-- The setup without levels of modules. -/
def plain (u : Setup) : Setup := { u with modules := [] }

lemma weightOfCall_callOf (l : Level) : weightOfCall (callOf l.number) = l.number := by
  cases l <;> decide

lemma number_pos (l : Level) : 0 < l.number := by
  cases l <;> decide

lemma refuses_nil {logger : String} {weight : Int} : Levels.refuses [] logger weight = false := rfl

/-- **What becomes of a record** depends on the levels of modules only if it is refused. -/
theorem emit_eq : u.emit stamp r.logger r.level.number r.message =
    if u.Refuses r then .refused
    else u.plain.emit stamp r.logger r.level.number r.message := by
  have hpos : ¬ r.level.number ≤ 0 := Int.not_le.mpr (number_pos r.level)
  unfold emit Refuses plain
  simp only [weightOfCall_callOf, refuses_nil]
  by_cases hlevel : u.level ≤ r.level.number
  · have hnot : ¬ r.level.number < u.level := Int.not_lt.mpr hlevel
    rcases u.sinks with _ | ⟨s, l⟩
    · simp
    · rcases u.modules.refuses (nameOf r.logger) r.level.number with _ | _ <;>
        simp [hpos, hlevel, hnot]
  · simp [hlevel, Int.not_le.mp hlevel]

/-- Without levels of modules nothing is refused. -/
lemma plain_emit_ne_refused {logger message : String} {weight : Int} :
    u.plain.emit stamp logger weight message ≠ .refused := by
  unfold emit plain
  simp only [refuses_nil, Bool.false_eq_true, if_false]
  split_ifs <;> simp

/-- **Levels of modules refuse nothing** if none is above the level for all. -/
theorem admits_of_le (h : ∀ e ∈ u.modules, e.2 ≤ u.level) : u.Admits rs := by
  rintro r - ⟨-, hlevel, hrefuses⟩
  obtain ⟨l, hl, hlt⟩ := (Option.any_eq_true _ _).mp hrefuses
  obtain ⟨e, he, rfl⟩ := Option.map_eq_some_iff.mp hl
  have hmem : e ∈ u.modules := Levels.mem_of_nearest? he
  have hle := h e hmem
  have hlt := of_decide_eq_true hlt
  omega

end Setup

end Sieve.Log
