import Sieve.Log.Event
import Sieve.Proofs.Value.Entries

/-!
Messages on one line.

A text breaks into lines at ten characters. Seven of them are control characters below the blank,
which a message spells out; what it spells them by breaks no line and is not spelled out again. The
other three stay as they are, and where one of them stands a message still breaks. All that is no
control character stays in its place.
-/

namespace Sieve.Log

variable {c d : Char} {l p : List Char}

/-! ### Lines -/

/-- A text breaks into lines at the character. -/
def isLineBreak (c : Char) : Bool :=
  let n := c.toNat
  (0x0a ≤ n && n ≤ 0x0d) || (0x1c ≤ n && n ≤ 0x1e) || n == 0x85 || n == 0x2028 || n == 0x2029

/-- A line break that is not spelled out. -/
def isLooseBreak (c : Char) : Bool :=
  let n := c.toNat
  n == 0x85 || n == 0x2028 || n == 0x2029

/-- The lines of a text, each without the break that ends it. A carriage return and a line feed
behind it are one break. -/
def linesOf : List Char → List (List Char)
  | [] => []
  | '\r' :: '\n' :: r => [] :: linesOf r
  | c :: r =>
    if isLineBreak c then [] :: linesOf r
    else
      match linesOf r with
      | [] => [[c]]
      | line :: lines => (c :: line) :: lines

/-- The lines hold all characters but the line breaks. -/
lemma flatten_linesOf (l : List Char) :
    (linesOf l).flatten = l.filter fun c => !isLineBreak c := by
  induction l using linesOf.induct with
  | case1 => rfl
  | case2 r ih => simpa [linesOf, isLineBreak] using ih
  | case3 c r hreturn hbreak ih => simp [linesOf, hbreak, ih]
  | case4 c r hreturn hbreak hnone ih =>
    rw [hnone] at ih
    simp [linesOf, hbreak, hnone, ← ih]
  | case5 c r hreturn hbreak line lines hlines ih =>
    rw [hlines] at ih
    simpa [linesOf, hreturn, hbreak, hlines] using ih

lemma linesOf_of_unbroken (hl : l ≠ []) (h : ∀ c ∈ l, isLineBreak c = false) : linesOf l = [l] := by
  induction l with
  | nil => exact absurd rfl hl
  | cons c l ih =>
    obtain ⟨hc, hrest⟩ := List.forall_mem_cons.mp h
    have hreturn : ∀ r, c = '\r' → l = '\n' :: r → False := by
      rintro r rfl -
      exact absurd hc (by decide)
    rw [linesOf.eq_3 c l hreturn, hc]
    rcases l with _ | ⟨c', l⟩
    · rfl
    · rw [ih (List.cons_ne_nil _ _) hrest]
      rfl

/-- A text is its only line if and only if it is not empty and no line break stands in it. -/
theorem linesOf_eq_self_iff : linesOf l = [l] ↔ l ≠ [] ∧ ∀ c ∈ l, isLineBreak c = false := by
  constructor
  · intro h
    refine ⟨?_, fun c hc => ?_⟩
    · rintro rfl
      cases h
    · have hall : l = l.filter fun c => !isLineBreak c := by
        rw [← flatten_linesOf, h, List.flatten_singleton]
      rw [hall, List.mem_filter] at hc
      simpa using hc.2
  · exact fun ⟨hl, h⟩ => linesOf_of_unbroken hl h

/-! ### Characters that are spelled out -/

/-- How a message shows a character. -/
def spelled (c : Char) : List Char := if isControl c then Text.escapeChar c else [c]

lemma isControl_iff : isControl c = true ↔ c.toNat < 0x20 ∧ c.toNat ≠ 0x09 ∨ c.toNat = 0x7f := by
  have htab : c = '\t' ↔ c.toNat = 0x09 := ⟨fun h => h ▸ rfl, fun h => Char.toNat_inj.mp h⟩
  simp [isControl, htab]

lemma toNat_hexDigit {n : Nat} (h : n < 16) :
    0x30 ≤ (Text.hexDigit n).toNat ∧ (Text.hexDigit n).toNat < 0x67 := by
  have hall : ∀ n : Fin 16, 0x30 ≤ (Text.hexDigit n).toNat ∧ (Text.hexDigit n).toNat < 0x67 := by
    decide
  exact hall ⟨n, h⟩

lemma toNat_of_mem_hexDigits {width n : Nat} (hd : d ∈ Text.hexDigits width n) :
    0x30 ≤ d.toNat ∧ d.toNat < 0x67 := by
  induction width generalizing n with
  | zero => exact absurd hd List.not_mem_nil
  | succ width ih =>
    rcases List.mem_append.mp hd with hd | hd
    · exact ih hd
    · rw [List.mem_singleton.mp hd]
      exact toNat_hexDigit (Nat.mod_lt n (by decide))

/-- A character is spelled by visible characters of ASCII. -/
lemma toNat_of_mem_escapeChar (hd : d ∈ Text.escapeChar c) : 0x20 < d.toNat ∧ d.toNat < 0x7f := by
  have hletters : ∀ {e : Char}, d ∈ ['\\', e] → 0x20 < e.toNat ∧ e.toNat < 0x7f →
      0x20 < d.toNat ∧ d.toNat < 0x7f := by
    intro e hd he
    rcases List.mem_pair.mp hd with rfl | rfl
    · decide
    · exact he
  have hdigits : ∀ {e : Char} {width n : Nat}, d ∈ '\\' :: e :: Text.hexDigits width n →
      0x20 < e.toNat ∧ e.toNat < 0x7f → 0x20 < d.toNat ∧ d.toNat < 0x7f := by
    intro e width n hd he
    rcases List.mem_append (s := ['\\', e]).mp hd with hd | hd
    · exact hletters hd he
    · have hrange := toNat_of_mem_hexDigits hd
      omega
  unfold Text.escapeChar at hd
  dsimp only at hd
  split_ifs at hd
  · exact hletters hd (by decide)
  · exact hletters hd (by decide)
  · exact hletters hd (by decide)
  · exact hdigits hd (by decide)
  · exact hdigits hd (by decide)
  · exact hdigits hd (by decide)

/-- What spells a character is no control character and breaks no line. -/
lemma of_mem_escapeChar (hd : d ∈ Text.escapeChar c) :
    isControl d = false ∧ isLineBreak d = false := by
  have hrange := toNat_of_mem_escapeChar hd
  constructor
  · rw [Bool.eq_false_iff, Ne, isControl_iff]
    omega
  · simp only [isLineBreak, Bool.or_eq_false_iff, Bool.and_eq_false_iff, decide_eq_false_iff_not,
      beq_eq_false_iff_ne]
    omega

lemma isLooseBreak_iff : isLooseBreak c = true ↔ isControl c = false ∧ isLineBreak c = true := by
  rw [← Bool.not_eq_true, isControl_iff]
  simp only [isLooseBreak, isLineBreak, Bool.or_eq_true, Bool.and_eq_true, decide_eq_true_eq,
    beq_iff_eq]
  omega

/-- What is shown of a character is no control character. -/
lemma not_isControl_of_mem_spelled (hd : d ∈ spelled c) : isControl d = false := by
  unfold spelled at hd
  split_ifs at hd with hc
  · exact (of_mem_escapeChar hd).1
  · rw [List.mem_singleton.mp hd]
    exact Bool.eq_false_iff.mpr hc

/-- What is shown of a character breaks a line only if it is a break that is not spelled out. -/
lemma exists_isLineBreak_spelled_iff :
    (∃ d ∈ spelled c, isLineBreak d = true) ↔ isLooseBreak c = true := by
  rw [isLooseBreak_iff]
  unfold spelled
  split_ifs with hc
  · refine iff_of_false ?_ (by simp [hc])
    rintro ⟨d, hd, hbreak⟩
    rw [(of_mem_escapeChar hd).2] at hbreak
    cases hbreak
  · simp [hc]

/-! ### Messages -/

lemma toList_oneLine (m : String) : (oneLine m).toList = m.toList.flatMap spelled :=
  String.toList_ofList

lemma oneLine_append (a b : String) : oneLine (a ++ b) = oneLine a ++ oneLine b := by
  rw [← String.toList_inj, String.toList_append, toList_oneLine, toList_oneLine, toList_oneLine,
    String.toList_append, List.flatMap_append]

/-- A message without control characters stays as it is. -/
lemma oneLine_of_plain {s : String} (h : ∀ c ∈ s.toList, isControl c = false) : oneLine s = s := by
  rw [← String.toList_inj, toList_oneLine]
  have hplain : ∀ c ∈ s.toList, spelled c = [c] := fun c hc => by
    rw [spelled, h c hc]
    rfl
  rw [List.flatMap_congr hplain, List.flatMap_singleton']

lemma not_isControl_of_mem_oneLine {m : String} :
    ∀ c ∈ (oneLine m).toList, isControl c = false := by
  intro c hc
  rw [toList_oneLine] at hc
  obtain ⟨c', -, hc⟩ := List.mem_flatMap.mp hc
  exact not_isControl_of_mem_spelled hc

/-- A line break stands in what is shown if and only if one that is not spelled out stands in the
message. -/
lemma exists_isLineBreak_oneLine_iff {m : String} :
    (∃ c ∈ (oneLine m).toList, isLineBreak c = true) ↔ ∃ c ∈ m.toList, isLooseBreak c = true := by
  simp only [toList_oneLine, List.mem_flatMap, ← exists_isLineBreak_spelled_iff]
  constructor
  · rintro ⟨d, ⟨c, hc, hd⟩, hbreak⟩
    exact ⟨c, hc, d, hd, hbreak⟩
  · rintro ⟨c, hc, d, hd, hbreak⟩
    exact ⟨d, ⟨c, hc, hd⟩, hbreak⟩

lemma oneLine_eq_empty_iff {m : String} : (oneLine m).toList = [] ↔ m = "" := by
  rw [toList_oneLine, List.flatMap_eq_nil_iff, ← String.toList_eq_nil_iff,
    List.eq_nil_iff_forall_not_mem]
  refine forall₂_congr fun c _ => ?_
  unfold spelled Text.escapeChar
  dsimp only
  split_ifs <;> simp

/-- The message of an event is brought on one line. -/
lemma lookup_onOneLine {e : Event} {m : String} (h : Value.lookup e "event" = some (.str m)) :
    Value.lookup e.onOneLine "event" = some (.str (oneLine m)) := by
  unfold Event.onOneLine
  rw [h]
  rw [Option.getD_some, Value.lookup_put, if_pos rfl]

/-- **A message is on one line** unless a next-line character or a line or paragraph separator
stands in it; these are the breaks that are not spelled out. To bring it on one line again changes
nothing. Whatever part of it is without control characters stays as it is, between what becomes of
the parts around it. -/
theorem on_one_line_iff (m : String) :
    ((∀ c ∈ (oneLine m).toList, isLineBreak c = false) ↔ ∀ c ∈ m.toList, isLooseBreak c = false) ∧
    (linesOf (oneLine m).toList = [(oneLine m).toList] ↔
      m ≠ "" ∧ ∀ c ∈ m.toList, isLooseBreak c = false) ∧
    oneLine (oneLine m) = oneLine m ∧
    (∀ a p b, m = a ++ p ++ b → (∀ c ∈ p.toList, isControl c = false) →
      oneLine m = oneLine a ++ p ++ oneLine b) ∧
    ∀ e : Event, Value.lookup e "event" = some (.str m) →
      Value.lookup e.onOneLine "event" = some (.str (oneLine m)) := by
  have hbreaks : (∀ c ∈ (oneLine m).toList, isLineBreak c = false) ↔
      ∀ c ∈ m.toList, isLooseBreak c = false := by
    simpa using not_congr (exists_isLineBreak_oneLine_iff (m := m))
  refine ⟨hbreaks, ?_, oneLine_of_plain not_isControl_of_mem_oneLine, ?_, fun e => lookup_onOneLine⟩
  · rw [linesOf_eq_self_iff, hbreaks, Ne, Ne, oneLine_eq_empty_iff]
  · rintro a p b rfl hp
    rw [oneLine_append, oneLine_append, oneLine_of_plain hp]

/-- What a user writes stays between the breaks around it. -/
theorem kept_between_breaks :
    oneLine "a\nlogin; -slow\r\n" = "a\\nlogin; -slow\\r\\n" ∧
    linesOf (oneLine "a\nlogin; -slow\r\n").toList = [(oneLine "a\nlogin; -slow\r\n").toList] := by
  have hplain : ∀ c ∈ "login; -slow".toList, isControl c = false := by simp [isControl]
  have hloose : ∀ c ∈ "a\nlogin; -slow\r\n".toList, isLooseBreak c = false := by
    simp [isLooseBreak]
  obtain ⟨-, hlines, -, hkept, -⟩ := on_one_line_iff "a\nlogin; -slow\r\n"
  exact ⟨hkept "a\n" "login; -slow" "\r\n" rfl hplain, hlines.mpr ⟨by decide, hloose⟩⟩

/-- A line separator is left, and the message is on two lines. -/
theorem broken_at_a_separator :
    oneLine "a\u2028b" = "a\u2028b" ∧ isLineBreak '\u2028' = true ∧
    linesOf (oneLine "a\u2028b").toList = [['a'], ['b']] := by
  decide

end Sieve.Log
