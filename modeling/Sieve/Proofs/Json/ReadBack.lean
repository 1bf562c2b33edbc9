import Sieve.Json.Reader
import Sieve.Json.Writer
import Mathlib.Data.List.Nodup
import Mathlib.Tactic.Common

/-!
Documents that are read back as they were written.

A text is written in ASCII: what has no printed shape there is spelled by its code units, which are
put together again when it is read. Lists and objects are read back at any indentation, since no
item begins with a blank. Neither the fuel of the reader nor its room runs out, as each step of it
consumes a character.
-/

namespace Sieve.Json

open Text Decimal

/-! ### Code units -/

lemma hexValue?_hexDigit : ∀ d < 16, hexValue? (hexDigit d) = some d := by decide

lemma natOfBase?_concat {l : List Char} {c : Char} {n d : Nat} (hl : natOfBase? 16 l = some n)
    (hc : hexValue? c = some d) (hd : d < 16) : natOfBase? 16 (l ++ [c]) = some (n * 16 + d) := by
  unfold natOfBase? at hl ⊢
  rw [List.foldl_append, hl]
  simp [hc, hd]

/-- The digits of a number are those of what is left of it, then its last one. -/
lemma natOfBase?_hexDigits_succ {width n k : Nat}
    (h : natOfBase? 16 (hexDigits width (n / 16)) = some k) :
    natOfBase? 16 (hexDigits (width + 1) n) = some (k * 16 + n % 16) := by
  have hdigit : n % 16 < 16 := Nat.mod_lt n (by omega)
  exact natOfBase?_concat h (hexValue?_hexDigit _ hdigit) hdigit

/-- Four digits spell a number of 16 bits. -/
lemma fourHex?_hexDigits {n : Nat} (h : n < 0x10000) (r : List Char) :
    fourHex? (hexDigits 4 n ++ r) = some (n, r) := by
  have hnone : natOfBase? 16 (hexDigits 0 (n / 16 / 16 / 16 / 16)) = some 0 := rfl
  have hfour : natOfBase? 16 (hexDigits 4 n) = some n := by
    rw [natOfBase?_hexDigits_succ (natOfBase?_hexDigits_succ (natOfBase?_hexDigits_succ
      (natOfBase?_hexDigits_succ hnone))), Option.some.injEq]
    omega
  have hdigits : ∃ a b c d, hexDigits 4 n = [a, b, c, d] := ⟨_, _, _, _, rfl⟩
  obtain ⟨a, b, c, d, hlist⟩ := hdigits
  rw [hlist] at hfour ⊢
  simp [fourHex?, hfour]

/-- One unit is one character, unless it is half of a pair. -/
lemma unicodeEscape?_single {n : Nat} (h : n < 0xD800 ∨ 0xE000 ≤ n ∧ n < 0x10000) (r : List Char) :
    unicodeEscape? (hexDigits 4 n ++ r) = some (Char.ofNat n, r) := by
  have hlt : n < 0x10000 := by omega
  have hhigh : (0xD800 ≤ n && n < 0xDC00) = false := by
    simp only [Bool.and_eq_false_iff, decide_eq_false_iff_not]
    omega
  have hlow : (0xDC00 ≤ n && n < 0xE000) = false := by
    simp only [Bool.and_eq_false_iff, decide_eq_false_iff_not]
    omega
  unfold unicodeEscape?
  rw [fourHex?_hexDigits hlt]
  dsimp only
  rw [hhigh, hlow]
  rfl

/-- A pair of units is one character above the first plane. -/
lemma unicodeEscape?_pair {n : Nat} (hlow : 0x10000 ≤ n) (hhigh : n < 0x110000) (r : List Char) :
    unicodeEscape? (hexDigits 4 (0xD800 + (n - 0x10000) / 0x400) ++
        unitEscape (0xDC00 + (n - 0x10000) % 0x400) ++ r) = some (Char.ofNat n, r) := by
  obtain ⟨k, hk⟩ : ∃ k, k = n - 0x10000 := ⟨_, rfl⟩
  rw [← hk]
  have hfirst : 0xD800 + k / 0x400 < 0xDC00 := by omega
  have hsecond : 0xDC00 + k % 0x400 < 0xE000 := by omega
  have hsum : 0x10000 + (0xD800 + k / 0x400 - 0xD800) * 0x400 +
      (0xDC00 + k % 0x400 - 0xDC00) = n := by omega
  have hisFirst : (0xD800 ≤ 0xD800 + k / 0x400 && 0xD800 + k / 0x400 < 0xDC00) = true := by
    simp only [Bool.and_eq_true, decide_eq_true_eq]
    omega
  have hisSecond : (0xDC00 ≤ 0xDC00 + k % 0x400 && 0xDC00 + k % 0x400 < 0xE000) = true := by
    simp only [Bool.and_eq_true, decide_eq_true_eq]
    omega
  have hunit : ∀ m, unitEscape m ++ r = '\\' :: 'u' :: (hexDigits 4 m ++ r) := fun _ => rfl
  unfold unicodeEscape?
  rw [List.append_assoc, fourHex?_hexDigits (by omega)]
  dsimp only
  rw [if_pos hisFirst, hunit]
  simp only [fourHex?_hexDigits (show 0xDC00 + k % 0x400 < 0x10000 by omega)]
  rw [if_pos hisSecond, hsum]

/-! ### Texts -/

/-- The code of a character is none of the halves of pairs. -/
lemma toNat_apart (c : Char) : c.toNat < 0xD800 ∨ 0xE000 ≤ c.toNat ∧ c.toNat < 0x110000 := by
  have hvalid : c.toNat.isValidChar := c.valid
  unfold Nat.isValidChar at hvalid
  omega

lemma stringBody_plain {c : Char} {fuel : Nat} {r : List Char} (hquote : c ≠ '"')
    (hslash : c ≠ '\\') (hlow : ¬ c.toNat < 0x20) :
    stringBody (fuel + 1) (c :: r) = (stringBody fuel r).map fun p => (c :: p.1, p.2) := by
  change (if c = '"' then _ else if c = '\\' then _ else if c.toNat < 0x20 then _ else _) = _
  rw [if_neg hquote, if_neg hslash, if_neg hlow]

lemma stringBody_unit {x : Char} {fuel : Nat} {l r : List Char}
    (h : unicodeEscape? l = some (x, r)) :
    stringBody (fuel + 1) ('\\' :: 'u' :: l) =
      (stringBody fuel r).map fun p => (x :: p.1, p.2) := by
  rw [stringBody, if_neg (by decide), if_pos rfl]
  dsimp only
  rw [if_pos rfl, h]

/-- **A character is read back** from the way it is written inside a text. -/
lemma stringBody_escaped (c : Char) (fuel : Nat) (r : List Char) :
    stringBody (fuel + 1) (escaped c ++ r) =
      (stringBody fuel r).map fun p => (c :: p.1, p.2) := by
  have hchar : Char.ofNat c.toNat = c := Char.ofNat_toNat c
  unfold escaped
  dsimp only
  split_ifs with hquote hslash hfeed hreturn htab hback hpage hplain hplane
  · subst hquote
    rfl
  · subst hslash
    rfl
  · subst hfeed
    rfl
  · subst hreturn
    rfl
  · subst htab
    rfl
  · obtain rfl : c = '\x08' := by rw [← hchar, hback]
    rfl
  · obtain rfl : c = '\x0c' := by rw [← hchar, hpage]
    rfl
  · have hlow : ¬ c.toNat < 0x20 := by
      simp only [Bool.and_eq_true, decide_eq_true_eq] at hplain
      omega
    exact stringBody_plain hquote hslash hlow
  · have happart := toNat_apart c
    have hread := unicodeEscape?_single (n := c.toNat) (by omega) r
    rw [hchar] at hread
    exact stringBody_unit hread
  · have happart := toNat_apart c
    have hread := unicodeEscape?_pair (n := c.toNat) (by omega) (by omega) r
    rw [hchar] at hread
    exact stringBody_unit hread

lemma length_escaped_pos (c : Char) : 0 < (escaped c).length := by
  unfold escaped unitEscape
  dsimp only
  split_ifs <;> simp

/-- **A text is read back** up to its closing quote. -/
theorem stringBody_flatMap_escaped (s : List Char) (r : List Char) {fuel : Nat}
    (hfuel : (s.flatMap escaped).length < fuel) :
    stringBody fuel (s.flatMap escaped ++ '"' :: r) = some (s, r) := by
  induction s generalizing fuel with
  | nil =>
    obtain ⟨k, rfl⟩ : ∃ k, fuel = k + 1 := ⟨fuel - 1, by simp at hfuel; omega⟩
    rfl
  | cons c s ih =>
    have hpos := length_escaped_pos c
    rw [List.flatMap_cons, List.length_append] at hfuel
    obtain ⟨k, rfl⟩ : ∃ k, fuel = k + 1 := ⟨fuel - 1, by omega⟩
    rw [List.flatMap_cons, List.append_assoc, stringBody_escaped, ih (by omega)]
    rfl

/-! ### Blanks -/

variable {indent : Option Nat} {d e fuel room : Nat} {r : List Char} {j : Json}

lemma skipSpace_append {b : List Char} (h : ∀ c ∈ b, isSpace c) (l : List Char) :
    skipSpace (b ++ l) = skipSpace l := List.dropWhile_append_of_pos h

lemma skipSpace_cons {c : Char} (h : isSpace c = false) (l : List Char) :
    skipSpace (c :: l) = c :: l := List.dropWhile_cons_of_neg (by simp [h])

lemma isSpace_of_mem_lineBreak : ∀ c ∈ lineBreak indent d, isSpace c := by
  intro c hc
  cases indent with
  | none => simp [lineBreak] at hc
  | some k =>
    obtain rfl | hc := List.mem_cons.mp hc
    · rfl
    · rw [List.eq_of_mem_replicate hc]
      rfl

lemma exists_separator (indent : Option Nat) (d : Nat) :
    ∃ b, separator indent d = ',' :: b ∧ ∀ c ∈ b, isSpace c := by
  cases indent with
  | none => exact ⟨[' '], rfl, List.forall_mem_singleton.mpr rfl⟩
  | some k => exact ⟨_, rfl, isSpace_of_mem_lineBreak⟩

/-! ### Documents -/

/-- Texts, in lists and in objects that have no key twice. -/
inductive IsTextual : Json → Prop
  | str (s : String) : IsTextual (.str s)
  | arr {items : List Json} (h : ∀ x ∈ items, IsTextual x) : IsTextual (.arr items)
  | obj {ms : List (String × Json)} (hkeys : (ms.map Prod.fst).Nodup)
      (h : ∀ m ∈ ms, IsTextual m.2) : IsTextual (.obj ms)

/-- What a written document begins with: no blank, and nothing that closes a list or an object. -/
def IsOpening (c : Char) : Prop := c = '"' ∨ c = '[' ∨ c = '\x7b'

lemma IsTextual.exists_write (h : IsTextual j) (indent : Option Nat) (d : Nat) :
    ∃ c l, write indent d j = c :: l ∧ IsOpening c := by
  cases h with
  | str s => exact ⟨_, _, rfl, .inl rfl⟩
  | @arr items h =>
    cases items with
    | nil => exact ⟨_, _, rfl, .inr (.inl rfl)⟩
    | cons x xs => exact ⟨_, _, by simp [write]; rfl, .inr (.inl rfl)⟩
  | @obj ms hkeys h =>
    cases ms with
    | nil => exact ⟨_, _, rfl, .inr (.inr rfl)⟩
    | cons m ms => exact ⟨_, _, by simp [write]; rfl, .inr (.inr rfl)⟩

lemma IsOpening.isSpace_eq {c : Char} (h : IsOpening c) : isSpace c = false := by
  rcases h with rfl | rfl | rfl <;> rfl

/-- A document begins right after the blanks in front of it. -/
lemma IsTextual.skipSpace_write (h : IsTextual j) {b : List Char} (hb : ∀ c ∈ b, isSpace c) :
    skipSpace (b ++ (write indent d j ++ r)) = write indent d j ++ r := by
  obtain ⟨c, l, hwrite, hopening⟩ := h.exists_write indent d
  rw [skipSpace_append hb, hwrite]
  exact skipSpace_cons hopening.isSpace_eq _

/-- A document is read from where it is written, with enough fuel and room. -/
def ReadsBack (indent : Option Nat) (j : Json) : Prop :=
  ∀ d fuel room r, (write indent d j).length ≤ fuel → (write indent d j).length ≤ room →
    readValue fuel room (write indent d j ++ r) = .ok (j, r)

lemma stringText_append (t : String) :
    stringText t ++ r = '"' :: (t.toList.flatMap escaped ++ '"' :: r) := by
  simp [stringText]

/-- The fuel for a text is the length of what is left to read. -/
lemma stringBody_text (t : String) (r : List Char) :
    stringBody ((t.toList.flatMap escaped ++ '"' :: r).length + 1)
      (t.toList.flatMap escaped ++ '"' :: r) = some (t.toList, r) :=
  stringBody_flatMap_escaped _ _ (by rw [List.length_append]; omega)

lemma readsBack_str (t : String) : ReadsBack indent (.str t) := by
  intro d fuel room r hfuel _
  have hpos : 0 < (write indent d (.str t)).length := by simp [write, stringText]
  obtain ⟨k, rfl⟩ : ∃ k, fuel = k + 1 := ⟨fuel - 1, by omega⟩
  rw [write, stringText_append, readValue, stringBody_text]
  simp [orMalformed]

/-- The items of a list are read up to what closes it. -/
lemma readItems_write {xs : List Json} {x : Json} (hx : ReadsBack indent x)
    (hxs : ∀ y ∈ xs, IsTextual y ∧ ReadsBack indent y)
    (hfuel : (write indent d x).length + (writeItems indent d xs).length < fuel)
    (hroom : (write indent d x).length + (writeItems indent d xs).length ≤ room) :
    readItems fuel room (write indent d x ++
      (writeItems indent d xs ++ (lineBreak indent e ++ ']' :: r))) = .ok (x :: xs, r) := by
  induction xs generalizing x fuel with
  | nil =>
    obtain ⟨k, rfl⟩ : ∃ k, fuel = k + 1 := ⟨fuel - 1, by omega⟩
    have hclose : skipSpace (lineBreak indent e ++ ']' :: r) = ']' :: r := by
      rw [skipSpace_append isSpace_of_mem_lineBreak]
      exact skipSpace_cons rfl r
    rw [readItems, hx d k room _ (by omega) (by omega)]
    simp only [writeItems, List.nil_append, hclose]
  | cons y ys ih =>
    obtain ⟨⟨htextual, hy⟩, hys⟩ := List.forall_mem_cons.mp hxs
    obtain ⟨b, hseparator, hblank⟩ := exists_separator indent d
    rw [writeItems, hseparator] at hfuel hroom
    simp only [List.length_append, List.length_cons] at hfuel hroom
    obtain ⟨k, rfl⟩ : ∃ k, fuel = k + 1 := ⟨fuel - 1, by omega⟩
    have hrest : readItems k room
        (write indent d y ++ (writeItems indent d ys ++ (lineBreak indent e ++ ']' :: r))) =
        .ok (y :: ys, r) := ih hy hys (by omega) (by omega)
    rw [readItems, hx d k room _ (by omega) (by omega)]
    simp only [writeItems, hseparator, List.cons_append, List.append_assoc,
      skipSpace_cons (show isSpace ',' = false from rfl), htextual.skipSpace_write hblank, hrest]
    rfl

section Member

variable {k : String} {v : Json} {z : List Char} (hv : IsTextual v) (hread : ReadsBack indent v)
  (hfuel : (write indent d v).length ≤ fuel) (hroom : (write indent d v).length ≤ room)
include hv hread hfuel hroom

/-- A member is read, and what stands behind its value decides what comes next. -/
lemma readMembers_last (hr : skipSpace r = '\x7d' :: z) :
    readMembers (fuel + 1) room (stringText k ++ (':' :: ' ' :: (write indent d v ++ r))) =
      .ok ([(k, v)], z) := by
  have hvalue : skipSpace (' ' :: (write indent d v ++ r)) = write indent d v ++ r :=
    hv.skipSpace_write (List.forall_mem_singleton.mpr rfl)
  rw [stringText_append]
  simp only [readMembers, stringBody_text, skipSpace_cons (show isSpace ':' = false from rfl),
    hvalue, hread d fuel room r hfuel hroom, hr, String.ofList_toList]

lemma readMembers_next (hr : skipSpace r = ',' :: z) :
    readMembers (fuel + 1) room (stringText k ++ (':' :: ' ' :: (write indent d v ++ r))) =
      (readMembers fuel room (skipSpace z)).map fun (p : List (String × Json) × List Char) =>
        ((k, v) :: p.1, p.2) := by
  have hvalue : skipSpace (' ' :: (write indent d v ++ r)) = write indent d v ++ r :=
    hv.skipSpace_write (List.forall_mem_singleton.mpr rfl)
  rw [stringText_append]
  simp only [readMembers, stringBody_text, skipSpace_cons (show isSpace ':' = false from rfl),
    hvalue, hread d fuel room r hfuel hroom, hr, String.ofList_toList]

end Member

/-- The members of an object are read up to what closes it. -/
lemma readMembers_write {ms : List (String × Json)} {k : String} {v : Json} (hv : IsTextual v)
    (hread : ReadsBack indent v) (hms : ∀ m ∈ ms, IsTextual m.2 ∧ ReadsBack indent m.2)
    (hfuel : (write indent d v).length + (writeMembers indent d ms).length < fuel)
    (hroom : (write indent d v).length + (writeMembers indent d ms).length ≤ room) :
    readMembers fuel room (stringText k ++ (':' :: ' ' :: (write indent d v ++
      (writeMembers indent d ms ++ (lineBreak indent e ++ '\x7d' :: r))))) =
        .ok ((k, v) :: ms, r) := by
  induction ms generalizing k v fuel with
  | nil =>
    obtain ⟨n, rfl⟩ : ∃ n, fuel = n + 1 := ⟨fuel - 1, by omega⟩
    have hclose : skipSpace (lineBreak indent e ++ '\x7d' :: r) = '\x7d' :: r := by
      rw [skipSpace_append isSpace_of_mem_lineBreak]
      exact skipSpace_cons rfl r
    exact readMembers_last hv hread (by omega) (by omega) hclose
  | cons m ms ih =>
    obtain ⟨key, w⟩ := m
    obtain ⟨⟨htextual, hw⟩, hms⟩ := List.forall_mem_cons.mp hms
    obtain ⟨b, hseparator, hblank⟩ := exists_separator indent d
    rw [writeMembers, hseparator] at hfuel hroom
    simp only [List.length_append, List.length_cons] at hfuel hroom
    obtain ⟨n, rfl⟩ : ∃ n, fuel = n + 1 := ⟨fuel - 1, by omega⟩
    have hrest : readMembers n room (stringText key ++ (':' :: ' ' :: (write indent d w ++
        (writeMembers indent d ms ++ (lineBreak indent e ++ '\x7d' :: r))))) =
          .ok ((key, w) :: ms, r) := ih htextual hw hms (by omega) (by omega)
    have hnext : ∀ t, skipSpace (b ++ (stringText key ++ t)) = stringText key ++ t := fun t => by
      rw [skipSpace_append hblank]
      exact skipSpace_cons rfl _
    simp only [writeMembers, hseparator, List.cons_append, List.append_assoc, List.nil_append]
    rw [readMembers_next hv hread (by omega) (by omega) (skipSpace_cons rfl _), hnext, hrest]
    rfl

lemma put_of_notMem {ms : List (String × Json)} {k : String} {v : Json}
    (h : k ∉ ms.map Prod.fst) : put ms k v = ms ++ [(k, v)] := by
  induction ms with
  | nil => rfl
  | cons m ms ih =>
    rw [List.map_cons, List.mem_cons, not_or] at h
    rw [put, if_neg (Ne.symm h.1), ih h.2]
    rfl

/-- Of members with distinct keys each one counts. -/
lemma foldl_put_append {ms done : List (String × Json)}
    (h : ((done ++ ms).map Prod.fst).Nodup) :
    ms.foldl (fun a m => put a m.1 m.2) done = done ++ ms := by
  induction ms generalizing done with
  | nil => simp
  | cons m ms ih =>
    have hnew : m.1 ∉ done.map Prod.fst := by
      rw [List.map_append, List.map_cons, List.nodup_append] at h
      exact fun hm => h.2.2 _ hm _ List.mem_cons_self rfl
    rw [List.foldl_cons, put_of_notMem hnew, ih (by simpa using h)]
    simp

/-- A list that is not closed at once has items. -/
lemma readValue_items {l : List Char} (hskip : skipSpace r = l) (hl : ∀ u, l ≠ ']' :: u) :
    readValue (fuel + 1) (room + 1) ('[' :: r) =
      (readItems fuel room l).map fun (p : List Json × List Char) => (.arr p.1, p.2) := by
  simp [readValue, hskip]

lemma readValue_members {l : List Char} (hskip : skipSpace r = l) (hl : ∀ u, l ≠ '\x7d' :: u) :
    readValue (fuel + 1) (room + 1) ('\x7b' :: r) =
      (readMembers fuel room l).map fun (p : List (String × Json) × List Char) =>
        (.obj (p.1.foldl (fun a m => put a m.1 m.2) []), p.2) := by
  simp [readValue, hskip]

lemma readsBack_arr {items : List Json} (h : ∀ x ∈ items, IsTextual x ∧ ReadsBack indent x) :
    ReadsBack indent (.arr items) := by
  intro d fuel room r hfuel hroom
  cases items with
  | nil =>
    obtain ⟨n, rfl⟩ : ∃ n, fuel = n + 1 := ⟨fuel - 1, by simp [write] at hfuel; omega⟩
    obtain ⟨m, rfl⟩ : ∃ m, room = m + 1 := ⟨room - 1, by simp [write] at hroom; omega⟩
    rfl
  | cons x xs =>
    obtain ⟨⟨htextual, hx⟩, hxs⟩ := List.forall_mem_cons.mp h
    rw [write] at hfuel hroom ⊢
    simp only [List.length_append, List.length_cons] at hfuel hroom
    obtain ⟨n, rfl⟩ : ∃ n, fuel = n + 1 := ⟨fuel - 1, by omega⟩
    obtain ⟨m, rfl⟩ : ∃ m, room = m + 1 := ⟨room - 1, by omega⟩
    obtain ⟨rest, hrest⟩ : ∃ rest, rest =
        writeItems indent (d + 1) xs ++ (lineBreak indent d ++ ']' :: r) := ⟨_, rfl⟩
    have hitems : readItems n m (write indent (d + 1) x ++ rest) = .ok (x :: xs, r) :=
      hrest ▸ readItems_write hx hxs (by omega) (by omega)
    have hopen : ∀ u, write indent (d + 1) x ++ rest ≠ ']' :: u := by
      obtain ⟨c, l, hwrite, hopening⟩ := htextual.exists_write indent (d + 1)
      rw [hwrite]
      rintro u heq
      obtain rfl : c = ']' := (List.cons.inj heq).1
      simp [IsOpening] at hopening
    simp only [List.cons_append, List.append_assoc, List.nil_append, ← hrest]
    rw [readValue_items (htextual.skipSpace_write isSpace_of_mem_lineBreak) hopen, hitems]
    rfl

lemma readsBack_obj {ms : List (String × Json)} (hkeys : (ms.map Prod.fst).Nodup)
    (h : ∀ m ∈ ms, IsTextual m.2 ∧ ReadsBack indent m.2) : ReadsBack indent (.obj ms) := by
  intro d fuel room r hfuel hroom
  cases ms with
  | nil =>
    obtain ⟨n, rfl⟩ : ∃ n, fuel = n + 1 := ⟨fuel - 1, by simp [write] at hfuel; omega⟩
    obtain ⟨m, rfl⟩ : ∃ m, room = m + 1 := ⟨room - 1, by simp [write] at hroom; omega⟩
    rfl
  | cons first ms =>
    obtain ⟨k, v⟩ := first
    obtain ⟨⟨htextual, hv⟩, hms⟩ := List.forall_mem_cons.mp h
    rw [write] at hfuel hroom ⊢
    simp only [List.length_append, List.length_cons] at hfuel hroom
    obtain ⟨n, rfl⟩ : ∃ n, fuel = n + 1 := ⟨fuel - 1, by omega⟩
    obtain ⟨m, rfl⟩ : ∃ m, room = m + 1 := ⟨room - 1, by omega⟩
    obtain ⟨rest, hrest⟩ : ∃ rest, rest = ':' :: ' ' :: (write indent (d + 1) v ++
        (writeMembers indent (d + 1) ms ++ (lineBreak indent d ++ '\x7d' :: r))) := ⟨_, rfl⟩
    have hmembers : readMembers n m (stringText k ++ rest) = .ok ((k, v) :: ms, r) :=
      hrest ▸ readMembers_write htextual hv hms (by omega) (by omega)
    have hskip : skipSpace (lineBreak indent (d + 1) ++ (stringText k ++ rest)) =
        stringText k ++ rest := by
      rw [skipSpace_append isSpace_of_mem_lineBreak]
      exact skipSpace_cons rfl _
    simp only [List.cons_append, List.append_assoc, List.nil_append, ← hrest]
    rw [readValue_members hskip (fun u heq => by cases heq), hmembers]
    change Except.ok (Json.obj (((k, v) :: ms).foldl (fun a m => put a m.1 m.2) []), r) = _
    rw [@foldl_put_append _ [] hkeys]
    rfl

lemma IsTextual.readsBack (h : IsTextual j) : ReadsBack indent j := by
  induction h with
  | str s => exact readsBack_str s
  | arr h ih => exact readsBack_arr fun x hx => ⟨h x hx, ih x hx⟩
  | obj hkeys h ih => exact readsBack_obj hkeys fun m hm => ⟨h m hm, ih m hm⟩

/-- **A document is read back** from its text, at any indentation. -/
theorem IsTextual.read?_write (h : IsTextual j) :
    read? (String.ofList (write indent 0 j)) = some j := by
  obtain ⟨l, hl⟩ : ∃ l, l = write indent 0 j := ⟨_, rfl⟩
  have hskip : skipSpace l = l := by
    obtain ⟨c, rest, hwrite, hopening⟩ := h.exists_write indent 0
    rw [hl, hwrite, skipSpace_cons hopening.isSpace_eq]
  have hvalue : readValue (2 * l.length + 2) l.length l = .ok (j, []) := by
    have hback : ReadsBack indent j := h.readsBack
    rw [hl]
    simpa using hback 0 (2 * (write indent 0 j).length + 2) _ [] (by omega) (Nat.le_refl _)
  have hlength : (String.ofList l).length = l.length := by
    rw [← String.length_toList, String.toList_ofList]
  unfold read? read
  rw [← hl]
  simp only [String.toList_ofList, hlength, hskip, hvalue]
  rfl

end Sieve.Json
