import Sieve.Decimal.Whole
import Sieve.Value.Text

/-!
Messages with places for arguments. A place is written `%s` for the text of an argument, `%r`
for its text inside other values, and `%d`, `%i` or `%u` for a number without its fraction; `%%`
is a percent sign. One mapping as the only argument may be asked for entries: `%(key)s`.
-/

namespace Sieve.Log

/-- Why a message cannot be filled in. -/
inductive FillFault where
  | tooFew
  | tooMany
  | notNumber (conversion : Char) (typeName : String)
  | notMapping
  | noEntry (key : String)
  | incomplete
  | unknown (conversion : Char) (index : Nat)
  | noText
deriving DecidableEq, Repr

def FillFault.message : FillFault → String
  | tooFew => "not enough arguments for format string"
  | tooMany => "not all arguments converted during string formatting"
  | notNumber c t => s!"%{c} format: a real number is required, not {t}"
  | notMapping => "format requires a mapping"
  | noEntry key => Text.quoted key
  | incomplete => "incomplete format"
  | unknown c i =>
    let digits := String.ofList (Nat.toDigits 16 c.toNat)
    s!"unsupported format character '{c}' (0x{digits}) at index {i}"
  | noText => Value.noTextMessage

/-- The arguments that are left, and the entries that may be asked for. -/
structure Arguments where
  rest : List Value
  entries : Option (List (Value × Value))

def Arguments.ofList (l : List Value) : Arguments :=
  match l with
  | [.map (e :: es)] => ⟨l, some (e :: es)⟩
  | l => ⟨l, none⟩

def Arguments.next (a : Arguments) : Except FillFault (Value × Arguments) :=
  match a.rest with
  | [] => .error .tooFew
  | v :: r => .ok (v, { a with rest := r })

/-- The whole part of a number. -/
def wholePart : Value → Option Int
  | .bool b => some (if b then 1 else 0)
  | .int n => some n
  | .float x => Decimal.truncated? x
  | _ => none

/-- What stands in a place for an argument. -/
def converted (conversion : Char) (index : Nat) (v : Value) : Except FillFault String :=
  let orNone (t : Option String) : Except FillFault String :=
    match t with
    | some t => .ok t
    | none => .error .noText
  match conversion with
  | 's' => orNone v.text?
  | 'r' => orNone v.inner?
  | 'd' | 'i' | 'u' =>
    match wholePart v with
    | some n => orNone (Value.inner? (.int n))
    | none => .error (.notNumber conversion v.typeName)
  | c => .error (.unknown c index)

/-- Fills the places of the characters from the position `i` on. -/
def fillFrom (a : Arguments) (i : Nat) (l : List Char) : Except FillFault (List Char) :=
  match l with
  | [] => if a.rest.isEmpty || a.entries.isSome then .ok [] else .error .tooMany
  | '%' :: '%' :: r => do return '%' :: (← fillFrom a (i + 2) r)
  | '%' :: '(' :: r => do
    let some es := a.entries | throw .notMapping
    let key := r.takeWhile (· != ')')
    match _h : r.dropWhile (· != ')') with
    | _ :: c :: rest =>
      let some v := Value.lookup es (String.ofList key) | throw (.noEntry (String.ofList key))
      let t ← converted c (i + key.length + 3) v
      return t.toList ++ (← fillFrom { a with rest := [] } (i + key.length + 4) rest)
    | _ => throw .incomplete
  | ['%'] => .error .incomplete
  | '%' :: c :: r => do
    let (v, a) ← a.next
    let t ← converted c (i + 1) v
    return t.toList ++ (← fillFrom a (i + 2) r)
  | c :: r => do return c :: (← fillFrom a (i + 1) r)
termination_by l.length
decreasing_by
  · simp only [List.length_cons]
    omega
  · have hle := (List.dropWhile_suffix (l := r) (· != ')')).length_le
    rw [_h] at hle
    simp only [List.length_cons] at hle ⊢
    omega
  · simp only [List.length_cons]
    omega
  · simp only [List.length_cons]
    omega

/-- The message with its arguments filled in; without arguments it stays as it is. -/
def fill (message : String) (arguments : List Value) : Except FillFault String :=
  if arguments.isEmpty then .ok message
  else (fillFrom (.ofList arguments) 0 message.toList).map String.ofList

end Sieve.Log
