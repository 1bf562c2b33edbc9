/-!
What is wrong with a value read against a schema: a place, a code and a message for each fault.
-/

namespace Sieve.Schema

/-- Why a value does not fit. -/
inductive Cause where
  | missing
  | text
  /-- Bytes that no text has. -/
  | textBytes
  | tuple
  | list
  | dictionary
  | frozenSet
  /-- Neither a dictionary nor a value of the record type of this name. -/
  | record (name : String)
  | integer
  | integerText
  | integerTooLong
  | integerFraction
  | notFinite
  | boolean
  | booleanText
  | path
  | atLeast (n : Int)
  | atMost (n : Int)
  /-- A rule of the field itself is broken. -/
  | rule (message : String)
deriving DecidableEq, Repr

def Cause.code : Cause → String
  | missing => "missing"
  | text => "string_type"
  | textBytes => "string_unicode"
  | tuple => "tuple_type"
  | list => "list_type"
  | dictionary => "dict_type"
  | frozenSet => "frozen_set_type"
  | record _ => "model_type"
  | integer => "int_type"
  | integerText => "int_parsing"
  | integerTooLong => "int_parsing_size"
  | integerFraction => "int_from_float"
  | notFinite => "finite_number"
  | boolean => "bool_type"
  | booleanText => "bool_parsing"
  | path => "path_type"
  | atLeast _ => "greater_than_equal"
  | atMost _ => "less_than_equal"
  | rule _ => "value_error"

def Cause.message : Cause → String
  | missing => "Field required"
  | text => "Input should be a valid string"
  | textBytes => "Input should be a valid string, unable to parse raw data as a unicode string"
  | tuple => "Input should be a valid tuple"
  | list => "Input should be a valid list"
  | dictionary => "Input should be a valid dictionary"
  | frozenSet => "Input should be a valid frozenset"
  | record name => s!"Input should be a valid dictionary or instance of {name}"
  | integer => "Input should be a valid integer"
  | integerText => "Input should be a valid integer, unable to parse string as an integer"
  | integerTooLong =>
    "Unable to parse input string as an integer, exceeded maximum size"
  | integerFraction => "Input should be a valid integer, got a number with a fractional part"
  | notFinite => "Input should be a finite number"
  | boolean => "Input should be a valid boolean"
  | booleanText => "Input should be a valid boolean, unable to interpret input"
  | path => "Input is not a valid path for <class 'pathlib.Path'>"
  | atLeast n => s!"Input should be greater than or equal to {n}"
  | atMost n => s!"Input should be less than or equal to {n}"
  | rule message => s!"Value error, {message}"

/-- A fault at a place: the keys and positions that lead there. -/
structure Issue where
  place : List String
  cause : Cause
deriving DecidableEq, Repr

/-- The issue seen from one level further out. -/
def Issue.within (i : Issue) (key : String) : Issue := { i with place := key :: i.place }

/-- A value, or all its faults in order. -/
abbrev Read (α : Type) := Except (List Issue) α

def Read.fail {α : Type} (c : Cause) : Read α := .error [⟨[], c⟩]

/-- Moves the faults below a key. -/
def Read.at {α : Type} (key : String) (r : Read α) : Read α :=
  r.mapError fun issues => issues.map (·.within key)

/-- Both values, or the faults of both. -/
def Read.both {α β : Type} (a : Read α) (b : Read β) : Read (α × β) :=
  match a, b with
  | .ok x, .ok y => .ok (x, y)
  | .ok _, .error f => .error f
  | .error e, .ok _ => .error e
  | .error e, .error f => .error (e ++ f)

/-- Reads every item; faults carry its position. -/
def Read.items {α β : Type} (f : α → Read β) (from_ : Nat) : List α → Read (List β)
  | [] => .ok []
  | x :: xs =>
    match Read.both (Read.at (toString from_) (f x)) (Read.items f (from_ + 1) xs) with
    | .ok (y, ys) => .ok (y :: ys)
    | .error e => .error e

end Sieve.Schema
