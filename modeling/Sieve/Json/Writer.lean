import Sieve.Decimal.Shortest
import Sieve.Json.Basic
import Sieve.Text.Quoted

/-!
Writing JSON in ASCII, on one line or indented.
-/

namespace Sieve.Json

open Sieve.Text

/-- A code unit of 16 bits, spelled out. -/
def unitEscape (n : Nat) : List Char := '\\' :: 'u' :: hexDigits 4 n

/-- A character inside a string: above the first plane it is a pair of units. -/
def escaped (c : Char) : List Char :=
  let n := c.toNat
  if c = '"' then ['\\', '"']
  else if c = '\\' then ['\\', '\\']
  else if c = '\n' then ['\\', 'n']
  else if c = '\r' then ['\\', 'r']
  else if c = '\t' then ['\\', 't']
  else if n = 0x08 then ['\\', 'b']
  else if n = 0x0c then ['\\', 'f']
  else if 0x20 ≤ n && n ≤ 0x7e then [c]
  else if n < 0x10000 then unitEscape n
  else unitEscape (0xD800 + (n - 0x10000) / 0x400) ++ unitEscape (0xDC00 + (n - 0x10000) % 0x400)

def stringText (s : String) : List Char := '"' :: s.toList.flatMap escaped ++ ['"']

/-- The word of a number without digits, else its text. -/
def floatText (x : Float) : List Char :=
  if x.isNaN then "NaN".toList
  else if x.isInf then (if x < 0 then "-Infinity".toList else "Infinity".toList)
  else (Decimal.text x).toList

/-- A line feed and the indentation of a depth, or nothing. -/
def lineBreak (indent : Option Nat) (depth : Nat) : List Char :=
  match indent with
  | none => []
  | some k => '\n' :: List.replicate (k * depth) ' '

/-- What stands between two items. -/
def separator (indent : Option Nat) (depth : Nat) : List Char :=
  match indent with
  | none => [',', ' ']
  | some _ => ',' :: lineBreak indent depth

mutual

/-- The text of a document at a depth; without an indentation all stands on one line. -/
def write (indent : Option Nat) (depth : Nat) : Json → List Char
  | null => "null".toList
  | bool b => (if b then "true" else "false").toList
  | int n => (toString n).toList
  | float x => floatText x
  | str s => stringText s
  | arr [] => ['[', ']']
  | arr (x :: xs) =>
    '[' :: lineBreak indent (depth + 1) ++ write indent (depth + 1) x ++
      writeItems indent (depth + 1) xs ++ lineBreak indent depth ++ [']']
  | obj [] => ['\x7b', '\x7d']
  | obj ((k, v) :: ms) =>
    '\x7b' :: lineBreak indent (depth + 1) ++ stringText k ++ [':', ' '] ++
      write indent (depth + 1) v ++ writeMembers indent (depth + 1) ms ++
      lineBreak indent depth ++ ['\x7d']

def writeItems (indent : Option Nat) (depth : Nat) : List Json → List Char
  | [] => []
  | x :: xs => separator indent depth ++ write indent depth x ++ writeItems indent depth xs

def writeMembers (indent : Option Nat) (depth : Nat) : List (String × Json) → List Char
  | [] => []
  | (k, v) :: ms =>
    separator indent depth ++ stringText k ++ [':', ' '] ++ write indent depth v ++
      writeMembers indent depth ms

end

/-- The document on one line. -/
def compact (j : Json) : String := String.ofList (write none 0 j)

/-- The document with one item a line, indented by two spaces a level. -/
def indented (j : Json) : String := String.ofList (write (some 2) 0 j)

end Sieve.Json
