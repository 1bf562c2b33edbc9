import Sieve.Text.Quoted

/-!
Messages on one line. Control characters other than the tabulator are spelled out, so that no
message can pass for several events.
-/

namespace Sieve.Log

/-- A control character that could start a line of its own. -/
def isControl (c : Char) : Bool := (c.toNat < 0x20 && c != '\t') || c.toNat = 0x7f

/-- The message with its control characters spelled out. -/
def oneLine (message : String) : String :=
  String.ofList (message.toList.flatMap fun c => if isControl c then Text.escapeChar c else [c])

end Sieve.Log
