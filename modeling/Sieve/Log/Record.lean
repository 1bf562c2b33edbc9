/-!
Records of what a run reports.
-/

namespace Sieve.Log

/-- The weight of a record. -/
inductive Level where
  | debug
  | info
  | warning
  | error
  | critical
deriving DecidableEq, Repr

def Level.number : Level → Int
  | debug => 10
  | info => 20
  | warning => 30
  | error => 40
  | critical => 50

def Level.name : Level → String
  | debug => "DEBUG"
  | info => "INFO"
  | warning => "WARNING"
  | error => "ERROR"
  | critical => "CRITICAL"

structure Record where
  /-- The part of the program that reports. -/
  logger : String
  level : Level
  message : String
  /-- The id of the context in which it reports. -/
  correlation : Option String
deriving DecidableEq, Repr

/-- A value with the records of the run that led to it. -/
structure Logged (α : Type) where
  records : List Record
  value : α

namespace Logged

def pure {α : Type} (a : α) : Logged α := ⟨[], a⟩

def bind {α β : Type} (x : Logged α) (f : α → Logged β) : Logged β :=
  let y := f x.value
  ⟨x.records ++ y.records, y.value⟩

instance : Monad Logged where
  pure := pure
  bind := bind

def map {α β : Type} (f : α → β) (x : Logged α) : Logged β := ⟨x.records, f x.value⟩

def tell (logger : String) (level : Level) (message : String) : Logged Unit :=
  ⟨[⟨logger, level, message, none⟩], ()⟩

def tellAll (logger : String) (level : Level) (messages : List String) : Logged Unit :=
  ⟨messages.map fun m => ⟨logger, level, m, none⟩, ()⟩

/-- The records carry an id, unless they have one of a context further in. -/
def stamped {α : Type} (id : Option String) (x : Logged α) : Logged α :=
  ⟨x.records.map fun r => { r with correlation := r.correlation <|> id }, x.value⟩

end Logged

end Sieve.Log
