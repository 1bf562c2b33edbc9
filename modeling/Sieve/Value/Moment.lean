/-!
Calendar dates and times of day, with their texts.
-/

namespace Sieve

structure Date where
  year : Nat
  month : Nat
  day : Nat
deriving DecidableEq, Repr

/-- A date with a time of day, `offset` seconds east of Greenwich if that is known. -/
structure Moment where
  date : Date
  hour : Nat
  minute : Nat
  second : Nat
  microsecond : Nat
  offset : Option Int
deriving DecidableEq, Repr

def isLeapYear (y : Nat) : Bool := y % 4 == 0 && (y % 100 != 0 || y % 400 == 0)

def daysInMonth (y m : Nat) : Nat :=
  match m with
  | 2 => if isLeapYear y then 29 else 28
  | 4 | 6 | 9 | 11 => 30
  | _ => 31

/-- Why numbers are no date or time. -/
inductive CalendarFault where
  | year (n : Nat)
  | month
  | day
  | hour
  | minute
  | second
deriving DecidableEq, Repr

def CalendarFault.message : CalendarFault → String
  | year n => s!"year {n} is out of range"
  | month => "month must be in 1..12"
  | day => "day is out of range for month"
  | hour => "hour must be in 0..23"
  | minute => "minute must be in 0..59"
  | second => "second must be in 0..59"

def Date.check (d : Date) : Except CalendarFault Unit :=
  if d.year < 1 || 9999 < d.year then .error (.year d.year)
  else if d.month < 1 || 12 < d.month then .error .month
  else if d.day < 1 || daysInMonth d.year d.month < d.day then .error .day
  else .ok ()

def Moment.check (m : Moment) : Except CalendarFault Unit := do
  m.date.check
  if 23 < m.hour then throw .hour
  if 59 < m.minute then throw .minute
  if 59 < m.second then throw .second

/-- The days before a year, counted from the first of the year 1. -/
def daysBeforeYear (y : Nat) : Nat := (y - 1) * 365 + (y - 1) / 4 - (y - 1) / 100 + (y - 1) / 400

/-- The number of a day, the first of the year 1 being zero. -/
def Date.ordinal (d : Date) : Nat :=
  let before := (List.range (d.month - 1)).foldl (fun n m => n + daysInMonth d.year (m + 1)) 0
  daysBeforeYear d.year + before + (d.day - 1)

/-- The month and day of the `n`th day after the first of month `m`. -/
def monthAndDay (y : Nat) : (fuel : Nat) → (m n : Nat) → Nat × Nat
  | 0, m, n => (m, n + 1)
  | k + 1, m, n =>
    if n < daysInMonth y m then (m, n + 1) else monthAndDay y k (m + 1) (n - daysInMonth y m)

/-- The date of a day's number. -/
def Date.ofOrdinal (n : Nat) : Date :=
  let guess := n / 366 + 1
  let year := (List.range 30).foldl (fun y _ => if daysBeforeYear (y + 1) ≤ n then y + 1 else y) guess
  let (month, day) := monthAndDay year 12 1 (n - daysBeforeYear year)
  ⟨year, month, day⟩

/-- The moment some seconds later, or earlier if they are negative. -/
def Moment.shift (m : Moment) (seconds : Int) : Moment :=
  let total : Int :=
    m.date.ordinal * 86400 + m.hour * 3600 + m.minute * 60 + m.second + seconds
  let rest := (total % 86400).toNat
  { m with date := .ofOrdinal (total / 86400).toNat, hour := rest / 3600,
           minute := rest / 60 % 60, second := rest % 60 }

/-- A number with zeros before it. -/
def paddedNat (width n : Nat) : String :=
  let ds := (toString n).toList
  String.ofList (List.replicate (width - ds.length) '0' ++ ds)

def Date.text (d : Date) : String :=
  s!"{paddedNat 4 d.year}-{paddedNat 2 d.month}-{paddedNat 2 d.day}"

def Date.detailed (d : Date) : String := s!"datetime.date({d.year}, {d.month}, {d.day})"

/-- An offset as hours and minutes with a sign, and the seconds if there are any. -/
def offsetText (o : Int) : String :=
  let n := o.natAbs
  let sign := if o < 0 then "-" else "+"
  let seconds := if n % 60 = 0 then "" else s!":{paddedNat 2 (n % 60)}"
  s!"{sign}{paddedNat 2 (n / 3600)}:{paddedNat 2 (n / 60 % 60)}{seconds}"

/-- The time of day; microseconds are left out if there are none. -/
def Moment.clock (m : Moment) : String :=
  let fraction := if m.microsecond = 0 then "" else s!".{paddedNat 6 m.microsecond}"
  s!"{paddedNat 2 m.hour}:{paddedNat 2 m.minute}:{paddedNat 2 m.second}{fraction}"

def Moment.text (m : Moment) : String :=
  let zone := match m.offset with
    | none => ""
    | some o => offsetText o
  s!"{m.date.text} {m.clock}{zone}"

/-- A span as whole days downward and seconds upward. -/
def spanDetailed (o : Int) : String :=
  let days := o / 86400
  let seconds := o % 86400
  let parts := (if days = 0 then [] else [s!"days={days}"]) ++
    (if seconds = 0 then [] else [s!"seconds={seconds}"])
  let arguments := if parts.isEmpty then "0" else ", ".intercalate parts
  s!"datetime.timedelta({arguments})"

def offsetDetailed (o : Int) : String :=
  if o = 0 then "datetime.timezone.utc" else s!"datetime.timezone({spanDetailed o})"

/-- The moment under the name of its type. Zero seconds and microseconds at the end are left
out. -/
def Moment.detailedAs (typeName : String) (m : Moment) : String :=
  let start := [m.date.year, m.date.month, m.date.day, m.hour, m.minute]
  let rest :=
    if m.microsecond ≠ 0 then [m.second, m.microsecond]
    else if m.second ≠ 0 then [m.second]
    else []
  let zone := match m.offset with
    | none => []
    | some o => [s!"tzinfo={offsetDetailed o}"]
  let arguments := ", ".intercalate ((start ++ rest).map toString ++ zone)
  s!"{typeName}({arguments})"

def Moment.detailed (m : Moment) : String := m.detailedAs "datetime.datetime"

end Sieve
