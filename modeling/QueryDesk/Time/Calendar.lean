import QueryDesk.Text.Basic

namespace QueryDesk

def isLeapYear (year : Nat) : Bool := year % 4 == 0 && (year % 100 != 0 || year % 400 == 0)

def daysInMonth (year month : Nat) : Nat :=
  if month = 2 then (if isLeapYear year then 29 else 28)
  else if month = 4 ∨ month = 6 ∨ month = 9 ∨ month = 11 then 30
  else 31

/-- A date of the Gregorian calendar in the years 1 to 9999. -/
structure Date where
  year : Nat
  month : Nat
  day : Nat
  valid : (1 ≤ year ∧ year ≤ 9999) ∧ (1 ≤ month ∧ month ≤ 12) ∧
    (1 ≤ day ∧ day ≤ daysInMonth year month)
deriving DecidableEq

def Date.ofFields? (year month day : Nat) : Option Date :=
  if h : (1 ≤ year ∧ year ≤ 9999) ∧ (1 ≤ month ∧ month ≤ 12) ∧
      (1 ≤ day ∧ day ≤ daysInMonth year month) then
    some ⟨year, month, day, h⟩
  else none

def daysBeforeMonth (year : Nat) : (month : Nat) → Nat
  | 0 | 1 => 0
  | month + 2 => daysBeforeMonth year (month + 1) + daysInMonth year (month + 1)

def Date.dayNumber (d : Date) : Nat :=
  let years := d.year - 1
  365 * years + years / 4 - years / 100 + years / 400 + daysBeforeMonth d.year d.month + (d.day - 1)

def microsPerDay : Nat := 86400 * 1000000

/-- A distance from universal time, shorter than a day, in microseconds. -/
structure UtcOffset where
  micros : Int
  valid : micros.natAbs < microsPerDay
deriving DecidableEq

structure TimeOfDay where
  hour : Fin 24
  minute : Fin 60
  second : Fin 60
  micro : Fin 1000000
  offset : Option UtcOffset
deriving DecidableEq

def fractionText (micro : Nat) : Text :=
  if micro = 0 then [] else .scalar '.' :: Text.padded 6 micro

def dateText (year month day : Nat) : Text :=
  Text.padded 4 year ++ "-" ++ Text.padded 2 month ++ "-" ++ Text.padded 2 day

def clockText (hour minute second micro : Nat) : Text :=
  Text.padded 2 hour ++ ":" ++ Text.padded 2 minute ++ ":" ++ Text.padded 2 second ++
    fractionText micro

def Date.toText (d : Date) : Text := dateText d.year d.month d.day

def UtcOffset.toText (o : UtcOffset) : Text :=
  let size := o.micros.natAbs
  let seconds := size / 1000000
  let fraction := size % 1000000
  let tail : Text :=
    if seconds % 60 = 0 ∧ fraction = 0 then []
    else .scalar ':' :: Text.padded 2 (seconds % 60) ++ fractionText fraction
  .scalar (if o.micros < 0 then '-' else '+') :: Text.padded 2 (seconds / 3600) ++ ":" ++
    Text.padded 2 (seconds / 60 % 60) ++ tail

def TimeOfDay.toText (t : TimeOfDay) : Text :=
  clockText t.hour t.minute t.second t.micro ++ t.offset.elim [] UtcOffset.toText

def timestampText (d : Date) (t : TimeOfDay) : Text := d.toText ++ "T" ++ t.toText

end QueryDesk
