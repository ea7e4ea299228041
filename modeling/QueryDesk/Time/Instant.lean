import QueryDesk.Number.Decimal
import QueryDesk.Time.Calendar

namespace QueryDesk

def daysOfCalendar : Nat := 3652059

/-- An instant, as the number of microseconds since the start of the year 1. -/
structure Instant where
  micros : Nat
  valid : micros < daysOfCalendar * microsPerDay
deriving DecidableEq

namespace Instant

instance : LE Instant := ⟨fun a b => a.micros ≤ b.micros⟩

instance : LT Instant := ⟨fun a b => a.micros < b.micros⟩

instance (a b : Instant) : Decidable (a ≤ b) := inferInstanceAs (Decidable (a.micros ≤ b.micros))

instance (a b : Instant) : Decidable (a < b) := inferInstanceAs (Decidable (a.micros < b.micros))

def monthOf (year : Nat) : (month : Nat) → (fuel : Nat) → (day : Nat) → Nat × Nat
  | month, 0, day => (month, day + 1)
  | month, fuel + 1, day =>
    if day < daysInMonth year month then (month, day + 1)
    else monthOf year (month + 1) fuel (day - daysInMonth year month)

def civil (n : Nat) : Nat × Nat × Nat :=
  let cycles := n / 146097
  let inCycle := n % 146097
  let centuries := min (inCycle / 36524) 3
  let inCentury := inCycle - centuries * 36524
  let fours := inCentury / 1461
  let inFours := inCentury % 1461
  let years := min (inFours / 365) 3
  let year := cycles * 400 + centuries * 100 + fours * 4 + years + 1
  let (month, day) := monthOf year 1 11 (inFours - years * 365)
  (year, month, day)

def toText (i : Instant) : Text :=
  let (year, month, day) := civil (i.micros / microsPerDay)
  let inDay := i.micros % microsPerDay
  let seconds := inDay / 1000000
  dateText year month day ++ "T" ++
    clockText (seconds / 3600) (seconds / 60 % 60) (seconds % 60) (inDay % 1000000) ++ "+00:00"

end Instant

inductive Seconds where
  | whole (n : Int)
  | real (x : Binary64)
deriving DecidableEq

/-- Why a lifetime or the instant at its end cannot be represented. -/
inductive TimeFault where
  | dateOutOfRange
  | tooManyDays (days : Int)
  | daysBeyondWord
  | noSeconds (fault : IntegerFault)
deriving DecidableEq

def TimeFault.message : TimeFault → Text
  | dateOutOfRange => "date value out of range"
  | tooManyDays days => ("days=" : Text) ++ Text.ofInt days ++ "; must have magnitude <= 999999999"
  | daysBeyondWord => "Python int too large to convert to C int"
  | noSeconds fault => fault.message

/-- The microseconds in a number of seconds. The fraction is scaled in double precision first, and
    the whole is then rounded, a half going to the even neighbour. -/
def Seconds.micros : Seconds → Except TimeFault Int
  | whole n => .ok (n * 1000000)
  | real .nan => .error (.noSeconds .notANumber)
  | real (.infinite _) => .error (.noSeconds .infinite)
  | real (.finite negative code) =>
    let exact := Binary64.quotient code
    let whole := exact.1 / exact.2 * 1000000
    let part := Binary64.quotient (Binary64.nearestCode (exact.1 % exact.2 * 1000000) exact.2)
    .ok (Binary64.signed negative (roundHalfEven (whole * part.2 + part.1) part.2))

def Seconds.lifetime (s : Seconds) : Except TimeFault Int := do
  let micros ← s.micros
  let days := micros.fdiv microsPerDay
  if days < -2147483648 ∨ 2147483647 < days then .error .daysBeyondWord
  else if days < -999999999 ∨ 999999999 < days then .error (.tooManyDays days)
  else .ok micros

namespace Instant

def shift (i : Instant) (micros : Int) : Except TimeFault Instant :=
  let sum := (i.micros : Int) + micros
  if h : 0 ≤ sum ∧ sum.toNat < daysOfCalendar * microsPerDay then .ok ⟨sum.toNat, h.2⟩
  else .error .dateOutOfRange

def after (i : Instant) (s : Seconds) : Except TimeFault Instant := do i.shift (← s.lifetime)

end Instant

end QueryDesk
