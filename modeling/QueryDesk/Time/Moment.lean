import QueryDesk.Time.Instant

namespace QueryDesk

structure Moment where
  date : Date
  time : TimeOfDay
deriving DecidableEq

namespace Moment

inductive Fault where
  | tooShort
  | yearCharacter
  | dateSeparator
  | monthCharacter
  | monthOutOfRange
  | dayCharacter
  | dayOutOfRange
  | trailing
  | tooEarly
  | tooLate
  | notANumber
deriving DecidableEq

def Fault.message : Fault → Text
  | tooShort => "input is too short"
  | yearCharacter => "invalid character in year"
  | dateSeparator => "invalid date separator, expected \x60-\x60"
  | monthCharacter => "invalid character in month"
  | monthOutOfRange => "month value is outside expected range of 1-12"
  | dayCharacter => "invalid character in day"
  | dayOutOfRange => "day value is outside expected range"
  | trailing => "unexpected extra characters at the end of the input"
  | tooEarly => "dates before 1600 are not supported as unix timestamps"
  | tooLate => "dates after 9999 are not supported as unix timestamps"
  | notANumber => "NaN values not permitted"

def toText (m : Moment) : Text := timestampText m.date m.time

def midnight : TimeOfDay := ⟨0, 0, 0, 0, none⟩

def isDigitByte (b : UInt8) : Bool := 48 ≤ b && b ≤ 57

def digits? (bs : List UInt8) : Option Nat :=
  if bs.all isDigitByte then some (bs.foldl (fun n b => 10 * n + (b.toNat - 48)) 0) else none

def field (fault : Fault) (bs : List UInt8) : Except Fault Nat :=
  match digits? bs with
  | some n => .ok n
  | none => .error fault

def dateOfBytes : List UInt8 → Except Fault (Date × List UInt8)
  | y₁ :: y₂ :: y₃ :: y₄ :: first :: m₁ :: m₂ :: second :: d₁ :: d₂ :: rest => do
    let year ← field .yearCharacter [y₁, y₂, y₃, y₄]
    if first ≠ 45 then throw .dateSeparator
    let month ← field .monthCharacter [m₁, m₂]
    if second ≠ 45 then throw .dateSeparator
    let day ← field .dayCharacter [d₁, d₂]
    if month = 0 ∨ 12 < month then throw .monthOutOfRange
    let some date := Date.ofFields? year month day | throw .dayOutOfRange
    .ok (date, rest)
  | _ => .error .tooShort

def offsetOfBytes (sign : Int) : List UInt8 → Option UtcOffset
  | h₁ :: h₂ :: 58 :: m₁ :: m₂ :: [] | h₁ :: h₂ :: m₁ :: m₂ :: [] => do
    let hours ← digits? [h₁, h₂]
    let minutes ← digits? [m₁, m₂]
    let micros : Int := sign * ((hours * 60 + minutes : Nat) * 60000000)
    if h : micros.natAbs < microsPerDay ∧ minutes < 60 then some ⟨micros, h.1⟩ else none
  | _ => none

def zoneOfBytes : List UInt8 → Option (Option UtcOffset)
  | [] => some none
  | [90] | [122] => some (some ⟨0, by decide⟩)
  | 43 :: rest => (offsetOfBytes 1 rest).map some
  | 45 :: rest | 226 :: 136 :: 146 :: rest => (offsetOfBytes (-1) rest).map some
  | _ => none

def fractionOfBytes : List UInt8 → Option (Nat × List UInt8)
  | 46 :: rest | 44 :: rest =>
    let written := rest.takeWhile isDigitByte
    let shown := written.take 6
    if written.isEmpty then none
    else (digits? (shown ++ List.replicate (6 - shown.length) 48)).map fun micro =>
      (micro, rest.dropWhile isDigitByte)
  | rest => some (0, rest)

def secondsOfBytes : List UInt8 → Option (Nat × Nat × List UInt8)
  | 58 :: s₁ :: s₂ :: rest => do
    let second ← digits? [s₁, s₂]
    let (micro, rest) ← fractionOfBytes rest
    some (second, micro, rest)
  | 58 :: _ => none
  | rest => some (0, 0, rest)

def timeOfBytes : List UInt8 → Option TimeOfDay
  | h₁ :: h₂ :: 58 :: m₁ :: m₂ :: rest => do
    let hour ← digits? [h₁, h₂]
    let minute ← digits? [m₁, m₂]
    let (second, micro, rest) ← secondsOfBytes rest
    let offset ← zoneOfBytes rest
    if valid : hour < 24 ∧ minute < 60 ∧ second < 60 ∧ micro < 1000000 then
      some ⟨⟨hour, valid.1⟩, ⟨minute, valid.2.1⟩, ⟨second, valid.2.2.1⟩, ⟨micro, valid.2.2.2⟩, offset⟩
    else none
  | _ => none

def ofIsoBytes? (bs : List UInt8) : Option Moment := do
  let (date, rest) ← (dateOfBytes bs).toOption
  match rest with
  | separator :: rest =>
    if [84, 116, 32, 95].contains separator then (timeOfBytes rest).map (⟨date, ·⟩) else none
  | [] => none

def epochDay : Nat := 719162

def firstSecond : Int := -11676096000

def lastSecond : Int := 253402300799

def greatestSeconds : Nat := 20000000000

def ofSeconds (seconds : Int) (micros : Nat) : Except Fault Moment := do
  let seconds := seconds + (micros / 1000000 : Nat)
  if seconds < firstSecond then throw .tooEarly
  if lastSecond < seconds then throw .tooLate
  let total := (seconds + epochDay * 86400).toNat
  let (year, month, day) := Instant.civil (total / 86400)
  let some date := Date.ofFields? year month day | throw .tooLate
  let inDay := total % 86400
  .ok ⟨date, Fin.ofNat 24 (inDay / 3600), Fin.ofNat 60 (inDay / 60), Fin.ofNat 60 inDay,
    Fin.ofNat 1000000 micros, some ⟨0, by decide⟩⟩

def ofNumber (n : Int) (micros : Nat) : Except Fault Moment :=
  if n.natAbs ≤ greatestSeconds then ofSeconds n micros
  else ofSeconds (n.fdiv 1000) (micros + (n.fmod 1000).toNat * 1000)

def ofFloat : Binary64 → Except Fault Moment
  | .nan => .error .notANumber
  | .infinite negative => .error (if negative then .tooEarly else .tooLate)
  | .finite negative code =>
    let (num, den) := Binary64.quotient code
    let whole : Int := Binary64.signed negative (num / den)
    let floor := if negative && num % den != 0 then whole - 1 else whole
    let scaled := Binary64.quotient (Binary64.nearestCode (num % den * 1000000) den)
    ofNumber floor ((2 * scaled.1 + scaled.2) / (2 * scaled.2))

def numberOfBytes (bs : List UInt8) : Option (Int × Option Binary64) :=
  let (negative, rest) := match bs with
    | 45 :: rest => (true, rest)
    | 43 :: rest => (false, rest)
    | rest => (false, rest)
  let whole := rest.takeWhile isDigitByte
  match digits? whole, rest.dropWhile isDigitByte with
  | some n, [] => if whole.isEmpty then none else some (Binary64.signed negative n, none)
  | some n, 46 :: fraction =>
    if whole.isEmpty then none
    else (digits? fraction).map fun f =>
      (Binary64.signed negative n,
        some (Binary64.ofDecimal negative (n * Nat.pow 10 fraction.length + f) (-fraction.length)))
  | _, _ => none

def ofBytes (bs : List UInt8) : Except Fault Moment :=
  let asDate : Except Fault Moment := do
    let (date, rest) ← dateOfBytes bs
    if rest.isEmpty then .ok ⟨date, midnight⟩ else throw .trailing
  match ofIsoBytes? bs with
  | some m => .ok m
  | none =>
    match numberOfBytes bs with
    | some (n, none) => if n.natAbs < Nat.pow 2 63 then ofNumber n 0 else asDate
    | some (_, some x) =>
      match ofFloat x with
      | .ok m => .ok m
      | .error _ => asDate
    | none => asDate

end Moment

end QueryDesk
