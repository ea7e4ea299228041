import QueryDesk.Number.Binary64
import QueryDesk.Text.Basic

namespace QueryDesk

namespace Binary64

structure Interval where
  low : Nat
  middle : Nat
  high : Nat
  den : Nat
  closed : Bool

/-- The quotients that round to the finite number with this code: up to half way to either
    neighbour, the ends included when the mantissa is even. -/
def roundingInterval (code : Nat) : Interval :=
  let m := magnitude code
  let below := if m.mantissa = binade ∧ 0 < m.scale then 1 else 2
  let closed := m.mantissa % 2 == 0
  let spread (n : Nat) : Nat := if m.scale ≤ 1074 then n else n * Nat.pow 2 (m.scale - 1074)
  let den := if m.scale ≤ 1074 then 4 * Nat.pow 2 (1074 - m.scale) else 4
  ⟨spread (4 * m.mantissa - below), spread (4 * m.mantissa), spread (4 * m.mantissa + 2), den,
    closed⟩

def Interval.contains (i : Interval) (digits : Nat) (exponent : Int) : Bool :=
  let (value, scale) := match exponent with
    | .ofNat n => (digits * Nat.pow 10 n * i.den, 1)
    | .negSucc n => (digits * i.den, Nat.pow 10 (n + 1))
  if i.closed then i.low * scale ≤ value && value ≤ i.high * scale
  else i.low * scale < value && value < i.high * scale

def Interval.inUnits (i : Interval) : Int → Nat × Nat
  | .ofNat n => (i.middle, i.den * Nat.pow 10 n)
  | .negSucc n => (i.middle * Nat.pow 10 (n + 1), i.den)

def Interval.digitsAt? (i : Interval) (exponent : Int) : Option Nat :=
  let units := i.inUnits exponent
  let down := units.1 / units.2
  let nearest := roundHalfEven units.1 units.2
  let other := if nearest = down then down + 1 else down
  if i.contains nearest exponent then some nearest
  else if i.contains other exponent then some other
  else none

def decimalLength (num den : Nat) : (fuel : Nat) → (start : Int) → Int
  | 0, start => start
  | fuel + 1, start =>
    let below : Bool := match start with
      | .ofNat n => num < den * Nat.pow 10 n
      | .negSucc n => num * Nat.pow 10 (n + 1) < den
    if below then start else decimalLength num den fuel (start + 1)

def Interval.shortest (i : Interval) (length : Int) : (fuel : Nat) → Nat × Int
  | 0 => (0, 0)
  | fuel + 1 =>
    let exponent := length - (17 - fuel : Nat)
    match i.digitsAt? exponent with
    | some digits => (digits, exponent)
    | none => i.shortest length fuel

structure Digits where
  digits : List Char
  point : Int

def Digits.ofDecimal (coefficient : Nat) (exponent : Int) : Digits :=
  let written := Nat.toDigits 10 coefficient
  ⟨(written.reverse.dropWhile (· == '0')).reverse, written.length + exponent⟩

def shortestDigits (code : Nat) : Digits :=
  let i := roundingInterval code
  let binary : Int := (i.middle.log2 : Int) - i.den.log2
  let length := decimalLength i.middle i.den 4 (binary * 30103 / 100000 - 1)
  let (digits, exponent) := i.shortest length 17
  Digits.ofDecimal digits exponent

def Digits.positional (d : Digits) : List Char :=
  if d.point ≤ 0 then ['0', '.'] ++ List.replicate (-d.point).toNat '0' ++ d.digits
  else
    let before := d.point.toNat
    let whole := d.digits.take before ++ List.replicate (before - d.digits.length) '0'
    let rest := d.digits.drop before
    whole ++ ['.'] ++ (if rest.isEmpty then ['0'] else rest)

def Digits.scientific (d : Digits) : List Char :=
  let exponent := d.point - 1
  let size := Nat.toDigits 10 exponent.natAbs
  d.digits.take 1 ++ (if d.digits.length ≤ 1 then [] else '.' :: d.digits.drop 1) ++
    ['e', if exponent < 0 then '-' else '+'] ++ List.replicate (2 - size.length) '0' ++ size

def Digits.render (d : Digits) : List Char :=
  if -4 < d.point ∧ d.point ≤ 16 then d.positional else d.scientific

def toText : Binary64 → Text
  | nan => "nan"
  | infinite negative => if negative then "-inf" else "inf"
  | finite negative code =>
    let shown := if code.val = 0 then ['0', '.', '0'] else (shortestDigits code).render
    Text.ofChars (if negative then '-' :: shown else shown)

end Binary64

end QueryDesk
