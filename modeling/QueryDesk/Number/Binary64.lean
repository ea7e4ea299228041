namespace QueryDesk

/-- A double-precision number. The magnitudes of the finite ones are counted from zero upwards by
    `code`, so that codes and magnitudes are ordered alike. -/
inductive Binary64 where
  | nan
  | infinite (negative : Bool)
  | finite (negative : Bool) (code : Fin 0x7FF0000000000000)
deriving DecidableEq

def roundHalfEven (num den : Nat) : Nat :=
  let q := num / den
  let r := num % den
  if 2 * r < den then q
  else if den < 2 * r then q + 1
  else q + q % 2

namespace Binary64

def binade : Nat := Nat.pow 2 52

def zero : Binary64 := finite false 0

def isFinite : Binary64 → Bool
  | finite .. => true
  | _ => false

structure Magnitude where
  mantissa : Nat
  scale : Nat

def magnitude (code : Nat) : Magnitude :=
  if code < binade then ⟨code, 0⟩ else ⟨binade + code % binade, code / binade - 1⟩

def inUnits (num den scale : Nat) : Nat × Nat :=
  if scale ≤ 1074 then (num * Nat.pow 2 (1074 - scale), den) else (num, den * Nat.pow 2 (scale - 1074))

/-- The scale at which the quotient `num / den` has a mantissa of 53 bits, or scale zero when it is
    smaller than every such number. -/
def scaleOf (num den : Nat) : Nat :=
  if num = 0 then 0 else
  let estimate := num.log2 + 1074 - den.log2 - 52
  let units := inUnits num den estimate
  if units.1 < units.2 * binade then estimate - 1 else estimate

def nearestCode (num den : Nat) : Nat :=
  let scale := scaleOf num den
  let units := inUnits num den scale
  scale * binade + roundHalfEven units.1 units.2

def ofCode (negative : Bool) (code : Nat) : Binary64 :=
  if h : code < 0x7FF0000000000000 then finite negative ⟨code, h⟩ else infinite negative

def ofQuotient (negative : Bool) (num den : Nat) : Binary64 :=
  ofCode negative (nearestCode num den)

/-- The number nearest to `coefficient * 10 ^ exponent`. Exponents at which every coefficient of its
    length is out of range are settled without writing the power out. -/
def ofDecimal (negative : Bool) (coefficient : Nat) (exponent : Int) : Binary64 :=
  if coefficient = 0 then finite negative 0
  else
    let digits : Int := (Nat.toDigits 10 coefficient).length
    if 310 < digits + exponent then infinite negative
    else if digits + exponent < -330 then finite negative 0
    else match exponent with
      | .ofNat n => ofQuotient negative (coefficient * Nat.pow 10 n) 1
      | .negSucc n => ofQuotient negative coefficient (Nat.pow 10 (n + 1))

def ofInt (n : Int) : Binary64 := ofQuotient (n < 0) n.natAbs 1

def ofInt? (n : Int) : Option Binary64 :=
  let x := ofInt n
  if x.isFinite then some x else none

def quotient (code : Nat) : Nat × Nat :=
  let m := magnitude code
  if m.scale ≤ 1074 then (m.mantissa, Nat.pow 2 (1074 - m.scale))
  else (m.mantissa * Nat.pow 2 (m.scale - 1074), 1)

def signed (negative : Bool) (n : Nat) : Int := if negative then -(n : Int) else n

def toInt? : Binary64 → Option Int
  | finite negative code =>
    let q := quotient code
    if q.1 % q.2 = 0 then some (signed negative (q.1 / q.2)) else none
  | _ => none

def isZero : Binary64 → Bool
  | finite _ code => code == 0
  | _ => false

def toBits : Binary64 → Nat
  | nan => 0x7FF8000000000000
  | infinite negative => (if negative then Nat.pow 2 63 else 0) + 0x7FF0000000000000
  | finite negative code => (if negative then Nat.pow 2 63 else 0) + code.val

end Binary64

end QueryDesk
