import QueryDesk.Number.Numeral
import QueryDesk.Text.Basic

namespace QueryDesk

inductive Decimal where
  | finite (negative : Bool) (coefficient : Nat) (exponent : Int)
  | infinite (negative : Bool)
  | nan (negative : Bool) (signalling : Bool) (payload : Nat)
deriving DecidableEq

namespace Decimal

def ofChars? (cs : List Char) : Option Decimal :=
  let (negative, rest) := Numeral.splitSign cs
  let rest := rest.map Char.toLower
  match rest with
  | 'n' :: 'a' :: 'n' :: payload =>
    if payload.all Numeral.isDigit then some (nan negative false (Numeral.ofDigits payload)) else none
  | 's' :: 'n' :: 'a' :: 'n' :: payload =>
    if payload.all Numeral.isDigit then some (nan negative true (Numeral.ofDigits payload)) else none
  | _ =>
    match Numeral.ofChars? cs with
    | some (.finite negative coefficient exponent) => some (finite negative coefficient exponent)
    | some (.infinite negative) => some (infinite negative)
    | _ => none

def toBinary64? : Decimal → Option Binary64
  | finite negative coefficient exponent => some (Binary64.ofDecimal negative coefficient exponent)
  | infinite negative => some (.infinite negative)
  | nan _ signalling _ => if signalling then none else some .nan

/-- The integer equal to the number: `none` when the number is not finite, `some none` when it has a
    fractional part. -/
def toInt? : Decimal → Option (Option Int)
  | finite negative coefficient exponent =>
    match exponent with
    | .ofNat n => some (some (Binary64.signed negative (coefficient * Nat.pow 10 n)))
    | .negSucc n =>
      if coefficient = 0 then some (some 0)
      else if (Nat.toDigits 10 coefficient).length < n + 1 then some none
      else if coefficient % Nat.pow 10 (n + 1) = 0 then
        some (some (Binary64.signed negative (coefficient / Nat.pow 10 (n + 1))))
      else some none
  | _ => none

/-- The digits of a finite number with a point among or before them; an exponent is written when the
    point would stand after the digits or more than six places before them. -/
def finiteText (coefficient : Nat) (exponent : Int) : List Char :=
  let digits := Nat.toDigits 10 coefficient
  let length : Int := digits.length
  let left := exponent + length
  let point := if exponent ≤ 0 ∧ -6 < left then left else 1
  let written :=
    if point ≤ 0 then ['0', '.'] ++ List.replicate (-point).toNat '0' ++ digits
    else if length ≤ point then digits ++ List.replicate (point - length).toNat '0'
    else digits.take point.toNat ++ '.' :: digits.drop point.toNat
  if left = point then written
  else
    let shift := left - point
    written ++ ['E', if shift < 0 then '-' else '+'] ++ Nat.toDigits 10 shift.natAbs

def toText (d : Decimal) : Text :=
  let (negative, shown) := match d with
    | finite negative coefficient exponent => (negative, finiteText coefficient exponent)
    | infinite negative => (negative, "Infinity".toList)
    | nan negative signalling payload =>
      (negative, (if signalling then "sNaN" else "NaN").toList ++
        (if payload = 0 then [] else Nat.toDigits 10 payload))
  Text.ofChars (if negative then '-' :: shown else shown)

end Decimal

inductive IntegerFault where
  | notANumber
  | infinite
  | decimalNotANumber
  | decimalInfinite
deriving DecidableEq

def IntegerFault.message : IntegerFault → Text
  | notANumber => "cannot convert float NaN to integer"
  | infinite => "cannot convert float infinity to integer"
  | decimalNotANumber => "cannot convert NaN to integer"
  | decimalInfinite => "cannot convert Infinity to integer"

def Binary64.truncate : Binary64 → Except IntegerFault Int
  | nan => .error .notANumber
  | infinite _ => .error .infinite
  | finite negative code =>
    let (num, den) := quotient code
    .ok (signed negative (num / den))

def Binary64.isNegative : Binary64 → Bool
  | nan => false
  | infinite negative => negative
  | finite negative code => negative && code.val != 0

def Decimal.isNegative : Decimal → Bool
  | nan .. => false
  | infinite negative => negative
  | finite negative coefficient _ => negative && coefficient != 0

def Decimal.truncate : Decimal → Except IntegerFault Int
  | nan .. => .error .decimalNotANumber
  | infinite _ => .error .decimalInfinite
  | finite negative coefficient (.ofNat n) =>
    .ok (Binary64.signed negative (coefficient * Nat.pow 10 n))
  | finite negative coefficient (.negSucc n) =>
    .ok (if (Nat.toDigits 10 coefficient).length < n + 1 then 0
      else Binary64.signed negative (coefficient / Nat.pow 10 (n + 1)))

end QueryDesk
