import QueryDesk.Number.Numeral
import QueryDesk.Text.Basic

namespace QueryDesk

namespace Whole

inductive Fault where
  | unreadable
  | tooLong (digits : Nat)
deriving DecidableEq

def longest : Nat := 4300

@[irreducible] def bound : Nat := Nat.pow 10 longest

def Writable (n : Int) : Prop := n.natAbs < bound

instance (n : Int) : Decidable (Writable n) := inferInstanceAs (Decidable (n.natAbs < bound))

def unwritable : Text := ("Exceeds the limit (4300 digits) for integer string conversion; " : Text) ++
  "use sys.set_int_max_str_digits() to increase the limit"

/-- An integer without anything that could be left out: a minus sign if it is negative, and digits
    that begin with a zero only if they are no more than that. The sign counts as a digit. -/
def ofPlain (cs : List Char) : Except Fault Int :=
  let (negative, rest) := match cs with
    | '-' :: rest => (true, rest)
    | rest => (false, rest)
  let digits := rest.takeWhile Numeral.isDigit
  let length := cs.length - (rest.length - digits.length)
  if rest = ['0'] then .ok 0
  else if digits.isEmpty || digits.head? == some '0' then .error .unreadable
  else if longest < length then .error (.tooLong length)
  else if digits.length < rest.length then .error .unreadable
  else .ok (Binary64.signed negative (Numeral.ofDigits digits))

/-- What is left after leading zeros and underscores, the last of which is `last`. It is kept before a
    point and at the end. -/
def afterZeros (last : Char) : List Char → Option (List Char)
  | [] => some [last]
  | c :: rest =>
    if c == '0' || c == '_' then afterZeros c rest
    else if c == '.' then some (last :: c :: rest)
    else if c == '-' || Numeral.isDigit c then some (c :: rest)
    else none

def withoutZeros : List Char → Option (List Char)
  | [] => none
  | c :: rest =>
    if c == '0' then afterZeros c rest
    else if c == '-' || Numeral.isDigit c then some (c :: rest)
    else none

def withoutFraction (cs : List Char) : List Char :=
  let fraction := (cs.dropWhile (· != '.')).drop 1
  if fraction.isEmpty || !fraction.all (· == '0') then cs else cs.takeWhile (· != '.')

def withoutPlus : List Char → Option (List Char)
  | '+' :: '-' :: _ => none
  | '+' :: rest => some rest
  | cs => some cs

def ofField (cs : List Char) : Except Fault Int :=
  match withoutPlus (trimBoth isTrimmed cs) >>= withoutZeros with
  | some cs => ofPlain (Numeral.withoutUnderscores (withoutFraction cs))
  | none => .error .unreadable

/-- The integer that a list of characters writes on its own: a sign, and digits with single
    underscores between them, with white space around. -/
def ofChars (cs : List Char) : Except Fault Int :=
  let (negative, rest) := Numeral.splitSign ((trimBoth isTrimmed cs).map asciiDigit)
  let isPart (c : Char) := Numeral.isDigit c || c == '_'
  let written := rest.takeWhile isPart
  let digits := Numeral.dropUnderscores written
  if digits.isEmpty || !Numeral.underscoresSeparate written then .error .unreadable
  else if longest < digits.length then .error (.tooLong digits.length)
  else if written.length < rest.length then .error .unreadable
  else .ok (Binary64.signed negative (Numeral.ofDigits digits))

end Whole

end QueryDesk
