import QueryDesk.Number.Binary64

namespace QueryDesk

inductive Numeral where
  | finite (negative : Bool) (coefficient : Nat) (exponent : Int)
  | infinite (negative : Bool)
  | nan
deriving DecidableEq

namespace Numeral

def isDigit (c : Char) : Bool := '0' ≤ c && c ≤ '9'

def ofDigits (digits : List Char) : Nat :=
  digits.foldl (fun n c => 10 * n + (c.toNat - 48)) 0

def splitSign : List Char → Bool × List Char
  | '-' :: rest => (true, rest)
  | '+' :: rest => (false, rest)
  | rest => (false, rest)

def splitDigits (cs : List Char) : List Char × List Char :=
  (cs.takeWhile isDigit, cs.dropWhile isDigit)

def underscoresSeparate : List Char → Bool
  | [] => true
  | '_' :: _ => false
  | [_] => true
  | _ :: '_' :: [] => false
  | _ :: '_' :: '_' :: _ => false
  | _ :: '_' :: rest => underscoresSeparate rest
  | _ :: rest => underscoresSeparate rest

def dropUnderscores (cs : List Char) : List Char := cs.filter (· != '_')

def withoutUnderscores (cs : List Char) : List Char :=
  if underscoresSeparate cs then dropUnderscores cs else cs

def exponent? : List Char → Option Int
  | [] => some 0
  | c :: rest =>
    if c = 'e' ∨ c = 'E' then
      let (negative, digits) := splitSign rest
      if digits.isEmpty || !digits.all isDigit then none
      else some (Binary64.signed negative (ofDigits digits))
    else none

def unsigned? (cs : List Char) : Option (Nat × Int) :=
  let (whole, rest) := splitDigits cs
  let (fraction, rest) := match rest with
    | '.' :: rest => splitDigits rest
    | rest => ([], rest)
  if whole.isEmpty && fraction.isEmpty then none
  else (exponent? rest).map fun e => (ofDigits (whole ++ fraction), e - fraction.length)

def ofChars? (cs : List Char) : Option Numeral :=
  let (negative, rest) := splitSign cs
  let word := String.ofList (rest.map Char.toLower)
  if word = "inf" ∨ word = "infinity" then some (infinite negative)
  else if word = "nan" then some nan
  else (unsigned? rest).map fun (coefficient, e) => finite negative coefficient e

def toBinary64 : Numeral → Binary64
  | finite negative coefficient e => Binary64.ofDecimal negative coefficient e
  | infinite negative => .infinite negative
  | nan => .nan

end Numeral

end QueryDesk
