namespace QueryDesk

/-- A code point is either a Unicode scalar value or one of the 2048 surrogates, counted from
    U+D800. -/
inductive Point where
  | scalar (c : Char)
  | surrogate (n : Fin 2048)
deriving DecidableEq

abbrev Text := List Point

namespace Point

def toNat : Point → Nat
  | scalar c => c.toNat
  | surrogate n => 0xD800 + n.val

def ofNat? (n : Nat) : Option Point :=
  if h : 0xD800 ≤ n ∧ n < 0xE000 then some (surrogate ⟨n - 0xD800, by omega⟩)
  else if n < 0x110000 then some (scalar (Char.ofNat n))
  else none

def char? : Point → Option Char
  | scalar c => some c
  | surrogate _ => none

def isScalar (p : Point) : Bool := p.char?.isSome

def satisfies (p : Point) (test : Char → Bool) : Bool := p.char?.any test

end Point

namespace Text

def ofChars (cs : List Char) : Text := cs.map .scalar

def ofString (s : String) : Text := ofChars s.toList

instance : Coe String Text := ⟨ofString⟩

def chars? (t : Text) : Option (List Char) := t.mapM Point.char?

def wellFormed (t : Text) : Text := t.map fun
  | .scalar c => .scalar c
  | .surrogate _ => .scalar '?'

/-- The characters of a text, with `other` standing for each surrogate. -/
def charsOr (other : Char) (t : Text) : List Char := t.map fun
  | .scalar c => c
  | .surrogate _ => other

def join (separator : Text) : List Text → Text
  | [] => []
  | [part] => part
  | part :: next :: rest => part ++ separator ++ join separator (next :: rest)

def replacePoint (old new : Char) (t : Text) : Text :=
  t.map fun p => if p = .scalar old then .scalar new else p

def ofNat (n : Nat) : Text := ofChars (Nat.toDigits 10 n)

def ofInt : Int → Text
  | .ofNat n => ofNat n
  | .negSucc n => .scalar '-' :: ofNat (n + 1)

def padded (width n : Nat) : Text :=
  let digits := ofNat n
  List.replicate (width - digits.length) (.scalar '0') ++ digits

def hexDigit (n : Nat) : Char :=
  if n < 10 then Char.ofNat (48 + n) else Char.ofNat (87 + n)

def hex : (width : Nat) → Nat → Text
  | 0, _ => []
  | width + 1, n => hex width (n / 16) ++ [.scalar (hexDigit (n % 16))]

@[simp]
theorem ofString_append (s u : String) : ofString (s ++ u) = ofString s ++ ofString u := by
  simp [ofString, ofChars]

end Text

def isTrimmed (c : Char) : Bool :=
  let n := c.toNat
  (0x09 ≤ n && n ≤ 0x0D) || n == 0x20 || n == 0x85 || n == 0xA0 || n == 0x1680 ||
  (0x2000 ≤ n && n ≤ 0x200A) || n == 0x2028 || n == 0x2029 || n == 0x202F || n == 0x205F ||
  n == 0x3000

def isBlankChar (c : Char) : Bool :=
  isTrimmed c || (0x1C ≤ c.toNat && c.toNat ≤ 0x1F)

def Text.isBlank (t : Text) : Bool := t.all (·.satisfies isBlankChar)

def trimBoth {α : Type} (test : α → Bool) (xs : List α) : List α :=
  ((xs.dropWhile test).reverse.dropWhile test).reverse

def zeroDigits : List Nat :=
  [0x30, 0x660, 0x6F0, 0x7C0, 0x966, 0x9E6, 0xA66, 0xAE6, 0xB66, 0xBE6, 0xC66, 0xCE6, 0xD66, 0xDE6,
    0xE50, 0xED0, 0xF20, 0x1040, 0x1090, 0x17E0, 0x1810, 0x1946, 0x19D0, 0x1A80, 0x1A90, 0x1B50,
    0x1BB0, 0x1C40, 0x1C50, 0xA620, 0xA8D0, 0xA900, 0xA9D0, 0xA9F0, 0xAA50, 0xABF0, 0xFF10, 0x104A0,
    0x10D30, 0x11066, 0x110F0, 0x11136, 0x111D0, 0x112F0, 0x11450, 0x114D0, 0x11650, 0x116C0,
    0x11730, 0x118E0, 0x11950, 0x11C50, 0x11D50, 0x11DA0, 0x16A60, 0x16AC0, 0x16B50, 0x1D7CE,
    0x1D7D8, 0x1D7E2, 0x1D7EC, 0x1D7F6, 0x1E140, 0x1E2F0, 0x1E950, 0x1FBF0]

def digitValue? (c : Char) : Option Nat :=
  (zeroDigits.find? fun first => first ≤ c.toNat && c.toNat < first + 10).map (c.toNat - ·)

def asciiDigit (c : Char) : Char :=
  match digitValue? c with
  | some n => Char.ofNat (48 + n)
  | none => c

/-- The first and last characters of the ranges of digits that make no decimal numbers (the property
    `Numeric_Type=Digit`). -/
def looseDigits : List (Nat × Nat) :=
  [(0xB2, 0xB3), (0xB9, 0xB9), (0x1369, 0x1371), (0x19DA, 0x19DA), (0x2070, 0x2070),
    (0x2074, 0x2079), (0x2080, 0x2089), (0x2460, 0x2468), (0x2474, 0x247C), (0x2488, 0x2490),
    (0x24EA, 0x24EA), (0x24F5, 0x24FD), (0x24FF, 0x24FF), (0x2776, 0x277E), (0x2780, 0x2788),
    (0x278A, 0x2792), (0x10A40, 0x10A43), (0x10E60, 0x10E68), (0x11052, 0x1105A),
    (0x1F100, 0x1F10A)]

def isDigit (c : Char) : Bool :=
  (digitValue? c).isSome || looseDigits.any fun (first, last) => first ≤ c.toNat && c.toNat ≤ last

example : zeroDigits.Pairwise (· + 10 ≤ ·) := by decide

example : digitValue? '٥' = some 5 ∧ digitValue? 'x' = none := by decide

def upperCase (c : Char) : List Char :=
  match c with
  | 'ı' => ['I']
  | 'ſ' => ['S']
  | 'ß' => ['S', 'S']
  | 'ﬀ' => ['F', 'F']
  | 'ﬁ' => ['F', 'I']
  | 'ﬂ' => ['F', 'L']
  | 'ﬃ' => ['F', 'F', 'I']
  | 'ﬄ' => ['F', 'F', 'L']
  | 'ﬅ' => ['S', 'T']
  | 'ﬆ' => ['S', 'T']
  | _ => [c.toUpper]

def upperCased (cs : List Char) : List Char := cs.flatMap upperCase

@[simp]
theorem upperCased_append (cs ds : List Char) :
    upperCased (cs ++ ds) = upperCased cs ++ upperCased ds := by
  simp [upperCased]

end QueryDesk
