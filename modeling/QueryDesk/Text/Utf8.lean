import QueryDesk.Text.Basic

namespace QueryDesk

def Utf8.ofChar (c : Char) : List UInt8 :=
  let n := c.toNat
  if n < 0x80 then [.ofNat n]
  else if n < 0x800 then [.ofNat (0xC0 + n / 0x40), .ofNat (0x80 + n % 0x40)]
  else if n < 0x10000 then
    [.ofNat (0xE0 + n / 0x1000), .ofNat (0x80 + n / 0x40 % 0x40), .ofNat (0x80 + n % 0x40)]
  else
    [.ofNat (0xF0 + n / 0x40000), .ofNat (0x80 + n / 0x1000 % 0x40),
      .ofNat (0x80 + n / 0x40 % 0x40), .ofNat (0x80 + n % 0x40)]

namespace Utf8

/-- The first run of surrogates of a text that cannot be encoded: where it starts, how long it is,
    and the surrogate it starts with. -/
structure EncodeFault where
  start : Nat
  length : Nat
  first : Fin 2048
deriving DecidableEq

def EncodeFault.message (fault : EncodeFault) : Text :=
  if fault.length ≤ 1 then
    ("'utf-8' codec can't encode character '\\u" : Text) ++ Text.hex 4 (0xD800 + fault.first.val) ++
      "' in position " ++ Text.ofNat fault.start ++ ": surrogates not allowed"
  else
    ("'utf-8' codec can't encode characters in position " : Text) ++ Text.ofNat fault.start ++ "-" ++
      Text.ofNat (fault.start + fault.length - 1) ++ ": surrogates not allowed"

def firstFault (start : Nat) : Text → Option EncodeFault
  | [] => none
  | .scalar _ :: rest => firstFault (start + 1) rest
  | .surrogate n :: rest => some ⟨start, 1 + (rest.takeWhile (!·.isScalar)).length, n⟩

/-- The encoding of a text: the bytes of its characters one after another. -/
def encode (t : Text) : Except EncodeFault (List UInt8) :=
  match firstFault 0 t with
  | some fault => .error fault
  | none => .ok (t.flatMap fun p => p.char?.elim [] ofChar)

inductive DecodeReason where
  | startByte
  | continuationByte
  | endOfData
deriving DecidableEq

def DecodeReason.message : DecodeReason → Text
  | startByte => "invalid start byte"
  | continuationByte => "invalid continuation byte"
  | endOfData => "unexpected end of data"

/-- The bytes at fault: `length` bytes from position `start`, the first of which is `byte`. -/
structure DecodeFault where
  start : Nat
  length : Nat
  byte : UInt8
  reason : DecodeReason
deriving DecidableEq

def DecodeFault.message (fault : DecodeFault) : Text :=
  if fault.length ≤ 1 then
    ("'utf-8' codec can't decode byte 0x" : Text) ++ Text.hex 2 fault.byte.toNat ++ " in position " ++
      Text.ofNat fault.start ++ ": " ++ fault.reason.message
  else
    ("'utf-8' codec can't decode bytes in position " : Text) ++ Text.ofNat fault.start ++ "-" ++
      Text.ofNat (fault.start + fault.length - 1) ++ ": " ++ fault.reason.message

def isContinuation (b : UInt8) : Bool := 0x80 ≤ b && b < 0xC0

def secondOfThree (lead b : UInt8) : Bool :=
  isContinuation b && (lead != 0xE0 || 0xA0 ≤ b) && (lead != 0xED || b < 0xA0)

def secondOfFour (lead b : UInt8) : Bool :=
  isContinuation b && (lead != 0xF0 || 0x90 ≤ b) && (lead != 0xF4 || b < 0x90)

def low (b : UInt8) : Nat := b.toNat % 0x40

def decodeFrom (start : Nat) : List UInt8 → Except DecodeFault (List Char)
  | [] => .ok []
  | b₀ :: rest =>
    if b₀ < 0x80 then
      (Char.ofNat b₀.toNat :: ·) <$> decodeFrom (start + 1) rest
    else if b₀ < 0xC2 then
      .error ⟨start, 1, b₀, .startByte⟩
    else if b₀ < 0xE0 then
      match rest with
      | [] => .error ⟨start, 1, b₀, .endOfData⟩
      | b₁ :: rest =>
        if isContinuation b₁ then
          (Char.ofNat (b₀.toNat % 0x20 * 0x40 + low b₁) :: ·) <$> decodeFrom (start + 2) rest
        else .error ⟨start, 1, b₀, .continuationByte⟩
    else if b₀ < 0xF0 then
      match rest with
      | [] => .error ⟨start, 1, b₀, .endOfData⟩
      | b₁ :: rest =>
        if secondOfThree b₀ b₁ then
          match rest with
          | [] => .error ⟨start, 2, b₀, .endOfData⟩
          | b₂ :: rest =>
            if isContinuation b₂ then
              (Char.ofNat (b₀.toNat % 0x10 * 0x1000 + low b₁ * 0x40 + low b₂) :: ·) <$>
                decodeFrom (start + 3) rest
            else .error ⟨start, 2, b₀, .continuationByte⟩
        else .error ⟨start, 1, b₀, .continuationByte⟩
    else if b₀ < 0xF5 then
      match rest with
      | [] => .error ⟨start, 1, b₀, .endOfData⟩
      | b₁ :: rest =>
        if secondOfFour b₀ b₁ then
          match rest with
          | [] => .error ⟨start, 2, b₀, .endOfData⟩
          | b₂ :: rest =>
            if isContinuation b₂ then
              match rest with
              | [] => .error ⟨start, 3, b₀, .endOfData⟩
              | b₃ :: rest =>
                if isContinuation b₃ then
                  (Char.ofNat (b₀.toNat % 0x08 * 0x40000 + low b₁ * 0x1000 + low b₂ * 0x40 +
                    low b₃) :: ·) <$> decodeFrom (start + 4) rest
                else .error ⟨start, 3, b₀, .continuationByte⟩
            else .error ⟨start, 2, b₀, .continuationByte⟩
        else .error ⟨start, 1, b₀, .continuationByte⟩
    else .error ⟨start, 1, b₀, .startByte⟩

def decode (bytes : List UInt8) : Except DecodeFault Text :=
  Text.ofChars <$> decodeFrom 0 bytes

end Utf8

end QueryDesk
