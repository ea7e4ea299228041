import QueryDesk.Datum.Printed

namespace QueryDesk

structure Key where
  datum : Datum

namespace Key

/-- What two equal keys have in common. A finite number is `coefficient * 10 ^ exponent` with a
    coefficient that does not end in a zero. Times are microseconds, counted in universal time if
    their distance from it is known. -/
inductive Form where
  | null
  | number (negative : Bool) (coefficient : Nat) (exponent : Int)
  | infinite (negative : Bool)
  | text (t : Text)
  | bytes (b : List UInt8)
  | date (day : Nat)
  | time (universal : Bool) (micros : Int)
  | timestamp (universal : Bool) (micros : Int)
  | interval (micros : Int)
  | uuid (t : Text)
  | tuple (items : List Form)

mutual

def Form.same : Form → Form → Bool
  | .null, .null => true
  | .number negative coefficient exponent, .number negative' coefficient' exponent' =>
    negative == negative' && coefficient == coefficient' && exponent == exponent'
  | .infinite negative, .infinite negative' => negative == negative'
  | .text t, .text t' => t == t'
  | .bytes b, .bytes b' => b == b'
  | .date day, .date day' => day == day'
  | .time universal micros, .time universal' micros' => universal == universal' && micros == micros'
  | .timestamp universal micros, .timestamp universal' micros' =>
    universal == universal' && micros == micros'
  | .interval micros, .interval micros' => micros == micros'
  | .uuid t, .uuid t' => t == t'
  | .tuple items, .tuple items' => Form.sameItems items items'
  | _, _ => false

def Form.sameItems : List Form → List Form → Bool
  | [], [] => true
  | item :: rest, item' :: rest' => item.same item' && Form.sameItems rest rest'
  | _, _ => false

end

def numberForm (negative : Bool) (coefficient : Nat) (exponent : Int) : Form :=
  if coefficient = 0 then .number false 0 0
  else
    let zeros := ((Nat.toDigits 10 coefficient).reverse.takeWhile (· == '0')).length
    .number negative (coefficient / Nat.pow 10 zeros) (exponent + zeros)

/-- The form of a floating-point number. A fraction whose denominator is `2 ^ k` is a decimal fraction
    with `k` places. -/
def floatForm : Binary64 → Option Form
  | .nan => none
  | .infinite negative => some (.infinite negative)
  | .finite negative code =>
    let (num, den) := Binary64.quotient code
    some (numberForm negative (num * Nat.pow 5 den.log2) (-(den.log2 : Int)))

def timeMicros (t : TimeOfDay) : Int :=
  ((t.hour.val * 60 + t.minute.val) * 60 + t.second.val : Nat) * 1000000 + t.micro.val -
    t.offset.elim 0 UtcOffset.micros

mutual

def form? : Datum → Option Form
  | .null => some .null
  | .bool b => some (.number false (if b then 1 else 0) 0)
  | .int n => some (numberForm (n < 0) n.natAbs 0)
  | .float x => floatForm x
  | .decimal (.finite negative coefficient exponent) => some (numberForm negative coefficient exponent)
  | .decimal (.infinite negative) => some (.infinite negative)
  | .text t => some (.text t)
  | .bytes b | .view b => some (.bytes b)
  | .date d => some (.date d.dayNumber)
  | .time t => some (.time t.offset.isSome (timeMicros t))
  | .timestamp d t =>
    some (.timestamp t.offset.isSome ((d.dayNumber : Int) * microsPerDay + timeMicros t))
  | .interval micros => some (.interval micros)
  | .uuid t => some (.uuid t)
  | .tuple items => (forms? items).map .tuple
  | .decimal (.nan ..) | .buffer _ | .list _ | .map _ | .other => none

def forms? : List Datum → Option (List Form)
  | [] => some []
  | item :: rest =>
    match form? item, forms? rest with
    | some form, some forms => some (form :: forms)
    | _, _ => none

end

def same (a b : Datum) : Bool :=
  match form? a, form? b with
  | some f, some g => f.same g
  | _, _ => false

instance : BEq Key := ⟨fun a b => same a.datum b.datum⟩

mutual

def isConstant : Datum → Bool
  | .list _ | .map _ | .buffer _ => false
  | .decimal (.nan _ signalling _) => !signalling
  | .tuple items => areConstant items
  | _ => true

def areConstant : List Datum → Bool
  | [] => true
  | item :: rest => isConstant item && areConstant rest

end

end Key

end QueryDesk
