import QueryDesk.Datum.Printed
import QueryDesk.Form.Checked
import QueryDesk.Text.Utf8

namespace QueryDesk

abbrev Reader (α : Type) := Datum → Checked α

namespace Reader

variable {α : Type}

def text : Reader Text
  | .text t => .pass t
  | .bytes b | .buffer b =>
    match Utf8.decode b with
    | .ok t => .pass t
    | .error _ => .fail .textUndecodable
  | _ => .fail .textExpected

/-- The characters of a datum that can be written as a number or a flag: a text without surrogates,
    or bytes that encode one. Bytes that do not are reported as `undecodable`; a datum of another
    kind is `none`. -/
def written? (undecodable : Complaint) : Datum → Option (Checked (List Char))
  | .text t =>
    some (match t.chars? with
      | some cs => .pass cs
      | none => .fail .textUndecodable)
  | .bytes b =>
    some (match Utf8.decodeFrom 0 b with
      | .ok cs => .pass cs
      | .error _ => .fail undecodable)
  | _ => none

def integerOfChars (cs : List Char) : Checked Int :=
  match Whole.ofField cs with
  | .ok n => .pass n
  | .error .unreadable => .fail .integerUnreadable
  | .error (.tooLong _) => .fail .integerTooLong

def integerOfFloat (x : Binary64) : Checked Int :=
  if !x.isFinite then .fail .numberNotFinite
  else match x.toInt? with
    | none => .fail .integerFractional
    | some n => if n.natAbs < Nat.pow 2 63 then .pass n else .fail .integerTooLong

def integer : Reader Int
  | .int n => .pass n
  | .bool b => .pass (if b then 1 else 0)
  | .float x => integerOfFloat x
  | .decimal d =>
    match d.toInt? with
    | none => .fail .numberNotFinite
    | some none => .fail .integerFractional
    | some (some n) => .pass n
  | d =>
    match written? .integerUnreadable d with
    | some cs => cs.andThen integerOfChars
    | none => .fail .integerExpected

def integerFrom (least : Int) : Reader Int := fun d =>
  (integer d).andThen fun n => if n < least then .fail (.tooSmall least) else .pass n

/-- The number that a list of characters writes; underscores may separate characters when there is
    no white space around. -/
def numberOfChars (cs : List Char) : Checked Binary64 :=
  match Numeral.ofChars? (trimBoth isTrimmed cs) with
  | some n => .pass n.toBinary64
  | none =>
    match if Numeral.underscoresSeparate cs then Numeral.ofChars? (Numeral.dropUnderscores cs) else none with
    | some n => .pass n.toBinary64
    | none => .fail .numberUnreadable

def number : Reader Binary64
  | .float x => .pass x
  | .int n => (Binary64.ofInt? n).elim (.fail .numberExpected) .pass
  | .bool b => .pass (Binary64.ofInt (if b then 1 else 0))
  | .decimal d => d.toBinary64?.elim (.fail .numberExpected) .pass
  | d =>
    match written? .numberUnreadable d with
    | some cs => cs.andThen numberOfChars
    | none => .fail .numberExpected

def fitsWord (n : Int) : Bool := -(Nat.pow 2 63 : Nat) ≤ n && n < (Nat.pow 2 63 : Nat)

def flagWords : List (String × Bool) :=
  [("1", true), ("on", true), ("t", true), ("true", true), ("y", true), ("yes", true),
    ("0", false), ("off", false), ("f", false), ("false", false), ("n", false), ("no", false)]

def flagOfChars (cs : List Char) : Checked Bool :=
  match flagWords.lookup (String.ofList (cs.map Char.toLower)) with
  | some b => .pass b
  | none => .fail .flagUnreadable

def flagOfInt (n : Int) : Checked Bool :=
  if n = 0 then .pass false else if n = 1 then .pass true else .fail .flagUnreadable

def flagOfFloat (x : Binary64) : Checked Bool :=
  match integerOfFloat x with
  | .ok n => flagOfInt n
  | .error _ => .fail .flagExpected

def flag : Reader Bool
  | .bool b => .pass b
  | .int n => if fitsWord n then flagOfInt n else .fail .flagExpected
  | .float x => flagOfFloat x
  | .decimal d => d.toBinary64?.elim (.fail .flagExpected) flagOfFloat
  | d =>
    match written? .flagUnreadable d with
    | some cs => cs.andThen flagOfChars
    | none => .fail .flagExpected

def momentOfNumber (outcome : Except Moment.Fault Moment) : Checked Moment :=
  match outcome with
  | .ok m => .pass m
  | .error fault => .fail (.momentUnreadable fault)

def momentOfBytes (bs : List UInt8) : Checked Moment :=
  match Moment.ofBytes bs with
  | .ok m => .pass m
  | .error fault => .fail (.dateUnreadable fault)

def moment : Reader Moment
  | .timestamp d t => .pass ⟨d, t⟩
  | .date d => .pass ⟨d, Moment.midnight⟩
  | .int n =>
    if fitsWord n then momentOfNumber (Moment.ofNumber n 0)
    else (Binary64.ofInt? n).elim (.fail .momentExpected) fun x => momentOfNumber (Moment.ofFloat x)
  | .float x => momentOfNumber (Moment.ofFloat x)
  | .decimal d =>
    d.toBinary64?.elim (.fail .momentExpected) fun x => momentOfNumber (Moment.ofFloat x)
  | .text t =>
    match Utf8.encode t with
    | .ok bs => momentOfBytes bs
    | .error _ => .fail .textUndecodable
  | .bytes bs => momentOfBytes bs
  | _ => .fail .momentExpected

def nullable (r : Reader α) : Reader (Option α)
  | .null => .pass none
  | d => (r d).map some

def elements (r : Reader α) (index : Nat) : List Datum → Checked (List α)
  | [] => .pass []
  | d :: rest => List.cons <$> (r d).within (.index index) <*> elements r (index + 1) rest

def list (r : Reader α) : Reader (List α)
  | .list items | .tuple items => elements r 0 items
  | _ => .fail .listExpected

def nonemptyList (r : Reader α) : Reader (List α) := fun d =>
  (list r d).andThen fun items =>
    if items.isEmpty then .fail (.listTooShort 1 0) else .pass items

/-- The step to an entry of a mapping. A key that is neither a text nor a short integer is shown as it
    is printed. -/
def stepOfKey : Datum → Step
  | .text t => .key t
  | .bool b => .index (if b then 1 else 0)
  | .int n => if fitsWord n then .index n else .key (Text.ofInt n)
  | d => .key d.printed

def entries (r : Reader α) : List (Datum × Datum) → Checked (List (Text × α))
  | [] => .pass []
  | (key, value) :: rest =>
    let step := stepOfKey key
    let name := ((text key).within (.key "[key]")).within step
    List.cons <$> (Prod.mk <$> name <*> (r value).within step) <*> entries r rest

def mapping (r : Reader α) : Reader (List (Text × α))
  | .map items => entries r items
  | _ => .fail .mapExpected

def any : Reader Datum := .pass

def firstKind (d : Datum) : Checked Value :=
  ((((integer d).map Value.int).within (.key "int")).orElse
    (((number d).map Value.float).within (.key "float"))).orElse
    (((text d).map Value.text).within (.key "str"))

/-- A value of a result cell. What is a value already stays as it is, a flag becomes an integer and
    a decimal number the nearest floating-point number. -/
def value : Reader Value
  | .null => .pass .null
  | .int n => .pass (.int n)
  | .float x => .pass (.float x)
  | .text t => .pass (.text t)
  | .bool b => .pass (.ofBool b)
  | .decimal d => d.toBinary64?.elim (firstKind (.decimal d)) fun x => .pass (.float x)
  | d => firstKind d

end Reader

abbrev Fields := List (Datum × Datum)

namespace Fields

variable {α : Type}

def find? (name : Text) : Fields → Option Datum
  | [] => none
  | (.text t, d) :: rest => if t = name then some d else find? name rest
  | _ :: rest => find? name rest

def required (fields : Fields) (name : Text) (r : Reader α) : Checked α :=
  match find? name fields with
  | some d => (r d).within (.key name)
  | none => (Checked.fail .missing).within (.key name)

def optional (fields : Fields) (name : Text) (default : α) (r : Reader α) : Checked α :=
  match find? name fields with
  | some d => (r d).within (.key name)
  | none => .pass default

end Fields

def Reader.form {α : Type} (name : Text) (r : Fields → Checked α) : Reader α
  | .map fields => r fields
  | _ => .fail (.formExpected name)

end QueryDesk
