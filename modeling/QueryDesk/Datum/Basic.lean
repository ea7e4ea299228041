import QueryDesk.Number.Decimal
import QueryDesk.Time.Calendar

namespace QueryDesk

/-- A datum of one of the kinds that requests and engine rows carry. Binary data comes as constant
    bytes, as a buffer that can be written to, or as a view of other data; a sequence is a list or a
    tuple. -/
inductive Datum where
  | null
  | bool (b : Bool)
  | int (n : Int)
  | float (x : Binary64)
  | decimal (d : Decimal)
  | text (t : Text)
  | bytes (b : List UInt8)
  | buffer (b : List UInt8)
  | view (b : List UInt8)
  | date (d : Date)
  | time (t : TimeOfDay)
  | timestamp (d : Date) (t : TimeOfDay)
  | interval (micros : Int)
  | uuid (t : Text)
  | list (items : List Datum)
  | tuple (items : List Datum)
  | map (entries : List (Datum × Datum))
  | other

namespace Datum

instance : Inhabited Datum := ⟨null⟩

/-- Whether a datum counts as present where emptiness matters: null, false, zero and empty texts or
    collections do not. -/
def isTruthy : Datum → Bool
  | null => false
  | bool b => b
  | int n => n != 0
  | float x => !x.isZero
  | decimal (.finite _ coefficient _) => coefficient != 0
  | text t => !t.isEmpty
  | bytes b | buffer b | view b => !b.isEmpty
  | interval micros => micros != 0
  | list items | tuple items => !items.isEmpty
  | map entries => !entries.isEmpty
  | _ => true

end Datum

inductive Value where
  | null
  | int (n : Int)
  | float (x : Binary64)
  | text (t : Text)
deriving DecidableEq

namespace Value

def blobMark : Text := "BLOB"

def unknownMark : Text := "UNKNOWN"

def ofFloat (x : Binary64) : Value := if x.isFinite then float x else int 0

def ofBool (b : Bool) : Value := int (if b then 1 else 0)

/-- The value of a cell: numbers and texts of every kind keep their content, binary data and other
    kinds are replaced by a mark. A cell without value is a signalling not-a-number. -/
def ofCell? : Datum → Option Value
  | .null => some null
  | .bool b => some (ofBool b)
  | .int n => some (int n)
  | .float x => some (ofFloat x)
  | .decimal d => d.toBinary64?.map ofFloat
  | .text t => some (text t.wellFormed)
  | .bytes _ | .buffer _ | .view _ => some (text blobMark)
  | .date d => some (text d.toText)
  | .time t => some (text t.toText)
  | .timestamp d t => some (text (timestampText d t))
  | _ => some (text unknownMark)

/-- A value as a datum, for checks that accept data of any kind. -/
def toDatum : Value → Datum
  | null => .null
  | int n => .int n
  | float x => .float x
  | text t => .text t

end Value

abbrev Record := List (Text × Value)

end QueryDesk
