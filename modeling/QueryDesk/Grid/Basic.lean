import QueryDesk.Datum.Key
import QueryDesk.Engine.Basic

namespace QueryDesk

/-- Named columns and rows of values, each row as wide as there are columns. -/
structure Grid where
  columns : List Text
  rows : List (List Value)
  truncated : Bool
  rectangular : ∀ row ∈ rows, row.length = columns.length
deriving DecidableEq

namespace Grid

def empty : Grid := ⟨[], [], false, by simp⟩

def rowCount (g : Grid) : Nat := g.rows.length

def isEmpty (g : Grid) : Bool := g.rows.isEmpty

def recordOf (columns : List Text) (row : List Value) : Record :=
  OrderedMap.ofList (columns.zip row)

def records (g : Grid) : List Record := g.rows.map (recordOf g.columns)

def firstUneven (width index : Nat) : List (List Value) → Option Complaint
  | [] => none
  | row :: rest =>
    if row.length = width then firstUneven width (index + 1) rest
    else some (.rowWidthMismatch index row.length width)

theorem length_eq_of_firstUneven {width index : Nat} {rows : List (List Value)}
    (h : firstUneven width index rows = none) : ∀ row ∈ rows, row.length = width := by
  induction rows generalizing index with
  | nil => simp
  | cons row rest ih =>
    unfold firstUneven at h
    split at h
    · rename_i same
      intro other member
      rcases List.mem_cons.mp member with rfl | member
      · exact same
      · exact ih h other member
    · cases h

def ofFields (columns : List Text) (rows : List (List Value)) (rowCount : Int) (truncated : Bool) :
    Checked Grid :=
  if rowCount ≠ rows.length then .fail (.rowCountMismatch rowCount rows.length)
  else
    match h : firstUneven columns.length 0 rows with
    | none => .pass ⟨columns, rows, truncated, length_eq_of_firstUneven h⟩
    | some complaint => .fail complaint

structure Loose where
  columns : List Text
  rows : List (List Value)
  rowCount : Int
  truncated : Bool

def Loose.read (fields : Fields) : Checked Loose :=
  Loose.mk <$> fields.required "columns" (Reader.list Reader.text)
    <*> fields.required "data" (Reader.list (Reader.list Reader.value))
    <*> fields.required "row_count" Reader.integer
    <*> fields.optional "truncated" false Reader.flag

def Loose.check (l : Loose) : Checked Grid := ofFields l.columns l.rows l.rowCount l.truncated

def read (fields : Fields) : Checked Grid := (Loose.read fields).andThen Loose.check

/-- The grid of rows of values under columns that the engine named. -/
def ofRows (columns : List Datum) (rows : List (List Value)) (truncated : Bool) : Checked Grid :=
  ((Reader.elements Reader.text 0 columns).within (.key "columns")).andThen fun columns =>
    ofFields columns rows rows.length truncated

end Grid

structure Sheet where
  columns : List Text
  cells : List (List Datum)
  rowCount : Nat
  truncated : Bool

def cellsOf (rows : List (List Value)) : List (List Datum) := rows.map (·.map Value.toDatum)

def Grid.copy (g : Grid) : Sheet := ⟨g.columns, cellsOf g.rows, g.rowCount, g.truncated⟩

def position? (length : Nat) (index : Int) : Option Nat :=
  let n := if index < 0 then index + length else index
  if 0 ≤ n ∧ n < length then some n.toNat else none

def writeCell (cells : List (List Datum)) (row column : Int) (d : Datum) :
    Except Failure (List (List Datum)) :=
  match position? cells.length row with
  | none => .error .emptyRow
  | some i =>
    let old := cells.getD i []
    match position? old.length column with
    | none => .error .noSuchCell
    | some j => .ok (cells.set i (old.set j d))

def Sheet.write (s : Sheet) (row column : Int) (d : Datum) : Except Failure Sheet := do
  .ok { s with cells := ← writeCell s.cells row column d }

def Value.ofCell (cell : Datum) : Except Failure Value :=
  match Value.ofCell? cell with
  | some value => .ok value
  | none => .error .signallingCell

def Value.ofRow (row : List Datum) : Except Failure (List Value) := row.mapM Value.ofCell

abbrev KeyedRecord := OrderedMap Key Value

namespace KeyedRecord

def entry (column cell : Datum) : Except Failure (Key × Value) := do
  let value ← Value.ofCell cell
  if Key.isConstant column then .ok (⟨column⟩, value) else .error .unusable

/-- The record of a row; of columns with one key the last cell counts, in the place of the first. -/
def ofRow (columns row : List Datum) : Except Failure KeyedRecord :=
  OrderedMap.ofList <$> (columns.zip row).mapM fun (column, cell) => entry column cell

def toDatum (r : KeyedRecord) : Datum := .map (r.map fun (key, value) => (key.datum, value.toDatum))

end KeyedRecord

namespace Pull

def grid (p : Pull) : Except Failure Grid := do
  let rows ← p.rows.mapM Value.ofRow
  Failure.ofChecked .grid (Grid.ofRows p.columns rows p.more)

def records (p : Pull) : Except Failure (List KeyedRecord) :=
  p.rows.mapM (KeyedRecord.ofRow p.columns)

def rowsRead (p : Pull) : Nat := p.rows.length + if p.more then 1 else 0

end Pull

end QueryDesk
