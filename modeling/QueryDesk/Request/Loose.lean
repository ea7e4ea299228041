import QueryDesk.Guard.Policy
import QueryDesk.Snapshot.Store
import QueryDesk.Sql.Table

namespace QueryDesk

def Mode.ofDatum : Datum → Except Failure Mode
  | .text name =>
    if name = "general" then .ok .general
    else if name = "read_only" then .ok .readOnly
    else .error (.unknownMode (.text name))
  | d => .error (if d.isWritable then .unknownMode d else .unwritableNumber)

namespace Loose

def source : Datum → Except Failure Text
  | .text t => .ok t
  | .bytes _ | .buffer _ | .date _ | .time _ | .timestamp .. => .error .unusable
  | _ => .error .noAttribute

def tableName (d : Datum) : Except Failure Sql.Name := do
  Failure.ofRequest (Sql.tableName (← source d))

def filters (d : Datum) : Except Failure (List (Datum × Datum)) :=
  if d.isTruthy then
    match d with
    | .map entries => .ok (entries.foldl (fun m (key, value) => insert m key value) [])
    | _ => .error .noAttribute
  else .ok []
where
  /-- A later filter for a column takes the place of an earlier one. -/
  insert (m : List (Datum × Datum)) (key value : Datum) : List (Datum × Datum) :=
    match m with
    | [] => [(key, value)]
    | (.text t, old) :: rest =>
      match key with
      | .text u => if t = u then (key, value) :: rest else (.text t, old) :: insert rest key value
      | _ => (.text t, old) :: insert rest key value
    | entry :: rest => entry :: insert rest key value

def filter (entry : Datum × Datum) : Except RequestFault (Text × Datum) := do
  let column ← Sql.Name.ofDatum "filter field" entry.1
  .ok (column.text, entry.2)

def condition (d : Datum) : Except Failure Sql.Condition := do
  let entries ← filters d
  Failure.ofRequest (do
    let comparisons ← entries.mapM fun entry => do Sql.Comparison.ofFilter (← filter entry)
    .ok (Sql.Condition.ofComparisons comparisons))

def writtenInteger (given : Datum) (cs : List Char) : Except Failure Int :=
  (Whole.ofChars cs).mapError fun
    | .unreadable => .unreadableInteger given
    | .tooLong digits => .tooManyDigits digits

def asciiChars (b : List UInt8) : List Char :=
  b.map fun byte => if byte < 0x80 then Char.ofNat byte.toNat else '?'

def hexNumber (cs : List Char) : Nat :=
  (cs.map Char.toLower).foldl (fun n c =>
    if Numeral.isDigit c then 16 * n + (c.toNat - 48)
    else if 'a' ≤ c ∧ c ≤ 'f' then 16 * n + (c.toNat - 87) else n) 0

def integer : Datum → Except Failure Int
  | .int n => .ok n
  | .bool b => .ok (if b then 1 else 0)
  | .float x => x.truncate.mapError .noInteger
  | .decimal d => d.truncate.mapError .noInteger
  | .text t => writtenInteger (.text t) (t.charsOr '?')
  | .bytes b | .buffer b | .view b => writtenInteger (.bytes b) (asciiChars b)
  | .uuid t => .ok (hexNumber (t.charsOr '?'))
  | _ => .error .unusable

def elements : Datum → Except Failure (List Datum)
  | .list items | .tuple items => .ok items
  | .text t => .ok (t.map fun p => .text [p])
  | .bytes b | .buffer b | .view b => .ok (b.map fun byte => .int byte.toNat)
  | .map entries => .ok (entries.map (·.1))
  | _ => .error .unusable

def reading : Datum → Reading
  | .int n => .upTo n
  | .bool b => .upTo (if b then 1 else 0)
  | .float x => .useless (if x.isNegative then .negativeCap x.toText else .capBeyondWord)
  | .decimal (.nan _ true _) => .useless .signallingComparison
  | .decimal d => .useless (if d.isNegative then .negativeCap d.toText else .capBeyondWord)
  | _ => .useless .unusable

/-- The key under which a result is kept. The data source may be missing, which is the same as
    empty; else it has to be a text. -/
def key (sql : Datum) (params : Datum) (source : Datum) : Except Failure Text := do
  let .text sql := sql | throw .noAttribute
  let _ ← Snapshot.encoded sql
  let query : Sql.Query := ⟨sql, ← elements params⟩
  let _ ← Snapshot.keyBytes query none
  let source ← match source with
    | .text t => .ok (some t)
    | d => if d.isTruthy then throw .noAttribute else .ok none
  Snapshot.key query source

def effectiveAlias (op : Operation) (given : Datum) : Datum :=
  match given with
  | .null => .text (op.withAlias none).effectiveAlias
  | d => d

def preview (table : Text) (r : PreviewRequest) (limit : Datum) : Except Failure Sql.Query := do
  let _ ← Failure.ofRequest (Sql.Condition.ofFilters (r.filters.getD []))
  Failure.ofRequest (Sql.preview table r (← integer limit))

end Loose

end QueryDesk
