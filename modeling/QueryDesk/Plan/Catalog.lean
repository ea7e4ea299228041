import QueryDesk.Plan.Analysis

namespace QueryDesk

namespace Plan

def countIn (grid : Grid) : Except Failure Int :=
  match grid.rows with
  | [] => .ok 0
  | row :: _ => do
    match ← firstCell row with
    | .int n => .ok n
    | _ => .ok 0

def rowCount (s : Settings) (table : Text) : Plan Int := do
  countIn (← fresh s (Sql.rowCount table) 1)

def field (record : Record) (name : Text) : Except Failure Value :=
  match OrderedMap.find? record name with
  | some v => .ok v
  | none => .error (.missingColumn name)

def fieldsOf (fields : List (Text × Value)) : Fields :=
  fields.map fun (name, value) => (.text name, value.toDatum)

def describedColumn (record : Record) : Except Failure ColumnDescriptor := do
  let name ← field record "column_name"
  let declared ← field record "data_type"
  let nullable := OrderedMap.find? record "is_nullable" != some (.text "NO")
  Failure.ofChecked .columnDescriptor (ColumnDescriptor.read (fieldsOf
    [("name", name), ("declared_type", declared), ("nullable", .ofBool nullable)]))

def columns (s : Settings) (source : Text) : Plan (List ColumnDescriptor) := do
  let table ← tableOf source
  let grid ← catalog s (Sql.describe table) s.previewMaxRows
  done (grid.records.mapM describedColumn)

def tableInfo (s : Settings) (source : Text) : Plan TableInfo := do
  let table ← tableOf source
  let columns ← columns s source
  let count ← rowCount s table
  pure ⟨table, columns, count⟩

def orZero (record : Record) (name : Text) : Value :=
  match OrderedMap.find? record name with
  | some v => if v.toDatum.isTruthy then v else .int 0
  | none => .int 0

def profileOf (column : ColumnDescriptor) (record : Record) : Except Failure QualityMetric := do
  let share ← numberOrZero ((OrderedMap.find? record "null_percentage").getD .null)
  Failure.ofChecked .qualityMetric (QualityMetric.read (fieldsOf
    [("column_name", .text column.name), ("data_type", .text column.declaredType),
      ("total_rows", orZero record "total_rows"), ("null_count", orZero record "null_rows"),
      ("null_percentage", .float share),
      ("unique_count", (OrderedMap.find? record "unique_count").getD .null)]))

def profile (s : Settings) (table : Text) (column : ColumnDescriptor) : Plan QualityMetric := do
  let query ← Failure.ofRequest (Sql.nullProfile table (.text column.name))
  let grid ← catalog s query 1
  profileOf column (grid.records.headD [])

def profiles (s : Settings) (table : Text) : List ColumnDescriptor → Plan (List QualityMetric)
  | [] => pure []
  | column :: rest => do
    let metric ← profile s table column
    let metrics ← profiles s table rest
    pure (metric :: metrics)

def quality (s : Settings) (source : Text) : Plan (List QualityMetric) := do
  let table ← tableOf source
  profiles s table (← columns s source)

def metrics (s : Settings) (source : Text) : Plan MetricsReport := do
  let table ← tableOf source
  let count ← rowCount s table
  pure ⟨source,
    [⟨"row_count", .int count, some "Total number of rows", some "rows"⟩,
      ⟨"table_name", .text table, some "Table name", none⟩]⟩

/-- The number of rows on a page: the usual number unless a request asks for one, and never more
    than the settings allow. -/
def pageSize (s : Settings) (r : PreviewRequest) : Int :=
  min (r.limit.getD s.previewDefaultRows) s.previewMaxRows

def preview (s : Settings) (source : Text) (r : PreviewRequest) : Plan PreviewReport := do
  let table ← tableOf source
  let query ← Failure.ofRequest (Sql.preview table r (pageSize s r))
  let page ← fresh s query s.previewMaxRows
  let total ← rowCount s table
  pure ⟨page.columns, page.rows, total, page.rowCount⟩

def tables (s : Settings) : Plan (List Value) := do
  let grid ← catalog s Sql.listTables s.previewMaxRows
  done (grid.rows.mapM firstCell)

end Plan

end QueryDesk
