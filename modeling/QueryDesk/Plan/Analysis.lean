import QueryDesk.Plan.Order
import QueryDesk.Sql.Table

namespace QueryDesk

namespace Plan

def tableOf (source : Text) : Except Failure Text :=
  Failure.ofRequest ((·.text) <$> Sql.tableName source)

def numberOf (v : Value) : Except Failure (Option Binary64) :=
  match v with
  | .int n => (Binary64.ofInt? n).elim (.error .numberTooLarge) fun x => .ok (some x)
  | .float x => .ok (some x)
  | _ => .ok none

def numberOrZero (v : Value) : Except Failure Binary64 := do
  match ← numberOf v with
  | some x => .ok (if x.isZero then .zero else x)
  | none => .ok .zero

def firstCell : List Value → Except Failure Value
  | [] => .error .emptyRow
  | cell :: _ => .ok cell

/-- One summary per operation. It holds the value of the operation's column when there are no groups,
    and null otherwise. -/
def summaries (r : AggregationRequest) (grid : Grid) : List Summary :=
  let row : Record :=
    if (r.groupBy.getD []).isEmpty then grid.records.headD [] else []
  r.operations.map fun op =>
    ⟨op.field, op.aggregate, (OrderedMap.find? row op.effectiveAlias).getD .null⟩

def aggregation (s : Settings) (r : AggregationRequest) : Plan AggregationReport := do
  let table ← tableOf r.source
  let query ← Failure.ofRequest (Sql.aggregation table r)
  let grid ← browse s query (some r.source) r.cache
  pure ⟨grid, summaries r grid⟩

def namedNumbers : List (Text × Value) → Except Failure (OrderedMap Text Binary64)
  | entries => entries.foldlM (fun (m : OrderedMap Text Binary64) entry => do
      match ← numberOf entry.2 with
      | some x => .ok (m.insert entry.1 x)
      | none => .ok m) []

def statistics (s : Settings) (r : StatisticsRequest) : Plan (OrderedMap Text Binary64) := do
  let table ← tableOf r.source
  let query ← Failure.ofRequest (Sql.statistics table (.text r.column))
  let grid ← fresh s query 1
  match grid.rows with
  | [] => pure []
  | row :: _ => namedNumbers (grid.columns.zip row)

def tabulate (s : Settings) (source : Text) (compile : Text → Except RequestFault Sql.Query) :
    Plan Grid := do
  let table ← tableOf source
  let query ← Failure.ofRequest (compile table)
  fresh s query s.previewMaxRows

def timeSeries (s : Settings) (r : TimeSeriesRequest) : Plan Grid :=
  tabulate s r.source (Sql.timeSeries · r)

def outliers (s : Settings) (r : OutlierRequest) : Plan Grid :=
  tabulate s r.source (Sql.outliers · r)

def movingAverage (s : Settings) (r : MovingAverageRequest) : Plan Grid := do
  let _ ← Failure.ofRequest (Sql.number r.window)
  tabulate s r.source (Sql.movingAverage · r)

abbrev CorrelationTable := OrderedMap Text (OrderedMap Text Binary64)

def coefficient (grid : Grid) : Except Failure Binary64 :=
  match grid.rows with
  | [] => .ok .zero
  | row :: _ => do numberOrZero (← firstCell row)

def correlate (s : Settings) (known : CorrelationTable) :
    List (Sql.Name × Sql.Name × Sql.Query) → Plan CorrelationTable
  | [] => pure known
  | (first, second, query) :: rest => do
    let x ← coefficient (← fresh s query 1)
    correlate s (known.alter first.text fun row =>
      OrderedMap.insert (row.getD []) second.text x) rest

def correlations (s : Settings) (r : CorrelationRequest) : Plan CorrelationTable := do
  let table ← tableOf r.source
  let pairs ← Failure.ofRequest (Sql.correlationPairs table (r.columns.map .text))
  correlate s [] pairs

end Plan

end QueryDesk
