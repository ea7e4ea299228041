import QueryDesk.Plan.Catalog

namespace QueryDesk

inductive Call where
  | query (request : StatementRequest)
  | aggregation (request : AggregationRequest)
  | statistics (request : StatisticsRequest)
  | timeSeries (request : TimeSeriesRequest)
  | outliers (request : OutlierRequest)
  | correlations (request : CorrelationRequest)
  | movingAverage (request : MovingAverageRequest)
  | columns (source : Text)
  | tableInfo (source : Text)
  | quality (source : Text)
  | metrics (source : Text)
  | preview (source : Text) (request : PreviewRequest)
  | tables
  | stream (payload : Datum)

/-- Calls past the desk's own operations: a sign of life from the engine, or a single order. -/
inductive DirectCall where
  | ping
  | grid (order : Order)
  | records (order : Order)

inductive Answer where
  | grid (grid : Grid)
  | aggregation (report : AggregationReport)
  | numbers (numbers : OrderedMap Text Binary64)
  | correlations (table : Plan.CorrelationTable)
  | columns (columns : List ColumnDescriptor)
  | tableInfo (info : TableInfo)
  | quality (metrics : List QualityMetric)
  | metrics (report : MetricsReport)
  | preview (report : PreviewReport)
  | values (values : List Value)
  | stream (report : StreamReport)
  | records (records : List KeyedRecord)
  | flag (b : Bool)

namespace Plan

def pingJob : Job := ⟨⟨.text "SELECT 1", []⟩, .first, false⟩

def isOne (cell : Datum) : Except Failure Bool :=
  match cell with
  | .decimal (.nan _ true _) => .error .signallingComparison
  | _ => .ok (Key.same cell (.int 1))

def ping : Plan Bool := do
  let pull ← send pingJob
  match pull.rows with
  | (cell :: _) :: _ => isOne cell
  | _ => pure false

end Plan

def Call.plan (s : Settings) : Call → Plan Answer
  | query r => .grid <$> Plan.browse s (.plain r.sql) r.source r.cache
  | aggregation r => .aggregation <$> Plan.aggregation s r
  | statistics r => .numbers <$> Plan.statistics s r
  | timeSeries r => .grid <$> Plan.timeSeries s r
  | outliers r => .grid <$> Plan.outliers s r
  | correlations r => .correlations <$> Plan.correlations s r
  | movingAverage r => .grid <$> Plan.movingAverage s r
  | columns source => .columns <$> Plan.columns s source
  | tableInfo source => .tableInfo <$> Plan.tableInfo s source
  | quality source => .quality <$> Plan.quality s source
  | metrics source => .metrics <$> Plan.metrics s source
  | preview source r => .preview <$> Plan.preview s source r
  | tables => .values <$> Plan.tables s
  | stream payload => .stream <$> Plan.stream s payload

def DirectCall.plan (s : Settings) : DirectCall → Plan Answer
  | ping => .flag <$> Plan.ping
  | grid o => .grid <$> o.grid s.policy
  | records o => .records <$> o.records s.policy

end QueryDesk
