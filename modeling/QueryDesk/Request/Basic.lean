import QueryDesk.Form.Reader
import QueryDesk.OrderedMap

namespace QueryDesk

abbrev Filters := List (Text × Datum)

structure StatementRequest where
  sql : Text
  source : Option Text
  cache : Option Bool

structure Operation where
  field : Text
  aggregate : Text
  givenAlias : Option Text

namespace Operation

/-- The name of the result column: the alias if one is given, else made of aggregate and field. -/
def effectiveAlias (op : Operation) : Text :=
  op.givenAlias.getD (op.aggregate ++ "_" ++ op.field)

def withAlias (op : Operation) (given : Option Text) : Operation := { op with givenAlias := given }

end Operation

structure AggregationRequest where
  source : Text
  operations : List Operation
  groupBy : Option (List Text)
  filters : Option Filters
  limit : Option Int
  cache : Option Bool

structure StatisticsRequest where
  source : Text
  column : Text

structure TimeSeriesRequest where
  source : Text
  timeColumn : Text
  valueColumn : Text
  interval : Text
  aggregate : Text

structure OutlierRequest where
  source : Text
  column : Text
  method : Text
  threshold : Option Binary64

structure CorrelationRequest where
  source : Text
  columns : List Text

structure MovingAverageRequest where
  source : Text
  valueColumn : Text
  orderColumn : Text
  window : Int

structure PreviewRequest where
  limit : Option Int
  offset : Option Int
  filters : Option Filters

def PreviewRequest.plain : PreviewRequest := ⟨none, none, none⟩

def Reader.filters : Reader Filters := fun d => (mapping any d).map OrderedMap.ofList

def StatementRequest.read (fields : Fields) : Checked StatementRequest :=
  StatementRequest.mk <$> fields.required "sql" Reader.text
    <*> fields.optional "data_source_id" none (Reader.nullable Reader.text)
    <*> fields.optional "cache" none (Reader.nullable Reader.flag)

def Operation.read (fields : Fields) : Checked Operation :=
  Operation.mk <$> fields.required "field" Reader.text
    <*> fields.required "operation" Reader.text
    <*> fields.optional "alias" none (Reader.nullable Reader.text)

def AggregationRequest.read (fields : Fields) : Checked AggregationRequest :=
  AggregationRequest.mk <$> fields.required "data_source_id" Reader.text
    <*> fields.required "operations"
      (Reader.list (Reader.form "AggregationOperation" Operation.read))
    <*> fields.optional "group_by" none (Reader.nullable (Reader.list Reader.text))
    <*> fields.optional "filters" none (Reader.nullable Reader.filters)
    <*> fields.optional "limit" none (Reader.nullable (Reader.integerFrom 0))
    <*> fields.optional "cache" none (Reader.nullable Reader.flag)

def StatisticsRequest.read (fields : Fields) : Checked StatisticsRequest :=
  StatisticsRequest.mk <$> fields.required "data_source_id" Reader.text
    <*> fields.required "column" Reader.text

def TimeSeriesRequest.read (fields : Fields) : Checked TimeSeriesRequest :=
  TimeSeriesRequest.mk <$> fields.required "data_source_id" Reader.text
    <*> fields.required "time_column" Reader.text
    <*> fields.required "value_column" Reader.text
    <*> fields.optional "interval" ("day" : Text) Reader.text
    <*> fields.optional "aggregation" ("sum" : Text) Reader.text

def OutlierRequest.read (fields : Fields) : Checked OutlierRequest :=
  OutlierRequest.mk <$> fields.required "data_source_id" Reader.text
    <*> fields.required "column" Reader.text
    <*> fields.optional "method" ("iqr" : Text) Reader.text
    <*> fields.optional "threshold" none (Reader.nullable Reader.number)

def CorrelationRequest.read (fields : Fields) : Checked CorrelationRequest :=
  CorrelationRequest.mk <$> fields.required "data_source_id" Reader.text
    <*> fields.required "columns" (Reader.nonemptyList Reader.text)

def MovingAverageRequest.read (fields : Fields) : Checked MovingAverageRequest :=
  MovingAverageRequest.mk <$> fields.required "data_source_id" Reader.text
    <*> fields.required "value_column" Reader.text
    <*> fields.required "order_column" Reader.text
    <*> fields.required "window_size" (Reader.integerFrom 1)

def PreviewRequest.read (fields : Fields) : Checked PreviewRequest :=
  PreviewRequest.mk <$> fields.optional "limit" none (Reader.nullable (Reader.integerFrom 0))
    <*> fields.optional "offset" none (Reader.nullable (Reader.integerFrom 0))
    <*> fields.optional "filters" none (Reader.nullable Reader.filters)

end QueryDesk
