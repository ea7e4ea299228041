import QueryDesk.Grid.Basic

namespace QueryDesk

/-- The value of one operation, or null when there is one value per group. -/
structure Summary where
  field : Text
  aggregate : Text
  result : Value

def Summary.read (fields : Fields) : Checked Summary :=
  Summary.mk <$> fields.required "field" Reader.text
    <*> fields.required "operation" Reader.text
    <*> fields.optional "result" .null Reader.value

structure AggregationReport where
  grid : Grid
  summaries : List Summary

def AggregationReport.read (fields : Fields) : Checked AggregationReport :=
  let parts := Prod.mk <$> Grid.Loose.read fields
    <*> fields.optional "aggregations" [] (Reader.list (Reader.form "AggregationSummary" Summary.read))
  parts.andThen fun (loose, summaries) => loose.check.map fun grid => ⟨grid, summaries⟩

structure ColumnDescriptor where
  name : Text
  declaredType : Text
  nullable : Bool

def ColumnDescriptor.read (fields : Fields) : Checked ColumnDescriptor :=
  ColumnDescriptor.mk <$> fields.required "name" Reader.text
    <*> fields.required "declared_type" Reader.text
    <*> fields.optional "nullable" true Reader.flag

structure TableInfo where
  name : Text
  columns : List ColumnDescriptor
  rowCount : Int

def TableInfo.read (fields : Fields) : Checked TableInfo :=
  TableInfo.mk <$> fields.required "name" Reader.text
    <*> fields.required "columns"
      (Reader.list (Reader.form "ColumnDescriptor" ColumnDescriptor.read))
    <*> fields.required "row_count" Reader.integer

/-- A page of rows, with the number of rows of the whole table. -/
structure PreviewReport where
  columns : List Text
  rows : List (List Value)
  totalRows : Int
  previewRows : Int

def PreviewReport.read (fields : Fields) : Checked PreviewReport :=
  PreviewReport.mk <$> fields.required "columns" (Reader.list Reader.text)
    <*> fields.required "data" (Reader.list (Reader.list Reader.value))
    <*> fields.required "total_rows" Reader.integer
    <*> fields.required "preview_rows" Reader.integer

structure QualityMetric where
  column : Text
  dataType : Text
  totalRows : Int
  nullCount : Int
  nullPercentage : Binary64
  uniqueCount : Option Int
  minLength : Option Int
  maxLength : Option Int

def QualityMetric.read (fields : Fields) : Checked QualityMetric :=
  QualityMetric.mk <$> fields.required "column_name" Reader.text
    <*> fields.required "data_type" Reader.text
    <*> fields.required "total_rows" Reader.integer
    <*> fields.required "null_count" Reader.integer
    <*> fields.required "null_percentage" Reader.number
    <*> fields.optional "unique_count" none (Reader.nullable Reader.integer)
    <*> fields.optional "min_length" none (Reader.nullable Reader.integer)
    <*> fields.optional "max_length" none (Reader.nullable Reader.integer)

structure MetricValue where
  name : Text
  value : Value
  description : Option Text
  unit : Option Text

def MetricValue.read (fields : Fields) : Checked MetricValue :=
  MetricValue.mk <$> fields.required "name" Reader.text
    <*> fields.optional "value" .null Reader.value
    <*> fields.optional "description" none (Reader.nullable Reader.text)
    <*> fields.optional "unit" none (Reader.nullable Reader.text)

structure MetricsReport where
  source : Text
  metrics : List MetricValue

def MetricsReport.read (fields : Fields) : Checked MetricsReport :=
  (fun source metrics _ => ⟨source, metrics⟩) <$> fields.required "data_source_id" Reader.text
    <*> fields.required "metrics" (Reader.list (Reader.form "MetricValue" MetricValue.read))
    <*> fields.required "calculated_at" Reader.moment

/-- The records of a streamed statement, or the text of what went wrong. An identifier may be given but
    has no part in the report. -/
structure StreamReport where
  records : List Record
  error : Option Text

def StreamReport.read (fields : Fields) : Checked StreamReport :=
  (fun _ records error => ⟨records, error⟩)
    <$> fields.optional "query_id" [] Reader.text
    <*> fields.optional "data" [] (Reader.list fun d => (Reader.mapping Reader.value d).map
      OrderedMap.ofList)
    <*> fields.optional "error" none (Reader.nullable Reader.text)

end QueryDesk
