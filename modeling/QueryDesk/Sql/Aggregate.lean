import QueryDesk.Sql.Basic

namespace QueryDesk

namespace Sql

inductive Aggregate where
  | sum
  | avg
  | count
  | min
  | max
  | distinctCount
deriving DecidableEq

namespace Aggregate

def all : List Aggregate := [sum, avg, count, min, max, distinctCount]

def name : Aggregate → Text
  | sum => "sum"
  | avg => "avg"
  | count => "count"
  | min => "min"
  | max => "max"
  | distinctCount => "distinct_count"

def ofName? (t : Text) : Option Aggregate := all.find? fun a => a.name = t

def apply (a : Aggregate) (column : Name) : Text :=
  match a with
  | sum => ("SUM(" : Text) ++ column.text ++ ")"
  | avg => ("AVG(" : Text) ++ column.text ++ ")"
  | count => ("COUNT(" : Text) ++ column.text ++ ")"
  | min => ("MIN(" : Text) ++ column.text ++ ")"
  | max => ("MAX(" : Text) ++ column.text ++ ")"
  | distinctCount => ("COUNT(DISTINCT " : Text) ++ column.text ++ ")"

end Aggregate

def operationExpression (op : Operation) : Except RequestFault Text :=
  match Aggregate.ofName? op.aggregate with
  | none => .error (.unknownAggregate op.aggregate)
  | some a => a.apply <$> Name.ofText "field" op.field

def operationColumn (op : Operation) : Except RequestFault Text := do
  let name ← Name.ofText "alias" op.effectiveAlias
  let expression ← operationExpression op
  .ok (expression ++ " AS " ++ name.text)

/-- The grouping columns and one column per operation, restricted by the filters, grouped and cut
    off as requested. -/
def aggregation (table : Text) (r : AggregationRequest) : Except RequestFault Query := do
  if r.operations.isEmpty then throw .noOperations
  let groups ← (r.groupBy.getD []).mapM (Name.ofText "group_by field")
  let groups := groups.map (·.text)
  let columns ← r.operations.mapM operationColumn
  let condition ← Condition.ofFilters (r.filters.getD [])
  let grouping : Text := if groups.isEmpty then [] else (" GROUP BY " : Text) ++ commaList groups
  let limit ← match r.limit with
    | some n => (number n).map fun digits => (" LIMIT " : Text) ++ digits
    | none => .ok []
  .ok ⟨("SELECT " : Text) ++ commaList (groups ++ columns) ++ " FROM " ++ table ++ condition.text ++
    grouping ++ limit, condition.params⟩

inductive Interval where
  | hour
  | day
  | week
  | month
deriving DecidableEq

namespace Interval

def all : List Interval := [hour, day, week, month]

def name : Interval → Text
  | hour => "hour"
  | day => "day"
  | week => "week"
  | month => "month"

def ofName? (t : Text) : Option Interval := all.find? fun i => i.name = t

end Interval

def seriesAggregate? (t : Text) : Option Aggregate :=
  (Aggregate.ofName? t).filter fun a => a ≠ .distinctCount

def timeSeries (table : Text) (r : TimeSeriesRequest) : Except RequestFault Query := do
  let some interval := Interval.ofName? r.interval | throw (.unknownInterval r.interval)
  let some aggregate := seriesAggregate? r.aggregate | throw (.intervalAggregate r.aggregate)
  let time ← Name.ofText "time column" r.timeColumn
  let value ← Name.ofText "value column" r.valueColumn
  let period : Text := ("date_trunc('" : Text) ++ interval.name ++ "', " ++ time.text ++ ")"
  .ok (.plain (("SELECT " : Text) ++ period ++ " AS time_period, " ++ aggregate.apply value ++
    " AS value FROM " ++ table ++ " WHERE " ++ time.text ++ " IS NOT NULL AND " ++ value.text ++
    " IS NOT NULL GROUP BY " ++ period ++ " ORDER BY time_period"))

end Sql

end QueryDesk
