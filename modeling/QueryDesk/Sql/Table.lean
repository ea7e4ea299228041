import QueryDesk.Sql.Aggregate

namespace QueryDesk

namespace Sql

def statistics (table : Text) (column : Datum) : Except RequestFault Query := do
  let c := (← Name.ofDatum "column" column).text
  .ok (.plain (("SELECT COUNT(" : Text) ++ c ++ ") AS count, AVG(" ++ c ++ ") AS mean, MIN(" ++ c ++
    ") AS min, MAX(" ++ c ++ ") AS max, STDDEV(" ++ c ++ ") AS std_dev, quantile_cont(" ++ c ++
    ", 0.5) AS median, quantile_cont(" ++ c ++ ", 0.25) AS q1, quantile_cont(" ++ c ++
    ", 0.75) AS q3 FROM " ++ table ++ " WHERE " ++ c ++ " IS NOT NULL"))

inductive OutlierMethod where
  | interquartile
  | standardScore
deriving DecidableEq

def OutlierMethod.ofName? (t : Text) : Option OutlierMethod :=
  if t = "iqr" then some interquartile
  else if t = "zscore" then some standardScore
  else none

def defaultThreshold : Binary64 := Binary64.ofQuotient false 3 1

def interquartileOutliers (table c : Text) : Query :=
  .plain (("WITH stats AS (SELECT quantile_cont(" : Text) ++ c ++ ", 0.25) AS q1, quantile_cont(" ++
    c ++ ", 0.75) AS q3 FROM " ++ table ++ " WHERE " ++ c ++
    " IS NOT NULL), outlier_bounds AS (SELECT q1 - 1.5 * (q3 - q1) AS lower_bound, " ++
    "q3 + 1.5 * (q3 - q1) AS upper_bound FROM stats) SELECT * FROM " ++ table ++
    " CROSS JOIN outlier_bounds WHERE " ++ c ++ " < lower_bound OR " ++ c ++ " > upper_bound")

def standardScoreOutliers (table c : Text) (threshold : Binary64) : Query :=
  let score : Text := ("ABS((" : Text) ++ c ++ " - stats.mean) / stats.std_dev)"
  ⟨("WITH stats AS (SELECT AVG(" : Text) ++ c ++ ") AS mean, STDDEV(" ++ c ++
    ") AS std_dev FROM " ++ table ++ " WHERE " ++ c ++ " IS NOT NULL) SELECT *, " ++ score ++
    " AS z_score FROM " ++ table ++ " CROSS JOIN stats WHERE " ++ score ++ " > ?",
    [.float threshold]⟩

def outliers (table : Text) (r : OutlierRequest) : Except RequestFault Query := do
  let c := (← Name.ofText "column" r.column).text
  match OutlierMethod.ofName? r.method with
  | some .interquartile => .ok (interquartileOutliers table c)
  | some .standardScore => .ok (standardScoreOutliers table c (r.threshold.getD defaultThreshold))
  | none => .error (.unknownOutlierMethod r.method)

/-- The correlation of two columns over the rows that have both values. -/
def correlation (table : Text) (first second : Name) : Query :=
  .plain (("SELECT CORR(" : Text) ++ first.text ++ ", " ++ second.text ++
    ") AS correlation FROM " ++ table ++ " WHERE " ++ first.text ++ " IS NOT NULL AND " ++
    second.text ++ " IS NOT NULL")

/-- One correlation per ordered pair of columns, pairs of a column with itself included. -/
def correlationPairs (table : Text) (columns : List Datum) :
    Except RequestFault (List (Name × Name × Query)) := do
  let names ← columns.mapM (Name.ofDatum "column")
  .ok (names.flatMap fun first => names.map fun second => (first, second, correlation table first second))

def movingAverage (table : Text) (r : MovingAverageRequest) : Except RequestFault Query := do
  let value ← Name.ofText "value column" r.valueColumn
  let order ← Name.ofText "order column" r.orderColumn
  let preceding ← number (r.window - 1)
  .ok (.plain (("SELECT *, AVG(" : Text) ++ value.text ++ ") OVER (ORDER BY " ++ order.text ++
    " ROWS BETWEEN " ++ preceding ++ " PRECEDING AND CURRENT ROW) AS moving_avg FROM " ++
    table ++ " ORDER BY " ++ order.text))

def preview (table : Text) (r : PreviewRequest) (limit : Int) : Except RequestFault Query := do
  let condition ← Condition.ofFilters (r.filters.getD [])
  let limit ← number limit
  let offset ← number (r.offset.getD 0)
  .ok ⟨("SELECT * FROM " : Text) ++ table ++ condition.text ++ " LIMIT " ++ limit ++ " OFFSET " ++
    offset, condition.params⟩

def rowCount (table : Text) : Query :=
  .plain (("SELECT COUNT(*) AS row_count FROM " : Text) ++ table)

def describe (table : Text) : Query :=
  ⟨("SELECT column_name, data_type, is_nullable FROM information_schema.columns " : Text) ++
    "WHERE table_schema = 'main' AND table_name = ? ORDER BY ordinal_position", [.text table]⟩

def nullProfile (table : Text) (column : Datum) : Except RequestFault Query := do
  let c := (← Name.ofDatum "column" column).text
  .ok (.plain (("SELECT COUNT(*) AS total_rows, COUNT(" : Text) ++ c ++
    ") AS non_null_rows, (COUNT(*) - COUNT(" ++ c ++
    ")) AS null_rows, CASE WHEN COUNT(*) = 0 THEN 0.0 ELSE ROUND((COUNT(*) - COUNT(" ++ c ++
    ")) * 100.0 / COUNT(*), 2) END AS null_percentage, COUNT(DISTINCT " ++ c ++
    ") AS unique_count FROM " ++ table))

def listTables : Query :=
  ⟨("SELECT table_name FROM information_schema.tables WHERE table_schema = 'main' AND " : Text) ++
    "starts_with(table_name, ?) ORDER BY table_name", [.text tablePrefix]⟩

end Sql

end QueryDesk
