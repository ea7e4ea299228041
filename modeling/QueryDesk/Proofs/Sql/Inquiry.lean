import QueryDesk.Proofs.Sql.Neat

namespace QueryDesk

namespace Sql

inductive Inquiry where
  | aggregation (r : AggregationRequest)
  | statistics (column : Datum)
  | timeSeries (r : TimeSeriesRequest)
  | outliers (r : OutlierRequest)
  | correlations (names : List Datum)
  | movingAverage (r : MovingAverageRequest)
  | preview (r : PreviewRequest) (limit : Int)
  | rowCount
  | columns
  | profile (column : Datum)
  | tables

/-- A question mark: the text between the one before it, or the beginning, and itself, and the
    parameter that is bound to it. -/
structure Marker where
  lead : Text
  param : Datum

namespace Marker

def ofFilter (connective : Text) (filter : Text × Datum) : Marker :=
  match filter.2 with
  | .text t => ⟨connective ++ filter.1 ++ " LIKE ", .text (("%" : Text) ++ t ++ "%")⟩
  | number => ⟨connective ++ filter.1 ++ " = ", number⟩

def ofFilters (connective : Text) : Filters → List Marker
  | [] => []
  | filter :: rest => ofFilter connective filter :: ofFilters " AND " rest

def text (markers : List Marker) : Text := markers.flatMap fun m => m.lead ++ [.scalar '?']

end Marker

namespace Inquiry

/-- The statements that are compiled over a table: one, except for correlations. -/
def queries (table : Text) : Inquiry → Except RequestFault (List Query)
  | aggregation r => ([·]) <$> Sql.aggregation table r
  | statistics column => ([·]) <$> Sql.statistics table column
  | timeSeries r => ([·]) <$> Sql.timeSeries table r
  | outliers r => ([·]) <$> Sql.outliers table r
  | correlations names => (·.map (·.2.2)) <$> Sql.correlationPairs table names
  | movingAverage r => ([·]) <$> Sql.movingAverage table r
  | preview r limit => ([·]) <$> Sql.preview table r limit
  | rowCount => .ok [Sql.rowCount table]
  | columns => .ok [Sql.describe table]
  | profile column => ([·]) <$> Sql.nullProfile table column
  | tables => .ok [Sql.listTables]

def markers (table : Text) : Inquiry → List Marker
  | aggregation r => Marker.ofFilters " WHERE " (r.filters.getD [])
  | preview r _ => Marker.ofFilters " WHERE " (r.filters.getD [])
  | outliers r =>
    if OutlierMethod.ofName? r.method = some .standardScore then
      [⟨" > ", .float (r.threshold.getD defaultThreshold)⟩]
    else []
  | columns => [⟨" AND table_name = ", .text table⟩]
  | tables => [⟨" AND starts_with(table_name, ", .text tablePrefix⟩]
  | _ => []

/-- The texts that may stand between apostrophes: the interval of a time series, which has been
    checked, and the schema whose catalog is asked. -/
def Quotes : Inquiry → Text → Prop
  | timeSeries r, t => t = r.interval ∧ ∃ i, Interval.ofName? r.interval = some i
  | columns, t | tables, t => t = "main"
  | _, _ => False

end Inquiry

def Query.Framed (Allowed : Text → Prop) (markers : List Marker) (q : Query) : Prop :=
  ∃ before after, Neat isUnmarked Allowed before ∧ Neat isUnmarked Allowed after ∧
    (∀ m ∈ markers, Neat isUnmarked Allowed m.lead) ∧
    q.sql = before ++ Marker.text markers ++ after ∧ q.params = markers.map (·.param)

section Filters

variable {Allowed : Text → Prop} {filters : Filters} {comparisons : List Comparison}

theorem Comparison.Of.marker {filter : Text × Datum} {c : Comparison} (compiled : Of filter c)
    (connective : Text) :
    (Marker.ofFilter connective filter).lead ++ [.scalar '?'] = connective ++ c.text ∧
      (Marker.ofFilter connective filter).param = c.param := by
  rcases compiled with ⟨column, t⟩ | ⟨column, ⟨n⟩ | ⟨x⟩⟩
  · refine ⟨?_, rfl⟩
    simp only [Marker.ofFilter, List.append_assoc]
    rfl
  all_goals
    refine ⟨?_, rfl⟩
    simp only [Marker.ofFilter, List.append_assoc]
    rfl

theorem Comparison.Of.neat_lead {filter : Text × Datum} {c : Comparison} (compiled : Of filter c)
    {connective : Text} (between : Neat isUnmarked Allowed connective) :
    Neat isUnmarked Allowed (Marker.ofFilter connective filter).lead := by
  rcases compiled with ⟨column, t⟩ | ⟨column, ⟨n⟩ | ⟨x⟩⟩
  all_goals exact (between.append (.name column)).then_ (by decide)

theorem Marker.neat_ofFilters (compared : List.Forall₂ Comparison.Of filters comparisons)
    {connective : Text} (between : Neat isUnmarked Allowed connective) :
    ∀ m ∈ ofFilters connective filters, Neat isUnmarked Allowed m.lead := by
  induction compared generalizing connective with
  | nil => simp [ofFilters]
  | cons first _ ih =>
    exact List.forall_mem_cons.mpr ⟨first.neat_lead between, ih (.fixed (by decide))⟩

theorem Marker.params_ofFilters (compared : List.Forall₂ Comparison.Of filters comparisons)
    (connective : Text) :
    (ofFilters connective filters).map (·.param) = comparisons.map (·.param) := by
  induction compared generalizing connective with
  | nil => rfl
  | cons first _ ih => simp only [ofFilters, List.map_cons, (first.marker connective).2, ih]

theorem Marker.text_ofFilters {filter : Text × Datum} {c : Comparison}
    (first : Comparison.Of filter c) (compared : List.Forall₂ Comparison.Of filters comparisons)
    (connective : Text) :
    text (ofFilters connective (filter :: filters)) =
      connective ++ Text.join " AND " ((c :: comparisons).map (·.text)) := by
  induction compared generalizing connective filter c with
  | nil => simp [text, ofFilters, Text.join, (first.marker connective).1]
  | cons next _ ih =>
    have others := ih next " AND "
    simp only [text, ofFilters, List.flatMap_cons] at others ⊢
    rw [(first.marker connective).1, others]
    simp [Text.join]

theorem Condition.framed (compared : List.Forall₂ Comparison.Of filters comparisons) :
    (ofComparisons comparisons).text = Marker.text (Marker.ofFilters " WHERE " filters) ∧
      (ofComparisons comparisons).params = (Marker.ofFilters " WHERE " filters).map (·.param) := by
  refine ⟨?_, ?_⟩
  · cases compared with
    | nil => rfl
    | cons first rest => exact (Marker.text_ofFilters first rest " WHERE ").symm
  · rw [params_ofComparisons, Marker.params_ofFilters compared]

end Filters

section Framed

variable {Allowed : Text → Prop} {table : Name}

theorem Query.framed_plain {sql : Text} (neat : Neat isUnmarked Allowed sql) :
    (Query.plain sql).Framed Allowed [] :=
  ⟨sql, [], neat, .nil, by simp, by simp [Query.plain, Marker.text], rfl⟩

theorem Aggregate.neat_apply (a : Aggregate) (column : Name) :
    Neat isUnmarked Allowed (a.apply column) := by
  cases a
  all_goals exact (Neat.append (.fixed (by decide)) (.name column)).then_ (by decide)

theorem Column.neat_text (c : Column) : Neat isUnmarked Allowed c.text :=
  ((c.aggregate.neat_apply c.field).then_ (by decide)).append (.name c.aliased)

theorem neat_names (names : List Name) : ∀ t ∈ names.map (·.text), Neat isUnmarked Allowed t := by
  intro t member
  obtain ⟨name, _, rfl⟩ := List.mem_map.mp member
  exact .name name

theorem neat_commaList {parts : List Text} (all : ∀ part ∈ parts, Neat isUnmarked Allowed part) :
    Neat isUnmarked Allowed (commaList parts) :=
  .join (.fixed (by decide)) all

theorem neat_groupingText (groups : List Name) :
    Neat isUnmarked Allowed (groupingText (groups.map (·.text))) := by
  unfold groupingText
  split
  · exact .nil
  · exact Neat.append (.fixed (by decide)) (neat_commaList (neat_names groups))

theorem neat_limitText {limit : Option Int} {t : Text} (written : limitText limit = .ok t) :
    Neat isUnmarked Allowed t := by
  cases limit with
  | none => cases written; exact .nil
  | some n =>
    obtain ⟨digits, number, rfl⟩ := map_eq_ok.mp written
    rw [number_eq_ok number]
    exact Neat.append (.fixed (by decide)) (.integer n)

theorem framed_aggregation {r : AggregationRequest} {q : Query}
    (compiled : aggregation table.text r = .ok q) :
    q.Framed Allowed ((Inquiry.aggregation r).markers table.text) := by
  obtain ⟨s, parts, rfl⟩ := aggregation_eq_ok.mp compiled
  obtain ⟨text, params⟩ := Condition.framed parts.comparisons
  have columns : Neat isUnmarked Allowed
      (commaList (s.groups.map (·.text) ++ s.columns.map (·.text))) := by
    apply neat_commaList
    intro t member
    rcases List.mem_append.mp member with grouped | selected
    · exact neat_names s.groups t grouped
    · obtain ⟨c, _, rfl⟩ := List.mem_map.mp selected
      exact c.neat_text
  have before : Neat isUnmarked Allowed (("SELECT " : Text) ++
      commaList (s.groups.map (·.text) ++ s.columns.map (·.text)) ++ " FROM " ++ table.text) :=
    ((Neat.append (.fixed (by decide)) columns).then_ (by decide)).append (.name table)
  refine ⟨_, _, before, (neat_groupingText s.groups).append (neat_limitText parts.limit),
    Marker.neat_ofFilters parts.comparisons (.fixed (by decide)), ?_, params⟩
  simp only [Selection.query, text, List.append_assoc, Inquiry.markers]

theorem framed_statistics {column : Datum} {q : Query}
    (compiled : statistics table.text column = .ok q) : q.Framed Allowed [] := by
  obtain ⟨name, checked, same⟩ := bind_eq_ok.mp compiled
  rw [← Except.ok.inj same]
  apply Query.framed_plain
  iterate 10 refine Neat.around ?_ (by decide)
  exact .fixed (by decide)

theorem neat_interval {r : TimeSeriesRequest} {i : Interval}
    (known : Interval.ofName? r.interval = some i) :
    Neat isUnmarked (Inquiry.timeSeries r).Quotes (("date_trunc('" : Text) ++ i.name ++ "', ") := by
  have spelled : i.name = r.interval := by simpa using List.find?_some known
  have allowed : (Inquiry.timeSeries r).Quotes i.name := ⟨spelled, i, known⟩
  have together : ("date_trunc('" : Text) ++ i.name ++ ("', " : Text) =
      ("date_trunc(" : Text) ++ (([.scalar '\''] : Text) ++ i.name ++ ([.scalar '\''] : Text)) ++
        (", " : Text) := by
    have opening : ("date_trunc('" : Text) = ("date_trunc(" : Text) ++ ([.scalar '\''] : Text) := by
      decide
    have closing : ("', " : Text) = ([.scalar '\''] : Text) ++ (", " : Text) := by decide
    rw [opening, closing]
    simp only [List.append_assoc]
  rw [together]
  refine Neat.then_ (Neat.append (.fixed (by decide)) ?_) (by decide)
  cases i <;> exact .quoted allowed (by decide)

theorem framed_timeSeries {r : TimeSeriesRequest} {q : Query}
    (compiled : timeSeries table.text r = .ok q) : q.Framed (Inquiry.timeSeries r).Quotes [] := by
  unfold timeSeries at compiled
  cases known : Interval.ofName? r.interval with
  | none => rw [known] at compiled; cases compiled
  | some i =>
    cases function : seriesAggregate? r.aggregate with
    | none => rw [known, function] at compiled; cases compiled
    | some a =>
      rw [known, function] at compiled
      obtain ⟨time, _, compiled⟩ := bind_eq_ok.mp compiled
      obtain ⟨value, _, same⟩ := bind_eq_ok.mp compiled
      rw [← Except.ok.inj same]
      apply Query.framed_plain
      have period : Neat isUnmarked (Inquiry.timeSeries r).Quotes
          (("date_trunc('" : Text) ++ i.name ++ "', " ++ time.text ++ ")") :=
        (neat_interval known).around (by decide)
      refine Neat.then_ (Neat.append ?_ period) (by decide)
      iterate 3 refine Neat.around ?_ (by decide)
      refine Neat.then_ (Neat.append ?_ (a.neat_apply value)) (by decide)
      refine Neat.then_ (Neat.append ?_ period) (by decide)
      exact .fixed (by decide)

theorem framed_interquartileOutliers (c : Name) :
    (interquartileOutliers table.text c.text).Framed Allowed [] := by
  apply Query.framed_plain
  iterate 3 refine Neat.around ?_ (by decide)
  refine Neat.then_ ?_ (by decide)
  iterate 4 refine Neat.around ?_ (by decide)
  exact .fixed (by decide)

theorem framed_standardScoreOutliers (c : Name) (threshold : Binary64) :
    (standardScoreOutliers table.text c.text threshold).Framed Allowed
      [⟨" > ", .float threshold⟩] := by
  have score : Neat isUnmarked Allowed
      (("ABS((" : Text) ++ c.text ++ (" - stats.mean) / stats.std_dev)" : Text)) :=
    Neat.around (.fixed (by decide)) (by decide)
  have before : Neat isUnmarked Allowed (("WITH stats AS (SELECT AVG(" : Text) ++ c.text ++
      (") AS mean, STDDEV(" : Text) ++ c.text ++ (") AS std_dev FROM " : Text) ++ table.text ++
      (" WHERE " : Text) ++ c.text ++ (" IS NOT NULL) SELECT *, " : Text) ++
      (("ABS((" : Text) ++ c.text ++ (" - stats.mean) / stats.std_dev)" : Text)) ++
      (" AS z_score FROM " : Text) ++ table.text ++ (" CROSS JOIN stats WHERE " : Text) ++
      (("ABS((" : Text) ++ c.text ++ (" - stats.mean) / stats.std_dev)" : Text))) := by
    refine Neat.append (Neat.around ?_ (by decide)) score
    refine Neat.then_ (Neat.append ?_ score) (by decide)
    iterate 4 refine Neat.around ?_ (by decide)
    exact .fixed (by decide)
  refine ⟨_, [], before, .nil, List.forall_mem_singleton.mpr (.fixed (by decide)), ?_, rfl⟩
  have bound : (" > ?" : Text) = Marker.text [⟨" > ", .float threshold⟩] := rfl
  rw [List.append_nil, ← bound]
  rfl

theorem framed_outliers {r : OutlierRequest} {q : Query}
    (compiled : outliers table.text r = .ok q) :
    q.Framed Allowed ((Inquiry.outliers r).markers table.text) := by
  obtain ⟨c, _, compiled⟩ := bind_eq_ok.mp compiled
  simp only [Inquiry.markers]
  cases method : OutlierMethod.ofName? r.method with
  | none => rw [method] at compiled; cases compiled
  | some m =>
    rw [method] at compiled
    cases m with
    | interquartile =>
      rw [← Except.ok.inj compiled]
      exact framed_interquartileOutliers c
    | standardScore =>
      rw [← Except.ok.inj compiled]
      exact framed_standardScoreOutliers c _

theorem framed_correlation (first second : Name) :
    (correlation table.text first second).Framed Allowed [] := by
  apply Query.framed_plain
  iterate 5 refine Neat.around ?_ (by decide)
  exact .fixed (by decide)

theorem framed_movingAverage {r : MovingAverageRequest} {q : Query}
    (compiled : movingAverage table.text r = .ok q) : q.Framed Allowed [] := by
  obtain ⟨value, _, compiled⟩ := bind_eq_ok.mp compiled
  obtain ⟨order, _, compiled⟩ := bind_eq_ok.mp compiled
  obtain ⟨preceding, written, same⟩ := bind_eq_ok.mp compiled
  rw [← Except.ok.inj same, number_eq_ok written]
  apply Query.framed_plain
  refine Neat.append ?_ (.name order)
  refine Neat.around ?_ (by decide)
  refine Neat.then_ (Neat.append ?_ (.integer _)) (by decide)
  iterate 2 refine Neat.around ?_ (by decide)
  exact .fixed (by decide)

theorem framed_preview {r : PreviewRequest} {limit : Int} {q : Query}
    (compiled : preview table.text r limit = .ok q) :
    q.Framed Allowed ((Inquiry.preview r limit).markers table.text) := by
  obtain ⟨condition, filtered, compiled⟩ := bind_eq_ok.mp compiled
  obtain ⟨count, counted, compiled⟩ := bind_eq_ok.mp compiled
  obtain ⟨offset, skipped, same⟩ := bind_eq_ok.mp compiled
  obtain ⟨comparisons, compared, rfl⟩ := Condition.ofFilters_eq_ok.mp filtered
  obtain ⟨text, params⟩ := Condition.framed compared
  rw [← Except.ok.inj same, number_eq_ok counted, number_eq_ok skipped]
  have before : Neat isUnmarked Allowed (("SELECT * FROM " : Text) ++ table.text) :=
    Neat.append (.fixed (by decide)) (.name table)
  have after : Neat isUnmarked Allowed ((" LIMIT " : Text) ++ Text.ofInt limit ++ " OFFSET " ++
      Text.ofInt (r.offset.getD 0)) :=
    ((Neat.append (.fixed (by decide)) (.integer limit)).then_ (by decide)).append (.integer _)
  refine ⟨_, _, before, after, Marker.neat_ofFilters compared (.fixed (by decide)), ?_, params⟩
  simp only [text, List.append_assoc, Inquiry.markers]

theorem framed_rowCount : (rowCount table.text).Framed Allowed [] :=
  Query.framed_plain (Neat.append (.fixed (by decide)) (.name table))

theorem framed_nullProfile {column : Datum} {q : Query}
    (compiled : nullProfile table.text column = .ok q) : q.Framed Allowed [] := by
  obtain ⟨name, _, same⟩ := bind_eq_ok.mp compiled
  rw [← Except.ok.inj same]
  apply Query.framed_plain
  refine Neat.append ?_ (.name table)
  iterate 4 refine Neat.around ?_ (by decide)
  exact .fixed (by decide)

theorem neat_schema {t : Text} (neat : Neat isUnmarked Allowed t) (allowed : Allowed "main") :
    Neat isUnmarked Allowed (t ++ (([.scalar '\''] : Text) ++ ("main" : Text) ++
      ([.scalar '\''] : Text))) :=
  neat.append (.quoted allowed (by decide))

theorem framed_describe :
    (describe table.text).Framed Inquiry.columns.Quotes (Inquiry.columns.markers table.text) := by
  have asked : Neat isUnmarked Inquiry.columns.Quotes
      (("SELECT column_name, data_type, is_nullable FROM information_schema.columns " : Text) ++
        ("WHERE table_schema = " : Text)) :=
    .then_ (.fixed (by decide)) (by decide)
  have after : Neat isUnmarked Inquiry.columns.Quotes (" ORDER BY ordinal_position" : Text) :=
    .fixed (by decide)
  refine ⟨_, _, neat_schema asked rfl, after, List.forall_mem_singleton.mpr (.fixed (by decide)),
    ?_, rfl⟩
  have spelled : "WHERE table_schema = 'main' AND table_name = ? ORDER BY ordinal_position" =
      "WHERE table_schema = " ++ ("'" ++ "main" ++ "'") ++ (" AND table_name = " ++ "?") ++
        " ORDER BY ordinal_position" := by decide
  rw [describe, spelled]
  simp only [Text.ofString_append, List.append_assoc]
  rfl

theorem framed_listTables :
    listTables.Framed Inquiry.tables.Quotes (Inquiry.tables.markers table.text) := by
  have asked : Neat isUnmarked Inquiry.tables.Quotes
      ("SELECT table_name FROM information_schema.tables WHERE table_schema = " : Text) :=
    .fixed (by decide)
  have after : Neat isUnmarked Inquiry.tables.Quotes (") ORDER BY table_name" : Text) :=
    .fixed (by decide)
  refine ⟨_, _, neat_schema asked rfl, after, List.forall_mem_singleton.mpr (.fixed (by decide)),
    ?_, rfl⟩
  have schema : "SELECT table_name FROM information_schema.tables WHERE table_schema = 'main' AND " =
      "SELECT table_name FROM information_schema.tables WHERE table_schema = " ++
        ("'" ++ "main" ++ "'") ++ " AND " := by decide
  have marked : "starts_with(table_name, ?) ORDER BY table_name" =
      "starts_with(table_name, " ++ "?" ++ ") ORDER BY table_name" := by decide
  rw [listTables, schema, marked]
  simp only [Text.ofString_append, List.append_assoc]
  rfl

end Framed

end Sql

end QueryDesk
