import QueryDesk.Proofs.Guard.Mention
import QueryDesk.Proofs.Sql.Inquiry

namespace QueryDesk

def Datum.texts : Datum → List Text
  | .text t => [t]
  | _ => []

namespace Sql

/-- The names that are written into each statement of an inquiry; `source` is the first of them in
    all statements about its table. -/
def Inquiry.names (source : Text) : Inquiry → List (List Text)
  | aggregation r =>
    [source :: (r.groupBy.getD [] ++
      r.operations.flatMap (fun op => [op.field, op.effectiveAlias]) ++
      (r.filters.getD []).map (·.1))]
  | statistics column => [source :: column.texts]
  | timeSeries r => [[source, r.timeColumn, r.valueColumn]]
  | outliers r => [[source, r.column]]
  | correlations given =>
    given.flatMap fun first => given.map fun second => source :: (first.texts ++ second.texts)
  | movingAverage r => [[source, r.valueColumn, r.orderColumn]]
  | preview r _ => [source :: (r.filters.getD []).map (·.1)]
  | rowCount => [[source]]
  | profile column => [source :: column.texts]
  | columns => [[]]
  | tables => [[]]

section Source

variable {word : List Char}

theorem spells_replacePoint_iff {old new : Char} {part : Text}
    (apart : old.isAlpha = false ∧ new.isAlpha = false) (lower : ∀ c ∈ word, c.isLower = true) :
    Guard.Spells word (part.replacePoint old new) ↔ Guard.Spells word part := by
  have kept {letter : Char} (p : Point) (small : letter.isLower = true) :
      (∃ c, (if p = .scalar old then Point.scalar new else p) = .scalar c ∧ c.toLower = letter) ↔
        ∃ c, p = .scalar c ∧ c.toLower = letter := by
    have foreign {c : Char} (outside : c.isAlpha = false) : c.toLower ≠ letter := by
      rintro rfl
      exact Bool.noConfusion (outside.symm.trans (Guard.isAlpha_of_toLower small))
    split
    · rename_i replaced
      constructor
      · rintro ⟨c, same, spelled⟩
        exact absurd (Point.scalar.inj same ▸ spelled) (foreign apart.2)
      · rintro ⟨c, same, spelled⟩
        exact absurd (Point.scalar.inj (replaced.symm.trans same) ▸ spelled) (foreign apart.1)
    · exact Iff.rfl
  induction word generalizing part with
  | nil =>
    cases part with
    | nil => exact Iff.rfl
    | cons p rest => exact iff_of_false nofun nofun
  | cons letter word ih =>
    obtain ⟨small, others⟩ := List.forall_mem_cons.mp lower
    cases part with
    | nil => exact iff_of_false nofun nofun
    | cons p rest =>
      simp only [Guard.Spells, Text.replacePoint, List.map_cons, List.forall₂_cons]
      exact and_congr (kept p small) (ih others)

theorem mentions_tableName_iff {source : Text} {table : Name} (named : tableName source = .ok table)
    (listed : word ∈ Guard.forbiddenWords .general) :
    Guard.Mentions word table.text ↔ Guard.Mentions word source := by
  obtain ⟨_, lower⟩ := Guard.lower_of_forbidden word listed
  have started : Guard.Fragment [] tablePrefix := .start (by decide)
  have absent : ¬ Guard.Mentions word tablePrefix := by
    rw [started.traced word listed]
    simp
  rw [Name.ofText_eq_ok.mp named, Guard.mentions_append_iff lower (.inl started.border),
    or_iff_right absent]
  have apart : '-'.isAlpha = false ∧ '_'.isAlpha = false := by decide
  constructor
  · rintro ⟨part, inside, spells⟩
    obtain ⟨original, within, rfl⟩ := List.infix_map_iff.mp inside
    exact ⟨original, within, (spells_replacePoint_iff apart lower).mp spells⟩
  · rintro ⟨part, inside, spells⟩
    exact ⟨_, inside.map _, (spells_replacePoint_iff apart lower).mpr spells⟩

end Source

structure Query.Worded (names : List Text) (q : Query) : Prop where
  traced : Guard.Traced names q.sql
  full : q.sql.isBlank = false

theorem full_append {t u : Text} (full : t.isBlank = false) : (t ++ u).isBlank = false := by
  rw [Text.isBlank, List.all_append, ← Text.isBlank, full, Bool.false_and]

theorem Query.Worded.check_iff {names : List Text} {q : Query} (worded : q.Worded names) :
    (Guard.check .words .general q.sql = .error (.refused (.forbidden .destructive)) ↔
      ∃ name ∈ names, Guard.Destructive name) ∧
    (Guard.check .words .general q.sql = .ok () ↔ ¬ ∃ name ∈ names, Guard.Destructive name) := by
  rw [← worded.traced.destructive_iff, Guard.check, worded.full]
  by_cases destructive : Guard.Destructive q.sql
  · have refused : Guard.checkWords .general q.sql = .error .destructive := by
      rcases destructive with ⟨part, inside, spells⟩ | ⟨part, inside, spells⟩
      · exact Guard.checkWords_eq_error (by decide) inside spells
      · exact Guard.checkWords_eq_error (by decide) inside spells
    simp [refused, destructive, Except.mapError]
  · have accepted : Guard.checkWords .general q.sql = .ok () := by
      apply Guard.checkWords_eq_ok
      intro word listed part inside spells
      apply destructive
      simp only [Guard.forbiddenWords, List.mem_cons, List.not_mem_nil, or_false] at listed
      rcases listed with rfl | rfl
      · exact .inl ⟨part, inside, spells⟩
      · exact .inr ⟨part, inside, spells⟩
    simp [accepted, destructive, Except.mapError]

section Worded

open Guard

variable {table : Name}

theorem traced_integer (n : Int) : Traced [] (Text.ofInt n) := by
  apply traced_of_over (Text.over_ofInt n)
  intro c integer
  rcases Bool.or_eq_true_iff.mp integer with digit | minus
  · have bounds : 48 ≤ c.toNat ∧ c.toNat ≤ 57 := Char.isDigit_iff_toNat.mp digit
    rw [Bool.eq_false_iff, ne_eq, isAlpha_iff_toNat]
    omega
  · rw [eq_of_beq minus]
    decide

theorem traced_names (names : List Name) :
    List.Forall₂ Traced (names.map fun name => [name.text]) (names.map (·.text)) := by
  induction names with
  | nil => exact .nil
  | cons name _ ih => exact .cons (traced_name name.text) ih

theorem Aggregate.fragment_apply (a : Aggregate) (column : Name) :
    Fragment [column.text] (a.apply column) := by
  cases a
  all_goals exact Fragment.around (.start (by decide)) (by decide)

theorem Column.traced_text (c : Column) : Traced [c.field.text, c.aliased.text] c.text := by
  have called : Fragment [c.field.text] (c.aggregate.apply c.field ++ " AS ") :=
    (c.aggregate.fragment_apply c.field).phrase (by decide)
  exact called.name c.aliased.text

theorem Column.traced_texts {ops : List Operation} {columns : List Column}
    (compiled : List.Forall₂ Of ops columns) :
    List.Forall₂ Traced (ops.map fun op => [op.field, op.effectiveAlias]) (columns.map (·.text)) := by
  induction compiled with
  | nil => exact .nil
  | cons first _ ih =>
    obtain ⟨_, field, aliased⟩ := first
    rw [List.map_cons, ← field, ← aliased]
    exact .cons (traced_text _) ih

theorem Comparison.Of.traced {filter : Text × Datum} {c : Comparison} (compiled : Of filter c) :
    Traced [filter.1] c.text := by
  rcases compiled with ⟨column, t⟩ | ⟨column, number⟩
  all_goals exact (traced_name column.text).ends (by decide)

theorem Comparison.traced_texts {filters : Filters} {comparisons : List Comparison}
    (compared : List.Forall₂ Of filters comparisons) :
    List.Forall₂ Traced (filters.map fun filter => [filter.1]) (comparisons.map (·.text)) := by
  induction compared with
  | nil => exact .nil
  | cons first _ ih => exact .cons first.traced ih

theorem tail_condition {filters : Filters} {comparisons : List Comparison}
    (compared : List.Forall₂ Comparison.Of filters comparisons) :
    Tail (filters.map (·.1)) (Condition.ofComparisons comparisons).text := by
  have joined := traced_join (by decide : parts " AND ".toList = true)
    (Comparison.traced_texts compared)
  rw [← List.flatMap_def, ← List.map_eq_flatMap] at joined
  cases compared with
  | nil => exact .nil
  | cons first rest => exact .phrase (by decide) joined

theorem tail_grouping (groups : List Name) :
    Tail (groups.map (·.text)) (groupingText (groups.map (·.text))) := by
  have joined := traced_join (by decide : parts ", ".toList = true) (traced_names groups)
  rw [← List.flatMap_def, ← List.map_eq_flatMap] at joined
  unfold groupingText
  split
  · rename_i empty
    rw [List.isEmpty_iff.mp empty]
    exact .nil
  · exact .phrase (by decide) joined

theorem tail_limit {limit : Option Int} {t : Text} (written : limitText limit = .ok t) :
    Tail [] t := by
  cases limit with
  | none => cases written; exact .nil
  | some n =>
    obtain ⟨digits, number, rfl⟩ := map_eq_ok.mp written
    rw [number_eq_ok number]
    exact .phrase (by decide) (traced_integer n)

theorem worded_aggregation {r : AggregationRequest} {q : Query}
    (compiled : aggregation table.text r = .ok q) :
    q.Worded (table.text :: (r.groupBy.getD [] ++
      r.operations.flatMap (fun op => [op.field, op.effectiveAlias]) ++
      (r.filters.getD []).map (·.1))) := by
  obtain ⟨s, parts, rfl⟩ := aggregation_eq_ok.mp compiled
  have columns := traced_join (by decide : Guard.parts ", ".toList = true)
    (List.rel_append (traced_names s.groups) (Column.traced_texts parts.columns))
  have selected : Fragment _ (("SELECT " : Text) ++
      commaList (s.groups.map (·.text) ++ s.columns.map (·.text)) ++ " FROM ") :=
    (Fragment.append (.start (by decide)) columns).then_ (by decide)
  have whole : Traced _ (s.query table.text).sql :=
    (((selected.name table.text).tail (tail_condition parts.comparisons)).tail
      (tail_grouping s.groups)).tail (tail_limit parts.limit)
  have groups : (s.groups.map fun name => [name.text]).flatten = r.groupBy.getD [] := by
    rw [← List.flatMap_def, ← List.map_eq_flatMap, parts.groups]
  have reordered (first second third : List Text) (t : Text) :
      [] ++ (first ++ second) ++ [t] ++ third ++ first ++ [] ⊆ t :: (first ++ second ++ third) ∧
        t :: (first ++ second ++ third) ⊆ [] ++ (first ++ second) ++ [t] ++ third ++ first ++ [] := by
    constructor
    all_goals
      intro name member
      grind
  rw [List.flatten_append, groups, parts.groups, ← List.flatMap_def] at whole
  constructor
  case full =>
    repeat apply full_append
    rfl
  exact whole.congr (reordered _ _ _ _)

theorem worded_statistics {column : Datum} {q : Query}
    (compiled : statistics table.text column = .ok q) :
    q.Worded (table.text :: column.texts) := by
  obtain ⟨name, checked, same⟩ := bind_eq_ok.mp compiled
  rw [← Except.ok.inj same, Name.ofDatum_eq_ok.mp checked]
  constructor
  case full =>
    repeat apply full_append
    rfl
  apply Traced.congr
  case traced =>
    apply Fragment.last
    case phrase => decide
    iterate 9
      apply Fragment.around
      case phrase => decide
    exact .start (by decide)
  case same => simp [Datum.texts]

theorem Interval.traced_name (i : Interval) : Traced [] i.name := by
  cases i
  all_goals exact traced_of_isQuiet (by decide)

theorem Interval.fragment_period (i : Interval) (time : Name) :
    Fragment [time.text] (("date_trunc('" : Text) ++ i.name ++ "', " ++ time.text ++ ")") := by
  have opened : Fragment [] (("date_trunc('" : Text) ++ i.name ++ "', ") :=
    (Fragment.append (.start (by decide)) i.traced_name).then_ (by decide)
  exact opened.around (by decide)

theorem worded_timeSeries {r : TimeSeriesRequest} {q : Query}
    (compiled : timeSeries table.text r = .ok q) :
    q.Worded [table.text, r.timeColumn, r.valueColumn] := by
  unfold timeSeries at compiled
  cases known : Interval.ofName? r.interval with
  | none => rw [known] at compiled; cases compiled
  | some i =>
    cases function : seriesAggregate? r.aggregate with
    | none => rw [known, function] at compiled; cases compiled
    | some a =>
      rw [known, function] at compiled
      obtain ⟨time, timed, compiled⟩ := bind_eq_ok.mp compiled
      obtain ⟨value, valued, same⟩ := bind_eq_ok.mp compiled
      rw [← Except.ok.inj same, ← Name.ofText_eq_ok.mp timed, ← Name.ofText_eq_ok.mp valued]
      constructor
      case full =>
        repeat apply full_append
        rfl
      apply Traced.congr
      case traced =>
        have period := i.fragment_period time
        apply Traced.ends
        case phrase => decide
        apply Fragment.traced
        apply Fragment.with_
        case later => exact period
        iterate 3
          apply Fragment.around
          case phrase => decide
        apply Fragment.phrase
        case phrase => decide
        apply Fragment.with_
        case later => exact a.fragment_apply value
        apply Fragment.phrase
        case phrase => decide
        apply Fragment.with_
        case later => exact period
        exact .start (by decide)
      case same => simp

theorem worded_outliers {r : OutlierRequest} {q : Query}
    (compiled : outliers table.text r = .ok q) : q.Worded [table.text, r.column] := by
  obtain ⟨c, named, compiled⟩ := bind_eq_ok.mp compiled
  rw [← Name.ofText_eq_ok.mp named]
  cases method : OutlierMethod.ofName? r.method with
  | none => rw [method] at compiled; cases compiled
  | some m =>
    rw [method] at compiled
    cases m with
    | interquartile =>
      rw [← Except.ok.inj compiled]
      constructor
      case full =>
        repeat apply full_append
        rfl
      apply Traced.congr
      case traced =>
        apply Fragment.last
        case phrase => decide
        iterate 2
          apply Fragment.around
          case phrase => decide
        apply Fragment.phrase
        case phrase => decide
        iterate 4
          apply Fragment.around
          case phrase => decide
        exact .start (by decide)
      case same => simp
    | standardScore =>
      rw [← Except.ok.inj compiled]
      constructor
      case full =>
        repeat apply full_append
        rfl
      apply Traced.congr
      case traced =>
        have score : Fragment [c.text]
            (("ABS((" : Text) ++ c.text ++ (" - stats.mean) / stats.std_dev)" : Text)) :=
          Fragment.around (.start (by decide)) (by decide)
        apply Traced.ends
        case phrase => decide
        apply Fragment.traced
        apply Fragment.with_
        case later => exact score
        apply Fragment.around
        case phrase => decide
        apply Fragment.phrase
        case phrase => decide
        apply Fragment.with_
        case later => exact score
        iterate 4
          apply Fragment.around
          case phrase => decide
        exact .start (by decide)
      case same => simp

theorem worded_correlation (first second : Name) :
    (correlation table.text first second).Worded [table.text, first.text, second.text] := by
  constructor
  case full =>
    repeat apply full_append
    rfl
  apply Traced.congr
  case traced =>
    apply Fragment.last
    case phrase => decide
    iterate 4
      apply Fragment.around
      case phrase => decide
    exact .start (by decide)
  case same => simp

theorem worded_movingAverage {r : MovingAverageRequest} {q : Query}
    (compiled : movingAverage table.text r = .ok q) :
    q.Worded [table.text, r.valueColumn, r.orderColumn] := by
  obtain ⟨value, valued, compiled⟩ := bind_eq_ok.mp compiled
  obtain ⟨order, ordered, compiled⟩ := bind_eq_ok.mp compiled
  obtain ⟨preceding, written, same⟩ := bind_eq_ok.mp compiled
  rw [← Except.ok.inj same, number_eq_ok written, ← Name.ofText_eq_ok.mp valued,
    ← Name.ofText_eq_ok.mp ordered]
  constructor
  case full =>
    repeat apply full_append
    rfl
  apply Traced.congr
  case traced =>
    apply Fragment.name
    apply Fragment.around
    case phrase => decide
    apply Traced.then_
    case phrase => decide
    apply Fragment.append
    case last => exact traced_integer _
    iterate 2
      apply Fragment.around
      case phrase => decide
    exact .start (by decide)
  case same => simp

theorem worded_preview {r : PreviewRequest} {limit : Int} {q : Query}
    (compiled : preview table.text r limit = .ok q) :
    q.Worded (table.text :: (r.filters.getD []).map (·.1)) := by
  obtain ⟨condition, filtered, compiled⟩ := bind_eq_ok.mp compiled
  obtain ⟨count, counted, compiled⟩ := bind_eq_ok.mp compiled
  obtain ⟨offset, skipped, same⟩ := bind_eq_ok.mp compiled
  obtain ⟨comparisons, compared, rfl⟩ := Condition.ofFilters_eq_ok.mp filtered
  rw [← Except.ok.inj same, number_eq_ok counted, number_eq_ok skipped]
  constructor
  case full =>
    repeat apply full_append
    rfl
  apply Traced.congr
  case traced =>
    have paged : Traced _ (("SELECT * FROM " : Text) ++ table.text ++
        (Condition.ofComparisons comparisons).text) :=
      (Fragment.name (.start (by decide)) table.text).tail (tail_condition compared)
    have between : Fragment _ (("SELECT * FROM " : Text) ++ table.text ++
        (Condition.ofComparisons comparisons).text ++ " LIMIT ") := paged.then_ (by decide)
    have limited : Fragment _ (("SELECT * FROM " : Text) ++ table.text ++
        (Condition.ofComparisons comparisons).text ++ " LIMIT " ++ Text.ofInt limit ++ " OFFSET ") :=
      (between.append (traced_integer limit)).then_ (by decide)
    exact limited.append (traced_integer _)
  case same => simp

theorem worded_rowCount : (rowCount table.text).Worded [table.text] :=
  ⟨Fragment.name (.start (by decide)) table.text, full_append rfl⟩

theorem worded_describe : (describe table.text).Worded [] :=
  ⟨Fragment.append (.start (by decide)) (traced_of_isQuiet (by decide)), full_append rfl⟩

theorem worded_listTables : listTables.Worded [] :=
  ⟨Fragment.append (.start (by decide)) (traced_of_isQuiet (by decide)), full_append rfl⟩

theorem worded_nullProfile {column : Datum} {q : Query}
    (compiled : nullProfile table.text column = .ok q) :
    q.Worded (table.text :: column.texts) := by
  obtain ⟨name, checked, same⟩ := bind_eq_ok.mp compiled
  rw [← Except.ok.inj same, Name.ofDatum_eq_ok.mp checked]
  constructor
  case full =>
    repeat apply full_append
    rfl
  apply Traced.congr
  case traced =>
    apply Fragment.name
    iterate 4
      apply Fragment.around
      case phrase => decide
    exact .start (by decide)
  case same => simp [Datum.texts]

theorem worded_correlations {given : List Datum} {queries : List Query}
    (compiled : (Inquiry.correlations given).queries table.text = .ok queries) :
    List.Forall₂ Query.Worded ((Inquiry.correlations given).names table.text) queries := by
  obtain ⟨pairs, paired, rfl⟩ := map_eq_ok.mp compiled
  obtain ⟨columns, checked, same⟩ := bind_eq_ok.mp paired
  have spelled : List.Forall₂ (fun d name => Name.ofDatum "column" d = .ok name) given columns :=
    mapM_eq_ok.mp checked
  rw [← Except.ok.inj same]
  simp only [Inquiry.names, List.map_flatMap, List.map_map]
  refine List.rel_flatMap spelled fun d first one => List.rel_map (fun e second other => ?_) spelled
  rw [Name.ofDatum_eq_ok.mp one, Name.ofDatum_eq_ok.mp other]
  exact worded_correlation first second

theorem Inquiry.worded {inquiry : Inquiry} {queries : List Query}
    (compiled : inquiry.queries table.text = .ok queries) :
    List.Forall₂ Query.Worded (inquiry.names table.text) queries := by
  cases inquiry with
  | correlations given => exact worded_correlations compiled
  | rowCount =>
    rw [← Except.ok.inj compiled]
    exact .cons worded_rowCount .nil
  | columns =>
    rw [← Except.ok.inj compiled]
    exact .cons worded_describe .nil
  | tables =>
    rw [← Except.ok.inj compiled]
    exact .cons worded_listTables .nil
  | aggregation r =>
    obtain ⟨q, written, rfl⟩ := map_eq_ok.mp compiled
    exact .cons (worded_aggregation written) .nil
  | statistics column =>
    obtain ⟨q, written, rfl⟩ := map_eq_ok.mp compiled
    exact .cons (worded_statistics written) .nil
  | timeSeries r =>
    obtain ⟨q, written, rfl⟩ := map_eq_ok.mp compiled
    exact .cons (worded_timeSeries written) .nil
  | outliers r =>
    obtain ⟨q, written, rfl⟩ := map_eq_ok.mp compiled
    exact .cons (worded_outliers written) .nil
  | movingAverage r =>
    obtain ⟨q, written, rfl⟩ := map_eq_ok.mp compiled
    exact .cons (worded_movingAverage written) .nil
  | preview r limit =>
    obtain ⟨q, written, rfl⟩ := map_eq_ok.mp compiled
    exact .cons (worded_preview written) .nil
  | profile column =>
    obtain ⟨q, written, rfl⟩ := map_eq_ok.mp compiled
    exact .cons (worded_nullProfile written) .nil

theorem Inquiry.names_congr {first second : Text} (inquiry : Inquiry)
    (same : Destructive first ↔ Destructive second) :
    List.Forall₂ (fun names others =>
        (∃ name ∈ names, Destructive name) ↔ ∃ name ∈ others, Destructive name)
      (inquiry.names first) (inquiry.names second) := by
  cases inquiry with
  | correlations given =>
    have equal : List.Forall₂ Eq given given := List.forall₂_same.mpr fun _ _ => rfl
    refine List.rel_flatMap equal fun d d' one => List.rel_map (fun e e' other => ?_) equal
    rw [one, other]
    simp only [List.exists_mem_cons_iff, same]
  | columns => exact .cons Iff.rfl .nil
  | tables => exact .cons Iff.rfl .nil
  | _ =>
    refine .cons ?_ .nil
    simp only [List.exists_mem_cons_iff, same]

/-- The default guard refuses a compiled statement exactly when the data source, or one of the names
    that are written into the statement, holds a forbidden word. -/
theorem Inquiry.refused_iff_destructive {inquiry : Inquiry} {source : Text} {table : Name}
    {queries : List Query} (named : tableName source = .ok table)
    (compiled : inquiry.queries table.text = .ok queries) :
    List.Forall₂ (fun names q =>
        (Guard.check .words .general q.sql = .error (.refused (.forbidden .destructive)) ↔
          ∃ name ∈ names, Destructive name) ∧
        (Guard.check .words .general q.sql = .ok () ↔ ¬ ∃ name ∈ names, Destructive name))
      (inquiry.names source) queries := by
  have same : Destructive source ↔ Destructive table.text := by
    have alike {word : List Char} (listed : word ∈ forbiddenWords .general) :=
      mentions_tableName_iff named listed
    rw [Destructive, Destructive, alike (by decide), alike (by decide)]
  have tables := inquiry.names_congr same
  have statements := Inquiry.worded compiled
  refine forall₂_trans (fun names others q alike worded => ?_) tables statements
  obtain ⟨refused, accepted⟩ := worded.check_iff
  exact ⟨refused.trans alike.symm, accepted.trans (not_congr alike.symm)⟩

/-- A filter value that holds a forbidden word is let through; the alias of a column is not, even
    where the word ends it. -/
theorem Inquiry.refused_iff_destructive_alias :
    let filtered (given : Option Text) : Inquiry := .aggregation ⟨"a-b",
      [⟨"value", "sum", given⟩], none, some [("note", .text "drop table")], none, none⟩
    ∃ accepted refused,
      tableName "a-b" = .ok ⟨"data_source_a_b", by decide⟩ ∧
      (filtered none).queries "data_source_a_b" = .ok [accepted] ∧
      Guard.check .words .general accepted.sql = .ok () ∧
      (filtered (some "airDrop")).queries "data_source_a_b" = .ok [refused] ∧
      Guard.check .words .general refused.sql = .error (.refused (.forbidden .destructive)) := by
  intro filtered
  have named : tableName "a-b" = .ok ⟨"data_source_a_b", by decide⟩ := rfl
  obtain ⟨accepted, first⟩ : ∃ q, (filtered none).queries "data_source_a_b" = .ok [q] := ⟨_, rfl⟩
  obtain ⟨refused, second⟩ : ∃ q, (filtered (some "airDrop")).queries "data_source_a_b" = .ok [q] :=
    ⟨_, rfl⟩
  obtain ⟨own, _⟩ := List.forall₂_cons.mp (Inquiry.refused_iff_destructive named first)
  obtain ⟨other, _⟩ := List.forall₂_cons.mp (Inquiry.refused_iff_destructive named second)
  have clean : ¬ ∃ name ∈ ["a-b", "value", "sum_value", "note"].map Text.ofString,
      Destructive name := by decide
  have aliased : ∃ name ∈ ["a-b", "value", "airDrop", "note"].map Text.ofString,
      Destructive name := by decide
  exact ⟨accepted, refused, named, first, own.2.mpr clean, second, other.1.mpr aliased⟩

end Worded

end Sql

end QueryDesk
