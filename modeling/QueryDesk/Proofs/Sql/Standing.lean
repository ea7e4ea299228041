import QueryDesk.Proofs.Sql.Word
import QueryDesk.Proofs.Sql.Wording

namespace QueryDesk

namespace Sql

/-- A name is in the text, with no letters of names next to it. -/
def Standing (name t : Text) : Prop := ∃ before after, t = before ++ name ++ after ∧
  Text.Leaves isNameChar before.reverse ∧ Text.Leaves isNameChar after

/-- Checked names stand in the text by themselves as long as no letter of a name follows; all its line
    feeds are from them. -/
structure Spaced (names : List Text) (t : Text) : Prop where
  checked : ∀ name ∈ names, isName name = true
  standing : ∀ name ∈ names, ∀ u, Text.Leaves isNameChar u → Standing name (t ++ u)
  feeds : lineFeed ∈ t ↔ ∃ name ∈ names, lineFeed ∈ name

structure Ready (names : List Text) (t : Text) : Prop where
  checked : ∀ name ∈ names, isName name = true
  standing : ∀ name ∈ names, ∀ u, Standing name (t ++ u)
  border : Text.Leaves isNameChar t.reverse
  feeds : lineFeed ∈ t ↔ ∃ name ∈ names, lineFeed ∈ name

def leads (cs : List Char) : Bool := cs.getLast?.any (!isNameChar ·) && !cs.contains '\n'

def trails (cs : List Char) : Bool := cs.head?.all (!isNameChar ·) && !cs.contains '\n'

def parts (cs : List Char) : Bool := leads cs && trails cs

section Phrase

variable {names : List Text} {t u : Text} {cs : List Char}

theorem leaves_append (first : Text.Leaves isNameChar t) (last : Text.Leaves isNameChar u) :
    Text.Leaves isNameChar (t ++ u) := by
  cases t with
  | nil => exact last
  | cons p t => exact fun q same => first q same

theorem not_mem_lineFeed_ofList (clean : cs.contains '\n' = false) :
    lineFeed ∉ Text.ofString (String.ofList cs) := by
  rw [Text.ofString, String.toList_ofList, Text.ofChars, List.mem_map]
  rintro ⟨c, member, same⟩
  rw [Point.scalar.inj same] at member
  exact Bool.noConfusion (clean.symm.trans (List.contains_iff_mem.mpr member))

theorem leaves_reverse_of_leads (phrase : leads cs = true) :
    Text.Leaves isNameChar (t ++ Text.ofString (String.ofList cs)).reverse := by
  have closes := (Bool.and_eq_true_iff.mp phrase).1
  cases ends : cs.getLast? with
  | none =>
    rw [ends] at closes
    cases closes
  | some c =>
    rw [ends] at closes
    intro p last
    rw [Text.ofString, String.toList_ofList, Text.ofChars, List.head?_reverse, List.getLast?_append,
      List.getLast?_map, ends] at last
    cases last
    simpa [Point.satisfies, Point.char?] using closes

theorem leaves_of_trails (phrase : trails cs = true) :
    Text.Leaves isNameChar (Text.ofString (String.ofList cs)) := by
  have opens := (Bool.and_eq_true_iff.mp phrase).1
  intro p first
  rw [Text.ofString, String.toList_ofList, Text.ofChars, List.head?_map] at first
  obtain ⟨c, begins, rfl⟩ := Option.map_eq_some_iff.mp first
  rw [begins] at opens
  simpa [Point.satisfies, Point.char?] using opens

theorem clean_of_leads (phrase : leads cs = true) : cs.contains '\n' = false := by
  have clean := (Bool.and_eq_true_iff.mp phrase).2
  simpa using clean

theorem clean_of_trails (phrase : trails cs = true) : cs.contains '\n' = false := by
  have clean := (Bool.and_eq_true_iff.mp phrase).2
  simpa using clean

theorem mem_append_clean (clean : lineFeed ∉ u) : lineFeed ∈ t ++ u ↔ lineFeed ∈ t := by
  rw [List.mem_append, or_iff_left clean]

theorem Ready.start (phrase : leads cs = true) : Ready [] (Text.ofString (String.ofList cs)) := by
  refine ⟨nofun, nofun, leaves_reverse_of_leads (t := []) phrase, iff_of_false ?_ (by simp)⟩
  exact not_mem_lineFeed_ofList (clean_of_leads phrase)

theorem Ready.spaced (ready : Ready names t) : Spaced names t :=
  ⟨ready.checked, fun name member u _ => ready.standing name member u, ready.feeds⟩

theorem Ready.phrase (ready : Ready names t) (phrase : leads cs = true) :
    Ready names (t ++ Text.ofString (String.ofList cs)) := by
  refine ⟨ready.checked, fun name member u => ?_, leaves_reverse_of_leads phrase, ?_⟩
  · rw [List.append_assoc]
    exact ready.standing name member _
  · rw [mem_append_clean (not_mem_lineFeed_ofList (clean_of_leads phrase))]
    exact ready.feeds

theorem Ready.name (ready : Ready names t) (name : Name) :
    Spaced (names ++ [name.text]) (t ++ name.text) := by
  constructor
  · exact List.forall_mem_append.mpr
      ⟨ready.checked, List.forall_mem_singleton.mpr name.valid⟩
  · intro other member u leaves
    rcases List.mem_append.mp member with earlier | last
    · rw [List.append_assoc]
      exact ready.standing other earlier _
    · rw [List.mem_singleton.mp last]
      exact ⟨t, u, rfl, ready.border, leaves⟩
  · rw [List.mem_append, ready.feeds]
    simp only [List.mem_append, List.mem_singleton, or_and_right, exists_or, exists_eq_left]

theorem Spaced.ends (spaced : Spaced names t) (phrase : trails cs = true) :
    Spaced names (t ++ Text.ofString (String.ofList cs)) := by
  refine ⟨spaced.checked, fun name member u leaves => ?_, ?_⟩
  · rw [List.append_assoc]
    exact spaced.standing name member _ (leaves_append (leaves_of_trails phrase) leaves)
  · rw [mem_append_clean (not_mem_lineFeed_ofList (clean_of_trails phrase))]
    exact spaced.feeds

theorem Spaced.then_ (spaced : Spaced names t) (phrase : parts cs = true) :
    Ready names (t ++ Text.ofString (String.ofList cs)) := by
  obtain ⟨leads, trails⟩ := Bool.and_eq_true_iff.mp phrase
  refine ⟨spaced.checked, fun name member u => ?_, leaves_reverse_of_leads leads,
    (spaced.ends trails).feeds⟩
  rw [List.append_assoc]
  refine spaced.standing name member _ ?_
  have opens := leaves_of_trails trails
  cases cs with
  | nil => cases leads
  | cons c cs =>
    rw [Text.ofString, String.toList_ofList] at opens ⊢
    exact fun p first => opens p first

theorem Ready.around {name : Name} (ready : Ready names t) (phrase : parts cs = true) :
    Ready (names ++ [name.text]) (t ++ name.text ++ Text.ofString (String.ofList cs)) :=
  (ready.name name).then_ phrase

theorem Ready.last {name : Name} (ready : Ready names t) (phrase : trails cs = true) :
    Spaced (names ++ [name.text]) (t ++ name.text ++ Text.ofString (String.ofList cs)) :=
  (ready.name name).ends phrase

theorem Ready.text (ready : Ready names t) (clean : lineFeed ∉ u) : Spaced names (t ++ u) := by
  refine ⟨ready.checked, fun name member v _ => ?_, ?_⟩
  · rw [List.append_assoc]
    exact ready.standing name member _
  · rw [mem_append_clean clean]
    exact ready.feeds

theorem Ready.integer (ready : Ready names t) (n : Int) : Spaced names (t ++ Text.ofInt n) :=
  ready.text ((Text.over_ofInt n).not_mem (by decide))

theorem Spaced.congr {others : List Text} (spaced : Spaced names t)
    (same : names ⊆ others ∧ others ⊆ names) : Spaced others t := by
  refine ⟨fun name member => spaced.checked name (same.2 member),
    fun name member => spaced.standing name (same.2 member), spaced.feeds.trans ?_⟩
  constructor
  · rintro ⟨name, member, inside⟩
    exact ⟨name, same.1 member, inside⟩
  · rintro ⟨name, member, inside⟩
    exact ⟨name, same.2 member, inside⟩

end Phrase

section List

variable {names : List Text} {t : Text}

def Brings (own : List Text) (item : Text) : Prop :=
  ∀ (names : List Text) (t : Text), Ready names t → Spaced (names ++ own) (t ++ item)

theorem brings_name (name : Name) : Brings [name.text] name.text := fun _ _ ready => ready.name name

theorem Ready.join {cs : List Char} (between : parts cs = true) {written : List (List Text)}
    {ts : List Text} (all : List.Forall₂ Brings written ts) (full : ts ≠ []) (ready : Ready names t) :
    Spaced (names ++ written.flatten) (t ++ Text.join (Text.ofString (String.ofList cs)) ts) := by
  -- What is written before the rest makes it ready for the rest.
  induction all generalizing names t with
  | nil => exact absurd rfl full
  | @cons own item written ts first later ih =>
    have next := first names t ready
    cases later with
    | nil => simpa [Text.join] using next
    | cons _ _ =>
      have others := ih (List.cons_ne_nil _ _) (next.then_ between)
      simpa only [Text.join, List.flatten_cons, List.append_assoc] using others

theorem forall_brings_names (ns : List Name) :
    List.Forall₂ Brings (ns.map fun name => [name.text]) (ns.map (·.text)) := by
  induction ns with
  | nil => exact .nil
  | cons name _ ih => exact .cons (brings_name name) ih

theorem Ready.apply (ready : Ready names t) (a : Aggregate) (column : Name) :
    Ready (names ++ [column.text]) (t ++ a.apply column) := by
  cases a
  all_goals
    simp only [Aggregate.apply, ← List.append_assoc]
    exact (ready.phrase (by decide)).around (by decide)

theorem Column.brings_text (c : Column) : Brings [c.field.text, c.aliased.text] c.text := by
  intro names t ready
  have both : names ++ [c.field.text, c.aliased.text] =
      names ++ [c.field.text] ++ [c.aliased.text] := by simp
  rw [both, text]
  simp only [← List.append_assoc]
  exact ((ready.apply c.aggregate c.field).phrase (by decide)).name c.aliased

theorem Column.forall_brings_text {ops : List Operation} {columns : List Column}
    (compiled : List.Forall₂ Of ops columns) :
    List.Forall₂ Brings (ops.map fun op => [op.field, op.effectiveAlias]) (columns.map (·.text)) := by
  induction compiled with
  | nil => exact .nil
  | cons first _ ih =>
    obtain ⟨_, field, aliased⟩ := first
    rw [List.map_cons, ← field, ← aliased]
    exact .cons (brings_text _) ih

theorem Comparison.Of.brings {filter : Text × Datum} {c : Comparison} (compiled : Of filter c) :
    Brings [filter.1] c.text := by
  intro names t ready
  rcases compiled with ⟨column, _⟩ | ⟨column, _⟩
  · show Spaced (names ++ [column.text]) (t ++ (column.text ++ (" LIKE ?" : Text)))
    rw [← List.append_assoc]
    exact (ready.name column).ends (by decide)
  · show Spaced (names ++ [column.text]) (t ++ (column.text ++ (" = ?" : Text)))
    rw [← List.append_assoc]
    exact (ready.name column).ends (by decide)

theorem Comparison.forall_brings_text {filters : Filters} {comparisons : List Comparison}
    (compared : List.Forall₂ Of filters comparisons) :
    List.Forall₂ Brings (filters.map fun filter => [filter.1]) (comparisons.map (·.text)) := by
  induction compared with
  | nil => exact .nil
  | cons first _ ih => exact .cons first.brings ih

theorem flatten_singletons {α : Type} (f : α → Text) (items : List α) :
    (items.map fun a => [f a]).flatten = items.map f := by
  rw [← List.flatMap_def, ← List.map_eq_flatMap]

theorem Spaced.condition {filters : Filters} {comparisons : List Comparison}
    (spaced : Spaced names t) (compared : List.Forall₂ Comparison.Of filters comparisons) :
    Spaced (names ++ filters.map (·.1)) (t ++ (Condition.ofComparisons comparisons).text) := by
  have items := Comparison.forall_brings_text compared
  cases compared with
  | nil => simpa [Condition.ofComparisons] using spaced
  | cons first rest =>
    have joined := Ready.join (by decide : parts " AND ".toList = true) items (List.cons_ne_nil _ _)
      (spaced.then_ (by decide : parts " WHERE ".toList = true))
    rw [flatten_singletons, List.append_assoc] at joined
    exact joined

theorem Spaced.grouping (spaced : Spaced names t) (groups : List Name) :
    Spaced (names ++ groups.map (·.text)) (t ++ groupingText (groups.map (·.text))) := by
  have items := forall_brings_names groups
  cases groups with
  | nil => simpa [groupingText] using spaced
  | cons first rest =>
    have joined := Ready.join (by decide : parts ", ".toList = true) items (List.cons_ne_nil _ _)
      (spaced.then_ (by decide : parts " GROUP BY ".toList = true))
    rw [flatten_singletons, List.append_assoc] at joined
    exact joined

theorem Spaced.limit (spaced : Spaced names t) {limit : Option Int} {u : Text}
    (written : limitText limit = .ok u) : Spaced names (t ++ u) := by
  cases limit with
  | none =>
    cases written
    rwa [List.append_nil]
  | some n =>
    obtain ⟨digits, number, rfl⟩ := map_eq_ok.mp written
    rw [number_eq_ok number, ← List.append_assoc]
    exact (spaced.then_ (by decide)).integer n

end List

section Statements

variable {table : Name}

theorem spaced_aggregation {r : AggregationRequest} {q : Query}
    (compiled : aggregation table.text r = .ok q) :
    Spaced (table.text :: (r.groupBy.getD [] ++
      r.operations.flatMap (fun op => [op.field, op.effectiveAlias]) ++
      (r.filters.getD []).map (·.1))) q.sql := by
  obtain ⟨s, parts, rfl⟩ := aggregation_eq_ok.mp compiled
  have items := List.rel_append (forall_brings_names s.groups) (Column.forall_brings_text parts.columns)
  have full : s.groups.map (·.text) ++ s.columns.map (·.text) ≠ [] := by
    intro empty
    have none_selected := List.map_eq_nil_iff.mp (List.append_eq_nil_iff.mp empty).2
    have compiled := parts.columns
    rw [none_selected, List.forall₂_nil_right_iff] at compiled
    exact parts.operations compiled
  have selected : Ready _ (("SELECT " : Text) ++
      commaList (s.groups.map (·.text) ++ s.columns.map (·.text)) ++ " FROM ") :=
    (Ready.join (by decide : Sql.parts ", ".toList = true) items full (.start (by decide))).then_
      (by decide)
  have whole : Spaced _ (s.query table.text).sql :=
    (((selected.name table).condition parts.comparisons).grouping s.groups).limit parts.limit
  have groups : (s.groups.map fun name => [name.text]).flatten = r.groupBy.getD [] := by
    rw [flatten_singletons, parts.groups]
  rw [List.flatten_append, groups, parts.groups, ← List.flatMap_def] at whole
  refine whole.congr ⟨fun name member => ?_, fun name member => ?_⟩
  all_goals grind

theorem spaced_statistics {column : Datum} {q : Query}
    (compiled : statistics table.text column = .ok q) :
    Spaced (table.text :: column.texts) q.sql := by
  obtain ⟨name, checked, same⟩ := bind_eq_ok.mp compiled
  rw [← Except.ok.inj same, Name.ofDatum_eq_ok.mp checked]
  apply Spaced.congr
  case spaced =>
    apply Ready.last
    case phrase => decide
    iterate 9
      apply Ready.around
      case phrase => decide
    exact .start (by decide)
  case same => simp [Datum.texts]

theorem spaced_timeSeries {r : TimeSeriesRequest} {q : Query}
    (compiled : timeSeries table.text r = .ok q) :
    Spaced [table.text, r.timeColumn, r.valueColumn] q.sql := by
  unfold timeSeries at compiled
  cases known : Interval.ofName? r.interval with
  | none => rw [known] at compiled; cases compiled
  | some i =>
    cases function : seriesAggregate? r.aggregate with
    | none => rw [known, function] at compiled; cases compiled
    | some a =>
      rw [known, function] at compiled
      obtain ⟨time, timed, compiled⟩ := bind_eq_ok.mp compiled
      obtain ⟨value, valued, same⟩ := bind_eq_ok.mp compiled
      rw [← Except.ok.inj same, ← Name.ofText_eq_ok.mp timed, ← Name.ofText_eq_ok.mp valued]
      have period {names : List Text} {t : Text} (ready : Ready names t) : Ready
          (names ++ [time.text]) (t ++ (("date_trunc('" : Text) ++ i.name ++ "', " ++ time.text ++ ")")) := by
        have clean : lineFeed ∉ i.name := by cases i <;> decide
        simp only [← List.append_assoc]
        apply Ready.around
        case phrase => decide
        apply Spaced.then_
        case phrase => decide
        exact (ready.phrase (by decide)).text clean
      apply Spaced.congr
      case spaced =>
        apply Spaced.ends
        case phrase => decide
        apply Ready.spaced
        apply period
        iterate 3
          apply Ready.around
          case phrase => decide
        apply Ready.phrase
        case phrase => decide
        apply Ready.apply
        apply Ready.phrase
        case phrase => decide
        apply period
        exact .start (by decide)
      case same => simp

theorem spaced_outliers {r : OutlierRequest} {q : Query}
    (compiled : outliers table.text r = .ok q) : Spaced [table.text, r.column] q.sql := by
  obtain ⟨c, named, compiled⟩ := bind_eq_ok.mp compiled
  rw [← Name.ofText_eq_ok.mp named]
  cases method : OutlierMethod.ofName? r.method with
  | none => rw [method] at compiled; cases compiled
  | some m =>
    rw [method] at compiled
    cases m with
    | interquartile =>
      rw [← Except.ok.inj compiled]
      apply Spaced.congr
      case spaced =>
        apply Ready.last
        case phrase => decide
        iterate 2
          apply Ready.around
          case phrase => decide
        apply Ready.phrase
        case phrase => decide
        iterate 4
          apply Ready.around
          case phrase => decide
        exact .start (by decide)
      case same => simp
    | standardScore =>
      rw [← Except.ok.inj compiled]
      have score {names : List Text} {t : Text} (ready : Ready names t) : Ready
          (names ++ [c.text]) (t ++ (("ABS((" : Text) ++ c.text ++
            (" - stats.mean) / stats.std_dev)" : Text))) := by
        simp only [← List.append_assoc]
        exact (ready.phrase (by decide)).around (by decide)
      apply Spaced.congr
      case spaced =>
        apply Spaced.ends
        case phrase => decide
        apply Ready.spaced
        apply score
        apply Ready.around
        case phrase => decide
        apply Ready.phrase
        case phrase => decide
        apply score
        iterate 4
          apply Ready.around
          case phrase => decide
        exact .start (by decide)
      case same => simp

theorem spaced_correlation (first second : Name) :
    Spaced [table.text, first.text, second.text] (correlation table.text first second).sql := by
  apply Spaced.congr
  case spaced =>
    apply Ready.last
    case phrase => decide
    iterate 4
      apply Ready.around
      case phrase => decide
    exact .start (by decide)
  case same => simp

theorem spaced_movingAverage {r : MovingAverageRequest} {q : Query}
    (compiled : movingAverage table.text r = .ok q) :
    Spaced [table.text, r.valueColumn, r.orderColumn] q.sql := by
  obtain ⟨value, valued, compiled⟩ := bind_eq_ok.mp compiled
  obtain ⟨order, ordered, compiled⟩ := bind_eq_ok.mp compiled
  obtain ⟨preceding, written, same⟩ := bind_eq_ok.mp compiled
  rw [← Except.ok.inj same, number_eq_ok written, ← Name.ofText_eq_ok.mp valued,
    ← Name.ofText_eq_ok.mp ordered]
  apply Spaced.congr
  case spaced =>
    apply Ready.name
    apply Ready.around
    case phrase => decide
    apply Spaced.then_
    case phrase => decide
    apply Ready.integer
    iterate 2
      apply Ready.around
      case phrase => decide
    exact .start (by decide)
  case same => simp

theorem spaced_preview {r : PreviewRequest} {limit : Int} {q : Query}
    (compiled : preview table.text r limit = .ok q) :
    Spaced (table.text :: (r.filters.getD []).map (·.1)) q.sql := by
  obtain ⟨condition, filtered, compiled⟩ := bind_eq_ok.mp compiled
  obtain ⟨count, counted, compiled⟩ := bind_eq_ok.mp compiled
  obtain ⟨offset, skipped, same⟩ := bind_eq_ok.mp compiled
  obtain ⟨comparisons, compared, rfl⟩ := Condition.ofFilters_eq_ok.mp filtered
  rw [← Except.ok.inj same, number_eq_ok counted, number_eq_ok skipped]
  apply Ready.integer
  apply Spaced.then_
  case phrase => decide
  apply Ready.integer
  apply Spaced.then_
  case phrase => decide
  exact (Ready.name (.start (by decide)) table).condition compared

theorem spaced_rowCount : Spaced [table.text] (rowCount table.text).sql :=
  Ready.name (.start (by decide)) table

theorem spaced_describe : Spaced [] (describe table.text).sql :=
  (Ready.start (by decide)).text (by decide)

theorem spaced_listTables : Spaced [] listTables.sql :=
  (Ready.start (by decide)).text (by decide)

theorem spaced_nullProfile {column : Datum} {q : Query}
    (compiled : nullProfile table.text column = .ok q) :
    Spaced (table.text :: column.texts) q.sql := by
  obtain ⟨name, checked, same⟩ := bind_eq_ok.mp compiled
  rw [← Except.ok.inj same, Name.ofDatum_eq_ok.mp checked]
  apply Spaced.congr
  case spaced =>
    apply Ready.name
    iterate 4
      apply Ready.around
      case phrase => decide
    exact .start (by decide)
  case same => simp [Datum.texts]

theorem spaced_correlations {given : List Datum} {queries : List Query}
    (compiled : (Inquiry.correlations given).queries table.text = .ok queries) :
    List.Forall₂ (fun names q => Spaced names q.sql)
      ((Inquiry.correlations given).names table.text) queries := by
  obtain ⟨pairs, paired, rfl⟩ := map_eq_ok.mp compiled
  obtain ⟨columns, checked, same⟩ := bind_eq_ok.mp paired
  have spelled : List.Forall₂ (fun d name => Name.ofDatum "column" d = .ok name) given columns :=
    mapM_eq_ok.mp checked
  rw [← Except.ok.inj same]
  simp only [Inquiry.names, List.map_flatMap, List.map_map]
  refine List.rel_flatMap spelled fun d first one => List.rel_map (fun e second other => ?_) spelled
  rw [Name.ofDatum_eq_ok.mp one, Name.ofDatum_eq_ok.mp other]
  exact spaced_correlation first second

theorem Inquiry.spaced {inquiry : Inquiry} {queries : List Query}
    (compiled : inquiry.queries table.text = .ok queries) :
    List.Forall₂ (fun names q => Spaced names q.sql) (inquiry.names table.text) queries := by
  cases inquiry with
  | correlations given => exact spaced_correlations compiled
  | rowCount =>
    rw [← Except.ok.inj compiled]
    exact .cons spaced_rowCount .nil
  | columns =>
    rw [← Except.ok.inj compiled]
    exact .cons spaced_describe .nil
  | tables =>
    rw [← Except.ok.inj compiled]
    exact .cons spaced_listTables .nil
  | aggregation r =>
    obtain ⟨q, written, rfl⟩ := map_eq_ok.mp compiled
    exact .cons (spaced_aggregation written) .nil
  | statistics column =>
    obtain ⟨q, written, rfl⟩ := map_eq_ok.mp compiled
    exact .cons (spaced_statistics written) .nil
  | timeSeries r =>
    obtain ⟨q, written, rfl⟩ := map_eq_ok.mp compiled
    exact .cons (spaced_timeSeries written) .nil
  | outliers r =>
    obtain ⟨q, written, rfl⟩ := map_eq_ok.mp compiled
    exact .cons (spaced_outliers written) .nil
  | movingAverage r =>
    obtain ⟨q, written, rfl⟩ := map_eq_ok.mp compiled
    exact .cons (spaced_movingAverage written) .nil
  | preview r limit =>
    obtain ⟨q, written, rfl⟩ := map_eq_ok.mp compiled
    exact .cons (spaced_preview written) .nil
  | profile column =>
    obtain ⟨q, written, rfl⟩ := map_eq_ok.mp compiled
    exact .cons (spaced_nullProfile written) .nil

end Statements

/-- Every text that is accepted as a name, every table of a data source, and every name in a compiled
    statement is a word but for a line feed, and so are the name that the catalog is asked for and the
    names that results are looked up by. In the statements they stand by themselves, and without a line
    feed in a name there is none. -/
theorem names_near_words (role : Text) (d : Datum) (source : Text) (table : Name)
    (inquiry : Inquiry) :
    ((∃ name, Name.ofDatum role d = .ok name) ↔ ∃ w t, Bears w t ∧ d = .text t) ∧
    (∀ name, Name.ofDatum role d = .ok name → d = .text name.text ∧ NearWord name.text) ∧
    (∀ named, tableName source = .ok named →
      NearWord named.text ∧ (lineFeed ∈ named.text ↔ lineFeed ∈ source)) ∧
    (∀ queries, inquiry.queries table.text = .ok queries →
      List.Forall₂ (fun names q => (∀ name ∈ names, NearWord name ∧ Standing name q.sql) ∧
        (lineFeed ∈ q.sql ↔ ∃ name ∈ names, lineFeed ∈ name)) (inquiry.names table.text) queries) ∧
    (NearWord table.text ∧ (describe table.text).params = [.text table.text]) ∧
    (∀ r q, aggregation table.text r = .ok q → ∀ op ∈ r.operations,
      NearWord op.effectiveAlias ∧ Standing op.effectiveAlias q.sql) ∧
    ∀ given pairs, correlationPairs table.text given = .ok pairs → ∀ pair ∈ pairs,
      ∀ key ∈ [pair.1.text, pair.2.1.text], NearWord key ∧ Standing key pair.2.2.sql := by
  have whole {names : List Text} {t : Text} (spaced : Spaced names t) :
      ∀ name ∈ names, NearWord name ∧ Standing name t := by
    intro name member
    have standing := spaced.standing name member [] nofun
    rw [List.append_nil] at standing
    exact ⟨nearWord_of_isName (spaced.checked name member), standing⟩
  refine ⟨Name.exists_ofDatum_iff, fun name accepted => ?_, fun named compiled => ?_,
    fun queries compiled => ?_, ?_, fun r q compiled op member => ?_,
    fun given pairs compiled pair member => ?_⟩
  · exact ⟨Name.ofDatum_eq_ok.mp accepted, nearWord_of_isName name.valid⟩
  · exact ⟨nearWord_of_isName named.valid, mem_lineFeed_tableName_iff compiled⟩
  · exact (Inquiry.spaced compiled).imp fun names q spaced => ⟨whole spaced, spaced.feeds⟩
  · exact ⟨nearWord_of_isName table.valid, rfl⟩
  · refine whole (spaced_aggregation compiled) _ (List.mem_cons_of_mem _ ?_)
    refine List.mem_append_left _ (List.mem_append_right _ ?_)
    exact List.mem_flatMap.mpr ⟨op, member, by simp⟩
  · obtain ⟨columns, -, same⟩ := bind_eq_ok.mp compiled
    rw [← Except.ok.inj same] at member
    obtain ⟨first, -, paired⟩ := List.mem_flatMap.mp member
    obtain ⟨second, -, rfl⟩ := List.mem_map.mp paired
    exact fun key member => whole (spaced_correlation first second) key (List.mem_cons_of_mem _ member)

theorem names_near_words_total :
    ∃ called table : Name, Name.ofDatum "alias" (.text "total") = .ok called ∧ IsWord called.text ∧
      tableName "a-b" = .ok table ∧ IsWord table.text ∧
      Inquiry.rowCount.queries table.text = .ok [rowCount table.text] ∧
      Standing table.text (rowCount table.text).sql := by
  obtain ⟨-, accepted, tables, statements, -⟩ :=
    names_near_words "alias" (.text "total") "a-b" ⟨"data_source_a_b", by decide⟩ .rowCount
  have named : tableName "a-b" = .ok ⟨"data_source_a_b", by decide⟩ := rfl
  obtain ⟨own, -⟩ := tables _ named
  obtain ⟨-, total⟩ := accepted ⟨"total", by decide⟩ rfl
  obtain ⟨written, -⟩ := List.forall₂_cons.mp (statements _ rfl)
  obtain ⟨-, standing⟩ := written.1 "data_source_a_b" (by simp)
  exact ⟨⟨"total", by decide⟩, ⟨"data_source_a_b", by decide⟩, rfl, total.word.mpr (by decide), named,
    own.word.mpr (by decide), rfl, standing⟩

/-- A letter and a line feed are accepted. -/
theorem lineFeed_accepted :
    ¬ ∀ role t name, Name.ofDatum role (.text t) = .ok name → IsWord name.text := by
  intro always
  have accepted : Name.ofDatum "identifier" (.text "a\n") = .ok ⟨"a\n", by decide⟩ := rfl
  have word := always _ _ _ accepted
  exact word.not_mem_lineFeed (by decide)

end Sql

end QueryDesk
