import QueryDesk.Failure
import QueryDesk.Proofs.Sql.Reading

namespace QueryDesk

open Sql (isName Name Aggregate Column Comparison Condition Selection)

inductive Called : Text → Text → Text → Prop
  | sum (column) : Called "sum" column (("SUM(" : Text) ++ column ++ ")")
  | avg (column) : Called "avg" column (("AVG(" : Text) ++ column ++ ")")
  | count (column) : Called "count" column (("COUNT(" : Text) ++ column ++ ")")
  | min (column) : Called "min" column (("MIN(" : Text) ++ column ++ ")")
  | max (column) : Called "max" column (("MAX(" : Text) ++ column ++ ")")
  | distinctCount (column) :
    Called "distinct_count" column (("COUNT(DISTINCT " : Text) ++ column ++ ")")

structure Operation.WellFormed (op : Operation) : Prop where
  known : ∃ call, Called op.aggregate op.field call
  field : isName op.field = true
  named : ∀ given, op.givenAlias = some given → isName given = true

def Operation.Selects (op : Operation) (column : Text) : Prop :=
  ∃ call, Called op.aggregate op.field call ∧ column = call ++ " AS " ++ op.effectiveAlias

structure Comparable (filter : Text × Datum) : Prop where
  named : isName filter.1 = true
  value : (∃ t, filter.2 = .text t) ∨ filter.2.IsNumber

structure Unshown (filter : Text × Datum) : Prop where
  named : isName filter.1 = true
  value : ¬ ((∃ t, filter.2 = .text t) ∨ filter.2.IsNumber)
  long : ∃ n, filter.2.Holds n ∧ ¬ Whole.Writable n

inductive Compared : Text × Datum → Text → Prop
  | text (column t) : Compared (column, .text t) (column ++ " LIKE ?")
  | number (column) {d} (number : d.IsNumber) : Compared (column, d) (column ++ " = ?")

inductive Listed (separator : Text) : List Text → Text → Prop
  | one (part) : Listed separator [part] part
  | more (part) {parts rest} (others : Listed separator parts rest) :
    Listed separator (part :: parts) (part ++ separator ++ rest)

inductive Phrase (opening separator : Text) : List Text → Text → Prop
  | absent : Phrase opening separator [] []
  | present {parts text} (listed : Listed separator parts text) :
    Phrase opening separator parts (opening ++ text)

namespace AggregationRequest

structure Selective (r : AggregationRequest) : Prop where
  operations : r.operations ≠ []
  columns : ∀ op ∈ r.operations, op.WellFormed
  groups : ∀ group ∈ r.groupBy.getD [], isName group = true

structure WellFormed (r : AggregationRequest) : Prop extends r.Selective where
  filters : ∀ filter ∈ r.filters.getD [], Comparable filter

/-- The first thing wrong with a request is a filter that cannot be shown. -/
structure Unshowable (r : AggregationRequest) : Prop extends r.Selective where
  filters : ∃ earlier filter later, r.filters.getD [] = earlier ++ filter :: later ∧
    (∀ before ∈ earlier, Comparable before) ∧ Unshown filter

/-- The limit of a request is absent, or is an integer that is written. -/
def Writable (r : AggregationRequest) : Prop := ∀ n, r.limit = some n → Whole.Writable n

def Written (r : AggregationRequest) (table sql : Text) : Prop :=
  ∃ columns conditions selected restricted grouped,
    List.Forall₂ Operation.Selects r.operations columns ∧
    List.Forall₂ Compared (r.filters.getD []) conditions ∧
    Listed ", " (r.groupBy.getD [] ++ columns) selected ∧
    Phrase " WHERE " " AND " conditions restricted ∧
    Phrase " GROUP BY " ", " (r.groupBy.getD []) grouped ∧
    sql = ("SELECT " : Text) ++ selected ++ " FROM " ++ table ++ restricted ++ grouped ++
      (r.limit.map fun n => (" LIMIT " : Text) ++ Text.ofInt n).getD []

end AggregationRequest

theorem Listed.join {separator : Text} {parts : List Text} (some_part : parts ≠ []) :
    Listed separator parts (Text.join separator parts) := by
  induction parts with
  | nil => exact absurd rfl some_part
  | cons part rest ih =>
    cases rest with
    | nil => exact .one part
    | cons next rest => exact .more part (ih (List.cons_ne_nil next rest))

theorem isName_default {name column : Text} {a : Aggregate} (known : Aggregate.ofName? name = some a)
    (named : isName column = true) : isName (name ++ "_" ++ column) = true := by
  have letters : ∃ (p : Point) (rest : Text), name ++ Text.ofString "_" = p :: rest ∧
      p.satisfies Sql.isNameStart = true ∧ rest.all (·.satisfies Sql.isNameChar) = true := by
    rw [← Sql.Aggregate.name_of_ofName? known]
    cases a <;> exact ⟨_, _, rfl, by decide, by decide⟩
  obtain ⟨p, rest, same, first, others⟩ := letters
  rw [same]
  have ends : Sql.isNameRest (rest ++ column) = true :=
    (Sql.isNameRest_append (List.all_eq_true.mp others)).trans (Sql.isNameRest_of_isName named)
  exact Bool.and_eq_true_iff.mpr ⟨first, ends⟩

theorem called_iff {name : Text} {column : Name} {t : Text} :
    Called name column.text t ↔ ∃ a, Aggregate.ofName? name = some a ∧ t = a.apply column := by
  constructor
  · generalize same : column.text = c
    intro called
    subst same
    cases called with
    | sum => exact ⟨.sum, by decide, rfl⟩
    | avg => exact ⟨.avg, by decide, rfl⟩
    | count => exact ⟨.count, by decide, rfl⟩
    | min => exact ⟨.min, by decide, rfl⟩
    | max => exact ⟨.max, by decide, rfl⟩
    | distinctCount => exact ⟨.distinctCount, by decide, rfl⟩
  · rintro ⟨a, known, rfl⟩
    rw [← Sql.Aggregate.name_of_ofName? known]
    cases a with
    | sum => exact .sum _
    | avg => exact .avg _
    | count => exact .count _
    | min => exact .min _
    | max => exact .max _
    | distinctCount => exact .distinctCount _

theorem isName_iff (role : Text) {t : Text} :
    isName t = true ↔ ∃ name, Name.ofText role t = .ok name := by
  constructor
  · intro valid
    exact ⟨⟨t, valid⟩, Name.ofText_eq_ok.mpr rfl⟩
  · rintro ⟨name, checked⟩
    rw [← Name.ofText_eq_ok.mp checked]
    exact name.valid

namespace Operation

variable {op : Operation}

theorem Selects.of {c : Column} (compiled : Column.Of op c) : op.Selects c.text := by
  obtain ⟨known, field, aliased⟩ := compiled
  refine ⟨c.aggregate.apply c.field, ?_, ?_⟩
  · rw [← field]
    exact called_iff.mpr ⟨_, known, rfl⟩
  · rw [Column.text, aliased]

theorem wellFormed_iff : op.WellFormed ↔ ∃ t, Sql.operationColumn op = .ok t := by
  constructor
  · rintro ⟨⟨call, called⟩, field, named⟩
    let column : Name := ⟨op.field, field⟩
    have applied : Called op.aggregate column.text call := called
    obtain ⟨a, known, -⟩ := called_iff.mp applied
    have aliased : isName op.effectiveAlias = true := by
      cases given : op.givenAlias with
      | none =>
        rw [effectiveAlias, given]
        exact isName_default known field
      | some name =>
        rw [effectiveAlias, given]
        exact named name given
    exact ⟨_, Sql.operationColumn_eq_ok.mpr
      ⟨⟨a, ⟨op.field, field⟩, ⟨op.effectiveAlias, aliased⟩⟩, ⟨known, rfl, rfl⟩, rfl⟩⟩
  · rintro ⟨t, compiled⟩
    obtain ⟨c, ⟨known, field, aliased⟩, -⟩ := Sql.operationColumn_eq_ok.mp compiled
    refine ⟨⟨_, field ▸ called_iff.mpr ⟨c.aggregate, known, rfl⟩⟩, field ▸ c.field.valid, ?_⟩
    intro given own
    have same : c.aliased.text = given := by rw [aliased, effectiveAlias, own, Option.getD_some]
    exact same ▸ c.aliased.valid

end Operation

theorem Compared.of {filter : Text × Datum} {c : Comparison} (compiled : Comparison.Of filter c) :
    Compared filter c.text := by
  cases compiled with
  | like column t => exact .text column.text t
  | equal column number => exact .number column.text number

theorem comparable_iff {filter : Text × Datum} :
    Comparable filter ↔ ∃ c, Comparison.ofFilter filter = .ok c := by
  obtain ⟨column, value⟩ := filter
  constructor
  · rintro ⟨named, ⟨t, rfl⟩ | number⟩
    · exact ⟨_, Sql.Comparison.ofFilter_eq_ok.mpr (.like ⟨column, named⟩ t)⟩
    · exact ⟨_, Sql.Comparison.ofFilter_eq_ok.mpr (.equal ⟨column, named⟩ number)⟩
  · rintro ⟨c, compiled⟩
    cases Sql.Comparison.ofFilter_eq_ok.mp compiled with
    | like column t => exact ⟨column.valid, .inl ⟨t, rfl⟩⟩
    | equal column number => exact ⟨column.valid, .inr number⟩

theorem ofFilter_of_named (column : Name) {value : Datum}
    (incomparable : ¬ ((∃ t, value = .text t) ∨ value.IsNumber)) :
    Comparison.ofFilter (column.text, value) =
      .error (.showing value (.filterValue column.text value)) := by
  refine (congrArg (· >>= _) (Sql.Name.ofText_eq_ok.mpr rfl)).trans ?_
  cases value with
  | text t => exact absurd (.inl ⟨t, rfl⟩) incomparable
  | int n => exact absurd (.inr (.int n)) incomparable
  | float x => exact absurd (.inr (.float x)) incomparable
  | _ => rfl

theorem unshown_iff {filter : Text × Datum} :
    Unshown filter ↔ Comparison.ofFilter filter = .error .unwritableNumber := by
  obtain ⟨column, value⟩ := filter
  have shown : value.isWritable = true ↔ ¬ ∃ n, value.Holds n ∧ ¬ Whole.Writable n := by
    simp only [Datum.isWritable_iff, not_exists, not_and, not_not]
  constructor
  · rintro ⟨named, incomparable, long⟩
    have unprinted : ¬ value.isWritable = true := fun writable => shown.mp writable long
    refine (ofFilter_of_named ⟨column, named⟩ incomparable).trans ?_
    exact congrArg _ (if_neg unprinted)
  · intro failed
    cases checked : Name.ofText "filter field" column with
    | error fault =>
      rw [Comparison.ofFilter, checked, Sql.Name.eq_of_ofText_eq_error checked] at failed
      cases failed
    | ok name =>
      obtain rfl := Sql.Name.ofText_eq_ok.mp checked
      have incomparable : ¬ ((∃ t, value = .text t) ∨ value.IsNumber) := by
        intro given
        have comparable : Comparable (name.text, value) := ⟨name.valid, given⟩
        obtain ⟨c, compiled⟩ := comparable_iff.mp comparable
        rw [compiled] at failed
        cases failed
      refine ⟨name.valid, incomparable, ?_⟩
      by_contra none
      rw [ofFilter_of_named name incomparable, RequestFault.showing, if_pos (shown.mpr none)] at failed
      cases failed

namespace AggregationRequest

variable {r : AggregationRequest}

theorem exists_limitText (writable : r.Writable) : Sql.limitText r.limit =
    .ok ((r.limit.map fun n => (" LIMIT " : Text) ++ Text.ofInt n).getD []) := by
  cases limit : r.limit with
  | none => rfl
  | some n =>
    have digits : Sql.number n = .ok (Text.ofInt n) := if_pos (writable n limit)
    simp only [Sql.limitText, digits]
    rfl

theorem selective_iff : r.Selective ↔ r.operations ≠ [] ∧
    (∃ names, (r.groupBy.getD []).mapM (Name.ofText "group_by field") = .ok names) ∧
    ∃ columns, r.operations.mapM Sql.operationColumn = .ok columns := by
  simp only [exists_mapM_iff, ← isName_iff, ← Operation.wellFormed_iff]
  constructor
  · exact fun ⟨operations, columns, groups⟩ => ⟨operations, groups, columns⟩
  · exact fun ⟨operations, groups, columns⟩ => ⟨operations, columns, groups⟩

theorem wellFormed_iff (writable : r.Writable) (table : Text) :
    r.WellFormed ↔ ∃ q, Sql.aggregation table r = .ok q := by
  constructor
  · rintro ⟨selective, filters⟩
    obtain ⟨operations, ⟨names, grouped⟩, ⟨texts, selected⟩⟩ := selective_iff.mp selective
    obtain ⟨columns, all, -⟩ := Sql.mapM_operationColumn_eq_ok.mp selected
    obtain ⟨comparisons, compared⟩ := exists_mapM_iff.mpr fun filter member =>
      comparable_iff.mp (filters filter member)
    have conditions := (mapM_eq_ok.mp compared).imp fun _ _ => Sql.Comparison.ofFilter_eq_ok.mp
    exact ⟨_, Sql.aggregation_eq_ok.mpr ⟨⟨names, columns, comparisons, _⟩, ⟨operations,
      Sql.Name.mapM_ofText_eq_ok.mp grouped, all, conditions, exists_limitText writable⟩, rfl⟩⟩
  · rintro ⟨q, compiled⟩
    obtain ⟨s, parts, -⟩ := Sql.aggregation_eq_ok.mp compiled
    have selected := Sql.mapM_operationColumn_eq_ok.mpr ⟨s.columns, parts.columns, rfl⟩
    have compared := mapM_eq_ok.mpr
      (parts.comparisons.imp fun _ _ => Sql.Comparison.ofFilter_eq_ok.mpr)
    refine ⟨selective_iff.mpr ⟨parts.operations, ⟨_, Sql.Name.mapM_ofText_eq_ok.mpr parts.groups⟩,
      ⟨_, selected⟩⟩, ?_⟩
    exact fun filter member => comparable_iff.mpr (exists_mapM_iff.mp ⟨_, compared⟩ filter member)

theorem written_of_ok {table : Text} {q : Sql.Query} (writable : r.Writable)
    (compiled : Sql.aggregation table r = .ok q) : r.Written table q.sql := by
  obtain ⟨s, parts, rfl⟩ := Sql.aggregation_eq_ok.mp compiled
  have some_part : s.groups.map (·.text) ++ s.columns.map (·.text) ≠ [] := by
    intro none
    have columns : s.columns = [] := List.map_eq_nil_iff.mp (List.append_eq_nil_iff.mp none).2
    exact parts.operations (List.forall₂_nil_right_iff.mp (columns ▸ parts.columns))
  have limit := Except.ok.inj (parts.limit.symm.trans (exists_limitText writable))
  have restricted (comparisons : List Comparison) : Phrase " WHERE " " AND "
      (comparisons.map (·.text)) (Condition.ofComparisons comparisons).text := by
    cases comparisons with
    | nil => exact .absent
    | cons c rest => exact .present (.join (List.cons_ne_nil _ _))
  have selected : Listed ", " _ _ := .join some_part
  rw [parts.groups] at selected
  have grouped (groups : List Text) : Phrase " GROUP BY " ", " groups (Sql.groupingText groups) := by
    cases groups with
    | nil => exact .absent
    | cons group rest => exact .present (.join (List.cons_ne_nil _ _))
  refine ⟨s.columns.map (·.text), s.comparisons.map (·.text), _, _, _, ?_, ?_,
    selected, restricted s.comparisons, grouped _, ?_⟩
  · exact List.forall₂_map_right_iff.mpr (parts.columns.imp fun _ _ => Operation.Selects.of)
  · exact List.forall₂_map_right_iff.mpr (parts.comparisons.imp fun _ _ => Compared.of)
  · simp only [Selection.query, Sql.commaList, parts.groups, limit]

abbrev Fits {α : Type} : Except RequestFault α → Prop :=
  Ends (· ≠ RequestFault.unwritableNumber) fun _ => True

theorem fits_name (role t : Text) : Fits (Name.ofText role t) := by
  cases checked : Name.ofText role t with
  | ok name => trivial
  | error fault =>
    rw [Sql.Name.eq_of_ofText_eq_error checked]
    exact nofun

theorem fits_column (op : Operation) : Fits (Sql.operationColumn op) := by
  refine (fits_name "alias" op.effectiveAlias).bind fun name _ => ?_
  have expression : Fits (Sql.operationExpression op) := by
    unfold Sql.operationExpression
    split
    · exact nofun
    · exact (fits_name "field" op.field).bind fun _ _ => trivial
  exact expression.bind fun _ _ => trivial

theorem unshowable_iff (writable : r.Writable) (table : Text) :
    r.Unshowable ↔ Sql.aggregation table r = .error .unwritableNumber := by
  constructor
  · rintro ⟨selective, earlier, filter, later, split, sound, unshown⟩
    obtain ⟨operations, ⟨names, grouped⟩, ⟨columns, selected⟩⟩ := selective_iff.mp selective
    have failed : (r.filters.getD []).mapM Comparison.ofFilter = .error .unwritableNumber :=
      mapM_eq_error.mpr ⟨earlier, filter, later, split,
        fun before member => comparable_iff.mp (sound before member), unshown_iff.mp unshown⟩
    rw [Sql.aggregation_eq_bind operations, grouped, selected, Condition.ofFilters, failed]
    rfl
  · intro failed
    have operations : r.operations ≠ [] := by
      intro none
      unfold Sql.aggregation at failed
      rw [none] at failed
      cases failed
    rw [Sql.aggregation_eq_bind operations] at failed
    rcases bind_eq_error.mp failed with failed | ⟨names, grouped, failed⟩
    · exact absurd failed (Ends.ne_error (ends_mapM fun group _ => fits_name _ group))
    rcases bind_eq_error.mp failed with failed | ⟨columns, selected, failed⟩
    · exact absurd failed (Ends.ne_error (ends_mapM fun op _ => fits_column op))
    rcases bind_eq_error.mp failed with failed | ⟨condition, -, failed⟩
    · obtain ⟨earlier, filter, later, split, sound, first⟩ :=
        mapM_eq_error.mp (map_eq_error.mp failed)
      exact ⟨selective_iff.mpr ⟨operations, ⟨names, grouped⟩, ⟨columns, selected⟩⟩, earlier, filter,
        later, split, fun before member => comparable_iff.mpr (sound before member),
        unshown_iff.mpr first⟩
    · rw [exists_limitText writable] at failed
      cases failed

theorem Failure.ofRequest_error {α : Type} {fault : RequestFault} (other : fault ≠ .unwritableNumber) :
    Failure.ofRequest (.error fault : Except RequestFault α) = .error (.refused (.request fault)) := by
  cases fault with
  | unwritableNumber => exact absurd rfl other
  | _ => rfl

/-- A request, with a limit that is written if there is one, is compiled exactly if it is well formed.
    If it is not, then a fault of the request is reported, and nothing else unless the fault would have
    to show an integer that is too long. -/
theorem aggregation_accepted (table : Text) (r : AggregationRequest) (writable : r.Writable) :
    (r.WellFormed ↔ ∃ q, Failure.ofRequest (Sql.aggregation table r) = .ok q) ∧
    (¬ r.WellFormed → ¬ r.Unshowable → ∃ fault,
      Failure.ofRequest (Sql.aggregation table r) = .error (.refused (.request fault))) ∧
    (r.Unshowable ↔
      Failure.ofRequest (Sql.aggregation table r) = .error .unwritableNumber) ∧
    ∀ q, Failure.ofRequest (Sql.aggregation table r) = .ok q → r.Written table q.sql := by
  have formed := wellFormed_iff writable table
  have unshowable := unshowable_iff writable table
  cases compiled : Sql.aggregation table r with
  | ok q =>
    rw [compiled] at formed unshowable
    have all : r.WellFormed := formed.mpr ⟨q, rfl⟩
    refine ⟨iff_of_true all ⟨q, rfl⟩, fun malformed => absurd all malformed,
      iff_of_false (fun long => nomatch unshowable.mp long) nofun, ?_⟩
    rintro _ ⟨⟩
    exact written_of_ok writable compiled
  | error fault =>
    rw [compiled] at formed unshowable
    have malformed : ¬ r.WellFormed := fun all => nomatch formed.mp all
    by_cases long : fault = .unwritableNumber
    · subst long
      have first : r.Unshowable := unshowable.mpr rfl
      exact ⟨iff_of_false malformed nofun, fun _ shown => absurd first shown,
        iff_of_true first rfl, nofun⟩
    · rw [Failure.ofRequest_error long]
      exact ⟨iff_of_false malformed nofun, fun _ _ => ⟨fault, rfl⟩,
        iff_of_false (fun first => long (Except.error.inj (unshowable.mp first))) nofun, nofun⟩

theorem aggregation_accepted_average :
    let op : Operation := ⟨"value", "avg", none⟩
    let r : AggregationRequest := ⟨"a", [op], some ["region"], some [("kind", .int 1)], some 10, none⟩
    r.Writable ∧ r.WellFormed ∧
      ∃ q, Failure.ofRequest (Sql.aggregation "t" r) = .ok q ∧ r.Written "t" q.sql ∧
        q.sql = ("SELECT region, AVG(value) AS avg_value FROM t WHERE kind = ? " : Text) ++
          "GROUP BY region LIMIT 10" := by
  intro op r
  have writable : r.Writable := by
    rintro _ ⟨⟩
    exact Whole.writable_of_small (by decide)
  have formed : r.WellFormed := by
    refine ⟨⟨List.cons_ne_nil _ _, ?_, ?_⟩, ?_⟩
    · rintro op' member
      cases List.mem_singleton.mp member
      exact ⟨⟨_, .avg _⟩, by decide, nofun⟩
    · rintro group member
      cases List.mem_singleton.mp member
      decide
    · rintro filter member
      cases List.mem_singleton.mp member
      exact ⟨by decide, .inr (.int 1)⟩
  obtain ⟨accepted, -, -, written⟩ := aggregation_accepted "t" r writable
  obtain ⟨q, compiled⟩ := accepted.mp formed
  refine ⟨writable, formed, q, compiled, written q compiled, ?_⟩
  have text : (Failure.ofRequest (Sql.aggregation "t" r)).toOption.map (·.sql) =
      some (("SELECT region, AVG(value) AS avg_value FROM t WHERE kind = ? " : Text) ++
        "GROUP BY region LIMIT 10") := by decide +kernel
  rw [compiled] at text
  exact Option.some.inj text

/-- A list that holds such an integer is no value of a filter, but what is reported is the integer. -/
theorem aggregation_unshown : ¬ ∀ (table : Text) (r : AggregationRequest), r.Writable →
    ¬ r.WellFormed → ∃ fault,
      Failure.ofRequest (Sql.aggregation table r) = .error (.refused (.request fault)) := by
  intro refused
  let op : Operation := ⟨"value", "sum", none⟩
  obtain ⟨value, held⟩ : ∃ value, value = Datum.list [.int Whole.bound] := ⟨_, rfl⟩
  let r : AggregationRequest := ⟨"a", [op], none, some [("a", value)], none, none⟩
  have writable : r.Writable := nofun
  have incomparable : ¬ ((∃ t, value = .text t) ∨ value.IsNumber) := by
    rw [held]
    rintro (⟨_, ⟨⟩⟩ | ⟨⟨⟩⟩)
  have malformed : ¬ r.WellFormed := fun formed =>
    incomparable (formed.filters ("a", value) List.mem_cons_self).value
  have selective : r.Selective := by
    refine ⟨List.cons_ne_nil _ _, ?_, nofun⟩
    rintro op' member
    cases List.mem_singleton.mp member
    exact ⟨⟨_, .sum _⟩, by decide, nofun⟩
  have unshown : Unshown ("a", value) := ⟨rfl, incomparable, (Whole.bound : Int),
    held ▸ .list List.mem_cons_self .int, Whole.not_writable_bound⟩
  have first : r.Unshowable := ⟨selective, [], _, [], rfl, nofun, unshown⟩
  obtain ⟨fault, compiled⟩ := refused "t" r writable malformed
  rw [(unshowable_iff writable "t").mp first] at compiled
  cases compiled

end AggregationRequest

end QueryDesk
