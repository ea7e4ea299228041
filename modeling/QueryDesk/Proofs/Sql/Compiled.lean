import QueryDesk.Proofs.Datum.Printed
import QueryDesk.Proofs.Datum.Written
import QueryDesk.Proofs.Outcome
import QueryDesk.Sql.Table

namespace QueryDesk

inductive Datum.IsNumber : Datum → Prop where
  | int (n : Int) : IsNumber (.int n)
  | float (x : Binary64) : IsNumber (.float x)

namespace Sql

theorem Name.ofText_eq_ok {role t : Text} {name : Name} :
    Name.ofText role t = .ok name ↔ name.text = t := by
  unfold Name.ofText
  constructor
  · intro checked
    split at checked
    · cases checked
      rfl
    · cases checked
  · rintro rfl
    rw [dif_pos name.valid]

theorem Name.ofText_of_not_isName (role : Text) {t : Text} (invalid : isName t = false) :
    Name.ofText role t = .error (.invalidName role (.text t)) :=
  dif_neg (Bool.eq_false_iff.mp invalid)

theorem Name.eq_of_ofText_eq_error {role t : Text} {fault : RequestFault}
    (refused : Name.ofText role t = .error fault) : fault = .invalidName role (.text t) := by
  unfold Name.ofText at refused
  split at refused
  · cases refused
  · exact (Except.error.inj refused).symm

theorem Name.ofDatum_eq_ok {role : Text} {d : Datum} {name : Name} :
    Name.ofDatum role d = .ok name ↔ d = .text name.text := by
  cases d with
  | text t =>
    refine Name.ofText_eq_ok.trans ?_
    rw [Datum.text.injEq]
    exact eq_comm
  | _ =>
    constructor
    · intro checked
      cases checked
    · intro same
      cases same

theorem Name.mapM_ofText_eq_ok {role : Text} {ts : List Text} {names : List Name} :
    ts.mapM (Name.ofText role) = .ok names ↔ names.map (·.text) = ts := by
  rw [mapM_eq_ok]
  induction names generalizing ts with
  | nil => rw [List.forall₂_nil_right_iff, List.map_nil, eq_comm]
  | cons name rest ih =>
    rw [List.forall₂_cons_right_iff, List.map_cons]
    constructor
    · rintro ⟨t, ts, named, others, rfl⟩
      rw [ofText_eq_ok.mp named, ih.mp others]
    · rintro rfl
      exact ⟨_, _, ofText_eq_ok.mpr rfl, ih.mpr rfl, rfl⟩

theorem number_eq_ok {n : Int} {digits : Text} (written : number n = .ok digits) :
    digits = Text.ofInt n := by
  unfold number at written
  split at written
  · exact (Except.ok.inj written).symm
  · cases written

theorem number_of_small {n : Int} (small : n.natAbs ≤ Whole.longest) :
    number n = .ok (Text.ofInt n) :=
  if_pos (Whole.writable_of_small small)

inductive Comparison.Of : Text × Datum → Comparison → Prop where
  | like (column : Name) (t : Text) : Of (column.text, .text t) (.like column t)
  | equal (column : Name) {d : Datum} (number : d.IsNumber) : Of (column.text, d) (.equal column d)

theorem Comparison.ofFilter_eq_ok {filter : Text × Datum} {c : Comparison} :
    ofFilter filter = .ok c ↔ Of filter c := by
  obtain ⟨field, value⟩ := filter
  constructor
  · intro compiled
    obtain ⟨column, named, rest⟩ := bind_eq_ok.mp compiled
    have same := Name.ofText_eq_ok.mp named
    simp only at same
    subst same
    cases value with
    | text t => cases rest; exact .like column t
    | int n => cases rest; exact .equal column (.int n)
    | float x => cases rest; exact .equal column (.float x)
    | _ => cases rest
  · rintro (⟨column, t⟩ | ⟨column, ⟨n⟩ | ⟨x⟩⟩)
    all_goals
      refine bind_eq_ok.mpr ⟨column, Name.ofText_eq_ok.mpr rfl, rfl⟩

theorem Condition.ofFilters_eq_ok {filters : Filters} {condition : Condition} :
    ofFilters filters = .ok condition ↔
      ∃ comparisons, List.Forall₂ Comparison.Of filters comparisons ∧
        condition = ofComparisons comparisons := by
  unfold ofFilters
  rw [map_eq_ok]
  constructor
  · rintro ⟨comparisons, compiled, rfl⟩
    exact ⟨comparisons, (mapM_eq_ok.mp compiled).imp fun _ _ => Comparison.ofFilter_eq_ok.mp, rfl⟩
  · rintro ⟨comparisons, compiled, rfl⟩
    exact ⟨comparisons, mapM_eq_ok.mpr (compiled.imp fun _ _ => Comparison.ofFilter_eq_ok.mpr), rfl⟩

theorem Condition.params_ofComparisons (comparisons : List Comparison) :
    (ofComparisons comparisons).params = comparisons.map (·.param) := by
  cases comparisons <;> rfl

theorem Comparison.Of.isParam {filter : Text × Datum} {c : Comparison} (compiled : Of filter c) :
    c.param.IsParam := by
  rcases compiled with ⟨column, t⟩ | ⟨column, ⟨n⟩ | ⟨x⟩⟩
  · exact .text _
  · exact .int n
  · exact .float x

structure Column where
  aggregate : Aggregate
  field : Name
  aliased : Name

namespace Column

def text (c : Column) : Text := c.aggregate.apply c.field ++ " AS " ++ c.aliased.text

def Of (op : Operation) (c : Column) : Prop :=
  Aggregate.ofName? op.aggregate = some c.aggregate ∧ c.field.text = op.field ∧
    c.aliased.text = op.effectiveAlias

end Column

theorem operationColumn_eq_ok {op : Operation} {t : Text} :
    operationColumn op = .ok t ↔ ∃ c, Column.Of op c ∧ t = c.text := by
  unfold operationColumn operationExpression
  constructor
  · intro compiled
    obtain ⟨aliased, named, rest⟩ := bind_eq_ok.mp compiled
    obtain ⟨expression, applied, same⟩ := bind_eq_ok.mp rest
    cases known : Aggregate.ofName? op.aggregate with
    | none => rw [known] at applied; cases applied
    | some a =>
      rw [known] at applied
      obtain ⟨field, checked, rfl⟩ := map_eq_ok.mp applied
      exact ⟨⟨a, field, aliased⟩, ⟨known, Name.ofText_eq_ok.mp checked, Name.ofText_eq_ok.mp named⟩,
        (Except.ok.inj same).symm⟩
  · rintro ⟨⟨a, field, aliased⟩, ⟨known, checked, named⟩, rfl⟩
    rw [known]
    refine bind_eq_ok.mpr
      ⟨aliased, Name.ofText_eq_ok.mpr named, bind_eq_ok.mpr ⟨a.apply field, ?_, rfl⟩⟩
    exact map_eq_ok.mpr ⟨field, Name.ofText_eq_ok.mpr checked, rfl⟩

def limitText : Option Int → Except RequestFault Text
  | some n => (number n).map fun digits => (" LIMIT " : Text) ++ digits
  | none => .ok []

structure Selection where
  groups : List Name
  columns : List Column
  comparisons : List Comparison
  limit : Text

def groupingText (groups : List Text) : Text :=
  if groups.isEmpty then [] else (" GROUP BY " : Text) ++ commaList groups

namespace Selection

def query (s : Selection) (table : Text) : Query :=
  ⟨("SELECT " : Text) ++ commaList (s.groups.map (·.text) ++ s.columns.map (·.text)) ++ " FROM " ++
    table ++ (Condition.ofComparisons s.comparisons).text ++ groupingText (s.groups.map (·.text)) ++
    s.limit,
    (Condition.ofComparisons s.comparisons).params⟩

structure Of (r : AggregationRequest) (s : Selection) : Prop where
  operations : r.operations ≠ []
  groups : s.groups.map (·.text) = r.groupBy.getD []
  columns : List.Forall₂ Column.Of r.operations s.columns
  comparisons : List.Forall₂ Comparison.Of (r.filters.getD []) s.comparisons
  limit : limitText r.limit = .ok s.limit

end Selection

theorem mapM_operationColumn_eq_ok {ops : List Operation} {ts : List Text} :
    ops.mapM operationColumn = .ok ts ↔
      ∃ columns, List.Forall₂ Column.Of ops columns ∧ ts = columns.map (·.text) := by
  rw [mapM_eq_ok]
  induction ops generalizing ts with
  | nil => simp
  | cons op rest ih =>
    rw [List.forall₂_cons_left_iff]
    constructor
    · rintro ⟨t, ts, first, others, rfl⟩
      obtain ⟨c, compiled, rfl⟩ := operationColumn_eq_ok.mp first
      obtain ⟨columns, all, rfl⟩ := ih.mp others
      exact ⟨c :: columns, .cons compiled all, rfl⟩
    · rintro ⟨columns, all, rfl⟩
      obtain ⟨c, columns, compiled, others, rfl⟩ := List.forall₂_cons_left_iff.mp all
      exact ⟨c.text, _, operationColumn_eq_ok.mpr ⟨c, compiled, rfl⟩,
        ih.mpr ⟨columns, others, rfl⟩, rfl⟩

theorem aggregation_eq_bind {table : Text} {r : AggregationRequest}
    (operations : r.operations ≠ []) :
    aggregation table r = (do
      let groups ← (r.groupBy.getD []).mapM (Name.ofText "group_by field")
      let columns ← r.operations.mapM operationColumn
      let condition ← Condition.ofFilters (r.filters.getD [])
      let limit ← limitText r.limit
      .ok ⟨("SELECT " : Text) ++ commaList (groups.map (·.text) ++ columns) ++ " FROM " ++ table ++
        condition.text ++ groupingText (groups.map (·.text)) ++ limit, condition.params⟩) := by
  unfold aggregation
  cases empty : r.operations.isEmpty with
  | true => exact absurd (List.isEmpty_iff.mp empty) operations
  | false => cases r.limit <;> rfl

theorem aggregation_eq_ok {table : Text} {r : AggregationRequest} {q : Query} :
    aggregation table r = .ok q ↔ ∃ s : Selection, s.Of r ∧ q = s.query table := by
  constructor
  · intro compiled
    have operations : r.operations ≠ [] := by
      intro empty
      unfold aggregation at compiled
      rw [empty] at compiled
      cases compiled
    rw [aggregation_eq_bind operations] at compiled
    obtain ⟨groups, grouped, compiled⟩ := bind_eq_ok.mp compiled
    obtain ⟨texts, selected, compiled⟩ := bind_eq_ok.mp compiled
    obtain ⟨condition, filtered, compiled⟩ := bind_eq_ok.mp compiled
    obtain ⟨limit, limited, compiled⟩ := bind_eq_ok.mp compiled
    obtain ⟨columns, all, rfl⟩ := mapM_operationColumn_eq_ok.mp selected
    obtain ⟨comparisons, compared, rfl⟩ := Condition.ofFilters_eq_ok.mp filtered
    refine ⟨⟨groups, columns, comparisons, limit⟩,
      ⟨operations, Name.mapM_ofText_eq_ok.mp grouped, all, compared, limited⟩, ?_⟩
    exact (Except.ok.inj compiled).symm
  · rintro ⟨s, parts, rfl⟩
    rw [aggregation_eq_bind parts.operations]
    refine bind_eq_ok.mpr ⟨s.groups, Name.mapM_ofText_eq_ok.mpr parts.groups, ?_⟩
    refine bind_eq_ok.mpr ⟨_, mapM_operationColumn_eq_ok.mpr ⟨s.columns, parts.columns, rfl⟩, ?_⟩
    refine bind_eq_ok.mpr
      ⟨_, Condition.ofFilters_eq_ok.mpr ⟨s.comparisons, parts.comparisons, rfl⟩, ?_⟩
    exact bind_eq_ok.mpr ⟨s.limit, parts.limit, rfl⟩

theorem Comparison.isParam_of_forall₂ {filters : Filters} {comparisons : List Comparison}
    (compared : List.Forall₂ Of filters comparisons) :
    ∀ d ∈ comparisons.map (·.param), d.IsParam := by
  induction compared with
  | nil => simp
  | cons first _ ih => exact List.forall_mem_cons.mpr ⟨first.isParam, ih⟩

theorem Selection.Of.isParam {table : Text} {r : AggregationRequest} {s : Selection}
    (parts : s.Of r) : ∀ d ∈ (s.query table).params, d.IsParam := by
  rw [Selection.query, Condition.params_ofComparisons]
  exact Comparison.isParam_of_forall₂ parts.comparisons

end Sql

end QueryDesk
