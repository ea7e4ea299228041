import QueryDesk.Proofs.Snapshot.Key
import QueryDesk.Proofs.Sql.Injection
import QueryDesk.Proofs.Sql.Reading

namespace QueryDesk

open Sql

/-- Two aggregations that ask for the same. No groups and an empty list of them are the same, and so
    are no filters and an empty list of them. -/
structure AggregationRequest.Same (r other : AggregationRequest) : Prop where
  source : r.source = other.source
  groups : r.groupBy.getD [] = other.groupBy.getD []
  operations : r.operations.map (fun op => (op.aggregate, op.field, op.effectiveAlias)) =
    other.operations.map (fun op => (op.aggregate, op.field, op.effectiveAlias))
  filters : List.Forall₂ (fun f g => f.1 = g.1 ∧ f.2.Alike g.2) (r.filters.getD [])
    (other.filters.getD [])
  limit : r.limit = other.limit

theorem over_sql_of_aggregation {table : Name} {r : AggregationRequest} {q : Query}
    (compiled : aggregation table.text r = .ok q) : Text.Over isSolid q.sql := by
  have framed : q.Framed (fun _ => False) _ := framed_aggregation compiled
  refine framed.neat_sql.points.mono fun c inside => ?_
  simp only [isStatementChar, Bool.and_eq_true] at inside
  exact inside.1.1.1

/-- Aggregations for which the same is digested ask for the same. -/
theorem AggregationRequest.same_of_keyBytes {r other : AggregationRequest} {table origin : Name}
    {q p : Query} {bytes : List UInt8}
    (named : tableName r.source = .ok table ∧ tableName other.source = .ok origin)
    (compiled : aggregation table.text r = .ok q ∧ aggregation origin.text other = .ok p)
    (digested : Snapshot.keyBytes q (some r.source) = .ok bytes ∧
      Snapshot.keyBytes p (some other.source) = .ok bytes) : r.Same other := by
  obtain ⟨s, parts, rfl⟩ := aggregation_eq_ok.mp compiled.1
  obtain ⟨t, parts', rfl⟩ := aggregation_eq_ok.mp compiled.2
  obtain ⟨texts, params, sources⟩ := Snapshot.keyBytes_cancel
    ⟨over_sql_of_aggregation compiled.1, over_sql_of_aggregation compiled.2⟩
    ⟨parts.isParam, parts'.isParam⟩ digested.1 digested.2
  have source : r.source = other.source := sources
  have tables : table = origin := by
    rw [source] at named
    exact Except.ok.inj (named.1.symm.trans named.2)
  subst tables
  obtain ⟨groups, columns, comparisons, limits⟩ := parts.sql_injective parts' texts
  rw [Selection.query, Selection.query, Condition.params_ofComparisons,
    Condition.params_ofComparisons] at params
  refine ⟨source, ?_, ?_, ?_, ?_⟩
  · rw [← parts.groups, ← parts'.groups, groups]
  · have others := parts'.columns
    rw [← columns] at others
    exact operations_of_columns parts.columns others
  · exact filters_of_comparisons parts.comparisons parts'.comparisons comparisons params
  · have other := parts'.limit
    rw [← limits] at other
    exact limitText_injective parts.limit other

theorem AggregationRequest.same_of_keyBytes_spelled :
    let r : AggregationRequest := ⟨"a-b", [⟨"value", "sum", none⟩], none, none, none, none⟩
    let other : AggregationRequest :=
      ⟨"a-b", [⟨"value", "sum", some "sum_value"⟩], some [], some [], none, some false⟩
    (∃ table q bytes, tableName r.source = .ok table ∧ aggregation table.text r = .ok q ∧
      aggregation table.text other = .ok q ∧ Snapshot.keyBytes q (some r.source) = .ok bytes) ∧
    r.Same other := by
  intro r other
  let table : Name := ⟨"data_source_a_b", by decide⟩
  let q : Query := ⟨"SELECT SUM(value) AS sum_value FROM data_source_a_b", []⟩
  have named : tableName r.source = .ok table := Name.ofText_eq_ok.mpr rfl
  have compiled : aggregation table.text r = .ok q := rfl
  have compiled' : aggregation table.text other = .ok q := rfl
  obtain ⟨bytes, digested⟩ : ∃ bytes, Snapshot.keyBytes q (some r.source) = .ok bytes :=
    exists_of_isOk (by decide +kernel)
  exact ⟨⟨table, q, bytes, named, compiled, compiled', digested⟩,
    same_of_keyBytes ⟨named, named⟩ ⟨compiled, compiled'⟩ ⟨digested, digested⟩⟩

end QueryDesk
