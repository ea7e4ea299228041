import QueryDesk.Proofs.Grid.Shapes
import QueryDesk.Proofs.Plan.Lasting
import QueryDesk.Proofs.Sql.Grouped
import QueryDesk.Snapshot.Session

namespace QueryDesk

/-- The summary of an operation over a grid: the value in the first row under the last column that is
    named like the operation, and null for grouped rows, without rows and without such a column. -/
structure Summary.Of (grouped : Prop) (g : Grid) (op : Operation) (s : Summary) : Prop where
  field : s.field = op.field
  aggregate : s.aggregate = op.aggregate
  null_of_grouped : grouped → s.result = .null
  null_of_empty : g.rows = [] → s.result = .null
  null_of_notMem : op.effectiveAlias ∉ g.columns → s.result = .null
  cell : ¬ grouped → ∀ row, g.rows.head? = some row → ∀ j : Nat,
    g.columns[j]? = some op.effectiveAlias →
    (∀ k, j < k → g.columns[k]? ≠ some op.effectiveAlias) → row[j]? = some s.result

namespace Plan

variable {r : AggregationRequest} {g : Grid}

def summarized (r : AggregationRequest) (g : Grid) : Record :=
  if (r.groupBy.getD []).isEmpty then g.records.headD [] else []

theorem summarized_of_row {row : List Value} (ungrouped : r.groupBy.getD [] = [])
    (first : g.rows.head? = some row) : summarized r g = Grid.recordOf g.columns row := by
  rw [summarized, ungrouped, List.isEmpty_nil, if_pos rfl, Grid.records, List.headD_eq_head?_getD,
    List.head?_map, first]
  rfl

theorem summarized_of_grouped (grouped : r.groupBy.getD [] ≠ []) : summarized r g = [] := by
  rw [summarized, if_neg (by simpa [List.isEmpty_iff] using grouped)]

theorem summarized_of_empty (empty : g.rows = []) : summarized r g = [] := by
  unfold summarized
  split
  · rw [Grid.records, empty]
    rfl
  · rfl

theorem even_of_head? {row : List Value} (first : g.rows.head? = some row) :
    row.length = g.columns.length :=
  g.rectangular row (List.mem_of_mem_head? first)

theorem find?_summarized_of_notMem {name : Text} (absent : name ∉ g.columns) :
    OrderedMap.find? (summarized r g) name = none := by
  by_cases ungrouped : r.groupBy.getD [] = []
  · cases first : g.rows.head? with
    | none =>
      rw [summarized_of_empty (List.head?_eq_none_iff.mp first)]
      rfl
    | some row =>
      rw [summarized_of_row ungrouped first, ← Option.not_isSome_iff_eq_none,
        OrderedMap.isSome_find?_iff, Grid.keys_recordOf (even_of_head? first), List.mem_eraseDups]
      exact absent
  · rw [summarized_of_grouped ungrouped]
    rfl

theorem summaries_of (r : AggregationRequest) (g : Grid) :
    List.Forall₂ (Summary.Of (r.groupBy.getD [] ≠ []) g) r.operations (summaries r g) := by
  refine List.forall₂_map_right_iff.mpr (List.forall₂_same.mpr fun op _ => ?_)
  have result (m : Record) (same : summarized r g = m) :
      (OrderedMap.find? (summarized r g) op.effectiveAlias).getD .null =
        (OrderedMap.find? m op.effectiveAlias).getD .null := by rw [same]
  refine ⟨rfl, rfl, fun grouped => result [] (summarized_of_grouped grouped),
    fun empty => result [] (summarized_of_empty empty), fun absent => ?_, ?_⟩
  · exact congrArg (Option.getD · .null) (find?_summarized_of_notMem absent)
  · intro ungrouped row first j there last
    have even := even_of_head? first
    have found := Grid.find?_recordOf even there last
    have inside : j < row.length := even ▸ (List.getElem?_eq_some_iff.mp there).1
    have same := result _ (summarized_of_row (not_not.mp ungrouped) first)
    rw [List.getElem?_eq_getElem inside] at found ⊢
    rw [found] at same
    exact congrArg some same.symm

/-- Columns that are named like the operations, with no name there twice, are summarized cell by
    cell. -/
theorem results_summaries {row : List Value} (ungrouped : r.groupBy.getD [] = [])
    (first : g.rows.head? = some row) (named : g.columns = r.operations.map (·.effectiveAlias))
    (nodup : g.columns.Nodup) : (summaries r g).map (·.result) = row := by
  have results : (summaries r g).map (·.result) =
      (g.columns.map (OrderedMap.find? (summarized r g))).map (·.getD .null) := by
    rw [named, List.map_map, List.map_map, summaries, List.map_map]
    rfl
  rw [results, summarized_of_row ungrouped first,
    Grid.map_find?_recordOf (even_of_head? first) nodup, List.map_map]
  exact List.map_id row

end Plan

/-- An aggregation answers with the grid that its statement has, sent for or kept, and with one
    summary per operation in their order. A value is there unless the statement groups. -/
theorem Call.aggregation_summarized {s : Settings} {r : AggregationRequest} {table : Sql.Name}
    {q : Sql.Query} {d after : Desk} {g : Grid} (named : Sql.tableName r.source = .ok table)
    (compiled : Sql.aggregation table.text r = .ok q)
    (answered : (Plan.browse s q (some r.source) r.cache).run d = (.ok g, after)) :
    ∃ summaries,
      ((aggregation r).plan s).run d = (.ok (.aggregation ⟨g, summaries⟩), after) ∧
      List.Forall₂ (Summary.Of ((" GROUP BY " : Text) <:+: q.sql) g) r.operations summaries ∧
      (¬ (" GROUP BY " : Text) <:+: q.sql → g.columns = r.operations.map (·.effectiveAlias) →
        g.columns.Nodup → ∀ row, g.rows.head? = some row → summaries.map (·.result) = row) := by
  have grouping := Sql.grouping_infix_iff compiled
  refine ⟨Plan.summaries r g, ?_, ?_, ?_⟩
  · rw [plan_aggregation named compiled, Plan.run_map, answered]
    rfl
  · rw [grouping]
    exact Plan.summaries_of r g
  · intro ungrouped aliases nodup row first
    rw [grouping, not_not] at ungrouped
    exact Plan.results_summaries ungrouped first aliases nodup

theorem Call.aggregation_summarized_colliding :
    let s := Settings.default
    let r : AggregationRequest := ⟨"a", [⟨"x", "sum", some "v"⟩, ⟨"y", "max", some "v"⟩],
      some [], none, none, none⟩
    let cursor : Cursor := .ofList [.text "v", .text "v"] [[.int 1, .int 2], [.int 3, .int 4]] none
    let d : Desk := .start s (.ofScript [.rows cursor]) Snapshot.sessionStart
    ∃ g summaries after, ((aggregation r).plan s).run d =
        (.ok (.aggregation ⟨g, summaries⟩), after) ∧
      summaries.map (·.result) = [.int 2, .int 2] := by
  intro s r cursor d
  let table : Sql.Name := ⟨"data_source_a", by decide⟩
  let q : Sql.Query := .plain "SELECT SUM(x) AS v, MAX(y) AS v FROM data_source_a"
  let g : Grid := ⟨["v", "v"], [[.int 1, .int 2], [.int 3, .int 4]], false, by decide⟩
  have named : Sql.tableName r.source = .ok table := rfl
  have compiled : Sql.aggregation table.text r = .ok q := rfl
  have answered : ((Plan.browse s q (some r.source) r.cache).run d).1 = .ok g :=
    eq_ok_of_toOption (by decide +kernel)
  obtain ⟨after, browsed⟩ : ∃ after, (Plan.browse s q (some r.source) r.cache).run d =
      (.ok g, after) := ⟨_, Prod.ext answered (Eq.refl _)⟩
  obtain ⟨summaries, ran, each, -⟩ := aggregation_summarized named compiled browsed
  have ungrouped : ¬ (" GROUP BY " : Text) <:+: q.sql := by decide
  have last : ∀ k, 1 < k → g.columns[k]? ≠ some ("v" : Text) := by
    intro k beyond
    rw [List.getElem?_eq_none (show g.columns.length ≤ k from beyond)]
    simp
  obtain _ | ⟨first, _ | ⟨second, _ | _⟩⟩ := each
  have one := first.cell ungrouped _ rfl 1 rfl last
  have two := second.cell ungrouped _ rfl 1 rfl last
  refine ⟨g, _, after, ran, ?_⟩
  rw [List.map_cons, List.map_cons, ← Option.some.inj one, ← Option.some.inj two]
  rfl

end QueryDesk
