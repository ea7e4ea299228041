import QueryDesk.Proofs.Plan.Ordered
import QueryDesk.Proofs.Plan.Permitted
import QueryDesk.Proofs.Snapshot.Key
import QueryDesk.Proofs.Sql.Compiled

namespace QueryDesk

def Settings.uncached (s : Settings) : Settings := { s with cacheEnabled := false }

namespace Call

def lasting? : Call → Option (Sql.Query × Option Text)
  | query r => if r.cache = some false then none else some (.plain r.sql, r.source)
  | aggregation r =>
    if r.cache = some false then none
    else do
      let table ← (Sql.tableName r.source).toOption
      let query ← (Sql.aggregation table.text r).toOption
      some (query, some r.source)
  | _ => none

def answerFrom : Call → Grid → Answer
  | aggregation r, grid => .aggregation ⟨grid, Plan.summaries r grid⟩
  | _, grid => .grid grid

theorem tableOf_of_tableName {source : Text} {table : Sql.Name}
    (named : Sql.tableName source = .ok table) : Plan.tableOf source = .ok table.text := by
  unfold Plan.tableOf
  rw [named]
  rfl

variable {s : Settings} {c : Call} {q : Sql.Query} {source : Option Text}

theorem lasting?_aggregation {r : AggregationRequest}
    (lasting : (aggregation r).lasting? = some (q, source)) :
    r.cache ≠ some false ∧ source = some r.source ∧
      ∃ table, Sql.tableName r.source = .ok table ∧ Sql.aggregation table.text r = .ok q := by
  simp only [lasting?] at lasting
  split at lasting
  · cases lasting
  rename_i wanted
  cases named : Sql.tableName r.source with
  | error fault => simp [named, Except.toOption] at lasting
  | ok table =>
    cases compiled : Sql.aggregation table.text r with
    | error fault => simp [named, compiled, Except.toOption] at lasting
    | ok query =>
      simp only [named, compiled, Except.toOption, Option.bind_eq_bind, Option.bind_some,
        Option.some.injEq, Prod.mk.injEq] at lasting
      obtain ⟨rfl, rfl⟩ := lasting
      exact ⟨wanted, rfl, table, rfl, compiled⟩

theorem plan_aggregation {r : AggregationRequest} {table : Sql.Name}
    (named : Sql.tableName r.source = .ok table) (compiled : Sql.aggregation table.text r = .ok q)
    (s : Settings) :
    (aggregation r).plan s =
      (aggregation r).answerFrom <$> Plan.browse s q (some r.source) r.cache := by
  have resolved := tableOf_of_tableName named
  have request : Failure.ofRequest (Sql.aggregation table.text r) = .ok q := by
    rw [compiled]
    rfl
  simp only [plan, Plan.aggregation]
  rw [resolved, Plan.lift_ok_bind, request, Plan.lift_ok_bind, bind_pure_comp, Functor.map_map]
  rfl

theorem plan_of_lasting (lasting : c.lasting? = some (q, source)) :
    ∃ wanted : Option Bool, wanted ≠ some false ∧
      ∀ s, c.plan s = c.answerFrom <$> Plan.browse s q source wanted := by
  cases c with
  | query r =>
    simp only [lasting?] at lasting
    split at lasting
    · cases lasting
    · rename_i wanted
      cases lasting
      exact ⟨r.cache, wanted, fun s => rfl⟩
  | aggregation r =>
    obtain ⟨wanted, rfl, table, named, compiled⟩ := lasting?_aggregation lasting
    exact ⟨r.cache, wanted, plan_aggregation named compiled⟩
  | _ => cases lasting

end Call

namespace Plan

theorem browse_declined (s : Settings) (q : Sql.Query) (source : Option Text) :
    browse s q source (some false) = fresh s q s.previewMaxRows := by
  simp [browse]

theorem browse_remembered {s : Settings} {q : Sql.Query} {source : Option Text}
    {wanted : Option Bool} (caching : s.cacheEnabled = true) (wants : wanted ≠ some false) :
    browse s q source wanted = remembered s q source := by
  simp [browse, caching, wants]

theorem correlate_uncached (s : Settings) (known : CorrelationTable)
    (pairs : List (Sql.Name × Sql.Name × Sql.Query)) :
    correlate s known pairs = correlate s.uncached known pairs := by
  induction pairs generalizing known with
  | nil => rfl
  | cons pair rest ih =>
    simp only [correlate]
    refine bind_congr fun grid => bind_congr fun x => ?_
    exact ih _

theorem profiles_uncached (s : Settings) (table : Text) (columns : List ColumnDescriptor) :
    profiles s table columns = profiles s.uncached table columns := by
  induction columns with
  | nil => rfl
  | cons column rest ih =>
    simp only [profiles]
    rw [ih]
    rfl

end Plan

namespace Call

theorem plan_uncached {c : Call} (passing : c.lasting? = none) (s : Settings) :
    c.plan s = c.plan s.uncached := by
  cases c with
  | query r =>
    simp only [lasting?] at passing
    split at passing
    · rename_i declined
      simp only [plan, declined, Plan.browse_declined]
      rfl
    · cases passing
  | aggregation r =>
    simp only [lasting?] at passing
    split at passing
    · rename_i declined
      simp only [plan, Plan.aggregation, declined, Plan.browse_declined]
      rfl
    · simp only [plan, Plan.aggregation]
      cases resolved : Plan.tableOf r.source with
      | error failure => rw [Plan.lift_error_bind, Plan.lift_error_bind]
      | ok text =>
        rw [Plan.lift_ok_bind, Plan.lift_ok_bind]
        obtain ⟨table, named, rfl⟩ := Plan.tableOf_ok resolved
        cases request : Failure.ofRequest (Sql.aggregation table.text r) with
        | error failure => rw [Plan.lift_error_bind, Plan.lift_error_bind]
        | ok q => simp [named, Plan.ofRequest_ok request, Except.toOption] at passing
  | correlations r =>
    simp only [plan, Plan.correlations]
    have same (pairs : List (Sql.Name × Sql.Name × Sql.Query)) := Plan.correlate_uncached s [] pairs
    simp only [same]
  | quality source =>
    simp only [plan, Plan.quality]
    have same (table : Text) (columns : List ColumnDescriptor) :=
      Plan.profiles_uncached s table columns
    simp only [same]
    rfl
  | _ => rfl

def key? (s : Settings) (c : Call) : Option Text :=
  match c.lasting? with
  | some (q, source) =>
    if (Guard.check s.policy .general q.sql).isOk then (Snapshot.key q source).toOption
    else none
  | none => none

/-- The statement and the data source under which a result is kept can be encoded. -/
def Encodable (c : Call) : Prop :=
  ∀ q source, c.lasting? = some (q, source) →
    (Utf8.encode q.sql).isOk = true ∧ (Utf8.encode (source.getD [])).isOk = true

/-- The statement of a call would be accepted, but no key is made, since a parameter of it is an integer
    that is too long to be printed. -/
def Unprinted (s : Settings) (c : Call) : Prop :=
  ∃ q source, c.lasting? = some (q, source) ∧ Guard.check s.policy .general q.sql = .ok () ∧
    ∃ n, .int n ∈ q.params ∧ ¬ Whole.Writable n

variable {s : Settings} {c : Call} {q : Sql.Query} {source : Option Text}

theorem isParam_of_lasting (lasting : c.lasting? = some (q, source)) :
    ∀ d ∈ q.params, d.IsParam := by
  cases c with
  | query r =>
    simp only [lasting?] at lasting
    split at lasting
    · cases lasting
    · cases lasting
      simp [Sql.Query.plain]
  | aggregation r =>
    obtain ⟨_, _, table, _, compiled⟩ := lasting?_aggregation lasting
    obtain ⟨selection, parts, rfl⟩ := Sql.aggregation_eq_ok.mp compiled
    exact parts.isParam
  | _ => cases lasting

theorem key?_eq_some {key : Text} (keyed : c.key? s = some key) :
    ∃ q source, c.lasting? = some (q, source) ∧ Guard.check s.policy .general q.sql = .ok () ∧
      Snapshot.key q source = .ok key := by
  unfold key? at keyed
  split at keyed
  · rename_i q source lasting
    split at keyed
    · rename_i passes
      refine ⟨q, source, lasting, ?_, ?_⟩
      · cases accepted : Guard.check s.policy .general q.sql with
        | ok _ => rfl
        | error failure => rw [accepted] at passes; cases passes
      · cases digest : Snapshot.key q source with
        | ok found => rw [digest] at keyed; cases keyed; rfl
        | error fault => rw [digest] at keyed; cases keyed
    · cases keyed
  · cases keyed

theorem printed_or_unprinted (params : ∀ d ∈ q.params, d.IsParam) :
    (Datum.tuple q.params).isWritable = true ∨ ∃ n, .int n ∈ q.params ∧ ¬ Whole.Writable n := by
  by_contra! neither
  obtain ⟨unwritable, others⟩ := neither
  refine unwritable (Datum.isWritable_iff.mpr ?_)
  rintro n (_ | _ | ⟨member, holds⟩)
  cases params _ member <;> cases holds
  exact others n member

theorem key?_of_unprinted (encodable : c.Encodable) (unprinted : c.Unprinted s) :
    c.key? s = none := by
  obtain ⟨q, source, lasting, accepted, n, member, long⟩ := unprinted
  have digest := Snapshot.key_of_unwritable source member long (encodable q source lasting).1
  simp [key?, lasting, digest, Except.toOption]

theorem plan_uncached_of_key? (encodable : c.Encodable) (printed : ¬ c.Unprinted s)
    (unkeyed : c.key? s = none) : c.plan s = c.plan s.uncached := by
  cases lasting : c.lasting? with
  | none => exact plan_uncached lasting s
  | some kept =>
    obtain ⟨q, source⟩ := kept
    obtain ⟨sql, origin⟩ := encodable q source lasting
    obtain ⟨wanted, _, plans⟩ := plan_of_lasting lasting
    cases accepted : Guard.check s.policy .general q.sql with
    | ok _ =>
      have params := isParam_of_lasting lasting
      rcases printed_or_unprinted params with writable | long
      · obtain ⟨key, digest⟩ := Snapshot.exists_key params writable sql origin
        simp only [key?, lasting, digest, accepted] at unkeyed
        cases unkeyed
      · exact absurd ⟨q, source, lasting, accepted, long⟩ printed
    | error failure =>
      rw [plans, plans, Plan.browse_refused source wanted accepted,
        Plan.browse_refused (s := s.uncached) source wanted accepted]

end Call

end QueryDesk
