import QueryDesk.Call
import QueryDesk.Proofs.Plan.Every

namespace QueryDesk

/-- The texts that are sent unchecked: the columns of a table, the tables, and the profile of a
    column. Their names have been checked, but the guard does not search them for words. -/
inductive CatalogText : Text → Prop where
  | columns {source : Text} {table : Sql.Name} (resolved : Sql.tableName source = .ok table) :
    CatalogText (Sql.describe table.text).sql
  | tables : CatalogText Sql.listTables.sql
  | profile {source column : Text} {table : Sql.Name} {query : Sql.Query}
    (resolved : Sql.tableName source = .ok table) (valid : Sql.isName column = true)
    (compiled : Sql.nullProfile table.text (.text column) = .ok query) : CatalogText query.sql

def Mode.Permits (s : Settings) (mode : Mode) (sql : Datum) : Prop :=
  ∃ t, sql = .text t ∧ (Guard.check s.policy mode t = .ok () ∨ CatalogText t)

def Call.mode : Call → Mode
  | stream _ => .readOnly
  | _ => .general

def DirectCall.Permits (s : Settings) : DirectCall → Datum → Prop
  | ping, sql => sql = Plan.pingJob.statement.text
  | grid o, sql | records o, sql => sql = o.statement.text ∧ o.check s.policy = .ok ()

namespace Plan

/-- A statement is only sent if the mode permits it, and the results kept are only touched if the
    settings keep any. -/
def Step.Permitted (s : Settings) (mode : Mode) : Step → Prop
  | statement job => mode.Permits s job.statement.text
  | lookUp _ | keep _ => s.cacheEnabled = true

variable {α : Type} {P : Step → Prop} {s : Settings}

theorem every_grid {policy : Guard.Policy} {o : Order}
    (sent : o.check policy = .ok () → P (.statement o.job)) : (o.grid policy).Every P :=
  (every_lift_bind fun _ checked => every_send (sent checked)).bind fun pull => every_lift pull.grid

theorem every_records {policy : Guard.Policy} {o : Order}
    (sent : o.check policy = .ok () → P (.statement o.job)) : (o.records policy).Every P :=
  (every_lift_bind fun _ checked => every_send (sent checked)).bind
    fun pull => every_lift pull.records

theorem checkDatum_ok {policy : Guard.Policy} {mode : Mode} {d : Datum}
    (accepted : Guard.checkDatum policy mode d = .ok ()) :
    ∃ t, d = .text t ∧ Guard.check policy mode t = .ok () := by
  cases d <;> first | exact ⟨_, rfl, accepted⟩ | cases accepted

theorem every_fresh (s : Settings) (q : Sql.Query) (cap : Int) :
    (fresh s q cap).Every (Step.Permitted s .general) :=
  every_grid fun accepted => ⟨q.sql, rfl, .inl accepted⟩

theorem every_catalog {q : Sql.Query} (asks : CatalogText q.sql) (mode : Mode) (cap : Int) :
    (catalog s q cap).Every (Step.Permitted s mode) :=
  every_grid fun _ => ⟨q.sql, rfl, .inr asks⟩

theorem fresh_refused {q : Sql.Query} {failure : Failure} (cap : Int)
    (refused : Guard.check s.policy .general q.sql = .error failure) :
    fresh s q cap = done (.error failure) := by
  have unchecked : Order.check s.policy ⟨q.statement, .upTo cap, .general, true⟩ =
      .error failure := refused
  simp only [fresh, Order.grid, Order.pull]
  rw [unchecked]
  rfl

theorem browse_refused {q : Sql.Query} {failure : Failure} (source : Option Text)
    (wanted : Option Bool) (refused : Guard.check s.policy .general q.sql = .error failure) :
    browse s q source wanted = done (.error failure) := by
  unfold browse
  split
  · unfold remembered
    rw [refused]
    rfl
  · exact fresh_refused _ refused

theorem every_browse (s : Settings) (q : Sql.Query) (source : Option Text) (wanted : Option Bool) :
    (browse s q source wanted).Every (Step.Permitted s .general) := by
  unfold browse
  split
  · rename_i keeps
    have caching : s.cacheEnabled = true := (Bool.and_eq_true_iff.mp keeps).1
    apply every_lift_bind
    intro _ _
    apply every_lift_bind
    intro key _
    apply (every_find caching).bind
    intro found
    cases found with
    | some grid => exact every_pure grid
    | none =>
      apply (every_fresh s q _).bind
      intro grid
      exact (every_save caching).bind fun _ => every_pure grid
  · exact every_fresh s q _

theorem every_tabulate (s : Settings) (source : Text)
    (compile : Text → Except RequestFault Sql.Query) :
    (tabulate s source compile).Every (Step.Permitted s .general) := by
  apply every_lift_bind
  intro table _
  apply every_lift_bind
  intro query _
  exact every_fresh s query _

theorem every_rowCount (s : Settings) (table : Text) :
    (rowCount s table).Every (Step.Permitted s .general) :=
  (every_fresh s _ 1).bind fun grid => every_lift (countIn grid)

theorem every_correlate (s : Settings) (known : CorrelationTable)
    (pairs : List (Sql.Name × Sql.Name × Sql.Query)) :
    (correlate s known pairs).Every (Step.Permitted s .general) := by
  induction pairs generalizing known with
  | nil => exact every_pure known
  | cons pair rest ih =>
    apply (every_fresh s pair.2.2 1).bind
    intro grid
    apply every_lift_bind
    intro x _
    exact ih _

theorem tableOf_ok {source table : Text} (resolved : tableOf source = .ok table) :
    ∃ name, Sql.tableName source = .ok name ∧ table = name.text := by
  unfold tableOf at resolved
  cases named : Sql.tableName source with
  | ok name => rw [named] at resolved; cases resolved; exact ⟨name, rfl, rfl⟩
  | error fault => rw [named] at resolved; cases fault <;> cases resolved

theorem ofRequest_ok {e : Except RequestFault α} {a : α} (compiled : Failure.ofRequest e = .ok a) :
    e = .ok a := by
  cases e with
  | ok b => cases compiled; rfl
  | error fault => cases fault <;> cases compiled

theorem every_columns (s : Settings) (source : Text) (mode : Mode) :
    (columns s source).Every (Step.Permitted s mode) := by
  apply every_lift_bind
  intro table resolved
  obtain ⟨name, named, rfl⟩ := tableOf_ok resolved
  exact (every_catalog (.columns named) mode _).bind fun grid => every_done _

theorem isName_of_nullProfile {table column : Text} {query : Sql.Query}
    (compiled : Sql.nullProfile table (.text column) = .ok query) : Sql.isName column = true := by
  by_cases valid : Sql.isName column = true
  · exact valid
  · simp [Sql.nullProfile, Sql.Name.ofDatum, Sql.Name.ofText, valid, Bind.bind, Except.bind]
      at compiled

theorem every_profile {source table : Text} (resolved : tableOf source = .ok table)
    (column : ColumnDescriptor) (mode : Mode) :
    (profile s table column).Every (Step.Permitted s mode) := by
  obtain ⟨name, named, rfl⟩ := tableOf_ok resolved
  apply every_lift_bind
  intro query compiled
  have profiled := ofRequest_ok compiled
  have asks := CatalogText.profile named (isName_of_nullProfile profiled) profiled
  exact (every_catalog asks mode 1).bind fun grid => every_lift _

theorem every_profiles {source table : Text} (resolved : tableOf source = .ok table)
    (columns : List ColumnDescriptor) (mode : Mode) :
    (profiles s table columns).Every (Step.Permitted s mode) := by
  induction columns with
  | nil => exact every_pure _
  | cons column rest ih =>
    apply (every_profile resolved column mode).bind
    intro metric
    exact ih.bind fun metrics => every_pure _

theorem every_stream (s : Settings) (payload : Datum) :
    (stream s payload).Every (Step.Permitted s .readOnly) := by
  have streamed : (streamed s payload).Every (Step.Permitted s .readOnly) := by
    apply every_lift_bind
    intro sql _
    apply every_records
    intro accepted
    obtain ⟨t, same, passed⟩ := checkDatum_ok accepted
    exact ⟨t, same, .inl passed⟩
  apply streamed.andThen
  intro outcome
  cases outcome with
  | ok records => exact every_done _
  | error failure => dsimp only; split <;> exact every_done _

end Plan

/-- Whatever the engine answers, a call only sends what its mode permits, and it leaves the results
    kept alone if the settings keep none. -/
theorem Call.every_permitted (s : Settings) (c : Call) :
    (c.plan s).Every (Plan.Step.Permitted s c.mode) := by
  cases c with
  | query r => exact (Plan.every_browse s _ _ _).map _
  | aggregation r =>
    refine Plan.Every.map ?_ _
    apply Plan.every_lift_bind
    intro table _
    apply Plan.every_lift_bind
    intro query _
    exact (Plan.every_browse s query _ _).bind fun grid => Plan.every_pure _
  | statistics r =>
    refine Plan.Every.map ?_ _
    apply Plan.every_lift_bind
    intro table _
    apply Plan.every_lift_bind
    intro query _
    apply (Plan.every_fresh s query 1).bind
    intro grid
    split <;> exact Plan.every_done _
  | timeSeries r => exact (Plan.every_tabulate s _ _).map _
  | outliers r => exact (Plan.every_tabulate s _ _).map _
  | correlations r =>
    refine Plan.Every.map ?_ _
    apply Plan.every_lift_bind
    intro table _
    apply Plan.every_lift_bind
    intro pairs _
    exact Plan.every_correlate s [] pairs
  | movingAverage r =>
    refine Plan.Every.map ?_ _
    apply Plan.every_lift_bind
    intro digits _
    exact Plan.every_tabulate s _ _
  | columns source => exact (Plan.every_columns s source _).map _
  | tableInfo source =>
    refine Plan.Every.map ?_ _
    apply Plan.every_lift_bind
    intro table _
    apply (Plan.every_columns s source _).bind
    intro columns
    exact (Plan.every_rowCount s table).bind fun count => Plan.every_pure _
  | quality source =>
    refine Plan.Every.map ?_ _
    apply Plan.every_lift_bind
    intro table resolved
    apply (Plan.every_columns s source _).bind
    intro columns
    exact Plan.every_profiles resolved columns _
  | metrics source =>
    refine Plan.Every.map ?_ _
    apply Plan.every_lift_bind
    intro table _
    exact (Plan.every_rowCount s table).bind fun count => Plan.every_pure _
  | preview source r =>
    refine Plan.Every.map ?_ _
    apply Plan.every_lift_bind
    intro table _
    apply Plan.every_lift_bind
    intro query _
    apply (Plan.every_fresh s query _).bind
    intro page
    exact (Plan.every_rowCount s table).bind fun total => Plan.every_pure _
  | tables =>
    refine Plan.Every.map ?_ _
    exact (Plan.every_catalog .tables _ _).bind fun grid => Plan.every_done _
  | stream payload => exact (Plan.every_stream s payload).map _

theorem Call.every_sends (s : Settings) (c : Call) :
    (c.plan s).Every (Plan.Step.Sends (c.mode.Permits s)) := by
  apply (c.every_permitted s).mono
  intro step permitted
  cases step with
  | statement job => exact permitted
  | lookUp key => trivial
  | keep content => trivial

theorem Call.every_isStatement {s : Settings} (uncached : s.cacheEnabled = false) (c : Call) :
    (c.plan s).Every Plan.Step.IsStatement := by
  apply (c.every_permitted s).mono
  intro step permitted
  cases step with
  | statement job => trivial
  | lookUp key => exact Bool.noConfusion (uncached.symm.trans permitted)
  | keep content => exact Bool.noConfusion (uncached.symm.trans permitted)

theorem DirectCall.every_sends (s : Settings) (c : DirectCall) :
    (c.plan s).Every (Plan.Step.Sends (c.Permits s)) := by
  cases c with
  | ping =>
    have sent : (Plan.send Plan.pingJob).Every (Plan.Step.Sends (DirectCall.ping.Permits s)) :=
      Plan.every_send rfl
    refine Plan.Every.map (sent.bind fun pull => ?_) _
    split <;> exact Plan.every_done _
  | grid o => exact Plan.Every.map (Plan.every_grid fun accepted => ⟨rfl, accepted⟩) _
  | records o => exact Plan.Every.map (Plan.every_records fun accepted => ⟨rfl, accepted⟩) _

end QueryDesk
