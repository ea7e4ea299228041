import Mathlib.Data.List.Forall2
import QueryDesk.Desk.Session
import QueryDesk.Proofs.Line.Events
import QueryDesk.Proofs.Line.Sending
import QueryDesk.Proofs.Plan.Permitted

namespace QueryDesk

def AnyCall.Permits (s : Settings) : AnyCall → Datum → Prop
  | call c, sql => c.mode.Permits s sql
  | direct c, sql => c.Permits s sql

theorem AnyCall.every_sends (s : Settings) (c : AnyCall) :
    (c.plan s).Every (Plan.Step.Sends (c.Permits s)) := by
  cases c with
  | call c => exact c.every_sends s
  | direct c => exact c.every_sends s

namespace Turn

def requests : Turn → List (Except Failure AnyCall)
  | call request => [request]
  | together requests => requests
  | cancelled first others => first :: others
  | advance _ | overwrite .. | close | clear => []

def Permits (s : Settings) (t : Turn) (sql : Datum) : Prop :=
  ∃ c, .ok c ∈ t.requests ∧ c.Permits s sql

theorem every_planOf {s : Settings} {t : Turn} {request : Except Failure AnyCall}
    (member : request ∈ t.requests) :
    (planOf s request).Every (Plan.Step.Sends (t.Permits s)) := by
  cases request with
  | ok c =>
    apply (c.every_sends s).mono
    intro step permitted
    cases step with
    | statement job => exact ⟨c, member, permitted⟩
    | lookUp key => exact permitted
    | keep content => exact permitted
  | error failure => exact Plan.every_done _

end Turn

namespace Desk

theorem sends_lineUp {d : Desk} {t : Turn} (requests : List (Except Failure AnyCall))
    (made : ∀ r ∈ requests, r ∈ t.requests) (log : d.engine.log = []) :
    (d.lineUp requests).Sends (t.Permits d.settings) := by
  obtain ⟨events, started⟩ :=
    (Line.ofPlans d (requests.map (planOf d.settings))).startAll_eq_after
  have unstarted : (Line.ofPlans d (requests.map (planOf d.settings))).Sends
      (t.Permits d.settings) := by
    apply Line.sends_ofPlans
    · simp [log]
    · intro p member
      obtain ⟨r, requested, rfl⟩ := List.mem_map.mp member
      exact Turn.every_planOf (made r requested)
  unfold lineUp
  rw [started]
  exact unstarted.after events

theorem settings_lineUp (d : Desk) (requests : List (Except Failure AnyCall)) :
    (d.lineUp requests).desk.settings = d.settings := by
  obtain ⟨events, started⟩ :=
    (Line.ofPlans d (requests.map (planOf d.settings))).startAll_eq_after
  unfold lineUp
  rw [started, Line.settings_after]
  rfl

end Desk

namespace Session

/-- What a turn sends from an empty log is permitted for one of its requests, and the settings stay
    as they are. -/
theorem play_permitted {s : Session} {d : Desk} {t : Turn} {outcome : Outcome}
    (played : s.play d t = .ok outcome) (log : d.engine.log = []) :
    (∀ sent ∈ outcome.desk.engine.log, t.Permits d.settings sent.sql) ∧
      outcome.desk.settings = d.settings := by
  have none_sent : ∀ sent ∈ d.engine.log, t.Permits d.settings sent.sql := by simp [log]
  cases t with
  | call request =>
    cases played
    exact ⟨(Turn.every_planOf (t := .call request) (by simp [Turn.requests])).log_run none_sent,
      Plan.settings_run _ d⟩
  | together requests =>
    cases played
    have sends := Desk.sends_lineUp (t := .together requests) requests
      (fun _ member => member) log
    obtain ⟨events, settled⟩ := (d.lineUp requests).settle_eq_after
    rw [settled]
    exact ⟨(sends.after events).log,
      (Line.settings_after _ events).trans (d.settings_lineUp requests)⟩
  | cancelled first others =>
    cases played
    have sends := Desk.sends_lineUp (t := .cancelled first others) (first :: others)
      (fun _ member => member) log
    obtain ⟨events, settled⟩ := (Desk.cancelFirst (d.lineUp (first :: others))).settle_eq_after
    rw [settled]
    refine ⟨((sends.after _).after events).log, ?_⟩
    unfold Desk.cancelFirst
    rw [Line.settings_after, Line.settings_after, d.settings_lineUp]
  | advance seconds =>
    simp only [play] at played
    cases later : Snapshot.Session.later d.now seconds with
    | error failure => rw [later] at played; cases played
    | ok now => rw [later] at played; cases played; exact ⟨none_sent, rfl⟩
  | overwrite turn row column datum =>
    simp only [play] at played
    split at played
    · rename_i answer _
      cases written : answer.write row column datum with
      | error failure => rw [written] at played; cases played
      | ok shown => rw [written] at played; cases played; exact ⟨none_sent, rfl⟩
    · cases played
  | close =>
    cases played
    refine ⟨?_, rfl⟩
    unfold Engine.close
    split <;> exact none_sent
  | clear => cases played; exact ⟨none_sent, rfl⟩

theorem turn_permitted {s after : Session} {script : List Reply} {t : Turn} {report : Turn.Report}
    (turned : s.turn script t = .ok (report, after)) :
    (∀ sent ∈ report.statements, t.Permits s.desk.settings sent.sql) ∧
      after.desk.settings = s.desk.settings := by
  simp only [turn] at turned
  cases played : s.play (s.desk.withScript script) t with
  | error failure => rw [played] at turned; cases turned
  | ok outcome =>
    rw [played] at turned
    cases turned
    obtain ⟨permitted, same⟩ := play_permitted played rfl
    refine ⟨?_, same⟩
    intro sent member
    exact permitted sent (List.mem_reverse.mp member)

/-- The statements that are reported for a turn are permitted for one of its requests. -/
def Permitted (s : Settings) (t : List Reply × Turn) (report : Turn.Report) : Prop :=
  ∀ sent ∈ report.statements, t.2.Permits s sent.sql

theorem run_permitted {s : Session} {turns : List (List Reply × Turn)} {reports : List Turn.Report}
    (ran : s.run turns = .ok reports) :
    List.Forall₂ (Permitted s.desk.settings) turns reports := by
  induction turns generalizing s reports with
  | nil => cases ran; exact .nil
  | cons t rest ih =>
    simp only [run] at ran
    cases turned : s.turn t.1 t.2 with
    | error failure => rw [turned] at ran; cases ran
    | ok result =>
      obtain ⟨report, after⟩ := result
      rw [turned] at ran
      cases later : after.run rest with
      | error failure => simp [later, Bind.bind, Except.bind] at ran
      | ok reports =>
        simp only [later, Bind.bind, Except.bind, Except.ok.injEq] at ran
        subst ran
        obtain ⟨permitted, same⟩ := turn_permitted turned
        have tail := ih later
        rw [same] at tail
        exact .cons permitted tail

end Session

theorem Call.query_refused {s : Settings} {r : StatementRequest} {failure : Failure}
    (refused : Guard.check s.policy .general r.sql = .error failure) :
    (Call.query r).plan s = .done (.error failure) := by
  have browsed := Plan.browse_refused (q := .plain r.sql) r.source r.cache refused
  simp only [plan]
  rw [browsed]
  rfl

theorem Call.aggregation_refused {s : Settings} {r : AggregationRequest} {table : Sql.Name}
    {q : Sql.Query} {failure : Failure} (named : Sql.tableName r.source = .ok table)
    (compiled : Sql.aggregation table.text r = .ok q)
    (refused : Guard.check s.policy .general q.sql = .error failure) :
    (Call.aggregation r).plan s = .done (.error failure) := by
  have resolved : Plan.tableOf r.source = .ok table.text := by
    unfold Plan.tableOf
    rw [named]
    rfl
  have browsed := Plan.browse_refused (q := q) (some r.source) r.cache refused
  simp only [plan, Plan.aggregation]
  rw [resolved]
  change Plan.bind (Plan.bind (liftM (Failure.ofRequest (Sql.aggregation table.text r))) _) _ = _
  rw [compiled]
  change Plan.bind (Plan.bind (Plan.browse s q (some r.source) r.cache) _) _ = _
  rw [browsed]
  rfl

/-- In every session, whatever the engine answers, each statement that reaches it has been accepted
    by the guard in the mode of a call of that turn or is one of the catalog's; and a text that the
    guard refuses is refused to a query and to an aggregation whatever has been kept. -/
theorem Session.engine_receives_permitted (s : Session) (turns : List (List Reply × Turn)) :
    (∀ reports, s.run turns = .ok reports →
      List.Forall₂ (Permitted s.desk.settings) turns reports) ∧
    ∀ (d : Desk) (failure : Failure),
      (∀ r : StatementRequest, Guard.check d.settings.policy .general r.sql = .error failure →
        ((Call.query r).plan d.settings).run d = (.error failure, d)) ∧
      (∀ (r : AggregationRequest) (table : Sql.Name) (q : Sql.Query),
        Sql.tableName r.source = .ok table → Sql.aggregation table.text r = .ok q →
        Guard.check d.settings.policy .general q.sql = .error failure →
        ((Call.aggregation r).plan d.settings).run d = (.error failure, d)) := by
  refine ⟨fun reports ran => run_permitted ran, fun d failure => ⟨?_, ?_⟩⟩
  · intro r refused
    rw [Call.query_refused refused]
    rfl
  · intro r table q named compiled refused
    rw [Call.aggregation_refused named compiled refused]
    rfl

/-- The tables are listed, a query is sent anew, and a streamed statement that would delete and a
    query that would drop are not sent. -/
theorem Session.engine_receives_permitted_refusing :
    let settings : Settings := { Settings.default with cacheEnabled := true }
    let one : List Reply := [.rows (.ofList [.text "n"] [[.int 1]] none)]
    let turns : List (List Reply × Turn) :=
      [(one, .call (.ok (.call .tables))),
        (one, .call (.ok (.call (.query ⟨"SELECT 1", none, some false⟩)))),
        (one, .call (.ok (.call (.stream (.text "DELETE FROM t"))))),
        (one, .call (.ok (.call (.query ⟨"DROP TABLE t", none, none⟩))))]
    let sum : AggregationRequest := ⟨"a", [⟨"dropped", "sum", none⟩], none, none, none, none⟩
    ((Session.start settings).run turns).toOption.map (·.map (·.statements.length)) =
      some [1, 1, 0, 0] ∧
    (∃ reports, (Session.start settings).run turns = .ok reports ∧
      List.Forall₂ (Permitted settings) turns reports) ∧
    ∃ d failure,
      ((Call.query ⟨"DROP TABLE t", none, none⟩).plan settings).run d = (.error failure, d) ∧
      ((Call.aggregation sum).plan settings).run d = (.error failure, d) := by
  intro settings one turns sum
  have table : Sql.tableName sum.source = .ok ⟨"data_source_a", by decide⟩ := rfl
  have every := (Session.start settings).engine_receives_permitted turns
  obtain ⟨queries, aggregations⟩ :=
    every.2 (.start settings (.ofScript []) Snapshot.sessionStart)
      (.refused (.forbidden .destructive))
  exact ⟨by decide +kernel, ⟨_, rfl, every.1 _ rfl⟩, _, _, queries _ rfl,
    aggregations sum _ _ table rfl rfl⟩

end QueryDesk
