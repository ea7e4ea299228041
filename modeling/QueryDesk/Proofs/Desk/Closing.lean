import Mathlib.Data.Nat.Find
import QueryDesk.Desk.Opening
import QueryDesk.Proofs.Line.Blocks

namespace QueryDesk

namespace Engine

/-- What an engine can become while it is used: statements are sent to it, and it is closed. -/
inductive Becomes (e : Engine) : Engine → Prop
  | refl : Becomes e e
  | perform {e'} (earlier : Becomes e e') (job : Job) : Becomes e (e'.perform job).2
  | close {e'} (earlier : Becomes e e') : Becomes e e'.close

variable {e e' e'' : Engine}

theorem Becomes.trans (first : Becomes e e') (last : Becomes e' e'') : Becomes e e'' := by
  induction last with
  | refl => exact first
  | perform _ job ih => exact ih.perform job
  | close _ ih => exact ih.close

theorem closings_perform (e : Engine) (job : Job) : (e.perform job).2.closings = e.closings := by
  unfold perform
  cases e.closed <;> simp

theorem perform_of_closed (closed : e.closed = true) (job : Job) : (e.perform job).2 = e := by
  unfold perform
  rw [closed]
  rfl

theorem close_of_closed (closed : e.closed = true) : e.close = e := if_pos closed

@[simp]
theorem closed_close (e : Engine) : e.close.closed = true := by
  unfold close
  split
  · assumption
  · rfl

theorem Becomes.eq_of_closed (becomes : Becomes e e') (closed : e.closed = true) : e' = e := by
  induction becomes with
  | refl => rfl
  | perform _ job ih => rw [ih, perform_of_closed closed]
  | close _ ih => rw [ih, close_of_closed closed]

theorem Becomes.closings_close (becomes : Becomes e e') (isOpen : e.closed = false) :
    e'.close.closings = e.closings + 1 := by
  -- About what closing gives, because the engine may have been closed already.
  induction becomes with
  | refl => simp [Engine.close, isOpen]
  | @perform e' _ job ih =>
    unfold Engine.close at ih ⊢
    rw [apply_ite closings] at ih ⊢
    rwa [closed_perform, closings_perform]
  | close _ ih => rwa [close_of_closed (closed_close _)]

end Engine

section Used

variable {α : Type}

theorem Plan.becomes_run (p : Plan α) (d : Desk) : d.engine.Becomes (p.run d).2.engine := by
  induction p generalizing d with
  | done outcome => exact .refl
  | statement job next ih => exact (Engine.Becomes.refl.perform job).trans (ih _ (d.perform job).2)
  | lookUp key next ih => exact ih _ (d.lookUp key).2
  | keep content next ih =>
    have same : (d.keep content).2.engine = d.engine := by
      unfold Desk.keep
      split <;> rfl
    have later := ih (d.keep content).1 (d.keep content).2
    rw [same] at later
    exact later

theorem Line.becomes_step (l : Line α) (e : Event) :
    l.desk.engine.Becomes (l.step e).desk.engine := by
  rcases l.engine_step e with ⟨-, same⟩ | ⟨b, -, -, next⟩
  · rw [same]
    exact .refl
  · rw [next]
    exact .perform .refl b.job

theorem Line.becomes_after (l : Line α) (events : List Event) :
    l.desk.engine.Becomes (l.after events).desk.engine := by
  induction events generalizing l with
  | nil => exact .refl
  | cons e rest ih => exact (l.becomes_step e).trans (ih (l.step e))

end Used

def Sql.Query.unread (q : Sql.Query) : Sent :=
  ⟨.text q.sql, if q.params.isEmpty then none else some q.params, 0⟩

/-- The engine after it has replied to statements whose rows nobody reads. -/
def Engine.told (e : Engine) (statements : List Sql.Query) : Engine :=
  { e with
    script := e.script.drop statements.length
    log := (statements.map (·.unread)).reverse ++ e.log }

namespace Engine

variable (e : Engine) (statements : List Sql.Query)

theorem statements_told :
    (e.told statements).statements = e.statements ++ statements.map (·.unread) := by
  simp [Engine.statements, told]

theorem told_told (q : Sql.Query) : (e.told [q]).told statements = e.told (q :: statements) := by
  simp [told, List.drop_tail]

def Accepts (e : Engine) (count : Nat) : Prop :=
  ∀ k < count, ∀ fault, e.script[k]? ≠ some (.fault fault)

theorem script_told (q : Sql.Query) (k : Nat) : (e.told [q]).script[k]? = e.script[k + 1]? := by
  simp [told]

variable {e} in
theorem Accepts.tail {count : Nat} (accepts : e.Accepts (count + 1)) (q : Sql.Query) :
    (e.told [q]).Accepts count := by
  intro k bound
  rw [script_told]
  exact accepts (k + 1) (Nat.succ_lt_succ bound)

end Engine

namespace Dock

section Configure

variable {e : Engine} {statements : List Sql.Query}

theorem perform_unread (isOpen : e.closed = false) (q : Sql.Query) :
    e.perform ⟨q.statement, .nothing, true⟩ =
      ((Reading.nothing.answer e.nextReply).2, e.told [q]) := by
  have unfetched (r : Reply) : (Reading.nothing.answer r).1 = 0 := by cases r <;> rfl
  unfold Engine.perform Engine.exchange Engine.told
  rw [isOpen, List.length_singleton, List.drop_one]
  simp only [Bool.false_eq_true, if_false, unfetched]
  rfl

theorem configure_of_fault (isOpen : e.closed = false) (q : Sql.Query) {fault : EngineFault}
    (fails : e.script[0]? = some (.fault fault)) :
    configure e (q :: statements) = (.error (.engine fault), e.told [q]) := by
  have reply : e.nextReply = .fault fault := by
    rw [Engine.nextReply, List.headD_eq_head?_getD, List.head?_eq_getElem?, fails]
    rfl
  rw [configure, perform_unread isOpen, reply]
  rfl

theorem configure_of_accepts (isOpen : e.closed = false) (q : Sql.Query) {count : Nat}
    (accepts : e.Accepts (count + 1)) :
    configure e (q :: statements) = configure (e.told [q]) statements := by
  have reply : ∃ cursor, e.nextReply = .rows cursor := by
    rw [Engine.nextReply, List.headD_eq_head?_getD, List.head?_eq_getElem?]
    cases first : e.script[0]? with
    | none => exact ⟨_, rfl⟩
    | some r =>
      cases r with
      | rows cursor => exact ⟨cursor, rfl⟩
      | fault fault => exact absurd first (accepts 0 (Nat.succ_pos count) fault)
  obtain ⟨cursor, reply⟩ := reply
  rw [configure, perform_unread isOpen, reply]
  rfl

theorem configure_eq_ok (isOpen : e.closed = false) (accepts : e.Accepts statements.length) :
    configure e statements = (.ok (), e.told statements) := by
  induction statements generalizing e with
  | nil => rfl
  | cons q rest ih =>
    have later := ih (e := e.told [q]) isOpen (accepts.tail q)
    rw [configure_of_accepts isOpen q accepts, later, Engine.told_told]

theorem configure_eq_error (isOpen : e.closed = false) {k : Nat} {fault : EngineFault}
    (bound : k < statements.length) (fails : e.script[k]? = some (.fault fault))
    (accepts : e.Accepts k) :
    configure e statements = (.error (.engine fault), e.told (statements.take (k + 1))) := by
  induction statements generalizing e k with
  | nil => exact absurd bound (Nat.not_lt_zero k)
  | cons q rest ih =>
    cases k with
    | zero => rw [configure_of_fault isOpen q fails, List.take_succ_cons, List.take_zero]
    | succ k =>
      rw [← e.script_told q] at fails
      have later := ih (e := e.told [q]) isOpen (Nat.lt_of_succ_lt_succ bound) fails
        (accepts.tail q)
      rw [configure_of_accepts isOpen q accepts, later, Engine.told_told, List.take_succ_cons]

end Configure

/-- The engine that can be connected to accepts its configuration. -/
def Configures (d : Dock) (s : Settings) : Prop :=
  ∃ statements, configuration s = .ok statements ∧ d.engine.Accepts statements.length

/-- How an engine fails to be configured, and the statements that are sent to it until then. -/
inductive Misconfigured (d : Dock) (s : Settings) : Failure → List Sql.Query → Prop
  | unwritten {failure : Failure} (fails : configuration s = .error failure) :
    Misconfigured d s failure []
  | refused {statements : List Sql.Query} {k : Nat} {fault : EngineFault}
    (written : configuration s = .ok statements) (bound : k < statements.length)
    (fails : d.engine.script[k]? = some (.fault fault)) (accepts : d.engine.Accepts k) :
    Misconfigured d s (.engine fault) (statements.take (k + 1))

/-- The dock after its engine was connected to and sent some statements. -/
def opened (d : Dock) (s : Settings) (sent : List Sql.Query) : Dock :=
  { d with engine := d.engine.told sent, attempts := s.databasePath :: d.attempts }

section Connect

variable {d : Dock} {s : Settings} {statements sent : List Sql.Query} {failure : Failure}

theorem configures_or_misconfigured :
    d.Configures s ∨ ∃ failure sent, d.Misconfigured s failure sent := by
  classical
  refine or_iff_not_imp_left.mpr fun fails => ?_
  cases written : configuration s with
  | error failure => exact ⟨failure, [], .unwritten written⟩
  | ok statements =>
    have refused : ∃ k, k < statements.length ∧
        ∃ fault, d.engine.script[k]? = some (.fault fault) := by
      by_contra none
      push Not at none
      exact fails ⟨statements, written, none⟩
    -- The first of these ends the configuration.
    obtain ⟨bound, fault, refuses⟩ := Nat.find_spec refused
    refine ⟨_, _, .refused written bound refuses fun j before fault reply => ?_⟩
    exact Nat.find_min refused before ⟨Nat.lt_trans before bound, fault, reply⟩

theorem connect_of_configures (available : d.refusal = none) (isOpen : d.engine.closed = false)
    (written : configuration s = .ok statements) (accepts : d.engine.Accepts statements.length) :
    d.connect s = (.ok (), d.opened s statements) := by
  have configured := configure_eq_ok isOpen accepts
  simp only [connect, opened, available, written, configured]

theorem connect_of_misconfigured (available : d.refusal = none) (isOpen : d.engine.closed = false)
    (fails : d.Misconfigured s failure sent) : d.connect s = (.error failure, d.opened s sent) := by
  cases fails with
  | unwritten fails =>
    simp only [connect, opened, available, fails]
    rfl
  | refused written bound fails accepts =>
    have configured := configure_eq_error isOpen bound fails accepts
    simp only [connect, opened, available, written, configured]

end Connect

structure Settled (before after : Engine) : Prop where
  closed : after.closed = true
  once : after.closings = before.closings + 1
  final : ∀ later, after.Becomes later → later = after

theorem settled_close {e used : Engine} (isOpen : e.closed = false) (becomes : e.Becomes used) :
    Settled e used.close where
  closed := used.closed_close
  once := becomes.closings_close isOpen
  final _ later := later.eq_of_closed used.closed_close

theorem Use.becomes_afterPing {α : Type} (s : Settings) (body : Desk → Use α)
    (uses : ∀ desk : Desk, desk.engine.Becomes (body desk).engine) (e : Engine) :
    e.Becomes (Use.afterPing s body e).engine := by
  have pinged := Plan.becomes_run Plan.ping (.start s e Snapshot.sessionStart)
  unfold afterPing
  generalize Plan.ping.run (.start s e Snapshot.sessionStart) = run at pinged ⊢
  obtain ⟨outcome, desk⟩ := run
  cases outcome with
  | error failure => exact pinged
  | ok _ => exact Engine.Becomes.trans pinged (uses desk)

theorem Use.becomes_ofCallers {α : Type} (plans : List (Plan α)) (events : List Line.Event)
    (failure : Option Failure) (desk : Desk) :
    desk.engine.Becomes (Use.ofCallers plans events failure desk).engine :=
  (Line.ofPlans desk plans).becomes_after events

theorem Visitor.becomes_body (v : Visitor) (s : Settings) (desk : Desk) :
    desk.engine.Becomes (v.body s desk).engine :=
  (planOf s v.request).becomes_run desk

/-- An engine that received some statements and that nobody has closed. -/
structure LeftOpen (before after : Engine) (sent : List Sql.Query) : Prop where
  isOpen : after.closed = false
  closings : after.closings = before.closings
  statements : after.statements = before.statements ++ sent.map (·.unread)

section Lend

variable {α : Type} {d : Dock} {s : Settings} {statements sent : List Sql.Query} {failure : Failure}

theorem lend_of_connect_ok {d' : Dock} (connected : d.connect s = (.ok (), d'))
    (use : Engine → Use α) : d.lend s use = ((use d'.engine).seen, (use d'.engine).failure,
      { d' with engine := (use d'.engine).engine.close }) := by
  rw [lend, connected]

theorem lend_of_connect_error {d' : Dock} (refused : d.connect s = (.error failure, d'))
    (use : Engine → Use α) : d.lend s use = (none, some failure, d') := by
  rw [lend, refused]

theorem closed_lend_iff (available : d.refusal = none) (isOpen : d.engine.closed = false)
    (use : Engine → Use α) : (d.lend s use).2.2.engine.closed = true ↔ d.Configures s := by
  constructor
  · intro closed
    refine configures_or_misconfigured.resolve_right ?_
    rintro ⟨failure, sent, misconfigured⟩
    rw [lend_of_connect_error (connect_of_misconfigured available isOpen misconfigured)] at closed
    exact Bool.noConfusion (isOpen.symm.trans closed)
  · rintro ⟨statements, written, accepts⟩
    rw [lend_of_connect_ok (connect_of_configures available isOpen written accepts)]
    exact Engine.closed_close _

end Lend

/-- A host closes the engine if and only if the engine can be configured, and then does so once and
    for good, whatever the ping answers and however the host ends. If the log cannot be set up, no
    engine is connected to. -/
theorem serve_settles_configured (script : List Reply) (s : Settings) :
    let d := ofScript script none
    (∀ {α : Type} (use : Engine → Use α),
      (d.lend s use).2.2.engine.closed = true ↔ d.Configures s) ∧
    (d.Configures s ∨ ∃ failure sent, d.Misconfigured s failure sent) ∧
    (∀ {α : Type} (plans : List (Plan α)) events failure (desk : Desk),
      desk.engine.Becomes (Use.ofCallers plans events failure desk).engine) ∧
    ∀ {α : Type} (logged : Bool) (body : Desk → Use α),
      (∀ failure, startLog s logged = .error failure →
        d.serve s logged body = (none, some failure, d)) ∧
      (startLog s logged = .ok () → ∀ statements, configuration s = .ok statements →
        d.Configures s →
        let used := Use.afterPing s body (d.engine.told statements)
        d.serve s logged body = (used.seen, used.failure,
          { d.opened s statements with engine := used.engine.close }) ∧
        ((∀ desk : Desk, desk.engine.Becomes (body desk).engine) →
          Settled d.engine used.engine.close)) ∧
      (startLog s logged = .ok () → ∀ failure sent, d.Misconfigured s failure sent →
        d.serve s logged body = (none, some failure, d.opened s sent) ∧
        LeftOpen d.engine (d.opened s sent).engine sent) := by
  intro d
  have isOpen : d.engine.closed = false := rfl
  refine ⟨fun use => closed_lend_iff rfl isOpen use, configures_or_misconfigured,
    Use.becomes_ofCallers, fun logged body => ⟨fun failure unlogged => ?_,
      fun started statements written configures => ?_, fun started failure sent fails => ?_⟩⟩
  · rw [serve, unlogged]
  · obtain ⟨_, written', accepts⟩ := configures
    cases written.symm.trans written'
    have connected := connect_of_configures (d := d) rfl isOpen written accepts
    refine ⟨?_, fun uses => ?_⟩
    · rw [serve, started]
      exact lend_of_connect_ok connected _
    · have becomes := Use.becomes_afterPing s body uses (d.engine.told statements)
      obtain ⟨closed, once, final⟩ :=
        settled_close (e := d.engine.told statements) isOpen becomes
      exact ⟨closed, once, final⟩
  · refine ⟨?_, isOpen, rfl, d.engine.statements_told sent⟩
    rw [serve, started]
    exact lend_of_connect_error (connect_of_misconfigured rfl isOpen fails) _

/-- A visitor that asks for a ping and then fails, under the usual settings and under a memory limit
    that is refused. -/
theorem serve_settles_configured_visit :
    let v : Visitor := ⟨.ok (.direct .ping), some ⟨"ValueError", "stop", false⟩⟩
    let fault : EngineFault := ⟨"ParserException", "bad limit", true⟩
    let limited : Settings := { Settings.default with memoryLimit := some "lots" }
    Settled (.ofScript []) ((ofScript [] none).host .default v).2.2.engine ∧
      ((ofScript [.fault fault] none).host limited v).2.1 = some (.engine fault) ∧
      LeftOpen (.ofScript [.fault fault]) ((ofScript [.fault fault] none).host limited v).2.2.engine
        [.plain "SET memory_limit = 'lots'"] := by
  intro v fault limited
  constructor
  · obtain ⟨-, -, -, life⟩ := serve_settles_configured [] .default
    obtain ⟨-, closes, -⟩ := life true (v.body .default)
    have configures : (ofScript [] none).Configures .default := ⟨_, rfl, fun k _ fault => nofun⟩
    obtain ⟨ends, settled⟩ := closes rfl _ rfl configures
    rw [host, ends]
    exact settled (v.becomes_body .default)
  · obtain ⟨-, -, -, life⟩ := serve_settles_configured [.fault fault] limited
    obtain ⟨-, -, fails⟩ := life true (v.body limited)
    have written : configuration limited = .ok [.plain "SET memory_limit = 'lots'",
      .plain "SET enable_progress_bar = false"] := rfl
    obtain ⟨ends, leftOpen⟩ :=
      fails rfl _ _ (.refused (k := 0) written (Nat.succ_pos _) rfl nofun)
    rw [host, ends]
    exact ⟨rfl, leftOpen⟩

/-- A memory limit that the engine refuses leaves the engine open. -/
theorem refused_limit_left_open :
    ¬ ∀ script s (v : Visitor), ((ofScript script none).host s v).2.2.engine.closed = true := by
  intro always
  have closed := always [.fault ⟨"ParserException", "bad limit", true⟩]
    { Settings.default with memoryLimit := some "lots" } ⟨.ok (.direct .ping), none⟩
  exact Bool.false_ne_true closed

end Dock

end QueryDesk
