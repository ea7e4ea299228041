import QueryDesk.Desk.Session

namespace QueryDesk

/-- A place where engines can be connected to: the engine that is there, or why there is none. -/
structure Dock where
  engine : Engine
  refusal : Option EngineFault
  /-- The databases that were to be connected to, the latest first. -/
  attempts : List Text

namespace Dock

def ofScript (script : List Reply) (refusal : Option EngineFault) : Dock :=
  ⟨.ofScript script, refusal, []⟩

/-- The statements that configure an engine. A number of threads that is too long to be written keeps
    any of them from being sent. -/
def configuration (s : Settings) : Except Failure (List Sql.Query) := do
  let threads : List Sql.Query ← match s.threads with
    | some n =>
      if n = 0 then .ok []
      else do
        let digits ← Failure.ofRequest (Sql.number n)
        .ok [.plain (("SET threads = " : Text) ++ digits)]
    | none => .ok []
  let memory : List Sql.Query := match s.memoryLimit with
    | some limit =>
      if limit.isEmpty then [] else [.plain (("SET memory_limit = '" : Text) ++ limit ++ "'")]
    | none => []
  .ok (threads ++ memory ++ [.plain "SET enable_progress_bar = false"])

def configure (e : Engine) : List Sql.Query → Except Failure Unit × Engine
  | [] => (.ok (), e)
  | q :: rest =>
    match e.perform ⟨q.statement, .nothing, true⟩ with
    | (.ok _, e) => configure e rest
    | (.error failure, e) => (.error failure, e)

/-- Connects to the database of the settings and configures the engine. An engine that cannot be
    configured is not closed. -/
def connect (d : Dock) (s : Settings) : Except Failure Unit × Dock :=
  let d := { d with attempts := s.databasePath :: d.attempts }
  match d.refusal with
  | some fault => (.error (.engine fault), d)
  | none =>
    match configuration s with
    | .error failure => (.error failure, d)
    | .ok statements =>
      let (outcome, engine) := configure d.engine statements
      (outcome, { d with engine })

def desk (d : Dock) (s : Settings) : Desk := .start s d.engine Snapshot.sessionStart

end Dock

inductive Probe where
  | ping
  | close
  | closed
  | connection

def Engine.probe (e : Engine) (s : Settings) : Probe → Except Failure (Option Bool) × Engine
  | .ping =>
    let (outcome, d) := Plan.ping.run (.start s e Snapshot.sessionStart)
    (outcome.map some, d.engine)
  | .close => (.ok none, e.close)
  | .closed => (.ok (some e.closed), e)
  | .connection => (if e.closed then .error .closed else .ok (some true), e)

def Engine.probes (e : Engine) (s : Settings) : List Probe → List (Except Failure (Option Bool)) × Engine
  | [] => ([], e)
  | p :: rest =>
    let (answer, e) := e.probe s p
    let (answers, e) := e.probes s rest
    (answer :: answers, e)

namespace Dock

def openAndProbe (d : Dock) (s : Settings) (probes : List Probe) :
    Except Failure (List (Except Failure (Option Bool))) × Dock :=
  match d.connect s with
  | (.error failure, d) => (.error failure, d)
  | (.ok (), d) =>
    let (answers, engine) := d.engine.probes s probes
    (.ok answers, { d with engine })

def createDesk (d : Dock) (s : Settings) (ready : Bool) : Except Failure Desk × Dock :=
  if ready then (.ok (d.desk s), d)
  else
    match d.connect s with
    | (.error failure, d) => (.error failure, d)
    | (.ok (), d) => (.ok (d.desk s), d)

/-- What comes of the use of an engine: what was seen, unless the use was over before, how it failed if
    it did, and the engine after it. -/
structure Use (α : Type) where
  seen : Option α
  failure : Option Failure
  engine : Engine

/-- Opens the database and lets its engine be used. However the use ends, the engine is closed after
    it. -/
def lend {α : Type} (d : Dock) (s : Settings) (use : Engine → Use α) :
    Option α × Option Failure × Dock :=
  match d.connect s with
  | (.error failure, d) => (none, some failure, d)
  | (.ok (), d) =>
    let used := use d.engine
    (used.seen, used.failure, { d with engine := used.engine.close })

/-- The use of an engine by a host: a ping, and then what the host does with the desk. -/
def Use.afterPing {α : Type} (s : Settings) (body : Desk → Use α) (e : Engine) : Use α :=
  match Plan.ping.run (.start s e Snapshot.sessionStart) with
  | (.error failure, d) => ⟨none, some failure, d.engine⟩
  | (.ok _, d) => body d

/-- The log is set up at the level of the settings, unless there is one already. -/
def startLog (s : Settings) (logged : Bool) : Except Failure Unit :=
  if logged then .ok () else (LogLevel.ofName s.logLevel).map fun _ => ()

/-- The life of a host: the log is set up, then the database is opened and used. -/
def serve {α : Type} (d : Dock) (s : Settings) (logged : Bool) (body : Desk → Use α) :
    Option α × Option Failure × Dock :=
  match startLog s logged with
  | .error failure => (none, some failure, d)
  | .ok () => d.lend s (Use.afterPing s body)

/-- A desk with callers that come and go in any order, until the host ends. -/
def Use.ofCallers {α : Type} (plans : List (Plan α)) (events : List Line.Event)
    (failure : Option Failure) (d : Desk) : Use (Line α) :=
  let l := (Line.ofPlans d plans).after events
  ⟨some l, failure, l.desk.engine⟩

/-- A host that makes one call at its desk, after which it may fail. -/
structure Visitor where
  request : Except Failure AnyCall
  failure : Option EngineFault

/-- What can be seen of a visit: whether the engine was closed at the time of the call, and what was
    answered to the call. -/
structure Visited where
  closed : Bool
  answer : Except Failure Answer

def Visitor.body (v : Visitor) (s : Settings) (d : Desk) : Use Visited :=
  let closed := d.engine.closed
  let (answer, d) := (planOf s v.request).run d
  ⟨some ⟨closed, answer⟩, v.failure.map .engine, d.engine⟩

def host (d : Dock) (s : Settings) (v : Visitor) : Option Visited × Option Failure × Dock :=
  d.serve s true (v.body s)

def paths (d : Dock) : List Text := d.attempts.reverse

end Dock

end QueryDesk
