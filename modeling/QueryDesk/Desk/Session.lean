import QueryDesk.Call
import QueryDesk.Line.Settle
import QueryDesk.Snapshot.Session

namespace QueryDesk

/-- An answer whose cells, if it has any, can be overwritten. -/
inductive Shown where
  | grid (sheet : Sheet)
  | aggregation (sheet : Sheet) (summaries : List Summary)
  | preview (report : PreviewReport) (cells : List (List Datum))
  | other (answer : Answer)

def Answer.shown : Answer → Shown
  | .grid g => .grid g.copy
  | .aggregation r => .aggregation r.grid.copy r.summaries
  | .preview r => .preview r (cellsOf r.rows)
  | a => .other a

def Shown.write (a : Shown) (row column : Int) (d : Datum) : Except Failure Shown :=
  match a with
  | .grid sheet => .grid <$> sheet.write row column d
  | .aggregation sheet summaries => (.aggregation · summaries) <$> sheet.write row column d
  | .preview report cells => .preview report <$> writeCell cells row column d
  | .other _ => .error .noAttribute

inductive AnyCall where
  | call (c : Call)
  | direct (c : DirectCall)

def AnyCall.plan (s : Settings) : AnyCall → Plan Answer
  | .call c => c.plan s
  | .direct c => c.plan s

def planOf (s : Settings) : Except Failure AnyCall → Plan Answer
  | .ok c => c.plan s
  | .error failure => .done (.error failure)

inductive Turn where
  | call (request : Except Failure AnyCall)
  /-- Calls that start together. -/
  | together (requests : List (Except Failure AnyCall))
  /-- Calls that start together, the first of which is cancelled while its statement runs. -/
  | cancelled (first : Except Failure AnyCall) (others : List (Except Failure AnyCall))
  | advance (seconds : Except Failure Seconds)
  /-- A cell of the answer to an earlier turn is overwritten. -/
  | overwrite (turn : Nat) (row column : Int) (d : Datum)
  | close
  | clear

inductive Turn.Result where
  | answer (outcome : Except Failure Shown)
  | answers (outcomes : List (Except Failure Shown))
  /-- Whether the connection was still held, and whether the cancelled call was done, before the engine
      went on. -/
  | afterCancel (held done : Bool) (outcomes : List (Except Failure Shown))
  | moment (now : Instant)
  | closings (n : Nat)
  | nothing

/-- What can be seen of a turn: its result, the statements that were sent, the number of results kept
    if any are, and whether the connection is held. -/
structure Turn.Report where
  result : Turn.Result
  statements : List Sent
  kept : Option Nat
  held : Bool

namespace Desk

def withScript (d : Desk) (script : List Reply) : Desk :=
  { d with engine := { d.engine with script, log := [] } }

def lineUp (d : Desk) (requests : List (Except Failure AnyCall)) : Line Answer :=
  (Line.ofPlans d (requests.map (planOf d.settings))).startAll

def shown (outcomes : List (Except Failure Answer)) : List (Except Failure Shown) :=
  outcomes.map (·.map Answer.shown)

/-- The first call is cancelled once its statement has been sent; if the connection is free then, the
    next one gets it. -/
def cancelFirst (l : Line Answer) : Line Answer := l.after [.send 0, .cancel 0, .grant]

def hasEnded (l : Line Answer) (i : Nat) : Bool :=
  match l.callers[i]? with
  | some ⟨.ended _, _⟩ => true
  | _ => false

end Desk

/-- A desk, and the answers to the turns so far, where there was one. -/
structure Session where
  desk : Desk
  answers : List (Option Shown)

namespace Session

structure Outcome where
  result : Turn.Result
  desk : Desk
  held : Bool

def play (s : Session) (d : Desk) : Turn → Except Failure Outcome
  | .call request =>
    let (outcome, d) := (planOf d.settings request).run d
    .ok ⟨.answer (outcome.map Answer.shown), d, false⟩
  | .together requests =>
    let l := (d.lineUp requests).settle
    .ok ⟨.answers (Desk.shown l.outcomes), l.desk, l.holder.isSome⟩
  | .cancelled first others =>
    let running := Desk.cancelFirst (d.lineUp (first :: others))
    let l := running.settle
    .ok ⟨.afterCancel running.holder.isSome (Desk.hasEnded running 0) (Desk.shown l.outcomes), l.desk,
      l.holder.isSome⟩
  | .advance seconds => do
    let now ← Snapshot.Session.later d.now seconds
    .ok ⟨.moment now, { d with now }, false⟩
  | .overwrite turn row column datum => do
    let some answer := (s.answers[turn]?).join | throw .noAttribute
    .ok ⟨.answer (.ok (← answer.write row column datum)), d, false⟩
  | .close =>
    let engine := d.engine.close
    .ok ⟨.closings engine.closings, { d with engine }, false⟩
  | .clear => .ok ⟨.nothing, { d with store := d.store.clear }, false⟩

def remember (s : Session) (turn : Turn) (result : Turn.Result) : List (Option Shown) :=
  match turn, result with
  | .overwrite earlier .., .answer (.ok shown) => (s.answers.set earlier (some shown)) ++ [none]
  | _, .answer (.ok shown) => s.answers ++ [some shown]
  | _, _ => s.answers ++ [none]

def turn (s : Session) (script : List Reply) (t : Turn) : Except Failure (Turn.Report × Session) := do
  let outcome ← s.play (s.desk.withScript script) t
  let kept := if outcome.desk.settings.cacheEnabled then some outcome.desk.kept else none
  .ok (⟨outcome.result, outcome.desk.engine.statements, kept, outcome.held⟩,
    ⟨outcome.desk, s.remember t outcome.result⟩)

/-- The reports of turns, one after another; an impossible turn ends the session without any. -/
def run (s : Session) : List (List Reply × Turn) → Except Failure (List Turn.Report)
  | [] => .ok []
  | (script, t) :: rest => do
    let (report, s) ← s.turn script t
    .ok (report :: (← s.run rest))

def start (settings : Settings) : Session :=
  ⟨.start settings (.ofScript []) Snapshot.sessionStart, []⟩

end Session

end QueryDesk
