import QueryDesk.Failure
import QueryDesk.Sql.Basic

namespace QueryDesk

inductive Fetched where
  | row (cells : List Datum)
  | finished
  | failed (fault : EngineFault)

/-- The rows of a running statement by the number of fetches made before, under column names that
    are known before the first fetch. -/
structure Cursor where
  columns : List Datum
  fetch : Nat → Fetched

namespace Cursor

/-- A cursor over the given rows, at the end of which it finishes or fails. -/
def ofList (columns : List Datum) (rows : List (List Datum)) (last : Option EngineFault) : Cursor :=
  let rows := rows.toArray
  ⟨columns, fun n =>
    match rows[n]? with
    | some cells => .row cells
    | none => last.elim .finished .failed⟩

def counting (columns : List Datum) (count : Nat) (last : Option EngineFault) : Cursor :=
  ⟨columns, fun n =>
    if n < count then .row [.int n] else last.elim .finished .failed⟩

def none : Cursor := ⟨[], fun _ => .finished⟩

end Cursor

inductive Reply where
  | rows (cursor : Cursor)
  | fault (fault : EngineFault)

/-- A statement as the engine received it: parameters only if there were any, and the number of
    fetches made for it. -/
structure Sent where
  sql : Datum
  params : Option (List Datum)
  fetches : Nat

/-- How many rows of a statement are wanted: none, one, or a cap with a look at whether more rows
    follow. A cap may also turn out to be of no use once the statement runs. -/
inductive Reading where
  | nothing
  | first
  | upTo (cap : Int)
  | useless (failure : Failure)

structure Pull where
  columns : List Datum
  rows : List (List Datum)
  more : Bool

structure Taken where
  rows : List (List Datum)
  fetches : Nat
  /-- The outcome that ended the fetching, if it was not that enough rows were there. -/
  stop : Option Fetched

def Cursor.take (c : Cursor) : (count start : Nat) → Taken
  | 0, _ => ⟨[], 0, .none⟩
  | count + 1, start =>
    match c.fetch start with
    | .row cells =>
      let rest := c.take count (start + 1)
      ⟨cells :: rest.rows, rest.fetches + 1, rest.stop⟩
    | outcome => ⟨[], 1, some outcome⟩

namespace Reading

def readUpTo (cursor : Cursor) (cap : Nat) : Nat × Except Failure Pull :=
  let taken := cursor.take cap 0
  match taken.stop with
  | some (.failed fault) => (taken.fetches, .error (.engine fault))
  | some _ => (taken.fetches, .ok ⟨cursor.columns, taken.rows, false⟩)
  | .none =>
    match cursor.fetch cap with
    | .failed fault => (taken.fetches + 1, .error (.engine fault))
    | .row _ => (taken.fetches + 1, .ok ⟨cursor.columns, taken.rows, true⟩)
    | .finished => (taken.fetches + 1, .ok ⟨cursor.columns, taken.rows, false⟩)

def greatestCap : Nat := 0x7FFFFFFFFFFFFFFF

def run (cursor : Cursor) : Reading → Nat × Except Failure Pull
  | nothing => (0, .ok ⟨cursor.columns, [], false⟩)
  | first =>
    match cursor.fetch 0 with
    | .row cells => (1, .ok ⟨cursor.columns, [cells], false⟩)
    | .finished => (1, .ok ⟨cursor.columns, [], false⟩)
    | .failed fault => (1, .error (.engine fault))
  | upTo cap =>
    if cap < 0 then (0, .error (.belowZero cap))
    else if greatestCap < cap.toNat then (0, .error .capBeyondWord)
    else readUpTo cursor cap.toNat
  | useless failure => (0, .error failure)

def answer (reading : Reading) : Reply → Nat × Except Failure Pull
  | .fault fault => (0, .error (.engine fault))
  | .rows cursor => reading.run cursor

end Reading

/-- A statement together with how many of its rows are wanted. -/
structure Job where
  statement : Sql.Statement
  reading : Reading
  /-- Whether a caller that is cancelled meanwhile waits for the statement to end. -/
  patient : Bool

/-- An engine that will give the replies of a script, and then empty ones. -/
structure Engine where
  script : List Reply
  /-- The statements received, the latest first. -/
  log : List Sent
  closed : Bool
  closings : Nat

namespace Engine

def ofScript (script : List Reply) : Engine := ⟨script, [], false, 0⟩

def nextReply (e : Engine) : Reply := e.script.headD (.rows .none)

def exchange (e : Engine) (job : Job) : Nat × Except Failure Pull :=
  if e.closed then (0, .error .closed) else job.reading.answer e.nextReply

/-- The number of calls on the engine that a statement takes: one to execute it, and one for each fetch.
    There is none on a closed engine. -/
def calls (e : Engine) (job : Job) : Nat := if e.closed then 0 else (e.exchange job).1 + 1

def perform (e : Engine) (job : Job) : Except Failure Pull × Engine :=
  let (fetches, result) := e.exchange job
  if e.closed then (result, e)
  else
    let params := if job.statement.params.isEmpty then .none else some job.statement.params
    let sent : Sent := ⟨job.statement.text, params, fetches⟩
    (result, { e with script := e.script.tail, log := sent :: e.log })

def close (e : Engine) : Engine :=
  if e.closed then e else { e with closed := true, closings := e.closings + 1 }

def statements (e : Engine) : List Sent := e.log.reverse

end Engine

end QueryDesk
