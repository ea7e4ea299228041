import QueryDesk.Plan.Basic
import QueryDesk.Report

namespace QueryDesk

/-- A statement to be sent, and how. Only statements whose names come from the engine's own catalog
    go unchecked. -/
structure Order where
  statement : Sql.Statement
  reading : Reading
  mode : Mode
  checked : Bool

namespace Order

def check (policy : Guard.Policy) (o : Order) : Except Failure Unit :=
  if o.checked then Guard.checkDatum policy o.mode o.statement.text else .ok ()

/-- What the engine is to do for an order. A caller that is cancelled waits for it. -/
def job (o : Order) : Job := ⟨o.statement, o.reading, true⟩

def pull (policy : Guard.Policy) (o : Order) : Plan Pull := do
  o.check policy
  Plan.send o.job

def grid (policy : Guard.Policy) (o : Order) : Plan Grid := do (← o.pull policy).grid

def records (policy : Guard.Policy) (o : Order) : Plan (List KeyedRecord) := do (← o.pull policy).records

end Order

namespace Plan

def fresh (s : Settings) (q : Sql.Query) (cap : Int) : Plan Grid :=
  Order.grid s.policy ⟨q.statement, .upTo cap, .general, true⟩

def catalog (s : Settings) (q : Sql.Query) (cap : Int) : Plan Grid :=
  Order.grid s.policy ⟨q.statement, .upTo cap, .general, false⟩

/-- A checked statement that is sent unless its result has been kept; a result that was sent for is
    kept. A forbidden statement is refused before anything is looked up. -/
def remembered (s : Settings) (q : Sql.Query) (source : Option Text) : Plan Grid := do
  Guard.check s.policy .general q.sql
  let key ← Snapshot.key q source
  match ← find key with
  | some grid => pure grid
  | none =>
    let grid ← fresh s q s.previewMaxRows
    save ⟨key, q.sql, grid, source⟩
    pure grid

/-- A checked statement that may be answered from the results kept, if the settings keep any and the
    request does not object. -/
def browse (s : Settings) (q : Sql.Query) (source : Option Text) (wanted : Option Bool) : Plan Grid :=
  if s.cacheEnabled && wanted != some false then remembered s q source
  else fresh s q s.previewMaxRows

/-- The text of a statement that is given as a datum; encoded texts are decoded. -/
def textOf (payload : Datum) : Except Failure Datum :=
  match payload with
  | .bytes b | .buffer b =>
    match Utf8.decode b with
    | .ok t => .ok (.text t)
    | .error fault => .error (.refused (.encoding fault))
  | d => .ok d

def streamOrder (s : Settings) (sql : Datum) : Order :=
  ⟨⟨sql, []⟩, .upTo s.streamMaxRows, .readOnly, true⟩

def streamed (s : Settings) (payload : Datum) : Plan (List KeyedRecord) := do
  let sql ← textOf payload
  (streamOrder s sql).records s.policy

def reportOf (records : List KeyedRecord) : Except Failure StreamReport :=
  Failure.ofChecked .streamReport
    (StreamReport.read [(.text "data", .list (records.map KeyedRecord.toDatum))])

def stream (s : Settings) (payload : Datum) : Plan StreamReport :=
  (streamed s payload).andThen fun
    | .ok records => done (reportOf records)
    | .error failure =>
      if failure.isInBand then pure ⟨[], some failure.message⟩ else done (.error failure)

end Plan

end QueryDesk
