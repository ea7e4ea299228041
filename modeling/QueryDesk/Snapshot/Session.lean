import QueryDesk.Snapshot.Memory
import QueryDesk.Snapshot.Store

namespace QueryDesk

namespace Snapshot

/-- The start of the year 2024, where the clock of a session begins. -/
def sessionStart : Instant := ⟨738885 * microsPerDay, by decide⟩

def lifetimeOf : Datum → Except Failure Seconds
  | .int n => .ok (.whole n)
  | .bool b => .ok (.whole (if b then 1 else 0))
  | .float x => .ok (.real x)
  | _ => .error .unusable

/-- A store of results in a memory, and a clock that moves only when it is told to. Callers hold what
    they have made and the snapshots they were given, with all that is reached from there; of the
    entries they were handed, the latest first, they hold no part. -/
structure Session where
  /-- How long a result is kept unless told otherwise, as it was given. -/
  usual : Except Failure Seconds
  /-- Whether there is stack enough for a deep copy of what is at an address. -/
  fits : Memory → Nat → Bool
  store : Store Nat
  now : Instant
  memory : Memory
  held : List Nat
  handed : List (Entry Nat)

/-- A result to be kept, under what, and for how long if not for the usual time. -/
structure Deposit where
  key : Text
  sql : Text
  result : Nat
  source : Option Text
  lifetime : Option (Except Failure Seconds)

inductive Visit where
  | make (o : Object)
  | change (address : Nat) (o : Object)
  | keep (deposit : Deposit)
  | lookup (key : Text)
  | advance (seconds : Except Failure Seconds)
  | size
  | clear
  | snapshot (entry : Nat)
  /-- Whether an entry is expired a number of seconds after it was made. -/
  | isExpired (entry : Nat) (after : Except Failure Seconds)
  /-- An attempt to change a field of an entry. -/
  | assign (entry : Nat) (field : Text)

inductive Visit.Answer where
  | address (a : Nat)
  | entry (entry : Option (Entry Nat))
  | moment (now : Instant)
  | number (n : Nat)
  | flag (b : Bool)
  | nothing

namespace Session

def start (usual : Except Failure Seconds) (fits : Memory → Nat → Bool) : Session :=
  ⟨usual, fits, .ofLifetime (usual.toOption.getD (.whole 0)), sessionStart, .empty, [], []⟩

def later (i : Instant) (seconds : Except Failure Seconds) : Except Failure Instant := do
  (i.after (← seconds)).mapError .time

def holds (s : Session) (addresses : List Nat) : Bool := addresses.all (s.held.contains ·)

def entryAt (s : Session) (i : Nat) : Except Failure (Entry Nat) :=
  match s.handed[i]? with
  | some e => .ok e
  | none => .error .noAttribute

def copy (s : Session) (a : Nat) : Except Failure (Nat × Memory) :=
  match s.memory.get a with
  | .result .. => if s.fits s.memory a then .ok (s.memory.copy a) else .error .outOfStack
  | _ => .error .noAttribute

def keep (s : Session) (d : Deposit) (copy : Nat) : Except Failure (Entry Nat × Store Nat) := do
  let lifetime ← d.lifetime.getD s.usual
  (s.store.keep s.now ⟨d.key, d.sql, copy, d.source⟩ (some lifetime)).mapError .time

def visit (s : Session) : Visit → Except Failure Visit.Answer × Session
  | .make o =>
    if s.holds o.refs then
      (.ok (.address s.memory.size),
        { s with memory := s.memory.add o, held := s.memory.size :: s.held })
    else (.error .noAttribute, s)
  | .change a o =>
    if s.holds (a :: o.refs) && (s.memory.get a).canBecome o then
      (.ok .nothing, { s with memory := s.memory.write a o })
    else (.error .noAttribute, s)
  | .keep d =>
    match s.copy d.result with
    | .error failure => (.error failure, s)
    | .ok (copy, memory) =>
      -- the copy is there before it is known whether its end can be represented
      let s := { s with memory }
      match s.keep d copy with
      | .error failure => (.error failure, s)
      | .ok (entry, store) =>
        (.ok (.entry (some entry)), { s with store, handed := entry :: s.handed })
  | .lookup key =>
    let (found, store) := s.store.lookup s.now key
    (.ok (.entry found), { s with store, handed := found.toList ++ s.handed })
  | .advance seconds =>
    match later s.now seconds with
    | .ok now => (.ok (.moment now), { s with now })
    | .error failure => (.error failure, s)
  | .size => (.ok (.number s.store.size), s)
  | .clear => (.ok .nothing, { s with store := s.store.clear })
  | .snapshot i =>
    match (do s.copy (← s.entryAt i).result) with
    | .error failure => (.error failure, s)
    | .ok (copy, memory) =>
      (.ok (.address copy),
        { s with memory
                 held := List.range' s.memory.size (memory.size - s.memory.size) ++ s.held })
  | .isExpired i after =>
    (do
      let entry ← s.entryAt i
      .ok (.flag (entry.isExpired (← later entry.created after))), s)
  | .assign i field =>
    (do
      let _ ← s.entryAt i
      .error (.invalid .snapshot [⟨[.key field], .frozen⟩]), s)

end Session

abbrev Dealing := ExceptT Failure (StateM Session)

namespace Dealing

def ofExcept {α : Type} (outcome : Except Failure α) : Dealing α := ExceptT.mk (pure outcome)

def visit (v : Visit) : Dealing Visit.Answer := ExceptT.mk fun s => s.visit v

def addressed (v : Visit) : Dealing Nat := do
  let .address a ← visit v | throw .noAttribute
  return a

def make (o : Object) : Dealing Nat := addressed (.make o)

def snapshot (entry : Nat) : Dealing Nat := addressed (.snapshot entry)

def makeList {α : Type} (item : α → Dealing Nat) (items : List α) : Dealing Nat := do
  make (.list (← items.mapM item))

def makeGrid (g : Grid) : Dealing Nat := do
  let columns ← makeList (fun t => make (.value (.text t))) g.columns
  let rows ← makeList (makeList fun v => make (.value v.toDatum)) g.rows
  let rowCount ← make (.value (.int g.rowCount))
  let truncated ← make (.value (.bool g.truncated))
  make (.result columns rows rowCount truncated)

def itemAt (a : Nat) (index : Int) (absent : Failure) : Dealing (List Nat × Nat) := do
  let .list items := (← get).memory.get a | throw .noAttribute
  let some i := position? items.length index | throw absent
  return (items, i)

def overwrite (a : Nat) (row column : Int) (d : Datum) : Dealing Unit := do
  let .result _ rows _ _ := (← get).memory.get a | throw .noAttribute
  let (rows, i) ← itemAt rows row .emptyRow
  let (cells, k) ← itemAt (rows.getD i 0) column .noSuchCell
  let cell ← make (.value d)
  discard (visit (.change (rows.getD i 0) (.list (cells.set k cell))))

end Dealing

end Snapshot

end QueryDesk
