import QueryDesk.Plan.Basic

namespace QueryDesk

inductive Worker where
  | unsent (job : Job)
  /-- The number of calls on the engine that have not returned, and what will have come of them. -/
  | sent (left : Nat) (outcome : Except Failure Pull)

def Worker.abandoned : Worker → Option Worker
  | .unsent _ => none
  | w => some w

inductive Stage (α : Type) where
  | unstarted (plan : Plan α)
  /-- Waits in line for the connection. -/
  | queued (job : Job) (next : Except Failure Pull → Plan α)
  /-- Holds the connection and waits for its worker. -/
  | holding (job : Job) (next : Except Failure Pull → Plan α)
  /-- Has been cancelled, and keeps the connection until its worker is done. -/
  | leaving
  | ended (outcome : Except Failure α)

structure Caller (α : Type) where
  stage : Stage α
  worker : Option Worker

/-- A desk with callers, the numbers of those in line, and the number of the one that holds the
    connection. -/
structure Line (α : Type) where
  desk : Desk
  callers : List (Caller α)
  queue : List Nat
  holder : Option Nat

namespace Line

variable {α : Type}

def ofPlans (desk : Desk) (plans : List (Plan α)) : Line α :=
  ⟨desk, plans.map fun p => ⟨.unstarted p, none⟩, [], none⟩

def put (l : Line α) (i : Nat) (stage : Stage α) (worker : Option Worker) : Line α :=
  { l with callers := l.callers.set i ⟨stage, worker⟩ }

def ask (l : Line α) (i : Nat) (job : Job) (next : Except Failure Pull → Plan α) : Line α :=
  if l.holder.isNone && l.queue.isEmpty then
    { l.put i (.holding job next) (some (.unsent job)) with holder := some i }
  else { l.put i (.queued job next) none with queue := l.queue ++ [i] }

def proceed (l : Line α) (i : Nat) : Plan α → Line α
  | .done outcome => l.put i (.ended outcome) none
  | .statement job next => l.ask i job next
  | .lookUp key next =>
    let (found, desk) := l.desk.lookUp key
    proceed { l with desk } i (next found)
  | .keep content next =>
    let (outcome, desk) := l.desk.keep content
    proceed { l with desk } i (next outcome)

def release (l : Line α) (i : Nat) : Line α :=
  if l.holder = some i then { l with holder := none } else l

def start (l : Line α) (i : Nat) : Line α :=
  match l.callers[i]? with
  | some ⟨.unstarted plan, _⟩ => l.proceed i plan
  | _ => l

def grant (l : Line α) : Line α :=
  match l.holder, l.queue with
  | none, i :: queue =>
    match l.callers[i]? with
    | some ⟨.queued job next, _⟩ =>
      { l.put i (.holding job next) (some (.unsent job)) with queue, holder := some i }
    | _ => { l with queue }
  | _, _ => l

def send (l : Line α) (i : Nat) : Line α :=
  match l.callers[i]? with
  | some ⟨stage, some (.unsent job)⟩ =>
    let calls := l.desk.engine.calls job
    let (outcome, desk) := l.desk.perform job
    { l with desk }.put i stage (some (.sent calls outcome))
  | _ => l

/-- The call that the worker of a caller has made returns. If there is another one to make, the worker
    makes it at once. -/
def respond (l : Line α) (i : Nat) : Line α :=
  match l.callers[i]? with
  | some ⟨stage, some (.sent (left + 1) outcome)⟩ => l.put i stage (some (.sent left outcome))
  | _ => l

def resume (l : Line α) (i : Nat) : Line α :=
  match l.callers[i]? with
  | some ⟨.holding _ next, some (.sent 0 outcome)⟩ => (l.release i).proceed i (next outcome)
  | some ⟨.leaving, some (.sent 0 _)⟩ =>
    (l.release i).put i (.ended (.error .cancelled)) none
  | _ => l

def leave (l : Line α) (i : Nat) (worker : Option Worker) : Line α :=
  (l.release i).put i (.ended (.error .cancelled)) (worker.bind Worker.abandoned)

/-- A caller is cancelled. While its statement runs, a patient caller stays until it ends; one that is
    cancelled again, or is not patient, leaves at once. -/
def cancel (l : Line α) (i : Nat) : Line α :=
  match l.callers[i]? with
  | some ⟨.unstarted _, _⟩ => l.put i (.ended (.error .cancelled)) none
  | some ⟨.queued _ _, _⟩ =>
    { l with queue := l.queue.filter (· != i) }.put i (.ended (.error .cancelled)) none
  | some ⟨.holding job _, worker⟩ => if job.patient then l.put i .leaving worker else l.leave i worker
  | some ⟨.leaving, worker⟩ => l.leave i worker
  | _ => l

inductive Event where
  | start (i : Nat)
  | grant
  | send (i : Nat)
  | respond (i : Nat)
  | resume (i : Nat)
  | cancel (i : Nat)
deriving DecidableEq

def step (l : Line α) : Event → Line α
  | .start i => l.start i
  | .grant => l.grant
  | .send i => l.send i
  | .respond i => l.respond i
  | .resume i => l.resume i
  | .cancel i => l.cancel i

def after (l : Line α) (events : List Event) : Line α := events.foldl step l

end Line

end QueryDesk
