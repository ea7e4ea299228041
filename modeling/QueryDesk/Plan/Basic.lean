import QueryDesk.Settings.Basic
import QueryDesk.Snapshot.Store

namespace QueryDesk

structure Desk where
  settings : Settings
  engine : Engine
  store : Snapshot.Store Grid
  now : Instant
  /-- What the clock shows after the next statements. After the last of these it stands still. -/
  ahead : List Instant

namespace Desk

def start (settings : Settings) (engine : Engine) (now : Instant) : Desk :=
  ⟨settings, engine, .ofLifetime (.whole settings.cacheSeconds), now, []⟩

def awaited (d : Desk) : Instant := d.ahead.headD d.now

def perform (d : Desk) (job : Job) : Except Failure Pull × Desk :=
  let (outcome, engine) := d.engine.perform job
  (outcome, { d with engine, now := d.awaited, ahead := d.ahead.tail })

def lookUp (d : Desk) (key : Text) : Option Grid × Desk :=
  let (entry, store) := d.store.lookup d.now key
  (entry.map (·.result), { d with store })

def keep (d : Desk) (content : Snapshot.Store.Content Grid) : Except Failure Unit × Desk :=
  match d.store.keep d.now content none with
  | .ok (_, store) => (.ok (), { d with store })
  | .error fault => (.error (.time fault), d)

def kept (d : Desk) : Nat := d.store.size

end Desk

inductive Plan (α : Type) where
  | done (outcome : Except Failure α)
  | statement (job : Job) (next : Except Failure Pull → Plan α)
  | lookUp (key : Text) (next : Option Grid → Plan α)
  | keep (content : Snapshot.Store.Content Grid) (next : Except Failure Unit → Plan α)

namespace Plan

variable {α β : Type}

def andThen (p : Plan α) (next : Except Failure α → Plan β) : Plan β :=
  match p with
  | done outcome => next outcome
  | statement job rest => statement job fun outcome => (rest outcome).andThen next
  | lookUp key rest => lookUp key fun found => (rest found).andThen next
  | keep content rest => keep content fun outcome => (rest outcome).andThen next

def bind (p : Plan α) (next : α → Plan β) : Plan β :=
  p.andThen fun
    | .ok a => next a
    | .error failure => done (.error failure)

instance : Monad Plan where
  pure a := done (.ok a)
  bind := bind

instance : MonadLift (Except Failure) Plan := ⟨done⟩

def send (job : Job) : Plan Pull := statement job done

def find (key : Text) : Plan (Option Grid) := lookUp key fun found => done (.ok found)

def save (content : Snapshot.Store.Content Grid) : Plan Unit := keep content done

/-- The outcome of a plan that runs alone, and the desk after it. -/
def run (p : Plan α) (d : Desk) : Except Failure α × Desk :=
  match p with
  | done outcome => (outcome, d)
  | statement job next =>
    let (outcome, d) := d.perform job
    (next outcome).run d
  | lookUp key next =>
    let (found, d) := d.lookUp key
    (next found).run d
  | keep content next =>
    let (outcome, d) := d.keep content
    (next outcome).run d

@[simp]
theorem andThen_done (p : Plan α) : p.andThen done = p := by
  induction p with
  | done outcome => rfl
  | statement job next ih => simp only [andThen]; congr; funext outcome; exact ih outcome
  | lookUp key next ih => simp only [andThen]; congr; funext found; exact ih found
  | keep content next ih => simp only [andThen]; congr; funext outcome; exact ih outcome

theorem run_andThen (p : Plan α) (next : Except Failure α → Plan β) (d : Desk) :
    (p.andThen next).run d = (next (p.run d).1).run (p.run d).2 := by
  induction p generalizing d with
  | done outcome => rfl
  | statement job rest ih => exact ih _ _
  | lookUp key rest ih => exact ih _ _
  | keep content rest ih => exact ih _ _

end Plan

end QueryDesk
