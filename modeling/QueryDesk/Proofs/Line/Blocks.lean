import QueryDesk.Proofs.Line.Exclusion
import QueryDesk.Proofs.Plan.Every

namespace QueryDesk

variable {α : Type}

inductive Contact where
  | execute (i : Nat)
  | fetch (i : Nat)
deriving DecidableEq

def Contact.caller : Contact → Nat
  | .execute i | .fetch i => i

/-- A statement that a caller's worker has sent, and the reply to it; there is none if the engine is
    closed. -/
structure Block where
  caller : Nat
  job : Job
  reply : Option Reply

namespace Block

def exchange (b : Block) : Nat × Except Failure Pull :=
  b.reply.elim (0, .error .closed) b.job.reading.answer

def outcome (b : Block) : Except Failure Pull := b.exchange.2

def contacts (b : Block) : List Contact :=
  if b.reply.isSome then .execute b.caller :: List.replicate b.exchange.1 (.fetch b.caller) else []

theorem caller_of_contacts {b : Block} {c : Contact} (made : c ∈ b.contacts) :
    c.caller = b.caller := by
  unfold contacts at made
  split at made
  · rcases List.mem_cons.mp made with rfl | fetched
    · rfl
    · rw [List.eq_of_mem_replicate fetched]
      rfl
  · cases made

def sent (b : Block) : Sent :=
  ⟨b.job.statement.text,
    if b.job.statement.params.isEmpty then none else some b.job.statement.params, b.exchange.1⟩

end Block

def Engine.upcoming (e : Engine) : Option Reply := if e.closed then none else some e.nextReply

theorem Engine.exchange_eq (e : Engine) (i : Nat) (job : Job) :
    e.exchange job = (Block.mk i job e.upcoming).exchange := by
  unfold exchange upcoming Block.exchange
  split <;> rfl

theorem Engine.closed_perform (e : Engine) (job : Job) : (e.perform job).2.closed = e.closed := by
  unfold perform
  cases closed : e.closed <;> simp [closed]

theorem Engine.script_perform {e : Engine} (isOpen : e.closed = false) (job : Job) :
    (e.perform job).2.script = e.script.tail := by
  simp [perform, isOpen]

namespace Line

def contacts (l : Line α) : Event → List Contact
  | .send i =>
    match l.callers[i]? with
    | some ⟨_, some (.unsent _)⟩ => if l.desk.engine.closed then [] else [.execute i]
    | _ => []
  | .respond i => if 1 < l.callsLeft i then [.fetch i] else []
  | _ => []

def opened (l : Line α) : Event → List Block
  | .send i =>
    match l.callers[i]? with
    | some ⟨_, some (.unsent job)⟩ => [⟨i, job, l.desk.engine.upcoming⟩]
    | _ => []
  | _ => []

def trace (l : Line α) : List Event → List Contact
  | [] => []
  | e :: rest => l.contacts e ++ (l.step e).trace rest

def blocks (l : Line α) : List Event → List Block
  | [] => []
  | e :: rest => l.opened e ++ (l.step e).blocks rest

/-- The fetches that are still to be made before the connection is passed on. The call that the worker
    waits for has been made. -/
def outstanding (l : Line α) : List Contact :=
  match l.holder with
  | some i => List.replicate (l.callsLeft i - 1) (.fetch i)
  | none => []

theorem trace_concat (l : Line α) (events : List Event) (e : Event) :
    l.trace (events ++ [e]) = l.trace events ++ (l.after events).contacts e := by
  induction events generalizing l with
  | nil => simp [trace, after]
  | cons first rest ih =>
    simp only [List.cons_append, trace, ih, List.append_assoc]
    rfl

theorem blocks_concat (l : Line α) (events : List Event) (e : Event) :
    l.blocks (events ++ [e]) = l.blocks events ++ (l.after events).opened e := by
  induction events generalizing l with
  | nil => simp [blocks, after]
  | cons first rest ih =>
    simp only [List.cons_append, blocks, ih, List.append_assoc]
    rfl

variable {l next : Line α} {i : Nat}

theorem Exclusive.outstanding_eq (exclusive : l.Exclusive) (busy : 0 < l.callsLeft i) :
    l.outstanding = List.replicate (l.callsLeft i - 1) (.fetch i) := by
  unfold outstanding
  rw [exclusive i busy]

theorem outstanding_eq_nil (idle : ∀ i, l.callsLeft i = 0) : l.outstanding = [] := by
  unfold outstanding
  split
  · rw [idle]; rfl
  · rfl

theorem Exclusive.outstanding_congr (exclusive : l.Exclusive) (later : next.Exclusive)
    (same : ∀ i, next.callsLeft i = l.callsLeft i) : next.outstanding = l.outstanding := by
  by_cases busy : ∃ i, 0 < l.callsLeft i
  · obtain ⟨i, busy⟩ := busy
    have still : 0 < next.callsLeft i := by rw [same]; exact busy
    rw [exclusive.outstanding_eq busy, later.outstanding_eq still, same]
  · have idle : ∀ i, l.callsLeft i = 0 := fun i => by
      have none_left : ¬ 0 < l.callsLeft i := fun left => busy ⟨i, left⟩
      omega
    rw [outstanding_eq_nil idle, outstanding_eq_nil fun i => (same i).trans (idle i)]

theorem Exclusive.idle_of_unsent (exclusive : l.Exclusive) (orderly : l.Orderly) {stage : Stage α}
    {job : Job} (found : l.callers[i]? = some ⟨stage, some (.unsent job)⟩) (j : Nat) :
    l.callsLeft j = 0 := by
  by_contra busy
  have held := exclusive j (Nat.pos_of_ne_zero busy)
  have own : i = j := Option.some.inj ((orderly.holder_of_unsent found).symm.trans held)
  subst own
  exact busy (callsLeft_eq found)

theorem send_eq {stage : Stage α} {job : Job}
    (found : l.callers[i]? = some ⟨stage, some (.unsent job)⟩) :
    l.send i = ({ l with desk := (l.desk.perform job).2 } : Line α).put i stage
      (some (.sent (l.desk.engine.calls job) (l.desk.perform job).1)) := by
  unfold send
  simp only [found]

theorem send_of_idle (idle : ∀ stage job, l.callers[i]? ≠ some ⟨stage, some (.unsent job)⟩) :
    l.send i = l ∧ l.opened (.send i) = [] ∧ l.contacts (.send i) = [] := by
  have unsent : ∀ stage job, l.callers[i]? = some ⟨stage, some (.unsent job)⟩ → False := idle
  refine ⟨?_, ?_, ?_⟩
  · simp only [send]
  · simp only [opened]
  · simp only [contacts]

theorem opened_of_ne {e : Event} (unsent : ∀ i, e ≠ .send i) : l.opened e = [] := by
  cases e with
  | send i => exact absurd rfl (unsent i)
  | _ => rfl

theorem opened_send {stage : Stage α} {job : Job}
    (found : l.callers[i]? = some ⟨stage, some (.unsent job)⟩) :
    l.opened (.send i) = [⟨i, job, l.desk.engine.upcoming⟩] := by
  simp only [opened, found]

theorem callsLeft_send {stage : Stage α} {job : Job}
    (found : l.callers[i]? = some ⟨stage, some (.unsent job)⟩) :
    (l.send i).callsLeft i = l.desk.engine.calls job := by
  have known : i < ({ l with desk := (l.desk.perform job).2 } : Line α).callers.length :=
    known_of_getElem? found
  rw [send_eq found, callsLeft_eq (getElem?_put_self known _ _)]
  rfl

theorem callsLeft_respond (l : Line α) (i : Nat) :
    (l.respond i).callsLeft i = l.callsLeft i - 1 := by
  unfold respond
  split
  · rename_i stage left outcome found
    rw [callsLeft_eq found, callsLeft_eq (getElem?_put_self (known_of_getElem? found) _ _)]
    rfl
  · rename_i done
    unfold callsLeft
    split
    · rename_i stage left outcome found
      cases left with
      | zero => rfl
      | succ left => exact absurd found (done stage left outcome)
    · rfl

theorem contacts_respond (exclusive : l.Exclusive) :
    l.contacts (.respond i) ++ (l.respond i).outstanding = l.outstanding := by
  by_cases busy : 0 < l.callsLeft i
  · have next : (l.respond i).outstanding = List.replicate (l.callsLeft i - 1 - 1) (.fetch i) := by
      unfold outstanding
      have held : (l.respond i).holder = l.holder := by unfold respond; split <;> rfl
      rw [held, exclusive i busy, ← callsLeft_respond]
    rw [next, exclusive.outstanding_eq busy]
    by_cases last : l.callsLeft i = 1
    · simp [contacts, last]
    · have made : l.contacts (.respond i) = [.fetch i] := if_pos (by omega)
      rw [made, List.singleton_append, ← List.replicate_succ]
      congr 1
      omega
  · have made : l.contacts (.respond i) = [] := if_neg (by omega)
    have unchanged : l.respond i = l := by
      unfold respond
      split
      · rename_i stage left outcome found
        rw [callsLeft_eq found] at busy
        exact absurd (Nat.succ_pos left) busy
      · rfl
    rw [made, unchanged, List.nil_append]

/-- A statement that is sent opens a block: nothing is outstanding before it, and all its fetches
    are after it. -/
theorem contacts_send (orderly : l.Orderly) (exclusive : l.Exclusive) :
    l.contacts (.send i) ++ (l.send i).outstanding =
      l.outstanding ++ (l.opened (.send i)).flatMap Block.contacts := by
  by_cases sends : ∃ stage job, l.callers[i]? = some ⟨stage, some (.unsent job)⟩
  · obtain ⟨stage, job, found⟩ := sends
    have before : l.outstanding = [] := outstanding_eq_nil (exclusive.idle_of_unsent orderly found)
    have held : (l.send i).holder = some i := by
      rw [send_eq found]
      exact orderly.holder_of_unsent found
    have after : (l.send i).outstanding =
        List.replicate (l.desk.engine.calls job - 1) (.fetch i) := by
      unfold outstanding
      rw [held, ← callsLeft_send found]
    rw [before, after, opened_send found, List.nil_append, List.flatMap_singleton, Engine.calls,
      l.desk.engine.exchange_eq i]
    simp only [contacts, found, Block.contacts]
    cases closed : l.desk.engine.closed with
    | true => simp [Engine.upcoming, closed]
    | false => simp [Engine.upcoming, closed]
  · obtain ⟨unchanged, unopened, quiet⟩ :=
      send_of_idle (l := l) (i := i) fun stage job found => sends ⟨stage, job, found⟩
    rw [unchanged, quiet, unopened, List.flatMap_nil, List.append_nil, List.nil_append]

theorem contacts_step (orderly : l.Orderly) (exclusive : l.Exclusive) {e : Event}
    (kept : ∀ i, e = .cancel i → ¬ l.CutsOff i) :
    l.contacts e ++ (l.step e).outstanding =
      l.outstanding ++ (l.opened e).flatMap Block.contacts := by
  have later := exclusive.step orderly kept
  by_cases unsent : ∀ i, e ≠ .send i
  · by_cases unanswered : ∀ i, e ≠ .respond i
    · have same := exclusive.outstanding_congr later (callsLeft_step orderly unsent unanswered)
      cases e with
      | send i => exact absurd rfl (unsent i)
      | respond i => exact absurd rfl (unanswered i)
      | start i => simp [contacts, opened, same]
      | grant => simp [contacts, opened, same]
      | resume i => simp [contacts, opened, same]
      | cancel i => simp [contacts, opened, same]
    · obtain ⟨i, rfl⟩ : ∃ i, e = .respond i := by simpa using unanswered
      have unopened : l.opened (.respond i) = [] := rfl
      rw [unopened, List.flatMap_nil, List.append_nil]
      exact contacts_respond exclusive
  · obtain ⟨i, rfl⟩ : ∃ i, e = .send i := by simpa using unsent
    exact contacts_send orderly exclusive

theorem trace_blocks {d : Desk} {plans : List (Plan α)} {events : List Event}
    (kept : ∀ before i, before ++ [.cancel i] <+: events →
      ¬ ((ofPlans d plans).after before).CutsOff i) :
    (ofPlans d plans).trace events ++ ((ofPlans d plans).after events).outstanding =
      ((ofPlans d plans).blocks events).flatMap Block.contacts := by
  -- from the end, since what is outstanding is told by the last state
  induction events using List.reverseRecOn with
  | nil => rfl
  | append_singleton events e ih =>
    have before : ∀ first i, first ++ [.cancel i] <+: events →
        ¬ ((ofPlans d plans).after first).CutsOff i :=
      fun first i cancelled => kept first i (cancelled.trans (by simp))
    have orderly := (orderly_ofPlans d plans).after events
    have last := contacts_step orderly (exclusive_after before) (e := e) (by
      rintro i rfl
      exact kept events i List.prefix_rfl)
    rw [trace_concat, blocks_concat, after_concat, List.append_assoc, last, ← List.append_assoc,
      ih before, List.flatMap_append]

theorem holder_of_outstanding {c : Contact} (left : c ∈ l.outstanding) :
    l.holder = some c.caller := by
  unfold outstanding at left
  split at left
  · rename_i i held
    rw [held, List.eq_of_mem_replicate left]
    rfl
  · cases left

theorem engine_proceed (l : Line α) (i : Nat) (p : Plan α) :
    (l.proceed i p).desk.engine = l.desk.engine := by
  induction p generalizing l with
  | done outcome => rfl
  | statement job next _ =>
    unfold proceed ask
    split <;> rfl
  | lookUp key next ih => exact ih _ _
  | keep content next ih => exact (ih _ _).trans (Desk.keep_engine l.desk content)

theorem desk_release (l : Line α) (i : Nat) : (l.release i).desk = l.desk := by
  unfold release; split <;> rfl

theorem desk_leave (l : Line α) (i : Nat) (worker : Option Worker) :
    (l.leave i worker).desk = l.desk := l.desk_release i

theorem Move.engine_eq {e : Event} (move : l.Move e next) (unsent : ∀ i, e ≠ .send i) :
    next.desk.engine = l.desk.engine := by
  cases move with
  | start found => exact engine_proceed l _ _
  | send found => exact absurd rfl (unsent _)
  | answer found => rw [engine_proceed, desk_release]
  | depart found => exact congrArg Desk.engine (desk_release l _)
  | abandon found impatient => exact congrArg Desk.engine (desk_leave l _ _)
  | giveUp found => exact congrArg Desk.engine (desk_leave l _ _)
  | _ => rfl

theorem engine_step (l : Line α) (e : Event) :
    (l.opened e = [] ∧ (l.step e).desk.engine = l.desk.engine) ∨
      ∃ b, l.opened e = [b] ∧ b.reply = l.desk.engine.upcoming ∧
        (l.step e).desk.engine = (l.desk.engine.perform b.job).2 := by
  by_cases unsent : ∀ i, e ≠ .send i
  · exact .inl ⟨opened_of_ne unsent, (l.move_step e).engine_eq unsent⟩
  · obtain ⟨i, rfl⟩ : ∃ i, e = .send i := by simpa using unsent
    by_cases sends : ∃ stage job, l.callers[i]? = some ⟨stage, some (.unsent job)⟩
    · obtain ⟨stage, job, found⟩ := sends
      refine .inr ⟨⟨i, job, l.desk.engine.upcoming⟩, opened_send found, rfl, ?_⟩
      simp only [step, send_eq found]
      rfl
    · obtain ⟨unchanged, unopened, _⟩ :=
        send_of_idle (l := l) (i := i) fun stage job found => sends ⟨stage, job, found⟩
      exact .inl ⟨unopened, by rw [step, unchanged]⟩

theorem reply_eq (l : Line α) (events : List Event) (k : Nat) {b : Block}
    (sent : (l.blocks events)[k]? = some b) :
    b.reply = if l.desk.engine.closed then none
      else some (l.desk.engine.script.getD k (.rows .none)) := by
  induction events generalizing l k with
  | nil => cases sent
  | cons e rest ih =>
    rcases l.engine_step e with ⟨unopened, same⟩ | ⟨first, opened, reply, next⟩
    · rw [blocks, unopened, List.nil_append] at sent
      rw [ih (l.step e) k sent, same]
    · rw [blocks, opened, List.singleton_append] at sent
      cases k with
      | zero =>
        cases sent
        rw [reply, Engine.upcoming, Engine.nextReply]
        cases l.desk.engine.script <;> rfl
      | succ k =>
        rw [ih (l.step e) k sent, next, Engine.closed_perform]
        split
        · rfl
        · rename_i isOpen
          rw [Engine.script_perform (Bool.eq_false_iff.mpr isOpen)]
          cases l.desk.engine.script <;> rfl

theorem isSome_reply {l : Line α} {events : List Event} {b : Block} (sent : b ∈ l.blocks events) :
    b.reply.isSome = !l.desk.engine.closed := by
  obtain ⟨k, found⟩ := List.mem_iff_getElem?.mp sent
  rw [l.reply_eq events k found]
  cases l.desk.engine.closed <;> rfl

theorem statements_after (l : Line α) (events : List Event)
    (isOpen : l.desk.engine.closed = false) : (l.after events).desk.engine.statements =
      l.desk.engine.statements ++ (l.blocks events).map Block.sent := by
  induction events generalizing l with
  | nil => simp [blocks, after]
  | cons e rest ih =>
    have later : (l.after (e :: rest)) = (l.step e).after rest := rfl
    rcases l.engine_step e with ⟨unopened, same⟩ | ⟨b, opened, reply, next⟩
    · rw [later, ih (l.step e) (by rw [same, isOpen]), blocks, unopened, same]
      rfl
    · have stillOpen : (l.step e).desk.engine.closed = false := by
        rw [next, Engine.closed_perform, isOpen]
      have exchange : l.desk.engine.exchange b.job = b.exchange := by
        rw [l.desk.engine.exchange_eq b.caller, ← reply]
      have log : (l.step e).desk.engine.log = b.sent :: l.desk.engine.log := by
        rw [next, Engine.log_perform, isOpen, exchange]
        rfl
      rw [later, ih (l.step e) stillOpen, blocks, opened]
      simp only [Engine.statements, log, List.reverse_cons, List.append_assoc,
        List.singleton_append, List.map_cons]

/-- A block whose caller does not hold the connection has been made to its end, before anything that
    was sent later. -/
theorem contacts_prefix {d : Desk} {plans : List (Plan α)} {events : List Event}
    (kept : ∀ before i, before ++ [.cancel i] <+: events →
      ¬ ((ofPlans d plans).after before).CutsOff i)
    {first last : List Block} {b : Block}
    (sent : (ofPlans d plans).blocks events = first ++ b :: last)
    (away : ((ofPlans d plans).after events).holder ≠ some b.caller) :
    first.flatMap Block.contacts ++ b.contacts <+: (ofPlans d plans).trace events := by
  have answered : ∀ x ∈ first ++ [b], x.reply.isSome = !d.engine.closed := fun x member => by
    have among : x ∈ (ofPlans d plans).blocks events := by
      rw [sent, List.append_cons]
      exact List.mem_append_left last member
    exact isSome_reply among
  have serial := trace_blocks kept
  rw [sent, List.flatMap_append, List.flatMap_cons, ← List.append_assoc] at serial
  rcases List.append_eq_append_iff.mp serial with ⟨missing, split, left⟩ | ⟨rest, split, _⟩
  · rcases List.eq_nil_or_concat missing with rfl | ⟨others, c, rfl⟩
    · simp [split]
    · -- the last call that is missing would be one for the holder
      have held : ((ofPlans d plans).after events).holder = some c.caller :=
        holder_of_outstanding (by simp [left])
      have ends : (first.flatMap Block.contacts ++ b.contacts).getLast? = some c := by
        rw [split]
        simp
      cases closed : d.engine.closed with
      | true =>
        have quiet : ∀ x ∈ first ++ [b], x.contacts = [] := fun x member => by
          simp [Block.contacts, answered x member, closed]
        have earlier : first.flatMap Block.contacts = [] :=
          List.flatMap_eq_nil_iff.mpr fun x member => quiet x (by simp [member])
        rw [quiet b (by simp), earlier] at ends
        cases ends
      | false =>
        have asked : b.contacts ≠ [] := by
          simp [Block.contacts, answered b (by simp), closed]
        have own : c ∈ b.contacts := by
          rw [List.getLast?_append, List.getLast?_eq_some_getLast asked, Option.some_or] at ends
          cases ends
          exact List.getLast_mem asked
        exact absurd (Block.caller_of_contacts own ▸ held) away
  · exact ⟨rest, split.symm⟩

end Line

end QueryDesk
