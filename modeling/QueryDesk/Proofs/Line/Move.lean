import QueryDesk.Proofs.Line.Events

namespace QueryDesk

variable {α : Type}

namespace Line

theorem callers_put (l : Line α) (i : Nat) (stage : Stage α) (worker : Option Worker) :
    (l.put i stage worker).callers = l.callers.set i ⟨stage, worker⟩ := rfl

theorem getElem?_put_of_ne (l : Line α) {i j : Nat} (ne : j ≠ i) (stage : Stage α)
    (worker : Option Worker) : (l.put i stage worker).callers[j]? = l.callers[j]? := by
  rw [callers_put, List.getElem?_set_ne ne.symm]

theorem getElem?_put_self {l : Line α} {i : Nat} (known : i < l.callers.length) (stage : Stage α)
    (worker : Option Worker) : (l.put i stage worker).callers[i]? = some ⟨stage, worker⟩ := by
  rw [callers_put, List.getElem?_set_self known]

@[simp]
theorem callers_release (l : Line α) (i : Nat) : (l.release i).callers = l.callers := by
  unfold release; split <;> rfl

theorem known_of_getElem? {l : Line α} {i : Nat} {c : Caller α} (found : l.callers[i]? = some c) :
    i < l.callers.length := by
  obtain ⟨known, _⟩ := List.getElem?_eq_some_iff.mp found
  exact known

@[simp]
theorem length_put (l : Line α) (i : Nat) (stage : Stage α) (worker : Option Worker) :
    (l.put i stage worker).callers.length = l.callers.length := by
  rw [callers_put, List.length_set]

@[simp]
theorem length_proceed (l : Line α) (i : Nat) (p : Plan α) :
    (l.proceed i p).callers.length = l.callers.length := by
  induction p generalizing l with
  | done outcome => exact length_put l i _ _
  | statement job next _ =>
    unfold proceed ask
    split
    · exact length_put l i _ _
    · exact length_put l i _ _
  | lookUp key next ih => exact ih _ _
  | keep content next ih => exact ih _ _

theorem getElem?_ask_of_ne (l : Line α) {i j : Nat} (ne : j ≠ i) (job : Job)
    (next : Except Failure Pull → Plan α) : (l.ask i job next).callers[j]? = l.callers[j]? := by
  unfold ask
  split
  · exact getElem?_put_of_ne l ne _ _
  · exact getElem?_put_of_ne l ne _ _

theorem getElem?_proceed_of_ne (l : Line α) {i j : Nat} (ne : j ≠ i) (p : Plan α) :
    (l.proceed i p).callers[j]? = l.callers[j]? := by
  induction p generalizing l with
  | done outcome => exact getElem?_put_of_ne l ne _ _
  | statement job next _ => exact l.getElem?_ask_of_ne ne job next
  | lookUp key next ih => exact ih _ _
  | keep content next ih => exact ih _ _

theorem getElem?_leave_of_ne (l : Line α) {i j : Nat} (ne : j ≠ i) (worker : Option Worker) :
    (l.leave i worker).callers[j]? = l.callers[j]? := by
  unfold leave
  rw [getElem?_put_of_ne _ ne, callers_release]

inductive Move (l : Line α) : Event → Line α → Prop
  | idle (e : Event) : Move l e l
  | start {i plan worker} (found : l.callers[i]? = some ⟨.unstarted plan, worker⟩) :
    Move l (.start i) (l.proceed i plan)
  | grant {i queue job next worker} (free : l.holder = none) (line : l.queue = i :: queue)
    (found : l.callers[i]? = some ⟨.queued job next, worker⟩) :
    Move l .grant
      { l.put i (.holding job next) (some (.unsent job)) with queue, holder := some i }
  /-- The first in line does not wait. -/
  | skip {i queue} (free : l.holder = none) (line : l.queue = i :: queue)
    (gone : ∀ job next worker, l.callers[i]? ≠ some ⟨.queued job next, worker⟩) :
    Move l .grant { l with queue }
  | send {i stage job} (found : l.callers[i]? = some ⟨stage, some (.unsent job)⟩) :
    Move l (.send i) (({ l with desk := (l.desk.perform job).2 } : Line α).put i stage
      (some (.sent (l.desk.engine.calls job) (l.desk.perform job).1)))
  | respond {i stage left outcome}
    (found : l.callers[i]? = some ⟨stage, some (.sent (left + 1) outcome)⟩) :
    Move l (.respond i) (l.put i stage (some (.sent left outcome)))
  | answer {i job next outcome}
    (found : l.callers[i]? = some ⟨.holding job next, some (.sent 0 outcome)⟩) :
    Move l (.resume i) ((l.release i).proceed i (next outcome))
  | depart {i outcome} (found : l.callers[i]? = some ⟨.leaving, some (.sent 0 outcome)⟩) :
    Move l (.resume i) ((l.release i).put i (.ended (.error .cancelled)) none)
  | drop {i plan worker} (found : l.callers[i]? = some ⟨.unstarted plan, worker⟩) :
    Move l (.cancel i) (l.put i (.ended (.error .cancelled)) none)
  | quit {i job next worker} (found : l.callers[i]? = some ⟨.queued job next, worker⟩) :
    Move l (.cancel i) (({ l with queue := l.queue.filter (· != i) } : Line α).put i
      (.ended (.error .cancelled)) none)
  | stay {i job next worker} (found : l.callers[i]? = some ⟨.holding job next, worker⟩)
    (patient : job.patient = true) : Move l (.cancel i) (l.put i .leaving worker)
  | abandon {i job next worker} (found : l.callers[i]? = some ⟨.holding job next, worker⟩)
    (impatient : job.patient = false) : Move l (.cancel i) (l.leave i worker)
  | giveUp {i worker} (found : l.callers[i]? = some ⟨.leaving, worker⟩) :
    Move l (.cancel i) (l.leave i worker)

theorem move_step (l : Line α) (e : Event) : l.Move e (l.step e) := by
  cases e with
  | start i =>
    simp only [step, Line.start]
    split
    · exact .start ‹_›
    · exact .idle _
  | grant =>
    simp only [step, Line.grant]
    split
    · split
      · exact .grant ‹_› ‹_› ‹_›
      · rename_i waits
        exact .skip ‹_› ‹_› fun job next worker found => waits job next worker found
    · exact .idle _
  | send i =>
    simp only [step, Line.send]
    split
    · exact .send ‹_›
    · exact .idle _
  | respond i =>
    simp only [step, Line.respond]
    split
    · exact .respond ‹_›
    · exact .idle _
  | resume i =>
    simp only [step, resume]
    split
    · exact .answer ‹_›
    · exact .depart ‹_›
    · exact .idle _
  | cancel i =>
    simp only [step, cancel]
    split
    · exact .drop ‹_›
    · exact .quit ‹_›
    · rename_i job next worker found
      cases patient : job.patient with
      | true => exact .stay found patient
      | false => exact .abandon found patient
    · exact .giveUp ‹_›
    · exact .idle _

def subject (l : Line α) : Event → Option Nat
  | .grant => if l.holder.isNone then l.queue.head? else none
  | .start i | .send i | .respond i | .resume i | .cancel i => some i

variable {l next : Line α} {e : Event} {j : Nat}

theorem Move.getElem?_of_ne (move : l.Move e next) (other : l.subject e ≠ some j) :
    next.callers[j]? = l.callers[j]? := by
  have ne {i : Nat} (turn : l.subject e = some i) : j ≠ i := fun same =>
    other (turn.trans (congrArg some same.symm))
  cases move with
  | idle => rfl
  | start found => exact getElem?_proceed_of_ne l (ne rfl) _
  | grant free line found =>
    exact getElem?_put_of_ne l (ne (by simp [subject, free, line])) _ _
  | skip free line gone => rfl
  | send found => exact getElem?_put_of_ne _ (ne rfl) _ _
  | respond found => exact getElem?_put_of_ne l (ne rfl) _ _
  | answer found => rw [getElem?_proceed_of_ne _ (ne rfl), callers_release]
  | depart found => rw [getElem?_put_of_ne _ (ne rfl), callers_release]
  | drop found => exact getElem?_put_of_ne l (ne rfl) _ _
  | quit found => exact getElem?_put_of_ne _ (ne rfl) _ _
  | stay found patient => exact getElem?_put_of_ne l (ne rfl) _ _
  | abandon found impatient => exact getElem?_leave_of_ne l (ne rfl) _
  | giveUp found => exact getElem?_leave_of_ne l (ne rfl) _

theorem Move.length_eq (move : l.Move e next) : next.callers.length = l.callers.length := by
  cases move with
  | idle => rfl
  | skip free line gone => rfl
  | start found => exact length_proceed l _ _
  | answer found => rw [length_proceed, callers_release]
  | depart found => rw [length_put, callers_release]
  | abandon found impatient => rw [leave, length_put, callers_release]
  | giveUp found => rw [leave, length_put, callers_release]
  | _ => exact length_put _ _ _ _

theorem length_after (l : Line α) (events : List Event) :
    (l.after events).callers.length = l.callers.length := by
  induction events generalizing l with
  | nil => rfl
  | cons e rest ih => exact (ih (l.step e)).trans (l.move_step e).length_eq

theorem getElem?_step_of_ne (other : l.subject e ≠ some j) :
    (l.step e).callers[j]? = l.callers[j]? := (l.move_step e).getElem?_of_ne other

end Line

end QueryDesk
