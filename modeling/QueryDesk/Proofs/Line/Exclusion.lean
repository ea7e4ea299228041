import Mathlib.Data.List.Induction
import QueryDesk.Proofs.Line.Orderly

namespace QueryDesk

variable {α : Type}

def Worker.callsLeft : Option Worker → Nat
  | some (.sent left _) => left
  | some (.unsent _) | none => 0

theorem Worker.callsLeft_abandoned (worker : Option Worker) :
    callsLeft (worker.bind abandoned) = callsLeft worker := by
  rcases worker with _ | _ | _ <;> rfl

namespace Line

variable {l next : Line α} {i j : Nat} {c : Caller α} {stage : Stage α} {worker : Option Worker}
  {e : Event}

theorem callsLeft_eq (found : l.callers[i]? = some c) :
    l.callsLeft i = Worker.callsLeft c.worker := by
  obtain ⟨stage, worker⟩ := c
  unfold callsLeft
  rw [found]
  rcases worker with _ | _ | _ <;> rfl

theorem callsLeft_congr (same : next.callers[j]? = l.callers[j]?) :
    next.callsLeft j = l.callsLeft j := by
  unfold callsLeft
  rw [same]

theorem callsLeft_put (found : l.callers[i]? = some c) (stage : Stage α) (worker : Option Worker)
    (same : Worker.callsLeft worker = Worker.callsLeft c.worker) (j : Nat) :
    (l.put i stage worker).callsLeft j = l.callsLeft j := by
  by_cases own : j = i
  · subst own
    rw [callsLeft_eq found, callsLeft_eq (getElem?_put_self (known_of_getElem? found) _ _)]
    exact same
  · exact callsLeft_congr (getElem?_put_of_ne l own stage worker)

theorem callsLeft_proceed (found : l.callers[i]? = some c)
    (idle : Worker.callsLeft c.worker = 0) (p : Plan α) (j : Nat) :
    (l.proceed i p).callsLeft j = l.callsLeft j := by
  induction p generalizing l with
  | done outcome => exact callsLeft_put found (.ended outcome) none idle.symm j
  | statement job next _ =>
    unfold proceed ask
    split
    · exact callsLeft_put found (.holding job next) (some (.unsent job)) idle.symm j
    · exact callsLeft_put found (.queued job next) none idle.symm j
  | lookUp key next ih => exact ih (l := { l with desk := _ }) _ found
  | keep content next ih => exact ih (l := { l with desk := _ }) _ found

theorem callsLeft_release (l : Line α) (i j : Nat) :
    (l.release i).callsLeft j = l.callsLeft j :=
  callsLeft_congr (by rw [callers_release])

theorem callsLeft_leave (found : l.callers[i]? = some ⟨stage, worker⟩) (j : Nat) :
    (l.leave i worker).callsLeft j = l.callsLeft j := by
  have released : (l.release i).callers[i]? = some ⟨stage, worker⟩ := by rw [callers_release, found]
  unfold leave
  rw [callsLeft_put released _ _ (Worker.callsLeft_abandoned worker), callsLeft_release]

theorem Move.callsLeft_eq (move : l.Move e next) (orderly : l.Orderly) (unsent : ∀ i, e ≠ .send i)
    (unanswered : ∀ i, e ≠ .respond i) (j : Nat) : next.callsLeft j = l.callsLeft j := by
  cases move with
  | idle => rfl
  | start found =>
    obtain ⟨_, _, idle⟩ := orderly.placed _ _ found
    cases idle
    exact callsLeft_proceed found rfl _ j
  | @grant i queue job rest worker free line found =>
    obtain ⟨_, _, idle⟩ := orderly.placed _ _ found
    cases idle
    exact callsLeft_put found (.holding job rest) (some (.unsent job)) rfl j
  | skip free line gone => rfl
  | send found => exact absurd rfl (unsent _)
  | respond found => exact absurd rfl (unanswered _)
  | @answer i job rest outcome found =>
    rw [← callers_release l i] at found
    rw [callsLeft_proceed found rfl, callsLeft_release]
  | @depart i outcome found =>
    rw [← callers_release l i] at found
    rw [callsLeft_put found _ none rfl, callsLeft_release]
  | drop found =>
    obtain ⟨_, _, idle⟩ := orderly.placed _ _ found
    cases idle
    exact callsLeft_put found _ _ rfl j
  | quit found =>
    obtain ⟨_, _, idle⟩ := orderly.placed _ _ found
    cases idle
    exact callsLeft_put found _ _ rfl j
  | stay found patient => exact callsLeft_put found _ _ rfl j
  | abandon found impatient => exact callsLeft_leave found j
  | giveUp found => exact callsLeft_leave found j

theorem callsLeft_step (orderly : l.Orderly) (unsent : ∀ i, e ≠ .send i)
    (unanswered : ∀ i, e ≠ .respond i) (j : Nat) : (l.step e).callsLeft j = l.callsLeft j :=
  (l.move_step e).callsLeft_eq orderly unsent unanswered j

theorem holder_proceed (held : l.holder = some i) (p : Plan α) :
    (l.proceed j p).holder = some i := by
  induction p generalizing l with
  | done outcome => exact held
  | statement job next _ =>
    unfold proceed ask
    split
    · rename_i free
      simp [held] at free
    · exact held
  | lookUp key next ih => exact ih (l := { l with desk := _ }) _ held
  | keep content next ih => exact ih (l := { l with desk := _ }) _ held

def leavesAtOnce (l : Line α) (i : Nat) : Bool :=
  match l.callers[i]? with
  | some ⟨.holding job _, _⟩ => !job.patient
  | some ⟨.leaving, _⟩ => true
  | _ => false

theorem Move.holder_eq (move : l.Move e next) (orderly : l.Orderly) (held : l.holder = some i)
    (unresumed : e = .resume i → 0 < l.callsLeft i)
    (stays : e = .cancel i → l.leavesAtOnce i = false) : next.holder = some i := by
  -- whoever is done, or leaves, is the one that holds the connection
  have same {j : Nat} (holds : l.holder = some j) : i = j := Option.some.inj (held.symm.trans holds)
  cases move with
  | idle => exact held
  | start found => exact holder_proceed held _
  | grant free line found => cases held.symm.trans free
  | skip free line gone => exact held
  | send found => exact held
  | respond found => exact held
  | answer found =>
    cases same (orderly.holder_of_holding found)
    have busy := unresumed rfl
    rw [Line.callsLeft_eq found] at busy
    exact absurd busy (Nat.lt_irrefl 0)
  | depart found =>
    cases same (orderly.holder_of_leaving found)
    have busy := unresumed rfl
    rw [Line.callsLeft_eq found] at busy
    exact absurd busy (Nat.lt_irrefl 0)
  | drop found => exact held
  | quit found => exact held
  | stay found patient => exact held
  | abandon found impatient =>
    cases same (orderly.holder_of_holding found)
    have stayed := stays rfl
    simp [leavesAtOnce, found, impatient] at stayed
  | giveUp found =>
    cases same (orderly.holder_of_leaving found)
    have stayed := stays rfl
    simp [leavesAtOnce, found] at stayed

/-- Whoever has a worker on the engine, between its first call and the return of its last, holds the
    connection. -/
def Exclusive (l : Line α) : Prop := ∀ i, 0 < l.callsLeft i → l.holder = some i

def CutsOff (l : Line α) (i : Nat) : Prop := 0 < l.callsLeft i ∧ l.leavesAtOnce i = true

theorem Exclusive.unique (exclusive : l.Exclusive) (first : 0 < l.callsLeft i)
    (second : 0 < l.callsLeft j) : i = j :=
  Option.some.inj ((exclusive i first).symm.trans (exclusive j second))

theorem Exclusive.callsLeft_of_away (exclusive : l.Exclusive) (away : l.holder ≠ some i) :
    l.callsLeft i = 0 := by
  by_contra busy
  exact away (exclusive i (Nat.pos_of_ne_zero busy))

theorem Exclusive.move (exclusive : l.Exclusive) (orderly : l.Orderly) (move : l.Move e next)
    (kept : ∀ i, e = .cancel i → ¬ l.CutsOff i) : next.Exclusive := by
  intro j busy
  -- whoever was busy before keeps the connection; only a worker that sends gets busy anew
  have stays (held : 0 < l.callsLeft j) : next.holder = some j := by
    refine move.holder_eq orderly (exclusive j held) (fun _ => held) ?_
    intro cancelled
    exact Bool.eq_false_iff.mpr fun leaves => kept j cancelled ⟨held, leaves⟩
  by_cases before : 0 < l.callsLeft j
  · exact stays before
  · by_cases unsent : ∀ i, e ≠ .send i
    · by_cases unanswered : ∀ i, e ≠ .respond i
      · rw [move.callsLeft_eq orderly unsent unanswered] at busy
        exact absurd busy before
      · obtain ⟨i, rfl⟩ : ∃ i, e = .respond i := by simpa using unanswered
        cases move with
        | idle => exact absurd busy before
        | @respond _ stage left outcome found =>
          by_cases own : j = i
          · subst own
            rw [callsLeft_eq found] at before
            exact absurd (Nat.succ_pos left) before
          · rw [callsLeft_congr (getElem?_put_of_ne l own _ _)] at busy
            exact absurd busy before
    · obtain ⟨i, rfl⟩ : ∃ i, e = .send i := by simpa using unsent
      cases move with
      | idle => exact absurd busy before
      | send found =>
        by_cases own : j = i
        · subst own
          exact orderly.holder_of_unsent found
        · rw [callsLeft_congr (getElem?_put_of_ne _ own _ _)] at busy
          exact absurd busy before

theorem Exclusive.step (exclusive : l.Exclusive) (orderly : l.Orderly)
    (kept : ∀ i, e = .cancel i → ¬ l.CutsOff i) : (l.step e).Exclusive :=
  exclusive.move orderly (l.move_step e) kept

theorem not_exclusive_of_cutsOff (orderly : l.Orderly) (cut : l.CutsOff i) :
    ¬ (l.step (.cancel i)).Exclusive := by
  obtain ⟨busy, leaves⟩ := cut
  intro exclusive
  -- the connection is let go of, but the worker is where it was
  have left : 0 < (l.step (.cancel i)).callsLeft i := by
    rw [callsLeft_step orderly (by simp) (by simp)]
    exact busy
  have held := exclusive i left
  have released (worker : Option Worker) (holds : l.holder = some i) :
      (l.leave i worker).holder = none := by
    simp [leave, put, release, holds]
  simp only [leavesAtOnce] at leaves
  split at leaves
  · rename_i job next worker found
    have impatient : job.patient = false := by simpa using leaves
    simp only [step, cancel, found, impatient] at held
    simp [released worker (orderly.holder_of_holding found)] at held
  · rename_i worker found
    simp only [step, cancel, found] at held
    simp [released worker (orderly.holder_of_leaving found)] at held
  · cases leaves

theorem after_concat (l : Line α) (events : List Event) (e : Event) :
    l.after (events ++ [e]) = (l.after events).step e := l.after_append events [e]

theorem exclusive_ofPlans (d : Desk) (plans : List (Plan α)) : (ofPlans d plans).Exclusive := by
  intro i busy
  cases found : (ofPlans d plans).callers[i]? with
  | none => simp [callsLeft, found] at busy
  | some c =>
    obtain ⟨p, _, rfl⟩ := List.mem_map.mp (List.mem_of_getElem? found)
    rw [callsLeft_eq found] at busy
    exact absurd busy (Nat.lt_irrefl 0)

theorem exclusive_after {d : Desk} {plans : List (Plan α)} {events : List Event}
    (kept : ∀ before i, before ++ [.cancel i] <+: events →
      ¬ ((ofPlans d plans).after before).CutsOff i) :
    ((ofPlans d plans).after events).Exclusive := by
  induction events using List.reverseRecOn with
  | nil => exact exclusive_ofPlans d plans
  | append_singleton events e ih =>
    rw [after_concat]
    have earlier := ih fun before i cancelled => kept before i (cancelled.trans (by simp))
    refine earlier.step ((orderly_ofPlans d plans).after events) ?_
    rintro i rfl
    exact kept events i List.prefix_rfl

theorem exclusive_iff_not_cutsOff (d : Desk) (plans : List (Plan α)) (events : List Event) :
    (∀ before, before <+: events → ((ofPlans d plans).after before).Exclusive) ↔
      ∀ before i, before ++ [.cancel i] <+: events →
        ¬ ((ofPlans d plans).after before).CutsOff i := by
  constructor
  · intro always before i cancelled cut
    have later := always _ cancelled
    rw [after_concat] at later
    exact not_exclusive_of_cutsOff ((orderly_ofPlans d plans).after before) cut later
  · intro kept before earlier
    exact exclusive_after fun first i cancelled => kept first i (cancelled.trans earlier)

end Line

end QueryDesk
