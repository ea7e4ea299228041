import QueryDesk.Proofs.Line.Errand

namespace QueryDesk

variable {α : Type}

def Stage.pending : Stage α → Bool
  | .unstarted _ | .ended _ => false
  | .queued .. | .holding .. | .leaving => true

namespace Line

variable {l : Line α} {i : Nat} {c : Caller α}

theorem Orderly.free_of_idle (orderly : l.Orderly)
    (idle : ∀ c ∈ l.callers, c.stage.pending = false) : l.holder = none ∧ l.queue = [] := by
  refine ⟨?_, ?_⟩
  · cases held : l.holder with
    | none => rfl
    | some i =>
      obtain ⟨stage, worker, found, waits⟩ := orderly.exists_holding held
      have rests := idle _ (List.mem_of_getElem? found)
      rcases waits with ⟨job, next, rfl⟩ | rfl <;> cases rests
  · cases line : l.queue with
    | nil => rfl
    | cons i queue =>
      obtain ⟨job, next, found⟩ := orderly.exists_queued (i := i) (by simp [line])
      cases idle _ (List.mem_of_getElem? found)

theorem getElem?_respondMany {stage : Stage α} {left : Nat} {outcome : Except Failure Pull}
    (found : l.callers[i]? = some ⟨stage, some (.sent left outcome)⟩) :
    (l.respondMany i left).callers[i]? = some ⟨stage, some (.sent 0 outcome)⟩ := by
  induction left generalizing l with
  | zero => exact found
  | succ left ih =>
    refine ih ?_
    simp only [respond, found]
    exact getElem?_put_self (known_of_getElem? found) _ _

theorem getElem?_complete {stage : Stage α} {worker : Worker}
    (found : l.callers[i]? = some ⟨stage, some worker⟩) :
    ∃ outcome, (l.complete i).callers[i]? = some ⟨stage, some (.sent 0 outcome)⟩ := by
  obtain ⟨left, outcome, sent⟩ : ∃ left outcome,
      (l.send i).callers[i]? = some ⟨stage, some (.sent left outcome)⟩ := by
    cases worker with
    | unsent job =>
      have known : i < ({ l with desk := (l.desk.perform job).2 } : Line α).callers.length :=
        known_of_getElem? found
      exact ⟨_, _, by rw [send_eq found]; exact getElem?_put_self known _ _⟩
    | sent left outcome => exact ⟨left, outcome, by simp only [send, found]⟩
  refine ⟨outcome, ?_⟩
  have all : (l.send i).callsLeft i = left := callsLeft_eq sent
  rw [complete, all]
  exact getElem?_respondMany sent

theorem Orderly.exists_resume? (orderly : l.Orderly) (held : l.holder = some i) :
    ∃ next, (l.complete i).resume? i = some next := by
  obtain ⟨stage, worker, found, waits⟩ := orderly.exists_holding held
  obtain ⟨outcome, done⟩ := getElem?_complete found
  refine ⟨(l.complete i).resume i, ?_⟩
  rcases waits with ⟨job, next, rfl⟩ | rfl <;> simp only [resume?, done]

theorem Orderly.free_of_unserved (orderly : l.Orderly) (unserved : l.serve? = none) :
    l.holder = none ∧ l.queue = [] := by
  have unheld : l.grant.holder = none := by
    cases held : l.grant.holder with
    | none => rfl
    | some i =>
      have granted : l.grant.Orderly := orderly.step .grant
      obtain ⟨next, served⟩ := granted.exists_resume? held
      simp only [serve?, held, served] at unserved
      cases unserved
  have free : l.holder = none := by
    cases held : l.holder with
    | none => rfl
    | some i =>
      simp only [Line.grant, held] at unheld
      exact unheld
  refine ⟨free, ?_⟩
  cases line : l.queue with
  | nil => rfl
  | cons i queue =>
    obtain ⟨job, next, found⟩ := orderly.exists_queued (i := i) (by simp [line])
    simp only [Line.grant, free, line, found] at unheld
    cases unheld

theorem serve?_settle (l : Line α) : l.settle.serve? = none := by
  fun_induction settle l with
  | case1 l next served ih => exact ih
  | case2 l waiting => exact waiting

def Started (l : Line α) (i : Nat) : Prop :=
  ∃ c, l.callers[i]? = some c ∧ ∀ plan, c.stage ≠ .unstarted plan

theorem started_put (known : i < l.callers.length) {stage : Stage α} (worker : Option Worker)
    (started : ∀ plan, stage ≠ .unstarted plan) : (l.put i stage worker).Started i :=
  ⟨_, getElem?_put_self known _ _, started⟩

theorem started_proceed (known : i < l.callers.length) (p : Plan α) :
    (l.proceed i p).Started i := by
  induction p generalizing l with
  | done outcome => exact started_put known none (by simp)
  | statement job next _ =>
    have holding : (l.put i (.holding job next) (some (.unsent job))).Started i :=
      started_put known _ (by simp)
    have queued : (l.put i (.queued job next) none).Started i := started_put known _ (by simp)
    unfold proceed ask
    split
    · exact holding
    · exact queued
  | lookUp key next ih => exact ih (l := { l with desk := _ }) _ known
  | keep content next ih => exact ih (l := { l with desk := _ }) _ known

theorem Move.stage_eq {e : Event} {next : Line α} (move : l.Move e next)
    (found : l.callers[i]? = some c) :
    (∃ later, next.callers[i]? = some later ∧ later.stage = c.stage) ∨ next.Started i := by
  have known := known_of_getElem? found
  have released : i < (l.release i).callers.length := by rw [callers_release]; exact known
  have same : ∃ later, l.callers[i]? = some later ∧ later.stage = c.stage := ⟨c, found, rfl⟩
  by_cases turn : l.subject e = some i
  · cases move with
    | idle => exact .inl same
    | skip free line gone => exact .inl same
    | start _ =>
      cases turn
      exact .inr (started_proceed known _)
    | @grant j _ _ _ _ free line _ =>
      have own : j = i := by simpa [subject, free, line] using turn
      subst own
      exact .inr (started_put known _ (by simp))
    | send sends =>
      cases turn
      cases found.symm.trans sends
      exact .inl ⟨_, getElem?_put_self (l := { l with desk := _ }) known _ _, rfl⟩
    | respond waits =>
      cases turn
      cases found.symm.trans waits
      exact .inl ⟨_, getElem?_put_self known _ _, rfl⟩
    | answer _ =>
      cases turn
      exact .inr (started_proceed released _)
    | depart _ =>
      cases turn
      exact .inr (started_put released _ (by simp))
    | drop _ =>
      cases turn
      exact .inr (started_put known _ (by simp))
    | quit _ =>
      cases turn
      exact .inr (started_put (l := { l with queue := _ }) known _ (by simp))
    | stay _ _ =>
      cases turn
      exact .inr (started_put known _ (by simp))
    | abandon _ _ =>
      cases turn
      exact .inr (started_put released _ (by simp))
    | giveUp _ =>
      cases turn
      exact .inr (started_put released _ (by simp))
  · exact .inl ⟨c, (move.getElem?_of_ne turn).trans found, rfl⟩

theorem Started.after (started : l.Started i) (events : List Event) :
    (l.after events).Started i := by
  induction events generalizing l with
  | nil => exact started
  | cons e rest ih =>
    obtain ⟨c, found, begun⟩ := started
    rcases (l.move_step e).stage_eq found with ⟨next, moved, same⟩ | later
    · exact ih ⟨next, moved, fun plan => same ▸ begun plan⟩
    · exact ih later

theorem started_start (found : l.callers[i]? = some c) : (l.start i).Started i := by
  unfold start
  split
  · exact started_proceed (known_of_getElem? found) _
  · rename_i begun
    exact ⟨c, found, fun plan same => begun plan c.worker (by rw [found, ← same])⟩

theorem started_startAll (found : l.callers[i]? = some c) : l.startAll.Started i := by
  have member : i ∈ List.range l.callers.length := List.mem_range.mpr (known_of_getElem? found)
  obtain ⟨first, last, numbers⟩ := List.append_of_mem member
  have parts : l.startAll = ((l.after (first.map .start)).start i).after (last.map .start) := by
    unfold startAll after
    rw [numbers, List.foldl_append, List.foldl_cons, List.foldl_map, List.foldl_map]
    rfl
  have known : i < (l.after (first.map .start)).callers.length := by
    rw [length_after]
    exact known_of_getElem? found
  rw [parts]
  exact (started_start (List.getElem?_eq_getElem known)).after _

theorem Orderly.exists_all_ended (orderly : l.Orderly) :
    ∃ events, Undisturbed events ∧
      ∀ i < l.callers.length, ∃ outcome, (l.after events).ended? i = some outcome := by
  obtain ⟨first, quiet, begun⟩ := l.startAll_undisturbed
  obtain ⟨last, still, settled⟩ := l.startAll.settle_undisturbed
  have all : l.after (first ++ last) = l.startAll.settle := by rw [after_append, ← begun, ← settled]
  refine ⟨first ++ last, quiet.append still, fun i known => ?_⟩
  have started := (started_startAll (List.getElem?_eq_getElem known)).after last
  have settledOrderly := orderly.after (first ++ last)
  rw [← settled] at started
  rw [all] at settledOrderly ⊢
  -- the settled line is empty, and whoever has started is at no stage but the last
  obtain ⟨free, empty⟩ := settledOrderly.free_of_unserved l.startAll.serve?_settle
  obtain ⟨⟨stage, worker⟩, found, begun⟩ := started
  have placed := settledOrderly.placed i _ found
  unfold ended?
  rw [found]
  cases stage with
  | unstarted plan => exact absurd rfl (begun plan)
  | queued job next => exact absurd placed.2.1 (by simp [empty])
  | holding job next => exact absurd placed.1 (by simp [free])
  | leaving => exact absurd placed.1 (by simp [free])
  | ended outcome => exact ⟨outcome, rfl⟩

end Line

end QueryDesk
