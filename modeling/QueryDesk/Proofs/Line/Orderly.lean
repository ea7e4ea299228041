import QueryDesk.Proofs.Line.Move

namespace QueryDesk

variable {α : Type}

/-- The stage and the worker of a caller agree with whether it holds the connection and whether it
    stands in line. -/
def Caller.Placed (c : Caller α) (holds waits : Prop) : Prop :=
  match c.stage with
  | .unstarted _ => ¬holds ∧ ¬waits ∧ c.worker = none
  | .queued _ _ => ¬holds ∧ waits ∧ c.worker = none
  | .holding _ _ | .leaving => holds ∧ ¬waits ∧ c.worker ≠ none
  | .ended _ => ¬holds ∧ ¬waits ∧ ∀ job, c.worker ≠ some (.unsent job)

theorem Caller.Placed.congr {c : Caller α} {holds waits holds' waits' : Prop}
    (placed : c.Placed holds waits) (sameHold : holds' ↔ holds) (sameWait : waits' ↔ waits) :
    c.Placed holds' waits' := by
  rw [propext sameHold, propext sameWait]
  exact placed

theorem Caller.Placed.withSent {stage : Stage α} {worker : Worker} {holds waits : Prop} {left : Nat}
    {outcome : Except Failure Pull} (placed : Caller.Placed ⟨stage, some worker⟩ holds waits) :
    Caller.Placed ⟨stage, some (.sent left outcome)⟩ holds waits := by
  cases stage with
  | unstarted plan => exact absurd placed.2.2 (by simp)
  | queued job next => exact absurd placed.2.2 (by simp)
  | holding job next => exact ⟨placed.1, placed.2.1, by simp⟩
  | leaving => exact ⟨placed.1, placed.2.1, by simp⟩
  | ended outcome => exact ⟨placed.1, placed.2.1, by simp⟩

namespace Line

structure Orderly (l : Line α) : Prop where
  placed : ∀ i (c : Caller α), l.callers[i]? = some c → c.Placed (l.holder = some i) (i ∈ l.queue)
  holder : ∀ i, l.holder = some i → i < l.callers.length
  queue : ∀ i ∈ l.queue, i < l.callers.length
  nodup : l.queue.Nodup

structure OrderlyBut (l : Line α) (i : Nat) : Prop where
  placed : ∀ j (c : Caller α), j ≠ i → l.callers[j]? = some c →
    c.Placed (l.holder = some j) (j ∈ l.queue)
  holder : ∀ j, l.holder = some j → j < l.callers.length
  queue : ∀ j ∈ l.queue, j < l.callers.length
  nodup : l.queue.Nodup
  known : i < l.callers.length
  away : l.holder ≠ some i
  apart : i ∉ l.queue

variable {l next : Line α} {i : Nat} {c : Caller α} {stage : Stage α} {worker : Option Worker}

theorem OrderlyBut.settle (but : l.OrderlyBut i) {next : Line α}
    (callers : next.callers = l.callers.set i c)
    (holder : ∀ j, j ≠ i → (next.holder = some j ↔ l.holder = some j))
    (queue : ∀ j, j ≠ i → (j ∈ next.queue ↔ j ∈ l.queue)) (nodup : next.queue.Nodup)
    (own : c.Placed (next.holder = some i) (i ∈ next.queue)) : next.Orderly := by
  have length : next.callers.length = l.callers.length := by rw [callers, List.length_set]
  refine ⟨?_, ?_, ?_, nodup⟩
  · intro j d found
    rw [callers] at found
    by_cases same : j = i
    · subst same
      rw [List.getElem?_set_self but.known] at found
      cases found
      exact own
    · rw [List.getElem?_set_ne (Ne.symm same)] at found
      exact (but.placed j d same found).congr (holder j same) (queue j same)
  · intro j holds
    rw [length]
    by_cases same : j = i
    · exact same ▸ but.known
    · exact but.holder j ((holder j same).mp holds)
  · intro j waits
    rw [length]
    by_cases same : j = i
    · exact same ▸ but.known
    · exact but.queue j ((queue j same).mp waits)

theorem OrderlyBut.put (but : l.OrderlyBut i) (own : Caller.Placed ⟨stage, worker⟩ False False) :
    (l.put i stage worker).Orderly :=
  but.settle rfl (fun _ _ => .rfl) (fun _ _ => .rfl) but.nodup
    (own.congr (iff_false_intro but.away) (iff_false_intro but.apart))

theorem OrderlyBut.ask (but : l.OrderlyBut i) (job : Job) (next : Except Failure Pull → Plan α) :
    (l.ask i job next).Orderly := by
  unfold Line.ask
  split
  · rename_i free
    obtain ⟨unheld, unqueued⟩ := Bool.and_eq_true_iff.mp free
    have none_holds : l.holder = none := by simpa using unheld
    have none_waits : l.queue = [] := by simpa using unqueued
    refine but.settle rfl ?_ (fun _ _ => .rfl) but.nodup ?_
    · intro j ne
      simp [none_holds, ne.symm]
    · exact ⟨rfl, but.apart, by simp⟩
  · refine but.settle rfl (fun _ _ => .rfl) ?_ ?_ ?_
    · intro j ne
      simp [ne]
    · refine List.nodup_append.mpr ⟨but.nodup, by simp, ?_⟩
      intro a member b single same
      have own : b = i := List.mem_singleton.mp single
      exact but.apart (own ▸ same ▸ member)
    · exact ⟨but.away, by simp, rfl⟩

theorem OrderlyBut.withDesk (but : l.OrderlyBut i) (d : Desk) :
    ({ l with desk := d } : Line α).OrderlyBut i :=
  ⟨but.placed, but.holder, but.queue, but.nodup, but.known, but.away, but.apart⟩

theorem OrderlyBut.proceed (but : l.OrderlyBut i) (p : Plan α) : (l.proceed i p).Orderly := by
  induction p generalizing l with
  | done outcome => exact but.put ⟨not_false, not_false, by simp⟩
  | statement job next _ => exact but.ask job next
  | lookUp key next ih => exact ih _ (but.withDesk _)
  | keep content next ih => exact ih _ (but.withDesk _)

namespace Orderly

theorem but (orderly : l.Orderly) (found : l.callers[i]? = some c) (away : l.holder ≠ some i)
    (apart : i ∉ l.queue) : l.OrderlyBut i :=
  ⟨fun j d _ other => orderly.placed j d other, orderly.holder, orderly.queue, orderly.nodup,
    known_of_getElem? found, away, apart⟩

theorem holder_of_holding (orderly : l.Orderly) {job : Job} {next : Except Failure Pull → Plan α}
    (found : l.callers[i]? = some ⟨.holding job next, worker⟩) : l.holder = some i :=
  (orderly.placed i _ found).1

theorem holder_of_leaving (orderly : l.Orderly)
    (found : l.callers[i]? = some ⟨.leaving, worker⟩) : l.holder = some i :=
  (orderly.placed i _ found).1

theorem apart_of_holding (orderly : l.Orderly) {job : Job} {next : Except Failure Pull → Plan α}
    (found : l.callers[i]? = some ⟨.holding job next, worker⟩) : i ∉ l.queue :=
  (orderly.placed i _ found).2.1

theorem apart_of_leaving (orderly : l.Orderly)
    (found : l.callers[i]? = some ⟨.leaving, worker⟩) : i ∉ l.queue :=
  (orderly.placed i _ found).2.1

theorem holder_of_unsent (orderly : l.Orderly) {job : Job}
    (found : l.callers[i]? = some ⟨stage, some (.unsent job)⟩) : l.holder = some i := by
  have placed := orderly.placed i _ found
  cases stage with
  | unstarted plan => exact absurd placed.2.2 (by simp)
  | queued job next => exact absurd placed.2.2 (by simp)
  | holding job next => exact placed.1
  | leaving => exact placed.1
  | ended outcome => exact absurd rfl (placed.2.2 job)

theorem release (orderly : l.Orderly) (found : l.callers[i]? = some c) (holds : l.holder = some i)
    (apart : i ∉ l.queue) : (l.release i).OrderlyBut i := by
  have freed : l.release i = { l with holder := none } := if_pos holds
  rw [freed]
  refine ⟨?_, by simp, orderly.queue, orderly.nodup, known_of_getElem? found, by simp, apart⟩
  intro j d ne other
  refine (orderly.placed j d other).congr ?_ .rfl
  simp [holds, ne.symm]

theorem put (orderly : l.Orderly) (found : l.callers[i]? = some c)
    (same : ∀ holds waits, c.Placed holds waits → Caller.Placed ⟨stage, worker⟩ holds waits) :
    (l.put i stage worker).Orderly := by
  have known := known_of_getElem? found
  refine ⟨?_, ?_, ?_, orderly.nodup⟩
  · intro j d other
    by_cases own : j = i
    · subst own
      rw [getElem?_put_self known] at other
      cases other
      exact same _ _ (orderly.placed j c found)
    · rw [getElem?_put_of_ne l own] at other
      exact orderly.placed j d other
  · intro j holds
    rw [length_put]
    exact orderly.holder j holds
  · intro j waits
    rw [length_put]
    exact orderly.queue j waits

theorem withDesk (orderly : l.Orderly) (d : Desk) : ({ l with desk := d } : Line α).Orderly :=
  ⟨orderly.placed, orderly.holder, orderly.queue, orderly.nodup⟩

theorem exists_queued (orderly : l.Orderly) (waits : i ∈ l.queue) :
    ∃ job next, l.callers[i]? = some ⟨.queued job next, none⟩ := by
  have known := orderly.queue i waits
  obtain ⟨⟨stage, worker⟩, found⟩ : ∃ c, l.callers[i]? = some c :=
    ⟨_, List.getElem?_eq_getElem known⟩
  have placed := orderly.placed i _ found
  cases stage with
  | unstarted plan => exact absurd waits placed.2.1
  | queued job next =>
    obtain ⟨_, _, idle⟩ := placed
    cases idle
    exact ⟨job, next, found⟩
  | holding job next => exact absurd waits placed.2.1
  | leaving => exact absurd waits placed.2.1
  | ended outcome => exact absurd waits placed.2.1

theorem exists_holding (orderly : l.Orderly) (held : l.holder = some i) :
    ∃ stage worker, l.callers[i]? = some ⟨stage, some worker⟩ ∧
      ((∃ job next, stage = .holding job next) ∨ stage = .leaving) := by
  have known := orderly.holder i held
  obtain ⟨⟨stage, worker⟩, found⟩ : ∃ c, l.callers[i]? = some c :=
    ⟨_, List.getElem?_eq_getElem known⟩
  have placed := orderly.placed i _ found
  cases stage with
  | unstarted plan => exact absurd held placed.1
  | queued job next => exact absurd held placed.1
  | holding job next =>
    obtain ⟨worker, rfl⟩ := Option.ne_none_iff_exists'.mp placed.2.2
    exact ⟨_, worker, found, .inl ⟨job, next, rfl⟩⟩
  | leaving =>
    obtain ⟨worker, rfl⟩ := Option.ne_none_iff_exists'.mp placed.2.2
    exact ⟨_, worker, found, .inr rfl⟩
  | ended outcome => exact absurd held placed.1

theorem grant (orderly : l.Orderly) {queue : List Nat} {job : Job}
    {rest : Except Failure Pull → Plan α} (free : l.holder = none) (line : l.queue = i :: queue)
    (found : l.callers[i]? = some ⟨.queued job rest, worker⟩) :
    ({ l.put i (.holding job rest) (some (.unsent job)) with
        queue, holder := some i } : Line α).Orderly := by
  have distinct : i ∉ queue ∧ queue.Nodup := by
    have nodup := orderly.nodup
    rw [line] at nodup
    exact List.nodup_cons.mp nodup
  have others : ({ l with queue } : Line α).OrderlyBut i := by
    refine ⟨?_, orderly.holder, ?_, distinct.2, known_of_getElem? found, by simp [free], distinct.1⟩
    · intro j d ne other
      refine (orderly.placed j d other).congr .rfl ?_
      simp [line, ne]
    · intro j later
      exact orderly.queue j (by simp [line, later])
  -- nobody held the connection before, so the others do not mind who does now
  refine others.settle rfl ?_ (fun _ _ => .rfl) distinct.2 ⟨rfl, distinct.1, by simp⟩
  intro j ne
  simp [free, ne.symm]

theorem quit (orderly : l.Orderly) {job : Job} {rest : Except Failure Pull → Plan α}
    (found : l.callers[i]? = some ⟨.queued job rest, worker⟩) :
    (({ l with queue := l.queue.filter (· != i) } : Line α).put i
      (.ended (.error .cancelled)) none).Orderly := by
  obtain ⟨away, _, _⟩ := orderly.placed i _ found
  have others : ({ l with queue := l.queue.filter (· != i) } : Line α).OrderlyBut i := by
    refine ⟨?_, orderly.holder, ?_, orderly.nodup.filter _, known_of_getElem? found, away, by simp⟩
    · intro j d ne other
      refine (orderly.placed j d other).congr .rfl ?_
      simp [ne]
    · intro j stays
      exact orderly.queue j (List.mem_filter.mp stays).1
  exact others.put ⟨not_false, not_false, by simp⟩

theorem leave (orderly : l.Orderly) (found : l.callers[i]? = some c) (holds : l.holder = some i)
    (apart : i ∉ l.queue) : (l.leave i worker).Orderly := by
  refine (orderly.release found holds apart).put ⟨not_false, not_false, ?_⟩
  rcases worker with _ | _ | _ <;> simp [Worker.abandoned]

theorem move (orderly : l.Orderly) {e : Event} (move : l.Move e next) : next.Orderly := by
  cases move with
  | idle => exact orderly
  | start found =>
    obtain ⟨away, apart, _⟩ := orderly.placed _ _ found
    exact (orderly.but found away apart).proceed _
  | grant free line found => exact orderly.grant free line found
  | skip free line gone =>
    obtain ⟨job, rest, found⟩ := orderly.exists_queued (by rw [line]; exact List.mem_cons_self)
    exact absurd found (gone job rest none)
  | send found => exact (orderly.withDesk _).put found fun holds waits placed => placed.withSent
  | respond found => exact orderly.put found fun holds waits placed => placed.withSent
  | answer found =>
    exact (orderly.release found (orderly.holder_of_holding found)
      (orderly.apart_of_holding found)).proceed _
  | depart found =>
    exact (orderly.release found (orderly.holder_of_leaving found)
      (orderly.apart_of_leaving found)).put ⟨not_false, not_false, by simp⟩
  | drop found =>
    obtain ⟨away, apart, _⟩ := orderly.placed _ _ found
    exact (orderly.but found away apart).put ⟨not_false, not_false, by simp⟩
  | quit found => exact orderly.quit found
  | stay found patient => exact orderly.put found fun holds waits placed => placed
  | abandon found impatient =>
    exact orderly.leave found (orderly.holder_of_holding found) (orderly.apart_of_holding found)
  | giveUp found =>
    exact orderly.leave found (orderly.holder_of_leaving found) (orderly.apart_of_leaving found)

theorem step (orderly : l.Orderly) (e : Event) : (l.step e).Orderly := orderly.move (l.move_step e)

theorem after (orderly : l.Orderly) (events : List Event) : (l.after events).Orderly := by
  induction events generalizing l with
  | nil => exact orderly
  | cons e rest ih => exact ih (orderly.step e)

end Orderly

theorem orderly_ofPlans (d : Desk) (plans : List (Plan α)) : (ofPlans d plans).Orderly := by
  refine ⟨?_, by simp [ofPlans], by simp [ofPlans], List.nodup_nil⟩
  intro i c found
  obtain ⟨p, _, rfl⟩ := List.mem_map.mp (List.mem_of_getElem? found)
  exact ⟨by simp [ofPlans], by simp [ofPlans], rfl⟩

end Line

end QueryDesk
