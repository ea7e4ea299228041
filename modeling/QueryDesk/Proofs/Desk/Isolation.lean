import QueryDesk.Proofs.Desk.Exclusion
import QueryDesk.Proofs.Line.Settled

namespace QueryDesk

structure Run where
  order : Order
  keyed : Bool

namespace Run

def call (r : Run) : DirectCall := if r.keyed then .records r.order else .grid r.order

def answer (r : Run) (pull : Pull) : Except Failure Answer :=
  if r.keyed then .records <$> pull.records else .grid <$> pull.grid

def line (d : Desk) (runs : List Run) : Line Answer := DirectCall.line d (runs.map call)

/-- After some events: what has been asked of the engine, what has come of the runs, and what can
    still come of them. -/
structure Isolated (d : Desk) (runs : List Run) (events : List Line.Event) : Prop where
  /-- The calls on the engine come in whole blocks; of the last one, fetches may be outstanding. -/
  serial : (line d runs).trace events ++ ((line d runs).after events).outstanding =
    ((line d runs).blocks events).flatMap Block.contacts
  /-- Every block is the one of a run that the guard accepts, and no run has two. -/
  statements : ∀ b ∈ (line d runs).blocks events, ∃ r, runs[b.caller]? = some r ∧
    r.order.check d.settings.policy = .ok () ∧ b.job = r.order.job
  senders : (((line d runs).blocks events).map Block.caller).Nodup
  /-- The statements get the engine's replies in the order in which they are sent. -/
  replies : ∀ (k : Nat) (b : Block), ((line d runs).blocks events)[k]? = some b →
    b.reply = if d.engine.closed then none else some (d.engine.script.getD k (.rows .none))
  log : d.engine.closed = false → ((line d runs).after events).desk.engine.statements =
    d.engine.statements ++ ((line d runs).blocks events).map Block.sent
  /-- A run that is not cancelled ends as its own block tells, or refused. -/
  outcomes : ∀ (i : Nat) (r : Run) (outcome : Except Failure Answer), runs[i]? = some r →
    ((line d runs).after events).ended? i = some outcome →
    (line d runs).interrupted i events = false →
    match r.order.check d.settings.policy with
    | .error failure => outcome = .error failure
    | .ok () => ∃ b ∈ (line d runs).blocks events, b.caller = i ∧ outcome = b.outcome >>= r.answer
  cancelled : ∀ (i : Nat) (outcome : Except Failure Answer),
    ((line d runs).after events).ended? i = some outcome →
    (line d runs).interrupted i events = true → outcome = .error .cancelled
  /-- The statement of a run that has ended, cancelled or not, ran to its end before the next. -/
  idle : ∀ i, ((line d runs).after events).ended? i ≠ none →
    ((line d runs).after events).callsLeft i = 0
  complete : ∀ (first last : List Block) (b : Block),
    (line d runs).blocks events = first ++ b :: last →
    ((line d runs).after events).ended? b.caller ≠ none →
    first.flatMap Block.contacts ++ b.contacts <+: (line d runs).trace events
  refused : ∀ (i : Nat) (r : Run) (failure : Failure), runs[i]? = some r →
    r.order.check d.settings.policy = .error failure →
    ((line d runs).after events).holder ≠ some i ∧ i ∉ ((line d runs).after events).queue
  /-- The connection is free when no run is pending. -/
  free : (∀ c ∈ ((line d runs).after events).callers, c.stage.pending = false) →
    ((line d runs).after events).holder = none
  /-- All runs can end without anybody else being cancelled. -/
  ends : ∃ later, Line.Undisturbed later ∧ ∀ i < runs.length, ∃ outcome,
    ((line d runs).after (events ++ later)).ended? i = some outcome

theorem errand_eq (s : Settings) (r : Run) :
    r.call.errand s = r.order.errand s.policy r.answer := by
  obtain ⟨order, keyed⟩ := r
  cases keyed <;> rfl

theorem line_eq (d : Desk) (runs : List Run) :
    line d runs = .ofErrands d (runs.map fun r => r.order.errand d.settings.policy r.answer) := by
  unfold line
  rw [DirectCall.line_eq, List.map_map]
  congr 1
  exact List.map_congr_left fun r _ => r.errand_eq d.settings

theorem errand_cases (policy : Guard.Policy) (r : Run) :
    (∃ failure, r.order.check policy = .error failure ∧
      r.order.errand policy r.answer = .refused failure) ∨
    (r.order.check policy = .ok () ∧
      r.order.errand policy r.answer = .sending r.order.job (· >>= r.answer)) := by
  unfold Order.errand
  cases r.order.check policy with
  | error failure => exact .inl ⟨failure, rfl, rfl⟩
  | ok _ => exact .inr ⟨rfl, rfl⟩

section

variable {d : Desk} {runs : List Run} {events : List Line.Event}

theorem named_errand {i : Nat} {r : Run} (named : runs[i]? = some r) :
    (runs.map fun r => r.order.errand d.settings.policy r.answer)[i]? =
      some (r.order.errand d.settings.policy r.answer) := by
  simp [named]

theorem not_cutsOff (once : ∀ i, events.count (.cancel i) ≤ 1) (before : List Line.Event) (i : Nat)
    (cancelled : before ++ [.cancel i] <+: events) :
    ¬ ((line d runs).after before).CutsOff i := by
  rw [line_eq]
  refine Line.not_cutsOff_of_once ?_ once before i cancelled
  intro job finish member
  obtain ⟨r, _, same⟩ := List.mem_map.mp member
  rcases r.errand_cases d.settings.policy with ⟨failure, _, refused⟩ | ⟨_, sends⟩
  · rw [refused] at same
    cases same
  · rw [sends] at same
    cases same
    rfl

theorem accepted_of_sent {b : Block} (sent : b ∈ (line d runs).blocks events) :
    ∃ r, runs[b.caller]? = some r ∧ r.order.check d.settings.policy = .ok () ∧
      b.job = r.order.job := by
  rw [line_eq] at sent
  obtain ⟨finish, named⟩ := Line.job_of_sent sent
  rw [List.getElem?_map, Option.map_eq_some_iff] at named
  obtain ⟨r, own, same⟩ := named
  refine ⟨r, own, ?_⟩
  rcases r.errand_cases d.settings.policy with ⟨failure, _, refused⟩ | ⟨accepted, sends⟩
  · rw [refused] at same
    cases same
  · obtain ⟨job, _⟩ := Errand.sending.inj (sends.symm.trans same)
    exact ⟨accepted, job.symm⟩

theorem outcome_eq {i : Nat} {r : Run} {outcome : Except Failure Answer} (named : runs[i]? = some r)
    (ended : ((line d runs).after events).ended? i = some outcome)
    (kept : (line d runs).interrupted i events = false) :
    match r.order.check d.settings.policy with
    | .error failure => outcome = .error failure
    | .ok () => ∃ b ∈ (line d runs).blocks events, b.caller = i ∧
        outcome = b.outcome >>= r.answer := by
  rw [line_eq] at ended kept ⊢
  rcases Line.outcome_of_ended (named_errand named) ended with
    ⟨interrupted, _⟩ | ⟨_, ⟨failure, refusal, told⟩ | ⟨b, sent, caller, finish, sending, told⟩⟩
  · rw [kept] at interrupted
    cases interrupted
  · rcases r.errand_cases d.settings.policy with ⟨_, check, refused⟩ | ⟨_, sends⟩
    · cases refused.symm.trans refusal
      rw [check]
      exact told
    · cases sends.symm.trans refusal
  · rcases r.errand_cases d.settings.policy with ⟨_, _, refused⟩ | ⟨check, sends⟩
    · cases refused.symm.trans sending
    · obtain ⟨_, same⟩ := Errand.sending.inj (sends.symm.trans sending)
      rw [check]
      exact ⟨b, sent, caller, by rw [told, ← same]⟩

theorem cancelled_of_interrupted {i : Nat} {outcome : Except Failure Answer}
    (ended : ((line d runs).after events).ended? i = some outcome)
    (interrupted : (line d runs).interrupted i events = true) : outcome = .error .cancelled := by
  rw [line_eq] at ended interrupted
  cases named : runs[i]? with
  | none =>
    have unknown :
        (runs.map fun r => r.order.errand d.settings.policy r.answer)[i]? = none := by
      simp [named]
    simp only [Line.ended?, (Line.unknown_ofErrands unknown events).1] at ended
    cases ended
  | some r =>
    rcases Line.outcome_of_ended (named_errand named) ended with ⟨_, told⟩ | ⟨kept, _⟩
    · exact told
    · rw [interrupted] at kept
      cases kept

end

/-- Whatever the order in which the steps of any number of runs are taken, and whatever the engine
    replies, the runs are isolated from each other as long as each is cancelled once at most. -/
theorem isolated (d : Desk) (runs : List Run) (events : List Line.Event)
    (once : ∀ i, events.count (.cancel i) ≤ 1) : Isolated d runs events := by
  have kept : ∀ before i, before ++ [.cancel i] <+: events →
      ¬ ((line d runs).after before).CutsOff i := not_cutsOff once
  have orderly : ((line d runs).after events).Orderly := (Line.orderly_ofPlans d _).after events
  have exclusive : ((line d runs).after events).Exclusive := Line.exclusive_after kept
  -- whoever holds the connection waits for a worker, so it has not ended
  have away : ∀ i, ((line d runs).after events).ended? i ≠ none →
      ((line d runs).after events).holder ≠ some i := by
    intro i ended held
    obtain ⟨stage, worker, found, waits⟩ := orderly.exists_holding held
    simp only [Line.ended?, found] at ended
    rcases waits with ⟨job, next, rfl⟩ | rfl <;> exact ended rfl
  refine ⟨Line.trace_blocks kept, fun b sent => accepted_of_sent sent, ?_, ?_, ?_, ?_, ?_, ?_, ?_,
    ?_, ?_, ?_⟩
  · rw [line_eq]
    exact Line.nodup_senders d _ events
  · exact fun k b sent => (line d runs).reply_eq events k sent
  · exact (line d runs).statements_after events
  · exact fun i r outcome named ended uncancelled => outcome_eq named ended uncancelled
  · exact fun i outcome ended interrupted => cancelled_of_interrupted ended interrupted
  · intro i ended
    exact exclusive.callsLeft_of_away (away i ended)
  · exact fun first last b sent ended => Line.contacts_prefix kept sent (away _ ended)
  · intro i r failure named check
    rw [line_eq]
    have errand := named_errand (d := d) named
    rcases r.errand_cases d.settings.policy with ⟨_, _, refused⟩ | ⟨accepted, _⟩
    · rw [refused] at errand
      exact Line.apart_of_refused errand events
    · cases check.symm.trans accepted
  · exact fun idle => (orderly.free_of_idle idle).1
  · obtain ⟨later, quiet, all⟩ := orderly.exists_all_ended
    refine ⟨later, quiet, fun i known => ?_⟩
    have errand := named_errand (d := d) (List.getElem?_eq_getElem known)
    obtain ⟨c, found, _⟩ := Line.at_after (d := d) errand events
    rw [← line_eq] at found
    rw [Line.after_append]
    exact all i (Line.known_of_getElem? found)

/-- Four runs: the first is answered, the second fails in the engine, the third is refused, and the
    fourth is cancelled while its statement runs. -/
theorem isolated_mixed :
    let script : List Reply := [.rows (.ofList [.text "n"] [[.int 1]] none),
      .fault ⟨"BinderException", "no", true⟩, .rows (.ofList [.text "n"] [[.int 3]] none)]
    let d := Desk.start .default (.ofScript script) Snapshot.sessionStart
    let order (sql : Text) : Order := ⟨⟨.text sql, []⟩, .upTo 5, .general, true⟩
    let runs : List Run := [⟨order "SELECT 1", true⟩, ⟨order "SELECT x", false⟩,
      ⟨order "DROP TABLE t", false⟩, ⟨order "SELECT 3", false⟩]
    let events : List Line.Event := [.start 0, .start 1, .start 2, .start 3, .send 0,
      .respond 0, .respond 0, .respond 0, .resume 0, .grant, .send 1, .respond 1, .resume 1, .grant,
      .send 3, .cancel 3, .respond 3, .respond 3, .respond 3, .resume 3]
    (line d runs).trace events =
      [.execute 0, .fetch 0, .fetch 0, .execute 1, .execute 3, .fetch 3, .fetch 3] ∧
    ((line d runs).after events).outcomes.map (·.isOk) = [true, false, false, false] ∧
    (line d runs).interrupted 3 events = true ∧ Isolated d runs events := by
  intro script d order runs events
  have once : ∀ i, events.count (.cancel i) ≤ 1 := fun i => by
    by_cases fourth : 3 = i <;> simp [events, fourth]
  exact ⟨by decide +kernel, by decide +kernel, by decide +kernel, isolated d runs events once⟩

end Run

end QueryDesk
