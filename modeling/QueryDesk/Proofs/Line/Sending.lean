import QueryDesk.Line.Settle
import QueryDesk.Proofs.Plan.Every

namespace QueryDesk

variable {α : Type} {P : Datum → Prop}

def Stage.Sends (P : Datum → Prop) : Stage α → Prop
  | .unstarted plan => plan.Every (Plan.Step.Sends P)
  | .queued job next | .holding job next =>
    P job.statement.text ∧ ∀ outcome, (next outcome).Every (Plan.Step.Sends P)
  | .leaving | .ended _ => True

def Worker.Sends (P : Datum → Prop) : Worker → Prop
  | .unsent job => P job.statement.text
  | .sent _ _ => True

def Caller.Sends (P : Datum → Prop) (c : Caller α) : Prop :=
  c.stage.Sends P ∧ ∀ w, c.worker = some w → w.Sends P

namespace Line

structure Sends (P : Datum → Prop) (l : Line α) : Prop where
  callers : ∀ c ∈ l.callers, c.Sends P
  log : ∀ s ∈ l.desk.engine.log, P s.sql

namespace Sends

variable {l : Line α}

theorem caller (sends : l.Sends P) {i : Nat} {c : Caller α} (found : l.callers[i]? = some c) :
    c.Sends P := sends.callers c (List.mem_of_getElem? found)

theorem put (sends : l.Sends P) (i : Nat) {stage : Stage α} {worker : Option Worker}
    (own : Caller.Sends P ⟨stage, worker⟩) : (l.put i stage worker).Sends P := by
  refine ⟨?_, sends.log⟩
  intro c member
  rcases List.mem_or_eq_of_mem_set member with member | rfl
  · exact sends.callers c member
  · exact own

theorem withDesk (sends : l.Sends P) {d : Desk} (log : ∀ s ∈ d.engine.log, P s.sql) :
    ({ l with desk := d } : Line α).Sends P := ⟨sends.callers, log⟩

theorem release (sends : l.Sends P) (i : Nat) : (l.release i).Sends P := by
  unfold Line.release
  split
  · exact ⟨sends.callers, sends.log⟩
  · exact sends

theorem ask (sends : l.Sends P) (i : Nat) {job : Job} {next : Except Failure Pull → Plan α}
    (own : P job.statement.text) (rest : ∀ outcome, (next outcome).Every (Plan.Step.Sends P)) :
    (l.ask i job next).Sends P := by
  unfold Line.ask
  split
  · have holding : Caller.Sends P ⟨.holding job next, some (.unsent job)⟩ :=
      ⟨⟨own, rest⟩, by rintro w ⟨⟩; exact own⟩
    exact ⟨(sends.put i holding).callers, sends.log⟩
  · have queued : Caller.Sends P (⟨.queued job next, none⟩ : Caller α) :=
      ⟨⟨own, rest⟩, by rintro w ⟨⟩⟩
    exact ⟨(sends.put i queued).callers, sends.log⟩

theorem proceed (sends : l.Sends P) (i : Nat) {p : Plan α} (every : p.Every (Plan.Step.Sends P)) :
    (l.proceed i p).Sends P := by
  induction p generalizing l with
  | done outcome => exact sends.put i ⟨True.intro, by rintro w ⟨⟩⟩
  | statement job next _ => exact sends.ask i every.1 every.2
  | lookUp key next ih => exact ih _ (sends.withDesk sends.log) (every.2 _)
  | keep content next ih =>
    have log : ∀ s ∈ (l.desk.keep content).2.engine.log, P s.sql := by
      rw [Desk.keep_engine]
      exact sends.log
    exact ih _ (sends.withDesk log) (every.2 _)

theorem start (sends : l.Sends P) (i : Nat) : (l.start i).Sends P := by
  unfold Line.start
  split
  · rename_i found
    exact sends.proceed i (sends.caller found).1
  · exact sends

theorem grant (sends : l.Sends P) : l.grant.Sends P := by
  unfold Line.grant
  split
  · split
    · rename_i job next _ found
      obtain ⟨own, rest⟩ := (sends.caller found).1
      have holding : Caller.Sends P ⟨.holding job next, some (.unsent job)⟩ :=
        ⟨⟨own, rest⟩, by rintro w ⟨⟩; exact own⟩
      exact ⟨(sends.put _ holding).callers, sends.log⟩
    · exact ⟨sends.callers, sends.log⟩
  · exact sends

theorem send (sends : l.Sends P) (i : Nat) : (l.send i).Sends P := by
  unfold Line.send
  split
  · rename_i stage job found
    have own := sends.caller found
    have log := l.desk.perform_log (own.2 _ rfl) sends.log
    exact (sends.withDesk log).put i ⟨own.1, by rintro w ⟨⟩; exact True.intro⟩
  · exact sends

theorem respond (sends : l.Sends P) (i : Nat) : (l.respond i).Sends P := by
  unfold Line.respond
  split
  · rename_i found
    exact sends.put i ⟨(sends.caller found).1, by rintro w ⟨⟩; exact True.intro⟩
  · exact sends

theorem resume (sends : l.Sends P) (i : Nat) : (l.resume i).Sends P := by
  unfold Line.resume
  split
  · rename_i found
    exact (sends.release i).proceed i ((sends.caller found).1.2 _)
  · exact (sends.release i).put i ⟨True.intro, by rintro w ⟨⟩⟩
  · exact sends

theorem leave (sends : l.Sends P) (i : Nat) {worker : Option Worker}
    (own : ∀ w, worker = some w → w.Sends P) : (l.leave i worker).Sends P := by
  refine (sends.release i).put i ⟨True.intro, ?_⟩
  intro w abandoned
  obtain ⟨v, rfl, goes⟩ := Option.bind_eq_some_iff.mp abandoned
  cases v with
  | unsent job => cases goes
  | sent left outcome => cases goes; exact True.intro

theorem cancel (sends : l.Sends P) (i : Nat) : (l.cancel i).Sends P := by
  unfold Line.cancel
  split
  · exact sends.put i ⟨True.intro, by rintro w ⟨⟩⟩
  · have rest : ({ l with queue := l.queue.filter (· != i) } : Line α).Sends P :=
      ⟨sends.callers, sends.log⟩
    exact rest.put i ⟨True.intro, by rintro w ⟨⟩⟩
  · rename_i found
    have own := (sends.caller found).2
    split
    · exact sends.put i ⟨True.intro, own⟩
    · exact sends.leave i own
  · rename_i found
    exact sends.leave i (sends.caller found).2
  · exact sends

theorem step (sends : l.Sends P) (e : Event) : (l.step e).Sends P := by
  cases e with
  | start i => exact sends.start i
  | grant => exact sends.grant
  | send i => exact sends.send i
  | respond i => exact sends.respond i
  | resume i => exact sends.resume i
  | cancel i => exact sends.cancel i

theorem after (sends : l.Sends P) (events : List Event) : (l.after events).Sends P := by
  induction events generalizing l with
  | nil => exact sends
  | cons e rest ih => exact ih (sends.step e)

end Sends

@[simp]
theorem settings_release (l : Line α) (i : Nat) :
    (l.release i).desk.settings = l.desk.settings := by
  unfold release
  split <;> rfl

@[simp]
theorem settings_proceed (l : Line α) (i : Nat) (p : Plan α) :
    (l.proceed i p).desk.settings = l.desk.settings := by
  induction p generalizing l with
  | done outcome => rfl
  | statement job next _ =>
    unfold proceed ask
    split <;> rfl
  | lookUp key next ih => exact ih _ _
  | keep content next ih => exact (ih _ _).trans (l.desk.keep_settings content)

theorem settings_leave (l : Line α) (i : Nat) (worker : Option Worker) :
    (l.leave i worker).desk.settings = l.desk.settings := settings_release l i

theorem settings_step (l : Line α) (e : Event) : (l.step e).desk.settings = l.desk.settings := by
  cases e with
  | start i =>
    simp only [step, start]
    split
    · exact settings_proceed l i _
    · rfl
  | grant =>
    simp only [step, grant]
    split
    · split <;> rfl
    · rfl
  | send i => simp only [step, send]; split <;> rfl
  | respond i => simp only [step, respond]; split <;> rfl
  | resume i =>
    simp only [step, resume]
    split
    · rw [settings_proceed, settings_release]
    · exact settings_release l i
    · rfl
  | cancel i =>
    simp only [step, cancel]
    split
    · rfl
    · rfl
    · split
      · rfl
      · exact settings_leave l i _
    · exact settings_leave l i _
    · rfl

@[simp]
theorem settings_after (l : Line α) (events : List Event) :
    (l.after events).desk.settings = l.desk.settings := by
  induction events generalizing l with
  | nil => rfl
  | cons e rest ih => exact (ih (l.step e)).trans (l.settings_step e)

theorem sends_ofPlans {d : Desk} {plans : List (Plan α)} (log : ∀ s ∈ d.engine.log, P s.sql)
    (every : ∀ p ∈ plans, p.Every (Plan.Step.Sends P)) : (ofPlans d plans).Sends P := by
  refine ⟨?_, log⟩
  intro c member
  obtain ⟨p, planned, rfl⟩ := List.mem_map.mp member
  exact ⟨every p planned, by rintro w ⟨⟩⟩

end Line

end QueryDesk
