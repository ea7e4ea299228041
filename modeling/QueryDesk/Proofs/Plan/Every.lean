import QueryDesk.Plan.Basic

namespace QueryDesk

@[simp]
theorem Desk.keep_settings (d : Desk) (content : Snapshot.Store.Content Grid) :
    (d.keep content).2.settings = d.settings := by
  unfold keep
  split <;> rfl

@[simp]
theorem Desk.keep_engine (d : Desk) (content : Snapshot.Store.Content Grid) :
    (d.keep content).2.engine = d.engine := by
  unfold keep
  split <;> rfl

theorem Engine.log_perform (e : Engine) (job : Job) :
    (e.perform job).2.log = if e.closed then e.log else
      ⟨job.statement.text, if job.statement.params.isEmpty then none else some job.statement.params,
        (e.exchange job).1⟩ :: e.log := by
  unfold perform
  split
  simp only
  split <;> simp_all

theorem Desk.perform_fst (d : Desk) (job : Job) :
    (d.perform job).1 = (d.engine.exchange job).2 := by
  simp only [Desk.perform, Engine.perform]
  split <;> rfl

theorem Desk.perform_log {P : Datum → Prop} (d : Desk) {job : Job} (own : P job.statement.text)
    (log : ∀ s ∈ d.engine.log, P s.sql) : ∀ s ∈ (d.perform job).2.engine.log, P s.sql := by
  intro s member
  have longer : s ∈ (d.engine.perform job).2.log := member
  rw [Engine.log_perform] at longer
  split at longer
  · exact log s longer
  · rcases List.mem_cons.mp longer with rfl | member
    · exact own
    · exact log s member

namespace Plan

inductive Step where
  | statement (job : Job)
  | lookUp (key : Text)
  | keep (content : Snapshot.Store.Content Grid)

def Step.IsStatement : Step → Prop
  | statement _ => True
  | lookUp _ | keep _ => False

def Step.Sends (P : Datum → Prop) : Step → Prop
  | statement job => P job.statement.text
  | lookUp _ | keep _ => True

variable {α β : Type} {P Q : Step → Prop}

def Every (P : Step → Prop) : Plan α → Prop
  | done _ => True
  | statement job next => P (.statement job) ∧ ∀ outcome, (next outcome).Every P
  | lookUp key next => P (.lookUp key) ∧ ∀ found, (next found).Every P
  | keep content next => P (.keep content) ∧ ∀ outcome, (next outcome).Every P

theorem every_done (outcome : Except Failure α) : (done outcome).Every P := True.intro

theorem every_pure (a : α) : (pure a : Plan α).Every P := True.intro

theorem Every.mono {p : Plan α} (every : p.Every P) (weaker : ∀ step, P step → Q step) :
    p.Every Q := by
  induction p with
  | done outcome => exact every_done outcome
  | statement job next ih => exact ⟨weaker _ every.1, fun outcome => ih _ (every.2 outcome)⟩
  | lookUp key next ih => exact ⟨weaker _ every.1, fun found => ih _ (every.2 found)⟩
  | keep content next ih => exact ⟨weaker _ every.1, fun outcome => ih _ (every.2 outcome)⟩

theorem Every.andThen {p : Plan α} {next : Except Failure α → Plan β} (every : p.Every P)
    (then_every : ∀ outcome, (next outcome).Every P) : (p.andThen next).Every P := by
  induction p with
  | done outcome => exact then_every outcome
  | statement job rest ih => exact ⟨every.1, fun outcome => ih _ (every.2 outcome)⟩
  | lookUp key rest ih => exact ⟨every.1, fun found => ih _ (every.2 found)⟩
  | keep content rest ih => exact ⟨every.1, fun outcome => ih _ (every.2 outcome)⟩

theorem Every.bind {p : Plan α} {next : α → Plan β} (every : p.Every P)
    (then_every : ∀ a, (next a).Every P) : (p >>= next).Every P := by
  apply every.andThen
  intro outcome
  cases outcome with
  | ok a => exact then_every a
  | error failure => exact every_done _

theorem Every.map {p : Plan α} (every : p.Every P) (f : α → β) : (f <$> p).Every P :=
  every.bind fun a => every_pure (f a)

theorem every_lift_bind {e : Except Failure α} {next : α → Plan β}
    (every : ∀ a, e = .ok a → (next a).Every P) : ((liftM e : Plan α) >>= next).Every P := by
  cases e with
  | ok a => exact every a rfl
  | error failure => exact every_done _

theorem every_lift (e : Except Failure α) : (liftM e : Plan α).Every P := every_done e

theorem every_send {job : Job} (h : P (.statement job)) : (send job).Every P :=
  ⟨h, every_done⟩

theorem every_find {key : Text} (h : P (.lookUp key)) : (find key).Every P :=
  ⟨h, fun found => every_done (.ok found)⟩

theorem every_save {content : Snapshot.Store.Content Grid} (h : P (.keep content)) :
    (save content).Every P :=
  ⟨h, every_done⟩

@[simp]
theorem settings_run (p : Plan α) (d : Desk) : (p.run d).2.settings = d.settings := by
  induction p generalizing d with
  | done outcome => rfl
  | statement job next ih => exact ih _ _
  | lookUp key next ih => exact ih _ _
  | keep content next ih =>
    exact (ih _ _).trans (Desk.keep_settings d content)

theorem Every.log_run {P : Datum → Prop} {p : Plan α} (every : p.Every (Step.Sends P)) {d : Desk}
    (log : ∀ s ∈ d.engine.log, P s.sql) : ∀ s ∈ (p.run d).2.engine.log, P s.sql := by
  induction p generalizing d with
  | done outcome => exact log
  | statement job next ih => exact ih _ (every.2 _) (d.perform_log every.1 log)
  | lookUp key next ih => exact ih _ (every.2 _) log
  | keep content next ih =>
    have kept : ∀ s ∈ (d.keep content).2.engine.log, P s.sql := by
      rw [Desk.keep_engine]
      exact log
    exact ih _ (every.2 _) kept

theorem Every.store_run {p : Plan α} (every : p.Every Step.IsStatement) (d : Desk) :
    (p.run d).2.store = d.store := by
  induction p generalizing d with
  | done outcome => rfl
  | statement job next ih => exact ih _ (every.2 _) _
  | lookUp key next ih => exact every.1.elim
  | keep content next ih => exact every.1.elim

theorem Every.run_congr {p : Plan α} (every : p.Every Step.IsStatement) {d e : Desk}
    (same : d.engine = e.engine) :
    (p.run d).1 = (p.run e).1 ∧ (p.run d).2.engine = (p.run e).2.engine := by
  induction p generalizing d e with
  | done outcome => exact ⟨rfl, same⟩
  | statement job next ih =>
    have outcome : (d.perform job).1 = (e.perform job).1 := by simp [Desk.perform, same]
    have engine : (d.perform job).2.engine = (e.perform job).2.engine := by
      simp [Desk.perform, same]
    have rest := ih (d.perform job).1 (every.2 _) engine
    simp only [run]
    rw [← outcome]
    exact rest
  | lookUp key next ih => exact every.1.elim
  | keep content next ih => exact every.1.elim

end Plan

end QueryDesk
