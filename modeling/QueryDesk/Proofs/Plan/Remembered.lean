import QueryDesk.Proofs.Plan.Lasting
import QueryDesk.Proofs.Snapshot.Store

namespace QueryDesk

theorem Desk.log_perform_ok {d : Desk} {job : Job} {pull : Pull}
    (answered : (d.perform job).1 = .ok pull) :
    (d.perform job).2.engine.log.length = d.engine.log.length + 1 := by
  have log : (d.perform job).2.engine.log = (d.engine.perform job).2.log := rfl
  have outcome : (d.perform job).1 = (d.engine.perform job).1 := rfl
  rw [log, Engine.log_perform]
  rw [outcome] at answered
  cases closed : d.engine.closed with
  | true => simp [Engine.perform, Engine.exchange, closed] at answered
  | false => rfl

theorem Desk.keep_eq_of_keep {d : Desk} {content : Snapshot.Store.Content Grid} {e : Snapshot.Entry Grid}
    {store : Snapshot.Store Grid} (kept : d.store.keep d.now content none = .ok (e, store)) :
    d.keep content = (.ok (), { d with store }) := by
  unfold keep
  rw [kept]

namespace Plan

variable {α : Type} {s : Settings} {q : Sql.Query} {d after : Desk} {grid : Grid}

theorem every_isStatement_fresh (s : Settings) (q : Sql.Query) (cap : Int) :
    (fresh s q cap).Every Step.IsStatement :=
  every_grid fun _ => True.intro

theorem run_fresh_frame {cap : Int} {outcome : Except Failure Grid}
    (ran : (fresh s q cap).run d = (outcome, after)) :
    after.store = d.store ∧ after.settings = d.settings := by
  have store := (every_isStatement_fresh s q cap).store_run d
  have settings := settings_run (fresh s q cap) d
  rw [ran] at store settings
  exact ⟨store, settings⟩

theorem now_run_fresh {cap : Int} (ran : (fresh s q cap).run d = (.ok grid, after)) :
    after.now = d.awaited := by
  have accepted := Order.accepted_of_run ran
  unfold fresh at ran
  rw [Order.run_grid accepted] at ran
  exact (congrArg (fun result => result.2.now) ran).symm

theorem log_run_fresh {cap : Int} (answered : ((fresh s q cap).run d).1 = .ok grid) :
    ((fresh s q cap).run d).2.engine.log.length = d.engine.log.length + 1 := by
  unfold fresh at answered ⊢
  have accepted := Order.accepted_of_run (Prod.ext answered rfl)
  rw [Order.run_grid accepted] at answered ⊢
  obtain ⟨pull, pulled, _⟩ := bind_eq_ok.mp answered
  rw [← Desk.perform_fst] at pulled
  exact Desk.log_perform_ok pulled

section Keyed

variable {source : Option Text} {key : Text}
  (accepted : Guard.check s.policy .general q.sql = .ok ())
  (digest : Snapshot.key q source = .ok key)

include accepted digest

theorem remembered_eq_bind :
    remembered s q source = (do
      match ← find key with
      | some grid => pure grid
      | none =>
        let grid ← fresh s q s.previewMaxRows
        save ⟨key, q.sql, grid, source⟩
        pure grid) := by
  unfold remembered
  rw [accepted, lift_ok_bind, digest]
  exact lift_ok_bind key _

theorem run_remembered_found (found : (d.lookUp key).1 = some grid) :
    (remembered s q source).run d = (.ok grid, (d.lookUp key).2) := by
  have looked : (find key).run d = (.ok (d.lookUp key).1, (d.lookUp key).2) := rfl
  rw [remembered_eq_bind accepted digest, run_bind, looked, found]
  rfl

theorem run_remembered_sent (absent : (d.lookUp key).1 = none) :
    (remembered s q source).run d =
      match (fresh s q s.previewMaxRows).run (d.lookUp key).2 with
      | (.ok grid, after) =>
        let (kept, after) := after.keep ⟨key, q.sql, grid, source⟩
        (kept.map fun _ => grid, after)
      | (.error failure, after) => (.error failure, after) := by
  have looked : (find key).run d = (.ok (d.lookUp key).1, (d.lookUp key).2) := rfl
  rw [remembered_eq_bind accepted digest, run_bind, looked, absent]
  simp only
  rw [run_bind]
  obtain ⟨outcome, after⟩ := (fresh s q s.previewMaxRows).run (d.lookUp key).2
  cases outcome with
  | error failure => rfl
  | ok grid =>
    have saved : (save ⟨key, q.sql, grid, source⟩).run after =
        after.keep ⟨key, q.sql, grid, source⟩ := rfl
    simp only
    rw [run_bind, saved]
    obtain ⟨kept, after⟩ := after.keep ⟨key, q.sql, grid, source⟩
    cases kept <;> rfl

theorem run_remembered_error (absent : (d.lookUp key).1 = none) {failure : Failure}
    (ran : (fresh s q s.previewMaxRows).run (d.lookUp key).2 = (.error failure, after)) :
    (remembered s q source).run d = (.error failure, after) := by
  rw [run_remembered_sent accepted digest absent, ran]

theorem run_remembered_ok (absent : (d.lookUp key).1 = none)
    (representable : ∃ expires, d.awaited.after d.store.lifetime = .ok expires)
    (ran : (fresh s q s.previewMaxRows).run (d.lookUp key).2 = (.ok grid, after)) :
    ∃ e store,
      (d.lookUp key).2.store.keep d.awaited ⟨key, q.sql, grid, source⟩ none = .ok (e, store) ∧
      (remembered s q source).run d = (.ok grid, { after with store }) := by
  obtain ⟨store, _⟩ := run_fresh_frame ran
  have lifetime : (d.lookUp key).2.store.lifetime = d.store.lifetime :=
    Snapshot.Store.lifetime_lookup d.store d.now key
  obtain ⟨expires, ends⟩ := representable
  rw [← lifetime] at ends
  obtain ⟨e, kept, holds⟩ : ∃ e kept, (d.lookUp key).2.store.keep d.awaited
      ⟨key, q.sql, grid, source⟩ none = .ok (e, kept) :=
    ⟨_, _, Snapshot.Store.keep_eq_ok_iff.mpr ⟨expires, ends, rfl, rfl⟩⟩
  refine ⟨e, kept, holds, ?_⟩
  have present : after.now = (d.lookUp key).2.awaited := now_run_fresh ran
  have awaited : (d.lookUp key).2.awaited = d.awaited := rfl
  rw [← store, ← awaited, ← present] at holds
  rw [run_remembered_sent accepted digest absent, ran]
  simp only
  rw [Desk.keep_eq_of_keep holds]
  rfl

end Keyed

theorem run_remembered_unkeyed {source : Option Text} {failure : Failure}
    (accepted : Guard.check s.policy .general q.sql = .ok ())
    (digest : Snapshot.key q source = .error failure) (d : Desk) :
    (remembered s q source).run d = (.error failure, d) := by
  unfold remembered
  rw [accepted, lift_ok_bind, digest]
  rfl

end Plan

end QueryDesk
