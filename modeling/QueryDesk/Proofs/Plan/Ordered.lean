import QueryDesk.Plan.Order
import QueryDesk.Proofs.Outcome
import QueryDesk.Proofs.Plan.Every

namespace QueryDesk

namespace Plan

variable {α β γ : Type}

theorem andThen_assoc (p : Plan α) (f : Except Failure α → Plan β) (g : Except Failure β → Plan γ) :
    (p.andThen f).andThen g = p.andThen fun outcome => (f outcome).andThen g := by
  induction p with
  | done outcome => rfl
  | statement job next ih => simp only [andThen]; congr; funext outcome; exact ih outcome
  | lookUp key next ih => simp only [andThen]; congr; funext found; exact ih found
  | keep content next ih => simp only [andThen]; congr; funext outcome; exact ih outcome

instance : LawfulMonad Plan := LawfulMonad.mk' Plan
  (by
    intro α p
    have goes_on : (fun outcome : Except Failure α => match outcome with
        | .ok a => (done (.ok a) : Plan α)
        | .error failure => done (.error failure)) = done := by
      funext outcome
      cases outcome <;> rfl
    exact (congrArg p.andThen goes_on).trans p.andThen_done)
  (fun _ _ => rfl)
  (by
    intro α β γ p f g
    refine (p.andThen_assoc _ _).trans ?_
    congr
    funext outcome
    cases outcome <;> rfl)

theorem run_bind (p : Plan α) (next : α → Plan β) (d : Desk) :
    (p >>= next).run d = match p.run d with
      | (.ok a, after) => (next a).run after
      | (.error failure, after) => (.error failure, after) := by
  refine (run_andThen p _ d).trans ?_
  obtain ⟨outcome, after⟩ := p.run d
  cases outcome <;> rfl

theorem run_map (f : α → β) (p : Plan α) (d : Desk) :
    (f <$> p).run d = ((p.run d).1.map f, (p.run d).2) := by
  rw [map_eq_pure_bind, run_bind]
  obtain ⟨outcome, after⟩ := p.run d
  cases outcome <;> rfl

theorem lift_ok_bind (a : α) (next : α → Plan β) :
    ((liftM (Except.ok a : Except Failure α) : Plan α) >>= next) = next a := rfl

theorem lift_error_bind (failure : Failure) (next : α → Plan β) :
    ((liftM (Except.error failure : Except Failure α) : Plan α) >>= next) = done (.error failure) :=
  rfl

end Plan

namespace Order

variable {α : Type} {o : Order} {policy : Guard.Policy} {failure : Failure} {made : Pull → Except Failure α}

def asking (policy : Guard.Policy) (o : Order) (made : Pull → Except Failure α) : Plan α := do
  made (← o.pull policy)

theorem run_asking_refused (refused : o.check policy = .error failure) (d : Desk) :
    (o.asking policy made).run d = (.error failure, d) := by
  have pulled : o.pull policy = .done (.error failure) := by
    unfold pull
    rw [refused, Plan.lift_error_bind]
  unfold asking
  rw [pulled, Plan.run_bind]
  rfl

theorem run_asking (accepted : o.check policy = .ok ()) (d : Desk) : (o.asking policy made).run d =
    ((d.engine.exchange o.job).2 >>= made, (d.perform o.job).2) := by
  have pulled : (o.pull policy).run d = d.perform o.job := by
    unfold pull
    rw [accepted, Plan.lift_ok_bind]
    rfl
  unfold asking
  rw [Plan.run_bind, pulled, ← Desk.perform_fst]
  obtain ⟨outcome, after⟩ := d.perform o.job
  cases outcome <;> rfl

theorem accepted_of_run {d after : Desk} {a : α}
    (ran : (o.asking policy made).run d = (.ok a, after)) : o.check policy = .ok () := by
  cases checked : o.check policy with
  | ok _ => rfl
  | error failure =>
    rw [run_asking_refused checked] at ran
    cases ran

theorem run_grid (accepted : o.check policy = .ok ()) (d : Desk) : (o.grid policy).run d =
    ((d.engine.exchange o.job).2 >>= Pull.grid, (d.perform o.job).2) :=
  run_asking accepted d

theorem run_records (accepted : o.check policy = .ok ()) (d : Desk) : (o.records policy).run d =
    ((d.engine.exchange o.job).2 >>= Pull.records, (d.perform o.job).2) :=
  run_asking accepted d

end Order

end QueryDesk
