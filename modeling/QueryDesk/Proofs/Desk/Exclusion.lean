import QueryDesk.Call
import QueryDesk.Proofs.Line.Errand
import QueryDesk.Proofs.Plan.Ordered
import QueryDesk.Snapshot.Session

namespace QueryDesk

def Order.errand (policy : Guard.Policy) (o : Order) (answer : Pull → Except Failure Answer) :
    Errand Answer :=
  match o.check policy with
  | .error failure => .refused failure
  | .ok () => .sending o.job fun outcome => outcome >>= answer

theorem Order.plan_eq {β : Type} (policy : Guard.Policy) (o : Order) (read : Pull → Except Failure β)
    (answer : β → Answer) :
    (answer <$> (o.pull policy >>= fun pull => liftM (read pull)) : Plan Answer) =
      (o.errand policy fun pull => answer <$> read pull).plan := by
  unfold errand pull
  cases o.check policy with
  | error failure => rfl
  | ok _ =>
    refine congrArg (Plan.statement o.job) (funext fun outcome => ?_)
    cases outcome with
    | error failure => rfl
    | ok pull =>
      change (answer <$> (.done (read pull) : Plan β)) = .done (answer <$> read pull)
      cases read pull <;> rfl

namespace DirectCall

def answersOne (pull : Pull) : Except Failure Bool :=
  match pull.rows with
  | (cell :: _) :: _ => Plan.isOne cell
  | _ => .ok false

def errand (s : Settings) : DirectCall → Errand Answer
  | ping => .sending Plan.pingJob fun outcome => .flag <$> (outcome >>= answersOne)
  | grid o => o.errand s.policy fun pull => .grid <$> pull.grid
  | records o => o.errand s.policy fun pull => .records <$> pull.records

theorem plan_eq (s : Settings) (c : DirectCall) : c.plan s = (c.errand s).plan := by
  cases c with
  | ping =>
    refine congrArg (Plan.statement Plan.pingJob) (funext fun outcome => ?_)
    cases outcome with
    | error failure => rfl
    | ok pull =>
      obtain ⟨columns, rows, more⟩ := pull
      rcases rows with _ | ⟨_ | ⟨cell, cells⟩, rows⟩
      · rfl
      · rfl
      · change (Answer.flag <$> (.done (Plan.isOne cell) : Plan Bool)) =
          .done (Answer.flag <$> Plan.isOne cell)
        cases Plan.isOne cell <;> rfl
  | grid o => exact o.plan_eq s.policy Pull.grid Answer.grid
  | records o => exact o.plan_eq s.policy Pull.records Answer.records

def line (d : Desk) (calls : List DirectCall) : Line Answer :=
  .ofPlans d (calls.map (·.plan d.settings))

theorem line_eq (d : Desk) (calls : List DirectCall) :
    line d calls = .ofErrands d (calls.map (·.errand d.settings)) := by
  simp only [line, Line.ofErrands, List.map_map]
  congr 1
  exact List.map_congr_left fun c _ => c.plan_eq d.settings

theorem impatient_iff (s : Settings) (c : DirectCall) :
    (∃ job finish, c.errand s = .sending job finish ∧ job.patient = false) ↔ c = .ping := by
  have patient (o : Order) (answer : Pull → Except Failure Answer) : ¬ ∃ job finish,
      o.errand s.policy answer = .sending job finish ∧ job.patient = false := by
    rintro ⟨job, finish, sends, impatient⟩
    unfold Order.errand at sends
    split at sends
    · cases sends
    · cases sends
      cases impatient
  cases c with
  | ping => exact iff_of_true ⟨Plan.pingJob, _, rfl, rfl⟩ rfl
  | grid o => exact iff_of_false (patient o _) (by simp)
  | records o => exact iff_of_false (patient o _) (by simp)

-- The same with two orders, the first of which is cancelled twice.
example :
    let order : Order := ⟨⟨.text "SELECT 1", []⟩, .first, .general, true⟩
    let d : Desk := .start .default (.ofScript []) Snapshot.sessionStart
    let later := (line d [.grid order, .records order]).after
      [.start 0, .start 1, .send 0, .cancel 0, .cancel 0, .grant, .send 1]
    (later.callsLeft 0, later.callsLeft 1) = (2, 2) := by decide +kernel

end DirectCall

end QueryDesk
