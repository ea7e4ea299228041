import QueryDesk.Proofs.Line.Move
import QueryDesk.Proofs.Plan.Contract

namespace QueryDesk

variable {α : Type}

def Plan.Terms.steady (replies : Reply → Prop) (grids : Grid → Prop) (fails : Failure → Prop) :
    Plan.Terms := ⟨fun _ => replies, grids, fails⟩

variable {replies : Reply → Prop} {grids : Grid → Prop} {fails : Failure → Prop}
  {holds : α → Prop}

def Worker.Serves (replies : Reply → Prop) (job : Job) : Worker → Prop
  | .unsent own => own = job
  | .sent _ outcome => job.Gives replies outcome

structure Caller.Meets (replies : Reply → Prop) (grids : Grid → Prop) (fails : Failure → Prop)
    (holds : α → Prop) (c : Caller α) : Prop where
  rest : ∃ k, c.stage.rest.Meets (.steady replies grids fails) (fun _ => holds) k
  serves : ∀ job next, c.stage = .holding job next → ∀ w, c.worker = some w → w.Serves replies job

structure Line.Meets (replies : Reply → Prop) (grids : Grid → Prop) (fails : Failure → Prop)
    (holds : α → Prop) (l : Line α) : Prop where
  callers : ∀ c ∈ l.callers, c.Meets replies grids fails holds
  offers : l.desk.engine.Offers (fun _ => replies) 0
  stored : l.desk.store.Holds grids

namespace Caller

variable {job : Job} {next : Except Failure Pull → Plan α} {k : Nat} {worker : Option Worker}

theorem meets_ended {outcome : Except Failure α} (ends : Ends fails holds outcome) :
    Caller.Meets replies grids fails holds ⟨.ended outcome, worker⟩ :=
  ⟨⟨0, ends⟩, nofun⟩

theorem meets_queued (rest : (Plan.statement job next).Meets (.steady replies grids fails)
    (fun _ => holds) k) : Caller.Meets replies grids fails holds ⟨.queued job next, none⟩ :=
  ⟨⟨k, rest⟩, nofun⟩

theorem meets_holding (rest : (Plan.statement job next).Meets (.steady replies grids fails)
    (fun _ => holds) k) :
    Caller.Meets replies grids fails holds ⟨.holding job next, some (.unsent job)⟩ := by
  refine ⟨⟨k, rest⟩, ?_⟩
  rintro _ _ ⟨⟩ _ ⟨⟩
  exact rfl

end Caller

namespace Line.Meets

variable {l : Line α}

theorem caller (meets : l.Meets replies grids fails holds) {i : Nat} {c : Caller α}
    (found : l.callers[i]? = some c) : c.Meets replies grids fails holds :=
  meets.callers c (List.mem_of_getElem? found)

theorem put (meets : l.Meets replies grids fails holds) (i : Nat) {stage : Stage α}
    {worker : Option Worker} (own : Caller.Meets replies grids fails holds ⟨stage, worker⟩) :
    (l.put i stage worker).Meets replies grids fails holds := by
  refine ⟨fun c member => ?_, meets.offers, meets.stored⟩
  rcases List.mem_or_eq_of_mem_set member with old | rfl
  · exact meets.callers c old
  · exact own

theorem withDesk (meets : l.Meets replies grids fails holds) {d : Desk}
    (offers : d.engine.Offers (fun _ => replies) 0) (stored : d.store.Holds grids) :
    ({ l with desk := d } : Line α).Meets replies grids fails holds :=
  ⟨meets.callers, offers, stored⟩

theorem release (meets : l.Meets replies grids fails holds) (i : Nat) :
    (l.release i).Meets replies grids fails holds := by
  unfold Line.release
  split
  · exact ⟨meets.callers, meets.offers, meets.stored⟩
  · exact meets

theorem proceed (meets : l.Meets replies grids fails holds) (i : Nat) {p : Plan α} {k : Nat}
    (rest : p.Meets (.steady replies grids fails) (fun _ => holds) k) :
    (l.proceed i p).Meets replies grids fails holds := by
  induction p generalizing l k with
  | done outcome => exact meets.put i (Caller.meets_ended rest)
  | statement job next _ =>
    unfold Line.proceed Line.ask
    split
    · have holding := meets.put i (Caller.meets_holding rest)
      exact ⟨holding.callers, holding.offers, holding.stored⟩
    · have queued := meets.put i (Caller.meets_queued rest)
      exact ⟨queued.callers, queued.offers, queued.stored⟩
  | lookUp key next ih =>
    obtain ⟨kept, found⟩ := meets.stored.lookup l.desk.now key
    refine ih _ (meets.withDesk meets.offers kept) (rest _ fun g there => ?_)
    obtain ⟨e, first, rfl⟩ := Option.map_eq_some_iff.mp there
    exact found e first
  | keep content next ih =>
    obtain ⟨own, saved, unsaved⟩ := rest
    simp only [Line.proceed, Desk.keep]
    cases kept : l.desk.store.keep l.desk.now content none with
    | ok entry => exact ih _ (meets.withDesk meets.offers (meets.stored.keep own kept)) saved
    | error fault => exact ih _ (meets.withDesk meets.offers meets.stored) (unsaved fault)

section Moves

variable (gone : fails .cancelled)

include gone

theorem cancelled (meets : l.Meets replies grids fails holds) (i : Nat) (worker : Option Worker) :
    (l.put i (.ended (.error .cancelled)) worker).Meets replies grids fails holds :=
  meets.put i (Caller.meets_ended gone)

theorem step (meets : l.Meets replies grids fails holds) (e : Event) :
    (l.step e).Meets replies grids fails holds := by
  have move := l.move_step e
  generalize l.step e = next at move
  cases move with
  | idle => exact meets
  | start found =>
    obtain ⟨k, rest⟩ := (meets.caller found).rest
    exact meets.proceed _ rest
  | @grant i queue job next worker _ _ found =>
    obtain ⟨k, rest⟩ := (meets.caller found).rest
    have granted := meets.put i (Caller.meets_holding rest)
    exact ⟨granted.callers, granted.offers, granted.stored⟩
  | skip => exact ⟨meets.callers, meets.offers, meets.stored⟩
  | @send i stage job found =>
    obtain ⟨rest, serves⟩ := meets.caller found
    have offers := Engine.offers_perform meets.offers job
    have sent := meets.withDesk (d := (l.desk.perform job).2) offers meets.stored
    refine sent.put i ⟨rest, ?_⟩
    rintro own next rfl _ ⟨⟩
    have same : job = own := serves own next rfl _ rfl
    rw [← same, Desk.perform_fst]
    exact Engine.gives_exchange meets.offers job
  | respond found =>
    obtain ⟨rest, serves⟩ := meets.caller found
    refine meets.put _ ⟨rest, ?_⟩
    rintro own next same _ ⟨⟩
    have given := serves own next same _ rfl
    exact given
  | answer found =>
    obtain ⟨⟨k, rest⟩, serves⟩ := meets.caller found
    have given := serves _ _ rfl _ rfl
    exact (meets.release _).proceed _ (rest _ given)
  | depart => exact cancelled gone (meets.release _) _ _
  | drop => exact cancelled gone meets _ _
  | @quit i job next worker _ =>
    have shorter : ({ l with queue := l.queue.filter (· != i) } : Line α).Meets replies grids fails
        holds := ⟨meets.callers, meets.offers, meets.stored⟩
    exact cancelled gone shorter i none
  | stay => exact meets.put _ ⟨⟨0, fun _ _ => gone⟩, nofun⟩
  | abandon => exact cancelled gone (meets.release _) _ _
  | giveUp => exact cancelled gone (meets.release _) _ _

theorem after (meets : l.Meets replies grids fails holds) (events : List Event) :
    (l.after events).Meets replies grids fails holds := by
  induction events generalizing l with
  | nil => exact meets
  | cons e rest ih => exact ih (step gone meets e)

theorem outcomes (meets : l.Meets replies grids fails holds) :
    ∀ outcome ∈ l.outcomes, Ends fails holds outcome := by
  intro outcome member
  obtain ⟨c, present, rfl⟩ := List.mem_map.mp member
  obtain ⟨k, rest⟩ := (meets.callers c present).rest
  split
  · rename_i ended
    rw [ended] at rest
    exact rest
  · exact gone

end Moves

end Line.Meets

theorem Line.meets_ofPlans {d : Desk} {plans : List (Plan α)}
    (offers : d.engine.Offers (fun _ => replies) 0) (stored : d.store.Holds grids)
    (each : ∀ p ∈ plans, p.Meets (.steady replies grids fails) (fun _ => holds) 0) :
    (ofPlans d plans).Meets replies grids fails holds := by
  refine ⟨fun c member => ?_, offers, stored⟩
  obtain ⟨p, planned, rfl⟩ := List.mem_map.mp member
  exact ⟨⟨0, each p planned⟩, nofun⟩

end QueryDesk
