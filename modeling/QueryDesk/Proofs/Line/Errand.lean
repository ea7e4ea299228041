import Mathlib.Data.List.Nodup
import QueryDesk.Proofs.Line.Blocks

namespace QueryDesk

variable {α : Type}

/-- What a caller does who is refused at once, or sends one statement and answers what comes of
    it. -/
inductive Errand (α : Type) where
  | refused (failure : Failure)
  | sending (job : Job) (finish : Except Failure Pull → Except Failure α)

namespace Errand

def rest (finish : Except Failure Pull → Except Failure α) (outcome : Except Failure Pull) :
    Plan α := .done (finish outcome)

def plan : Errand α → Plan α
  | refused failure => .done (.error failure)
  | sending job finish => .statement job (rest finish)

/-- Where a caller can be on its errand, whether it has been cancelled by then, and which statements
    it has sent. -/
inductive At : Errand α → Bool → List Block → Caller α → Prop
  | unstarted (r : Errand α) : At r false [] ⟨.unstarted r.plan, none⟩
  | refused (failure : Failure) : At (.refused failure) false [] ⟨.ended (.error failure), none⟩
  | queued job finish : At (.sending job finish) false [] ⟨.queued job (rest finish), none⟩
  | unsent job finish :
    At (.sending job finish) false [] ⟨.holding job (rest finish), some (.unsent job)⟩
  | sent (b : Block) (left : Nat) finish :
    At (.sending b.job finish) false [b] ⟨.holding b.job (rest finish), some (.sent left b.outcome)⟩
  | answered (b : Block) finish :
    At (.sending b.job finish) false [b] ⟨.ended (finish b.outcome), none⟩
  | leavingUnsent job finish : At (.sending job finish) true [] ⟨.leaving, some (.unsent job)⟩
  | leavingSent (b : Block) (left : Nat) finish :
    At (.sending b.job finish) true [b] ⟨.leaving, some (.sent left b.outcome)⟩
  | cancelled (r : Errand α) : At r true [] ⟨.ended (.error .cancelled), none⟩
  | cancelledSent (b : Block) finish (worker : Option Worker)
    (unable : ∀ job, worker ≠ some (.unsent job)) :
    At (.sending b.job finish) true [b] ⟨.ended (.error .cancelled), worker⟩

end Errand

namespace Line

def ended? (l : Line α) (i : Nat) : Option (Except Failure α) :=
  match l.callers[i]? with
  | some ⟨.ended outcome, _⟩ => some outcome
  | _ => none

def interrupts (l : Line α) (i : Nat) (e : Event) : Bool := e == .cancel i && (l.ended? i).isNone

def interrupted (l : Line α) (i : Nat) : List Event → Bool
  | [] => false
  | e :: rest => l.interrupts i e || (l.step e).interrupted i rest

theorem subject_of_opened {l : Line α} {e : Event} {b : Block} (sent : b ∈ l.opened e) :
    l.subject e = some b.caller := by
  cases e with
  | send i =>
    simp only [opened] at sent
    split at sent
    · rw [List.mem_singleton.mp sent]
      rfl
    · cases sent
  | _ => cases sent

theorem interrupts_of_ne {l : Line α} {e : Event} {i : Nat} (ne : e ≠ .cancel i) :
    l.interrupts i e = false := by
  simp [interrupts, ne]

end Line

namespace Errand.At

variable {l : Line α} {i : Nat} {c : Caller α} {r : Errand α} {cut : Bool} {own : List Block}

theorem start (place : r.At cut own c) (found : l.callers[i]? = some c) :
    ∃ next, (l.start i).callers[i]? = some next ∧ r.At cut own next := by
  have known := Line.known_of_getElem? found
  have here := place
  cases place with
  | unstarted r =>
    simp only [Line.start, found]
    cases r with
    | refused failure => exact ⟨_, Line.getElem?_put_self known _ _, .refused failure⟩
    | sending job finish =>
      simp only [plan, Line.proceed, Line.ask]
      split
      · exact ⟨_, Line.getElem?_put_self known _ _, .unsent job finish⟩
      · exact ⟨_, Line.getElem?_put_self known _ _, .queued job finish⟩
  | _ => exact ⟨_, by simp only [Line.start, found], here⟩

theorem grant (place : r.At cut own c) (found : l.callers[i]? = some c) (orderly : l.Orderly)
    (first : l.subject .grant = some i) :
    ∃ next, l.grant.callers[i]? = some next ∧ r.At cut own next := by
  have known := Line.known_of_getElem? found
  obtain ⟨free, queue, line⟩ : l.holder = none ∧ ∃ queue, l.queue = i :: queue := by
    simp only [Line.subject] at first
    split at first
    · rename_i free
      exact ⟨by simpa using free, List.head?_eq_some_iff.mp first⟩
    · cases first
  obtain ⟨job, next, waits⟩ := orderly.exists_queued (i := i) (by simp [line])
  cases found.symm.trans waits
  cases place with
  | queued job finish =>
    simp only [Line.grant, free, line, found]
    exact ⟨_, Line.getElem?_put_self known _ _, .unsent job finish⟩

theorem send (place : r.At cut own c) (found : l.callers[i]? = some c) :
    ∃ next, (l.send i).callers[i]? = some next ∧ r.At cut (own ++ l.opened (.send i)) next := by
  by_cases sends : ∃ stage job, l.callers[i]? = some ⟨stage, some (.unsent job)⟩
  · obtain ⟨stage, job, unsent⟩ := sends
    cases found.symm.trans unsent
    have known : i < ({ l with desk := (l.desk.perform job).2 } : Line α).callers.length :=
      Line.known_of_getElem? found
    have outcome : (l.desk.perform job).1 = (Block.mk i job l.desk.engine.upcoming).outcome := by
      rw [Desk.perform_fst, l.desk.engine.exchange_eq i]
      rfl
    rw [Line.send_eq found, Line.opened_send found, outcome]
    refine ⟨_, Line.getElem?_put_self known _ _, ?_⟩
    cases place with
    | unsent _ finish => exact .sent ⟨i, job, l.desk.engine.upcoming⟩ _ finish
    | leavingUnsent _ finish => exact .leavingSent ⟨i, job, l.desk.engine.upcoming⟩ _ finish
    | cancelledSent b finish worker unable => exact absurd rfl (unable job)
  · obtain ⟨unchanged, unopened, _⟩ :=
      Line.send_of_idle (l := l) (i := i) fun stage job found => sends ⟨stage, job, found⟩
    rw [unchanged, unopened, List.append_nil]
    exact ⟨c, found, place⟩

theorem respond (place : r.At cut own c) (found : l.callers[i]? = some c) :
    ∃ next, (l.respond i).callers[i]? = some next ∧ r.At cut own next := by
  have known := Line.known_of_getElem? found
  unfold Line.respond
  split
  · rename_i stage left outcome waiting
    cases found.symm.trans waiting
    refine ⟨_, Line.getElem?_put_self known _ _, ?_⟩
    cases place with
    | sent b _ finish => exact .sent b left finish
    | leavingSent b _ finish => exact .leavingSent b left finish
    | cancelledSent b finish _ unable => exact .cancelledSent b finish _ (by simp)
  · exact ⟨c, found, place⟩

theorem resume (place : r.At cut own c) (found : l.callers[i]? = some c) :
    ∃ next, (l.resume i).callers[i]? = some next ∧ r.At cut own next := by
  have known : i < (l.release i).callers.length := by
    rw [Line.callers_release]
    exact Line.known_of_getElem? found
  unfold Line.resume
  split
  · rename_i job next outcome done
    cases found.symm.trans done
    cases place with
    | sent b _ finish => exact ⟨_, Line.getElem?_put_self known _ _, .answered b finish⟩
  · rename_i outcome done
    cases found.symm.trans done
    refine ⟨_, Line.getElem?_put_self known _ _, ?_⟩
    cases place with
    | leavingSent b _ finish => exact .cancelledSent b finish none (by simp)
  · exact ⟨c, found, place⟩

theorem cancel (place : r.At cut own c) (found : l.callers[i]? = some c) :
    ∃ next, (l.cancel i).callers[i]? = some next ∧ r.At (cut || (l.ended? i).isNone) own next := by
  have known := Line.known_of_getElem? found
  have released : i < (l.release i).callers.length := by rw [Line.callers_release]; exact known
  have here := place
  cases place with
  | unstarted r =>
    simp only [Line.cancel, Line.ended?, found]
    exact ⟨_, Line.getElem?_put_self known _ _, .cancelled r⟩
  | queued job finish =>
    simp only [Line.cancel, Line.ended?, found]
    exact ⟨_, Line.getElem?_put_self known _ _, .cancelled _⟩
  | unsent job finish =>
    simp only [Line.cancel, Line.ended?, found]
    split
    · exact ⟨_, Line.getElem?_put_self known _ _, .leavingUnsent job finish⟩
    · exact ⟨_, Line.getElem?_put_self released _ _, .cancelled _⟩
  | sent b left finish =>
    simp only [Line.cancel, Line.ended?, found]
    split
    · exact ⟨_, Line.getElem?_put_self known _ _, .leavingSent b left finish⟩
    · have able : ∀ job, (Worker.sent left b.outcome).abandoned ≠ some (.unsent job) := by
        simp [Worker.abandoned]
      exact ⟨_, Line.getElem?_put_self released _ _, .cancelledSent b finish _ able⟩
  | leavingUnsent job finish =>
    simp only [Line.cancel, Line.ended?, found]
    exact ⟨_, Line.getElem?_put_self released _ _, .cancelled _⟩
  | leavingSent b left finish =>
    simp only [Line.cancel, Line.ended?, found]
    have able : ∀ job, (Worker.sent left b.outcome).abandoned ≠ some (.unsent job) := by
      simp [Worker.abandoned]
    exact ⟨_, Line.getElem?_put_self released _ _, .cancelledSent b finish _ able⟩
  | _ =>
    simp only [Line.cancel, Line.ended?, found]
    exact ⟨_, rfl, here⟩

theorem step (place : r.At cut own c) (found : l.callers[i]? = some c) (orderly : l.Orderly)
    (e : Line.Event) : ∃ next, (l.step e).callers[i]? = some next ∧
      r.At (cut || l.interrupts i e) (own ++ (l.opened e).filter (·.caller == i)) next := by
  by_cases turn : l.subject e = some i
  · have all : (l.opened e).filter (·.caller == i) = l.opened e := by
      refine List.filter_eq_self.mpr fun b sent => ?_
      simpa using Option.some.inj ((Line.subject_of_opened sent).symm.trans turn)
    rw [all]
    -- only sending opens a block, and only a cancellation interrupts
    have plain (unsent : ∀ j, e ≠ .send j) (uncancelled : ∀ j, e ≠ .cancel j)
        (moved : ∃ next, (l.step e).callers[i]? = some next ∧ r.At cut own next) :
        ∃ next, (l.step e).callers[i]? = some next ∧
          r.At (cut || l.interrupts i e) (own ++ l.opened e) next := by
      rw [Line.interrupts_of_ne (uncancelled i), Bool.or_false, Line.opened_of_ne unsent,
        List.append_nil]
      exact moved
    cases e with
    | cancel j =>
      cases turn
      have interrupts : l.interrupts i (.cancel i) = (l.ended? i).isNone := by
        simp [Line.interrupts]
      rw [interrupts, Line.opened_of_ne (by simp), List.append_nil]
      exact place.cancel found
    | send j =>
      cases turn
      rw [Line.interrupts_of_ne (by simp), Bool.or_false]
      exact place.send found
    | start j =>
      cases turn
      exact plain (by simp) (by simp) (place.start found)
    | grant => exact plain (by simp) (by simp) (place.grant found orderly turn)
    | respond j =>
      cases turn
      exact plain (by simp) (by simp) (place.respond found)
    | resume j =>
      cases turn
      exact plain (by simp) (by simp) (place.resume found)
  · have others : (l.opened e).filter (·.caller == i) = [] := by
      refine List.filter_eq_nil_iff.mpr fun b sent same => turn ?_
      rw [Line.subject_of_opened sent]
      simpa using same
    have uncancelled : e ≠ .cancel i := by
      rintro rfl
      exact turn rfl
    rw [others, List.append_nil, Line.interrupts_of_ne uncancelled, Bool.or_false]
    exact ⟨c, (Line.getElem?_step_of_ne turn).trans found, place⟩

theorem after (place : r.At cut own c) (found : l.callers[i]? = some c) (orderly : l.Orderly)
    (events : List Line.Event) : ∃ next, (l.after events).callers[i]? = some next ∧
      r.At (cut || l.interrupted i events)
        (own ++ (l.blocks events).filter (·.caller == i)) next := by
  -- what one event adds to the cut and to the blocks is added in front of what the rest adds
  induction events generalizing l cut own c with
  | nil =>
    rw [Line.interrupted, Bool.or_false, Line.blocks, List.filter_nil, List.append_nil]
    exact ⟨c, found, place⟩
  | cons e rest ih =>
    obtain ⟨between, known, moved⟩ := place.step found orderly e
    have later := ih moved known (orderly.step e)
    rw [Bool.or_assoc, List.append_assoc, ← List.filter_append] at later
    exact later

theorem own_cases (place : r.At cut own c) :
    own = [] ∨ ∃ b finish, own = [b] ∧ r = .sending b.job finish := by
  cases place with
  | sent b _ finish => exact .inr ⟨b, finish, rfl, rfl⟩
  | answered b finish => exact .inr ⟨b, finish, rfl, rfl⟩
  | leavingSent b _ finish => exact .inr ⟨b, finish, rfl, rfl⟩
  | cancelledSent b finish _ _ => exact .inr ⟨b, finish, rfl, rfl⟩
  | _ => exact .inl rfl

theorem ended_cases {outcome : Except Failure α} {worker : Option Worker}
    (place : r.At cut own ⟨.ended outcome, worker⟩) :
    (cut = true ∧ outcome = .error .cancelled) ∨
      cut = false ∧ ((∃ failure, r = .refused failure ∧ outcome = .error failure) ∨
        ∃ b finish, own = [b] ∧ r = .sending b.job finish ∧ outcome = finish b.outcome) := by
  cases place with
  | refused failure => exact .inr ⟨rfl, .inl ⟨failure, rfl, rfl⟩⟩
  | answered b finish => exact .inr ⟨rfl, .inr ⟨b, finish, rfl, rfl, rfl⟩⟩
  | cancelled r => exact .inl ⟨rfl, rfl⟩
  | cancelledSent b finish worker unable => exact .inl ⟨rfl, rfl⟩

theorem cutsOff_iff (place : r.At cut own c) (found : l.callers[i]? = some c) :
    l.CutsOff i ↔ 0 < l.callsLeft i ∧ l.ended? i = none ∧
      ((∃ job finish, r = .sending job finish ∧ job.patient = false) ∨ cut = true) := by
  unfold Line.CutsOff Line.leavesAtOnce Line.ended?
  rw [found]
  refine and_congr_right fun busy => ?_
  rw [Line.callsLeft_eq found] at busy
  cases place <;> simp_all [Worker.callsLeft]

theorem apart {failure : Failure} {holds waits : Prop}
    (place : (Errand.refused failure : Errand α).At cut own c) (placed : c.Placed holds waits) :
    ¬holds ∧ ¬waits := by
  cases place with
  | unstarted => exact ⟨placed.1, placed.2.1⟩
  | refused => exact ⟨placed.1, placed.2.1⟩
  | cancelled => exact ⟨placed.1, placed.2.1⟩

end Errand.At

namespace Line

variable {l : Line α} {i : Nat}

theorem mem_of_interrupted {events : List Event} (interrupted : l.interrupted i events = true) :
    .cancel i ∈ events := by
  induction events generalizing l with
  | nil => cases interrupted
  | cons e rest ih =>
    rcases Bool.or_eq_true_iff.mp interrupted with now | later
    · have same : e = .cancel i := by simpa using (Bool.and_eq_true_iff.mp now).1
      exact same ▸ List.mem_cons_self
    · exact List.mem_cons_of_mem e (ih later)

theorem known_of_sent {events : List Event} {b : Block} (sent : b ∈ l.blocks events) :
    b.caller < l.callers.length := by
  induction events generalizing l with
  | nil => cases sent
  | cons e rest ih =>
    rcases List.mem_append.mp sent with now | later
    · cases e with
      | send i =>
        simp only [opened] at now
        split at now
        · rename_i found
          cases List.mem_singleton.mp now
          exact known_of_getElem? found
        · cases now
      | _ => cases now
    · exact (l.move_step e).length_eq ▸ ih later

def ofErrands (d : Desk) (errands : List (Errand α)) : Line α := ofPlans d (errands.map Errand.plan)

section Errands

variable {d : Desk} {errands : List (Errand α)} {r : Errand α}

theorem at_after (named : errands[i]? = some r) (events : List Event) :
    ∃ c, ((ofErrands d errands).after events).callers[i]? = some c ∧
      r.At ((ofErrands d errands).interrupted i events)
        (((ofErrands d errands).blocks events).filter (·.caller == i)) c := by
  have found : (ofErrands d errands).callers[i]? = some ⟨.unstarted r.plan, none⟩ := by
    simp [ofErrands, ofPlans, named]
  have later := (Errand.At.unstarted r).after found (orderly_ofPlans d _) events
  rwa [Bool.false_or, List.nil_append] at later

/-- Who lets go of the connection while its worker is on the engine: a caller who is not patient,
    or one who is cancelled again. -/
theorem cutsOff_iff (named : errands[i]? = some r) (events : List Event) :
    ((ofErrands d errands).after events).CutsOff i ↔
      0 < ((ofErrands d errands).after events).callsLeft i ∧
      ((ofErrands d errands).after events).ended? i = none ∧
      ((∃ job finish, r = .sending job finish ∧ job.patient = false) ∨
        (ofErrands d errands).interrupted i events = true) := by
  obtain ⟨c, found, place⟩ := at_after (d := d) named events
  exact place.cutsOff_iff found

theorem unknown_ofErrands (named : errands[i]? = none) (events : List Event) :
    ((ofErrands d errands).after events).callers[i]? = none ∧
      ∀ b ∈ (ofErrands d errands).blocks events, b.caller ≠ i := by
  have beyond : (ofErrands d errands).callers.length ≤ i := by
    simpa [ofErrands, ofPlans] using named
  refine ⟨List.getElem?_eq_none (by rw [length_after]; exact beyond), ?_⟩
  rintro b sent rfl
  exact Nat.not_lt.mpr beyond (known_of_sent sent)

theorem callsLeft_of_unknown (named : errands[i]? = none) (events : List Event) :
    ((ofErrands d errands).after events).callsLeft i = 0 := by
  simp only [callsLeft, (unknown_ofErrands named events).1]

theorem not_cutsOff_of_once {events : List Event}
    (patient : ∀ job finish, .sending job finish ∈ errands → job.patient = true)
    (once : ∀ i, events.count (.cancel i) ≤ 1) (before : List Event) (i : Nat)
    (cancelled : before ++ [.cancel i] <+: events) :
    ¬ ((ofErrands d errands).after before).CutsOff i := by
  intro cut
  cases named : errands[i]? with
  | none =>
    have idle := callsLeft_of_unknown (d := d) named before
    exact absurd cut.1 (by omega)
  | some r =>
    obtain ⟨_, _, impatient | again⟩ := (cutsOff_iff named before).mp cut
    · obtain ⟨job, finish, rfl, impatient⟩ := impatient
      rw [patient job finish (List.mem_of_getElem? named)] at impatient
      cases impatient
    · have earlier := List.count_pos_iff.mpr (mem_of_interrupted again)
      have all := cancelled.sublist.count_le (.cancel i)
      rw [List.count_append, List.count_singleton_self] at all
      have most := once i
      omega

theorem sent_eq (named : errands[i]? = some r) (events : List Event) :
    ((ofErrands d errands).blocks events).filter (·.caller == i) = [] ∨
      ∃ b finish, ((ofErrands d errands).blocks events).filter (·.caller == i) = [b] ∧
        r = .sending b.job finish := by
  obtain ⟨c, _, place⟩ := at_after (d := d) named events
  exact place.own_cases

theorem job_of_sent {events : List Event} {b : Block}
    (sent : b ∈ (ofErrands d errands).blocks events) :
    ∃ finish, errands[b.caller]? = some (.sending b.job finish) := by
  cases named : errands[b.caller]? with
  | none =>
    exact absurd rfl ((unknown_ofErrands named events).2 b sent)
  | some r =>
    have own : b ∈ ((ofErrands d errands).blocks events).filter (·.caller == b.caller) :=
      List.mem_filter.mpr ⟨sent, by simp⟩
    rcases sent_eq (d := d) named events with unsent | ⟨only, finish, all, same⟩
    · rw [unsent] at own
      cases own
    · rw [all] at own
      rw [List.mem_singleton.mp own, same]
      exact ⟨finish, rfl⟩

theorem nodup_senders (d : Desk) (errands : List (Errand α)) (events : List Event) :
    (((ofErrands d errands).blocks events).map Block.caller).Nodup := by
  refine List.nodup_iff_count_le_one.mpr fun i => ?_
  have count : (((ofErrands d errands).blocks events).map Block.caller).count i =
      (((ofErrands d errands).blocks events).filter (·.caller == i)).length := by
    rw [List.count, List.countP_map, List.countP_eq_length_filter]
    rfl
  rw [count]
  cases named : errands[i]? with
  | none =>
    obtain ⟨_, unsent⟩ := unknown_ofErrands (d := d) named events
    have none_own : ((ofErrands d errands).blocks events).filter (·.caller == i) = [] :=
      List.filter_eq_nil_iff.mpr fun b sent => by simpa using unsent b sent
    rw [none_own]
    exact Nat.zero_le 1
  | some r =>
    rcases sent_eq (d := d) named events with unsent | ⟨b, _, all, _⟩
    · rw [unsent]
      exact Nat.zero_le 1
    · rw [all]
      exact Nat.le_refl 1

theorem outcome_of_ended (named : errands[i]? = some r) {events : List Event}
    {outcome : Except Failure α}
    (ended : ((ofErrands d errands).after events).ended? i = some outcome) :
    ((ofErrands d errands).interrupted i events = true ∧ outcome = .error .cancelled) ∨
      (ofErrands d errands).interrupted i events = false ∧
        ((∃ failure, r = .refused failure ∧ outcome = .error failure) ∨
          ∃ b ∈ (ofErrands d errands).blocks events, b.caller = i ∧
            ∃ finish, r = .sending b.job finish ∧ outcome = finish b.outcome) := by
  obtain ⟨⟨stage, worker⟩, found, place⟩ := at_after (d := d) named events
  have last : stage = .ended outcome := by
    unfold ended? at ended
    rw [found] at ended
    cases stage <;> cases ended
    rfl
  subst last
  rcases place.ended_cases with cancelled | ⟨kept, refused | ⟨b, finish, only, sends, told⟩⟩
  · exact .inl cancelled
  · exact .inr ⟨kept, .inl refused⟩
  · have own : b ∈ ((ofErrands d errands).blocks events).filter (·.caller == i) := by simp [only]
    obtain ⟨sent, caller⟩ := List.mem_filter.mp own
    exact .inr ⟨kept, .inr ⟨b, sent, by simpa using caller, finish, sends, told⟩⟩

theorem apart_of_refused {failure : Failure} (named : errands[i]? = some (.refused failure))
    (events : List Event) : ((ofErrands d errands).after events).holder ≠ some i ∧
      i ∉ ((ofErrands d errands).after events).queue := by
  obtain ⟨c, found, place⟩ := at_after (d := d) named events
  exact place.apart (((orderly_ofPlans d (errands.map Errand.plan)).after events).placed i c found)

end Errands

end Line

end QueryDesk
