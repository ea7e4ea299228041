import QueryDesk.Line.Basic
import QueryDesk.Plan.Descent

namespace QueryDesk

def Stage.rest {α : Type} : Stage α → Plan α
  | .unstarted plan => plan
  | .queued job next | .holding job next => .statement job next
  | .leaving => .statement ⟨⟨.null, []⟩, .nothing, true⟩ fun _ => .done (.error .cancelled)
  | .ended outcome => .done outcome

namespace Line

variable {α : Type}

def rests (l : Line α) : List (Plan α) := l.callers.map fun c => c.stage.rest

theorem getElem?_rests {l : Line α} {i : Nat} {c : Caller α} (h : l.callers[i]? = some c) :
    l.rests[i]? = some c.stage.rest := by
  simp [rests, h]

@[simp]
theorem rests_put (l : Line α) (i : Nat) (stage : Stage α) (worker : Option Worker) :
    (l.put i stage worker).rests = l.rests.set i stage.rest := by
  simp [rests, put, List.map_set]

theorem set_rests {l : Line α} {i : Nat} {c : Caller α} (h : l.callers[i]? = some c) :
    l.rests.set i c.stage.rest = l.rests := by
  have found := getElem?_rests h
  obtain ⟨bound, same⟩ := List.getElem?_eq_some_iff.mp found
  rw [← same, List.set_getElem_self]

@[simp]
theorem rests_release (l : Line α) (i : Nat) : (l.release i).rests = l.rests := by
  unfold release; split <;> rfl

theorem rests_ask (l : Line α) (i : Nat) (job : Job) (next : Except Failure Pull → Plan α) :
    (l.ask i job next).rests = l.rests.set i (.statement job next) := by
  unfold ask
  split
  · exact rests_put l i (.holding job next) _
  · exact rests_put l i (.queued job next) _

theorem rests_proceed (l : Line α) (i : Nat) (p : Plan α) :
    ∃ q, (q = p ∨ Plan.Later q p) ∧ (l.proceed i p).rests = l.rests.set i q := by
  induction p generalizing l with
  | done outcome => exact ⟨_, .inl rfl, rests_put l i (.ended outcome) none⟩
  | statement job next _ => exact ⟨_, .inl rfl, rests_ask l i job next⟩
  | lookUp key next ih =>
    obtain ⟨q, later, same⟩ := ih (l.desk.lookUp key).1 { l with desk := (l.desk.lookUp key).2 }
    refine ⟨q, .inr ?_, same⟩
    rcases later with rfl | later
    · exact .single (.lookUp ..)
    · exact later.tail (.lookUp ..)
  | keep content next ih =>
    obtain ⟨q, later, same⟩ := ih (l.desk.keep content).1 { l with desk := (l.desk.keep content).2 }
    refine ⟨q, .inr ?_, same⟩
    rcases later with rfl | later
    · exact .single (.keep ..)
    · exact later.tail (.keep ..)

theorem rests_grant (l : Line α) : l.grant.rests = l.rests := by
  unfold grant
  split
  · split
    · rename_i found
      exact (rests_put l _ (.holding _ _) _).trans (set_rests found)
    · rfl
  · rfl

theorem rests_send (l : Line α) (i : Nat) : (l.send i).rests = l.rests := by
  unfold send
  split
  · rename_i found
    exact (rests_put { l with desk := _ } i _ _).trans (set_rests found)
  · rfl

theorem rests_respond (l : Line α) (i : Nat) : (l.respond i).rests = l.rests := by
  unfold respond
  split
  · rename_i found
    exact (rests_put l i _ _).trans (set_rests found)
  · rfl

/-- The number of calls of a caller's worker that have not returned. -/
def callsLeft (l : Line α) (i : Nat) : Nat :=
  match l.callers[i]? with
  | some ⟨_, some (.sent left _)⟩ => left
  | _ => 0

def respondMany (l : Line α) (i : Nat) : Nat → Line α
  | 0 => l
  | n + 1 => (l.respond i).respondMany i n

theorem rests_respondMany (l : Line α) (i n : Nat) : (l.respondMany i n).rests = l.rests := by
  induction n generalizing l with
  | zero => rfl
  | succ n ih => exact (ih (l.respond i)).trans (rests_respond l i)

def complete (l : Line α) (i : Nat) : Line α :=
  let sent := l.send i
  sent.respondMany i (sent.callsLeft i)

theorem rests_complete (l : Line α) (i : Nat) : (l.complete i).rests = l.rests :=
  (rests_respondMany _ _ _).trans (rests_send l i)

def resume? (l : Line α) (i : Nat) : Option (Line α) :=
  match l.callers[i]? with
  | some ⟨.holding .., some (.sent 0 _)⟩ | some ⟨.leaving, some (.sent 0 _)⟩ => some (l.resume i)
  | _ => none

theorem resume?_later {l next : Line α} {i : Nat} (h : l.resume? i = some next) :
    Plan.OneLater next.rests l.rests := by
  unfold resume? at h
  split at h
  · rename_i job rest outcome found
    have resumed : l.resume i = (l.release i).proceed i (rest outcome) := by simp [resume, found]
    obtain ⟨q, later, same⟩ := rests_proceed (l.release i) i (rest outcome)
    rw [← Option.some.inj h, resumed, same, rests_release]
    refine .set (getElem?_rests found) ?_
    rcases later with rfl | later
    · exact .single (.statement ..)
    · exact later.tail (.statement ..)
  · rename_i outcome found
    have resumed : l.resume i = (l.release i).put i (.ended (.error .cancelled)) none := by
      simp [resume, found]
    rw [← Option.some.inj h, resumed, rests_put, rests_release]
    exact .set (getElem?_rests found) (.single (.statement _ (fun _ => .done _) (.error .cancelled)))
  · cases h

/-- The line after the caller that holds the connection, or else the next one to get it, has had its
    statement completed and has gone on. -/
def serve? (l : Line α) : Option (Line α) :=
  let granted := l.grant
  match granted.holder with
  | some i => (granted.complete i).resume? i
  | none => none

theorem serve?_later {l next : Line α} (h : l.serve? = some next) :
    Plan.OneLater next.rests l.rests := by
  unfold serve? at h
  simp only at h
  split at h
  · rename_i i _
    have later := resume?_later h
    rwa [rests_complete, rests_grant] at later
  · cases h

def settle (l : Line α) : Line α :=
  match _h : l.serve? with
  | some next => settle next
  | none => l
termination_by Plan.OneLater.wf.wrap l.rests
decreasing_by exact serve?_later ‹_›

def startAll (l : Line α) : Line α := (List.range l.callers.length).foldl start l

def outcomes (l : Line α) : List (Except Failure α) :=
  l.callers.map fun c =>
    match c.stage with
    | .ended outcome => outcome
    | _ => .error .cancelled

end Line

end QueryDesk
