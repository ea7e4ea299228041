import QueryDesk.Plan.Basic

namespace QueryDesk

namespace Plan

variable {α : Type}

inductive After : Plan α → Plan α → Prop where
  | statement (job : Job) (next : Except Failure Pull → Plan α) (outcome : Except Failure Pull) :
    After (next outcome) (.statement job next)
  | lookUp (key : Text) (next : Option Grid → Plan α) (found : Option Grid) :
    After (next found) (.lookUp key next)
  | keep (content : Snapshot.Store.Content Grid) (next : Except Failure Unit → Plan α)
    (outcome : Except Failure Unit) : After (next outcome) (.keep content next)

theorem After.acc (p : Plan α) : Acc After p := by
  induction p with
  | done outcome => exact ⟨_, fun q h => by cases h⟩
  | statement job next ih => exact ⟨_, fun q h => by cases h; exact ih _⟩
  | lookUp key next ih => exact ⟨_, fun q h => by cases h; exact ih _⟩
  | keep content next ih => exact ⟨_, fun q h => by cases h; exact ih _⟩

def Later : Plan α → Plan α → Prop := Relation.TransGen After

theorem Later.acc (p : Plan α) : Acc Later p := (After.acc p).transGen

inductive OneLater : List (Plan α) → List (Plan α) → Prop where
  | head {p q : Plan α} (rest : List (Plan α)) (later : Later p q) :
    OneLater (p :: rest) (q :: rest)
  | tail (p : Plan α) {rest other : List (Plan α)} (later : OneLater rest other) :
    OneLater (p :: rest) (p :: other)

theorem OneLater.acc_cons {p : Plan α} (hp : Acc Later p) {rest : List (Plan α)}
    (hrest : Acc OneLater rest) : Acc OneLater (p :: rest) := by
  induction hp generalizing rest with
  | intro p _ ihp =>
    induction hrest with
    | intro rest hrest ihrest =>
      refine ⟨_, fun other h => ?_⟩
      cases h with
      | head _ later => exact ihp _ later ⟨_, hrest⟩
      | tail _ later => exact ihrest _ later

theorem OneLater.wf : WellFounded (OneLater (α := α)) := by
  refine ⟨fun plans => ?_⟩
  induction plans with
  | nil => exact ⟨_, fun other h => by cases h⟩
  | cons p rest ih => exact acc_cons (Later.acc p) ih

theorem OneLater.set {plans : List (Plan α)} {i : Nat} {p q : Plan α} (at_i : plans[i]? = some q)
    (later : Later p q) : OneLater (plans.set i p) plans := by
  induction plans generalizing i with
  | nil => simp at at_i
  | cons first rest ih =>
    cases i with
    | zero =>
      simp only [List.getElem?_cons_zero, Option.some.injEq] at at_i
      subst at_i
      exact .head rest later
    | succ i => exact .tail first (ih (by simpa using at_i))

end Plan

end QueryDesk
