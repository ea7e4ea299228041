import Mathlib.Data.List.Forall2

namespace QueryDesk

section Outcome

variable {ε α β : Type} {x : Except ε α}

theorem bind_eq_ok {f : α → Except ε β} {b : β} :
    (x >>= f) = .ok b ↔ ∃ a, x = .ok a ∧ f a = .ok b := by
  cases x <;> simp [Bind.bind, Except.bind]

theorem bind_eq_error {f : α → Except ε β} {e : ε} :
    (x >>= f) = .error e ↔ x = .error e ∨ ∃ a, x = .ok a ∧ f a = .error e := by
  cases x <;> simp [Bind.bind, Except.bind]

theorem map_eq_error {f : α → β} {e : ε} : (f <$> x) = .error e ↔ x = .error e := by
  cases x <;> simp [Functor.map, Except.map]

theorem map_eq_ok {f : α → β} {b : β} : (f <$> x) = .ok b ↔ ∃ a, x = .ok a ∧ f a = b := by
  cases x <;> simp [Functor.map, Except.map]

theorem exists_of_isOk (succeeds : x.isOk = true) : ∃ a, x = .ok a := by
  cases x with
  | ok a => exact ⟨a, rfl⟩
  | error fault => cases succeeds

theorem eq_ok_of_toOption {a : α} (found : x.toOption = some a) : x = .ok a := by
  cases x with
  | ok b => exact congrArg _ (Option.some.inj found)
  | error fault => cases found

theorem mapM_eq_ok {f : α → Except ε β} {as : List α} {bs : List β} :
    as.mapM f = .ok bs ↔ List.Forall₂ (fun a b => f a = .ok b) as bs := by
  induction as generalizing bs with
  | nil =>
    rw [List.mapM_nil, List.forall₂_nil_left_iff]
    exact ⟨fun same => (Except.ok.inj same).symm, fun empty => congrArg _ empty.symm⟩
  | cons a rest ih =>
    simp only [List.mapM_cons, bind_eq_ok, ih, List.forall₂_cons_left_iff]
    constructor
    · rintro ⟨b, first, bs, others, same⟩
      exact ⟨b, bs, first, others, (Except.ok.inj same).symm⟩
    · rintro ⟨b, bs, first, others, rfl⟩
      exact ⟨b, first, bs, others, rfl⟩

theorem mapM_eq_error {f : α → Except ε β} {as : List α} {e : ε} : as.mapM f = .error e ↔
    ∃ before a later, as = before ++ a :: later ∧ (∀ b ∈ before, ∃ x, f b = .ok x) ∧ f a = .error e := by
  induction as with
  | nil => simp [Pure.pure, Except.pure]
  | cons a rest ih =>
    rw [List.mapM_cons]
    constructor
    · intro failed
      cases first : f a with
      | error e' =>
        rw [first] at failed
        cases failed
        exact ⟨[], a, rest, rfl, nofun, first⟩
      | ok x =>
        cases others : rest.mapM f with
        | ok xs =>
          rw [first, others] at failed
          cases failed
        | error e' =>
          rw [first, others] at failed
          cases failed
          obtain ⟨before, b, later, rfl, sound, fails⟩ := ih.mp others
          exact ⟨a :: before, b, later, rfl, List.forall_mem_cons.mpr ⟨⟨x, first⟩, sound⟩, fails⟩
    · rintro ⟨before, b, later, split, sound, fails⟩
      cases before with
      | nil =>
        cases split
        rw [fails]
        rfl
      | cons c before =>
        cases split
        obtain ⟨⟨x, first⟩, others⟩ := List.forall_mem_cons.mp sound
        rw [first, ih.mpr ⟨before, b, later, rfl, others, fails⟩]
        rfl

theorem exists_mapM_iff {f : α → Except ε β} {as : List α} :
    (∃ bs, as.mapM f = .ok bs) ↔ ∀ a ∈ as, ∃ b, f a = .ok b := by
  simp only [mapM_eq_ok]
  induction as with
  | nil => simp
  | cons a rest ih =>
    rw [List.forall_mem_cons, ← ih]
    constructor
    · rintro ⟨bs, related⟩
      obtain ⟨b, others, first, later, -⟩ := List.forall₂_cons_left_iff.mp related
      exact ⟨⟨b, first⟩, others, later⟩
    · rintro ⟨⟨b, first⟩, others, later⟩
      exact ⟨b :: others, .cons first later⟩

theorem exists_of_forall₂ {R : α → β → Prop} {as : List α} {bs : List β}
    (related : List.Forall₂ R as bs) {b : β} (member : b ∈ bs) : ∃ a ∈ as, R a b := by
  induction related with
  | nil => cases member
  | cons first _ ih =>
    rcases List.mem_cons.mp member with rfl | later
    · exact ⟨_, List.mem_cons_self, first⟩
    · obtain ⟨a, there, holds⟩ := ih later
      exact ⟨a, List.mem_cons_of_mem _ there, holds⟩

theorem forall₂_trans {γ : Type} {R : α → β → Prop} {S : β → γ → Prop} {T : α → γ → Prop}
    (link : ∀ a b c, R a b → S b c → T a c) {as : List α} {bs : List β} {cs : List γ}
    (first : List.Forall₂ R as bs) (second : List.Forall₂ S bs cs) : List.Forall₂ T as cs := by
  induction first generalizing cs with
  | nil =>
    cases second
    exact .nil
  | cons one _ ih =>
    obtain ⟨c, rest, other, others, rfl⟩ := List.forall₂_cons_left_iff.mp second
    exact .cons (link _ _ _ one other) (ih others)

end Outcome

def Ends {ε α : Type} (fails : ε → Prop) (holds : α → Prop) : Except ε α → Prop
  | .ok a => holds a
  | .error e => fails e

section Ends

variable {ε α β : Type} {fails : ε → Prop} {holds mid : α → Prop} {good : β → Prop}

theorem Ends.imp {others : ε → Prop} {e : Except ε α} (ends : Ends fails mid e)
    (failures : ∀ f, fails f → others f) (values : ∀ a, mid a → holds a) : Ends others holds e := by
  cases e with
  | ok a => exact values a ends
  | error f => exact failures f ends

theorem Ends.mono {e : Except ε α} (ends : Ends fails mid e) (weaker : ∀ a, mid a → holds a) :
    Ends fails holds e :=
  ends.imp (fun _ expected => expected) weaker

theorem Ends.ne_error {f : ε} {e : Except ε α} (ends : Ends (· ≠ f) holds e) : e ≠ .error f := by
  rintro rfl
  exact ends rfl

theorem Ends.bind {e : Except ε α} {next : α → Except ε β} (ends : Ends fails mid e)
    (then_ends : ∀ a, mid a → Ends fails good (next a)) : Ends fails good (e >>= next) := by
  cases e with
  | ok a => exact then_ends a ends
  | error f => exact ends

theorem ends_mapM {f : α → Except ε β} {xs : List α} (all : ∀ a ∈ xs, Ends fails good (f a)) :
    Ends fails (fun bs => ∀ b ∈ bs, good b) (xs.mapM f) := by
  induction xs with
  | nil => exact fun b member => absurd member List.not_mem_nil
  | cons a rest ih =>
    obtain ⟨first, others⟩ := List.forall_mem_cons.mp all
    rw [List.mapM_cons]
    apply first.bind
    intro b one
    apply (ih others).bind
    intro bs more
    exact List.forall_mem_cons.mpr ⟨one, more⟩

theorem ends_foldlM {f : α → β → Except ε α} {xs : List β} {start : α} (begins : holds start)
    (step : ∀ a, holds a → ∀ b ∈ xs, Ends fails holds (f a b)) :
    Ends fails holds (xs.foldlM f start) := by
  induction xs generalizing start with
  | nil => exact begins
  | cons b rest ih =>
    rw [List.foldlM_cons]
    apply (step start begins b List.mem_cons_self).bind
    intro a next
    exact ih next fun a good c later => step a good c (List.mem_cons_of_mem b later)

end Ends

end QueryDesk
