import QueryDesk.Proofs.OrderedMap
import QueryDesk.Proofs.Plan.Ordered

namespace QueryDesk

inductive Job.Gives (replies : Reply → Prop) (job : Job) : Except Failure Pull → Prop
  | closed : Gives replies job (.error .closed)
  | answer {reply} (given : replies reply) : Gives replies job (job.reading.answer reply).2

def Engine.Offers (replies : Nat → Reply → Prop) (k : Nat) (e : Engine) : Prop :=
  e.closed = true ∨ ∀ j, replies (k + j) (e.script.getD j (.rows .none))

theorem Engine.getD_script_zero (e : Engine) : e.script.getD 0 (.rows .none) = e.nextReply := by
  unfold nextReply
  cases e.script <;> rfl

theorem Engine.gives_exchange {replies : Nat → Reply → Prop} {k : Nat} {e : Engine}
    (offers : e.Offers replies k) (job : Job) : job.Gives (replies k) (e.exchange job).2 := by
  unfold exchange
  split
  · exact .closed
  · rename_i opened
    rcases offers with closed | script
    · exact absurd closed opened
    · refine .answer ?_
      have first := script 0
      rwa [Nat.add_zero, getD_script_zero] at first

theorem Engine.offers_perform {replies : Nat → Reply → Prop} {k : Nat} {e : Engine}
    (offers : e.Offers replies k) (job : Job) : (e.perform job).2.Offers replies (k + 1) := by
  unfold perform
  cases closed : e.closed with
  | true => exact .inl closed
  | false =>
    rcases offers with closed' | script
    · exact Bool.noConfusion (closed.symm.trans closed')
    · refine .inr fun j => ?_
      have next := script (j + 1)
      rw [← Nat.add_assoc, Nat.add_right_comm] at next
      simpa using next

namespace Snapshot.Store

/-- All results kept, those included that have expired, have a property. -/
def Holds (grids : Grid → Prop) (s : Store Grid) : Prop := ∀ e ∈ s.entries, grids e.2.result

variable {grids : Grid → Prop} {s : Store Grid}

theorem Holds.lookup (holds : s.Holds grids) (now : Instant) (key : Text) :
    (s.lookup now key).2.Holds grids ∧
      ∀ e, (s.lookup now key).1 = some e → grids e.result := by
  unfold Store.lookup
  cases found : s.entries.find? key with
  | none => exact ⟨holds, nofun⟩
  | some e =>
    obtain ⟨entry, member, rfl⟩ := OrderedMap.exists_of_find? found
    simp only
    split
    · exact ⟨fun other kept => holds other (List.mem_of_mem_filter kept), nofun⟩
    · refine ⟨holds, fun e same => ?_⟩
      rw [← Option.some.inj same]
      exact holds entry member

theorem Holds.keep (holds : s.Holds grids) {now : Instant} {c : Content Grid} {lifetime : Option Seconds}
    {e : Entry Grid} {after : Store Grid} (own : grids c.result) (kept : s.keep now c lifetime = .ok (e, after)) :
    after.Holds grids := by
  obtain ⟨expires, _, same⟩ := bind_eq_ok.mp kept
  cases same
  exact OrderedMap.forall_insert (P := fun e : Entry Grid => grids e.result) c.key holds own

end Snapshot.Store

namespace Plan

/-- What a plan may rely on: the replies to its statements by their number, and the results that it
    may find; and the failures that it may end with. -/
structure Terms where
  replies : Nat → Reply → Prop
  grids : Grid → Prop
  fails : Failure → Prop

variable {α β : Type} {terms : Terms} {k : Nat}

/-- A plan that is about to send statement number `k` keeps only what may be kept, and ends with a
    failure that may be or with an answer as it should be after so many statements. -/
def Meets (terms : Terms) (holds : Nat → α → Prop) : Nat → Plan α → Prop
  | k, done outcome => Ends terms.fails (holds k) outcome
  | k, statement job next =>
    ∀ outcome, job.Gives (terms.replies k) outcome → (next outcome).Meets terms holds (k + 1)
  | k, lookUp _ next => ∀ found, (∀ g, found = some g → terms.grids g) → (next found).Meets terms holds k
  | k, keep content next => terms.grids content.result ∧ (next (.ok ())).Meets terms holds k ∧
    ∀ fault, (next (.error (.time fault))).Meets terms holds k

variable {holds mid : Nat → α → Prop} {good : Nat → β → Prop}

theorem Meets.mono {p : Plan α} (meets : p.Meets terms mid k) (weaker : ∀ j a, mid j a → holds j a) :
    p.Meets terms holds k := by
  induction p generalizing k with
  | done outcome => exact Ends.mono meets (weaker k)
  | statement job next ih => exact fun outcome given => ih outcome (meets outcome given)
  | lookUp key next ih => exact fun found stored => ih found (meets found stored)
  | keep content next ih => exact ⟨meets.1, ih _ meets.2.1, fun fault => ih _ (meets.2.2 fault)⟩

theorem Meets.andThen {fails : Failure → Prop} {p : Plan α} {next : Except Failure α → Plan β}
    (meets : p.Meets terms mid k)
    (goes_on : ∀ j a, mid j a → (next (.ok a)).Meets { terms with fails } good j)
    (recovers : ∀ j f, terms.fails f → (next (.error f)).Meets { terms with fails } good j) :
    (p.andThen next).Meets { terms with fails } good k := by
  induction p generalizing k with
  | done outcome =>
    cases outcome with
    | ok a => exact goes_on k a meets
    | error f => exact recovers k f meets
  | statement job rest ih => exact fun outcome given => ih outcome (meets outcome given)
  | lookUp key rest ih => exact fun found stored => ih found (meets found stored)
  | keep content rest ih => exact ⟨meets.1, ih _ meets.2.1, fun fault => ih _ (meets.2.2 fault)⟩

theorem Meets.bind {p : Plan α} {next : α → Plan β} (meets : p.Meets terms mid k)
    (goes_on : ∀ j a, mid j a → (next a).Meets terms good j) :
    (p >>= next).Meets terms good k :=
  show (p.andThen _).Meets { terms with fails := terms.fails } good k from
    meets.andThen goes_on fun _ _ expected => expected

theorem Meets.map {p : Plan α} {f : α → β} (meets : p.Meets terms (fun j a => good j (f a)) k) :
    (f <$> p).Meets terms good k := by
  rw [map_eq_pure_bind]
  exact meets.bind fun _ _ holds => holds

theorem meets_lift_bind {e : Except Failure α} {next : α → Plan β}
    (fails : ∀ f, e = .error f → terms.fails f)
    (goes_on : ∀ a, e = .ok a → (next a).Meets terms good k) :
    ((liftM e : Plan α) >>= next).Meets terms good k := by
  cases e with
  | ok a => exact goes_on a rfl
  | error f => exact fails f rfl

theorem meets_find {key : Text} :
    (find key).Meets terms (fun j found => j = k ∧ ∀ g, found = some g → terms.grids g) k :=
  fun _ stored => ⟨rfl, stored⟩

theorem Meets.run {p : Plan α} (meets : p.Meets terms holds k) {d : Desk}
    (offers : d.engine.Offers terms.replies k) (stored : d.store.Holds terms.grids) :
    (∃ j, Ends terms.fails (holds j) (p.run d).1) ∧ (p.run d).2.store.Holds terms.grids := by
  induction p generalizing k d with
  | done outcome => exact ⟨⟨k, meets⟩, stored⟩
  | statement job next ih =>
    have given : job.Gives (terms.replies k) (d.perform job).1 := by
      rw [Desk.perform_fst]
      exact Engine.gives_exchange offers job
    exact ih _ (meets _ given) (Engine.offers_perform offers job) stored
  | lookUp key next ih =>
    obtain ⟨kept, found⟩ := stored.lookup d.now key
    refine ih _ (meets _ fun g there => ?_) offers kept
    obtain ⟨e, first, rfl⟩ := Option.map_eq_some_iff.mp there
    exact found e first
  | keep content next ih =>
    obtain ⟨own, saved, unsaved⟩ := meets
    simp only [Plan.run, Desk.keep]
    cases kept : d.store.keep d.now content none with
    | ok entry => exact ih _ saved offers (stored.keep own kept)
    | error fault => exact ih _ (unsaved fault) offers stored

end Plan

end QueryDesk
