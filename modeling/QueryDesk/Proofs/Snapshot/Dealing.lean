import QueryDesk.Proofs.Snapshot.Ledger

namespace QueryDesk

namespace Snapshot

/-- A visit to what callers hold: it stores nothing, looks nothing up and lets no time pass. -/
def Visit.OnHeld : Visit → Prop
  | .make _ | .change _ _ | .snapshot _ => True
  | _ => False

namespace Session

variable {s : Session} {v : Visit}

theorem store_visit (own : v.OnHeld) : (s.visit v).2.store = s.store := by
  cases v with
  | make _ | change _ _ | snapshot _ => simp only [visit]; split <;> rfl
  | _ => exact absurd own id

theorem now_visit (own : v.OnHeld) : (s.visit v).2.now = s.now := by
  cases v with
  | make _ | change _ _ | snapshot _ => simp only [visit]; split <;> rfl
  | _ => exact absurd own id

theorem after_append (s : Session) (visits others : List Visit) :
    s.after (visits ++ others) = (s.after visits).after others :=
  List.foldl_append

theorem now_after {visits : List Visit} (own : ∀ v ∈ visits, v.OnHeld) :
    (s.after visits).now = s.now := by
  induction visits generalizing s with
  | nil => rfl
  | cons v rest ih =>
    obtain ⟨first, others⟩ := List.forall_mem_cons.mp own
    exact (ih others).trans (now_visit first)

theorem Separate.after (separate : s.Separate) {visits : List Visit}
    (own : ∀ v ∈ visits, v.OnHeld) :
    (s.after visits).Separate ∧ (s.after visits).contents = s.contents := by
  induction visits generalizing s with
  | nil => exact ⟨separate, rfl⟩
  | cons v rest ih =>
    obtain ⟨first, others⟩ := List.forall_mem_cons.mp own
    obtain ⟨parts, spares⟩ := separate.visit v
    obtain ⟨later, same⟩ := ih parts others
    exact ⟨later, same.trans (separate.contents_eq (store_visit first) spares)⟩

/-- Whether a session comes to another, whose callers hold what they held before, as it was. -/
structure Grows (s later : Session) : Prop where
  separate : later.Separate
  held : ∀ a ∈ s.held, a ∈ later.held ∧ later.memory.get a = s.memory.get a

theorem Grows.trans {mid later : Session} (first : s.Grows mid) (second : mid.Grows later) :
    s.Grows later := by
  refine ⟨second.separate, fun a there => ?_⟩
  obtain ⟨held, same⟩ := first.held a there
  exact ⟨(second.held a held).1, (second.held a held).2.trans same⟩

theorem Grows.read_eq {later : Session} {a : Nat} (grows : s.Grows later) (separate : s.Separate)
    (there : a ∈ s.held) (depth : Nat) : later.memory.read depth a = s.memory.read depth a :=
  Memory.read_eq_of_closed separate.parted.held_closed (fun b mine => (grows.held b mine).2) depth
    there

/-- Whether callers hold an address at which a value is seen, from a depth on. -/
def Sees (s : Session) (depth a : Nat) (d : Datum) : Prop :=
  a ∈ s.held ∧ ∀ more, s.memory.read (depth + more) a = d

section Sees

variable {depth a : Nat} {d : Datum}

theorem Sees.later {later : Session} (sees : s.Sees depth a d) (separate : s.Separate)
    (grows : s.Grows later) : later.Sees depth a d :=
  ⟨(grows.held a sees.1).1, fun more => (grows.read_eq separate sees.1 _).trans (sees.2 more)⟩

theorem Sees.deeper (sees : s.Sees depth a d) (extra : Nat) : s.Sees (depth + extra) a d :=
  ⟨sees.1, fun more => by rw [Nat.add_assoc]; exact sees.2 _⟩

end Sees

end Session

namespace Dealing

variable {α β : Type} {act : Dealing α} {next : α → Dealing β} {s : Session} {v : Visit}

def outcome (act : Dealing α) (s : Session) : Except Failure α × Session := act.run s

theorem outcome_bind : (act >>= next).outcome s =
    match act.outcome s with
    | (.ok a, later) => (next a).outcome later
    | (.error failure, later) => (.error failure, later) := by
  have runs : (act >>= next).outcome s =
      (ExceptT.bindCont next (act.outcome s).1).run (act.outcome s).2 := rfl
  rw [runs]
  obtain ⟨outcome, later⟩ := act.outcome s
  cases outcome <;> rfl

/-- Whether what callers do comes to visits to what they hold. -/
def OnHeld (act : Dealing α) : Prop :=
  ∀ s, ∃ visits, (∀ v ∈ visits, v.OnHeld) ∧ (act.outcome s).2 = s.after visits

theorem onHeld_of_still (still : ∀ s, (act.outcome s).2 = s) : act.OnHeld :=
  fun s => ⟨[], nofun, still s⟩

theorem onHeld_pure (a : α) : (pure a : Dealing α).OnHeld := onHeld_of_still fun _ => rfl

theorem onHeld_throw (failure : Failure) : (throw failure : Dealing α).OnHeld :=
  onHeld_of_still fun _ => rfl

theorem onHeld_get : (get : Dealing Session).OnHeld := onHeld_of_still fun _ => rfl

theorem onHeld_visit (own : v.OnHeld) : (visit v).OnHeld :=
  fun _ => ⟨[v], List.forall_mem_singleton.mpr own, rfl⟩

theorem OnHeld.bind (first : act.OnHeld) (rest : ∀ a, (next a).OnHeld) :
    (act >>= next).OnHeld := by
  intro s
  obtain ⟨visits, own, come⟩ := first s
  rw [outcome_bind]
  cases done : act.outcome s with
  | mk outcome later =>
    rw [done] at come
    cases outcome with
    | error failure => exact ⟨visits, own, come⟩
    | ok a =>
      obtain ⟨others, mine, end_⟩ := rest a later
      refine ⟨visits ++ others, List.forall_mem_append.mpr ⟨own, mine⟩, ?_⟩
      rw [Session.after_append, ← come]
      exact end_

theorem onHeld_mapM {f : β → Dealing α} (items : List β) (all : ∀ b, (f b).OnHeld) :
    (items.mapM f).OnHeld := by
  induction items with
  | nil => exact onHeld_pure []
  | cons b rest ih =>
    rw [List.mapM_cons]
    exact (all b).bind fun _ => ih.bind fun _ => onHeld_pure _

theorem onHeld_addressed (own : v.OnHeld) : (addressed v).OnHeld := by
  refine (onHeld_visit own).bind fun answer => ?_
  cases answer with
  | address a => exact onHeld_pure a
  | _ => exact onHeld_throw _

theorem onHeld_make (o : Object) : (make o).OnHeld := onHeld_addressed trivial

theorem onHeld_snapshot (entry : Nat) : (snapshot entry).OnHeld := onHeld_addressed trivial

theorem onHeld_makeList {item : β → Dealing Nat} (items : List β) (all : ∀ b, (item b).OnHeld) :
    (makeList item items).OnHeld :=
  (onHeld_mapM items all).bind fun _ => onHeld_make _

theorem onHeld_makeGrid (g : Grid) : (makeGrid g).OnHeld := by
  have columns := onHeld_makeList g.columns fun t => onHeld_make (.value (.text t))
  have rows := onHeld_makeList g.rows fun row =>
    onHeld_makeList row fun v => onHeld_make (.value v.toDatum)
  exact columns.bind fun _ => rows.bind fun _ => (onHeld_make _).bind fun _ =>
    (onHeld_make _).bind fun _ => onHeld_make _

theorem onHeld_itemAt (a : Nat) (index : Int) (absent : Failure) :
    (itemAt a index absent).OnHeld := by
  refine onHeld_get.bind fun s => ?_
  split
  · split
    · exact onHeld_pure _
    · exact onHeld_throw _
  · exact onHeld_throw _

theorem onHeld_overwrite (a : Nat) (row column : Int) (d : Datum) :
    (overwrite a row column d).OnHeld := by
  refine onHeld_get.bind fun s => ?_
  split
  · refine (onHeld_itemAt _ _ _).bind fun (rows, i) => (onHeld_itemAt _ _ _).bind fun (cells, k) =>
      (onHeld_make _).bind fun cell => ?_
    have changes : (visit (.change (rows.getD i 0) (.list (cells.set k cell)))).OnHeld :=
      onHeld_visit trivial
    exact changes.bind fun _ => onHeld_pure ()
  · exact onHeld_throw _

/-- Whether an object is always made that is seen as a value, from a depth on. -/
def Makes (act : Dealing Nat) (depth : Nat) (d : Datum) : Prop :=
  ∀ s : Session, s.Separate → ∃ a later, act.outcome s = (.ok a, later) ∧ s.Grows later ∧
    later.Sees depth a d

theorem outcome_make {o : Object} (separate : s.Separate) (given : ∀ b ∈ o.refs, b ∈ s.held) :
    ∃ a later, (make o).outcome s = (.ok a, later) ∧ s.Grows later ∧ a ∈ later.held ∧
      ∀ depth, later.memory.read (depth + 1) a = o.shown (s.memory.read depth) := by
  let later : Session :=
    { s with memory := s.memory.add o, held := s.memory.size :: s.held }
  have visited : (visit (.make o)).outcome s = (.ok (.address s.memory.size), later) := by
    show s.visit (.make o) = _
    simp only [Session.visit, Session.holds_iff.mpr given, if_true, later]
  have runs : (make o).outcome s = (.ok s.memory.size, later) := by
    rw [make, addressed, outcome_bind, visited]
    rfl
  have grows : s.Grows later :=
    ⟨separate.spared (separate.parted.add given) Memory.spares_add, fun a there =>
      ⟨List.mem_cons_of_mem _ there,
        Memory.get_add_of_ne (Nat.ne_of_lt (separate.parted.held_lt a there))⟩⟩
  refine ⟨_, later, runs, grows, List.mem_cons_self, fun depth => ?_⟩
  rw [Memory.read, Memory.get_add_self]
  exact Object.shown_congr fun b refers => grows.read_eq separate (given b refers) depth

theorem makes_value (d : Datum) : (make (.value d)).Makes 1 d := by
  intro s separate
  obtain ⟨a, later, runs, grows, there, seen⟩ :=
    outcome_make (o := .value d) separate (by simp [Object.refs])
  exact ⟨a, later, runs, grows, there, fun more => by rw [Nat.add_comm]; exact seen more⟩

section Items

variable {item : β → Dealing Nat} {depth : Nat} {shown : β → Datum}

theorem outcome_mapM (each : ∀ b, (item b).Makes depth (shown b)) (items : List β)
    (separate : s.Separate) : ∃ as later, (items.mapM item).outcome s = (.ok as, later) ∧
      s.Grows later ∧ List.Forall₂ (fun b a => later.Sees depth a (shown b)) items as := by
  induction items generalizing s with
  | nil => exact ⟨[], s, rfl, ⟨separate, fun _ there => ⟨there, rfl⟩⟩, .nil⟩
  | cons b rest ih =>
    obtain ⟨a, mid, runs, first, sees⟩ := each b s separate
    obtain ⟨as, later, others, second, see⟩ := ih first.separate
    refine ⟨a :: as, later, ?_, first.trans second, .cons (sees.later first.separate second) see⟩
    rw [List.mapM_cons, outcome_bind, runs]
    dsimp only
    rw [outcome_bind, others]
    rfl

theorem makes_list (each : ∀ b, (item b).Makes depth (shown b)) (items : List β) :
    (makeList item items).Makes (depth + 1) (.list (items.map shown)) := by
  intro s separate
  obtain ⟨as, mid, runs, first, see⟩ := outcome_mapM each items separate
  have held : ∀ a ∈ as, a ∈ mid.held := fun a there => by
    obtain ⟨b, _, sees⟩ := exists_of_forall₂ see there
    exact sees.1
  have alike (more : Nat) : as.map (mid.memory.read (depth + more)) = items.map shown := by
    rw [eq_comm, ← List.forall₂_eq_eq_eq, List.forall₂_map_left_iff, List.forall₂_map_right_iff]
    exact see.imp fun b a sees => (sees.2 more).symm
  obtain ⟨a, later, made, second, there, seen⟩ :=
    outcome_make (o := .list as) first.separate held
  refine ⟨a, later, ?_, first.trans second, there, fun more => ?_⟩
  · rw [makeList, outcome_bind, runs]
    exact made
  · rw [Nat.add_right_comm, seen, Object.shown, alike]

end Items

theorem makes_row (row : List Value) :
    (makeList (fun v => make (.value v.toDatum)) row).Makes 2 (.list (row.map (·.toDatum))) :=
  makes_list (fun v : Value => makes_value v.toDatum) row

/-- What is seen of a grid, at the depth of its cells and below. -/
def seenOf (g : Grid) : Datum :=
  .tuple [.list (g.columns.map .text), .list (g.rows.map fun row => .list (row.map (·.toDatum))),
    .int g.rowCount, .bool g.truncated]

theorem makes_grid (g : Grid) : (makeGrid g).Makes 4 (seenOf g) := by
  intro s separate
  obtain ⟨a, s₁, run₁, first, sees_a⟩ :=
    makes_list (fun t : Text => makes_value (.text t)) g.columns s separate
  obtain ⟨b, s₂, run₂, second, sees_b⟩ := makes_list makes_row g.rows s₁ first.separate
  obtain ⟨c, s₃, run₃, third, sees_c⟩ := makes_value (.int g.rowCount) s₂ second.separate
  obtain ⟨d, s₄, run₄, fourth, sees_d⟩ := makes_value (.bool g.truncated) s₃ third.separate
  have rest := second.trans (third.trans fourth)
  have sees_a := (sees_a.later first.separate rest).deeper 1
  have sees_b := sees_b.later second.separate (third.trans fourth)
  have sees_c := (sees_c.later third.separate fourth).deeper 2
  have sees_d := sees_d.deeper 2
  obtain ⟨e, s₅, run₅, fifth, there, seen⟩ := outcome_make (o := .result a b c d) fourth.separate
    (by simp [Object.refs, sees_a.1, sees_b.1, sees_c.1, sees_d.1])
  refine ⟨e, s₅, ?_, (first.trans rest).trans fifth, there, fun more => ?_⟩
  · rw [makeGrid, outcome_bind, run₁]
    dsimp only
    rw [outcome_bind, run₂]
    dsimp only
    rw [outcome_bind, run₃]
    dsimp only
    rw [outcome_bind, run₄]
    exact run₅
  · have shown := seen (3 + more)
    rw [Nat.add_right_comm] at shown
    rw [shown, Object.shown, sees_a.2, sees_b.2, sees_c.2, sees_d.2, seenOf]

end Dealing

namespace Session

variable {α : Type} {act : Dealing α} {s : Session} {l : Ledger}

/-- What callers do to what they hold leaves all that is kept as it is recorded. -/
theorem Follows.dealing (follows : s.Follows l) (own : act.OnHeld) :
    (act.outcome s).2.Follows l := by
  obtain ⟨visits, mine, come⟩ := own s
  obtain ⟨separate, same⟩ := follows.separate.after mine
  rw [come]
  exact ⟨(now_after mine).trans follows.now, separate, by rw [same]; exact follows.contents⟩

theorem Follows.overwrite_snapshot (follows : s.Follows l) (entry : Nat) (row column : Int)
    (d : Datum) : ((do
      let a ← Dealing.snapshot entry
      Dealing.overwrite a row column d).outcome s).2.Follows l :=
  follows.dealing <| (Dealing.onHeld_snapshot entry).bind fun a =>
    Dealing.onHeld_overwrite a row column d

/-- A grid can always be made, and what is kept of it looks like it whatever callers do afterwards to
    what they hold. -/
theorem Follows.kept_as_made (follows : s.Follows l) (g : Grid) (d : Deposit) (own : act.OnHeld) :
    ∃ a made, (Dealing.makeGrid g).outcome s = (.ok a, made) ∧
      ∀ e, l.entry? made { d with result := a } = .ok e →
        let later := (act.outcome (made.visit (.keep { d with result := a })).2).2
        later.contents.entries.find? d.key = some e ∧
          ∀ more, e.result (4 + more) = Dealing.seenOf g := by
  obtain ⟨a, made, runs, _, sees⟩ := Dealing.makes_grid g s follows.separate
  refine ⟨a, made, runs, fun e entered => ?_⟩
  have follows : made.Follows l := by
    have dealt := follows.dealing (Dealing.onHeld_makeGrid g)
    rwa [runs] at dealt
  have kept := follows.keep { d with result := a }
  rw [entered] at kept
  obtain ⟨_, _, _, own_key, contents⟩ := kept
  obtain ⟨visits, mine, come⟩ := own (made.visit (.keep { d with result := a })).2
  obtain ⟨separate, _⟩ := follows.separate.visit (.keep { d with result := a })
  refine ⟨?_, fun more => ?_⟩
  · rw [come, (separate.after mine).2, contents]
    exact OrderedMap.find?_insert_self _ _ _
  · obtain ⟨copied, _, entered⟩ := bind_eq_ok.mp entered
    obtain ⟨lifetime, _, entered⟩ := bind_eq_ok.mp entered
    obtain ⟨expires, _, entered⟩ := bind_eq_ok.mp entered
    cases entered
    exact sees.2 more

end Session

end Snapshot

end QueryDesk
