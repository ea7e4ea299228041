import QueryDesk.Proofs.OrderedMap
import QueryDesk.Proofs.Outcome
import QueryDesk.Proofs.Snapshot.Memory
import QueryDesk.Proofs.Snapshot.Store
import QueryDesk.Snapshot.Session

namespace QueryDesk

namespace Snapshot

/-- What is seen at an address, at each depth. -/
abbrev View := Nat → Datum

namespace Memory

def view (m : Memory) (a : Nat) : View := fun depth => m.read depth a

variable {m : Memory} {held : List Nat} {a : Nat} {o : Object}

theorem view_copy (sound : m.Sound) (inside : a < m.size) :
    (m.copy a).2.view (m.copy a).1 = m.view a :=
  funext (read_copy sound inside)

/-- No reference leads from what callers hold to what they do not, or back. -/
structure Parted (m : Memory) (held : List Nat) : Prop where
  sound : m.Sound
  held_lt : ∀ a ∈ held, a < m.size
  held_closed : m.Closed (· ∈ held)
  kept_closed : m.Closed (· ∉ held)

def Kept (m : Memory) (held : List Nat) (a : Nat) : Prop := a < m.size ∧ a ∉ held

/-- What is kept at first is kept later, as it was. -/
def Spares (m : Memory) (held : List Nat) (later : Memory) (heldLater : List Nat) : Prop :=
  ∀ a, m.Kept held a → later.Kept heldLater a ∧ later.get a = m.get a

theorem spares_refl : m.Spares held m held := fun _ kept => ⟨kept, rfl⟩

theorem parted_empty : empty.Parted [] := by
  have nothing : ∀ own : Nat → Prop, empty.Closed own := fun own a _ b refers =>
    absurd (lt_size_of_mem_refs refers) (Nat.not_lt_zero a)
  exact ⟨nothing _, by simp, nothing _, nothing _⟩

theorem Parted.closed_kept (parted : m.Parted held) : m.Closed (m.Kept held) :=
  fun a kept b refers =>
    ⟨parted.sound a kept.1 b refers, parted.kept_closed a kept.2 b refers⟩

theorem Parted.read_eq (parted : m.Parted held) {later : Memory} {heldLater : List Nat}
    (spares : m.Spares held later heldLater) (kept : m.Kept held a) (depth : Nat) :
    later.read depth a = m.read depth a :=
  read_eq_of_closed parted.closed_kept (fun b mine => (spares b mine).2) depth kept

theorem Parted.add (parted : m.Parted held) (given : ∀ b ∈ o.refs, b ∈ held) :
    (m.add o).Parted (m.size :: held) := by
  refine ⟨fun a _ b refers => ?_, fun a there => ?_, fun a there b refers => ?_,
    fun a free b refers => ?_⟩
  · rw [size_add]
    by_cases new : a = m.size
    · rw [new, get_add_self] at refers
      exact Nat.lt_succ_of_lt (parted.held_lt b (given b refers))
    · rw [get_add_of_ne new] at refers
      exact Nat.lt_succ_of_lt (parted.sound a (lt_size_of_mem_refs refers) b refers)
  · rw [size_add]
    rcases List.mem_cons.mp there with rfl | old
    · exact Nat.lt_succ_self _
    · exact Nat.lt_succ_of_lt (parted.held_lt a old)
  · refine List.mem_cons_of_mem _ ?_
    by_cases new : a = m.size
    · rw [new, get_add_self] at refers
      exact given b refers
    · rw [get_add_of_ne new] at refers
      exact parted.held_closed a ((List.mem_cons.mp there).resolve_left new) b refers
  · obtain ⟨new, free⟩ := not_or.mp (mt List.mem_cons.mpr free)
    rw [get_add_of_ne new] at refers
    have small := parted.sound a (lt_size_of_mem_refs refers) b refers
    intro there
    rcases List.mem_cons.mp there with rfl | old
    · exact Nat.lt_irrefl _ small
    · exact parted.kept_closed a free b refers old

theorem spares_add : m.Spares held (m.add o) (m.size :: held) := by
  rintro a ⟨inside, free⟩
  have old : a ≠ m.size := Nat.ne_of_lt inside
  refine ⟨⟨by rw [size_add]; exact Nat.lt_succ_of_lt inside, ?_⟩, get_add_of_ne old⟩
  exact mt List.mem_cons.mp (not_or.mpr ⟨old, free⟩)

theorem Parted.write (parted : m.Parted held) (there : a ∈ held)
    (given : ∀ b ∈ o.refs, b ∈ held) : (m.write a o).Parted held := by
  have at_a := get_write_self (o := o) (parted.held_lt a there)
  refine ⟨fun c inside b refers => ?_, by simpa using parted.held_lt, fun c held_c b refers => ?_,
    fun c free b refers => ?_⟩
  · rw [size_write] at inside ⊢
    by_cases same : c = a
    · rw [same, at_a] at refers
      exact parted.held_lt b (given b refers)
    · rw [get_write_of_ne same] at refers
      exact parted.sound c inside b refers
  · by_cases same : c = a
    · rw [same, at_a] at refers
      exact given b refers
    · rw [get_write_of_ne same] at refers
      exact parted.held_closed c held_c b refers
  · have other : c ≠ a := fun same => free (by rwa [same])
    rw [get_write_of_ne other] at refers
    exact parted.kept_closed c free b refers

theorem spares_write (there : a ∈ held) : m.Spares held (m.write a o) held :=
  fun b kept => ⟨⟨by simpa using kept.1, kept.2⟩, get_write_of_ne fun same => kept.2 (same ▸ there)⟩

theorem size_le_size_copy : m.size ≤ (m.copy a).2.size := by
  rw [size_copy]
  exact Nat.le_add_right _ _

theorem Parted.copy (parted : m.Parted held) (inside : a < m.size) :
    (m.copy a).2.Parted held := by
  refine ⟨sound_copy parted.sound inside,
    fun b there => Nat.lt_of_lt_of_le (parted.held_lt b there) size_le_size_copy,
    fun c held_c b refers => ?_, fun c free b refers => ?_⟩
  · rw [get_copy_of_lt (parted.held_lt c held_c)] at refers
    exact parted.held_closed c held_c b refers
  · by_cases old : c < m.size
    · rw [get_copy_of_lt old] at refers
      exact parted.kept_closed c free b refers
    · intro held_b
      exact Nat.not_lt.mpr (refs_copy parted.sound inside (Nat.not_lt.mp old) b refers).1
        (parted.held_lt b held_b)

theorem spares_copy : m.Spares held (m.copy a).2 held :=
  fun _ kept => ⟨⟨Nat.lt_of_lt_of_le kept.1 size_le_size_copy, kept.2⟩, get_copy_of_lt kept.1⟩

theorem kept_copy (parted : m.Parted held) : (m.copy a).2.Kept held (m.copy a).1 :=
  ⟨moved_lt mem_reach_self, fun there => Nat.not_lt.mpr le_moved (parted.held_lt _ there)⟩

def added (m : Memory) (a : Nat) : List Nat :=
  List.range' m.size ((m.copy a).2.size - m.size)

theorem mem_added {b : Nat} : b ∈ m.added a ↔ m.size ≤ b ∧ b < (m.copy a).2.size := by
  have grows := size_le_size_copy (m := m) (a := a)
  simp only [added, List.mem_range'_1]
  omega

theorem Parted.copy_added (parted : m.Parted held) (inside : a < m.size) :
    (m.copy a).2.Parted (m.added a ++ held) := by
  have copied := parted.copy inside
  refine ⟨copied.sound, fun b there => ?_, fun c there b refers => ?_, fun c free b refers => ?_⟩
  · rcases List.mem_append.mp there with new | old
    · exact (mem_added.mp new).2
    · exact copied.held_lt b old
  · rcases List.mem_append.mp there with new | old
    · exact List.mem_append_left _
        (mem_added.mpr (refs_copy parted.sound inside (mem_added.mp new).1 b refers))
    · exact List.mem_append_right _ (copied.held_closed c old b refers)
  · obtain ⟨old, free⟩ := not_or.mp (mt List.mem_append.mpr free)
    have small : c < m.size := by
      by_contra new
      exact old (mem_added.mpr ⟨Nat.not_lt.mp new, lt_size_of_mem_refs refers⟩)
    intro there
    rcases List.mem_append.mp there with new | held_b
    · rw [get_copy_of_lt small] at refers
      exact Nat.not_lt.mpr (mem_added.mp new).1 (parted.sound c small b refers)
    · exact copied.kept_closed c free b refers held_b

theorem spares_copy_added : m.Spares held (m.copy a).2 (m.added a ++ held) := by
  intro b kept
  obtain ⟨later, same⟩ := spares_copy (a := a) b kept
  refine ⟨⟨later.1, fun there => ?_⟩, same⟩
  rcases List.mem_append.mp there with new | old
  · exact Nat.not_lt.mpr (mem_added.mp new).1 kept.1
  · exact kept.2 old

end Memory

namespace Session

variable {s : Session}

structure Separate (s : Session) : Prop where
  parted : s.memory.Parted s.held
  stored : ∀ entry ∈ s.store.entries, s.memory.Kept s.held entry.2.result
  handed : ∀ e ∈ s.handed, s.memory.Kept s.held e.result

theorem holds_iff {addresses : List Nat} :
    s.holds addresses = true ↔ ∀ a ∈ addresses, a ∈ s.held := by
  simp [holds]

theorem copy_eq_ok {a : Nat} {copied : Nat × Memory} (done : s.copy a = .ok copied) :
    copied = s.memory.copy a ∧ a < s.memory.size := by
  unfold copy at done
  split at done
  · rename_i columns rows rowCount truncated at_a
    split at done
    · cases done
      refine ⟨rfl, ?_⟩
      by_contra beyond
      rw [Memory.get_of_size_le (Nat.not_lt.mp beyond)] at at_a
      cases at_a
    · cases done
  · cases done

theorem separate_start (usual : Except Failure Seconds) (fits : Memory → Nat → Bool) :
    (start usual fits).Separate :=
  ⟨Memory.parted_empty, by simp [start, Store.ofLifetime], by simp [start]⟩

theorem Separate.spared (separate : s.Separate) {memory : Memory} {held : List Nat}
    (parted : memory.Parted held) (spares : s.memory.Spares s.held memory held) :
    ({ s with memory, held } : Session).Separate :=
  ⟨parted, fun entry there => (spares _ (separate.stored entry there)).1,
    fun e there => (spares _ (separate.handed e there)).1⟩

theorem mem_lookup {now : Instant} {key : Text} {entry : Text × Entry Nat}
    (there : entry ∈ (s.store.lookup now key).2.entries) : entry ∈ s.store.entries := by
  unfold Store.lookup at there
  split at there
  · exact there
  · split at there
    · exact List.mem_of_mem_filter there
    · exact there

theorem Separate.lookup (separate : s.Separate) (key : Text) :
    ({ s with store := (s.store.lookup s.now key).2
              handed := (s.store.lookup s.now key).1.toList ++ s.handed } : Session).Separate := by
  refine ⟨separate.parted, fun entry there => separate.stored entry (mem_lookup there),
    fun e there => ?_⟩
  rcases List.mem_append.mp there with found | old
  · have under : s.store.alive s.now key = some e := by
      rw [← Store.lookup_fst]
      exact Option.mem_toList.mp found
    obtain ⟨entry, member, rfl⟩ :=
      OrderedMap.exists_of_find? (Option.filter_eq_some_iff.mp under).1
    exact separate.stored entry member
  · exact separate.handed e old

/-- An entry that callers hold no part of is stored and handed out. -/
theorem Separate.insert (separate : s.Separate) {e : Entry Nat}
    (own : s.memory.Kept s.held e.result) (key : Text) (nextSerial : Nat) :
    ({ s with store := { s.store with entries := s.store.entries.insert key e, nextSerial }
              handed := e :: s.handed } : Session).Separate := by
  refine ⟨separate.parted, ?_, List.forall_mem_cons.mpr ⟨own, separate.handed⟩⟩
  let kept (e : Entry Nat) := s.memory.Kept s.held e.result
  exact OrderedMap.forall_insert (P := kept) key separate.stored own

theorem keep_eq_ok {d : Deposit} {copy : Nat} {e : Entry Nat} {store : Store Nat}
    (kept : s.keep d copy = .ok (e, store)) : ∃ lifetime expires,
      d.lifetime.getD s.usual = .ok lifetime ∧ s.now.after lifetime = .ok expires ∧
      e = ⟨s.store.nextSerial, d.key, d.sql, copy, d.source, s.now, expires⟩ ∧
      store = { s.store with entries := s.store.entries.insert d.key e
                             nextSerial := s.store.nextSerial + 1 } := by
  obtain ⟨lifetime, lasts, kept⟩ := bind_eq_ok.mp kept
  cases ends : s.now.after lifetime with
  | error fault => simp [Store.keep, ends, Except.mapError, Bind.bind, Except.bind] at kept
  | ok expires =>
    simp only [Store.keep, Option.getD_some, ends, Bind.bind, Except.bind, Except.mapError,
      Except.ok.injEq, Prod.mk.injEq] at kept
    exact ⟨lifetime, expires, lasts, ends, kept.1.symm, by rw [← kept.1]; exact kept.2.symm⟩

theorem Separate.visit (separate : s.Separate) (v : Visit) :
    (s.visit v).2.Separate ∧
      s.memory.Spares s.held (s.visit v).2.memory (s.visit v).2.held := by
  have still : s.Separate ∧ s.memory.Spares s.held s.memory s.held :=
    ⟨separate, Memory.spares_refl⟩
  cases v with
  | make o =>
    simp only [Session.visit]
    split
    · rename_i given
      exact ⟨separate.spared (separate.parted.add (holds_iff.mp given)) Memory.spares_add,
        Memory.spares_add⟩
    · exact still
  | change a o =>
    simp only [Session.visit]
    split
    · rename_i given
      have mine := holds_iff.mp (Bool.and_eq_true_iff.mp given).1
      have spares : s.memory.Spares s.held (s.memory.write a o) s.held :=
        Memory.spares_write (mine a (by simp))
      exact ⟨separate.spared
        (separate.parted.write (mine a (by simp)) fun b refers => mine b (by simp [refers])) spares,
        spares⟩
    · exact still
  | keep d =>
    simp only [Session.visit]
    cases copying : s.copy d.result with
    | error failure => exact still
    | ok copied =>
      obtain ⟨rfl, inside⟩ := copy_eq_ok copying
      have copied := separate.spared (separate.parted.copy inside) Memory.spares_copy
      dsimp only
      split
      · exact ⟨copied, Memory.spares_copy⟩
      · rename_i e store kept
        obtain ⟨_, _, _, _, rfl, rfl⟩ := keep_eq_ok kept
        exact ⟨copied.insert (Memory.kept_copy separate.parted) _ _, Memory.spares_copy⟩
  | lookup key => exact ⟨separate.lookup key, Memory.spares_refl⟩
  | advance seconds =>
    simp only [Session.visit]
    split
    · exact ⟨⟨separate.parted, separate.stored, separate.handed⟩, Memory.spares_refl⟩
    · exact still
  | size => exact still
  | clear => exact ⟨⟨separate.parted, by simp [Session.visit, Store.clear], separate.handed⟩,
      Memory.spares_refl⟩
  | snapshot i =>
    simp only [Session.visit]
    split
    · exact still
    · rename_i copied copying
      obtain ⟨e, _, copying⟩ := bind_eq_ok.mp copying
      obtain ⟨same, inside⟩ := copy_eq_ok copying
      cases same
      exact ⟨separate.spared (separate.parted.copy_added inside) Memory.spares_copy_added,
        Memory.spares_copy_added⟩
  | isExpired i after => exact still
  | assign i field => exact still

/-- What is kept in a session, with all that is seen in the results. -/
def contents (s : Session) : Store View := s.store.map s.memory.view

theorem Separate.contents_eq (separate : s.Separate) {later : Session} (same : later.store = s.store)
    (spares : s.memory.Spares s.held later.memory later.held) : later.contents = s.contents := by
  unfold contents
  rw [same]
  exact Store.map_congr fun entry there => funext
    (separate.parted.read_eq spares (separate.stored entry there))

end Session

end Snapshot

end QueryDesk
