import Mathlib.Data.List.GetD
import Mathlib.Data.List.Lattice
import Mathlib.Data.List.Nodup
import Mathlib.Data.List.Perm.Subperm
import QueryDesk.Snapshot.Memory

namespace QueryDesk

namespace Snapshot

namespace Object

@[simp]
theorem refs_relocate (moved : Nat → Nat) (o : Object) :
    (o.relocate moved).refs = o.refs.map moved := by
  cases o with
  | map entries => simp [relocate, refs, List.flatMap_map, List.map_flatMap]
  | _ => rfl

theorem shown_relocate (moved : Nat → Nat) (sight : Nat → Datum) (o : Object) :
    (o.relocate moved).shown sight = o.shown fun a => sight (moved a) := by
  cases o with
  | list items => simp [relocate, shown]
  | map entries => simp [relocate, shown]
  | _ => rfl

theorem shown_congr {sight other : Nat → Datum} {o : Object}
    (same : ∀ b ∈ o.refs, sight b = other b) : o.shown sight = o.shown other := by
  cases o with
  | value d => rfl
  | buffer bytes => rfl
  | list items => exact congrArg Datum.list (List.map_congr_left same)
  | map entries =>
    refine congrArg Datum.map (List.map_congr_left fun entry there => ?_)
    have refers : ∀ b ∈ [entry.1, entry.2], sight b = other b := fun b mine =>
      same b (List.mem_flatMap.mpr ⟨entry, there, mine⟩)
    rw [refers entry.1 (by simp), refers entry.2 (by simp)]
  | result columns rows rowCount truncated =>
    simp only [refs, List.mem_cons, List.not_mem_nil, or_false, forall_eq_or_imp, forall_eq] at same
    simp only [shown, same]

end Object

namespace Memory

variable {m : Memory} {a b : Nat} {o : Object} {known : List Nat}

theorem get_of_size_le (beyond : m.size ≤ a) : m.get a = .value .other := by
  simp only [get, List.getD_eq_getElem?_getD, List.getElem?_eq_none beyond, Option.getD_none]

theorem lt_size_of_mem_refs (refers : b ∈ (m.get a).refs) : a < m.size := by
  by_contra beyond
  rw [get_of_size_le (Nat.not_lt.mp beyond)] at refers
  simp [Object.refs] at refers

@[simp]
theorem size_add : (m.add o).size = m.size + 1 := by simp [add, size]

@[simp]
theorem get_add_self : (m.add o).get m.size = o := by simp [add, get, size]

theorem get_add_of_ne (ne : a ≠ m.size) : (m.add o).get a = m.get a := by
  rcases Nat.lt_or_gt_of_ne ne with inside | beyond
  · simp only [get, add, List.getD_append _ _ _ _ inside]
  · rw [get_of_size_le (Nat.le_of_lt beyond), get_of_size_le (by rw [size_add]; omega)]

@[simp]
theorem size_write : (m.write a o).size = m.size := by simp [write, size]

theorem get_write_self (inside : a < m.size) : (m.write a o).get a = o := by
  have set : a < (m.objects.set a o).length := by simpa [size] using inside
  simp [get, write, List.getD_eq_getElem?_getD, List.getElem?_eq_getElem set]

theorem get_write_of_ne (ne : b ≠ a) : (m.write a o).get b = m.get b := by
  simp [get, write, List.getD_eq_getElem?_getD, List.getElem?_set_ne ne.symm]

def Closed (m : Memory) (own : Nat → Prop) : Prop := ∀ a, own a → ∀ b ∈ (m.get a).refs, own b

def Sound (m : Memory) : Prop := m.Closed (· < m.size)

theorem read_eq_of_closed {other : Memory} {own : Nat → Prop} (closed : m.Closed own)
    (same : ∀ a, own a → other.get a = m.get a) (depth : Nat) (mine : own a) :
    other.read depth a = m.read depth a := by
  induction depth generalizing a with
  | zero => rfl
  | succ depth ih =>
    rw [read, read, same a mine]
    exact Object.shown_congr fun b refers => ih (closed a mine b refers)

theorem mem_expand : b ∈ m.expand known ↔ b ∈ known ∨ ∃ a ∈ known, b ∈ (m.get a).refs := by
  have union : m.expand known = (known.flatMap fun a => (m.get a).refs) ∪ known := rfl
  rw [union, List.mem_union_iff, List.mem_flatMap, or_comm]

theorem suffix_expand : known <:+ m.expand known := List.suffix_union_right _ _

theorem nodup_expand (distinct : known.Nodup) : (m.expand known).Nodup := distinct.union _

/-- As each round finds more, and there are no more addresses than the memory has, the rounds end
    when nothing is new. -/
theorem closed_reachIn (sound : m.Sound) {rounds : Nat} (distinct : known.Nodup)
    (inside : ∀ a ∈ known, a < m.size) (enough : m.size < known.length + rounds) :
    m.Closed (· ∈ m.reachIn rounds known) := by
  induction rounds generalizing known with
  | zero =>
    have sub : known ⊆ List.range m.size := fun a there => List.mem_range.mpr (inside a there)
    have few := (distinct.subperm sub).length_le
    rw [List.length_range] at few
    omega
  | succ rounds ih =>
    have grows : known <:+ m.expand known := suffix_expand
    have longer := grows.length_le
    simp only [reachIn]
    split
    · rename_i settled
      have nothing_new : m.expand known = known :=
        (grows.eq_of_length settled.symm).symm
      intro a there b refers
      rw [← nothing_new]
      exact mem_expand.mpr (.inr ⟨a, there, refers⟩)
    · rename_i more
      refine ih (nodup_expand distinct) (fun b there => ?_) (by omega)
      rcases mem_expand.mp there with old | ⟨a, known_a, refers⟩
      · exact inside b old
      · exact sound a (inside a known_a) b refers

theorem subset_reachIn (rounds : Nat) (there : a ∈ known) : a ∈ m.reachIn rounds known := by
  induction rounds generalizing known with
  | zero => exact there
  | succ rounds ih =>
    simp only [reachIn]
    split
    · exact there
    · exact ih (mem_expand.mpr (.inl there))

theorem closed_reach (sound : m.Sound) (inside : a < m.size) : m.Closed (· ∈ m.reach a) :=
  closed_reachIn sound (List.nodup_singleton a) (by simpa using inside) (by simp)

theorem mem_reach_self : a ∈ m.reach a := subset_reachIn _ (by simp)

theorem size_copy : (m.copy a).2.size = m.size + (m.reach a).length := by simp [copy, size]

theorem get_copy_of_lt (inside : b < m.size) : (m.copy a).2.get b = m.get b := by
  simp only [get, copy, List.getD_append _ _ _ _ inside]

theorem get_copy_add {i : Nat} (inside : i < (m.reach a).length) :
    (m.copy a).2.get (m.size + i) = (m.get (m.reach a)[i]).relocate (m.moved a) := by
  simp only [get, copy, size]
  rw [List.getD_append_right _ _ _ _ (Nat.le_add_right _ _), Nat.add_sub_cancel_left]
  simp [List.getD_eq_getElem?_getD, inside]

theorem get_copy_moved (there : b ∈ m.reach a) :
    (m.copy a).2.get (m.moved a b) = (m.get b).relocate (m.moved a) := by
  rw [moved, get_copy_add (List.idxOf_lt_length_of_mem there), List.getElem_idxOf]

theorem le_moved : m.size ≤ m.moved a b := Nat.le_add_right _ _

theorem moved_lt (there : b ∈ m.reach a) : m.moved a b < (m.copy a).2.size := by
  rw [size_copy]
  exact Nat.add_lt_add_left (List.idxOf_lt_length_of_mem there) _

theorem refs_copy (sound : m.Sound) (inside : a < m.size) {c : Nat} (new : m.size ≤ c) :
    ∀ b ∈ ((m.copy a).2.get c).refs, m.size ≤ b ∧ b < (m.copy a).2.size := by
  intro b refers
  have small := lt_size_of_mem_refs refers
  obtain ⟨i, rfl⟩ := Nat.exists_eq_add_of_le new
  have index : i < (m.reach a).length := by rw [size_copy] at small; omega
  rw [get_copy_add index, Object.refs_relocate] at refers
  obtain ⟨old, referred, rfl⟩ := List.mem_map.mp refers
  have reached := closed_reach sound inside _ (List.getElem_mem index) old referred
  exact ⟨le_moved, moved_lt reached⟩

theorem sound_copy (sound : m.Sound) (inside : a < m.size) : (m.copy a).2.Sound := by
  intro c _ b refers
  by_cases old : c < m.size
  · rw [get_copy_of_lt old] at refers
    have small := sound c old b refers
    rw [size_copy]
    exact Nat.lt_add_right _ small
  · exact (refs_copy sound inside (Nat.not_lt.mp old) b refers).2

theorem read_copy (sound : m.Sound) (inside : a < m.size) (depth : Nat) :
    (m.copy a).2.read depth (m.copy a).1 = m.read depth a := by
  have closed := closed_reach sound inside
  suffices ∀ b ∈ m.reach a, (m.copy a).2.read depth (m.moved a b) = m.read depth b from
    this a mem_reach_self
  induction depth with
  | zero => exact fun _ _ => rfl
  | succ depth ih =>
    intro b there
    rw [read, read, get_copy_moved there, Object.shown_relocate]
    exact Object.shown_congr fun c refers => ih c (closed b there c refers)

end Memory

end Snapshot

end QueryDesk
