import Mathlib.Data.List.Induction
import Mathlib.Data.List.Nodup
import QueryDesk.OrderedMap

namespace QueryDesk

namespace OrderedMap

variable {κ ν : Type} [BEq κ] [LawfulBEq κ]

theorem isSome_find?_iff {m : OrderedMap κ ν} {key : κ} :
    (m.find? key).isSome = true ↔ key ∈ m.keys := by
  induction m with
  | nil => simp [find?, keys]
  | cons entry rest ih =>
    obtain ⟨k, v⟩ := entry
    simp only [find?, keys] at ih
    cases same : key == k with
    | true => simp [find?, keys, eq_of_beq same]
    | false =>
      have ne : key ≠ k := beq_eq_false_iff_ne.mp same
      simp [find?, keys, List.lookup_cons, same, ne, ih]

omit [LawfulBEq κ] in
theorem exists_of_find? {m : OrderedMap κ ν} {key : κ} {value : ν} (found : m.find? key = some value) :
    ∃ entry ∈ m, entry.2 = value := by
  induction m with
  | nil => cases found
  | cons entry rest ih =>
    obtain ⟨k, v⟩ := entry
    rw [find?, List.lookup_cons] at found
    split at found
    · exact ⟨_, List.mem_cons_self, Option.some.inj found⟩
    · obtain ⟨other, member, same⟩ := ih found
      exact ⟨other, List.mem_cons_of_mem _ member, same⟩

omit [LawfulBEq κ] in
theorem forall_insert {P : ν → Prop} {m : OrderedMap κ ν} {value : ν} (key : κ)
    (all : ∀ entry ∈ m, P entry.2) (own : P value) : ∀ entry ∈ m.insert key value, P entry.2 := by
  induction m with
  | nil => exact List.forall_mem_singleton.mpr own
  | cons first rest ih =>
    obtain ⟨head, others⟩ := List.forall_mem_cons.mp all
    rw [insert]
    split
    · exact List.forall_mem_cons.mpr ⟨own, others⟩
    · exact List.forall_mem_cons.mpr ⟨head, ih others⟩

omit [LawfulBEq κ] in
theorem forall_ofList {P : ν → Prop} {entries : List (κ × ν)} (all : ∀ entry ∈ entries, P entry.2) :
    ∀ entry ∈ ofList entries, P entry.2 := by
  suffices later : ∀ m : OrderedMap κ ν, (∀ entry ∈ m, P entry.2) →
      ∀ entry ∈ entries.foldl (fun m entry => m.insert entry.1 entry.2) m, P entry.2 from
    later [] nofun
  induction entries with
  | nil => exact fun m known => known
  | cons first rest ih =>
    intro m known
    obtain ⟨head, others⟩ := List.forall_mem_cons.mp all
    exact ih others _ (forall_insert first.1 known head)

omit [LawfulBEq κ] in
theorem keys_erase (m : OrderedMap κ ν) (key : κ) :
    (m.erase key).keys = m.keys.filter fun k => !(key == k) := by
  simp only [keys, erase, List.filter_map]
  rfl

omit [LawfulBEq κ] in
theorem nodup_keys_erase {m : OrderedMap κ ν} (nodup : m.keys.Nodup) (key : κ) :
    (m.erase key).keys.Nodup := by
  rw [keys_erase]
  exact nodup.filter _

omit [LawfulBEq κ] in
theorem keys_insert (m : OrderedMap κ ν) (key : κ) (value : ν) :
    (m.insert key value).keys = if m.keys.any (· == key) then m.keys else m.keys ++ [key] := by
  induction m with
  | nil => rfl
  | cons entry rest ih =>
    obtain ⟨k, v⟩ := entry
    simp only [keys] at ih
    cases same : k == key with
    | true => simp [insert, keys, same]
    | false =>
      cases later : (rest.map (·.1)).any (· == key) <;>
        simp only [insert, keys, same, List.map_cons, List.any_cons, ih, later, Bool.false_or,
          Bool.false_eq_true, if_false, if_true, List.cons_append]

omit [LawfulBEq κ] in
theorem insert_of_any {m : OrderedMap κ ν} {key : κ} (new : m.keys.any (· == key) = false)
    (value : ν) : m.insert key value = m ++ [(key, value)] := by
  induction m with
  | nil => rfl
  | cons entry rest ih =>
    obtain ⟨k, v⟩ := entry
    obtain ⟨other, later⟩ := Bool.or_eq_false_iff.mp new
    simp only [insert, other, ih later, Bool.false_eq_true, if_false, List.cons_append]

theorem any_keys_iff {m : OrderedMap κ ν} {key : κ} :
    m.keys.any (· == key) = true ↔ key ∈ m.keys := by
  simp

theorem keys_insert_of_mem {m : OrderedMap κ ν} {key : κ} (member : key ∈ m.keys) (value : ν) :
    (m.insert key value).keys = m.keys := by
  rw [keys_insert, if_pos (any_keys_iff.mpr member)]

theorem insert_of_notMem {m : OrderedMap κ ν} {key : κ} (new : key ∉ m.keys) (value : ν) :
    m.insert key value = m ++ [(key, value)] :=
  insert_of_any (Bool.eq_false_iff.mpr fun old => new (any_keys_iff.mp old)) value

theorem keys_insert_of_notMem {m : OrderedMap κ ν} {key : κ} (new : key ∉ m.keys) (value : ν) :
    (m.insert key value).keys = m.keys ++ [key] := by
  simp [insert_of_notMem new, keys]

def Apart (m : OrderedMap κ ν) : Prop := m.keys.Pairwise fun k key => (k == key) = false

theorem apart_iff_nodup {m : OrderedMap κ ν} : m.Apart ↔ m.keys.Nodup := by
  simp only [Apart, List.Nodup, beq_eq_false_iff_ne]

omit [LawfulBEq κ] in
theorem Apart.insert {m : OrderedMap κ ν} (apart : m.Apart) (key : κ) (value : ν) :
    (m.insert key value).Apart := by
  unfold Apart
  rw [keys_insert]
  split
  · exact apart
  · rename_i new
    refine List.pairwise_append.mpr ⟨apart, List.pairwise_singleton _ _, fun k old other last => ?_⟩
    rw [List.mem_singleton.mp last, Bool.eq_false_iff]
    exact fun same => new (List.any_eq_true.mpr ⟨k, old, same⟩)

omit [LawfulBEq κ] in
theorem apart_ofList (entries : List (κ × ν)) : (ofList entries).Apart := by
  suffices later : ∀ m : OrderedMap κ ν, m.Apart →
      (entries.foldl (fun m entry => m.insert entry.1 entry.2) m).Apart from later [] .nil
  induction entries with
  | nil => exact fun m apart => apart
  | cons entry rest ih => exact fun m apart => ih _ (apart.insert entry.1 entry.2)

theorem nodup_keys_insert {m : OrderedMap κ ν} (nodup : m.keys.Nodup) (key : κ) (value : ν) :
    (m.insert key value).keys.Nodup :=
  apart_iff_nodup.mp ((apart_iff_nodup.mpr nodup).insert key value)

theorem nodup_keys_ofList (entries : List (κ × ν)) : (ofList entries).keys.Nodup :=
  apart_iff_nodup.mp (apart_ofList entries)

omit [LawfulBEq κ] in
theorem forall_keys_ofList {P : κ → Prop} {entries : List (κ × ν)} (all : ∀ entry ∈ entries, P entry.1) :
    ∀ entry ∈ ofList entries, P entry.1 := by
  suffices later : ∀ m : OrderedMap κ ν, (∀ key ∈ m.keys, P key) →
      ∀ key ∈ keys (entries.foldl (fun m entry => m.insert entry.1 entry.2) m), P key from
    fun entry member => later [] (by simp [keys]) entry.1 (List.mem_map_of_mem member)
  induction entries with
  | nil => exact fun m known => known
  | cons first rest ih =>
    obtain ⟨head, others⟩ := List.forall_mem_cons.mp all
    intro m known
    refine ih others _ fun key member => ?_
    rw [keys_insert] at member
    split at member
    · exact known key member
    · rcases List.mem_append.mp member with old | new
      · exact known key old
      · exact List.mem_singleton.mp new ▸ head

omit [LawfulBEq κ] in
theorem ofList_append (first later : List (κ × ν)) :
    ofList (first ++ later) = later.foldl (fun m entry => m.insert entry.1 entry.2) (ofList first) :=
  List.foldl_append

theorem keys_foldl_insert {ε : Type} (key : ε → κ) (value : OrderedMap κ ν → ε → ν)
    (entries : List ε) :
    keys (entries.foldl (fun (m : OrderedMap κ ν) e => m.insert (key e) (value m e)) []) =
      (entries.map key).eraseDups := by
  induction entries using List.reverseRecOn with
  | nil => rfl
  | append_singleton entries entry ih =>
    rw [List.foldl_append, List.foldl_cons, List.foldl_nil, List.map_append, List.map_singleton,
      List.eraseDups_append, List.removeAll, ← ih]
    generalize entries.foldl (fun (m : OrderedMap κ ν) e => m.insert (key e) (value m e)) [] = m
      at ih ⊢
    have member : key entry ∈ m.keys ↔ key entry ∈ entries.map key := by
      rw [ih, List.mem_eraseDups]
    by_cases old : key entry ∈ entries.map key
    · rw [keys_insert_of_mem (member.mpr old), List.filter_cons_of_neg (by simpa using old)]
      exact (List.append_nil _).symm
    · rw [keys_insert_of_notMem (fun there => old (member.mp there)),
        List.filter_cons_of_pos (by simpa using old)]
      rfl

theorem keys_ofList (entries : List (κ × ν)) :
    (ofList entries).keys = (entries.map (·.1)).eraseDups :=
  keys_foldl_insert Prod.fst (fun _ e => e.2) entries

theorem find?_ofList {before later : List (κ × ν)} {key : κ} (value : ν)
    (apart : key ∉ later.map (·.1)) :
    (ofList (before ++ (key, value) :: later)).find? key = some value := by
  rw [ofList_append, List.foldl_cons]
  suffices kept : ∀ m : OrderedMap κ ν, m.find? key = some value →
      (later.foldl (fun m entry => m.insert entry.1 entry.2) m).find? key = some value from
    kept _ (find?_insert_self _ _ _)
  induction later with
  | nil => exact fun m found => found
  | cons entry rest ih =>
    rw [List.map_cons, List.mem_cons, not_or] at apart
    intro m found
    exact ih apart.2 _ ((find?_insert_of_ne _ _ apart.1).trans found)

omit [LawfulBEq κ] in
theorem ofList_of_apart {m : OrderedMap κ ν} (apart : m.Apart) : ofList m = m := by
  suffices later : ∀ first : OrderedMap κ ν, Apart (first ++ m) →
      m.foldl (fun m entry => m.insert entry.1 entry.2) first = first ++ m from later [] apart
  clear apart
  induction m with
  | nil => exact fun first _ => (List.append_nil first).symm
  | cons entry rest ih =>
    intro first apart
    have new : first.keys.any (· == entry.1) = false := by
      rw [Apart, keys, List.map_append, List.map_cons, List.pairwise_append] at apart
      exact List.any_eq_false.mpr fun k old same =>
        Bool.noConfusion (same.symm.trans (apart.2.2 k old entry.1 List.mem_cons_self))
    rw [List.foldl_cons, insert_of_any new, ih (first ++ [entry])]
    · simp
    · simpa using apart

theorem ofList_of_nodup {m : OrderedMap κ ν} (nodup : m.keys.Nodup) : ofList m = m :=
  ofList_of_apart (apart_iff_nodup.mpr nodup)

omit [LawfulBEq κ] in
theorem ofList_map {κ' ν' : Type} [BEq κ'] {f : κ → κ'} (g : ν → ν')
    (apart : ∀ a b, (f a == f b) = (a == b)) (entries : List (κ × ν)) :
    ofList (entries.map fun entry => (f entry.1, g entry.2)) =
      (ofList entries).map fun entry => (f entry.1, g entry.2) := by
  have insert_map : ∀ (m : OrderedMap κ ν) key value,
      OrderedMap.insert (m.map fun entry => (f entry.1, g entry.2)) (f key) (g value) =
        (m.insert key value).map fun entry => (f entry.1, g entry.2) := by
    intro m key value
    induction m with
    | nil => rfl
    | cons entry rest ih =>
      by_cases same : entry.1 == key
      · simp [insert, apart, same]
      · simp [insert, apart, same, ih]
  suffices later : ∀ m : OrderedMap κ ν,
      (entries.map fun entry => (f entry.1, g entry.2)).foldl
        (fun m entry => OrderedMap.insert m entry.1 entry.2)
        (m.map fun entry => (f entry.1, g entry.2)) =
      (entries.foldl (fun m entry => m.insert entry.1 entry.2) m).map
        fun entry => (f entry.1, g entry.2) from later []
  induction entries with
  | nil => exact fun m => rfl
  | cons entry rest ih =>
    intro m
    simp only [List.map_cons, List.foldl_cons, insert_map]
    exact ih _

section Nested

variable {μ : Type} [BEq μ]

def ofTriples (entries : List (κ × μ × ν)) : OrderedMap κ (OrderedMap μ ν) :=
  entries.foldl (fun m e => m.alter e.1 fun row => OrderedMap.insert (row.getD []) e.2.1 e.2.2) []

omit [LawfulBEq κ] in
theorem ofTriples_concat (entries : List (κ × μ × ν)) (entry : κ × μ × ν) :
    ofTriples (entries ++ [entry]) = (ofTriples entries).alter entry.1
      fun row => OrderedMap.insert (row.getD []) entry.2.1 entry.2.2 :=
  List.foldl_append

theorem keys_ofTriples (entries : List (κ × μ × ν)) :
    (ofTriples entries).keys = (entries.map (·.1)).eraseDups :=
  keys_foldl_insert Prod.fst (fun (m : OrderedMap κ (OrderedMap μ ν)) (e : κ × μ × ν) =>
    OrderedMap.insert ((m.find? e.1).getD []) e.2.1 e.2.2) entries

theorem getD_find?_ofTriples (entries : List (κ × μ × ν)) (key : κ) :
    ((ofTriples entries).find? key).getD [] =
      ofList ((entries.filter (·.1 == key)).map (·.2)) := by
  induction entries using List.reverseRecOn with
  | nil => rfl
  | append_singleton entries entry ih =>
    rw [ofTriples_concat, alter, List.filter_append, List.map_append, ofList_append, ← ih]
    by_cases own : entry.1 = key
    · subst own
      rw [find?_insert_self, List.filter_cons_of_pos (by simp)]
      rfl
    · rw [find?_insert_of_ne _ _ (Ne.symm own), List.filter_cons_of_neg (by simpa using own)]
      rfl

theorem find?_ofTriples {entries : List (κ × μ × ν)} {key : κ}
    (member : key ∈ entries.map (·.1)) : (ofTriples entries).find? key =
      some (ofList ((entries.filter (·.1 == key)).map (·.2))) := by
  have there : ((ofTriples entries).find? key).isSome = true := by
    rwa [isSome_find?_iff, keys_ofTriples, List.mem_eraseDups]
  obtain ⟨row, found⟩ := Option.isSome_iff_exists.mp there
  have own := getD_find?_ofTriples entries key
  rw [found] at own ⊢
  exact congrArg some own

theorem exists_find?_ofTriples [LawfulBEq μ] {before later : List (κ × μ × ν)} {a : κ} {b : μ}
    (value : ν) (apart : (a, b) ∉ later.map fun e => (e.1, e.2.1)) :
    ∃ row, (ofTriples (before ++ (a, b, value) :: later)).find? a = some row ∧
      row.find? b = some value := by
  refine ⟨_, find?_ofTriples (by simp), ?_⟩
  rw [List.filter_append, List.filter_cons_of_pos (by simp), List.map_append, List.map_cons]
  refine find?_ofList value fun again => apart ?_
  obtain ⟨entry, written, rfl⟩ := List.mem_map.mp again
  obtain ⟨triple, kept, rfl⟩ := List.mem_map.mp written
  obtain ⟨member, own⟩ := List.mem_filter.mp kept
  exact List.mem_map.mpr ⟨triple, member, Prod.ext (eq_of_beq own) rfl⟩

end Nested

end OrderedMap

end QueryDesk
