namespace QueryDesk

abbrev OrderedMap (κ ν : Type) := List (κ × ν)

namespace OrderedMap

variable {κ ν : Type} [BEq κ]

def insert (m : OrderedMap κ ν) (key : κ) (value : ν) : OrderedMap κ ν :=
  match m with
  | [] => [(key, value)]
  | (k, v) :: rest => if k == key then (k, value) :: rest else (k, v) :: insert rest key value

def ofList (entries : List (κ × ν)) : OrderedMap κ ν :=
  entries.foldl (fun m entry => m.insert entry.1 entry.2) []

def find? (m : OrderedMap κ ν) (key : κ) : Option ν := m.lookup key

def keys (m : OrderedMap κ ν) : List κ := m.map (·.1)

def alter (m : OrderedMap κ ν) (key : κ) (f : Option ν → ν) : OrderedMap κ ν :=
  m.insert key (f (m.find? key))

def erase (m : OrderedMap κ ν) (key : κ) : OrderedMap κ ν := m.filter fun entry => !(key == entry.1)

variable [LawfulBEq κ]

@[simp]
theorem find?_insert_self (m : OrderedMap κ ν) (key : κ) (value : ν) :
    (m.insert key value).find? key = some value := by
  induction m with
  | nil => simp [insert, find?]
  | cons entry rest ih =>
    obtain ⟨k, v⟩ := entry
    by_cases h : k == key
    · simp [insert, find?, (eq_of_beq h).symm]
    · have other : (key == k) = false := by
        simp only [Bool.not_eq_true, beq_eq_false_iff_ne] at h ⊢
        exact fun same => h same.symm
      simp only [find?] at ih
      simp [insert, h, find?, List.lookup_cons, other, ih]

theorem find?_insert_of_ne (m : OrderedMap κ ν) {key other : κ} (value : ν) (ne : other ≠ key) :
    (m.insert key value).find? other = m.find? other := by
  induction m with
  | nil => simp [insert, find?, List.lookup_cons, beq_eq_false_iff_ne.mpr ne]
  | cons entry rest ih =>
    obtain ⟨k, v⟩ := entry
    simp only [find?] at ih
    by_cases h : k == key
    · have same := eq_of_beq h
      subst same
      simp [insert, find?, List.lookup_cons, beq_eq_false_iff_ne.mpr ne]
    · simp [insert, h, find?, List.lookup_cons, ih]

end OrderedMap

end QueryDesk
