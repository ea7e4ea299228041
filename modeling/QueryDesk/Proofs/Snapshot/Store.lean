import QueryDesk.Snapshot.Store

namespace QueryDesk

namespace OrderedMap

variable {κ ν : Type} [BEq κ] [LawfulBEq κ]

@[simp]
theorem find?_erase_self (m : OrderedMap κ ν) (key : κ) : (m.erase key).find? key = none := by
  induction m with
  | nil => rfl
  | cons entry rest ih =>
    obtain ⟨k, v⟩ := entry
    simp only [find?] at ih
    cases same : key == k with
    | true => simp [erase, find?, same]
    | false => simp [erase, find?, same, List.lookup_cons]

theorem find?_erase_of_ne (m : OrderedMap κ ν) {key other : κ} (ne : other ≠ key) :
    (m.erase key).find? other = m.find? other := by
  induction m with
  | nil => rfl
  | cons entry rest ih =>
    obtain ⟨k, v⟩ := entry
    simp only [find?] at ih
    cases same : key == k with
    | true =>
      have apart : (other == k) = false := by
        rw [← eq_of_beq same]
        exact beq_eq_false_iff_ne.mpr ne
      simpa [erase, find?, same, apart, List.lookup_cons] using ih
    | false =>
      rw [erase, List.filter_cons_of_pos (by simp [same]), find?, find?, List.lookup_cons,
        List.lookup_cons]
      cases other == k
      · exact ih
      · rfl

section MapValues

variable {κ ν μ : Type}

def mapValues (f : ν → μ) (m : OrderedMap κ ν) : OrderedMap κ μ :=
  m.map fun entry => (entry.1, f entry.2)

theorem mapValues_congr {f g : ν → μ} {m : OrderedMap κ ν}
    (same : ∀ entry ∈ m, f entry.2 = g entry.2) : m.mapValues f = m.mapValues g :=
  List.map_congr_left fun entry there => congrArg (entry.1, ·) (same entry there)

variable [BEq κ]

theorem find?_mapValues (f : ν → μ) (m : OrderedMap κ ν) (key : κ) :
    (m.mapValues f).find? key = (m.find? key).map f := by
  induction m with
  | nil => rfl
  | cons entry rest ih =>
    obtain ⟨k, v⟩ := entry
    simp only [find?, mapValues, List.map_cons, List.lookup_cons] at ih ⊢
    cases key == k
    · exact ih
    · rfl

theorem insert_mapValues (f : ν → μ) (m : OrderedMap κ ν) (key : κ) (value : ν) :
    (m.insert key value).mapValues f = (m.mapValues f).insert key (f value) := by
  induction m with
  | nil => rfl
  | cons entry rest ih =>
    obtain ⟨k, v⟩ := entry
    simp only [insert, mapValues, List.map_cons] at ih ⊢
    cases k == key
    · exact congrArg _ ih
    · rfl

theorem erase_mapValues (f : ν → μ) (m : OrderedMap κ ν) (key : κ) :
    (m.erase key).mapValues f = (m.mapValues f).erase key := by
  simp only [erase, mapValues, List.filter_map]
  rfl

end MapValues

end OrderedMap

theorem Instant.le_trans {a b c : Instant} (first : a ≤ b) (last : b ≤ c) : a ≤ c :=
  Nat.le_trans first last

theorem Instant.not_le {a b : Instant} : ¬ a ≤ b ↔ b < a := Nat.not_le

theorem Instant.not_lt {a b : Instant} : ¬ a < b ↔ b ≤ a := Nat.not_lt

namespace Snapshot

variable {ρ : Type}

theorem Entry.isExpired_iff {e : Entry ρ} {now : Instant} :
    e.isExpired now = true ↔ e.expires ≤ now := by
  simp [isExpired]

theorem Entry.isExpired_later {e : Entry ρ} {now later : Instant} (expired : e.isExpired now = true)
    (order : now ≤ later) : e.isExpired later = true :=
  isExpired_iff.mpr (Instant.le_trans (isExpired_iff.mp expired) order)

def Entry.map {σ : Type} (f : ρ → σ) (e : Entry ρ) : Entry σ := { e with result := f e.result }

theorem Entry.isExpired_map {σ : Type} (f : ρ → σ) (e : Entry ρ) (now : Instant) :
    (e.map f).isExpired now = e.isExpired now := rfl

namespace Store

def alive (s : Store ρ) (now : Instant) (key : Text) : Option (Entry ρ) :=
  (s.entries.find? key).filter fun e => !e.isExpired now

theorem lookup_fst (s : Store ρ) (now : Instant) (key : Text) :
    (s.lookup now key).1 = s.alive now key := by
  unfold lookup alive
  cases found : s.entries.find? key with
  | none => rfl
  | some e => by_cases expired : e.isExpired now <;> simp [Option.filter, expired]

@[simp]
theorem lifetime_lookup (s : Store ρ) (now : Instant) (key : Text) :
    (s.lookup now key).2.lifetime = s.lifetime := by
  unfold lookup
  split
  · rfl
  · split <;> rfl

theorem alive_lookup (s : Store ρ) {now later : Instant} (order : now ≤ later) (key other : Text) :
    (s.lookup now key).2.alive later other = s.alive later other := by
  unfold lookup
  cases found : s.entries.find? key with
  | none => rfl
  | some e =>
    by_cases expired : e.isExpired now
    · simp only [expired, if_true]
      by_cases same : other = key
      · subst same
        simp [alive, found, Option.filter, Entry.isExpired_later expired order]
      · simp [alive, OrderedMap.find?_erase_of_ne _ same]
    · simp [expired]

def map {σ : Type} (f : ρ → σ) (s : Store ρ) : Store σ :=
  ⟨s.lifetime, s.entries.mapValues (Entry.map f), s.nextSerial⟩

theorem lookup_map {σ : Type} (f : ρ → σ) (s : Store ρ) (now : Instant) (key : Text) :
    (s.map f).lookup now key =
      ((s.lookup now key).1.map (Entry.map f), (s.lookup now key).2.map f) := by
  simp only [lookup, map, OrderedMap.find?_mapValues]
  cases s.entries.find? key with
  | none => rfl
  | some e =>
    simp only [Option.map_some, Entry.isExpired_map]
    by_cases expired : e.isExpired now = true
    · simp only [expired, if_true, OrderedMap.erase_mapValues, Option.map_none]
    · simp only [expired, Bool.false_eq_true, if_false, Option.map_some]

theorem size_map {σ : Type} (f : ρ → σ) (s : Store ρ) : (s.map f).size = s.size := by
  simp [size, map, OrderedMap.mapValues]

theorem map_congr {σ : Type} {f g : ρ → σ} {s : Store ρ}
    (same : ∀ entry ∈ s.entries, f entry.2.result = g entry.2.result) : s.map f = s.map g := by
  have entries : s.entries.mapValues (Entry.map f) = s.entries.mapValues (Entry.map g) :=
    OrderedMap.mapValues_congr fun entry there => by
      simp only [Entry.map, same entry there]
  simp only [map, entries]

theorem keep_eq_ok_iff {s after : Store ρ} {now : Instant} {c : Content ρ} {e : Entry ρ} :
    s.keep now c none = .ok (e, after) ↔ ∃ expires, now.after s.lifetime = .ok expires ∧
      e = ⟨s.nextSerial, c.key, c.sql, c.result, c.source, now, expires⟩ ∧
      after = { s with entries := s.entries.insert c.key e, nextSerial := s.nextSerial + 1 } := by
  unfold keep
  cases ends : now.after s.lifetime with
  | error fault => simp [ends, Bind.bind, Except.bind]
  | ok expires =>
    simp only [Option.getD_none, ends, Bind.bind, Except.bind, Except.ok.injEq, Prod.mk.injEq,
      exists_eq_left']
    constructor
    · rintro ⟨rfl, rfl⟩
      exact ⟨rfl, rfl⟩
    · rintro ⟨rfl, rfl⟩
      exact ⟨rfl, rfl⟩

theorem alive_keep {s after : Store ρ} {now : Instant} {c : Content ρ} {e : Entry ρ}
    (kept : s.keep now c none = .ok (e, after)) (later : Instant) (key : Text) :
    after.alive later key =
      if key = c.key then (if e.isExpired later then none else some e) else s.alive later key := by
  obtain ⟨expires, _, rfl, rfl⟩ := keep_eq_ok_iff.mp kept
  split
  · rename_i same
    subst same
    simp only [alive, OrderedMap.find?_insert_self, Option.filter]
    split <;> simp_all
  · rename_i ne
    simp [alive, OrderedMap.find?_insert_of_ne _ _ ne]

end Store

end Snapshot

end QueryDesk
