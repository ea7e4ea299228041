import Mathlib.Data.ENat.Lattice
import QueryDesk.Proofs.Engine.Reading

namespace QueryDesk

namespace Cursor

structure Delivers (c : Cursor) (n : ℕ∞) : Prop where
  row : ∀ k : ℕ, k < n → ∃ cells, c.fetch k = .row cells
  last : ∀ k : ℕ, k = n → ∀ cells, c.fetch k ≠ .row cells

variable {c other : Cursor} {n : ℕ∞} {cap : ℕ} {rows : List (List Datum)}

theorem exists_delivers (c : Cursor) : ∃ n, c.Delivers n := by
  classical
  by_cases ends : ∃ k, ∀ cells, c.fetch k ≠ .row cells
  · refine ⟨(Nat.find ends : ℕ), fun k before => ?_, fun k same => ?_⟩
    · simpa using Nat.find_min ends (Nat.cast_lt.mp before)
    · rw [Nat.cast_inj.mp same]
      exact Nat.find_spec ends
  · refine ⟨⊤, fun k _ => ?_, fun k top => absurd top (ENat.natCast_ne_top k)⟩
    simpa using not_exists.mp ends k

theorem delivers_ofList (columns : List Datum) (rows : List (List Datum)) (last : Option EngineFault) :
    (ofList columns rows last).Delivers rows.length := by
  refine ⟨fun k before => ?_, fun k same cells => ?_⟩
  · simp only [ofList, List.getElem?_toArray, List.getElem?_eq_getElem (Nat.cast_lt.mp before)]
    exact ⟨_, rfl⟩
  · simp only [ofList, List.getElem?_toArray, List.getElem?_eq_none (Nat.cast_inj.mp same).ge]
    cases last <;> nofun

theorem Delivers.length_eq (delivers : c.Delivers n) (first : c.FirstRows cap rows) :
    (rows.length : ℕ∞) = min n cap := by
  have within : (rows.length : ℕ∞) ≤ n := by
    refine le_of_not_gt fun fewer => ?_
    lift n to ℕ using ne_top_of_lt fewer
    have there := List.getElem?_eq_getElem (Nat.cast_lt.mp fewer)
    exact delivers.last n rfl _ (first.row n _ there)
  rcases Nat.lt_or_eq_of_le first.bound with fewer | full
  · have all : n ≤ rows.length := by
      refine le_of_not_gt fun more => ?_
      obtain ⟨cells, given⟩ := delivers.row _ more
      exact first.last fewer cells given
    have short : n ≤ cap := all.trans (Nat.cast_le.mpr first.bound)
    rw [min_eq_left short, le_antisymm within all]
  · rw [full] at within ⊢
    rw [min_eq_right within]

theorem Delivers.more_iff (delivers : c.Delivers n) (first : c.FirstRows cap rows) :
    (∃ cells, c.fetch rows.length = .row cells) ↔ cap < n := by
  have length := delivers.length_eq first
  constructor
  · rintro ⟨cells, given⟩
    have full : rows.length = cap :=
      first.bound.antisymm (Nat.le_of_not_lt fun fewer => first.last fewer cells given)
    rw [full] at length given
    have enough : (cap : ℕ∞) ≤ n := length.trans_le (min_le_left n cap)
    exact enough.lt_of_ne fun same => delivers.last cap same cells given
  · intro more
    rw [min_eq_right more.le, Nat.cast_inj] at length
    rw [length]
    exact delivers.row cap more

/-- The fetch after the first rows fails exactly when all rows are among them and it is a failure
    that comes after the last one. -/
theorem Delivers.failed_iff (delivers : c.Delivers n) (first : c.FirstRows cap rows)
    {fault : EngineFault} : c.fetch rows.length = .failed fault ↔
      ∃ m : ℕ, n = m ∧ m ≤ cap ∧ c.fetch m = .failed fault := by
  have length := delivers.length_eq first
  constructor
  · intro failed
    have few : n ≤ cap := by
      refine le_of_not_gt fun more => ?_
      obtain ⟨cells, given⟩ := (delivers.more_iff first).mpr more
      cases failed.symm.trans given
    rw [min_eq_left few] at length
    exact ⟨rows.length, length.symm, first.bound, failed⟩
  · rintro ⟨m, rfl, few, failed⟩
    rw [min_eq_left (Nat.cast_le.mpr few), Nat.cast_inj] at length
    rwa [length]

theorem take_congr {count start : ℕ}
    (agree : ∀ k < count, other.fetch (start + k) = c.fetch (start + k)) :
    other.take count start = c.take count start := by
  induction count generalizing start with
  | zero => rfl
  | succ count ih =>
    have head : other.fetch start = c.fetch start := agree 0 (Nat.succ_pos count)
    have tail : other.take count (start + 1) = c.take count (start + 1) := by
      apply ih
      intro k within
      rw [Nat.add_assoc, Nat.add_comm 1 k]
      exact agree (k + 1) (Nat.succ_lt_succ within)
    simp only [take, head, tail]

end Cursor

theorem Reading.readUpTo_congr {c other : Cursor} {cap : ℕ} (columns : other.columns = c.columns)
    (agree : ∀ k < cap, other.fetch k = c.fetch k) (more : ∃ cells, c.fetch cap = .row cells)
    (others : ∃ cells, other.fetch cap = .row cells) : readUpTo other cap = readUpTo c cap := by
  obtain ⟨cells, given⟩ := more
  obtain ⟨cells', given'⟩ := others
  have taken : other.take cap 0 = c.take cap 0 := Cursor.take_congr (by simpa using agree)
  simp only [readUpTo, taken, columns, given, given']

end QueryDesk
