import Mathlib.Data.Nat.Init
import QueryDesk.Datum.Key
import QueryDesk.Time.Moment

namespace QueryDesk

/-- Counts that are made of the start of a block and a rest that lies inside of it are ordered by the
    blocks first. -/
theorem block_lt_block_iff {start size : Nat → Nat} {a b r s : Nat}
    (forth : a < b → start a + size a ≤ start b) (back : b < a → start b + size b ≤ start a)
    (first : r < size a) (second : s < size b) :
    start a + r < start b + s ↔ a < b ∨ a = b ∧ r < s := by
  rcases Nat.lt_trichotomy a b with less | rfl | greater
  · have border := forth less
    omega
  · omega
  · have border := back greater
    omega

/-- Where each block, from the first on, ends at the start of the next, all later blocks start there or
    after it. -/
theorem block_le_start {start size : Nat → Nat}
    (next : ∀ {a : Nat}, 1 ≤ a → start (a + 1) = start a + size a) {a b : Nat} (counted : 1 ≤ a)
    (less : a < b) : start a + size a ≤ start b := by
  induction b, less using Nat.le_induction with
  | base => exact Nat.le_of_eq (next counted).symm
  | succ b after ih =>
    rw [next (Nat.le_of_lt (Nat.lt_of_le_of_lt counted after))]
    exact Nat.le_add_right_of_le ih

section Year

def daysInYear (year : Nat) : Nat := if isLeapYear year then 366 else 365

def daysBeforeYear (year : Nat) : Nat :=
  365 * (year - 1) + (year - 1) / 4 - (year - 1) / 100 + (year - 1) / 400

theorem isLeapYear_iff {year : Nat} :
    isLeapYear year = true ↔ 4 ∣ year ∧ (¬ 100 ∣ year ∨ 400 ∣ year) := by
  simp [isLeapYear, Nat.dvd_iff_mod_eq_zero]

theorem daysBeforeYear_succ {year : Nat} (counted : 1 ≤ year) :
    daysBeforeYear (year + 1) = daysBeforeYear year + daysInYear year := by
  obtain ⟨passed, rfl⟩ := Nat.exists_eq_add_of_le' counted
  have fewer : passed / 100 ≤ passed / 4 := Nat.div_le_div_left (by decide) (by decide)
  simp only [daysBeforeYear, daysInYear, isLeapYear_iff, Nat.add_sub_cancel, Nat.succ_div]
  -- A leap day is added every 4 years, taken back every 100 years, and given again every 400.
  by_cases four : 4 ∣ passed + 1
  · by_cases hundred : 100 ∣ passed + 1
    · by_cases cycle : 400 ∣ passed + 1
      · simp only [four, hundred, cycle, not_true_eq_false, or_true, and_true, if_true]
        omega
      · simp only [four, hundred, cycle, not_true_eq_false, or_false, and_false, if_true, if_false]
        omega
    · have ordinary : ¬ 400 ∣ passed + 1 := fun cycle => hundred (Nat.dvd_trans (by decide) cycle)
      simp only [four, hundred, ordinary, not_false_eq_true, or_false, and_true, if_true, if_false]
      omega
  · have apart : ¬ 100 ∣ passed + 1 := fun hundred => four (Nat.dvd_trans (by decide) hundred)
    have ordinary : ¬ 400 ∣ passed + 1 := fun cycle => four (Nat.dvd_trans (by decide) cycle)
    simp only [four, apart, ordinary, false_and, if_false]
    omega

theorem daysBeforeYear_le {year later : Nat} (counted : 1 ≤ year) (less : year < later) :
    daysBeforeYear year + daysInYear year ≤ daysBeforeYear later :=
  block_le_start daysBeforeYear_succ counted less

theorem daysInMonth_le (year month : Nat) : daysInMonth year month ≤ 31 := by
  unfold daysInMonth
  split
  · split <;> decide
  · split <;> decide

theorem daysBeforeMonth_succ (year : Nat) {month : Nat} (counted : 1 ≤ month) :
    daysBeforeMonth year (month + 1) = daysBeforeMonth year month + daysInMonth year month := by
  obtain ⟨before, rfl⟩ := Nat.exists_eq_add_of_le' counted
  rfl

theorem daysBeforeMonth_le (year : Nat) {month later : Nat} (counted : 1 ≤ month)
    (less : month < later) :
    daysBeforeMonth year month + daysInMonth year month ≤ daysBeforeMonth year later :=
  block_le_start (daysBeforeMonth_succ year) counted less

theorem daysBeforeMonth_thirteen (year : Nat) : daysBeforeMonth year 13 = daysInYear year := by
  cases leap : isLeapYear year <;> simp [daysBeforeMonth, daysInMonth, daysInYear, leap]

end Year

namespace Date

variable (d e : Date)

def dayOfYear : Nat := daysBeforeMonth d.year d.month + (d.day - 1)

theorem dayNumber_eq : d.dayNumber = daysBeforeYear d.year + d.dayOfYear := by
  simp only [dayNumber, daysBeforeYear, dayOfYear, Nat.add_assoc]

theorem dayOfYear_lt : d.dayOfYear < daysInYear d.year := by
  obtain ⟨-, ⟨first, last⟩, start, stop⟩ := d.valid
  have border := daysBeforeMonth_le d.year first (Nat.lt_of_le_of_lt last (by decide : 12 < 13))
  rw [daysBeforeMonth_thirteen] at border
  unfold dayOfYear
  omega

theorem dayNumber_lt_iff : d.dayNumber < e.dayNumber ↔
    d.year < e.year ∨ d.year = e.year ∧ (d.month < e.month ∨ d.month = e.month ∧ d.day < e.day) := by
  obtain ⟨⟨year, -⟩, ⟨month, -⟩, day, last⟩ := d.valid
  obtain ⟨⟨year', -⟩, ⟨month', -⟩, day', last'⟩ := e.valid
  rw [dayNumber_eq, dayNumber_eq, block_lt_block_iff (daysBeforeYear_le year)
    (daysBeforeYear_le year') d.dayOfYear_lt e.dayOfYear_lt]
  refine or_congr_right (and_congr_right fun same => ?_)
  unfold dayOfYear
  rw [← same] at last' ⊢
  rw [block_lt_block_iff (daysBeforeMonth_le d.year month) (daysBeforeMonth_le d.year month')
    (Nat.lt_of_lt_of_le (Nat.sub_lt day Nat.one_pos) last)
    (Nat.lt_of_lt_of_le (Nat.sub_lt day' Nat.one_pos) last')]
  omega

theorem dayNumber_injective {d e : Date} (same : d.dayNumber = e.dayNumber) : d = e := by
  have before := d.dayNumber_lt_iff e
  have after := e.dayNumber_lt_iff d
  have fields : d.year = e.year ∧ d.month = e.month ∧ d.day = e.day := by omega
  cases d
  cases e
  simp_all

end Date

namespace TimeOfDay

variable (t u : TimeOfDay)

def clockMicros : Nat :=
  ((t.hour.val * 60 + t.minute.val) * 60 + t.second.val) * 1000000 + t.micro.val

theorem clockMicros_lt : t.clockMicros < microsPerDay := by
  have hour := t.hour.isLt
  have minute := t.minute.isLt
  have second := t.second.isLt
  have micro := t.micro.isLt
  unfold clockMicros microsPerDay
  omega

theorem clockMicros_lt_iff : t.clockMicros < u.clockMicros ↔
    t.hour.val < u.hour.val ∨ t.hour.val = u.hour.val ∧
      (t.minute.val < u.minute.val ∨ t.minute.val = u.minute.val ∧
        (t.second.val < u.second.val ∨ t.second.val = u.second.val ∧ t.micro.val < u.micro.val)) := by
  have minute := t.minute.isLt
  have second := t.second.isLt
  have micro := t.micro.isLt
  have minute' := u.minute.isLt
  have second' := u.second.isLt
  have micro' := u.micro.isLt
  unfold clockMicros
  omega

end TimeOfDay

namespace Moment

variable {m n : Moment}

/-- The microseconds from the start of the year 1, in universal time if the distance from it is
    known. -/
def micros (m : Moment) : Int := (m.date.dayNumber : Int) * microsPerDay + Key.timeMicros m.time

theorem micros_eq (unzoned : m.time.offset = none) :
    m.micros = (m.date.dayNumber * microsPerDay + m.time.clockMicros : Nat) := by
  rw [micros, Key.timeMicros, unzoned, TimeOfDay.clockMicros]
  simp only [Option.elim_none, Int.sub_zero, Int.natCast_add, Int.natCast_mul, Int.cast_ofNat_Int]

theorem micros_lt_iff (first : m.time.offset = none) (second : n.time.offset = none) :
    m.micros < n.micros ↔ m.date.dayNumber < n.date.dayNumber ∨
      m.date.dayNumber = n.date.dayNumber ∧ m.time.clockMicros < n.time.clockMicros := by
  have later (a b : Nat) (less : a < b) : a * microsPerDay + microsPerDay ≤ b * microsPerDay := by
    rw [← Nat.succ_mul]
    exact Nat.mul_le_mul_right _ less
  rw [micros_eq first, micros_eq second, Int.ofNat_lt]
  exact @block_lt_block_iff (· * microsPerDay) (fun _ => microsPerDay) _ _ _ _ (later _ _)
    (later _ _) m.time.clockMicros_lt n.time.clockMicros_lt

end Moment

end QueryDesk
