import QueryDesk.Grid.Basic
import QueryDesk.Proofs.Text.Padded
import QueryDesk.Proofs.Time.Calendar

namespace QueryDesk

open Text

section Dates

variable (d e : Date) {r s : Text}

theorem Date.year_lt : d.year < Nat.pow 10 4 :=
  Nat.lt_of_le_of_lt d.valid.1.2 (by decide)

theorem Date.month_lt : d.month < Nat.pow 10 2 :=
  Nat.lt_of_le_of_lt d.valid.2.1.2 (by decide)

theorem Date.day_lt : d.day < Nat.pow 10 2 :=
  Nat.lt_of_le_of_lt (Nat.le_trans d.valid.2.2.2 (daysInMonth_le _ _)) (by decide)

theorem Date.toText_append_eq : d.toText ++ r = padded 4 d.year ++
    (ofString "-" ++ (padded 2 d.month ++ (ofString "-" ++ (padded 2 d.day ++ r)))) := by
  simp only [Date.toText, dateText, List.append_assoc]

theorem Date.eq_iff : d = e ↔ d.year = e.year ∧ d.month = e.month ∧ d.day = e.day := by
  cases d
  cases e
  exact Iff.of_eq (Date.mk.injEq ..)

theorem Date.append_eq_append_iff : d.toText ++ r = e.toText ++ s ↔ d = e ∧ r = s := by
  rw [toText_append_eq, toText_append_eq, padded_append_eq_iff d.year_lt e.year_lt,
    List.append_cancel_left_eq, padded_append_eq_iff d.month_lt e.month_lt,
    List.append_cancel_left_eq, padded_append_eq_iff d.day_lt e.day_lt, eq_iff]
  simp only [and_assoc]

theorem Date.append_precedes_append_iff : Precedes (d.toText ++ r) (e.toText ++ s) ↔
    d.dayNumber < e.dayNumber ∨ d = e ∧ r.Precedes s := by
  rw [toText_append_eq, toText_append_eq, padded_append_precedes_iff d.year_lt e.year_lt,
    append_precedes_append_left_iff, padded_append_precedes_iff d.month_lt e.month_lt,
    append_precedes_append_left_iff, padded_append_precedes_iff d.day_lt e.day_lt,
    dayNumber_lt_iff, eq_iff]
  simp only [and_or_left, or_assoc, and_assoc]

end Dates

theorem sixty_lt {n : Nat} (below : n < 60) : n < Nat.pow 10 2 := Nat.lt_trans below (by decide)

section Fractions

variable {a b : Nat} (first : a < Nat.pow 10 6) (second : b < Nat.pow 10 6)

include first second

theorem fractionText_precedes_iff : (fractionText a).Precedes (fractionText b) ↔ a < b := by
  -- A fraction that is left out is zero, and its text precedes those of all others as the empty one.
  unfold fractionText
  split
  · split
    · simp [*, not_precedes_nil]
    · simp [*, nil_precedes_cons, Nat.pos_iff_ne_zero]
  · split
    · simp [*, not_precedes_nil]
    · rw [cons_precedes_cons_iff, padded_precedes_padded_iff first second]
      simp

theorem fractionText_append_cancel {r s : Text} (after : Leaves (· == '.') r)
    (last : Leaves (· == '.') s) (same : fractionText a ++ r = fractionText b ++ s) :
    a = b ∧ r = s := by
  have point (t u : Text) (left : Leaves (· == '.') t) : t ≠ .scalar '.' :: u := by
    rintro rfl
    exact absurd (left _ rfl) (by decide)
  unfold fractionText at same
  split at same
  · split at same
    · exact ⟨by omega, same⟩
    · exact absurd same (point _ _ after)
  · split at same
    · exact absurd same.symm (point _ _ last)
    · exact (padded_append_eq_iff first second).mp (List.cons.inj same).2

end Fractions

namespace TimeOfDay

variable (t u : TimeOfDay) {r s : Text}

def clock : Text := clockText t.hour t.minute t.second t.micro

def zone : Text := t.offset.elim [] UtcOffset.toText

theorem toText_eq : t.toText = t.clock ++ t.zone := rfl

theorem hour_lt : t.hour.val < Nat.pow 10 2 := Nat.lt_trans t.hour.isLt (by decide)

theorem clock_append_eq : t.clock ++ r = padded 2 t.hour ++ (ofString ":" ++ (padded 2 t.minute ++
    (ofString ":" ++ (padded 2 t.second ++ (fractionText t.micro ++ r))))) := by
  simp only [clock, clockText, List.append_assoc]

theorem clock_precedes_clock_iff : t.clock.Precedes u.clock ↔ t.clockMicros < u.clockMicros := by
  rw [← List.append_nil t.clock, ← List.append_nil u.clock, clock_append_eq, clock_append_eq,
    List.append_nil, List.append_nil, padded_append_precedes_iff t.hour_lt u.hour_lt,
    append_precedes_append_left_iff,
    padded_append_precedes_iff (sixty_lt t.minute.isLt) (sixty_lt u.minute.isLt),
    append_precedes_append_left_iff,
    padded_append_precedes_iff (sixty_lt t.second.isLt) (sixty_lt u.second.isLt),
    fractionText_precedes_iff t.micro.isLt u.micro.isLt, clockMicros_lt_iff]

variable {t u} in
theorem clock_append_cancel (after : Leaves (· == '.') r) (last : Leaves (· == '.') s)
    (same : t.clock ++ r = u.clock ++ s) :
    (t.hour = u.hour ∧ t.minute = u.minute ∧ t.second = u.second ∧ t.micro = u.micro) ∧ r = s := by
  rw [clock_append_eq, clock_append_eq, padded_append_eq_iff t.hour_lt u.hour_lt,
    List.append_cancel_left_eq,
    padded_append_eq_iff (sixty_lt t.minute.isLt) (sixty_lt u.minute.isLt),
    List.append_cancel_left_eq,
    padded_append_eq_iff (sixty_lt t.second.isLt) (sixty_lt u.second.isLt)] at same
  obtain ⟨hour, minute, second, fraction⟩ := same
  obtain ⟨micro, rest⟩ := fractionText_append_cancel t.micro.isLt u.micro.isLt after last fraction
  exact ⟨⟨Fin.ext hour, Fin.ext minute, Fin.ext second, Fin.ext micro⟩, rest⟩

end TimeOfDay

namespace UtcOffset

def tail (second micro : Nat) : Text :=
  if second = 0 ∧ micro = 0 then [] else .scalar ':' :: (padded 2 second ++ fractionText micro)

theorem tail_injective {a b m n : Nat} (first : a < 60 ∧ m < Nat.pow 10 6)
    (second : b < 60 ∧ n < Nat.pow 10 6) (same : tail a m = tail b n) : a = b ∧ m = n := by
  unfold tail at same
  split at same
  · split at same
    · omega
    · cases same
  · split at same
    · cases same
    · obtain ⟨seconds, fraction⟩ := (padded_append_eq_iff (sixty_lt first.1)
        (sixty_lt second.1)).mp (List.cons.inj same).2
      rw [← List.append_nil (fractionText m), ← List.append_nil (fractionText n)] at fraction
      exact ⟨seconds,
        (fractionText_append_cancel first.2 second.2 leaves_nil leaves_nil fraction).1⟩

variable {o p : UtcOffset}

theorem toText_eq (o : UtcOffset) : o.toText = .scalar (if o.micros < 0 then '-' else '+') ::
    (padded 2 (o.micros.natAbs / 1000000 / 3600) ++ (ofString ":" ++
      (padded 2 (o.micros.natAbs / 1000000 / 60 % 60) ++
        tail (o.micros.natAbs / 1000000 % 60) (o.micros.natAbs % 1000000)))) := by
  simp only [toText, tail, List.append_assoc, List.cons_append]

theorem hours_lt (o : UtcOffset) : o.micros.natAbs / 1000000 / 3600 < Nat.pow 10 2 := by
  have valid := o.valid
  unfold microsPerDay at valid
  have hours : o.micros.natAbs / 1000000 / 3600 < 24 := by omega
  exact Nat.lt_trans hours (by decide)

theorem fraction_lt (o : UtcOffset) : o.micros.natAbs % 1000000 < Nat.pow 10 6 :=
  Nat.mod_lt _ (by decide)

theorem toText_injective (same : o.toText = p.toText) : o = p := by
  rw [toText_eq, toText_eq, List.cons.injEq, padded_append_eq_iff o.hours_lt p.hours_lt,
    List.append_cancel_left_eq,
    padded_append_eq_iff (sixty_lt (Nat.mod_lt _ (by decide)))
      (sixty_lt (Nat.mod_lt _ (by decide)))] at same
  obtain ⟨signs, hours, minutes, rest⟩ := same
  obtain ⟨seconds, fraction⟩ := tail_injective ⟨Nat.mod_lt _ (by decide), o.fraction_lt⟩
    ⟨Nat.mod_lt _ (by decide), p.fraction_lt⟩ rest
  have size : o.micros.natAbs = p.micros.natAbs := by omega
  have sign : o.micros < 0 ↔ p.micros < 0 := by
    by_cases first : o.micros < 0 <;> by_cases second : p.micros < 0 <;>
      simp [first, second] at signs ⊢
  have micros : o.micros = p.micros := by omega
  cases o
  cases p
  exact (UtcOffset.mk.injEq ..).mpr micros

end UtcOffset

namespace TimeOfDay

variable {t u : TimeOfDay}

theorem leaves_zone (t : TimeOfDay) : Leaves (· == '.') t.zone := by
  unfold zone
  cases t.offset with
  | none => exact leaves_nil
  | some o =>
    refine leaves_cons ?_
    split <;> decide

theorem zone_injective (same : t.zone = u.zone) : t.offset = u.offset := by
  unfold zone at same
  cases first : t.offset with
  | none =>
    cases second : u.offset with
    | none => rfl
    | some p =>
      rw [first, second] at same
      cases same
  | some o =>
    cases second : u.offset with
    | none =>
      rw [first, second] at same
      cases same
    | some p =>
      rw [first, second] at same
      exact congrArg some (UtcOffset.toText_injective same)

theorem toText_injective (same : t.toText = u.toText) : t = u := by
  obtain ⟨⟨hour, minute, second, micro⟩, zones⟩ :=
    clock_append_cancel t.leaves_zone u.leaves_zone same
  have offset := zone_injective zones
  cases t
  cases u
  exact (TimeOfDay.mk.injEq ..).mpr ⟨hour, minute, second, micro, offset⟩

theorem toText_of_unzoned (unzoned : t.offset = none) : t.toText = t.clock := by
  rw [toText_eq, zone, unzoned]
  exact List.append_nil _

theorem date_append_ne (d : Date) (t : TimeOfDay) (r : Text) : d.toText ++ r ≠ t.toText := by
  intro same
  rw [toText_eq, clock_append_eq, Date.toText_append_eq] at same
  -- The first digits of a date end at a dash, those of a time at a colon.
  have dash (rest : Text) : Leaves Char.isDigit (ofString "-" ++ rest) :=
    leaves_cons (p := .scalar '-') (by decide)
  have colon (rest : Text) : Leaves Char.isDigit (ofString ":" ++ rest) :=
    leaves_cons (p := .scalar ':') (by decide)
  have signs := (append_cancel (isDigit_padded _ _) (isDigit_padded _ _) (dash _) (colon _) same).2
  exact absurd (List.cons.inj signs).1 (by decide)

end TimeOfDay

theorem Date.toText_injective {d e : Date} (same : d.toText = e.toText) : d = e :=
  ((d.append_eq_append_iff e).mp (congrArg (· ++ []) same)).1

theorem Date.toText_precedes_iff (d e : Date) :
    d.toText.Precedes e.toText ↔ d.dayNumber < e.dayNumber := by
  have alone := d.append_precedes_append_iff e (r := []) (s := [])
  rw [List.append_nil, List.append_nil] at alone
  simp [alone, not_precedes_nil]

namespace Moment

variable {m n : Moment}

theorem toText_eq (m : Moment) : m.toText = m.date.toText ++ (ofString "T" ++ m.time.toText) :=
  List.append_assoc ..

theorem toText_injective (same : m.toText = n.toText) : m = n := by
  rw [toText_eq, toText_eq, Date.append_eq_append_iff, List.append_cancel_left_eq] at same
  obtain ⟨date, time⟩ := same
  cases m
  cases n
  exact (Moment.mk.injEq ..).mpr ⟨date, TimeOfDay.toText_injective time⟩

theorem toText_precedes_iff (first : m.time.offset = none) (second : n.time.offset = none) :
    m.toText.Precedes n.toText ↔ m.micros < n.micros := by
  have day : m.date = n.date ↔ m.date.dayNumber = n.date.dayNumber :=
    ⟨congrArg _, Date.dayNumber_injective⟩
  rw [toText_eq, toText_eq, Date.append_precedes_append_iff, append_precedes_append_left_iff,
    TimeOfDay.toText_of_unzoned first, TimeOfDay.toText_of_unzoned second,
    TimeOfDay.clock_precedes_clock_iff, micros_lt_iff first second, day]

end Moment

namespace Datum

inductive IsTemporal : Datum → Prop
  | date (d : Date) : IsTemporal (.date d)
  | time (t : TimeOfDay) : IsTemporal (.time t)
  | timestamp (d : Date) (t : TimeOfDay) : IsTemporal (.timestamp d t)

def ShownAs (cell : Datum) (t : Text) : Prop := Value.ofCell cell = .ok (.text t)

def isoText : Datum → Text
  | .date d => d.toText
  | .time t => t.toText
  | .timestamp d t => timestampText d t
  | _ => []

variable {a b : Datum}

theorem IsTemporal.shown (temporal : a.IsTemporal) : a.ShownAs a.isoText := by
  cases temporal <;> rfl

theorem date_ne_timestamp (d e : Date) (t : TimeOfDay) : d.toText ≠ timestampText e t := by
  intro same
  have split := (List.append_nil _).trans (same.trans (Moment.toText_eq ⟨e, t⟩))
  cases ((d.append_eq_append_iff e).mp split).2

theorem date_ne_time (d : Date) (t : TimeOfDay) : d.toText ≠ t.toText :=
  fun same => TimeOfDay.date_append_ne d t [] ((List.append_nil _).trans same)

theorem timestamp_ne_time (d : Date) (t u : TimeOfDay) : timestampText d t ≠ u.toText :=
  fun same => TimeOfDay.date_append_ne d u _ ((Moment.toText_eq ⟨d, t⟩).symm.trans same)

theorem isoText_injective (first : a.IsTemporal) (second : b.IsTemporal)
    (same : a.isoText = b.isoText) : a = b := by
  cases first with
  | date d =>
    cases second with
    | date e => exact congrArg Datum.date (Date.toText_injective same)
    | time u => exact absurd same (date_ne_time d u)
    | timestamp e u => exact absurd same (date_ne_timestamp d e u)
  | time t =>
    cases second with
    | date e => exact absurd same.symm (date_ne_time e t)
    | time u => exact congrArg Datum.time (TimeOfDay.toText_injective same)
    | timestamp e u => exact absurd same.symm (timestamp_ne_time e u t)
  | timestamp d t =>
    cases second with
    | date e => exact absurd same.symm (date_ne_timestamp e d t)
    | time u => exact absurd same (timestamp_ne_time d t u)
    | timestamp e u =>
      have moments := @Moment.toText_injective ⟨d, t⟩ ⟨e, u⟩ same
      exact congrArg (fun m : Moment => Datum.timestamp m.date m.time) moments

/-- Temporal cells are shown as texts that are the same only for cells of one kind with the same fields
    and the same distance from universal time. By code points, the texts of dates are in the order of
    the days, and those of timestamps whose distance from universal time is not known in the order of
    the microseconds, whether they have fractions or not. -/
theorem temporal_told_by_text :
    (∀ a b : Datum, a.IsTemporal → b.IsTemporal →
      ∃ t u, a.ShownAs t ∧ b.ShownAs u ∧ (t = u ↔ a = b)) ∧
    (∀ d e : Date, ∃ t u, ShownAs (.date d) t ∧ ShownAs (.date e) u ∧
      (t.Precedes u ↔ d.dayNumber < e.dayNumber)) ∧
    ∀ m n : Moment, m.time.offset = none → n.time.offset = none →
      ∃ t u, ShownAs (.timestamp m.date m.time) t ∧ ShownAs (.timestamp n.date n.time) u ∧
        (t.Precedes u ↔ m.micros < n.micros) := by
  refine ⟨fun a b first second => ?_, fun d e => ?_, fun m n first second => ?_⟩
  · have one : a.isoText = b.isoText ↔ a = b :=
      ⟨isoText_injective first second, congrArg _⟩
    exact ⟨_, _, first.shown, second.shown, one⟩
  · exact ⟨_, _, (IsTemporal.date d).shown, (IsTemporal.date e).shown, d.toText_precedes_iff e⟩
  · exact ⟨_, _, (IsTemporal.timestamp m.date m.time).shown,
      (IsTemporal.timestamp n.date n.time).shown, Moment.toText_precedes_iff first second⟩

/-- The last second of a leap day precedes the microsecond after it, although its text is the start of
    the other one; and a time that is a microsecond from universal time is not shown as one for which
    no distance is known. -/
theorem temporal_told_by_text_fraction :
    (∃ t u, ShownAs (.timestamp ⟨2024, 2, 29, by decide⟩ ⟨23, 59, 59, 0, none⟩) t ∧
      ShownAs (.timestamp ⟨2024, 2, 29, by decide⟩ ⟨23, 59, 59, 1, none⟩) u ∧ t.Precedes u) ∧
    ∃ t u, ShownAs (.time ⟨12, 0, 0, 0, some ⟨-1, by decide⟩⟩) t ∧
      ShownAs (.time ⟨12, 0, 0, 0, none⟩) u ∧ t ≠ u := by
  obtain ⟨told, -, ordered⟩ := temporal_told_by_text
  obtain ⟨t, u, first, second, order⟩ := ordered
    ⟨⟨2024, 2, 29, by decide⟩, ⟨23, 59, 59, 0, none⟩⟩
    ⟨⟨2024, 2, 29, by decide⟩, ⟨23, 59, 59, 1, none⟩⟩ rfl rfl
  obtain ⟨v, w, third, fourth, same⟩ := told
    (.time ⟨12, 0, 0, 0, some ⟨-1, by decide⟩⟩) (.time ⟨12, 0, 0, 0, none⟩) (.time _) (.time _)
  exact ⟨⟨t, u, first, second, order.mpr (by decide)⟩,
    ⟨v, w, third, fourth, fun one => by cases same.mp one⟩⟩

end Datum

end QueryDesk
