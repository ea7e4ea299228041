import QueryDesk.Proofs.Outcome
import QueryDesk.Time.Instant

namespace QueryDesk

theorem Seconds.micros_of_lifetime {s : Seconds} {micros : Int} (lasts : s.lifetime = .ok micros) :
    s.micros = .ok micros := by
  obtain ⟨given, scaled, bounded⟩ := bind_eq_ok.mp lasts
  simp only at bounded
  split at bounded
  · cases bounded
  · split at bounded
    · cases bounded
    · cases bounded
      exact scaled

namespace Instant

variable {i j : Instant}

theorem shift_eq_ok_iff {micros : Int} :
    i.shift micros = .ok j ↔ (j.micros : Int) = i.micros + micros := by
  obtain ⟨m, valid⟩ := j
  unfold shift
  simp only
  split
  · rename_i inside
    simp only [Except.ok.injEq, Instant.mk.injEq]
    omega
  · rename_i outside
    refine iff_of_false (by simp) ?_
    omega

theorem micros_of_after {s : Seconds} (sum : i.after s = .ok j) :
    ∃ micros, s.micros = .ok micros ∧ (j.micros : Int) = i.micros + micros := by
  obtain ⟨micros, lasts, shifted⟩ := bind_eq_ok.mp sum
  exact ⟨micros, Seconds.micros_of_lifetime lasts, shift_eq_ok_iff.mp shifted⟩

theorem after_whole_iff {n : Int} :
    i.after (.whole n) = .ok j ↔ (j.micros : Int) = i.micros + n * 1000000 := by
  constructor
  · intro sum
    obtain ⟨micros, scaled, apart⟩ := micros_of_after sum
    cases scaled
    exact apart
  · intro apart
    have lasts : Seconds.lifetime (.whole n) = .ok (n * 1000000) := by
      have first := i.valid
      have last := j.valid
      simp only [daysOfCalendar, microsPerDay] at first last
      have days : (n * 1000000).fdiv microsPerDay = n * 1000000 / 86400000000 :=
        Int.fdiv_eq_ediv_of_nonneg _ (by simp [microsPerDay])
      simp only [Seconds.lifetime, Seconds.micros, Bind.bind, Except.bind, days]
      rw [if_neg (by omega), if_neg (by omega)]
    exact bind_eq_ok.mpr ⟨_, lasts, shift_eq_ok_iff.mpr apart⟩

theorem le_after {s : Seconds} (forward : ∀ micros, s.micros = .ok micros → 0 ≤ micros)
    (sum : i.after s = .ok j) : i ≤ j := by
  obtain ⟨micros, scaled, apart⟩ := micros_of_after sum
  have ahead := forward micros scaled
  change i.micros ≤ j.micros
  omega

end Instant

end QueryDesk
