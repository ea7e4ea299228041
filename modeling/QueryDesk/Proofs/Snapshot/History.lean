import QueryDesk.Proofs.Snapshot.Store

namespace QueryDesk

namespace Snapshot

/-- A statement that was sent: its key, when it was sent, and the grid that was answered. -/
structure Execution where
  key : Text
  time : Instant
  grid : Grid

def Execution.isCurrent (lifetime : Seconds) (now : Instant) (e : Execution) : Bool :=
  match e.time.after lifetime with
  | .ok expires => now < expires
  | .error _ => false

def current? (lifetime : Seconds) (now : Instant) (executions : List Execution) (key : Text) :
    Option Execution :=
  (executions.find? fun e => e.key == key).filter (·.isCurrent lifetime now)

theorem current?_cons_self {lifetime : Seconds} {now : Instant} {e : Execution}
    {rest : List Execution} :
    current? lifetime now (e :: rest) e.key =
      if e.isCurrent lifetime now then some e else none := by
  simp [current?, Option.filter]

theorem current?_cons_of_ne {lifetime : Seconds} {now : Instant} {e : Execution}
    {rest : List Execution} {key : Text} (ne : key ≠ e.key) :
    current? lifetime now (e :: rest) key = current? lifetime now rest key := by
  have apart : (e.key == key) = false := beq_eq_false_iff_ne.mpr ne.symm
  simp [current?, apart]

namespace Store

def Remembers (s : Store Grid) (executions : List Execution) (now : Instant) : Prop :=
  ∀ later, now ≤ later → ∀ key,
    (s.alive later key).map (·.result) = (current? s.lifetime later executions key).map (·.grid)

variable {s after : Store Grid} {executions : List Execution} {now : Instant}

theorem remembers_ofLifetime (lifetime : Seconds) (now : Instant) :
    (ofLifetime lifetime).Remembers [] now :=
  fun _ _ _ => rfl

theorem Remembers.later {later : Instant} (remembers : s.Remembers executions now)
    (order : now ≤ later) : s.Remembers executions later :=
  fun latest ahead => remembers latest (Instant.le_trans order ahead)

theorem Remembers.lookup (remembers : s.Remembers executions now) (key : Text) :
    (s.lookup now key).2.Remembers executions now := by
  intro later order other
  rw [alive_lookup s order, lifetime_lookup]
  exact remembers later order other

theorem Remembers.keep (remembers : s.Remembers executions now) {c : Content Grid} {e : Entry Grid}
    (kept : s.keep now c none = .ok (e, after)) :
    after.Remembers (⟨c.key, now, c.result⟩ :: executions) now := by
  obtain ⟨expires, ends, rfl, rfl⟩ := keep_eq_ok_iff.mp kept
  intro later order key
  rw [alive_keep kept later key]
  by_cases same : key = c.key
  · have current : (Execution.mk c.key now c.result).isCurrent s.lifetime later =
        !decide (expires ≤ later) := by
      simp only [Execution.isCurrent, ends]
      by_cases ended : expires ≤ later
      · simp [ended, Instant.not_lt.mpr ended]
      · simp [ended, Instant.not_le.mp ended]
    subst same
    rw [if_pos rfl, current?_cons_self, current]
    by_cases ended : expires ≤ later <;> simp [Entry.isExpired, ended]
  · rw [if_neg same, current?_cons_of_ne same]
    exact remembers later order key

end Store

end Snapshot

end QueryDesk
