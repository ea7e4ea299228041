import QueryDesk.Proofs.Outcome
import QueryDesk.Proofs.Snapshot.Store

namespace QueryDesk

namespace Snapshot

/-- A statement that was sent for a result to keep: its key, when it was sent, and whether there was a
    result. -/
structure Sending where
  key : Text
  time : Instant
  answered : Bool

namespace Sending

def expires? (lifetime : Seconds) (e : Sending) : Option Instant :=
  if e.answered then (e.time.after lifetime).toOption else none

/-- When the result of the latest statement with a key expires, if there was one; the statements are
    given latest first. -/
def latest? (lifetime : Seconds) (sendings : List Sending) (key : Text) : Option Instant :=
  (sendings.find? fun e => e.key == key).bind (expires? lifetime)

variable {lifetime : Seconds} {e : Sending} {rest : List Sending} {key : Text}

theorem latest?_cons_self : latest? lifetime (e :: rest) e.key = e.expires? lifetime := by
  simp [latest?]

theorem latest?_cons_of_ne (ne : key ≠ e.key) :
    latest? lifetime (e :: rest) key = latest? lifetime rest key := by
  have apart : (e.key == key) = false := beq_eq_false_iff_ne.mpr ne.symm
  simp [latest?, apart]

end Sending

namespace Store

structure Tallies (s : Store Grid) (lifetime : Seconds) (sendings : List Sending) : Prop where
  lifetime_eq : s.lifetime = lifetime
  expires_eq : ∀ key, (s.entries.find? key).map (·.expires) = Sending.latest? lifetime sendings key

variable {s after : Store Grid} {lifetime : Seconds} {sendings : List Sending} {now : Instant}
  {key other : Text} {e : Entry Grid}

theorem tallies_ofLifetime (lifetime : Seconds) : (ofLifetime lifetime).Tallies lifetime [] :=
  ⟨rfl, fun _ => rfl⟩

theorem lookup_snd_of_some (found : (s.lookup now key).1 = some e) : (s.lookup now key).2 = s := by
  unfold lookup at found ⊢
  cases there : s.entries.find? key with
  | none => rfl
  | some entry =>
    simp only [there] at found ⊢
    split at found
    · cases found
    · rename_i current
      rw [if_neg current]

theorem find?_lookup_of_none (absent : (s.lookup now key).1 = none) :
    (s.lookup now key).2.entries.find? key = none := by
  unfold lookup at absent ⊢
  cases there : s.entries.find? key with
  | none => exact there
  | some entry =>
    simp only [there] at absent ⊢
    split at absent
    · rename_i expired
      rw [if_pos expired]
      exact OrderedMap.find?_erase_self _ _
    · cases absent

theorem find?_lookup_of_ne (ne : other ≠ key) :
    (s.lookup now key).2.entries.find? other = s.entries.find? other := by
  unfold lookup
  split
  · rfl
  · split
    · exact OrderedMap.find?_erase_of_ne _ ne
    · rfl

theorem Tallies.isSome_lookup (tallies : s.Tallies lifetime sendings) (now : Instant) (key : Text) :
    (s.lookup now key).1.isSome = (Sending.latest? lifetime sendings key).any (now < ·) := by
  rw [lookup_fst, ← tallies.expires_eq, alive]
  cases s.entries.find? key with
  | none => rfl
  | some entry =>
    by_cases expired : entry.expires ≤ now
    · simp [Option.filter, Entry.isExpired, expired, Instant.not_lt.mpr expired]
    · simp [Option.filter, Entry.isExpired, expired, Instant.not_le.mp expired]

theorem Tallies.unanswered (tallies : s.Tallies lifetime sendings)
    (absent : (s.lookup now key).1 = none) (time : Instant) :
    (s.lookup now key).2.Tallies lifetime (⟨key, time, false⟩ :: sendings) := by
  refine ⟨(lifetime_lookup s now key).trans tallies.lifetime_eq, fun other => ?_⟩
  by_cases same : other = key
  · subst same
    have latest : Sending.latest? lifetime (⟨other, time, false⟩ :: sendings) other = none :=
      Sending.latest?_cons_self
    rw [find?_lookup_of_none absent, latest]
    rfl
  · rw [find?_lookup_of_ne same, Sending.latest?_cons_of_ne same]
    exact tallies.expires_eq other

theorem Tallies.answered (tallies : s.Tallies lifetime sendings) {c : Content Grid} {time : Instant}
    (kept : (s.lookup now c.key).2.keep time c none = .ok (e, after)) :
    after.Tallies lifetime (⟨c.key, time, true⟩ :: sendings) := by
  obtain ⟨expires, ends, rfl, rfl⟩ := keep_eq_ok_iff.mp kept
  rw [lifetime_lookup, tallies.lifetime_eq] at ends
  refine ⟨(lifetime_lookup s now c.key).trans tallies.lifetime_eq, fun other => ?_⟩
  by_cases same : other = c.key
  · subst same
    rw [Sending.latest?_cons_self, OrderedMap.find?_insert_self]
    simp [Sending.expires?, ends, Except.toOption]
  · rw [OrderedMap.find?_insert_of_ne _ _ same, find?_lookup_of_ne same,
      Sending.latest?_cons_of_ne same]
    exact tallies.expires_eq other

end Store

end Snapshot

end QueryDesk
