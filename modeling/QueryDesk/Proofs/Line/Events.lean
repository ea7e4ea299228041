import QueryDesk.Line.Settle

namespace QueryDesk

namespace Line

variable {α : Type}

theorem after_append (l : Line α) (first last : List Event) :
    l.after (first ++ last) = (l.after first).after last := List.foldl_append

def Undisturbed (events : List Event) : Prop := ∀ i, .cancel i ∉ events

theorem Undisturbed.append {first last : List Event} (before : Undisturbed first)
    (later : Undisturbed last) : Undisturbed (first ++ last) := fun i cancelled =>
  (List.mem_append.mp cancelled).elim (before i) (later i)

theorem respondMany_eq_after (l : Line α) (i n : Nat) :
    l.respondMany i n = l.after (List.replicate n (.respond i)) := by
  induction n generalizing l with
  | zero => rfl
  | succ n ih => exact ih (l.respond i)

theorem complete_undisturbed (l : Line α) (i : Nat) :
    ∃ events, Undisturbed events ∧ l.complete i = l.after events :=
  ⟨.send i :: List.replicate ((l.send i).callsLeft i) (.respond i), by simp [Undisturbed],
    respondMany_eq_after (l.send i) i _⟩

theorem resume?_eq_some {l next : Line α} {i : Nat} (h : l.resume? i = some next) :
    next = l.resume i := by
  unfold resume? at h
  split at h <;> cases h <;> rfl

theorem serve?_undisturbed {l next : Line α} (h : l.serve? = some next) :
    ∃ events, Undisturbed events ∧ next = l.after events := by
  unfold serve? at h
  simp only at h
  split at h
  · rename_i i _
    obtain ⟨events, quiet, completed⟩ := complete_undisturbed l.grant i
    have granting : Undisturbed [.grant] := by simp [Undisturbed]
    have resuming : Undisturbed [.resume i] := by simp [Undisturbed]
    have around : Undisturbed (.grant :: events ++ [.resume i]) :=
      (granting.append quiet).append resuming
    refine ⟨.grant :: events ++ [.resume i], around, ?_⟩
    rw [after_append, resume?_eq_some h, completed]
    rfl
  · cases h

theorem settle_undisturbed (l : Line α) :
    ∃ events, Undisturbed events ∧ l.settle = l.after events := by
  fun_induction settle l with
  | case1 l next served ih =>
    obtain ⟨first, quiet, served⟩ := serve?_undisturbed served
    obtain ⟨last, still, settled⟩ := ih
    exact ⟨first ++ last, quiet.append still, by rw [after_append, ← served, settled]⟩
  | case2 l waiting => exact ⟨[], by simp [Undisturbed], rfl⟩

theorem startAll_undisturbed (l : Line α) :
    ∃ events, Undisturbed events ∧ l.startAll = l.after events :=
  ⟨(List.range l.callers.length).map .start, by simp [Undisturbed], by
    unfold startAll after
    rw [List.foldl_map]
    rfl⟩

theorem settle_eq_after (l : Line α) : ∃ events, l.settle = l.after events :=
  l.settle_undisturbed.imp fun _ settled => settled.2

theorem startAll_eq_after (l : Line α) : ∃ events, l.startAll = l.after events :=
  l.startAll_undisturbed.imp fun _ started => started.2

end Line

end QueryDesk
