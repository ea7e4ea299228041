import Mathlib.Data.List.Forall2
import QueryDesk.Failure
import QueryDesk.Form.Reader

namespace QueryDesk

namespace Checked

variable {α β : Type} {x : Checked α} {a : α} {b : β}

theorem within_eq_pass {step : Step} : x.within step = .pass a ↔ x = .pass a := by
  cases x with
  | ok found => exact Iff.rfl
  | error issues => exact ⟨nofun, nofun⟩

theorem map_eq_pass {f : α → β} : f <$> x = .pass b ↔ ∃ a, x = .pass a ∧ f a = b := by
  cases x with
  | ok found =>
    constructor
    · exact fun same => ⟨found, rfl, Except.ok.inj same⟩
    · rintro ⟨_, ⟨⟩, rfl⟩
      rfl
  | error issues => exact ⟨nofun, fun ⟨_, passed, _⟩ => nomatch passed⟩

theorem seq_eq_pass {f : Checked (α → β)} :
    f <*> x = .pass b ↔ ∃ g a, f = .pass g ∧ x = .pass a ∧ g a = b := by
  cases f with
  | ok g =>
    cases x with
    | ok found =>
      constructor
      · exact fun same => ⟨g, found, rfl, rfl, Except.ok.inj same⟩
      · rintro ⟨_, _, ⟨⟩, ⟨⟩, rfl⟩
        rfl
    | error issues => exact ⟨nofun, fun ⟨_, _, _, passed, _⟩ => nomatch passed⟩
  | error issues =>
    constructor
    · intro same
      cases x <;> cases same
    · exact fun ⟨_, _, passed, _⟩ => nomatch passed

theorem andThen_eq_pass {next : α → Checked β} :
    x.andThen next = .pass b ↔ ∃ a, x = .pass a ∧ next a = .pass b := by
  cases x with
  | ok found =>
    constructor
    · exact fun same => ⟨found, rfl, same⟩
    · rintro ⟨_, ⟨⟩, same⟩
      exact same
  | error issues => exact ⟨nofun, fun ⟨_, passed, _⟩ => nomatch passed⟩

end Checked

theorem Failure.ofChecked_eq_ok {α : Type} {form : FormKind} {x : Checked α} {a : α} :
    ofChecked form x = .ok a ↔ x = .pass a := by
  cases x with
  | ok found =>
    constructor
    · exact fun same => congrArg _ (Except.ok.inj same)
    · exact fun same => congrArg _ (Except.ok.inj same)
  | error issues => exact ⟨nofun, nofun⟩

namespace Reader

variable {α : Type} {r : Reader α}

theorem elements_eq_pass {index : Nat} {items : List Datum} {as : List α} :
    elements r index items = .pass as ↔ List.Forall₂ (fun d a => r d = .pass a) items as := by
  induction items generalizing index as with
  | nil =>
    rw [List.forall₂_nil_left_iff]
    exact ⟨fun same => (Except.ok.inj same).symm, fun empty => congrArg _ empty.symm⟩
  | cons d rest ih =>
    simp only [elements, Checked.seq_eq_pass, Checked.map_eq_pass, Checked.within_eq_pass, ih,
      List.forall₂_cons_left_iff]
    constructor
    · rintro ⟨_, others, ⟨a, first, rfl⟩, later, rfl⟩
      exact ⟨a, others, first, later, rfl⟩
    · rintro ⟨a, others, first, later, rfl⟩
      exact ⟨_, others, ⟨a, first, rfl⟩, later, rfl⟩

theorem entries_eq_pass {items : List (Datum × Datum)} {es : List (Text × α)} :
    entries r items = .pass es ↔
      List.Forall₂ (fun item e => text item.1 = .pass e.1 ∧ r item.2 = .pass e.2) items es := by
  induction items generalizing es with
  | nil =>
    rw [List.forall₂_nil_left_iff]
    exact ⟨fun same => (Except.ok.inj same).symm, fun empty => congrArg _ empty.symm⟩
  | cons item rest ih =>
    simp only [entries, Checked.seq_eq_pass, Checked.map_eq_pass, Checked.within_eq_pass, ih,
      List.forall₂_cons_left_iff]
    constructor
    · rintro ⟨_, others, ⟨_, ⟨_, a, ⟨name, named, rfl⟩, value, rfl⟩, rfl⟩, later, rfl⟩
      exact ⟨(name, a), others, ⟨named, value⟩, later, rfl⟩
    · rintro ⟨e, others, ⟨named, value⟩, later, rfl⟩
      exact ⟨_, others, ⟨e, ⟨_, e.2, ⟨e.1, named, rfl⟩, value, rfl⟩, rfl⟩, later, rfl⟩

end Reader

end QueryDesk
