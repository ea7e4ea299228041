import QueryDesk.Proofs.Text.Basic
import QueryDesk.Sql.Basic

namespace QueryDesk

namespace Sql

def isNameText (c : Char) : Bool := isNameChar c || c == '\n'

theorem over_of_isNameRest {t : Text} (rest : isNameRest t = true) : Text.Over isNameText t := by
  induction t using isNameRest.induct with
  | case1 => exact Text.over_nil
  | case2 => exact Text.over_cons_iff.mpr ⟨by decide, Text.over_nil⟩
  | case3 p t feed ih =>
    rw [isNameRest.eq_3 p t feed] at rest
    obtain ⟨first, others⟩ := Bool.and_eq_true_iff.mp rest
    refine Text.over_cons_iff.mpr ⟨Point.satisfies_mono (fun c name => ?_) first, ih others⟩
    simp [isNameText, name]

theorem isNameChar_of_isNameStart {c : Char} (start : isNameStart c = true) :
    isNameChar c = true := by
  simp only [isNameStart, Bool.or_eq_true] at start
  rcases start with letter | underscore
  · simp [isNameChar, Char.isAlphanum, letter]
  · simp [isNameChar, underscore]

theorem isNameRest_append {t u : Text} (points : Text.Over isNameChar t) :
    isNameRest (t ++ u) = isNameRest u := by
  induction t with
  | nil => rfl
  | cons p t ih =>
    obtain ⟨first, later⟩ := Text.over_cons_iff.mp points
    have feed : p = .scalar '\n' → t ++ u = [] → False := by
      rintro rfl -
      cases first
    rw [List.cons_append, isNameRest.eq_3 p (t ++ u) feed, first, Bool.true_and, ih later]

theorem isNameRest_of_isName {t : Text} (name : isName t = true) : isNameRest t = true := by
  cases t with
  | nil => rfl
  | cons p rest =>
    obtain ⟨first, others⟩ := Bool.and_eq_true_iff.mp name
    have letter := Point.satisfies_mono (fun c => isNameChar_of_isNameStart) first
    have single : Text.Over isNameChar [p] := Text.over_cons_iff.mpr ⟨letter, Text.over_nil⟩
    exact (isNameRest_append single).trans others

theorem exists_letters {t : Text} (rest : isNameRest t = true) :
    ∃ cs u, t = Text.ofChars cs ++ u ∧ (∀ c ∈ cs, isNameChar c = true) ∧
      (u = [] ∨ u = [.scalar '\n']) := by
  induction t using isNameRest.induct with
  | case1 => exact ⟨[], [], rfl, nofun, .inl rfl⟩
  | case2 => exact ⟨[], [.scalar '\n'], rfl, nofun, .inr rfl⟩
  | case3 p t feed ih =>
    rw [isNameRest.eq_3 p t feed] at rest
    obtain ⟨first, others⟩ := Bool.and_eq_true_iff.mp rest
    obtain ⟨cs, u, rfl, letters, ends⟩ := ih others
    cases p with
    | surrogate n => cases first
    | scalar c => exact ⟨c :: cs, u, rfl, List.forall_mem_cons.mpr ⟨first, letters⟩, ends⟩

namespace Name

theorem exists_cons (name : Name) :
    ∃ p rest, name.text = p :: rest ∧ p.satisfies isNameStart = true ∧
      Text.Over isNameText rest := by
  obtain ⟨text, valid⟩ := name
  cases text with
  | nil => cases valid
  | cons p rest =>
    obtain ⟨first, others⟩ := Bool.and_eq_true_iff.mp valid
    exact ⟨p, rest, rfl, first, over_of_isNameRest others⟩

theorem over_text (name : Name) : Text.Over isNameText name.text := by
  obtain ⟨p, rest, same, first, others⟩ := name.exists_cons
  rw [same]
  refine Text.over_cons_iff.mpr ⟨Point.satisfies_mono (fun c start => ?_) first, others⟩
  simp [isNameText, isNameChar_of_isNameStart start]

end Name

end Sql

end QueryDesk
