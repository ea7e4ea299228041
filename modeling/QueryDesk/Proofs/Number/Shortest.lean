import QueryDesk.Number.Shortest
import QueryDesk.Proofs.Text.Basic

namespace QueryDesk

namespace Binary64

/-- The characters that set a written floating-point number apart from an integer: a point, the
    letter of an exponent, or the letter that infinities and numbers that are none have. -/
def isFractional (c : Char) : Bool := c == '.' || c == 'e' || c == 'n'

def isNumberChar (c : Char) : Bool :=
  Text.isIntegerChar c || isFractional c || c == '+' || c == 'a' || c == 'i' || c == 'f'

theorem isNumberChar_of_isDigit {c : Char} (digit : c.isDigit = true) : isNumberChar c = true := by
  simp [isNumberChar, Text.isIntegerChar, digit]

theorem isDigit_ofDecimal (coefficient : Nat) (exponent : Int) :
    ∀ c ∈ (Digits.ofDecimal coefficient exponent).digits, c.isDigit = true := by
  intro c member
  simp only [Digits.ofDecimal, List.mem_reverse] at member
  have written := List.mem_reverse.mp ((List.dropWhile_suffix _).subset member)
  exact Nat.isDigit_of_mem_toDigits (by decide) (by decide) written

variable {d : Digits}

theorem isNumberChar_positional (digits : ∀ c ∈ d.digits, c.isDigit = true) :
    ∀ c ∈ d.positional, isNumberChar c = true := by
  have zeros (n : Nat) : ∀ c ∈ List.replicate n '0', isNumberChar c = true := by
    intro c member
    rw [List.eq_of_mem_replicate member]
    decide
  have inside {part : List Char} (sub : part ⊆ d.digits) : ∀ c ∈ part, isNumberChar c = true :=
    fun c member => isNumberChar_of_isDigit (digits c (sub member))
  unfold Digits.positional
  split
  · simp only [List.forall_mem_append]
    exact ⟨⟨List.all_eq_true.mp (by decide), zeros _⟩, inside (List.Subset.refl _)⟩
  · simp only [List.forall_mem_append]
    refine ⟨⟨⟨inside (List.take_subset _ _), zeros _⟩, List.all_eq_true.mp (by decide)⟩, ?_⟩
    split
    · exact List.all_eq_true.mp (by decide)
    · exact inside (List.drop_subset _ _)

theorem isNumberChar_scientific (digits : ∀ c ∈ d.digits, c.isDigit = true) :
    ∀ c ∈ d.scientific, isNumberChar c = true := by
  have inside {part : List Char} (sub : part ⊆ d.digits) : ∀ c ∈ part, isNumberChar c = true :=
    fun c member => isNumberChar_of_isDigit (digits c (sub member))
  unfold Digits.scientific
  simp only [List.forall_mem_append]
  refine ⟨⟨⟨⟨inside (List.take_subset _ _), ?_⟩, ?_⟩, ?_⟩, ?_⟩
  · split
    · simp
    · exact List.forall_mem_cons.mpr ⟨by decide, inside (List.drop_subset _ _)⟩
  · split <;> exact List.all_eq_true.mp (by decide)
  · intro c member
    rw [List.eq_of_mem_replicate member]
    decide
  · intro c member
    exact isNumberChar_of_isDigit (Nat.isDigit_of_mem_toDigits (by decide) (by decide) member)

theorem isNumberChar_render (digits : ∀ c ∈ d.digits, c.isDigit = true) :
    ∀ c ∈ d.render, isNumberChar c = true := by
  unfold Digits.render
  split
  · exact isNumberChar_positional digits
  · exact isNumberChar_scientific digits

theorem exists_isFractional_render (d : Digits) : ∃ c ∈ d.render, isFractional c = true := by
  unfold Digits.render
  split
  · refine ⟨'.', ?_, rfl⟩
    unfold Digits.positional
    split <;> simp
  · refine ⟨'e', ?_, rfl⟩
    simp [Digits.scientific]

theorem over_toText (x : Binary64) : Text.Over isNumberChar x.toText := by
  cases x with
  | nan => exact Text.over_ofString (by decide)
  | infinite negative => cases negative <;> exact Text.over_ofString (by decide)
  | finite negative code =>
    have shown : ∀ c ∈ (if code.val = 0 then ['0', '.', '0'] else (shortestDigits code).render),
        isNumberChar c = true := by
      split
      · exact List.all_eq_true.mp (by decide)
      · exact isNumberChar_render (isDigit_ofDecimal _ _)
    refine Text.over_ofChars_iff.mpr ?_
    cases negative with
    | false => exact shown
    | true => exact List.forall_mem_cons.mpr ⟨by decide, shown⟩

theorem exists_isFractional_toText (x : Binary64) :
    ∃ p ∈ x.toText, p.satisfies isFractional = true := by
  cases x with
  | nan => exact ⟨.scalar 'n', by decide, rfl⟩
  | infinite negative => cases negative <;> exact ⟨.scalar 'n', by decide, rfl⟩
  | finite negative code =>
    have shown : ∃ c ∈ (if code.val = 0 then ['0', '.', '0'] else (shortestDigits code).render),
        isFractional c = true := by
      split
      · exact ⟨'.', by decide, rfl⟩
      · exact exists_isFractional_render _
    obtain ⟨c, member, fractional⟩ := shown
    refine ⟨.scalar c, List.mem_map_of_mem ?_, fractional⟩
    split
    · exact List.mem_cons_of_mem _ member
    · exact member

theorem toText_ne_ofInt (x : Binary64) (n : Int) : x.toText ≠ Text.ofInt n := by
  intro same
  obtain ⟨p, member, fractional⟩ := x.exists_isFractional_toText
  have whole := Text.over_ofInt n p (same ▸ member)
  cases p with
  | surrogate m => cases fractional
  | scalar c =>
    simp only [Point.satisfies, Point.char?, Option.any_some] at fractional whole
    simp only [isFractional, Bool.or_eq_true, beq_iff_eq] at fractional
    rcases fractional with (rfl | rfl) | rfl <;> exact absurd whole (by decide)

end Binary64

end QueryDesk
