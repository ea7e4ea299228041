import QueryDesk.Proofs.Text.Basic

namespace QueryDesk

namespace Text

/-- The order of texts by code points: the first place where they differ decides, and a text precedes
    all that go on after it. -/
def Precedes (t u : Text) : Prop := List.Lex (fun p q => p.toNat < q.toNat) t u

instance (t u : Text) : Decidable (t.Precedes u) :=
  inferInstanceAs (Decidable (List.Lex (fun p q : Point => p.toNat < q.toNat) t u))

section Order

variable {p q : Point} {t u r s : Text}

theorem not_precedes_self (t : Text) : ¬ t.Precedes t :=
  List.lex_irrefl (fun p => Nat.lt_irrefl p.toNat) t

theorem not_precedes_nil (t : Text) : ¬ t.Precedes [] := List.not_lex_nil

theorem nil_precedes_cons (p : Point) (t : Text) : Precedes [] (p :: t) := .nil

theorem cons_precedes_cons_iff :
    Precedes (p :: t) (q :: u) ↔ p.toNat < q.toNat ∨ p = q ∧ t.Precedes u :=
  List.cons_lex_cons_iff

theorem append_precedes_append_iff (even : t.length = u.length) :
    Precedes (t ++ r) (u ++ s) ↔ t.Precedes u ∨ t = u ∧ r.Precedes s := by
  induction t generalizing u with
  | nil =>
    cases u with
    | nil => simp [not_precedes_nil]
    | cons q u => cases even
  | cons p t ih =>
    cases u with
    | nil => cases even
    | cons q u =>
      have rest := ih (Nat.succ.inj even)
      simp only [List.cons_append, cons_precedes_cons_iff, rest, List.cons.injEq]
      constructor
      · rintro (less | ⟨same, earlier | ⟨rfl, later⟩⟩)
        · exact .inl (.inl less)
        · exact .inl (.inr ⟨same, earlier⟩)
        · exact .inr ⟨⟨same, rfl⟩, later⟩
      · rintro ((less | ⟨same, earlier⟩) | ⟨⟨same, rest⟩, later⟩)
        · exact .inl less
        · exact .inr ⟨same, .inl earlier⟩
        · exact .inr ⟨same, .inr ⟨rest, later⟩⟩

theorem append_precedes_append_left_iff : Precedes (t ++ r) (t ++ s) ↔ r.Precedes s := by
  rw [append_precedes_append_iff rfl]
  simp [not_precedes_self]

end Order

section Padded

variable {width n m : Nat}

theorem isDigit_padded (width n : Nat) : Over Char.isDigit (padded width n) := by
  refine Over.append (fun p zero => ?_) (over_ofNat n)
  rw [List.eq_of_mem_replicate zero]
  rfl

theorem ofNat_digit (digit : n < 10) : ofNat n = [.scalar n.digitChar] := by
  rw [ofNat, Nat.toDigits_of_lt_base digit]
  rfl

theorem padded_one (digit : n < 10) : padded 1 n = [.scalar n.digitChar] := by
  rw [padded, ofNat_digit digit]
  rfl

theorem padded_succ (width n : Nat) :
    padded (width + 2) n = padded (width + 1) (n / 10) ++ [.scalar (n % 10).digitChar] := by
  by_cases small : n < 10
  · -- Without the only digit a zero is left, where the number itself has one more to fill with.
    have zeros : List.replicate (width + 1) (Point.scalar '0') =
        List.replicate width (.scalar '0') ++ [.scalar '0'] := List.replicate_succ'
    rw [Nat.div_eq_of_lt small, Nat.mod_eq_of_lt small, padded, ofNat_digit small]
    exact congrArg (· ++ [Point.scalar n.digitChar]) zeros
  · have split : ofNat n = ofNat (n / 10) ++ [.scalar (n % 10).digitChar] := by
      rw [ofNat, Nat.toDigits_of_base_le (by decide) (Nat.not_lt.mp small)]
      exact List.map_append
    have zeros : width + 2 - ((ofNat (n / 10)).length + 1) =
        width + 1 - (ofNat (n / 10)).length := Nat.add_sub_add_right (width + 1) 1 _
    simp only [padded, split, List.length_append, List.length_singleton, zeros, List.append_assoc]

theorem div_lt_pow (fits : n < Nat.pow 10 (width + 2)) : n / 10 < Nat.pow 10 (width + 1) := by
  rw [Nat.pow_eq, Nat.pow_succ, Nat.mul_comm] at fits
  exact Nat.div_lt_of_lt_mul fits

theorem length_padded (fits : n < Nat.pow 10 (width + 1)) :
    (padded (width + 1) n).length = width + 1 := by
  induction width generalizing n with
  | zero => rw [padded_one fits, List.length_singleton]
  | succ width ih =>
    rw [padded_succ, List.length_append, ih (div_lt_pow fits), List.length_singleton]

section Digit

variable (first : n < 10) (second : m < 10)

include first second

theorem digit_precedes_digit_iff :
    Precedes [.scalar n.digitChar] [.scalar m.digitChar] ↔ n < m := by
  simp only [cons_precedes_cons_iff, not_precedes_nil, and_false, or_false, Point.toNat,
    Nat.toNat_digitChar_of_lt_ten first, Nat.toNat_digitChar_of_lt_ten second]
  exact Nat.add_lt_add_iff_left

theorem digit_injective (same : n.digitChar = m.digitChar) : n = m := by
  have number := congrArg Char.toNat same
  rw [Nat.toNat_digitChar_of_lt_ten first, Nat.toNat_digitChar_of_lt_ten second] at number
  exact Nat.add_left_cancel number

end Digit

theorem padded_injective (first : n < Nat.pow 10 (width + 1)) (second : m < Nat.pow 10 (width + 1))
    (same : padded (width + 1) n = padded (width + 1) m) : n = m := by
  induction width generalizing n m with
  | zero =>
    rw [padded_one first, padded_one second] at same
    exact digit_injective first second (Point.scalar.inj (List.cons.inj same).1)
  | succ width ih =>
    rw [padded_succ, padded_succ] at same
    obtain ⟨before, last⟩ := List.append_inj' same rfl
    have tens := ih (div_lt_pow first) (div_lt_pow second) before
    have ones := digit_injective (Nat.mod_lt n (by decide)) (Nat.mod_lt m (by decide))
      (Point.scalar.inj (List.cons.inj last).1)
    omega

section Fixed

variable (first : n < Nat.pow 10 (width + 1)) (second : m < Nat.pow 10 (width + 1)) {r s : Text}

include first second

theorem padded_precedes_padded_iff :
    (padded (width + 1) n).Precedes (padded (width + 1) m) ↔ n < m := by
  -- on the width; the digits before the last one decide, and if they are the same, the last one
  induction width generalizing n m with
  | zero => rw [padded_one first, padded_one second, digit_precedes_digit_iff first second]
  | succ width ih =>
    have shorter := div_lt_pow first
    have other := div_lt_pow second
    have even : (padded (width + 1) (n / 10)).length = (padded (width + 1) (m / 10)).length := by
      rw [length_padded shorter, length_padded other]
    have tens : padded (width + 1) (n / 10) = padded (width + 1) (m / 10) ↔ n / 10 = m / 10 :=
      ⟨padded_injective shorter other, congrArg _⟩
    rw [padded_succ, padded_succ, append_precedes_append_iff even, ih shorter other, tens,
      digit_precedes_digit_iff (Nat.mod_lt n (by decide)) (Nat.mod_lt m (by decide))]
    omega

theorem padded_append_precedes_iff :
    Precedes (padded (width + 1) n ++ r) (padded (width + 1) m ++ s) ↔
      n < m ∨ n = m ∧ r.Precedes s := by
  have even : (padded (width + 1) n).length = (padded (width + 1) m).length := by
    rw [length_padded first, length_padded second]
  have same : padded (width + 1) n = padded (width + 1) m ↔ n = m :=
    ⟨padded_injective first second, congrArg _⟩
  rw [append_precedes_append_iff even, padded_precedes_padded_iff first second, same]

theorem padded_append_eq_iff :
    padded (width + 1) n ++ r = padded (width + 1) m ++ s ↔ n = m ∧ r = s := by
  constructor
  · intro same
    have even : (padded (width + 1) n).length = (padded (width + 1) m).length := by
      rw [length_padded first, length_padded second]
    obtain ⟨number, rest⟩ := List.append_inj same even
    exact ⟨padded_injective first second number, rest⟩
  · rintro ⟨rfl, rfl⟩
    rfl

end Fixed

end Padded

end Text

end QueryDesk
