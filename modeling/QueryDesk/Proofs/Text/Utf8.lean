import QueryDesk.Text.Utf8

namespace QueryDesk

theorem Point.isScalar_iff {p : Point} : p.isScalar = true ↔ ∃ c, p = .scalar c := by
  cases p with
  | scalar c => exact ⟨fun _ => ⟨c, rfl⟩, fun _ => rfl⟩
  | surrogate n => simp [isScalar, char?]

theorem Text.exists_ofChars {t : Text} (scalars : ∀ p ∈ t, p.isScalar = true) :
    ∃ cs, t = ofChars cs := by
  induction t with
  | nil => exact ⟨[], rfl⟩
  | cons p rest ih =>
    obtain ⟨c, rfl⟩ := Point.isScalar_iff.mp (scalars p (by simp))
    obtain ⟨cs, rfl⟩ := ih fun q member => scalars q (List.mem_cons_of_mem _ member)
    exact ⟨c :: cs, rfl⟩

namespace Utf8

theorem firstFault_ofChars (cs : List Char) (start : Nat) :
    firstFault start (.ofChars cs) = none := by
  induction cs generalizing start with
  | nil => rfl
  | cons c rest ih => exact ih (start + 1)

theorem isScalar_of_firstFault {t : Text} {start : Nat} (whole : firstFault start t = none) :
    ∀ p ∈ t, p.isScalar = true := by
  induction t generalizing start with
  | nil => simp
  | cons p rest ih =>
    cases p with
    | surrogate n => cases whole
    | scalar c =>
      intro q member
      rcases List.mem_cons.mp member with rfl | member
      · rfl
      · exact ih whole q member

theorem flatMap_ofChars (cs : List Char) :
    (Text.ofChars cs).flatMap (fun p => p.char?.elim [] ofChar) = cs.flatMap ofChar := by
  simp [Text.ofChars, List.flatMap_map, Point.char?]

theorem encode_ofChars (cs : List Char) : encode (.ofChars cs) = .ok (cs.flatMap ofChar) := by
  unfold encode
  rw [firstFault_ofChars, flatMap_ofChars]

theorem encode_eq_ok_iff {t : Text} {bytes : List UInt8} :
    encode t = .ok bytes ↔ ∃ cs, t = .ofChars cs ∧ bytes = cs.flatMap ofChar := by
  constructor
  · intro encoded
    unfold encode at encoded
    split at encoded
    · cases encoded
    · rename_i whole
      obtain ⟨cs, rfl⟩ := Text.exists_ofChars (isScalar_of_firstFault whole)
      cases encoded
      exact ⟨cs, rfl, flatMap_ofChars cs⟩
  · rintro ⟨cs, rfl, rfl⟩
    exact encode_ofChars cs

theorem encode_of_isScalar {t : Text} (scalars : ∀ p ∈ t, p.isScalar = true) :
    ∃ bytes, encode t = .ok bytes := by
  obtain ⟨cs, rfl⟩ := Text.exists_ofChars scalars
  exact ⟨_, encode_ofChars cs⟩

theorem exists_encode_iff {t : Text} :
    (∃ bytes, encode t = .ok bytes) ↔ ∀ p ∈ t, p.isScalar = true := by
  refine ⟨?_, encode_of_isScalar⟩
  rintro ⟨bytes, encoded⟩
  obtain ⟨cs, rfl, -⟩ := encode_eq_ok_iff.mp encoded
  simp [Text.ofChars, Point.isScalar, Point.char?]

section Bytes

variable {n : Nat} (byte : n < 256)

include byte

theorem ofNat_lt_iff {b : UInt8} : UInt8.ofNat n < b ↔ n < b.toNat := by
  rw [UInt8.lt_iff_toNat_lt, UInt8.toNat_ofNat_of_lt' byte]

theorem le_ofNat_iff {b : UInt8} : b ≤ UInt8.ofNat n ↔ b.toNat ≤ n := by
  rw [UInt8.le_iff_toNat_le, UInt8.toNat_ofNat_of_lt' byte]

theorem ofNat_ne_of_ne {b : UInt8} (ne : n ≠ b.toNat) : UInt8.ofNat n ≠ b := by
  intro same
  rw [← same, UInt8.toNat_ofNat_of_lt' byte] at ne
  exact ne rfl

end Bytes

theorem isContinuation_ofNat (n : Nat) : isContinuation (.ofNat (0x80 + n % 0x40)) = true := by
  have byte : 0x80 + n % 0x40 < 256 := by omega
  simp only [isContinuation, Bool.and_eq_true, decide_eq_true_eq, le_ofNat_iff byte,
    ofNat_lt_iff byte, UInt8.reduceToNat]
  omega

@[simp]
theorem low_ofNat (n : Nat) : low (.ofNat (0x80 + n % 0x40)) = n % 0x40 := by
  simp only [low, UInt8.toNat_ofNat']
  omega

/-- The second byte of three is as it must be for a number that needs three bytes and is no
    surrogate. -/
theorem secondOfThree_ofNat {n : Nat} (long : 0x800 ≤ n) (short : n < 0x10000)
    (scalar : n < 0xD800 ∨ 0xDFFF < n) :
    secondOfThree (.ofNat (0xE0 + n / 0x1000)) (.ofNat (0x80 + n / 0x40 % 0x40)) = true := by
  have first : 0xE0 + n / 0x1000 < 256 := by omega
  have second : 0x80 + n / 0x40 % 0x40 < 256 := by omega
  simp only [secondOfThree, isContinuation_ofNat, Bool.true_and, Bool.and_eq_true, Bool.or_eq_true,
    bne_iff_ne, decide_eq_true_eq, le_ofNat_iff second, ofNat_lt_iff second, UInt8.reduceToNat]
  constructor
  · by_cases low : n < 0x1000
    · right
      omega
    · left
      exact ofNat_ne_of_ne first (by simp only [UInt8.reduceToNat]; omega)
  · by_cases surrogates : n / 0x1000 = 0xD
    · right
      omega
    · left
      exact ofNat_ne_of_ne first (by simp only [UInt8.reduceToNat]; omega)

/-- The second byte of four is as it must be for a number that needs four bytes and is that of a
    point. -/
theorem secondOfFour_ofNat {n : Nat} (long : 0x10000 ≤ n) (point : n < 0x110000) :
    secondOfFour (.ofNat (0xF0 + n / 0x40000)) (.ofNat (0x80 + n / 0x1000 % 0x40)) = true := by
  have first : 0xF0 + n / 0x40000 < 256 := by omega
  have second : 0x80 + n / 0x1000 % 0x40 < 256 := by omega
  simp only [secondOfFour, isContinuation_ofNat, Bool.true_and, Bool.and_eq_true, Bool.or_eq_true,
    bne_iff_ne, decide_eq_true_eq, le_ofNat_iff second, ofNat_lt_iff second, UInt8.reduceToNat]
  constructor
  · by_cases low : n < 0x40000
    · right
      omega
    · left
      exact ofNat_ne_of_ne first (by simp only [UInt8.reduceToNat]; omega)
  · by_cases high : n / 0x40000 = 4
    · right
      omega
    · left
      exact ofNat_ne_of_ne first (by simp only [UInt8.reduceToNat]; omega)

section Lead

variable {b₀ b₁ b₂ b₃ : UInt8} {start : Nat} {rest : List UInt8}

theorem not_lt_of_toNat_le (bound : b₁.toNat ≤ b₀.toNat) : ¬ b₀ < b₁ :=
  UInt8.not_lt.mpr (UInt8.le_iff_toNat_le.mpr bound)

theorem decodeFrom_one (lead : b₀.toNat < 0x80) :
    decodeFrom start (b₀ :: rest) = (Char.ofNat b₀.toNat :: ·) <$> decodeFrom (start + 1) rest := by
  have ascii : b₀ < 0x80 := UInt8.lt_iff_toNat_lt.mpr lead
  rw [decodeFrom.eq_def]
  exact if_pos ascii

theorem decodeFrom_two (lead : 0xC2 ≤ b₀.toNat ∧ b₀.toNat < 0xE0)
    (second : isContinuation b₁ = true) :
    decodeFrom start (b₀ :: b₁ :: rest) =
      (Char.ofNat (b₀.toNat % 0x20 * 0x40 + low b₁) :: ·) <$> decodeFrom (start + 2) rest := by
  have ascii : ¬ b₀ < 0x80 := not_lt_of_toNat_le (Nat.le_trans (by decide) lead.1)
  have tail : ¬ b₀ < 0xC2 := not_lt_of_toNat_le (Nat.le_trans (by decide) lead.1)
  have two : b₀ < 0xE0 := UInt8.lt_iff_toNat_lt.mpr lead.2
  rw [decodeFrom.eq_def]
  simp only [if_neg ascii, if_neg tail, if_pos two, if_pos second]

theorem decodeFrom_three (lead : 0xE0 ≤ b₀.toNat ∧ b₀.toNat < 0xF0)
    (second : secondOfThree b₀ b₁ = true) (third : isContinuation b₂ = true) :
    decodeFrom start (b₀ :: b₁ :: b₂ :: rest) =
      (Char.ofNat (b₀.toNat % 0x10 * 0x1000 + low b₁ * 0x40 + low b₂) :: ·) <$>
        decodeFrom (start + 3) rest := by
  have ascii : ¬ b₀ < 0x80 := not_lt_of_toNat_le (Nat.le_trans (by decide) lead.1)
  have tail : ¬ b₀ < 0xC2 := not_lt_of_toNat_le (Nat.le_trans (by decide) lead.1)
  have two : ¬ b₀ < 0xE0 := not_lt_of_toNat_le (Nat.le_trans (by decide) lead.1)
  have three : b₀ < 0xF0 := UInt8.lt_iff_toNat_lt.mpr lead.2
  rw [decodeFrom.eq_def]
  simp only [if_neg ascii, if_neg tail, if_neg two, if_pos three, if_pos second, if_pos third]

theorem decodeFrom_four (lead : 0xF0 ≤ b₀.toNat ∧ b₀.toNat < 0xF5)
    (second : secondOfFour b₀ b₁ = true) (third : isContinuation b₂ = true)
    (fourth : isContinuation b₃ = true) :
    decodeFrom start (b₀ :: b₁ :: b₂ :: b₃ :: rest) =
      (Char.ofNat (b₀.toNat % 0x08 * 0x40000 + low b₁ * 0x1000 + low b₂ * 0x40 + low b₃) :: ·) <$>
        decodeFrom (start + 4) rest := by
  have ascii : ¬ b₀ < 0x80 := not_lt_of_toNat_le (Nat.le_trans (by decide) lead.1)
  have tail : ¬ b₀ < 0xC2 := not_lt_of_toNat_le (Nat.le_trans (by decide) lead.1)
  have two : ¬ b₀ < 0xE0 := not_lt_of_toNat_le (Nat.le_trans (by decide) lead.1)
  have three : ¬ b₀ < 0xF0 := not_lt_of_toNat_le (Nat.le_trans (by decide) lead.1)
  have four : b₀ < 0xF5 := UInt8.lt_iff_toNat_lt.mpr lead.2
  rw [decodeFrom.eq_def]
  simp only [if_neg ascii, if_neg tail, if_neg two, if_neg three, if_pos four, if_pos second,
    if_pos third, if_pos fourth]

end Lead

theorem decodeFrom_ofChar (c : Char) (rest : List UInt8) (start : Nat) :
    decodeFrom start (ofChar c ++ rest) =
      (c :: ·) <$> decodeFrom (start + (ofChar c).length) rest := by
  have valid : c.toNat < 0xD800 ∨ 0xDFFF < c.toNat ∧ c.toNat < 0x110000 := c.valid
  have same (n : Nat) (eq : n = c.toNat) : Char.ofNat n = c := by rw [eq, Char.ofNat_toNat]
  have toNat (n : Nat) (byte : n < 256) : (UInt8.ofNat n).toNat = n :=
    UInt8.toNat_ofNat_of_lt' byte
  unfold ofChar
  simp only
  split
  · have lead := toNat c.toNat (by omega)
    rw [List.singleton_append, decodeFrom_one (by omega), same _ lead]
    rfl
  split
  · have lead := toNat (0xC0 + c.toNat / 0x40) (by omega)
    rw [List.cons_append, List.singleton_append,
      decodeFrom_two (by omega) (isContinuation_ofNat _), same]
    · rfl
    · rw [lead, low_ofNat]
      omega
  split
  · have lead := toNat (0xE0 + c.toNat / 0x1000) (by omega)
    have second := secondOfThree_ofNat (n := c.toNat) (by omega) (by omega) (by omega)
    rw [List.cons_append, List.cons_append, List.singleton_append,
      decodeFrom_three (by omega) second (isContinuation_ofNat _), same]
    · rfl
    · rw [lead, low_ofNat, low_ofNat]
      omega
  · have lead := toNat (0xF0 + c.toNat / 0x40000) (by omega)
    have second := secondOfFour_ofNat (n := c.toNat) (by omega) (by omega)
    rw [List.cons_append, List.cons_append, List.cons_append, List.singleton_append,
      decodeFrom_four (by omega) second (isContinuation_ofNat _) (isContinuation_ofNat _), same]
    · rfl
    · rw [lead, low_ofNat, low_ofNat, low_ofNat]
      omega

theorem decodeFrom_flatMap (cs : List Char) (start : Nat) :
    decodeFrom start (cs.flatMap ofChar) = .ok cs := by
  induction cs generalizing start with
  | nil => rfl
  | cons c rest ih =>
    rw [List.flatMap_cons, decodeFrom_ofChar, ih]
    rfl

theorem decode_of_encode {t : Text} {bytes : List UInt8} (encoded : encode t = .ok bytes) :
    decode bytes = .ok t := by
  obtain ⟨cs, rfl, rfl⟩ := encode_eq_ok_iff.mp encoded
  unfold decode
  rw [decodeFrom_flatMap]
  rfl

theorem encode_injective {t u : Text} {bytes : List UInt8} (first : encode t = .ok bytes)
    (second : encode u = .ok bytes) : t = u := by
  have same := (decode_of_encode first).symm.trans (decode_of_encode second)
  exact Except.ok.inj same

end Utf8

end QueryDesk
