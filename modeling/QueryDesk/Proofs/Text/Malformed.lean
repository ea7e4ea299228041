import QueryDesk.Proofs.Outcome
import QueryDesk.Proofs.Text.Utf8

namespace QueryDesk

namespace Utf8

theorem isContinuation_iff {b : UInt8} :
    isContinuation b = true ↔ 0x80 ≤ b.toNat ∧ b.toNat < 0xC0 := by
  simp [isContinuation, UInt8.le_iff_toNat_le, UInt8.lt_iff_toNat_lt]

theorem bne_iff_toNat {b d : UInt8} : (b != d) = true ↔ b.toNat ≠ d.toNat := by
  rw [bne_iff_ne, ne_eq, ← UInt8.toNat_inj]

theorem secondOfThree_iff {lead b : UInt8} : secondOfThree lead b = true ↔
    isContinuation b = true ∧ (lead.toNat = 0xE0 → 0xA0 ≤ b.toNat) ∧
      (lead.toNat = 0xED → b.toNat < 0xA0) := by
  simp only [secondOfThree, Bool.and_eq_true, Bool.or_eq_true, bne_iff_toNat, decide_eq_true_eq,
    UInt8.le_iff_toNat_le, UInt8.lt_iff_toNat_lt, UInt8.reduceToNat, and_assoc,
    Decidable.imp_iff_not_or, ne_eq]

theorem secondOfFour_iff {lead b : UInt8} : secondOfFour lead b = true ↔
    isContinuation b = true ∧ (lead.toNat = 0xF0 → 0x90 ≤ b.toNat) ∧
      (lead.toNat = 0xF4 → b.toNat < 0x90) := by
  simp only [secondOfFour, Bool.and_eq_true, Bool.or_eq_true, bne_iff_toNat, decide_eq_true_eq,
    UInt8.le_iff_toNat_le, UInt8.lt_iff_toNat_lt, UInt8.reduceToNat, and_assoc,
    Decidable.imp_iff_not_or, ne_eq]

section Standard

theorem ofChar_eq_utf8EncodeChar (c : Char) : ofChar c = String.utf8EncodeChar c := by
  have valid : c.toNat < 0xD800 ∨ 0xDFFF < c.toNat ∧ c.toNat < 0x110000 := c.valid
  have number : c.val.toNat = c.toNat := rfl
  have last : 0x80 + c.toNat % 0x40 = c.toNat % 64 + 128 := Nat.add_comm _ _
  have middle : 0x80 + c.toNat / 0x40 % 0x40 = c.toNat / 64 % 64 + 128 := Nat.add_comm _ _
  unfold ofChar String.utf8EncodeChar
  simp only [number]
  by_cases one : c.toNat < 0x80
  · rw [if_pos one, if_pos (by omega : c.toNat ≤ 127)]
  rw [if_neg one, if_neg (by omega : ¬ c.toNat ≤ 127)]
  by_cases two : c.toNat < 0x800
  · have first : 0xC0 + c.toNat / 0x40 = c.toNat / 64 % 32 + 192 := by omega
    rw [if_pos two, if_pos (by omega : c.toNat ≤ 2047), first, last]
  rw [if_neg two, if_neg (by omega : ¬ c.toNat ≤ 2047)]
  by_cases three : c.toNat < 0x10000
  · have first : 0xE0 + c.toNat / 0x1000 = c.toNat / 4096 % 16 + 224 := by omega
    rw [if_pos three, if_pos (by omega : c.toNat ≤ 65535), first, middle, last]
  · have first : 0xF0 + c.toNat / 0x40000 = c.toNat / 262144 % 8 + 240 := by omega
    have second : 0x80 + c.toNat / 0x1000 % 0x40 = c.toNat / 4096 % 64 + 128 := by omega
    rw [if_neg three, if_neg (by omega : ¬ c.toNat ≤ 65535), first, second, middle, last]

theorem flatMap_ofChar_toList (s : String) : s.toList.flatMap ofChar = s.toUTF8.data.toList := by
  have same : ofChar = String.utf8EncodeChar := funext ofChar_eq_utf8EncodeChar
  have own : s.toUTF8 = s.toList.utf8Encode := by
    rw [← String.toByteArray_ofList, String.ofList_toList]
    rfl
  rw [own, same, List.utf8Encode, List.data_toByteArray]

theorem encode_eq_ok_iff_toUTF8 {t : Text} {bytes : List UInt8} :
    encode t = .ok bytes ↔ ∃ s : String, t = Text.ofString s ∧ bytes = s.toUTF8.data.toList := by
  rw [encode_eq_ok_iff]
  constructor
  · rintro ⟨cs, rfl, rfl⟩
    refine ⟨String.ofList cs, by rw [Text.ofString, String.toList_ofList], ?_⟩
    rw [← flatMap_ofChar_toList, String.toList_ofList]
  · rintro ⟨s, rfl, rfl⟩
    exact ⟨s.toList, rfl, (flatMap_ofChar_toList s).symm⟩

end Standard

section Lead

variable {b₀ b₁ b₂ b₃ : UInt8}

theorem toNat_ofNat {n : Nat} (scalar : n < 0xD800 ∨ 0xDFFF < n ∧ n < 0x110000) :
    (Char.ofNat n).toNat = n := by
  have valid : n.isValidChar := scalar
  unfold Char.ofNat
  rw [dif_pos valid]
  rfl

theorem ofNat_eq {n : Nat} {b : UInt8} (same : n = b.toNat) : UInt8.ofNat n = b := by
  rw [same, UInt8.ofNat_toNat]

theorem ofChar_one (lead : b₀.toNat < 0x80) : ofChar (Char.ofNat b₀.toNat) = [b₀] := by
  unfold ofChar
  rw [toNat_ofNat (by omega)]
  simp only
  rw [if_pos lead, UInt8.ofNat_toNat]

theorem ofChar_two (lead : 0xC2 ≤ b₀.toNat ∧ b₀.toNat < 0xE0) (second : isContinuation b₁ = true) :
    ofChar (Char.ofNat (b₀.toNat % 0x20 * 0x40 + low b₁)) = [b₀, b₁] := by
  have bounds := isContinuation_iff.mp second
  unfold ofChar low
  rw [toNat_ofNat (by omega)]
  simp only
  rw [if_neg (by omega), if_pos (by omega), ofNat_eq (b := b₀) (by omega),
    ofNat_eq (b := b₁) (by omega)]

theorem ofChar_three (lead : 0xE0 ≤ b₀.toNat ∧ b₀.toNat < 0xF0)
    (second : secondOfThree b₀ b₁ = true) (third : isContinuation b₂ = true) :
    ofChar (Char.ofNat (b₀.toNat % 0x10 * 0x1000 + low b₁ * 0x40 + low b₂)) = [b₀, b₁, b₂] := by
  obtain ⟨continued, long, scalar⟩ := secondOfThree_iff.mp second
  have bounds := isContinuation_iff.mp continued
  have others := isContinuation_iff.mp third
  have number : b₀.toNat % 0x10 * 0x1000 + b₁.toNat % 0x40 * 0x40 + b₂.toNat % 0x40 < 0xD800 ∨
      0xDFFF < b₀.toNat % 0x10 * 0x1000 + b₁.toNat % 0x40 * 0x40 + b₂.toNat % 0x40 := by
    omega
  unfold ofChar low
  rw [toNat_ofNat (by omega)]
  simp only
  rw [if_neg (by omega), if_neg (by omega), if_pos (by omega), ofNat_eq (b := b₀) (by omega),
    ofNat_eq (b := b₁) (by omega), ofNat_eq (b := b₂) (by omega)]

theorem ofChar_four (lead : 0xF0 ≤ b₀.toNat ∧ b₀.toNat < 0xF5)
    (second : secondOfFour b₀ b₁ = true) (third : isContinuation b₂ = true)
    (fourth : isContinuation b₃ = true) :
    ofChar (Char.ofNat (b₀.toNat % 0x08 * 0x40000 + low b₁ * 0x1000 + low b₂ * 0x40 + low b₃)) =
      [b₀, b₁, b₂, b₃] := by
  obtain ⟨continued, long, point⟩ := secondOfFour_iff.mp second
  have bounds := isContinuation_iff.mp continued
  have others := isContinuation_iff.mp third
  have last := isContinuation_iff.mp fourth
  unfold ofChar low
  rw [toNat_ofNat (by omega)]
  simp only
  rw [if_neg (by omega), if_neg (by omega), if_neg (by omega), ofNat_eq (b := b₀) (by omega),
    ofNat_eq (b := b₁) (by omega), ofNat_eq (b := b₂) (by omega), ofNat_eq (b := b₃) (by omega)]

end Lead

def following (b : UInt8) : Nat :=
  if b.toNat < 0xC2 then 0
  else if b.toNat < 0xE0 then 1
  else if b.toNat < 0xF0 then 2
  else 3

section Following

variable {b : UInt8}

theorem following_one (short : b.toNat < 0xC2) : following b = 0 := if_pos short

theorem following_two (lead : 0xC2 ≤ b.toNat ∧ b.toNat < 0xE0) : following b = 1 := by
  rw [following, if_neg (by omega), if_pos lead.2]

theorem following_three (lead : 0xE0 ≤ b.toNat ∧ b.toNat < 0xF0) : following b = 2 := by
  rw [following, if_neg (by omega), if_neg (by omega), if_pos lead.2]

theorem following_four (lead : 0xF0 ≤ b.toNat) : following b = 3 := by
  rw [following, if_neg (by omega), if_neg (by omega), if_neg (by omega)]

end Following

/-- A first byte and continuation bytes make a character. The second byte keeps the character from
    being one that has a shorter form, a surrogate, or none at all. -/
structure WellFormed (b : UInt8) (tail : List UInt8) : Prop where
  lead : b.toNat < 0x80 ∨ 0xC2 ≤ b.toNat ∧ b.toNat < 0xF5
  length : tail.length = following b
  continued : ∀ c ∈ tail, isContinuation c = true
  second : ∀ c, tail.head? = some c → (b.toNat = 0xE0 → 0xA0 ≤ c.toNat) ∧
    (b.toNat = 0xED → c.toNat < 0xA0) ∧ (b.toNat = 0xF0 → 0x90 ≤ c.toNat) ∧
    (b.toNat = 0xF4 → c.toNat < 0x90)

theorem wellFormed_ofChar (c : Char) : ∃ b tail, ofChar c = b :: tail ∧ WellFormed b tail := by
  have valid : c.toNat < 0xD800 ∨ 0xDFFF < c.toNat ∧ c.toNat < 0x110000 := c.valid
  have toNat {n : Nat} (byte : n < 256) : (UInt8.ofNat n).toNat = n := UInt8.toNat_ofNat_of_lt' byte
  have last (n : Nat) : ∀ b ∈ [UInt8.ofNat (0x80 + n % 0x40)], isContinuation b = true :=
    List.forall_mem_singleton.mpr (isContinuation_ofNat n)
  unfold ofChar
  simp only
  split
  · have lead := toNat (n := c.toNat) (by omega)
    exact ⟨_, [], rfl, by omega, (following_one (by omega)).symm, nofun, nofun⟩
  split
  · have lead := toNat (n := 0xC0 + c.toNat / 0x40) (by omega)
    refine ⟨_, _, rfl, by omega, (following_two (by omega)).symm, last _, ?_⟩
    rintro _ ⟨⟩
    omega
  split
  · have lead := toNat (n := 0xE0 + c.toNat / 0x1000) (by omega)
    have second := toNat (n := 0x80 + c.toNat / 0x40 % 0x40) (by omega)
    refine ⟨_, _, rfl, by omega, (following_three (by omega)).symm,
      List.forall_mem_cons.mpr ⟨isContinuation_ofNat _, last _⟩, ?_⟩
    rintro _ ⟨⟩
    omega
  · have lead := toNat (n := 0xF0 + c.toNat / 0x40000) (by omega)
    have second := toNat (n := 0x80 + c.toNat / 0x1000 % 0x40) (by omega)
    refine ⟨_, _, rfl, by omega, (following_four (by omega)).symm, List.forall_mem_cons.mpr
      ⟨isContinuation_ofNat _, List.forall_mem_cons.mpr ⟨isContinuation_ofNat _, last _⟩⟩, ?_⟩
    rintro _ ⟨⟩
    omega

theorem WellFormed.exists_ofChar {b : UInt8} {tail : List UInt8} (formed : WellFormed b tail) :
    ∃ c, ofChar c = b :: tail := by
  obtain ⟨lead, length, continued, second⟩ := formed
  rcases lead with one | multiple
  · rw [following_one (by omega), List.length_eq_zero_iff] at length
    exact ⟨_, length ▸ ofChar_one one⟩
  by_cases two : b.toNat < 0xE0
  · rw [following_two (by omega), List.length_eq_one_iff] at length
    obtain ⟨b₁, rfl⟩ := length
    exact ⟨_, ofChar_two (by omega) (continued b₁ (by simp))⟩
  by_cases three : b.toNat < 0xF0
  · rw [following_three (by omega), List.length_eq_two] at length
    obtain ⟨b₁, b₂, rfl⟩ := length
    have allowed : secondOfThree b b₁ = true :=
      secondOfThree_iff.mpr ⟨continued b₁ (by simp), (second b₁ rfl).1, (second b₁ rfl).2.1⟩
    exact ⟨_, ofChar_three (by omega) allowed (continued b₂ (by simp))⟩
  · rw [following_four (by omega), List.length_eq_three] at length
    obtain ⟨b₁, b₂, b₃, rfl⟩ := length
    have allowed : secondOfFour b b₁ = true :=
      secondOfFour_iff.mpr ⟨continued b₁ (by simp), (second b₁ rfl).2.2⟩
    exact ⟨_, ofChar_four (by omega) allowed (continued b₂ (by simp)) (continued b₃ (by simp))⟩

inductive Malformed : List UInt8 → Prop
  /-- A continuation byte that continues nothing. -/
  | stray {b : UInt8} {rest : List UInt8} (continues : isContinuation b = true) :
    Malformed (b :: rest)
  /-- Two bytes, three or four for a character that needs fewer. -/
  | overlongTwo {b : UInt8} {rest : List UInt8} (lead : 0xC0 ≤ b.toNat ∧ b.toNat < 0xC2) :
    Malformed (b :: rest)
  | overlongThree {b c : UInt8} {rest : List UInt8} (lead : b.toNat = 0xE0)
    (second : 0x80 ≤ c.toNat ∧ c.toNat < 0xA0) : Malformed (b :: c :: rest)
  | overlongFour {b c : UInt8} {rest : List UInt8} (lead : b.toNat = 0xF0)
    (second : 0x80 ≤ c.toNat ∧ c.toNat < 0x90) : Malformed (b :: c :: rest)
  | surrogate {b c : UInt8} {rest : List UInt8} (lead : b.toNat = 0xED)
    (second : 0xA0 ≤ c.toNat ∧ c.toNat < 0xC0) : Malformed (b :: c :: rest)
  /-- A number beyond the greatest code point. -/
  | outOfRange {b c : UInt8} {rest : List UInt8} (lead : b.toNat = 0xF4)
    (second : 0x90 ≤ c.toNat ∧ c.toNat < 0xC0) : Malformed (b :: c :: rest)
  | farOutOfRange {b : UInt8} {rest : List UInt8} (lead : 0xF5 ≤ b.toNat) : Malformed (b :: rest)
  /-- Fewer continuation bytes than the first byte asks for. -/
  | truncated {b : UInt8} {tail rest : List UInt8} (short : tail.length < following b)
    (continued : ∀ c ∈ tail, isContinuation c = true)
    (ends : ∀ c, rest.head? = some c → isContinuation c = false) : Malformed (b :: (tail ++ rest))

theorem malformed_of_lead {b : UInt8} {rest : List UInt8}
    (lead : ¬ (b.toNat < 0x80 ∨ 0xC2 ≤ b.toNat ∧ b.toNat < 0xF5)) : Malformed (b :: rest) := by
  by_cases far : 0xF5 ≤ b.toNat
  · exact .farOutOfRange far
  by_cases long : 0xC0 ≤ b.toNat
  · exact .overlongTwo (by omega)
  · exact .stray (isContinuation_iff.mpr (by omega))

theorem malformed_of_second {b c : UInt8} {rest : List UInt8} (continues : isContinuation c = true)
    (second : ¬ ((b.toNat = 0xE0 → 0xA0 ≤ c.toNat) ∧ (b.toNat = 0xED → c.toNat < 0xA0) ∧
      (b.toNat = 0xF0 → 0x90 ≤ c.toNat) ∧ (b.toNat = 0xF4 → c.toNat < 0x90))) :
    Malformed (b :: c :: rest) := by
  have bounds := isContinuation_iff.mp continues
  by_cases three : b.toNat = 0xE0
  · exact .overlongThree three (by omega)
  by_cases scalar : b.toNat = 0xED
  · exact .surrogate scalar (by omega)
  by_cases four : b.toNat = 0xF0
  · exact .overlongFour four (by omega)
  · exact .outOfRange (by omega) (by omega)

theorem begins_or_malformed (b : UInt8) (rest : List UInt8) :
    (∃ c others, b :: rest = ofChar c ++ others) ∨ Malformed (b :: rest) := by
  by_cases lead : b.toNat < 0x80 ∨ 0xC2 ≤ b.toNat ∧ b.toNat < 0xF5
  · have parted := List.takeWhile_append_dropWhile (p := isContinuation) (l := rest)
    have run : ∀ c ∈ rest.takeWhile isContinuation, isContinuation c = true :=
      List.all_eq_true.mp List.all_takeWhile
    -- Only the continuation bytes that stand right behind `b` matter from here on.
    generalize rest.takeWhile isContinuation = tail at parted run
    by_cases short : tail.length < following b
    · right
      rw [← parted]
      refine .truncated short run fun c first => ?_
      have stops := List.head?_dropWhile_not isContinuation rest
      rw [first] at stops
      exact stops
    · have split : rest = tail.take (following b) ++
          (tail.drop (following b) ++ rest.dropWhile isContinuation) := by
        rw [← List.append_assoc, List.take_append_drop, parted]
      have length : (tail.take (following b)).length = following b :=
        List.length_take_of_le (Nat.le_of_not_lt short)
      have continued : ∀ c ∈ tail.take (following b), isContinuation c = true :=
        fun c member => run c (List.mem_of_mem_take member)
      rw [split]
      by_cases second : ∀ c, (tail.take (following b)).head? = some c →
          (b.toNat = 0xE0 → 0xA0 ≤ c.toNat) ∧ (b.toNat = 0xED → c.toNat < 0xA0) ∧
            (b.toNat = 0xF0 → 0x90 ≤ c.toNat) ∧ (b.toNat = 0xF4 → c.toNat < 0x90)
      · obtain ⟨c, bytes⟩ := WellFormed.exists_ofChar ⟨lead, length, continued, second⟩
        exact .inl ⟨c, _, by rw [bytes]; rfl⟩
      · right
        obtain ⟨c, failing⟩ := Classical.not_forall.mp second
        obtain ⟨first, wrong⟩ := Classical.not_imp.mp failing
        obtain ⟨others, same⟩ := List.head?_eq_some_iff.mp first
        rw [same]
        exact malformed_of_second (continued c (by rw [same]; exact List.mem_cons_self)) wrong
  · exact .inr (malformed_of_lead lead)

theorem Malformed.not_ofChar {bytes : List UInt8} (malformed : Malformed bytes) (c : Char)
    (others : List UInt8) : bytes ≠ ofChar c ++ others := by
  obtain ⟨b, tail, own, formed⟩ := wellFormed_ofChar c
  obtain ⟨lead, length, continued, second⟩ := formed
  have next {d : UInt8} {rest : List UInt8} (after : d :: rest = tail ++ others)
      (more : 0 < following b) : tail.head? = some d := by
    cases tail with
    | nil => exact absurd length (Nat.ne_of_lt more)
    | cons e tail => rw [(List.cons.inj after).1]; rfl
  have long (multiple : 0xE0 ≤ b.toNat) : 0 < following b := by
    by_cases three : b.toNat < 0xF0
    · rw [following_three ⟨multiple, three⟩]
      decide
    · rw [following_four (Nat.le_of_not_lt three)]
      decide
  rw [own]
  intro same
  cases malformed with
  | stray continues =>
    obtain ⟨rfl, -⟩ := List.cons.inj same
    have bounds := isContinuation_iff.mp continues
    omega
  | overlongTwo | farOutOfRange =>
    obtain ⟨rfl, -⟩ := List.cons.inj same
    omega
  | overlongThree | overlongFour | surrogate | outOfRange =>
    obtain ⟨rfl, after⟩ := List.cons.inj same
    have allowed := second _ (next after (long (by omega)))
    omega
  | truncated short continues ends =>
    obtain ⟨rfl, after⟩ := List.cons.inj same
    -- The continuation bytes that are there and those of the character begin the same bytes.
    rcases List.append_eq_append_iff.mp after with ⟨more, longer, later⟩ | ⟨more, shorter, -⟩
    · cases more with
      | nil =>
        rw [longer, List.append_nil] at length
        exact absurd length (Nat.ne_of_lt short)
      | cons d more =>
        have inside := continued d (by rw [longer]; simp)
        have outside := ends d (by rw [later]; rfl)
        exact absurd inside (Bool.eq_false_iff.mp outside)
    · rw [shorter, List.length_append] at short
      omega

theorem not_malformed_nil : ¬ Malformed [] := nofun

/-- Characters can be taken from the front of every byte sequence until nothing is left or what is
    left is malformed. -/
theorem exists_parting (bytes : List UInt8) :
    ∃ (cs : List Char) (rest : List UInt8), bytes = cs.flatMap ofChar ++ rest ∧
      (rest = [] ∨ Malformed rest) := by
  -- On the length, since a character takes a byte at least.
  induction length : bytes.length using Nat.strongRecOn generalizing bytes with
  | ind n ih =>
    cases bytes with
    | nil => exact ⟨[], [], rfl, .inl rfl⟩
    | cons b bytes =>
      rcases begins_or_malformed b bytes with ⟨c, others, begins⟩ | malformed
      · obtain ⟨d, tail, own, -⟩ := wellFormed_ofChar c
        have shorter : others.length < n := by
          rw [← length, begins, own, List.length_append, List.length_cons]
          omega
        obtain ⟨cs, rest, parted, ends⟩ := ih _ shorter others rfl
        refine ⟨c :: cs, rest, ?_, ends⟩
        rw [begins, parted, List.flatMap_cons, List.append_assoc]
      · exact ⟨[], _, rfl, .inr malformed⟩

theorem eq_flatMap_of_decodeFrom {start : Nat} {bytes : List UInt8} {cs : List Char}
    (decoded : decodeFrom start bytes = .ok cs) : bytes = cs.flatMap ofChar := by
  fun_induction decodeFrom start bytes generalizing cs with
  | case1 start =>
    cases decoded
    rfl
  | case2 start b₀ rest ascii ih =>
    obtain ⟨cs, later, rfl⟩ := map_eq_ok.mp decoded
    rw [List.flatMap_cons, ofChar_one (UInt8.lt_iff_toNat_lt.mp ascii), ← ih later]
    rfl
  | case5 start b₀ _ low two b₁ rest second ih =>
    obtain ⟨cs, later, rfl⟩ := map_eq_ok.mp decoded
    have lead : 0xC2 ≤ b₀.toNat ∧ b₀.toNat < 0xE0 :=
      ⟨UInt8.le_iff_toNat_le.mp (UInt8.not_lt.mp low), UInt8.lt_iff_toNat_lt.mp two⟩
    rw [List.flatMap_cons, ofChar_two lead second, ← ih later]
    rfl
  | case9 start b₀ _ _ low three b₁ second b₂ rest third ih =>
    obtain ⟨cs, later, rfl⟩ := map_eq_ok.mp decoded
    have lead : 0xE0 ≤ b₀.toNat ∧ b₀.toNat < 0xF0 :=
      ⟨UInt8.le_iff_toNat_le.mp (UInt8.not_lt.mp low), UInt8.lt_iff_toNat_lt.mp three⟩
    rw [List.flatMap_cons, ofChar_three lead second third, ← ih later]
    rfl
  | case15 start b₀ _ _ _ low four b₁ second b₂ third b₃ rest fourth ih =>
    obtain ⟨cs, later, rfl⟩ := map_eq_ok.mp decoded
    have lead : 0xF0 ≤ b₀.toNat ∧ b₀.toNat < 0xF5 :=
      ⟨UInt8.le_iff_toNat_le.mp (UInt8.not_lt.mp low), UInt8.lt_iff_toNat_lt.mp four⟩
    rw [List.flatMap_cons, ofChar_four lead second third fourth, ← ih later]
    rfl
  | _ => cases decoded

theorem decodeFrom_append (cs : List Char) (rest : List UInt8) (start : Nat) :
    decodeFrom start (cs.flatMap ofChar ++ rest) =
      (cs ++ ·) <$> decodeFrom (start + (cs.flatMap ofChar).length) rest := by
  induction cs generalizing start with
  | nil =>
    show decodeFrom start rest = (fun ds => ds) <$> decodeFrom start rest
    cases decodeFrom start rest <;> rfl
  | cons c cs ih =>
    rw [List.flatMap_cons, List.append_assoc, decodeFrom_ofChar, ih, List.length_append, Nat.add_assoc]
    cases decodeFrom (start + ((ofChar c).length + (cs.flatMap ofChar).length)) rest <;> rfl

theorem decode_eq_ok_iff {bytes : List UInt8} {t : Text} :
    decode bytes = .ok t ↔ encode t = .ok bytes := by
  refine ⟨fun decoded => ?_, decode_of_encode⟩
  obtain ⟨cs, characters, rfl⟩ := map_eq_ok.mp decoded
  exact encode_eq_ok_iff.mpr ⟨cs, rfl, eq_flatMap_of_decodeFrom characters⟩

theorem decode_eq_error_iff {bytes : List UInt8} : (∃ fault, decode bytes = .error fault) ↔
    ∃ (cs : List Char) (rest : List UInt8), bytes = cs.flatMap ofChar ++ rest ∧ Malformed rest := by
  constructor
  · rintro ⟨fault, failed⟩
    obtain ⟨cs, rest, rfl, rfl | malformed⟩ := exists_parting bytes
    · rw [List.append_nil, decode, decodeFrom_flatMap] at failed
      cases failed
    · exact ⟨cs, rest, rfl, malformed⟩
  · rintro ⟨cs, rest, rfl, malformed⟩
    cases decoded : decode (cs.flatMap ofChar ++ rest) with
    | error fault => exact ⟨fault, rfl⟩
    | ok t =>
      obtain ⟨characters, read, -⟩ := map_eq_ok.mp decoded
      rw [decodeFrom_append] at read
      obtain ⟨ds, later, -⟩ := map_eq_ok.mp read
      have bytes := eq_flatMap_of_decodeFrom later
      -- What is malformed would be the encoding of `ds`.
      cases ds with
      | nil =>
        rw [bytes] at malformed
        exact absurd malformed not_malformed_nil
      | cons d ds => exact absurd bytes (malformed.not_ofChar d _)

end Utf8

end QueryDesk
