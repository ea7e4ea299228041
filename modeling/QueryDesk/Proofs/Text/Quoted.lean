import QueryDesk.Proofs.Text.Basic
import QueryDesk.Text.Quoted

namespace QueryDesk

def isSolid (c : Char) : Bool := c != '\x00'

namespace Point

theorem toNat_lt (p : Point) : p.toNat < 0x110000 := by
  cases p with
  | scalar c =>
    have valid : c.toNat < 0xD800 ∨ 0xDFFF < c.toNat ∧ c.toNat < 0x110000 := c.valid
    simp only [toNat]
    omega
  | surrogate n => simp only [toNat]; omega

theorem ofNat?_toNat (p : Point) : ofNat? p.toNat = some p := by
  cases p with
  | scalar c =>
    have valid : c.toNat < 0xD800 ∨ 0xDFFF < c.toNat ∧ c.toNat < 0x110000 := c.valid
    have scalar : ¬ (0xD800 ≤ c.toNat ∧ c.toNat < 0xE000) := by omega
    have point : c.toNat < 0x110000 := by omega
    simp only [ofNat?, toNat, dif_neg scalar, if_pos point, Char.ofNat_toNat]
  | surrogate n =>
    have surrogates : 0xD800 ≤ 0xD800 + n.val ∧ 0xD800 + n.val < 0xE000 := by omega
    simp only [ofNat?, toNat, dif_pos surrogates, Nat.add_sub_cancel_left]

theorem isSolid_of_isPrintable (p : Point) (printable : p.isPrintable = true) :
    p.satisfies isSolid = true := by
  cases p with
  | surrogate n => rw [isPrintable_surrogate] at printable; cases printable
  | scalar c =>
    by_cases zero : c = '\x00'
    · subst zero
      exact absurd printable (by decide)
    · simp [satisfies, char?, isSolid, zero]

end Point

namespace Text

def hexValue (c : Char) : Nat := if c.toNat < 58 then c.toNat - 48 else c.toNat - 87

theorem hexValue_hexDigit {n : Nat} (digit : n < 16) : hexValue (hexDigit n) = n := by
  have all : ∀ n : Fin 16, hexValue (hexDigit n.val) = n.val := by decide
  exact all ⟨n, digit⟩

theorem isSolid_hexDigit {n : Nat} (digit : n < 16) : isSolid (hexDigit n) = true := by
  have all : ∀ n : Fin 16, isSolid (hexDigit n.val) = true := by decide
  exact all ⟨n, digit⟩

@[simp]
theorem length_hex (width n : Nat) : (hex width n).length = width := by
  induction width generalizing n with
  | zero => rfl
  | succ width ih => simp [hex, ih]

theorem over_hex (width n : Nat) : Over isSolid (hex width n) := by
  induction width generalizing n with
  | zero => exact over_nil
  | succ width ih =>
    refine (ih _).append (over_cons_iff.mpr ⟨?_, over_nil⟩)
    exact isSolid_hexDigit (Nat.mod_lt n (by decide))

def ofHex (t : Text) : Nat := t.foldl (fun n p => 16 * n + (p.char?.elim 0 hexValue)) 0

theorem ofHex_snoc (t : Text) (c : Char) :
    ofHex (t ++ [.scalar c]) = 16 * ofHex t + hexValue c := by
  simp [ofHex, Point.char?]

theorem ofHex_hex {width n : Nat} (bound : n < Nat.pow 16 width) : ofHex (hex width n) = n := by
  induction width generalizing n with
  | zero =>
    have zero : n = 0 := Nat.lt_one_iff.mp bound
    rw [zero]
    rfl
  | succ width ih =>
    have shorter : n / 16 < Nat.pow 16 width := by
      have next : Nat.pow 16 (width + 1) = Nat.pow 16 width * 16 := rfl
      omega
    rw [hex, ofHex_snoc, ih shorter, hexValue_hexDigit (Nat.mod_lt n (by decide))]
    omega

def readHex (width : Nat) (t : Text) : Option (Point × Text) :=
  (Point.ofNat? (ofHex (t.take width))).map fun p => (p, t.drop width)

theorem readHex_hex {p : Point} {width : Nat} (bound : p.toNat < Nat.pow 16 width) (rest : Text) :
    readHex width (hex width p.toNat ++ rest) = some (p, rest) := by
  have front : (hex width p.toNat ++ rest).take width = hex width p.toNat := by
    rw [List.take_append_of_le_length (by simp)]
    exact List.take_of_length_le (by simp)
  have back : (hex width p.toNat ++ rest).drop width = rest := by
    rw [List.drop_append_of_le_length (by simp)]
    simp
  rw [readHex, front, back, ofHex_hex bound, Point.ofNat?_toNat]
  rfl

def unescape : Text → Option (Point × Text)
  | [] => none
  | p :: rest =>
    if p = .scalar '\\' then
      match rest with
      | [] => none
      | q :: rest =>
        if q = .scalar 't' then some (.scalar '\t', rest)
        else if q = .scalar 'n' then some (.scalar '\n', rest)
        else if q = .scalar 'r' then some (.scalar '\r', rest)
        else if q = .scalar 'x' then readHex 2 rest
        else if q = .scalar 'u' then readHex 4 rest
        else if q = .scalar 'U' then readHex 8 rest
        else some (q, rest)
    else some (p, rest)

theorem unescape_numericEscape (p : Point) (rest : Text) :
    unescape (numericEscape p.toNat ++ rest) = some (p, rest) := by
  have point := p.toNat_lt
  unfold numericEscape
  split
  · exact readHex_hex (by simpa using ‹p.toNat < 0x100›) rest
  split
  · exact readHex_hex (by simpa using ‹p.toNat < 0x10000›) rest
  · exact readHex_hex (Nat.lt_trans point (by decide)) rest

theorem unescape_escapePoint {mark : Char} (quotes : mark = '\'' ∨ mark = '"') (p : Point)
    (rest : Text) : unescape (escapePoint mark p ++ rest) = some (p, rest) := by
  unfold escapePoint
  split
  · rename_i itself
    rcases itself with rfl | rfl
    · rcases quotes with rfl | rfl <;> rfl
    · rfl
  rename_i other
  split
  · rename_i tab
    subst tab
    rfl
  split
  · rename_i feed
    subst feed
    rfl
  split
  · rename_i carriage
    subst carriage
    rfl
  split
  · have plain : p ≠ .scalar '\\' := fun same => other (.inr same)
    simp only [List.singleton_append, unescape, if_neg plain]
  · exact unescape_numericEscape p rest

theorem markFor_eq (t : Text) : t.markFor = '\'' ∨ t.markFor = '"' := by
  unfold markFor
  cases t.contains (.scalar '\'') <;> cases t.contains (.scalar '"') <;> decide

theorem escapePoint_leaves {mark : Char} (quotes : mark = '\'' ∨ mark = '"') (p : Point)
    (rest : Text) : (escapePoint mark p ++ rest).head? ≠ some (.scalar mark) := by
  have slash : mark ≠ '\\' := by rcases quotes with rfl | rfl <;> decide
  have escapes {t : Text} : (.scalar '\\' :: t : Text).head? ≠ some (.scalar mark) := by
    intro same
    exact slash (Point.scalar.inj (Option.some.inj same)).symm
  unfold escapePoint
  split
  · exact escapes
  rename_i other
  split
  · exact escapes
  split
  · exact escapes
  split
  · exact escapes
  split
  · intro same
    exact other (.inl (Option.some.inj same))
  · unfold numericEscape
    split
    · exact escapes
    split <;> exact escapes

theorem escaped_append_cancel {mark : Char} (quotes : mark = '\'' ∨ mark = '"') {t u r s : Text}
    (same : t.flatMap (escapePoint mark) ++ .scalar mark :: r =
      u.flatMap (escapePoint mark) ++ .scalar mark :: s) : t = u ∧ r = s := by
  induction t generalizing u with
  | nil =>
    cases u with
    | nil => exact ⟨rfl, (List.cons.inj same).2⟩
    | cons q u =>
      rw [List.flatMap_cons, List.append_assoc] at same
      exact absurd (congrArg List.head? same.symm) (escapePoint_leaves quotes q _)
  | cons p t ih =>
    cases u with
    | nil =>
      rw [List.flatMap_cons, List.append_assoc] at same
      exact absurd (congrArg List.head? same) (escapePoint_leaves quotes p _)
    | cons q u =>
      rw [List.flatMap_cons, List.append_assoc, List.flatMap_cons, List.append_assoc] at same
      have fronts := congrArg unescape same
      rw [unescape_escapePoint quotes, unescape_escapePoint quotes] at fronts
      obtain ⟨rfl, rest⟩ := Prod.mk.inj (Option.some.inj fronts)
      obtain ⟨rfl, rfl⟩ := ih rest
      exact ⟨rfl, rfl⟩

theorem quoted_append_cancel {t u r s : Text} (same : t.quoted ++ r = u.quoted ++ s) :
    t = u ∧ r = s := by
  simp only [quoted, List.cons_append, List.append_assoc] at same
  obtain ⟨mark, rest⟩ := List.cons.inj same
  rw [Point.scalar.inj mark] at rest
  exact escaped_append_cancel (markFor_eq _) rest

theorem over_escapePoint {mark : Char} (quotes : mark = '\'' ∨ mark = '"') (p : Point) :
    Over isSolid (escapePoint mark p) := by
  unfold escapePoint
  split
  · rename_i itself
    refine over_cons_iff.mpr ⟨by decide, over_cons_iff.mpr ⟨?_, over_nil⟩⟩
    rcases itself with rfl | rfl
    · rcases quotes with rfl | rfl <;> decide
    · decide
  split
  · exact over_ofString (by decide)
  split
  · exact over_ofString (by decide)
  split
  · exact over_ofString (by decide)
  split
  · rename_i printable
    exact over_cons_iff.mpr ⟨p.isSolid_of_isPrintable printable, over_nil⟩
  · unfold numericEscape
    split
    · exact (over_ofString (by decide)).append (over_hex _ _)
    split <;> exact (over_ofString (by decide)).append (over_hex _ _)

theorem over_quoted (t : Text) : Over isSolid t.quoted := by
  have quotes := t.markFor_eq
  have mark : Over isSolid [.scalar t.markFor] := by
    refine over_cons_iff.mpr ⟨?_, over_nil⟩
    rcases quotes with quote | quote <;> rw [quote] <;> rfl
  exact (mark.append (over_flatMap fun p _ => over_escapePoint quotes p)).append mark

end Text

end QueryDesk
