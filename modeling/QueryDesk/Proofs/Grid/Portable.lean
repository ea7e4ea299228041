import QueryDesk.Datum.Basic
import QueryDesk.Proofs.Text.Padded

namespace QueryDesk

/-- A datum that any client can be handed. Flags are not portable, and neither are numbers that are not
    finite. -/
inductive Datum.IsPortable : Datum → Prop
  | null : IsPortable .null
  | int (n : Int) : IsPortable (.int n)
  | float {x : Binary64} (finite : x.isFinite = true) : IsPortable (.float x)
  | text {t : Text} (scalars : ∀ p ∈ t, p.isScalar = true) : IsPortable (.text t)

def Value.IsPortable (v : Value) : Prop := v.toDatum.IsPortable

section Temporal

def isTemporalChar (c : Char) : Bool := c.isDigit || "-:.+T".toList.contains c

theorem over_padded (width n : Nat) : Text.Over isTemporalChar (Text.padded width n) :=
  (Text.isDigit_padded width n).mono fun c digit => by simp [isTemporalChar, digit]

theorem over_fractionText (micro : Nat) : Text.Over isTemporalChar (fractionText micro) := by
  unfold fractionText
  split
  · exact Text.over_nil
  · exact Text.over_cons_iff.mpr ⟨by decide, over_padded _ _⟩

theorem Date.over_toText (d : Date) : Text.Over isTemporalChar d.toText := by
  have dash : Text.Over isTemporalChar "-" := Text.over_ofString (by decide)
  have month := ((over_padded 4 d.year).append dash).append (over_padded 2 d.month)
  exact (month.append dash).append (over_padded 2 d.day)

theorem UtcOffset.over_toText (o : UtcOffset) : Text.Over isTemporalChar o.toText := by
  have colon : Text.Over isTemporalChar ":" := Text.over_ofString (by decide)
  have hour (n : Nat) : Text.Over isTemporalChar
      (.scalar (if o.micros < 0 then '-' else '+') :: Text.padded 2 n) := by
    refine Text.over_cons_iff.mpr ⟨?_, over_padded 2 n⟩
    split <;> decide
  unfold toText
  refine (((hour _).append colon).append (over_padded _ _)).append ?_
  split
  · exact Text.over_nil
  · exact (Text.over_cons_iff.mpr ⟨by decide, over_padded 2 _⟩).append (over_fractionText _)

theorem TimeOfDay.over_toText (t : TimeOfDay) : Text.Over isTemporalChar t.toText := by
  have colon : Text.Over isTemporalChar ":" := Text.over_ofString (by decide)
  have clock := (((over_padded 2 t.hour).append colon).append (over_padded 2 t.minute)).append colon
  have whole := (clock.append (over_padded 2 t.second)).append (over_fractionText t.micro)
  refine whole.append ?_
  cases t.offset with
  | none => exact Text.over_nil
  | some o => exact o.over_toText

end Temporal

theorem Text.isScalar_wellFormed (t : Text) : ∀ p ∈ t.wellFormed, p.isScalar = true := by
  intro p member
  obtain ⟨q, _, rfl⟩ := List.mem_map.mp member
  cases q <;> rfl

theorem Value.portable_ofFloat (x : Binary64) : (ofFloat x).IsPortable := by
  unfold ofFloat
  split
  · exact .float ‹_›
  · exact .int 0

theorem Value.portable_ofCell {cell : Datum} {v : Value} (converted : ofCell? cell = some v) :
    v.IsPortable := by
  have mark {t : Text} (solid : Text.Over (fun _ => true) t) : (Value.text t).IsPortable :=
    .text solid.isScalar
  cases cell with
  | null => cases converted; exact .null
  | bool b => cases converted; exact .int _
  | int n => cases converted; exact .int n
  | float x => cases converted; exact portable_ofFloat x
  | decimal d =>
    obtain ⟨x, _, rfl⟩ := Option.map_eq_some_iff.mp converted
    exact portable_ofFloat x
  | text t => cases converted; exact .text t.isScalar_wellFormed
  | date d => cases converted; exact .text d.over_toText.isScalar
  | time t => cases converted; exact .text t.over_toText.isScalar
  | timestamp d t =>
    cases converted
    have letter : Text.Over isTemporalChar "T" := Text.over_ofString (by decide)
    exact .text ((d.over_toText.append letter).append t.over_toText).isScalar
  | _ => cases converted; exact mark (Text.over_ofString (by decide))

end QueryDesk
