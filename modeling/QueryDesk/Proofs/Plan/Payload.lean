import QueryDesk.Plan.Order
import QueryDesk.Proofs.Text.Malformed

namespace QueryDesk

def Datum.encoded? : Datum → Option (List UInt8)
  | .bytes b | .buffer b => some b
  | _ => none

/-- The bytes are those of a string, and the text has its characters. -/
def Text.EncodedAs (t : Text) (bytes : List UInt8) : Prop :=
  ∃ s : String, t = .ofString s ∧ bytes = s.toUTF8.data.toList

theorem Text.encodedAs_iff {t : Text} {bytes : List UInt8} :
    t.EncodedAs bytes ↔ Utf8.encode t = .ok bytes :=
  Utf8.encode_eq_ok_iff_toUTF8.symm

namespace Plan

section Encoded

variable {payload : Datum} {bytes : List UInt8} (given : payload.encoded? = some bytes)

include given

theorem textOf_encoded : textOf payload =
    match Utf8.decode bytes with
    | .ok t => .ok (.text t)
    | .error fault => .error (.refused (.encoding fault)) := by
  cases payload with
  | bytes b | buffer b =>
    cases given
    rfl
  | _ => cases given

theorem textOf_eq_ok_iff {d : Datum} :
    textOf payload = .ok d ↔ ∃ t : Text, d = .text t ∧ t.EncodedAs bytes := by
  rw [textOf_encoded given]
  cases decoded : Utf8.decode bytes with
  | ok t =>
    have encoded := Text.encodedAs_iff.mpr (Utf8.decode_eq_ok_iff.mp decoded)
    constructor
    · rintro ⟨⟩
      exact ⟨t, rfl, encoded⟩
    · rintro ⟨u, rfl, other⟩
      have same := decoded.symm.trans (Utf8.decode_of_encode (Text.encodedAs_iff.mp other))
      cases same
      rfl
  | error fault =>
    refine iff_of_false nofun ?_
    rintro ⟨t, -, encoded⟩
    cases decoded.symm.trans (Utf8.decode_of_encode (Text.encodedAs_iff.mp encoded))

theorem textOf_eq_error_iff {failure : Failure} : textOf payload = .error failure ↔
    ∃ fault, failure = .refused (.encoding fault) ∧ Utf8.decode bytes = .error fault := by
  rw [textOf_encoded given]
  cases Utf8.decode bytes with
  | ok t => exact iff_of_false nofun (by rintro ⟨fault, -, failed⟩; cases failed)
  | error fault =>
    constructor
    · rintro ⟨⟩
      exact ⟨fault, rfl, rfl⟩
    · rintro ⟨_, rfl, ⟨⟩⟩
      rfl

theorem textOf_refused_iff : (∃ fault, textOf payload = .error (.refused (.encoding fault))) ↔
    ∃ fault, Utf8.decode bytes = .error fault := by
  refine exists_congr fun fault => (textOf_eq_error_iff given).trans ?_
  constructor
  · rintro ⟨_, ⟨⟩, failed⟩
    exact failed
  · exact fun failed => ⟨fault, rfl, failed⟩

theorem refused_iff_not_encoding :
    (∃ fault, textOf payload = .error (.refused (.encoding fault))) ↔
      ¬ ∃ t : Text, t.EncodedAs bytes := by
  rw [textOf_refused_iff given]
  simp only [Text.encodedAs_iff, ← Utf8.decode_eq_ok_iff]
  cases Utf8.decode bytes with
  | ok t => exact iff_of_false nofun (not_not_intro ⟨t, rfl⟩)
  | error fault => exact iff_of_true ⟨fault, rfl⟩ nofun

theorem refused_iff_malformed :
    (∃ fault, textOf payload = .error (.refused (.encoding fault))) ↔
      ∃ (s : String) (rest : List UInt8),
        bytes = s.toUTF8.data.toList ++ rest ∧ Utf8.Malformed rest := by
  rw [textOf_refused_iff given, Utf8.decode_eq_error_iff]
  constructor
  · rintro ⟨cs, rest, parted, malformed⟩
    refine ⟨.ofList cs, rest, ?_, malformed⟩
    rw [← Utf8.flatMap_ofChar_toList, String.toList_ofList, parted]
  · rintro ⟨s, rest, parted, malformed⟩
    refine ⟨s.toList, rest, ?_, malformed⟩
    rw [Utf8.flatMap_ofChar_toList, parted]

end Encoded

/-- An encoded payload is read as the text whose encoding it is, and refused exactly when there is no
    such text, which is when it is malformed somewhere; there is no other failure. Every text of
    characters is read from its encoding, and every text that was read is encoded as the payload. A
    text is read as itself. -/
theorem textOf_inverse :
    (∀ payload bytes, payload.encoded? = some bytes →
      (∀ d, textOf payload = .ok d ↔ ∃ t : Text, d = .text t ∧ t.EncodedAs bytes) ∧
      ((∃ failure, textOf payload = .error failure) →
        ∃ fault, textOf payload = .error (.refused (.encoding fault))) ∧
      ((∃ fault, textOf payload = .error (.refused (.encoding fault))) ↔
        ¬ ∃ t : Text, t.EncodedAs bytes) ∧
      ((∃ fault, textOf payload = .error (.refused (.encoding fault))) ↔
        ∃ (s : String) (rest : List UInt8),
          bytes = s.toUTF8.data.toList ++ rest ∧ Utf8.Malformed rest) ∧
      ∀ t, textOf payload = .ok (.text t) → Utf8.encode t = .ok bytes) ∧
    (∀ t : Text, (∀ p ∈ t, p.isScalar = true) → ∃ bytes, Utf8.encode t = .ok bytes ∧
      ∀ payload, payload.encoded? = some bytes → textOf payload = .ok (.text t)) ∧
    ∀ t, textOf (.text t) = .ok (.text t) := by
  refine ⟨fun payload bytes given => ⟨fun d => textOf_eq_ok_iff given, ?_,
    refused_iff_not_encoding given, refused_iff_malformed given, fun t read => ?_⟩,
    fun t scalars => ?_, fun t => rfl⟩
  · rintro ⟨failure, failed⟩
    obtain ⟨fault, rfl, -⟩ := (textOf_eq_error_iff given).mp failed
    exact ⟨fault, failed⟩
  · obtain ⟨_, ⟨⟩, encodes⟩ := (textOf_eq_ok_iff given).mp read
    exact Text.encodedAs_iff.mp encodes
  · obtain ⟨bytes, encoded⟩ := Utf8.encode_of_isScalar scalars
    refine ⟨bytes, encoded, fun payload given => ?_⟩
    exact (textOf_eq_ok_iff given).mpr ⟨t, rfl, Text.encodedAs_iff.mpr encoded⟩

/-- The two bytes of an accented letter are read as that letter; the three that would be a surrogate
    are refused. -/
theorem textOf_inverse_letter :
    textOf (.bytes [0xC3, 0xA9]) = .ok (.text "é") ∧
    ∃ fault, textOf (.buffer [0x41, 0xED, 0xA0, 0x80]) = .error (.refused (.encoding fault)) := by
  obtain ⟨reads, -, -⟩ := textOf_inverse
  obtain ⟨letter, -⟩ := reads (.bytes [0xC3, 0xA9]) _ rfl
  obtain ⟨-, -, -, malformed, -⟩ := reads (.buffer [0x41, 0xED, 0xA0, 0x80]) _ rfl
  have surrogate : Utf8.Malformed [0xED, 0xA0, 0x80] := .surrogate (by decide) (by decide)
  exact ⟨(letter _).mpr ⟨_, rfl, "é", rfl, rfl⟩,
    malformed.mpr ⟨"A", [0xED, 0xA0, 0x80], by rfl, surrogate⟩⟩

end Plan

end QueryDesk
