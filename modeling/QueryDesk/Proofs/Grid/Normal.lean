import QueryDesk.Proofs.Grid.Shapes
import QueryDesk.Proofs.Text.Utf8

namespace QueryDesk

namespace Text

/-- The second text has a question mark in place of each surrogate of the first one, and otherwise the
    same characters in the same places. -/
structure Mended (t u : Text) : Prop where
  length : u.length = t.length
  surrogate : ∀ (i : Nat) (n : Fin 2048), t[i]? = some (.surrogate n) → u[i]? = some (.scalar '?')
  scalar : ∀ (i : Nat) (c : Char), t[i]? = some (.scalar c) → u[i]? = some (.scalar c)

variable {t : Text}

theorem mended_wellFormed (t : Text) : t.Mended t.wellFormed where
  length := List.length_map _
  surrogate i n there := by simp [wellFormed, there]
  scalar i c there := by simp [wellFormed, there]

theorem wellFormed_eq_self_iff : t.wellFormed = t ↔ ∀ p ∈ t, p.isScalar = true := by
  constructor
  · intro same
    rw [← same]
    exact isScalar_wellFormed t
  · intro scalars
    obtain ⟨cs, rfl⟩ := exists_ofChars scalars
    simp [wellFormed, ofChars]

end Text

namespace Value

variable {cell : Datum} {v : Value} {cells : List Datum} {row : List Value}

theorem ofCell_eq_error_iff {failure : Failure} : ofCell cell = .error failure ↔
    failure = .signallingCell ∧ cell.isSignalling = true := by
  cases sound : cell.isSignalling with
  | false => simp [ofCell_eq sound]
  | true =>
    obtain ⟨negative, payload, rfl⟩ := Datum.isSignalling_iff.mp sound
    exact ⟨fun failed => ⟨(Except.error.inj failed).symm, rfl⟩, fun same => by rw [same.1]; rfl⟩

theorem isOf_toDatum_iff : v.IsOf v.toDatum ↔ v.IsPortable := by
  refine ⟨IsOf.portable, fun portable => ?_⟩
  cases v with
  | null => rfl
  | int n => rfl
  | float x =>
    cases portable with
    | float finite => exact congrArg some (if_pos finite)
  | text t =>
    cases portable with
    | text scalars => exact congrArg (some ∘ text) (Text.wellFormed_eq_self_iff.mpr scalars)

theorem ofRow_toDatum (converted : ofRow cells = .ok row) : ofRow (row.map toDatum) = .ok row := by
  have shown := ofRow_eq_ok.mp converted
  rw [ofRow_eq_ok, List.forall₂_map_left_iff, List.forall₂_same]
  intro v member
  obtain ⟨cell, -, own⟩ := exists_of_forall₂ shown member
  exact isOf_toDatum_iff.mpr own.portable

end Value

namespace KeyedRecord

/-- The keys and the values of a record, as the columns and the cells of a row. -/
def asColumns (r : KeyedRecord) : List Datum := r.map fun entry => entry.1.datum

def asCells (r : KeyedRecord) : List Datum := r.map fun entry => entry.2.toDatum

variable {columns cells : List Datum} {row : List Value} {r : KeyedRecord}

theorem ofRow_self (made : ofRow columns cells = .ok r) :
    ofRow r.asColumns r.asCells = .ok r := by
  obtain ⟨entries, converted, rfl⟩ := map_eq_ok.mp made
  have shown := mapM_eq_ok.mp converted
  have each (e) (member : e ∈ entries) :
      e.2.IsPortable ∧ Key.isConstant e.1.datum = true := by
    obtain ⟨pair, -, own⟩ := exists_of_forall₂ shown member
    obtain ⟨key, value, constant⟩ := entry_eq_ok_iff.mp own
    rw [key]
    exact ⟨value.portable, constant⟩
  have portable := OrderedMap.forall_ofList fun e member => (each e member).1
  have constant := OrderedMap.forall_keys_ofList (P := fun key : Key => Key.isConstant key.datum = true)
    fun e member => (each e member).2
  refine map_eq_ok.mpr ⟨OrderedMap.ofList entries, ?_,
    OrderedMap.ofList_of_apart (OrderedMap.apart_ofList entries)⟩
  rw [asColumns, asCells, List.zip_map', mapM_eq_ok, List.forall₂_map_left_iff, List.forall₂_same]
  exact fun e member => entry_eq_ok_iff.mpr
    ⟨rfl, Value.isOf_toDatum_iff.mpr (portable e member), constant e member⟩

theorem ofRow_toDatum (columns : List Datum) (converted : Value.ofRow cells = .ok row) :
    ofRow columns (row.map Value.toDatum) = ofRow columns cells := by
  have shown := Value.ofRow_eq_ok.mp converted
  clear converted
  unfold ofRow
  congr 1
  induction shown generalizing columns with
  | nil => rfl
  | @cons cell v cells row own _ ih =>
    cases columns with
    | nil => rfl
    | cons column columns =>
      have value : Value.ofCell v.toDatum = Value.ofCell cell := by
        rw [Value.ofCell_eq_ok.mpr own]
        exact Value.ofCell_eq_ok.mpr (Value.isOf_toDatum_iff.mpr own.portable)
      have first : entry column v.toDatum = entry column cell := by simp only [entry, value]
      simp only [List.map_cons, List.zip_cons_cons, List.mapM_cons, first, ih columns]

end KeyedRecord

/-- Every cell but a signalling not-a-number has a value: null, an integer, a finite number or a text
    without surrogates. A value is converted to itself, and so rows and records of values are left as
    they are. A text is shown with a question mark for each surrogate, which is the same text exactly
    when it can be encoded; integers and finite numbers are shown as they are. -/
theorem Value.conversion_normalizes :
    (∀ cell failure, ofCell cell = .error failure ↔ failure = .signallingCell ∧
      ∃ negative payload, cell = .decimal (.nan negative true payload)) ∧
    (∀ cell v, ofCell cell = .ok v → v.IsPortable ∧ ofCell v.toDatum = .ok v) ∧
    (∀ cells row, ofRow cells = .ok row → ofRow (row.map toDatum) = .ok row ∧
      ∀ columns, KeyedRecord.ofRow columns (row.map toDatum) = KeyedRecord.ofRow columns cells) ∧
    (∀ columns cells r, KeyedRecord.ofRow columns cells = .ok r →
      KeyedRecord.ofRow r.asColumns r.asCells = .ok r) ∧
    (∀ t : Text, ∃ u, ofCell (.text t) = .ok (.text u) ∧ t.Mended u ∧
      (u = t ↔ ∃ bytes, Utf8.encode t = .ok bytes)) ∧
    (∀ n, ofCell (.int n) = .ok (.int n)) ∧
    ∀ x, x.isFinite = true → ofCell (.float x) = .ok (.float x) := by
  refine ⟨fun cell failure => ?_, fun cell v converted => ?_, fun cells row converted => ?_,
    fun columns cells r => KeyedRecord.ofRow_self, fun t => ?_, fun n => rfl, fun x finite => ?_⟩
  · rw [ofCell_eq_error_iff, Datum.isSignalling_iff]
  · have portable := (ofCell_eq_ok.mp converted).portable
    exact ⟨portable, ofCell_eq_ok.mpr (isOf_toDatum_iff.mpr portable)⟩
  · exact ⟨ofRow_toDatum converted, fun columns => KeyedRecord.ofRow_toDatum columns converted⟩
  · refine ⟨t.wellFormed, rfl, t.mended_wellFormed, ?_⟩
    rw [Text.wellFormed_eq_self_iff, Utf8.exists_encode_iff]
  · have portable : (float x).IsPortable := Datum.IsPortable.float finite
    exact ofCell_eq_ok.mpr (isOf_toDatum_iff.mpr portable)

/-- Two surrogates that would make a pair become two question marks and the text cannot be encoded; a
    record with a column that is there twice, a flag and a number that is none is converted once and
    for all; and zero keeps its sign. -/
theorem Value.conversion_normalizes_pair :
    (∃ u, ofCell (.text [.surrogate ⟨0, by decide⟩, .surrogate ⟨0x400, by decide⟩]) =
        .ok (.text u) ∧ u = "??" ∧
      ¬ ∃ bytes, Utf8.encode [.surrogate ⟨0, by decide⟩, .surrogate ⟨0x400, by decide⟩] = .ok bytes) ∧
    (∃ r, KeyedRecord.ofRow [.text "a", .text "b", .text "a"] [.bool true, .float .nan, .null] =
      .ok r ∧ r.asCells = [.null, .int 0] ∧ KeyedRecord.ofRow r.asColumns r.asCells = .ok r) ∧
    ofCell (.float (.finite true ⟨0, by decide⟩)) = .ok (.float (.finite true ⟨0, by decide⟩)) := by
  obtain ⟨-, -, -, records, texts, -, floats⟩ := conversion_normalizes
  obtain ⟨u, shown, -, encodable⟩ :=
    texts [.surrogate ⟨0, by decide⟩, .surrogate ⟨0x400, by decide⟩]
  have marks : u = "??" := (text.inj (Except.ok.inj shown)).symm.trans (by decide)
  have made : KeyedRecord.ofRow [.text "a", .text "b", .text "a"] [.bool true, .float .nan, .null] =
      .ok [(⟨.text "a"⟩, .null), (⟨.text "b"⟩, .int 0)] := by rfl
  refine ⟨⟨u, shown, marks, fun encoded => ?_⟩, ⟨_, made, rfl, records _ _ _ made⟩, floats _ rfl⟩
  exact absurd (marks.symm.trans (encodable.mpr encoded)) (by decide)

end QueryDesk
