import QueryDesk.Plan.Order
import QueryDesk.Proofs.OrderedMap
import QueryDesk.Proofs.Outcome

namespace QueryDesk

def Datum.isSignalling : Datum → Bool
  | .decimal (.nan _ signalling _) => signalling
  | _ => false

theorem Datum.isSignalling_iff {cell : Datum} : cell.isSignalling = true ↔
    ∃ negative payload, cell = .decimal (.nan negative true payload) := by
  constructor
  · intro signalling
    cases cell with
    | decimal d =>
      cases d with
      | nan negative quiet payload =>
        cases signalling
        exact ⟨negative, payload, rfl⟩
      | _ => cases signalling
    | _ => cases signalling
  · rintro ⟨negative, payload, rfl⟩
    rfl

def Datum.value (cell : Datum) : Value := (Value.ofCell? cell).getD .null

def Record.ofCells (names : List Text) (cells : List Datum) : Record :=
  Grid.recordOf names (cells.map Datum.value)

def Record.keyed (r : Record) : KeyedRecord := r.map fun entry => (⟨.text entry.1⟩, entry.2)

theorem Value.ofCell_eq {cell : Datum} (sound : cell.isSignalling = false) :
    Value.ofCell cell = .ok cell.value := by
  have valued : Value.ofCell? cell = some cell.value := by
    unfold Datum.value
    cases cell with
    | decimal d =>
      cases d with
      | nan negative signalling payload =>
        cases sound
        rfl
      | _ => rfl
    | _ => rfl
  simp only [Value.ofCell, valued]

theorem Key.beq_text (a b : Text) : ((⟨.text a⟩ : Key) == ⟨.text b⟩) = (a == b) := by
  change Key.same (.text a) (.text b) = _
  simp only [Key.same, Key.form?, Form.same]

theorem KeyedRecord.ofRow_eq {names : List Text} {cells : List Datum}
    (sound : ∀ cell ∈ cells, cell.isSignalling = false) :
    KeyedRecord.ofRow (names.map .text) cells = .ok (Record.ofCells names cells).keyed := by
  have entries : List.Forall₂ (fun e e' => entry e.1 e.2 = .ok e')
      ((names.map Datum.text).zip cells)
      ((names.zip (cells.map Datum.value)).map fun e => ((⟨.text e.1⟩ : Key), e.2)) := by
    induction names generalizing cells with
    | nil => exact .nil
    | cons name names ih =>
      cases cells with
      | nil => exact .nil
      | cons cell cells =>
        have first : entry (.text name) cell = .ok (⟨.text name⟩, cell.value) := by
          simp only [entry, Value.ofCell_eq (sound cell (by simp))]
          rfl
        exact .cons first (ih fun c later => sound c (List.mem_cons_of_mem cell later))
  have renamed := OrderedMap.ofList_map (f := fun t => (⟨.text t⟩ : Key)) (fun v : Value => v)
    Key.beq_text (names.zip (cells.map Datum.value))
  unfold ofRow
  rw [mapM_eq_ok.mpr entries]
  exact congrArg Except.ok renamed

theorem Pull.records_eq {names : List Text} {rows : List (List Datum)} {more : Bool}
    (sound : ∀ cells ∈ rows, ∀ cell ∈ cells, cell.isSignalling = false) :
    Pull.records ⟨names.map .text, rows, more⟩ =
      .ok (rows.map fun cells => (Record.ofCells names cells).keyed) := by
  refine mapM_eq_ok.mpr (List.forall₂_map_right_iff.mpr (List.forall₂_same.mpr ?_))
  exact fun cells member => KeyedRecord.ofRow_eq (sound cells member)

theorem Reader.value_toDatum (v : Value) : Reader.value v.toDatum = .pass v := by
  cases v <;> rfl

theorem Reader.mapping_keyed (r : Record) :
    Reader.mapping Reader.value r.keyed.toDatum = .pass r := by
  induction r with
  | nil => rfl
  | cons entry rest ih =>
    have others : Reader.entries Reader.value
        (Record.keyed rest |>.map fun e => (e.1.datum, e.2.toDatum)) = .pass rest := ih
    change Reader.entries Reader.value ((.text entry.1, entry.2.toDatum) ::
      (Record.keyed rest |>.map fun e => (e.1.datum, e.2.toDatum))) = _
    simp only [Reader.entries, others, Reader.value_toDatum]
    rfl

theorem Plan.reportOf_keyed (records : List Record)
    (nodup : ∀ r ∈ records, (OrderedMap.keys r).Nodup) :
    Plan.reportOf (records.map Record.keyed) = .ok ⟨records, none⟩ := by
  have read : ∀ index, Reader.elements
      (fun d => (Reader.mapping Reader.value d).map OrderedMap.ofList) index
      ((records.map Record.keyed).map KeyedRecord.toDatum) = .pass records := by
    induction records with
    | nil => exact fun index => rfl
    | cons r rest ih =>
      intro index
      have same := OrderedMap.ofList_of_nodup (nodup r (by simp))
      have others := ih (fun r later => nodup r (by simp [later])) (index + 1)
      simp only [List.map_cons, Reader.elements, Reader.mapping_keyed, others]
      change Checked.pass (OrderedMap.ofList r :: rest) = _
      rw [same]
  have data : Fields.optional
      [(.text "data", .list ((records.map Record.keyed).map KeyedRecord.toDatum))] "data" []
      (Reader.list fun d => (Reader.mapping Reader.value d).map OrderedMap.ofList) =
        .pass records := by
    change (Reader.elements _ 0 _).within (.key "data") = _
    rw [read 0]
    rfl
  unfold Plan.reportOf StreamReport.read
  rw [data]
  rfl

end QueryDesk
