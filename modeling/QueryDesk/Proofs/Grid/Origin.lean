import QueryDesk.Proofs.Engine.Reading
import QueryDesk.Proofs.Grid.Portable
import QueryDesk.Proofs.Grid.Rebuilt

namespace QueryDesk

def Value.IsOf (cell : Datum) (v : Value) : Prop := ofCell? cell = some v

def Reply.Shows (reply : Reply) (cap : Nat) (columns : List Text) (rows : List (List Value)) : Prop :=
  ∃ c cells, reply = .rows c ∧ c.FirstRows cap cells ∧
    List.Forall₂ (fun column name => Reader.text column = .pass name) c.columns columns ∧
    List.Forall₂ (List.Forall₂ Value.IsOf) cells rows

def KeyedRecord.Shows (columns cells : List Datum) (r : KeyedRecord) : Prop :=
  (∀ entry ∈ r, ∃ cell ∈ cells, Value.IsOf cell entry.2) ∧
    ∀ names : List Text, columns = names.map .text → r = (Record.ofCells names cells).keyed

/-- Every value of a record is that of a cell of its row; and where the columns have texts for names,
    the record is that of the whole row. -/
def Record.Shows (columns cells : List Datum) (r : Record) : Prop :=
  (∀ entry ∈ r, ∃ cell ∈ cells, Value.IsOf cell entry.2) ∧
    ∀ names : List Text, columns = names.map .text → r = Record.ofCells names cells

def Reply.Lists {ρ : Type} (reply : Reply) (cap : Nat) (shows : List Datum → List Datum → ρ → Prop)
    (records : List ρ) : Prop :=
  ∃ c cells, reply = .rows c ∧ c.FirstRows cap cells ∧
    List.Forall₂ (shows c.columns) cells records

section Values

variable {cell : Datum} {v : Value}

theorem Value.ofCell_eq_ok : ofCell cell = .ok v ↔ v.IsOf cell := by
  unfold ofCell IsOf
  cases ofCell? cell with
  | some found =>
    constructor
    · exact fun same => congrArg _ (Except.ok.inj same)
    · exact fun same => congrArg _ (Option.some.inj same)
  | none => exact ⟨nofun, nofun⟩

theorem Value.ofRow_eq_ok {cells : List Datum} {row : List Value} :
    ofRow cells = .ok row ↔ List.Forall₂ IsOf cells row := by
  simp only [ofRow, mapM_eq_ok, ofCell_eq_ok]

theorem Value.IsOf.portable (shown : v.IsOf cell) : v.IsPortable := portable_ofCell shown

theorem Value.IsOf.value_eq (shown : v.IsOf cell) : cell.value = v := by
  rw [Datum.value, shown]
  rfl

theorem Reply.Shows.portable {reply : Reply} {cap : Nat} {columns : List Text}
    {rows : List (List Value)} (shows : reply.Shows cap columns rows) :
    ∀ row ∈ rows, ∀ v ∈ row, v.IsPortable := by
  obtain ⟨c, cells, -, -, -, values⟩ := shows
  intro row member v inside
  obtain ⟨row', -, converted⟩ := exists_of_forall₂ values member
  obtain ⟨cell, -, shown⟩ := exists_of_forall₂ converted inside
  exact shown.portable

end Values

namespace KeyedRecord

theorem entry_eq_ok_iff {column cell : Datum} {made : Key × Value} : entry column cell = .ok made ↔
    made.1 = ⟨column⟩ ∧ made.2.IsOf cell ∧ Key.isConstant column = true := by
  constructor
  · intro succeeds
    obtain ⟨v, converted, keyed⟩ := bind_eq_ok.mp succeeds
    split at keyed
    · cases keyed
      exact ⟨rfl, Value.ofCell_eq_ok.mp converted, ‹_›⟩
    · cases keyed
  · obtain ⟨key, v⟩ := made
    rintro ⟨rfl, shown, constant⟩
    exact bind_eq_ok.mpr ⟨v, Value.ofCell_eq_ok.mpr shown, if_pos constant⟩

theorem entry_eq_ok {column cell : Datum} {made : Key × Value}
    (succeeds : entry column cell = .ok made) : made.1 = ⟨column⟩ ∧ made.2.IsOf cell :=
  (entry_eq_ok_iff.mp succeeds).imp_right And.left

theorem entries_eq {names : List Text} {cells : List Datum} {entries : List (Key × Value)}
    (shown : List.Forall₂ (fun pair entry => entry.1 = ⟨pair.1⟩ ∧ entry.2.IsOf pair.2)
      ((names.map Datum.text).zip cells) entries) :
    entries = (names.zip (cells.map Datum.value)).map fun e => ((⟨.text e.1⟩ : Key), e.2) := by
  induction names generalizing cells entries with
  | nil => cases shown; rfl
  | cons name names ih =>
    cases cells with
    | nil => cases shown; rfl
    | cons cell cells =>
      obtain ⟨entry, others, ⟨key, value⟩, later, rfl⟩ := List.forall₂_cons_left_iff.mp shown
      have first : entry = (⟨.text name⟩, cell.value) := Prod.ext key value.value_eq.symm
      rw [first, ih later]
      rfl

theorem ofRow_shows {columns cells : List Datum} {r : KeyedRecord}
    (made : ofRow columns cells = .ok r) : r.Shows columns cells := by
  obtain ⟨entries, converted, rfl⟩ := map_eq_ok.mp made
  have shown := (mapM_eq_ok.mp converted).imp fun _ _ one => entry_eq_ok one
  constructor
  · apply OrderedMap.forall_ofList (P := fun v : Value => ∃ cell ∈ cells, v.IsOf cell)
    intro entry member
    obtain ⟨pair, there, -, value⟩ := exists_of_forall₂ shown member
    exact ⟨pair.2, (List.of_mem_zip there).2, value⟩
  · intro names same
    subst same
    rw [entries_eq shown]
    exact OrderedMap.ofList_map (f := fun t => (⟨.text t⟩ : Key)) (fun v : Value => v)
      Key.beq_text (names.zip (cells.map Datum.value))

end KeyedRecord

namespace Pull

variable {p : Pull}

theorem rows_eq_ok {cells : List (List Datum)} {rows : List (List Value)} :
    cells.mapM Value.ofRow = .ok rows ↔ List.Forall₂ (List.Forall₂ Value.IsOf) cells rows := by
  simp only [mapM_eq_ok, Value.ofRow_eq_ok]

/-- A grid is made of the names of the columns and the values of the cells; its rows tell by
    themselves that each is as wide as there are columns. -/
theorem grid_eq_ok {g : Grid} : p.grid = .ok g ↔
    List.Forall₂ (fun column name => Reader.text column = .pass name) p.columns g.columns ∧
      List.Forall₂ (List.Forall₂ Value.IsOf) p.rows g.rows ∧ p.more = g.truncated := by
  simp only [grid, bind_eq_ok, rows_eq_ok, Failure.ofChecked_eq_ok, Grid.ofRows,
    Checked.andThen_eq_pass, Checked.within_eq_pass, Reader.elements_eq_pass, Grid.ofFields_eq_pass]
  constructor
  · rintro ⟨_, values, _, names, rfl, rfl, more⟩
    exact ⟨names, values, more⟩
  · rintro ⟨names, values, more⟩
    exact ⟨_, values, _, names, rfl, rfl, more⟩

theorem records_shows {records : List KeyedRecord} (made : p.records = .ok records) :
    List.Forall₂ (KeyedRecord.Shows p.columns) p.rows records :=
  (mapM_eq_ok.mp made).imp fun _ _ => KeyedRecord.ofRow_shows

end Pull

theorem KeyedRecord.Shows.read {columns cells : List Datum} {keyed : KeyedRecord}
    {entries : List (Text × Value)} (shows : keyed.Shows columns cells)
    (passed : Reader.mapping Reader.value keyed.toDatum = .pass entries) :
    Record.Shows columns cells (OrderedMap.ofList entries) := by
  obtain ⟨values, exact⟩ := shows
  constructor
  · apply OrderedMap.forall_ofList (P := fun v : Value => ∃ cell ∈ cells, v.IsOf cell)
    intro entry member
    have read := List.forall₂_map_left_iff.mp (Reader.entries_eq_pass.mp passed)
    obtain ⟨written, there, -, value⟩ := exists_of_forall₂ read member
    have same : written.2 = entry.2 := by
      rw [Reader.value_toDatum] at value
      exact Except.ok.inj value
    rw [← same]
    exact values written there
  · intro names same
    rw [exact names same, Reader.mapping_keyed] at passed
    cases passed
    exact OrderedMap.ofList_of_nodup (OrderedMap.nodup_keys_ofList _)

theorem Plan.reportOf_shows {columns : List Datum} {cells : List (List Datum)}
    {keyed : List KeyedRecord} {report : StreamReport} (reported : Plan.reportOf keyed = .ok report)
    (shows : List.Forall₂ (KeyedRecord.Shows columns) cells keyed) :
    List.Forall₂ (Record.Shows columns) cells report.records := by
  have read := Failure.ofChecked_eq_ok.mp reported
  unfold StreamReport.read at read
  obtain ⟨_, _, passed, -, rfl⟩ := Checked.seq_eq_pass.mp read
  obtain ⟨_, records, first, data, rfl⟩ := Checked.seq_eq_pass.mp passed
  obtain ⟨_, -, rfl⟩ := Checked.map_eq_pass.mp first
  have elements : Reader.elements
      (fun d => (Reader.mapping Reader.value d).map OrderedMap.ofList) 0
      (keyed.map KeyedRecord.toDatum) = .pass records := Checked.within_eq_pass.mp data
  clear reported read passed data first
  have each := List.forall₂_map_left_iff.mp (Reader.elements_eq_pass.mp elements)
  show List.Forall₂ (Record.Shows columns) cells records
  clear elements
  induction each generalizing cells with
  | nil => cases shows; exact .nil
  | cons made _ ih =>
    obtain ⟨row, others, first, later, rfl⟩ := List.forall₂_cons_right_iff.mp shows
    obtain ⟨entries, mapped, rfl⟩ := Checked.map_eq_pass.mp made
    exact .cons (first.read mapped) (ih later)

end QueryDesk
