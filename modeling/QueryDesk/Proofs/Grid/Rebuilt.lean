import QueryDesk.Proofs.Form.Passing
import QueryDesk.Proofs.Grid.Record

namespace QueryDesk

def rowsField (rows : List (List Value)) : Datum :=
  .list (rows.map fun row => .list (row.map Value.toDatum))

def textsField (texts : List Text) : Datum := .list (texts.map .text)

section Fields

theorem Reader.list_texts (texts : List Text) :
    Reader.list Reader.text (textsField texts) = .pass texts := by
  show elements text 0 (texts.map .text) = _
  rw [elements_eq_pass, List.forall₂_map_left_iff, List.forall₂_same]
  exact fun t _ => rfl

theorem Reader.list_rows (rows : List (List Value)) :
    Reader.list (Reader.list Reader.value) (rowsField rows) = .pass rows := by
  show elements (list value) 0 (rows.map fun row => .list (row.map Value.toDatum)) = _
  rw [elements_eq_pass, List.forall₂_map_left_iff, List.forall₂_same]
  intro row _
  show elements value 0 (row.map Value.toDatum) = _
  rw [elements_eq_pass, List.forall₂_map_left_iff, List.forall₂_same]
  exact fun v _ => value_toDatum v

end Fields

namespace Grid

def form (columns : List Datum) (rows : List (List Value)) (truncated : Bool) : Fields :=
  [(.text "columns", .list columns), (.text "data", rowsField rows),
    (.text "row_count", .int rows.length), (.text "truncated", .bool truncated)]

def fields (g : Grid) : Fields := form (g.columns.map .text) g.rows g.truncated

theorem read_form (columns : List Datum) (rows : List (List Value)) (truncated : Bool) :
    read (form columns rows truncated) = ofRows columns rows truncated := by
  have loose : Loose.read (form columns rows truncated) = Loose.mk
      <$> (Reader.elements Reader.text 0 columns).within (.key "columns")
      <*> (Reader.list (Reader.list Reader.value) (rowsField rows)).within (.key "data")
      <*> .pass (rows.length : Int) <*> .pass truncated := rfl
  unfold read ofRows
  rw [loose, Reader.list_rows]
  cases Reader.elements Reader.text 0 columns with
  | ok names => rfl
  | error issues => rfl

theorem firstUneven_eq_none {width : Nat} {rows : List (List Value)} (index : Nat)
    (even : ∀ row ∈ rows, row.length = width) : firstUneven width index rows = none := by
  induction rows generalizing index with
  | nil => rfl
  | cons row rest ih =>
    obtain ⟨first, others⟩ := List.forall_mem_cons.mp even
    rw [firstUneven, if_pos first]
    exact ih _ others

theorem ofFields_eq_pass {columns : List Text} {rows : List (List Value)} {truncated : Bool}
    {g : Grid} : ofFields columns rows rows.length truncated = .pass g ↔
      columns = g.columns ∧ rows = g.rows ∧ truncated = g.truncated := by
  have counted : ¬ (rows.length : Int) ≠ rows.length := fun differs => differs rfl
  unfold ofFields
  rw [if_neg counted]
  constructor
  · intro made
    split at made
    · cases made
      exact ⟨rfl, rfl, rfl⟩
    · cases made
  · rintro ⟨rfl, rfl, rfl⟩
    split
    · rfl
    · rename_i uneven
      rw [firstUneven_eq_none 0 g.rectangular] at uneven
      cases uneven

theorem ofFields_self (g : Grid) : ofFields g.columns g.rows g.rowCount g.truncated = .pass g :=
  ofFields_eq_pass.mpr ⟨rfl, rfl, rfl⟩

end Grid

def Summary.fields (s : Summary) : Fields :=
  [(.text "field", .text s.field), (.text "operation", .text s.aggregate),
    (.text "result", s.result.toDatum)]

theorem Summary.read_fields (s : Summary) : Summary.read s.fields = .pass s := by
  show Summary.mk <$> .pass s.field <*> .pass s.aggregate
    <*> (Reader.value s.result.toDatum).within (.key "result") = _
  rw [Reader.value_toDatum]
  rfl

def AggregationReport.fields (r : AggregationReport) : Fields :=
  r.grid.fields ++ [(.text "aggregations", .list (r.summaries.map fun s => .map s.fields))]

theorem AggregationReport.read_fields (r : AggregationReport) :
    AggregationReport.read r.fields = .pass r := by
  have summaries : Reader.elements (Reader.form "AggregationSummary" Summary.read) 0
      (r.summaries.map fun s => .map s.fields) = .pass r.summaries := by
    rw [Reader.elements_eq_pass, List.forall₂_map_left_iff, List.forall₂_same]
    exact fun s _ => s.read_fields
  have loose : Grid.Loose.read r.fields = Grid.Loose.mk
      <$> (Reader.list Reader.text (textsField r.grid.columns)).within (.key "columns")
      <*> (Reader.list (Reader.list Reader.value) (rowsField r.grid.rows)).within (.key "data")
      <*> .pass (r.grid.rowCount : Int) <*> .pass r.grid.truncated := rfl
  have list : Fields.optional r.fields "aggregations" []
      (Reader.list (Reader.form "AggregationSummary" Summary.read)) =
        (Reader.elements (Reader.form "AggregationSummary" Summary.read) 0
          (r.summaries.map fun s => .map s.fields)).within (.key "aggregations") := rfl
  unfold AggregationReport.read
  rw [loose, list, summaries, Reader.list_texts, Reader.list_rows]
  show Checked.map _ (Grid.ofFields r.grid.columns r.grid.rows r.grid.rowCount r.grid.truncated) = _
  rw [Grid.ofFields_self]
  rfl

def PreviewReport.fields (r : PreviewReport) : Fields :=
  [(.text "columns", textsField r.columns), (.text "data", rowsField r.rows),
    (.text "total_rows", .int r.totalRows), (.text "preview_rows", .int r.previewRows)]

theorem PreviewReport.read_fields (r : PreviewReport) : PreviewReport.read r.fields = .pass r := by
  show PreviewReport.mk
    <$> (Reader.list Reader.text (textsField r.columns)).within (.key "columns")
    <*> (Reader.list (Reader.list Reader.value) (rowsField r.rows)).within (.key "data")
    <*> .pass r.totalRows <*> .pass r.previewRows = _
  rw [Reader.list_texts, Reader.list_rows]
  rfl

end QueryDesk
