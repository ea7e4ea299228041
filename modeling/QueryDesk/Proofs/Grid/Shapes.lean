import QueryDesk.Proofs.Grid.Origin

namespace QueryDesk

namespace Grid

variable {columns : List Text} {row : List Value}

theorem keys_recordOf (even : row.length = columns.length) :
    OrderedMap.keys (recordOf columns row) = columns.eraseDups := by
  have names : (columns.zip row).map (·.1) = columns := List.map_fst_zip (Nat.le_of_eq even.symm)
  rw [recordOf, OrderedMap.keys_ofList, names]

theorem find?_recordOf {j : Nat} {name : Text} (even : row.length = columns.length)
    (there : columns[j]? = some name) (last : ∀ k, j < k → columns[k]? ≠ some name) :
    OrderedMap.find? (recordOf columns row) name = row[j]? := by
  obtain ⟨inside, rfl⟩ := List.getElem?_eq_some_iff.mp there
  have within : j < row.length := even.symm ▸ inside
  have valid : j < (columns.zip row).length := by
    rw [List.length_zip]
    exact Nat.lt_min.mpr ⟨inside, within⟩
  have split : columns.zip row =
      (columns.zip row).take j ++ (columns[j], row[j]) :: (columns.zip row).drop (j + 1) := by
    have entry : (columns.zip row)[j] = (columns[j], row[j]) := List.getElem_zip
    rw [← entry, List.getElem_cons_drop, List.take_append_drop]
  have apart : columns[j] ∉ ((columns.zip row).drop (j + 1)).map (·.1) := by
    rw [List.map_drop, List.map_fst_zip (Nat.le_of_eq even.symm)]
    intro again
    obtain ⟨k, found⟩ := List.mem_iff_getElem?.mp again
    rw [List.getElem?_drop] at found
    exact last (j + 1 + k) (by omega) found
  rw [recordOf, split, OrderedMap.find?_ofList _ apart, List.getElem?_eq_getElem within]

theorem map_find?_recordOf (even : row.length = columns.length) (nodup : columns.Nodup) :
    columns.map (OrderedMap.find? (recordOf columns row)) = row.map some := by
  refine List.ext_getElem (by simp [even]) fun j inside within => ?_
  rw [List.length_map] at inside within
  have there : columns[j]? = some columns[j] := List.getElem?_eq_getElem inside
  have last : ∀ k, j < k → columns[k]? ≠ some columns[j] := by
    intro k later again
    obtain ⟨valid, same⟩ := List.getElem?_eq_some_iff.mp again
    exact absurd (nodup.getElem_inj_iff.mp same) (Nat.ne_of_gt later)
  rw [List.getElem_map, List.getElem_map, find?_recordOf even there last,
    List.getElem?_eq_getElem within]

end Grid

theorem Value.IsOf.isSignalling_eq {cell : Datum} {v : Value} (shown : v.IsOf cell) :
    cell.isSignalling = false := by
  refine Bool.eq_false_iff.mpr fun signalling => ?_
  obtain ⟨negative, payload, rfl⟩ := Datum.isSignalling_iff.mp signalling
  cases shown

theorem Value.map_value {cells : List Datum} {row : List Value}
    (shown : List.Forall₂ IsOf cells row) : cells.map Datum.value = row := by
  rw [← List.forall₂_eq_eq_eq, List.forall₂_map_left_iff]
  exact shown.imp fun _ _ own => own.value_eq

/-- The record of a row of the engine: its keys are the names of the columns, and under each of them
    is the value of the cell in the last column of that name. -/
structure Record.Maps (names : List Text) (cells : List Datum) (r : Record) : Prop where
  keys : OrderedMap.keys r = names.eraseDups
  value : ∀ (j : Nat) (name : Text), names[j]? = some name → (∀ k, j < k → names[k]? ≠ some name) →
    ∃ cell v, cells[j]? = some cell ∧ Value.ofCell cell = .ok v ∧ OrderedMap.find? r name = some v

theorem Record.maps_recordOf {names : List Text} {cells : List Datum} {row : List Value}
    (shown : List.Forall₂ Value.IsOf cells row) (even : row.length = names.length) :
    Record.Maps names cells (Grid.recordOf names row) := by
  refine ⟨Grid.keys_recordOf even, fun j name there last => ?_⟩
  have found := Grid.find?_recordOf even there last
  obtain ⟨inside, -⟩ := List.getElem?_eq_some_iff.mp there
  have within : j < row.length := even.symm ▸ inside
  have valid : j < cells.length := shown.length_eq.symm ▸ within
  rw [List.getElem?_eq_getElem within] at found
  have own : Value.ofCell cells[j] = .ok row[j] := Value.ofCell_eq_ok.mpr (shown.get valid within)
  exact ⟨cells[j], row[j], List.getElem?_eq_getElem valid, own, found⟩

namespace Pull

inductive Unfit : Failure → Prop
  | cell : Unfit .signallingCell
  | shape (issues : List Issue) : Unfit (.invalid .grid issues)

theorem ends_grid (p : Pull) : Ends Unfit (fun _ => True) p.grid := by
  have cell (cell : Datum) : Ends Unfit (fun _ => True) (Value.ofCell cell) := by
    unfold Value.ofCell
    split
    · exact True.intro
    · exact .cell
  have row (cells : List Datum) : Ends Unfit (fun _ => True) (Value.ofRow cells) :=
    (ends_mapM fun d _ => cell d).mono fun _ _ => True.intro
  have rows : Ends Unfit (fun _ => True) (p.rows.mapM Value.ofRow) :=
    (ends_mapM fun cells _ => row cells).mono fun _ _ => True.intro
  refine rows.bind fun values _ => ?_
  cases Grid.ofRows p.columns values p.more with
  | ok g => exact True.intro
  | error issues => exact .shape issues

variable {names : List Text} {rows : List (List Datum)} {more : Bool} {g : Grid}

theorem texts_pass {others : List Text} : List.Forall₂
    (fun column name => Reader.text column = .pass name) (names.map Datum.text) others ↔
      names = others := by
  have same (a b : Text) : Reader.text (.text a) = .pass b ↔ a = b :=
    ⟨Except.ok.inj, congrArg Except.ok⟩
  simp only [List.forall₂_map_left_iff, same, List.forall₂_eq_eq_eq]

theorem grid_texts_eq_ok : Pull.grid ⟨names.map .text, rows, more⟩ = .ok g ↔
    names = g.columns ∧ rows.mapM Value.ofRow = .ok g.rows ∧ more = g.truncated := by
  rw [grid_eq_ok, texts_pass, ← rows_eq_ok]

theorem exists_grid_iff : (∃ g, Pull.grid ⟨names.map .text, rows, more⟩ = .ok g) ↔
    ∀ cells ∈ rows, cells.length = names.length ∧ ∃ row, Value.ofRow cells = .ok row := by
  have length {cells : List Datum} {row : List Value} (converted : Value.ofRow cells = .ok row) :
      row.length = cells.length := (mapM_eq_ok.mp converted).length_eq.symm
  constructor
  · rintro ⟨g, made⟩ cells member
    obtain ⟨rfl, mapped, -⟩ := grid_texts_eq_ok.mp made
    obtain ⟨row, there, converted⟩ := exists_of_forall₂ (mapM_eq_ok.mp mapped).flip member
    exact ⟨(length converted).symm.trans (g.rectangular row there), row, converted⟩
  · intro each
    obtain ⟨values, mapped⟩ := exists_mapM_iff.mpr fun cells member => (each cells member).2
    have even : ∀ row ∈ values, row.length = names.length := by
      intro row member
      obtain ⟨cells, there, converted⟩ := exists_of_forall₂ (mapM_eq_ok.mp mapped) member
      exact (length converted).trans (each cells there).1
    exact ⟨⟨names, values, more, even⟩, grid_texts_eq_ok.mpr ⟨rfl, mapped, rfl⟩⟩

theorem records_of_grid (made : Pull.grid ⟨names.map .text, rows, more⟩ = .ok g) :
    Pull.records ⟨names.map .text, rows, more⟩ = .ok (g.records.map Record.keyed) := by
  obtain ⟨names_eq, shown, -⟩ := grid_eq_ok.mp made
  have same := texts_pass.mp names_eq
  subst same
  have sound : ∀ cells ∈ rows, ∀ cell ∈ cells, cell.isSignalling = false := by
    intro cells member cell inside
    obtain ⟨row, -, values⟩ := exists_of_forall₂ shown.flip member
    obtain ⟨v, -, own⟩ := exists_of_forall₂ values.flip inside
    exact Value.IsOf.isSignalling_eq own
  have rows_eq : rows.map (·.map Datum.value) = g.rows := by
    rw [← List.forall₂_eq_eq_eq, List.forall₂_map_left_iff]
    exact shown.imp fun _ _ values => Value.map_value values
  rw [records_eq sound, Grid.records, ← rows_eq, List.map_map, List.map_map]
  rfl

end Pull

end QueryDesk
