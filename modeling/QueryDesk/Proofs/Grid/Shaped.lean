import QueryDesk.Proofs.Grid.Rebuilt

namespace QueryDesk

def Datum.elements : Datum → List Datum
  | .list items | .tuple items => items
  | _ => []

inductive Datum.IsPlain : Datum → Prop
  | null : IsPlain .null
  | int (n : Int) : IsPlain (.int n)
  | float (x : Binary64) : IsPlain (.float x)
  | text (t : Text) : IsPlain (.text t)

section Readers

variable {α : Type} {r : Reader α} {d : Datum} {as : List α}

theorem Reader.forall₂_of_list (read : list r d = .pass as) :
    List.Forall₂ (fun item a => r item = .pass a) d.elements as := by
  cases d with
  | list items | tuple items => exact elements_eq_pass.mp read
  | _ => cases read

theorem Reader.value_of_isPlain {v : Value} (plain : d.IsPlain) (read : value d = .pass v) :
    v.toDatum = d := by
  cases plain <;> cases read <;> rfl

end Readers

namespace Grid

namespace Loose

/-- The rows are as many as is said, and each is as wide as there are columns. -/
structure IsRectangular (l : Loose) : Prop where
  counted : l.rowCount = l.rows.length
  even : ∀ row ∈ l.rows, row.length = l.columns.length

/-- What is wrong with the shape: the number of rows before the width of any, and of the widths the
    first that is wrong. -/
inductive Misshapen (l : Loose) : Complaint → Prop
  | count (differs : l.rowCount ≠ l.rows.length) :
    l.Misshapen (.rowCountMismatch l.rowCount l.rows.length)
  | width {i : Nat} {row : List Value} (counted : l.rowCount = l.rows.length)
    (there : l.rows[i]? = some row) (differs : row.length ≠ l.columns.length)
    (first : ∀ j < i, ∀ other, l.rows[j]? = some other → other.length = l.columns.length) :
    l.Misshapen (.rowWidthMismatch i row.length l.columns.length)

end Loose

theorem firstUneven_eq_some {width : Nat} (index : Nat) {rows : List (List Value)} {c : Complaint} :
    firstUneven width index rows = some c ↔ ∃ i row, rows[i]? = some row ∧ row.length ≠ width ∧
      (∀ j < i, ∀ other, rows[j]? = some other → other.length = width) ∧
      c = .rowWidthMismatch (index + i) row.length width := by
  -- On the rows, for any number of the first one.
  induction rows generalizing index with
  | nil => exact ⟨by rintro ⟨⟩, by rintro ⟨i, row, ⟨⟩, -⟩⟩
  | cons row rest ih =>
    by_cases same : row.length = width
    · rw [firstUneven, if_pos same, ih (index + 1)]
      constructor
      · rintro ⟨i, other, there, differs, first, rfl⟩
        refine ⟨i + 1, other, there, differs, fun j before => ?_, by rw [Nat.add_right_comm]; rfl⟩
        cases j with
        | zero => rintro _ ⟨⟩; exact same
        | succ j => exact first j (Nat.lt_of_succ_lt_succ before)
      · rintro ⟨i, other, there, differs, first, rfl⟩
        cases i with
        | zero =>
          cases there
          exact absurd same differs
        | succ i =>
          refine ⟨i, other, there, differs, fun j before => ?_, by rw [Nat.add_right_comm]; rfl⟩
          exact first (j + 1) (Nat.succ_lt_succ before)
    · rw [firstUneven, if_neg same]
      constructor
      · rintro ⟨⟩
        exact ⟨0, row, rfl, same, fun j before => absurd before (Nat.not_lt_zero j), rfl⟩
      · rintro ⟨i, other, there, differs, first, rfl⟩
        cases i with
        | zero =>
          cases there
          rfl
        | succ i => exact absurd (first 0 (Nat.succ_pos i) row rfl) same

namespace Loose

variable {l : Loose} {g : Grid}

theorem check_eq_pass : l.check = .pass g ↔
    l.IsRectangular ∧ l.columns = g.columns ∧ l.rows = g.rows ∧ l.truncated = g.truncated := by
  by_cases counted : l.rowCount = l.rows.length
  · rw [check, counted, ofFields_eq_pass]
    constructor
    · rintro ⟨columns, rows, truncated⟩
      exact ⟨⟨counted, by rw [columns, rows]; exact g.rectangular⟩, columns, rows, truncated⟩
    · exact fun ⟨_, same⟩ => same
  · refine iff_of_false (fun made => ?_) fun ⟨rectangular, _⟩ => counted rectangular.counted
    rw [check, ofFields, if_pos counted] at made
    cases made

theorem check_eq_error {issues : List Issue} :
    l.check = .error issues ↔ ∃ c, l.Misshapen c ∧ issues = [⟨[], c⟩] := by
  by_cases counted : l.rowCount = l.rows.length
  · rw [check, ofFields, if_neg (not_not_intro counted)]
    split
    · rename_i even
      refine iff_of_false nofun ?_
      rintro ⟨c, misshapen, -⟩
      cases misshapen with
      | count differs => exact differs counted
      | width _ there differs first =>
        have uneven := (firstUneven_eq_some 0).mpr ⟨_, _, there, differs, first, rfl⟩
        cases even.symm.trans uneven
    · rename_i c uneven
      obtain ⟨i, row, there, differs, first, rfl⟩ := (firstUneven_eq_some 0).mp uneven
      rw [Nat.zero_add]
      constructor
      · rintro ⟨⟩
        exact ⟨_, .width counted there differs first, rfl⟩
      · rintro ⟨c, misshapen, rfl⟩
        cases misshapen with
        | count differs => exact absurd counted differs
        | width _ there' differs' first' =>
          have again := (firstUneven_eq_some 0).mpr ⟨_, _, there', differs', first', rfl⟩
          have same := Option.some.inj (uneven.symm.trans again)
          rw [Nat.zero_add, Nat.zero_add] at same
          rw [← same]
          rfl
  · rw [check, ofFields, if_pos counted]
    constructor
    · rintro ⟨⟩
      exact ⟨_, .count counted, rfl⟩
    · rintro ⟨c, misshapen, rfl⟩
      cases misshapen with
      | count differs => rfl
      | width counted' => exact absurd counted' counted

end Loose

/-- The fields of a grid's form, each of them read on its own; `data` is what the form has for rows. -/
structure Given (fields : Fields) (data : Datum) (l : Loose) : Prop where
  columns : fields.required "columns" (Reader.list Reader.text) = .pass l.columns
  found : fields.find? "data" = some data
  rows : Reader.list (Reader.list Reader.value) data = .pass l.rows
  rowCount : fields.required "row_count" Reader.integer = .pass l.rowCount
  truncated : fields.optional "truncated" false Reader.flag = .pass l.truncated

structure Kind (α : Type) where
  read : Fields → Checked α
  grid : α → Grid
  fields : α → Fields

def kind : Kind Grid := ⟨read, id, fields⟩

def reportKind : Kind AggregationReport :=
  ⟨AggregationReport.read, AggregationReport.grid, AggregationReport.fields⟩

/-- What a form comes to whose fields are given one by one: it passes with rows of one shape, and
    otherwise there is one complaint. What passes has the fields that were read, plain cells as they
    were, and passes again. -/
structure Admits {α : Type} (k : Kind α) (form : Fields) (data : Datum) (l : Loose) : Prop where
  passes : (∃ a, k.read form = .pass a) ↔ l.IsRectangular
  complains : ∀ issues, k.read form = .error issues ↔ ∃ c, l.Misshapen c ∧ issues = [⟨[], c⟩]
  columns : ∀ a, k.read form = .pass a → (k.grid a).columns = l.columns
  rows : ∀ a, k.read form = .pass a → (k.grid a).rows = l.rows
  truncated : ∀ a, k.read form = .pass a → (k.grid a).truncated = l.truncated
  kept : ∀ a, k.read form = .pass a → List.Forall₂ (fun row values => List.Forall₂
    (fun cell v => cell.IsPlain → v.toDatum = cell) row.elements values) data.elements (k.grid a).rows
  again : ∀ a, k.read form = .pass a → k.read (k.fields a) = .pass a
  rowCount : ∀ a, k.read form = .pass a → ((k.grid a).rowCount : Int) = l.rowCount
  isEmpty : ∀ a, k.read form = .pass a → ((k.grid a).isEmpty = true ↔ l.rowCount = 0)
  records : ∀ a, k.read form = .pass a → ((k.grid a).records.length : Int) = l.rowCount

def Lists (form : Fields) (summaries : List Summary) : Prop :=
  form.optional "aggregations" [] (Reader.list (Reader.form "AggregationSummary" Summary.read)) =
    .pass summaries

theorem read_fields (g : Grid) : read g.fields = .pass g := by
  have named : Reader.elements Reader.text 0 (g.columns.map .text) = .pass g.columns :=
    Reader.list_texts g.columns
  unfold fields
  rw [read_form, ofRows, named]
  exact ofFields_self g

variable {form : Fields} {data : Datum} {l : Loose} (given : Given form data l)

include given

theorem Given.read_eq : Loose.read form = .pass l := by
  obtain ⟨columns, found, rows, rowCount, truncated⟩ := given
  have data : form.required "data" (Reader.list (Reader.list Reader.value)) = .pass l.rows := by
    simp only [Fields.required, found, rows]
    rfl
  rw [Loose.read, columns, data, rowCount, truncated]
  rfl

theorem Given.kept : List.Forall₂ (fun row values => List.Forall₂
    (fun cell v => cell.IsPlain → v.toDatum = cell) row.elements values) data.elements l.rows := by
  refine (Reader.forall₂_of_list given.rows).imp fun row values read => ?_
  exact (Reader.forall₂_of_list read).imp fun cell v own plain => Reader.value_of_isPlain plain own

theorem Given.admits {α : Type} {k : Kind α} (make : Grid → α)
    (reads : k.read form = (l.check).map make) (same : ∀ g, k.grid (make g) = g)
    (again : ∀ a, k.read (k.fields a) = .pass a) : Admits k form data l := by
  have made {a : α} (passed : k.read form = .pass a) :
      l.IsRectangular ∧ (k.grid a).columns = l.columns ∧ (k.grid a).rows = l.rows ∧
        (k.grid a).truncated = l.truncated := by
    rw [reads] at passed
    obtain ⟨g, checked, rfl⟩ := Checked.map_eq_pass.mp passed
    obtain ⟨rectangular, columns, rows, truncated⟩ := Loose.check_eq_pass.mp checked
    rw [same]
    exact ⟨rectangular, columns.symm, rows.symm, truncated.symm⟩
  have counted {a : α} (passed : k.read form = .pass a) : ((k.grid a).rows.length : Int) = l.rowCount := by
    obtain ⟨rectangular, -, rows, -⟩ := made passed
    rw [rows, rectangular.counted]
  refine ⟨⟨fun ⟨a, passed⟩ => (made passed).1, fun rectangular => ?_⟩, fun issues => ?_,
    fun a passed => (made passed).2.1, fun a passed => (made passed).2.2.1,
    fun a passed => (made passed).2.2.2, fun a passed => ?_, fun a _ => again a,
    fun a passed => counted passed, fun a passed => ?_, fun a passed => ?_⟩
  · have checked : l.check = .pass ⟨l.columns, l.rows, l.truncated, rectangular.even⟩ :=
      Loose.check_eq_pass.mpr ⟨rectangular, rfl, rfl, rfl⟩
    exact ⟨_, by rw [reads, checked]; rfl⟩
  · rw [← Loose.check_eq_error, reads]
    cases l.check with
    | ok g => exact iff_of_false nofun nofun
    | error found =>
      constructor
      · rintro ⟨⟩
        rfl
      · rintro ⟨⟩
        rfl
  · rw [(made passed).2.2.1]
    exact given.kept
  · rw [← counted passed, isEmpty, List.isEmpty_iff, Int.natCast_eq_zero, List.length_eq_zero_iff]
  · rw [records, List.length_map]
    exact counted passed

theorem Given.admits_grid : Admits kind form data l := by
  refine given.admits id ?_ (fun g => rfl) read_fields
  show read form = _
  rw [read, given.read_eq]
  cases checked : l.check <;> exact checked

theorem Given.admits_report {summaries : List Summary} (listed : Lists form summaries) :
    Admits reportKind form data l ∧
      ∀ r, AggregationReport.read form = .pass r → r.summaries = summaries := by
  have reads : AggregationReport.read form =
      (l.check).map fun g : Grid => (⟨g, summaries⟩ : AggregationReport) := by
    rw [AggregationReport.read, given.read_eq, listed]
    rfl
  refine ⟨given.admits _ reads (fun g => rfl) AggregationReport.read_fields, fun r passed => ?_⟩
  rw [reads] at passed
  obtain ⟨g, -, rfl⟩ := Checked.map_eq_pass.mp passed
  rfl

/-- Forms whose fields can be read are grids exactly when they are rectangular, and reports as well
    where the list of summaries can be read too. -/
theorem admits_rectangular : Admits kind form data l ∧ ∀ summaries, Lists form summaries →
    Admits reportKind form data l ∧
      ∀ r, AggregationReport.read form = .pass r → r.summaries = summaries :=
  ⟨given.admits_grid, fun _ listed => given.admits_report listed⟩

omit given

theorem admits_rectangular_pair :
    let data : Datum := .list [.list [.int 1], .tuple [.null]]
    let form : Fields := [(.text "columns", .list [.text "a"]), (.text "data", data),
      (.text "row_count", .text "2")]
    let l : Loose := ⟨["a"], [[.int 1], [.null]], 2, false⟩
    Given form data l ∧ Lists form [] ∧ ∃ r, AggregationReport.read form = .pass r ∧
      r.grid.columns = ["a"] ∧ r.grid.rows = [[.int 1], [.null]] ∧ r.summaries = [] := by
  intro data form l
  have given : Given form data l := ⟨rfl, rfl, rfl, rfl, rfl⟩
  have listed : Lists form [] := rfl
  have rectangular : l.IsRectangular :=
    ⟨rfl, List.forall_mem_cons.mpr ⟨rfl, List.forall_mem_singleton.mpr rfl⟩⟩
  obtain ⟨-, report⟩ := admits_rectangular given
  obtain ⟨admits, summaries⟩ := report [] listed
  obtain ⟨r, passed⟩ := admits.passes.mpr rectangular
  exact ⟨given, listed, r, passed, admits.columns r passed, admits.rows r passed, summaries r passed⟩

/-- A report needs its summaries to be readable, whatever the shape of its grid is. -/
theorem report_needs_summaries : ¬ ∀ form data l, Given form data l →
    ((∃ r, AggregationReport.read form = .pass r) ↔ l.IsRectangular) := by
  intro always
  let form : Fields := [(.text "columns", .list []), (.text "data", .list []),
    (.text "row_count", .int 0), (.text "aggregations", .null)]
  have given : Given form (.list []) ⟨[], [], 0, false⟩ := ⟨rfl, rfl, rfl, rfl, rfl⟩
  obtain ⟨r, passed⟩ := (always form _ _ given).mpr ⟨rfl, nofun⟩
  have refused : AggregationReport.read form = .error [⟨[.key "aggregations"], .listExpected⟩] := rfl
  cases refused.symm.trans passed

end Grid

end QueryDesk
