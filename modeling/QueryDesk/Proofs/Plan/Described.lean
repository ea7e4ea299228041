import QueryDesk.Proofs.Plan.Exchange
import QueryDesk.Proofs.Plan.Lasting

namespace QueryDesk

structure ColumnDescriptor.Of (record : Record) (column : ColumnDescriptor) : Prop where
  name : OrderedMap.find? record "column_name" = some (.text column.name)
  declaredType : OrderedMap.find? record "data_type" = some (.text column.declaredType)
  nullable : column.nullable = (OrderedMap.find? record "is_nullable" != some (.text "NO"))

namespace Reply

/-- The rows of a catalog reply, all of them, describe columns one by one. -/
def Describes (reply : Reply) (columns : List ColumnDescriptor) : Prop :=
  ∃ names rows, reply.Holds names rows ∧
    List.Forall₂ (fun cells column => ColumnDescriptor.Of (Record.ofCells names cells) column)
      rows columns

/-- The rows of a reply, all of them, begin with these values. -/
def Names (reply : Reply) (values : List Value) : Prop :=
  ∃ names rows, reply.Holds names rows ∧
    List.Forall₂ (fun cells v => (cells.map Datum.value).head? = some v) rows values

/-- A reply to the row count of a table. No row and a value that is no integer count as zero. -/
inductive Counts (reply : Reply) : Int → Prop
  | empty {names : List Text} (none : reply.Tabulates 1 names []) : Counts reply 0
  | number {names : List Text} {cell : Datum} {others : List Datum} {n : Int}
      (one : reply.Tabulates 1 names [cell :: others]) (counted : cell.value = .int n) :
      Counts reply n
  | other {names : List Text} {cell : Datum} {others : List Datum}
      (one : reply.Tabulates 1 names [cell :: others]) (uncounted : ∀ n, cell.value ≠ .int n) :
      Counts reply 0

end Reply

namespace Plan

theorem describedColumn_eq {record : Record} {column : ColumnDescriptor} (tells : column.Of record) :
    describedColumn record = .ok column := by
  have name : field record "column_name" = .ok (.text column.name) := by
    rw [field, tells.name]
  have declared : field record "data_type" = .ok (.text column.declaredType) := by
    rw [field, tells.declaredType]
  unfold describedColumn
  rw [name, declared, ← tells.nullable]
  obtain ⟨name, declaredType, nullable⟩ := column
  cases nullable <;> rfl

variable {s : Settings} {bound : Nat} (cap : s.previewMaxRows = bound)
  (fits : bound ≤ Reading.greatestCap) {source : Text} {table : Sql.Name} {reply : Reply}

section

include cap fits

theorem leads_columns (named : Sql.tableName source = .ok table) {columns : List ColumnDescriptor}
    (describes : reply.Describes columns) : (Plan.columns s source).Leads
      [(Sql.describe table.text).asked bound reply] (.ok (columns.take bound)) := by
  obtain ⟨names, rows, holds, each⟩ := describes
  obtain ⟨g, leads, shape⟩ := leads_catalog s (Sql.describe table.text) fits (holds.tabulates bound)
  have described : g.records.mapM describedColumn = .ok (columns.take bound) := by
    rw [shape.records, mapM_eq_ok, List.forall₂_map_left_iff]
    exact (List.forall₂_take bound each).imp fun _ _ tells => describedColumn_eq tells
  unfold Plan.columns
  rw [Call.tableOf_of_tableName named, lift_ok_bind, cap]
  rw [← described]
  exact leads.bind_done

theorem leads_tables {values : List Value} (lists : reply.Names values) :
    (tables s).Leads [Sql.listTables.asked bound reply] (.ok (values.take bound)) := by
  obtain ⟨names, rows, holds, each⟩ := lists
  obtain ⟨g, leads, shape⟩ := leads_catalog s Sql.listTables fits (holds.tabulates bound)
  have first : g.rows.mapM firstCell = .ok (values.take bound) := by
    rw [shape.rows, mapM_eq_ok, List.forall₂_map_left_iff]
    refine (List.forall₂_take bound each).imp fun cells v begins => ?_
    obtain ⟨others, row⟩ := List.head?_eq_some_iff.mp begins
    rw [row]
    rfl
  unfold tables
  rw [cap]
  rw [← first]
  exact leads.bind_done

end

section Beyond

variable (beyond : Reading.greatestCap < bound)

include cap beyond

theorem leads_columns_beyond (named : Sql.tableName source = .ok table)
    {columns : List ColumnDescriptor} (describes : reply.Describes columns) :
    (Plan.columns s source).Leads [(Sql.describe table.text).asked bound reply]
      (.error .capBeyondWord) := by
  obtain ⟨names, rows, holds, -⟩ := describes
  obtain ⟨c, rfl, -⟩ := holds.read
  unfold Plan.columns
  rw [Call.tableOf_of_tableName named, lift_ok_bind, cap]
  exact (leads_catalog_beyond s (Sql.describe table.text) beyond c).bind_error

theorem leads_tables_beyond {values : List Value} (lists : reply.Names values) :
    (tables s).Leads [Sql.listTables.asked bound reply] (.error .capBeyondWord) := by
  obtain ⟨names, rows, holds, -⟩ := lists
  obtain ⟨c, rfl, -⟩ := holds.read
  unfold tables
  rw [cap]
  exact (leads_catalog_beyond s Sql.listTables beyond c).bind_error

end Beyond

theorem leads_rowCount {n : Int} (counts : reply.Counts n)
    (accepted : Guard.check s.policy .general (Sql.rowCount table.text).sql = .ok ()) :
    (rowCount s table.text).Leads [(Sql.rowCount table.text).asked 1 reply] (.ok n) := by
  have fits : 1 ≤ Reading.greatestCap := by decide
  suffices counted : ∃ g, (fresh s (Sql.rowCount table.text) 1).Leads
      [(Sql.rowCount table.text).asked 1 reply] (.ok g) ∧ countIn g = .ok n by
    obtain ⟨g, leads, counted⟩ := counted
    rw [← counted]
    exact leads.bind_done
  cases counts with
  | empty none =>
    obtain ⟨g, leads, shape⟩ := leads_fresh accepted fits none
    refine ⟨g, leads, ?_⟩
    rw [countIn, shape.rows]
    rfl
  | number one counted =>
    obtain ⟨g, leads, shape⟩ := leads_fresh accepted fits one
    refine ⟨g, leads, ?_⟩
    simp only [countIn, shape.rows, List.map_cons, counted]
    rfl
  | @other _ cell _ one uncounted =>
    obtain ⟨g, leads, shape⟩ := leads_fresh accepted fits one
    refine ⟨g, leads, ?_⟩
    simp only [countIn, shape.rows, List.map_cons]
    cases valued : cell.value with
    | int n => exact absurd valued (uncounted n)
    | _ => rfl

end Plan

end QueryDesk
