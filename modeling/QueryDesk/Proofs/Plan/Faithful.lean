import QueryDesk.Desk.Session
import QueryDesk.Proofs.Grid.Origin
import QueryDesk.Proofs.Plan.Contract
import QueryDesk.Proofs.Plan.Permitted
import QueryDesk.Proofs.Sql.Name

namespace QueryDesk

def Grid.IsPortable (g : Grid) : Prop := ∀ row ∈ g.rows, ∀ v ∈ row, v.IsPortable

/-- What the values of an answer are, given the grids that it may hold, and how much it may show of
    which replies. -/
def Answer.Faithful (grids : Grid → Prop) (shown : Nat → Reply → Prop) : Answer → Prop
  | grid g => grids g
  | aggregation r => grids r.grid ∧ ∃ request, r.summaries = Plan.summaries request r.grid
  | preview r => ∃ cap reply, shown cap reply ∧ reply.Shows cap r.columns r.rows
  | values vs => ∃ cap reply columns rows, shown cap reply ∧ reply.Shows cap columns rows ∧
      List.Forall₂ (fun row v => row.head? = some v) rows vs
  | stream r => (∃ message, r = ⟨[], some message⟩) ∨
      ∃ cap reply, shown cap reply ∧ reply.Lists cap Record.Shows r.records
  | records rs => ∃ cap reply, shown cap reply ∧ reply.Lists cap KeyedRecord.Shows rs
  | numbers m => ∀ entry ∈ m, entry.2.isFinite = true
  | correlations t => ∀ row ∈ t, ∀ entry ∈ row.2, entry.2.isFinite = true
  | quality ms => ∀ m ∈ ms, m.nullPercentage.isFinite = true
  | metrics r => ∀ m ∈ r.metrics, m.value.IsPortable
  | columns _ | tableInfo _ | flag _ => True

def Answer.data : Answer → List Datum
  | grid g => (cellsOf g.rows).flatten
  | aggregation r => (cellsOf r.grid.rows).flatten ++ r.summaries.map fun s => s.result.toDatum
  | preview r => (cellsOf r.rows).flatten
  | values vs => vs.map Value.toDatum
  | stream r => r.records.flatMap fun record => record.map fun entry => entry.2.toDatum
  | records rs => rs.flatMap fun record => record.map fun entry => entry.2.toDatum
  | numbers m => m.map fun entry => .float entry.2
  | correlations t => t.flatMap fun row => row.2.map fun entry => .float entry.2
  | quality ms => ms.map fun m => .float m.nullPercentage
  | metrics r => r.metrics.map fun m => m.value.toDatum
  | columns _ | tableInfo _ | flag _ => []

def Shown.data : Shown → List Datum
  | grid sheet => sheet.cells.flatten
  | aggregation sheet summaries => sheet.cells.flatten ++ summaries.map fun s => s.result.toDatum
  | preview _ cells => cells.flatten
  | other a => a.data

theorem Answer.data_shown (a : Answer) : a.shown.data = a.data := by
  cases a <;> rfl

theorem Answer.Faithful.mono {a : Answer} {grids others : Grid → Prop} {shown wider : Nat → Reply → Prop}
    (faithful : a.Faithful grids shown) (held : ∀ g, grids g → others g)
    (given : ∀ cap reply, shown cap reply → wider cap reply) : a.Faithful others wider := by
  cases a with
  | grid g => exact held g faithful
  | aggregation r => exact ⟨held _ faithful.1, faithful.2⟩
  | preview r =>
    obtain ⟨cap, reply, there, shows⟩ := faithful
    exact ⟨cap, reply, given cap reply there, shows⟩
  | values vs =>
    obtain ⟨cap, reply, columns, rows, there, shows⟩ := faithful
    exact ⟨cap, reply, columns, rows, given cap reply there, shows⟩
  | stream r =>
    rcases faithful with failed | ⟨cap, reply, there, lists⟩
    · exact .inl failed
    · exact .inr ⟨cap, reply, given cap reply there, lists⟩
  | records rs =>
    obtain ⟨cap, reply, there, lists⟩ := faithful
    exact ⟨cap, reply, given cap reply there, lists⟩
  | _ => exact faithful

section Portable

variable {rows : List (List Value)} {g : Grid}

theorem portable_cellsOf (portable : ∀ row ∈ rows, ∀ v ∈ row, v.IsPortable) :
    ∀ d ∈ (cellsOf rows).flatten, d.IsPortable := by
  intro d member
  obtain ⟨cells, there, written⟩ := List.mem_flatten.mp member
  obtain ⟨row, present, rfl⟩ := List.mem_map.mp there
  obtain ⟨v, inside, rfl⟩ := List.mem_map.mp written
  exact portable row present v inside

theorem Grid.portable_records (portable : g.IsPortable) :
    ∀ record ∈ g.records, ∀ entry ∈ record, entry.2.IsPortable := by
  intro record made
  obtain ⟨row, member, rfl⟩ := List.mem_map.mp made
  apply OrderedMap.forall_ofList
  intro entry zipped
  exact portable row member _ (List.of_mem_zip zipped).2

theorem Grid.portable_first (portable : g.IsPortable) :
    ∀ entry ∈ g.records.headD [], entry.2.IsPortable := by
  cases records : g.records with
  | nil => exact nofun
  | cons record rest => exact g.portable_records portable record (by simp [records])

theorem portable_find? {record : Record} (portable : ∀ entry ∈ record, entry.2.IsPortable)
    (name : Text) : ((OrderedMap.find? record name).getD .null).IsPortable := by
  cases found : OrderedMap.find? record name with
  | none => exact .null
  | some v =>
    obtain ⟨entry, member, rfl⟩ := OrderedMap.exists_of_find? found
    exact portable entry member

theorem portable_summaries (portable : g.IsPortable) (r : AggregationRequest) :
    ∀ s ∈ Plan.summaries r g, s.result.IsPortable := by
  intro s made
  obtain ⟨op, -, rfl⟩ := List.mem_map.mp made
  apply portable_find?
  split
  · exact g.portable_first portable
  · exact nofun

theorem Reply.Lists.portable {κ : Type} {reply : Reply} {cap : Nat}
    {records : List (OrderedMap κ Value)}
    {shows : List Datum → List Datum → OrderedMap κ Value → Prop}
    (lists : reply.Lists cap shows records) (values : ∀ columns cells r, shows columns cells r →
      ∀ entry ∈ r, ∃ cell ∈ cells, Value.IsOf cell entry.2) :
    ∀ record ∈ records, ∀ entry ∈ record, entry.2.IsPortable := by
  obtain ⟨c, cells, -, -, shown⟩ := lists
  intro record member entry inside
  obtain ⟨row, -, shows⟩ := exists_of_forall₂ shown member
  obtain ⟨cell, -, value⟩ := values _ _ _ shows entry inside
  exact value.portable

theorem Answer.Faithful.portable {a : Answer} {grids : Grid → Prop} {shown : Nat → Reply → Prop}
    (faithful : a.Faithful grids shown) (portable : ∀ g, grids g → g.IsPortable) :
    ∀ d ∈ a.data, d.IsPortable := by
  cases a with
  | grid g => exact portable_cellsOf (portable g faithful)
  | aggregation r =>
    obtain ⟨held, request, same⟩ := faithful
    rw [data, List.forall_mem_append, same]
    refine ⟨portable_cellsOf (portable _ held), ?_⟩
    exact List.forall_mem_map.mpr (portable_summaries (portable _ held) request)
  | preview r =>
    obtain ⟨cap, reply, -, shows⟩ := faithful
    exact portable_cellsOf shows.portable
  | values vs =>
    obtain ⟨cap, reply, columns, rows, -, shows, heads⟩ := faithful
    rw [data, List.forall_mem_map]
    intro v member
    obtain ⟨row, inside, head⟩ := exists_of_forall₂ heads member
    exact shows.portable row inside v (List.mem_of_head? head)
  | stream r =>
    rw [data, List.forall_mem_flatMap]
    intro record member
    rcases faithful with ⟨message, rfl⟩ | ⟨cap, reply, -, lists⟩
    · cases member
    · have values := lists.portable fun _ _ _ shown => shown.1
      exact List.forall_mem_map.mpr (values record member)
  | records rs =>
    obtain ⟨cap, reply, -, lists⟩ := faithful
    have values := lists.portable fun _ _ _ shown => shown.1
    rw [data, List.forall_mem_flatMap]
    exact fun record member => List.forall_mem_map.mpr (values record member)
  | numbers m => exact List.forall_mem_map.mpr fun entry member => .float (faithful entry member)
  | correlations t =>
    rw [data, List.forall_mem_flatMap]
    intro row member
    exact List.forall_mem_map.mpr fun entry inside => .float (faithful row member entry inside)
  | quality ms => exact List.forall_mem_map.mpr fun m member => .float (faithful m member)
  | metrics r => exact List.forall_mem_map.mpr faithful
  | columns _ | tableInfo _ | flag _ => exact nofun

end Portable

end QueryDesk
