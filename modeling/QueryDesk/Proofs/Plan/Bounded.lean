import QueryDesk.Proofs.Engine.Supply
import QueryDesk.Proofs.Grid.Shapes
import QueryDesk.Proofs.Plan.Ordered
import QueryDesk.Snapshot.Session

namespace QueryDesk

namespace Grid

variable {c : Cursor} {names : List Text} {n : ℕ∞} {bound : ℕ}

/-- What comes of fetching the rows of a cursor up to a bound and making a grid of them, when the
    cursor gives `n` rows before it finishes or fails. -/
structure Bounded (c : Cursor) (names : List Text) (n : ℕ∞) (bound : ℕ) (rows : List (List Datum))
    (fetches : ℕ) (outcome : Except Failure Grid) : Prop where
  fetches_eq : (fetches : ℕ∞) = min n bound + 1
  length_eq : (rows.length : ℕ∞) = min n bound
  first : c.FirstRows bound rows
  fails : ∀ fault, outcome = .error (.engine fault) ↔
    ∃ m : ℕ, n = m ∧ m ≤ bound ∧ c.fetch m = .failed fault
  made : (∀ fault, outcome ≠ .error (.engine fault)) → ((∃ g, outcome = .ok g) ↔
    ∀ cells ∈ rows, cells.length = names.length ∧ ∃ row, Value.ofRow cells = .ok row)
  grid : ∀ g, outcome = .ok g → g.columns = names ∧ rows.mapM Value.ofRow = .ok g.rows ∧
    (g.rowCount : ℕ∞) = min n bound ∧ (g.truncated = true ↔ bound < n)

theorem bounded_readUpTo (columns : c.columns = names.map .text) (delivers : c.Delivers n)
    (bound : ℕ) : ∃ rows, Bounded c names n bound rows (Reading.readUpTo c bound).1
      ((Reading.readUpTo c bound).2 >>= Pull.grid) := by
  obtain ⟨rows, first, fetches, stops, goes⟩ := Reading.readUpTo_eq c bound
  have length := delivers.length_eq first
  have fetches_eq : ((Reading.readUpTo c bound).1 : ℕ∞) = min n bound + 1 := by
    rw [fetches, Nat.cast_add, length]
    rfl
  refine ⟨rows, ?_⟩
  by_cases failing : ∃ fault, c.fetch rows.length = .failed fault
  · obtain ⟨fault, failed⟩ := failing
    have outcome : ((Reading.readUpTo c bound).2 >>= Pull.grid) = .error (.engine fault) := by
      rw [stops fault failed]
      rfl
    rw [outcome]
    refine ⟨fetches_eq, length, first, fun other => ?_, fun sound => absurd rfl (sound fault), nofun⟩
    rw [← delivers.failed_iff first, failed]
    exact ⟨fun same => by cases same; rfl, fun same => by cases same; rfl⟩
  · obtain ⟨more, read, beyond⟩ := goes (not_exists.mp failing)
    rw [delivers.more_iff first] at beyond
    have outcome : ((Reading.readUpTo c bound).2 >>= Pull.grid) =
        Pull.grid ⟨names.map .text, rows, more⟩ := by
      rw [read, columns]
      rfl
    rw [outcome]
    refine ⟨fetches_eq, length, first, fun fault => ?_, fun _ => Pull.exists_grid_iff, ?_⟩
    · rw [← delivers.failed_iff first]
      refine iff_of_false (fun raised => ?_) fun failed => failing ⟨fault, failed⟩
      have ends := Pull.ends_grid ⟨names.map .text, rows, more⟩
      rw [raised] at ends
      cases ends
    · intro g made
      obtain ⟨rfl, mapped, rfl⟩ := Pull.grid_texts_eq_ok.mp made
      have same : rows.length = g.rowCount := (mapM_eq_ok.mp mapped).length_eq
      rw [same] at length
      exact ⟨rfl, mapped, length, beyond⟩

end Grid

namespace Order

variable {o p : Order} {policy : Guard.Policy} {cap : Int} {d after : Desk} {c : Cursor}
  {names : List Text} {n : ℕ∞} {g : Grid}

/-- An order for rows up to a cap that passes the guard of an open engine, whose reply gives `n`
    rows before it finishes or fails. -/
structure Runs (o : Order) (policy : Guard.Policy) (cap : Int) (d : Desk) (c : Cursor) (names : List Text)
    (n : ℕ∞) : Prop where
  reading : o.reading = .upTo cap
  accepted : o.check policy = .ok ()
  isOpen : d.engine.closed = false
  answered : d.engine.nextReply = .rows c
  columns : c.columns = names.map .text
  delivers : c.Delivers n

theorem Runs.exchange_eq (runs : o.Runs policy cap d c names n) :
    d.engine.exchange o.job = (Reading.upTo cap).run c := by
  have reading : o.job.reading = .upTo cap := runs.reading
  simp only [Engine.exchange, runs.isOpen, Bool.false_eq_true, if_false, runs.answered, reading,
    Reading.answer]

theorem Runs.run_grid (runs : o.Runs policy cap d c names n) : ∃ after sent,
    (o.grid policy).run d = (((Reading.upTo cap).run c).2 >>= Pull.grid, after) ∧
      after.engine.log = sent :: d.engine.log ∧ sent.sql = o.statement.text ∧
      sent.fetches = ((Reading.upTo cap).run c).1 := by
  have log : (d.perform o.job).2.engine.log = (d.engine.perform o.job).2.log := rfl
  rw [Engine.log_perform, runs.isOpen, runs.exchange_eq] at log
  refine ⟨(d.perform o.job).2, _, ?_, log, rfl, rfl⟩
  rw [Order.run_grid runs.accepted, runs.exchange_eq]

/-- Reading up to a cap that is out of range fails without a fetch. Up to any other cap, one fetch is
    made after the rows that are taken, and of a row past the cap nothing is seen but that it is
    there: any other rows may follow in its place. -/
theorem grid_bounded (runs : o.Runs policy cap d c names n) : ∃ outcome after sent,
    (o.grid policy).run d = (outcome, after) ∧ after.engine.log = sent :: d.engine.log ∧
      sent.sql = o.statement.text ∧
      (cap < 0 → sent.fetches = 0 ∧ outcome = .error (.belowZero cap)) ∧
      (Reading.greatestCap < cap → sent.fetches = 0 ∧ outcome = .error .capBeyondWord) ∧
      ∀ bound : ℕ, cap = bound → bound ≤ Reading.greatestCap →
        (∃ rows, Grid.Bounded c names n bound rows sent.fetches outcome) ∧
        (bound < n → ∀ (other : Cursor) (script : List Reply), other.columns = c.columns →
          (∀ k < bound, other.fetch k = c.fetch k) → (∃ cells, other.fetch bound = .row cells) →
          ((o.grid policy).run
            { d with engine := { d.engine with script := .rows other :: script } }).1 = outcome) := by
  obtain ⟨after, sent, ran, log, sql, fetches⟩ := runs.run_grid
  refine ⟨_, after, sent, ran, log, sql, fun negative => ?_, fun beyond => ?_, ?_⟩
  · simp only [Reading.run, if_pos negative] at fetches ⊢
    exact ⟨fetches, rfl⟩
  · have positive : ¬ cap < 0 := by omega
    have long : Reading.greatestCap < cap.toNat := by omega
    simp only [Reading.run, if_neg positive, if_pos long] at fetches ⊢
    exact ⟨fetches, rfl⟩
  · rintro bound rfl fits
    rw [Reading.run_upTo c fits] at fetches ⊢
    constructor
    · rw [fetches]
      exact Grid.bounded_readUpTo runs.columns runs.delivers bound
    · intro more other script columns agree others
      have read : Reading.readUpTo other bound = Reading.readUpTo c bound :=
        Reading.readUpTo_congr columns agree (runs.delivers.row bound more) others
      obtain ⟨count, deliver⟩ := other.exists_delivers
      have runs' : o.Runs policy bound
          { d with engine := { d.engine with script := .rows other :: script } } other names count :=
        ⟨runs.reading, runs.accepted, runs.isOpen, rfl, columns.trans runs.columns, deliver⟩
      obtain ⟨after', -, ran', -⟩ := runs'.run_grid
      rw [ran', Reading.run_upTo other fits, read]

theorem grid_bounded_peeked :
    let names : List Text := ["n"]
    let c : Cursor := .ofList (names.map .text) [[.int 1], [.int 2, .int 3]]
      (some ⟨"InternalException", "no", true⟩)
    let d : Desk := .start .default (.ofScript [.rows c]) Snapshot.sessionStart
    let o : Order := ⟨⟨.text "SELECT 1", []⟩, .upTo 1, .general, true⟩
    o.Runs .words 1 d c names 2 ∧ ∃ g after sent, (o.grid .words).run d = (.ok g, after) ∧
      after.engine.log = [sent] ∧ sent.fetches = 2 ∧ g.rows = [[.int 1]] ∧ g.truncated = true := by
  intro names c d o
  have runs : o.Runs .words 1 d c names 2 :=
    ⟨rfl, rfl, rfl, rfl, rfl, Cursor.delivers_ofList _ _ _⟩
  obtain ⟨outcome, after, sent, ran, log, -, -, -, within⟩ := grid_bounded runs
  obtain ⟨⟨rows, bounded⟩, -⟩ := within 1 rfl (by decide)
  have made : ((o.grid .words).run d).1 = .ok ⟨names, [[.int 1]], true, by simp [names]⟩ := rfl
  rw [ran] at made
  subst made
  have fetches : (sent.fetches : ℕ∞) = (2 : ℕ) := bounded.fetches_eq
  exact ⟨runs, _, after, sent, ran, log, Nat.cast_inj.mp fetches, rfl, rfl⟩

/-- A cap of `2 ^ 63` rows is refused before the first row is fetched. -/
theorem grid_beyond_greatestCap : ¬ ∀ (o : Order) (policy : Guard.Policy) (cap : Int) (d : Desk) (c : Cursor)
    (names : List Text) (n : ℕ∞), o.Runs policy cap d c names n → 0 ≤ cap →
    ∃ outcome after sent, (o.grid policy).run d = (outcome, after) ∧
      after.engine.log = sent :: d.engine.log ∧ (sent.fetches : ℕ∞) = min n cap.toNat + 1 := by
  intro always
  let names : List Text := ["n"]
  let c : Cursor := .ofList (names.map .text) [[.int 1]] none
  let d : Desk := .start .default (.ofScript [.rows c]) Snapshot.sessionStart
  let o : Order := ⟨⟨.text "SELECT 1", []⟩, .upTo 9223372036854775808, .general, true⟩
  have runs : o.Runs .words 9223372036854775808 d c names 1 :=
    ⟨rfl, rfl, rfl, rfl, rfl, Cursor.delivers_ofList _ _ _⟩
  obtain ⟨outcome, after, sent, ran, log, fetches⟩ := always _ _ _ _ _ _ _ runs (by decide)
  obtain ⟨after', sent', ran', log', -, none⟩ := runs.run_grid
  cases ran.symm.trans ran'
  cases log.symm.trans log'
  have unread : sent.fetches = 0 := none
  rw [unread] at fetches
  exact absurd fetches.symm (by simp)

/-- An order that is answered by a grid is answered by the records of the grid when those are wanted
    instead, by the same statement and fetches. In each record the names stand in the order in which
    they first come, the value is that of the last column of a name, and where no name is there twice
    the columns read the row back. -/
theorem run_records_of_grid (same : p.job = o.job) (accepted : p.check policy = .ok ())
    (answered : d.engine.nextReply = .rows c) (columns : c.columns = names.map .text)
    (ran : (o.grid policy).run d = (.ok g, after)) :
    (p.records policy).run d = (.ok (g.records.map Record.keyed), after) ∧
      (∃ rows, c.FirstRows o.reading.cap rows ∧ rows.mapM Value.ofRow = .ok g.rows ∧
        List.Forall₂ (Record.Maps names) rows g.records) ∧
      (names.Nodup →
        g.records.map (fun r => names.map (OrderedMap.find? r)) = g.rows.map (·.map some)) := by
  have granted := accepted_of_run ran
  rw [run_grid granted] at ran
  obtain ⟨outcome, rfl⟩ := Prod.mk.inj ran
  obtain ⟨pull, read, made⟩ := bind_eq_ok.mp outcome
  obtain ⟨c', answered', named, first⟩ : ∃ c', d.engine.nextReply = .rows c' ∧
      pull.columns = c'.columns ∧ c'.FirstRows o.reading.cap pull.rows := by
    unfold Engine.exchange at read
    split at read
    · cases read
    · exact Reading.exists_firstRows read
  cases answered.symm.trans answered'
  obtain ⟨_, rows, more⟩ := pull
  cases named.trans columns
  obtain ⟨rfl, mapped, -⟩ := Pull.grid_texts_eq_ok.mp made
  refine ⟨?_, ⟨rows, first, mapped, ?_⟩, fun nodup => ?_⟩
  · rw [run_records accepted, same, read]
    exact congrArg (Prod.mk · _) (Pull.records_of_grid made)
  · have even := (List.forall₂_and_left _ _).mpr ⟨g.rectangular, (Pull.rows_eq_ok.mp mapped).flip⟩
    rw [Grid.records, List.forall₂_map_right_iff]
    exact even.flip.imp fun cells row both => Record.maps_recordOf both.2 both.1
  · rw [Grid.records, List.map_map]
    exact List.map_congr_left fun row member =>
      Grid.map_find?_recordOf (g.rectangular row member) nodup

theorem run_records_of_grid_twice :
    let names : List Text := ["a", "b", "a"]
    let c : Cursor := .ofList (names.map .text) [[.int 1, .int 2, .int 3], [.int 4]] none
    let d : Desk := .start .default (.ofScript [.rows c]) Snapshot.sessionStart
    let o : Order := ⟨⟨.text "SELECT 1", []⟩, .upTo 1, .general, true⟩
    let p : Order := { o with mode := .readOnly }
    let record : Record := [("a", .int 3), ("b", .int 2)]
    ∃ g after, (o.grid .words).run d = (.ok g, after) ∧
      (p.records .words).run d = (.ok (g.records.map Record.keyed), after) ∧ g.records = [record] := by
  intro names c d o p record
  let g : Grid := ⟨names, [[.int 1, .int 2, .int 3]], true, by simp [names]⟩
  have ran : (o.grid .words).run d = (.ok g, ((o.grid .words).run d).2) := rfl
  have accepted : p.check .words = .ok () := rfl
  obtain ⟨records, -⟩ := run_records_of_grid rfl accepted rfl rfl ran
  exact ⟨g, _, ran, records, by decide⟩

end Order

end QueryDesk
