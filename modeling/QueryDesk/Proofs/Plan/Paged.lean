import QueryDesk.Proofs.Guard.Counted
import QueryDesk.Proofs.Plan.Described
import QueryDesk.Proofs.Plan.Upfront

namespace QueryDesk

section Count

/-- The number of rows that a row count tells of, given the rows of the reply to it: the first cell,
    if that is an integer. -/
def Plan.countOf (rows : List (List Datum)) : Int :=
  match rows.head?.bind (·.head?.map Datum.value) with
  | some (.int n) => n
  | _ => 0

variable {reply : Reply} {names : List Text} {rows : List (List Datum)}

theorem Reply.Tabulates.counts (tabulates : reply.Tabulates 1 names rows) (some : names ≠ []) :
    reply.Counts (Plan.countOf rows) := by
  obtain ⟨c, -, -, first, -⟩ := tabulates.read
  have single := first.bound
  cases rows with
  | nil => exact .empty tabulates
  | cons cells rest =>
    obtain rfl : rest = [] := by
      rw [List.length_cons] at single
      exact List.length_eq_zero_iff.mp (by omega)
    have wide := tabulates.even cells (by simp)
    cases cells with
    | nil => exact absurd (List.length_eq_zero_iff.mp wide.symm) some
    | cons cell others =>
      cases valued : cell.value with
      | int n =>
        have counted : Plan.countOf [cell :: others] = n := by simp [Plan.countOf, valued]
        rw [counted]
        exact .number tabulates valued
      | _ =>
        have uncounted : Plan.countOf [cell :: others] = 0 := by simp [Plan.countOf, valued]
        rw [uncounted]
        exact .other tabulates (by simp [valued])

end Count

theorem Plan.pageSize_le {s : Settings} {r : PreviewRequest} : pageSize s r ≤ s.previewMaxRows :=
  Int.min_le_right _ _

structure Settings.AcceptsPage (s : Settings) (source : Text) (r : PreviewRequest) (table : Sql.Name)
    (q : Sql.Query) : Prop where
  resolved : Sql.tableName source = .ok table
  compiled : Sql.preview table.text r (Plan.pageSize s r) = .ok q
  accepted : Guard.check s.policy .general q.sql = .ok ()

/-- An engine that answers the statement for a page with some rows, no more than the limit in it, and
    the row count with others. -/
structure Desk.Pages (d : Desk) (s : Settings) (r : PreviewRequest) (names : List Text)
    (rows counted : List (List Datum)) : Prop where
  few : (rows.length : Int) ≤ Plan.pageSize s r
  answered : ∃ (page count : Reply) (others : List Text), page.Holds names rows ∧
    count.Tabulates 1 others counted ∧ others ≠ [] ∧ d.engine.Replying [page, count]

structure Sql.Query.IsPage (q : Query) (table : Text) (r : PreviewRequest) (limit : Int)
    (condition : Condition) : Prop where
  filtered : Condition.ofFilters (r.filters.getD []) = .ok condition
  sql : q.sql = ("SELECT * FROM " : Text) ++ table ++ condition.text ++ " LIMIT " ++
    Text.ofInt limit ++ " OFFSET " ++ Text.ofInt (r.offset.getD 0)
  params : q.params = condition.params

section Preview

variable {s : Settings} {d : Desk} {source : Text} {r : PreviewRequest} {table : Sql.Name}
  {q : Sql.Query} {names : List Text} {rows counted : List (List Datum)}

theorem Sql.exists_isPage {t : Text} {limit : Int} (compiled : preview t r limit = .ok q) :
    ∃ condition, q.IsPage t r limit condition := by
  obtain ⟨condition, filtered, compiled⟩ := bind_eq_ok.mp compiled
  obtain ⟨count, counted, compiled⟩ := bind_eq_ok.mp compiled
  obtain ⟨offset, skipped, same⟩ := bind_eq_ok.mp compiled
  refine ⟨condition, filtered, ?_, ?_⟩
  · rw [← Except.ok.inj same, number_eq_ok counted, number_eq_ok skipped]
  · rw [← Except.ok.inj same]

theorem Plan.leads_preview {page count : Reply} {total : Int} {cap : Nat}
    (bound : s.previewMaxRows = cap) (fits : cap ≤ Reading.greatestCap)
    (asks : s.CountsRows source) (accepts : s.AcceptsPage source r table q)
    (tabulates : page.Tabulates cap names rows)
    (counts : count.Counts total) :
    (preview s source r).Leads [q.asked cap page, (Sql.rowCount table.text).asked 1 count]
      (.ok ⟨names, rows.map (·.map Datum.value), total, rows.length⟩) := by
  obtain ⟨g, leads, shape⟩ := leads_fresh accepts.accepted fits tabulates
  have counted : Guard.check s.policy .general (Sql.rowCount table.text).sql = .ok () :=
    rowCount_accepted (fun strict => asks strict table accepts.resolved) accepts.compiled
      accepts.accepted
  have request : Failure.ofRequest (Sql.preview table.text r (pageSize s r)) = .ok q := by
    rw [accepts.compiled]
    rfl
  have length : g.rowCount = rows.length := by
    rw [Grid.rowCount, shape.rows, List.length_map]
  unfold preview
  rw [Call.tableOf_of_tableName accepts.resolved, lift_ok_bind, request, lift_ok_bind, bound]
  rw [← shape.columns, ← shape.rows, ← length]
  exact leads.bind (leads_rowCount counts counted).bind_done

end Preview

/-- A page is asked for with the limit and the offset of its request, of which the limit is clamped,
    and then the rows of the whole table are counted. The answer holds every row that the engine has
    given for the page, and the count, which comes of the second reply alone. -/
theorem Call.preview_whole {s : Settings} {d : Desk} {source : Text} {r : PreviewRequest}
    {table : Sql.Name} {q : Sql.Query} {names : List Text} {rows counted : List (List Datum)}
    (fits : s.previewMaxRows ≤ Reading.greatestCap) (asks : s.CountsRows source)
    (accepts : s.AcceptsPage source r table q) (pages : d.Pages s r names rows counted) :
    ∃ condition after first second,
      ((preview source r).plan s).run d = (.ok (.preview ⟨names, rows.map (·.map Datum.value),
        Plan.countOf counted, rows.length⟩), after) ∧
      after.engine.statements = d.engine.statements ++ [first, second] ∧
      first.Of q (s.previewMaxRows.toNat + 1) ∧ second.Of (Sql.rowCount table.text) 2 ∧
      q.IsPage table.text r (min (r.limit.getD s.previewDefaultRows) s.previewMaxRows) condition ∧
      (rows.length : Int) ≤ s.previewMaxRows := by
  obtain ⟨page, count, others, holds, tabulates, some, replying⟩ := pages.answered
  have few : (rows.length : Int) ≤ s.previewMaxRows := Int.le_trans pages.few Plan.pageSize_le
  have bound : s.previewMaxRows = s.previewMaxRows.toNat := by omega
  obtain ⟨condition, isPage⟩ := Sql.exists_isPage accepts.compiled
  have all : page.Tabulates s.previewMaxRows.toNat names rows := holds.tabulates_of_le (by omega)
  have leads := (Plan.leads_preview bound (by omega) asks accepts all (tabulates.counts some)).map
    Answer.preview
  obtain ⟨after, ran, statements⟩ := leads.run replying
  exact ⟨condition, after, _, _, ran, statements, Sql.Query.sent_asked _ _ _,
    Sql.Query.sent_asked _ _ _, isPage, few⟩

/-- Of a request for ten rows after the first two, with a filter, one row is asked for if a page may
    have no more, and the rows of the table are counted without the filter. -/
theorem Call.preview_whole_clamped :
    let s : Settings := { Settings.default with previewMaxRows := 1, strictGuard := true }
    let page : Reply := .rows (.ofList [.text "x"] [[.int 7]] none)
    let count : Reply := .rows (.ofList [.text "row_count"] [[.int 12]] none)
    let d : Desk := .start s (.ofScript [page, count]) Snapshot.sessionStart
    let r : PreviewRequest := ⟨some 10, some 2, some [("kind", .int 1)]⟩
    ∃ after first second, ((preview "a" r).plan s).run d =
        (.ok (.preview ⟨["x"], [[.int 7]], 12, 1⟩), after) ∧
      after.engine.statements = [first, second] ∧
      first.sql = .text ("SELECT * FROM data_source_a WHERE kind = ? LIMIT 1 OFFSET 2" : Text) ∧
      second.sql = .text ("SELECT COUNT(*) AS row_count FROM data_source_a" : Text) := by
  intro s page count d r
  let q : Sql.Query := ⟨"SELECT * FROM data_source_a WHERE kind = ? LIMIT 1 OFFSET 2", [.int 1]⟩
  have compiled : Sql.preview "data_source_a" r (Plan.pageSize s r) = .ok q := by
    have limit : Sql.number (Plan.pageSize s r) = .ok (Text.ofInt 1) :=
      Sql.number_of_small (by decide)
    have offset : Sql.number (r.offset.getD 0) = .ok (Text.ofInt 2) :=
      Sql.number_of_small (by decide)
    rw [Sql.preview, limit, offset]
    rfl
  have accepts : s.AcceptsPage "a" r ⟨"data_source_a", by decide⟩ q := by
    obtain ⟨_, accepted⟩ := exists_of_isOk (x := Guard.check s.policy .general q.sql)
      (by decide +kernel)
    exact ⟨rfl, compiled, accepted⟩
  have asks : s.CountsRows "a" := fun _ _ resolved => SqlParser.grammar_rowCount resolved
  have holds : page.Holds ["x"] [[.int 7]] :=
    Reply.holds_ofList ["x"] [[.int 7]] (by simp) (by simp [Datum.isSignalling])
  have counts : count.Holds ["row_count"] [[.int 12]] :=
    Reply.holds_ofList ["row_count"] [[.int 12]] (by simp) (by simp [Datum.isSignalling])
  have pages : d.Pages s r ["x"] [[.int 7]] [[.int 12]] :=
    ⟨by decide, page, count, ["row_count"], holds, counts.tabulates 1, by decide,
      Engine.replying_ofScript _⟩
  obtain ⟨_, after, first, second, ran, statements, one, two, -⟩ :=
    preview_whole (by decide) asks accepts pages
  exact ⟨after, first, second, ran, statements, one.sql, two.sql⟩

/-- A page is answered whenever the engine gives no rows under these columns, neither for it nor for
    the row count. -/
def Call.PagedUnder (columns others : List Datum) : Prop :=
  ∀ (s : Settings) (d : Desk) (source : Text) (r : PreviewRequest) (table : Sql.Name)
    (q : Sql.Query), 0 ≤ Plan.pageSize s r → s.previewMaxRows ≤ Reading.greatestCap →
    s.CountsRows source → s.AcceptsPage source r table q →
    d.engine.Replying [.rows (.ofList columns [] none), .rows (.ofList others [] none)] →
    ∃ report after, ((preview source r).plan s).run d = (.ok (.preview report), after)

/-- A cap of `2 ^ 63` rows allows a page without rows, but there is none. Nor does a page come of
    columns that are named by no text, be they those of its rows or those of the row count, or of a
    row count that the guard takes for no query. -/
theorem Call.page_unanswered :
    (¬ ∀ (s : Settings) (d : Desk) (source : Text) (r : PreviewRequest) (table : Sql.Name)
      (q : Sql.Query) (names : List Text) (rows counted : List (List Datum)),
      s.CountsRows source → s.AcceptsPage source r table q → d.Pages s r names rows counted →
      ∃ report after, ((preview source r).plan s).run d = (.ok (.preview report), after)) ∧
    (¬ ∀ (columns : List Datum) (others : List Text), others ≠ [] →
      PagedUnder columns (others.map .text)) ∧
    (¬ ∀ (names : List Text) (others : List Datum), others ≠ [] →
      PagedUnder (names.map .text) others) ∧
    ¬ ∀ (s : Settings) (d : Desk) (source : Text) (r : PreviewRequest) (table : Sql.Name)
      (q : Sql.Query) (names : List Text) (rows counted : List (List Datum)),
      s.previewMaxRows ≤ Reading.greatestCap → s.AcceptsPage source r table q →
      d.Pages s r names rows counted →
      ∃ report after, ((preview source r).plan s).run d = (.ok (.preview report), after) := by
  let table : Sql.Name := ⟨"data_source_a", by decide⟩
  let q : Sql.Query := ⟨"SELECT * FROM data_source_a LIMIT 5 OFFSET 0", []⟩
  let r : PreviewRequest := ⟨some 5, none, none⟩
  have accepts (s : Settings) (few : Plan.pageSize s r = 5)
      (accepted : (Guard.check s.policy .general q.sql).isOk = true) :
      s.AcceptsPage "a" r table q := by
    have limit : Sql.number (Plan.pageSize s r) = .ok (Text.ofInt 5) := by
      rw [few]
      exact Sql.number_of_small (by decide)
    have offset : Sql.number (r.offset.getD 0) = .ok (Text.ofInt 0) :=
      Sql.number_of_small (by decide)
    obtain ⟨_, accepted⟩ := exists_of_isOk accepted
    refine ⟨rfl, ?_, accepted⟩
    rw [Sql.preview, limit, offset]
    rfl
  let d (s : Settings) (columns others : List Datum) : Desk :=
    .start s (.ofScript [.rows (.ofList columns [] none), .rows (.ofList others [] none)])
      Snapshot.sessionStart
  have unpaged {columns others : List Datum} (raised :
      (((preview "a" r).plan .default).run (d .default columns others)).1.isOk = false) :
      ¬ PagedUnder columns others := by
    intro always
    obtain ⟨report, after, ran⟩ := always .default (d .default columns others) "a" r table q
      (by decide) (by decide) nofun (accepts .default rfl (by decide +kernel))
      (Engine.replying_ofScript _)
    rw [ran] at raised
    cases raised
  have holds : Reply.Holds (.rows (.ofList [.text "x"] [] none)) ["x"] [] :=
    Reply.holds_ofList ["x"] [] (by simp) (by simp)
  have pages (s : Settings) (few : Plan.pageSize s r = 5) :
      (d s [.text "x"] [.text "x"]).Pages s r ["x"] [] [] :=
    ⟨by rw [few]; decide, _, _, ["x"], holds, holds.tabulates 1, by decide,
      Engine.replying_ofScript _⟩
  refine ⟨fun always => ?_, fun always => ?_, fun always => ?_, fun always => ?_⟩
  · let s : Settings := { Settings.default with previewMaxRows := 9223372036854775808 }
    obtain ⟨report, after, ran⟩ := always s _ "a" r table q _ _ _ nofun
      (accepts s rfl (by decide +kernel)) (pages s rfl)
    have raised : (((preview "a" r).plan s).run (d s [.text "x"] [.text "x"])).1.isOk = false := by
      decide +kernel
    rw [ran] at raised
    cases raised
  · exact unpaged (by decide +kernel) (always [.int 1] ["x"] (by decide))
  · exact unpaged (by decide +kernel) (always ["x"] [.int 1] (by decide))
  · let p : SqlParser := ⟨fun sql => .ok [.statement (if sql = q.sql then .query else .other "SET")]⟩
    let s : Settings := { Settings.default with strictGuard := true, parser := p }
    obtain ⟨report, after, ran⟩ := always s _ "a" r table q _ _ _ (by decide)
      (accepts s rfl (by decide +kernel)) (pages s rfl)
    have raised : (((preview "a" r).plan s).run (d s [.text "x"] [.text "x"])).1.isOk = false := by
      decide +kernel
    rw [ran] at raised
    cases raised

end QueryDesk
