import QueryDesk.Proofs.Plan.Profiled

namespace QueryDesk

def Call.Answers (c : Call) (s : Settings) (d : Desk) (a : Answer) : Prop :=
  ∃ after, (c.plan s).run d = (.ok a, after)

/-- Answers about the first of some items, as many as a bound allows: they are about all of them
    exactly when the bound allows so many. -/
structure Cut {α : Type} (bound : Nat) (items : List α) (answered : List α → Prop) : Prop where
  first : bound ≤ Reading.greatestCap → answered (items.take bound)
  whole : answered items ↔ items.length ≤ bound ∧ bound ≤ Reading.greatestCap

theorem Cut.of_unique {α : Type} {bound : Nat} {items : List α} {answered : List α → Prop}
    (first : bound ≤ Reading.greatestCap → answered (items.take bound))
    (beyond : Reading.greatestCap < bound → ¬ answered items)
    (unique : ∀ others, answered items → answered others → others.length = items.length) :
    Cut bound items answered := by
  refine ⟨first, fun all => ?_, fun ⟨few, fits⟩ => ?_⟩
  · have fits : bound ≤ Reading.greatestCap := Nat.le_of_not_lt fun more => beyond more all
    have length := unique _ all (first fits)
    rw [List.length_take] at length
    exact ⟨by omega, fits⟩
  · have all := first fits
    rwa [List.take_of_length_le few] at all

section Answers

variable {c : Call} {s : Settings} {d : Desk} {a b : Answer} {xs : List Exchange}

theorem Call.Answers.unique (one : c.Answers s d a) (other : c.Answers s d b) : a = b := by
  obtain ⟨after, ran⟩ := one
  obtain ⟨after', ran'⟩ := other
  exact Except.ok.inj (Prod.mk.inj (ran.symm.trans ran')).1

theorem Call.answers_of_leads (leads : (c.plan s).Leads xs (.ok a))
    (replying : d.engine.Replying (xs.map (·.reply))) : c.Answers s d a := by
  obtain ⟨after, ran, -⟩ := leads.run replying
  exact ⟨after, ran⟩

theorem Call.not_answers_of_leads {failure : Failure} (leads : (c.plan s).Leads xs (.error failure))
    (replying : d.engine.Replying (xs.map (·.reply))) : ¬ c.Answers s d a := by
  rintro ⟨after, ran⟩
  obtain ⟨after', failed, -⟩ := leads.run replying
  cases ran.symm.trans failed

end Answers

namespace Call

variable {s : Settings} {bound : Nat} {d : Desk} {source : Text} {table : Sql.Name}
  {described : List ColumnDescriptor} {catalog : Reply}

section Columns

variable (cap : s.previewMaxRows = bound) (named : Sql.tableName source = .ok table)
  (describes : catalog.Describes described)

include cap named describes

theorem cut_columns (replying : d.engine.Replying [catalog]) :
    Cut bound described fun answered => (columns source).Answers s d (.columns answered) := by
  refine .of_unique (fun fits => ?_) (fun beyond => ?_) fun others all some => ?_
  · exact answers_of_leads ((Plan.leads_columns cap fits named describes).map Answer.columns) replying
  · exact not_answers_of_leads
      ((Plan.leads_columns_beyond cap beyond named describes).map Answer.columns) replying
  · rw [Answer.columns.inj (some.unique all)]

theorem cut_tableInfo {counted : Reply} {n : Int} (counts : counted.Counts n)
    (accepted : Guard.check s.policy .general (Sql.rowCount table.text).sql = .ok ())
    (replying : d.engine.Replying [catalog, counted]) : Cut bound described fun answered =>
      (tableInfo source).Answers s d (.tableInfo ⟨table.text, answered, n⟩) := by
  have resolved := tableOf_of_tableName named
  refine .of_unique (fun fits => ?_) (fun beyond => ?_) fun others all some => ?_
  · have leads : (Plan.tableInfo s source).Leads [(Sql.describe table.text).asked bound catalog,
        (Sql.rowCount table.text).asked 1 counted]
        (.ok ⟨table.text, described.take bound, n⟩) := by
      unfold Plan.tableInfo
      rw [resolved, Plan.lift_ok_bind]
      exact (Plan.leads_columns cap fits named describes).bind
        (Plan.leads_rowCount counts accepted).bind_done
    exact answers_of_leads (leads.map Answer.tableInfo) replying
  · have leads : (Plan.tableInfo s source).Leads [(Sql.describe table.text).asked bound catalog]
        (.error .capBeyondWord) := by
      unfold Plan.tableInfo
      rw [resolved, Plan.lift_ok_bind]
      exact (Plan.leads_columns_beyond cap beyond named describes).bind_error
    exact not_answers_of_leads (leads.map Answer.tableInfo)
      (replying.of_prefix (List.prefix_append [catalog] [counted]))
  · rw [(TableInfo.mk.inj (Answer.tableInfo.inj (some.unique all))).2.1]

omit cap named describes in
theorem map_column_ofRecord {columns : List ColumnDescriptor} {records : List Record}
    (length : columns.length = records.length) :
    (List.zipWith QualityMetric.ofRecord columns records).map (·.column) =
      columns.map (·.name) := by
  rw [List.map_zipWith]
  have zipped := congrArg (List.map ColumnDescriptor.name) (List.map_fst_zip (Nat.le_of_eq length))
  rwa [List.zip, List.map_zipWith, List.map_zipWith] at zipped

theorem cut_quality {replies : List Reply} {records : List Record}
    (good : List.Forall₂ Reply.Profiles replies records) (length : replies.length = described.length)
    (valid : ∀ column ∈ described, Sql.isName column.name = true)
    (replying : d.engine.Replying (catalog :: replies)) : Cut bound described fun covered =>
      ∃ metrics, (quality source).Answers s d (.quality metrics) ∧
        metrics.map (·.column) = covered.map (·.name) := by
  refine .of_unique (fun fits => ?_) (fun beyond => ?_) fun others all some => ?_
  · have taken := List.forall₂_take bound good
    have count : (replies.take bound).length = (described.take bound).length := by
      rw [List.length_take, List.length_take, length]
    obtain ⟨queries, compiled⟩ := Sql.exists_profiling table.text
      fun column member => valid column (List.mem_of_mem_take member)
    have leads := (Plan.leads_quality cap fits named describes
      (Plan.leads_profiles compiled taken count)).map Answer.quality
    have given : ((Sql.describe table.text).asked bound catalog ::
        Exchange.each 1 queries (replies.take bound)).map (·.reply) =
          catalog :: replies.take bound := by
      rw [List.map_cons, Exchange.reply_each 1 (count.trans compiled.length_eq)]
      rfl
    refine ⟨_, answers_of_leads leads ?_, map_column_ofRecord (count.symm.trans taken.length_eq)⟩
    rw [given]
    exact replying.of_prefix (List.cons_prefix_cons.mpr ⟨rfl, List.take_prefix bound replies⟩)
  · rintro ⟨metrics, answered, -⟩
    have leads : (Plan.quality s source).Leads [(Sql.describe table.text).asked bound catalog]
        (.error .capBeyondWord) := by
      unfold Plan.quality
      rw [tableOf_of_tableName named, Plan.lift_ok_bind]
      exact (Plan.leads_columns_beyond cap beyond named describes).bind_error
    have first : d.engine.Replying [catalog] :=
      replying.of_prefix (List.prefix_append [catalog] replies)
    have unanswered : ¬ (quality source).Answers s d (.quality metrics) :=
      not_answers_of_leads (leads.map Answer.quality) first
    exact unanswered answered
  · obtain ⟨metrics, one, columns⟩ := all
    obtain ⟨metrics', other, columns'⟩ := some
    rw [Answer.quality.inj (one.unique other), columns'] at columns
    have counts := congrArg List.length columns
    rwa [List.length_map, List.length_map] at counts

end Columns

theorem cut_tables (cap : s.previewMaxRows = bound) {values : List Value} {reply : Reply}
    (lists : reply.Names values) (replying : d.engine.Replying [reply]) :
    Cut bound values fun answered => tables.Answers s d (.values answered) := by
  refine .of_unique (fun fits => ?_) (fun beyond => ?_) fun others all some => ?_
  · exact answers_of_leads ((Plan.leads_tables cap fits lists).map Answer.values) replying
  · exact not_answers_of_leads ((Plan.leads_tables_beyond cap beyond lists).map Answer.values)
      replying
  · rw [Answer.values.inj (some.unique all)]

end Call

/-- With a cap that is not negative, calls about tables answer with what the first rows of the
    catalog tell, as many as the cap allows: the columns of a table, those and its row count, a profile
    of each of those, and the names of tables. All rows are told of exactly if there are no more. -/
theorem Call.introspection_cut (s : Settings) (bound : Nat) (cap : s.previewMaxRows = bound)
    (d : Desk) :
    (∀ source table described (catalog : Reply), Sql.tableName source = .ok table →
      catalog.Describes described →
      (d.engine.Replying [catalog] → Cut bound described fun answered =>
        (columns source).Answers s d (.columns answered)) ∧
      (∀ (counted : Reply) n, counted.Counts n →
        Guard.check s.policy .general (Sql.rowCount table.text).sql = .ok () →
        d.engine.Replying [catalog, counted] → Cut bound described fun answered =>
          (tableInfo source).Answers s d (.tableInfo ⟨table.text, answered, n⟩)) ∧
      ∀ replies records, List.Forall₂ Reply.Profiles replies records →
        replies.length = described.length →
        (∀ column ∈ described, Sql.isName column.name = true) →
        d.engine.Replying (catalog :: replies) → Cut bound described fun covered =>
          ∃ metrics, (quality source).Answers s d (.quality metrics) ∧
            metrics.map (·.column) = covered.map (·.name)) ∧
    ∀ values (reply : Reply), reply.Names values → d.engine.Replying [reply] →
      Cut bound values fun answered => tables.Answers s d (.values answered) := by
  refine ⟨fun source table described catalog named describes => ⟨?_, ?_, ?_⟩, ?_⟩
  · exact cut_columns cap named describes
  · exact fun counted n counts accepted => cut_tableInfo cap named describes counts accepted
  · exact fun replies records good length valid =>
      cut_quality cap named describes good length valid
  · exact fun values reply lists => cut_tables cap lists

theorem Call.introspection_cut_column :
    let s : Settings := { Settings.default with previewMaxRows := 1 }
    let catalog : Reply := .rows (.ofList [.text "column_name", .text "data_type"]
      [[.text "x", .text "INTEGER"], [.text "y", .text "INTEGER"]] none)
    let d : Desk := .start s (.ofScript [catalog]) Snapshot.sessionStart
    let x : ColumnDescriptor := ⟨"x", "INTEGER", true⟩
    let y : ColumnDescriptor := ⟨"y", "INTEGER", true⟩
    (columns "a").Answers s d (.columns [x]) ∧ ¬ (columns "a").Answers s d (.columns [x, y]) := by
  intro s catalog d x y
  let names : List Text := ["column_name", "data_type"]
  let rows : List (List Datum) := [[.text "x", .text "INTEGER"], [.text "y", .text "INTEGER"]]
  have holds : catalog.Holds names rows := Reply.holds_ofList names rows (by simp [rows, names])
    (by simp [rows, Datum.isSignalling])
  have describes : catalog.Describes [x, y] :=
    ⟨names, rows, holds, .cons ⟨rfl, rfl, rfl⟩ (.cons ⟨rfl, rfl, rfl⟩ .nil)⟩
  obtain ⟨tables, -⟩ := introspection_cut s 1 rfl d
  have cut := (tables "a" ⟨"data_source_a", by decide⟩ [x, y] catalog rfl describes).1
    (Engine.replying_ofScript _)
  refine ⟨cut.first (by decide), fun all => ?_⟩
  exact absurd (cut.whole.mp all).1 (by decide)

/-- Row caps that are not negative do not suffice for all columns to be described. -/
theorem Call.column_withheld :
    ¬ ∀ (s : Settings) (d : Desk) (source : Text) (table : Sql.Name)
      (described : List ColumnDescriptor) (catalog : Reply),
      0 ≤ s.previewDefaultRows → 0 ≤ s.previewMaxRows → 0 ≤ s.streamMaxRows →
      Sql.tableName source = .ok table → catalog.Describes described →
      d.engine.Replying [catalog] → (columns source).Answers s d (.columns described) := by
  intro always
  let s : Settings := { Settings.default with previewMaxRows := 1 }
  let names : List Text := ["column_name", "data_type"]
  let rows : List (List Datum) := [[.text "x", .text "INTEGER"], [.text "y", .text "INTEGER"]]
  let catalog : Reply := .rows (.ofList (names.map .text) rows none)
  let d : Desk := .start s (.ofScript [catalog]) Snapshot.sessionStart
  let table : Sql.Name := ⟨"data_source_a", by decide⟩
  have holds : catalog.Holds names rows := Reply.holds_ofList names rows (by simp [rows, names])
    (by simp [rows, Datum.isSignalling])
  have describes : catalog.Describes [⟨"x", "INTEGER", true⟩, ⟨"y", "INTEGER", true⟩] :=
    ⟨names, rows, holds, .cons ⟨rfl, rfl, rfl⟩ (.cons ⟨rfl, rfl, rfl⟩ .nil)⟩
  have replying : d.engine.Replying [catalog] := Engine.replying_ofScript _
  have cap : s.previewMaxRows = (1 : Nat) := rfl
  have resolved : Sql.tableName "a" = .ok table := rfl
  have cut := cut_columns cap resolved describes replying
  have all := always s d "a" table _ catalog (by decide) (by decide) (by decide) resolved describes
    replying
  exact absurd (cut.whole.mp all).1 (by decide)

end QueryDesk
