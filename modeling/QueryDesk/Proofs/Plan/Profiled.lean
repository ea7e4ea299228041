import QueryDesk.Proofs.Plan.Described
import QueryDesk.Proofs.Plan.Showing
import QueryDesk.Proofs.Plan.Upfront

namespace QueryDesk

section Records

def Record.count? (r : Record) (name : Text) : Option Int :=
  match OrderedMap.find? r name with
  | some (.int n) => some n
  | _ => none

def Record.HasCounts (r : Record) : Prop :=
  ∀ name ∈ (["total_rows", "null_rows", "unique_count"] : List Text), ∀ v,
    OrderedMap.find? r name = some v → v = .null ∨ ∃ n, v = .int n

/-- A record with counts whose share of nulls is no integer too large for a floating-point number. -/
structure Record.IsProfile (r : Record) : Prop where
  counts : r.HasCounts
  rounded : ∀ v, OrderedMap.find? r "null_percentage" = some v → v.IsRounded

/-- What a record tells of a column. Null and nothing count as zero, where a number is wanted. -/
def QualityMetric.ofRecord (column : ColumnDescriptor) (r : Record) : QualityMetric where
  column := column.name
  dataType := column.declaredType
  totalRows := (r.count? "total_rows").getD 0
  nullCount := (r.count? "null_rows").getD 0
  nullPercentage := ((OrderedMap.find? r "null_percentage").getD .null).quantity
  uniqueCount := r.count? "unique_count"
  minLength := none
  maxLength := none

theorem Record.isProfile_nil : IsProfile [] := by
  constructor
  · intro name _ v found
    cases found
  · intro v found
    cases found

variable {r : Record}

theorem Record.IsProfile.orZero_eq (profile : r.IsProfile) {name : Text}
    (counted : name ∈ (["total_rows", "null_rows", "unique_count"] : List Text)) :
    Plan.orZero r name = .int ((r.count? name).getD 0) := by
  unfold Plan.orZero count?
  cases found : OrderedMap.find? r name with
  | none => rfl
  | some v =>
    rcases profile.counts name counted v found with rfl | ⟨n, rfl⟩
    · rfl
    · by_cases zero : n = 0
      · subst zero
        rfl
      · simp [Value.toDatum, Datum.isTruthy, zero]

theorem Record.IsProfile.profileOf_eq (profile : r.IsProfile) (column : ColumnDescriptor) :
    Plan.profileOf column r = .ok (.ofRecord column r) := by
  have rounded : ((OrderedMap.find? r "null_percentage").getD .null).IsRounded := by
    cases found : OrderedMap.find? r "null_percentage" with
    | none => exact True.intro
    | some v => exact profile.rounded v found
  unfold Plan.profileOf
  rw [Plan.numberOrZero_eq rounded, profile.orZero_eq (by simp), profile.orZero_eq (by simp)]
  unfold QualityMetric.ofRecord Record.count?
  cases found : OrderedMap.find? r "unique_count" with
  | none => rfl
  | some v =>
    rcases profile.counts "unique_count" (by simp) v found with rfl | ⟨n, rfl⟩ <;> rfl

end Records

/-- A reply that a profile is made of: its first row as a record, or nothing if there is no row. -/
structure Reply.Profiles (reply : Reply) (r : Record) : Prop where
  read : ∃ names rows, reply.Tabulates 1 names rows ∧
    r = (rows.map (Record.ofCells names)).headD []
  profile : r.IsProfile

namespace Sql

def Profiling (table : Text) (columns : List ColumnDescriptor) (queries : List Query) : Prop :=
  List.Forall₂ (fun column q => nullProfile table (.text column.name) = .ok q) columns queries

theorem exists_profiling (table : Text) {columns : List ColumnDescriptor}
    (valid : ∀ column ∈ columns, isName column.name = true) :
    ∃ queries, Profiling table columns queries := by
  simp only [Profiling, ← mapM_eq_ok]
  refine exists_mapM_iff.mpr fun column member => ?_
  have named : Name.ofDatum "column" (.text column.name) = .ok ⟨column.name, valid column member⟩ :=
    Name.ofText_eq_ok.mpr rfl
  rw [nullProfile, named]
  exact ⟨_, rfl⟩

theorem nullProfile_of_not_isName (table : Text) {name : Text} (invalid : isName name = false) :
    nullProfile table (.text name) = .error (.invalidName "column" (.text name)) := by
  have refused : Name.ofDatum "column" (.text name) = .error (.invalidName "column" (.text name)) :=
    Name.ofText_of_not_isName "column" invalid
  rw [nullProfile, refused]
  rfl

end Sql

namespace Plan

section Leads

variable {s : Settings} {table : Text} {columns : List ColumnDescriptor} {queries : List Sql.Query}
  {replies : List Reply} {records : List Record}

theorem leads_profile {column : ColumnDescriptor} {q : Sql.Query} {reply : Reply} {r : Record}
    (compiled : Sql.nullProfile table (.text column.name) = .ok q) (profiles : reply.Profiles r) :
    (profile s table column).Leads [q.asked 1 reply] (.ok (.ofRecord column r)) := by
  obtain ⟨names, rows, tabulates, same⟩ := profiles.read
  obtain ⟨g, leads, shape⟩ := leads_catalog s q (by decide) tabulates
  have request : Failure.ofRequest (Sql.nullProfile table (.text column.name)) = .ok q := by
    rw [compiled]
    rfl
  unfold profile
  rw [request, lift_ok_bind, ← profiles.profile.profileOf_eq column, same, ← shape.records]
  exact leads.bind_done

theorem leads_profiles (compiled : Sql.Profiling table columns queries)
    (good : List.Forall₂ Reply.Profiles replies records) (length : replies.length = columns.length) :
    (profiles s table columns).Leads (Exchange.each 1 queries replies)
      (.ok (List.zipWith .ofRecord columns records)) := by
  induction compiled generalizing replies records with
  | nil => exact .done _
  | cons own _ ih =>
    cases good with
    | nil => cases length
    | cons first others =>
      exact (leads_profile own first).bind (ih others (Nat.succ.inj length)).bind_done

theorem leads_profiles_refused {bad : ColumnDescriptor} (later : List ColumnDescriptor)
    (compiled : Sql.Profiling table columns queries)
    (good : List.Forall₂ Reply.Profiles replies records) (length : replies.length = columns.length)
    (invalid : Sql.isName bad.name = false) :
    (profiles s table (columns ++ bad :: later)).Leads (Exchange.each 1 queries replies)
      (.error (.refused (.request (.invalidName "column" (.text bad.name))))) := by
  induction compiled generalizing replies records with
  | nil =>
    simp only [List.nil_append, profiles, profile, Sql.nullProfile_of_not_isName table invalid]
    exact .done _
  | cons own _ ih =>
    cases good with
    | nil => cases length
    | cons first others =>
      exact (leads_profile own first).bind (ih others (Nat.succ.inj length)).bind_error

variable {bound : Nat} {source : Text} {name : Sql.Name} {catalog : Reply}
  {described : List ColumnDescriptor} {outcome : Except Failure (List QualityMetric)}

theorem leads_quality (cap : s.previewMaxRows = bound) (fits : bound ≤ Reading.greatestCap)
    (named : Sql.tableName source = .ok name) (describes : catalog.Describes described)
    (later : (profiles s name.text (described.take bound)).Leads (Exchange.each 1 queries replies)
      outcome) :
    (quality s source).Leads ((Sql.describe name.text).asked bound catalog ::
      Exchange.each 1 queries replies) outcome := by
  unfold quality
  rw [Call.tableOf_of_tableName named, lift_ok_bind]
  exact (leads_columns cap fits named describes).bind later

end Leads

end Plan

section Unforbidden

variable {α : Type}

def Failure.NotForbidden (f : Failure) : Prop := ∀ cause, f ≠ .refused (.forbidden cause)

theorem Failure.notForbidden_ofRequest {e : Except RequestFault α} {f : Failure}
    (failed : Failure.ofRequest e = .error f) : f.NotForbidden := by
  cases e with
  | ok a => cases failed
  | error fault => cases fault <;> cases failed <;> exact nofun

namespace Plan

def Unforbidden (p : Plan α) : Prop := ∀ k, p.Meets
  ⟨fun _ _ => True, fun _ => True, Failure.NotForbidden⟩ (fun _ _ => True) k

theorem Unrefusing.unforbidden {p : Plan α} (late : p.Unrefusing) : p.Unforbidden := by
  intro k
  have both : (p.andThen done).Meets { lateTerms with fails := Failure.NotForbidden }
      (fun _ _ => True) k :=
    (late k).andThen (fun _ _ _ => True.intro) fun _ f unrefused cause => unrefused _
  rwa [andThen_done] at both

theorem Unforbidden.bind {β : Type} {p : Plan α} {next : α → Plan β} (first : p.Unforbidden)
    (later : ∀ a, (next a).Unforbidden) : (p >>= next).Unforbidden := fun k =>
  (first k).bind fun j a _ => later a j

theorem Unforbidden.map {β : Type} {p : Plan α} (unforbidden : p.Unforbidden) (f : α → β) :
    (f <$> p).Unforbidden := fun k =>
  Meets.map (unforbidden k)

theorem unforbidden_request_bind {β : Type} {e : Except RequestFault α} {next : α → Plan β}
    (later : ∀ a, (next a).Unforbidden) :
    ((liftM (Failure.ofRequest e) : Plan α) >>= next).Unforbidden := fun k =>
  meets_lift_bind (fun _ failed => Failure.notForbidden_ofRequest failed) fun a _ => later a k

theorem unforbidden_columns (s : Settings) (source : Text) : (Plan.columns s source).Unforbidden := by
  refine unforbidden_request_bind fun table => Unrefusing.unforbidden ?_
  exact unrefusing_catalog.bind fun grid =>
    unrefusing_lift (unrefused_mapM unrefused_describedColumn grid.records)

theorem unforbidden_profile (s : Settings) (table : Text) (column : ColumnDescriptor) :
    (profile s table column).Unforbidden := by
  refine unforbidden_request_bind fun query => Unrefusing.unforbidden ?_
  refine unrefusing_catalog.bind fun grid => unrefusing_lift ?_
  refine Unrefused.bind ?_ fun share => unrefused_ofChecked _ _
  refine (unrefused_numberOf _).bind fun number => ?_
  cases number <;> exact True.intro

theorem unforbidden_profiles (s : Settings) (table : Text) (columns : List ColumnDescriptor) :
    (profiles s table columns).Unforbidden := by
  induction columns with
  | nil => exact fun _ => True.intro
  | cons column rest ih =>
    exact (unforbidden_profile s table column).bind fun _ => ih.bind fun _ _ => True.intro

theorem unforbidden_quality (s : Settings) (source : Text) : (quality s source).Unforbidden :=
  unforbidden_request_bind fun table =>
    (unforbidden_columns s source).bind fun columns => unforbidden_profiles s table columns

theorem Unforbidden.run {p : Plan α} (unforbidden : p.Unforbidden) (d : Desk)
    (cause : ForbiddenCause) : (p.run d).1 ≠ .error (.refused (.forbidden cause)) := by
  intro refused
  obtain ⟨⟨_, ends⟩, -⟩ := (unforbidden 0).run (d := d) (.inr fun _ => True.intro)
    fun _ _ => True.intro
  rw [refused] at ends
  exact ends cause rfl

end Plan

end Unforbidden

/-- The query for the profile of a column, with two fetches at most. -/
def Sent.Profiling (table : Text) (column : ColumnDescriptor) (sent : Sent) : Prop :=
  ∃ q, Sql.nullProfile table (.text column.name) = .ok q ∧ sent.Of q 2

theorem Exchange.profiling_each {table : Text} {columns : List ColumnDescriptor}
    {queries : List Sql.Query} {replies : List Reply}
    (compiled : Sql.Profiling table columns queries) (length : replies.length = columns.length) :
    List.Forall₂ (Sent.Profiling table) columns ((each 1 queries replies).map Exchange.sent) := by
  have sent : List.Forall₂ (fun q one => Sent.Of q 2 one) queries
      ((each 1 queries replies).map Exchange.sent) := sent_each (length.trans compiled.length_eq)
  exact forall₂_trans (fun column q one own asked => ⟨q, own, asked⟩) compiled sent

/-- An engine that describes the table of a data source with its next reply, in no more columns than
    the settings allow rows, before it gives other replies. -/
structure Desk.Describes (d : Desk) (s : Settings) (source : Text) (table : Sql.Name)
    (columns : List ColumnDescriptor) (replies : List Reply) : Prop where
  resolved : Sql.tableName source = .ok table
  fits : s.previewMaxRows ≤ Reading.greatestCap
  few : columns.length ≤ s.previewMaxRows
  answered : ∃ catalog : Reply, catalog.Describes columns ∧ d.engine.Replying (catalog :: replies)

section Quality

variable {s : Settings} {d : Desk} {source : Text} {table : Sql.Name}
  {columns asked : List ColumnDescriptor} {queries : List Sql.Query} {replies : List Reply}

theorem Desk.Describes.run (describes : d.Describes s source table columns replies)
    {outcome : Except Failure (List QualityMetric)}
    (compiled : Sql.Profiling table.text asked queries) (length : replies.length = asked.length)
    (leads : (Plan.profiles s table.text columns).Leads (Exchange.each 1 queries replies) outcome) :
    ∃ after first sent,
      ((Call.quality source).plan s).run d = (outcome.map .quality, after) ∧
      after.engine.statements = d.engine.statements ++ first :: sent ∧
      first.Of (Sql.describe table.text) (s.previewMaxRows.toNat + 1) ∧
      List.Forall₂ (Sent.Profiling table.text) asked sent := by
  obtain ⟨catalog, described, replying⟩ := describes.answered
  have few := describes.few
  have fits := describes.fits
  have cap : s.previewMaxRows = s.previewMaxRows.toNat := by omega
  have all : columns.take s.previewMaxRows.toNat = columns := List.take_of_length_le (by omega)
  rw [← all] at leads
  have whole := (Plan.leads_quality cap (by omega) describes.resolved described leads).map
    Answer.quality
  have count : replies.length = queries.length := length.trans compiled.length_eq
  have given : ((Sql.describe table.text).asked s.previewMaxRows.toNat catalog ::
      Exchange.each 1 queries replies).map (·.reply) = catalog :: replies := by
    rw [List.map_cons, Exchange.reply_each 1 count]
    rfl
  rw [← given] at replying
  obtain ⟨after, ran, statements⟩ := whole.run replying
  exact ⟨after, _, _, ran, statements, Sql.Query.sent_asked _ _ _,
    Exchange.profiling_each compiled length⟩

end Quality

/-- A report describes the table of its data source and then profiles the columns in their order, each
    by the reply to its own query. A column whose name is refused ends it after the queries for those
    before. The guard never objects to a report, whatever the settings and whatever the replies. -/
theorem Call.quality_profiled (s : Settings) (d : Desk) :
    (∀ source table columns replies records, d.Describes s source table columns replies →
      List.Forall₂ Reply.Profiles replies records →
      (replies.length = columns.length →
        (∀ column ∈ columns, Sql.isName column.name = true) → ∃ metrics after first sent,
          ((quality source).plan s).run d = (.ok (.quality metrics), after) ∧
          metrics.length = columns.length ∧
          metrics = List.zipWith .ofRecord columns records ∧
          after.engine.statements = d.engine.statements ++ first :: sent ∧
          first.Of (Sql.describe table.text) (s.previewMaxRows.toNat + 1) ∧
          List.Forall₂ (Sent.Profiling table.text) columns sent) ∧
      ∀ before bad later, columns = before ++ bad :: later → replies.length = before.length →
        (∀ column ∈ before, Sql.isName column.name = true) → Sql.isName bad.name = false →
        ∃ after first sent, ((quality source).plan s).run d =
            (.error (.refused (.request (.invalidName "column" (.text bad.name)))), after) ∧
          after.engine.statements = d.engine.statements ++ first :: sent ∧
          first.Of (Sql.describe table.text) (s.previewMaxRows.toNat + 1) ∧
          sent.length = before.length ∧
          List.Forall₂ (Sent.Profiling table.text) before sent) ∧
    ∀ source cause, (((quality source).plan s).run d).1 ≠ .error (.refused (.forbidden cause)) := by
  refine ⟨?_, fun source cause => ?_⟩
  · intro source table columns replies records describes good
    constructor
    · intro length valid
      obtain ⟨queries, compiled⟩ := Sql.exists_profiling table.text valid
      obtain ⟨after, first, sent, ran, statements, description, each⟩ :=
        describes.run compiled length (Plan.leads_profiles compiled good length)
      refine ⟨_, after, first, sent, ran, ?_, rfl, statements, description, each⟩
      rw [List.length_zipWith, ← good.length_eq, length, Nat.min_self]
    · rintro before bad later rfl length valid invalid
      obtain ⟨queries, compiled⟩ := Sql.exists_profiling table.text valid
      obtain ⟨after, first, sent, ran, statements, description, each⟩ := describes.run compiled length
        (Plan.leads_profiles_refused later compiled good length invalid)
      exact ⟨after, first, sent, ran, statements, description, each.length_eq.symm, each⟩
  · exact ((Plan.unforbidden_quality s source).map Answer.quality).run d cause

/-- A column whose name is a forbidden word is profiled under the strict guard; one whose name is no
    name is not, and no query is sent for it. -/
theorem Call.quality_profiled_keyword :
    let s : Settings := { Settings.default with strictGuard := true }
    let catalog (rows : List (List Datum)) : Reply := .rows
      (.ofList [.text "column_name", .text "data_type", .text "is_nullable"] rows none)
    let profile : Reply := .rows
      (.ofList [.text "total_rows", .text "null_rows", .text "null_percentage"]
        [[.int 4, .int 1, .int 25]] none)
    let d (rows : List (List Datum)) : Desk :=
      .start s (.ofScript [catalog rows, profile]) Snapshot.sessionStart
    let word : List Datum := [.text "drop", .text "INTEGER", .text "NO"]
    let blank : List Datum := [.text "x y", .text "INTEGER", .text "YES"]
    (∃ metrics after, ((quality "a").plan s).run (d [word]) = (.ok (.quality metrics), after) ∧
      metrics.map (·.totalRows) = [4]) ∧
    ∃ after, ((quality "a").plan s).run (d [word, blank]) =
        (.error (.refused (.request (.invalidName "column" (.text "x y")))), after) ∧
      after.engine.statements.length = 2 := by
  intro s catalog profile d word blank
  let table : Sql.Name := ⟨"data_source_a", by decide⟩
  let named : ColumnDescriptor := ⟨"drop", "INTEGER", false⟩
  let unnamed : ColumnDescriptor := ⟨"x y", "INTEGER", true⟩
  let names : List Text := ["column_name", "data_type", "is_nullable"]
  let record : Record := [("total_rows", .int 4), ("null_rows", .int 1), ("null_percentage", .int 25)]
  have first : named.Of (Record.ofCells names word) := ⟨rfl, rfl, rfl⟩
  have second : unnamed.Of (Record.ofCells names blank) := ⟨rfl, rfl, rfl⟩
  have one : (catalog [word]).Describes [named] := ⟨names, [word], Reply.holds_ofList names [word]
    (by simp [word, names]) (by simp [word, Datum.isSignalling]), .cons first .nil⟩
  have both : (catalog [word, blank]).Describes [named, unnamed] :=
    ⟨names, [word, blank], Reply.holds_ofList names [word, blank] (by simp [word, blank, names])
      (by simp [word, blank, Datum.isSignalling]), .cons first (.cons second .nil)⟩
  have profiles : profile.Profiles record := by
    have holds : profile.Holds ["total_rows", "null_rows", "null_percentage"]
        [[.int 4, .int 1, .int 25]] :=
      Reply.holds_ofList ["total_rows", "null_rows", "null_percentage"] [[.int 4, .int 1, .int 25]]
        (by simp) (by simp [Datum.isSignalling])
    refine ⟨⟨_, _, holds.tabulates_of_le (Nat.le_refl 1), rfl⟩, ?_, ?_⟩
    · intro name member v found
      simp only [List.mem_cons, List.not_mem_nil, or_false] at member
      rcases member with rfl | rfl | rfl
      · cases found
        exact .inr ⟨4, rfl⟩
      · cases found
        exact .inr ⟨1, rfl⟩
      · cases found
    · intro v found
      cases found
      exact (by decide +kernel : (Binary64.ofInt 25).isFinite = true)
  constructor
  · obtain ⟨reports, -⟩ := quality_profiled s (d [word])
    obtain ⟨metrics, after, _, _, ran, -, rfl, -⟩ := (reports "a" table [named] [profile] [record]
      ⟨rfl, by decide, by decide, _, one, Engine.replying_ofScript _⟩ (.cons profiles .nil)).1 rfl
        (by decide)
    exact ⟨_, after, ran, rfl⟩
  · obtain ⟨stops, -⟩ := quality_profiled s (d [word, blank])
    obtain ⟨after, _, sent, ran, statements, -, count, -⟩ := (stops "a" table [named, unnamed]
      [profile] [record] ⟨rfl, by decide, by decide, _, both, Engine.replying_ofScript _⟩
        (.cons profiles .nil)).2 [named] unnamed [] rfl rfl (by decide) (by decide)
    refine ⟨after, ran, ?_⟩
    rw [statements, List.length_append, List.length_cons, count]
    rfl

/-- A described table whose columns all have names is reported when the replies to the queries for its
    columns are such. -/
def Call.ReportedFrom (good : Reply → Prop) : Prop :=
  ∀ (s : Settings) (d : Desk) (source : Text) (table : Sql.Name) (columns : List ColumnDescriptor)
    (replies : List Reply), d.Describes s source table columns replies →
    (∀ reply ∈ replies, good reply) → replies.length = columns.length →
    (∀ column ∈ columns, Sql.isName column.name = true) →
    ∃ metrics after, ((quality source).plan s).run d = (.ok (.quality metrics), after)

/-- A cap of `2 ^ 63` rows allows a table with one column, but there is no report. Nor do replies with
    the counts that they should have suffice: a share of nulls may be too large for a floating-point
    number, a cell that no count is read from may be a signalling number, a row may be wider than its
    columns, and a column may be named by no text. -/
theorem Call.quality_unreported :
    (¬ ∀ (s : Settings) (d : Desk) (source : Text) (table : Sql.Name)
      (columns : List ColumnDescriptor) (catalog : Reply) (replies : List Reply)
      (records : List Record), Sql.tableName source = .ok table →
      columns.length ≤ s.previewMaxRows → catalog.Describes columns →
      d.engine.Replying (catalog :: replies) → List.Forall₂ Reply.Profiles replies records →
      replies.length = columns.length → (∀ column ∈ columns, Sql.isName column.name = true) →
      ∃ metrics after, ((quality source).plan s).run d = (.ok (.quality metrics), after)) ∧
    (¬ ReportedFrom fun reply => ∃ names rows, reply.Tabulates 1 names rows ∧
      Record.HasCounts ((rows.map (Record.ofCells names)).headD [])) ∧
    (¬ ReportedFrom fun reply => ∃ names rows, reply.Reads 1 (names.map .text) rows ∧
      (∀ cells ∈ rows, cells.length = names.length) ∧
      Record.IsProfile ((rows.map (Record.ofCells names)).headD [])) ∧
    (¬ ReportedFrom fun reply => ∃ names rows, reply.Reads 1 (names.map .text) rows ∧
      (∀ cells ∈ rows, ∀ cell ∈ cells, cell.isSignalling = false) ∧
      Record.IsProfile ((rows.map (Record.ofCells names)).headD [])) ∧
    ¬ ReportedFrom fun reply => ∃ columns, reply.Reads 1 columns [] := by
  let table : Sql.Name := ⟨"data_source_a", by decide⟩
  let column : ColumnDescriptor := ⟨"x", "INTEGER", true⟩
  let names : List Text := ["column_name", "data_type", "is_nullable"]
  let row : List Datum := [.text "x", .text "INTEGER", .text "YES"]
  let catalog : Reply := .rows (.ofList (names.map .text) [row] none)
  have described : column.Of (Record.ofCells names row) := ⟨rfl, rfl, rfl⟩
  have describes : catalog.Describes [column] := ⟨names, [row], Reply.holds_ofList names [row]
    (by simp [row, names]) (by simp [row, Datum.isSignalling]), .cons described .nil⟩
  let d (s : Settings) (reply : Reply) : Desk :=
    .start s (.ofScript [catalog, reply]) Snapshot.sessionStart
  have unreported {good : Reply → Prop} (reply : Reply) (suits : good reply)
      (raised : (((quality "a").plan .default).run (d .default reply)).1.isOk = false) :
      ¬ ReportedFrom good := by
    intro always
    obtain ⟨metrics, after, ran⟩ := always .default (d .default reply) "a" table [column] [reply]
      ⟨rfl, by decide, by decide, catalog, describes, Engine.replying_ofScript _⟩
      (List.forall_mem_singleton.mpr suits) rfl (by decide)
    rw [ran] at raised
    cases raised
  refine ⟨fun always => ?_, ?_, ?_, ?_, ?_⟩
  · let s : Settings := { Settings.default with previewMaxRows := 9223372036854775808 }
    let profile : Reply := .rows (.ofList [] [] none)
    have holds : profile.Holds [] [] := Reply.holds_ofList [] [] (by simp) (by simp)
    have nothing : profile.Profiles [] :=
      ⟨⟨[], [], holds.tabulates_of_le (Nat.zero_le 1), rfl⟩, Record.isProfile_nil⟩
    obtain ⟨metrics, after, ran⟩ := always s (d s profile) "a" table [column] catalog [profile] [[]]
      rfl (by decide) describes (Engine.replying_ofScript _) (.cons nothing .nil) rfl (by decide)
    have raised : (((quality "a").plan s).run (d s profile)).1 = .error .capBeyondWord := rfl
    rw [ran] at raised
    cases raised
  · let huge : Datum := .int (Nat.pow (Nat.pow 10 20) 20 : Nat)
    have holds : Reply.Holds (.rows (.ofList (["null_percentage"].map .text) [[huge]] none))
        ["null_percentage"] [[huge]] :=
      Reply.holds_ofList ["null_percentage"] [[huge]] (by simp) (by simp [huge, Datum.isSignalling])
    have counts : Record.HasCounts (Record.ofCells ["null_percentage"] [huge]) := by
      intro name member v found
      simp only [List.mem_cons, List.not_mem_nil, or_false] at member
      rcases member with rfl | rfl | rfl <;> cases found
    exact unreported _ ⟨_, _, holds.tabulates_of_le (Nat.le_refl 1), counts⟩ (by decide +kernel)
  · let signalling : Datum := .decimal (.nan false true 0)
    have profile : Record.IsProfile (Record.ofCells ["non_null_rows"] [signalling]) := by
      refine ⟨fun name member v found => ?_, fun v found => by cases found⟩
      simp only [List.mem_cons, List.not_mem_nil, or_false] at member
      rcases member with rfl | rfl | rfl <;> cases found
    exact unreported (.rows (.ofList (["non_null_rows"].map .text) [[signalling]] none))
      ⟨["non_null_rows"], _, Reply.reads_ofList _ (Nat.le_refl 1), by simp, profile⟩
      (by decide +kernel)
  · exact unreported (.rows (.ofList [] [[.null]] none)) ⟨[], _, Reply.reads_ofList []
      (Nat.le_refl 1), by simp [Datum.isSignalling], Record.isProfile_nil⟩ (by decide +kernel)
  · exact unreported (.rows (.ofList [.int 1] [] none))
      ⟨[.int 1], Reply.reads_ofList _ (Nat.zero_le 1)⟩ (by decide +kernel)

end QueryDesk
