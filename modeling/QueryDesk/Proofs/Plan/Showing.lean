import QueryDesk.Proofs.Plan.Faithful

namespace QueryDesk

section Numbers

variable {v : Value} {x : Binary64}

theorem Binary64.isFinite_ofInt? {n : Int} (rounded : ofInt? n = some x) : x.isFinite = true := by
  unfold ofInt? at rounded
  simp only at rounded
  split at rounded
  · cases rounded
    assumption
  · cases rounded

def Value.quantity : Value → Binary64
  | .int n => if (Binary64.ofInt n).isZero then .zero else .ofInt n
  | .float x => if x.isZero then .zero else x
  | .null | .text _ => .zero

def Value.IsRounded : Value → Prop
  | .int n => (Binary64.ofInt n).isFinite = true
  | .null | .float _ | .text _ => True

theorem Plan.numberOrZero_eq (rounded : v.IsRounded) : numberOrZero v = .ok v.quantity := by
  cases v with
  | int n =>
    have number : Binary64.ofInt? n = some (.ofInt n) := if_pos rounded
    have converted : numberOf (.int n) = .ok (some (.ofInt n)) := by
      simp only [numberOf, number]
      rfl
    rw [numberOrZero, converted]
    rfl
  | null => rfl
  | float x => rfl
  | text t => rfl

theorem Plan.finite_numberOf (portable : v.IsPortable) (made : numberOf v = .ok (some x)) :
    x.isFinite = true := by
  cases v with
  | int n =>
    simp only [numberOf] at made
    cases rounded : Binary64.ofInt? n with
    | none => rw [rounded] at made; cases made
    | some y =>
      rw [rounded] at made
      cases made
      exact Binary64.isFinite_ofInt? rounded
  | float y =>
    cases made
    cases portable
    assumption
  | null => cases made
  | text t => cases made

theorem Plan.finite_numberOrZero (portable : v.IsPortable) (made : numberOrZero v = .ok x) :
    x.isFinite = true := by
  obtain ⟨number, converted, rest⟩ := bind_eq_ok.mp made
  cases number with
  | none => cases rest; rfl
  | some y =>
    cases rest
    split
    · rfl
    · exact finite_numberOf portable converted

theorem Plan.ends_namedNumbers {entries : List (Text × Value)}
    (portable : ∀ entry ∈ entries, entry.2.IsPortable) : Ends (fun _ => True)
      (fun m : OrderedMap Text Binary64 => ∀ entry ∈ m, entry.2.isFinite = true)
      (namedNumbers entries) := by
  unfold namedNumbers
  apply ends_foldlM nofun
  intro m finite entry member
  cases converted : numberOf entry.2 with
  | error f => exact True.intro
  | ok number =>
    cases number with
    | none => exact finite
    | some x =>
      have own := finite_numberOf (portable entry member) converted
      exact OrderedMap.forall_insert (P := fun x : Binary64 => x.isFinite = true) _ finite own

theorem Plan.finite_coefficient {g : Grid} (portable : g.IsPortable)
    (made : coefficient g = .ok x) : x.isFinite = true := by
  unfold coefficient at made
  split at made
  · cases made; rfl
  · rename_i row rest rows
    obtain ⟨cell, first, converted⟩ := bind_eq_ok.mp made
    have member : cell ∈ row := by
      cases row with
      | nil => cases first
      | cons c cs => cases first; exact List.mem_cons_self
    exact finite_numberOrZero (portable row (by simp [rows]) cell member) converted

theorem QualityMetric.nullPercentage_read {fields : Fields} {m : QualityMetric}
    (passed : QualityMetric.read fields = .pass m) :
    fields.required "null_percentage" Reader.number = .pass m.nullPercentage := by
  simp only [QualityMetric.read, Checked.seq_eq_pass, Checked.map_eq_pass] at passed
  obtain ⟨_, _, ⟨_, _, ⟨_, _, ⟨_, percentage, ⟨_, _, ⟨_, _, ⟨_, _, ⟨_, _, rfl⟩, _, rfl⟩, _, rfl⟩, _,
    rfl⟩, own, rfl⟩, _, rfl⟩, _, rfl⟩, _, rfl⟩ := passed
  exact own

theorem Plan.finite_profileOf {column : ColumnDescriptor} {record : Record} {m : QualityMetric}
    (portable : ∀ entry ∈ record, entry.2.IsPortable) (made : profileOf column record = .ok m) :
    m.nullPercentage.isFinite = true := by
  obtain ⟨share, converted, checked⟩ := bind_eq_ok.mp made
  have finite := finite_numberOrZero (portable_find? portable _) converted
  have own := QualityMetric.nullPercentage_read (Failure.ofChecked_eq_ok.mp checked)
  have same : Checked.pass share = Checked.pass m.nullPercentage := own
  rw [← Except.ok.inj same]
  exact finite

end Numbers

namespace Plan

section Contracts

variable {terms : Terms} (any : ∀ f, terms.fails f) {k : Nat} {s : Settings}

include any

theorem meets_lift {α : Type} {e : Except Failure α} {holds : α → Prop}
    (good : ∀ a, e = .ok a → holds a) : (liftM e : Plan α).Meets terms (fun _ => holds) k := by
  cases e with
  | ok a => exact good a rfl
  | error f => exact any f

theorem meets_compute {α β : Type} {e : Except Failure α} {next : α → Plan β}
    {good : Nat → β → Prop} (goes_on : ∀ a, e = .ok a → (next a).Meets terms good k) :
    ((liftM e : Plan α) >>= next).Meets terms good k :=
  meets_lift_bind (fun f _ => any f) goes_on

theorem meets_send (job : Job) : (send job).Meets terms (fun _ pull => ∃ reply c,
    terms.replies k reply ∧ reply = .rows c ∧ pull.columns = c.columns ∧
      c.FirstRows job.reading.cap pull.rows) k := by
  intro outcome given
  cases given with
  | closed => exact any _
  | @answer reply offered =>
    cases answered : (job.reading.answer reply).2 with
    | error f => exact any f
    | ok pull =>
      obtain ⟨c, rows, columns, first⟩ := Reading.exists_firstRows answered
      exact ⟨reply, c, offered, rows, columns, first⟩

theorem meets_pull (policy : Guard.Policy) (o : Order) : (o.pull policy).Meets terms (fun _ pull =>
    ∃ reply c, terms.replies k reply ∧ reply = .rows c ∧ pull.columns = c.columns ∧
      c.FirstRows o.reading.cap pull.rows) k :=
  meets_compute any fun _ _ => meets_send any o.job

theorem meets_grid (policy : Guard.Policy) (o : Order) : (o.grid policy).Meets terms (fun _ g =>
    ∃ reply, terms.replies k reply ∧ reply.Shows o.reading.cap g.columns g.rows) k := by
  apply (meets_pull any policy o).bind
  rintro _ pull ⟨reply, c, offered, rows, columns, first⟩
  apply meets_lift any
  intro g made
  obtain ⟨names, values, -⟩ := Pull.grid_eq_ok.mp made
  rw [columns] at names
  exact ⟨reply, offered, c, pull.rows, rows, first, names, values⟩

theorem meets_records (policy : Guard.Policy) (o : Order) : (o.records policy).Meets terms (fun _ rs =>
    ∃ reply, terms.replies k reply ∧ reply.Lists o.reading.cap KeyedRecord.Shows rs) k := by
  apply (meets_pull any policy o).bind
  rintro _ pull ⟨reply, c, offered, rows, columns, first⟩
  apply meets_lift any
  intro rs made
  have shown := Pull.records_shows made
  rw [columns] at shown
  exact ⟨reply, offered, c, pull.rows, rows, first, shown⟩

theorem meets_grid_portable (policy : Guard.Policy) (o : Order) :
    (o.grid policy).Meets terms (fun _ g => g.IsPortable) k :=
  (meets_grid any policy o).mono fun _ _ ⟨_, _, shows⟩ => shows.portable

theorem meets_rowCount (table : Text) : (rowCount s table).Meets terms (fun _ _ => True) k :=
  (meets_grid any _ _).bind fun _ _ _ => meets_lift any fun _ _ => True.intro

theorem meets_columns (source : Text) : (columns s source).Meets terms (fun _ _ => True) k := by
  apply meets_compute any
  intro table _
  exact (meets_grid any _ _).bind fun _ _ _ => meets_lift any fun _ _ => True.intro

theorem meets_statistics (r : StatisticsRequest) : (statistics s r).Meets terms
    (fun _ m => ∀ entry ∈ m, entry.2.isFinite = true) k := by
  apply meets_compute any
  intro table _
  apply meets_compute any
  intro query _
  apply (meets_grid_portable any _ _).bind
  intro _ g portable
  cases rows : g.rows with
  | nil => exact nofun
  | cons row rest =>
    have numbers := ends_namedNumbers fun entry (zipped : entry ∈ g.columns.zip row) =>
      portable row (by simp [rows]) _ (List.of_mem_zip zipped).2
    exact numbers.imp (fun f _ => any f) fun _ finite => finite

theorem meets_correlate {known : CorrelationTable}
    (pairs : List (Sql.Name × Sql.Name × Sql.Query))
    (finite : ∀ row ∈ known, ∀ entry ∈ row.2, entry.2.isFinite = true) :
    (correlate s known pairs).Meets terms
      (fun _ t => ∀ row ∈ t, ∀ entry ∈ row.2, entry.2.isFinite = true) k := by
  induction pairs generalizing known k with
  | nil => exact finite
  | cons pair rest ih =>
    apply (meets_grid_portable any _ _).bind
    intro _ g portable
    apply meets_compute any
    intro x made
    apply ih
    have old : ∀ entry ∈ (OrderedMap.find? known pair.1.text).getD [],
        entry.2.isFinite = true := by
      cases found : OrderedMap.find? known pair.1.text with
      | none => exact nofun
      | some row =>
        obtain ⟨row, member, rfl⟩ := OrderedMap.exists_of_find? found
        exact finite row member
    have new := OrderedMap.forall_insert (P := fun x : Binary64 => x.isFinite = true)
      pair.2.1.text old (finite_coefficient portable made)
    exact OrderedMap.forall_insert
      (P := fun row : OrderedMap Text Binary64 => ∀ entry ∈ row, entry.2.isFinite = true) _ finite new

theorem meets_profiles (table : Text) (columns : List ColumnDescriptor) :
    (profiles s table columns).Meets terms
      (fun _ ms => ∀ m ∈ ms, m.nullPercentage.isFinite = true) k := by
  induction columns generalizing k with
  | nil => exact nofun
  | cons column rest ih =>
    have first : (profile s table column).Meets terms
        (fun _ m => m.nullPercentage.isFinite = true) k := by
      apply meets_compute any
      intro query _
      apply (meets_grid_portable any _ _).bind
      intro _ g portable
      exact meets_lift any fun m made => finite_profileOf (g.portable_first portable) made
    apply first.bind
    intro _ m finite
    apply ih.bind
    intro _ ms others
    exact List.forall_mem_cons.mpr ⟨finite, others⟩

theorem meets_metrics (source : Text) : (metrics s source).Meets terms
    (fun _ r => ∀ m ∈ r.metrics, m.value.IsPortable) k := by
  apply meets_compute any
  intro table resolved
  obtain ⟨name, _, rfl⟩ := tableOf_ok resolved
  apply (meets_rowCount any _).bind
  intro _ count _
  have counted : (Value.int count).IsPortable := .int count
  have named : (Value.text name.text).IsPortable := .text name.over_text.isScalar
  exact List.forall_mem_cons.mpr ⟨counted, List.forall_mem_singleton.mpr named⟩

theorem meets_preview (source : Text) (r : PreviewRequest) : (preview s source r).Meets terms
    (fun _ p => ∃ reply, terms.replies k reply ∧
      reply.Shows s.previewMaxRows.toNat p.columns p.rows) k := by
  apply meets_compute any
  intro table _
  apply meets_compute any
  intro query _
  apply (meets_grid any _ _).bind
  intro _ page shown
  exact (meets_rowCount any table).bind fun _ _ _ => shown

theorem meets_tables : (tables s).Meets terms (fun _ vs => ∃ reply columns rows,
    terms.replies k reply ∧ reply.Shows s.previewMaxRows.toNat columns rows ∧
      List.Forall₂ (fun row v => row.head? = some v) rows vs) k := by
  apply (meets_grid any _ _).bind
  rintro _ g ⟨reply, offered, shows⟩
  apply meets_lift any
  intro vs made
  refine ⟨reply, g.columns, g.rows, offered, shows, (mapM_eq_ok.mp made).imp ?_⟩
  intro row v first
  cases row with
  | nil => cases first
  | cons c cs => cases first; rfl

theorem meets_stream (payload : Datum) : (stream s payload).Meets terms (fun _ r =>
    (∃ message, r = ⟨[], some message⟩) ∨
      ∃ reply, terms.replies k reply ∧
        reply.Lists s.streamMaxRows.toNat Record.Shows r.records) k := by
  have sent : (streamed s payload).Meets terms (fun _ rs =>
      ∃ reply, terms.replies k reply ∧
        reply.Lists s.streamMaxRows.toNat KeyedRecord.Shows rs) k :=
    meets_compute any fun sql _ => meets_records any s.policy (streamOrder s sql)
  show ((streamed s payload).andThen _).Meets { terms with fails := terms.fails } _ k
  refine sent.andThen ?_ ?_
  · rintro _ rs ⟨reply, offered, c, cells, rows, first, shown⟩
    apply meets_lift any
    intro report reported
    exact .inr ⟨reply, offered, c, cells, rows, first, reportOf_shows reported shown⟩
  · intro _ f _
    dsimp only
    split
    · exact .inl ⟨f.message, rfl⟩
    · exact any f

section Grids

theorem meets_order (policy : Guard.Policy) (o : Order) (own : ∀ reply g, terms.replies k reply →
    reply.Shows o.reading.cap g.columns g.rows → terms.grids g) :
    (o.grid policy).Meets terms (fun _ g => terms.grids g) k :=
  (meets_grid any policy o).mono fun _ g ⟨reply, offered, shows⟩ => own reply g offered shows

variable (own : ∀ reply g, terms.replies k reply →
  reply.Shows s.previewMaxRows.toNat g.columns g.rows → terms.grids g)

include own

theorem meets_browse (q : Sql.Query) (source : Option Text) (wanted : Option Bool) :
    (browse s q source wanted).Meets terms (fun _ g => terms.grids g) k := by
  unfold browse
  split
  · apply meets_compute any
    intro _ _
    apply meets_compute any
    intro key _
    apply meets_find.bind
    rintro _ found ⟨rfl, kept⟩
    cases found with
    | some g => exact kept g rfl
    | none =>
      apply (meets_order any _ _ own).bind
      intro _ g held
      exact ⟨held, held, fun fault => any _⟩
  · exact meets_order any _ _ own

theorem meets_tabulate (source : Text) (compile : Text → Except RequestFault Sql.Query) :
    (tabulate s source compile).Meets terms (fun _ g => terms.grids g) k := by
  apply meets_compute any
  intro table _
  apply meets_compute any
  intro query _
  exact meets_order any _ _ own

theorem meets_aggregation (r : AggregationRequest) : (aggregation s r).Meets terms (fun _ report =>
    terms.grids report.grid ∧ ∃ request, report.summaries = summaries request report.grid) k := by
  apply meets_compute any
  intro table _
  apply meets_compute any
  intro query _
  apply (meets_browse any own _ _ _).bind
  intro _ g held
  exact ⟨held, r, rfl⟩

end Grids

end Contracts

end Plan

section Calls

open Plan

/-- The number of rows that a call shows of a reply, if there are so many. -/
def Call.cap (s : Settings) : Call → Nat
  | stream _ => s.streamMaxRows.toNat
  | _ => s.previewMaxRows.toNat

variable {terms : Terms} {k : Nat} (any : ∀ f, terms.fails f)

include any

theorem Call.meets_faithful {s : Settings} (own : ∀ reply g, terms.replies k reply →
    reply.Shows s.previewMaxRows.toNat g.columns g.rows → terms.grids g) (c : Call) :
    (c.plan s).Meets terms (fun _ a => a.Faithful terms.grids fun cap reply =>
      cap = c.cap s ∧ terms.replies k reply) k := by
  cases c with
  | query r => exact Meets.map (meets_browse any own _ _ _)
  | aggregation r => exact Meets.map (meets_aggregation any own r)
  | statistics r => exact Meets.map (meets_statistics any r)
  | timeSeries r => exact Meets.map (meets_tabulate any own _ _)
  | outliers r => exact Meets.map (meets_tabulate any own _ _)
  | correlations r =>
    refine Meets.map ?_
    apply meets_compute any
    intro table _
    apply meets_compute any
    intro pairs _
    exact meets_correlate any pairs nofun
  | movingAverage r =>
    refine Meets.map ?_
    apply meets_compute any
    intro digits _
    exact meets_tabulate any own _ _
  | columns source => exact Meets.map (meets_columns any source)
  | tableInfo source =>
    refine Meets.map ?_
    apply meets_compute any
    intro table _
    apply (meets_columns any source).bind
    intro _ columns _
    exact (meets_rowCount any table).bind fun _ _ _ => True.intro
  | quality source =>
    refine Meets.map ?_
    apply meets_compute any
    intro table _
    apply (meets_columns any source).bind
    intro _ columns _
    exact meets_profiles any table columns
  | metrics source => exact Meets.map (meets_metrics any source)
  | preview source r =>
    refine Meets.map ((meets_preview any source r).mono ?_)
    rintro _ p ⟨reply, offered, shows⟩
    exact ⟨_, reply, ⟨rfl, offered⟩, shows⟩
  | tables =>
    refine Meets.map ((meets_tables any).mono ?_)
    rintro _ vs ⟨reply, columns, rows, offered, shows⟩
    exact ⟨_, reply, columns, rows, ⟨rfl, offered⟩, shows⟩
  | stream payload =>
    refine Meets.map ((meets_stream any payload).mono ?_)
    rintro _ r (failed | ⟨reply, offered, lists⟩)
    · exact .inl failed
    · exact .inr ⟨_, reply, ⟨rfl, offered⟩, lists⟩

theorem DirectCall.meets_faithful (s : Settings) (own : ∀ cap reply g, terms.replies k reply →
    reply.Shows cap g.columns g.rows → terms.grids g) (c : DirectCall) :
    (c.plan s).Meets terms (fun _ a => a.Faithful terms.grids fun _ reply =>
      terms.replies k reply) k := by
  cases c with
  | ping =>
    refine Meets.map ?_
    apply (meets_send any pingJob).bind
    intro _ pull _
    split
    · exact meets_lift any fun _ _ => True.intro
    · exact True.intro
  | grid o => exact Meets.map (meets_order any _ o (own _))
  | records o =>
    refine Meets.map ((meets_records any _ o).mono ?_)
    rintro _ rs ⟨reply, offered, lists⟩
    exact ⟨_, reply, offered, lists⟩

end Calls

end QueryDesk
