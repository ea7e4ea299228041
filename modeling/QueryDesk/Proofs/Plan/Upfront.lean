import QueryDesk.Proofs.Engine.Reading
import QueryDesk.Proofs.Guard.Strict
import QueryDesk.Proofs.Plan.Contract
import QueryDesk.Proofs.Plan.Permitted
import QueryDesk.Proofs.Sql.Wording
import QueryDesk.Snapshot.Session

namespace QueryDesk

def Failure.NoRefusal (f : Failure) : Prop := ∀ r, f ≠ .refused r

def Unrefused {α : Type} (e : Except Failure α) : Prop := Ends Failure.NoRefusal (fun _ => True) e

section Unrefused

variable {α β : Type}

def isRefusal : Except Failure α → Bool
  | .error (.refused _) => true
  | _ => false

theorem exists_refusal {e : Except Failure α} (refuses : isRefusal e = true) :
    ∃ r, e = .error (.refused r) := by
  unfold isRefusal at refuses
  split at refuses
  · exact ⟨_, rfl⟩
  · cases refuses

theorem Unrefused.bind {e : Except Failure α} {next : α → Except Failure β} (first : Unrefused e)
    (later : ∀ a, Unrefused (next a)) : Unrefused (e >>= next) :=
  Ends.bind first fun a _ => later a

theorem unrefused_map {f : α → β} {e : Except Failure α} (ends : Unrefused e) :
    Unrefused (f <$> e) := by
  cases e with
  | ok a => exact True.intro
  | error failure => exact ends

theorem unrefused_mapM {f : α → Except Failure β} (all : ∀ a, Unrefused (f a)) (xs : List α) :
    Unrefused (xs.mapM f) :=
  (ends_mapM fun a _ => all a).mono fun _ _ => True.intro

theorem unrefused_ofChecked (form : FormKind) (c : Checked α) :
    Unrefused (Failure.ofChecked form c) := by
  cases c with
  | ok a => exact True.intro
  | error issues => exact nofun

theorem unrefused_ofCell (cell : Datum) : Unrefused (Value.ofCell cell) := by
  unfold Value.ofCell
  split
  · exact True.intro
  · exact nofun

theorem unrefused_grid (pull : Pull) : Unrefused pull.grid := by
  have rows : Unrefused (pull.rows.mapM Value.ofRow) :=
    unrefused_mapM (fun row => unrefused_mapM unrefused_ofCell row) pull.rows
  exact rows.bind fun _ => unrefused_ofChecked _ _

theorem unrefused_entry (column cell : Datum) : Unrefused (KeyedRecord.entry column cell) := by
  apply (unrefused_ofCell cell).bind
  intro value
  split
  · exact True.intro
  · exact nofun

theorem unrefused_records (pull : Pull) : Unrefused pull.records := by
  apply unrefused_mapM
  intro cells
  exact unrefused_map (unrefused_mapM (fun pair : Datum × Datum => unrefused_entry pair.1 pair.2) _)

theorem unrefused_firstCell (row : List Value) : Unrefused (Plan.firstCell row) := by
  cases row with
  | nil => exact nofun
  | cons cell _ => exact True.intro

theorem unrefused_numberOf (v : Value) : Unrefused (Plan.numberOf v) := by
  cases v with
  | int n =>
    unfold Plan.numberOf
    simp only
    cases Binary64.ofInt? n with
    | none => exact fun _ => nofun
    | some x => exact True.intro
  | _ => exact True.intro

theorem unrefused_namedNumbers (entries : List (Text × Value)) :
    Unrefused (Plan.namedNumbers entries) := by
  unfold Plan.namedNumbers
  apply ends_foldlM True.intro
  intro m _ entry _
  apply (unrefused_numberOf entry.2).bind
  intro number
  cases number <;> exact True.intro

theorem unrefused_countIn (grid : Grid) : Unrefused (Plan.countIn grid) := by
  unfold Plan.countIn
  split
  · exact True.intro
  · apply (unrefused_firstCell _).bind
    intro cell
    cases cell <;> exact True.intro

theorem unrefused_describedColumn (record : Record) : Unrefused (Plan.describedColumn record) := by
  have fields (name : Text) : Unrefused (Plan.field record name) := by
    unfold Plan.field
    split
    · exact True.intro
    · exact nofun
  apply (fields _).bind
  intro name
  apply (fields _).bind
  intro declared
  exact unrefused_ofChecked _ _

end Unrefused

namespace Plan

variable {α β : Type} {s : Settings}

def lateTerms : Terms := ⟨fun _ _ => True, fun _ => True, Failure.NoRefusal⟩

def Unrefusing (p : Plan α) : Prop := ∀ k, p.Meets lateTerms (fun _ _ => True) k

def Upfront (p : Plan α) : Prop := (∃ r, p = done (.error (.refused r))) ∨ p.Unrefusing

theorem unrefusing_done {outcome : Except Failure α} (late : ∀ f, outcome = .error f → f.NoRefusal) :
    (done outcome).Unrefusing := by
  intro k
  cases outcome with
  | ok a => exact True.intro
  | error f => exact late f rfl

theorem unrefusing_pure (a : α) : (pure a : Plan α).Unrefusing := unrefusing_done nofun

theorem Unrefusing.bind {p : Plan α} {next : α → Plan β} (first : p.Unrefusing)
    (later : ∀ a, (next a).Unrefusing) : (p >>= next).Unrefusing := fun k =>
  (first k).bind fun j a _ => later a j

theorem unrefusing_lift {e : Except Failure α} (late : Unrefused e) :
    (liftM e : Plan α).Unrefusing := fun _ => late

theorem unrefusing_send {job : Job} {cap : Int} (reading : job.reading = .upTo cap) :
    (send job).Unrefusing := by
  intro k outcome given
  cases given with
  | closed => exact nofun
  | @answer reply _ =>
    rw [reading]
    refine (Reading.ends_answer cap reply).imp (fun f failed => ?_) fun _ _ => True.intro
    cases failed with
    | belowZero cap =>
      intro r
      unfold Failure.belowZero
      split <;> exact nofun
    | _ => exact nofun

theorem Upfront.bind {p : Plan α} {next : α → Plan β} (upfront : p.Upfront)
    (later : ∀ a, (next a).Unrefusing) : (p >>= next).Upfront := by
  rcases upfront with ⟨r, rfl⟩ | first
  · exact .inl ⟨r, rfl⟩
  · exact .inr (first.bind later)

theorem Upfront.map {p : Plan α} (upfront : p.Upfront) (f : α → β) : (f <$> p).Upfront :=
  upfront.bind fun a => unrefusing_pure (f a)

theorem upfront_error (failure : Failure) : (done (.error failure) : Plan α).Upfront := by
  cases failure with
  | refused r => exact .inl ⟨r, rfl⟩
  | _ => exact .inr (unrefusing_done (by rintro _ ⟨⟩; exact nofun))

theorem upfront_lift_bind {e : Except Failure α} {next : α → Plan β}
    (later : ∀ a, e = .ok a → (next a).Upfront) : ((liftM e : Plan α) >>= next).Upfront := by
  cases e with
  | ok a => exact later a rfl
  | error failure => exact upfront_error failure

theorem Upfront.of_refused {p : Plan α} (upfront : p.Upfront) {d : Desk} {r : Refusal}
    (refused : (p.run d).1 = .error (.refused r)) : p = done (.error (.refused r)) := by
  rcases upfront with ⟨r', rfl⟩ | late
  · rw [show r' = r by cases refused; rfl]
  · have offers : d.engine.Offers lateTerms.replies 0 := .inr fun _ => True.intro
    have stored : d.store.Holds lateTerms.grids := fun _ _ => True.intro
    obtain ⟨⟨_, ends⟩, _⟩ := (late 0).run offers stored
    rw [refused] at ends
    exact absurd rfl (ends r)

section Orders

variable {q : Sql.Query} {cap : Int}

theorem upfront_pull {policy : Guard.Policy} {o : Order} (reading : o.reading = .upTo cap) :
    (o.pull policy).Upfront :=
  upfront_lift_bind fun _ _ => .inr (unrefusing_send reading)

theorem unrefusing_fresh (accepted : Guard.check s.policy .general q.sql = .ok ()) :
    (fresh s q cap).Unrefusing := by
  have pull : (Order.pull s.policy ⟨q.statement, .upTo cap, .general, true⟩).Unrefusing := by
    have checked : Order.check s.policy ⟨q.statement, .upTo cap, .general, true⟩ = .ok () :=
      accepted
    rw [Order.pull, checked]
    exact unrefusing_send rfl
  exact pull.bind fun pull => unrefusing_lift (unrefused_grid pull)

theorem upfront_fresh : (fresh s q cap).Upfront :=
  (upfront_pull rfl).bind fun pull => unrefusing_lift (unrefused_grid pull)

theorem unrefusing_catalog : (catalog s q cap).Unrefusing := by
  have pull : (Order.pull s.policy ⟨q.statement, .upTo cap, .general, false⟩).Unrefusing :=
    unrefusing_send rfl
  exact pull.bind fun pull => unrefusing_lift (unrefused_grid pull)

theorem upfront_browse (source : Option Text) (wanted : Option Bool) :
    (browse s q source wanted).Upfront := by
  unfold browse
  split
  · apply upfront_lift_bind
    intro _ accepted
    apply upfront_lift_bind
    intro key _
    have found : (find key).Unrefusing := fun k => meets_find.mono fun _ _ _ => True.intro
    refine .inr (found.bind fun kept => ?_)
    cases kept with
    | some grid => exact unrefusing_pure grid
    | none =>
      apply (unrefusing_fresh accepted).bind
      intro grid
      have saved : (save ⟨key, q.sql, grid, source⟩).Unrefusing := fun k =>
        ⟨True.intro, True.intro, fun fault => nofun⟩
      exact saved.bind fun _ => unrefusing_pure grid
  · exact upfront_fresh

theorem upfront_tabulate (source : Text) (compile : Text → Except RequestFault Sql.Query) :
    (tabulate s source compile).Upfront := by
  apply upfront_lift_bind
  intro table _
  apply upfront_lift_bind
  intro query _
  exact upfront_fresh

theorem unrefusing_rowCount {table : Text}
    (accepted : Guard.check s.policy .general (Sql.rowCount table).sql = .ok ()) :
    (rowCount s table).Unrefusing :=
  (unrefusing_fresh accepted).bind fun grid => unrefusing_lift (unrefused_countIn grid)

end Orders

theorem rowCount_accepted {table : Sql.Name} {r : PreviewRequest} {limit : Int}
    (counts : s.strictGuard = true → s.parser.kinds (Sql.rowCount table.text).sql = .ok [.query])
    (compiled : Sql.preview table.text r limit = .ok q)
    (accepted : Guard.check s.policy .general q.sql = .ok ()) :
    Guard.check s.policy .general (Sql.rowCount table.text).sql = .ok () := by
  cases strict : s.strictGuard with
  | true =>
    rw [Settings.policy_kinds strict, Guard.check_of_full Sql.worded_rowCount.full]
    exact Guard.checkKinds_of_query (counts strict)
  | false =>
    rw [Settings.policy_words strict] at accepted ⊢
    have clean := (Sql.worded_preview compiled).check_iff.2.mp accepted
    refine Sql.worded_rowCount.check_iff.2.mpr fun destructive => clean ?_
    obtain ⟨name, member, holds⟩ := destructive
    exact ⟨name, List.mem_cons.mpr (.inl (List.mem_singleton.mp member)), holds⟩

end Plan

/-- The calls that send several statements, each checked when its turn comes, after a first one that
    does not depend on the others' texts. -/
def Call.isPiecemeal : Call → Bool
  | correlations _ | tableInfo _ | quality _ => true
  | _ => false

/-- The strict guard, if it is set, takes the row count of the table of a source for one query. -/
def Settings.CountsRows (s : Settings) (source : Text) : Prop :=
  s.strictGuard = true → ∀ table, Sql.tableName source = .ok table →
    s.parser.kinds (Sql.rowCount table.text).sql = .ok [.query]

namespace Plan

variable {s : Settings}

theorem upfront_preview {source : Text} {r : PreviewRequest} (counts : s.CountsRows source) :
    (preview s source r).Upfront := by
  apply upfront_lift_bind
  intro table resolved
  obtain ⟨name, named, rfl⟩ := tableOf_ok resolved
  apply upfront_lift_bind
  intro query compiled
  -- the page is refused before it is sent, or else the row count is not refused after it
  cases checked : Guard.check s.policy .general query.sql with
  | error failure =>
    rw [fresh_refused _ checked]
    exact upfront_error failure
  | ok _ =>
    have counted := rowCount_accepted (fun strict => counts strict name named)
      (ofRequest_ok compiled) checked
    apply (upfront_fresh).bind
    intro page
    exact (unrefusing_rowCount counted).bind fun total => unrefusing_pure _

theorem upfront_streamed (payload : Datum) : (streamed s payload).Upfront := by
  apply upfront_lift_bind
  intro sql _
  exact (upfront_pull rfl).bind fun pull => unrefusing_lift (unrefused_records pull)

end Plan

theorem Call.upfront {s : Settings} {c : Call} (whole : c.isPiecemeal = false)
    (counts : ∀ source r, c = .preview source r → s.CountsRows source)
    (answered : ∀ payload, c ≠ .stream payload) : (c.plan s).Upfront := by
  cases c with
  | correlations r => cases whole
  | tableInfo source => cases whole
  | quality source => cases whole
  | query r => exact (Plan.upfront_browse _ _).map _
  | aggregation r =>
    refine Plan.Upfront.map ?_ _
    apply Plan.upfront_lift_bind
    intro table _
    apply Plan.upfront_lift_bind
    intro query _
    exact (Plan.upfront_browse _ _).bind fun grid => Plan.unrefusing_pure _
  | statistics r =>
    refine Plan.Upfront.map ?_ _
    apply Plan.upfront_lift_bind
    intro table _
    apply Plan.upfront_lift_bind
    intro query _
    apply Plan.upfront_fresh.bind
    intro grid
    split
    · exact Plan.unrefusing_pure _
    · exact Plan.unrefusing_lift (unrefused_namedNumbers _)
  | timeSeries r => exact (Plan.upfront_tabulate _ _).map _
  | outliers r => exact (Plan.upfront_tabulate _ _).map _
  | movingAverage r =>
    refine Plan.Upfront.map ?_ _
    apply Plan.upfront_lift_bind
    intro digits _
    exact Plan.upfront_tabulate _ _
  | columns source =>
    refine Plan.Upfront.map ?_ _
    apply Plan.upfront_lift_bind
    intro table _
    refine .inr (Plan.unrefusing_catalog.bind fun grid => ?_)
    exact Plan.unrefusing_lift (unrefused_mapM unrefused_describedColumn _)
  | metrics source =>
    refine Plan.Upfront.map ?_ _
    apply Plan.upfront_lift_bind
    intro table _
    have count : (Plan.rowCount s table).Upfront :=
      Plan.upfront_fresh.bind fun grid => Plan.unrefusing_lift (unrefused_countIn grid)
    exact count.bind fun total => Plan.unrefusing_pure _
  | preview source r => exact (Plan.upfront_preview (counts source r rfl)).map _
  | tables =>
    refine Plan.Upfront.map (.inr (Plan.unrefusing_catalog.bind fun grid => ?_)) _
    exact Plan.unrefusing_lift (unrefused_mapM unrefused_firstCell _)
  | stream payload => exact absurd rfl (answered payload)

/-- A call ends with a refusal; a streamed statement reports it in its answer. -/
def Call.Refuses (s : Settings) (d : Desk) (r : Refusal) : Call → Prop
  | stream payload => ((Plan.streamed s payload).run d).1 = .error (.refused r)
  | c => ((c.plan s).run d).1 = .error (.refused r)

def Call.refusal (r : Refusal) : Call → Except Failure Answer
  | stream _ => .ok (.stream ⟨[], some r.message⟩)
  | _ => .error (.refused r)

/-- A call that is refused takes no step, so that the engine has received nothing for it and what is
    kept is what was kept before. -/
theorem Call.refused_leaves_no_trace {s : Settings} {c : Call} {d : Desk} {r : Refusal}
    (whole : c.isPiecemeal = false) (counts : ∀ source p, c = .preview source p → s.CountsRows source)
    (refused : c.Refuses s d r) :
    c.plan s = .done (c.refusal r) ∧ (c.plan s).run d = (c.refusal r, d) := by
  have still : c.plan s = .done (c.refusal r) := by
    cases c with
    | stream payload =>
      have streamed := (Plan.upfront_streamed payload).of_refused refused
      change Answer.stream <$> Plan.stream s payload = _
      rw [Plan.stream, streamed]
      rfl
    | _ => exact (Call.upfront whole counts nofun).of_refused refused
  rw [still]
  exact ⟨rfl, rfl⟩

/-- Under the strict guard, the page of a table whose filter is no expression is refused, while the
    row count of the table would have been sent. -/
theorem Call.refused_leaves_no_trace_page :
    let s : Settings := { Settings.default with strictGuard := true, cacheEnabled := true }
    let c : Call := .preview "a" ⟨none, none, some [("select", .int 1)]⟩
    let kept : Snapshot.Store.Content Grid := ⟨"key", "SELECT 1", Grid.empty, none⟩
    let d := ((Plan.save kept).run (.start s (.ofScript []) Snapshot.sessionStart)).2
    s.CountsRows "a" ∧ d.kept = 1 ∧
      ∃ r, c.Refuses s d r ∧ (c.plan s).run d = (.error (.refused r), d) := by
  intro s c kept d
  have counts : s.CountsRows "a" := by
    rintro - table named
    rw [Sql.Name.ofText_eq_ok.mp named]
    exact eq_ok_of_toOption (by decide +kernel)
  obtain ⟨r, refused⟩ := exists_refusal (e := ((c.plan s).run d).1) (by decide +kernel)
  have same : ∀ source p, c = .preview source p → s.CountsRows source := by
    intro source p preview
    obtain ⟨rfl, _⟩ := Call.preview.inj preview
    exact counts
  exact ⟨counts, by decide +kernel, r, refused, (refused_leaves_no_trace rfl same refused).2⟩

end QueryDesk
