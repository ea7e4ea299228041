import QueryDesk.Proofs.Line.Contract
import QueryDesk.Proofs.Plan.Showing

namespace QueryDesk

def Grid.IsShown (replies : Reply → Prop) (g : Grid) : Prop :=
  ∃ cap reply, replies reply ∧ reply.Shows cap g.columns g.rows

theorem Grid.IsShown.portable {replies : Reply → Prop} {g : Grid} (shown : g.IsShown replies) :
    g.IsPortable := by
  obtain ⟨cap, reply, _, shows⟩ := shown
  exact shows.portable

theorem Grid.IsShown.mono {replies wider : Reply → Prop} {g : Grid} (shown : g.IsShown replies)
    (given : ∀ reply, replies reply → wider reply) : g.IsShown wider := by
  obtain ⟨cap, reply, there, shows⟩ := shown
  exact ⟨cap, reply, given reply there, shows⟩

def Reply.IsNothing (reply : Reply) : Prop := reply = .rows .none

def Answer.IsFrom (replies : Reply → Prop) (a : Answer) : Prop :=
  a.Faithful (Grid.IsShown replies) fun _ => replies

def Shown.IsFrom (replies : Reply → Prop) (shown : Shown) : Prop :=
  ∃ a : Answer, shown = a.shown ∧ a.IsFrom replies

section Shown

variable {replies wider : Reply → Prop} {shown : Shown}

theorem Shown.IsFrom.portable (from_replies : shown.IsFrom replies) :
    ∀ d ∈ shown.data, d.IsPortable := by
  obtain ⟨a, rfl, faithful⟩ := from_replies
  rw [Answer.data_shown]
  exact Answer.Faithful.portable faithful fun g => Grid.IsShown.portable

theorem Shown.IsFrom.mono (from_replies : shown.IsFrom replies)
    (given : ∀ reply, replies reply → wider reply) : shown.IsFrom wider := by
  obtain ⟨a, same, faithful⟩ := from_replies
  have held (g : Grid) (old : g.IsShown replies) : g.IsShown wider := old.mono given
  exact ⟨a, same, Answer.Faithful.mono faithful held fun _ => given⟩

end Shown

namespace Turn

def isOverwrite : Turn → Bool
  | overwrite .. => true
  | _ => false

def Result.shown : Result → List Shown
  | answer outcome => outcome.toOption.toList
  | answers outcomes | afterCancel _ _ outcomes => outcomes.filterMap Except.toOption
  | moment _ | closings _ | nothing => []

end Turn

section Plans

variable {replies : Reply → Prop}

theorem faithful_planOf (s : Settings) (request : Except Failure AnyCall) :
    (planOf s request).Meets (.steady replies (Grid.IsShown replies) fun _ => True)
      (fun _ a => a.IsFrom replies) 0 := by
  let terms := Plan.Terms.steady replies (Grid.IsShown replies) fun _ => True
  have own (cap : Nat) (reply : Reply) (g : Grid) (offered : terms.replies 0 reply)
      (shows : reply.Shows cap g.columns g.rows) : terms.grids g := ⟨cap, reply, offered, shows⟩
  have any (f : Failure) : terms.fails f := True.intro
  cases request with
  | error f => exact True.intro
  | ok c =>
    cases c with
    | call c =>
      apply (c.meets_faithful any (own _)).mono
      intro _ a faithful
      exact faithful.mono (fun _ held => held) fun _ _ offered => offered.2
    | direct c => exact c.meets_faithful any s own

abbrev Line.Faithful (replies : Reply → Prop) (l : Line Answer) : Prop :=
  l.Meets replies (Grid.IsShown replies) (fun _ => True)
    fun a => a.IsFrom replies

theorem Desk.faithful_lineUp {d : Desk} (offers : d.engine.Offers (fun _ => replies) 0)
    (stored : d.store.Holds (Grid.IsShown replies)) (requests : List (Except Failure AnyCall)) :
    (d.lineUp requests).Faithful replies := by
  have unstarted : (Line.ofPlans d (requests.map (planOf d.settings))).Faithful replies := by
    apply Line.meets_ofPlans offers stored
    intro p member
    obtain ⟨request, _, rfl⟩ := List.mem_map.mp member
    exact faithful_planOf d.settings request
  obtain ⟨events, started⟩ :=
    (Line.ofPlans d (requests.map (planOf d.settings))).startAll_eq_after
  unfold lineUp
  rw [started]
  exact Line.Meets.after True.intro unstarted events

theorem Line.Faithful.settle {l : Line Answer} (faithful : l.Faithful replies) :
    l.settle.Faithful replies := by
  obtain ⟨events, settled⟩ := l.settle_eq_after
  rw [settled]
  exact Line.Meets.after True.intro faithful events

theorem Line.Faithful.shown {l : Line Answer} (faithful : l.Faithful replies) :
    ∀ shown ∈ (Desk.shown l.outcomes).filterMap Except.toOption, shown.IsFrom replies := by
  intro shown member
  obtain ⟨outcome, copied, given⟩ := List.mem_filterMap.mp member
  obtain ⟨original, ended, rfl⟩ := List.mem_map.mp copied
  have ends := Line.Meets.outcomes True.intro faithful original ended
  cases original with
  | error f => cases given
  | ok a =>
    cases given
    exact ⟨a, rfl, ends⟩

end Plans

namespace Session

variable {replies : Reply → Prop} {s after : Session}

theorem play_faithful {d : Desk} {t : Turn} {outcome : Outcome} (played : s.play d t = .ok outcome)
    (offers : d.engine.Offers (fun _ => replies) 0)
    (stored : d.store.Holds (Grid.IsShown replies)) :
    (t.isOverwrite = false → ∀ shown ∈ outcome.result.shown, shown.IsFrom replies) ∧
      outcome.desk.store.Holds (Grid.IsShown replies) := by
  cases t with
  | call request =>
    cases played
    obtain ⟨⟨_, ends⟩, kept⟩ := (faithful_planOf d.settings request).run offers stored
    refine ⟨fun _ shown member => ?_, kept⟩
    simp only [Turn.Result.shown] at member
    cases answered : ((planOf d.settings request).run d).1 with
    | error f =>
      rw [answered] at member
      cases member
    | ok a =>
      rw [answered] at member ends
      cases List.mem_singleton.mp member
      exact ⟨a, rfl, ends⟩
  | together requests =>
    cases played
    have settled := (Desk.faithful_lineUp offers stored requests).settle
    exact ⟨fun _ => settled.shown, settled.stored⟩
  | cancelled first others =>
    cases played
    have begun := Desk.faithful_lineUp offers stored (first :: others)
    have running : (Desk.cancelFirst (d.lineUp (first :: others))).Faithful replies :=
      Line.Meets.after True.intro begun _
    have settled := running.settle
    exact ⟨fun _ => settled.shown, settled.stored⟩
  | advance seconds =>
    obtain ⟨now, _, same⟩ := bind_eq_ok.mp played
    cases same
    exact ⟨fun _ => nofun, stored⟩
  | overwrite turn row column datum =>
    simp only [play] at played
    split at played
    · rename_i answer _
      obtain ⟨shown, _, same⟩ := bind_eq_ok.mp played
      cases same
      exact ⟨nofun, stored⟩
    · cases played
  | close =>
    cases played
    exact ⟨fun _ => nofun, stored⟩
  | clear =>
    cases played
    exact ⟨fun _ => nofun, nofun⟩

theorem turn_faithful {script : List Reply} {t : Turn} {report : Turn.Report}
    (turned : s.turn script t = .ok (report, after)) (scripted : ∀ reply ∈ script, replies reply)
    (exhausted : replies (.rows .none)) (stored : s.desk.store.Holds (Grid.IsShown replies)) :
    (t.isOverwrite = false → ∀ shown ∈ report.result.shown, shown.IsFrom replies) ∧
      after.desk.store.Holds (Grid.IsShown replies) := by
  obtain ⟨outcome, played, same⟩ := bind_eq_ok.mp turned
  cases same
  refine play_faithful played (.inr fun j => ?_) stored
  show replies (script.getD j (.rows .none))
  rw [List.getD_eq_getElem?_getD]
  cases given : script[j]? with
  | none => exact exhausted
  | some reply => exact scripted reply (List.mem_of_getElem? given)

/-- The replies before a session, and those in the scripts of its turns. -/
def Scripted (given : Reply → Prop) (turns : List (List Reply × Turn)) (reply : Reply) : Prop :=
  given reply ∨ ∃ t ∈ turns, reply ∈ t.1

theorem run_faithful {given : Reply → Prop} {turns : List (List Reply × Turn)}
    {reports : List Turn.Report} (ran : s.run turns = .ok reports) (exhausted : given (.rows .none))
    (stored : s.desk.store.Holds (Grid.IsShown given)) {n : Nat} {t : List Reply × Turn}
    {report : Turn.Report} (played : turns[n]? = some t) (reported : reports[n]? = some report)
    (plain : t.2.isOverwrite = false) :
    ∀ shown ∈ report.result.shown, shown.IsFrom (Scripted given (turns.take (n + 1))) := by
  -- on the turns; the results kept before a turn were shown by the replies before it
  induction turns generalizing s given reports n with
  | nil => cases played
  | cons first rest ih =>
    obtain ⟨⟨own, after⟩, turned, continued⟩ := bind_eq_ok.mp ran
    obtain ⟨others, later, same⟩ := bind_eq_ok.mp continued
    cases same
    have known (reply : Reply) (old : given reply) : given reply ∨ reply ∈ first.1 := .inl old
    have wider : s.desk.store.Holds (Grid.IsShown fun reply => given reply ∨ reply ∈ first.1) := by
      intro e member
      exact (stored e member).mono known
    obtain ⟨faithful, kept⟩ := turn_faithful turned (fun reply inside => .inr inside)
      (known _ exhausted) wider
    cases n with
    | zero =>
      cases played
      cases reported
      intro shown member
      refine (faithful plain shown member).mono fun reply there => ?_
      rcases there with old | new
      · exact .inl old
      · exact .inr ⟨t, List.mem_cons_self, new⟩
    | succ n =>
      intro shown member
      have known' := known _ exhausted
      refine (ih later known' kept played reported shown member).mono fun reply there => ?_
      rcases there with (old | new) | ⟨t, inside, own⟩
      · exact .inl old
      · exact .inr ⟨first, List.mem_cons_self, new⟩
      · exact .inr ⟨t, List.mem_cons_of_mem _ inside, own⟩

end Session

/-- A grid that a desk has kept, or what the next reply shows up to a cap. -/
def Desk.HasGrid (d : Desk) (cap : Nat) (g : Grid) : Prop :=
  (∃ e ∈ d.store.entries, e.2.result = g) ∨ d.engine.nextReply.Shows cap g.columns g.rows

/-- A call that runs alone answers with a grid that has been kept, or with what the next reply
    shows. -/
theorem Call.faithful_run {s : Settings} {c : Call} {d : Desk} {a : Answer}
    (answered : ((c.plan s).run d).1 = .ok a) :
    a.Faithful (d.HasGrid s.previewMaxRows.toNat) fun cap reply =>
      cap = c.cap s ∧ reply = d.engine.nextReply := by
  let terms : Plan.Terms := {
    replies := fun k reply => k = 0 → reply = d.engine.nextReply
    grids := d.HasGrid s.previewMaxRows.toNat
    fails := fun _ => True }
  have own (reply : Reply) (g : Grid) (next : terms.replies 0 reply)
      (shows : reply.Shows s.previewMaxRows.toNat g.columns g.rows) : terms.grids g := by
    rw [next rfl] at shows
    exact .inr shows
  have meets := c.meets_faithful (fun _ => True.intro) own
  have offers : d.engine.Offers terms.replies 0 := by
    refine .inr fun j first => ?_
    rw [Nat.zero_add] at first
    rw [first]
    exact d.engine.getD_script_zero
  have stored : d.store.Holds terms.grids := fun e member => .inl ⟨e, member, rfl⟩
  obtain ⟨⟨_, ends⟩, _⟩ := meets.run offers stored
  rw [answered] at ends
  exact Answer.Faithful.mono ends (fun _ held => held) fun _ _ shown => ⟨shown.1, shown.2 rfl⟩

/-- Every value that is handed out is portable, and no value is changed on its way. In every session
    the answers to a turn, the caller's own writing apart, are portable and faithful to the replies
    given by then; a single call shows the reply that comes next or a grid that was kept; and the
    forms that results are made through read every value as it is. -/
theorem Session.every_value_portable (settings : Settings) (turns : List (List Reply × Turn)) :
    (∀ reports, (start settings).run turns = .ok reports →
      ∀ (n : Nat) (t : List Reply × Turn) (report : Turn.Report), turns[n]? = some t →
        reports[n]? = some report → t.2.isOverwrite = false →
        ∀ shown ∈ report.result.shown, (∀ d ∈ shown.data, d.IsPortable) ∧
          shown.IsFrom (Scripted Reply.IsNothing (turns.take (n + 1)))) ∧
    (∀ (s : Settings) (c : Call) (d : Desk) (a : Answer), ((c.plan s).run d).1 = .ok a →
      a.Faithful (d.HasGrid s.previewMaxRows.toNat)
          (fun cap reply => cap = c.cap s ∧ reply = d.engine.nextReply) ∧
        (d.store.Holds Grid.IsPortable → ∀ value ∈ a.data, value.IsPortable)) ∧
    (∀ columns rows truncated,
      Grid.read (Grid.form columns rows truncated) = Grid.ofRows columns rows truncated) ∧
    (∀ r : AggregationReport, AggregationReport.read r.fields = .pass r) ∧
    ∀ r : PreviewReport, PreviewReport.read r.fields = .pass r := by
  refine ⟨?_, ?_, Grid.read_form, AggregationReport.read_fields, PreviewReport.read_fields⟩
  · intro reports ran n t report played reported plain shown member
    have stored : (start settings).desk.store.Holds (Grid.IsShown Reply.IsNothing) := nofun
    have exhausted : Reply.IsNothing (.rows .none) := rfl
    have faithful := run_faithful ran exhausted stored played reported plain shown member
    exact ⟨faithful.portable, faithful⟩
  · intro s c d a answered
    have faithful := Call.faithful_run answered
    refine ⟨faithful, fun kept => faithful.portable fun g held => ?_⟩
    rcases held with ⟨e, member, rfl⟩ | shows
    · exact kept e member
    · exact shows.portable

/-- A flag, a number that is none, a lone surrogate, infinity, binary data and a list come out as
    portable values, from the engine and then again from the results kept. -/
theorem Session.every_value_portable_twice :
    let settings : Settings := { Settings.default with cacheEnabled := true }
    let cells : List Datum := [.bool true, .float .nan, .text [.surrogate 0],
      .decimal (.infinite true), .bytes [255], .list []]
    let names : List Datum := [.text "a", .text "b", .text "c", .text "d", .text "e", .text "f"]
    let reply : Reply := .rows (.ofList names [cells] none)
    let query : Call := .query ⟨"SELECT 1", none, none⟩
    let turn : Turn := .call (.ok (.call query))
    let turns : List (List Reply × Turn) := [([reply], turn), ([], turn)]
    let values : List Text := ["1", "0", "'?'", "0", "'BLOB'", "'UNKNOWN'"]
    let d : Desk := .start settings (.ofScript [reply]) Snapshot.sessionStart
    ∃ first second, (start settings).run turns = .ok [first, second] ∧
      first.statements.length = 1 ∧ second.statements.length = 0 ∧
      second.result.shown.map (·.data.map Datum.printed) = [values] ∧
      (∀ shown ∈ second.result.shown, ∀ v ∈ shown.data, v.IsPortable) ∧
      ∃ a, ((query.plan settings).run d).1 = .ok a ∧ ∀ v ∈ a.data, v.IsPortable := by
  intro settings cells names reply query turn turns values d
  obtain ⟨every, single, _⟩ := every_value_portable settings turns
  have portable := every _ rfl 1 _ _ rfl rfl rfl
  obtain ⟨a, answered⟩ := exists_of_isOk (x := ((query.plan settings).run d).1) (by decide +kernel)
  have kept : d.store.Holds Grid.IsPortable := nofun
  exact ⟨_, _, rfl, by decide +kernel, by decide +kernel, by decide +kernel,
    fun shown member => (portable shown member).1, a, answered, (single _ _ _ _ answered).2 kept⟩

end QueryDesk
