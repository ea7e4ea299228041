import QueryDesk.Proofs.Guard.Keyword
import QueryDesk.Proofs.Plan.Remembered
import QueryDesk.Proofs.Snapshot.Tally
import QueryDesk.Snapshot.Session

namespace QueryDesk

open Snapshot (Sending)

/-- Whether a text begins with a word that announces a change of data. -/
def Text.changesData (t : Text) : Bool :=
  Guard.startsWith ['i', 'n', 's', 'e', 'r', 't'] t ||
    Guard.startsWith ['u', 'p', 'd', 'a', 't', 'e'] t ||
    Guard.startsWith ['c', 'r', 'e', 'a', 't', 'e'] t

/-- A request for a statement, the time at which it is made, and the time at which the statement has
    been answered if it is sent. -/
structure Asking where
  request : StatementRequest
  now : Instant
  done : Instant

namespace Asking

def key? (a : Asking) : Option Text :=
  (Snapshot.key (.plain a.request.sql) a.request.source).toOption

def accepted (s : Settings) (a : Asking) : Bool :=
  (Guard.check s.policy .general a.request.sql).isOk

/-- Whether the statement is not sent after others were: the result of the latest one with its key
    has not expired. One that has no key is never sent where its result would be kept. -/
def withheld (s : Settings) (sendings : List Sending) (a : Asking) : Bool :=
  a.request.cache != some false && a.key?.all fun key =>
    (Sending.latest? (.whole s.cacheSeconds) sendings key).any (a.now < ·)

end Asking

namespace Desk

def present (d : Desk) (a : Asking) : Desk := { d with now := a.now, ahead := [a.done] }

def ask (d : Desk) (a : Asking) : Except Failure Answer × Desk :=
  ((Call.query a.request).plan d.settings).run (d.present a)

def askAll (d : Desk) (askings : List Asking) : Desk := askings.foldl (fun d a => (d.ask a).2) d

def received (d : Desk) : List Datum := d.engine.statements.map (·.sql)

def sending? (d : Desk) (a : Asking) : Option Sending :=
  if a.request.cache = some false ∨ (d.ask a).2.received.length = d.received.length then none
  else a.key?.map fun key => ⟨key, a.done, (d.ask a).1.isOk⟩

variable {d after : Desk} {t : Text}

theorem received_perform (isOpen : d.engine.closed = false) (job : Job) :
    (d.perform job).2.received = d.received ++ [job.statement.text] := by
  have log : (d.perform job).2.engine.log = (d.engine.perform job).2.log := rfl
  rw [Engine.log_perform, isOpen] at log
  simp only [received, Engine.statements, log, Bool.false_eq_true, if_false, List.reverse_cons,
    List.map_append, List.map_cons, List.map_nil]

theorem received_of_engine (same : after.engine = d.engine) : after.received = d.received := by
  rw [received, same]
  rfl

theorem closed_perform (d : Desk) (job : Job) :
    (d.perform job).2.engine.closed = d.engine.closed := by
  simp only [perform, Engine.perform]
  split <;> rfl

end Desk

namespace Plan

variable {α : Type} {s : Settings} {q : Sql.Query} {source : Option Text} {key : Text}
  {d : Desk} {lifetime : Seconds} {sendings : List Sending}

theorem closed_run (p : Plan α) (d : Desk) : (p.run d).2.engine.closed = d.engine.closed := by
  induction p generalizing d with
  | done outcome => rfl
  | statement job next ih => exact (ih _ _).trans (d.closed_perform job)
  | lookUp key next ih => exact ih _ _
  | keep content next ih =>
    exact (ih _ _).trans (congrArg Engine.closed (Desk.keep_engine d content))

theorem received_fresh (isOpen : d.engine.closed = false)
    (accepted : Guard.check s.policy .general q.sql = .ok ()) (cap : Int) :
    ((fresh s q cap).run d).2.received = d.received ++ [.text q.sql] := by
  have passed : Order.check s.policy ⟨q.statement, .upTo cap, .general, true⟩ = .ok () :=
    accepted
  unfold fresh
  rw [Order.run_grid passed]
  exact Desk.received_perform isOpen _

theorem run_remembered_absent (isOpen : d.engine.closed = false)
    (accepted : Guard.check s.policy .general q.sql = .ok ())
    (digest : Snapshot.key q source = .ok key) (tallies : d.store.Tallies lifetime sendings)
    (absent : (d.lookUp key).1 = none) : ∃ outcome after,
      (remembered s q source).run d = (outcome, after) ∧
      after.received = d.received ++ [.text q.sql] ∧
      after.store.Tallies lifetime (⟨key, d.awaited, outcome.isOk⟩ :: sendings) := by
  have nothing : (d.store.lookup d.now key).1 = none := Option.map_eq_none_iff.mp absent
  have received := received_fresh (d := (d.lookUp key).2) isOpen accepted s.previewMaxRows
  have ran := run_remembered_sent accepted digest absent
  cases sent : (fresh s q s.previewMaxRows).run (d.lookUp key).2 with
  | mk outcome after =>
    rw [sent] at ran received
    obtain ⟨store, -⟩ := run_fresh_frame sent
    have unanswered := tallies.unanswered nothing d.awaited
    cases outcome with
    | error failure =>
      refine ⟨_, _, ran, received, ?_⟩
      rw [store]
      exact unanswered
    | ok grid =>
      simp only [Desk.keep] at ran
      have present : after.now = (d.lookUp key).2.awaited := now_run_fresh sent
      have awaited : (d.lookUp key).2.awaited = d.awaited := rfl
      rw [store, present, awaited] at ran
      cases kept : (d.lookUp key).2.store.keep d.awaited ⟨key, q.sql, grid, source⟩ none with
      | error fault =>
        rw [kept] at ran
        refine ⟨_, _, ran, received, ?_⟩
        rw [store]
        exact unanswered
      | ok entry =>
        obtain ⟨e, entries⟩ := entry
        have answered := tallies.answered (c := ⟨key, q.sql, grid, source⟩) kept
        rw [kept] at ran
        exact ⟨_, _, ran, received, answered⟩

end Plan

/-- A desk, and the statements that were sent at it for results to keep, latest first. -/
structure Correspondence where
  desk : Desk
  sendings : List Sending

namespace Correspondence

def start (s : Settings) (engine : Engine) (opened : Instant) : Correspondence :=
  ⟨.start s engine opened, []⟩

def ask (c : Correspondence) (a : Asking) : Correspondence :=
  ⟨(c.desk.ask a).2, (c.desk.sending? a).toList ++ c.sendings⟩

def after (c : Correspondence) (askings : List Asking) : Correspondence := askings.foldl ask c

structure Sound (s : Settings) (c : Correspondence) : Prop where
  settings : c.desk.settings = s
  isOpen : c.desk.engine.closed = false
  tallies : c.desk.store.Tallies (.whole s.cacheSeconds) c.sendings

def sends (s : Settings) (c : Correspondence) (a : Asking) : List Datum :=
  if a.accepted s && !a.withheld s c.sendings then [.text a.request.sql] else []

variable {s : Settings} {c : Correspondence} {a : Asking}

theorem ask_eq (settings : c.desk.settings = s) {outcome : Except Failure Grid} {after : Desk}
    (ran : (Plan.browse s (.plain a.request.sql) a.request.source a.request.cache).run
      (c.desk.present a) = (outcome, after)) :
    c.desk.ask a = (outcome.map .grid, after) := by
  subst settings
  show (Answer.grid <$> Plan.browse c.desk.settings (.plain a.request.sql) a.request.source
    a.request.cache).run _ = _
  rw [Plan.run_map, ran]

theorem Sound.silent (sound : c.Sound s) {outcome : Except Failure Answer} {after : Desk}
    (asked : c.desk.ask a = (outcome, after)) (engine : after.engine = c.desk.engine)
    (store : after.store = c.desk.store) (settings : after.settings = c.desk.settings)
    (nothing : c.sends s a = []) :
    (c.ask a).Sound s ∧ (c.ask a).desk.received = c.desk.received ++ c.sends s a := by
  have received : after.received = c.desk.received := Desk.received_of_engine engine
  have sending : c.desk.sending? a = none := by
    unfold Desk.sending?
    rw [asked]
    exact if_pos (.inr (congrArg _ received))
  unfold ask
  rw [sending, asked, nothing, List.append_nil]
  refine ⟨⟨settings.trans sound.settings, (congrArg _ engine).trans sound.isOpen, ?_⟩, received⟩
  show after.store.Tallies _ c.sendings
  rw [store]
  exact sound.tallies

theorem Sound.declined (sound : c.Sound s) (declines : a.request.cache = some false)
    (accepted : Guard.check s.policy .general a.request.sql = .ok ()) :
    (c.ask a).Sound s ∧ (c.ask a).desk.received = c.desk.received ++ c.sends s a := by
  have isOpen := sound.isOpen
  obtain ⟨after, outcome, ran⟩ : ∃ after outcome, (Plan.browse s (.plain a.request.sql)
      a.request.source a.request.cache).run (c.desk.present a) = (outcome, after) :=
    ⟨_, _, rfl⟩
  have asked := ask_eq sound.settings ran
  rw [declines, Plan.browse_declined] at ran
  obtain ⟨store, settings⟩ := Plan.run_fresh_frame ran
  have received := Plan.received_fresh (q := .plain a.request.sql) (d := c.desk.present a)
    isOpen accepted s.previewMaxRows
  have closed := Plan.closed_run (Plan.fresh s (.plain a.request.sql) s.previewMaxRows)
    (c.desk.present a)
  rw [ran] at received closed
  have sending : c.desk.sending? a = none := if_pos (.inl declines)
  have text : c.sends s a = [.text a.request.sql] := by
    simp [sends, Asking.accepted, accepted, Asking.withheld, declines, Except.isOk, Except.toBool]
  unfold ask
  rw [sending, asked, text]
  refine ⟨⟨settings.trans sound.settings, closed.trans isOpen, ?_⟩, received⟩
  show after.store.Tallies _ c.sendings
  rw [store]
  exact sound.tallies

theorem Sound.sent (sound : c.Sound s) {key : Text} (wanted : a.request.cache ≠ some false)
    (keyed : a.key? = some key) {outcome : Except Failure Answer} {after : Desk}
    (asked : c.desk.ask a = (outcome, after)) (isOpen : after.engine.closed = false)
    (received : after.received = c.desk.received ++ [.text a.request.sql])
    (settings : after.settings = c.desk.settings)
    (tallies : after.store.Tallies (.whole s.cacheSeconds)
      (⟨key, a.done, outcome.isOk⟩ :: c.sendings)) (text : c.sends s a = [.text a.request.sql]) :
    (c.ask a).Sound s ∧ (c.ask a).desk.received = c.desk.received ++ c.sends s a := by
  have longer : after.received.length ≠ c.desk.received.length := by
    rw [received, List.length_append]
    exact Nat.succ_ne_self _
  have sending : c.desk.sending? a = some ⟨key, a.done, outcome.isOk⟩ := by
    unfold Desk.sending?
    rw [asked, if_neg (not_or.mpr ⟨wanted, longer⟩), keyed]
    rfl
  unfold ask
  rw [sending, asked, text]
  exact ⟨⟨settings.trans sound.settings, isOpen, tallies⟩, received⟩

theorem Sound.wanted (sound : c.Sound s) (caching : s.cacheEnabled = true)
    (wanted : a.request.cache ≠ some false)
    (accepted : Guard.check s.policy .general a.request.sql = .ok ()) :
    (c.ask a).Sound s ∧ (c.ask a).desk.received = c.desk.received ++ c.sends s a := by
  have wants : (a.request.cache != some false) = true := bne_iff_ne.mpr wanted
  have sends_eq : c.sends s a = if a.withheld s c.sendings then [] else [.text a.request.sql] := by
    unfold sends Asking.accepted
    rw [accepted]
    cases a.withheld s c.sendings <;> rfl
  have browse : Plan.browse s (.plain a.request.sql) a.request.source a.request.cache =
      Plan.remembered s (.plain a.request.sql) a.request.source :=
    Plan.browse_remembered caching wanted
  cases digest : Snapshot.key (.plain a.request.sql) a.request.source with
  | error failure =>
    have ran := Plan.run_remembered_unkeyed accepted digest (c.desk.present a)
    rw [← browse] at ran
    refine sound.silent (ask_eq sound.settings ran) rfl rfl rfl ?_
    have withheld : a.withheld s c.sendings = true := by
      simp [Asking.withheld, wants, Asking.key?, digest, Except.toOption]
    rw [sends_eq, if_pos withheld]
  | ok key =>
    have keyed : a.key? = some key := by
      unfold Asking.key?
      rw [digest]
      rfl
    have known := sound.tallies.isSome_lookup a.now key
    have withheld : a.withheld s c.sendings = (c.desk.store.lookup a.now key).1.isSome := by
      rw [known]
      simp [Asking.withheld, wants, keyed]
    cases found : (c.desk.store.lookup a.now key).1 with
    | some e =>
      have grid : ((c.desk.present a).lookUp key).1 = some e.result :=
        congrArg (Option.map fun e : Snapshot.Entry Grid => e.result) found
      have ran := Plan.run_remembered_found (q := .plain a.request.sql) accepted digest grid
      rw [← browse] at ran
      refine sound.silent (ask_eq sound.settings ran) rfl ?_ rfl ?_
      · exact Snapshot.Store.lookup_snd_of_some found
      · rw [sends_eq, withheld, found]
        rfl
    | none =>
      have absent : ((c.desk.present a).lookUp key).1 = none :=
        congrArg (Option.map fun e : Snapshot.Entry Grid => e.result) found
      obtain ⟨outcome, after, ran, received, tallies⟩ := Plan.run_remembered_absent
        (d := c.desk.present a) sound.isOpen accepted digest sound.tallies absent
      have settings := Plan.settings_run (Plan.remembered s (.plain a.request.sql) a.request.source)
        (c.desk.present a)
      have closed := Plan.closed_run (Plan.remembered s (.plain a.request.sql) a.request.source)
        (c.desk.present a)
      rw [ran] at settings closed
      rw [← browse] at ran
      refine sound.sent wanted keyed (ask_eq sound.settings ran) (closed.trans sound.isOpen) received
        settings ?_ ?_
      · cases outcome <;> exact tallies
      · rw [sends_eq, withheld, found]
        rfl

/-- One request sends its text once if the guard accepts it and it is not withheld, and else nothing;
    what is kept afterwards is told from what was sent. -/
theorem Sound.ask (sound : c.Sound s) (caching : s.cacheEnabled = true) (a : Asking) :
    (c.ask a).Sound s ∧ (c.ask a).desk.received = c.desk.received ++ c.sends s a := by
  cases accepted : Guard.check s.policy .general a.request.sql with
  | error failure =>
    have refused := Plan.browse_refused (q := .plain a.request.sql) a.request.source a.request.cache
      accepted
    have ran : (Plan.browse s (.plain a.request.sql) a.request.source a.request.cache).run
        (c.desk.present a) = (.error failure, c.desk.present a) := by
      rw [refused]
      rfl
    refine sound.silent (ask_eq sound.settings ran) rfl rfl rfl ?_
    simp [sends, Asking.accepted, accepted, Except.isOk, Except.toBool]
  | ok _ =>
    by_cases declines : a.request.cache = some false
    · exact sound.declined declines accepted
    · exact sound.wanted caching declines accepted

theorem Sound.after (sound : c.Sound s) (caching : s.cacheEnabled = true) (askings : List Asking) :
    (c.after askings).Sound s := by
  induction askings generalizing c with
  | nil => exact sound
  | cons a rest ih => exact ih (sound.ask caching a).1

def delivered (s : Settings) (c : Correspondence) : List Asking → List Datum
  | [] => []
  | a :: rest => c.sends s a ++ delivered s (c.ask a) rest

theorem Sound.received_after (sound : c.Sound s) (caching : s.cacheEnabled = true)
    (askings : List Asking) :
    (c.after askings).desk.received = c.desk.received ++ c.delivered s askings := by
  induction askings generalizing c with
  | nil => exact (List.append_nil _).symm
  | cons a rest ih =>
    obtain ⟨next, received⟩ := sound.ask caching a
    have later := ih next
    rw [received, List.append_assoc] at later
    exact later

end Correspondence

namespace Desk

def sendsPlainly (s : Settings) (a : Asking) : List Datum :=
  if a.accepted s then [.text a.request.sql] else []

variable {s : Settings} {d : Desk}

theorem ask_uncached (plain : d.settings = s.uncached) (isOpen : d.engine.closed = false)
    (a : Asking) : (d.ask a).2.settings = s.uncached ∧ (d.ask a).2.engine.closed = false ∧
      (d.ask a).2.received = d.received ++ sendsPlainly s a := by
  have settings : (d.ask a).2.settings = s.uncached :=
    (Plan.settings_run _ (d.present a)).trans plain
  have closed : (d.ask a).2.engine.closed = false := (Plan.closed_run _ (d.present a)).trans isOpen
  refine ⟨settings, closed, ?_⟩
  have browse : Plan.browse s.uncached (.plain a.request.sql) a.request.source a.request.cache =
      Plan.fresh s.uncached (.plain a.request.sql) s.previewMaxRows := rfl
  have ran : (d.ask a).2 = ((Plan.fresh s.uncached (.plain a.request.sql) s.previewMaxRows).run
      (d.present a)).2 := by
    unfold ask
    rw [plain]
    show ((Answer.grid <$> Plan.browse s.uncached _ _ _).run _).2 = _
    rw [Plan.run_map, browse]
  rw [ran]
  unfold sendsPlainly Asking.accepted
  cases accepted : Guard.check s.policy .general a.request.sql with
  | ok _ =>
    exact Plan.received_fresh (s := s.uncached) (q := .plain a.request.sql) (d := d.present a)
      isOpen accepted s.previewMaxRows
  | error failure =>
    rw [Plan.fresh_refused (s := s.uncached) (q := .plain a.request.sql) _ accepted]
    exact (List.append_nil _).symm

theorem askAll_uncached (plain : d.settings = s.uncached) (isOpen : d.engine.closed = false)
    (askings : List Asking) : (d.askAll askings).settings = s.uncached ∧
      (d.askAll askings).engine.closed = false ∧
      (d.askAll askings).received = d.received ++ askings.flatMap (sendsPlainly s) := by
  induction askings generalizing d with
  | nil => exact ⟨plain, isOpen, (List.append_nil _).symm⟩
  | cons a rest ih =>
    obtain ⟨settings, opened, received⟩ := ask_uncached plain isOpen a
    have later := ih settings opened
    rw [received, List.append_assoc] at later
    exact later

end Desk

section Places

variable {α : Type} {P : List α → α → Prop} {a : α} {rest : List α}

theorem forall_place_cons_iff :
    (∀ earlier b later, a :: rest = earlier ++ b :: later → P earlier b) ↔
      P [] a ∧ ∀ earlier b later, rest = earlier ++ b :: later → P (a :: earlier) b := by
  constructor
  · intro all
    exact ⟨all [] a rest rfl, fun earlier b later place => all (a :: earlier) b later (place ▸ rfl)⟩
  · rintro ⟨first, others⟩ earlier b later place
    cases earlier with
    | nil =>
      cases place
      exact first
    | cons x earlier =>
      cases place
      exact others earlier b later rfl

theorem append_eq_append_iff_of_sublist {xs xs' ys ys' : List α} (head : xs.Sublist ys)
    (tail : xs'.Sublist ys') : xs ++ xs' = ys ++ ys' ↔ xs = ys ∧ xs' = ys' := by
  constructor
  · intro same
    have lengths := congrArg List.length same
    rw [List.length_append, List.length_append] at lengths
    have first := head.length_le
    have last := tail.length_le
    exact ⟨head.eq_of_length (by omega), tail.eq_of_length (by omega)⟩
  · rintro ⟨rfl, rfl⟩
    rfl

end Places

def Datum.changesData : Datum → Bool
  | .text t => t.changesData
  | _ => false

namespace Correspondence

variable {s : Settings} {c : Correspondence}

def Delivers (s : Settings) (c : Correspondence) (a : Asking) : Prop :=
  a.accepted s = true → a.request.sql.changesData = true → a.withheld s c.sendings = false

theorem sends_sublist (s : Settings) (c : Correspondence) (a : Asking) :
    (c.sends s a).Sublist (Desk.sendsPlainly s a) := by
  unfold sends Desk.sendsPlainly
  cases a.accepted s with
  | false => exact .slnil
  | true =>
    cases a.withheld s c.sendings with
    | false => exact .refl _
    | true => exact List.nil_sublist _

theorem delivered_sublist (s : Settings) (c : Correspondence) (askings : List Asking) :
    (c.delivered s askings).Sublist (askings.flatMap (Desk.sendsPlainly s)) := by
  induction askings generalizing c with
  | nil => exact .slnil
  | cons a rest ih => exact (sends_sublist s c a).append (ih (c.ask a))

theorem filter_sends_eq_iff (s : Settings) (c : Correspondence) (a : Asking) :
    (c.sends s a).filter Datum.changesData = (Desk.sendsPlainly s a).filter Datum.changesData ↔
      c.Delivers s a := by
  unfold sends Desk.sendsPlainly Delivers
  cases a.accepted s with
  | false => exact iff_of_true rfl nofun
  | true =>
    cases a.withheld s c.sendings with
    | false => exact iff_of_true rfl fun _ _ => rfl
    | true =>
      cases changes : a.request.sql.changesData with
      | false => exact iff_of_true (by simp [Datum.changesData, changes]) nofun
      | true =>
        exact iff_of_false (by simp [Datum.changesData, changes]) fun sent => nomatch sent rfl rfl

/-- The same changes of data reach the engine as where nothing is kept exactly when no accepted one
    is withheld. -/
theorem filter_delivered_eq_iff (s : Settings) (c : Correspondence) (askings : List Asking) :
    (c.delivered s askings).filter Datum.changesData =
        (askings.flatMap (Desk.sendsPlainly s)).filter Datum.changesData ↔
      ∀ earlier a later, askings = earlier ++ a :: later → (c.after earlier).Delivers s a := by
  induction askings generalizing c with
  | nil => simp [delivered]
  | cons a rest ih =>
    refine Iff.trans ?_ forall_place_cons_iff.symm
    have others := ih (c.ask a)
    have head := (sends_sublist s c a).filter Datum.changesData
    have tail := (delivered_sublist s (c.ask a) rest).filter Datum.changesData
    rw [delivered, List.flatMap_cons, List.filter_append, List.filter_append,
      append_eq_append_iff_of_sublist head tail, filter_sends_eq_iff, others]
    rfl

/-- Keeping results and statements that change data. Of the requests to a desk that keeps results,
    each one that the guard accepts sends its text once, unless it is withheld and sends nothing; at a
    desk that keeps none, each accepted one sends its text once. So both engines receive the same
    changes of data exactly when none of the accepted ones is withheld. -/
theorem changes_delivered_iff (caching : s.cacheEnabled = true) (script other : List Reply)
    (opened : Instant) (askings : List Asking) :
    let c := start s (.ofScript script) opened
    let plain : Desk := .start s.uncached (.ofScript other) opened
    (∀ earlier a later, askings = earlier ++ a :: later →
      (c.after (earlier ++ [a])).desk.received = (c.after earlier).desk.received ++
        (if a.accepted s && !a.withheld s (c.after earlier).sendings then [.text a.request.sql]
          else []) ∧
      (plain.askAll (earlier ++ [a])).received = (plain.askAll earlier).received ++
        (if a.accepted s then [.text a.request.sql] else [])) ∧
    ((c.after askings).desk.received.filter Datum.changesData =
        (plain.askAll askings).received.filter Datum.changesData ↔
      ∀ earlier a later, askings = earlier ++ a :: later → a.accepted s = true →
        a.request.sql.changesData = true → a.withheld s (c.after earlier).sendings = false) := by
  intro c plain
  have sound : c.Sound s := ⟨rfl, rfl, Snapshot.Store.tallies_ofLifetime _⟩
  have uncached : plain.settings = s.uncached := rfl
  constructor
  · intro earlier a later _
    have next : c.after (earlier ++ [a]) = (c.after earlier).ask a := List.foldl_append
    have nextPlain : plain.askAll (earlier ++ [a]) = ((plain.askAll earlier).ask a).2 :=
      List.foldl_append
    obtain ⟨settings, isOpen, -⟩ := Desk.askAll_uncached uncached rfl earlier
    rw [next, nextPlain]
    exact ⟨((sound.after caching earlier).ask caching a).2,
      (Desk.ask_uncached settings isOpen a).2.2⟩
  · have cached := sound.received_after caching askings
    have uncached := (Desk.askAll_uncached uncached rfl askings).2.2
    have nothing : c.desk.received = [] ∧ plain.received = [] := ⟨rfl, rfl⟩
    rw [nothing.1, List.nil_append] at cached
    rw [nothing.2, List.nil_append] at uncached
    rw [cached, uncached]
    exact filter_delivered_eq_iff s c askings

theorem changes_delivered_iff_declined :
    let s : Settings := { Settings.default with cacheEnabled := true }
    let insert : StatementRequest := ⟨"INSERT INTO t VALUES (1)", none, none⟩
    let now := Snapshot.sessionStart
    let askings : List Asking := [⟨insert, now, now⟩, ⟨{ insert with cache := some false }, now, now⟩]
    s.cacheEnabled = true ∧
      ((start s (.ofScript []) now).after askings).desk.received.filter Datum.changesData =
        ((Desk.start s.uncached (.ofScript []) now).askAll askings).received.filter
          Datum.changesData := by
  intro s insert now askings
  refine ⟨rfl, (changes_delivered_iff rfl [] [] now askings).2.mpr ?_⟩
  refine forall_place_cons_iff.mpr ⟨fun _ _ => ?_, forall_place_cons_iff.mpr ⟨fun _ _ => rfl, ?_⟩⟩
  · -- nothing has been sent yet, so that the digest is of no interest
    obtain ⟨key, keyed⟩ : ∃ key, (⟨insert, now, now⟩ : Asking).key? = some key := ⟨_, rfl⟩
    rw [Asking.withheld, keyed]
    rfl
  · intro earlier a later place
    cases earlier <;> cases place

/-- The same change asked for twice at once is sent only once. -/
theorem change_withheld : ¬ ∀ (s : Settings) (script other : List Reply) (opened : Instant)
    (askings : List Asking), s.cacheEnabled = true → s.strictGuard = false →
    ((start s (.ofScript script) opened).after askings).desk.received.filter Datum.changesData =
      ((Desk.start s.uncached (.ofScript other) opened).askAll askings).received.filter
        Datum.changesData := by
  intro always
  let s : Settings := { Settings.default with cacheEnabled := true }
  let now := Snapshot.sessionStart
  let a : Asking := ⟨⟨"INSERT INTO t VALUES (1)", none, none⟩, now, now⟩
  have lengths := congrArg List.length (always s [] [] now [a, a] rfl rfl)
  have once : (((start s (.ofScript []) now).after [a, a]).desk.received.filter
      Datum.changesData).length = 1 := by decide +kernel
  have twice : (((Desk.start s.uncached (.ofScript []) now).askAll [a, a]).received.filter
      Datum.changesData).length = 2 := by decide +kernel
  rw [once, twice] at lengths
  cases lengths

end Correspondence

end QueryDesk
