import QueryDesk.Proofs.Plan.Remembered
import QueryDesk.Proofs.Plan.Summarized
import QueryDesk.Proofs.Snapshot.History

namespace QueryDesk

def Answer.grid? : Answer → Option Grid
  | grid g => some g
  | aggregation report => some report.grid
  | _ => none

@[simp]
theorem Call.grid?_answerFrom (c : Call) (grid : Grid) : (c.answerFrom grid).grid? = some grid := by
  cases c <;> rfl

/-- What a call answers if its statement has a result: the result, and a summary for each operation if
    the call is an aggregation. -/
inductive Call.Conveys (g : Grid) : Call → Answer → Prop
  | query (r) : Conveys g (.query r) (.grid g)
  | aggregation (r) {summaries} (each : List.Forall₂ (Summary.Of (r.groupBy.getD [] ≠ []) g)
      r.operations summaries) : Conveys g (.aggregation r) (.aggregation ⟨g, summaries⟩)

theorem Call.conveys_answerFrom {c : Call} {q : Sql.Query} {source : Option Text}
    (lasting : c.lasting? = some (q, source)) (g : Grid) : Conveys g c (c.answerFrom g) := by
  cases c with
  | query r => exact .query r
  | aggregation r => exact .aggregation r (Plan.summaries_of r g)
  | _ => cases lasting

/-- A call, the engine that is there for it, the time at which it is made, and the time at which its
    statement has been answered if it is sent. -/
structure Visit where
  call : Call
  engine : Engine
  now : Instant
  done : Instant

namespace Desk

def meet (d : Desk) (v : Visit) : Desk :=
  { d with engine := v.engine, now := v.now, ahead := [v.done] }

def receive (d : Desk) (v : Visit) : Except Failure Answer × Desk :=
  (v.call.plan d.settings).run (d.meet v)

def execution? (d : Desk) (v : Visit) : Option Snapshot.Execution := do
  let key ← v.call.key? d.settings
  let answer ← (d.receive v).1.toOption
  let grid ← answer.grid?
  if v.engine.log.length < (d.receive v).2.engine.log.length then some ⟨key, v.done, grid⟩ else none

end Desk

structure Chronicle where
  desk : Desk
  executions : List Snapshot.Execution

namespace Chronicle

def start (s : Settings) (engine : Engine) (now : Instant) : Chronicle := ⟨.start s engine now, []⟩

def visit (c : Chronicle) (v : Visit) : Chronicle :=
  ⟨(c.desk.receive v).2, (c.desk.execution? v).toList ++ c.executions⟩

def after (c : Chronicle) (visits : List Visit) : Chronicle := visits.foldl visit c

/-- The latest execution of the statement of a visit, if its result is current then. -/
def current? (c : Chronicle) (v : Visit) : Option Snapshot.Execution :=
  (v.call.key? c.desk.settings).bind
    (Snapshot.current? (.whole c.desk.settings.cacheSeconds) v.now c.executions)

structure Sound (s : Settings) (now : Instant) (c : Chronicle) : Prop where
  settings : c.desk.settings = s
  lifetime : c.desk.store.lifetime = .whole s.cacheSeconds
  remembers : c.desk.store.Remembers c.executions now

/-- A visit is answered from the latest execution, and sends nothing, if that is current. Otherwise it
    sends the same and is answered the same as at a desk that keeps nothing, unless it fails before
    anything is sent since a parameter of its statement cannot be printed for the key. -/
structure Transparent (s : Settings) (c : Chronicle) (v : Visit) : Prop where
  answered : ∀ e, c.current? v = some e → (c.desk.receive v).2.engine = v.engine ∧
    ∃ answer, (c.desk.receive v).1 = .ok answer ∧ Call.Conveys e.grid v.call answer
  otherwise : c.current? v = none → ¬ v.call.Unprinted s →
    (c.desk.receive v).1 = ((Desk.start s.uncached v.engine v.now).receive v).1 ∧
      (c.desk.receive v).2.engine = ((Desk.start s.uncached v.engine v.now).receive v).2.engine
  unprinted : v.call.Unprinted s → c.current? v = none ∧
    (c.desk.receive v).1 = .error .unwritableNumber ∧ (c.desk.receive v).2.engine = v.engine

theorem current?_start (s : Settings) (engine : Engine) (opened : Instant) (v : Visit) :
    (start s engine opened).current? v = none := by
  unfold current?
  cases v.call.key? (start s engine opened).desk.settings <;> rfl

variable {s : Settings} {now : Instant} {c : Chronicle} {v : Visit}

theorem execution?_of_unkeyed (unkeyed : v.call.key? c.desk.settings = none) :
    c.desk.execution? v = none := by
  simp [Desk.execution?, unkeyed]

theorem Sound.visit_unkeyed (sound : c.Sound s now) (order : now ≤ v.done)
    (encodable : v.call.Encodable) (printed : ¬ v.call.Unprinted s)
    (unkeyed : v.call.key? s = none) : c.Transparent s v ∧ (c.visit v).Sound s v.done := by
  obtain ⟨rfl, lifetime, remembers⟩ := sound
  have same := Call.plan_uncached_of_key? encodable printed unkeyed
  have statements := Call.every_isStatement (s := c.desk.settings.uncached) rfl v.call
  have store : (c.desk.receive v).2.store = c.desk.store := by
    unfold Desk.receive
    rw [same]
    exact statements.store_run _
  have absent : c.current? v = none := by
    unfold current?
    rw [unkeyed]
    rfl
  refine ⟨⟨?_, ?_, fun unprinted => absurd unprinted printed⟩, ?_, ?_, ?_⟩
  · intro e current
    rw [absent] at current
    cases current
  · intro _ _
    unfold Desk.receive
    rw [same]
    exact statements.run_congr rfl
  · exact Plan.settings_run _ _
  · simp only [visit]
    rw [store]
    exact lifetime
  · simp only [visit]
    rw [store, execution?_of_unkeyed unkeyed]
    exact remembers.later order

/-- Nothing is sent for a key that cannot be made. -/
theorem Sound.visit_unprinted (sound : c.Sound s now) (caching : s.cacheEnabled = true)
    (order : now ≤ v.done) (encodable : v.call.Encodable) (unprinted : v.call.Unprinted s) :
    c.Transparent s v ∧ (c.visit v).Sound s v.done := by
  obtain ⟨rfl, lifetime, remembers⟩ := sound
  have unkeyed := Call.key?_of_unprinted encodable unprinted
  have absent : c.current? v = none := by
    unfold current?
    rw [unkeyed]
    rfl
  obtain ⟨q, source, lasting, accepted, n, member, long⟩ := id unprinted
  have digest := Snapshot.key_of_unwritable source member long (encodable q source lasting).1
  obtain ⟨wanted, wants, plans⟩ := Call.plan_of_lasting lasting
  have received : c.desk.receive v = (.error .unwritableNumber, c.desk.meet v) := by
    unfold Desk.receive
    rw [plans, Plan.browse_remembered caching wants, Plan.run_map,
      Plan.run_remembered_unkeyed accepted digest]
    rfl
  refine ⟨⟨?_, fun _ printed => absurd unprinted printed, fun _ => ?_⟩, ?_⟩
  · intro e current
    rw [absent] at current
    cases current
  · rw [received]
    exact ⟨absent, rfl, rfl⟩
  · rw [visit, received, execution?_of_unkeyed unkeyed]
    exact ⟨rfl, lifetime, remembers.later order⟩

section Keyed

variable {q : Sql.Query} {source : Option Text} {key : Text} {wanted : Option Bool} {grid : Grid}

theorem printed_of_keyed {P : Prop} (encodable : v.call.Encodable)
    (keyed : v.call.key? s = some key) (unprinted : v.call.Unprinted s) : P := by
  rw [Call.key?_of_unprinted encodable unprinted] at keyed
  cases keyed

theorem Sound.lookUp_fst (sound : c.Sound s now) (order : now ≤ v.now)
    (keyed : v.call.key? s = some key) :
    ((c.desk.meet v).lookUp key).1 = (c.current? v).map (·.grid) := by
  obtain ⟨rfl, lifetime, remembers⟩ := sound
  have known := remembers v.now order key
  rw [lifetime] at known
  have looked : ((c.desk.meet v).lookUp key).1 =
      (c.desk.store.lookup v.now key).1.map (·.result) := rfl
  rw [looked, Snapshot.Store.lookup_fst, known]
  simp [current?, keyed]

theorem Sound.lookUp_snd (sound : c.Sound s now) (order : now ≤ v.now) (key : Text) :
    ((c.desk.meet v).lookUp key).2.store.Remembers c.executions v.now ∧
      ((c.desk.meet v).lookUp key).2.store.lifetime = .whole s.cacheSeconds :=
  ⟨(sound.remembers.later order).lookup key,
    (Snapshot.Store.lifetime_lookup _ _ _).trans sound.lifetime⟩

theorem Sound.visit_found (sound : c.Sound s now) (order : now ≤ v.now) (passing : v.now ≤ v.done)
    (keyed : v.call.key? s = some key) (encodable : v.call.Encodable)
    (lasting : v.call.lasting? = some (q, source)) {e : Snapshot.Execution}
    (current : c.current? v = some e) (received : c.desk.receive v =
      (.ok (v.call.answerFrom e.grid), ((c.desk.meet v).lookUp key).2)) :
    c.Transparent s v ∧ (c.visit v).Sound s v.done := by
  obtain ⟨remembers, lifetime⟩ := sound.lookUp_snd order key
  have engine : ((c.desk.meet v).lookUp key).2.engine = v.engine := rfl
  have executed : c.desk.execution? v = none := by
    cases keyed : v.call.key? c.desk.settings <;>
      simp [Desk.execution?, keyed, received, Except.toOption, engine]
  refine ⟨⟨?_, ?_, printed_of_keyed encodable keyed⟩, ?_, ?_, ?_⟩
  · intro other same
    rw [current] at same
    cases same
    rw [received]
    exact ⟨engine, _, rfl, Call.conveys_answerFrom lasting e.grid⟩
  · intro absent
    rw [current] at absent
    cases absent
  · rw [visit, received]
    exact sound.settings
  · rw [visit, received]
    exact lifetime
  · rw [visit, received, executed]
    exact remembers.later passing

theorem Sound.visit_failed (sound : c.Sound s now) (order : now ≤ v.now) (passing : v.now ≤ v.done)
    {failure : Failure} {after : Desk} (received : c.desk.receive v = (.error failure, after))
    (store : after.store = ((c.desk.meet v).lookUp key).2.store)
    (settings : after.settings = c.desk.settings) : (c.visit v).Sound s v.done := by
  obtain ⟨remembers, lifetime⟩ := sound.lookUp_snd order key
  have executed : c.desk.execution? v = none := by
    simp [Desk.execution?, received, Except.toOption]
  refine ⟨?_, ?_, ?_⟩
  · rw [visit, received]
    exact settings.trans sound.settings
  · rw [visit, received]
    exact (congrArg _ store).trans lifetime
  · rw [visit, received, executed]
    exact store ▸ remembers.later passing

theorem Sound.visit_answered (sound : c.Sound s now) (order : now ≤ v.now)
    (passing : v.now ≤ v.done) (keyed : v.call.key? s = some key) {after : Desk}
    (received : c.desk.receive v = (.ok (v.call.answerFrom grid), after))
    (log : v.engine.log.length < after.engine.log.length) {e : Snapshot.Entry Grid}
    (kept : ((c.desk.meet v).lookUp key).2.store.keep v.done ⟨key, q.sql, grid, source⟩ none =
      .ok (e, after.store))
    (settings : after.settings = c.desk.settings) : (c.visit v).Sound s v.done := by
  obtain ⟨remembers, lifetime⟩ := sound.lookUp_snd order key
  have executed : c.desk.execution? v = some ⟨key, v.done, grid⟩ := by
    simp [Desk.execution?, sound.settings, keyed, received, Except.toOption, log]
  refine ⟨?_, ?_, ?_⟩
  · rw [visit, received]
    exact settings.trans sound.settings
  · rw [visit, received]
    obtain ⟨expires, _, _, store⟩ := Snapshot.Store.keep_eq_ok_iff.mp kept
    rw [store]
    exact lifetime
  · rw [visit, received, executed]
    exact (remembers.later passing).keep kept

theorem Sound.visit_sent (sound : c.Sound s now) (order : now ≤ v.now) (passing : v.now ≤ v.done)
    (representable : ∃ expires, v.done.after (.whole s.cacheSeconds) = .ok expires)
    (encodable : v.call.Encodable) (keyed : v.call.key? s = some key) (absent : c.current? v = none)
    (accepted : Guard.check s.policy .general q.sql = .ok ())
    (digest : Snapshot.key q source = .ok key)
    (plan : v.call.plan s = v.call.answerFrom <$> Plan.remembered s q source)
    (plain : v.call.plan s.uncached = v.call.answerFrom <$> Plan.fresh s q s.previewMaxRows) :
    c.Transparent s v ∧ (c.visit v).Sound s v.done := by
  have unknown : ((c.desk.meet v).lookUp key).1 = none := by
    rw [sound.lookUp_fst order keyed, absent]
    rfl
  have received : c.desk.receive v =
      (v.call.answerFrom <$> Plan.remembered s q source).run (c.desk.meet v) := by
    unfold Desk.receive
    rw [sound.settings, plan]
  have plainly : (Desk.start s.uncached v.engine v.now).receive v =
      (v.call.answerFrom <$> Plan.fresh s q s.previewMaxRows).run
        ((Desk.start s.uncached v.engine v.now).meet v) := by
    rw [← plain]
    rfl
  rw [Plan.run_map] at received plainly
  -- The statement finds the same engine at both desks.
  have alike := (Plan.every_isStatement_fresh s q s.previewMaxRows).run_congr
    (d := ((c.desk.meet v).lookUp key).2) (e := (Desk.start s.uncached v.engine v.now).meet v) rfl
  have transparent : (c.desk.receive v).1 = ((Plan.fresh s q s.previewMaxRows).run
      ((c.desk.meet v).lookUp key).2).1.map v.call.answerFrom → (c.desk.receive v).2.engine =
      ((Plan.fresh s q s.previewMaxRows).run ((c.desk.meet v).lookUp key).2).2.engine →
      c.Transparent s v := by
    intro outcome engine
    refine ⟨fun e current => ?_, fun _ _ => ?_, printed_of_keyed encodable keyed⟩
    · rw [absent] at current
      cases current
    · rw [plainly, outcome, engine, alike.1, alike.2]
      exact ⟨rfl, rfl⟩
  cases ran : (Plan.fresh s q s.previewMaxRows).run ((c.desk.meet v).lookUp key).2 with
  | mk outcome after =>
  obtain ⟨store, settings⟩ := Plan.run_fresh_frame ran
  rw [ran] at transparent
  cases outcome with
  | error failure =>
    rw [Plan.run_remembered_error accepted digest unknown ran] at received
    refine ⟨transparent ?_ ?_, sound.visit_failed order passing received store settings⟩ <;>
      rw [received]
  | ok grid =>
    have ends : ∃ expires,
        (c.desk.meet v).awaited.after (c.desk.meet v).store.lifetime = .ok expires := by
      rw [show (c.desk.meet v).store.lifetime = _ from sound.lifetime]
      exact representable
    obtain ⟨e, kept, holds, remembered⟩ :=
      Plan.run_remembered_ok accepted digest unknown ends ran
    rw [remembered] at received
    have log := Plan.log_run_fresh (congrArg Prod.fst ran)
    rw [ran] at log
    have longer : v.engine.log.length < after.engine.log.length :=
      Nat.lt_of_lt_of_eq (Nat.lt_succ_self _) log.symm
    refine ⟨transparent ?_ ?_,
      sound.visit_answered order passing keyed received longer holds settings⟩ <;> rw [received]

end Keyed

theorem Sound.visit (sound : c.Sound s now) (caching : s.cacheEnabled = true) (order : now ≤ v.now)
    (passing : v.now ≤ v.done)
    (representable : ∃ expires, v.done.after (.whole s.cacheSeconds) = .ok expires)
    (encodable : v.call.Encodable) : c.Transparent s v ∧ (c.visit v).Sound s v.done := by
  have later := Instant.le_trans order passing
  cases keyed : v.call.key? s with
  | none =>
    by_cases printed : v.call.Unprinted s
    · exact sound.visit_unprinted caching later encodable printed
    · exact sound.visit_unkeyed later encodable printed keyed
  | some key =>
    obtain ⟨q, source, lasting, accepted, digest⟩ := Call.key?_eq_some keyed
    obtain ⟨wanted, wants, plans⟩ := Call.plan_of_lasting lasting
    have plan := plans s
    rw [Plan.browse_remembered caching wants] at plan
    cases current : c.current? v with
    | none =>
      exact sound.visit_sent order passing representable encodable keyed current accepted digest plan
        (plans s.uncached)
    | some e =>
      have found : ((c.desk.meet v).lookUp key).1 = some e.grid := by
        rw [sound.lookUp_fst order keyed, current]
        rfl
      refine sound.visit_found order passing keyed encodable lasting current ?_
      unfold Desk.receive
      rw [sound.settings, plan, Plan.run_map, Plan.run_remembered_found accepted digest found]
      rfl

theorem Sound.run (sound : c.Sound s now) (caching : s.cacheEnabled = true) {visits : List Visit}
    (begun : ∀ w ∈ visits, now ≤ w.now) (passing : ∀ w ∈ visits, w.now ≤ w.done)
    (ordered : visits.Pairwise fun w x => w.done ≤ x.now)
    (representable : ∀ w ∈ visits, ∃ expires, w.done.after (.whole s.cacheSeconds) = .ok expires)
    (encodable : ∀ w ∈ visits, w.call.Encodable) {earlier later : List Visit}
    (place : visits = earlier ++ v :: later) : (c.after earlier).Transparent s v := by
  induction visits generalizing c now earlier with
  | nil => cases earlier <;> cases place
  | cons w rest ih =>
    obtain ⟨ahead, ordered⟩ := List.pairwise_cons.mp ordered
    obtain ⟨passes, passing⟩ := List.forall_mem_cons.mp passing
    obtain ⟨ends, representable⟩ := List.forall_mem_cons.mp representable
    obtain ⟨plain, encodable⟩ := List.forall_mem_cons.mp encodable
    have visited := sound.visit caching (begun w List.mem_cons_self) passes ends plain
    cases earlier with
    | nil => cases place; exact visited.1
    | cons x earlier =>
      obtain ⟨rfl, tail⟩ := List.cons.inj place
      exact ih visited.2 ahead passing ordered representable encodable tail

end Chronicle

/-- Keeping results is transparent over whole runs. At a desk that keeps results, with a clock that
    never goes back, a call whose statement has been executed before is answered from the latest
    execution, and sends nothing, while that is current; every other call sends the same and is
    answered the same as at a desk that keeps none, or cannot be given a key. -/
theorem Chronicle.every_visit_transparent {s : Settings} (caching : s.cacheEnabled = true)
    (engine : Engine) (opened : Instant) {visits : List Visit}
    (passing : ∀ v ∈ visits, v.now ≤ v.done) (ordered : visits.Pairwise fun v w => v.done ≤ w.now)
    (representable : ∀ v ∈ visits, (v.done.after (.whole s.cacheSeconds)).isOk = true)
    (encodable : ∀ v ∈ visits, v.call.Encodable) (earlier later : List Visit) (v : Visit)
    (place : visits = earlier ++ v :: later) :
    ((start s engine opened).after earlier).Transparent s v := by
  cases visits with
  | nil => cases earlier <;> cases place
  | cons first rest =>
    have passes := passing first List.mem_cons_self
    have begun : ∀ w ∈ first :: rest, first.now ≤ w.now := by
      refine List.forall_mem_cons.mpr ⟨Nat.le_refl _, fun w member => ?_⟩
      exact Instant.le_trans passes ((List.pairwise_cons.mp ordered).1 w member)
    have sound : (start s engine opened).Sound s first.now :=
      ⟨rfl, rfl, Snapshot.Store.remembers_ofLifetime _ _⟩
    have ends := fun w member => exists_of_isOk (representable w member)
    exact sound.run caching begun passing ordered ends encodable place

theorem Chronicle.every_visit_transparent_until_expiry :
    let s : Settings := { Settings.default with cacheEnabled := true }
    let replying (n : Int) : Engine := .ofScript [.rows (.ofList [.text "n"] [[.int n]] none)]
    let visit (n : Int) (now done : Instant) : Visit :=
      ⟨.query ⟨"SELECT 1", none, none⟩, replying n, now, done⟩
    let begun : Instant := ⟨0, by decide⟩
    let sent : Instant := ⟨1, by decide⟩
    let soon : Instant := ⟨300000000, by decide⟩
    let late : Instant := ⟨300000001, by decide⟩
    let c := (start s (.ofScript []) begun).after [visit 1 begun sent]
    (c.current? (visit 2 soon soon)).isSome = true ∧ c.Transparent s (visit 2 soon soon) ∧
      c.current? (visit 2 late late) = none ∧ c.Transparent s (visit 2 late late) := by
  intro s replying visit begun sent soon late c
  have encodable (n : Int) (now done : Instant) : (visit n now done).call.Encodable := by
    intro q source lasting
    cases lasting
    exact ⟨by decide +kernel, by decide +kernel⟩
  have ends : sent.after (.whole s.cacheSeconds) = .ok late := by decide +kernel
  have once_kept : (sent.after (.whole s.cacheSeconds)).isOk = true := congrArg Except.isOk ends
  have transparent (now : Instant) (order : sent ≤ now)
      (representable : (now.after (.whole s.cacheSeconds)).isOk = true) :
      c.Transparent s (visit 2 now now) := by
    have passing : ∀ v ∈ [visit 1 begun sent, visit 2 now now], v.now ≤ v.done :=
      List.forall_mem_cons.mpr
        ⟨show begun ≤ sent by decide, List.forall_mem_singleton.mpr (Nat.le_refl _)⟩
    have ordered : [visit 1 begun sent, visit 2 now now].Pairwise fun v w => v.done ≤ w.now := by
      refine List.pairwise_cons.mpr ⟨?_, List.pairwise_singleton _ _⟩
      rintro w member
      cases List.mem_singleton.mp member
      exact order
    exact every_visit_transparent rfl (.ofScript []) begun passing ordered
      (List.forall_mem_cons.mpr ⟨once_kept, List.forall_mem_singleton.mpr representable⟩)
      (List.forall_mem_cons.mpr
        ⟨encodable _ _ _, List.forall_mem_singleton.mpr (encodable _ _ _)⟩)
      [visit 1 begun sent] [] (visit 2 now now) rfl
  -- The digest that the key is stays closed.
  obtain ⟨key, keyed⟩ : ∃ key, ∀ n now done, (visit n now done).call.key? s = some key :=
    ⟨Sha256.hexDigest ((Snapshot.keyBytes (.plain "SELECT 1") none).toOption.getD []),
      fun _ _ _ => rfl⟩
  have first : (start s (.ofScript []) begun).Transparent s (visit 1 begun sent) := by
    have passing : ∀ v ∈ [visit 1 begun sent], v.now ≤ v.done :=
      List.forall_mem_singleton.mpr (show begun ≤ sent by decide)
    exact every_visit_transparent rfl (.ofScript []) begun passing (List.pairwise_singleton _ _)
      (List.forall_mem_singleton.mpr once_kept) (List.forall_mem_singleton.mpr (encodable _ _ _))
      [] [] (visit 1 begun sent) rfl
  have printed : ¬ (visit 1 begun sent).call.Unprinted s := by
    rintro ⟨q, source, lasting, -, n, member, -⟩
    cases lasting
    cases member
  obtain ⟨answered, engine⟩ := first.otherwise (current?_start _ _ _ _) printed
  have settings : (start s (.ofScript []) begun).desk.settings = s := rfl
  have once (v : Visit) : ((start s (.ofScript []) begun).after [v]).executions =
      ((start s (.ofScript []) begun).desk.execution? v).toList ++ [] := rfl
  obtain ⟨grid, executed⟩ : ∃ grid, c.executions = [⟨key, sent, grid⟩] := by
    refine ⟨⟨[Text.ofString "n"], [[.int 1]], false, by decide⟩, (once _).trans ?_⟩
    unfold Desk.execution?
    rw [answered, engine, settings, keyed]
    rfl
  have still (v : Visit) : ((start s (.ofScript []) begun).after [v]).desk.settings = s :=
    Plan.settings_run _ _
  have current (now : Instant) : c.current? (visit 2 now now) =
      if now < late then some ⟨key, sent, grid⟩ else none := by
    unfold current?
    rw [still (visit 1 begun sent), keyed, executed]
    simp only [Option.bind_some]
    refine Snapshot.current?_cons_self.trans ?_
    simp only [Snapshot.Execution.isCurrent, ends, decide_eq_true_eq]
    rfl
  refine ⟨?_, transparent soon (by decide) (by decide +kernel), ?_,
    transparent late (by decide) (by decide +kernel)⟩
  · rw [current, if_pos (by decide)]
    rfl
  · rw [current, if_neg (by decide)]

/-- An aggregation that is sent where nothing is kept fails where results are kept, if it compares a
    column with an integer that is too long to be printed. -/
theorem Chronicle.visit_unprinted : ¬ ∀ (s : Settings) (engine : Engine) (opened : Instant) (v : Visit),
    s.cacheEnabled = true → v.now ≤ v.done → (v.done.after (.whole s.cacheSeconds)).isOk = true →
    v.call.Encodable → (start s engine opened).current? v = none →
      ((start s engine opened).desk.receive v).1 =
        ((Desk.start s.uncached v.engine v.now).receive v).1 := by
  intro same
  let s : Settings := { Settings.default with cacheEnabled := true }
  let r : AggregationRequest :=
    ⟨"a", [⟨"x", "sum", none⟩], none, some [("y", .int Whole.bound)], none, none⟩
  let q : Sql.Query := ⟨"SELECT SUM(x) AS sum_x FROM data_source_a WHERE y = ?", [.int Whole.bound]⟩
  let begun : Instant := ⟨0, by decide⟩
  let v : Visit := ⟨.aggregation r, .ofScript [], begun, begun⟩
  have lasting : v.call.lasting? = some (q, some r.source) := rfl
  have accepted : Guard.check s.policy .general q.sql = .ok () := by
    have passes : (Guard.check s.policy .general q.sql).isOk = true := by decide +kernel
    obtain ⟨_, checked⟩ := exists_of_isOk passes
    exact checked
  have encodable : v.call.Encodable := by
    intro other source kept
    rw [lasting] at kept
    cases kept
    exact ⟨by decide +kernel, by decide +kernel⟩
  have unprinted : v.call.Unprinted s :=
    ⟨q, _, lasting, accepted, Whole.bound, List.mem_cons_self, Whole.not_writable_bound⟩
  have representable : (v.done.after (.whole s.cacheSeconds)).isOk = true := by decide +kernel
  have sound : (start s v.engine begun).Sound s begun :=
    ⟨rfl, rfl, Snapshot.Store.remembers_ofLifetime _ _⟩
  have fails := ((sound.visit_unprinted rfl (Nat.le_refl _) encodable unprinted).1.unprinted
    unprinted).2.1
  have equal := same s v.engine begun v rfl (Nat.le_refl _) representable encodable
    (current?_start _ _ _ _)
  have answers : ((Desk.start s.uncached v.engine v.now).receive v).1.isOk = true := by
    decide +kernel
  rw [← equal, fails] at answers
  cases answers

end QueryDesk
