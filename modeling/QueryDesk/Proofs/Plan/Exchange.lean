import QueryDesk.Proofs.Grid.Shapes
import QueryDesk.Proofs.Plan.Contract

namespace QueryDesk

structure Exchange where
  job : Job
  reply : Reply

namespace Exchange

def outcome (x : Exchange) : Except Failure Pull := (x.job.reading.answer x.reply).2

def sent (x : Exchange) : Sent :=
  ⟨x.job.statement.text,
    if x.job.statement.params.isEmpty then none else some x.job.statement.params,
    (x.job.reading.answer x.reply).1⟩

end Exchange

def Sql.Query.asked (q : Sql.Query) (cap : Int) (reply : Reply) : Exchange :=
  ⟨⟨q.statement, .upTo cap, true⟩, reply⟩

def Exchange.each (cap : Int) (queries : List Sql.Query) (replies : List Reply) : List Exchange :=
  List.zipWith (·.asked cap ·) queries replies

/-- A query as the engine received it, with no more than so many fetches. -/
structure Sent.Of (q : Sql.Query) (most : Nat) (sent : Sent) : Prop where
  sql : sent.sql = .text q.sql
  params : sent.params = if q.params.isEmpty then none else some q.params
  fetches : sent.fetches ≤ most

structure Engine.Replying (e : Engine) (replies : List Reply) : Prop where
  isOpen : e.closed = false
  next : ∀ k reply, replies[k]? = some reply → e.script.getD k (.rows .none) = reply

theorem Engine.replying_ofScript (replies : List Reply) :
    (Engine.ofScript replies).Replying replies :=
  ⟨rfl, fun k reply there => by simp [ofScript, there]⟩

theorem Engine.Replying.of_prefix {e : Engine} {replies first : List Reply}
    (replying : e.Replying replies) (begins : first <+: replies) : e.Replying first := by
  obtain ⟨rest, rfl⟩ := begins
  refine ⟨replying.isOpen, fun k reply there => replying.next k reply ?_⟩
  rw [List.getElem?_append_left (List.getElem?_eq_some_iff.mp there).1]
  exact there

theorem Engine.Replying.perform {e : Engine} {reply : Reply} {replies : List Reply}
    (replying : e.Replying (reply :: replies)) (job : Job) :
    (e.perform job).1 = (Exchange.mk job reply).outcome ∧
      (e.perform job).2.log = (Exchange.mk job reply).sent :: e.log ∧
      (e.perform job).2.Replying replies := by
  have first : e.nextReply = reply := e.getD_script_zero.symm.trans (replying.next 0 reply rfl)
  have exchanged : e.exchange job = job.reading.answer reply := by
    simp [exchange, replying.isOpen, first]
  have performed : e.perform job = ((Exchange.mk job reply).outcome,
      { e with script := e.script.tail, log := (Exchange.mk job reply).sent :: e.log }) := by
    simp [Engine.perform, exchanged, replying.isOpen, Exchange.outcome, Exchange.sent]
  rw [performed]
  refine ⟨rfl, rfl, replying.isOpen, fun k other there => ?_⟩
  rw [← replying.next (k + 1) other there]
  cases e.script <;> simp

namespace Plan

variable {α β : Type}

inductive Leads : Plan α → List Exchange → Except Failure α → Prop
  | done (outcome : Except Failure α) : Leads (.done outcome) [] outcome
  | statement {job : Job} {next : Except Failure Pull → Plan α} (reply : Reply)
      {rest : List Exchange} {outcome : Except Failure α}
      (later : Leads (next (Exchange.mk job reply).outcome) rest outcome) :
      Leads (.statement job next) (⟨job, reply⟩ :: rest) outcome

variable {p : Plan α} {xs ys : List Exchange} {outcome : Except Failure α}

theorem Leads.andThen {next : Except Failure α → Plan β} {last : Except Failure β}
    (leads : p.Leads xs outcome) (later : (next outcome).Leads ys last) :
    (p.andThen next).Leads (xs ++ ys) last := by
  induction leads with
  | done outcome => exact later
  | statement reply _ ih => exact .statement reply (ih later)

theorem Leads.bind {a : α} {next : α → Plan β} {last : Except Failure β}
    (leads : p.Leads xs (.ok a)) (later : (next a).Leads ys last) :
    (p >>= next).Leads (xs ++ ys) last :=
  leads.andThen later

theorem Leads.bind_error {failure : Failure} {next : α → Plan β}
    (leads : p.Leads xs (.error failure)) : (p >>= next).Leads xs (.error failure) := by
  have both : (p >>= next).Leads (xs ++ []) (.error failure) :=
    leads.andThen (.done (.error failure))
  rwa [List.append_nil] at both

theorem Leads.bind_done {a : α} {f : α → Except Failure β} (leads : p.Leads xs (.ok a)) :
    (p >>= fun a => .done (f a)).Leads xs (f a) := by
  have both : (p >>= fun a => .done (f a)).Leads (xs ++ []) (f a) := leads.bind (.done (f a))
  rwa [List.append_nil] at both

theorem Leads.map (leads : p.Leads xs outcome) (f : α → β) :
    (f <$> p).Leads xs (outcome.map f) := by
  cases outcome with
  | ok a => exact leads.bind_done
  | error failure => exact leads.bind_error

theorem Leads.run (leads : p.Leads xs outcome) {d : Desk}
    (replying : d.engine.Replying (xs.map (·.reply))) : ∃ after, p.run d = (outcome, after) ∧
      after.engine.statements = d.engine.statements ++ xs.map Exchange.sent := by
  induction leads generalizing d with
  | done outcome => exact ⟨d, rfl, (List.append_nil _).symm⟩
  | @statement job next reply rest outcome _ ih =>
    obtain ⟨answered, log, others⟩ := Engine.Replying.perform replying job
    obtain ⟨after, ran, statements⟩ := ih (d := (d.perform job).2) others
    refine ⟨after, ?_, ?_⟩
    · rw [← ran, ← answered]
      rfl
    · have longer : (d.perform job).2.engine.statements =
          d.engine.statements ++ [(Exchange.mk job reply).sent] := by
        rw [Engine.statements, show (d.perform job).2.engine.log = _ from log, List.reverse_cons]
        rfl
      rw [statements, longer, List.append_assoc]
      rfl

end Plan

/-- A reply with these first rows, up to a cap, and no failure up to the fetch after them. -/
def Reply.Reads (reply : Reply) (cap : Nat) (columns : List Datum) (rows : List (List Datum)) :
    Prop :=
  ∃ c, reply = .rows c ∧ c.columns = columns ∧ c.FirstRows cap rows ∧
    ∀ fault, c.fetch rows.length ≠ .failed fault

/-- A reply whose first rows, up to a cap, make a grid: its columns are named, the rows are as wide as
    the names are many, and their cells have values. -/
structure Reply.Tabulates (reply : Reply) (cap : Nat) (names : List Text)
    (rows : List (List Datum)) : Prop where
  read : reply.Reads cap (names.map .text) rows
  even : ∀ cells ∈ rows, cells.length = names.length
  sound : ∀ cells ∈ rows, ∀ cell ∈ cells, cell.isSignalling = false

structure Reply.Holds (reply : Reply) (names : List Text) (rows : List (List Datum)) : Prop where
  read : ∃ c, reply = .rows c ∧ c.columns = names.map .text ∧
    (∀ k cells, rows[k]? = some cells → c.fetch k = .row cells) ∧ c.fetch rows.length = .finished
  even : ∀ cells ∈ rows, cells.length = names.length
  sound : ∀ cells ∈ rows, ∀ cell ∈ cells, cell.isSignalling = false

/-- The engine fails a statement, at once or at one of the fetches up to the one after the first
    rows. -/
inductive Reply.Fails : Reply → (cap : Nat) → EngineFault → Prop
  | execute {cap : Nat} (fault : EngineFault) : Fails (.fault fault) cap fault
  | fetch {c : Cursor} {cap : Nat} {rows : List (List Datum)} {fault : EngineFault}
      (first : c.FirstRows cap rows) (failed : c.fetch rows.length = .failed fault) :
      Fails (.rows c) cap fault

structure Grid.IsOf (names : List Text) (rows : List (List Datum)) (g : Grid) : Prop where
  columns : g.columns = names
  rows : g.rows = rows.map (·.map Datum.value)

theorem Grid.IsOf.records {names : List Text} {rows : List (List Datum)} {g : Grid}
    (made : IsOf names rows g) : g.records = rows.map (Record.ofCells names) := by
  rw [Grid.records, made.columns, made.rows, List.map_map]
  rfl

section Reading

variable {reply : Reply} {cap : Nat} {names : List Text} {rows : List (List Datum)}

theorem Reading.answer_fetches_le (cap : Nat) (reply : Reply) :
    (answer (.upTo cap) reply).1 ≤ cap + 1 := by
  cases reply with
  | fault fault => exact Nat.zero_le _
  | rows c =>
    simp only [answer, run]
    split
    · exact Nat.zero_le _
    split
    · exact Nat.zero_le _
    obtain ⟨rows, first, fetches, -⟩ := readUpTo_eq c (cap : Int).toNat
    rw [fetches]
    exact Nat.succ_le_succ first.bound

theorem Reply.holds_ofList (names : List Text) (rows : List (List Datum))
    (even : ∀ cells ∈ rows, cells.length = names.length)
    (sound : ∀ cells ∈ rows, ∀ cell ∈ cells, cell.isSignalling = false) :
    Holds (.rows (.ofList (names.map .text) rows none)) names rows := by
  refine ⟨⟨_, rfl, rfl, fun k cells there => ?_, ?_⟩, even, sound⟩
  · simp [Cursor.ofList, there]
  · simp [Cursor.ofList]

theorem Reply.reads_ofList (columns : List Datum) (few : rows.length ≤ cap) :
    Reads (.rows (.ofList columns rows none)) cap columns rows := by
  refine ⟨_, rfl, rfl, ⟨few, fun k cells there => ?_, fun _ cells given => ?_⟩,
    fun fault failed => ?_⟩
  · simp [Cursor.ofList, there]
  · simp [Cursor.ofList] at given
  · simp [Cursor.ofList] at failed

theorem Reply.Holds.tabulates (holds : reply.Holds names rows) (cap : Nat) :
    reply.Tabulates cap names (rows.take cap) := by
  obtain ⟨c, rfl, columns, row, finished⟩ := holds.read
  have members {cells : List Datum} (member : cells ∈ rows.take cap) : cells ∈ rows :=
    List.mem_of_mem_take member
  refine ⟨⟨c, rfl, columns, ⟨List.length_take_le cap rows, fun k cells there => ?_, ?_⟩, ?_⟩,
    fun cells member => holds.even cells (members member),
    fun cells member => holds.sound cells (members member)⟩
  · rw [List.getElem?_take] at there
    split at there
    · exact row k cells there
    · cases there
  · intro fewer cells given
    rw [List.length_take] at fewer given
    rw [Nat.min_eq_right (by omega), finished] at given
    cases given
  · intro fault failed
    rw [List.length_take] at failed
    rcases Nat.lt_or_ge cap rows.length with more | all
    · rw [Nat.min_eq_left (Nat.le_of_lt more), row cap _ (List.getElem?_eq_getElem more)] at failed
      cases failed
    · rw [Nat.min_eq_right all, finished] at failed
      cases failed

theorem Reply.Holds.tabulates_of_le (holds : reply.Holds names rows) (few : rows.length ≤ cap) :
    reply.Tabulates cap names rows := by
  have first := holds.tabulates cap
  rwa [List.take_of_length_le few] at first

theorem Sql.Query.sent_asked (q : Sql.Query) (cap : Nat) (reply : Reply) :
    (q.asked cap reply).sent.Of q (cap + 1) :=
  ⟨rfl, rfl, Reading.answer_fetches_le cap reply⟩

theorem Exchange.reply_each (cap : Int) {queries : List Sql.Query} {replies : List Reply}
    (length : replies.length = queries.length) :
    (each cap queries replies).map (·.reply) = replies := by
  rw [each, List.map_zipWith]
  have zipped := List.map_snd_zip (Nat.le_of_eq length)
  rwa [List.zip, List.map_zipWith] at zipped

theorem Exchange.sent_each {cap : Nat} {queries : List Sql.Query} {replies : List Reply}
    (length : replies.length = queries.length) :
    List.Forall₂ (fun q sent => Sent.Of q (cap + 1) sent) queries
      ((each cap queries replies).map Exchange.sent) := by
  induction queries generalizing replies with
  | nil => exact .nil
  | cons q rest ih =>
    cases replies with
    | nil => cases length
    | cons reply replies => exact .cons (q.sent_asked cap reply) (ih (Nat.succ.inj length))

theorem Reply.Tabulates.answer_eq (tabulates : reply.Tabulates cap names rows)
    (fits : cap ≤ Reading.greatestCap) : ∃ more, (Reading.answer (.upTo cap) reply).2 =
      .ok ⟨names.map .text, rows, more⟩ := by
  obtain ⟨c, rfl, columns, first, sound⟩ := tabulates.read
  obtain ⟨others, second, -, -, goes⟩ := Reading.readUpTo_eq c cap
  cases first.unique second
  obtain ⟨more, read, -⟩ := goes sound
  rw [columns] at read
  rw [Reading.answer, Reading.run_upTo c fits]
  exact ⟨more, read⟩

theorem Reply.Tabulates.exists_grid (tabulates : reply.Tabulates cap names rows) (more : Bool) :
    ∃ g, Pull.grid ⟨names.map .text, rows, more⟩ = .ok g ∧ Grid.IsOf names rows g := by
  have converts (cells : List Datum) (member : cells ∈ rows) :
      Value.ofRow cells = .ok (cells.map Datum.value) := by
    refine mapM_eq_ok.mpr (List.forall₂_map_right_iff.mpr (List.forall₂_same.mpr ?_))
    exact fun cell inside => Value.ofCell_eq (tabulates.sound cells member cell inside)
  obtain ⟨g, made⟩ : ∃ g, Pull.grid ⟨names.map .text, rows, more⟩ = .ok g :=
    Pull.exists_grid_iff.mpr fun cells member =>
      ⟨tabulates.even cells member, _, converts cells member⟩
  obtain ⟨columns, mapped, -⟩ := Pull.grid_texts_eq_ok.mp made
  refine ⟨g, made, columns.symm, ?_⟩
  have same : rows.mapM Value.ofRow = .ok (rows.map (·.map Datum.value)) :=
    mapM_eq_ok.mpr (List.forall₂_map_right_iff.mpr (List.forall₂_same.mpr converts))
  exact Except.ok.inj (mapped.symm.trans same)

theorem Reply.Fails.answer_eq {fault : EngineFault} (fails : reply.Fails cap fault)
    (fits : cap ≤ Reading.greatestCap) :
    (Reading.answer (.upTo cap) reply).2 = .error (.engine fault) := by
  cases fails with
  | execute => rfl
  | @fetch c _ rows _ first failed =>
    obtain ⟨others, second, -, stops, -⟩ := Reading.readUpTo_eq c cap
    cases first.unique second
    rw [Reading.answer, Reading.run_upTo c fits]
    exact stops fault failed

end Reading

namespace Order

variable {o : Order} {policy : Guard.Policy} {cap : Nat} {reply : Reply} {names : List Text}
  {rows : List (List Datum)}

theorem leads_grid (accepted : o.check policy = .ok ()) (reply : Reply) :
    (o.grid policy).Leads [⟨o.job, reply⟩] ((Exchange.mk o.job reply).outcome >>= Pull.grid) := by
  unfold grid pull
  rw [accepted, Plan.lift_ok_bind]
  refine .statement reply ?_
  cases (Exchange.mk o.job reply).outcome with
  | ok pull => exact .done pull.grid
  | error failure => exact .done (.error failure)

theorem leads_grid_ok (accepted : o.check policy = .ok ()) (reading : o.reading = .upTo cap)
    (fits : cap ≤ Reading.greatestCap) (tabulates : reply.Tabulates cap names rows) :
    ∃ g, (o.grid policy).Leads [⟨o.job, reply⟩] (.ok g) ∧ Grid.IsOf names rows g := by
  obtain ⟨more, answered⟩ := tabulates.answer_eq fits
  obtain ⟨g, made, shape⟩ := tabulates.exists_grid more
  refine ⟨g, ?_, shape⟩
  have leads := leads_grid accepted reply
  have outcome : (Exchange.mk o.job reply).outcome = .ok ⟨names.map .text, rows, more⟩ := by
    rw [Exchange.outcome, ← answered, ← reading]
    rfl
  rw [outcome, show (Except.ok _ >>= Pull.grid) = .ok g from made] at leads
  exact leads

theorem leads_grid_error (accepted : o.check policy = .ok ()) (reading : o.reading = .upTo cap)
    (fits : cap ≤ Reading.greatestCap) {fault : EngineFault} (fails : reply.Fails cap fault) :
    (o.grid policy).Leads [⟨o.job, reply⟩] (.error (.engine fault)) := by
  have leads := leads_grid accepted reply
  have outcome : (Exchange.mk o.job reply).outcome = .error (.engine fault) := by
    rw [Exchange.outcome, ← fails.answer_eq fits, ← reading]
    rfl
  rwa [outcome] at leads

end Order

namespace Plan

variable {s : Settings} {q : Sql.Query} {cap : Nat} {reply : Reply} {names : List Text}
  {rows : List (List Datum)} {fault : EngineFault}

theorem leads_fresh (accepted : Guard.check s.policy .general q.sql = .ok ())
    (fits : cap ≤ Reading.greatestCap) (tabulates : reply.Tabulates cap names rows) :
    ∃ g, (fresh s q cap).Leads [q.asked cap reply] (.ok g) ∧ Grid.IsOf names rows g :=
  Order.leads_grid_ok (o := ⟨q.statement, .upTo cap, .general, true⟩) accepted rfl fits tabulates

theorem leads_fresh_error (accepted : Guard.check s.policy .general q.sql = .ok ())
    (fits : cap ≤ Reading.greatestCap) (fails : reply.Fails cap fault) :
    (fresh s q cap).Leads [q.asked cap reply] (.error (.engine fault)) :=
  Order.leads_grid_error (o := ⟨q.statement, .upTo cap, .general, true⟩) accepted rfl fits fails

theorem leads_catalog (s : Settings) (q : Sql.Query) (fits : cap ≤ Reading.greatestCap)
    (tabulates : reply.Tabulates cap names rows) :
    ∃ g, (catalog s q cap).Leads [q.asked cap reply] (.ok g) ∧ Grid.IsOf names rows g :=
  Order.leads_grid_ok (o := ⟨q.statement, .upTo cap, .general, false⟩) rfl rfl fits tabulates

theorem leads_catalog_beyond (s : Settings) (q : Sql.Query) (beyond : Reading.greatestCap < cap)
    (c : Cursor) : (catalog s q cap).Leads [q.asked cap (.rows c)] (.error .capBeyondWord) := by
  have leads : (catalog s q cap).Leads [q.asked cap (.rows c)]
      ((q.asked cap (.rows c)).outcome >>= Pull.grid) :=
    Order.leads_grid (o := ⟨q.statement, .upTo cap, .general, false⟩) rfl (.rows c)
  have answered : (Reading.answer (.upTo cap) (.rows c)).2 = .error .capBeyondWord := by
    rw [Reading.answer, Reading.run, if_neg (by omega), Int.toNat_natCast, if_pos beyond]
  rw [show (q.asked cap (.rows c)).outcome = .error .capBeyondWord from answered] at leads
  exact leads

end Plan

end QueryDesk
