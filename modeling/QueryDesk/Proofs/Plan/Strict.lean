import QueryDesk.Proofs.Grammar.Parser
import QueryDesk.Proofs.Plan.Streamed

namespace QueryDesk

theorem Reply.Mild.ends_answer {reply : Reply} (mild : reply.Mild) {cap : Nat}
    (fits : cap ≤ Reading.greatestCap) :
    Ends (fun failure => ∃ fault, failure = .engine fault ∧ fault.own = true)
      (fun pull => ∃ names : List Text, pull.columns = names.map .text ∧
        ∀ cells ∈ pull.rows, ∀ cell ∈ cells, cell.isSignalling = false)
      ((Reading.upTo cap).answer reply).2 := by
  cases mild with
  | @fault fault own => exact ⟨fault, rfl, own⟩
  | @rows c names columns own sound =>
    obtain ⟨rows, first, -, stops, goes⟩ := Reading.readUpTo_eq c cap
    rw [Reading.answer, Reading.run_upTo c fits]
    by_cases failing : ∃ fault, c.fetch rows.length = .failed fault
    · obtain ⟨fault, failed⟩ := failing
      rw [stops fault failed]
      exact ⟨fault, rfl, own _ fault failed⟩
    · obtain ⟨more, read, -⟩ := goes (not_exists.mp failing)
      rw [read]
      refine ⟨names, columns, fun cells member => ?_⟩
      obtain ⟨k, there⟩ := List.mem_iff_getElem?.mp member
      exact sound k cells (first.row k cells there)

namespace Plan

variable {d : Desk} {payload : Datum} {t : Text}

/-- An open connection under the strict guard whose engine answers mildly, and a cap on streamed rows
    that rows can be read up to. -/
structure StreamsStrictly (d : Desk) : Prop where
  strict : d.settings.strictGuard = true
  limit : ∃ cap : Nat, d.settings.streamMaxRows = cap ∧ cap ≤ Reading.greatestCap
  isOpen : d.engine.closed = false
  mild : d.engine.nextReply.Mild

variable (streams : StreamsStrictly d) (given : payload.statementText? = some (.ok t))

include streams

theorem strict_check_eq : (streamOrder d.settings (.text t)).check d.settings.policy =
    Guard.check (.kinds d.settings.parser) .readOnly t := by
  rw [Settings.policy_kinds streams.strict]
  rfl

include given

theorem run_stream_forbidden {refusal : Refusal}
    (verdict : Guard.Verdict d.settings.parser t (.error (.refused refusal))) :
    ((Call.stream payload).plan d.settings).run d =
      (.ok (.stream ⟨[], some refusal.message⟩), d) := by
  have refused := (strict_check_eq streams).trans (Guard.check_eq_iff.mpr verdict)
  exact run_stream_refused _ (run_streamed_unchecked _ (textOf_ok given) refused)

theorem run_stream_unreadable {failure : Failure} (full : t.isBlank = false)
    (unreadable : Guard.Unreadable d.settings.parser t failure) :
    ((Call.stream payload).plan d.settings).run d = (.error failure, d) := by
  have raised := (strict_check_eq streams).trans
    (Guard.check_eq_iff.mpr (.unreadable full unreadable))
  have ran := run_streamed_unchecked (d := d) _ (textOf_ok given) raised
  have outside : failure.isInBand = false := by cases unreadable <;> rfl
  show (Answer.stream <$> stream d.settings payload).run d = _
  rw [run_map]
  unfold stream
  rw [run_andThen, ran]
  simp only [outside, Bool.false_eq_true, if_false]
  rfl

theorem run_stream_accepted (verdict : Guard.Verdict d.settings.parser t (.ok ())) :
    ∃ report after, ((Call.stream payload).plan d.settings).run d =
      (.ok (.stream report), after) := by
  have accepted := (strict_check_eq streams).trans (Guard.check_eq_iff.mpr verdict)
  have ran := run_streamed_sent (d := d) d.settings (textOf_ok given) accepted
  obtain ⟨cap, limit, fits⟩ := streams.limit
  have exchanged : d.engine.exchange (streamOrder d.settings (.text t)).job =
      (Reading.upTo cap).answer d.engine.nextReply := by
    simp only [Engine.exchange, streams.isOpen, ← limit]
    rfl
  have ends := streams.mild.ends_answer fits
  rw [← exchanged] at ends
  cases outcome : (d.engine.exchange (streamOrder d.settings (.text t)).job).2 with
  | error failure =>
    rw [outcome] at ends ran
    obtain ⟨fault, rfl, own⟩ := ends
    exact ⟨_, _, run_stream_failed _ own ran⟩
  | ok pull =>
    rw [outcome] at ends ran
    obtain ⟨columns, rows, more⟩ := pull
    obtain ⟨names, rfl, sound⟩ := ends
    have made : ((Except.ok ⟨names.map .text, rows, more⟩ : Except Failure Pull) >>= Pull.records) =
        .ok (rows.map fun cells => (Record.ofCells names cells).keyed) := Pull.records_eq sound
    rw [made] at ran
    exact ⟨_, _, run_stream_read _ ran⟩

end Plan

end QueryDesk
