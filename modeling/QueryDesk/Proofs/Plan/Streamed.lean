import QueryDesk.Call
import QueryDesk.Proofs.Engine.Reading
import QueryDesk.Proofs.Grid.Record
import QueryDesk.Proofs.Guard.Keyword
import QueryDesk.Proofs.Plan.Ordered
import QueryDesk.Snapshot.Session

namespace QueryDesk

/-- The text of a payload, or why it has none; other data is no payload. -/
def Datum.statementText? : Datum → Option (Except Utf8.DecodeFault Text)
  | .text t => some (.ok t)
  | .bytes b | .buffer b => some (Utf8.decode b)
  | _ => none

/-- A reply whose failures are the engine's own, whose columns have texts for names, and whose cells
    all have values. -/
inductive Reply.Mild : Reply → Prop
  | fault {fault : EngineFault} (own : fault.own = true) : Mild (.fault fault)
  | rows {c : Cursor} {names : List Text} (columns : c.columns = names.map .text)
    (own : ∀ k fault, c.fetch k = .failed fault → fault.own = true)
    (sound : ∀ k cells, c.fetch k = .row cells → ∀ cell ∈ cells, cell.isSignalling = false) :
    Mild (.rows c)

theorem Reply.mild_ofList {names : List Text} {rows : List (List Datum)} {last : Option EngineFault}
    (own : ∀ fault, last = some fault → fault.own = true)
    (sound : ∀ cells ∈ rows, ∀ cell ∈ cells, cell.isSignalling = false) :
    Reply.Mild (.rows (.ofList (names.map .text) rows last)) := by
  refine .rows rfl (fun k fault failed => ?_) fun k cells given => ?_
  · simp only [Cursor.ofList] at failed
    split at failed
    · cases failed
    · cases ended : last with
      | none =>
        rw [ended] at failed
        cases failed
      | some _ =>
        rw [ended] at failed
        cases failed
        exact own fault ended
  · simp only [Cursor.ofList] at given
    split at given
    · rename_i there
      cases given
      rw [List.getElem?_toArray] at there
      exact sound _ (List.mem_of_getElem? there)
    · cases last <;> cases given

namespace Plan

def Sendable (payload : Datum) : Prop :=
  ∃ t, payload.statementText? = some (.ok t) ∧ t.isBlank = false ∧
    ∀ word ∈ Guard.forbiddenWords .readOnly, ∀ part, part <:+: t → ¬ Guard.Spells word part

/-- What goes wrong with a streamed statement, and whether it has been sent by then. -/
inductive StreamFails (cap : Nat) (payload : Datum) (reply : Reply) : Failure → Bool → Prop
  | undecodable {fault} (encoded : payload.statementText? = some (.error fault)) :
    StreamFails cap payload reply (.refused (.encoding fault)) false
  | blank {t} (given : payload.statementText? = some (.ok t)) (blank : t.isBlank = true) :
    StreamFails cap payload reply (.refused (.request .emptyStatement)) false
  | forbidden {t word part} (given : payload.statementText? = some (.ok t))
    (full : t.isBlank = false) (listed : word ∈ Guard.forbiddenWords .readOnly)
    (inside : part <:+: t) (spells : Guard.Spells word part) :
    StreamFails cap payload reply (.refused (.forbidden .notReadOnly)) false
  | execute {fault} (sendable : Sendable payload) (failed : reply = .fault fault) :
    StreamFails cap payload reply (.engine fault) true
  | fetch {c rows fault} (sendable : Sendable payload) (answered : reply = .rows c)
    (first : c.FirstRows cap rows) (failed : c.fetch rows.length = .failed fault) :
    StreamFails cap payload reply (.engine fault) true

variable {d : Desk} {payload : Datum} {cap : Nat}

theorem textOf_ok {t : Text} (given : payload.statementText? = some (.ok t)) :
    textOf payload = .ok (.text t) := by
  cases payload with
  | text u =>
    cases given
    rfl
  | bytes b =>
    have decoded : Utf8.decode b = .ok t := Option.some.inj given
    simp only [textOf, decoded]
  | buffer b =>
    have decoded : Utf8.decode b = .ok t := Option.some.inj given
    simp only [textOf, decoded]
  | _ => cases given

theorem textOf_error {fault : Utf8.DecodeFault}
    (given : payload.statementText? = some (.error fault)) : textOf payload = .error (.refused (.encoding fault)) := by
  cases payload with
  | bytes b =>
    have decoded : Utf8.decode b = .error fault := Option.some.inj given
    simp only [textOf, decoded]
  | buffer b =>
    have decoded : Utf8.decode b = .error fault := Option.some.inj given
    simp only [textOf, decoded]
  | _ => cases given

theorem run_stream_refused (s : Settings) {refusal : Refusal}
    (refused : (streamed s payload).run d = (.error (.refused refusal), d)) :
    ((Call.stream payload).plan s).run d =
      (.ok (.stream ⟨[], some refusal.message⟩), d) := by
  change (Answer.stream <$> stream s payload).run d = _
  rw [run_map]
  unfold stream
  rw [run_andThen, refused]
  rfl

theorem run_stream_failed (s : Settings) {fault : EngineFault} {after : Desk}
    (own : fault.own = true) (failed : (streamed s payload).run d = (.error (.engine fault), after)) :
    ((Call.stream payload).plan s).run d = (.ok (.stream ⟨[], some fault.message⟩), after) := by
  change (Answer.stream <$> stream s payload).run d = _
  rw [run_map]
  unfold stream
  rw [run_andThen, failed]
  simp only [Failure.isInBand, own, if_true]
  rfl

theorem run_stream_read (s : Settings) {names : List Text} {rows : List (List Datum)} {after : Desk}
    (read : (streamed s payload).run d =
      (.ok (rows.map fun cells => (Record.ofCells names cells).keyed), after)) :
    ((Call.stream payload).plan s).run d =
      (.ok (.stream ⟨rows.map (Record.ofCells names), none⟩), after) := by
  have reported : reportOf (rows.map fun cells => (Record.ofCells names cells).keyed) =
      .ok ⟨rows.map (Record.ofCells names), none⟩ := by
    have whole := reportOf_keyed (rows.map (Record.ofCells names)) (by
      intro r member
      obtain ⟨cells, _, rfl⟩ := List.mem_map.mp member
      exact OrderedMap.nodup_keys_ofList _)
    rwa [List.map_map] at whole
  change (Answer.stream <$> stream s payload).run d = _
  rw [run_map]
  unfold stream
  rw [run_andThen, read]
  simp only [reported]
  rfl

theorem run_streamed_undecoded (s : Settings) {failure : Failure}
    (undecoded : textOf payload = .error failure) :
    (streamed s payload).run d = (.error failure, d) := by
  simp only [streamed]
  rw [undecoded, lift_error_bind]
  rfl

theorem run_streamed_unchecked (s : Settings) {sql : Datum} {failure : Failure}
    (decoded : textOf payload = .ok sql)
    (refused : (streamOrder s sql).check s.policy = .error failure) :
    (streamed s payload).run d = (.error failure, d) := by
  simp only [streamed]
  rw [decoded, lift_ok_bind]
  exact Order.run_asking_refused refused d

theorem run_streamed_sent (s : Settings) {sql : Datum} (decoded : textOf payload = .ok sql)
    (accepted : (streamOrder s sql).check s.policy = .ok ()) :
    (streamed s payload).run d =
      ((d.engine.exchange (streamOrder s sql).job).2 >>= Pull.records,
        (d.perform (streamOrder s sql).job).2) := by
  simp only [streamed]
  rw [decoded, lift_ok_bind]
  exact Order.run_records accepted d

/-- An open connection under the default guard, and a cap on streamed rows. -/
structure Streams (d : Desk) (cap : Nat) : Prop where
  lenient : d.settings.strictGuard = false
  limit : d.settings.streamMaxRows = cap
  isOpen : d.engine.closed = false
  mild : d.engine.nextReply.Mild

section

variable (streams : Streams d cap)
include streams

theorem check_eq (t : Text) : (streamOrder d.settings (.text t)).check d.settings.policy =
    Guard.check .words .readOnly t := by
  rw [Settings.policy_words streams.lenient]
  rfl

theorem accepted_of_sendable (sendable : Sendable payload) : ∃ t, textOf payload = .ok (.text t) ∧
    (streamOrder d.settings (.text t)).check d.settings.policy = .ok () := by
  obtain ⟨t, given, full, absent⟩ := sendable
  refine ⟨t, textOf_ok given, ?_⟩
  rw [check_eq streams]
  simp [Guard.check, full, Guard.checkWords_eq_ok absent, Except.mapError]

theorem exchange_rows {c : Cursor} (answered : d.engine.nextReply = .rows c)
    (fits : cap ≤ Reading.greatestCap) (sql : Datum) :
    (d.engine.exchange (streamOrder d.settings sql).job).2 = (Reading.readUpTo c cap).2 := by
  have reading : (streamOrder d.settings sql).job.reading = .upTo cap := by
    rw [← streams.limit]
    rfl
  simp only [Engine.exchange, streams.isOpen, answered, reading, Reading.answer, Reading.run]
  rw [if_neg (by simp), if_neg (by omega), if_neg (by simpa using fits)]
  rfl

theorem StreamFails.run (fits : cap ≤ Reading.greatestCap) {failure : Failure} {sent : Bool}
    (fails : StreamFails cap payload d.engine.nextReply failure sent) :
    ∃ after, ((Call.stream payload).plan d.settings).run d =
      (.ok (.stream ⟨[], some failure.message⟩), after) ∧ (sent = false → after = d) := by
  cases fails with
  | undecodable encoded =>
    exact ⟨d, run_stream_refused _ (run_streamed_undecoded _ (textOf_error encoded)), fun _ => rfl⟩
  | @blank t given blank =>
    have refused : (streamOrder d.settings (.text t)).check d.settings.policy =
        .error (.refused (.request .emptyStatement)) := by
      rw [check_eq streams]
      simp [Guard.check, blank]
    exact ⟨d, run_stream_refused _ (run_streamed_unchecked _ (textOf_ok given) refused), fun _ => rfl⟩
  | @forbidden t word part given full listed inside spells =>
    have refused : (streamOrder d.settings (.text t)).check d.settings.policy =
        .error (.refused (.forbidden .notReadOnly)) := by
      rw [check_eq streams]
      simp [Guard.check, full, Guard.checkWords_eq_error listed inside spells, Except.mapError,
        Guard.wordCause]
    exact ⟨d, run_stream_refused _ (run_streamed_unchecked _ (textOf_ok given) refused), fun _ => rfl⟩
  | @execute fault sendable failed =>
    obtain ⟨t, decoded, accepted⟩ := accepted_of_sendable streams sendable
    have own : fault.own = true := by
      have mild := streams.mild
      rw [failed] at mild
      cases mild with
      | fault own => exact own
    have answered : (d.engine.exchange (streamOrder d.settings (.text t)).job).2 =
        .error (.engine fault) := by
      simp [Engine.exchange, streams.isOpen, failed, Reading.answer]
    have ran := run_streamed_sent (d := d) d.settings decoded accepted
    rw [answered] at ran
    exact ⟨_, run_stream_failed _ own ran, by simp⟩
  | @fetch c rows fault sendable answered first failed =>
    obtain ⟨t, decoded, accepted⟩ := accepted_of_sendable streams sendable
    have own : fault.own = true := by
      have mild := streams.mild
      rw [answered] at mild
      cases mild with
      | rows _ own _ => exact own _ fault failed
    obtain ⟨others, second, _, stops, _⟩ := Reading.readUpTo_eq c cap
    cases first.unique second
    have ran := run_streamed_sent (d := d) d.settings decoded accepted
    rw [exchange_rows streams answered fits, stops fault failed] at ran
    exact ⟨_, run_stream_failed _ own ran, by simp⟩

theorem run_stream_rows (fits : cap ≤ Reading.greatestCap) (sendable : Sendable payload)
    {c : Cursor} (answered : d.engine.nextReply = .rows c) {rows : List (List Datum)}
    (first : c.FirstRows cap rows) (sound : ∀ fault, c.fetch rows.length ≠ .failed fault) {names : List Text}
    (columns : c.columns = names.map .text) :
    ∃ after, ((Call.stream payload).plan d.settings).run d =
      (.ok (.stream ⟨rows.map (Record.ofCells names), none⟩), after) := by
  obtain ⟨t, decoded, accepted⟩ := accepted_of_sendable streams sendable
  have values : ∀ cells ∈ rows, ∀ cell ∈ cells, cell.isSignalling = false := by
    have mild := streams.mild
    rw [answered] at mild
    cases mild with
    | rows _ _ valued =>
      intro cells member
      obtain ⟨k, there⟩ := List.mem_iff_getElem?.mp member
      exact valued k cells (first.row k cells there)
  obtain ⟨others, second, _, _, goes⟩ := Reading.readUpTo_eq c cap
  cases first.unique second
  obtain ⟨more, read, _⟩ := goes sound
  have ran := run_streamed_sent (d := d) d.settings decoded accepted
  rw [exchange_rows streams answered fits, read, columns] at ran
  have made : ((Except.ok ⟨names.map .text, rows, more⟩ : Except Failure Pull) >>= Pull.records) =
      .ok (rows.map fun cells => (Record.ofCells names cells).keyed) := Pull.records_eq values
  rw [made] at ran
  exact ⟨_, run_stream_read _ ran⟩

theorem exists_names {c : Cursor} (answered : d.engine.nextReply = .rows c) :
    ∃ names : List Text, c.columns = names.map .text := by
  have mild := streams.mild
  rw [answered] at mild
  cases mild with
  | rows columns _ _ => exact ⟨_, columns⟩

theorem fails_or_reads (given : payload.statementText?.isSome = true) :
    (∃ failure sent, StreamFails cap payload d.engine.nextReply failure sent) ∨
      Sendable payload ∧ ∃ (c : Cursor) (rows : List (List Datum)) (names : List Text),
        d.engine.nextReply = .rows c ∧ c.FirstRows cap rows ∧ c.columns = names.map .text ∧
          ∀ fault, c.fetch rows.length ≠ .failed fault := by
  obtain ⟨outcome, given⟩ := Option.isSome_iff_exists.mp given
  cases outcome with
  | error fault => exact .inl ⟨_, _, .undecodable given⟩
  | ok t =>
    cases full : t.isBlank with
    | true => exact .inl ⟨_, _, .blank given full⟩
    | false =>
      by_cases found : ∃ word ∈ Guard.forbiddenWords .readOnly, ∃ part, part <:+: t ∧
          Guard.Spells word part
      · obtain ⟨word, listed, part, inside, spells⟩ := found
        exact .inl ⟨_, _, .forbidden given full listed inside spells⟩
      · have sendable : Sendable payload := ⟨t, given, full, fun word listed part inside spells =>
          found ⟨word, listed, part, inside, spells⟩⟩
        have mild := streams.mild
        cases answered : d.engine.nextReply with
        | fault fault => exact .inl ⟨_, _, .execute sendable rfl⟩
        | rows c =>
          rw [answered] at mild
          cases mild with
          | @rows _ names columns _ _ =>
            obtain ⟨rows, first, _⟩ := Reading.readUpTo_eq c cap
            by_cases failed : ∃ fault, c.fetch rows.length = .failed fault
            · obtain ⟨fault, failed⟩ := failed
              exact .inl ⟨_, _, .fetch sendable rfl first failed⟩
            · exact .inr ⟨sendable, c, rows, names, rfl, first, columns, fun fault same =>
                failed ⟨fault, same⟩⟩

end

theorem report_unique {s : Settings} {r r' : StreamReport} {after after' : Desk}
    (ran : ((Call.stream payload).plan s).run d = (.ok (.stream r), after))
    (ran' : ((Call.stream payload).plan s).run d = (.ok (.stream r'), after')) :
    r = r' ∧ after = after' := by
  obtain ⟨answer, desk⟩ := Prod.mk.inj (ran.symm.trans ran')
  exact ⟨Answer.stream.inj (Except.ok.inj answer), desk⟩

/-- A streamed statement is always answered, for caps up to the greatest one. There is no error
    exactly when the payload passes the decoder and the guard, the statement is executed, and no
    fetch fails up to the one after the first rows; the answer then holds those rows as records.
    Else it holds none, the error is the text of what went wrong, and nothing has been sent if that
    was the decoder or the guard. -/
theorem stream_in_band (streams : Streams d cap) (fits : cap ≤ Reading.greatestCap)
    (given : payload.statementText?.isSome = true) :
    ∃ report after, ((Call.stream payload).plan d.settings).run d = (.ok (.stream report), after) ∧
      (report.error = none ↔ Sendable payload ∧ ∃ c rows, d.engine.nextReply = .rows c ∧
        c.FirstRows cap rows ∧ ∀ k ≤ rows.length, ∀ fault, c.fetch k ≠ .failed fault) ∧
      (report.error = none → ∀ (c : Cursor) rows names, d.engine.nextReply = .rows c →
        c.FirstRows cap rows → c.columns = names.map .text →
        report.records = rows.map (Record.ofCells names)) ∧
      (report.error ≠ none →
        ∃ failure sent, StreamFails cap payload d.engine.nextReply failure sent) ∧
      ∀ failure sent, StreamFails cap payload d.engine.nextReply failure sent →
        report = ⟨[], some failure.message⟩ ∧ (sent = false → after = d) := by
  rcases fails_or_reads streams given with
    ⟨failure, sent, fails⟩ | ⟨sendable, c, rows, names, answered, first, columns, sound⟩
  · obtain ⟨after, ran, kept⟩ := fails.run streams fits
    refine ⟨_, after, ran, ?_, by simp, fun _ => ⟨failure, sent, fails⟩, ?_⟩
    · -- had the rows been read as well, the run would have two reports
      refine iff_of_false (by simp) ?_
      rintro ⟨sendable, c, rows, answered, first, sound⟩
      obtain ⟨names, columns⟩ := exists_names streams answered
      obtain ⟨after', read⟩ :=
        run_stream_rows streams fits sendable answered first (sound _ (Nat.le_refl _)) columns
      have same := congrArg StreamReport.error (report_unique ran read).1
      cases same
    · intro failure' sent' fails'
      obtain ⟨after', ran', kept'⟩ := fails'.run streams fits
      obtain ⟨same, rfl⟩ := report_unique ran ran'
      exact ⟨same, kept'⟩
  · obtain ⟨after, ran⟩ := run_stream_rows streams fits sendable answered first sound columns
    refine ⟨_, after, ran, ?_, ?_, by simp, ?_⟩
    · -- the fetches before the last one have given the rows
      refine iff_of_true rfl ⟨sendable, c, rows, answered, first, fun k bound fault failed => ?_⟩
      rcases Nat.lt_or_eq_of_le bound with before | rfl
      · have row := first.row k _ (List.getElem?_eq_getElem before)
        cases row.symm.trans failed
      · exact sound fault failed
    · intro _ c' rows' names' answered' first' columns'
      cases answered.symm.trans answered'
      cases first.unique first'
      have same := (List.map_inj_right fun _ _ => Datum.text.inj).mp (columns.symm.trans columns')
      rw [same]
    · intro failure sent fails
      obtain ⟨after', ran', _⟩ := fails.run streams fits
      have same := congrArg StreamReport.error (report_unique ran ran').1
      cases same

theorem stream_in_band_capped :
    let settings : Settings := { Settings.default with streamMaxRows := 1 }
    let names : List Text := ["n"]
    let cursor : Cursor :=
      .ofList (names.map .text) [[.int 1], [.int 2]] (some ⟨"InternalException", "no", true⟩)
    let d : Desk := .start settings (.ofScript [.rows cursor]) Snapshot.sessionStart
    Streams d 1 ∧ 1 ≤ Reading.greatestCap ∧ ∃ report after,
      ((Call.stream (.text "SELECT 1")).plan settings).run d = (.ok (.stream report), after) ∧
      report = ⟨[Record.ofCells names [.int 1]], none⟩ := by
  intro settings names cursor d
  have mild : Reply.Mild (.rows cursor) :=
    Reply.mild_ofList (by simp) (by simp [Datum.isSignalling])
  have streams : Streams d 1 := ⟨rfl, rfl, rfl, mild⟩
  have fits : 1 ≤ Reading.greatestCap := by decide
  have text : (Datum.text "SELECT 1").statementText?.isSome = true := rfl
  obtain ⟨report, after, ran, _⟩ := stream_in_band streams fits text
  have read : (((Call.stream (.text "SELECT 1")).plan settings).run d).1 =
      .ok (.stream ⟨[Record.ofCells names [.int 1]], none⟩) := rfl
  have answer : ((Call.stream (.text "SELECT 1")).plan settings).run d =
      (.ok (.stream report), after) := ran
  rw [answer] at read
  exact ⟨streams, fits, report, after, ran, Answer.stream.inj (Except.ok.inj read)⟩

/-- A cap of `2 ^ 63` rows is an error of its own, which no answer holds; and so is a column whose name
    is not a text. -/
theorem stream_beyond_greatestCap : (¬ ∀ (d : Desk) (payload : Datum) (cap : Nat), Streams d cap →
    payload.statementText?.isSome = true →
    ∃ report after, ((Call.stream payload).plan d.settings).run d =
      (.ok (.stream report), after)) ∧
    let d : Desk := .start .default (.ofScript [.rows (.ofList [.int 1] [[.int 1]] none)])
      Snapshot.sessionStart
    d.settings.strictGuard = false ∧ d.settings.streamMaxRows ≤ Reading.greatestCap ∧
      d.engine.closed = false ∧ ∃ issues after,
        ((Call.stream (.text "SELECT 1")).plan d.settings).run d =
          (.error (.invalid .streamReport issues), after) := by
  refine ⟨fun always => ?_, rfl, by decide, rfl, _, _, rfl⟩
  let settings : Settings := { Settings.default with streamMaxRows := 9223372036854775808 }
  let d : Desk := .start settings (.ofScript [.rows .none]) Snapshot.sessionStart
  have mild : Reply.Mild (.rows .none) :=
    .rows List.map_nil.symm (by simp [Cursor.none]) (by simp [Cursor.none])
  have streams : Streams d 9223372036854775808 := ⟨rfl, rfl, rfl, mild⟩
  obtain ⟨report, after, ran⟩ := always d (.text "SELECT 1") 9223372036854775808 streams rfl
  have raised : (((Call.stream (.text "SELECT 1")).plan d.settings).run d).1 =
      .error .capBeyondWord := rfl
  rw [ran] at raised
  cases raised

end Plan

end QueryDesk
