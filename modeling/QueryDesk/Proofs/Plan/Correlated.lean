import Mathlib.Data.List.ProdSigma
import QueryDesk.Proofs.Plan.Exchange
import QueryDesk.Proofs.Plan.Lasting
import QueryDesk.Proofs.Plan.Showing

namespace QueryDesk

section Square

variable {α β : Type}

theorem concat_product (l : List α) (a : α) (m : List β) :
    (l ++ [a]) ×ˢ m = l ×ˢ m ++ m.map (a, ·) := by
  show (l ++ [a]).flatMap (fun a => m.map (a, ·)) = l.flatMap (fun a => m.map (a, ·)) ++ _
  rw [List.flatMap_append, List.flatMap_singleton]

variable [BEq α] [LawfulBEq α]

theorem eraseDups_map_const {m : List β} (full : m ≠ []) (a : α) :
    (m.map fun _ => a).eraseDups = [a] := by
  cases m with
  | nil => exact absurd rfl full
  | cons b rest =>
    rw [List.map_cons, List.eraseDups_cons, List.filter_map, List.filter_eq_nil_iff.mpr]
    · rfl
    · simp

theorem eraseDups_product_fst (l : List α) {m : List β} (full : m ≠ []) :
    ((l ×ˢ m).map (·.1)).eraseDups = l.eraseDups := by
  induction l using List.reverseRecOn with
  | nil => rfl
  | append_singleton l a ih =>
    have member : a ∈ (l ×ˢ m).map (·.1) ↔ a ∈ l := by
      rw [← List.mem_eraseDups, ih, List.mem_eraseDups]
    have column : (m.map (a, ·)).map (·.1) = m.map fun _ => a := List.map_map
    rw [concat_product, List.map_append, List.eraseDups_append, List.eraseDups_append, ih, column,
      List.removeAll, List.removeAll, List.filter_map]
    by_cases old : a ∈ l
    · have known : a ∈ (l ×ˢ m).map (·.1) := member.mpr old
      rw [List.filter_eq_nil_iff.mpr fun _ _ => by simpa using known,
        List.filter_eq_nil_iff.mpr (by simpa using old)]
      rfl
    · have new : a ∉ (l ×ˢ m).map (·.1) := fun there => old (member.mp there)
      rw [List.filter_eq_self.mpr fun _ _ => by simpa using new,
        List.filter_eq_self.mpr (by simpa using old), eraseDups_map_const full]
      rfl

theorem eraseDups_product_snd [BEq β] [LawfulBEq β] {l : List α} {a : α} (member : a ∈ l)
    (m : List β) :
    (((l ×ˢ m).filter (·.1 == a)).map (·.2)).eraseDups = m.eraseDups := by
  induction l with
  | nil => cases member
  | cons b rest ih =>
    rw [List.product_cons, List.filter_append, List.map_append]
    by_cases own : b = a
    · subst own
      have row : ((m.map (b, ·)).filter (·.1 == b)).map (·.2) = m := by
        rw [List.filter_eq_self.mpr (by simp), List.map_map]
        exact List.map_id m
      rw [row, List.eraseDups_append, List.removeAll,
        List.filter_eq_nil_iff.mpr (by simp)]
      exact List.append_nil _
    · have row : (m.map (b, ·)).filter (·.1 == a) = [] :=
        List.filter_eq_nil_iff.mpr (by simp [own])
      rw [row]
      exact ih ((List.mem_cons.mp member).resolve_left (Ne.symm own))

end Square

section Coefficient

def Datum.number? : Datum → Option Binary64
  | .bool b => some (.ofInt (if b then 1 else 0))
  | .int n => some (.ofInt n)
  | .float x => some x
  | .decimal d => d.toBinary64?
  | _ => none

def Datum.coefficient (cell : Datum) : Binary64 :=
  match cell.number? with
  | some x => if x.isFinite && !x.isZero then x else .zero
  | none => .zero

/-- A cell that holds no integer too large for a floating-point number. -/
def Datum.IsRounded : Datum → Prop
  | .int n => (Binary64.ofInt n).isFinite = true
  | _ => True

theorem Binary64.inUnits_zero {den scale : Nat} (low : scale ≤ 1074) :
    inUnits 0 den scale = (0, den) := by
  rw [inUnits, if_pos low, Nat.zero_mul]

theorem Binary64.ofInt_zero : ofInt 0 = zero := by
  have units : inUnits 0 1 0 = (0, 1) := inUnits_zero (Nat.zero_le 1074)
  have code : nearestCode 0 1 = 0 := by simp [nearestCode, scaleOf, units, roundHalfEven]
  simp [ofInt, ofQuotient, code, ofCode, zero]

theorem Value.quantity_ofFloat (x : Binary64) : (ofFloat x).IsRounded ∧
    (ofFloat x).quantity = if x.isFinite && !x.isZero then x else .zero := by
  unfold ofFloat
  cases finite : x.isFinite with
  | true => cases zero : x.isZero <;> simp [quantity, IsRounded, zero]
  | false => simp [quantity, IsRounded, Binary64.ofInt_zero, Binary64.zero, Binary64.isFinite]

theorem Value.quantity_int {n : Int} (rounded : (int n).IsRounded) : (int n).quantity =
    if (Binary64.ofInt n).isFinite && !(Binary64.ofInt n).isZero then .ofInt n else .zero := by
  rw [show (Binary64.ofInt n).isFinite = true from rounded]
  cases zero : (Binary64.ofInt n).isZero <;> simp [quantity, zero]

theorem Datum.quantity_value {cell : Datum} (rounded : cell.IsRounded) :
    cell.value.IsRounded ∧ cell.value.quantity = cell.coefficient := by
  cases cell with
  | bool b =>
    have one : (Binary64.ofInt (if b then 1 else 0)).isFinite = true := by
      cases b <;> decide +kernel
    exact ⟨one, Value.quantity_int one⟩
  | int n => exact ⟨rounded, Value.quantity_int rounded⟩
  | float x => exact Value.quantity_ofFloat x
  | decimal d =>
    have valued : (decimal d).value = (d.toBinary64?.map Value.ofFloat).getD .null := rfl
    have number : (decimal d).number? = d.toBinary64? := rfl
    rw [valued, coefficient, number]
    cases d.toBinary64? with
    | none => exact ⟨True.intro, rfl⟩
    | some x => exact Value.quantity_ofFloat x
  | _ => exact ⟨True.intro, rfl⟩

/-- A reply that a coefficient is read from: no row, or one whose first cell stands for it. Rows after
    the first one are not read. -/
inductive Reply.Correlates (reply : Reply) : Binary64 → Prop
  | empty {names : List Text} (none : reply.Tabulates 1 names []) : Correlates reply .zero
  | row {names : List Text} {cell : Datum} {others : List Datum}
      (one : reply.Tabulates 1 names [cell :: others]) (rounded : cell.IsRounded) :
      Correlates reply cell.coefficient

end Coefficient

/-- What is known of the correlations of some columns from the coefficients of all their pairs, row by
    row: names stand in the order in which they come first, and of two pairs of the same names the
    later one counts. -/
structure Plan.CorrelationTable.Of (columns : List Text) (coefficients : List Binary64)
    (matrix : CorrelationTable) : Prop where
  keys : OrderedMap.keys matrix = columns.eraseDups
  rows : ∀ a row, OrderedMap.find? matrix a = some row → OrderedMap.keys row = columns.eraseDups
  entry : ∀ (k : Nat) (a b : Text) (x : Binary64), (columns ×ˢ columns)[k]? = some (a, b) →
    (∀ l, k < l → (columns ×ˢ columns)[l]? ≠ some (a, b)) → coefficients[k]? = some x →
    ∃ row, OrderedMap.find? matrix a = some row ∧ OrderedMap.find? row b = some x

def correlationEntries (pairs : List (Text × Text)) (coefficients : List Binary64) :
    List (Text × Text × Binary64) :=
  List.zipWith (fun pair x => (pair.1, pair.2, x)) pairs coefficients

theorem map_correlationEntries {pairs : List (Text × Text)} {coefficients : List Binary64}
    (length : coefficients.length = pairs.length) :
    (correlationEntries pairs coefficients).map (fun e => (e.1, e.2.1)) = pairs := by
  rw [correlationEntries, List.map_zipWith]
  have zipped := List.map_fst_zip (Nat.le_of_eq length.symm)
  rwa [List.zip, List.map_zipWith] at zipped

theorem Plan.CorrelationTable.of_square {columns : List Text} {coefficients : List Binary64}
    (length : coefficients.length = (columns ×ˢ columns).length) :
    Of columns coefficients
      (OrderedMap.ofTriples (correlationEntries (columns ×ˢ columns) coefficients)) := by
  have pairs := map_correlationEntries length
  have firsts : (correlationEntries (columns ×ˢ columns) coefficients).map (·.1) =
      (columns ×ˢ columns).map (·.1) := by
    conv_rhs => rw [← pairs, List.map_map]
    rfl
  have keys : OrderedMap.keys (OrderedMap.ofTriples
      (correlationEntries (columns ×ˢ columns) coefficients)) = columns.eraseDups := by
    rw [OrderedMap.keys_ofTriples, firsts]
    cases columns with
    | nil => rfl
    | cons first rest => exact eraseDups_product_fst _ (List.cons_ne_nil _ _)
  refine ⟨keys, ?_, ?_⟩
  · intro a row found
    have known : (OrderedMap.find? (OrderedMap.ofTriples
        (correlationEntries (columns ×ˢ columns) coefficients)) a).isSome = true := by rw [found]; rfl
    rw [OrderedMap.isSome_find?_iff, keys, List.mem_eraseDups] at known
    have written : a ∈ (correlationEntries (columns ×ˢ columns) coefficients).map (·.1) := by
      rw [firsts]
      exact List.mem_map.mpr ⟨(a, a), List.mem_product.mpr ⟨known, known⟩, rfl⟩
    rw [OrderedMap.find?_ofTriples written, Option.some.injEq] at found
    rw [← found, OrderedMap.keys_ofList, ← eraseDups_product_snd known columns]
    conv_rhs => rw [← pairs, List.filter_map, List.map_map]
    rw [List.map_map]
    rfl
  · intro k a b x there last given
    have entry : (correlationEntries (columns ×ˢ columns) coefficients)[k]? = some (a, b, x) :=
      List.getElem?_zipWith_eq_some.mpr ⟨(a, b), x, there, given, rfl⟩
    obtain ⟨inside, same⟩ := List.getElem?_eq_some_iff.mp entry
    have split := List.take_append_drop k (correlationEntries (columns ×ˢ columns) coefficients)
    rw [List.drop_eq_getElem_cons inside, same] at split
    rw [← split]
    refine OrderedMap.exists_find?_ofTriples x fun again => ?_
    rw [List.map_drop, pairs] at again
    obtain ⟨l, found⟩ := List.mem_iff_getElem?.mp again
    rw [List.getElem?_drop] at found
    exact last (k + 1 + l) (by omega) found

def Sql.correlated (table : Text) (pair : Name × Name) : Name × Name × Query :=
  (pair.1, pair.2, correlation table pair.1 pair.2)

theorem Sql.correlationPairs_eq (table : Text) {columns : List Text} {names : List Name}
    (named : names.map (·.text) = columns) : correlationPairs table (columns.map .text) =
      .ok ((names ×ˢ names).map (correlated table)) := by
  have checked : (columns.map Datum.text).mapM (Name.ofDatum "column") = .ok names := by
    rw [List.mapM_map]
    exact Name.mapM_ofText_eq_ok.mpr named
  have pairs : (names ×ˢ names).map (correlated table) = names.flatMap fun first =>
      names.map fun second => (first, second, correlation table first second) := by
    show (names.flatMap fun first => names.map (first, ·)).map (correlated table) = _
    simp only [List.map_flatMap, List.map_map]
    rfl
  rw [correlationPairs, checked, pairs]
  rfl

namespace Plan

variable {s : Settings} {table : Text}

theorem leads_coefficient {q : Sql.Query} {reply : Reply} {x : Binary64}
    (accepted : Guard.check s.policy .general q.sql = .ok ()) (correlates : reply.Correlates x) :
    ∃ g, (fresh s q 1).Leads [q.asked 1 reply] (.ok g) ∧ coefficient g = .ok x := by
  have fits : 1 ≤ Reading.greatestCap := by decide
  cases correlates with
  | empty none =>
    obtain ⟨g, leads, shape⟩ := leads_fresh accepted fits none
    refine ⟨g, leads, ?_⟩
    rw [coefficient, shape.rows]
    rfl
  | @row _ cell _ one rounded =>
    obtain ⟨g, leads, shape⟩ := leads_fresh accepted fits one
    obtain ⟨valued, same⟩ := Datum.quantity_value rounded
    refine ⟨g, leads, ?_⟩
    rw [coefficient, shape.rows, ← same]
    exact numberOrZero_eq valued

theorem leads_correlate {pairs : List (Sql.Name × Sql.Name)} {replies : List Reply}
    {coefficients : List Binary64} (accepted : ∀ pair ∈ pairs,
      Guard.check s.policy .general (Sql.correlation table pair.1 pair.2).sql = .ok ())
    (good : List.Forall₂ Reply.Correlates replies coefficients)
    (length : replies.length = pairs.length) (known : List (Text × Text × Binary64)) :
    (correlate s (OrderedMap.ofTriples known) (pairs.map (Sql.correlated table))).Leads
      (Exchange.each 1 (pairs.map fun pair => Sql.correlation table pair.1 pair.2) replies)
      (.ok (OrderedMap.ofTriples (known ++
        correlationEntries (pairs.map fun pair => (pair.1.text, pair.2.text)) coefficients))) := by
  -- on the pairs; what is known grows by the entry of each
  induction pairs generalizing replies coefficients known with
  | nil =>
    show (correlate s (OrderedMap.ofTriples known) []).Leads []
      (.ok (OrderedMap.ofTriples (known ++ [])))
    rw [List.append_nil]
    exact .done _
  | cons pair rest ih =>
    obtain ⟨first, others⟩ := List.forall_mem_cons.mp accepted
    cases good with
    | nil => cases length
    | @cons reply x replies coefficients own later =>
      obtain ⟨g, leads, made⟩ := leads_coefficient first own
      have next := ih others later (Nat.succ.inj length)
        (known ++ [(pair.1.text, pair.2.text, x)])
      rw [OrderedMap.ofTriples_concat, List.append_assoc] at next
      refine leads.bind ?_
      rw [made, lift_ok_bind]
      exact next

theorem correlate_append (known : CorrelationTable)
    (first later : List (Sql.Name × Sql.Name × Sql.Query)) :
    correlate s known (first ++ later) =
      correlate s known first >>= fun table => correlate s table later := by
  induction first generalizing known with
  | nil => rfl
  | cons pair rest ih =>
    obtain ⟨a, b, query⟩ := pair
    simp only [List.cons_append, correlate, bind_assoc, ih]

theorem leads_correlate_error {before : List (Sql.Name × Sql.Name)}
    (later : List (Sql.Name × Sql.Name)) {pair : Sql.Name × Sql.Name} {replies : List Reply}
    {coefficients : List Binary64} {reply : Reply} {fault : EngineFault}
    (accepted : ∀ asked ∈ before ++ [pair],
      Guard.check s.policy .general (Sql.correlation table asked.1 asked.2).sql = .ok ())
    (good : List.Forall₂ Reply.Correlates replies coefficients)
    (length : replies.length = before.length) (fails : reply.Fails 1 fault) :
    (correlate s [] ((before ++ pair :: later).map (Sql.correlated table))).Leads
      (Exchange.each 1 ((before ++ [pair]).map fun pair => Sql.correlation table pair.1 pair.2)
        (replies ++ [reply])) (.error (.engine fault)) := by
  have fits : 1 ≤ Reading.greatestCap := by decide
  have earlier : ∀ asked ∈ before,
      Guard.check s.policy .general (Sql.correlation table asked.1 asked.2).sql = .ok () :=
    fun asked member => accepted asked (List.mem_append_left _ member)
  have first := leads_correlate earlier good length []
  have last : (fresh s (Sql.correlation table pair.1 pair.2) 1).Leads
      [(Sql.correlation table pair.1 pair.2).asked 1 reply] (.error (.engine fault)) :=
    leads_fresh_error (accepted pair (by simp)) fits fails
  rw [List.map_append, List.map_append, correlate_append, Exchange.each,
    List.zipWith_append (by simpa using length.symm)]
  exact first.bind last.bind_error

end Plan

namespace CorrelationRequest

/-- The columns of a request are names, its data source has a table, and the guard lets the query of
    every pair of columns through. -/
structure Names (r : CorrelationRequest) (s : Settings) (table : Sql.Name)
    (names : List Sql.Name) : Prop where
  resolved : Sql.tableName r.source = .ok table
  spelled : names.map (·.text) = r.columns
  accepted : ∀ pair ∈ names ×ˢ names,
    Guard.check s.policy .general (Sql.correlation table.text pair.1 pair.2).sql = .ok ()

variable {r : CorrelationRequest} {s : Settings} {table : Sql.Name} {names : List Sql.Name}
  {d : Desk}

theorem Names.plan_eq (named : r.Names s table names) :
    (Call.correlations r).plan s =
      .correlations <$> Plan.correlate s [] ((names ×ˢ names).map (Sql.correlated table.text)) := by
  have resolved := Call.tableOf_of_tableName named.resolved
  have compiled : Failure.ofRequest (Sql.correlationPairs table.text (r.columns.map .text)) =
      .ok ((names ×ˢ names).map (Sql.correlated table.text)) := by
    rw [Sql.correlationPairs_eq table.text named.spelled]
    rfl
  simp only [Call.plan, Plan.correlations]
  rw [resolved, Plan.lift_ok_bind, compiled, Plan.lift_ok_bind]

theorem Names.product_eq (named : r.Names s table names) :
    (names ×ˢ names).map (fun pair => (pair.1.text, pair.2.text)) = r.columns ×ˢ r.columns := by
  rw [← named.spelled]
  show (names.flatMap fun a => names.map (a, ·)).map _ =
    (names.map (·.text)).flatMap fun a => (names.map (·.text)).map (a, ·)
  simp only [List.map_flatMap, List.map_map, List.flatMap_map]
  rfl

theorem run_of_not_isName {name : Text} (member : name ∈ r.columns)
    (invalid : Sql.isName name = false) : ∃ role given,
      ((Call.correlations r).plan s).run d =
        (.error (.refused (.request (.invalidName role given))), d) := by
  simp only [Call.plan, Plan.correlations, Plan.tableOf]
  cases resolved : Sql.tableName r.source with
  | error fault =>
    rw [Sql.Name.eq_of_ofText_eq_error resolved]
    exact ⟨_, _, rfl⟩
  | ok table =>
    obtain ⟨given, refused⟩ : ∃ given, Sql.correlationPairs table.text (r.columns.map .text) =
        .error (.invalidName "column" given) := by
      unfold Sql.correlationPairs
      cases checked : (r.columns.map Datum.text).mapM (Sql.Name.ofDatum "column") with
      | error fault =>
        obtain ⟨_, given, _, same, -, failed⟩ := mapM_eq_error.mp checked
        obtain ⟨t, -, rfl⟩ := List.mem_map.mp (same ▸ List.mem_append_right _ List.mem_cons_self)
        rw [Sql.Name.eq_of_ofText_eq_error failed]
        exact ⟨.text t, rfl⟩
      | ok names =>
        rw [List.mapM_map] at checked
        rw [← Sql.Name.mapM_ofText_eq_ok.mp checked] at member
        obtain ⟨valid, -, rfl⟩ := List.mem_map.mp member
        cases valid.valid.symm.trans invalid
    rw [show Failure.ofRequest ((·.text) <$> Except.ok table) = .ok table.text from rfl,
      Plan.lift_ok_bind, refused]
    exact ⟨_, _, rfl⟩

/-- The queries of all pairs are sent row by row, and the coefficients read from the replies make the
    table. -/
theorem Names.run_ok (named : r.Names s table names) {replies : List Reply}
    {coefficients : List Binary64} (good : List.Forall₂ Reply.Correlates replies coefficients)
    (length : replies.length = (names ×ˢ names).length) (replying : d.engine.Replying replies) :
    ∃ matrix after sent, ((Call.correlations r).plan s).run d = (.ok (.correlations matrix), after) ∧
      after.engine.statements = d.engine.statements ++ sent ∧
      List.Forall₂ (fun pair one => Sent.Of (Sql.correlation table.text pair.1 pair.2) 2 one)
        (names ×ˢ names) sent ∧
      Plan.CorrelationTable.Of r.columns coefficients matrix := by
  have leads := (Plan.leads_correlate named.accepted good length []).map Answer.correlations
  rw [List.nil_append, named.product_eq] at leads
  have all : replies.length =
      ((names ×ˢ names).map fun pair => Sql.correlation table.text pair.1 pair.2).length := by
    rw [length, List.length_map]
  rw [← Exchange.reply_each 1 all] at replying
  obtain ⟨after, ran, statements⟩ := leads.run replying
  refine ⟨OrderedMap.ofTriples (correlationEntries (r.columns ×ˢ r.columns) coefficients), after, _,
    ?_, statements, List.forall₂_map_left_iff.mp (Exchange.sent_each all), ?_⟩
  · rw [named.plan_eq]
    exact ran
  · apply Plan.CorrelationTable.of_square
    rw [← named.product_eq, List.length_map, ← length]
    exact good.length_eq.symm

theorem Names.run_error (named : r.Names s table names) {replies : List Reply}
    {coefficients : List Binary64} {reply : Reply} {fault : EngineFault}
    (good : List.Forall₂ Reply.Correlates replies coefficients)
    (fewer : replies.length < (names ×ˢ names).length) (fails : reply.Fails 1 fault)
    (replying : d.engine.Replying (replies ++ [reply])) :
    ∃ after sent, ((Call.correlations r).plan s).run d = (.error (.engine fault), after) ∧
      after.engine.statements = d.engine.statements ++ sent ∧
      List.Forall₂ (fun pair one => Sent.Of (Sql.correlation table.text pair.1 pair.2) 2 one)
        ((names ×ˢ names).take (replies.length + 1)) sent := by
  have split := List.take_append_drop replies.length (names ×ˢ names)
  rw [List.drop_eq_getElem_cons fewer] at split
  have taken : (names ×ˢ names).take (replies.length + 1) =
      (names ×ˢ names).take replies.length ++ [(names ×ˢ names)[replies.length]] :=
    List.take_succ_eq_append_getElem fewer
  have queries : replies.length = ((names ×ˢ names).take replies.length).length := by
    rw [List.length_take, Nat.min_eq_left (Nat.le_of_lt fewer)]
  have accepted : ∀ pair ∈ (names ×ˢ names).take replies.length ++ [(names ×ˢ names)[replies.length]],
      Guard.check s.policy .general (Sql.correlation table.text pair.1 pair.2).sql = .ok () := by
    rw [← taken]
    exact fun pair member => named.accepted pair (List.mem_of_mem_take member)
  have leads := (Plan.leads_correlate_error ((names ×ˢ names).drop (replies.length + 1)) accepted
    good queries fails).map Answer.correlations
  have all : (replies ++ [reply]).length = (((names ×ˢ names).take (replies.length + 1)).map
      fun pair => Sql.correlation table.text pair.1 pair.2).length := by
    rw [taken, List.length_map, List.length_append, List.length_append, ← queries]
    rfl
  rw [split, ← taken, ← named.plan_eq] at leads
  rw [← Exchange.reply_each 1 all] at replying
  obtain ⟨after, ran, statements⟩ := leads.run replying
  exact ⟨after, _, ran, statements, List.forall₂_map_left_iff.mp (Exchange.sent_each all)⟩

end CorrelationRequest

/-- Correlations of columns of which one is no name are refused before anything is sent. Else there is
    one query for each ordered pair, in rows. Replies that stand for coefficients make the table of
    them; the first reply that is an error ends the request, and no further query is sent. -/
theorem Call.correlations_exchanged (s : Settings) (r : CorrelationRequest) (d : Desk) :
    (∀ name ∈ r.columns, Sql.isName name = false → ∃ role given,
      ((correlations r).plan s).run d =
        (.error (.refused (.request (.invalidName role given))), d)) ∧
    ∀ table names, r.Names s table names → ∀ replies coefficients,
      List.Forall₂ Reply.Correlates replies coefficients →
      (replies.length = names.length * names.length → d.engine.Replying replies →
        ∃ matrix after sent,
          ((correlations r).plan s).run d = (.ok (.correlations matrix), after) ∧
          after.engine.statements = d.engine.statements ++ sent ∧
          List.Forall₂ (fun pair one => Sent.Of (Sql.correlation table.text pair.1 pair.2) 2 one)
            (names ×ˢ names) sent ∧
          Plan.CorrelationTable.Of r.columns coefficients matrix) ∧
      ∀ reply fault, replies.length < names.length * names.length → reply.Fails 1 fault →
        d.engine.Replying (replies ++ [reply]) → ∃ after sent,
          ((correlations r).plan s).run d = (.error (.engine fault), after) ∧
          after.engine.statements = d.engine.statements ++ sent ∧
          sent.length = replies.length + 1 ∧
          List.Forall₂ (fun pair one => Sent.Of (Sql.correlation table.text pair.1 pair.2) 2 one)
            ((names ×ˢ names).take (replies.length + 1)) sent := by
  refine ⟨fun name member invalid => CorrelationRequest.run_of_not_isName member invalid, ?_⟩
  intro table names named replies coefficients good
  rw [← List.length_product]
  refine ⟨fun length replying => named.run_ok good length replying, ?_⟩
  intro reply fault fewer fails replying
  obtain ⟨after, sent, ran, statements, each⟩ := named.run_error good fewer fails replying
  have count := each.length_eq
  rw [List.length_take, Nat.min_eq_left fewer] at count
  exact ⟨after, sent, ran, statements, count.symm, each⟩

/-- Of a column that is named twice, the coefficient of the last of four replies counts; after two
    replies, the third one being an error, no fourth query is sent. -/
theorem Call.correlations_exchanged_repeated :
    let s := Settings.default
    let r : CorrelationRequest := ⟨"a", ["x", "x"]⟩
    let reply (cell : Datum) : Reply := .rows (.ofList [.text "correlation"] [[cell]] none)
    let fault : EngineFault := ⟨"ConversionException", "no", true⟩
    let d (replies : List Reply) : Desk := .start s (.ofScript replies) Snapshot.sessionStart
    (∃ matrix after, ((correlations r).plan s).run
        (d [reply (.int 1), reply .null, reply (.text "n"), reply (.int 3)]) =
          (.ok (.correlations matrix), after) ∧
      ∃ row, OrderedMap.find? matrix "x" = some row ∧
        OrderedMap.find? row "x" = some (.ofInt 3)) ∧
    ∃ after, ((correlations r).plan s).run (d [reply (.int 1), reply .null, .fault fault]) =
        (.error (.engine fault), after) ∧ after.engine.statements.length = 3 := by
  intro s r reply fault d
  let table : Sql.Name := ⟨"data_source_a", by decide⟩
  let x : Sql.Name := ⟨"x", by decide⟩
  have accepted : Guard.check s.policy .general (Sql.correlation table.text x x).sql = .ok () :=
    eq_ok_of_toOption (by decide +kernel)
  have named : r.Names s table [x, x] := by
    refine ⟨rfl, rfl, ?_⟩
    intro pair member
    have both := List.mem_product.mp (show (pair.1, pair.2) ∈ [x, x] ×ˢ [x, x] from member)
    simp only [List.mem_cons, List.not_mem_nil, or_false, or_self] at both
    rw [both.1, both.2]
    exact accepted
  have one (cell : Datum) (sound : cell.isSignalling = false) :
      (reply cell).Tabulates 1 ["correlation"] [[cell]] := by
    have holds : (reply cell).Holds ["correlation"] [[cell]] :=
      Reply.holds_ofList ["correlation"] [[cell]] (by simp) (by simpa using sound)
    exact holds.tabulates_of_le (Nat.le_refl 1)
  have number (n : Int) (rounded : (Datum.int n).IsRounded)
      (same : (Datum.int n).coefficient = .ofInt n) : (reply (.int n)).Correlates (.ofInt n) := by
    rw [← same]
    exact .row (one (.int n) rfl) rounded
  have first := number 1 (by decide +kernel : (Binary64.ofInt 1).isFinite = true) (by decide +kernel)
  have last := number 3 (by decide +kernel : (Binary64.ofInt 3).isFinite = true) (by decide +kernel)
  have null : (reply .null).Correlates .zero := .row (one .null rfl) True.intro
  have text : (reply (.text "n")).Correlates .zero := .row (one (.text "n") rfl) True.intro
  constructor
  · obtain ⟨-, sends⟩ := correlations_exchanged s r
      (d [reply (.int 1), reply .null, reply (.text "n"), reply (.int 3)])
    obtain ⟨matrix, after, sent, ran, -, -, shape⟩ := (sends table [x, x] named _ _
      (.cons first (.cons null (.cons text (.cons last .nil))))).1 rfl (Engine.replying_ofScript _)
    refine ⟨matrix, after, ran, shape.entry 3 "x" "x" _ rfl (fun l beyond => ?_) rfl⟩
    rw [List.getElem?_eq_none (show 4 ≤ l from beyond)]
    simp
  · obtain ⟨-, sends⟩ := correlations_exchanged s r (d [reply (.int 1), reply .null, .fault fault])
    obtain ⟨after, sent, ran, statements, count, -⟩ := (sends table [x, x] named _ _
      (.cons first (.cons null .nil))).2 (.fault fault) fault (by decide) (.execute fault)
        (Engine.replying_ofScript _)
    refine ⟨after, ran, ?_⟩
    rw [statements, List.length_append, count]
    rfl

/-- Correlations are answered when the replies to the queries of all pairs are such. -/
def CorrelationRequest.AnsweredBy (good : Reply → Prop) : Prop :=
  ∀ (s : Settings) (r : CorrelationRequest) (d : Desk) (table : Sql.Name) (names : List Sql.Name)
    (replies : List Reply), r.Names s table names → (∀ reply ∈ replies, good reply) →
    replies.length = names.length * names.length → d.engine.Replying replies →
    ∃ matrix after, ((Call.correlations r).plan s).run d = (.ok (.correlations matrix), after)

/-- Rows as wide as their columns, with no integer too large for a floating-point number, do not
    suffice: a signalling number, unlike a quiet one, ends the request, and so does a column that is
    not named by a text. -/
theorem Call.correlations_unanswered :
    ¬ CorrelationRequest.AnsweredBy (fun reply => ∃ (names : List Text) (cell : Datum)
      (others : List Datum), reply.Reads 1 (names.map .text) [cell :: others] ∧
      (cell :: others).length = names.length ∧ cell.IsRounded) ∧
    ¬ CorrelationRequest.AnsweredBy (fun reply => ∃ (columns : List Datum) (cell : Datum)
      (others : List Datum), reply.Reads 1 columns [cell :: others] ∧
      (cell :: others).length = columns.length ∧ cell.IsRounded ∧
      ∀ one ∈ cell :: others, one.isSignalling = false) := by
  let s := Settings.default
  let r : CorrelationRequest := ⟨"a", ["x"]⟩
  let table : Sql.Name := ⟨"data_source_a", by decide⟩
  let x : Sql.Name := ⟨"x", by decide⟩
  let d (reply : Reply) : Desk := .start s (.ofScript [reply]) Snapshot.sessionStart
  have named : r.Names s table [x] := by
    refine ⟨rfl, rfl, List.forall_mem_singleton.mpr ?_⟩
    exact eq_ok_of_toOption (by decide +kernel)
  constructor
  · intro always
    let cell : Datum := .decimal (.nan false true 0)
    let reply : Reply := .rows (.ofList (["correlation"].map .text) [[cell]] none)
    obtain ⟨matrix, after, ran⟩ := always s r (d reply) table [x] [reply] named
      (List.forall_mem_singleton.mpr
        ⟨["correlation"], cell, [], Reply.reads_ofList _ (Nat.le_refl 1), rfl, True.intro⟩)
      rfl (Engine.replying_ofScript [reply])
    have raised : (((correlations r).plan s).run (d reply)).1.isOk = false := by decide +kernel
    rw [ran] at raised
    cases raised
  · intro always
    let reply : Reply := .rows (.ofList [.int 1] [[.null]] none)
    obtain ⟨matrix, after, ran⟩ := always s r (d reply) table [x] [reply] named
      (List.forall_mem_singleton.mpr ⟨[.int 1], .null, [], Reply.reads_ofList _ (Nat.le_refl 1),
        rfl, True.intro, List.forall_mem_singleton.mpr rfl⟩)
      rfl (Engine.replying_ofScript [reply])
    have raised : (((correlations r).plan s).run (d reply)).1.isOk = false := by decide +kernel
    rw [ran] at raised
    cases raised

end QueryDesk
