import QueryDesk.Engine.Basic
import QueryDesk.Proofs.Outcome

namespace QueryDesk

namespace Cursor

/-- The rows of a cursor up to a cap: no fetch before them fails or ends, and if there are less than
    the cap allows, the next fetch gives no row. -/
structure FirstRows (c : Cursor) (cap : Nat) (rows : List (List Datum)) : Prop where
  bound : rows.length ≤ cap
  row : ∀ k cells, rows[k]? = some cells → c.fetch k = .row cells
  last : rows.length < cap → ∀ cells, c.fetch rows.length ≠ .row cells

variable {c : Cursor} {cap : Nat} {rows others : List (List Datum)}

theorem FirstRows.length_le (first : c.FirstRows cap rows) (second : c.FirstRows cap others) :
    rows.length ≤ others.length := by
  refine Nat.le_of_not_lt fun longer => ?_
  obtain ⟨cells, there⟩ : ∃ cells, rows[others.length]? = some cells :=
    ⟨_, List.getElem?_eq_getElem (by omega)⟩
  have bound := first.bound
  exact second.last (by omega) cells (first.row _ cells there)

theorem FirstRows.unique (first : c.FirstRows cap rows) (second : c.FirstRows cap others) :
    rows = others := by
  have same : rows.length = others.length :=
    Nat.le_antisymm (first.length_le second) (second.length_le first)
  refine List.ext_getElem same fun k known known' => ?_
  have left := first.row k _ (List.getElem?_eq_getElem known)
  have right := second.row k _ (List.getElem?_eq_getElem known')
  exact Fetched.row.inj (left.symm.trans right)

theorem take_eq (c : Cursor) (count start : Nat) : ∃ rows : List (List Datum),
    rows.length ≤ count ∧ (∀ k cells, rows[k]? = some cells → c.fetch (start + k) = .row cells) ∧
    if rows.length < count then
      (∀ cells, c.fetch (start + rows.length) ≠ .row cells) ∧
        c.take count start = ⟨rows, rows.length + 1, some (c.fetch (start + rows.length))⟩
    else c.take count start = ⟨rows, rows.length, .none⟩ := by
  -- on the rows that are still wanted; each one is the fetch after those before it
  induction count generalizing start with
  | zero => exact ⟨[], by simp, by simp, by simp [take]⟩
  | succ count ih =>
    cases outcome : c.fetch start with
    | row cells =>
      obtain ⟨rows, bound, row, taken⟩ := ih (start + 1)
      refine ⟨cells :: rows, by simpa using bound, ?_, ?_⟩
      · intro k found there
        cases k with
        | zero =>
          cases there
          exact outcome
        | succ k =>
          rw [← row k found there]
          congr 1
          omega
      · have next : start + (rows.length + 1) = start + 1 + rows.length := by omega
        simp only [List.length_cons, next, Nat.succ_lt_succ_iff]
        split at taken
        · rename_i fewer
          rw [if_pos fewer]
          refine ⟨taken.1, ?_⟩
          simp only [take, outcome, taken.2]
        · rename_i enough
          rw [if_neg enough]
          simp only [take, outcome, taken]
    | finished => exact ⟨[], by simp, by simp, by simp [take, outcome]⟩
    | failed fault => exact ⟨[], by simp, by simp, by simp [take, outcome]⟩

end Cursor

namespace Reading

theorem run_upTo (c : Cursor) {bound : Nat} (fits : bound ≤ greatestCap) :
    (upTo bound).run c = readUpTo c bound := by
  have positive : ¬ (bound : Int) < 0 := by omega
  have short : ¬ greatestCap < bound := Nat.not_lt.mpr fits
  simp only [run, if_neg positive, Int.toNat_natCast, if_neg short]

/-- The last fetch when reading up to a cap is the one after the first rows. If it fails, so does
    the reading, and else the rows are those; there are more if it gives one. -/
theorem readUpTo_eq (c : Cursor) (cap : Nat) : ∃ rows, c.FirstRows cap rows ∧
    (readUpTo c cap).1 = rows.length + 1 ∧
    (∀ fault, c.fetch rows.length = .failed fault → (readUpTo c cap).2 = .error (.engine fault)) ∧
    ((∀ fault, c.fetch rows.length ≠ .failed fault) →
      ∃ more, (readUpTo c cap).2 = .ok ⟨c.columns, rows, more⟩ ∧
        (more = true ↔ ∃ cells, c.fetch rows.length = .row cells)) := by
  obtain ⟨rows, bound, row, taken⟩ := c.take_eq cap 0
  simp only [Nat.zero_add] at row taken
  refine ⟨rows, ⟨bound, row, ?_⟩, ?_⟩
  · intro fewer
    rw [if_pos fewer] at taken
    exact taken.1
  · unfold readUpTo
    by_cases fewer : rows.length < cap
    · rw [if_pos fewer] at taken
      obtain ⟨stops, taken⟩ := taken
      simp only [taken]
      cases outcome : c.fetch rows.length with
      | row cells => exact absurd outcome (stops cells)
      | finished => exact ⟨rfl, by simp, fun _ => ⟨false, rfl, by simp⟩⟩
      | failed fault => exact ⟨rfl, by simp, fun sound => absurd rfl (sound fault)⟩
    · rw [if_neg fewer] at taken
      have full : rows.length = cap := by omega
      subst full
      simp only [taken]
      cases outcome : c.fetch rows.length with
      | row cells => exact ⟨rfl, by simp, fun _ => ⟨true, rfl, by simp⟩⟩
      | finished => exact ⟨rfl, by simp, fun _ => ⟨false, rfl, by simp⟩⟩
      | failed fault => exact ⟨rfl, by simp, fun sound => absurd rfl (sound fault)⟩

inductive Fails : Failure → Prop
  | engine (fault : EngineFault) : Fails (.engine fault)
  | belowZero (cap : Int) : Fails (.belowZero cap)
  | capBeyondWord : Fails .capBeyondWord

theorem ends_answer (cap : Int) (reply : Reply) :
    Ends Fails (fun pull => ∃ c, reply = .rows c ∧ pull.columns = c.columns ∧
      c.FirstRows cap.toNat pull.rows) (answer (.upTo cap) reply).2 := by
  cases reply with
  | fault fault => exact .engine fault
  | rows c =>
    simp only [answer, run]
    split
    · exact .belowZero _
    split
    · exact .capBeyondWord
    obtain ⟨rows, first, _, stops, sound⟩ := readUpTo_eq c cap.toNat
    by_cases failing : ∃ fault, c.fetch rows.length = .failed fault
    · obtain ⟨fault, failed⟩ := failing
      rw [stops fault failed]
      exact .engine fault
    · obtain ⟨more, read, _⟩ := sound (not_exists.mp failing)
      rw [read]
      exact ⟨c, rfl, rfl, first⟩

def cap : Reading → Nat
  | nothing | useless _ => 0
  | first => 1
  | upTo cap => cap.toNat

theorem exists_firstRows {reading : Reading} {reply : Reply} {pull : Pull}
    (answered : (answer reading reply).2 = .ok pull) :
    ∃ c, reply = .rows c ∧ pull.columns = c.columns ∧ c.FirstRows reading.cap pull.rows := by
  cases reading with
  | upTo cap =>
    have ends := ends_answer cap reply
    rw [answered] at ends
    obtain ⟨c, rfl, columns, first⟩ := ends
    exact ⟨c, rfl, columns, first⟩
  | nothing =>
    cases reply with
    | fault fault => cases answered
    | rows c =>
      cases answered
      exact ⟨c, rfl, rfl, by simp, by simp, by simp [cap]⟩
  | first =>
    cases reply with
    | fault fault => cases answered
    | rows c =>
      simp only [answer, run] at answered
      split at answered
      · rename_i cells given
        cases answered
        refine ⟨c, rfl, rfl, by simp [cap], fun k found there => ?_, by simp [cap]⟩
        cases k with
        | zero => cases there; exact given
        | succ k => cases there
      · rename_i ended
        cases answered
        exact ⟨c, rfl, rfl, by simp, by simp, by simp [ended]⟩
      · cases answered
  | useless failure =>
    cases reply with
    | fault fault => cases answered
    | rows c => cases answered

end Reading

end QueryDesk
