import QueryDesk.Desk.Session
import QueryDesk.Proofs.Snapshot.Key

namespace QueryDesk

section Border

variable {α : Type} {z : α} {first second last a b c : List α}

/-- Three parts between two borders, the second of which holds none, are told from others unless the
    first of them has a border inside. -/
theorem append_border_iff (clean : z ∉ second ∧ z ∉ b) :
    first ++ z :: (second ++ z :: last) = a ++ z :: (b ++ z :: c) ↔
      (first = a ∧ second = b ∧ last = c) ∨
        (∃ middle, a = first ++ z :: middle ∧ second ++ z :: last = middle ++ z :: (b ++ z :: c)) ∨
        ∃ middle, first = a ++ z :: middle ∧ b ++ z :: c = middle ++ z :: (second ++ z :: last) := by
  constructor
  · intro same
    rcases List.append_eq_append_iff.mp same with ⟨rest, longer, tail⟩ | ⟨rest, longer, tail⟩
    · cases rest with
      | nil =>
        obtain ⟨inside, later⟩ := append_cons_cancel clean (List.cons.inj tail).2
        exact .inl ⟨by simpa using longer.symm, inside, later⟩
      | cons x middle =>
        obtain ⟨rfl, later⟩ := List.cons.inj tail
        exact .inr (.inl ⟨middle, longer, later⟩)
    · cases rest with
      | nil =>
        obtain ⟨inside, later⟩ := append_cons_cancel clean.symm (List.cons.inj tail).2
        exact .inl ⟨by simpa using longer, inside.symm, later.symm⟩
      | cons x middle =>
        obtain ⟨rfl, later⟩ := List.cons.inj tail
        exact .inr (.inr ⟨middle, longer, later⟩)
  · rintro (⟨rfl, rfl, rfl⟩ | ⟨middle, rfl, tail⟩ | ⟨middle, rfl, tail⟩)
    · rfl
    · simp [tail]
    · simp [tail]

end Border

namespace Snapshot

def zeroPoint : Point := .scalar '\x00'

def printedParams (q : Sql.Query) : Text := (Datum.tuple q.params).printed

def keyText (q : Sql.Query) (source : Option Text) : Text :=
  q.sql ++ zeroPoint :: (printedParams q ++ zeroPoint :: source.getD [])

theorem encode_append {t u : Text} {bs cs : List UInt8} (first : Utf8.encode t = .ok bs)
    (last : Utf8.encode u = .ok cs) :
    Utf8.encode (t ++ zeroPoint :: u) = .ok (bs ++ 0 :: cs) := by
  obtain ⟨before, rfl, rfl⟩ := Utf8.encode_eq_ok_iff.mp first
  obtain ⟨after, rfl, rfl⟩ := Utf8.encode_eq_ok_iff.mp last
  refine Utf8.encode_eq_ok_iff.mpr ⟨before ++ '\x00' :: after, by simp [Text.ofChars, zeroPoint], ?_⟩
  have zero : Utf8.ofChar '\x00' = [0] := by decide
  simp [zero]

theorem encode_keyText {q : Sql.Query} {source : Option Text} {bytes : List UInt8}
    (digested : keyBytes q source = .ok bytes) : Utf8.encode (keyText q source) = .ok bytes := by
  obtain ⟨-, sql, params, named, first, second, third, rfl⟩ := keyBytes_eq_ok.mp digested
  have encoded := encode_append first (encode_append second third)
  rw [List.append_assoc]
  exact encoded

/-- The end of the second statement is read as the parameters of the first one, and the rest of it,
    if there is any, as the beginning of the data source. -/
inductive Straddles (q : Sql.Query) (source : Option Text) (p : Sql.Query) (origin : Option Text) :
    Prop
  | meeting (sql : p.sql = q.sql ++ zeroPoint :: printedParams q)
    (named : source.getD [] = printedParams p ++ zeroPoint :: origin.getD [])
  | beyond (between : Text)
    (sql : p.sql = q.sql ++ zeroPoint :: (printedParams q ++ zeroPoint :: between))
    (named : source.getD [] = between ++ zeroPoint :: (printedParams p ++ zeroPoint :: origin.getD []))

theorem straddles_iff {q p : Sql.Query} {source origin : Option Text}
    (clean : zeroPoint ∉ printedParams q) :
    Straddles q source p origin ↔
      ∃ middle, p.sql = q.sql ++ zeroPoint :: middle ∧
        printedParams q ++ zeroPoint :: source.getD [] =
          middle ++ zeroPoint :: (printedParams p ++ zeroPoint :: origin.getD []) := by
  simp only [append_cons_eq_iff clean]
  constructor
  · rintro (⟨sql, named⟩ | ⟨between, sql, named⟩)
    · exact ⟨_, sql, .inl ⟨rfl, named⟩⟩
    · exact ⟨_, sql, .inr ⟨between, rfl, named⟩⟩
  · rintro ⟨middle, sql, ⟨rfl, named⟩ | ⟨between, rfl, named⟩⟩
    · exact .meeting sql named
    · exact .beyond between sql named

/-- The same is digested for two statements with parameters exactly when the statements, the printed
    parameters and the data sources are the same, or one statement straddles the border of the
    other. -/
theorem keyBytes_eq_iff {q p : Sql.Query} {source origin : Option Text} {bytes others : List UInt8}
    (params : (∀ d ∈ q.params, d.IsParam) ∧ ∀ d ∈ p.params, d.IsParam)
    (first : keyBytes q source = .ok bytes) (second : keyBytes p origin = .ok others) :
    bytes = others ↔
      (q.sql = p.sql ∧ printedParams q = printedParams p ∧ source.getD [] = origin.getD []) ∨
        Straddles q source p origin ∨ Straddles p origin q source := by
  have clean {r : Sql.Query} (all : ∀ d ∈ r.params, d.IsParam) : zeroPoint ∉ printedParams r :=
    (Datum.over_printed_tuple all).not_mem (by decide)
  have texts : bytes = others ↔ keyText q source = keyText p origin := by
    constructor
    · rintro rfl
      exact Utf8.encode_injective (encode_keyText first) (encode_keyText second)
    · intro same
      have encoded := encode_keyText first
      rw [same, encode_keyText second] at encoded
      exact (Except.ok.inj encoded).symm
  rw [texts, straddles_iff (clean params.1), straddles_iff (clean params.2)]
  exact append_border_iff ⟨clean params.1, clean params.2⟩

theorem keyBytes_eq_iff_meeting :
    let q : Sql.Query := .plain "SELECT 1"
    let p : Sql.Query := .plain "SELECT 1\x00()"
    ∃ bytes others, keyBytes q (some "()\x00b") = .ok bytes ∧ keyBytes p (some "b") = .ok others ∧
      Straddles q (some "()\x00b") p (some "b") ∧ bytes = others := by
  intro q p
  obtain ⟨bytes, first⟩ := exists_of_isOk (x := keyBytes q (some "()\x00b")) (by decide +kernel)
  obtain ⟨others, second⟩ := exists_of_isOk (x := keyBytes p (some "b")) (by decide +kernel)
  have none_bound : (∀ d ∈ q.params, d.IsParam) ∧ ∀ d ∈ p.params, d.IsParam := by
    simp [q, p, Sql.Query.plain]
  have meets : Straddles q (some "()\x00b") p (some "b") :=
    .meeting (by decide +kernel) (by decide +kernel)
  have same : bytes = others := (keyBytes_eq_iff none_bound first second).mpr (.inr (.inl meets))
  exact ⟨bytes, others, first, second, meets, same⟩

end Snapshot

def Turn.Report.columns (r : Turn.Report) : List Text :=
  match r.result with
  | .answer (.ok (.grid sheet)) => sheet.columns
  | _ => []

/-- A query is answered with the result of another one, which has another text. -/
theorem Session.query_answered_for_other :
    let settings : Settings := { Settings.default with cacheEnabled := true }
    let replying (name : Text) : List Reply := [.rows (.ofList [.text name] [[.int 1]] none)]
    let query : StatementRequest := ⟨"SELECT 1", some "()\x00b", none⟩
    let other : StatementRequest := ⟨"SELECT 1\x00()", some "b", none⟩
    query.sql ≠ other.sql ∧
      ((Session.start settings).run
        [(replying "own", .call (.ok (.call (.query query)))),
          (replying "other", .call (.ok (.call (.query other))))]).toOption.map
        (·.map fun report => (report.columns, report.statements.length)) =
          some [([Text.ofString "own"], 1), ([Text.ofString "own"], 0)] := by
  decide +kernel

end QueryDesk
