import QueryDesk.Grammar.Statement

namespace QueryDesk

namespace Parse

section Bind

variable {α β : Type} {p : Parse α} {f : α → Parse β} {rules : Rules} {place next : Place} {a : α}

theorem bind_of_ok (first : p rules place = .ok (a, next)) :
    (p >>= f) rules place = f a rules next := by
  simp only [bind, ReaderT.bind, StateT.bind, Except.bind, first]

end Bind

abbrev deep (more k : Nat) : Rules := derive Rule.content (more + k)

variable {name : String} (other : (name == "VALUES") = false)

include other

theorem rows_name (rules : Rules) (last : Option Token) :
    rows rules ⟨[.name name], last⟩ = .ok (none, ⟨[.name name], last⟩) := by
  have opened : takeAll [(·.isSign ["("]), (·.isKeyword ["VALUES"])] rules ⟨[.name name], last⟩ =
      .ok (false, ⟨[.name name], last⟩) := rfl
  have reads : Token.reads ["VALUES"] (.name name) = false := by
    simp only [Token.reads, Token.letters?, Option.any_some, List.contains_cons, List.contains_nil,
      Bool.or_false, other]
  have word : word "VALUES" rules ⟨[.name name], last⟩ = .ok (false, ⟨[.name name], last⟩) := by
    show (if Token.reads ["VALUES"] (.name name) = true then _ else _ : Parse Bool) rules _ = _
    rw [reads]
    rfl
  have begun : (pure false <||> Parse.word "VALUES" <||> words ["FORMAT", "VALUES"] : Parse Bool) rules
      ⟨[.name name], last⟩ = .ok (false, ⟨[.name name], last⟩) := by
    show (Parse.word "VALUES" <||> words ["FORMAT", "VALUES"] : Parse Bool) rules _ = _
    exact bind_of_ok word
  unfold rows
  rw [bind_of_ok opened]
  exact bind_of_ok begun

theorem table_name (more : Nat) (last : Option Token) :
    table .plain (deep more 10) ⟨[.name name], last⟩ =
      .ok (some (.table []), ⟨[], some (.name name)⟩) := by
  have colon : seesSecond (·.isSign [":"]) (deep more 10) ⟨[.name name], last⟩ =
      .ok (false, ⟨[.name name], last⟩) := rfl
  have spelled : firstOf [rows] (deep more 10) ⟨[.name name], last⟩ =
      .ok (none, ⟨[.name name], last⟩) := bind_of_ok (rows_name other _ last)
  have instead : firstOf [lateral, unnested true, rows] (deep more 10) ⟨[.name name], last⟩ =
      .ok (none, ⟨[.name name], last⟩) := spelled
  have query : call (.query .ofTable) (deep more 10) ⟨[.name name], last⟩ =
      .ok (none, ⟨[.name name], last⟩) := by rfl
  have named : namedTable .plain (deep more 10) ⟨[.name name], last⟩ =
      .ok (some (.table []), ⟨[], some (.name name)⟩) := by rfl
  unfold table
  rw [bind_of_ok colon]
  simp only [Bool.false_eq_true, if_false]
  rw [bind_of_ok instead]
  dsimp only
  rw [bind_of_ok query]
  exact named

theorem source_name (more : Nat) (last : Option Token) :
    source .plain (deep more 11) ⟨[.keyword "FROM", .name name], last⟩ =
      .ok (true, ⟨[], some (.name name)⟩) := by
  have table : call (.table .plain) (deep more 11) ⟨[.name name], some (.keyword "FROM")⟩ =
      .ok (some (.table []), ⟨[], some (.name name)⟩) := table_name other more _
  have needed : (call (.table .plain) >>= fun found => need found >>= fun _ => pure true)
      (deep more 11) ⟨[.name name], some (.keyword "FROM")⟩ = .ok (true, ⟨[], some (.name name)⟩) :=
    bind_of_ok table
  exact needed

omit other in
def counting (name : String) : List Token :=
  [.name "COUNT", .sign "(", .sign "*", .sign ")", .keyword "AS", .name "ROW_COUNT", .keyword "FROM",
    .name name]

set_option maxRecDepth 2000 in
theorem selection_counting (more : Nat) :
    selection false (deep more 40) ⟨counting name, some (.keyword "SELECT")⟩ =
      .ok (some (.query []), ⟨[], some (.name name)⟩) := by
  have shape : shape (deep more 40) ⟨counting name, some (.keyword "SELECT")⟩ =
      .ok ((), ⟨counting name, some (.keyword "SELECT")⟩) := by rfl
  obtain ⟨columns, listed⟩ : ∃ columns, list (call .expression) (deep more 40)
      ⟨counting name, some (.keyword "SELECT")⟩ =
        .ok (columns, ⟨[.keyword "FROM", .name name], some (.name "ROW_COUNT")⟩) := ⟨_, by rfl⟩
  have nowhere : destination (deep more 40) ⟨[.keyword "FROM", .name name], some (.name "ROW_COUNT")⟩ =
      .ok ((), ⟨[.keyword "FROM", .name name], some (.name "ROW_COUNT")⟩) := by rfl
  have sourced := source_name other (more + 29) (some (.name "ROW_COUNT"))
  unfold selection
  rw [bind_of_ok shape, bind_of_ok listed, bind_of_ok nowhere]
  simp only [Bool.false_eq_true, if_false]
  rw [bind_of_ok sourced]
  rfl

theorem query_counting (more : Nat) :
    query .plain (deep more 40) ⟨.keyword "SELECT" :: counting name, none⟩ =
      .ok (some (.query []), ⟨[], some (.name name)⟩) := by
  have early : preamble (deep more 40) ⟨.keyword "SELECT" :: counting name, none⟩ =
      .ok (false, ⟨.keyword "SELECT" :: counting name, none⟩) := by rfl
  have summary : keyword "SUMMARIZE" (deep more 40) ⟨.keyword "SELECT" :: counting name, none⟩ =
      .ok (false, ⟨.keyword "SELECT" :: counting name, none⟩) := by rfl
  have sourced : source .joinable (deep more 40) ⟨.keyword "SELECT" :: counting name, none⟩ =
      .ok (false, ⟨.keyword "SELECT" :: counting name, none⟩) := by rfl
  have selected : keyword "SELECT" (deep more 40) ⟨.keyword "SELECT" :: counting name, none⟩ =
      .ok (true, ⟨counting name, some (.keyword "SELECT")⟩) := by rfl
  have plain : plainQuery (deep more 40) ⟨.keyword "SELECT" :: counting name, none⟩ =
      .ok (some (.query []), ⟨[], some (.name name)⟩) := by
    unfold plainQuery
    rw [bind_of_ok sourced, bind_of_ok selected]
    exact selection_counting other more
  unfold query
  rw [bind_of_ok early]
  simp only [QueryForm.plain, Bool.or_false, Bool.false_eq_true, if_false, if_true]
  rw [bind_of_ok summary]
  simp only [Bool.false_eq_true, if_false]
  rw [bind_of_ok plain]
  rfl

set_option maxRecDepth 2000 in
theorem statement_counting (more : Nat) :
    statement (deep more 42) ⟨.keyword "SELECT" :: counting name, none⟩ =
      .ok (some (.query []), ⟨[], some (.name name)⟩) := by
  have start : (get : Parse Place) (deep more 42) ⟨.keyword "SELECT" :: counting name, none⟩ =
      .ok (⟨.keyword "SELECT" :: counting name, none⟩,
        ⟨.keyword "SELECT" :: counting name, none⟩) := rfl
  have unlike : statementAfter ⟨.keyword "SELECT" :: counting name, none⟩ "SELECT" = none := by rfl
  have command : keywordOf Keyword.commands (deep more 42)
      ⟨.keyword "SELECT" :: counting name, none⟩ =
        .ok (false, ⟨.keyword "SELECT" :: counting name, none⟩) := rfl
  have neither : firstOf [wholeTable, call .expression] (deep more 42)
      ⟨.keyword "SELECT" :: counting name, none⟩ =
        .ok (none, ⟨.keyword "SELECT" :: counting name, none⟩) := by rfl
  have query : call (.query .plain) (deep more 42) ⟨.keyword "SELECT" :: counting name, none⟩ =
      .ok (some (.query []), ⟨[], some (.name name)⟩) := query_counting other (more + 1)
  unfold statement
  rw [bind_of_ok start]
  simp only [List.head?_cons]
  rw [unlike]
  dsimp only
  rw [bind_of_ok command]
  simp only [Bool.false_eq_true, if_false]
  unfold queryStatement
  rw [bind_of_ok neither]
  dsimp only
  rw [bind_of_ok query]
  rfl

theorem ofTokens?_counting :
    Kind.ofTokens? (.keyword "SELECT" :: counting name) = .ok .query := by
  have read : derive Rule.content (Kind.depth 9) .statement ⟨.keyword "SELECT" :: counting name, none⟩ =
      .ok (some (.query []), ⟨[], some (.name name)⟩) := statement_counting other 1857
  have length : (Token.keyword "SELECT" :: counting name).length = 9 := rfl
  rw [Kind.ofTokens?, length, read]
  rfl

end Parse

end QueryDesk
