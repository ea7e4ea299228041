import QueryDesk.Proofs.Grammar.Counting
import QueryDesk.Proofs.Grammar.Lexer
import QueryDesk.Proofs.Grammar.Parser
import QueryDesk.Proofs.Guard.Mention
import QueryDesk.Proofs.Sql.Compiled
import QueryDesk.Proofs.Sql.Name

namespace QueryDesk

namespace Lexer

variable {c : Char}

theorem toNat_lt_of_isNameChar (letter : Sql.isNameChar c = true) : c.toNat < 128 := by
  simp only [Sql.isNameChar, Char.isAlphanum, Bool.or_eq_true, beq_iff_eq] at letter
  rcases letter with (alpha | digit) | rfl
  · have range := Guard.isAlpha_iff_toNat.mp alpha
    omega
  · have range : 48 ≤ c.toNat ∧ c.toNat ≤ 57 := by
      simpa [Char.isDigit, UInt32.le_iff_toNat_le] using digit
    omega
  · decide

theorem isLetter_of_isNameChar (letter : Sql.isNameChar c = true) : isLetter c = true := by
  have all : ∀ n < 128, Sql.isNameChar (Char.ofNat n) = true → isLetter (Char.ofNat n) = true := by
    decide
  have own := all c.toNat (toNat_lt_of_isNameChar letter)
  rw [Char.ofNat_toNat] at own
  exact own letter

theorem scanFrom_letters (tokens : List Token) {cs : List Char} (all : ∀ c ∈ cs, isLetter c = true)
    (letters : List Char) : (⟨tokens, .word letters⟩ : Scan).scanFrom cs =
      ⟨tokens, .word (cs.reverse ++ letters)⟩ := by
  induction cs generalizing letters with
  | nil => rfl
  | cons c rest ih =>
    obtain ⟨letter, later⟩ := List.forall_mem_cons.mp all
    have step : (⟨tokens, .word letters⟩ : Scan).step c = ⟨tokens, .word (c :: letters)⟩ :=
      if_pos letter
    rw [Scan.scanFrom_cons, step, ih later, List.reverse_cons, List.append_assoc]
    rfl

def lead : List Char := ("SELECT COUNT(*) AS row_count FROM " : String).toList

def leadTokens : List Token :=
  [.name "SELECT", .name "COUNT", .sign "(", .sign "*", .sign ")", .name "AS", .name "ROW_COUNT",
    .name "FROM"]

theorem scanFrom_lead : Scan.start.scanFrom lead = ⟨leadTokens.reverse, .between⟩ := by
  rfl

def tableWord (cs : List Char) : String := String.ofList (upperCased ('d' :: cs))

theorem tokens?_lead {cs : List Char} (letters : ∀ c ∈ cs, Sql.isNameChar c = true) {u : Text}
    (ends : u = [] ∨ u = [.scalar '\n']) :
    tokens? (Text.ofChars (lead ++ 'd' :: cs) ++ u) = some (leadTokens ++ [.name (tableWord cs)]) := by
  have begun : (⟨leadTokens.reverse, .between⟩ : Scan).step 'd' = ⟨leadTokens.reverse, .word ['d']⟩ := by
    rfl
  have all : ∀ c ∈ cs, isLetter c = true := fun c member => isLetter_of_isNameChar (letters c member)
  have read : Scan.start.scanFrom (lead ++ 'd' :: cs) =
      ⟨leadTokens.reverse, .word (cs.reverse ++ ['d'])⟩ := by
    rw [Scan.scanFrom_append, scanFrom_lead, Scan.scanFrom_cons, begun, scanFrom_letters _ all]
  have chars : (Text.ofChars (lead ++ 'd' :: cs)).charsOr '\uFFFD' = lead ++ 'd' :: cs := by
    rw [Text.charsOr, Text.ofChars, List.map_map]
    exact List.map_id _
  have finished : (Scan.start.scanFrom (lead ++ 'd' :: cs)).finish =
      some (leadTokens ++ [.name (tableWord cs)]) := by
    rw [read]
    simp [Scan.finish, Mode.tokens?, wordToken, tableWord]
  rw [tokens?_eq_finish, charsOr_append, chars, Scan.scanFrom_append]
  generalize Scan.start.scanFrom (lead ++ 'd' :: cs) = s at finished
  rcases ends with rfl | rfl
  · exact finished
  · have feed : Text.charsOr '\uFFFD' [.scalar '\n'] = ['\n'] := rfl
    rw [feed, Scan.scanFrom_cons, Scan.step_newline finished]
    simp [Scan.scanFrom, Scan.finish, Mode.tokens?]

end Lexer

namespace Token

variable {name : String}

theorem joined_lead (unlike : Keyword.all.contains name = false)
    (single : Keyword.ofPair? "FROM" name = none) :
    joined none (Lexer.leadTokens ++ [.name name]) = .keyword "SELECT" :: Parse.counting name := by
  have count : Keyword.ofPair? "SELECT" "COUNT" = none := by decide
  have counted : Keyword.ofPair? "AS" "ROW_COUNT" = none := by decide
  have source : Keyword.ofPair? "ROW_COUNT" "FROM" = none := by decide
  have named : ofWord (some (.name "FROM")) name = .name name :=
    if_pos (by rw [unlike]; rfl)
  simp only [Lexer.leadTokens, List.cons_append, List.nil_append, joined, count, counted, source,
    single, named]
  rfl

def isData (word : String) : Bool := word.toByteArray.data.toList.take 5 == [68, 65, 84, 65, 95]

theorem isData_ofList (cs : List Char) :
    isData (String.ofList ('D' :: 'A' :: 'T' :: 'A' :: '_' :: cs)) = true := by
  have bytes : (String.ofList ('D' :: 'A' :: 'T' :: 'A' :: '_' :: cs)).toByteArray.data.toList.take 5 =
      [68, 65, 84, 65, 95] := by
    simp [List.utf8Encode]
    rfl
  exact beq_iff_eq.mpr bytes

theorem unlike_of_isData (data : isData name = true) :
    Keyword.all.contains name = false ∧ Keyword.ofPair? "FROM" name = none ∧
      (name == "VALUES") = false := by
  have words : (Keyword.all.all fun word => !isData word) = true := by decide +kernel
  have pairs : (Keyword.pairs.all fun pair => pair.1.1 != "FROM") = true := by decide
  refine ⟨Bool.eq_false_iff.mpr fun listed => ?_, ?_, beq_false_of_ne ?_⟩
  · have own := List.all_eq_true.mp words name (List.contains_iff_mem.mp listed)
    rw [data] at own
    cases own
  · refine List.lookup_eq_none_iff.mpr fun pair listed => ?_
    have own := List.all_eq_true.mp pairs pair listed
    refine bne_iff_ne.mpr fun same => ?_
    rw [← same] at own
    cases own
  · rintro rfl
    cases data

end Token

/-- The table of a data source is named in letters, but for a line feed at the end, and the word for
    it begins as the name of every such table. -/
theorem Sql.exists_letters_of_tableName {source : Text} {table : Sql.Name}
    (named : Sql.tableName source = .ok table) :
    ∃ cs u, table.text = Text.ofChars ('d' :: cs) ++ u ∧ (∀ c ∈ cs, isNameChar c = true) ∧
      (u = [] ∨ u = [.scalar '\n']) ∧ Token.isData (Lexer.tableWord cs) = true := by
  have text : table.text = tablePrefix ++ source.replacePoint '-' '_' := Name.ofText_eq_ok.mp named
  have start : Text.Over isNameChar tablePrefix :=
    Text.over_ofChars_iff.mpr (List.all_eq_true.mp (by decide))
  have rest := isNameRest_of_isName table.valid
  rw [text, isNameRest_append start] at rest
  obtain ⟨cs, u, same, letters, ends⟩ := exists_letters rest
  have begins : ∀ c ∈ ("ata_source_" : String).toList, isNameChar c = true :=
    List.all_eq_true.mp (by decide)
  refine ⟨("ata_source_" : String).toList ++ cs, u, ?_, ?_, ends, ?_⟩
  · rw [text, same]
    rfl
  · exact List.forall_mem_append.mpr ⟨begins, letters⟩
  · exact Token.isData_ofList (upperCased (("source_" : String).toList ++ cs))

theorem SqlParser.grammar_rowCount {source : Text} {table : Sql.Name}
    (named : Sql.tableName source = .ok table) :
    grammar.kinds (Sql.rowCount table.text).sql = .ok [.query] := by
  obtain ⟨cs, u, text, letters, ends, data⟩ := Sql.exists_letters_of_tableName named
  obtain ⟨unlike, single, other⟩ := Token.unlike_of_isData data
  have sql : (Sql.rowCount table.text).sql = Text.ofChars (Lexer.lead ++ 'd' :: cs) ++ u := by
    have whole : (Sql.rowCount table.text).sql = Text.ofChars Lexer.lead ++ table.text := rfl
    rw [whole, text, ← List.append_assoc, Text.ofChars, Text.ofChars, ← List.map_append]
    rfl
  have closed : Lexer.tokens? (Sql.rowCount table.text).sql =
      some (Lexer.leadTokens ++ [.name (Lexer.tableWord cs)]) := by
    rw [sql]
    exact Lexer.tokens?_lead letters ends
  have unparted : Token.separator ∉ Lexer.leadTokens ++ [.name (Lexer.tableWord cs)] := by
    simp [Lexer.leadTokens, Token.separator]
  have statement : Token.statements (Lexer.leadTokens ++ [.name (Lexer.tableWord cs)]) =
      [.keyword "SELECT" :: Parse.counting (Lexer.tableWord cs)] := by
    rw [Token.statements_of_unparted unparted, Token.joined_lead unlike single]
    rfl
  have query : judged (.keyword "SELECT" :: Parse.counting (Lexer.tableWord cs)) = .ok .query := by
    rw [judged, Parse.ofTokens?_counting other]
    rfl
  rw [grammar_partsBy.kinds_of_tokens closed, statement, mapM_eq_ok]
  exact .cons query .nil

end QueryDesk
