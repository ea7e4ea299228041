import QueryDesk.Proofs.Grammar.Parser
import QueryDesk.Proofs.Grammar.Quoted
import QueryDesk.Proofs.Outcome

namespace QueryDesk

namespace Guard

open Lexer (Idle Inside Scan CommentMarks closes_plain)
open Token (separator gap statements)

variable {p : SqlParser} {judge : List Token → Except ParserFault Kind} {mode : Mode} {t : Text}

theorem check_parts_eq_ok_iff (parts : p.PartsBy judge) :
    check (.kinds p) mode t = .ok () ↔ t.isBlank = false ∧
      ∃ tokens s, Lexer.tokens? t = some tokens ∧ statements tokens = [s] ∧ judge s = .ok .query := by
  rw [check_eq_iff]
  constructor
  · intro verdict
    cases verdict with
    | query full known =>
      cases closed : Lexer.tokens? t with
      | none => cases known.symm.trans (SqlParser.kinds_eq_error.mpr (parts.reportsOpen t closed))
      | some tokens =>
        rw [parts.kinds_of_tokens closed, mapM_eq_ok] at known
        obtain ⟨s, _, first, rest, single⟩ := List.forall₂_cons_right_iff.mp known
        cases rest
        exact ⟨full, tokens, s, rfl, single, first⟩
  · rintro ⟨full, tokens, s, closed, single, first⟩
    refine .query full ?_
    rw [parts.kinds_of_tokens closed, single, mapM_eq_ok]
    exact .cons first .nil

theorem isBlank_append (full : t.isBlank = false) (u : Text) : (t ++ u).isBlank = false := by
  unfold Text.isBlank at full ⊢
  rw [List.all_append, full, Bool.false_and]

/-- Let a parser part tokens at separators. A text that the strict guard accepts with it is accepted
    with comments, white space and semicolons behind it, and never with anything else behind a
    semicolon. The semicolons that stand within its quotes and comments are no separators. The mode
    makes no difference. -/
theorem single_statement (parts : p.PartsBy judge) (accepted : check (.kinds p) mode t = .ok ()) :
    (∀ u : Text, Idle (u.charsOr '\uFFFD') →
      check (.kinds p) mode (t ++ .scalar '\n' :: u) = .ok ()) ∧
    (∀ u : Text,
      (∀ tokens, Lexer.tokens? u = some tokens → ∃ t ∈ tokens, t ≠ separator ∧ t ≠ gap) →
      check (.kinds p) mode (t ++ .scalar '\n' :: .scalar ';' :: u) ≠ .ok ()) ∧
    (∀ b q : Text, t = b ++ .scalar ';' :: q →
      Inside (Scan.start.scanFrom (b.charsOr '\uFFFD')).mode (q.charsOr '\uFFFD') →
      ∃ tokens others, Lexer.tokens? t = some tokens ∧
        Lexer.tokens? (b ++ .scalar ' ' :: q) = some others ∧
        tokens.count separator = others.count separator ∧
        (statements tokens).length = 1 ∧ (statements others).length = 1) ∧
    ∀ u : Text, check (.kinds p) .general u = check (.kinds p) .readOnly u := by
  obtain ⟨full, tokens, s, closed, single, known⟩ := (check_parts_eq_ok_iff parts).mp accepted
  refine ⟨?_, ?_, ?_, fun _ => rfl⟩
  · intro u idle
    obtain ⟨extra, none_solid, whole⟩ := Lexer.tokens?_append_idle closed idle
    have same : statements (tokens ++ extra) = [s] :=
      (Token.statements_append_idle none_solid).trans single
    exact (check_parts_eq_ok_iff parts).mpr ⟨isBlank_append full _, _, s, whole, same, known⟩
  · intro u solid again
    obtain ⟨-, whole, s', read, alone, -⟩ := (check_parts_eq_ok_iff parts).mp again
    rw [Lexer.tokens?_append_separator closed] at read
    obtain ⟨own, closed', rfl⟩ := Option.map_eq_some_iff.mp read
    have later : statements own ≠ [] := Token.statements_ne_nil (solid own closed')
    rw [Token.statements_append_separator, single] at alone
    exact later (List.cons.inj alone).2
  · rintro b q rfl inside
    have twins := Lexer.resembles_of_inside inside
    rw [closed] at twins
    cases spaced : Lexer.tokens? (b ++ .scalar ' ' :: q) with
    | none =>
      rw [spaced] at twins
      cases twins
    | some others =>
      rw [spaced] at twins
      cases twins with
      | some resembles =>
        have one : (statements tokens).length = 1 := by rw [single]; rfl
        exact ⟨tokens, others, closed, rfl, resembles.count, one,
          resembles.length_statements.symm.trans one⟩

theorem single_statement_quoted :
    check (.kinds .grammar) .readOnly (("SELECT ';'" : Text) ++ .scalar '\n' :: "/* ; */ ; -- ;") = .ok () := by
  obtain ⟨_, accepted⟩ := exists_of_isOk (x := check (.kinds .grammar) .readOnly "SELECT ';'") (by decide +kernel)
  have chars : Text.charsOr '\uFFFD' "/* ; */ ; -- ;" = CommentMarks.slashes.opening ++
      ([' ', ';', ' '] ++ ['*', '/']) ++ ' ' :: ';' :: ' ' :: '-' :: '-' :: [' ', ';'] := rfl
  have idle : Idle (Text.charsOr '\uFFFD' "/* ; */ ; -- ;") := by
    rw [chars]
    refine .comment (closes_plain (by simp) (.inl rfl)) (.blank (by decide) (.separator ?_))
    exact .blank (by decide) (.last (by simp [Lexer.IsLine]))
  exact (single_statement SqlParser.grammar_partsBy accepted).1 _ idle

end Guard

end QueryDesk
