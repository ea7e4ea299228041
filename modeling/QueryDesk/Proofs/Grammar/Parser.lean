import QueryDesk.Grammar.Statement
import QueryDesk.Proofs.Guard.Strict

namespace QueryDesk

namespace SqlParser

variable {p : SqlParser} {judge : List Token → Except ParserFault Kind}

/-- The assumption that a parser reads tokens as the lexer does, parts them at separators and judges
    each statement among them by itself. -/
def PartsBy (p : SqlParser) (judge : List Token → Except ParserFault Kind) : Prop :=
  ∀ t, p.kinds t = match Lexer.tokens? t with
    | none => .error .untokenizable
    | some tokens => (Token.statements tokens).mapM judge

theorem PartsBy.reportsOpen (parts : p.PartsBy judge) : p.ReportsOpen := by
  intro t broken
  have raised := parts t
  rw [broken] at raised
  exact kinds_eq_error.mp raised

theorem PartsBy.kinds_of_tokens (parts : p.PartsBy judge) {t : Text} {tokens : List Token}
    (closed : Lexer.tokens? t = some tokens) :
    p.kinds t = (Token.statements tokens).mapM judge := by
  rw [parts t, closed]

theorem mapM_part (parts : List (List Token)) :
    (parts.mapM part).map (List.filterMap Parsed.kind?) =
      ((parts.map (Token.joined none)).filter (!·.isEmpty)).mapM judged := by
  induction parts with
  | nil => rfl
  | cons tokens rest ih =>
    rw [List.mapM_cons, List.map_cons, List.filter_cons]
    cases empty : (Token.joined none tokens).isEmpty with
    | true =>
      have first : part tokens = .ok (if tokens.isEmpty then .missing else .comment) := by
        simp only [part, empty, if_true]
      have silent : Parsed.kind? (if tokens.isEmpty then .missing else .comment) = none := by
        split <;> rfl
      simp only [first, Bool.not_true, Bool.false_eq_true, if_false, ← ih]
      cases rest.mapM part with
      | error fault => rfl
      | ok others => exact congrArg Except.ok (List.filterMap_cons_none silent)
    | false =>
      have first : part tokens = .statement <$> judged (Token.joined none tokens) := by
        simp only [part, empty, Bool.false_eq_true, if_false]
      simp only [first, Bool.not_false, if_true, List.mapM_cons, ← ih]
      cases judged (Token.joined none tokens) with
      | error fault => rfl
      | ok kind => cases rest.mapM part <;> rfl

theorem grammar_partsBy : grammar.PartsBy judged := by
  intro t
  simp only [kinds, grammar]
  cases Lexer.tokens? t with
  | none => rfl
  | some tokens => exact mapM_part _

end SqlParser

end QueryDesk
