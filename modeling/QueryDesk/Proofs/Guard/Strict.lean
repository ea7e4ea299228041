import Mathlib.Logic.Basic
import QueryDesk.Grammar.Lexer
import QueryDesk.Guard.Policy

namespace QueryDesk

namespace SqlParser

variable {p : SqlParser} {t : Text}

@[simp]
theorem kinds_eq_error {fault : ParserFault} :
    p.kinds t = .error fault ↔ p.parse t = .error fault := by
  unfold kinds
  cases p.parse t <;> simp [Except.map]

/-- The assumption that a text in which a quote or a comment is open makes no tokens. -/
def ReportsOpen (p : SqlParser) : Prop :=
  ∀ t, Lexer.tokens? t = none → p.parse t = .error .untokenizable

end SqlParser

namespace Guard

variable {p : SqlParser} {t : Text} {outcome : Except Failure Unit}

/-- Why a text cannot be read: the parser raises an error other than the one for statements that it
    does not know. -/
inductive Unreadable (p : SqlParser) (t : Text) : Failure → Prop
  | unclosed (broken : p.parse t = .error .untokenizable) : Unreadable p t .untokenizable
  | other {kind message} (raised : p.parse t = .error (.other kind message)) :
    Unreadable p t (.parser kind message)

/-- Why a text is forbidden: one of its statements is unknown to the parser, there is not exactly
    one, or the one there is no query. -/
inductive Forbids (p : SqlParser) (t : Text) : ForbiddenCause → Prop
  | unclassified (unknown : p.parse t = .error .unparseable) : Forbids p t .unclassified
  | several {kinds : List Kind} (known : p.kinds t = .ok kinds) (count : kinds.length ≠ 1) :
    Forbids p t (.statementCount kinds.length)
  | kind {name} (known : p.kinds t = .ok [.other name]) : Forbids p t (.statementKind name)

inductive Verdict (p : SqlParser) (t : Text) : Except Failure Unit → Prop
  | blank (empty : t.isBlank = true) : Verdict p t (.error (.refused (.request .emptyStatement)))
  | unreadable {failure} (full : t.isBlank = false) (unreadable : Unreadable p t failure) :
    Verdict p t (.error failure)
  | forbidden {cause} (full : t.isBlank = false) (forbids : Forbids p t cause) :
    Verdict p t (.error (.refused (.forbidden cause)))
  | query (full : t.isBlank = false) (known : p.kinds t = .ok [.query]) : Verdict p t (.ok ())

theorem kindFault_eq_count {kinds : List Kind} (count : kinds.length ≠ 1) :
    kindFault kinds = some (.statementCount kinds.length) := by
  unfold kindFault
  split
  · exact absurd rfl count
  · exact absurd rfl count
  · rfl

theorem check_of_full (full : t.isBlank = false) (mode : Mode) :
    check (.kinds p) mode t = checkKinds p t := by
  simp only [check, full, Bool.false_eq_true, if_false]

theorem checkKinds_of_fault {fault : ParserFault} (raised : p.parse t = .error fault) :
    checkKinds p t = .error fault.failure := by
  simp only [checkKinds, SqlParser.kinds_eq_error.mpr raised]

theorem checkKinds_of_cause {kinds : List Kind} {cause : ForbiddenCause}
    (known : p.kinds t = .ok kinds) (fault : kindFault kinds = some cause) :
    checkKinds p t = .error (.refused (.forbidden cause)) := by
  simp only [checkKinds, known, fault]

theorem checkKinds_of_query (known : p.kinds t = .ok [.query]) : checkKinds p t = .ok () := by
  simp only [checkKinds, known, kindFault]

theorem verdict_check (p : SqlParser) (mode : Mode) (t : Text) :
    Verdict p t (check (.kinds p) mode t) := by
  cases full : t.isBlank with
  | true =>
    simp only [check, full, if_true]
    exact .blank full
  | false =>
    rw [check_of_full full]
    cases known : p.kinds t with
    | error fault =>
      have raised := SqlParser.kinds_eq_error.mp known
      rw [checkKinds_of_fault raised]
      cases fault with
      | unparseable => exact .forbidden full (.unclassified raised)
      | untokenizable => exact .unreadable full (.unclosed raised)
      | other kind message => exact .unreadable full (.other raised)
    | ok kinds =>
      by_cases count : kinds.length = 1
      · obtain ⟨kind, rfl⟩ := List.length_eq_one_iff.mp count
        cases kind with
        | query =>
          rw [checkKinds_of_query known]
          exact .query full known
        | other name =>
          rw [checkKinds_of_cause known rfl]
          exact .forbidden full (.kind known)
      · rw [checkKinds_of_cause known (kindFault_eq_count count)]
        exact .forbidden full (.several known count)

theorem check_eq_iff {mode : Mode} : check (.kinds p) mode t = outcome ↔ Verdict p t outcome := by
  refine ⟨fun checked => checked ▸ verdict_check p mode t, fun verdict => ?_⟩
  cases verdict with
  | blank empty => simp only [check, empty, if_true]
  | unreadable full unreadable =>
    rw [check_of_full full]
    cases unreadable with
    | unclosed broken => exact checkKinds_of_fault broken
    | other raised => exact checkKinds_of_fault raised
  | forbidden full forbids =>
    rw [check_of_full full]
    cases forbids with
    | unclassified unknown => exact checkKinds_of_fault unknown
    | several known count => exact checkKinds_of_cause known (kindFault_eq_count count)
    | kind known => exact checkKinds_of_cause known rfl
  | query full known => rw [check_of_full full, checkKinds_of_query known]

end Guard

namespace Lexer

/-- The marks that open a quote or a comment, each with a character that only what closes it can
    bring. -/
inductive Opens : List Char → Char → Prop
  | text : Opens ['\''] '\''
  | name : Opens ['"'] '"'
  | comment : Opens ['/', '*'] '/'

inductive IsOpen : Char → Mode → Prop
  | text (content) : IsOpen '\'' (.text .plain content)
  | name (content) : IsOpen '"' (.name content)
  | comment (depth edge) : IsOpen '/' (.comment .slashes depth edge)

section Open

variable {mark : List Char} {closer : Char}

theorem isOpen_of_opens (opens : Opens mark closer) (tokens : List Token) :
    IsOpen closer (Scan.scanFrom ⟨tokens, .between⟩ mark).mode := by
  cases opens with
  | text => exact .text []
  | name => exact .name []
  | comment => exact .comment 1 .opened

theorem IsOpen.step {s : Scan} (isOpen : IsOpen closer s.mode) {c : Char} (other : c ≠ closer) :
    IsOpen closer (s.step c).mode := by
  obtain ⟨tokens, mode⟩ := s
  cases isOpen with
  | text content =>
    have escapes : ¬ (c = '\\' ∧ Quoting.plain = .escaped) := by
      rintro ⟨-, escaped⟩
      cases escaped
    simp only [Scan.step, Scan.stepPlain, if_neg other, if_neg escapes]
    exact .text _
  | name content =>
    simp only [Scan.step, Scan.stepPlain, if_neg other]
    exact .name _
  | comment depth edge =>
    have goes_on : ∃ depth' edge', commentNext .slashes depth edge c =
        some (.comment .slashes depth' edge') := by
      have goes : CommentMarks.slashes.mark edge c ≠ .closes := by
        intro closes
        cases edge with
        | opening =>
          simp only [CommentMarks.mark] at closes
          split at closes <;> cases closes
        | closing =>
          simp only [CommentMarks.mark, if_neg other] at closes
          cases closes
        | _ => cases closes
      unfold commentNext
      split
      · exact ⟨_, _, rfl⟩
      · exact absurd ‹_› goes
      · exact ⟨_, _, rfl⟩
    obtain ⟨depth', edge', next⟩ := goes_on
    simp only [Scan.step, Scan.stepPlain, next]
    exact .comment depth' edge'

theorem IsOpen.scan {s : Scan} (isOpen : IsOpen closer s.mode) {cs : List Char}
    (absent : closer ∉ cs) : IsOpen closer (s.scanFrom cs).mode := by
  induction cs generalizing s with
  | nil => exact isOpen
  | cons c rest ih =>
    obtain ⟨other, later⟩ := not_or.mp (List.mem_cons.not.mp absent)
    exact ih (isOpen.step fun same => other same.symm) later

theorem IsOpen.finish {s : Scan} (isOpen : IsOpen closer s.mode) : s.finish = none := by
  obtain ⟨tokens, mode⟩ := s
  cases isOpen <;> rfl

theorem tokens?_of_opens {t : Text} (opens : Opens mark closer) {tokens : List Token}
    (closed : tokens? t = some tokens) {u : Text} (absent : .scalar closer ∉ u) :
    tokens? (t ++ Text.ofChars ('\n' :: mark) ++ u) = none := by
  have chars : (t ++ Text.ofChars ('\n' :: mark) ++ u).charsOr '\uFFFD' =
      t.charsOr '\uFFFD' ++ '\n' :: (mark ++ u.charsOr '\uFFFD') := by
    have own : (Text.ofChars ('\n' :: mark)).charsOr '\uFFFD' = '\n' :: mark := by
      rw [Text.charsOr, Text.ofChars, List.map_map]
      exact List.map_id _
    simp only [Text.charsOr, List.map_append] at own ⊢
    rw [own, List.append_assoc, List.cons_append]
  have later : closer ∉ u.charsOr '\uFFFD' := by
    rw [Text.charsOr, List.mem_map]
    rintro ⟨p, member, same⟩
    cases p with
    | scalar c => exact absent (same ▸ member)
    | surrogate n => cases opens <;> cases same
  rw [tokens?, chars, Scan.scanFrom_append]
  show ((((Scan.start.scanFrom (t.charsOr '\uFFFD')).step '\n').scanFrom _).finish) = none
  rw [Scan.step_newline closed, Scan.scanFrom_append]
  exact ((isOpen_of_opens opens _).scan later).finish

end Open

end Lexer

end QueryDesk
