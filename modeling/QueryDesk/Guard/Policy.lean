import QueryDesk.Failure
import QueryDesk.Text.Lower

namespace QueryDesk

inductive Mode where
  | general
  | readOnly
deriving DecidableEq

namespace Guard

def forbiddenWords : Mode → List (List Char)
  | .general => [['d', 'r', 'o', 'p'], ['d', 'e', 'l', 'e', 't', 'e']]
  | .readOnly =>
    [['d', 'r', 'o', 'p'], ['d', 'e', 'l', 'e', 't', 'e'], ['i', 'n', 's', 'e', 'r', 't'],
      ['u', 'p', 'd', 'a', 't', 'e']]

def stands (word : List Char) : Text → Bool
  | [] => word.isEmpty
  | p :: rest => (Text.ofChars word).isPrefixOf (p :: rest) || stands word rest

def wordCause : Mode → ForbiddenCause
  | .general => .destructive
  | .readOnly => .notReadOnly

def checkWords (mode : Mode) (sql : Text) : Except ForbiddenCause Unit :=
  let lowered := sql.lowered
  if (forbiddenWords mode).any (stands · lowered) then .error (wordCause mode) else .ok ()

end Guard

/-- The kind of a statement. Every kind but a query goes by its name, in upper case. -/
inductive Kind where
  | query
  | other (name : String)
deriving DecidableEq

inductive Parsed where
  | missing
  | comment
  | statement (kind : Kind)

/-- The errors that a parser raises: its own for tokens that make no statement, its own for text that
    makes no tokens, and any others. -/
inductive ParserFault where
  | unparseable
  | untokenizable
  | other (kind message : Text)

structure SqlParser where
  parse : Text → Except ParserFault (List Parsed)

def Parsed.kind? : Parsed → Option Kind
  | statement kind => some kind
  | missing | comment => none

def SqlParser.kinds (p : SqlParser) (sql : Text) : Except ParserFault (List Kind) :=
  (p.parse sql).map (List.filterMap Parsed.kind?)

/-- The failure that an error of the parser ends the check with. Only text that makes no statements
    is a matter of the guard. -/
def ParserFault.failure : ParserFault → Failure
  | unparseable => .refused (.forbidden .unclassified)
  | untokenizable => .untokenizable
  | other kind message => .parser kind message

namespace Guard

def kindFault : List Kind → Option ForbiddenCause
  | [.query] => none
  | [.other name] => some (.statementKind name)
  | kinds => some (.statementCount kinds.length)

def checkKinds (p : SqlParser) (sql : Text) : Except Failure Unit :=
  match p.kinds sql with
  | .error fault => .error fault.failure
  | .ok kinds =>
    match kindFault kinds with
    | some cause => .error (.refused (.forbidden cause))
    | none => .ok ()

/-- How statements are judged: by the words in their texts, or by what a parser makes of them. -/
inductive Policy where
  | words
  | kinds (parser : SqlParser)

/-- The check of a statement under a policy. Blank texts are no statements. The strict policy makes no
    difference between modes. -/
def check (policy : Policy) (mode : Mode) (sql : Text) : Except Failure Unit :=
  if sql.isBlank then .error (.refused (.request .emptyStatement))
  else match policy with
    | .kinds p => checkKinds p sql
    | .words => (checkWords mode sql).mapError fun cause => .refused (.forbidden cause)

def isBlankByte (b : UInt8) : Bool := b == 0x20 || (0x09 ≤ b && b ≤ 0x0D)

/-- The check of a statement of any kind. No statement, and bytes without content, are an empty one;
    other bytes are neither searched for words nor read as tokens. -/
def checkDatum (policy : Policy) (mode : Mode) : Datum → Except Failure Unit
  | .text sql => check policy mode sql
  | .null => .error (.refused (.request .emptyStatement))
  | .bytes b | .buffer b =>
    .error (if b.all isBlankByte then .refused (.request .emptyStatement)
      else match policy with
        | .kinds _ => .untokenizable
        | .words => .unusable)
  | _ => .error .noAttribute

end Guard

end QueryDesk
