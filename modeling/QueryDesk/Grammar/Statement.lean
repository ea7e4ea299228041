import QueryDesk.Grammar.Lexer
import QueryDesk.Grammar.Session

namespace QueryDesk

namespace Parse

def statementAfter (start : Place) (letters : String) : Option (Parse (Option Node)) :=
  match letters with
  | "ALTER" => some alter
  | "ANALYZE" => some analysis
  | "ATTACH" => some (attachment "ATTACH")
  | "BEGIN" => some beginning
  | "CACHE" => some caching
  | "COMMENT" => some comment
  | "COMMIT" => some (ending "COMMIT")
  | "COPY" => some copy
  | "CREATE" => some create
  | "DELETE" => some delete
  | "DESC" | "DESCRIBE" => some description
  | "DETACH" => some (attachment "DETACH")
  | "DROP" => some drop
  | "FORCE" => some forced
  | "GRANT" => some (privileges "GRANT" "TO")
  | "INSERT" => some insert
  | "INSTALL" => some installation
  | "KILL" => some killing
  | "LOAD" => some loading
  | "MERGE" => some merge
  | "PIVOT" | "PIVOT_WIDER" | "UNPIVOT" => some pivotStatement
  | "PRAGMA" => some pragma
  | "REVOKE" => some revocation
  | "ROLLBACK" => some (ending "ROLLBACK")
  | "SET" => some setting
  | "SHOW" => some showing
  | "TRUNCATE" => some (truncate start)
  | "UNCACHE" => some uncaching
  | "UPDATE" => some update
  | "USE" => some usage
  | _ => none

def commandAfter (start : Place) : Parse (Option Node) := do
  if start.last.isNone then command
  else
    let _ ← text
    made "COMMAND"

def queryStatement : Parse (Option Node) := do
  let found ← match ← firstOf [wholeTable, call .expression] with
    | some n => call (.combination n)
    | none => call (.query .plain)
  match found with
  | some n => call (.modified n)
  | none => return none

def statement : Parse (Option Node) := do
  let start ← get
  match start.rest.head? with
  | some (.keyword letters) =>
    match statementAfter start letters with
    | some body => skip; body
    | none =>
      if ← keywordOf Keyword.commands then commandAfter start else queryStatement
  | some _ => queryStatement
  | none => return none

end Parse

def Rule.content : Rule → Parse (Option Node)
  | .statement => Parse.statement
  | .expression => Parse.expression
  | .assignment => Parse.assignment
  | .disjunction => Parse.disjunction
  | .equality => Parse.equality
  | .bitwise => Parse.bitwise
  | .term => Parse.term
  | .factor => Parse.factor
  | .unary => Parse.unary
  | .operand => Parse.operand
  | .furtherInterval => Parse.furtherInterval
  | .column => Parse.column
  | .primary => Parse.primary
  | .argument named => Parse.argument named
  | .call form => Parse.callIn form
  | .dataType form => Parse.dataType form
  | .columnDefinition => Parse.definition
  | .tableItem => Parse.tableItem
  | .ordering => Parse.ordering
  | .query form => Parse.query form
  | .combination first => Parse.combination first
  | .modified n => Parse.modified n
  | .membership value => Parse.membershipTest value
  | .table form => Parse.table form
  | .join => Parse.join
  | .property => Parse.property

namespace Kind

/-- How deep rules may refer to one another in the reading of so many tokens. Between two tokens that
    are taken there are fewer references than this allows. -/
def depth (tokens : Nat) : Nat := 100 * (tokens + 10)

def ofTokens? (tokens : List Token) : Except ParseFault Kind :=
  match Parse.derive Rule.content (depth tokens.length) .statement ⟨tokens, none⟩ with
  | .error fault => .error fault
  | .ok (some n, ⟨[], _⟩) => .ok n.kind
  | .ok _ => .error .unclassified

end Kind

def ParseFault.reported : ParseFault → ParserFault
  | .unclassified => .unparseable
  | .overrun => .other "IndexError" "list index out of range"

namespace SqlParser

def judged (statement : List Token) : Except ParserFault Kind :=
  (Kind.ofTokens? statement).mapError ParseFault.reported

def part (tokens : List Token) : Except ParserFault Parsed :=
  let own := Token.joined none tokens
  if own.isEmpty then .ok (if tokens.isEmpty then .missing else .comment)
  else .statement <$> judged own

def grammar : SqlParser where
  parse sql :=
    match Lexer.tokens? sql with
    | none => .error .untokenizable
    | some tokens => (tokens.splitOn Token.separator).mapM part

end SqlParser

end QueryDesk
