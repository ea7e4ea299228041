import QueryDesk.Grammar.Token
import QueryDesk.Guard.Policy

namespace QueryDesk

inductive Clause where
  | condition
  | grouping
  | groupCondition
  | windowCondition
  | windows
  | order
  | limit
  | offset
  | lock
  | sample
  | cluster
  | distribution
  | sorting
  | hierarchy
deriving DecidableEq

/-- A part of a statement. A query in parentheses is `bare` when nothing belongs to it but the query
    within; whatever stands in for a table may have been given a name. A column has up to four parts
    with points between them, of which the last one's letters are kept. -/
inductive Node where
  | query (used : List Clause)
  | enclosed (inner : Node) (bare named : Bool) (used : List Clause)
  | values (named : Bool)
  | table (used : List Clause)
  | unnest (named : Bool)
  | identifier (letters : String) (quoted : Bool)
  | column (parts : Nat) (letters : String) (quoted : Bool)
  | text (content : List Char)
  | number
  | call (kind : String) (aggregate : Bool)
  | window
  | paren (aggregate : Bool)
  | dataType (name : String) (detailed : Bool)
  | cast (kind target : String)
  | interval (letters : Option String)
  | slice (keyed valued : Bool)
  | other (kind : String)

namespace Node

def kind : Node → Kind
  | query _ | enclosed .. => .query
  | values _ => .other "VALUES"
  | table _ => .other "TABLE"
  | unnest _ => .other "UNNEST"
  | identifier .. => .other "IDENTIFIER"
  | column .. => .other "COLUMN"
  | text _ | number => .other "LITERAL"
  | call kind _ | cast kind _ | other kind => .other kind
  | window => .other "WINDOW"
  | paren _ => .other "PAREN"
  | dataType .. => .other "DATATYPE"
  | interval _ => .other "INTERVAL"
  | slice .. => .other "SLICE"

def is (name : String) (n : Node) : Bool := n.kind = .other name

def isQuery (n : Node) : Bool := n.kind = .query

def used? : Node → Option (List Clause)
  | query used | enclosed _ _ _ used | table used => some used
  | values _ => some []
  | _ => none

def use (clauses : List Clause) : Node → Node
  | query used => query (clauses ++ used)
  | enclosed inner _ named used => enclosed inner false named (clauses ++ used)
  | table used => table (clauses ++ used)
  | n => n

def extended : Node → Node
  | enclosed inner _ named used => enclosed inner false named used
  | n => n

def unwrapped : Node → Node
  | enclosed inner true _ _ => inner.unwrapped
  | n => n

def kindsAfterPreamble : List String := ["CREATE", "DELETE", "INSERT", "MERGE", "PIVOT", "UPDATE"]

def takesPreamble (n : Node) : Bool := n.isQuery || kindsAfterPreamble.any n.is

def isCall : Node → Bool
  | call .. | window => true
  | _ => false

end Node

end QueryDesk
