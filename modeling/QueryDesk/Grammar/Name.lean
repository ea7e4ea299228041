import QueryDesk.Grammar.Parse

namespace QueryDesk

namespace Token

def isName : Token → Bool
  | name _ | quotedName _ => true
  | keyword letters => Keyword.names.contains letters
  | _ => false

def isTableName (t : Token) : Bool := t.isName && !t.isKeyword Keyword.unfitForTables

def isPlainWord : Token → Bool
  | name _ => true
  | _ => false

def isReserved : Token → Bool
  | sign spelling => spelling.length = 1 || spelling = "=="
  | keyword letters => ["SELECT", "NOT", "UNKNOWN"].contains letters
  | _ => false

def isText : Token → Bool
  | text .plain _ => true
  | _ => false

def isNumber : Token → Bool
  | number => true
  | _ => false

def asName (t : Token) : Node :=
  match t with
  | quotedName letters => .identifier letters true
  | text .. => .identifier "" true
  | t => .identifier (t.letters?.getD "") false

end Token

namespace Parse

def placeholder : Parse (Option Node) := do
  if ← sign "?" then made "PLACEHOLDER"
  else if ← takeAll [Token.isParameterSign, fun t => t.isNumber || t.isName] then made "PLACEHOLDER"
  else if ← takeAll [(·.isSign [":"]), Token.isName] then made "PLACEHOLDER"
  else return none

def nameOf (test : Token → Bool) : Parse (Option Node) := do
  match ← peek with
  | some t => if test t then skip; return some t.asName else return none
  | none => return none

def quotedName : Parse (Option Node) :=
  firstOf [nameOf fun t => t matches .quotedName _, placeholder]

def nameAmong (test : Token → Bool) : Parse (Option Node) := firstOf [quotedName, nameOf test]

def name : Parse (Option Node) := nameAmong Token.isName

def announcedName : Parse (Option Node) := nameAmong (!·.isReserved)

def plainWord : Parse (Option Node) := firstOf [nameOf Token.isPlainWord, placeholder]

def anyWord : Parse (Option Node) := firstOf [nameOf (!·.isReserved), placeholder]

def text : Parse (Option Node) := do
  match ← peek with
  | some (.text .plain content) => skip; return some (.text content)
  | some (.text .dollar _) => skip; made "RAWSTRING"
  | some (.text .national _) => skip; made "NATIONAL"
  | _ => placeholder

def textName : Parse (Option Node) := nameOf Token.isText

def number : Parse (Option Node) := do
  match ← peek with
  | some .number => skip; return some .number
  | some (.text .escaped _) => skip; made "BYTESTRING"
  | _ => placeholder

def wordOrText : Parse (Option Node) := firstOf [text, plainWord]

def fieldOr (names : Parse (Option Node)) : Parse (Option Node) :=
  firstOf [call .primary, call (.call .plain), names]

def field : Parse (Option Node) := fieldOr name

def fieldAfterPoint : Parse (Option Node) :=
  firstOf [call (.call .afterPoint), call .primary, announcedName]

def negation : Parse Bool := keyword "NOT" <||> sign "!"

/-- The words `IF EXISTS`, or `IF NOT EXISTS` where something is being created. The words after `IF`
    may be missing. -/
def existence (created : Bool) : Parse Bool :=
  word "IF" <&&> (pure !created <||> negation) <&&> keyword "EXISTS"

/-- A word out of a list of options, each with what may follow it, one of which has to unless there is
    none. What follows may be several words, with blanks between them. -/
def option? (options : List (String × List String)) : Parse (Option Node) := do
  let place ← get
  match options.find? fun (first, _) => place.rest.head?.any (·.reads [first]) with
  | none => return none
  | some (_, further) =>
    skip
    if further.isEmpty then made "VAR"
    else
      match ← firstOf (further.map fun choice => after (words (choice.splitOn " ")) (made "VAR")) with
      | some n => return some n
      | none => retreat place

def option (options : List (String × List String)) : Parse (Option Node) := do
  if ← atEnd then return none else return some (← need (← option? options))

end Parse

end QueryDesk
