import QueryDesk.Grammar.Primary

namespace QueryDesk

namespace Parse

def operatorAhead (operators : List (Token × String)) : Parse (Option String) :=
  return (← peek).bind (List.lookup · operators)

def leftward (operators : List (Token × String)) (operand : Parse (Option Node)) :
    Parse (Option Node) := do
  let first ← operand
  iterate (fun n => do
    match ← operatorAhead operators with
    | none => return none
    | some kind =>
      skip
      let _ ← need (← operand)
      let _ ← need n
      return some (some (.other kind))) first

def before (kind : String) (operand : Parse (Option Node)) : Parse (Option Node) := do
  skip
  let _ ← need (← operand)
  made kind

def inTimeZone (n : Option Node) : Parse (Option Node) :=
  iterate (fun n => do
    if ← words ["AT", "TIME", "ZONE"] then
      let _ ← need (← call .unary)
      let _ ← need n
      return some (some (.other "ATTIMEZONE"))
    else return none) n

def unary : Parse (Option Node) := do
  match ← peek with
  | some (.sign "+") => skip; call .unary
  | some (.sign "-") => before "NEG" (call .unary)
  | some (.sign "~") => before "BITWISENOT" (call .unary)
  | some (.sign "!") => before "NOT" (call .equality)
  | some (.keyword "NOT") => before "NOT" (call .equality)
  | _ => inTimeZone (← operand)

def power : Parse (Option Node) := leftward [(.sign "^", "POW"), (.sign "**", "POW")] unary

def factorOperators : List (Token × String) :=
  [(.sign "*", "MUL"), (.sign "/", "DIV"), (.sign "//", "INTDIV"), (.keyword "DIV", "INTDIV"),
    (.sign "<->", "DISTANCE")]

def factor : Parse (Option Node) := do
  let first ← power
  let (n, _) ← iterate (fun (n, stopped) => do
    let start ← get
    match ← if stopped then pure none else operatorAhead factorOperators with
    | none => return none
    | some kind =>
      skip
      let right ← power
      if right.isNone && start.rest.head? = some (.keyword "DIV") then
        set start
        return some (n, true)
      let _ ← need right
      let _ ← need n
      return some (some (.other kind), false)) (first, false)
  return n

def term : Parse (Option Node) :=
  leftward [(.sign "-", "SUB"), (.sign "+", "ADD"), (.sign "%", "MOD"), (.keyword "COLLATE", "COLLATE")]
    factor

def bitwiseOperators : List (Token × String) :=
  [(.sign "&", "BITWISEAND"), (.sign "|", "BITWISEOR"), (.sign "||", "DPIPE")]

/-- One operator on bits or texts with its right operand. Two signs for an order make a shift. The
    operator that stands in for nulls may lack its operand. -/
def bitwiseStep (n : Option Node) : Parse (Option (Option Node)) := do
  let binary (kind : String) : Parse (Option (Option Node)) := do
    let _ ← need (← term)
    let _ ← need n
    return some (some (.other kind))
  match ← operatorAhead bitwiseOperators with
  | some kind => skip; binary kind
  | none =>
    if ← sign "??" then
      let _ ← term
      let _ ← need n
      return some (← called "COALESCE")
    else if ← takeAll [(·.isSign ["<"]), (·.isSign ["<"])] then binary "BITWISELEFTSHIFT"
    else if ← takeAll [(·.isSign [">"]), (·.isSign [">"])] then binary "BITWISERIGHTSHIFT"
    else return none

def bitwise : Parse (Option Node) := do iterate bitwiseStep (← term)

def patternOperators : List (Token × String) :=
  [(.keyword "LIKE", "LIKE"), (.sign "~~", "LIKE"), (.keyword "ILIKE", "ILIKE"), (.sign "~~*", "ILIKE"),
    (.keyword "GLOB", "GLOB"), (.sign "~~~", "GLOB"), (.keyword "RLIKE", "REGEXPLIKE"),
    (.keyword "REGEXP", "REGEXPLIKE"), (.sign "~*", "REGEXPILIKE"), (.sign "~", "REGEXPFULLMATCH"),
    (.keyword "SIMILAR TO", "SIMILARTO"), (.keyword "OVERLAPS", "OVERLAPS"),
    (.sign "@>", "ARRAYCONTAINSALL"), (.sign "<@", "ARRAYCONTAINSALL"), (.sign "&&", "ARRAYOVERLAPS"),
    (.sign "^@", "STARTSWITH"), (.sign "-|-", "ADJACENT"), (.sign "&<", "EXTENDSLEFT"),
    (.sign "&>", "EXTENDSRIGHT")]

def escaped (n : Option Node) : Parse (Option Node) := do
  unless ← keyword "ESCAPE" do return n
  let _ ← need (← firstOf [text, after (keywordOf ["NULL", "UNKNOWN"]) (made "NULL")])
  made "ESCAPE"

def betweenTest (value : Option Node) : Parse (Option Node) := do
  let _ ← wordOf ["SYMMETRIC", "ASYMMETRIC"]
  let low ← bitwise
  let _ ← keyword "AND"
  let high ← bitwise
  let _ ← need value
  let _ ← need low
  let _ ← need high
  made "BETWEEN"

def unnested (named : Bool) : Parse (Option Node) := do
  unless ← sees (·.isKeyword ["UNNEST"]) <&&> seesSecond (·.isSign ["("]) do return none
  skip
  if (← enclosedList (call .equality)).isEmpty then fail
  let ordered ← keywords ["WITH", "ORDINALITY"]
  let found ← if named then tableAlias .usual else pure none
  if !ordered then
    if ← keywords ["WITH", "OFFSET"] then
      let _ ← keyword "AS"
      let _ ← name
  return some (.unnest found.isSome)

def membershipTest (value : Option Node) : Parse (Option Node) := do
  let _ ← need value
  match ← unnested false with
  | some _ => made "IN"
  | none =>
    if ← sign "(" then
      match ← list (queryOrValue false) with
      | [n] => if n.isQuery then let _ ← call (.modified n)
      | _ => pure ()
      expect ")"
    else if ← sign "[" then
      let _ ← list (queryOrValue false)
      expect "]"
    else let _ ← call .column
    made "IN"

def isTest (start : Place) (value : Option Node) : Parse (Option Node) := do
  let negated ← negation
  if ← words ["DISTINCT", "FROM"] then
    let _ ← need (← bitwise)
    let _ ← need value
    made (if negated then "NULLSAFEEQ" else "NULLSAFENEQ")
  else
    if ← keyword "JSON" then
      let _ ← wordOf ["VALUE", "SCALAR", "ARRAY", "OBJECT"]
      let _ ← word "WITH" <||> word "WITHOUT"
      let _ ← keyword "UNIQUE"
      let _ ← word "KEYS"
    else
      let against ← firstOf [after (keywordOf ["NULL", "UNKNOWN"]) (made "NULL"), placeholder, bitwise]
      if against.isNone then return ← retreat start
    let _ ← need value
    columnSuffixes (.other (if negated then "NOT" else "IS"))

def comprehension (start : Place) (value : Option Node) : Parse (Option Node) := do
  let element ← column
  if ← sign "," then let _ ← column
  unless ← keyword "IN" do return ← retreat start
  let elements ← column
  if ← word "IF" then let _ ← call .disjunction
  let _ ← need value
  let _ ← need element
  let _ ← need elements
  made "COMPREHENSION"

def namedOperators (value : Option Node) : Parse (Option Node) :=
  iterate (fun n => do
    if ← sign "(" then
      skipWhile (take (!·.isSign [")"]))
      let _ ← sign ")"
      let _ ← need (← bitwise)
      let _ ← need n
      let _ ← keyword "OPERATOR"
      return some (some (.other "OPERATOR"))
    else return none) value

/-- A test that begins with a token: the result is `none` for a token that begins none, and nothing
    within where the test turns out to be something else. -/
def test? (value : Option Node) : Parse (Option (Option Node)) := do
  let start ← get
  match start.rest.head? with
  | none => return none
  | some t =>
    match patternOperators.lookup t with
    | some kind =>
      skip
      let _ ← need (← bitwise)
      let _ ← need value
      return some (← escaped (some (.other kind)))
    | none =>
      match t with
      | .keyword "BETWEEN" => skip; return some (← betweenTest value)
      | .keyword "IN" => skip; return some (← membershipTest value)
      | .keyword "IS" => skip; return some (← isTest start value)
      | .keyword "FOR" => skip; return some (← comprehension start value)
      | .keyword "OPERATOR" => skip; return some (← namedOperators value)
      | _ => return none

def denied (n : Option Node) : Option Node :=
  n.map fun n => if n.is "LIKE" || n.is "ILIKE" then n else .other "NOT"

/-- What may follow a test: a test for nulls that is spelled as one word, a denial that stood before
    the test, and a further test for a value. -/
def afterTest (negated : Bool) (n : Option Node) : Parse (Option Node) := do
  let mut n := n
  if ← keyword "NOTNULL" then
    let _ ← need n
    n := some (.other "NOT")
  if negated then n := denied n
  let start ← get
  if ← keyword "IS" then isTest start n else return n

def range : Parse (Option Node) := do
  let value ← bitwise
  let start ← get
  let negated ← negation
  match ← test? value with
  | some none => return value
  | some n => afterTest negated n
  | none =>
    if ← keyword "ISNULL" <||> (pure negated <&&> keyword "NULL") then
      let _ ← need value
      afterTest negated (some (.other "IS"))
    else
      set start
      afterTest false value

def comparison : Parse (Option Node) :=
  leftward [(.sign ">", "GT"), (.sign ">=", "GTE"), (.sign "<", "LT"), (.sign "<=", "LTE")] range

def equality : Parse (Option Node) :=
  leftward [(.sign "=", "EQ"), (.sign "==", "EQ"), (.sign "<>", "NEQ"), (.sign "!=", "NEQ"),
    (.sign "<=>", "NULLSAFEEQ")] comparison

def conjunction : Parse (Option Node) := leftward [(.keyword "AND", "AND")] equality

def disjunction : Parse (Option Node) := leftward [(.keyword "OR", "OR")] conjunction

def assignment : Parse (Option Node) := do
  let first ← match ← disjunction with
    | some n => pure (some n)
    | none =>
      if ← seesSecond (·.isSign [":="]) then nameOf fun _ => true else pure none
  if ← sign ":=" then
    let _ ← need (← call .assignment)
    let _ ← need first
    made "PROPERTYEQ"
  else return first

def expression : Parse (Option Node) := do
  if ← seesSecond (·.isSign [":"]) then
    let _ ← announcedName
    let _ ← sign ":"
    let _ ← need (← assignment)
    made "ALIAS"
  else aliased false (← assignment)

end Parse

end QueryDesk
