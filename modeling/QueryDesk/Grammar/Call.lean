import QueryDesk.Grammar.Bracket
import QueryDesk.Grammar.SpecialCall

namespace QueryDesk

def Token.isCallable : Token → Bool
  | name _ | quotedName _ => true
  | keyword letters => Keyword.callables.contains letters
  | _ => false

namespace Parse

def queryOrValue (named : Bool) : Parse (Option Node) := do
  match ← call (.query .plain) with
  | some n => return some n
  | none =>
    let value ← call .assignment
    match ← if named then aliased true value else pure value with
    | none => return none
    | some n => call (.combination n)

def extremeRows (n : Option Node) : Parse (Option Node) := do
  if ← keyword "HAVING" then
    let _ ← wordOf ["MAX", "MIN"]
    let _ ← need (← call .column)
    let _ ← need n
    made "HAVINGMAX"
  else return n

def lambdaParameters : Parse (List Node) := do
  let start ← get
  if ← sign "(" then
    let names ← list announcedName
    if ← sign ")" then return names
    set start
    return []
  else return (← announcedName).toList

def arrowArgument : Parse (Option Node) := do
  let start ← get
  let parameters ← lambdaParameters
  if ← sign "->" then
    let _ ← need (← call .disjunction)
    if parameters.isEmpty then fail
    made "LAMBDA"
  else if ← sign "=>" then
    if parameters.isEmpty then throw .overrun
    let _ ← need (← call .disjunction)
    made "KWARG"
  else retreat start

def plainArgument (named : Bool) : Parse (Option Node) := do
  let value ← if ← keyword "DISTINCT" then do
      let _ ← list (call .disjunction)
      made "DISTINCT"
    else queryOrValue named
  let value ← extremeRows (← nullTreatment value)
  let value := if ← orderBy then some (.other "ORDER") else value
  return if (← limit).isSome then some (.other "LIMIT") else value

def argument (named : Bool) : Parse (Option Node) := do
  let start ← get
  if ← word "LAMBDA" then
    let parameters ← list announcedName
    unless ← sign ":" do return ← retreat start
    let _ ← need (← call .assignment)
    if parameters.isEmpty then fail
    made "LAMBDA"
  else firstOf [arrowArgument, plainArgument named]

def caseBody : Parse (Option Node) := do
  let _ ← call .disjunction
  let branches ← many (after (keyword "WHEN") do
    let condition ← call .disjunction
    let _ ← keyword "THEN"
    let _ ← need (← call .disjunction)
    return some (← need condition))
  let last ← if ← keyword "ELSE" then call .disjunction else pure none
  unless ← keyword "END" do
    match last with
    | some (.interval (some "END")) => pure ()
    | _ => fail
  if branches.isEmpty then fail
  called "CASE"

/-- A condition with its outcomes, in parentheses or written out. At the beginning of a statement the
    words make a command. -/
def conditionBody (start : Place) : Parse (Option Node) := do
  if ← sign "(" then
    let parts ← list (do aliased true (← call .assignment))
    let n ← checked "IF" parts
    expect ")"
    return n
  else if start.last.isNone then
    skipWhile (take fun _ => true)
    made "COMMAND"
  else
    match ← call .disjunction with
    | none => retreat start
    | some _ =>
      let _ ← keyword "THEN"
      let _ ← need (← call .disjunction)
      if ← keyword "ELSE" then let _ ← call .disjunction
      let _ ← keyword "END"
      called "IF"

def mapBody : Parse (Option Node) := do
  if ← sees (·.isSign ["\x7b"]) then
    let _ ← need (← bracketed none)
    called "TOMAP"
  else
    let _ ← enclosedList (call .assignment)
    called "MAP"

def silentCall? (start : Place) (letters : String) : Option (Parse (Option Node)) :=
  match letters with
  | "@" => some do
    let _ ← call .bitwise
    called "ABS"
  | "ANY" => some do
    let _ ← need (← call .bitwise)
    made "ANY"
  | "CASE" => some do
    if ← sees (·.isSign ["."]) then retreat start else caseBody
  | "CONNECT_BY_ROOT" => some do
    let _ ← need (← call .column)
    called "CONNECTBYROOT"
  | "IF" => some (conditionBody start)
  | "MAP" => some mapBody
  | "NEXT" => some do
    unless ← words ["VALUE", "FOR"] do return ← retreat start
    let _ ← need (← call .column)
    if ← keyword "OVER" then let _ ← enclosed orderBy
    called "NEXTVALUEFOR"
  | _ => none

/-- A test on the rows of a query whose opening parenthesis has been taken; after a pattern's
    operator, the parenthesis may also hold a list. -/
def rowTest (kind : String) (afterPattern : Bool) (opening : Place) : Parse (Option Node) := do
  if ← sees (·.isKeyword ["SELECT", "WITH"]) then
    let found ← call (.query .plain)
    expect ")"
    if found.isSome then return ← made kind
    return none
  else if afterPattern then
    set opening
    if (← call .bitwise).isSome then return ← made kind
    return none
  else return none

def takesNamed (letters : String) : Bool := ["STRUCT", "STRUCT_PACK"].contains letters

def ordinaryCall (known : Bool) (letters : String) : Parse (Option Node) := do
  match if known then Signature.of? letters else none with
  | none =>
    let _ ← list (call (.argument true))
    called "ANONYMOUS"
  | some s =>
    let arguments ← list (call (.argument (takesNamed letters)))
    unless s.accepts arguments.length do fail
    match s.kind, arguments[1]? with
    | "TIMESTAMPTRUNC", some (.cast _ "DATE") => called "DATETRUNC"
    | kind, _ => called kind

def rowTestKind (letters : String) : String := if letters = "SOME" then "ANY" else letters

def callAfterOpening (form : CallForm) (start opening : Place) (t : Token) :
    Parse (Option Node) := do
  let letters := t.letters?.getD ""
  match if form.known then specialCalls.lookup letters else none with
  | some body =>
    let n ← body
    expect ")"
    overWindow n
  | none =>
    if t.isKeyword Keyword.rowTests then
      let afterPattern := start.last.any fun t =>
        t.isKeyword ["LIKE", "ILIKE"] || t.isSign ["~~", "~~*"]
      if let some n ← rowTest (rowTestKind letters) afterPattern opening then return some n
    let n ← ordinaryCall form.known letters
    expect ")"
    overWindow n

def callOf (form : CallForm) (start : Place) (t : Token) : Parse (Option Node) := do
  let letters := t.letters?.getD ""
  let quoted := t matches .quotedName _
  if form.silent && !quoted then
    if let some body := silentCall? start letters then
      skip
      match ← body with
      | none => return none
      | some n => return ← overWindow (some n)
  unless ← seesSecond (·.isSign ["("]) do
    match if form.silent && !quoted then Keyword.silentCalls.lookup letters else none with
    | some kind => skip; return ← called kind
    | none => return none
  if if form.anyName then t.isReserved else !t.isCallable then return none
  skip
  let opening ← get
  skip
  callAfterOpening form start opening t

def callIn (form : CallForm) : Parse (Option Node) := do
  let braced ← sees (·.isSign ["\x7b"]) <&&> seesSecond (·.reads ["FN"])
  if braced then skip; skip
  let start ← get
  let n ← match start.rest.head? with
    | some t => callOf form start t
    | none => pure none
  if braced then let _ ← sign "\x7d"
  return n

end Parse

end QueryDesk
