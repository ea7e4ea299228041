import QueryDesk.Grammar.Expression

namespace QueryDesk

namespace Parse

def row : Parse (Option Node) := do
  if ← sign "(" then
    let _ ← list (firstOf [after (keyword "DEFAULT") (made "DEFAULT"), call .expression])
    expect ")"
    made "TUPLE"
  else
    return (← call .expression).map fun _ => .other "TUPLE"

/-- Rows that are spelled out, in parentheses or not, and a name for them on either side of the
    closing parenthesis. -/
def rows : Parse (Option Node) := do
  let opened ← takeAll [(·.isSign ["("]), (·.isKeyword ["VALUES"])]
  unless ← pure opened <||> word "VALUES" <||> words ["FORMAT", "VALUES"] do return none
  if (← list row).isEmpty then fail
  let inner ← tableAlias .usual
  if opened then expect ")"
  let found ← if inner.isNone then tableAlias .usual else pure inner
  return some (.values (found.getD false))

def tablePart (described : Bool) : Parse (Option Node) := do
  let called ← if described then pure none else call (.call .ofTable)
  match called with
  | some n => return some n
  | none => firstOf [name, textName, placeholder]

def moment : Parse Unit := do
  let start ← get
  if ← wordOf ["AT", "BEFORE", "END"] then
    if ← sign "(" then
      let _ ← wordOf ["OFFSET", "STATEMENT", "STREAM", "TIMESTAMP", "VERSION"]
    match ← after (sign "=>") (call .bitwise) with
    | some _ => expect ")"
    | none => set start

def nameParts (described : Bool) : Parse Unit := do
  let (final, _) ← iterate (fun (_, points) => do
    unless ← sign "." do return none
    let part ← tablePart described
    if 1 < points then let _ ← need part
    return some (part, points + 1)) (← tablePart described, 0)
  let _ ← need final

def tableName (described : Bool) : Parse (Option Node) := do
  nameParts described
  if ← words ["CHANGES", "(", "INFORMATION", "=>"] then
    let _ ← need (← anyWord)
    expect ")"
    moment
    moment
  moment
  let _ ← pivots
  return some (.table [])

def version : Parse Unit := do
  if ← keywordOf ["FOR TIMESTAMP", "FOR VERSION"] then
    if ← keywordOf ["FROM", "BETWEEN"] then
      let _ ← call .bitwise
      let _ ← wordOf ["TO", "AND"]
      let _ ← call .bitwise
    else if ← words ["CONTAINED", "IN"] then
      let _ ← enclosedList (call .bitwise)
    else unless ← keyword "ALL" do
      let _ ← words ["AS", "OF"]
      let _ ← call .operand

def tableHints : Parse Unit := do
  if ← takeAll [(·.isKeyword ["WITH"]), (·.isSign ["("])] then
    if (← list (firstOf [call (.call .plain), anyWord])).isEmpty then fail
    expect ")"
  else skipWhile (do
    if ← keywordOf ["FORCE", "USE"] then
      let _ ← keyword "INDEX"
      if ← keyword "FOR" then let _ ← take (!·.isReserved)
      let _ ← enclosedNames
      return true
    else return false)

def partition : Parse Bool := do
  unless ← wordOf ["PARTITION", "SUBPARTITION"] do return false
  if (← enclosedList (call .disjunction)).isEmpty then fail
  return true

def lateral : Parse (Option Node) := do
  let applied ← keywords ["CROSS", "APPLY"] <||> keywords ["OUTER", "APPLY"]
  unless ← pure applied <||> keyword "LATERAL" do return none
  let found ← call (.query .ofTable)
  let viewed ← pure !applied <&&> keyword "VIEW"
  if !applied then let _ ← keyword "OUTER"
  let n ← match found with
    | some n => pure (some n)
    | none => do
      let first ← firstOf [unnested true, call (.call .plain), name]
      iterate (fun _ => do
        unless ← sign "." do return none
        let _ ← firstOf [call (.call .plain), name]
        return some (some (.other "DOT"))) first
  if viewed then
    let _ ← name
    if ← keyword "AS" then let _ ← list announcedName
  else
    match n with
    | some (.enclosed _ _ true _) | some (.unnest true) => pure ()
    | _ =>
      let _ ← keywords ["WITH", "ORDINALITY"]
      let _ ← tableAlias .usual
  let _ ← need n
  made "LATERAL"

def tableOrigin (described : Bool) : Parse (Option Node) := do
  if ← words ["ROWS", "FROM"] then
    if (← enclosedList (call (.table .plain))).isEmpty then fail
    return some (.table [])
  else
    let _ ← keyword "ONLY"
    bracketed (← tableName described)

def namedTable (form : TableForm) : Parse (Option Node) := do
  let n ← need (← tableOrigin form.described)
  let _ ← sign "*"
  if form.partitioned then
    if ← sees (·.isKeyword ["PARTITION"]) then let _ ← partition
  if form.described then
    let _ ← columns
    return some n
  version
  let _ ← tableAlias form.naming
  if ← pure (n.is "TABLE") <&&> word "AT" then
    let _ ← need (← announcedName)
    return ← made "ATINDEX"
  tableHints
  let _ ← pivots
  let sampled ← sample false
  if form.joined then let _ ← many (call .join)
  if ← keywords ["WITH", "ORDINALITY"] then let _ ← tableAlias .usual
  return some (if sampled then n.use [.sample] else n)

def table (form : TableForm) : Parse (Option Node) := do
  if ← seesSecond (·.isSign [":"]) then
    let _ ← tableAlias form.naming
    let _ ← sign ":"
  match ← firstOf [lateral, unnested true, rows] with
  | some n => return some n
  | none =>
    match ← call (.query .ofTable) with
    | some n =>
      let _ ← pivots
      return some n
    | none => namedTable form

structure JoinWords where
  method : Bool
  kind : Option String

def joinWords : Parse JoinWords := do
  let method ← keywordOf ["ASOF", "NATURAL", "POSITIONAL"]
  let _ ← keywordOf ["FULL", "LEFT", "RIGHT"]
  let next ← peek
  let found ← keywordOf ["ANTI", "CROSS", "INNER", "OUTER", "SEMI", "STRAIGHT_JOIN"]
  return ⟨method, if found then next.bind Token.letters? else none⟩

def joinCondition : Parse Bool := do
  if ← keyword "ON" then
    let _ ← call .disjunction
    return true
  else if ← keyword "USING" then
    let _ ← maybeEnclosed (list (call .column))
    return true
  else return false

def innerJoins : Parse Unit := do
  let start ← get
  let found ← many (call .join)
  unless ← pure !found.isEmpty <&&> joinCondition do set start

def seesApplied : Parse Bool :=
  sees (·.isKeyword ["CROSS", "OUTER"]) <&&> seesSecond (·.isKeyword ["APPLY"])

def join : Parse (Option Node) := do
  if ← sign "," then return ← attempt (call (.table .plain))
  let start ← get
  let found ← joinWords
  let joined ← keyword "JOIN" <||> pure (found.kind = some "STRAIGHT_JOIN")
  if !joined then set start
  let applied ← seesApplied
  if !joined && !applied then return none
  let n ← need (← call (.table .plain))
  unless ← joinCondition do
    let crossed := joined && (found.method || found.kind = some "CROSS")
    unless crossed || applied || n matches .unnest _ do innerJoins
  let _ ← pivots
  made "JOIN"

end Parse

end QueryDesk
