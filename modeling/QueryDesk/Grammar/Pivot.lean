import QueryDesk.Grammar.Ordering

namespace QueryDesk

namespace Parse

def clauseWords : List String :=
  ["WHERE", "GROUP BY", "HAVING", "QUALIFY", "WINDOW", "ORDER BY", "LIMIT", "FETCH", "OFFSET", "FOR",
    "LOCK", "TABLESAMPLE", "USING", "CLUSTER BY", "DISTRIBUTE BY", "SORT BY", "CONNECT BY",
    "START WITH"]

def cube (announced : Bool) : Parse Bool := do
  if ← keywordOf ["CUBE", "ROLLUP"] then
    unless announced do let _ ← enclosedList (call .column)
    return true
  else return false

def groupingSets : Parse Bool := do
  if ← keyword "GROUPING SETS" then
    let _ ← enclosedList (do
      if ← cube false then made "CUBE" else call .bitwise)
    return true
  else return false

/-- One round of a grouping: values, then one of the special groupings. A word alone that might
    announce one is left. -/
def groupingRound : Parse (Option Unit) := do
  let start ← get
  let _ ← list (do
    if ← sees (·.isKeyword ["CUBE", "ROLLUP"]) then return none else call .disjunction)
  let before ← get
  let announced ← keyword "WITH"
  unless ← cube announced <||> groupingSets do
    let _ ← word "TOTALS"
  if before.rest.length ≤ (← get).rest.length + 1 then
    set before
    return none
  return if (← get).rest.length < start.rest.length then some () else none

def grouping : Parse Bool := do
  unless ← keyword "GROUP BY" do return false
  let _ ← keywordOf ["ALL", "DISTINCT"]
  unless ← sees (·.isKeyword clauseWords) do
    let _ ← many groupingRound
  return true

def pivotValue : Parse (Option Node) := do
  let value ← match ← call (.query .plain) with
    | some n => pure (some n)
    | none =>
      match ← call .assignment with
      | some n => call (.combination n)
      | none => pure none
  let _ ← keyword "AS"
  match ← call .bitwise with
  | none => return value
  | some _ =>
    let _ ← need value
    made "PIVOTALIAS"

def pivotField : Parse (Option Node) := do
  let value ← call .column
  unless ← keyword "IN" do fail
  if ← sign "(" then
    if ← keyword "ANY" then let _ ← orderBy
    else let _ ← list pivotValue
    expect ")"
  else let _ ← announcedName
  let _ ← need value
  made "IN"

def pivotContent (undone : Bool) : Parse Unit := do
  let items ← if undone then list (call .column)
    else list (do aliased false (← call (.call .plain)))
  if items.isEmpty then fail
  unless ← keyword "FOR" do fail
  let _ ← many (attempt pivotField)
  if ← words ["DEFAULT", "ON", "NULL"] then let _ ← enclosed (call .bitwise)
  let _ ← grouping
  expect ")"

def pivot : Parse (Option Node) := do
  let start ← get
  let undone ← keyword "UNPIVOT"
  unless ← pure undone <||> keywordOf ["PIVOT", "PIVOT_WIDER"] do return none
  if undone then let _ ← words ["INCLUDE", "NULLS"] <||> words ["EXCLUDE", "NULLS"]
  unless ← sign "(" do return ← retreat start
  pivotContent undone
  unless ← sees (·.isKeyword ["PIVOT", "PIVOT_WIDER", "UNPIVOT"]) do let _ ← tableAlias .usual
  made "PIVOT"

def pivots : Parse Bool := return !(← many pivot).isEmpty

def pivotColumn : Parse (Option Node) := do
  let n ← call .bitwise
  if ← keyword "IN" then call (.membership n)
  else if ← sees (·.isKeyword ["AS"]) then aliased false n
  else return n

def pivotStatement : Parse (Option Node) := do
  let _ ← need (← call (.table .plain))
  if ← keyword "ON" then let _ ← list pivotColumn
  if ← keyword "INTO" then
    unless ← word "NAME" do fail
    let _ ← need (← call .column)
    unless ← word "VALUE" do fail
    if (← list (call .column)).isEmpty then fail
  if ← keyword "USING" then
    let _ ← list (do aliased false (← call .column))
  let _ ← grouping
  made "PIVOT"

def sampleSize : Parse Unit := do
  let _ ← if ← sees Token.isNumber then call .factor else firstOf [call .primary, placeholder]
  if ← word "BUCKET" then
    let _ ← number
    let _ ← words ["OUT", "OF"]
    let _ ← number
    if ← keyword "ON" then let _ ← field
  else
    let _ ← keyword "PERCENT" <||> sign "%" <||> keyword "ROWS"

def sample (ofRows : Bool) : Parse Bool := do
  unless ← keyword "TABLESAMPLE" <||> (pure ofRows <&&> words ["USING", "SAMPLE"]) do return false
  let _ ← plainWord
  let opened ← sign "("
  sampleSize
  if opened then expect ")"
  if ← sign "(" then
    let _ ← plainWord
    if ← sign "," then let _ ← number
    expect ")"
  else if ← wordOf ["SEED", "REPEATABLE"] then let _ ← enclosed number
  return true

end Parse

end QueryDesk
