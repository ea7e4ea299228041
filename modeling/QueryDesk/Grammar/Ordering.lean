import QueryDesk.Grammar.Definition

namespace QueryDesk

namespace Parse

def filling : Parse Unit := do
  if ← words ["WITH", "FILL"] then
    if ← keyword "FROM" then let _ ← call .bitwise
    if ← word "TO" then let _ ← call .bitwise
    if ← word "STEP" then let _ ← call .bitwise
    if ← word "INTERPOLATE" then
      if ← sees (·.isSign ["("]) then let _ ← enclosedList (call .expression)

def ordering : Parse (Option Node) := do
  match ← call .disjunction with
  | none => return none
  | some n =>
    let _ ← keyword "ASC"
    let _ ← keyword "DESC"
    let _ ← words ["NULLS", "FIRST"]
    let _ ← words ["NULLS", "LAST"]
    filling
    return some n

def orderedBy (letters : String) : Parse Bool := do
  if ← keyword letters then
    if (← list ordering).isEmpty then fail
    return true
  else return false

def orderBy : Parse Bool := orderedBy "ORDER BY"

def limitOptions : Parse Unit := do
  let _ ← keyword "PERCENT" <||> sign "%"
  let _ ← keyword "ROWS"
  let _ ← word "ONLY"
  let _ ← words ["WITH", "TIES"]

def limitGroups : Parse Unit := do
  if ← word "BY" then let _ ← list (call .bitwise)

/-- A limit, and whether it says where to begin as well. A remainder is no limit: what looks like one
    is a percentage. -/
def limit : Parse (Option Bool) := do
  if ← keyword "LIMIT" then
    let start ← get
    let first ← match ← attempt (call .term) with
      | none => call .factor
      | some n => if n.is "MOD" then set start; call .factor else pure (some n)
    limitOptions
    let skipping ← sign ","
    let _ ← need (← if skipping then call .term else pure first)
    limitGroups
    return some (skipping && first.isSome)
  else if ← keyword "FETCH" then
    let _ ← keywordOf ["FIRST", "NEXT"]
    let _ ← fieldOr (nameAmong fun t => t.isName && !t.isKeyword ["ROW", "ROWS", "PERCENT"])
    limitOptions
    return some false
  else return none

def offset : Parse (Option Unit) := do
  if ← keyword "OFFSET" then
    let _ ← need (← call .term)
    let _ ← keyword "ROWS"
    limitGroups
    return some ()
  else return none

def limitAhead : Parse Bool := do
  if ← sees (·.isKeyword ["LIMIT", "OFFSET"]) then possible limit <||> possible offset
  else return false

def aliased (explicit : Bool) (n : Option Node) : Parse (Option Node) := do
  if ← limitAhead then return n
  let announced ← keyword "AS"
  if explicit && !announced then return n
  let further := if announced then announcedName else name
  if ← sign "(" then
    let names ← list further
    expect ")"
    let _ ← need n
    if names.isEmpty then fail
    made "ALIASES"
  else
    match ← further with
    | none => return n
    | some _ =>
      let _ ← need n
      made "ALIAS"

def Naming.allows : Naming → Token → Bool
  | .usual, t => t.isTableName
  | .anything, t => t.isName
  | .assigned, t => t.isTableName && !t.isKeyword ["SET"]
  | .commented, t => t.isTableName && !t.isKeyword ["IS"]

def tableAlias (naming : Naming) : Parse (Option Bool) := do
  if ← limitAhead then return none
  let announced ← keyword "AS"
  let usual := if announced then announcedName else nameAmong (Naming.allows naming)
  let found ← firstOf [usual, textName]
  let place ← get
  let mut columns := false
  if ← sign "(" then
    if (← list parameter).isEmpty then set place
    else
      expect ")"
      columns := true
  if found.isNone && !columns then return none
  return some found.isSome

end Parse

end QueryDesk
