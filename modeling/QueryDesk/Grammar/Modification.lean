import QueryDesk.Grammar.Creation

namespace QueryDesk

namespace Parse

def returning : Parse Bool := do
  unless ← keyword "RETURNING" do return false
  if (← list (call .expression)).isEmpty then fail
  if ← keyword "INTO" then let _ ← tablePart false
  return true

def condition : Parse Unit := do
  if ← sees (·.isKeyword ["WHERE"]) then let _ ← conditional

def assignments : Parse Bool := do
  unless ← keyword "SET" do return false
  let _ ← list (call .equality)
  return true

def conflictActions : List (String × List String) :=
  ("DO", ["NOTHING", "UPDATE"]) ::
    ["ABORT", "FAIL", "IGNORE", "REPLACE", "ROLLBACK", "UPDATE"].map (·, [])

def onConflict : Parse Unit := do
  let general ← words ["ON", "CONFLICT"]
  unless ← pure general <||> words ["ON", "DUPLICATE", "KEY"] do return
  if general then
    if ← words ["ON", "CONSTRAINT"] then let _ ← announcedName
    else if ← sees (·.isSign ["("]) then let _ ← enclosedList ordering
  condition
  let _ ← option conflictActions
  if ← follows (·.isKeyword ["UPDATE"]) then
    let _ ← keyword "SET"
    let _ ← list (call .equality)
  condition

def insert : Parse (Option Node) := do
  let _ ← keyword "OVERWRITE"
  let _ ← word "LOCAL"
  if ← keyword "OR" then let _ ← wordOf ["ABORT", "FAIL", "IGNORE", "REPLACE", "ROLLBACK"]
  let _ ← keyword "INTO"
  let _ ← keyword "TABLE"
  if ← keyword "FUNCTION" then let _ ← call (.call .plain)
  else
    let n ← need (← call (.table .target))
    if ← pure (n.is "TABLE") <&&> sees (·.isKeyword ["AS"]) then let _ ← tableAlias .usual
  let _ ← returning
  let _ ← words ["BY", "NAME"]
  let _ ← existence false
  if ← keywords ["REPLACE", "WHERE"] then let _ ← call .disjunction
  let _ ← words ["DEFAULT", "VALUES"]
  unless ← assignments do
    let _ ← firstOf [rows, filling?]
  onConflict
  let _ ← returning
  if ← keyword "TABLE" then let _ ← call (.table .plain)
  made "INSERT"

def delete : Parse (Option Node) := do
  unless ← sees (·.isKeyword ["FROM"]) do
    let _ ← list (call (.table .plain))
  let _ ← returning
  let _ ← source .joinable
  if ← keyword "USING" then let _ ← list (call (.table .joinable))
  onWhat
  condition
  let _ ← returning
  let _ ← orderBy
  let _ ← limit
  made "DELETE"

def updatePart : Parse (Option Unit) := do
  match (← get).rest.head? with
  | some (.keyword letters) =>
    match letters with
    | "SET" => let _ ← assignments; return some ()
    | "RETURNING" => let _ ← returning; return some ()
    | "FROM" =>
      let _ ← source .joinable
      let _ ← many (call .join)
      return some ()
    | "WHERE" => condition; return some ()
    | "ORDER BY" => let _ ← orderBy; return some ()
    | "LIMIT" => let _ ← limit; return some ()
    | _ => return none
  | _ => return none

def update : Parse (Option Node) := do
  let _ ← need (← call (.table { TableForm.joinable with naming := .assigned }))
  let _ ← many updatePart
  made "UPDATE"

def wholeStar : Parse (Option Node) := after (sign "*") star

def mergeAction : Parse (Option Node) := do
  if ← keyword "INSERT" then
    if (← wholeStar).isNone then
      unless ← word "ROW" do let _ ← row
      if ← word "VALUES" then let _ ← row
    made "INSERT"
  else if ← keyword "UPDATE" then
    if (← wholeStar).isNone then let _ ← assignments
    made "UPDATE"
  else if ← keyword "DELETE" then made "DELETE"
  else option conflictActions

def mergeCase : Parse (Option Unit) := do
  unless ← keyword "WHEN" do return none
  let _ ← negation
  let _ ← word "MATCHED"
  let _ ← words ["BY", "TARGET"] <||> words ["BY", "SOURCE"]
  if ← keyword "AND" then let _ ← call .disjunction
  let _ ← keyword "THEN"
  let _ ← need (← mergeAction)
  return some ()

def merge : Parse (Option Node) := do
  let _ ← keyword "INTO"
  let _ ← need (← call (.table .plain))
  if ← sees (·.isKeyword ["AS"]) then let _ ← tableAlias .usual
  let _ ← keyword "USING"
  let _ ← need (← call (.table .plain))
  if ← keyword "ON" then let _ ← call .disjunction
  if ← keyword "USING" then let _ ← maybeEnclosed (list (call .column))
  if (← many mergeCase).isEmpty then fail
  let _ ← returning
  made "MERGE"

end Parse

end QueryDesk
