import QueryDesk.Grammar.Clause

namespace QueryDesk

namespace Parse

def search : Parse Unit := do
  let _ ← word "SEARCH"
  if ← wordOf ["BREADTH", "CYCLE", "DEPTH"] then
    let _ ← words ["FIRST", "BY"]
    let _ ← need (← announcedName)
    if ← word "SET" then let _ ← announcedName
    if ← word "USING" then let _ ← announcedName

def namedStatement : Parse Unit := do
  let _ ← keyword "RECURSIVE"
  unless (← tableAlias .anything) = some true do fail
  if ← words ["USING", "KEY"] then let _ ← enclosedNames
  let _ ← keyword "AS"
  let _ ← words ["NOT", "MATERIALIZED"] <||> word "MATERIALIZED"
  let _ ← need (← enclosed (call .statement))

def preamble : Parse Bool := do
  unless ← keyword "WITH" do return false
  namedStatement
  let _ ← many (do
    if ← sign "," <||> keyword "WITH" then
      let _ ← keyword "WITH"
      namedStatement
      return some ()
    else return none)
  search
  return true

def afterPreamble : Parse (Option Node) := do
  let n := (← need (← call .statement)).unwrapped
  if n.takesPreamble then return some n else fail

def source (form : TableForm) : Parse Bool := do
  unless ← keyword "FROM" do return false
  let _ ← need (← call (.table form))
  return true

def shape : Parse Unit := do
  let free ← seesSecond (!·.isSign ["."])
  let every ← pure free <&&> keyword "ALL"
  let distinct ← pure free <&&> keyword "DISTINCT"
  if ← keyword "AS" then let _ ← wordOf ["STRUCT", "VALUE"]
  if distinct then
    if ← keyword "ON" then let _ ← row
  if every && distinct then fail

def destination : Parse Unit := do
  if ← keyword "INTO" then
    let _ ← keywordOf ["TEMP", "TEMPORARY"]
    let _ ← word "UNLOGGED"
    let _ ← keyword "TABLE"
    let _ ← need (← call (.table .withColumns))

def selection (sourced : Bool) : Parse (Option Node) := do
  shape
  let _ ← list (call .expression)
  destination
  unless sourced do let _ ← source .plain
  call (.modified (.query []))

def aggregated : Parse (Option Node) := do
  let n ← call .disjunction
  if ← sees (·.reads ["GROUP"]) <&&> seesSecond (·.reads ["AND"]) then return n
  let n ← aliased false n
  if ← sees (·.isKeyword ["ASC", "DESC"]) then
    let _ ← keyword "ASC"
    let _ ← keyword "DESC"
    let _ ← words ["NULLS", "FIRST"] <||> words ["NULLS", "LAST"]
  return n

def aggregation : Parse Unit := do
  let _ ← list aggregated
  if ← keyword "GROUP BY" <||> words ["GROUP", "AND", "ORDER BY"] then let _ ← list aggregated

def pipeStep (n : Node) : Parse (Option Node) := do
  unless ← sign "|>" do return none
  match (← peek).bind Token.letters? with
  | some "WHERE" => let _ ← conditional
  | some "SELECT" => skip; let _ ← selection false
  | some "EXTEND" => skip; let _ ← list (call .expression)
  | some "AGGREGATE" => skip; aggregation
  | some "LIMIT" => let _ ← limit; let _ ← offset
  | some "ORDER BY" => let _ ← orderBy
  | some "AS" => let _ ← tableAlias .usual
  | some "PIVOT" | some "UNPIVOT" => let _ ← pivots
  | some "TABLESAMPLE" => let _ ← sample false
  | some "DISTINCT" => skip
  | _ =>
    if (← setOperation).isSome then let _ ← list parenthesised
    else let _ ← need (← call .join)
  return some n

def piped (n : Node) : Parse Node := iterate pipeStep n

def sourceFirst : Parse (Option Node) := do
  let _ ← need (← call (.table .plain))
  match ← call (.query .plain) with
  | some n => return some n
  | none =>
    match ← call (.combination (← piped (.query []))) with
    | some n => call (.modified n)
    | none => return none

def content (ofTable : Bool) : Parse (Option Node) := do
  if ← keywordOf ["PIVOT", "PIVOT_WIDER", "UNPIVOT"] then pivotStatement
  else if ← keyword "FROM" then sourceFirst
  else
    let n ← if ofTable then call (.table .plain) else call (.query .operand)
    match n with
    | none => return none
    | some n =>
      let n := if ofTable && n matches .values true then .table [] else n
      match ← call (.combination n) with
      | some n => call (.modified n)
      | none => return none

def enclosedQuery (form : QueryForm) : Parse (Option Node) := do
  match ← enclosed (content form.table) with
  | none => return none
  | some n =>
    let turned ← pivots
    let found ← if form.named then tableAlias .usual else pure none
    let sampled ← sample false
    return some (.enclosed n (!turned && !sampled && found.isNone) (found.getD false)
      (if sampled then [.sample] else []))

def wholeTable : Parse (Option Node) := do
  unless ← sees (·.isKeyword ["TABLE"]) <&&>
      seesSecond (fun t => t.isTableName || t.isText || t.isKeyword ["ONLY"]) do return none
  skip
  let _ ← need (← call (.table .plain))
  call (.modified (.query []))

def description : Parse (Option Node) := do
  let before ← get
  let _ ← keywordOf Keyword.creatables
  let styled ← get
  if ← wordOf ["ANALYZE", "EXTENDED", "FORMATTED", "HISTORY"] then
    if ← sees (·.isSign ["."]) then set styled
  else if ← sees (·.isSign ["."]) then set before
  if ← sees (·.isKeyword ["FORMAT"]) then let _ ← call .property
  let _ ← need (← if ← sees (·.isKeyword Keyword.statements) then call .statement
    else call (.table .withColumns))
  let _ ← many (call .property)
  let _ ← partition
  let _ ← words ["AS", "JSON"]
  made "DESCRIBE"

def summary : Parse (Option Node) := do
  let _ ← keyword "TABLE"
  let _ ← need (← firstOf [call (.query .plain), text, call (.table .plain)])
  made "SUMMARIZE"

def plainQuery : Parse (Option Node) := do
  let sourced ← source .joinable
  if ← keyword "SELECT" then selection sourced
  else if ← sees (·.isKeyword ["VALUES"]) <&&> seesSecond (·.isSign ["("]) then rows
  else if sourced then
    if ← sees (·.isKeyword ["INSERT"]) then
      let _ ← many (after (sees (·.isKeyword ["INSERT"])) (call .statement))
      made "MULTITABLEINSERTS"
    else call (.modified (.query []))
  else if ← keyword "DESCRIBE" then description
  else wholeTable

def query (form : QueryForm) : Parse (Option Node) := do
  if ← preamble then return ← afterPreamble
  if form.nested || form.table then
    if ← sees (·.isSign ["("]) then return ← enclosedQuery form
  if ← keyword "SUMMARIZE" then return ← summary
  match ← plainQuery with
  | none => return none
  | some n =>
    let combined ← if form.combined then call (.combination n) else pure (some n)
    match combined with
    | some n => if n.isQuery then return some (← piped n) else return some n
    | none => return none

end Parse

end QueryDesk
