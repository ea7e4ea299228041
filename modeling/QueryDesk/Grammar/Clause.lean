import QueryDesk.Grammar.Table

namespace QueryDesk

namespace Parse

def lock : Parse (Option Unit) := do
  unless ← words ["FOR", "UPDATE"] <||> words ["FOR", "SHARE"] <||>
      words ["LOCK", "IN", "SHARE", "MODE"] <||> words ["FOR", "KEY", "SHARE"] <||>
      words ["FOR", "NO", "KEY", "UPDATE"] do return none
  if ← word "OF" then let _ ← list (call (.table .withColumns))
  unless ← word "NOWAIT" do
    if ← word "WAIT" then let _ ← call .primary
    else let _ ← words ["SKIP", "LOCKED"]
  return some ()

def skipPrior : Parse Unit := modify fun place => { place with rest := unmarked place.rest }
where
  unmarked : List Token → List Token
  | t :: next :: rest =>
    if t = .name "PRIOR" && next.isName then unmarked (next :: rest)
    else t :: unmarked (next :: rest)
  | rest => rest

def hierarchy : Parse Bool := do
  let started ← keyword "START WITH"
  if started then let _ ← call .disjunction
  unless ← keyword "CONNECT BY" <||> pure started do return false
  let _ ← word "NOCYCLE"
  skipPrior
  let _ ← need (← call .disjunction)
  if !started then
    if ← keyword "START WITH" then let _ ← call .disjunction
  return true

def conditional : Parse Bool := do
  skip
  let _ ← need (← call .disjunction)
  return true

def clauseAfter (letters : String) : Option (Clause × Parse Bool) :=
  match letters with
  | "WHERE" => some (.condition, conditional)
  | "GROUP BY" => some (.grouping, grouping)
  | "HAVING" => some (.groupCondition, conditional)
  | "QUALIFY" => some (.windowCondition, conditional)
  | "WINDOW" => some (.windows, do skip; return !(← list namedWindow).isEmpty)
  | "ORDER BY" => some (.order, orderBy)
  | "OFFSET" => some (.offset, return (← offset).isSome)
  | "FOR" | "LOCK" => some (.lock, return !(← many lock).isEmpty)
  | "TABLESAMPLE" | "USING" => some (.sample, sample true)
  | "CLUSTER BY" => some (.cluster, orderedBy "CLUSTER BY")
  | "DISTRIBUTE BY" => some (.distribution, orderedBy "DISTRIBUTE BY")
  | "SORT BY" => some (.sorting, orderedBy "SORT BY")
  | "CONNECT BY" | "START WITH" => some (.hierarchy, hierarchy)
  | _ => none

/-- The next clause, as the places it fills with the first of them in front. A limit may say where to
    begin as well. -/
def clause : Parse (Option (Clause × List Clause)) := do
  match (← get).rest.head? with
  | some (.keyword letters) =>
    if ["LIMIT", "FETCH"].contains letters then
      return (← limit).map fun skipping => (.limit, if skipping then [.offset] else [])
    else
      match clauseAfter letters with
      | none => return none
      | some (clause, body) => return if ← body then some (clause, []) else none
  | _ => return none

def modified (n : Node) : Parse (Option Node) := do
  if n.used?.isNone then return some n
  let joins ← many (call .join)
  let laterals ← many lateral
  let n := if joins.isEmpty && laterals.isEmpty then n else n.extended
  let n ← iterate (fun (n : Node) => do
    match ← clause with
    | none => return none
    | some (first, further) =>
      if n.used?.any (·.contains first) then fail
      return some (n.use (first :: further))) n
  return some n

def movedClauses : Node → List Clause
  | .query used => used.filter [.order, .limit, .offset].contains
  | _ => []

def setOperation : Parse (Option Node) := do
  let start ← get
  let _ ← joinWords
  unless ← keywordOf ["EXCEPT", "INTERSECT", "UNION"] do return ← retreat start
  let _ ← keyword "DISTINCT" <||> keyword "ALL"
  let named ← words ["BY", "NAME"] <||> words ["STRICT", "CORRESPONDING"]
  let corresponding ← word "CORRESPONDING"
  if named || corresponding then
    if ← wordOf ["ON", "BY"] then let _ ← enclosedList (call .column)
  let operand ← need (← call (.query .operand))
  return some (.query (movedClauses operand))

def combination (first : Node) : Parse (Option Node) := do
  let n ← iterate (fun _ => setOperation) first
  return some n

end Parse

end QueryDesk
