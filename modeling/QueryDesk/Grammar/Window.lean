import QueryDesk.Grammar.Ordering

namespace QueryDesk

namespace Parse

def frameBound : Parse Unit := do
  let _ ← keyword "BETWEEN"
  unless ← word "UNBOUNDED" <||> words ["CURRENT", "ROW"] do
    let _ ← call .bitwise
  let _ ← wordOf ["FOLLOWING", "PRECEDING"]

def frame : Parse Unit := do
  if ← keywordOf ["ROWS", "RANGE"] then
    let _ ← keyword "BETWEEN"
    frameBound
    if ← keyword "AND" then frameBound
    if ← word "EXCLUDE" then
      let _ ← option [("NO", ["OTHERS"]), ("CURRENT", ["ROW"]), ("GROUP", []), ("TIES", [])]

def windowContent : Parse Unit := do
  let _ ← nameAmong fun t => t.isName && !t.isKeyword ["RANGE", "ROWS"]
  let _ ← keyword "FIRST"
  let _ ← word "LAST"
  if ← keywordOf ["PARTITION BY", "PARTITIONED_BY"] then let _ ← list (call .disjunction)
  let _ ← orderBy
  frame
  expect ")"

def nullTreatment (n : Option Node) : Parse (Option Node) := do
  if ← words ["IGNORE", "NULLS"] then
    let _ ← need n
    made "IGNORENULLS"
  else if ← words ["RESPECT", "NULLS"] then
    let _ ← need n
    made "RESPECTNULLS"
  else return n

def qualified (n : Option Node) : Parse (Option Node) := do
  let mut n := n
  if ← words ["WITHIN", "GROUP"] then
    let _ ← enclosed orderBy
    let _ ← need n
    n := some (.other "WITHINGROUP")
  if ← takeAll [(·.isKeyword ["FILTER"]), (·.isSign ["("])] then
    let _ ← keyword "WHERE"
    let _ ← need (← call .disjunction)
    let _ ← need n
    expect ")"
    n := some (.other "FILTER")
  nullTreatment n

def windowBody (n : Option Node) : Parse (Option Node) := do
  if ← sign "(" then windowContent else let _ ← name
  let _ ← need n
  return some .window

def overWindow (n : Option Node) : Parse (Option Node) := do
  let n ← qualified n
  unless ← keyword "OVER" do return n
  let n ← windowBody n
  iterate (fun n => do
    if ← follows (·.isSign [")"]) <&&> keyword "OVER" then return some (← windowBody n)
    else return none) n

def namedWindow : Parse (Option Node) := do
  let n ← qualified (← announcedName)
  let _ ← keyword "AS"
  windowBody n

end Parse

end QueryDesk
