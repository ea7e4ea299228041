import QueryDesk.Grammar.Ordering

namespace QueryDesk

namespace Parse

def braceMoment : Parse (Option Node) := do
  unless ← take (fun t => t.isPlainWord && t.reads ["D", "T", "TS"]) do return none
  let _ ← text
  expect "\x7d"
  made "MOMENT"

def sliced (n : Option Node) : Parse (Option Node) := do
  unless ← sign ":" do return n
  let last ← if ← sees (·.isSign ["-"]) <&&> seesSecond (·.isSign [":"]) then
      skip
      pure (some .number)
    else call .assignment
  if ← sign ":" then let _ ← call .unary
  return some (.slice n.isSome last.isSome)

def element : Parse (Option Node) := do sliced (← aliased true (← call .disjunction))

def isComplete : Node → Bool
  | .slice keyed valued => keyed && valued
  | _ => true

/-- One pair of brackets or braces, after a value or by itself, and whether another pair may follow.
    A column called `ARRAY` or `LIST` makes a list of its elements; of any other value, an element is
    meant. -/
def bracket (n : Option Node) : Parse (Option (Option Node × Bool)) := do
  if ← sign "[" then
    let elements ← list element
    expect "]"
    match n with
    | none => return some (some (.call "ARRAY" false), true)
    | some n =>
      match n with
      | .column _ "ARRAY" _ => return some (some (.call "ARRAY" false), false)
      | .column _ "LIST" _ => return some (some (.call "LIST" false), false)
      | _ =>
        if elements.isEmpty then fail
        return some (some (.other "BRACKET"), true)
  else if ← sign "\x7b" then
    match ← braceMoment with
    | some n => return some (some n, false)
    | none =>
      let elements ← list element
      expect "\x7d"
      unless elements.all isComplete do fail
      return some (some (.call "STRUCT" false), true)
  else return none

def bracketed (n : Option Node) : Parse (Option Node) := do
  let (n, _) ← iterate (fun (n, more) => do
    if more then bracket n else return none) (n, true)
  return n

end Parse

end QueryDesk
