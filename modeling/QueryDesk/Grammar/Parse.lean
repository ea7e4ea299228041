import QueryDesk.Grammar.Rule

namespace QueryDesk

inductive ParseFault where
  | unclassified
  | overrun
deriving DecidableEq

structure Place where
  rest : List Token
  last : Option Token

abbrev Rules := Rule → Place → Except ParseFault (Option Node × Place)

abbrev Parse := ReaderT Rules (StateT Place (Except ParseFault))

namespace Parse

variable {α : Type}

def call (rule : Rule) : Parse (Option Node) := fun rules place => rules rule place

def derive (content : Rule → Parse (Option Node)) : Nat → Rules
  | 0, _, _ => .error .unclassified
  | depth + 1, rule, place => content rule (derive content depth) place

def fail : Parse α := throw .unclassified

def need : Option α → Parse α
  | some a => pure a
  | none => fail

def peek : Parse (Option Token) := return (← get).rest.head?

def sees (test : Token → Bool) : Parse Bool := return (← peek).any test

def seesSecond (test : Token → Bool) : Parse Bool := return ((← get).rest[1]?).any test

def atEnd : Parse Bool := return (← get).rest.isEmpty

def follows (test : Token → Bool) : Parse Bool := return (← get).last.any test

def take (test : Token → Bool) : Parse Bool := do
  match (← get).rest with
  | t :: rest => if test t then set (Place.mk rest (some t)); return true else return false
  | [] => return false

def skip : Parse Unit := do let _ ← take fun _ => true

def keyword (letters : String) : Parse Bool := take (·.isKeyword [letters])

def keywordOf (choices : List String) : Parse Bool := take (·.isKeyword choices)

def sign (spelling : String) : Parse Bool := take (·.isSign [spelling])

def signOf (choices : List String) : Parse Bool := take (·.isSign choices)

def word (letters : String) : Parse Bool := take (·.reads [letters])

def wordOf (choices : List String) : Parse Bool := take (·.reads choices)

def takeAll (tests : List (Token → Bool)) : Parse Bool := do
  let place ← get
  let front := place.rest.take tests.length
  if front.length = tests.length && (tests.zip front).all (fun (test, t) => test t) then
    set (Place.mk (place.rest.drop tests.length) (front.getLast?.or place.last))
    return true
  else return false

def words (letters : List String) : Parse Bool :=
  takeAll (letters.map fun l t => t.reads [l])

def keywords (letters : List String) : Parse Bool :=
  takeAll (letters.map fun l t => t.isKeyword [l])

def expect (spelling : String) : Parse Unit := do unless ← sign spelling do fail

def attempt (p : Parse (Option α)) : Parse (Option α) := fun rules place =>
  match p rules place with
  | .ok (none, _) => .ok (none, place)
  | .error .unclassified => .ok (none, place)
  | result => result

def possible (p : Parse (Option α)) : Parse Bool := do
  let place ← get
  let found ← attempt p
  set place
  return found.isSome

def retreat (place : Place) : Parse (Option α) := do
  set place
  return none

def firstOf : List (Parse (Option α)) → Parse (Option α)
  | [] => return none
  | p :: ps => do
    match ← p with
    | some a => return some a
    | none => firstOf ps

def after (test : Parse Bool) (p : Parse (Option α)) : Parse (Option α) := do
  if ← test then p else return none

def iterate (step : α → Parse (Option α)) (a : α) : Parse α := do
  loop ((← get).rest.length + 1) a
where
  loop : Nat → α → Parse α
  | 0, a => return a
  | n + 1, a => do
    match ← step a with
    | some b => loop n b
    | none => return a

def many (item : Parse (Option α)) : Parse (List α) := do
  let items ← iterate (fun items => return (← item).map (· :: items)) []
  return items.reverse

def skipWhile (test : Parse Bool) : Parse Unit := do
  let _ ← many (do if ← test then return some () else return none)

def list (item : Parse (Option α)) : Parse (List α) := do
  let first ← item
  let items ← iterate (fun items => do
    if ← sign "," then return some ((← item).toList ++ items) else return none) first.toList
  return items.reverse

def enclosed (p : Parse α) : Parse α := do
  expect "("
  let a ← p
  expect ")"
  return a

def maybeEnclosed (p : Parse α) : Parse α := do
  if ← sign "(" then
    let a ← p
    expect ")"
    return a
  else p

def enclosedList (item : Parse (Option α)) : Parse (List α) := enclosed (list item)

def made (kind : String) : Parse (Option Node) := return some (.other kind)

end Parse

end QueryDesk
