import QueryDesk.Grammar.Name

namespace QueryDesk

namespace Parse

def typeSize : Parse (Option Node) := do
  match ← call .operand with
  | none => return none
  | some size => let _ ← anyWord; return some size

def typeDetail (form : TypeForm) (letters : String) : Parse (List Node) :=
  if Keyword.structTypes.contains letters then list (call .columnDefinition)
  else if Keyword.nestedTypes.contains letters then list (call (.dataType form))
  else if letters = "ENUM" then list (call .equality)
  else list typeSize

def timeZoneWords : Parse Bool :=
  words ["WITH", "TIME", "ZONE"] <||> words ["WITH", "LOCAL", "TIME", "ZONE"] <||>
    words ["WITHOUT", "TIME", "ZONE"]

def intervalUnits : Parse Unit := do
  if (← plainWord).isSome then
    if ← word "TO" then let _ ← plainWord

/-- One pair of brackets after a type, or the word for an array; `first` is the place before all of
    them. Values between brackets that are no size do not belong to the type, and then nor do any
    brackets. -/
def arraySuffix (form : TypeForm) (first : Place) (bare : Bool) (n : Node) :
    Parse (Option (Node × Bool)) := do
  if ← atEnd then return none
  let ofArray ← follows (·.isKeyword ["ARRAY"])
  let opened ← sign "["
  if !opened && !bare then return none
  if ofArray then
    if ← sign "]" then return none
  let values ← list (call .disjunction)
  let sized ← sees (·.isSign ["]"])
  if !values.isEmpty && !form.described && (ofArray || !sized) then
    set first
    return some (n, true)
  let _ ← sign "]"
  return some (.dataType "ARRAY" true, false)

def arraySuffixes (form : TypeForm) (n : Node) : Parse Node := do
  let first ← get
  let bare ← keyword "ARRAY"
  match ← arraySuffix form first bare n with
  | none => return n
  | some (n, true) => return n
  | some (n, false) =>
    let (n, _) ← iterate (fun (n, stopped) => do
      if stopped then return none else arraySuffix form first false n) (n, false)
    return n

def typeArguments (form : TypeForm) (letters : String) : Parse (Option (Bool × Bool)) := do
  unless Keyword.nestedTypes.contains letters do return none
  unless ← sign "<" do return none
  let isStruct := Keyword.structTypes.contains letters
  let members ← if isStruct then list (call .columnDefinition) else list (call (.dataType form))
  expect ">"
  let place ← get
  if ← signOf ["[", "("] then
    let values ← list (call .disjunction)
    if values.isEmpty && isStruct then
      set place
      return some (!members.isEmpty, false)
    let _ ← signOf ["]", ")"]
    return some (!members.isEmpty, true)
  return some (!members.isEmpty, false)

def mapMembers (form : TypeForm) (start : Place) : Parse (Option Node) := do
  let _ ← call (.dataType form)
  unless ← sign "=>" do return ← retreat start
  let _ ← call (.dataType form)
  unless ← sign "]" do return ← retreat start
  return some (.dataType "MAP" true)

/-- The rest of a type that begins with a word for types. Where an expression may stand, a word with
    parentheses is a type only before a text. -/
def typeOfWord (form : TypeForm) (start : Place) (letters : String) : Parse (Option Node) := do
  if letters = "MAP" then
    if ← sign "[" then return ← mapMembers form start
  let mut detailed := false
  let mut maybeCall := false
  if ← sign "(" then
    detailed := !(← typeDetail form letters).isEmpty
    unless ← sign ")" do return ← retreat start
    maybeCall := true
  let mut valued := false
  match ← typeArguments form letters with
  | some (members, values) => detailed := members; valued := values
  | none => pure ()
  if Keyword.clockTypes.contains letters then
    if ← timeZoneWords then maybeCall := false
  else if letters = "INTERVAL" then intervalUnits
  if maybeCall && form.guarded then
    unless ← possible text do return ← retreat start
  if ← word "UNSIGNED" then
    unless Keyword.signedTypes.contains letters do fail
  if letters = "NULLABLE" && !detailed then return ← retreat start
  let n := if valued then Node.cast "CAST" letters else .dataType letters detailed
  skipWhile (keyword "LIST")
  return some (← arraySuffixes form n)

def typeOfName (form : TypeForm) (start : Place) : Parse (Option Node) := do
  skipWhile (sign "." <&&> take (!·.isReserved))
  let mut detailed := false
  if ← sign "(" then
    detailed := !(← list typeSize).isEmpty
    unless ← sign ")" do return ← retreat start
  skipWhile (keyword "LIST")
  return some (← arraySuffixes form (.dataType "" detailed))

def dataType (form : TypeForm) : Parse (Option Node) := do
  let start ← get
  match start.rest.head? with
  | some (.keyword letters) =>
    if Keyword.types.contains letters then
      skip
      typeOfWord form start letters
    else return none
  | some (.quotedName letters) =>
    if form.named then
      skip
      if Keyword.types.contains letters then typeOfWord form start letters
      else typeOfName form start
    else return none
  | some (.name _) => if form.named then skip; typeOfName form start else return none
  | _ => return none

end Parse

end QueryDesk
