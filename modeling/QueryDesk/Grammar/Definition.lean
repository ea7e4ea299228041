import QueryDesk.Grammar.DataType

namespace QueryDesk

namespace Parse

def enclosedNames : Parse (List Node) := enclosedList announcedName

def referenceAction : Parse Bool :=
  words ["NO", "ACTION"] <||> word "CASCADE" <||> word "RESTRICT" <||> keywords ["SET", "NULL"] <||>
    keywords ["SET", "DEFAULT"]

def keyOptions : Parse Unit :=
  skipWhile (do
    if ← keyword "ON" then
      let _ ← take (!·.isReserved)
      unless ← referenceAction do fail
      return true
    else
      return (← option? [("NOT", ["ENFORCED"]), ("MATCH", ["FULL", "PARTIAL", "SIMPLE"]),
        ("INITIALLY", ["DEFERRED", "IMMEDIATE"]), ("USING", ["BTREE", "HASH"]), ("DEFERRABLE", []),
        ("NORELY", []), ("RELY", [])]).isSome)

def reference : Parse Unit := do
  let _ ← need (← call (.table .withColumns))
  keyOptions

def increments : Parse Unit := do
  if ← sees (·.isSign ["("]) then
    let _ ← enclosedList (call .bitwise)
  else if ← word "START" then
    let _ ← call .bitwise
    let _ ← word "INCREMENT"
    let _ ← call .bitwise

def generator (identity : Bool) : Parse Unit := do
  if ← sign "(" then
    let started ← keyword "START WITH"
    if started then let _ ← call .bitwise
    if ← words ["INCREMENT", "BY"] then let _ ← call .bitwise
    if ← word "MINVALUE" then let _ ← call .bitwise
    if ← word "MAXVALUE" then let _ ← call .bitwise
    let _ ← word "CYCLE" <||> words ["NO", "CYCLE"]
    if !identity then
      let _ ← call .equality
    else if !started then
      if ← sees Token.isNumber then let _ ← list (call .bitwise)
    expect ")"

def generated : Parse Unit := do
  if ← words ["BY", "DEFAULT"] then let _ ← keywords ["ON", "NULL"]
  else let _ ← word "ALWAYS"
  let _ ← keyword "AS"
  if ← word "ROW" then
    let _ ← word "START" <||> word "END"
    let _ ← word "HIDDEN"
  else
    let identity ← word "IDENTITY"
    generator identity
    let _ ← wordOf ["STORED", "VIRTUAL"]

def constraintWords : List String :=
  ["AUTOINCREMENT", "AUTO_INCREMENT", "CHARACTER SET", "CHECK", "COLLATE", "COMMENT", "DEFAULT",
    "FOREIGN KEY", "FORMAT", "GENERATED", "IDENTITY", "INVISIBLE", "LIKE", "NOT", "NULL", "ON", "PATH",
    "PRIMARY KEY", "REFERENCES", "UNIQUE", "UPPERCASE", "WITH"]

def tableConstraintWords : List String := ["CHECK", "FOREIGN KEY", "LIKE", "PRIMARY KEY", "UNIQUE"]

def keyColumns : Parse Unit := do
  let _ ← enclosedList (do
    match ← announcedName with
    | none => return none
    | some n => let _ ← keywordOf ["ASC", "DESC"]; return some n)

def columns : Parse Bool := do
  let start ← get
  unless ← sign "(" do return false
  if ← sees (fun t => t.isSign ["("] || t.isKeyword ["SELECT", "WITH"]) then
    set start
    return false
  let _ ← list (call .tableItem)
  expect ")"
  return true

def constraintAfter (letters : String) : Parse Bool := do
  match letters with
  | "AUTOINCREMENT" | "AUTO_INCREMENT" | "IDENTITY" => increments; return true
  | "CHARACTER SET" | "FORMAT" => let _ ← need (← wordOrText); return true
  | "CHECK" => let _ ← need (← enclosed (call .assignment)); return true
  | "COLLATE" => let _ ← need (← firstOf [quotedName, call .column]); return true
  | "COMMENT" | "PATH" => let _ ← need (← text); return true
  | "DEFAULT" => let _ ← need (← call .bitwise); return true
  | "FOREIGN KEY" =>
    unless ← sees (·.isKeyword ["REFERENCES"]) do let _ ← enclosedNames
    if ← keyword "REFERENCES" then reference
    keyOptions
    return true
  | "GENERATED" => generated; return true
  | "LIKE" => let _ ← need (← call (.table .withColumns)); return true
  | "NOT" => keyword "NULL" <||> word "CASESPECIFIC" <||> words ["FOR", "REPLICATION"]
  | "ON" =>
    if ← keyword "UPDATE" then let _ ← call (.call .plain)
    else let _ ← announcedName
    return true
  | "PRIMARY KEY" =>
    let _ ← keywordOf ["ASC", "DESC"]
    if ← sees (·.isSign ["("]) then keyColumns
    keyOptions
    return true
  | "REFERENCES" => reference; return true
  | "UNIQUE" =>
    let _ ← wordOf ["KEY", "INDEX"]
    let _ ← words ["NULLS", "NOT", "DISTINCT"]
    let _ ← name
    let _ ← columns
    keyOptions
    return true
  | "WITH" => let _ ← enclosedList (call .property); return true
  | _ => return true

def constraintAmong (choices : List String) : Parse Bool := do
  let start ← get
  match start.rest.head?.bind Token.letters? with
  | none => return false
  | some letters =>
    if choices.contains letters then
      skip
      if ← constraintAfter letters then return true
      set start
    return false

def columnConstraint : Parse Bool := do
  let called ← if ← keyword "CONSTRAINT" then pure (← announcedName).isSome else pure false
  return (← constraintAmong constraintWords) || called

/-- What follows the name of a column: its type, the expression it is computed from, and its
    constraints. Without any of them the name is left as it is. -/
def definitionOf (computed : Bool) (n : Option Node) : Parse (Option Node) := do
  if !computed then let _ ← keyword "AS"
  let type ← call (.dataType .ofColumn)
  if ← words ["FOR", "ORDINALITY"] then
    let _ ← need n
    return ← made "COLUMNDEF"
  let mut constrained := false
  if ← (pure type.isNone <&&> keyword "AS") <||> wordOf ["ALIAS", "MATERIALIZED"] <||>
      (pure type.isSome <&&> sees (·.isKeyword ["AS"]) <&&> seesSecond (·.isSign ["("]) <&&>
        keyword "AS") then
    let _ ← need (← call .disjunction)
    let _ ← word "PERSISTED"
    let _ ← keywords ["NOT", "NULL"]
    constrained := true
  let further ← many (do if ← columnConstraint then return some () else return none)
  if type.isNone && !constrained && further.isEmpty then return n
  if ← wordOf ["FIRST", "AFTER"] then let _ ← call .column
  let _ ← need n
  made "COLUMNDEF"

def definition : Parse (Option Node) := do definitionOf true (← fieldOr announcedName)

def parameter : Parse (Option Node) := do definitionOf false (← announcedName)

def tableItem : Parse (Option Node) := do
  if ← keyword "CONSTRAINT" then
    let _ ← need (← announcedName)
    skipWhile (do
      if ← constraintAmong constraintWords then return true
      return (← call (.call .plain)).isSome)
    made "CONSTRAINT"
  else if ← sees (fun t => t matches .quotedName _) then definition
  else if ← constraintAmong tableConstraintWords then made "CONSTRAINT"
  else definition

end Parse

end QueryDesk
