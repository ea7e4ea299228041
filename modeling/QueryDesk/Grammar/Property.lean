import QueryDesk.Grammar.Query

namespace QueryDesk

namespace Parse

def bareProperties : List String :=
  ["DETERMINISTIC", "DYNAMIC", "EMPTY", "EXTERNAL", "GLOBAL", "HEAP", "ICEBERG", "IMMUTABLE",
    "MATERIALIZED", "MULTISET", "SECURE", "STABLE", "STREAMING", "STRICT", "TEMP", "TEMPORARY",
    "TRANSIENT", "UNLOGGED", "VOLATILE"]

def assignedProperties : List String :=
  ["ALGORITHM", "AUTO_INCREMENT", "COLLATE", "COMMENT", "ENGINE", "EXECUTE", "FORMAT", "LANGUAGE",
    "LOCATION", "ROW_FORMAT", "USING"]

def enclosedProperties : Parse Bool := return !(← enclosedList (call .property)).isEmpty

def withProperty (start : Place) : Parse (Option Node) := do
  if ← sees (·.isSign ["("]) then
    let _ ← enclosedProperties
    made "WITH"
  else if ← word "DATA" <||> words ["NO", "DATA"] then
    unless ← words ["AND", "STATISTICS"] do let _ ← words ["AND", "NO", "STATISTICS"]
    made "WITHDATA"
  else retreat start

def madeType : Parse (Option Node) := do
  if ← keyword "TABLE" then
    if ← sign "<" then
      let _ ← list (call .columnDefinition)
      expect ">"
    else let _ ← columns
  else unless ← words ["NULL", "ON", "NULL", "INPUT"] do
    let _ ← call (.dataType .plain)
  made "RETURNS"

def propertyAfter (start : Place) (letters : String) : Parse (Option Node) := do
  match letters with
  | "LIKE" =>
    let _ ← need (← call (.table .withColumns))
    skipWhile (wordOf ["INCLUDING", "EXCLUDING"] <&&> return (← announcedName).isSome)
    made "LIKE"
  | "ON" =>
    unless ← words ["COMMIT", "PRESERVE", "ROWS"] <||> words ["COMMIT", "DELETE", "ROWS"] do
      let _ ← need (← announcedName)
      let _ ← columns
    made "ON"
  | "PARTITION BY" | "PARTITIONED_BY" =>
    let _ ← sign "="
    unless ← columns do let _ ← need (← bracketed (← field))
    made "PARTITIONEDBY"
  | "RETURNS" => madeType
  | "TBLPROPERTIES" =>
    let _ ← enclosedProperties
    made "PROPERTIES"
  | "WITH" => withProperty start
  | _ =>
    if assignedProperties.contains letters then
      let _ ← sign "="
      let _ ← keyword "AS"
      let _ ← need (← field)
    made "PROPERTY"

def propertyWords : List String :=
  bareProperties ++ assignedProperties ++
    ["LIKE", "ON", "PARTITION BY", "PARTITIONED_BY", "RETURNS", "TBLPROPERTIES", "WITH"]

def sequenceStep : Parse (Option Unit) := do
  let separated ← sign ","
  let found ← if ← word "INCREMENT" then do
      let _ ← word "BY"
      let _ ← sign "="
      let _ ← call .term
      pure true
    else if ← wordOf ["MINVALUE", "MAXVALUE"] then do
      let _ ← call .term
      pure true
    else if ← keyword "START WITH" <||> word "START" then do
      let _ ← sign "="
      let _ ← call .term
      pure true
    else if ← word "CACHE" then do
      let _ ← number
      pure true
    else if ← words ["OWNED", "BY"] then do
      unless ← word "NONE" do let _ ← call .column
      pure true
    else return (← option? ([("NO", ["CYCLE", "CACHE", "MAXVALUE", "MINVALUE"]),
        ("SCALE", ["EXTEND", "NOEXTEND"]), ("SHARD", ["EXTEND", "NOEXTEND"])] ++
      ["SESSION", "GLOBAL", "KEEP", "NOKEEP", "ORDER", "NOORDER", "NOCACHE", "CYCLE", "NOCYCLE",
        "NOMINVALUE", "NOMAXVALUE", "NOSCALE", "NOSHARD"].map (·, []))).map fun _ => ()
  return if separated || found then some () else none

def sequenceProperties : Parse Bool := return !(← many sequenceStep).isEmpty

def namedProperty : Parse (Option Node) := do
  let start ← get
  let found ← call .column
  unless ← sign "=" do return ← retreat start
  let _ ← need found
  let _ ← need (← firstOf [call .bitwise, anyWord])
  made "PROPERTY"

def announcedProperty : Parse (Option Node) := do
  let start ← get
  match start.rest.head?.bind Token.letters? with
  | some letters =>
    if propertyWords.contains letters then
      skip
      propertyAfter start letters
    else return none
  | none => return none

def property : Parse (Option Node) := do
  if ← sees (·.reads propertyWords) then announcedProperty
  else if ← sequenceProperties then made "SEQUENCE"
  else namedProperty

def earlyProperties : Parse Unit := do
  let _ ← many (do
    let _ ← sign ","
    announcedProperty)

def properties : Parse Bool := return !(← many property).isEmpty

end Parse

end QueryDesk
