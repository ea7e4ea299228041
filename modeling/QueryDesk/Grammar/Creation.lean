import QueryDesk.Grammar.Property

namespace QueryDesk

namespace Parse

def command : Parse (Option Node) := do
  skipWhile (take fun _ => true)
  made "COMMAND"

def completed (kind : String) : Parse (Option Node) := do
  if ← atEnd then made kind else command

def onWhat : Parse Unit := do
  if ← keyword "ON" then
    unless ← words ["COMMIT", "PRESERVE", "ROWS"] <||> words ["COMMIT", "DELETE", "ROWS"] do
      let _ ← need (← announcedName)
      let _ ← columns

def functionHead : Parse (Option Node) := do
  let n ← tableName true
  if ← sign "(" then
    let _ ← list parameter
    expect ")"
  return n

def functionBody : Parse (Option Node) := do
  let n ← functionHead
  let _ ← properties
  let announced ← keyword "AS"
  let quoted ← pure announced <&&> take (fun t => t matches .text .dollar _)
  let _ ← properties
  unless quoted do
    if ← keywordOf Keyword.commands then return ← command
    let _ ← keyword "BEGIN"
    let _ ← word "RETURN"
    if ← sees Token.isText then
      skip
      let _ ← properties
    else
      if ← sees (·.isKeyword ["TABLE"]) <&&>
          seesSecond (fun t => t.isSign ["("] || t.isKeyword ["FROM", "SELECT", "WITH"]) then skip
      let _ ← call .statement
    let _ ← word "END"
  return n

def indexColumn : Parse (Option Node) := do
  let n ← ordering
  unless ← sees (fun t => t.isSign [",", ")"] || t.isKeyword ["WITH"]) do
    let _ ← tableName false
    let _ ← keyword "ASC"
    let _ ← keyword "DESC"
    let _ ← words ["NULLS", "FIRST"] <||> words ["NULLS", "LAST"]
  if ← keyword "WITH" then let _ ← anyWord
  return n

def indexContent : Parse Unit := do
  if ← keyword "USING" then let _ ← anyWord
  if ← sees (·.isSign ["("]) then let _ ← enclosedList indexColumn
  if ← word "INCLUDE" then let _ ← enclosedNames
  if ← keywordOf ["PARTITION BY", "PARTITIONED_BY"] then let _ ← list (call .disjunction)
  if ← keyword "WITH" then let _ ← enclosedProperties
  if ← words ["USING", "INDEX", "TABLESPACE"] then let _ ← anyWord
  if ← sees (·.isKeyword ["WHERE"]) then let _ ← conditional
  if ← keyword "ON" then let _ ← field

def index : Parse (Option Node) := do
  unless ← keyword "ON" do
    if (← announcedName).isNone then return none
    let _ ← keyword "ON"
  let _ ← keyword "TABLE"
  let _ ← tableName true
  indexContent
  made "INDEX"

def innerIndex : Parse (Option Node) := do
  let _ ← keyword "UNIQUE"
  let _ ← word "PRIMARY"
  let _ ← word "AMP"
  unless ← keyword "INDEX" do return none
  let _ ← announcedName
  indexContent
  let _ ← properties
  let _ ← sign ","
  made "INDEX"

def filling? : Parse (Option Node) := do
  match ← call (.query .source) with
  | none => return none
  | some n =>
    match ← call (.combination n) with
    | none => return none
    | some n => call (.modified n)

def placeBody (letters : String) : Parse (Option Node) := do
  let n ← tableName true
  earlyProperties
  let _ ← columns
  let _ ← properties
  let announced ← keyword "AS"
  unless ← sees (fun t => t.isSign ["("] || t.isKeyword ["SELECT", "WITH"]) do let _ ← properties
  if letters = "SEQUENCE" then
    let _ ← call (.dataType .plain)
    let _ ← properties
  else if (← filling?).isNone && announced then
    let _ ← attempt (tableName false)
  if letters = "TABLE" then
    let _ ← properties
    let _ ← many innerIndex
  else if letters = "VIEW" then
    let _ ← words ["WITH", "NO", "SCHEMA", "BINDING"]
  let _ ← word "SHALLOW"
  if ← wordOf ["CLONE", "COPY"] then let _ ← need (← call (.table .withColumns))
  return n

def create : Parse (Option Node) := do
  let _ ← words ["OR", "REPLACE"] <||> words ["OR", "ALTER"]
  let _ ← keyword "UNIQUE"
  unless ← sees (·.isKeyword Keyword.creatables) do
    unless ← properties <&&> sees (·.isKeyword Keyword.creatables) do return ← command
  let letters := ((← peek).bind Token.letters?).getD ""
  skip
  let _ ← word "CONCURRENTLY"
  let _ ← existence true
  let n ← match letters with
    | "FUNCTION" | "MACRO" | "PROCEDURE" => functionBody
    | "INDEX" => index
    | _ => if Keyword.places.contains letters then placeBody letters else pure none
  if ← atEnd <||> sees (·.isSign [",", ")"]) then
    let _ ← need n
    made "CREATE"
  else command

def drop : Parse (Option Node) := do
  let _ ← keywordOf ["TEMP", "TEMPORARY"]
  let _ ← word "MATERIALIZED"
  let column ← sees (·.isKeyword ["COLUMN"])
  unless ← keywordOf Keyword.creatables do return ← command
  let _ ← word "CONCURRENTLY"
  let _ ← existence false
  if column then let _ ← call .column
  else let _ ← list (tableName true)
  onWhat
  if ← sees (·.isSign ["("]) then let _ ← enclosedList (call (.dataType .plain))
  let _ ← wordOf ["CASCADE", "RESTRICT"]
  let _ ← word "CONSTRAINTS"
  let _ ← word "PURGE"
  let _ ← word "SYNC"
  made "DROP"

/-- A statement that empties tables. With a parenthesis it is a call instead; `start` is the place of
    the word for both. -/
def truncate (start : Place) : Parse (Option Node) := do
  if ← sees (·.isSign ["("]) then
    set start
    return ← call (.call .plain)
  let _ ← keyword "DATABASE"
  let _ ← keyword "TABLE"
  let _ ← existence false
  if (← list (call (.table .withColumns))).isEmpty then fail
  onWhat
  let _ ← words ["RESTART", "IDENTITY"] <||> words ["CONTINUE", "IDENTITY"]
  let _ ← wordOf ["CASCADE", "RESTRICT"]
  let _ ← partition
  completed "TRUNCATETABLE"

def addedConstraintWords : List String :=
  ["CONSTRAINT", "FOREIGN KEY", "INDEX", "PRIMARY KEY", "UNIQUE"]

def addedConstraint : Parse (Option Node) := do
  if ← sees (·.isKeyword ["CONSTRAINT"]) then tableItem
  else if ← constraintAmong tableConstraintWords then made "CONSTRAINT"
  else return none

def addition : Parse (Option Node) := do
  let _ ← word "ADD"
  if ← sees (·.isKeyword addedConstraintWords) then
    if (← list addedConstraint).isEmpty then fail
    return ← made "ADDCONSTRAINT"
  let start ← get
  if ← follows (·.reads ["ADD"]) then
    let _ ← keyword "COLUMN"
    let _ ← existence true
    match ← definition with
    | some n =>
      if n.is "COLUMNDEF" then
        if ← wordOf ["FIRST", "AFTER"] then let _ ← call .column
        return some n
      set start
    | none => set start
  let _ ← existence true
  if ← sees (·.isKeyword ["PARTITION"]) <&&> seesSecond (·.isSign ["("]) then
    let _ ← fieldOr announcedName
    made "ADDPARTITION"
  else return none

def columnChange : Parse (Option Node) := do
  let _ ← keyword "COLUMN"
  let _ ← need (← fieldOr announcedName)
  if ← keywords ["DROP", "DEFAULT"] then pure ()
  else if ← keywords ["SET", "DEFAULT"] then let _ ← call .disjunction
  else if ← keyword "COMMENT" then let _ ← text
  else if ← words ["DROP", "NOT", "NULL"] <||> words ["SET", "NOT", "NULL"] <||>
      words ["SET", "VISIBLE"] <||> words ["SET", "INVISIBLE"] then pure ()
  else
    let _ ← words ["SET", "DATA"]
    let _ ← word "TYPE"
    let _ ← call (.dataType .plain)
    if ← keyword "COLLATE" then let _ ← call .term
    if ← keyword "USING" then let _ ← call .disjunction
  made "ALTERCOLUMN"

/-- What is dropped from a table. A statement that begins in the same way may follow, and where it is
    merely a command, it takes everything. -/
def removal (start : Place) : Parse (Option Node) := do
  let _ ← existence false
  if ← sees (·.isKeyword ["PARTITION"]) then
    let parts ← list (do
      let _ ← existence false
      if ← partition then made "PARTITION" else return none)
    return parts.head?
  set start
  return (← list (after (keyword "DROP") drop)).head?

def newName : Parse (Option Node) := do
  if ← keyword "COLUMN" then
    let _ ← existence false
    let old ← call .column
    let linked ← word "TO"
    let new ← call .column
    if old.isNone || !linked || new.isNone then return none
    made "RENAMECOLUMN"
  else
    let _ ← word "TO"
    let _ ← need (← call (.table .withColumns))
    made "ALTERRENAME"

def newProperties : Parse (Option Node) := do
  if ← sees (·.isSign ["("]) <||> words ["TABLE", "PROPERTIES"] then
    let _ ← enclosedList (call .assignment)
  else if ← wordOf ["LOGGED", "UNLOGGED"] then pure ()
  else if ← words ["WITHOUT", "CLUSTER"] <||> words ["WITHOUT", "OIDS"] then pure ()
  else if ← wordOf ["LOCATION", "TABLESPACE", "FILEFORMAT"] <||> words ["ACCESS", "METHOD"] <||>
      words ["FILE", "FORMAT"] then let _ ← field
  else if ← wordOf ["TAG", "TAGS"] then let _ ← list (call .assignment)
  else
    if ← word "SERDE" then let _ ← field
    let _ ← maybeEnclosed properties
  made "ALTERSET"

def change (start : Place) (letters : String) : Parse (Option Node) := do
  match letters with
  | "ADD" => return (← list addition).head?
  | "ALTER" => columnChange
  | "AS" => call (.query .plain)
  | "DELETE" =>
    if ← sees (·.isKeyword ["WHERE"]) then let _ ← conditional
    made "DELETE"
  | "DROP" => removal start
  | "RENAME" => newName
  | "SET" => newProperties
  | "SWAP" =>
    unless ← keyword "WITH" do fail
    let _ ← need (← call (.table .withColumns))
    made "SWAPTABLE"
  | _ => return none

def alter : Parse (Option Node) := do
  let session ← sees (·.isKeyword ["SESSION"])
  unless ← keywordOf ["INDEX", "SESSION", "TABLE", "VIEW"] do return ← command
  let _ ← existence false
  let _ ← word "ONLY"
  unless session do
    let _ ← need (← call (.table .withColumns))
    let _ ← words ["WITH", "CHECK"]
    onWhat
  let start ← get
  if !session && 1 < start.rest.length then skip
  match ← change start (((← get).last.bind Token.letters?).getD "") with
  | none => command
  | some _ =>
    let _ ← words ["NOT", "VALID"]
    let _ ← list (call .property)
    completed "ALTER"

def comment : Parse (Option Node) := do
  let _ ← existence false
  let _ ← keyword "ON"
  let _ ← word "MATERIALIZED"
  let kind ← peek
  unless ← keywordOf Keyword.creatables do return ← command
  let n ← match (kind.bind Token.letters?).getD "" with
    | "FUNCTION" | "MACRO" | "PROCEDURE" => functionHead
    | "TABLE" => call (.table { TableForm.plain with naming := .commented })
    | "COLUMN" => call .column
    | _ => announcedName
  let _ ← keyword "IS"
  let _ ← need n
  let _ ← need (← text)
  made "COMMENT"

end Parse

end QueryDesk
