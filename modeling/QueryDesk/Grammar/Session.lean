import QueryDesk.Grammar.Modification

namespace QueryDesk

namespace Parse

def beginning : Parse (Option Node) := do
  let _ ← wordOf ["DEFERRED", "EXCLUSIVE", "IMMEDIATE"]
  let _ ← wordOf ["TRANSACTION", "WORK"]
  skipWhile (take fun t => t.isPlainWord || t.isKeyword ["NOT"] || t.isSign ["!", ","])
  made "TRANSACTION"

def ending (kind : String) : Parse (Option Node) := do
  let _ ← wordOf ["TRANSACTION", "WORK"]
  if ← word "TO" then
    let _ ← word "SAVEPOINT"
    let _ ← announcedName
  if ← keyword "AND" then
    let _ ← word "NO"
    let _ ← word "CHAIN"
  made kind

def transactionOptions : List (String × List String) :=
  [("ISOLATION", ["LEVEL REPEATABLE READ", "LEVEL READ COMMITTED", "LEVEL READ UNCOMITTED",
      "LEVEL SERIALIZABLE"]),
    ("READ", ["WRITE", "ONLY"])]

def assignedSetting : Parse (Option Node) := do
  let start ← get
  let found ← firstOf [call .primary, call .column]
  let linked ← wordOf ["=", ":=", "TO"]
  if found.isNone || !linked then return ← retreat start
  let _ ← need (← firstOf [call .statement, announcedName])
  made "SETITEM"

def settingItem : Parse (Option Node) := do
  let wide ← wordOf ["GLOBAL", "SESSION"]
  if ← word "TRANSACTION" then
    let _ ← list (option transactionOptions)
    made "SETITEM"
  else
    if !wide then let _ ← wordOf ["LOCAL", "VARIABLE"]
    assignedSetting

def setting : Parse (Option Node) := do
  let _ ← list settingItem
  completed "SET"

def showing : Parse (Option Node) := do
  if ← keyword "ALL" then
    if ← atEnd then throw .overrun
    unless ← word "TABLES" do return ← command
  else unless ← word "TABLES" do return ← command
  if ← keyword "FROM" then let _ ← tableName true
  made "SHOW"

def attachOption : Parse (Option Node) := do
  let _ ← need (← anyWord)
  let _ ← fieldOr announcedName
  made "ATTACHOPTION"

def attachment (kind : String) : Parse (Option Node) := do
  let _ ← keyword "DATABASE"
  let _ ← existence (kind = "ATTACH")
  let n ← aliased true (← firstOf [call .primary, anyWord])
  if ← sees (·.isSign ["("]) then let _ ← enclosedList attachOption
  let _ ← need n
  made kind

def installation : Parse (Option Node) := do
  let _ ← need (← announcedName)
  if ← keyword "FROM" then let _ ← wordOrText
  made "INSTALL"

def forced : Parse (Option Node) := do
  if ← keyword "INSTALL" then installation else command

def usage : Parse (Option Node) := do
  let _ ← wordOf ["CATALOG", "DATABASE", "ROLE", "SCHEMA", "WAREHOUSE"]
  let _ ← need (← call (.table .plain))
  made "USE"

def credentials : Parse Unit := do
  if ← words ["STORAGE_INTEGRATION", "="] then let _ ← field
  if ← word "CREDENTIALS" then
    if ← sign "=" then let _ ← enclosedProperties
    else let _ ← field
  if ← word "IAM_ROLE" then
    unless ← keyword "DEFAULT" do let _ ← field
  if ← word "REGION" then let _ ← field

def copyOption : Parse (Option Node) := do
  if ← atEnd <||> sees (·.isSign [")"]) then return none
  let _ ← need (← anyWord)
  let _ ← sign "="
  let _ ← keyword "AS"
  let _ ← firstOf [field, bracketed none]
  let _ ← sign ","
  made "COPYPARAMETER"

def copy : Parse (Option Node) := do
  let _ ← keyword "INTO"
  let _ ← need (← if ← sees (·.isSign ["("]) then call (.query .source)
    else call (.table .withColumns))
  unless ← keyword "FROM" do let _ ← word "TO"
  let before ← get
  let files ← list field
  if ← pure !files.isEmpty <&&> sees (·.isSign ["="]) then set before
  credentials
  let _ ← keyword "WITH"
  let _ ← maybeEnclosed (many copyOption)
  completed "COPY"

def loading : Parse (Option Node) := do
  unless ← word "DATA" do return ← command
  let _ ← word "LOCAL"
  let _ ← word "INPATH"
  let _ ← text
  let _ ← keyword "OVERWRITE"
  let _ ← keywords ["INTO", "TABLE"]
  let _ ← need (← call (.table .withColumns))
  let _ ← partition
  if ← word "INPUTFORMAT" then let _ ← text
  if ← word "SERDE" then let _ ← text
  made "LOADDATA"

def caching : Parse (Option Node) := do
  let _ ← word "LAZY"
  let _ ← keyword "TABLE"
  let _ ← need (← call (.table .withColumns))
  if ← word "OPTIONS" then
    expect "("
    let _ ← text
    let _ ← sign "="
    let _ ← text
    expect ")"
  let _ ← keyword "AS"
  let _ ← call (.query { QueryForm.plain with nested := true })
  made "CACHE"

def uncaching : Parse (Option Node) := do
  unless ← keyword "TABLE" do fail
  let _ ← existence false
  let _ ← need (← call (.table .withColumns))
  made "UNCACHE"

def privilege : Parse (Option Node) := do
  let parts ← many (after
    (take fun t => !(t.isSign [",", "("] || t.isKeyword ["ON"])) (return some ()))
  if parts.isEmpty then fail
  if ← sees (·.isSign ["("]) then let _ ← enclosedList (call .column)
  made "GRANTPRIVILEGE"

def principal : Parse (Option Node) := do
  let _ ← wordOf ["ROLE", "GROUP"]
  announcedName

/-- A statement that gives or takes privileges, with the word before those who get or lose them. What
    is not understood makes it a command. -/
def privileges (kind link : String) : Parse (Option Node) := do
  let _ ← list privilege
  let _ ← keyword "ON"
  let _ ← keywordOf Keyword.creatables
  if (← attempt (tableName false)).isNone then return ← command
  unless ← word link do return ← command
  let principals ← list principal
  if kind = "GRANT" then let _ ← words ["WITH", "GRANT", "OPTION"]
  else let _ ← wordOf ["CASCADE", "RESTRICT"]
  if ← atEnd then
    if principals.isEmpty then fail
    made kind
  else command

def revocation : Parse (Option Node) := do
  let _ ← words ["GRANT", "OPTION", "FOR"]
  privileges "REVOKE" "FROM"

def analysis : Parse (Option Node) := do
  if ← atEnd then return ← made "ANALYZE"
  let _ ← many (do
    if ← word "BUFFER_USAGE_LIMIT" then
      let _ ← number
      return some ()
    else if ← wordOf ["FULL", "LOCAL", "NO_WRITE_TO_BINLOG", "SAMPLE", "SKIP_LOCKED", "VERBOSE"] then
      return some ()
    else return none)
  if ← keywordOf ["TABLE", "INDEX"] then let _ ← tableName false
  else if ← word "TABLES" then
    if ← keywordOf ["FROM", "IN"] then let _ ← need (← call (.table .withColumns))
  else if ← word "DATABASE" then let _ ← need (← call (.table .withColumns))
  else if ← word "CLUSTER" then let _ ← need (← call (.table .plain))
  else let _ ← tableName false
  let parted ← attempt (return if ← partition then some () else none)
  if ← pure parted.isNone <&&> wordOf ["PARTITION", "SUBPARTITION"] then return ← command
  let _ ← words ["WITH", "SYNC", "MODE"] <||> words ["WITH", "ASYNC", "MODE"]
  let _ ← properties
  made "ANALYZE"

def killing : Parse (Option Node) := do
  let _ ← wordOf ["CONNECTION", "QUERY"]
  let _ ← need (← call .primary)
  made "KILL"

def pragma : Parse (Option Node) := do
  let _ ← need (← call .expression)
  made "PRAGMA"

end Parse

end QueryDesk
