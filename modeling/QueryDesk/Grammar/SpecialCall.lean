import QueryDesk.Grammar.Signature
import QueryDesk.Grammar.Window

namespace QueryDesk

namespace Parse

def called (kind : String) : Parse (Option Node) :=
  return some (.call kind (Signature.aggregates.contains kind))

def checked (name : String) (arguments : List Node) : Parse (Option Node) := do
  let s ← need (Signature.of? name)
  unless s.accepts arguments.length do fail
  called s.kind

def writtenFormat : Parse Unit := do
  let _ ← maybeEnclosed text
  if ← words ["AT", "TIME", "ZONE"] then let _ ← need (← call .unary)

def castBody (kind : String) : Parse (Option Node) := do
  let value ← call .disjunction
  if ← keyword "AS" then
    let type ← call (.dataType .plain)
    if ← keyword "COLLATE" then let _ ← firstOf [quotedName, call .column]
    if ← keyword "DEFAULT" then
      let _ ← call .bitwise
      let _ ← words ["ON", "CONVERSION", "ERROR"]
    let formatted ← keyword "FORMAT" <||> sign ","
    if formatted then writtenFormat
    let _ ← need value
    let target ← match type with
      | some (.dataType target _) => pure target
      | some (.cast _ _) => pure ""
      | _ => if formatted then pure "" else fail
    if formatted && target = "DATE" then return ← called "STRTODATE"
    if formatted && Keyword.clockTypes.contains target then return ← called "STRTOTIME"
    if ["CHAR", "CHARACTER"].contains target then
      if ← keyword "CHARACTER SET" then let _ ← need (← wordOrText)
    let _ ← option? [("RENAME", ["FIELDS"]), ("ADD", ["FIELDS"])]
    return some (.cast kind target)
  else
    expect ","
    let _ ← need value
    let _ ← need (← text)
    called "CASTTOSTRTYPE"

def conversionBody (kind : String) : Parse (Option Node) := do
  let value ← call .bitwise
  if ← keyword "USING" then
    let _ ← need (← plainWord)
  else
    expect ","
    let _ ← need (← call (.dataType .plain))
  let _ ← need value
  return some (.cast kind "")

def extractBody : Parse (Option Node) := do
  let part ← firstOf [call (.call .plain), wordOrText]
  unless ← keyword "FROM" <||> sign "," do fail
  let _ ← need (← call .bitwise)
  let _ ← need part
  called "EXTRACT"

def roundingBody (kind : String) : Parse (Option Node) := do
  let _ ← list (call (.argument false))
  if ← word "TO" then let _ ← plainWord
  called kind

def charactersBody : Parse (Option Node) := do
  let codes ← list (call .assignment)
  if ← keyword "USING" then let _ ← plainWord
  if codes.isEmpty then fail
  called "CHR"

def normalBody : Parse (Option Node) := do
  let _ ← need (← call .bitwise)
  if ← sign "," then let _ ← plainWord
  called "NORMALIZE"

def labelled (letters : String) : Parse (Option Node) :=
  after (sign "," <||> word letters) (call .bitwise)

def overlayBody : Parse (Option Node) := do
  let _ ← need (← call .bitwise)
  let _ ← need (← labelled "PLACING")
  let _ ← need (← labelled "FROM")
  let _ ← labelled "FOR"
  called "OVERLAY"

def positionBody : Parse (Option Node) := do
  let arguments ← list (call .bitwise)
  if ← keyword "IN" then
    let _ ← need (← call .bitwise)
    if arguments.isEmpty then fail
  else if arguments.length < 2 then fail
  called "STRPOSITION"

def substringBody : Parse (Option Node) := do
  let arguments ← list (call .bitwise)
  let (start, length) ← iterate (fun (start, length) => do
    if ← keyword "FROM" then return some ((← call .bitwise).toList, length)
    else if ← keyword "FOR" then
      let value ← call .bitwise
      return some (if start.isEmpty then [.number] else start, value.toList)
    else return none) ([], [])
  checked "SUBSTRING" (arguments ++ start ++ length)

def trimBody : Parse (Option Node) := do
  let _ ← wordOf ["LEADING", "TRAILING", "BOTH"]
  let first ← call .bitwise
  let value ← if ← keyword "FROM" then call .bitwise
    else
      if ← sign "," then let _ ← call .bitwise
      pure first
  if ← keyword "COLLATE" then let _ ← call .bitwise
  let _ ← need value
  called "TRIM"

def matchBody : Parse (Option Node) := do
  let searched ← list (call .column)
  let _ ← words [")", "AGAINST", "("]
  let _ ← need (← text)
  let _ ← words ["IN", "NATURAL", "LANGUAGE", "MODE"]
  let _ ← words ["IN", "BOOLEAN", "MODE"]
  let _ ← words ["WITH", "QUERY", "EXPANSION"]
  if searched.isEmpty then fail
  called "MATCHAGAINST"

def overflowWords : Parse Unit := do
  if ← words ["ON", "OVERFLOW"] then
    unless ← word "ERROR" do
      let _ ← word "TRUNCATE"
      let _ ← text
      let _ ← words ["WITH", "COUNT"] <||> words ["WITHOUT", "COUNT"]

def joinedTextsBody : Parse (Option Node) := do
  let arguments ← if ← keyword "DISTINCT" then do
      let _ ← call .disjunction
      let further ← if ← sign "," then list (call .disjunction) else pure []
      pure (.other "DISTINCT" :: further)
    else list (call .disjunction)
  overflowWords
  let place ← get
  let closed ← sign ")"
  if !closed && !arguments.isEmpty then
    let _ ← orderBy
    let _ ← limit
    called "GROUPCONCAT"
  else if ← words ["WITHIN", "GROUP"] then
    expect "("
    let ordered ← orderBy
    if arguments.isEmpty && !ordered then fail
    called "GROUPCONCAT"
  else
    set place
    if arguments.isEmpty || 3 < arguments.length then fail
    called "GROUPCONCAT"

def extremeBody (kind : String) : Parse (Option Node) := do
  let first ← if ← keyword "DISTINCT" then do
      let _ ← call (.argument false)
      let _ ← sign ","
      pure [.other "DISTINCT"]
    else pure []
  let arguments := first ++ (← list (call (.argument false)))
  if arguments.length < 2 then fail
  called kind

def pairOfObject : Parse (Option Node) := do
  let _ ← word "KEY"
  let key ← call .column
  let _ ← sign ":" <||> sign "," <||> keyword "IS"
  let _ ← word "VALUE"
  let value ← call .bitwise
  if key.isNone && value.isNone then return none
  let _ ← need key
  let _ ← need value
  let _ ← words ["FORMAT", "JSON"]
  made "JSONKEYVALUE"

def objectBody (kind : String) : Parse (Option Node) := do
  unless (← firstOf [after (sign "*") (made "STAR"), placeholder]).isSome do
    let _ ← list pairOfObject
  let _ ← words ["NULL", "ON", "NULL"] <||> words ["ABSENT", "ON", "NULL"]
  let _ ← words ["WITH", "UNIQUE"] <||> words ["WITHOUT", "UNIQUE"]
  let _ ← word "KEYS"
  if ← word "RETURNING" then
    let _ ← call .operand
    let _ ← words ["FORMAT", "JSON"]
  if ← word "ENCODING" then let _ ← plainWord
  called kind

def specialCalls : List (String × Parse (Option Node)) :=
  [("ARGMAX", extremeBody "ARGMAX"), ("ARGMIN", extremeBody "ARGMIN"),
    ("ARG_MAX", extremeBody "ARGMAX"), ("ARG_MIN", extremeBody "ARGMIN"),
    ("MAX_BY", extremeBody "ARGMAX"), ("MIN_BY", extremeBody "ARGMIN"), ("CAST", castBody "CAST"),
    ("SAFE_CAST", castBody "TRYCAST"), ("TRY_CAST", castBody "TRYCAST"),
    ("CONVERT", conversionBody "CAST"), ("TRY_CONVERT", conversionBody "TRYCAST"),
    ("CEIL", roundingBody "CEIL"), ("FLOOR", roundingBody "FLOOR"), ("CHAR", charactersBody),
    ("CHR", charactersBody), ("EXTRACT", extractBody), ("GROUP_CONCAT", joinedTextsBody),
    ("LISTAGG", joinedTextsBody), ("STRINGAGG", joinedTextsBody), ("STRING_AGG", joinedTextsBody),
    ("JSON_OBJECT", objectBody "JSONOBJECT"), ("JSON_OBJECTAGG", objectBody "JSONOBJECTAGG"),
    ("MATCH", matchBody), ("NORMALIZE", normalBody), ("OVERLAY", overlayBody),
    ("POSITION", positionBody), ("SUBSTRING", substringBody), ("TRIM", trimBody)]

end Parse

end QueryDesk
