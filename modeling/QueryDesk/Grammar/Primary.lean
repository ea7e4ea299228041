import QueryDesk.Grammar.Call
import QueryDesk.Grammar.Pivot

namespace QueryDesk

namespace Parse

def starChange (choices : List String) : Parse Unit := do
  if ← wordOf choices then
    if ← sees (·.isSign ["("]) then let _ ← enclosedList (call .expression)
    else let _ ← aliased true (← call .disjunction)

def star : Parse (Option Node) := do
  if ← sees (·.reads ["COLUMNS"]) <&&> seesSecond (·.isSign ["("]) then call (.call .plain)
  else
    starChange ["EXCEPT", "EXCLUDE"]
    starChange ["REPLACE"]
    starChange ["RENAME"]
    made "STAR"

def asTable (n : Node) : Parse Node := do
  let turned ← pivots
  let sampled ← sample false
  return .enclosed n (!turned && !sampled) false (if sampled then [.sample] else [])

def parenthesised : Parse (Option Node) := do
  unless ← sign "(" do return none
  let items ← match ← call (.query .plain) with
    | some n => pure [n]
    | none => list (call .expression)
  let several := 1 < items.length || (← follows (·.isSign [","]))
  let first ← match items.head? with
    | none => pure none
    | some n => call (.modified n)
  let n : Node ← match first with
    | none => if several || (← sees (·.isSign [")"])) then pure (.other "TUPLE") else fail
    | some (.query used) => asTable (.query used)
    | some n =>
      if n.isQuery || n.is "VALUES" then
        let n ← need (← call (.combination n))
        asTable (← need (← call (.modified n)))
      else if several then pure (.other "TUPLE")
      else pure (.paren (n matches .call _ true))
  expect ")"
  match n with
  | .paren true => overWindow (some n)
  | n => return some n

def primary : Parse (Option Node) := do
  match ← peek with
  | some (.text .plain content) =>
    skip
    let further ← many (after (take Token.isText) (return some ()))
    if further.isEmpty then return some (.text content) else called "CONCAT"
  | some (.text .dollar _) => skip; made "RAWSTRING"
  | some (.text .escaped _) => skip; made "BYTESTRING"
  | some (.text .national _) => skip; made "NATIONAL"
  | some .number => skip; return some .number
  | some (.keyword "NULL") => skip; made "NULL"
  | some (.keyword "TRUE") => skip; made "BOOLEAN"
  | some (.keyword "FALSE") => skip; made "BOOLEAN"
  | some (.sign "*") => skip; star
  | some (.sign ".") =>
    if ← seesSecond Token.isNumber then skip; skip; return some .number else return none
  | some (.sign "#") =>
    if ← seesSecond Token.isNumber then skip; skip; made "POSITIONALCOLUMN" else return none
  | some (.sign "(") => parenthesised
  | _ => return none

def columnReference : Parse (Option Node) := do
  let n ← match ← field with
    | some n => pure (some n)
    | none =>
      if ← sees (·.isKeyword ["VALUES"]) <&&> (return !(← seesSecond (·.isSign ["("]))) then
        nameOf fun _ => true
      else pure none
  match n with
  | some (.identifier letters quoted) => return some (.column 1 letters quoted)
  | n => return n

def pointed (n member : Node) : Node :=
  let (letters, quoted) := match member with
    | .identifier letters quoted => (letters, quoted)
    | _ => ("", true)
  match n, member with
  | .column parts _ _, member =>
    if member.isCall then if member.is "WINDOW" then .window else .other "DOT"
    else if parts < 4 then .column (parts + 1) letters quoted
    else .other "DOT"
  | _, .window => .window
  | _, _ => .other "DOT"

def pathOperators : List (String × String) :=
  [("->", "JSONEXTRACT"), ("->>", "JSONEXTRACTSCALAR"), ("#>", "JSONBEXTRACT"),
    ("#>>", "JSONBEXTRACTSCALAR"), ("?", "JSONBCONTAINS")]

def columnSuffix (n : Node) : Parse (Option Node) := do
  match ← peek with
  | some (.sign ".") =>
    skip
    let member ← need (← fieldAfterPoint)
    bracketed (some (pointed n member))
  | some (.sign "::") =>
    skip
    match ← need (← call (.dataType .plain)) with
    | .dataType target _ => bracketed (some (.cast "CAST" target))
    | _ => bracketed (some (.cast "CAST" ""))
  | some (.sign spelling) =>
    match pathOperators.lookup spelling with
    | none => return none
    | some kind =>
      skip
      let _ ← need (← call .bitwise)
      bracketed (some (.other kind))
  | _ => return none

def columnSuffixes (n : Node) : Parse (Option Node) := do
  let n ← need (← bracketed (some n))
  return some (← iterate columnSuffix n)

def column : Parse (Option Node) := do
  match ← columnReference with
  | some n => columnSuffixes n
  | none => bracketed none

def timeUnits : List String :=
  ["C", "CENT", "CENTS", "CENTURIES", "CENTURY", "D", "DAY", "DAYOFMONTH", "DAYOFWEEK", "DAYOFWEEKISO",
    "DAYOFYEAR", "DAYS", "DD", "DEC", "DECADE", "DECADES", "DECS", "DOW", "DOW_ISO", "DOY", "DW", "DW_ISO",
    "DY", "EPOCH", "EPOCH_MICROSECOND", "EPOCH_MICROSECONDS", "EPOCH_MILLISECOND",
    "EPOCH_MILLISECONDS", "EPOCH_NANOSECOND", "EPOCH_NANOSECONDS", "EPOCH_SECOND", "EPOCH_SECONDS",
    "H", "HH", "HOUR", "HOURS", "HR", "HRS", "M", "MI", "MICROSEC", "MICROSECOND", "MICROSECONDS", "MICROSECS",
    "MIL", "MILLENIA", "MILLENNIUM", "MILLISEC", "MILLISECON", "MILLISECOND", "MILLISECONDS", "MILLISECS",
    "MILS", "MIN", "MINS", "MINUTE", "MINUTES", "MM", "MON", "MONS", "MONTH", "MONTHS", "MS", "MSEC", "MSECOND",
    "MSECONDS", "MSECS", "NANOSEC", "NANOSECOND", "NS", "NSEC", "NSECOND", "NSECONDS", "Q", "QTR", "QTRS",
    "QUARTER", "QUARTERS", "S", "SEC", "SECOND", "SECONDS", "SECS", "TIMEZONE_HOUR", "TIMEZONE_MINUTE",
    "TZH", "TZM", "US", "USEC", "USECOND", "USECONDS", "USECS", "W", "WEEK", "WEEKDAY", "WEEKDAY_ISO",
    "WEEKISO", "WEEKOFYEAR", "WEEKOFYEARISO", "WEEKOFYEAR_ISO", "WEEK_ISO", "WK", "WOY", "WY", "Y", "YEAR",
    "YEARS", "YR", "YRS", "YY", "YYY", "YYYY"]

def saysUnit : List Char → Bool
  | [] => false
  | c :: rest =>
    (('0' ≤ c && c ≤ '9') && ((rest.dropWhile isBlankChar).head?.any Char.isAlpha)) || saysUnit rest

def isBareColumn (next : Option Token) : Node → Bool
  | .column 1 _ false => next.any (!·.reads timeUnits)
  | _ => false

def intervalBody (start : Place) : Parse (Option Node) := do
  let value ← if ← sees Token.isText then call .primary else call .term
  match value with
  | none => retreat start
  | some n =>
    if isBareColumn (← peek) n then return ← retreat start
    let before ← get
    let measure ← firstOf [call (.call .plain),
      do if ← sees (·.isKeyword ["AS"]) then return none else anyWord]
    if let .text content := n then
      if saysUnit content && measure.isSome then
        if measure.any Node.isCall then fail
        set before
    if ← word "TO" then let _ ← firstOf [call (.call .plain), anyWord]
    let place ← get
    let _ ← sign "+"
    if ← sees fun t => t.isText || t.isNumber then
      let _ ← need (← call .furtherInterval)
      made "ADD"
    else
      set place
      match n, measure with
      | .column 1 letters _, none => return some (.interval (some letters))
      | _, _ => return some (.interval none)

def interval : Parse (Option Node) := do
  let start ← get
  if ← keyword "INTERVAL" then intervalBody start else return none

def furtherInterval : Parse (Option Node) := do intervalBody (← get)

def typed (start : Place) (type : Node) : Parse (Option Node) := do
  match type with
  | .cast _ _ => columnSuffixes type
  | .dataType name detailed =>
    let place ← get
    let value ← call .primary
    match value with
    | some (.text _) | some .number =>
      let _ ← columnSuffixes (← need value)
      if name = "JSON" then called "PARSEJSON" else return some (.cast "CAST" name)
    | _ =>
      if detailed && place.rest.length + 1 < start.rest.length then
        set place
        columnSuffixes type
      else retreat start
  | _ => retreat start

def operand : Parse (Option Node) := do
  match ← interval with
  | some n => return some n
  | none =>
    let start ← get
    let found ← match ← call (.dataType .ofOperand) with
      | some type => typed start type
      | none => pure none
    match found with
    | some n => return some n
    | none =>
      match ← column with
      | some n => columnSuffixes n
      | none => return none

end Parse

end QueryDesk
