import QueryDesk.Form.Reader
import QueryDesk.Grammar.Statement
import QueryDesk.Settings.Dotenv

namespace QueryDesk

structure Settings where
  databasePath : Text
  threads : Option Int
  memoryLimit : Option Text
  /-- The rows of a preview page when a request asks for no number. -/
  previewDefaultRows : Int
  /-- The most rows that any statement but a streamed one answers. -/
  previewMaxRows : Int
  streamMaxRows : Int
  cacheEnabled : Bool
  cacheSeconds : Int
  strictGuard : Bool
  logLevel : Text
  /-- The parser that the strict guard is linked with. -/
  parser : SqlParser

namespace Settings

def default : Settings where
  databasePath := ":memory:"
  threads := none
  memoryLimit := none
  previewDefaultRows := 1000
  previewMaxRows := 10000
  streamMaxRows := 1000
  cacheEnabled := false
  cacheSeconds := 300
  strictGuard := false
  logLevel := "INFO"
  parser := .grammar

def policy (s : Settings) : Guard.Policy := if s.strictGuard then .kinds s.parser else .words

theorem policy_words {s : Settings} (lenient : s.strictGuard = false) : s.policy = .words := by
  rw [policy, lenient, if_neg Bool.false_ne_true]

theorem policy_kinds {s : Settings} (strict : s.strictGuard = true) :
    s.policy = .kinds s.parser := by
  rw [policy, strict, if_pos rfl]

def names : List Text :=
  ["DATABASE_PATH", "DUCKDB_THREADS", "DUCKDB_MEMORY_LIMIT", "PREVIEW_DEFAULT_ROWS",
    "PREVIEW_MAX_ROWS", "STREAM_MAX_ROWS", "QUERY_CACHE_ENABLED", "CACHE_TTL", "SQL_STRICT_GUARD",
    "LOG_LEVEL"]

def read (fields : Fields) : Checked Settings :=
  Settings.mk <$> fields.optional "DATABASE_PATH" default.databasePath Reader.text
    <*> fields.optional "DUCKDB_THREADS" none (Reader.nullable Reader.integer)
    <*> fields.optional "DUCKDB_MEMORY_LIMIT" none (Reader.nullable Reader.text)
    <*> fields.optional "PREVIEW_DEFAULT_ROWS" default.previewDefaultRows Reader.integer
    <*> fields.optional "PREVIEW_MAX_ROWS" default.previewMaxRows Reader.integer
    <*> fields.optional "STREAM_MAX_ROWS" default.streamMaxRows Reader.integer
    <*> fields.optional "QUERY_CACHE_ENABLED" default.cacheEnabled Reader.flag
    <*> fields.optional "CACHE_TTL" default.cacheSeconds Reader.integer
    <*> fields.optional "SQL_STRICT_GUARD" default.strictGuard Reader.flag
    <*> fields.optional "LOG_LEVEL" default.logLevel Reader.text
    <*> pure default.parser

end Settings

namespace LogLevel

def numbers : List (List Char × Nat) :=
  [("CRITICAL".toList, 50), ("FATAL".toList, 50), ("ERROR".toList, 40), ("WARNING".toList, 30),
    ("WARN".toList, 30), ("INFO".toList, 20), ("DEBUG".toList, 10), ("NOTSET".toList, 0)]

def usual : Nat := 20

def layout : Text := "%(levelname)s:%(name)s:%(message)s"

/-- The number of a level. The name of the layout and that of the table of layouts denote no level
    and are refused; any other unknown name stands for the usual level. -/
def ofName (name : Text) : Except Failure Nat :=
  match name.chars?.map upperCased with
  | none => .ok usual
  | some cs =>
    match numbers.lookup cs with
    | some n => .ok n
    | none =>
      if cs = "BASIC_FORMAT".toList then .error (.unknownLogLevel layout)
      else if cs = "_STYLES".toList then .error .unusable
      else .ok usual

end LogLevel

namespace Settings

/-- The lower case of a letter of a name. Besides the letters of ASCII only the sign for kelvin has a
    lower case in ASCII. -/
def lowerCase (c : Char) : Char := if c = '\u212A' then 'k' else c.toLower

def sameName (a : Text) (b : List Char) : Bool :=
  a.chars?.any fun cs => cs.map lowerCase == b.map lowerCase

def valueOf? (assigned : Dotenv.Variables) (name : Text) : Option (List Char) :=
  (assigned.reverse.find? fun v => sameName name v.1).bind (·.2)

def sourceOf (given : Fields) (environment file : Dotenv.Variables) (name : Text) :
    Option (Datum × Datum) :=
  let written (assigned : Dotenv.Variables) : Option Datum :=
    (valueOf? assigned name).map fun cs => .text (Text.ofChars cs)
  let found := (Fields.find? name given).orElse fun _ =>
    (written environment).orElse fun _ => written file
  found.map fun d => (Datum.text name, d)

def ofSources (given : Fields) (environment : List (List Char × List Char)) (file : List Char) :
    Except Failure Settings :=
  let filed := Dotenv.assigned environment file
  let named := environment.map fun (name, value) => (name, some value)
  Failure.ofChecked .settings (read (names.filterMap (sourceOf given named filed)))

def ofGiven (given : Fields) : Except Failure Settings := ofSources given [] []

end Settings

end QueryDesk
