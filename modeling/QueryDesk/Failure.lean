import QueryDesk.Form.Checked
import QueryDesk.Refusal

namespace QueryDesk

/-- An error raised while a statement runs: one of the engine's own, or one of the host it runs
    in. -/
structure EngineFault where
  kind : Text
  message : Text
  own : Bool
deriving DecidableEq

namespace EngineFault

def hostKinds : List String :=
  ["ArithmeticError", "AssertionError", "AttributeError", "BaseException", "BlockingIOError",
    "BrokenPipeError", "BufferError", "ChildProcessError", "ConnectionAbortedError",
    "ConnectionError", "ConnectionRefusedError", "ConnectionResetError", "EOFError",
    "EnvironmentError", "Exception", "FileExistsError", "FileNotFoundError", "FloatingPointError",
    "IOError", "ImportError", "IndentationError", "IndexError", "InterruptedError",
    "IsADirectoryError", "KeyError", "LookupError", "MemoryError", "ModuleNotFoundError",
    "NameError", "NotADirectoryError", "NotImplementedError", "OSError", "OverflowError",
    "PermissionError", "ProcessLookupError", "RecursionError", "ReferenceError", "RuntimeError",
    "SyntaxError", "SystemError", "TabError", "TimeoutError", "TypeError", "UnboundLocalError",
    "UnicodeError", "ValueError", "ZeroDivisionError"]

def ofKind (kind : String) (message : Text) : EngineFault :=
  ⟨Text.ofString kind, if kind = "KeyError" then message.quoted else message,
    !hostKinds.contains kind⟩

end EngineFault

inductive FormKind where
  | statementRequest
  | operation
  | aggregationRequest
  | statisticsRequest
  | timeSeriesRequest
  | outlierRequest
  | correlationRequest
  | movingAverageRequest
  | previewRequest
  | grid
  | summary
  | aggregationReport
  | columnDescriptor
  | tableInfo
  | previewReport
  | qualityMetric
  | metricValue
  | metricsReport
  | streamReport
  | snapshot
  | settings
deriving DecidableEq

inductive Failure where
  | refused (refusal : Refusal)
  | invalid (form : FormKind) (issues : List Issue)
  | untokenizable
  | parser (kind message : Text)
  | engine (fault : EngineFault)
  | closed
  | negativeCap (cap : Text)
  | capBeyondWord
  | signallingCell
  | signallingComparison
  | numberTooLarge
  | emptyRow
  | missingColumn (name : Text)
  | unencodable (fault : Utf8.EncodeFault)
  | time (fault : TimeFault)
  | noInteger (fault : IntegerFault)
  | unreadableInteger (given : Datum)
  | tooManyDigits (digits : Nat)
  | unwritableNumber
  | unusable
  | noAttribute
  | outOfStack
  | unknownMode (given : Datum)
  | unknownLogLevel (level : Text)
  | noSuchCell
  | cancelled

namespace Failure

def shownPart : Nat := 200

def message : Failure → Text
  | refused refusal => refusal.message
  | parser _ message => message
  | engine fault => fault.message
  | closed => "Database connection is closed"
  | negativeCap cap => ("Row cap must be non-negative, got " : Text) ++ cap
  | capBeyondWord => "Stop argument for islice() must be None or an integer: 0 <= x <= sys.maxsize."
  | signallingComparison => "[<class 'decimal.InvalidOperation'>]"
  | signallingCell => "cannot convert signaling NaN to float"
  | numberTooLarge => "int too large to convert to float"
  | emptyRow => "list index out of range"
  | missingColumn name => name.quoted
  | unencodable fault => fault.message
  | time fault => fault.message
  | noInteger fault => fault.message
  | unreadableInteger given =>
    ("invalid literal for int() with base 10: " : Text) ++ given.printed.take shownPart
  | tooManyDigits digits =>
    ("Exceeds the limit (4300 digits) for integer string conversion: value has " : Text) ++
      Text.ofNat digits ++ " digits; use sys.set_int_max_str_digits() to increase the limit"
  | unwritableNumber => Whole.unwritable
  | unknownMode given => given.printed ++ " is not a valid SafetyMode"
  | unknownLogLevel level => ("Unknown level: " : Text) ++ level.quoted
  | noSuchCell => "list assignment index out of range"
  | invalid .. | untokenizable | unusable | noAttribute | outOfStack | cancelled => []

def belowZero (cap : Int) : Failure :=
  if Whole.Writable cap then negativeCap (Text.ofInt cap) else unwritableNumber

def isInBand : Failure → Bool
  | refused _ => true
  | engine fault => fault.own
  | _ => false

def ofRequest {α : Type} : Except RequestFault α → Except Failure α
  | .ok a => .ok a
  | .error .unwritableNumber => .error unwritableNumber
  | .error fault => .error (refused (.request fault))

def ofChecked {α : Type} (form : FormKind) : Checked α → Except Failure α
  | .ok a => .ok a
  | .error issues => .error (invalid form issues)

end Failure

end QueryDesk
