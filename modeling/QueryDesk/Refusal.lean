import QueryDesk.Datum.Printed
import QueryDesk.Text.Utf8

namespace QueryDesk

/-- What is wrong with a request that is well formed but has no meaning. -/
inductive RequestFault where
  | emptyStatement
  | invalidName (role : Text) (given : Datum)
  | filterValue (column : Text) (given : Datum)
  | unknownAggregate (name : Text)
  | noOperations
  | unknownInterval (name : Text)
  | intervalAggregate (name : Text)
  | unknownOutlierMethod (name : Text)
  | unwritableNumber

def RequestFault.message : RequestFault → Text
  | emptyStatement => "SQL query is empty"
  | invalidName role given => ("Invalid " : Text) ++ role ++ ": " ++ given.printed
  | filterValue column given =>
    ("Unsupported filter value for " : Text) ++ column ++ ": " ++ given.printed
  | unknownAggregate name => ("Unsupported aggregation operation: " : Text) ++ name
  | noOperations => "At least one aggregation operation is required"
  | unknownInterval name => ("Invalid interval: " : Text) ++ name
  | intervalAggregate name => ("Invalid aggregation: " : Text) ++ name
  | unknownOutlierMethod name => ("Invalid outlier detection method: " : Text) ++ name
  | unwritableNumber => Whole.unwritable

/-- The fault that is reported with a datum in its message. If the datum cannot be printed, that is
    what is reported. -/
def RequestFault.showing (given : Datum) (fault : RequestFault) : RequestFault :=
  if given.isWritable then fault else unwritableNumber

inductive ForbiddenCause where
  | destructive
  | notReadOnly
  | unclassified
  | statementCount (n : Nat)
  | statementKind (kind : Text)
deriving DecidableEq

def ForbiddenCause.message : ForbiddenCause → Text
  | destructive => "Destructive operations are not allowed"
  | notReadOnly => "Only SELECT queries are allowed via streaming"
  | unclassified => "Could not classify statement"
  | statementCount n => ("Exactly one statement is allowed, got " : Text) ++ Text.ofNat n
  | statementKind kind => kind ++ " statements are not allowed"

inductive Refusal where
  | request (fault : RequestFault)
  | forbidden (cause : ForbiddenCause)
  | encoding (fault : Utf8.DecodeFault)

def Refusal.message : Refusal → Text
  | request fault => fault.message
  | forbidden cause => cause.message
  | encoding fault => ("SQL payload is not valid UTF-8: " : Text) ++ fault.message

end QueryDesk
