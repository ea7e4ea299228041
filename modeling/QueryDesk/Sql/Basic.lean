import QueryDesk.Refusal
import QueryDesk.Request.Basic

namespace QueryDesk

namespace Sql

def isNameStart (c : Char) : Bool := c.isAlpha || c == '_'

def isNameChar (c : Char) : Bool := c.isAlphanum || c == '_'

def isNameRest : Text → Bool
  | [] => true
  | [.scalar '\n'] => true
  | p :: rest => p.satisfies isNameChar && isNameRest rest

def isName : Text → Bool
  | [] => false
  | p :: rest => p.satisfies isNameStart && isNameRest rest

structure Name where
  text : Text
  valid : isName text = true
deriving DecidableEq

namespace Name

def ofText (role : Text) (t : Text) : Except RequestFault Name :=
  if h : isName t = true then .ok ⟨t, h⟩ else .error (.invalidName role (.text t))

def ofDatum (role : Text) : Datum → Except RequestFault Name
  | .text t => ofText role t
  | given => .error (.showing given (.invalidName role given))

end Name

def tablePrefix : Text := "data_source_"

/-- The table of a data source; hyphens of the identifier become underscores. -/
def tableName (source : Text) : Except RequestFault Name :=
  Name.ofText "data source id" (tablePrefix ++ source.replacePoint '-' '_')

structure Query where
  sql : Text
  params : List Datum

def Query.plain (sql : Text) : Query := ⟨sql, []⟩

structure Statement where
  text : Datum
  params : List Datum

def Query.statement (q : Query) : Statement := ⟨.text q.sql, q.params⟩

def commaList (parts : List Text) : Text := Text.join ", " parts

def number (n : Int) : Except RequestFault Text :=
  if Whole.Writable n then .ok (Text.ofInt n) else .error .unwritableNumber

structure Comparison where
  text : Text
  param : Datum

namespace Comparison

def like (column : Name) (t : Text) : Comparison :=
  ⟨column.text ++ " LIKE ?", .text (("%" : Text) ++ t ++ "%")⟩

def equal (column : Name) (number : Datum) : Comparison := ⟨column.text ++ " = ?", number⟩

def ofFilter (filter : Text × Datum) : Except RequestFault Comparison := do
  let column ← Name.ofText "filter field" filter.1
  match filter.2 with
  | .text t => .ok (like column t)
  | .int n => .ok (equal column (.int n))
  | .float x => .ok (equal column (.float x))
  | given => .error (.showing given (.filterValue column.text given))

end Comparison

/-- A condition with its parameters; the text is empty when there is nothing to compare. -/
structure Condition where
  text : Text
  params : List Datum

def Condition.ofComparisons : List Comparison → Condition
  | [] => ⟨[], []⟩
  | comparisons =>
    ⟨" WHERE " ++ Text.join " AND " (comparisons.map (·.text)), comparisons.map (·.param)⟩

def Condition.ofFilters (filters : Filters) : Except RequestFault Condition :=
  Condition.ofComparisons <$> filters.mapM Comparison.ofFilter

end Sql

end QueryDesk
