import QueryDesk.Grammar.Node

namespace QueryDesk

inductive Naming where
  | usual
  | anything
  | assigned
  | commented
deriving DecidableEq

/-- The surroundings of a table: whether it is being described column by column, whether tables
    may be joined to it, which names it may be given, and whether one of its partitions may be
    meant. -/
structure TableForm where
  described : Bool
  joined : Bool
  naming : Naming
  partitioned : Bool

namespace TableForm

def plain : TableForm := ⟨false, false, .usual, false⟩

def joinable : TableForm := { plain with joined := true }

def withColumns : TableForm := { plain with described := true }

def target : TableForm := { withColumns with partitioned := true }

end TableForm

/-- The surroundings of a query: whether it may be in parentheses, whether it stands for a table,
    whether it may be given a name, and whether further queries may be set against it. -/
structure QueryForm where
  nested : Bool
  table : Bool
  named : Bool
  combined : Bool

namespace QueryForm

def plain : QueryForm := ⟨false, false, true, true⟩

def operand : QueryForm := { plain with nested := true, combined := false }

def ofTable : QueryForm := { plain with table := true }

def source : QueryForm := { plain with nested := true, named := false }

end QueryForm

/-- The surroundings of a data type: whether it stands where an expression may stand, whether an
    array may have any size, and whether any word may name a type. -/
structure TypeForm where
  guarded : Bool
  described : Bool
  named : Bool

namespace TypeForm

def plain : TypeForm := ⟨false, false, true⟩

def ofColumn : TypeForm := { plain with described := true }

def ofOperand : TypeForm := ⟨true, false, false⟩

end TypeForm

/-- The surroundings of a call: whether calls without parentheses count, whether the function may be
    known, and whether every token may name a function. -/
structure CallForm where
  silent : Bool
  known : Bool
  anyName : Bool

namespace CallForm

def plain : CallForm := ⟨true, true, false⟩

def ofTable : CallForm := { plain with silent := false }

def afterPoint : CallForm := ⟨true, false, true⟩

end CallForm

inductive Rule where
  | statement
  | expression
  | assignment
  | disjunction
  | equality
  | bitwise
  | term
  | factor
  | unary
  | operand
  | furtherInterval
  | column
  | primary
  | argument (named : Bool)
  | call (form : CallForm)
  | dataType (form : TypeForm)
  | columnDefinition
  | tableItem
  | ordering
  | query (form : QueryForm)
  | combination (first : Node)
  | modified (n : Node)
  | membership (value : Option Node)
  | table (form : TableForm)
  | join
  | property

end QueryDesk
