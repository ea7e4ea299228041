import QueryDesk.Number.Whole
import QueryDesk.Time.Moment

namespace QueryDesk

inductive Step where
  | key (name : Text)
  | index (n : Int)
deriving DecidableEq

inductive Complaint where
  | missing
  | textExpected
  | textUndecodable
  | integerExpected
  | integerUnreadable
  | integerFractional
  | integerTooLong
  | numberNotFinite
  | numberExpected
  | numberUnreadable
  | flagExpected
  | flagUnreadable
  | listExpected
  | mapExpected
  | formExpected (name : Text)
  | momentExpected
  | momentUnreadable (fault : Moment.Fault)
  | dateUnreadable (fault : Moment.Fault)
  | listTooShort (least actual : Nat)
  | tooSmall (least : Int)
  | rowCountMismatch (rowCount : Int) (rows : Nat)
  | rowWidthMismatch (index cells expected : Nat)
  | frozen
deriving DecidableEq

def Complaint.message : Complaint → Text
  | missing => "Field required"
  | textExpected => "Input should be a valid string"
  | textUndecodable => "Input should be a valid string, unable to parse raw data as a unicode string"
  | integerExpected => "Input should be a valid integer"
  | integerUnreadable => "Input should be a valid integer, unable to parse string as an integer"
  | integerFractional => "Input should be a valid integer, got a number with a fractional part"
  | integerTooLong => "Unable to parse input string as an integer, exceeded maximum size"
  | numberNotFinite => "Input should be a finite number"
  | numberExpected => "Input should be a valid number"
  | numberUnreadable => "Input should be a valid number, unable to parse string as a number"
  | flagExpected => "Input should be a valid boolean"
  | flagUnreadable => "Input should be a valid boolean, unable to interpret input"
  | listExpected => "Input should be a valid list"
  | mapExpected => "Input should be a valid dictionary"
  | formExpected name => ("Input should be a valid dictionary or instance of " : Text) ++ name
  | momentExpected => "Input should be a valid datetime"
  | momentUnreadable fault => ("Input should be a valid datetime, " : Text) ++ fault.message
  | dateUnreadable fault => ("Input should be a valid datetime or date, " : Text) ++ fault.message
  | listTooShort least actual =>
    ("List should have at least " : Text) ++ Text.ofNat least ++
      (if least = 1 then " item" else " items") ++ " after validation, not " ++ Text.ofNat actual
  | tooSmall least => ("Input should be greater than or equal to " : Text) ++ Text.ofInt least
  | rowCountMismatch rowCount rows =>
    ("Value error, " : Text) ++
      if Whole.Writable rowCount then
        ("row_count " : Text) ++ Text.ofInt rowCount ++ " does not match " ++ Text.ofNat rows ++ " rows"
      else Whole.unwritable
  | rowWidthMismatch index cells expected =>
    ("Value error, row " : Text) ++ Text.ofNat index ++ " has " ++ Text.ofNat cells ++
      " cells, expected " ++ Text.ofNat expected
  | frozen => "Instance is frozen"

structure Issue where
  path : List Step
  complaint : Complaint
deriving DecidableEq

def Checked (α : Type) : Type := Except (List Issue) α

namespace Checked

variable {α β : Type}

def pass (a : α) : Checked α := .ok a

def fail (complaint : Complaint) : Checked α := .error [⟨[], complaint⟩]

def map (f : α → β) : Checked α → Checked β
  | .ok a => .ok (f a)
  | .error issues => .error issues

def apply (f : Checked (α → β)) (x : Unit → Checked α) : Checked β :=
  match f, x () with
  | .ok f, .ok a => .ok (f a)
  | .ok _, .error issues => .error issues
  | .error issues, .ok _ => .error issues
  | .error issues, .error more => .error (issues ++ more)

instance : Applicative Checked where
  pure := pass
  map := map
  seq := apply

def within (step : Step) : Checked α → Checked α
  | .ok a => .ok a
  | .error issues => .error (issues.map fun issue => { issue with path := step :: issue.path })

def andThen (x : Checked α) (next : α → Checked β) : Checked β :=
  match x with
  | .ok a => next a
  | .error issues => .error issues

def orElse (x y : Checked α) : Checked α :=
  match x, y with
  | .ok a, _ => .ok a
  | .error _, .ok a => .ok a
  | .error issues, .error more => .error (issues ++ more)

end Checked

end QueryDesk
