import QueryDesk.Datum.Basic
import QueryDesk.Number.Shortest
import QueryDesk.Number.Whole
import QueryDesk.Text.Quoted

namespace QueryDesk

namespace Datum

mutual

def isWritable : Datum → Bool
  | int n => decide (Whole.Writable n)
  | list items | tuple items => areWritable items
  | map entries => haveWritable entries
  | _ => true

def areWritable : List Datum → Bool
  | [] => true
  | item :: rest => item.isWritable && areWritable rest

def haveWritable : List (Datum × Datum) → Bool
  | [] => true
  | (key, value) :: rest => key.isWritable && value.isWritable && haveWritable rest

end

def printedBool (b : Bool) : Text := if b then "True" else "False"

def enclosed (opening closing : Text) (parts : List Text) : Text :=
  opening ++ Text.join ", " parts ++ closing

def printedInterval (micros : Int) : Text :=
  let days := micros.fdiv microsPerDay
  let rest := (micros.fmod microsPerDay).toNat
  let field (name : Text) (n : Int) : List Text := if n = 0 then [] else [name ++ "=" ++ Text.ofInt n]
  let fields := field "days" days ++ field "seconds" (rest / 1000000 : Nat) ++
    field "microseconds" (rest % 1000000 : Nat)
  enclosed "datetime.timedelta(" ")" (if fields.isEmpty then ["0"] else fields)

def printedOffset (o : UtcOffset) : Text :=
  if o.micros = 0 then "datetime.timezone.utc"
  else ("datetime.timezone(" : Text) ++ printedInterval o.micros ++ ")"

def printedClock (t : TimeOfDay) : List Text :=
  let shown : List Nat :=
    if t.micro.val ≠ 0 then [t.hour, t.minute, t.second, t.micro]
    else if t.second.val ≠ 0 then [t.hour, t.minute, t.second]
    else [t.hour, t.minute]
  shown.map Text.ofNat ++ t.offset.elim [] fun o => [("tzinfo=" : Text) ++ printedOffset o]

def printedDay (d : Date) : List Text := [Text.ofNat d.year, Text.ofNat d.month, Text.ofNat d.day]

mutual

def printed : Datum → Text
  | null => "None"
  | bool b => printedBool b
  | int n => Text.ofInt n
  | float x => x.toText
  | decimal d => ("Decimal('" : Text) ++ d.toText ++ "')"
  | text t => t.quoted
  | bytes b => Text.quotedBytes b
  | buffer b => ("bytearray(" : Text) ++ Text.quotedBytes b ++ ")"
  | view _ => "<memory>"
  | date d => enclosed "datetime.date(" ")" (printedDay d)
  | time t => enclosed "datetime.time(" ")" (printedClock t)
  | timestamp d t => enclosed "datetime.datetime(" ")" (printedDay d ++ printedClock t)
  | interval micros => printedInterval micros
  | uuid t => ("UUID('" : Text) ++ t ++ "')"
  | list items => enclosed "[" "]" (printedAll items)
  | tuple [item] => ("(" : Text) ++ item.printed ++ ",)"
  | tuple items => enclosed "(" ")" (printedAll items)
  | map entries => enclosed "\x7b" "\x7d" (printedEntries entries)
  | other => "<object>"

def printedAll : List Datum → List Text
  | [] => []
  | item :: rest => item.printed :: printedAll rest

def printedEntries : List (Datum × Datum) → List Text
  | [] => []
  | (key, value) :: rest => (key.printed ++ ": " ++ value.printed) :: printedEntries rest

end

end Datum

end QueryDesk
