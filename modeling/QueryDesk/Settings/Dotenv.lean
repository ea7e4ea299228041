import QueryDesk.OrderedMap
import QueryDesk.Text.Basic

namespace QueryDesk

namespace Dotenv

structure Binding where
  name : List Char
  value : Option (List Char)

def isSpace (c : Char) : Bool := isBlankChar c && c != '\n' && c != '\r'

def isLineEnd (c : Char) : Bool := c == '\n' || c == '\r'

/-- The content up to the first mark that no backslash precedes, and what follows the mark; `before` is
    the character before. -/
def closeUnescaped (mark before : Char) : List Char → Option (List Char × List Char)
  | [] => none
  | c :: rest =>
    if c = mark ∧ before ≠ '\\' then some ([], rest)
    else (closeUnescaped mark c rest).map fun (content, after) => (c :: content, after)

def closeLast (mark : Char) : List Char → Option (List Char × List Char)
  | [] => none
  | c :: rest =>
    match closeLast mark rest with
    | some (content, after) => some (c :: content, after)
    | none => if c = mark then some ([], rest) else none

/-- The content of a quoted value up to its closing mark, and what follows it. A mark after a
    backslash closes the value only if no other mark does. -/
def closeQuote (mark : Char) (cs : List Char) : Option (List Char × List Char) :=
  (closeUnescaped mark mark cs).orElse fun _ => closeLast mark cs

def escapes : List (Char × Char) :=
  [('\\', '\\'), ('\'', '\''), ('"', '"'), ('a', '\x07'), ('b', '\x08'), ('f', '\x0c'), ('n', '\n'),
    ('r', '\r'), ('t', '\t'), ('v', '\x0b')]

def unescape (known : List (Char × Char)) : List Char → List Char
  | [] => []
  | '\\' :: c :: rest =>
    match known.lookup c with
    | some d => d :: unescape known rest
    | none => '\\' :: c :: unescape known rest
  | c :: rest => c :: unescape known rest

def dropComment : List Char → List Char
  | [] => []
  | c :: rest =>
    if isBlankChar c && (rest.dropWhile isBlankChar).head? == some '#' then []
    else c :: dropComment rest

/-- The value after an equals sign, and what follows it. White space before a value is no part of it,
    but a comment may follow it at once. An open quote is an error where it stands. -/
def value (cs : List Char) : Except (List Char) (List Char × List Char) :=
  let start := cs.dropWhile isSpace
  let quoted (mark : Char) (known : List (Char × Char)) (rest : List Char) :
      Except (List Char) (List Char × List Char) :=
    match closeQuote mark rest with
    | some (content, after) => .ok (unescape known content, after)
    | none => .error start
  match start with
  | '\'' :: rest => quoted '\'' [('\\', '\\'), ('\'', '\'')] rest
  | '"' :: rest => quoted '"' escapes rest
  | _ =>
    let written := cs.takeWhile (!isLineEnd ·)
    .ok (trimBoth isBlankChar (dropComment written), cs.dropWhile (!isLineEnd ·))

def endOfLine (cs : List Char) : Option (List Char) :=
  match cs.dropWhile isSpace with
  | [] => some []
  | '#' :: rest => some (rest.dropWhile (!isLineEnd ·))
  | c :: rest => if isLineEnd c then some (c :: rest) else none

def name (cs : List Char) : Option (List Char × List Char) :=
  match cs with
  | '\'' :: rest =>
    let content := rest.takeWhile (· != '\'')
    match rest.dropWhile (· != '\'') with
    | _ :: after => if content.isEmpty then none else some (content, after)
    | [] => none
  | _ =>
    let isNameChar (c : Char) := c != '=' && c != '#' && !isBlankChar c
    let content := cs.takeWhile isNameChar
    if content.isEmpty then none else some (content, cs.dropWhile isNameChar)

def skipExport (cs : List Char) : List Char :=
  match cs with
  | 'e' :: 'x' :: 'p' :: 'o' :: 'r' :: 't' :: rest =>
    if (rest.head?.map isSpace).getD false then rest.dropWhile isSpace else cs
  | _ => cs

def ended (b : Binding) (rest : List Char) : Except (List Char) (Binding × List Char) :=
  match endOfLine rest with
  | some rest => .ok (b, rest)
  | none => .error rest

/-- The assignment that starts a text, and the rest of the text; or, if there is none, the text from
    where it ceases to be one. -/
def binding (cs : List Char) : Except (List Char) (Binding × List Char) :=
  let start := skipExport cs
  match name start with
  | none => .error start
  | some (name, rest) =>
    match rest.dropWhile isSpace with
    | '=' :: rest => do
      let (content, rest) ← value rest
      ended ⟨name, some content⟩ rest
    | rest => ended ⟨name, none⟩ rest

/-- The assignments of a text, of which no more than `fuel` lines are read. A line is skipped from
    where it ceases to be an assignment. -/
def bindings : (fuel : Nat) → List Char → List Binding
  | 0, _ => []
  | fuel + 1, cs =>
    match cs.dropWhile isBlankChar with
    | [] => []
    | rest =>
      match skipExport rest with
      | '#' :: rest => bindings fuel (rest.dropWhile (!isLineEnd ·))
      | _ =>
        match binding rest with
        | .ok (b, rest) => b :: bindings fuel rest
        | .error rest => bindings fuel (rest.dropWhile (!isLineEnd ·))

def reference (cs : List Char) : Option (List Char × List Char × List Char) :=
  let closing := '\x7d'
  let name := cs.takeWhile fun c => c != closing && c != ':'
  match cs.dropWhile fun c => c != closing && c != ':' with
  | ':' :: '-' :: rest =>
    match rest.dropWhile (· != closing) with
    | _ :: after => some (name, rest.takeWhile (· != closing), after)
    | [] => none
  | ':' :: _ => none
  | _ :: after => some (name, [], after)
  | [] => none

abbrev Variables := List (List Char × Option (List Char))

/-- A value with its references replaced, at most `fuel` characters and references long. A variable
    without a value is replaced by nothing, an unknown one by the default. -/
def expand (known : Variables) : (fuel : Nat) → List Char → List Char
  | 0, cs => cs
  | _, [] => []
  | fuel + 1, '$' :: '\x7b' :: rest =>
    match reference rest with
    | some (name, default, after) =>
      ((known.lookup name).getD (some default)).getD [] ++ expand known fuel after
    | none => '$' :: '\x7b' :: expand known fuel rest
  | fuel + 1, c :: rest => c :: expand known fuel rest

def resolve (known : Variables) : List Binding → Variables
  | [] => []
  | ⟨name, written⟩ :: rest =>
    let value := written.map fun cs => expand known (cs.length + 1) cs
    (name, value) :: resolve ((name, value) :: known) rest

def normalLines : List Char → List Char
  | [] => []
  | '\r' :: '\n' :: rest => '\n' :: normalLines rest
  | c :: rest => (if c = '\r' then '\n' else c) :: normalLines rest

def withoutMark : List Char → List Char
  | '\uFEFF' :: rest => rest
  | cs => cs

/-- The variables that a file assigns, given those of the environment. A variable that is assigned
    again keeps its place. -/
def assigned (environment : List (List Char × List Char)) (file : List Char) : Variables :=
  let text := normalLines (withoutMark file)
  let known := environment.map fun (name, value) => (name, some value)
  OrderedMap.ofList (resolve known (bindings (text.length + 1) text))

end Dotenv

end QueryDesk
