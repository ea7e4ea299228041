import QueryDesk.Grammar.Keyword

namespace QueryDesk

/-- The spellings of a piece of text: between single quotes, between dollar signs, with backslash
    escapes, or in the national character set. -/
inductive Quoting where
  | plain
  | dollar
  | escaped
  | national
deriving DecidableEq

/-- A token. Words are kept in upper case, because case tells no two words apart. A keyword may
    consist of two words. -/
inductive Token where
  | keyword (letters : String)
  | name (letters : String)
  | quotedName (letters : String)
  | text (quoting : Quoting) (content : List Char)
  | number
  | sign (spelling : String)
  | gap
deriving DecidableEq

namespace Token

def separator : Token := .sign ";"

def letters? : Token → Option String
  | keyword letters | name letters | quotedName letters => some letters
  | sign spelling => some spelling
  | text .. | number | gap => none

def reads (choices : List String) (t : Token) : Bool := t.letters?.any choices.contains

def isKeyword (choices : List String) : Token → Bool
  | keyword letters => choices.contains letters
  | _ => false

def isSign (choices : List String) : Token → Bool
  | sign spelling => choices.contains spelling
  | _ => false

def isParameterSign (t : Token) : Bool := t.isSign ["$", "@"]

def ofWord (previous : Option Token) (letters : String) : Token :=
  if previous.any isParameterSign || !Keyword.all.contains letters then name letters
  else keyword letters

/-- The tokens without gaps, in which every word is told to be a keyword or a name. Two words with
    nothing but white space between them may make one keyword. -/
def joined (previous : Option Token) : List Token → List Token
  | [] => []
  | gap :: rest => joined previous rest
  | name first :: name second :: rest =>
    match Keyword.ofPair? first second with
    | some letters => keyword letters :: joined (some (keyword letters)) rest
    | none => ofWord previous first :: joined (some (name first)) (name second :: rest)
  | name letters :: rest => ofWord previous letters :: joined (some (name letters)) rest
  | t :: rest => t :: joined (some t) rest

/-- The statements among tokens: what stands between separators, provided that it is not empty. -/
def statements (tokens : List Token) : List (List Token) :=
  ((tokens.splitOn separator).map (joined none)).filter (!·.isEmpty)

end Token

end QueryDesk
