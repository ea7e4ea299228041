import QueryDesk.Grammar.Token
import QueryDesk.Text.Basic

namespace QueryDesk

namespace Lexer

inductive CommentMarks where
  | slashes
  | braces
deriving DecidableEq

/-- What the last character of a comment may begin: after an opening mark only the start of a closing
    mark counts, later on also the start of a further opening mark. -/
inductive CommentEdge where
  | opened
  | inside
  | opening
  | closing
deriving DecidableEq

/-- What the characters read last have begun. Letters are kept newest first. A number knows whether
    a point may still follow, and how much of an exponent it has: none, the letter, the sign too. -/
inductive Mode where
  | between
  | word (letters : List Char)
  | number (pointed : Bool) (exponent : Nat)
  | numberSign (pointed : Bool) (c : Char)
  | sign (spelling : String)
  | text (quoting : Quoting) (content : List Char)
  | textMark (quoting : Quoting) (content : List Char)
  | textEscape (quoting : Quoting) (content : List Char)
  | name (content : List Char)
  | nameMark (content : List Char)
  | lineComment
  | comment (marks : CommentMarks) (depth : Nat) (edge : CommentEdge)
  | tag (letters : List Char)
  | tagged (tag letters : List Char)

structure Scan where
  tokens : List Token
  mode : Mode

def signs : List Char :=
  ['(', ')', '[', ']', '\x7b', '\x7d', '&', '^', ':', ',', '-', '.', '=', '>', '<', '%', '!', '/', '\\',
    '+', ';', '*', '~', '|', '?', '\x60', '#', '@', '$', '\'', '"']

def longSigns : List String :=
  ["||", "|>", ">=", "<=", "<>", "!=", ":=", "<=>", "<->", "->", "->>", "-|-", "=>", "==", "//", "**",
    "::", "?::", "&&", "&<", "&>", "??", "~~", "~~~", "~~*", "~*", "^@", "@>", "<@", "#>", "#>>",
    "\x7b%", "\x7b%+", "\x7b%-", "%\x7d", "+%\x7d", "-%\x7d", "\x7b\x7b+", "\x7b\x7b-", "+\x7d\x7d",
    "-\x7d\x7d"]

/-- The beginnings of long signs that are no signs themselves, with the two signs that they are when
    the long sign does not follow. -/
def brokenSigns : List (String × String × String) :=
  [("<-", "<", "-"), ("-|", "-", "|"), ("?:", "?", ":"), ("\x7b\x7b", "\x7b", "\x7b"),
    ("+%", "+", "%"), ("-%", "-", "%"), ("+\x7d", "+", "\x7d"), ("-\x7d", "-", "\x7d")]

def isLetter (c : Char) : Bool := !isBlankChar c && (c == '$' || !signs.contains c)

def quotingAfter : List Char → Option Quoting
  | ['e'] => some .escaped
  | ['E'] => some .escaped
  | ['n'] => some .national
  | ['N'] => some .national
  | _ => none

def Mode.beginning (tokens : List Token) (c : Char) : Mode :=
  if isBlankChar c then between
  else if isDigit c then number ((tokens.find? (· != .gap)).any Token.isParameterSign) 0
  else if c = '$' then tag []
  else if isLetter c then word [c]
  else if c = '\'' then text .plain []
  else if c = '"' then name []
  else sign (String.singleton c)

inductive CommentMark where
  | opens
  | closes
  | other
deriving DecidableEq

def CommentMarks.mark (marks : CommentMarks) (edge : CommentEdge) (c : Char) : CommentMark :=
  match marks, edge with
  | slashes, .opening => if c = '*' then .opens else .other
  | slashes, .closing => if c = '/' then .closes else .other
  | braces, .opening => if c = '#' then .opens else .other
  | braces, .closing => if c = '\x7d' then .closes else .other
  | _, _ => .other

def CommentMarks.edge (marks : CommentMarks) (before : CommentEdge) (c : Char) : CommentEdge :=
  let (first, last) := match marks with
    | slashes => ('/', '*')
    | braces => ('\x7b', '#')
  if c = last then .closing
  else if c = first && before != .opened then .opening
  else .inside

def commentNext (marks : CommentMarks) (depth : Nat) (edge : CommentEdge) (c : Char) : Option Mode :=
  match marks.mark edge c with
  | .opens => some (.comment marks (depth + 1) .opened)
  | .closes => if depth ≤ 1 then none else some (.comment marks (depth - 1) (marks.edge .closing c))
  | .other => some (.comment marks depth (marks.edge edge c))

def wordToken (letters : List Char) : Token := .name (String.ofList (upperCased letters.reverse))

def signTokens (spelling : String) : List Token :=
  match brokenSigns.lookup spelling with
  | some (first, second) => [.sign second, .sign first]
  | none => [.sign spelling]

def nameToken (content : List Char) : Token :=
  .quotedName (String.ofList (upperCased content.reverse))

/-- The tokens that a mode stands for when nothing continues it, newest first; `none` for a quote or
    a comment that is still open. A tag is not among them: what it stands for is settled by
    `Scan.withoutTag`. -/
def Mode.tokens? : Mode → Option (List Token)
  | between => some []
  | word letters => some [wordToken letters]
  | number .. => some [.number]
  | numberSign _ c => some (signTokens (String.singleton c) ++ [.number])
  | sign spelling => some (signTokens spelling)
  | textMark quoting content => some [.text quoting content.reverse]
  | nameMark content => some [nameToken content]
  | lineComment => some [.gap]
  | text .. | textEscape .. | name _ | comment .. | tag _ | tagged .. => none

def Mode.complete (m : Mode) : List Token := m.tokens?.getD []

def signNext (spelling : String) (c : Char) : Option Mode :=
  if spelling = "-" ∧ c = '-' then some .lineComment
  else if spelling = "/" ∧ c = '*' then some (.comment .slashes 1 .opened)
  else if spelling = "\x7b" ∧ c = '#' then some (.comment .braces 1 .opened)
  else if (longSigns ++ brokenSigns.map Prod.fst).contains (spelling.push c) then
    some (.sign (spelling.push c))
  else none

def numberNext (pointed : Bool) (exponent : Nat) (c : Char) : Option Mode :=
  if isDigit c || c == '_' then some (.number pointed exponent)
  else if c == '.' && !pointed then some (.number true exponent)
  else if (c == '+' || c == '-') && exponent == 1 then some (.numberSign pointed c)
  else if (c == 'e' || c == 'E') && exponent == 0 then some (.number pointed 1)
  else none

theorem signs_getLast? : ∀ s ∈ longSigns ++ brokenSigns.map Prod.fst,
    s.toList.getLast? ≠ some '\n' := by decide +kernel

theorem signNext_newline (spelling : String) : signNext spelling '\n' = none := by
  have new : spelling.push '\n' ∉ longSigns ++ brokenSigns.map Prod.fst :=
    fun h => signs_getLast? _ h (by simp)
  have h : (longSigns ++ brokenSigns.map Prod.fst).contains (spelling.push '\n') = false := by
    simpa using new
  simp only [signNext, h]
  simp

namespace Scan

def start : Scan := ⟨[], .between⟩

def next (tokens : List Token) (c : Char) : Scan := ⟨tokens, .beginning tokens c⟩

def stepSign (tokens : List Token) (spelling : String) (c : Char) : Scan :=
  match signNext spelling c with
  | some mode => ⟨tokens, mode⟩
  | none =>
    match brokenSigns.lookup spelling with
    | some (first, second) =>
      match signNext second c with
      | some mode => ⟨.sign first :: tokens, mode⟩
      | none => next (.sign second :: .sign first :: tokens) c
    | none => next (.sign spelling :: tokens) c

def stepPlain (s : Scan) (c : Char) : Scan :=
  let ends := next (s.mode.complete ++ s.tokens) c
  match s.mode with
  | .word letters =>
    if isLetter c then { s with mode := .word (c :: letters) }
    else if c = '\'' then
      match quotingAfter letters with
      | some quoting => { s with mode := .text quoting [] }
      | none => ends
    else ends
  | .number pointed exponent =>
    match numberNext pointed exponent c with
    | some mode => { s with mode }
    | none => ends
  | .numberSign pointed sign =>
    if isDigit c then { s with mode := .number pointed 2 }
    else stepSign (.number :: s.tokens) (String.singleton sign) c
  | .sign spelling => stepSign s.tokens spelling c
  | .text quoting content =>
    if c = '\'' then { s with mode := .textMark quoting content }
    else if c = '\\' ∧ quoting = .escaped then { s with mode := .textEscape quoting content }
    else { s with mode := .text quoting (c :: content) }
  | .textMark quoting content =>
    if c = '\'' then { s with mode := .text quoting (c :: content) } else ends
  | .textEscape quoting content => { s with mode := .text quoting (c :: content) }
  | .name content =>
    if c = '"' then { s with mode := .nameMark content } else { s with mode := .name (c :: content) }
  | .nameMark content => if c = '"' then { s with mode := .name (c :: content) } else ends
  | .lineComment => if c = '\n' ∨ c = '\r' then ⟨.gap :: s.tokens, .between⟩ else s
  | .comment marks depth edge =>
    match commentNext marks depth edge c with
    | some mode => { s with mode }
    | none => ⟨.gap :: s.tokens, .between⟩
  | .tagged tag letters =>
    let letters := c :: letters
    let closing := '$' :: tag ++ ['$']
    if letters.take closing.length = closing then
      ⟨.text .dollar [] :: s.tokens, .between⟩
    else { s with mode := .tagged tag letters }
  | .between | .tag _ => ends

def withoutTag (s : Scan) (letters : List Char) : Scan :=
  letters.reverse.foldl stepPlain ⟨.sign "$" :: s.tokens, .between⟩

def isTag (letters : List Char) : Bool := letters.isEmpty || !letters.all isDigit

def step (s : Scan) (c : Char) : Scan :=
  match s.mode with
  | .tag letters =>
    if c = '$' then
      if isTag letters then { s with mode := .tagged letters [] }
      else (s.withoutTag letters).stepPlain c
    else if isBlankChar c then (s.withoutTag letters).stepPlain c
    else { s with mode := .tag (c :: letters) }
  | _ => s.stepPlain c

def scanFrom (s : Scan) (cs : List Char) : Scan := cs.foldl step s

theorem scanFrom_append (s : Scan) (cs ds : List Char) :
    s.scanFrom (cs ++ ds) = (s.scanFrom cs).scanFrom ds := by
  simp [scanFrom]

def finish (s : Scan) : Option (List Token) :=
  match s.mode with
  | .tag [] => none
  | .tag letters =>
    let s := s.withoutTag letters
    s.mode.tokens?.map fun last => (last ++ s.tokens).reverse
  | mode => mode.tokens?.map fun last => (last ++ s.tokens).reverse

theorem next_newline (tokens : List Token) : next tokens '\n' = ⟨tokens, .between⟩ := by
  rw [next, Mode.beginning, if_pos (by decide)]

theorem stepSign_newline (tokens : List Token) (spelling : String) :
    stepSign tokens spelling '\n' = ⟨signTokens spelling ++ tokens, .between⟩ := by
  simp only [stepSign, signNext_newline, signTokens, next_newline]
  cases brokenSigns.lookup spelling <;> rfl

theorem stepPlain_newline {tokens : List Token} {m : Mode} {last : List Token}
    (h : m.tokens? = some last) : stepPlain ⟨tokens, m⟩ '\n' = ⟨last ++ tokens, .between⟩ := by
  cases m with
  | between => cases h; simp [stepPlain, next_newline, Mode.complete, Mode.tokens?]
  | word letters =>
    have letter : isLetter '\n' = false := by decide
    cases h; simp [stepPlain, next_newline, Mode.complete, Mode.tokens?, letter]
  | number pointed exponent =>
    have ends : numberNext pointed exponent '\n' = none := by
      have digit : isDigit '\n' = false := by decide
      simp [numberNext, digit]
    cases h; simp [stepPlain, next_newline, Mode.complete, Mode.tokens?, ends]
  | numberSign pointed sign =>
    have digit : isDigit '\n' = false := by decide
    cases h; simp [stepPlain, stepSign_newline, digit]
  | sign spelling => cases h; simp [stepPlain, stepSign_newline]
  | textMark quoting content => cases h; simp [stepPlain, next_newline, Mode.complete, Mode.tokens?]
  | nameMark content => cases h; simp [stepPlain, next_newline, Mode.complete, Mode.tokens?]
  | lineComment => cases h; simp [stepPlain]
  | _ => cases h

theorem step_newline {s : Scan} {tokens : List Token} (h : s.finish = some tokens) :
    s.step '\n' = ⟨tokens.reverse, .between⟩ := by
  obtain ⟨before, mode⟩ := s
  cases mode with
  | tag letters =>
    cases letters with
    | nil => cases h
    | cons c letters =>
      simp only [finish, Option.map_eq_some_iff] at h
      obtain ⟨last, complete, rfl⟩ := h
      have blank : isBlankChar '\n' = true := by decide
      simp only [step, blank, List.reverse_reverse]
      rw [if_neg (by decide), if_pos trivial]
      exact stepPlain_newline complete
  | _ =>
    simp only [finish, Option.map_eq_some_iff] at h
    obtain ⟨last, complete, rfl⟩ := h
    simpa [step] using stepPlain_newline complete

end Scan

/-- The tokens of a text, unless a quote or a comment in it is not closed. -/
def tokens? (t : Text) : Option (List Token) :=
  (Scan.start.scanFrom (t.charsOr '\uFFFD')).finish

end Lexer

end QueryDesk
