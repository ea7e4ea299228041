import QueryDesk.Grammar.Lexer
import QueryDesk.Proofs.Grammar.Statements

namespace QueryDesk

namespace Lexer

def afterSign (tokens : List Token) : Bool :=
  (tokens.find? (· != .gap)).any Token.isParameterSign

theorem afterSign_append {earlier : List Token} (apart : afterSign earlier = false)
    (tokens : List Token) : afterSign (tokens ++ earlier) = afterSign tokens := by
  unfold afterSign at apart ⊢
  rw [List.find?_append]
  cases tokens.find? (· != .gap) with
  | none => exact apart
  | some t => rfl

theorem afterSign_cons {t : Token} (solid : t ≠ .gap) (tokens : List Token) :
    afterSign (t :: tokens) = t.isParameterSign := by
  have found : (t :: tokens).find? (· != .gap) = some t :=
    List.find?_cons_of_pos (bne_iff_ne.mpr solid)
  rw [afterSign, found]
  rfl

namespace Scan

theorem scanFrom_cons (s : Scan) (c : Char) (cs : List Char) :
    s.scanFrom (c :: cs) = (s.step c).scanFrom cs := rfl

def on (s : Scan) (earlier : List Token) : Scan := ⟨s.tokens ++ earlier, s.mode⟩

theorem step_of_plain {s : Scan} (plain : ∀ letters, s.mode ≠ .tag letters) (c : Char) :
    s.step c = s.stepPlain c := by
  unfold step
  split
  · exact absurd ‹_› (plain _)
  · rfl

def ended (s : Scan) : Option (List Token) :=
  s.mode.tokens?.map fun last => (last ++ s.tokens).reverse

theorem finish_of_plain {s : Scan} (plain : ∀ letters, s.mode ≠ .tag letters) :
    s.finish = s.ended := by
  unfold finish
  split
  · exact absurd ‹_› (plain _)
  · exact absurd ‹_› (plain _)
  · rfl

section On

variable {earlier : List Token} (apart : afterSign earlier = false)

include apart

theorem next_on (tokens : List Token) (c : Char) :
    next (tokens ++ earlier) c = (next tokens c).on earlier := by
  have sign := afterSign_append apart tokens
  unfold afterSign at sign
  simp only [next, on, Mode.beginning, sign]

theorem stepSign_on (tokens : List Token) (spelling : String) (c : Char) :
    stepSign (tokens ++ earlier) spelling c = (stepSign tokens spelling c).on earlier := by
  unfold stepSign
  split
  · rfl
  split
  · split
    · rfl
    · exact next_on apart (_ :: _ :: tokens) c
  · exact next_on apart (.sign spelling :: tokens) c

theorem stepPlain_on (s : Scan) (c : Char) :
    (s.on earlier).stepPlain c = (s.stepPlain c).on earlier := by
  obtain ⟨tokens, mode⟩ := s
  have ends : next (mode.complete ++ (tokens ++ earlier)) c =
      (next (mode.complete ++ tokens) c).on earlier := by
    rw [← List.append_assoc]
    exact next_on apart _ c
  cases mode with
  | between => exact ends
  | word letters =>
    simp only [stepPlain, on]
    split
    · rfl
    split
    · split
      · rfl
      · exact ends
    · exact ends
  | number pointed exponent =>
    simp only [stepPlain, on]
    split
    · rfl
    · exact ends
  | numberSign pointed sign =>
    simp only [stepPlain, on]
    split
    · rfl
    · exact stepSign_on apart (.number :: tokens) _ c
  | sign spelling => exact stepSign_on apart tokens spelling c
  | text quoting content =>
    simp only [stepPlain, on]
    split
    · rfl
    split <;> rfl
  | textMark quoting content =>
    simp only [stepPlain, on]
    split
    · rfl
    · exact ends
  | textEscape quoting content => rfl
  | name content =>
    simp only [stepPlain, on]
    split <;> rfl
  | nameMark content =>
    simp only [stepPlain, on]
    split
    · rfl
    · exact ends
  | lineComment =>
    simp only [stepPlain, on]
    split <;> rfl
  | comment marks depth edge =>
    simp only [stepPlain, on]
    split <;> rfl
  | tag letters => exact ends
  | tagged tag letters =>
    simp only [stepPlain, on]
    split <;> rfl

theorem withoutTag_on (s : Scan) (letters : List Char) :
    (s.on earlier).withoutTag letters = (s.withoutTag letters).on earlier := by
  unfold withoutTag
  generalize letters.reverse = cs
  generalize begun : (⟨.sign "$" :: s.tokens, .between⟩ : Scan) = s'
  have same : (⟨.sign "$" :: (s.on earlier).tokens, .between⟩ : Scan) = s'.on earlier := by
    rw [← begun]
    rfl
  rw [same]
  clear begun same
  induction cs generalizing s' with
  | nil => rfl
  | cons c rest ih =>
    rw [List.foldl_cons, List.foldl_cons, stepPlain_on apart, ih]

theorem step_on (s : Scan) (c : Char) : (s.on earlier).step c = (s.step c).on earlier := by
  have plain := stepPlain_on apart s c
  by_cases begun : ∃ letters, s.mode = .tag letters
  · obtain ⟨letters, mode⟩ := begun
    have still : (s.on earlier).mode = .tag letters := mode
    have again := stepPlain_on apart (s.withoutTag letters) c
    rw [← withoutTag_on apart] at again
    simp only [step, still, mode]
    split
    · split
      · rfl
      · exact again
    split
    · exact again
    · rfl
  · have none_begun := not_exists.mp begun
    rw [step_of_plain (s := s) none_begun, step_of_plain (s := s.on earlier) none_begun, plain]

theorem scanFrom_on (s : Scan) (cs : List Char) :
    (s.on earlier).scanFrom cs = (s.scanFrom cs).on earlier := by
  induction cs generalizing s with
  | nil => rfl
  | cons c rest ih =>
    rw [scanFrom_cons, scanFrom_cons, step_on apart, ih]

omit apart in
theorem ended_on (s : Scan) : (s.on earlier).ended = s.ended.map (earlier.reverse ++ ·) := by
  obtain ⟨tokens, mode⟩ := s
  cases complete : mode.tokens? with
  | none => simp [on, ended, complete]
  | some last => simp [on, ended, complete]

theorem finish_on (s : Scan) :
    (s.on earlier).finish = s.finish.map (earlier.reverse ++ ·) := by
  by_cases begun : ∃ letters, s.mode = .tag letters
  · obtain ⟨letters, mode⟩ := begun
    have still : (s.on earlier).mode = .tag letters := mode
    have without : ((s.withoutTag letters).on earlier).ended =
        (s.withoutTag letters).ended.map (earlier.reverse ++ ·) := ended_on _
    rw [← withoutTag_on apart] at without
    cases letters with
    | nil => simp only [finish, still, mode, Option.map_none]
    | cons c letters =>
      simp only [finish, still, mode]
      exact without
  · have none_begun := not_exists.mp begun
    rw [finish_of_plain (s := s) none_begun, finish_of_plain (s := s.on earlier) none_begun,
      ended_on]

end On

theorem signs_head? : ∀ s ∈ longSigns ++ brokenSigns.map Prod.fst, s.toList.head? ≠ some ';' := by
  decide +kernel

theorem signNext_separator (c : Char) : signNext ";" c = none := by
  have new : (";" : String).push c ∉ longSigns ++ brokenSigns.map Prod.fst :=
    fun listed => signs_head? _ listed (by simp)
  have alone : (longSigns ++ brokenSigns.map Prod.fst).contains ((";" : String).push c) = false := by
    simpa using new
  simp only [signNext, alone]
  simp

theorem finish_separator (tokens : List Token) (cs : List Char) :
    ((⟨tokens, .sign ";"⟩ : Scan).scanFrom cs).finish =
      ((⟨Token.separator :: tokens, .between⟩ : Scan).scanFrom cs).finish := by
  cases cs with
  | nil => rfl
  | cons c rest =>
    have next : stepSign tokens ";" c = Scan.next (Token.separator :: tokens) c := by
      have alone : brokenSigns.lookup ";" = none := by decide
      simp only [stepSign, signNext_separator, alone]
      rfl
    have same : (⟨tokens, .sign ";"⟩ : Scan).step c =
        (⟨Token.separator :: tokens, .between⟩ : Scan).step c := next
    rw [scanFrom_cons, scanFrom_cons, same]

end Scan

/-- The characters after the opening mark of a comment up to the mark that closes it, from a point in
    it on. -/
inductive Closes (marks : CommentMarks) : Nat → CommentEdge → List Char → Prop
  | ends {depth edge c} (last : commentNext marks depth edge c = none) : Closes marks depth edge [c]
  | goes_on {depth edge c depth' edge' rest}
    (next : commentNext marks depth edge c = some (.comment marks depth' edge'))
    (later : Closes marks depth' edge' rest) : Closes marks depth edge (c :: rest)

def CommentMarks.opening : CommentMarks → List Char
  | slashes => ['/', '*']
  | braces => ['\x7b', '#']

theorem closes_plain {body : List Char} (plain : ∀ c ∈ body, c ≠ '*' ∧ c ≠ '/') {edge : CommentEdge}
    (quiet : edge = .opened ∨ edge = .inside) : Closes .slashes 1 edge (body ++ ['*', '/']) := by
  induction body generalizing edge with
  | nil =>
    have star : commentNext .slashes 1 edge '*' = some (.comment .slashes 1 .closing) := by
      rcases quiet with rfl | rfl <;> rfl
    exact .goes_on star (.ends rfl)
  | cons c rest ih =>
    obtain ⟨⟨star, slash⟩, later⟩ := List.forall_mem_cons.mp plain
    have next : commentNext .slashes 1 edge c = some (.comment .slashes 1 .inside) := by
      have inside : CommentMarks.edge .slashes edge c = .inside := by
        simp [CommentMarks.edge, star, slash]
      rcases quiet with rfl | rfl <;> simp [commentNext, CommentMarks.mark, inside]
    exact .goes_on next (ih later (.inr rfl))

def IsLine (body : List Char) : Prop := ∀ c ∈ body, c ≠ '\n' ∧ c ≠ '\r'

inductive Idle : List Char → Prop
  | nil : Idle []
  | separator {rest} (later : Idle rest) : Idle (';' :: rest)
  | blank {c rest} (white : isBlankChar c = true) (later : Idle rest) : Idle (c :: rest)
  | line {body c rest} (line : IsLine body) (ends : c = '\n' ∨ c = '\r') (later : Idle rest) :
    Idle ('-' :: '-' :: body ++ c :: rest)
  | last {body} (line : IsLine body) : Idle ('-' :: '-' :: body)
  | comment {marks body rest} (closes : Closes marks 1 .opened body) (later : Idle rest) :
    Idle (CommentMarks.opening marks ++ body ++ rest)

namespace Scan

theorem scanFrom_line {body : List Char} (line : IsLine body) (tokens : List Token) :
    (⟨tokens, .lineComment⟩ : Scan).scanFrom body = ⟨tokens, .lineComment⟩ := by
  induction body with
  | nil => rfl
  | cons c rest ih =>
    obtain ⟨⟨feed, back⟩, later⟩ := List.forall_mem_cons.mp line
    have stays : (⟨tokens, .lineComment⟩ : Scan).step c = ⟨tokens, .lineComment⟩ :=
      if_neg (not_or.mpr ⟨feed, back⟩)
    rw [scanFrom_cons, stays, ih later]

theorem scanFrom_closes {marks : CommentMarks} {depth : Nat} {edge : CommentEdge} {body : List Char}
    (closes : Closes marks depth edge body) (tokens : List Token) :
    (⟨tokens, .comment marks depth edge⟩ : Scan).scanFrom body = ⟨.gap :: tokens, .between⟩ := by
  induction closes with
  | @ends depth edge c last =>
    have step : (⟨tokens, .comment marks depth edge⟩ : Scan).step c = ⟨.gap :: tokens, .between⟩ := by
      simp only [step, stepPlain, last]
    exact step
  | @goes_on depth edge c depth' edge' rest next _ ih =>
    have step : (⟨tokens, .comment marks depth edge⟩ : Scan).step c =
        ⟨tokens, .comment marks depth' edge'⟩ := by
      simp only [step, stepPlain, next]
    rw [scanFrom_cons, step, ih]

theorem scanFrom_opening (marks : CommentMarks) (tokens : List Token) :
    (⟨tokens, .between⟩ : Scan).scanFrom marks.opening = ⟨tokens, .comment marks 1 .opened⟩ := by
  cases marks <;> rfl

theorem finish_idle {cs : List Char} (idle : Idle cs) (tokens : List Token) :
    ∃ extra, Token.Idle extra ∧
      ((⟨tokens, .between⟩ : Scan).scanFrom cs).finish = some (tokens.reverse ++ extra) := by
  have after (t : Token) (rest : List Char) (own : t = .separator ∨ t = .gap) (tokens : List Token)
      (later : ∃ extra, Token.Idle extra ∧ ((⟨t :: tokens, .between⟩ : Scan).scanFrom rest).finish =
        some ((t :: tokens).reverse ++ extra)) :
      ∃ extra, Token.Idle extra ∧ ((⟨t :: tokens, .between⟩ : Scan).scanFrom rest).finish =
        some (tokens.reverse ++ extra) := by
    obtain ⟨extra, idle, finished⟩ := later
    exact ⟨t :: extra, List.forall_mem_cons.mpr ⟨own, idle⟩, by simp [finished]⟩
  have begins (body : List Char) (tokens : List Token) :
      (⟨tokens, .between⟩ : Scan).scanFrom ('-' :: '-' :: body) =
        (⟨tokens, .lineComment⟩ : Scan).scanFrom body := rfl
  induction idle generalizing tokens with
  | nil => exact ⟨[], by simp [Token.Idle], (List.append_nil _).symm ▸ rfl⟩
  | @separator rest _ ih =>
    have step : (⟨tokens, .between⟩ : Scan).step ';' = ⟨tokens, .sign ";"⟩ := rfl
    rw [scanFrom_cons, step, finish_separator]
    exact after .separator rest (.inl rfl) tokens (ih _)
  | @blank c rest white _ ih =>
    have step : (⟨tokens, .between⟩ : Scan).step c = ⟨tokens, .between⟩ := by
      show next tokens c = _
      rw [next, Mode.beginning, if_pos white]
    rw [scanFrom_cons, step]
    exact ih tokens
  | @line body c rest line ends _ ih =>
    have step : (⟨tokens, .lineComment⟩ : Scan).step c = ⟨.gap :: tokens, .between⟩ := if_pos ends
    rw [List.cons_append, List.cons_append, begins, scanFrom_append, scanFrom_line line,
      scanFrom_cons, step]
    exact after .gap rest (.inr rfl) tokens (ih _)
  | @last body line =>
    rw [begins, scanFrom_line line]
    exact ⟨[.gap], by simp [Token.Idle], by simp [finish, Mode.tokens?]⟩
  | @comment marks body rest closes _ ih =>
    rw [scanFrom_append, scanFrom_append, scanFrom_opening, scanFrom_closes closes]
    exact after .gap rest (.inr rfl) tokens (ih _)

end Scan

section Texts

variable {t u : Text} {tokens : List Token}

theorem charsOr_append (other : Char) (t u : Text) :
    (t ++ u).charsOr other = t.charsOr other ++ u.charsOr other := List.map_append

theorem charsOr_cons (other c : Char) (u : Text) :
    Text.charsOr other (.scalar c :: u) = c :: u.charsOr other := rfl

theorem tokens?_eq_finish (t : Text) :
    tokens? t = (Scan.start.scanFrom (t.charsOr '\uFFFD')).finish := rfl

theorem tokens?_append_newline (closed : tokens? t = some tokens) (u : Text) :
    tokens? (t ++ .scalar '\n' :: u) =
      ((⟨tokens.reverse, .between⟩ : Scan).scanFrom (u.charsOr '\uFFFD')).finish := by
  rw [tokens?_eq_finish] at closed ⊢
  rw [charsOr_append, charsOr_cons, Scan.scanFrom_append, Scan.scanFrom_cons,
    Scan.step_newline closed]

theorem tokens?_append_idle (closed : tokens? t = some tokens) (idle : Idle (u.charsOr '\uFFFD')) :
    ∃ extra, Token.Idle extra ∧ tokens? (t ++ .scalar '\n' :: u) = some (tokens ++ extra) := by
  obtain ⟨extra, none_solid, finished⟩ := Scan.finish_idle idle tokens.reverse
  rw [List.reverse_reverse] at finished
  exact ⟨extra, none_solid, (tokens?_append_newline closed u).trans finished⟩

theorem tokens?_append_separator (closed : tokens? t = some tokens) (u : Text) :
    tokens? (t ++ .scalar '\n' :: .scalar ';' :: u) =
      (tokens? u).map (tokens ++ Token.separator :: ·) := by
  have apart : afterSign (Token.separator :: tokens.reverse) = false :=
    afterSign_cons (by decide) _
  have alone : (⟨Token.separator :: tokens.reverse, .between⟩ : Scan) =
      Scan.start.on (Token.separator :: tokens.reverse) := rfl
  have step : (⟨tokens.reverse, .between⟩ : Scan).step ';' = ⟨tokens.reverse, .sign ";"⟩ := rfl
  rw [tokens?_append_newline closed, charsOr_cons, Scan.scanFrom_cons, step, Scan.finish_separator,
    alone, Scan.scanFrom_on apart, Scan.finish_on apart, tokens?_eq_finish]
  simp

end Texts

end Lexer

end QueryDesk
