import Mathlib.Logic.Basic
import QueryDesk.Proofs.Grammar.Lexer

namespace QueryDesk

namespace Token

inductive Quoted : Token → Prop
  | text (quoting content) : Quoted (text quoting content)
  | name (letters) : Quoted (quotedName letters)

inductive Resembles : List Token → List Token → Prop
  | same (tokens) : Resembles tokens tokens
  | quoted {a b} (before later) (first : Quoted a) (second : Quoted b) :
    Resembles (before ++ a :: later) (before ++ b :: later)

variable {t : Token} {tokens others : List Token}

theorem Quoted.solid (quoted : Quoted t) : t ≠ separator ∧ t ≠ gap := by
  cases quoted <;> exact ⟨nofun, nofun⟩

theorem Quoted.isParameterSign (quoted : Quoted t) : t.isParameterSign = false := by
  cases quoted <;> rfl

theorem Resembles.count (resembles : Resembles tokens others) :
    tokens.count separator = others.count separator := by
  cases resembles with
  | same => rfl
  | quoted before later first second =>
    rw [List.count_append, List.count_append, List.count_cons_of_ne first.solid.1,
      List.count_cons_of_ne second.solid.1]

theorem length_statements_of_unparted (unparted : separator ∉ tokens) (full : ∃ t ∈ tokens, t ≠ gap) :
    (statements tokens).length = 1 := by
  have words : (joined none tokens).isEmpty = false :=
    List.isEmpty_eq_false_iff.mpr (joined_ne_nil full)
  simp [statements_of_unparted unparted, words]

theorem length_statements_quoted {a b : Token} (first : Quoted a) (second : Quoted b)
    (before later : List Token) :
    (statements (before ++ a :: later)).length = (statements (before ++ b :: later)).length := by
  induction before using parted_induction with
  | parted front back _ ih =>
    rw [List.append_assoc, List.cons_append, statements_append_separator, List.append_assoc,
      List.cons_append, statements_append_separator, List.length_append, List.length_append, ih]
  | whole before unparted =>
    induction later using parted_induction with
    | parted front back ih _ =>
      rw [← List.cons_append, ← List.append_assoc, statements_append_separator, List.length_append,
        ih, ← List.cons_append, ← List.append_assoc, statements_append_separator, List.length_append]
    | whole later unparted' =>
      have single {t : Token} (quoted : Quoted t) :
          (statements (before ++ t :: later)).length = 1 := by
        refine length_statements_of_unparted ?_ ⟨t, by simp, quoted.solid.2⟩
        rw [List.mem_append, List.mem_cons]
        rintro (inside | same | inside)
        · exact unparted inside
        · exact quoted.solid.1 same.symm
        · exact unparted' inside
      rw [single first, single second]

theorem Resembles.length_statements (resembles : Resembles tokens others) :
    (statements tokens).length = (statements others).length := by
  cases resembles with
  | same => rfl
  | quoted before later first second => exact length_statements_quoted first second before later

end Token

namespace Lexer

open Token (Resembles Quoted)

def closing (tag : List Char) : List Char := '$' :: tag ++ ['$']

/-- A semicolon that is read in this mode, with these characters after it, is within a quote or a
    comment. As the tag of a text may hold semicolons, it must be no part of the mark at the end. -/
inductive Inside : Mode → List Char → Prop
  | text (quoting content rest) : Inside (.text quoting content) rest
  | textEscape (quoting content rest) : Inside (.textEscape quoting content) rest
  | name (content rest) : Inside (.name content) rest
  | lineComment (rest) : Inside .lineComment rest
  | comment (marks depth edge rest) : Inside (.comment marks depth edge) rest
  | tagged {tag letters rest} (within : ∀ front, front.reverse <+: rest →
      closing tag <+: front ++ ';' :: letters → closing tag <+: front) :
    Inside (.tagged tag letters) rest

/-- Scans of texts that differ within one quote, before the same characters: it is still open, or its
    token alone is another. -/
inductive Twins (rest : List Char) : Scan → Scan → Prop
  | same (s) : Twins rest s s
  | text (tokens quoting x y) : Twins rest ⟨tokens, .text quoting x⟩ ⟨tokens, .text quoting y⟩
  | textEscape (tokens quoting x y) :
    Twins rest ⟨tokens, .textEscape quoting x⟩ ⟨tokens, .textEscape quoting y⟩
  | textMark (tokens quoting x y) :
    Twins rest ⟨tokens, .textMark quoting x⟩ ⟨tokens, .textMark quoting y⟩
  | name (tokens x y) : Twins rest ⟨tokens, .name x⟩ ⟨tokens, .name y⟩
  | nameMark (tokens x y) : Twins rest ⟨tokens, .nameMark x⟩ ⟨tokens, .nameMark y⟩
  | tagged {tag x y} (tokens) (alike : ∀ front, front.reverse <+: rest →
      (closing tag <+: front ++ x ↔ closing tag <+: front ++ y)) :
    Twins rest ⟨tokens, .tagged tag x⟩ ⟨tokens, .tagged tag y⟩
  | behind {a b} (s : Scan) (earlier) (first : Quoted a) (second : Quoted b) :
    Twins rest (s.on (a :: earlier)) (s.on (b :: earlier))

section Tag

def Mode.Solid : Mode → Prop
  | .tag letters | .tagged letters _ => ' ' ∉ letters
  | _ => True

variable {c : Char}

theorem Mode.solid_beginning (tokens : List Token) (c : Char) : (beginning tokens c).Solid := by
  unfold beginning
  repeat' split
  all_goals simp [Solid]

theorem solid_signNext {spelling : String} {mode : Mode} (next : signNext spelling c = some mode) :
    mode.Solid := by
  unfold signNext at next
  repeat' split at next
  all_goals cases next
  all_goals trivial

theorem solid_numberNext {pointed : Bool} {exponent : Nat} {mode : Mode}
    (next : numberNext pointed exponent c = some mode) : mode.Solid := by
  unfold numberNext at next
  repeat' split at next
  all_goals cases next
  all_goals trivial

theorem solid_commentNext {marks : CommentMarks} {depth : Nat} {edge : CommentEdge} {mode : Mode}
    (next : commentNext marks depth edge c = some mode) : mode.Solid := by
  unfold commentNext at next
  repeat' split at next
  all_goals cases next
  all_goals trivial

namespace Scan

theorem solid_stepSign (tokens : List Token) (spelling : String) (c : Char) :
    (stepSign tokens spelling c).mode.Solid := by
  unfold stepSign
  split
  · exact solid_signNext ‹_›
  split
  · split
    · exact solid_signNext ‹_›
    · exact Mode.solid_beginning _ c
  · exact Mode.solid_beginning _ c

theorem solid_stepPlain {s : Scan} (solid : s.mode.Solid) (c : Char) :
    (s.stepPlain c).mode.Solid := by
  obtain ⟨tokens, mode⟩ := s
  have ends (m : Mode) : (next (m.complete ++ tokens) c).mode.Solid := Mode.solid_beginning _ c
  cases mode with
  | between => exact ends .between
  | word letters =>
    simp only [stepPlain]
    split
    · trivial
    split
    · split
      · trivial
      · exact ends _
    · exact ends _
  | number pointed exponent =>
    simp only [stepPlain]
    split
    · exact solid_numberNext ‹_›
    · exact ends _
  | numberSign pointed sign =>
    simp only [stepPlain]
    split
    · trivial
    · exact solid_stepSign ..
  | sign spelling => exact solid_stepSign ..
  | text quoting content =>
    simp only [stepPlain]
    split
    · trivial
    split <;> trivial
  | textMark quoting content =>
    simp only [stepPlain]
    split
    · trivial
    · exact ends _
  | textEscape quoting content => trivial
  | name content =>
    simp only [stepPlain]
    split <;> trivial
  | nameMark content =>
    simp only [stepPlain]
    split
    · trivial
    · exact ends _
  | lineComment =>
    simp only [stepPlain]
    split <;> trivial
  | comment marks depth edge =>
    simp only [stepPlain]
    split
    · exact solid_commentNext ‹_›
    · trivial
  | tag letters => exact ends _
  | tagged tag letters =>
    simp only [stepPlain]
    split
    · trivial
    · exact solid

theorem solid_withoutTag (s : Scan) (letters : List Char) : (s.withoutTag letters).mode.Solid := by
  unfold withoutTag
  have begun : (⟨.sign "$" :: s.tokens, .between⟩ : Scan).mode.Solid := trivial
  generalize (⟨.sign "$" :: s.tokens, .between⟩ : Scan) = s' at begun
  induction letters.reverse generalizing s' with
  | nil => exact begun
  | cons c rest ih => exact ih _ (solid_stepPlain begun c)

theorem solid_step {s : Scan} (solid : s.mode.Solid) (c : Char) : (s.step c).mode.Solid := by
  by_cases begun : ∃ letters, s.mode = .tag letters
  · obtain ⟨letters, mode⟩ := begun
    rw [mode] at solid
    have again := solid_stepPlain (s.solid_withoutTag letters) c
    simp only [step, mode]
    split
    · split
      · exact solid
      · exact again
    split
    · exact again
    · rename_i full
      have other : ' ' ≠ c := by
        rintro rfl
        exact full (by decide)
      exact List.not_mem_cons_of_ne_of_not_mem other solid
  · rw [step_of_plain (not_exists.mp begun)]
    exact solid_stepPlain solid c

theorem solid_scanFrom {s : Scan} (solid : s.mode.Solid) (cs : List Char) :
    (s.scanFrom cs).mode.Solid := by
  induction cs generalizing s with
  | nil => exact solid
  | cons c rest ih => exact ih (solid_step solid c)

end Scan

end Tag

variable {s s' : Scan} {rest : List Char}

theorem step_tagged (tokens : List Token) (tag letters : List Char) (c : Char) :
    (⟨tokens, .tagged tag letters⟩ : Scan).step c =
      if closing tag <+: c :: letters then ⟨.text .dollar [] :: tokens, .between⟩
      else ⟨tokens, .tagged tag (c :: letters)⟩ := by
  have ends : (c :: letters).take (closing tag).length = closing tag ↔ closing tag <+: c :: letters := by
    rw [List.prefix_iff_eq_take, eq_comm]
  exact if_congr ends rfl rfl

theorem prefix_append_cons_iff {mark front back : List Char} {c : Char} (absent : c ∉ mark) :
    mark <+: front ++ c :: back ↔ mark <+: front := by
  constructor
  · intro starts
    by_cases short : mark.length ≤ front.length
    · exact List.prefix_of_prefix_length_le starts (List.prefix_append front _) short
    · have begins : front ++ [c] <+: front ++ c :: back := ⟨back, by simp⟩
      have inside : front ++ [c] <+: mark :=
        List.prefix_of_prefix_length_le begins starts (by simp; omega)
      exact absurd (inside.subset (by simp)) absent
  · intro starts
    exact starts.trans (List.prefix_append front _)

theorem afterSign_quoted {t : Token} (quoted : Quoted t) (earlier : List Token) :
    afterSign (t :: earlier) = false := by
  rw [afterSign_cons quoted.solid.2, quoted.isParameterSign]

theorem twins_next {a b : Token} (first : Quoted a) (second : Quoted b) (earlier : List Token)
    (c : Char) : Twins rest (Scan.next (a :: earlier) c) (Scan.next (b :: earlier) c) := by
  have left := Scan.next_on (afterSign_quoted first earlier) [] c
  have right := Scan.next_on (afterSign_quoted second earlier) [] c
  rw [List.nil_append] at left right
  rw [left, right]
  exact .behind _ earlier first second

theorem Twins.step {c : Char} (twins : Twins (c :: rest) s s') :
    Twins rest (s.step c) (s'.step c) := by
  cases twins with
  | same s => exact .same _
  | text tokens quoting x y =>
    simp only [Scan.step, Scan.stepPlain]
    split
    · exact .textMark ..
    split
    · exact .textEscape ..
    · exact .text ..
  | textEscape tokens quoting x y => exact .text ..
  | textMark tokens quoting x y =>
    simp only [Scan.step, Scan.stepPlain]
    split
    · exact .text ..
    · exact twins_next (.text ..) (.text ..) tokens c
  | name tokens x y =>
    simp only [Scan.step, Scan.stepPlain]
    split
    · exact .nameMark ..
    · exact .name ..
  | nameMark tokens x y =>
    simp only [Scan.step, Scan.stepPlain]
    split
    · exact .name ..
    · exact twins_next (.name _) (.name _) tokens c
  | @tagged tag x y tokens alike =>
    have now : closing tag <+: c :: x ↔ closing tag <+: c :: y := alike [c] (by simp)
    have later : ∀ front, front.reverse <+: rest →
        (closing tag <+: front ++ c :: x ↔ closing tag <+: front ++ c :: y) := by
      intro front begins
      have longer := alike (front ++ [c]) (by simpa using begins)
      rwa [List.append_assoc, List.append_assoc] at longer
    rw [step_tagged, step_tagged]
    by_cases ends : closing tag <+: c :: x
    · rw [if_pos ends, if_pos (now.mp ends)]
      exact .same _
    · rw [if_neg ends, if_neg (now.not.mp ends)]
      exact .tagged tokens later
  | behind s earlier first second =>
    rw [Scan.step_on (afterSign_quoted first earlier), Scan.step_on (afterSign_quoted second earlier)]
    exact .behind _ earlier first second

theorem Twins.scan (twins : Twins rest s s') : Twins [] (s.scanFrom rest) (s'.scanFrom rest) := by
  induction rest generalizing s s' with
  | nil => exact twins
  | cons c rest ih => exact ih twins.step

theorem Twins.finish (twins : Twins [] s s') : Option.Rel Resembles s.finish s'.finish := by
  cases twins with
  | same s =>
    cases s.finish with
    | none => exact .none
    | some tokens => exact .some (.same tokens)
  | textMark tokens quoting x y =>
    have alone (z : List Char) : (⟨tokens, .textMark quoting z⟩ : Scan).finish =
        some (tokens.reverse ++ .text quoting z.reverse :: []) := by
      simp [Scan.finish, Mode.tokens?]
    rw [alone, alone]
    exact .some (.quoted _ _ (.text ..) (.text ..))
  | nameMark tokens x y =>
    have alone (z : List Char) : (⟨tokens, .nameMark z⟩ : Scan).finish =
        some (tokens.reverse ++ nameToken z :: []) := by
      simp [Scan.finish, Mode.tokens?]
    rw [alone, alone]
    exact .some (.quoted _ _ (.name _) (.name _))
  | behind s earlier first second =>
    rw [Scan.finish_on (afterSign_quoted first earlier), Scan.finish_on (afterSign_quoted second earlier)]
    cases s.finish with
    | none => exact .none
    | some later =>
      have whole (t : Token) : (t :: earlier).reverse ++ later = earlier.reverse ++ t :: later := by
        simp
      rw [Option.map_some, Option.map_some, whole, whole]
      exact .some (.quoted earlier.reverse later first second)
  | _ => exact .none

theorem Inside.twins {tokens : List Token} {mode : Mode} (inside : Inside mode rest)
    (solid : mode.Solid) :
    Twins rest ((⟨tokens, mode⟩ : Scan).step ';') ((⟨tokens, mode⟩ : Scan).step ' ') := by
  cases inside with
  | text quoting content =>
    simp only [Scan.step, Scan.stepPlain]
    exact .text ..
  | textEscape quoting content => exact .text ..
  | name content => exact .name ..
  | lineComment => exact .same _
  | comment marks depth edge =>
    have same : commentNext marks depth edge ';' = commentNext marks depth edge ' ' := by
      cases marks <;> cases edge <;> rfl
    have states : (⟨tokens, .comment marks depth edge⟩ : Scan).step ';' =
        (⟨tokens, .comment marks depth edge⟩ : Scan).step ' ' := by
      simp only [Scan.step, Scan.stepPlain, same]
    rw [states]
    exact .same _
  | @tagged tag letters _ within =>
    have goes_on {c : Char} (other : c ≠ '$') :
        (⟨tokens, .tagged tag letters⟩ : Scan).step c = ⟨tokens, .tagged tag (c :: letters)⟩ := by
      rw [step_tagged, if_neg]
      exact fun ends => other (List.cons_prefix_cons.mp ends).1.symm
    have spaceless : ' ' ∉ tag := solid
    have absent : ' ' ∉ closing tag := by simpa [closing] using spaceless
    rw [goes_on (by decide), goes_on (by decide)]
    refine .tagged tokens fun front begins => ?_
    rw [prefix_append_cons_iff absent]
    exact ⟨within front begins, fun ends => ends.trans (List.prefix_append front _)⟩

theorem resembles_of_inside {p q : Text}
    (inside : Inside (Scan.start.scanFrom (p.charsOr '\uFFFD')).mode (q.charsOr '\uFFFD')) :
    Option.Rel Resembles (tokens? (p ++ .scalar ';' :: q)) (tokens? (p ++ .scalar ' ' :: q)) := by
  have read (c : Char) : tokens? (p ++ .scalar c :: q) =
      (((Scan.start.scanFrom (p.charsOr '\uFFFD')).step c).scanFrom (q.charsOr '\uFFFD')).finish := by
    rw [tokens?_eq_finish, charsOr_append, charsOr_cons, Scan.scanFrom_append, Scan.scanFrom_cons]
  have begun : Scan.start.mode.Solid := trivial
  rw [read, read]
  exact (inside.twins (Scan.solid_scanFrom begun _)).scan.finish

end Lexer

end QueryDesk
