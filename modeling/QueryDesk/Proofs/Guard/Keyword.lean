import Mathlib.Data.List.Forall2
import QueryDesk.Guard.Policy

namespace QueryDesk

namespace Guard

def startsWith : List Char → Text → Bool
  | [], _ => true
  | _ :: _, [] => false
  | c :: word, p :: rest => p.satisfies (fun letter => letter.toLower == c) && startsWith word rest

def occurs (word : List Char) : Text → Bool
  | [] => startsWith word []
  | p :: rest => startsWith word (p :: rest) || occurs word rest

def Spells (word : List Char) (part : Text) : Prop :=
  List.Forall₂ (fun letter (p : Point) => ∃ c, p = .scalar c ∧ c.toLower = letter) word part

theorem satisfies_iff {p : Point} {letter : Char} :
    p.satisfies (·.toLower == letter) = true ↔ ∃ c, p = .scalar c ∧ c.toLower = letter := by
  cases p with
  | scalar c => simp [Point.satisfies, Point.char?]
  | surrogate n => simp [Point.satisfies, Point.char?]

theorem startsWith_iff {word : List Char} {t : Text} :
    startsWith word t = true ↔ ∃ part, part <+: t ∧ Spells word part := by
  induction word generalizing t with
  | nil => exact iff_of_true (by simp [startsWith]) ⟨[], List.nil_prefix, .nil⟩
  | cons letter word ih =>
    cases t with
    | nil =>
      refine iff_of_false (by simp [startsWith]) ?_
      rintro ⟨part, empty, spells⟩
      rw [List.prefix_nil.mp empty] at spells
      cases spells
    | cons p rest =>
      rw [startsWith, Bool.and_eq_true, satisfies_iff, ih]
      constructor
      · rintro ⟨first, part, starts, spells⟩
        exact ⟨p :: part, List.cons_prefix_cons.mpr ⟨rfl, starts⟩, .cons first spells⟩
      · rintro ⟨part, starts, spells⟩
        cases spells with
        | cons first spells =>
          obtain ⟨rfl, later⟩ := List.cons_prefix_cons.mp starts
          exact ⟨first, _, later, spells⟩

theorem occurs_iff {word : List Char} {t : Text} :
    occurs word t = true ↔ ∃ part, part <:+: t ∧ Spells word part := by
  induction t with
  | nil =>
    rw [occurs, startsWith_iff]
    simp only [List.prefix_nil, List.infix_nil]
  | cons p rest ih =>
    rw [occurs, Bool.or_eq_true, startsWith_iff, ih]
    constructor
    · rintro (⟨part, starts, spells⟩ | ⟨part, inside, spells⟩)
      · exact ⟨part, starts.isInfix, spells⟩
      · exact ⟨part, List.infix_cons inside, spells⟩
    · rintro ⟨part, inside, spells⟩
      rcases List.infix_cons_iff.mp inside with starts | inside
      · exact .inl ⟨part, starts, spells⟩
      · exact .inr ⟨part, inside, spells⟩

/-- A word that lower case brings into no text: two characters outside ASCII have a lower case that
    begins with a letter of ASCII, and that is `k`, or `i` with something outside ASCII after it. -/
structure Sought (word : List Char) : Prop where
  ascii : ∀ c ∈ word, c.toNat < 0x80
  plain : 'k' ∉ word
  ends : word.getLast? ≠ some 'i'

theorem Sought.tail {c : Char} {word : List Char} (sought : Sought (c :: word)) : Sought word := by
  refine ⟨fun d member => sought.ascii d (List.mem_cons_of_mem c member), fun member => ?_, ?_⟩
  · exact sought.plain (List.mem_cons_of_mem c member)
  · have ends := sought.ends
    cases word with
    | nil => simp
    | cons d word => rwa [List.getLast?_cons_cons] at ends

theorem Sought.beq_outside {c letter : Char} {word : List Char} (sought : Sought word)
    (member : letter ∈ word) (outside : 0x80 ≤ c.toNat) : (c == letter) = false := by
  have own := sought.ascii letter member
  refine beq_false_of_ne ?_
  rintro rfl
  omega

theorem sought_of_forbidden {mode : Mode} : ∀ word ∈ forbiddenWords mode, Sought word := by
  intro word listed
  have all : (forbiddenWords mode).all (fun word => word.all (·.toNat < 0x80) &&
      !word.contains 'k' && word.getLast? != some 'i') = true := by
    cases mode <;> decide
  have own := List.all_eq_true.mp all word listed
  simp only [Bool.and_eq_true, List.all_eq_true, decide_eq_true_eq, Bool.not_eq_true',
    List.contains_eq_mem, decide_eq_false_iff_not, bne_iff_ne] at own
  exact ⟨own.1.1, own.1.2, own.2⟩

section Lowered

variable {word : List Char} {t : Text}

def isOutside (run : Nat × Nat × Nat × Nat) : Bool :=
  0x80 ≤ run.2.2.2 && (run.2.2.2 + (run.2.1 - run.1) < 0xD800 ||
    0xE000 ≤ run.2.2.2 && run.2.2.2 + (run.2.1 - run.1) < 0x110000)

set_option maxRecDepth 2000 in
theorem isOutside_of_capitalRuns : capitalRuns.all isOutside = true := by decide

theorem toLower_of_outside {c : Char} (outside : 0x80 ≤ c.toNat) : c.toLower = c := by
  unfold Char.toLower
  split
  · rename_i upper
    have within : c.toNat ≤ 0x5A := upper.2
    omega
  · rfl

theorem le_smallLetter {c : Char} (outside : 0x80 ≤ c.toNat) : 0x80 ≤ (smallLetter c).toNat := by
  unfold smallLetter
  split
  · rename_i first last step small found
    have inside := List.find?_some found
    have run := List.all_eq_true.mp isOutside_of_capitalRuns _ (List.mem_of_find?_eq_some found)
    simp only [isOutside, Bool.and_eq_true, Bool.or_eq_true, decide_eq_true_eq] at inside run
    have valid : (small + (c.toNat - first)).isValidChar := by
      unfold Nat.isValidChar
      omega
    rw [Char.ofNat, dif_pos valid]
    show 0x80 ≤ small + (c.toNat - first)
    omega
  · exact outside

/-- The lower case of a character is one of ASCII for one of ASCII, and begins outside ASCII for any
    other but two. -/
theorem lowerCase_cases (c : Char) :
    (c.toNat < 0x80 ∧ lowerCase c = [c.toLower]) ∨
      0x80 ≤ c.toNat ∧ (lowerCase c = ['k'] ∨ lowerCase c = ['i', '\u0307'] ∨
        ∃ d, lowerCase c = [d] ∧ 0x80 ≤ d.toNat) := by
  unfold lowerCase
  by_cases ascii : c.toNat < 0x80
  · exact .inl ⟨ascii, if_pos ascii⟩
  have outside : 0x80 ≤ c.toNat := Nat.le_of_not_lt ascii
  refine .inr ⟨outside, ?_⟩
  rw [if_neg ascii]
  split
  · exact .inr (.inl rfl)
  split
  · exact .inl rfl
  · exact .inr (.inr ⟨_, rfl, le_smallLetter outside⟩)

theorem isPrefixOf_cons (letter c : Char) (word : List Char) (rest : Text) :
    (Text.ofChars (letter :: word)).isPrefixOf (.scalar c :: rest) =
      (c == letter && (Text.ofChars word).isPrefixOf rest) := by
  have points : (Point.scalar letter == .scalar c) = (c == letter) := by
    rw [Bool.eq_iff_iff, beq_iff_eq, beq_iff_eq, Point.scalar.injEq, eq_comm]
  rw [← points]
  rfl

theorem isPrefixOf_outside (sought : Sought word) (full : word ≠ []) {c : Char}
    (outside : 0x80 ≤ c.toNat) (rest : Text) :
    (Text.ofChars word).isPrefixOf (Text.ofChars (lowerCase c) ++ rest) = false := by
  obtain ⟨letter, word, rfl⟩ := List.exists_cons_of_ne_nil full
  rcases lowerCase_cases c with ⟨inside, -⟩ | ⟨-, kelvin | dotted | ⟨d, small, far⟩⟩
  · omega
  · have other : ('k' == letter) = false :=
      beq_false_of_ne fun same => sought.plain (same ▸ List.mem_cons_self)
    rw [kelvin]
    exact (isPrefixOf_cons letter 'k' word rest).trans (by rw [other, Bool.false_and])
  · rw [dotted]
    refine (isPrefixOf_cons letter 'i' word (.scalar '\u0307' :: rest)).trans ?_
    cases word with
    | nil =>
      have other : ('i' == letter) = false := beq_false_of_ne fun same => sought.ends (same ▸ rfl)
      rw [other, Bool.false_and]
    | cons next word =>
      have other : ('\u0307' == next) = false :=
        sought.tail.beq_outside List.mem_cons_self (by decide)
      rw [isPrefixOf_cons, other, Bool.false_and, Bool.and_false]
  · have other : (d == letter) = false := sought.beq_outside List.mem_cons_self far
    rw [small]
    exact (isPrefixOf_cons letter d word rest).trans (by rw [other, Bool.false_and])

theorem isPrefixOf_lowered (sought : Sought word) (t : Text) :
    (Text.ofChars word).isPrefixOf t.lowered = startsWith word t := by
  -- on the word: each letter of it is matched by one character of the text, or by none
  induction word generalizing t with
  | nil => rfl
  | cons letter word ih =>
    cases t with
    | nil => rfl
    | cons p rest =>
      cases p with
      | surrogate n => rfl
      | scalar c =>
        have split : Text.lowered (.scalar c :: rest) = Text.ofChars (lowerCase c) ++ Text.lowered rest :=
          List.flatMap_cons
        rw [split]
        by_cases ascii : c.toNat < 0x80
        · have small : lowerCase c = [c.toLower] := if_pos ascii
          rw [small, startsWith, ← ih sought.tail rest]
          exact isPrefixOf_cons letter c.toLower word (Text.lowered rest)
        · have outside : 0x80 ≤ c.toNat := Nat.le_of_not_lt ascii
          have itself : c.toLower = c := toLower_of_outside outside
          have other : (c == letter) = false := sought.beq_outside List.mem_cons_self outside
          rw [isPrefixOf_outside sought (List.cons_ne_nil _ _) outside, startsWith]
          show false = ((c.toLower == letter) && startsWith word rest)
          rw [itself, other, Bool.false_and]

/-- Looking for a word in the lower case of a text is looking for it in the text, in letters of either
    case. -/
theorem stands_lowered (sought : Sought word) (full : word ≠ []) (t : Text) :
    stands word t.lowered = occurs word t := by
  have empty : word.isEmpty = startsWith word [] := by cases word <;> rfl
  induction t with
  | nil => exact empty
  | cons p rest ih =>
    have starts := isPrefixOf_lowered sought (p :: rest)
    have split : Text.lowered (p :: rest) = p.lowerCase ++ Text.lowered rest := List.flatMap_cons
    have alone : ∀ q, p.lowerCase = [q] →
        stands word (Text.lowered (p :: rest)) = occurs word (p :: rest) := by
      intro q single
      rw [single] at split
      rw [split] at starts ⊢
      exact congrArg₂ or starts ih
    cases p with
    | surrogate n => exact alone (.surrogate n) rfl
    | scalar c =>
      rcases lowerCase_cases c with ⟨-, one⟩ | ⟨-, one | dotted | ⟨d, one, -⟩⟩
      · exact alone (.scalar c.toLower) (congrArg Text.ofChars one)
      · exact alone (.scalar 'k') (congrArg Text.ofChars one)
      · -- of the two places in it a word can begin at, the second is outside ASCII
        have pair : Point.lowerCase (.scalar c) = [.scalar 'i', .scalar '\u0307'] :=
          congrArg Text.ofChars dotted
        obtain ⟨letter, word, rfl⟩ := List.exists_cons_of_ne_nil full
        have other : ('\u0307' == letter) = false :=
          sought.beq_outside List.mem_cons_self (by decide)
        have second : (Text.ofChars (letter :: word)).isPrefixOf
            (.scalar '\u0307' :: Text.lowered rest) = false := by
          rw [isPrefixOf_cons, other, Bool.false_and]
        rw [pair] at split
        rw [split] at starts ⊢
        have later : stands (letter :: word) (.scalar '\u0307' :: Text.lowered rest) =
            occurs (letter :: word) rest := by
          rw [stands, second, Bool.false_or, ih]
        exact congrArg₂ or starts later
      · exact alone (.scalar d) (congrArg Text.ofChars one)

end Lowered

theorem lower_of_forbidden {mode : Mode} :
    ∀ word ∈ forbiddenWords mode, word ≠ [] ∧ ∀ c ∈ word, c.isLower = true := by
  intro word listed
  have all : (forbiddenWords mode).all (fun word => word ≠ [] && word.all (·.isLower)) = true := by
    cases mode <;> decide
  have own := List.all_eq_true.mp all word listed
  simpa using own

theorem any_stands_iff {mode : Mode} {t : Text} :
    (forbiddenWords mode).any (stands · t.lowered) = true ↔
      ∃ word ∈ forbiddenWords mode, ∃ part, part <:+: t ∧ Spells word part := by
  rw [List.any_eq_true]
  refine exists_congr fun word => and_congr_right fun listed => ?_
  obtain ⟨full, -⟩ := lower_of_forbidden word listed
  rw [stands_lowered (sought_of_forbidden word listed) full, occurs_iff]

theorem checkWords_eq_error {mode : Mode} {t : Text} {word : List Char} {part : Text}
    (listed : word ∈ forbiddenWords mode) (inside : part <:+: t) (spells : Spells word part) :
    checkWords mode t = .error (wordCause mode) :=
  if_pos (any_stands_iff.mpr ⟨word, listed, part, inside, spells⟩)

theorem checkWords_eq_ok {mode : Mode} {t : Text}
    (absent : ∀ word ∈ forbiddenWords mode, ∀ part, part <:+: t → ¬ Spells word part) :
    checkWords mode t = .ok () := by
  refine if_neg fun found => ?_
  obtain ⟨word, listed, part, inside, spells⟩ := any_stands_iff.mp found
  exact absent word listed part inside spells

end Guard

end QueryDesk
