import Mathlib.Data.List.Induction
import QueryDesk.Proofs.Guard.Keyword
import QueryDesk.Proofs.Text.Basic

namespace QueryDesk

namespace Text

variable {test : Char → Bool} {part t u : Text}

theorem infix_append_iff (points : Over test part)
    (border : Leaves test t.reverse ∨ Leaves test u) : part <:+: t ++ u ↔ part <:+: t ∨ part <:+: u := by
  constructor
  · rintro ⟨before, after, same⟩
    rcases List.append_eq_append_iff.mp same with ⟨rest, whole, -⟩ | ⟨rest, same, tail⟩
    · exact .inl ⟨before, rest, whole.symm⟩
    rcases List.append_eq_append_iff.mp same with ⟨front, whole, crossing⟩ | ⟨front, -, behind⟩
    · rcases border with left | right
      · cases front using List.reverseRecOn with
        | nil => exact .inr ⟨[], after, by simp [tail, crossing]⟩
        | append_singleton front p =>
          have outside := left p (by simp [whole])
          have inside := points p (by simp [crossing])
          exact Bool.noConfusion (outside.symm.trans inside)
      · cases rest with
        | nil => exact .inl ⟨before, [], by simp [whole, crossing]⟩
        | cons p rest =>
          have outside := right p (by simp [tail])
          have inside := points p (by simp [crossing])
          exact Bool.noConfusion (outside.symm.trans inside)
    · exact .inr ⟨front, after, by simp [tail, behind]⟩
  · rintro (first | last)
    · exact first.trans (List.prefix_append t u).isInfix
    · exact last.trans (List.suffix_append t u).isInfix

end Text

namespace Guard

def Mentions (word : List Char) (t : Text) : Prop := ∃ part, part <:+: t ∧ Spells word part

instance (word : List Char) (t : Text) : Decidable (Mentions word t) :=
  decidable_of_iff _ occurs_iff

def Destructive (t : Text) : Prop :=
  Mentions ['d', 'r', 'o', 'p'] t ∨ Mentions ['d', 'e', 'l', 'e', 't', 'e'] t
deriving Decidable

variable {word : List Char} {t u : Text}

theorem isAlpha_iff_toNat {c : Char} :
    c.isAlpha = true ↔ (65 ≤ c.toNat ∧ c.toNat ≤ 90) ∨ (97 ≤ c.toNat ∧ c.toNat ≤ 122) := by
  show (decide ('A'.val ≤ c.val ∧ c.val ≤ 'Z'.val) ||
    (decide ('a'.val ≤ c.val) && decide (c.val ≤ 'z'.val))) = true ↔ _
  simp only [Bool.or_eq_true, Bool.and_eq_true, decide_eq_true_eq, UInt32.le_iff_toNat_le]
  exact Iff.rfl

theorem isAlpha_of_toLower {c : Char} (lower : c.toLower.isLower = true) : c.isAlpha = true := by
  unfold Char.toLower at lower
  split at lower
  · rename_i upper
    exact isAlpha_iff_toNat.mpr (.inl upper)
  · show (c.isUpper || c.isLower) = true
    rw [lower, Bool.or_true]

theorem Spells.over {part : Text} (spells : Spells word part) (lower : ∀ c ∈ word, c.isLower = true) :
    Text.Over Char.isAlpha part := by
  induction spells with
  | nil => exact Text.over_nil
  | cons first _ ih =>
    obtain ⟨c, rfl, rfl⟩ := first
    obtain ⟨letter, others⟩ := List.forall_mem_cons.mp lower
    exact Text.over_cons_iff.mpr ⟨isAlpha_of_toLower letter, ih others⟩

theorem mentions_append_iff (lower : ∀ c ∈ word, c.isLower = true)
    (border : Text.Leaves Char.isAlpha t.reverse ∨ Text.Leaves Char.isAlpha u) :
    Mentions word (t ++ u) ↔ Mentions word t ∨ Mentions word u := by
  constructor
  · rintro ⟨part, inside, spells⟩
    rcases (Text.infix_append_iff (spells.over lower) border).mp inside with first | last
    · exact .inl ⟨part, first, spells⟩
    · exact .inr ⟨part, last, spells⟩
  · rintro (⟨part, inside, spells⟩ | ⟨part, inside, spells⟩)
    · exact ⟨part, inside.trans (List.prefix_append t u).isInfix, spells⟩
    · exact ⟨part, inside.trans (List.suffix_append t u).isInfix, spells⟩

def Traced (names : List Text) (t : Text) : Prop :=
  ∀ word ∈ forbiddenWords .general, Mentions word t ↔ ∃ name ∈ names, Mentions word name

structure Fragment (names : List Text) (t : Text) : Prop where
  traced : Traced names t
  border : Text.Leaves Char.isAlpha t.reverse

structure Tail (names : List Text) (t : Text) : Prop where
  traced : Traced names t
  border : Text.Leaves Char.isAlpha t

section Traced

variable {names others : List Text}

theorem Traced.congr (traced : Traced names t) (same : names ⊆ others ∧ others ⊆ names) :
    Traced others t := by
  intro word listed
  rw [traced word listed]
  constructor
  · rintro ⟨name, member, inside⟩
    exact ⟨name, same.1 member, inside⟩
  · rintro ⟨name, member, inside⟩
    exact ⟨name, same.2 member, inside⟩

theorem traced_of_quiet (quiet : ∀ word ∈ forbiddenWords .general, ¬ Mentions word t) :
    Traced [] t := by
  intro word listed
  simpa using quiet word listed

theorem traced_name (name : Text) : Traced [name] name := by
  intro word listed
  simp

theorem Traced.append (first : Traced names t) (last : Traced others u)
    (border : Text.Leaves Char.isAlpha t.reverse ∨ Text.Leaves Char.isAlpha u) :
    Traced (names ++ others) (t ++ u) := by
  intro word listed
  rw [mentions_append_iff (lower_of_forbidden word listed).2 border, first word listed,
    last word listed]
  constructor
  · rintro (⟨name, member, inside⟩ | ⟨name, member, inside⟩)
    · exact ⟨name, List.mem_append_left _ member, inside⟩
    · exact ⟨name, List.mem_append_right _ member, inside⟩
  · rintro ⟨name, member, inside⟩
    rcases List.mem_append.mp member with left | right
    · exact .inl ⟨name, left, inside⟩
    · exact .inr ⟨name, right, inside⟩

theorem Traced.tail (first : Traced names t) (tail : Tail others u) :
    Traced (names ++ others) (t ++ u) :=
  first.append tail.traced (.inr tail.border)

theorem Fragment.append (fragment : Fragment names t) (last : Traced others u) :
    Traced (names ++ others) (t ++ u) :=
  fragment.traced.append last (.inl fragment.border)

theorem Fragment.with_ (fragment : Fragment names t) (later : Fragment others u) :
    Fragment (names ++ others) (t ++ u) := by
  refine ⟨fragment.append later.traced, fun p last => ?_⟩
  rw [List.reverse_append, List.head?_append] at last
  cases ends : u.reverse.head? with
  | none =>
    rw [ends] at last
    exact fragment.border p last
  | some other =>
    rw [ends] at last
    exact later.border p (ends.trans last)

theorem Traced.destructive_iff (traced : Traced names t) :
    Destructive t ↔ ∃ name ∈ names, Destructive name := by
  have drop := traced ['d', 'r', 'o', 'p'] (by decide)
  have delete := traced ['d', 'e', 'l', 'e', 't', 'e'] (by decide)
  simp only [Destructive, drop, delete, and_or_left, exists_or]

theorem traced_of_over {test : Char → Bool} (points : Text.Over test t)
    (apart : ∀ c, test c = true → c.isAlpha = false) : Traced [] t := by
  refine traced_of_quiet fun word listed => ?_
  obtain ⟨full, lower⟩ := lower_of_forbidden word listed
  rintro ⟨part, inside, spells⟩
  have letters := spells.over lower
  cases spells with
  | nil => exact full rfl
  | cons first _ =>
    obtain ⟨c, rfl, _⟩ := first
    have letter : c.isAlpha = true := letters _ List.mem_cons_self
    have digit : test c = true := points _ (inside.subset List.mem_cons_self)
    exact Bool.noConfusion ((apart c digit).symm.trans letter)

theorem traced_nil : Traced [] [] := by
  have points : Text.Over (fun _ => false) [] := Text.over_nil
  exact traced_of_over points (by simp)

theorem Tail.nil : Tail [] [] := ⟨traced_nil, by simp [Text.Leaves]⟩

end Traced

section Phrase

variable {names : List Text} {cs : List Char}

def opensFree (cs : List Char) : Bool := cs.head?.all (!·.isAlpha)

def closesFree (cs : List Char) : Bool := cs.getLast?.any (!·.isAlpha)

def isQuiet (cs : List Char) : Bool :=
  (forbiddenWords .general).all fun word => !occurs word (Text.ofChars cs)

def leads (cs : List Char) : Bool := isQuiet cs && closesFree cs

def trails (cs : List Char) : Bool := isQuiet cs && opensFree cs

def parts (cs : List Char) : Bool := trails cs && closesFree cs

theorem leaves_of_opensFree (free : opensFree cs = true) :
    Text.Leaves Char.isAlpha (Text.ofString (String.ofList cs)) := by
  intro p first
  rw [Text.ofString, String.toList_ofList, Text.ofChars, List.head?_map] at first
  obtain ⟨c, begins, rfl⟩ := Option.map_eq_some_iff.mp first
  simpa [opensFree, begins, Point.satisfies, Point.char?] using free

theorem leaves_of_closesFree (free : closesFree cs = true) :
    Text.Leaves Char.isAlpha (t ++ Text.ofString (String.ofList cs)).reverse := by
  cases ends : cs.getLast? with
  | none => simp [closesFree, ends] at free
  | some c =>
    have apart : c.isAlpha = false := by simpa [closesFree, ends] using free
    intro p last
    rw [Text.ofString, String.toList_ofList, Text.ofChars, List.head?_reverse, List.getLast?_append,
      List.getLast?_map, ends] at last
    cases last
    simpa [Point.satisfies, Point.char?] using apart

theorem traced_of_isQuiet (quiet : isQuiet cs = true) :
    Traced [] (Text.ofString (String.ofList cs)) := by
  refine traced_of_quiet fun word listed mentioned => ?_
  have absent := List.all_eq_true.mp quiet word listed
  rw [Text.ofString, String.toList_ofList] at mentioned
  have found : occurs word (Text.ofChars cs) = true := occurs_iff.mpr mentioned
  simp [found] at absent

theorem Fragment.start (phrase : leads cs = true) :
    Fragment [] (Text.ofString (String.ofList cs)) := by
  obtain ⟨quiet, closes⟩ := Bool.and_eq_true_iff.mp phrase
  exact ⟨traced_of_isQuiet quiet, leaves_of_closesFree (t := []) closes⟩

theorem Fragment.phrase (fragment : Fragment names t) (phrase : leads cs = true) :
    Fragment names (t ++ Text.ofString (String.ofList cs)) := by
  obtain ⟨quiet, closes⟩ := Bool.and_eq_true_iff.mp phrase
  have whole := fragment.append (traced_of_isQuiet quiet)
  rw [List.append_nil] at whole
  exact ⟨whole, leaves_of_closesFree closes⟩

theorem Traced.ends (traced : Traced names t) (phrase : trails cs = true) :
    Traced names (t ++ Text.ofString (String.ofList cs)) := by
  obtain ⟨quiet, opens⟩ := Bool.and_eq_true_iff.mp phrase
  have whole := traced.append (traced_of_isQuiet quiet) (.inr (leaves_of_opensFree opens))
  rwa [List.append_nil] at whole

theorem Traced.then_ (traced : Traced names t) (phrase : parts cs = true) :
    Fragment names (t ++ Text.ofString (String.ofList cs)) := by
  obtain ⟨trails, closes⟩ := Bool.and_eq_true_iff.mp phrase
  exact ⟨traced.ends trails, leaves_of_closesFree closes⟩

theorem Fragment.name (fragment : Fragment names t) (name : Text) :
    Traced (names ++ [name]) (t ++ name) :=
  fragment.append (traced_name name)

theorem Fragment.around {name : Text} (fragment : Fragment names t) (phrase : parts cs = true) :
    Fragment (names ++ [name]) (t ++ name ++ Text.ofString (String.ofList cs)) :=
  (fragment.name name).then_ phrase

theorem Fragment.last {name : Text} (fragment : Fragment names t) (phrase : trails cs = true) :
    Traced (names ++ [name]) (t ++ name ++ Text.ofString (String.ofList cs)) :=
  (fragment.name name).ends phrase

theorem Tail.phrase (phrase : parts cs = true) (traced : Traced names t) :
    Tail names (Text.ofString (String.ofList cs) ++ t) := by
  obtain ⟨trails, closes⟩ := Bool.and_eq_true_iff.mp phrase
  obtain ⟨quiet, opens⟩ := Bool.and_eq_true_iff.mp trails
  have leading : Fragment [] (Text.ofString (String.ofList cs)) :=
    .start (Bool.and_eq_true_iff.mpr ⟨quiet, closes⟩)
  refine ⟨leading.append traced, ?_⟩
  cases cs with
  | nil => cases closes
  | cons c cs =>
    have apart := leaves_of_opensFree opens
    intro p first
    rw [Text.ofString, String.toList_ofList] at apart first
    exact apart p first

theorem traced_join (between : parts cs = true) {written : List (List Text)} {ts : List Text}
    (all : List.Forall₂ Traced written ts) :
    Traced written.flatten (Text.join (Text.ofString (String.ofList cs)) ts) := by
  induction all with
  | nil => exact traced_nil
  | cons first later ih =>
    cases later with
    | nil => simpa [Text.join] using first
    | cons _ _ => exact (first.then_ between).append ih

end Phrase

end Guard

end QueryDesk
