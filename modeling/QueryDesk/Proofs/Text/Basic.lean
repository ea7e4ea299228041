import Mathlib.Data.List.Forall2
import QueryDesk.Text.Basic

namespace QueryDesk

section Separator

variable {α : Type} {z : α} {first last other rest : List α}

theorem append_cons_eq_iff (clean : z ∉ first) :
    first ++ z :: last = other ++ z :: rest ↔
      (other = first ∧ last = rest) ∨
        ∃ between, other = first ++ z :: between ∧ last = between ++ z :: rest := by
  constructor
  · intro same
    rcases List.append_eq_append_iff.mp same with ⟨more, longer, tail⟩ | ⟨more, shorter, tail⟩
    · cases more with
      | nil => exact .inl ⟨by simpa using longer, (List.cons.inj tail).2⟩
      | cons x between =>
        obtain ⟨rfl, later⟩ := List.cons.inj tail
        exact .inr ⟨between, longer, later⟩
    · cases more with
      | nil => exact .inl ⟨by simpa using shorter.symm, (List.cons.inj tail).2.symm⟩
      | cons x between =>
        obtain ⟨rfl, -⟩ := List.cons.inj tail
        exact absurd (by simp [shorter]) clean
  · rintro (⟨rfl, rfl⟩ | ⟨between, rfl, rfl⟩)
    · rfl
    · simp

theorem append_cons_cancel (clean : z ∉ first ∧ z ∉ other)
    (same : first ++ z :: last = other ++ z :: rest) : first = other ∧ last = rest := by
  rcases (append_cons_eq_iff clean.1).mp same with ⟨inside, later⟩ | ⟨between, longer, -⟩
  · exact ⟨inside.symm, later⟩
  · exact absurd (by simp [longer]) clean.2

end Separator

theorem Point.satisfies_mono {p : Point} {test wider : Char → Bool}
    (weaker : ∀ c, test c = true → wider c = true) (satisfied : p.satisfies test = true) :
    p.satisfies wider = true := by
  cases p with
  | scalar c => exact weaker c satisfied
  | surrogate n => cases satisfied

namespace Text

def Over (test : Char → Bool) (t : Text) : Prop := ∀ p ∈ t, p.satisfies test = true

variable {test wider : Char → Bool} {t u : Text}

theorem over_nil : Over test [] := by simp [Over]

theorem over_cons_iff {p : Point} : Over test (p :: t) ↔ p.satisfies test = true ∧ Over test t :=
  List.forall_mem_cons

theorem over_append_iff : Over test (t ++ u) ↔ Over test t ∧ Over test u :=
  List.forall_mem_append

theorem Over.append (first : Over test t) (last : Over test u) : Over test (t ++ u) :=
  over_append_iff.mpr ⟨first, last⟩

theorem Over.mono (points : Over test t) (weaker : ∀ c, test c = true → wider c = true) :
    Over wider t :=
  fun p member => Point.satisfies_mono weaker (points p member)

theorem Over.isScalar (points : Over test t) : ∀ p ∈ t, p.isScalar = true := by
  intro p member
  have satisfied := points p member
  cases p with
  | scalar c => rfl
  | surrogate n => cases satisfied

theorem Over.not_mem {c : Char} (points : Over test t) (outside : test c = false) :
    Point.scalar c ∉ t := by
  intro member
  exact Bool.noConfusion (outside.symm.trans (points _ member))

theorem over_ofChars_iff {cs : List Char} : Over test (ofChars cs) ↔ ∀ c ∈ cs, test c = true := by
  simp [Over, ofChars, Point.satisfies, Point.char?]

theorem over_ofString {cs : List Char} (all : cs.all test = true) :
    Over test (ofString (String.ofList cs)) := by
  rw [ofString, String.toList_ofList]
  exact over_ofChars_iff.mpr (List.all_eq_true.mp all)

theorem over_flatMap {α : Type} {f : α → Text} {items : List α}
    (all : ∀ a ∈ items, Over test (f a)) : Over test (items.flatMap f) := by
  intro p member
  obtain ⟨a, here, inside⟩ := List.mem_flatMap.mp member
  exact all a here p inside

theorem over_join {separator : Text} {parts : List Text} (between : Over test separator)
    (all : ∀ part ∈ parts, Over test part) : Over test (join separator parts) := by
  induction parts with
  | nil => exact over_nil
  | cons part rest ih =>
    have first := all part List.mem_cons_self
    cases rest with
    | nil => exact first
    | cons next rest =>
      have last := ih fun other member => all other (List.mem_cons_of_mem _ member)
      exact (first.append between).append last

theorem over_ofNat (n : Nat) : Over Char.isDigit (ofNat n) :=
  over_ofChars_iff.mpr fun _ member => Nat.isDigit_of_mem_toDigits (by decide) (by decide) member

def isIntegerChar (c : Char) : Bool := c.isDigit || c == '-'

theorem over_ofInt (n : Int) : Over isIntegerChar (ofInt n) := by
  have digits (m : Nat) : Over isIntegerChar (ofNat m) :=
    (over_ofNat m).mono fun c digit => by simp [isIntegerChar, digit]
  cases n with
  | ofNat m => exact digits m
  | negSucc m => exact over_cons_iff.mpr ⟨rfl, digits (m + 1)⟩

theorem ofChars_injective {cs ds : List Char} (same : ofChars cs = ofChars ds) : cs = ds :=
  (List.map_inj_right fun _ _ => Point.scalar.inj).mp same

theorem ofNat_injective {n m : Nat} (same : ofNat n = ofNat m) : n = m := by
  have digits := ofChars_injective same
  rw [← Nat.ofDigitChars_ten_toDigits (n := n), digits, Nat.ofDigitChars_ten_toDigits]

theorem ofInt_injective {n m : Int} (same : ofInt n = ofInt m) : n = m := by
  have minus (k : Nat) (rest : Text) : ofNat k ≠ .scalar '-' :: rest := by
    intro same
    have digit := over_ofNat k
    rw [same] at digit
    exact Bool.noConfusion (over_cons_iff.mp digit).1
  cases n with
  | ofNat n =>
    cases m with
    | ofNat m => exact congrArg _ (ofNat_injective same)
    | negSucc m => exact absurd same (minus _ _)
  | negSucc n =>
    cases m with
    | ofNat m => exact absurd same.symm (minus _ _)
    | negSucc m =>
      have next := ofNat_injective (List.cons.inj same).2
      rw [Nat.succ.inj next]

def Leaves (test : Char → Bool) (t : Text) : Prop :=
  ∀ p, t.head? = some p → p.satisfies test = false

theorem leaves_nil : Leaves test [] := by simp [Leaves]

theorem leaves_cons {p : Point} (outside : p.satisfies test = false) : Leaves test (p :: t) := by
  simp [Leaves, outside]

theorem append_cancel {r s : Text} (first : Over test t) (second : Over test u)
    (after : Leaves test r) (last : Leaves test s) (same : t ++ r = u ++ s) : t = u ∧ r = s := by
  induction t generalizing u with
  | nil =>
    cases u with
    | nil => exact ⟨rfl, same⟩
    | cons q u =>
      subst same
      have inside := (over_cons_iff.mp second).1
      rw [after q rfl] at inside
      cases inside
  | cons p t ih =>
    cases u with
    | nil =>
      subst same
      have inside := (over_cons_iff.mp first).1
      rw [last p rfl] at inside
      cases inside
    | cons q u =>
      obtain ⟨rfl, rest⟩ := List.cons.inj same
      obtain ⟨rfl, rfl⟩ := ih (over_cons_iff.mp first).2 (over_cons_iff.mp second).2 rest
      exact ⟨rfl, rfl⟩

/-- Joined texts can be read back one by one, if each can be whatever follows it, and what follows
    the last one does not begin with a separator. -/
theorem join_cancel {α : Type} {Reads : α → α → Prop} {Follows : Text → Prop} {write : α → Text}
    {separator r s : Text} {as bs : List α} (nonempty : as ≠ [] ∧ bs ≠ [])
    (readable : ∀ a ∈ as, ∀ b ∈ bs, ∀ r s, Follows r → Follows s →
      write a ++ r = write b ++ s → Reads a b ∧ r = s)
    (between : ∀ t, Follows (separator ++ t)) (after : Follows r ∧ ¬ separator <+: r)
    (last : Follows s ∧ ¬ separator <+: s)
    (same : join separator (as.map write) ++ r = join separator (bs.map write) ++ s) :
    List.Forall₂ Reads as bs ∧ r = s := by
  induction as generalizing bs with
  | nil => exact absurd rfl nonempty.1
  | cons a as ih =>
    cases bs with
    | nil => exact absurd rfl nonempty.2
    | cons b bs =>
      have first := readable a List.mem_cons_self b List.mem_cons_self
      cases as with
      | nil =>
        cases bs with
        | nil =>
          obtain ⟨reads, rest⟩ := first r s after.1 last.1 same
          exact ⟨.cons reads .nil, rest⟩
        | cons b' bs =>
          simp only [List.map_cons, List.map_nil, join, List.append_assoc] at same
          have rest := (first r _ after.1 (between _) same).2
          exact absurd ⟨_, rest.symm⟩ after.2
      | cons a' as =>
        cases bs with
        | nil =>
          simp only [List.map_cons, List.map_nil, join, List.append_assoc] at same
          have rest := (first _ s (between _) last.1 same).2
          exact absurd ⟨_, rest⟩ last.2
        | cons b' bs =>
          simp only [List.map_cons, join, List.append_assoc] at same
          obtain ⟨reads, rest⟩ := first _ _ (between _) (between _) same
          have others := ih ⟨List.cons_ne_nil _ _, List.cons_ne_nil _ _⟩
            (fun a here b there =>
              readable a (List.mem_cons_of_mem _ here) b (List.mem_cons_of_mem _ there))
            (List.append_cancel_left rest)
          exact ⟨.cons reads others.1, others.2⟩

end Text

end QueryDesk
