import QueryDesk.Proofs.Sql.Compiled
import QueryDesk.Proofs.Sql.Name

namespace QueryDesk

namespace Sql

/-- The characters of compiled statements: all but the zero character, semicolons, double quotes and
    dollar signs. -/
def isStatementChar (c : Char) : Bool := isSolid c && c != ';' && c != '"' && c != '$'

def isUnmarked (c : Char) : Bool := isStatementChar c && c != '?'

def isPlain (c : Char) : Bool := isUnmarked c && c != '\''

def isTidy : Text → Bool
  | [] => true
  | [p] => p != .scalar '-' && p != .scalar '/'
  | p :: q :: rest =>
    !(p == .scalar '-' && q == .scalar '-') && !(p == .scalar '/' && q == .scalar '*') &&
      isTidy (q :: rest)

theorem isTidy_append {t u : Text} (first : isTidy t = true) (last : isTidy u = true) :
    isTidy (t ++ u) = true := by
  induction t with
  | nil => exact last
  | cons p t ih =>
    cases t with
    | nil =>
      cases u with
      | nil => exact first
      | cons q u =>
        simp only [isTidy, Bool.and_eq_true, bne_iff_ne] at first
        simp [isTidy, first.1, first.2, last]
    | cons q t =>
      simp only [isTidy, Bool.and_eq_true] at first
      simp only [List.cons_append, isTidy, Bool.and_eq_true]
      exact ⟨first.1, ih first.2⟩

theorem isTidy_of_over {test : Char → Bool} {t : Text} (points : Text.Over test t)
    (hyphen : test '-' = false) (slash : test '/' = false) : isTidy t = true := by
  have apart {p : Point} {c : Char} (inside : p.satisfies test = true) (outside : test c = false) :
      p ≠ .scalar c := by
    rintro rfl
    exact Bool.noConfusion (outside.symm.trans inside)
  induction t with
  | nil => rfl
  | cons p t ih =>
    obtain ⟨first, others⟩ := Text.over_cons_iff.mp points
    cases t with
    | nil => simp [isTidy, apart first hyphen, apart first slash]
    | cons q t => simp [isTidy, apart first hyphen, apart first slash, ih others]

theorem not_infix_of_isTidy {t : Text} (tidy : isTidy t = true) :
    ¬ ([.scalar '-', .scalar '-'] : Text) <:+: t ∧
      ¬ ([.scalar '/', .scalar '*'] : Text) <:+: t := by
  induction t with
  | nil => simp
  | cons p t ih =>
    cases t with
    | nil => simp [List.infix_cons_iff, List.cons_prefix_cons]
    | cons q t =>
      simp only [isTidy, Bool.and_eq_true, Bool.not_eq_true', Bool.and_eq_false_iff,
        beq_eq_false_iff_ne] at tidy
      obtain ⟨⟨hyphens, comment⟩, rest⟩ := tidy
      obtain ⟨noHyphens, noComment⟩ := ih rest
      refine ⟨?_, ?_⟩
      · intro inside
        rcases List.infix_cons_iff.mp inside with front | behind
        · simp only [List.cons_prefix_cons] at front
          rcases hyphens with ne | ne
          · exact ne front.1.symm
          · exact ne front.2.1.symm
        · exact noHyphens behind
      · intro inside
        rcases List.infix_cons_iff.mp inside with front | behind
        · simp only [List.cons_prefix_cons] at front
          rcases comment with ne | ne
          · exact ne front.1.symm
          · exact ne front.2.1.symm
        · exact noComment behind

inductive QuotesOnly (Allowed : Text → Prop) : Text → Prop where
  | nil : QuotesOnly Allowed []
  | cons {p : Point} {t : Text} (plain : p ≠ .scalar '\'') (rest : QuotesOnly Allowed t) :
    QuotesOnly Allowed (p :: t)
  | quote {quoted t : Text} (allowed : Allowed quoted) (rest : QuotesOnly Allowed t) :
    QuotesOnly Allowed (.scalar '\'' :: quoted ++ .scalar '\'' :: t)

namespace QuotesOnly

variable {Allowed : Text → Prop} {t u : Text}

theorem append (first : QuotesOnly Allowed t) (last : QuotesOnly Allowed u) :
    QuotesOnly Allowed (t ++ u) := by
  induction first with
  | nil => exact last
  | cons plain _ ih => exact .cons plain ih
  | quote allowed _ ih =>
    simp only [List.cons_append, List.append_assoc]
    exact .quote allowed ih

theorem of_over {test : Char → Bool} (points : Text.Over test t) (apostrophe : test '\'' = false) :
    QuotesOnly Allowed t := by
  induction t with
  | nil => exact .nil
  | cons p t ih =>
    obtain ⟨first, others⟩ := Text.over_cons_iff.mp points
    refine .cons ?_ (ih others)
    rintro rfl
    exact Bool.noConfusion (apostrophe.symm.trans first)

end QuotesOnly

structure Neat (test : Char → Bool) (Allowed : Text → Prop) (t : Text) : Prop where
  points : Text.Over test t
  tidy : isTidy t = true
  quotes : QuotesOnly Allowed t

namespace Neat

variable {test wider : Char → Bool} {Allowed : Text → Prop} {t u : Text}

theorem append (first : Neat test Allowed t) (last : Neat test Allowed u) :
    Neat test Allowed (t ++ u) :=
  ⟨first.points.append last.points, isTidy_append first.tidy last.tidy, first.quotes.append last.quotes⟩

theorem mono (neat : Neat test Allowed t) (weaker : ∀ c, test c = true → wider c = true) :
    Neat wider Allowed t :=
  ⟨neat.points.mono weaker, neat.tidy, neat.quotes⟩

theorem nil : Neat test Allowed [] := ⟨Text.over_nil, rfl, .nil⟩

def isFixed (cs : List Char) : Bool := cs.all isPlain && isTidy (Text.ofChars cs)

theorem isUnmarked_of_isPlain {c : Char} (plain : isPlain c = true) : isUnmarked c = true :=
  (Bool.and_eq_true_iff.mp plain).1

theorem fixed {cs : List Char} (plain : isFixed cs = true) :
    Neat isUnmarked Allowed (Text.ofString (String.ofList cs)) := by
  obtain ⟨all, tidy⟩ := Bool.and_eq_true_iff.mp plain
  have points : Text.Over isPlain (Text.ofString (String.ofList cs)) := Text.over_ofString all
  refine ⟨points.mono fun _ => isUnmarked_of_isPlain, ?_, .of_over points (by decide)⟩
  rw [Text.ofString, String.toList_ofList]
  exact tidy

theorem then_ (neat : Neat isUnmarked Allowed t) {cs : List Char} (plain : isFixed cs = true) :
    Neat isUnmarked Allowed (t ++ Text.ofString (String.ofList cs)) :=
  neat.append (fixed plain)

theorem name (n : Name) : Neat isUnmarked Allowed n.text := by
  refine ⟨n.over_text.mono fun c inside => ?_, isTidy_of_over n.over_text (by decide) (by decide),
    .of_over n.over_text (by decide)⟩
  have apart (d : Char) (outside : isNameText d = false) : c ≠ d := by
    rintro rfl
    exact Bool.noConfusion (outside.symm.trans inside)
  simp [isUnmarked, isStatementChar, isSolid, apart '\x00' (by decide), apart ';' (by decide),
    apart '"' (by decide), apart '$' (by decide), apart '?' (by decide)]

theorem around (neat : Neat isUnmarked Allowed t) {n : Name} {cs : List Char}
    (plain : isFixed cs = true) :
    Neat isUnmarked Allowed (t ++ n.text ++ Text.ofString (String.ofList cs)) :=
  (neat.append (name n)).then_ plain

theorem join {separator : Text} {parts : List Text} (between : Neat test Allowed separator)
    (all : ∀ part ∈ parts, Neat test Allowed part) :
    Neat test Allowed (Text.join separator parts) := by
  induction parts with
  | nil => exact nil
  | cons part rest ih =>
    have first := all part List.mem_cons_self
    cases rest with
    | nil => exact first
    | cons next rest =>
      have last := ih fun other member => all other (List.mem_cons_of_mem _ member)
      exact (first.append between).append last

theorem digits (n : Nat) : Neat isUnmarked Allowed (Text.ofNat n) := by
  have points := Text.over_ofNat n
  refine ⟨points.mono fun c digit => ?_, isTidy_of_over points (by decide) (by decide),
    .of_over points (by decide)⟩
  have apart (d : Char) (outside : d.isDigit = false) : c ≠ d := by
    rintro rfl
    exact Bool.noConfusion (outside.symm.trans digit)
  simp [isUnmarked, isStatementChar, isSolid, apart '\x00' (by decide), apart ';' (by decide),
    apart '"' (by decide), apart '$' (by decide), apart '?' (by decide)]

theorem integer (n : Int) : Neat isUnmarked Allowed (Text.ofInt n) := by
  cases n with
  | ofNat n => exact digits n
  | negSucc n =>
    have rest : Neat isUnmarked Allowed (Text.ofNat (n + 1)) := digits (n + 1)
    have points := Text.over_ofNat (n + 1)
    refine ⟨Text.over_cons_iff.mpr ⟨by decide, rest.points⟩, ?_, .cons (by decide) rest.quotes⟩
    have tidy := rest.tidy
    simp only [Text.ofInt]
    cases written : Text.ofNat (n + 1) with
    | nil => exact absurd (List.map_eq_nil_iff.mp written) Nat.toDigits_ne_nil
    | cons p t =>
      rw [written] at points tidy
      have digit := (Text.over_cons_iff.mp points).1
      have apart : p ≠ .scalar '-' := by
        rintro rfl
        cases digit
      simp [isTidy, apart, tidy]

theorem quoted {cs : List Char} (allowed : Allowed (Text.ofString (String.ofList cs)))
    (plain : isFixed cs = true) : Neat isUnmarked Allowed
      ([.scalar '\''] ++ Text.ofString (String.ofList cs) ++ [.scalar '\'']) := by
  have inside : Neat isUnmarked Allowed (Text.ofString (String.ofList cs)) := fixed plain
  have mark : Text.Over isUnmarked [.scalar '\''] :=
    Text.over_cons_iff.mpr ⟨by decide, Text.over_nil⟩
  exact ⟨(mark.append inside.points).append mark, isTidy_append (isTidy_append rfl inside.tidy) rfl,
    .quote allowed .nil⟩

end Neat

end Sql

end QueryDesk
