import QueryDesk.Datum.Printed
import QueryDesk.Proofs.Number.Shortest
import QueryDesk.Proofs.Text.Quoted

namespace QueryDesk

namespace Datum

/-- The data that compiled statements bind: texts and numbers. -/
inductive IsParam : Datum → Prop where
  | text (t : Text) : IsParam (.text t)
  | int (n : Int) : IsParam (.int n)
  | float (x : Binary64) : IsParam (.float x)

inductive Alike : Datum → Datum → Prop where
  | text (t : Text) : Alike (.text t) (.text t)
  | int (n : Int) : Alike (.int n) (.int n)
  | float {x y : Binary64} (written : x.toText = y.toText) : Alike (.float x) (.float y)

theorem isSolid_of_isNumberChar {c : Char} (number : Binary64.isNumberChar c = true) :
    isSolid c = true := by
  by_cases zero : c = '\x00'
  · subst zero
    exact absurd number (by decide)
  · simp [isSolid, zero]

theorem over_printed_int (n : Int) : Text.Over Binary64.isNumberChar (printed (.int n)) :=
  (Text.over_ofInt n).mono fun c integer => by simp [Binary64.isNumberChar, integer]

theorem over_printed_float (x : Binary64) : Text.Over Binary64.isNumberChar (printed (.float x)) :=
  Binary64.over_toText x

theorem IsParam.over_printed {d : Datum} (param : d.IsParam) : Text.Over isSolid d.printed := by
  cases param with
  | text t => exact Text.over_quoted t
  | int n => exact (over_printed_int n).mono fun _ => isSolid_of_isNumberChar
  | float x => exact (over_printed_float x).mono fun _ => isSolid_of_isNumberChar

theorem printedAll_eq_map (items : List Datum) : printedAll items = items.map printed := by
  induction items with
  | nil => rfl
  | cons item rest ih => rw [printedAll, ih, List.map_cons]

def printedRest : List Datum → Text
  | [] => ",)"
  | item :: rest => (", " : Text) ++ (Text.join ", " ((item :: rest).map printed) ++ [.scalar ')'])

theorem printed_tuple_nil : (tuple []).printed = .scalar '(' :: [.scalar ')'] := by
  rw [printed]
  · decide
  · simp

theorem printed_tuple_cons (d : Datum) (rest : List Datum) :
    (tuple (d :: rest)).printed = .scalar '(' :: (d.printed ++ printedRest rest) := by
  cases rest with
  | nil => rw [printed]; exact List.append_assoc _ _ _
  | cons e rest =>
    rw [printed, printedAll_eq_map, enclosed]
    · simp only [List.map_cons, Text.join, List.append_assoc, printedRest]
      rfl
    · simp

theorem over_printedRest {rest : List Datum} (all : ∀ d ∈ rest, d.IsParam) :
    Text.Over isSolid (printedRest rest) := by
  cases rest with
  | nil => exact Text.over_ofString (by decide)
  | cons d rest =>
    refine Text.Over.append (Text.over_ofString (by decide)) (.append ?_ ?_)
    · refine Text.over_join (Text.over_ofString (by decide)) ?_
      intro part member
      obtain ⟨e, bound, rfl⟩ := List.mem_map.mp member
      exact (all e bound).over_printed
    · exact Text.over_cons_iff.mpr ⟨by decide, Text.over_nil⟩

theorem over_printed_tuple {params : List Datum} (all : ∀ d ∈ params, d.IsParam) :
    Text.Over isSolid (tuple params).printed := by
  cases params with
  | nil =>
    rw [printed_tuple_nil]
    exact Text.over_cons_iff.mpr ⟨by decide, Text.over_cons_iff.mpr ⟨by decide, Text.over_nil⟩⟩
  | cons d rest =>
    obtain ⟨first, others⟩ := List.forall_mem_cons.mp all
    rw [printed_tuple_cons]
    exact Text.over_cons_iff.mpr ⟨by decide, first.over_printed.append (over_printedRest others)⟩

section Reading

variable {d e : Datum} {r s : Text}

theorem printed_int_ne_nil (n : Int) : printed (.int n) ≠ [] := by
  cases n with
  | ofNat n =>
    intro empty
    exact Nat.toDigits_ne_nil (List.map_eq_nil_iff.mp empty)
  | negSucc n => exact List.cons_ne_nil _ _

theorem printed_float_ne_nil (x : Binary64) : printed (.float x) ≠ [] := by
  obtain ⟨p, member, _⟩ := x.exists_isFractional_toText
  exact List.ne_nil_of_mem member

theorem number_ne_cons {t : Text} {p : Point} (number : Text.Over Binary64.isNumberChar t)
    (written : t ≠ []) (outside : p.satisfies Binary64.isNumberChar = false) :
    t ++ r ≠ p :: s := by
  intro same
  cases t with
  | nil => exact written rfl
  | cons q t =>
    have inside := (Text.over_cons_iff.mp number).1
    rw [(List.cons.inj same).1, outside] at inside
    cases inside

theorem number_ne_quoted {t u : Text} (number : Text.Over Binary64.isNumberChar t)
    (written : t ≠ []) : t ++ r ≠ u.quoted ++ s := by
  refine number_ne_cons number written ?_
  rcases u.markFor_eq with quote | quote <;> rw [quote] <;> decide

theorem printed_append_cancel (first : d.IsParam) (second : e.IsParam)
    (after : Text.Leaves Binary64.isNumberChar r) (last : Text.Leaves Binary64.isNumberChar s)
    (same : d.printed ++ r = e.printed ++ s) : d.Alike e ∧ r = s := by
  cases first with
  | text t =>
    cases second with
    | text u =>
      obtain ⟨rfl, rest⟩ := Text.quoted_append_cancel same
      exact ⟨.text t, rest⟩
    | int m => exact absurd same.symm (number_ne_quoted (over_printed_int m) (printed_int_ne_nil m))
    | float y =>
      exact absurd same.symm (number_ne_quoted (over_printed_float y) (printed_float_ne_nil y))
  | int n =>
    cases second with
    | text u => exact absurd same (number_ne_quoted (over_printed_int n) (printed_int_ne_nil n))
    | int m =>
      obtain ⟨written, rest⟩ :=
        Text.append_cancel (over_printed_int n) (over_printed_int m) after last same
      rw [Text.ofInt_injective written]
      exact ⟨.int m, rest⟩
    | float y =>
      obtain ⟨written, _⟩ :=
        Text.append_cancel (over_printed_int n) (over_printed_float y) after last same
      exact absurd written.symm (y.toText_ne_ofInt n)
  | float x =>
    cases second with
    | text u => exact absurd same (number_ne_quoted (over_printed_float x) (printed_float_ne_nil x))
    | int m =>
      obtain ⟨written, _⟩ :=
        Text.append_cancel (over_printed_float x) (over_printed_int m) after last same
      exact absurd written (x.toText_ne_ofInt m)
    | float y =>
      obtain ⟨written, rest⟩ :=
        Text.append_cancel (over_printed_float x) (over_printed_float y) after last same
      exact ⟨.float written, rest⟩

theorem printed_ne_bracket (param : d.IsParam) : d.printed ++ r ≠ .scalar ')' :: s := by
  cases param with
  | text t =>
    intro same
    have mark := Point.scalar.inj (List.cons.inj same).1
    rcases t.markFor_eq with quote | quote <;> rw [quote] at mark <;> exact absurd mark (by decide)
  | int n => exact number_ne_cons (over_printed_int n) (printed_int_ne_nil n) (by decide)
  | float x => exact number_ne_cons (over_printed_float x) (printed_float_ne_nil x) (by decide)

end Reading

theorem join_printed_cancel {ds es : List Datum} (first : ∀ d ∈ ds, d.IsParam)
    (second : ∀ e ∈ es, e.IsParam) (nonempty : ds ≠ [] ∧ es ≠ [])
    (same : Text.join ", " (ds.map printed) ++ [.scalar ')'] =
      Text.join ", " (es.map printed) ++ [.scalar ')']) : List.Forall₂ Alike ds es := by
  have bracket : Text.Leaves Binary64.isNumberChar [.scalar ')'] ∧
      ¬ Text.ofString ", " <+: [.scalar ')'] := ⟨Text.leaves_cons (by decide), by decide⟩
  have comma (t : Text) : Text.Leaves Binary64.isNumberChar (Text.ofString ", " ++ t) :=
    Text.leaves_cons (p := .scalar ',') (by decide)
  refine (Text.join_cancel nonempty ?_ comma bracket bracket same).1
  intro d here e there r s after last
  exact printed_append_cancel (first d here) (second e there) after last

theorem leaves_printedRest (rest : List Datum) :
    Text.Leaves Binary64.isNumberChar (printedRest rest) := by
  cases rest with
  | nil => exact Text.leaves_cons (p := .scalar ',') (by decide)
  | cons item rest => exact Text.leaves_cons (p := .scalar ',') (by decide)

theorem alike_of_printed_tuple {ds es : List Datum} (first : ∀ d ∈ ds, d.IsParam)
    (second : ∀ e ∈ es, e.IsParam) (same : (tuple ds).printed = (tuple es).printed) :
    List.Forall₂ Alike ds es := by
  cases ds with
  | nil =>
    cases es with
    | nil => exact .nil
    | cons e es =>
      rw [printed_tuple_nil, printed_tuple_cons] at same
      exact absurd (List.cons.inj same).2.symm (printed_ne_bracket (second e List.mem_cons_self))
  | cons d ds =>
    cases es with
    | nil =>
      rw [printed_tuple_nil, printed_tuple_cons] at same
      exact absurd (List.cons.inj same).2 (printed_ne_bracket (first d List.mem_cons_self))
    | cons e es =>
      rw [printed_tuple_cons, printed_tuple_cons] at same
      obtain ⟨alike, rest⟩ := printed_append_cancel (first d List.mem_cons_self)
        (second e List.mem_cons_self) (leaves_printedRest ds) (leaves_printedRest es)
        (List.cons.inj same).2
      refine .cons alike ?_
      cases ds with
      | nil =>
        cases es with
        | nil => exact .nil
        | cons e' es => exact absurd (List.cons.inj (List.cons.inj rest).2).1 (by decide)
      | cons d' ds =>
        cases es with
        | nil => exact absurd (List.cons.inj (List.cons.inj rest).2).1 (by decide)
        | cons e' es =>
          exact join_printed_cancel (fun p member => first p (List.mem_cons_of_mem _ member))
            (fun p member => second p (List.mem_cons_of_mem _ member))
            ⟨List.cons_ne_nil _ _, List.cons_ne_nil _ _⟩ (List.append_cancel_left rest)

end Datum

end QueryDesk
