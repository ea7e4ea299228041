import Mathlib.Data.List.Infix
import QueryDesk.Proofs.Sql.Compiled
import QueryDesk.Proofs.Sql.Name

namespace QueryDesk

namespace Sql

structure Ungrouped (t : Text) : Prop where
  clear : ¬ [.scalar 'P', .scalar ' ', .scalar 'B'] <:+: t
  shut : ¬ [.scalar 'P', .scalar ' '] <:+ t

structure Parted (t : Text) : Prop extends Ungrouped t where
  apart : ¬ [.scalar 'P'] <:+ t

def isDivider (cs : List Char) : Bool :=
  let t := Text.ofChars cs
  decide (¬ [.scalar 'P', .scalar ' ', .scalar 'B'] <:+: t ∧ ¬ [.scalar 'P', .scalar ' '] <:+ t ∧
    ¬ [.scalar 'P'] <:+ t ∧ ¬ [.scalar ' ', .scalar 'B'] <+: t ∧ t ≠ [] ∧ t ≠ [.scalar ' '])

section Ungrouped

variable {t u : Text} {cs : List Char}

theorem suffix_of_suffix_append {part : Text} (ends : part <:+ t ++ u) :
    part <:+ u ∨ ∃ before, part = before ++ u ∧ before <:+ t := by
  obtain ⟨front, same⟩ := ends
  rcases List.append_eq_append_iff.mp same with ⟨more, rfl, whole⟩ | ⟨more, rfl, whole⟩
  · exact .inr ⟨more, whole, List.suffix_append front more⟩
  · exact .inl (whole ▸ List.suffix_append more part)

theorem Ungrouped.join (first : Ungrouped t) (last : Ungrouped u)
    (border : ¬ [.scalar 'P'] <:+ t ∨ ¬ [.scalar ' ', .scalar 'B'] <+: u ∧ u ≠ [.scalar ' ']) :
    Ungrouped (t ++ u) := by
  constructor
  · intro inside
    rcases List.infix_append_iff.mp inside with before | after | ⟨front, rest, same, ends, begins⟩
    · exact first.clear before
    · exact last.clear after
    · rcases front with _ | ⟨p, _ | ⟨blank, _ | ⟨b, _ | ⟨more, front⟩⟩⟩⟩ <;>
        simp only [List.nil_append, List.cons_append, List.cons.injEq] at same
      · exact last.clear (same ▸ begins.isInfix)
      · obtain ⟨rfl, rfl⟩ := same
        rcases border with apart | ⟨other, -⟩
        · exact apart ends
        · exact other begins
      · obtain ⟨rfl, rfl, -⟩ := same
        exact first.shut ends
      · obtain ⟨rfl, rfl, rfl, -⟩ := same
        exact first.clear ends.isInfix
      · simp at same
  · intro ending
    rcases suffix_of_suffix_append ending with after | ⟨front, same, ends⟩
    · exact last.shut after
    · rcases front with _ | ⟨p, _ | ⟨blank, _ | ⟨more, front⟩⟩⟩ <;>
        simp only [List.nil_append, List.cons_append, List.cons.injEq] at same
      · exact last.shut (same ▸ List.suffix_rfl)
      · obtain ⟨rfl, rfl⟩ := same
        rcases border with apart | ⟨-, other⟩
        · exact apart ends
        · exact other rfl
      · obtain ⟨rfl, rfl, -⟩ := same
        exact first.shut ends
      · simp at same

theorem Parted.append (first : Parted t) (last : Ungrouped u) : Ungrouped (t ++ u) :=
  first.toUngrouped.join last (.inl first.apart)

theorem ungrouped_of_over {test : Char → Bool} (points : Text.Over test t)
    (blank : test ' ' = false) : Ungrouped t := by
  have absent : .scalar ' ' ∉ t := points.not_mem blank
  exact ⟨fun inside => absent (inside.subset (by simp)), fun ends => absent (ends.subset (by simp))⟩

theorem ungrouped_nil : Ungrouped [] := ⟨by simp, by simp⟩

theorem Name.ungrouped (name : Name) : Ungrouped name.text :=
  ungrouped_of_over name.over_text (by decide)

theorem Ungrouped.append_divider (text : Ungrouped t) (divider : isDivider cs = true) :
    Parted (t ++ Text.ofString (String.ofList cs)) := by
  obtain ⟨clear, shut, apart, other, full, blank⟩ := of_decide_eq_true divider
  rw [Text.ofString, String.toList_ofList]
  refine ⟨text.join ⟨clear, shut⟩ (.inr ⟨other, blank⟩), fun ending => ?_⟩
  rcases suffix_of_suffix_append ending with after | ⟨front, same, -⟩
  · exact apart after
  · rcases front with _ | ⟨first, _ | ⟨more, front⟩⟩
    · exact apart (same ▸ List.suffix_rfl)
    · exact full (List.cons.inj same).2.symm
    · simp at same

theorem parted_phrase (divider : isDivider cs = true) :
    Parted (Text.ofString (String.ofList cs)) :=
  ungrouped_nil.append_divider divider

theorem Name.ungrouped_between {before after : List Char} (name : Name)
    (left : isDivider before = true) (right : isDivider after = true) :
    Ungrouped (Text.ofString (String.ofList before) ++ name.text ++
      Text.ofString (String.ofList after)) :=
  (((parted_phrase left).append name.ungrouped).append_divider right).toUngrouped

theorem ungrouped_join (divider : isDivider cs = true) {parts : List Text}
    (all : ∀ part ∈ parts, Ungrouped part) :
    Ungrouped (Text.join (Text.ofString (String.ofList cs)) parts) := by
  induction parts with
  | nil => exact ungrouped_nil
  | cons part rest ih =>
    obtain ⟨first, others⟩ := List.forall_mem_cons.mp all
    cases rest with
    | nil => exact first
    | cons next rest => exact (first.append_divider divider).append (ih others)

end Ungrouped

section Parts

theorem Column.ungrouped_text (c : Column) : Ungrouped c.text := by
  have applied : Ungrouped (c.aggregate.apply c.field) := by
    have closing : isDivider ")".toList = true := by decide
    cases c.aggregate with
    | sum => exact c.field.ungrouped_between (by decide : isDivider "SUM(".toList = true) closing
    | avg => exact c.field.ungrouped_between (by decide : isDivider "AVG(".toList = true) closing
    | count => exact c.field.ungrouped_between (by decide : isDivider "COUNT(".toList = true) closing
    | min => exact c.field.ungrouped_between (by decide : isDivider "MIN(".toList = true) closing
    | max => exact c.field.ungrouped_between (by decide : isDivider "MAX(".toList = true) closing
    | distinctCount =>
      exact c.field.ungrouped_between (by decide : isDivider "COUNT(DISTINCT ".toList = true) closing
  exact (applied.append_divider (by decide)).append c.aliased.ungrouped

theorem Comparison.Of.ungrouped {filter : Text × Datum} {c : Comparison} (compiled : Of filter c) :
    Ungrouped c.text := by
  rcases compiled with ⟨column, t⟩ | ⟨column, -⟩
  · exact (column.ungrouped.append_divider (by decide)).toUngrouped
  · exact (column.ungrouped.append_divider (by decide)).toUngrouped

theorem Condition.ungrouped {t : Text} (text : Ungrouped t) {filters : Filters}
    {comparisons : List Comparison} (compared : List.Forall₂ Comparison.Of filters comparisons) :
    Ungrouped (t ++ (Condition.ofComparisons comparisons).text) := by
  cases comparisons with
  | nil => rwa [show (Condition.ofComparisons []).text = [] from rfl, List.append_nil]
  | cons c rest =>
    have joined : Ungrouped (Text.join " AND " ((c :: rest).map (·.text))) := by
      refine ungrouped_join (by decide) (List.forall_mem_map.mpr fun comparison member => ?_)
      obtain ⟨filter, -, compiled⟩ := exists_of_forall₂ compared member
      exact compiled.ungrouped
    have whole := (text.append_divider (by decide : isDivider " WHERE ".toList = true)).append joined
    rwa [List.append_assoc] at whole

theorem ungrouped_limit {t limit : Text} (text : Ungrouped t) {n : Option Int}
    (written : limitText n = .ok limit) : Ungrouped (t ++ limit) := by
  cases n with
  | none =>
    cases written
    rwa [List.append_nil]
  | some n =>
    obtain ⟨digits, shown, rfl⟩ := map_eq_ok.mp written
    have number : Ungrouped digits := by
      rw [number_eq_ok shown]
      exact ungrouped_of_over (Text.over_ofInt n) (by decide)
    have whole := (text.append_divider (by decide : isDivider " LIMIT ".toList = true)).append number
    rwa [List.append_assoc] at whole

end Parts

/-- The text of an aggregation has a grouping clause exactly when the request groups by something; no
    list and an empty list are the same. -/
theorem grouping_infix_iff {table : Name} {r : AggregationRequest} {q : Query}
    (compiled : aggregation table.text r = .ok q) :
    (" GROUP BY " : Text) <:+: q.sql ↔ r.groupBy.getD [] ≠ [] := by
  obtain ⟨s, parts, rfl⟩ := aggregation_eq_ok.mp compiled
  rw [← parts.groups]
  constructor
  · intro inside empty
    have columns : Ungrouped (commaList (s.columns.map (·.text))) := by
      refine ungrouped_join (by decide) (List.forall_mem_map.mpr fun column _ => ?_)
      exact column.ungrouped_text
    have selected := ((parted_phrase (by decide : isDivider "SELECT ".toList = true)).append
      columns).append_divider (by decide : isDivider " FROM ".toList = true)
    have filtered := Condition.ungrouped (selected.append table.ungrouped) parts.comparisons
    have whole := ungrouped_limit filtered parts.limit
    have gap : ([.scalar 'P', .scalar ' ', .scalar 'B'] : Text) <:+: (" GROUP BY " : Text) :=
      ⟨Text.ofChars " GROU".toList, Text.ofChars "Y ".toList, rfl⟩
    refine whole.clear (gap.trans ?_)
    simpa [Selection.query, groupingText, empty] using inside
  · intro groups
    have grouped : groupingText (s.groups.map (·.text)) =
        (" GROUP BY " : Text) ++ commaList (s.groups.map (·.text)) := by
      unfold groupingText
      rw [if_neg (by simpa [List.isEmpty_iff] using groups)]
    rw [Selection.query, grouped]
    exact ⟨("SELECT " : Text) ++ commaList (s.groups.map (·.text) ++ s.columns.map (·.text)) ++
        " FROM " ++ table.text ++ (Condition.ofComparisons s.comparisons).text,
      commaList (s.groups.map (·.text)) ++ s.limit, by simp only [List.append_assoc]⟩

end Sql

end QueryDesk
