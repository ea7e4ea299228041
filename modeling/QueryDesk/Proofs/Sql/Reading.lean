import QueryDesk.Proofs.Sql.Compiled
import QueryDesk.Proofs.Sql.Name

namespace QueryDesk

namespace Sql

section Reading

variable {r s : Text}

theorem Name.append_cancel {n m : Name} (after : Text.Leaves isNameText r)
    (last : Text.Leaves isNameText s) (same : n.text ++ r = m.text ++ s) : n = m ∧ r = s := by
  obtain ⟨spelled, rest⟩ := Text.append_cancel n.over_text m.over_text after last same
  cases n
  cases m
  cases spelled
  exact ⟨rfl, rest⟩

namespace Aggregate

def word : Aggregate → Text
  | sum => "SUM"
  | avg => "AVG"
  | count => "COUNT"
  | min => "MIN"
  | max => "MAX"
  | distinctCount => "COUNT"

def modifier : Aggregate → Text
  | distinctCount => "DISTINCT "
  | _ => []

theorem apply_eq (a : Aggregate) (column : Name) :
    a.apply column = a.word ++ .scalar '(' :: (a.modifier ++ (column.text ++ [.scalar ')'])) := by
  cases a <;> rfl

theorem over_word (a : Aggregate) : Text.Over isNameText a.word := by
  cases a <;> exact Text.over_ofString (by decide)

theorem eq_of_word_eq {a b : Aggregate} (same : a.word = b.word) :
    a = b ∨ a = count ∧ b = distinctCount ∨ a = distinctCount ∧ b = count := by
  revert same
  cases a <;> cases b <;> decide

theorem distinct_ne {n m : Name} :
    n.text ++ .scalar ')' :: r ≠ ("DISTINCT " : Text) ++ (m.text ++ .scalar ')' :: s) := by
  intro same
  have split : ("DISTINCT " : Text) = ("DISTINCT" : Text) ++ [.scalar ' '] := by decide
  rw [split, List.append_assoc] at same
  have rest := (Text.append_cancel n.over_text (Text.over_ofString (by decide))
    (Text.leaves_cons (by decide)) (Text.leaves_cons (by decide)) same).2
  exact absurd (List.cons.inj rest).1 (by decide)

theorem apply_append_cancel {a b : Aggregate} {n m : Name}
    (same : a.apply n ++ r = b.apply m ++ s) : a = b ∧ n = m ∧ r = s := by
  have bracket (t : Text) : Text.Leaves isNameText (.scalar '(' :: t) :=
    Text.leaves_cons (by decide)
  have ending (t : Text) : Text.Leaves isNameText (.scalar ')' :: t) :=
    Text.leaves_cons (by decide)
  simp only [apply_eq, List.append_assoc, List.cons_append, List.nil_append] at same
  obtain ⟨words, rest⟩ := Text.append_cancel a.over_word b.over_word (bracket _) (bracket _) same
  have inner := (List.cons.inj rest).2
  rcases eq_of_word_eq words with rfl | ⟨rfl, rfl⟩ | ⟨rfl, rfl⟩
  · obtain ⟨named, rest⟩ := Name.append_cancel (ending _) (ending _) (List.append_cancel_left inner)
    exact ⟨rfl, named, (List.cons.inj rest).2⟩
  · exact absurd inner distinct_ne
  · exact absurd inner.symm distinct_ne

end Aggregate

theorem Column.append_cancel {c d : Column} (after : Text.Leaves isNameText r)
    (last : Text.Leaves isNameText s) (same : c.text ++ r = d.text ++ s) : c = d ∧ r = s := by
  simp only [text, List.append_assoc] at same
  obtain ⟨aggregates, fields, named⟩ := Aggregate.apply_append_cancel same
  obtain ⟨aliases, rest⟩ := Name.append_cancel after last (List.append_cancel_left named)
  refine ⟨?_, rest⟩
  cases c
  cases d
  rw [mk.injEq]
  exact ⟨aggregates, fields, aliases⟩

abbrev Item := Name ⊕ Column

def Item.text : Item → Text := Sum.elim Name.text Column.text

def Item.Follows (t : Text) : Prop := Text.Leaves isNameText t ∧ t.head? ≠ some (.scalar '(')

theorem Item.name_ne_column {n : Name} {c : Column} (after : Item.Follows r) :
    n.text ++ r ≠ c.text ++ s := by
  intro same
  simp only [Column.text, Aggregate.apply_eq, List.append_assoc, List.cons_append] at same
  have rest := (Text.append_cancel n.over_text c.aggregate.over_word after.1
    (Text.leaves_cons (by decide)) same).2
  exact after.2 (congrArg List.head? rest)

theorem Item.append_cancel {i j : Item} (after : Item.Follows r) (last : Item.Follows s)
    (same : i.text ++ r = j.text ++ s) : i = j ∧ r = s := by
  cases i with
  | inl n =>
    cases j with
    | inl m =>
      obtain ⟨rfl, rest⟩ := Name.append_cancel after.1 last.1 same
      exact ⟨rfl, rest⟩
    | inr d => exact absurd same (name_ne_column after)
  | inr c =>
    cases j with
    | inl m => exact absurd same.symm (name_ne_column last)
    | inr d =>
      obtain ⟨rfl, rest⟩ := Column.append_cancel after.1 last.1 same
      exact ⟨rfl, rest⟩

theorem Comparison.Of.exists_text {filter : Text × Datum} {c : Comparison}
    (compiled : Of filter c) :
    ∃ column : Name, c.text = column.text ++ " LIKE ?" ∨ c.text = column.text ++ " = ?" := by
  rcases compiled with ⟨column, _⟩ | ⟨column, _⟩
  · exact ⟨column, .inl rfl⟩
  · exact ⟨column, .inr rfl⟩

theorem Comparison.Of.append_cancel {filter other : Text × Datum} {c d : Comparison}
    (first : Of filter c) (second : Of other d) (same : c.text ++ r = d.text ++ s) :
    c.text = d.text ∧ r = s := by
  have like (t : Text) : Text.Leaves isNameText (Text.ofString " LIKE ?" ++ t) :=
    Text.leaves_cons (p := .scalar ' ') (by decide)
  have equal (t : Text) : Text.Leaves isNameText (Text.ofString " = ?" ++ t) :=
    Text.leaves_cons (p := .scalar ' ') (by decide)
  have apart (t u : Text) : Text.ofString " LIKE ?" ++ t ≠ Text.ofString " = ?" ++ u :=
    fun same => absurd (List.cons.inj (List.cons.inj same).2).1 (by decide)
  obtain ⟨column, spelled⟩ := first.exists_text
  obtain ⟨column', spelled'⟩ := second.exists_text
  rcases spelled with spelled | spelled <;> rcases spelled' with spelled' | spelled' <;>
    rw [spelled, spelled', List.append_assoc, List.append_assoc] at same
  · obtain ⟨rfl, rest⟩ := Name.append_cancel (like r) (like s) same
    exact ⟨spelled.trans spelled'.symm, List.append_cancel_left rest⟩
  · exact absurd (Name.append_cancel (like r) (equal s) same).2 (apart r s)
  · exact absurd (Name.append_cancel (equal r) (like s) same).2.symm (apart s r)
  · obtain ⟨rfl, rest⟩ := Name.append_cancel (equal r) (equal s) same
    exact ⟨spelled.trans spelled'.symm, List.append_cancel_left rest⟩

end Reading

def Trails (t : Text) : Prop :=
  ∀ p u, t = .scalar ' ' :: p :: u → p = .scalar 'G' ∨ p = .scalar 'L'

theorem limitText_injective {limit other : Option Int} {t : Text}
    (first : limitText limit = .ok t) (second : limitText other = .ok t) : limit = other := by
  have written {n : Int} {u : Text} (limited : limitText (some n) = .ok u) :
      u = (" LIMIT " : Text) ++ Text.ofInt n := by
    obtain ⟨digits, number, rfl⟩ := map_eq_ok.mp limited
    rw [number_eq_ok number]
  cases limit with
  | none =>
    cases other with
    | none => rfl
    | some m =>
      exact absurd ((Except.ok.inj first).trans (written second)) (List.cons_ne_nil _ _).symm
  | some n =>
    cases other with
    | none =>
      exact absurd ((Except.ok.inj second).trans (written first)) (List.cons_ne_nil _ _).symm
    | some m =>
      have digits := (written first).symm.trans (written second)
      rw [Text.ofInt_injective (List.append_cancel_left digits)]

theorem trails_limitText {limit : Option Int} {t : Text} (limited : limitText limit = .ok t) :
    Trails t := by
  cases limit with
  | none =>
    cases limited
    intro p u same
    cases same
  | some n =>
    obtain ⟨digits, _, rfl⟩ := map_eq_ok.mp limited
    intro p u same
    exact .inr (List.cons.inj (List.cons.inj same).2).1.symm

theorem trails_groupingText (groups : List Text) {t : Text} (trails : Trails t) :
    Trails (groupingText groups ++ t) := by
  unfold groupingText
  split
  · exact trails
  · intro p u same
    exact .inl (List.cons.inj (List.cons.inj same).2).1.symm

theorem Trails.not_prefix {t : Text} (trails : Trails t) : ¬ Text.ofString " AND " <+: t := by
  rintro ⟨u, rfl⟩
  rcases trails (.scalar 'A') _ rfl with same | same <;> exact absurd same (by decide)

theorem Trails.ne_where {t u : Text} (trails : Trails t) : t ≠ Text.ofString " WHERE " ++ u := by
  rintro rfl
  rcases trails (.scalar 'W') _ rfl with same | same <;> exact absurd same (by decide)

theorem Condition.append_cancel {filters others : Filters} {cs ds : List Comparison} {r s : Text}
    (first : List.Forall₂ Comparison.Of filters cs) (second : List.Forall₂ Comparison.Of others ds)
    (after : Trails r) (last : Trails s)
    (same : (ofComparisons cs).text ++ r = (ofComparisons ds).text ++ s) :
    List.Forall₂ (fun c d => c.text = d.text) cs ds ∧ r = s := by
  have compiled {filters : Filters} {cs : List Comparison}
      (all : List.Forall₂ Comparison.Of filters cs) :
      ∀ c ∈ cs, ∃ filter, Comparison.Of filter c := by
    induction all with
    | nil => simp
    | cons first _ ih => exact List.forall_mem_cons.mpr ⟨⟨_, first⟩, ih⟩
  have begins (c : Comparison) (cs : List Comparison) (t : Text) :
      (ofComparisons (c :: cs)).text ++ t =
        (" WHERE " : Text) ++ (Text.join " AND " ((c :: cs).map (·.text)) ++ t) :=
    List.append_assoc _ _ _
  cases cs with
  | nil =>
    cases ds with
    | nil => exact ⟨.nil, same⟩
    | cons d ds =>
      rw [begins] at same
      exact absurd same after.ne_where
  | cons c cs =>
    cases ds with
    | nil =>
      rw [begins] at same
      exact absurd same.symm last.ne_where
    | cons d ds =>
      rw [begins, begins] at same
      refine @Text.join_cancel _ _ (fun _ => True) _ _ _ _ _ _
        ⟨List.cons_ne_nil _ _, List.cons_ne_nil _ _⟩ ?_ (fun _ => trivial)
        ⟨trivial, after.not_prefix⟩ ⟨trivial, last.not_prefix⟩ (List.append_cancel_left same)
      intro a here b there r s _ _ same
      obtain ⟨_, ofFirst⟩ := compiled first a here
      obtain ⟨_, ofSecond⟩ := compiled second b there
      exact ofFirst.append_cancel ofSecond same

namespace Selection

def items (s : Selection) : List Item := s.groups.map .inl ++ s.columns.map .inr

theorem texts_items (s : Selection) :
    s.items.map Item.text = s.groups.map (·.text) ++ s.columns.map (·.text) := by
  simp [items, Item.text, Function.comp_def]

def rest (s : Selection) : Text :=
  (Condition.ofComparisons s.comparisons).text ++ (groupingText (s.groups.map (·.text)) ++ s.limit)

theorem sql_eq (s : Selection) (table : Text) :
    (s.query table).sql = ("SELECT " : Text) ++
      (Text.join ", " (s.items.map Item.text) ++ ((" FROM " : Text) ++ (table ++ s.rest))) := by
  simp only [query, rest, texts_items, commaList, List.append_assoc]

theorem items_injective {s t : Selection} (same : s.items = t.items) :
    s.groups = t.groups ∧ s.columns = t.columns := by
  have names := congrArg (List.filterMap Sum.getLeft?) same
  have columns := congrArg (List.filterMap Sum.getRight?) same
  simp only [items, List.filterMap_append, List.filterMap_map, Function.comp_def] at names columns
  exact ⟨by simpa using names, by simpa using columns⟩

theorem Of.sql_injective {r other : AggregationRequest} {s t : Selection} {table : Text}
    (first : s.Of r) (second : t.Of other) (same : (s.query table).sql = (t.query table).sql) :
    s.groups = t.groups ∧ s.columns = t.columns ∧
      List.Forall₂ (fun c d => c.text = d.text) s.comparisons t.comparisons ∧
      s.limit = t.limit := by
  have nonempty {r : AggregationRequest} {s : Selection} (parts : s.Of r) : s.items ≠ [] := by
    intro empty
    have none : s.columns = [] := List.map_eq_nil_iff.mp (List.append_eq_nil_iff.mp empty).2
    have columns := parts.columns
    rw [none, List.forall₂_nil_right_iff] at columns
    exact parts.operations columns
  have comma (t : Text) : Item.Follows (Text.ofString ", " ++ t) :=
    ⟨Text.leaves_cons (p := .scalar ',') (by decide), fun same => by cases same⟩
  have ends (t : Text) : Item.Follows (Text.ofString " FROM " ++ t) ∧
      ¬ Text.ofString ", " <+: Text.ofString " FROM " ++ t := by
    refine ⟨⟨Text.leaves_cons (p := .scalar ' ') (by decide), fun same => by cases same⟩, ?_⟩
    rintro ⟨u, same⟩
    exact absurd (List.cons.inj same).1 (by decide)
  have readable : ∀ i ∈ s.items, ∀ j ∈ t.items, ∀ r s, Item.Follows r → Item.Follows s →
      i.text ++ r = j.text ++ s → i = j ∧ r = s :=
    fun _ _ _ _ _ _ after last same => Item.append_cancel after last same
  rw [sql_eq, sql_eq] at same
  obtain ⟨selected, rest⟩ := Text.join_cancel ⟨nonempty first, nonempty second⟩ readable comma
    (ends _) (ends _) (List.append_cancel_left same)
  obtain ⟨groups, columns⟩ := items_injective (List.forall₂_eq_eq_eq ▸ selected)
  have tail := List.append_cancel_left (List.append_cancel_left rest)
  have trails := trails_groupingText (s.groups.map (·.text)) (trails_limitText first.limit)
  have trails' := trails_groupingText (t.groups.map (·.text)) (trails_limitText second.limit)
  obtain ⟨comparisons, ending⟩ :=
    Condition.append_cancel first.comparisons second.comparisons trails trails' tail
  rw [groups] at ending
  exact ⟨groups, columns, comparisons, List.append_cancel_left ending⟩

end Selection

theorem Aggregate.name_of_ofName? {t : Text} {a : Aggregate}
    (known : Aggregate.ofName? t = some a) : a.name = t := by
  simpa using List.find?_some known

theorem operations_of_columns {ops others : List Operation} {columns : List Column}
    (first : List.Forall₂ Column.Of ops columns) (second : List.Forall₂ Column.Of others columns) :
    ops.map (fun op => (op.aggregate, op.field, op.effectiveAlias)) =
      others.map (fun op => (op.aggregate, op.field, op.effectiveAlias)) := by
  have told {ops : List Operation} {columns : List Column}
      (all : List.Forall₂ Column.Of ops columns) :
      ops.map (fun op => (op.aggregate, op.field, op.effectiveAlias)) =
        columns.map fun c => (c.aggregate.name, c.field.text, c.aliased.text) := by
    induction all with
    | nil => rfl
    | cons compiled _ ih =>
      obtain ⟨known, field, aliased⟩ := compiled
      rw [List.map_cons, List.map_cons, ih, Aggregate.name_of_ofName? known, field, aliased]
  rw [told first, told second]

theorem Comparison.Of.filter_alike {filter other : Text × Datum} {c d : Comparison}
    (first : Of filter c) (second : Of other d) (texts : c.text = d.text)
    (params : c.param.Alike d.param) : filter.1 = other.1 ∧ filter.2.Alike other.2 := by
  have between {t u : Text} (alike : (Datum.text t).Alike (.text u)) : t = u := by
    cases alike
    rfl
  rcases first with ⟨column, t⟩ | ⟨column, number⟩
  · rcases second with ⟨column', u⟩ | ⟨column', number'⟩
    · have same := List.append_cancel_left (List.append_cancel_right (between params))
      exact ⟨List.append_cancel_right texts, same ▸ .text t⟩
    · cases number' <;> cases params
  · rcases second with ⟨column', u⟩ | ⟨column', number'⟩
    · cases number <;> cases params
    · exact ⟨List.append_cancel_right texts, params⟩

theorem filters_of_comparisons {filters others : Filters} {cs ds : List Comparison}
    (first : List.Forall₂ Comparison.Of filters cs) (second : List.Forall₂ Comparison.Of others ds)
    (texts : List.Forall₂ (fun c d => c.text = d.text) cs ds)
    (params : List.Forall₂ Datum.Alike (cs.map (·.param)) (ds.map (·.param))) :
    List.Forall₂ (fun f g => f.1 = g.1 ∧ f.2.Alike g.2) filters others := by
  induction texts generalizing filters others with
  | nil =>
    rw [List.forall₂_nil_right_iff] at first second
    rw [first, second]
    exact .nil
  | cons same _ ih =>
    obtain ⟨f, filters, compiled, firsts, rfl⟩ := List.forall₂_cons_right_iff.mp first
    obtain ⟨g, others, compiled', seconds, rfl⟩ := List.forall₂_cons_right_iff.mp second
    obtain ⟨alike, rest⟩ := List.forall₂_cons.mp params
    exact .cons (compiled.filter_alike compiled' same alike) (ih firsts seconds rest)

end Sql

end QueryDesk
