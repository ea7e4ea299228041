import QueryDesk.Proofs.Sql.Inquiry

namespace QueryDesk

namespace Sql

inductive SameKind : Text × Datum → Text × Datum → Prop where
  | text (field t u : Text) : SameKind (field, .text t) (field, .text u)
  | number (field : Text) {d e : Datum} (first : d.IsNumber) (second : e.IsNumber) :
    SameKind (field, d) (field, e)

theorem Comparison.Of.sameKind {filter other : Text × Datum} {c : Comparison}
    (compiled : Of filter c) (alike : SameKind filter other) :
    ∃ d, Of other d ∧ d.text = c.text := by
  rcases compiled with ⟨column, t⟩ | ⟨column, number⟩
  · rcases alike with ⟨_, _, u⟩ | ⟨_, first, _⟩
    · exact ⟨.like column u, .like column u, rfl⟩
    · cases first
  · rcases alike with _ | ⟨_, _, second⟩
    · cases number
    · exact ⟨_, .equal column second, rfl⟩

theorem Condition.sameKind {filters others : Filters} {comparisons : List Comparison}
    (compared : List.Forall₂ Comparison.Of filters comparisons)
    (alike : List.Forall₂ SameKind filters others) :
    ∃ changed, List.Forall₂ Comparison.Of others changed ∧
      (ofComparisons changed).text = (ofComparisons comparisons).text := by
  have texts : ∃ changed, List.Forall₂ Comparison.Of others changed ∧
      changed.map (·.text) = comparisons.map (·.text) := by
    induction compared generalizing others with
    | nil =>
      cases alike
      exact ⟨[], .nil, rfl⟩
    | cons first _ ih =>
      obtain ⟨other, rest, kind, kinds, rfl⟩ := List.forall₂_cons_left_iff.mp alike
      obtain ⟨d, compiled, same⟩ := first.sameKind kind
      obtain ⟨changed, all, others⟩ := ih kinds
      exact ⟨d :: changed, .cons compiled all, by rw [List.map_cons, List.map_cons, same, others]⟩
  obtain ⟨changed, all, same⟩ := texts
  refine ⟨changed, all, ?_⟩
  cases changed with
  | nil =>
    rw [List.map_eq_nil_iff.mp same.symm]
  | cons d changed =>
    cases comparisons with
    | nil => cases same
    | cons c comparisons => simp only [ofComparisons, same]

/-- Requests that differ in nothing but the values of filters, kind by kind, or a threshold. -/
inductive Inquiry.Alike : Inquiry → Inquiry → Prop where
  | refl (inquiry : Inquiry) : Alike inquiry inquiry
  | aggregation (r : AggregationRequest) {filters : Option Filters}
    (kinds : List.Forall₂ SameKind (r.filters.getD []) (filters.getD [])) :
    Alike (.aggregation r) (.aggregation { r with filters })
  | preview (r : PreviewRequest) (limit : Int) {filters : Option Filters}
    (kinds : List.Forall₂ SameKind (r.filters.getD []) (filters.getD [])) :
    Alike (.preview r limit) (.preview { r with filters } limit)
  | outliers (r : OutlierRequest) (threshold : Option Binary64) :
    Alike (.outliers r) (.outliers { r with threshold })

section Alike

variable {table : Text} {q : Query}

theorem aggregation_alike {r : AggregationRequest} {filters : Option Filters}
    (kinds : List.Forall₂ SameKind (r.filters.getD []) (filters.getD []))
    (compiled : aggregation table r = .ok q) :
    ∃ changed, aggregation table { r with filters } = .ok changed ∧ changed.sql = q.sql := by
  obtain ⟨s, parts, rfl⟩ := aggregation_eq_ok.mp compiled
  obtain ⟨comparisons, compared, same⟩ := Condition.sameKind parts.comparisons kinds
  have others : { s with comparisons }.Of { r with filters } :=
    ⟨parts.operations, parts.groups, parts.columns, compared, parts.limit⟩
  refine ⟨_, aggregation_eq_ok.mpr ⟨_, others, rfl⟩, ?_⟩
  simp only [Selection.query, same]

theorem preview_alike {r : PreviewRequest} {limit : Int} {filters : Option Filters}
    (kinds : List.Forall₂ SameKind (r.filters.getD []) (filters.getD []))
    (compiled : preview table r limit = .ok q) :
    ∃ changed, preview table { r with filters } limit = .ok changed ∧ changed.sql = q.sql := by
  obtain ⟨condition, filtered, compiled⟩ := bind_eq_ok.mp compiled
  obtain ⟨count, counted, compiled⟩ := bind_eq_ok.mp compiled
  obtain ⟨offset, skipped, written⟩ := bind_eq_ok.mp compiled
  obtain ⟨comparisons, compared, rfl⟩ := Condition.ofFilters_eq_ok.mp filtered
  obtain ⟨changed, others, same⟩ := Condition.sameKind compared kinds
  refine ⟨_, bind_eq_ok.mpr ⟨_, Condition.ofFilters_eq_ok.mpr ⟨changed, others, rfl⟩,
    bind_eq_ok.mpr ⟨count, counted, bind_eq_ok.mpr ⟨offset, skipped, rfl⟩⟩⟩, ?_⟩
  rw [← Except.ok.inj written]
  simp only [same]

theorem outliers_alike {r : OutlierRequest} (threshold : Option Binary64)
    (compiled : outliers table r = .ok q) :
    ∃ changed, outliers table { r with threshold } = .ok changed ∧ changed.sql = q.sql := by
  obtain ⟨c, named, compiled⟩ := bind_eq_ok.mp compiled
  cases method : OutlierMethod.ofName? r.method with
  | none => rw [method] at compiled; cases compiled
  | some m =>
    rw [method] at compiled
    cases m with
    | interquartile =>
      rw [← Except.ok.inj compiled]
      refine ⟨_, bind_eq_ok.mpr ⟨c, named, ?_⟩, rfl⟩
      rw [method]
    | standardScore =>
      rw [← Except.ok.inj compiled]
      refine ⟨standardScoreOutliers table c.text (threshold.getD defaultThreshold),
        bind_eq_ok.mpr ⟨c, named, ?_⟩, rfl⟩
      rw [method]

theorem Inquiry.texts_alike {inquiry other : Inquiry} {queries : List Query}
    (alike : inquiry.Alike other) (compiled : inquiry.queries table = .ok queries) :
    ∃ changed, other.queries table = .ok changed ∧ changed.map (·.sql) = queries.map (·.sql) := by
  rcases alike with _ | ⟨r, kinds⟩ | ⟨r, limit, kinds⟩ | ⟨r, threshold⟩
  · exact ⟨queries, compiled, rfl⟩
  all_goals obtain ⟨q, written, rfl⟩ := map_eq_ok.mp compiled
  · obtain ⟨changed, others, same⟩ := aggregation_alike kinds written
    exact ⟨[changed], map_eq_ok.mpr ⟨changed, others, rfl⟩, congrArg (fun t => [t]) same⟩
  · obtain ⟨changed, others, same⟩ := preview_alike kinds written
    exact ⟨[changed], map_eq_ok.mpr ⟨changed, others, rfl⟩, congrArg (fun t => [t]) same⟩
  · obtain ⟨changed, others, same⟩ := outliers_alike threshold written
    exact ⟨[changed], map_eq_ok.mpr ⟨changed, others, rfl⟩, congrArg (fun t => [t]) same⟩

end Alike

/-- A statement that neither ends, nor comments, nor quotes anything but allowed texts. -/
structure Query.Sealed (Allowed : Text → Prop) (q : Query) : Prop where
  points : Point.scalar ';' ∉ q.sql ∧ Point.scalar '"' ∉ q.sql ∧ Point.scalar '$' ∉ q.sql
  comments : ¬ ([.scalar '-', .scalar '-'] : Text) <:+: q.sql ∧
    ¬ ([.scalar '/', .scalar '*'] : Text) <:+: q.sql
  quotes : QuotesOnly Allowed q.sql

/-- A statement whose question marks are exactly the given markers, in their order. -/
structure Query.Bound (markers : List Marker) (q : Query) : Prop where
  counted : q.sql.count (.scalar '?') = q.params.length
  placed : ∃ before after, q.sql = before ++ Marker.text markers ++ after ∧
    Point.scalar '?' ∉ before ∧ Point.scalar '?' ∉ after ∧
    ∀ m ∈ markers, Point.scalar '?' ∉ m.lead
  params : q.params = markers.map (·.param)

section Sealed

variable {Allowed : Text → Prop} {markers : List Marker} {q : Query}

theorem Marker.neat_text (neat : ∀ m ∈ markers, Neat isUnmarked Allowed m.lead) :
    Neat isStatementChar Allowed (text markers) := by
  induction markers with
  | nil => exact .nil
  | cons m rest ih =>
    obtain ⟨first, others⟩ := List.forall_mem_cons.mp neat
    have mark : Neat isStatementChar Allowed [.scalar '?'] :=
      ⟨Text.over_cons_iff.mpr ⟨rfl, Text.over_nil⟩, rfl, .cons (by decide) .nil⟩
    have lead : Neat isStatementChar Allowed m.lead :=
      first.mono fun _ inside => (Bool.and_eq_true_iff.mp inside).1
    exact (lead.append mark).append (ih others)

theorem Marker.count_text (neat : ∀ m ∈ markers, Neat isUnmarked Allowed m.lead) :
    (text markers).count (.scalar '?') = markers.length := by
  induction markers with
  | nil => rfl
  | cons m rest ih =>
    obtain ⟨first, others⟩ := List.forall_mem_cons.mp neat
    have lead := List.count_eq_zero_of_not_mem (first.points.not_mem (c := '?') (by decide))
    have more := ih others
    simp only [text] at more
    simp only [text, List.flatMap_cons, List.count_append, lead, more, List.length_cons]
    simp
    omega

theorem Query.Framed.neat_sql (framed : q.Framed Allowed markers) :
    Neat isStatementChar Allowed q.sql := by
  obtain ⟨before, after, first, last, leads, spelled, _⟩ := framed
  have wider (c : Char) (inside : isUnmarked c = true) : isStatementChar c = true :=
    (Bool.and_eq_true_iff.mp inside).1
  rw [spelled]
  exact ((first.mono wider).append (Marker.neat_text leads)).append (last.mono wider)

theorem Query.Framed.sealed (framed : q.Framed Allowed markers) : q.Sealed Allowed := by
  have neat := framed.neat_sql
  exact ⟨⟨neat.points.not_mem (by decide), neat.points.not_mem (by decide),
    neat.points.not_mem (by decide)⟩, not_infix_of_isTidy neat.tidy, neat.quotes⟩

theorem Query.Framed.bound (framed : q.Framed Allowed markers) : q.Bound markers := by
  obtain ⟨before, after, first, last, leads, spelled, params⟩ := framed
  have unmarked {t : Text} (neat : Neat isUnmarked Allowed t) : Point.scalar '?' ∉ t :=
    neat.points.not_mem (by decide)
  refine ⟨?_, ⟨before, after, spelled, unmarked first, unmarked last,
    fun m member => unmarked (leads m member)⟩, params⟩
  rw [spelled, params, List.count_append, List.count_append, Marker.count_text leads,
    List.count_eq_zero_of_not_mem (unmarked first), List.count_eq_zero_of_not_mem (unmarked last),
    List.length_map, Nat.zero_add, Nat.add_zero]

end Sealed

theorem Inquiry.framed {inquiry : Inquiry} {table : Name} {queries : List Query}
    (compiled : inquiry.queries table.text = .ok queries) :
    ∀ q ∈ queries, q.Framed inquiry.Quotes (inquiry.markers table.text) := by
  cases inquiry with
  | correlations names =>
    obtain ⟨pairs, paired, rfl⟩ := map_eq_ok.mp compiled
    obtain ⟨columns, _, same⟩ := bind_eq_ok.mp paired
    rw [← Except.ok.inj same]
    intro q member
    obtain ⟨_, inside, rfl⟩ := List.mem_map.mp member
    obtain ⟨first, _, inside⟩ := List.mem_flatMap.mp inside
    obtain ⟨second, _, rfl⟩ := List.mem_map.mp inside
    exact framed_correlation first second
  | rowCount =>
    rw [← Except.ok.inj compiled]
    exact List.forall_mem_singleton.mpr framed_rowCount
  | columns =>
    rw [← Except.ok.inj compiled]
    exact List.forall_mem_singleton.mpr framed_describe
  | tables =>
    rw [← Except.ok.inj compiled]
    exact List.forall_mem_singleton.mpr framed_listTables
  | aggregation r =>
    obtain ⟨q, written, rfl⟩ := map_eq_ok.mp compiled
    exact List.forall_mem_singleton.mpr (framed_aggregation written)
  | statistics column =>
    obtain ⟨q, written, rfl⟩ := map_eq_ok.mp compiled
    exact List.forall_mem_singleton.mpr (framed_statistics written)
  | timeSeries r =>
    obtain ⟨q, written, rfl⟩ := map_eq_ok.mp compiled
    exact List.forall_mem_singleton.mpr (framed_timeSeries written)
  | outliers r =>
    obtain ⟨q, written, rfl⟩ := map_eq_ok.mp compiled
    exact List.forall_mem_singleton.mpr (framed_outliers written)
  | movingAverage r =>
    obtain ⟨q, written, rfl⟩ := map_eq_ok.mp compiled
    exact List.forall_mem_singleton.mpr (framed_movingAverage written)
  | preview r limit =>
    obtain ⟨q, written, rfl⟩ := map_eq_ok.mp compiled
    exact List.forall_mem_singleton.mpr (framed_preview written)
  | profile column =>
    obtain ⟨q, written, rfl⟩ := map_eq_ok.mp compiled
    exact List.forall_mem_singleton.mpr (framed_nullProfile written)

/-- Whatever callers supply, requests that differ only in values compile to the same texts, no text
    holds an end, a comment or a quotation of its own, and its question marks are the markers of its
    parameters. -/
theorem Inquiry.injection_safe {inquiry : Inquiry} {table : Name} {queries : List Query}
    (compiled : inquiry.queries table.text = .ok queries) :
    (∀ other, inquiry.Alike other → ∃ changed, other.queries table.text = .ok changed ∧
      changed.map (·.sql) = queries.map (·.sql)) ∧
    ∀ q ∈ queries, q.Sealed inquiry.Quotes ∧ q.Bound (inquiry.markers table.text) := by
  refine ⟨fun other alike => texts_alike alike compiled, fun q member => ?_⟩
  have framed := Inquiry.framed compiled q member
  exact ⟨framed.sealed, framed.bound⟩

theorem Inquiry.injection_safe_hostile :
    let table : Name := ⟨"data_source_a", by decide⟩
    let hostile : Inquiry := .aggregation ⟨"a", [⟨"value", "sum", none⟩], none,
      some [("name", .text "x'; DROP TABLE t --")], none, none⟩
    ∃ q, hostile.queries table.text = .ok [q] ∧
      q.sql = "SELECT SUM(value) AS sum_value FROM data_source_a WHERE name LIKE ?" ∧
      q.Sealed hostile.Quotes ∧
      q.Bound [⟨" WHERE name LIKE ", .text "%x'; DROP TABLE t --%"⟩] := by
  intro table hostile
  have compiled : hostile.queries table.text = .ok
      [⟨"SELECT SUM(value) AS sum_value FROM data_source_a WHERE name LIKE ?",
        [.text "%x'; DROP TABLE t --%"]⟩] := rfl
  have safe := (injection_safe compiled).2 _ List.mem_cons_self
  exact ⟨_, compiled, rfl, safe.1, safe.2⟩

end Sql

end QueryDesk
