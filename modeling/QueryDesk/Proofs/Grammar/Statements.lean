import QueryDesk.Grammar.Token

namespace QueryDesk

namespace Token

variable {tokens others : List Token}

def Idle (tokens : List Token) : Prop := ∀ t ∈ tokens, t = separator ∨ t = gap

theorem statements_append_separator (tokens others : List Token) :
    statements (tokens ++ separator :: others) = statements tokens ++ statements others := by
  have parts : (tokens ++ separator :: others).splitOn separator =
      tokens.splitOn separator ++ others.splitOn separator :=
    List.splitOnP_append_cons tokens others (beq_self_eq_true separator)
  rw [statements, parts, List.map_append, List.filter_append]
  rfl

theorem statements_of_unparted (unparted : separator ∉ tokens) :
    statements tokens = [joined none tokens].filter (!·.isEmpty) := by
  have single : tokens.splitOn separator = [tokens] := by
    refine List.splitOnP_eq_singleton fun t member => beq_false_of_ne ?_
    rintro rfl
    exact unparted member
  rw [statements, single, List.map_singleton]

theorem parted_induction {motive : List Token → Prop} (tokens : List Token)
    (whole : ∀ tokens, separator ∉ tokens → motive tokens)
    (parted : ∀ first later, motive first → motive later → motive (first ++ separator :: later)) :
    motive tokens := by
  generalize size : tokens.length = n
  induction n using Nat.strongRecOn generalizing tokens with
  | ind n ih =>
    by_cases inside : separator ∈ tokens
    · obtain ⟨first, later, rfl⟩ := List.append_of_mem inside
      rw [List.length_append, List.length_cons] at size
      exact parted first later (ih _ (by omega) _ rfl) (ih _ (by omega) _ rfl)
    · exact whole tokens inside

theorem joined_name {previous : Option Token} {letters : String} {rest : List Token}
    (single : ∀ second later, rest ≠ name second :: later) :
    joined previous (name letters :: rest) =
      ofWord previous letters :: joined (some (name letters)) rest := by
  rw [joined]
  exact single

theorem joined_append_gap (previous : Option Token) (tokens : List Token) :
    joined previous (tokens ++ [gap]) = joined previous tokens := by
  fun_induction joined previous tokens with
  | case1 previous => rfl
  | case2 previous rest ih => exact ih
  | case3 previous first second rest letters pair ih =>
    simp only [List.cons_append, joined, pair, ih]
  | case4 previous first second rest pair ih =>
    rw [List.cons_append] at ih
    simp only [List.cons_append, joined, pair, ih]
  | case5 previous letters rest single ih =>
    have still : ∀ second later, rest ++ [gap] ≠ name second :: later := by
      intro second later same
      cases rest with
      | nil => cases same
      | cons t rest => exact single second rest (by rw [(List.cons.inj same).1])
    rw [List.cons_append, joined_name still, ih]
  | case6 previous t rest full _ other ih =>
    rw [List.cons_append, joined, ih]
    · exact full
    · exact fun first _ _ same => (other first same).elim
    · exact other

theorem joined_ne_nil {previous : Option Token} (full : ∃ t ∈ tokens, t ≠ gap) :
    joined previous tokens ≠ [] := by
  fun_induction joined previous tokens with
  | case1 previous => simp at full
  | case2 previous rest ih =>
    obtain ⟨t, member, solid⟩ := full
    rcases List.mem_cons.mp member with same | later
    · exact absurd same solid
    · exact ih ⟨t, later, solid⟩
  | _ => exact List.cons_ne_nil _ _

theorem statements_append_gap (tokens : List Token) :
    statements (tokens ++ [gap]) = statements tokens := by
  induction tokens using parted_induction with
  | whole tokens unparted =>
    have still : separator ∉ tokens ++ [gap] := by
      rw [List.mem_append, List.mem_singleton]
      rintro (inside | same)
      · exact unparted inside
      · cases same
    rw [statements_of_unparted still, statements_of_unparted unparted, joined_append_gap]
  | parted first later _ ih =>
    rw [List.append_assoc, List.cons_append, statements_append_separator,
      statements_append_separator, ih]

theorem statements_append_idle (idle : Idle others) :
    statements (tokens ++ others) = statements tokens := by
  induction others generalizing tokens with
  | nil => rw [List.append_nil]
  | cons t rest ih =>
    obtain ⟨first, later⟩ := List.forall_mem_cons.mp idle
    rcases first with rfl | rfl
    · have none_later : statements rest = [] := @ih [] later
      rw [statements_append_separator, none_later, List.append_nil]
    · rw [List.append_cons, ih later, statements_append_gap]

theorem statements_ne_nil (full : ∃ t ∈ tokens, t ≠ separator ∧ t ≠ gap) :
    statements tokens ≠ [] := by
  induction tokens using parted_induction with
  | whole tokens unparted =>
    obtain ⟨t, member, -, solid⟩ := full
    have words : (joined none tokens).isEmpty = false :=
      List.isEmpty_eq_false_iff.mpr (joined_ne_nil ⟨t, member, solid⟩)
    simp [statements_of_unparted unparted, words]
  | parted first later ih ih' =>
    rw [statements_append_separator]
    obtain ⟨t, member, other, solid⟩ := full
    rcases List.mem_append.mp member with inside | inside
    · exact List.append_ne_nil_of_left_ne_nil (ih ⟨t, inside, other, solid⟩) _
    · rcases List.mem_cons.mp inside with same | inside
      · exact absurd same other
      · exact List.append_ne_nil_of_right_ne_nil _ (ih' ⟨t, inside, other, solid⟩)

end Token

end QueryDesk
