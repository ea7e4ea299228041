import QueryDesk.Proofs.Guard.Mention

namespace QueryDesk

/-- Two texts are the same up to the case of their letters of ASCII. -/
def Text.Recased (t u : Text) : Prop :=
  List.Forall₂ (fun p q =>
    p = q ∨ ∃ c d : Char, p = .scalar c ∧ q = .scalar d ∧ c.toLower = d.toLower) t u

namespace Guard

inductive Denied : Mode → List Char → Prop
  | drop (mode) : Denied mode ['d', 'r', 'o', 'p']
  | delete (mode) : Denied mode ['d', 'e', 'l', 'e', 't', 'e']
  | insert : Denied .readOnly ['i', 'n', 's', 'e', 'r', 't']
  | update : Denied .readOnly ['u', 'p', 'd', 'a', 't', 'e']

def Forbidden (mode : Mode) (t : Text) : Prop :=
  ∃ before part after word, t = before ++ part ++ after ∧ Denied mode word ∧ Spells word part

variable {mode : Mode} {word : List Char} {t u : Text}

theorem denied_iff : Denied mode word ↔ word ∈ forbiddenWords mode := by
  constructor
  · intro denied
    cases denied with
    | drop => cases mode <;> simp [forbiddenWords]
    | delete => cases mode <;> simp [forbiddenWords]
    | insert => simp [forbiddenWords]
    | update => simp [forbiddenWords]
  · intro listed
    cases mode with
    | general =>
      rcases List.mem_pair.mp listed with rfl | rfl
      · exact .drop _
      · exact .delete _
    | readOnly =>
      simp only [forbiddenWords, List.mem_cons, List.not_mem_nil, or_false] at listed
      rcases listed with rfl | rfl | rfl | rfl
      · exact .drop _
      · exact .delete _
      · exact .insert
      · exact .update

theorem Denied.readOnly (denied : Denied .general word) : Denied .readOnly word := by
  cases denied with
  | drop => exact .drop _
  | delete => exact .delete _

theorem forbidden_iff_mentions :
    Forbidden mode t ↔ ∃ word, Denied mode word ∧ Mentions word t := by
  constructor
  · rintro ⟨before, part, after, word, whole, denied, spells⟩
    exact ⟨word, denied, part, ⟨before, after, whole.symm⟩, spells⟩
  · rintro ⟨word, denied, part, ⟨before, after, whole⟩, spells⟩
    exact ⟨before, part, after, word, whole.symm, denied, spells⟩

theorem Forbidden.within (forbidden : Forbidden mode t) (before after : Text) :
    Forbidden mode (before ++ t ++ after) := by
  obtain ⟨front, part, back, word, rfl, denied, spells⟩ := forbidden
  exact ⟨before ++ front, part, back ++ after, word, by simp, denied, spells⟩

theorem Spells.recased {part other : Text} (spells : Spells word part)
    (recased : Text.Recased other part) : Spells word other := by
  induction spells generalizing other with
  | nil =>
    cases recased
    exact .nil
  | cons first _ ih =>
    cases recased with
    | cons same later =>
      refine .cons ?_ (ih later)
      obtain ⟨d, rfl, rfl⟩ := first
      rcases same with rfl | ⟨c, _, rfl, ⟨⟩, lower⟩
      · exact ⟨d, rfl, rfl⟩
      · exact ⟨c, rfl, lower⟩

theorem Forbidden.recased (forbidden : Forbidden mode t) (recased : Text.Recased u t) :
    Forbidden mode u := by
  obtain ⟨before, part, after, word, rfl, denied, spells⟩ := forbidden
  rw [List.append_assoc] at recased
  have later := List.forall₂_drop_append u before (part ++ after) recased
  have middle := List.forall₂_take_append (u.drop before.length) part after later
  refine ⟨u.take before.length, (u.drop before.length).take part.length,
    (u.drop before.length).drop part.length, word, ?_, denied, spells.recased middle⟩
  rw [List.append_assoc, List.take_append_drop, List.take_append_drop]

theorem forbidden_append_cons_iff {p : Point} (outside : 0x80 ≤ p.toNat) :
    Forbidden mode (t ++ p :: u) ↔ Forbidden mode t ∨ Forbidden mode u := by
  have apart : p.satisfies Char.isAlpha = false := by
    cases p with
    | surrogate n => rfl
    | scalar c =>
      have far : ¬ (c.isAlpha = true) := by
        rw [isAlpha_iff_toNat]
        have own : 0x80 ≤ c.toNat := outside
        omega
      exact Bool.eq_false_iff.mpr far
  have around : ∀ {word}, Denied mode word →
      (Mentions word (t ++ p :: u) ↔ Mentions word t ∨ Mentions word u) := by
    intro word denied
    obtain ⟨full, lower⟩ := lower_of_forbidden word (denied_iff.mp denied)
    have alone : ¬ Mentions word [p] := by
      rintro ⟨part, inside, spells⟩
      cases spells with
      | nil => exact full rfl
      | cons first later =>
        have letter := (Spells.over (.cons first later) lower) _ List.mem_cons_self
        rw [List.mem_singleton.mp (inside.subset List.mem_cons_self), apart] at letter
        cases letter
    have border : Text.Leaves Char.isAlpha ([p] : Text).reverse := Text.leaves_cons apart
    rw [mentions_append_iff lower (.inr (Text.leaves_cons apart)),
      show p :: u = [p] ++ u from rfl, mentions_append_iff lower (.inl border)]
    simp only [alone, false_or]
  simp only [forbidden_iff_mentions]
  constructor
  · rintro ⟨word, denied, mentions⟩
    rcases (around denied).mp mentions with first | last
    · exact .inl ⟨word, denied, first⟩
    · exact .inr ⟨word, denied, last⟩
  · rintro (⟨word, denied, mentions⟩ | ⟨word, denied, mentions⟩)
    · exact ⟨word, denied, (around denied).mpr (.inl mentions)⟩
    · exact ⟨word, denied, (around denied).mpr (.inr mentions)⟩

theorem Forbidden.not_blank (forbidden : Forbidden mode t) : ¬ Text.Over isBlankChar t := by
  obtain ⟨before, part, after, word, rfl, denied, spells⟩ := forbidden
  obtain ⟨full, lower⟩ := lower_of_forbidden word (denied_iff.mp denied)
  intro blank
  have letters := spells.over lower
  have blanks := (Text.over_append_iff.mp (Text.over_append_iff.mp blank).1).2
  cases spells with
  | nil => exact full rfl
  | cons first _ =>
    obtain ⟨c, rfl, -⟩ := first
    have letter : c.isAlpha = true := letters _ List.mem_cons_self
    have blank : isBlankChar c = true := blanks _ List.mem_cons_self
    rw [isAlpha_iff_toNat] at letter
    simp only [isBlankChar, isTrimmed, Bool.or_eq_true, Bool.and_eq_true, decide_eq_true_eq,
      beq_iff_eq] at blank
    omega

theorem isBlank_iff : t.isBlank = true ↔ Text.Over isBlankChar t := List.all_eq_true

open Classical in
theorem checkWords_eq_ite (mode : Mode) (t : Text) :
    checkWords mode t = if Forbidden mode t then .error (wordCause mode) else .ok () := by
  have found : (forbiddenWords mode).any (stands · t.lowered) = true ↔ Forbidden mode t := by
    rw [any_stands_iff, forbidden_iff_mentions]
    simp only [denied_iff, Mentions]
  exact if_congr found rfl rfl

inductive WordVerdict (mode : Mode) (t : Text) : Except Failure Unit → Prop
  | empty (blank : Text.Over isBlankChar t) :
    WordVerdict mode t (.error (.refused (.request .emptyStatement)))
  | forbidden (forbidden : Forbidden mode t) :
    WordVerdict mode t (.error (.refused (.forbidden (wordCause mode))))
  | accepted (full : ¬ Text.Over isBlankChar t) (clean : ¬ Forbidden mode t) :
    WordVerdict mode t (.ok ())

theorem wordVerdict_check (mode : Mode) (t : Text) : WordVerdict mode t (check .words mode t) := by
  unfold check
  by_cases blank : t.isBlank = true
  · rw [if_pos blank]
    exact .empty (isBlank_iff.mp blank)
  · rw [if_neg blank, checkWords_eq_ite]
    have full := isBlank_iff.not.mp blank
    dsimp only
    split
    · exact .forbidden ‹_›
    · exact .accepted full ‹_›

def denial (mode : Mode) : Except Failure Unit := .error (.refused (.forbidden (wordCause mode)))

theorem check_eq_empty_iff :
    check .words mode t = .error (.refused (.request .emptyStatement)) ↔
      Text.Over isBlankChar t := by
  constructor
  · intro same
    have verdict := wordVerdict_check mode t
    rw [same] at verdict
    cases verdict with
    | empty blank => exact blank
  · intro blank
    exact if_pos (isBlank_iff.mpr blank)

theorem check_eq_denial_iff : check .words mode t = denial mode ↔ Forbidden mode t := by
  have verdict := wordVerdict_check mode t
  constructor
  · intro same
    rw [same] at verdict
    cases verdict with
    | forbidden forbidden => exact forbidden
  · intro forbidden
    generalize check .words mode t = outcome at verdict ⊢
    cases verdict with
    | empty blank => exact absurd blank forbidden.not_blank
    | forbidden _ => rfl
    | accepted _ clean => exact absurd forbidden clean

theorem check_eq_ok_iff :
    check .words mode t = .ok () ↔ ¬ Text.Over isBlankChar t ∧ ¬ Forbidden mode t := by
  have verdict := wordVerdict_check mode t
  constructor
  · intro same
    rw [same] at verdict
    cases verdict with
    | accepted full clean => exact ⟨full, clean⟩
  · rintro ⟨full, clean⟩
    generalize check .words mode t = outcome at verdict ⊢
    cases verdict with
    | empty blank => exact absurd blank full
    | forbidden forbidden => exact absurd forbidden clean
    | accepted _ _ => rfl

/-- The default guard refuses a text as empty exactly if all of it is blank, and as forbidden exactly
    if some part of it is one of the words in letters of ASCII of either case, whatever stands around
    that part; all other texts it accepts. -/
theorem default_verdict (mode : Mode) (t : Text) :
    (check .words mode t = .error (.refused (.request .emptyStatement)) ↔
      Text.Over isBlankChar t) ∧
    (check .words mode t = denial mode ↔ ¬ Text.Over isBlankChar t ∧ Forbidden mode t) ∧
    (check .words mode t = .ok () ↔ ¬ Text.Over isBlankChar t ∧ ¬ Forbidden mode t) ∧
    (check .words mode t = denial mode → ∀ before u after, Text.Recased u t →
      check .words mode (before ++ u ++ after) = denial mode) ∧
    (check .words .readOnly t = .ok () → check .words .general t = .ok ()) ∧
    ∀ before p after, t = before ++ p :: after → 0x80 ≤ p.toNat →
      (check .words mode t = denial mode ↔
        check .words mode before = denial mode ∨ check .words mode after = denial mode) := by
  refine ⟨check_eq_empty_iff, ?_, check_eq_ok_iff, ?_, ?_, ?_⟩
  · rw [check_eq_denial_iff]
    exact ⟨fun forbidden => ⟨forbidden.not_blank, forbidden⟩, fun both => both.2⟩
  · intro denied before u after recased
    have forbidden := check_eq_denial_iff.mp denied
    exact check_eq_denial_iff.mpr ((forbidden.recased recased).within before after)
  · intro accepted
    obtain ⟨full, clean⟩ := check_eq_ok_iff.mp accepted
    refine check_eq_ok_iff.mpr ⟨full, fun forbidden => clean ?_⟩
    obtain ⟨before, part, after, word, whole, denied, spells⟩ := forbidden
    exact ⟨before, part, after, word, whole, denied.readOnly, spells⟩
  · rintro before p after rfl outside
    rw [check_eq_denial_iff, check_eq_denial_iff, check_eq_denial_iff]
    exact forbidden_append_cons_iff outside

theorem default_verdict_drop :
    check .words .general (("SELECT '" : Text) ++ "dRoP" ++ "'") = denial .general := by
  have spells : Spells ['d', 'r', 'o', 'p'] "DROP" :=
    .cons ⟨'D', rfl, rfl⟩ (.cons ⟨'R', rfl, rfl⟩ (.cons ⟨'O', rfl, rfl⟩ (.cons ⟨'P', rfl, rfl⟩ .nil)))
  have recased : Text.Recased "dRoP" "DROP" :=
    .cons (.inr ⟨'d', 'D', rfl, rfl, rfl⟩) (.cons (.inl rfl) (.cons (.inr ⟨'o', 'O', rfl, rfl, rfl⟩)
      (.cons (.inl rfl) .nil)))
  have denied : check .words .general "DROP" = denial .general :=
    check_eq_denial_iff.mpr ⟨[], "DROP", [], _, rfl, .drop _, spells⟩
  exact (default_verdict .general "DROP").2.2.2.1 denied "SELECT '" "dRoP" "'" recased

example : check .words .readOnly "\u0130NSERT INTO t VALUES (1)" = .ok () := by cbv

end Guard

end QueryDesk
