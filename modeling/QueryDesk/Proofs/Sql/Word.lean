import QueryDesk.Proofs.Guard.Counted
import QueryDesk.Proofs.Text.Utf8

namespace QueryDesk

namespace Sql

/-- ASCII letters, digits and underscores, of which there is at least one, and the first of which is no
    digit. -/
structure IsWord (t : Text) : Prop where
  nonempty : t ≠ []
  letters : Text.Over isNameChar t
  start : ∀ c, t.head? = some (.scalar c) → c.isDigit = false

def lineFeed : Point := .scalar '\n'

def Bears (w t : Text) : Prop := IsWord w ∧ (t = w ∨ t = w ++ [lineFeed])

theorem isNameStart_iff {c : Char} :
    isNameStart c = true ↔ isNameChar c = true ∧ c.isDigit = false := by
  have apart (alpha : c.isAlpha = true) : c.isDigit = false := by
    refine Bool.eq_false_iff.mpr fun digit => ?_
    have letter := Guard.isAlpha_iff_toNat.mp alpha
    have bounds : 48 ≤ c.toNat ∧ c.toNat ≤ 57 := Char.isDigit_iff_toNat.mp digit
    omega
  constructor
  · intro start
    refine ⟨isNameChar_of_isNameStart start, ?_⟩
    rcases Bool.or_eq_true_iff.mp start with alpha | underscore
    · exact apart alpha
    · rw [eq_of_beq underscore]
      decide
  · rintro ⟨letter, digit⟩
    simpa [isNameChar, isNameStart, Char.isAlphanum, digit] using letter

theorem isWord_iff {t : Text} : IsWord t ↔ ∃ c cs, t = .ofChars (c :: cs) ∧
    isNameStart c = true ∧ ∀ d ∈ cs, isNameChar d = true := by
  constructor
  · rintro ⟨nonempty, letters, start⟩
    obtain ⟨cs, rfl⟩ := Text.exists_ofChars letters.isScalar
    cases cs with
    | nil => exact absurd rfl nonempty
    | cons c cs =>
      obtain ⟨first, others⟩ := List.forall_mem_cons.mp (Text.over_ofChars_iff.mp letters)
      exact ⟨c, cs, rfl, isNameStart_iff.mpr ⟨first, start c rfl⟩, others⟩
  · rintro ⟨c, cs, rfl, first, others⟩
    obtain ⟨letter, digit⟩ := isNameStart_iff.mp first
    refine ⟨nofun, Text.over_ofChars_iff.mpr (List.forall_mem_cons.mpr ⟨letter, others⟩), ?_⟩
    rintro _ ⟨⟩
    exact digit

theorem IsWord.not_mem_lineFeed {w : Text} (word : IsWord w) : lineFeed ∉ w :=
  word.letters.not_mem (by decide)

theorem isName_iff {t : Text} : isName t = true ↔ ∃ w, Bears w t := by
  constructor
  · intro name
    cases t with
    | nil => cases name
    | cons p rest =>
      obtain ⟨first, others⟩ := Bool.and_eq_true_iff.mp name
      obtain ⟨cs, u, rfl, letters, ends⟩ := exists_letters others
      cases p with
      | surrogate n => cases first
      | scalar c =>
        refine ⟨.ofChars (c :: cs), isWord_iff.mpr ⟨c, cs, rfl, first, letters⟩, ?_⟩
        rcases ends with rfl | rfl
        · rw [List.append_nil]
          exact .inl rfl
        · exact .inr rfl
  · rintro ⟨w, word, same⟩
    obtain ⟨c, cs, rfl, first, others⟩ := isWord_iff.mp word
    have letters : Text.Over isNameChar (.ofChars cs) := Text.over_ofChars_iff.mpr others
    rcases same with rfl | rfl
    · have rest : isNameRest (.ofChars cs) = true := by
        rw [← List.append_nil (Text.ofChars cs), isNameRest_append letters]
        rfl
      exact Bool.and_eq_true_iff.mpr ⟨first, rest⟩
    · have rest : isNameRest (.ofChars cs ++ [lineFeed]) = true := by
        rw [isNameRest_append letters]
        rfl
      exact Bool.and_eq_true_iff.mpr ⟨first, rest⟩

theorem Name.exists_bears (name : Name) : ∃ w, Bears w name.text := isName_iff.mp name.valid

section Bears

variable {w t : Text} (bears : Bears w t)

include bears

theorem Bears.isName : isName t = true := isName_iff.mpr ⟨w, bears⟩

theorem Bears.mem_lineFeed_iff : lineFeed ∈ t ↔ t = w ++ [lineFeed] := by
  obtain ⟨word, rfl | rfl⟩ := bears
  · exact iff_of_false word.not_mem_lineFeed fun same => by simp at same
  · exact iff_of_true (by simp) rfl

theorem Bears.isWord_iff : IsWord t ↔ t = w := by
  constructor
  · intro word
    obtain ⟨_, rfl | rfl⟩ := bears
    · rfl
    · exact absurd (by simp) word.not_mem_lineFeed
  · rintro rfl
    exact bears.1

theorem Bears.isWord_iff_not_blank :
    IsWord t ↔ ∀ p ∈ t, p.satisfies isBlankChar = false := by
  constructor
  · intro word p member
    have letter := word.letters p member
    cases p with
    | surrogate n => cases letter
    | scalar c =>
      have letter : isNameChar c = true := letter
      have whole := Lexer.isLetter_of_isNameChar letter
      have apart := (Bool.and_eq_true_iff.mp whole).1
      exact Bool.not_eq_true' _ ▸ apart
  · intro none_blank
    rw [bears.isWord_iff]
    obtain ⟨_, rfl | rfl⟩ := bears
    · rfl
    · exact Bool.noConfusion (none_blank lineFeed (by simp))

end Bears

def ownToken (t : Text) : Token := .name (String.ofList (upperCased (t.charsOr '\uFFFD')))

section Read

variable {w t : Text}

theorem beginning_of_isNameStart {c : Char} (first : isNameStart c = true) (tokens : List Token) :
    Lexer.Mode.beginning tokens c = .word [c] := by
  have all : ∀ n < 128, isNameStart (Char.ofNat n) = true →
      (isBlankChar (Char.ofNat n) || isDigit (Char.ofNat n) || Char.ofNat n == '$') = false := by
    decide
  have letter := isNameChar_of_isNameStart first
  have own := all c.toNat (Lexer.toNat_lt_of_isNameChar letter)
  rw [Char.ofNat_toNat] at own
  obtain ⟨apart, dollar⟩ := Bool.or_eq_false_iff.mp (own first)
  obtain ⟨blank, digit⟩ := Bool.or_eq_false_iff.mp apart
  have word := Lexer.isLetter_of_isNameChar letter
  simp [Lexer.Mode.beginning, blank, digit, beq_eq_false_iff_ne.mp dollar, word]

theorem IsWord.tokens?_eq (word : IsWord w) : Lexer.tokens? w = some [ownToken w] := by
  obtain ⟨c, cs, rfl, first, others⟩ := isWord_iff.mp word
  have chars : (Text.ofChars (c :: cs)).charsOr '\uFFFD' = c :: cs := by
    rw [Text.charsOr, Text.ofChars, List.map_map]
    exact List.map_id _
  have begun : Lexer.Scan.start.step c = ⟨[], .word [c]⟩ := by
    show Lexer.Scan.next [] c = _
    rw [Lexer.Scan.next, beginning_of_isNameStart first]
  have letters : ∀ d ∈ cs, Lexer.isLetter d = true :=
    fun d member => Lexer.isLetter_of_isNameChar (others d member)
  rw [Lexer.tokens?_eq_finish, ownToken, chars, Lexer.Scan.scanFrom_cons, begun,
    Lexer.scanFrom_letters [] letters]
  simp [Lexer.Scan.finish, Lexer.Mode.tokens?, Lexer.wordToken]

theorem Bears.tokens?_eq (bears : Bears w t) : Lexer.tokens? t = some [ownToken w] := by
  obtain ⟨word, rfl | rfl⟩ := bears
  · exact word.tokens?_eq
  · rw [lineFeed, Lexer.tokens?_append_newline word.tokens?_eq]
    rfl

theorem Bears.tokens?_own_iff (bears : Bears w t) :
    Lexer.tokens? t = some [ownToken t] ↔ IsWord t := by
  rw [bears.isWord_iff, bears.tokens?_eq]
  obtain ⟨word, rfl | rfl⟩ := bears
  · exact iff_of_true rfl rfl
  · refine iff_of_false (fun same => ?_) (by simp)
    have chars : (w ++ [lineFeed]).charsOr '\uFFFD' = w.charsOr '\uFFFD' ++ ['\n'] :=
      Lexer.charsOr_append _ _ _
    have tokens : ownToken w = ownToken (w ++ [lineFeed]) := by simpa using same
    have spelled := String.ofList_injective (Token.name.inj tokens)
    rw [chars, upperCased_append] at spelled
    have length := congrArg List.length spelled
    have feed : upperCased ['\n'] = ['\n'] := by decide
    rw [List.length_append, feed] at length
    exact absurd length (by simp)

end Read

/-- What accepted texts are like. A line feed is all that may keep one from being a word, from being free
    of blank characters, and from being read in a statement as what it says itself. -/
structure NearWord (t : Text) : Prop where
  bears : ∃ w, Bears w t ∧ Lexer.tokens? t = some [ownToken w]
  word : IsWord t ↔ lineFeed ∉ t
  solid : (∀ p ∈ t, p.satisfies isBlankChar = false) ↔ lineFeed ∉ t
  own : Lexer.tokens? t = some [ownToken t] ↔ lineFeed ∉ t

theorem Bears.nearWord {w t : Text} (bears : Bears w t) : NearWord t := by
  have word : IsWord t ↔ lineFeed ∉ t := by
    rw [bears.mem_lineFeed_iff, bears.isWord_iff]
    obtain ⟨_, rfl | rfl⟩ := bears
    · exact iff_of_true rfl (by simp)
    · exact iff_of_false (by simp) (not_not_intro rfl)
  exact ⟨⟨w, bears, bears.tokens?_eq⟩, word, bears.isWord_iff_not_blank.symm.trans word,
    bears.tokens?_own_iff.trans word⟩

theorem nearWord_of_isName {t : Text} (name : isName t = true) : NearWord t := by
  obtain ⟨w, bears⟩ := isName_iff.mp name
  exact bears.nearWord

section Accepted

/-- What is accepted, for whatever purpose, is a text that is a word but for a line feed, and it stays
    as it is. -/
theorem Name.exists_ofDatum_iff {role : Text} {d : Datum} :
    (∃ name, ofDatum role d = .ok name) ↔ ∃ w t, Bears w t ∧ d = .text t := by
  constructor
  · rintro ⟨name, accepted⟩
    obtain ⟨w, bears⟩ := name.exists_bears
    exact ⟨w, name.text, bears, ofDatum_eq_ok.mp accepted⟩
  · rintro ⟨w, t, bears, rfl⟩
    exact ⟨⟨t, bears.isName⟩, ofDatum_eq_ok.mpr rfl⟩

/-- The table of a data source is called by a word unless the identifier of the source ends in a line
    feed. -/
theorem mem_lineFeed_tableName_iff {source : Text} {table : Name}
    (named : tableName source = .ok table) : lineFeed ∈ table.text ↔ lineFeed ∈ source := by
  have prefix_apart : lineFeed ∉ tablePrefix := by decide
  rw [Name.ofText_eq_ok.mp named, List.mem_append, or_iff_right prefix_apart, Text.replacePoint,
    List.mem_map]
  constructor
  · rintro ⟨p, member, same⟩
    split at same
    · cases same
    · rwa [same] at member
  · exact fun member => ⟨lineFeed, member, by decide⟩

end Accepted

end Sql

end QueryDesk
