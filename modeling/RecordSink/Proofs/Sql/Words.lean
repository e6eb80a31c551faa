import RecordSink.Sql.Name
import RecordSink.Store.Columns

/-! Words and names, character by character. Every text gets a word from the standard naming; only a
reserved word can keep it from being a name. -/
namespace RecordSink.Sql

theorem isWordStart_iff {c : Char} : isWordStart c = true ↔
    65 ≤ c.toNat ∧ c.toNat ≤ 90 ∨ 97 ≤ c.toNat ∧ c.toNat ≤ 122 ∨ c.toNat = 95 := by
  have mark : c = '_' ↔ c.toNat = 95 := by
    rw [← Char.toNat_inj]
    rfl
  change ((decide (65 ≤ c.val ∧ c.val ≤ 90) || (decide (97 ≤ c.val) && decide (c.val ≤ 122))) ||
    c == '_') = true ↔ _
  simp only [Bool.or_eq_true, Bool.and_eq_true, decide_eq_true_eq, beq_iff_eq, mark,
    UInt32.le_iff_toNat_le, or_assoc]
  rfl

theorem isDigit_iff {c : Char} : c.isDigit = true ↔ 48 ≤ c.toNat ∧ c.toNat ≤ 57 := by
  exact Char.isDigit_iff_toNat

theorem isWordPart_iff {c : Char} :
    isWordPart c = true ↔ isWordStart c = true ∨ c.isDigit = true := by
  change (c.isAlpha || c.isDigit || c == '_') = true ↔ (c.isAlpha || c == '_') = true ∨ _
  simp only [Bool.or_eq_true]
  exact or_right_comm

theorem isWord_cons_iff {c : Char} {cs : List Char} :
    isWord (String.ofList (c :: cs)) = true ↔ isWordStart c = true ∧ cs.all isWordPart = true := by
  simp [isWord]

/-- A word stays a word with one more character that can stand in it. -/
theorem isWord_concat {cs : List Char} {c : Char} (word : isWord (String.ofList cs) = true)
    (part : isWordPart c = true) : isWord (String.ofList (cs ++ [c])) = true := by
  cases cs with
  | nil => simp [isWord] at word
  | cons d ds =>
    obtain ⟨start, parts⟩ := isWord_cons_iff.1 word
    exact isWord_cons_iff.2 ⟨start, by simp [parts, part]⟩

theorem isName_iff {s : String} : isName s = true ↔ isWord s = true ∧ isReserved s = false := by
  simp [isName]

theorem keyColumn_is_name : isName keyColumn = true :=
  rfl

/-- Reserved words are written in upper case. -/
theorem upper_of_reserved {word : String} (reserved : word ∈ reservedWords) :
    Text.upper word = word := by
  have each : (reservedWords.all fun r => Text.upper r == r) = true := rfl
  exact eq_of_beq (List.all_eq_true.1 each word reserved)

theorem parts_of_reserved {word : String} (reserved : word ∈ reservedWords) :
    word.toList.all isWordPart = true := by
  have each : (reservedWords.all fun r => r.toList.all isWordPart) = true := rfl
  exact List.all_eq_true.1 each word reserved

private theorem marked_part (c : Char) : isWordPart (if isWordPart c then c else '_') = true := by
  by_cases part : isWordPart c = true
  · simp [part]
  · rw [if_neg part]
    decide

private theorem marked_start {c : Char} (digit : c.isDigit = false) :
    isWordStart (if isWordPart c then c else '_') = true := by
  by_cases part : isWordPart c = true
  · rw [if_pos part]
    rcases isWordPart_iff.1 part with start | found
    · exact start
    · rw [digit] at found
      cases found
  · rw [if_neg part]
    decide

/-- The standard naming makes a word of every text. -/
theorem standard_is_word (text : String) : isWord (Naming.standard text) = true := by
  unfold Naming.standard
  generalize isReserved text = reserved
  cases text.toList with
  | nil => cases reserved <;> decide
  | cons c cs =>
    have parts : (cs.map fun c => if isWordPart c then c else '_').all isWordPart = true := by
      simp only [List.all_map, List.all_eq_true]
      exact fun c _ => marked_part c
    dsimp only
    by_cases marked : (c.isDigit || reserved) = true
    · rw [if_pos marked]
      refine isWord_cons_iff.2 ⟨by decide, ?_⟩
      simp only [List.map_cons, List.all_cons, marked_part, parts, Bool.and_self]
    · rw [if_neg marked]
      simp only [Bool.or_eq_true, not_or, Bool.not_eq_true] at marked
      exact isWord_cons_iff.2 ⟨marked_start marked.1, parts⟩

end RecordSink.Sql
