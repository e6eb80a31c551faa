import RecordSink.Proofs.Sql.Words
import RecordSink.Sql.Statement
import RecordSink.Sql.Token

/-! The verb of a statement. Faults are told apart by the first word of a text between blanks, and
in the text of a statement that is the word that the statement begins with. -/
namespace RecordSink.Sql

/-- The text is a word between blanks, of which none need stand before it, and perhaps more. -/
def Opens (cs : List Char) (word : String) : Prop :=
  isWord word = true ∧ ∃ blanks b rest, cs = blanks ++ (word.toList ++ b :: rest) ∧
    (∀ c ∈ blanks, Text.isBlank c = true) ∧ Text.isBlank b = true

section Opens

variable {cs : List Char} {sql word : String}

theorem Opens.append (opens : Opens cs word) (more : List Char) : Opens (cs ++ more) word := by
  obtain ⟨isWord, blanks, b, rest, rfl, before, after⟩ := opens
  exact ⟨isWord, blanks, b, rest ++ more, by simp only [List.append_assoc, List.cons_append],
    before, after⟩

private theorem part_is_not_blank {c : Char} (part : isWordPart c = true) :
    Text.isBlank c = false := by
  rw [isWordPart_iff, isWordStart_iff, isDigit_iff] at part
  simp [Text.isBlank]
  omega

theorem firstPiece_of_opens (opens : Opens sql.toList word) : Text.firstPiece sql = word := by
  obtain ⟨isWord, blanks, b, rest, text, before, after⟩ := opens
  cases chars : word.toList with
  | nil => simp [Sql.isWord, chars] at isWord
  | cons c cs =>
    have solid : ∀ d ∈ c :: cs, Text.isBlank d = false := by
      rw [← String.ofList_toList (s := word), chars] at isWord
      obtain ⟨start, parts⟩ := isWord_cons_iff.1 isWord
      have all : ∀ d ∈ c :: cs, isWordPart d = true :=
        List.forall_mem_cons.2 ⟨isWordPart_iff.2 (.inl start), List.all_eq_true.1 parts⟩
      exact fun d among => part_is_not_blank (all d among)
    have trimmed : Text.trimStart sql.toList = c :: (cs ++ b :: rest) := by
      rw [text, chars, Text.trimStart, List.dropWhile_append_of_pos before]
      exact List.dropWhile_cons_of_neg (by simp [solid c (.head _)])
    rw [Text.firstPiece, trimmed, ← List.cons_append, List.takeWhile_append_of_pos, ← chars,
      List.takeWhile_cons_of_neg (by simp [after]), List.append_nil, String.ofList_toList]
    intro d among
    simp [solid d among]

end Opens

private theorem Opens.appendText {sql word : String} (opens : Opens sql.toList word)
    (more : String) : Opens (sql ++ more).toList word := by
  rw [String.toList_append]
  exact opens.append more.toList

private theorem opens_text (s : Statement) : Opens s.text.toList s.verb := by
  have first (word rest : String) (isWord : isWord word = true) :
      Opens (word ++ " " ++ rest).toList word :=
    ⟨isWord, [], ' ', rest.toList, by simp, List.forall_mem_nil _, rfl⟩
  cases s with
  | createTable table ifNotExists columns =>
    have opens : Opens "CREATE TABLE ".toList "CREATE" := first "CREATE" "TABLE " rfl
    exact ((((opens.appendText _).appendText table).appendText " (").appendText _).appendText ");"
  | addColumn table column =>
    have opens : Opens "ALTER TABLE ".toList "ALTER" := first "ALTER" "TABLE " rfl
    exact (((opens.appendText table).appendText " ADD COLUMN ").appendText _).appendText ";"
  | dropColumn table column =>
    have opens : Opens "ALTER TABLE ".toList "ALTER" := first "ALTER" "TABLE " rfl
    exact (((opens.appendText table).appendText " DROP COLUMN ").appendText column).appendText ";"
  | insert table columns placeholders =>
    have opens : Opens "INSERT INTO ".toList "INSERT" := first "INSERT" "INTO " rfl
    exact (((((opens.appendText table).appendText " (").appendText _).appendText
      ") VALUES (").appendText _).appendText ");"
  | delete table limit =>
    have opens : Opens "DELETE FROM ".toList "DELETE" := first "DELETE" "FROM " rfl
    cases limit with
    | none => exact (opens.appendText table).appendText ";"
    | some n => exact (((opens.appendText table).appendText " LIMIT ").appendText _).appendText ";"
  | truncate table =>
    have opens : Opens "TRUNCATE TABLE ".toList "TRUNCATE" := first "TRUNCATE" "TABLE " rfl
    exact (opens.appendText table).appendText ";"

theorem Statement.verb_reserved (s : Statement) : s.verb ∈ reservedWords := by
  cases s <;> simp [verb, reservedWords]

/-- The verb of a statement is read off its text. -/
theorem verb_text (s : Statement) : verb s.text = s.verb := by
  rw [verb, firstPiece_of_opens (opens_text s), upper_of_reserved s.verb_reserved]

end RecordSink.Sql
