import RecordSink.Proofs.Sql.Scanning
import RecordSink.Sql.Statement

/-! The text of a statement, scanned back. Words and numbers are kept apart by blanks and marks, so
every statement whose names are words is scanned as the tokens that it is made of. -/
namespace RecordSink.Sql

/-! ## Texts and the tokens they spell -/

/-- A word or a number ends here: what follows does not continue it. -/
def Delimited (cs : List Char) : Prop :=
  ∀ c ∈ cs.head?, isWordPart c = false

theorem delimited_cons {c : Char} (ends : isWordPart c = false) (cs : List Char) :
    Delimited (c :: cs) := by
  intro d head
  cases head
  exact ends

theorem part_is_no_end {c : Char} (part : isWordPart c = true) : c ≠ ';' := by
  rintro rfl
  exact absurd part (by decide)

/-- What is being read is complete where a character begins something else, and what follows is read
afresh. -/
theorem scan_afresh (p : Pending) {cs : List Char} (ends : ∀ c ∈ cs.head?,
    p.step c = (Pending.start c).map fun s => (p.tokens ++ s.1, s.2)) :
    scan p cs = (scan .nothing cs).map (p.tokens ++ ·) := by
  cases cs with
  | nil => simp [scan, Except.map, Pending.tokens]
  | cons c cs =>
    by_cases last : c = ';'
    · by_cases blank : cs.all Text.isBlank = true <;>
        simp [scan, last, blank, Except.map, Pending.tokens]
    · have fresh : Pending.nothing.step c = Pending.start c := rfl
      simp only [scan, last, if_false, ends c rfl, fresh]
      cases Pending.start c with
      | error e => rfl
      | ok s =>
        obtain ⟨done, next⟩ := s
        cases tail : scan next cs <;> simp [Except.map, tail]

private theorem scan_complete (p : Pending) {cs : List Char} (ends : Delimited cs) :
    scan p cs = (scan .nothing cs).map (p.tokens ++ ·) :=
  scan_afresh p fun c head => step_of_ends (ends c head)

private theorem scan_word_part (part : List Char) (parts : part.all isWordPart = true)
    (reversed rest : List Char) :
    scan (.word reversed) (part ++ rest) = scan (.word (part.reverse ++ reversed)) rest := by
  induction part generalizing reversed with
  | nil => rfl
  | cons c part ih =>
    simp only [List.all_cons, Bool.and_eq_true] at parts
    simp only [List.cons_append, scan, part_is_no_end parts.1, if_false, Pending.step, parts.1,
      if_true, ok_bind, ih parts.2]
    rw [List.reverse_cons, List.append_assoc, List.singleton_append]
    cases scan (.word (part.reverse ++ c :: reversed)) rest <;> rfl

private theorem start_of_isWordStart {c : Char} (start : isWordStart c = true) :
    Pending.start c = .ok ([], .word [c]) := by
  have range := isWordStart_iff.1 start
  have blank : Text.isBlank c = false := by
    simp [Text.isBlank]
    omega
  have digit : c.isDigit = false := by
    rw [Bool.eq_false_iff, ne_eq, isDigit_iff]
    omega
  have other (d : Char) (far : d.toNat < 65) : c ≠ d := by
    rintro rfl
    omega
  simp [Pending.start, blank, digit, start, other '(' (by decide), other ')' (by decide),
    other ',' (by decide), other '?' (by decide)]

theorem start_of_isDigit {c : Char} (digit : c.isDigit = true) :
    Pending.start c = (Pending.digit 0 c).map ([], ·) := by
  have range := isDigit_iff.1 digit
  have blank : Text.isBlank c = false := by
    simp [Text.isBlank]
    omega
  have other (d : Char) (far : d.toNat < 48 ∨ 57 < d.toNat) : c ≠ d := by
    rintro rfl
    omega
  simp only [Pending.start, blank, digit, other '(' (by decide), other ')' (by decide),
    other ',' (by decide), other '?' (by decide)]
  rfl

/-- The text is read as these tokens before anything that does not continue the last of them. -/
def Spells (cs : List Char) (ts : List Token) : Prop :=
  ∀ rest, Delimited rest → scan .nothing (cs ++ rest) = (scan .nothing rest).map (ts ++ ·)

theorem spells_nil : Spells [] [] := by
  intro rest _
  cases h : scan .nothing rest <;> simp [h, Except.map]

theorem spells_word {w : String} (word : isWord w = true) : Spells w.toList [.word w] := by
  intro rest ends
  obtain ⟨cs, rfl⟩ : ∃ cs, w = String.ofList cs := ⟨w.toList, String.ofList_toList.symm⟩
  cases cs with
  | nil => simp [isWord] at word
  | cons c cs =>
    obtain ⟨start, parts⟩ := isWord_cons_iff.1 word
    have inside := part_is_no_end (isWordPart_iff.2 (.inl start))
    rw [String.toList_ofList, List.cons_append, scan, if_neg inside]
    simp only [Pending.step, start_of_isWordStart start, ok_bind]
    rw [scan_word_part cs parts, scan_complete _ ends]
    cases scan .nothing rest <;> simp [Except.map, Pending.tokens]

private theorem digit_digitChar {m d : Nat} (small : d < 10) (bound : m * 10 + d ≤ maxNumber) :
    Pending.digit m d.digitChar = .ok (.number (m * 10 + d)) := by
  have value : ∀ e : Fin 10, e.val.digitChar.toNat - '0'.toNat = e.val := by decide
  have back : d.digitChar.toNat - '0'.toNat = d := value ⟨d, small⟩
  simp only [Pending.digit, back, bound, if_true]

private theorem isDigit_digitChar {d : Nat} (small : d < 10) : d.digitChar.isDigit = true := by
  have digit : ∀ e : Fin 10, e.val.digitChar.isDigit = true := by decide
  exact digit ⟨d, small⟩

/-- The digits of a number are read as the number, as far as 64 bits go. -/
private theorem scan_digits {n : Nat} (bound : n ≤ maxNumber) (rest : List Char) :
    scan .nothing (decimalDigits n ++ rest) = scan (.number n) rest := by
  induction n using Nat.strongRecOn generalizing rest with
  | ind n ih =>
    have last : n % 10 < 10 := Nat.mod_lt n (by decide)
    have digit := isDigit_digitChar last
    have inside := part_is_no_end (isWordPart_iff.2 (.inr digit))
    by_cases small : n < 10
    · have read := digit_digitChar (m := 0) last (by omega)
      rw [Nat.zero_mul, Nat.zero_add] at read
      rw [Nat.mod_eq_of_lt small] at digit inside read
      simp only [decimalDigits, Nat.toDigits_of_lt_base small, List.singleton_append, scan, inside,
        if_false, Pending.step, start_of_isDigit digit, read, Except.map, ok_bind]
      cases scan (.number n) rest <;> rfl
    · have read := digit_digitChar (m := n / 10) last (by omega)
      rw [show n / 10 * 10 + n % 10 = n by omega] at read
      rw [decimalDigits, Nat.toDigits_of_base_le (by decide) (by omega), List.append_assoc]
      rw [← decimalDigits, ih (n / 10) (by omega) (by omega)]
      simp only [List.singleton_append, scan, inside, if_false, Pending.step, digit, if_true, read,
        ok_bind, pure_ok]
      cases scan (.number n) rest <;> rfl

theorem spells_number {n : Nat} (bound : n ≤ maxNumber) : Spells (decimalDigits n) [.number n] := by
  intro rest ends
  rw [scan_digits bound, scan_complete _ ends]
  rfl

/-- Two texts with one character between them that is no part of either. -/
theorem Spells.apart {cs ds : List Char} {ts vs : List Token} {c : Char} (first : Spells cs ts)
    (us : List Token) (between : Pending.start c = .ok (us, .nothing))
    (ends : isWordPart c = false) (inside : c ≠ ';') (second : Spells ds vs) : Spells (cs ++ c :: ds) (ts ++ (us ++ vs)) := by
  intro rest ended
  rw [List.append_assoc, List.cons_append, first _ (delimited_cons ends _)]
  simp only [scan, inside, if_false, Pending.step, between, ok_bind, second rest ended]
  cases scan .nothing rest <;> simp [Except.map]

theorem Spells.blank {cs ds : List Char} {ts vs : List Token} (first : Spells cs ts)
    (second : Spells ds vs) : Spells (cs ++ ' ' :: ds) (ts ++ vs) :=
  first.apart [] rfl (by decide) (by decide) second

theorem Spells.leftParen {cs ds : List Char} {ts vs : List Token} (first : Spells cs ts)
    (second : Spells ds vs) : Spells (cs ++ '(' :: ds) (ts ++ .leftParen :: vs) :=
  first.apart [.leftParen] rfl (by decide) (by decide) second

theorem Spells.rightParen {cs ds : List Char} {ts vs : List Token} (first : Spells cs ts)
    (second : Spells ds vs) : Spells (cs ++ ')' :: ds) (ts ++ .rightParen :: vs) :=
  first.apart [.rightParen] rfl (by decide) (by decide) second

theorem Spells.comma {cs ds : List Char} {ts vs : List Token} (first : Spells cs ts)
    (second : Spells ds vs) : Spells (cs ++ ',' :: ' ' :: ds) (ts ++ .comma :: vs) :=
  first.apart [.comma] rfl (by decide) (by decide) (spells_nil.blank second)

theorem spells_placeholder : Spells ['?'] [.placeholder] :=
  spells_nil.apart [.placeholder] rfl (by decide) (by decide) spells_nil

/-- A statement ends in a semicolon. -/
theorem tokenize_of_spells {sql : String} {cs : List Char} {ts : List Token} (spells : Spells cs ts)
    (text : sql.toList = cs ++ [';']) : tokenize sql = .ok ts := by
  rw [tokenize, text, spells [';'] (delimited_cons (by decide) _)]
  simp [scan, Except.map, Pending.tokens]

/-! ## The tokens of a statement -/

/-- Tokens with a comma between each two groups. -/
def listed : List (List Token) → List Token
  | [] => []
  | first :: rest => first ++ rest.flatMap (Token.comma :: ·)

theorem spells_commaSeparated {texts : List String} {groups : List (List Token)}
    (each : List.Forall₂ (fun text group => Spells text.toList group) texts groups) :
    Spells (Statement.commaSeparated texts).toList (listed groups) := by
  induction each with
  | nil => exact spells_nil
  | @cons text group texts groups head tail ih =>
    cases tail with
    | nil => simpa [Statement.commaSeparated, listed] using head
    | @cons next follow texts groups second rest =>
      have both := head.comma ih
      simpa [Statement.commaSeparated, String.intercalate_cons_cons, listed] using both

end RecordSink.Sql

namespace RecordSink

/-- The tokens of a type. Text columns have a width. -/
def ColumnType.tokens : ColumnType → List Sql.Token
  | .varchar => [.word "VARCHAR", .leftParen, .number 102400, .rightParen]
  | type => [.word type.text]

/-- The tokens of the constraints of a column. -/
def Column.constraintTokens (c : Column) : List Sql.Token :=
  (if c.notNull then [.word "NOT", .word "NULL"] else []) ++
    (if c.primaryKey then [.word "PRIMARY", .word "KEY"] else [])

/-- The tokens of the definition of a column. -/
def Column.tokens (c : Column) : List Sql.Token :=
  .word c.name :: (c.type.tokens ++ c.constraintTokens)

namespace Sql

/-- Groups of tokens in parentheses. -/
def enclosed (groups : List (List Token)) : List Token :=
  .leftParen :: (listed groups ++ [.rightParen])

/-- The tokens that a statement is made of. -/
def Statement.tokens : Statement → List Token
  | .createTable table ifNotExists columns =>
    .word "CREATE" :: .word "TABLE" ::
      ((if ifNotExists then [.word "IF", .word "NOT", .word "EXISTS"] else []) ++
        .word table :: enclosed (columns.map Column.tokens))
  | .addColumn table column =>
    .word "ALTER" :: .word "TABLE" :: .word table :: .word "ADD" :: .word "COLUMN" :: column.tokens
  | .dropColumn table column =>
    [.word "ALTER", .word "TABLE", .word table, .word "DROP", .word "COLUMN", .word column]
  | .insert table columns placeholders =>
    .word "INSERT" :: .word "INTO" :: .word table ::
      (enclosed (columns.map fun c => [.word c]) ++
        .word "VALUES" :: enclosed (List.replicate placeholders [.placeholder]))
  | .delete table none => [.word "DELETE", .word "FROM", .word table]
  | .delete table (some n) =>
    [.word "DELETE", .word "FROM", .word table, .word "LIMIT", .number n]
  | .truncate table => [.word "TRUNCATE", .word "TABLE", .word table]

/-- The names of tables and columns in a statement. -/
def Statement.names : Statement → List String
  | .createTable table _ columns => table :: columns.map Column.name
  | .addColumn table column => [table, column.name]
  | .dropColumn table column => [table, column]
  | .insert table columns _ => table :: columns
  | .delete table _ => [table]
  | .truncate table => [table]

/-- What a statement can be written with: it lists something where a list stands, and its number is
one of 64 bits. -/
def Statement.Complete : Statement → Prop
  | .createTable _ _ columns => columns ≠ []
  | .insert _ columns placeholders => columns ≠ [] ∧ placeholders ≠ 0
  | .delete _ (some n) => n ≤ maxNumber
  | _ => True

private theorem spells_keyword (w : String) (word : isWord w = true := by decide) :
    Spells w.toList [.word w] :=
  spells_word word

theorem spells_type (t : ColumnType) : Spells t.text.toList t.tokens := by
  cases t with
  | varchar =>
    exact ((spells_keyword "VARCHAR").leftParen
      (spells_number (n := 102400) (by decide))).rightParen spells_nil
  | boolean => exact spells_keyword "BOOLEAN"
  | tinyInt => exact spells_keyword "TINYINT"
  | smallInt => exact spells_keyword "SMALLINT"
  | integer => exact spells_keyword "INTEGER"
  | bigInt => exact spells_keyword "BIGINT"
  | double => exact spells_keyword "DOUBLE"
  | binary => exact spells_keyword "BINARY"

theorem spells_column {c : Column} (word : isWord c.name = true) :
    Spells c.text.toList c.tokens := by
  have plain := (spells_word word).blank (spells_type c.type)
  have required := (spells_keyword "NOT").blank (spells_keyword "NULL")
  have key := (spells_keyword "PRIMARY").blank (spells_keyword "KEY")
  cases notNull : c.notNull <;> cases primaryKey : c.primaryKey
  · simpa [Column.text, Column.tokens, Column.constraintTokens, notNull, primaryKey] using plain
  · simpa [Column.text, Column.tokens, Column.constraintTokens, notNull, primaryKey] using
      plain.blank key
  · simpa [Column.text, Column.tokens, Column.constraintTokens, notNull, primaryKey] using
      plain.blank required
  · simpa [Column.text, Column.tokens, Column.constraintTokens, notNull, primaryKey] using
      (plain.blank required).blank key

theorem spells_listed {items : List α} (text : α → String) (tokens : α → List Token)
    (each : ∀ a ∈ items, Spells (text a).toList (tokens a)) :
    Spells (Statement.commaSeparated (items.map text)).toList (listed (items.map tokens)) := by
  apply spells_commaSeparated
  rw [List.forall₂_map_left_iff, List.forall₂_map_right_iff, List.forall₂_same]
  exact each

/-- The text of a statement whose names are words is scanned as its tokens. -/
theorem tokenize_text {s : Statement} (words : ∀ n ∈ s.names, isWord n = true)
    (complete : s.Complete) : tokenize s.text = .ok s.tokens := by
  cases s with
  | createTable table ifNotExists columns =>
    simp only [Statement.names, List.forall_mem_cons, List.forall_mem_map] at words
    have verb := (spells_keyword "CREATE").blank (spells_keyword "TABLE")
    have phrase :=
      (spells_keyword "IF").blank ((spells_keyword "NOT").blank (spells_keyword "EXISTS"))
    have name := (spells_word words.1).blank spells_nil
    have all := spells_listed Column.text Column.tokens fun c mem =>
      spells_column (words.2 c mem)
    have close := all.rightParen spells_nil
    cases ifNotExists with
    | false =>
      apply tokenize_of_spells ((verb.blank name).leftParen close)
      change String.toList ("CREATE TABLE " ++ "" ++ table ++ " (" ++ _ ++ ");") = _
      simp
    | true =>
      apply tokenize_of_spells ((verb.blank (phrase.blank name)).leftParen close)
      change String.toList ("CREATE TABLE " ++ "IF NOT EXISTS " ++ table ++ " (" ++ _ ++ ");") = _
      simp
  | addColumn table column =>
    simp only [Statement.names, List.forall_mem_cons] at words
    have verb := (spells_keyword "ALTER").blank (spells_keyword "TABLE")
    have name := spells_word words.1
    have action := (spells_keyword "ADD").blank (spells_keyword "COLUMN")
    apply tokenize_of_spells (((verb.blank name).blank action).blank (spells_column words.2.1))
    change String.toList ("ALTER TABLE " ++ table ++ " ADD COLUMN " ++ column.text ++ ";") = _
    simp
  | dropColumn table column =>
    simp only [Statement.names, List.forall_mem_cons] at words
    have verb := (spells_keyword "ALTER").blank (spells_keyword "TABLE")
    have name := spells_word words.1
    have action := (spells_keyword "DROP").blank (spells_keyword "COLUMN")
    apply tokenize_of_spells (((verb.blank name).blank action).blank (spells_word words.2.1))
    change String.toList ("ALTER TABLE " ++ table ++ " DROP COLUMN " ++ column ++ ";") = _
    simp
  | insert table columns placeholders =>
    simp only [Statement.names, List.forall_mem_cons] at words
    have verb := (spells_keyword "INSERT").blank (spells_keyword "INTO")
    have name := (spells_word words.1).blank spells_nil
    have names := spells_listed id (fun c => [.word c]) fun c mem => spells_word (words.2 c mem)
    have each : ∀ mark ∈ List.replicate placeholders "?", Spells mark.toList [.placeholder] :=
      fun mark mem => List.eq_of_mem_replicate mem ▸ spells_placeholder
    have marks := spells_listed id (fun _ => [.placeholder]) each
    rw [List.map_id] at names marks
    have values := spells_nil.blank ((spells_keyword "VALUES").blank spells_nil)
    have close := (names.rightParen values).leftParen (marks.rightParen spells_nil)
    have spelled := (verb.blank name).leftParen close
    have text : (Statement.insert table columns placeholders).text =
      "INSERT INTO " ++ table ++ " (" ++ Statement.commaSeparated columns ++ ") VALUES (" ++
        Statement.commaSeparated (List.replicate placeholders "?") ++ ");" := rfl
    simpa [Statement.tokens, enclosed] using tokenize_of_spells spelled (by simp [text])
  | delete table limit =>
    simp only [Statement.names, List.forall_mem_cons] at words
    have verb := (spells_keyword "DELETE").blank (spells_keyword "FROM")
    have name := spells_word words.1
    cases limit with
    | none =>
      apply tokenize_of_spells (verb.blank name)
      change String.toList ("DELETE FROM " ++ table ++ ";") = _
      simp
    | some n =>
      have bound := (spells_keyword "LIMIT").blank (spells_number complete)
      apply tokenize_of_spells ((verb.blank name).blank bound)
      change String.toList ("DELETE FROM " ++ table ++ " LIMIT " ++ natText n ++ ";") = _
      simp [natText]
  | truncate table =>
    simp only [Statement.names, List.forall_mem_cons] at words
    have verb := (spells_keyword "TRUNCATE").blank (spells_keyword "TABLE")
    apply tokenize_of_spells (verb.blank (spells_word words.1))
    change String.toList ("TRUNCATE TABLE " ++ table ++ ";") = _
    simp

end Sql
end RecordSink
