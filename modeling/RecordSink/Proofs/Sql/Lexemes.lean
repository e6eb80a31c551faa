import Mathlib.Data.List.TakeWhile
import RecordSink.Proofs.Sql.Spelling
import RecordSink.Text.Digit

/-! The lexical side of the language of statements, as a relation between texts and tokens that knows
no scanner: lexemes stand one after the other, each as long as it can be, and a text ends in at most
one semicolon with blanks after it. The scanner finds the tokens of exactly these texts. -/
namespace RecordSink.Sql

/-- The token that a mark stands for. -/
inductive Marks : Char → Token → Prop where
  | leftParen : Marks '(' .leftParen
  | rightParen : Marks ')' .rightParen
  | comma : Marks ',' .comma
  | placeholder : Marks '?' .placeholder

/-- A text that is put together from lexemes, and their tokens. A word ends only where no character
that can stand in a word follows, and a number only where no digit follows. -/
inductive Lexed : List Char → List Token → Prop where
  | nil : Lexed [] []
  | blank (blank : Text.isBlank c = true) (rest : Lexed cs ts) : Lexed (c :: cs) ts
  | mark (marks : Marks c t) (rest : Lexed cs ts) : Lexed (c :: cs) (t :: ts)
  | word (word : isWord (String.ofList w) = true) (longest : Delimited cs) (rest : Lexed cs ts) :
      Lexed (w ++ cs) (.word (String.ofList w) :: ts)
  | number (some_digit : ds ≠ []) (digits : ∀ d ∈ ds, d.isDigit = true)
      (longest : ∀ c ∈ cs.head?, c.isDigit = false) (bound : Text.numberTo 10 ds ≤ maxNumber)
      (rest : Lexed cs ts) : Lexed (ds ++ cs) (.number (Text.numberTo 10 ds) :: ts)

/-- What may stand after the last lexeme: nothing, or a semicolon and blanks. -/
inductive Ending : List Char → Prop where
  | nothing : Ending []
  | semicolon (blanks : ∀ c ∈ cs, Text.isBlank c = true) : Ending (';' :: cs)

/-- The text of a statement as tokens. -/
def Lexes (cs : List Char) (ts : List Token) : Prop :=
  ∃ body ending, cs = body ++ ending ∧ Lexed body ts ∧ Ending ending

variable {cs ds ending rest : List Char} {c : Char} {t : Token} {ts : List Token}

/-! ## What the scanner makes of one lexeme -/

private theorem scan_blank (blank : Text.isBlank c = true) :
    scan .nothing (c :: cs) = scan .nothing cs := by
  have inside : c ≠ ';' := by
    rintro rfl
    exact absurd blank (by decide)
  simp only [scan, if_neg inside, Pending.step, Pending.start, if_pos blank, ok_bind,
    List.nil_append]
  cases scan .nothing cs <;> rfl

private theorem scan_mark (marks : Marks c t) :
    scan .nothing (c :: cs) = (scan .nothing cs).map (t :: ·) := by
  cases marks <;> cases read : scan .nothing cs <;>
    simp [scan, Pending.step, Pending.start, Text.isBlank, read, Except.map]

/-- A digit more makes a number no smaller. -/
private theorem le_number (n : Nat) (ds : List Char) :
    n ≤ ds.foldl (fun n c => n * 10 + (Text.hexValue? c).getD 0) n := by
  induction ds generalizing n with
  | nil => exact Nat.le_refl n
  | cons d ds ih =>
    have first : n ≤ n * 10 + (Text.hexValue? d).getD 0 := by omega
    exact Nat.le_trans first (ih _)

private theorem scan_more_digits (digits : ∀ d ∈ ds, d.isDigit = true)
    (longest : ∀ c ∈ rest.head?, c.isDigit = false) {n m : Nat} (bound : n ≤ maxNumber)
    (value : ds.foldl (fun n c => n * 10 + (Text.hexValue? c).getD 0) n = m) :
    scan (.number n) (ds ++ rest) =
      if m ≤ maxNumber then (scan .nothing rest).map (.number m :: ·)
      else .error .numberTooLarge := by
  induction ds generalizing n with
  | nil =>
    subst value
    rw [List.nil_append, List.foldl_nil, if_pos bound]
    exact scan_afresh (.number n) fun c head => step_of_not_digit (by simp [longest c head])
  | cons d ds ih =>
    obtain ⟨digit, others⟩ := List.forall_mem_cons.1 digits
    have inside := part_is_no_end (isWordPart_iff.2 (.inr digit))
    have found : (Text.hexValue? d).getD 0 = d.toNat - '0'.toNat := by
      rw [Text.hexValue?, if_pos digit, Option.getD_some]
    rw [List.foldl_cons, found] at value
    rw [List.cons_append, scan, if_neg inside]
    simp only [Pending.step, digit, if_true, Pending.digit]
    by_cases more : n * 10 + (d.toNat - '0'.toNat) ≤ maxNumber
    · simp only [more, if_true, ok_bind, pure_ok, List.nil_append, ih others more value]
      split <;> cases scan .nothing rest <;> rfl
    · -- A number that is too large stays so, whatever follows.
      have large : ¬ m ≤ maxNumber := fun small =>
        more (Nat.le_trans (value ▸ le_number _ ds) small)
      simp only [more, large, if_false, error_bind]

private theorem scan_number (some_digit : ds ≠ []) (digits : ∀ d ∈ ds, d.isDigit = true)
    (longest : ∀ c ∈ rest.head?, c.isDigit = false) :
    scan .nothing (ds ++ rest) =
      if Text.numberTo 10 ds ≤ maxNumber then
        (scan .nothing rest).map (.number (Text.numberTo 10 ds) :: ·)
      else .error .numberTooLarge := by
  have from_zero : scan .nothing (ds ++ rest) = scan (.number 0) (ds ++ rest) := by
    cases ds with
    | nil => exact absurd rfl some_digit
    | cons d ds =>
      have digit := digits d (.head _)
      have same : Pending.nothing.step d = (Pending.number 0).step d := by
        simp only [Pending.step, start_of_isDigit digit, digit, if_true]
        cases Pending.digit 0 d <;> rfl
      have inside := part_is_no_end (isWordPart_iff.2 (.inr digit))
      simp only [List.cons_append, scan, if_neg inside, same]
  rw [from_zero]
  exact scan_more_digits digits longest (Nat.zero_le _) rfl

/-- A text that begins with no lexeme and no ending has no tokens. -/
private theorem scan_other (last : c ≠ ';') (blank : Text.isBlank c = false)
    (mark : ∀ t, ¬ Marks c t) (digit : c.isDigit = false) (start : isWordStart c = false) :
    scan .nothing (c :: cs) = .error (.unexpectedCharacter c) := by
  have other : ∀ d t, Marks d t → c ≠ d := fun d t marks same => mark t (same ▸ marks)
  simp [scan, last, Pending.step, Pending.start, blank, digit, start, other _ _ .leftParen,
    other _ _ .rightParen, other _ _ .comma, other _ _ .placeholder]

/-! ## The scanner and the lexical language -/

private theorem scan_ending (ends : Ending ending) : scan .nothing ending = .ok [] := by
  cases ends with
  | nothing => rfl
  | semicolon blanks => rw [scan, if_pos rfl, if_pos (List.all_eq_true.2 blanks), Pending.tokens]

private theorem head_is_no {part : Char → Bool} (semicolon : part ';' = false)
    (longest : ∀ c ∈ cs.head?, part c = false) (ends : Ending ending) :
    ∀ c ∈ (cs ++ ending).head?, part c = false := by
  intro c head
  cases cs with
  | cons d ds => exact longest c head
  | nil =>
    cases ends with
    | nothing => cases head
    | semicolon blanks =>
      cases head
      exact semicolon

/-- The scanner finds the tokens of every text of lexemes. -/
theorem scan_of_lexed (lexed : Lexed cs ts) (ends : Ending ending) :
    scan .nothing (cs ++ ending) = .ok ts := by
  induction lexed with
  | nil => exact scan_ending ends
  | blank blank rest ih => rw [List.cons_append, scan_blank blank, ih]
  | mark marks rest ih =>
    rw [List.cons_append, scan_mark marks, ih]
    rfl
  | @word w cs ts word longest rest ih =>
    have spelled := spells_word word (cs ++ ending) (head_is_no (by decide) longest ends)
    rw [String.toList_ofList, ih] at spelled
    rw [List.append_assoc, spelled]
    rfl
  | number some_digit digits longest bound rest ih =>
    rw [List.append_assoc,
      scan_number some_digit digits (head_is_no (by decide) longest ends), if_pos bound, ih]
    rfl

/-- The characters after one of a kind that are of this kind as well, and what is left after them. -/
private theorem split_run (part : Char → Bool) (c : Char) (cs : List Char) :
    ∃ run rest, c :: cs = (c :: run) ++ rest ∧ (∀ d ∈ run, part d = true) ∧
      (∀ d ∈ rest.head?, part d = false) ∧ rest.length ≤ cs.length := by
  refine ⟨cs.takeWhile part, cs.dropWhile part, ?_, fun d among => List.mem_takeWhile_imp among,
    fun d head => ?_, List.length_dropWhile_le part cs⟩
  · rw [List.cons_append, List.takeWhile_append_dropWhile]
  · have failed := List.head?_dropWhile_not part cs
    rw [Option.mem_def.1 head] at failed
    simpa using failed

/-- One lexeme more, before a text that is put together from others and perhaps ends after none. -/
private theorem lexes_of_map {first : List Char}
    (build : ∀ {cs ts}, (∀ d ∈ cs.head?, d ∈ rest.head?) → Lexed cs ts →
      Lexed (first ++ cs) (t :: ts))
    (read : (scan .nothing rest).map (t :: ·) = .ok ts)
    (found : ∀ {ts}, scan .nothing rest = .ok ts → Lexes rest ts) : Lexes (first ++ rest) ts := by
  obtain ⟨us, scanned, rfl⟩ := map_ok_iff.1 read
  obtain ⟨body, ending, rfl, lexed, ends⟩ := found scanned
  refine ⟨first ++ body, ending, (List.append_assoc ..).symm, build (fun d head => ?_) lexed, ends⟩
  cases body with
  | nil => cases head
  | cons c body => exact head

/-- Every text up to this length that has tokens is put together from lexemes. -/
private def LexesUpTo (n : Nat) : Prop :=
  ∀ {cs ts}, cs.length ≤ n → scan .nothing cs = .ok ts → Lexes cs ts

private theorem lexes_of_semicolon (read : scan .nothing (';' :: cs) = .ok ts) :
    Lexes (';' :: cs) ts := by
  rw [scan, if_pos rfl] at read
  by_cases blanks : cs.all Text.isBlank = true
  · rw [if_pos blanks] at read
    cases read
    exact ⟨[], ';' :: cs, rfl, .nil, .semicolon (List.all_eq_true.1 blanks)⟩
  · rw [if_neg blanks] at read
    cases read

private theorem lexes_of_blank (shorter : LexesUpTo cs.length) (blank : Text.isBlank c = true)
    (read : scan .nothing (c :: cs) = .ok ts) : Lexes (c :: cs) ts := by
  rw [scan_blank blank] at read
  obtain ⟨body, ending, rfl, lexed, ends⟩ := shorter (Nat.le_refl _) read
  exact ⟨c :: body, ending, rfl, .blank blank lexed, ends⟩

private theorem lexes_of_mark (shorter : LexesUpTo cs.length) (marks : Marks c t)
    (read : scan .nothing (c :: cs) = .ok ts) : Lexes ([c] ++ cs) ts := by
  rw [scan_mark marks] at read
  exact lexes_of_map (fun _ lexed => .mark marks lexed) read (shorter (Nat.le_refl _))

private theorem lexes_of_digit (shorter : LexesUpTo cs.length) (digit : c.isDigit = true)
    (read : scan .nothing (c :: cs) = .ok ts) : Lexes (c :: cs) ts := by
  obtain ⟨run, rest, split, digits, longest, few⟩ := split_run Char.isDigit c cs
  have all : ∀ d ∈ c :: run, d.isDigit = true := List.forall_mem_cons.2 ⟨digit, digits⟩
  rw [split, scan_number (List.cons_ne_nil _ _) all longest] at read
  rw [split]
  by_cases bound : Text.numberTo 10 (c :: run) ≤ maxNumber
  · rw [if_pos bound] at read
    exact lexes_of_map (fun head lexed => .number (List.cons_ne_nil _ _) all
      (fun d first => longest d (head d first)) bound lexed) read (shorter few)
  · rw [if_neg bound] at read
    cases read

private theorem lexes_of_start (shorter : LexesUpTo cs.length) (start : isWordStart c = true)
    (read : scan .nothing (c :: cs) = .ok ts) : Lexes (c :: cs) ts := by
  obtain ⟨run, rest, split, parts, longest, few⟩ := split_run isWordPart c cs
  have word : isWord (String.ofList (c :: run)) = true :=
    isWord_cons_iff.2 ⟨start, List.all_eq_true.2 parts⟩
  have spelled := spells_word word rest longest
  rw [String.toList_ofList, ← split] at spelled
  rw [spelled] at read
  rw [split]
  exact lexes_of_map (fun head lexed => .word word
    (fun d first => longest d (head d first)) lexed) read (shorter few)

private theorem lexesUpTo (n : Nat) : LexesUpTo n := by
  induction n with
  | zero =>
    intro cs ts short read
    obtain rfl := List.length_eq_zero_iff.1 (Nat.le_zero.1 short)
    cases read
    exact ⟨[], [], rfl, .nil, .nothing⟩
  | succ n ih =>
    intro cs ts short read
    cases cs with
    | nil => exact ih (Nat.zero_le _) read
    | cons c cs =>
      have shorter : LexesUpTo cs.length := fun few =>
        ih (Nat.le_trans few (Nat.le_of_succ_le_succ short))
      by_cases last : c = ';'
      · subst last
        exact lexes_of_semicolon read
      by_cases blank : Text.isBlank c = true
      · exact lexes_of_blank shorter blank read
      by_cases mark : ∃ t, Marks c t
      · exact lexes_of_mark shorter mark.choose_spec read
      by_cases digit : c.isDigit = true
      · exact lexes_of_digit shorter digit read
      by_cases start : isWordStart c = true
      · exact lexes_of_start shorter start read
      rw [scan_other last (Bool.eq_false_iff.2 blank) (not_exists.1 mark)
        (Bool.eq_false_iff.2 digit) (Bool.eq_false_iff.2 start)] at read
      cases read

/-- The scanner finds exactly the tokens that a text is put together from. -/
theorem tokenize_ok_iff {sql : String} : tokenize sql = .ok ts ↔ Lexes sql.toList ts := by
  constructor
  · exact lexesUpTo _ (Nat.le_refl _)
  · rintro ⟨body, ending, split, lexed, ends⟩
    rw [tokenize, split]
    exact scan_of_lexed lexed ends

end RecordSink.Sql
