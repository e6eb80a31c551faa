import RecordSink.Proofs.Database.Injections
import RecordSink.Proofs.Sql.Derivations

/-! Which faults strike a statement. A fault is found by the first piece of a text between blanks,
before the text is read; a reader finds the verb as the first token. In every text that can be read
these are the same word: the grammar has a second word follow the verb, and only blanks keep two
words apart. -/
namespace RecordSink.Sql

variable {cs : List Char} {ts us : List Token} {words : List String} {w v word sql : String}
  {s : Statement}

/-! ## The first word of a text -/

/-- A word does not follow a lexeme that it could continue, unless a blank stands before it. -/
private theorem blank_before_word (lexed : Lexed cs (.word v :: ts)) (ends : Delimited cs) :
    ∃ b rest, cs = b :: rest ∧ Text.isBlank b = true := by
  generalize tokens : Token.word v :: ts = us at lexed
  cases lexed with
  | nil => cases tokens
  | blank blank rest => exact ⟨_, _, rfl, blank⟩
  | mark marks rest => cases tokens; cases marks
  | number => cases tokens
  | @word w cs ts word longest rest =>
    -- Its own first character would have been taken for a part of what is before it.
    cases w with
    | nil => simp [isWord] at word
    | cons c w =>
      have part := isWordPart_iff.2 (.inl (isWord_cons_iff.1 word).1)
      have apart := ends c rfl
      rw [part] at apart
      cases apart

/-- A text that begins with two words has blanks before the first, perhaps, and after it. -/
theorem opens_of_lexed (lexed : Lexed cs (.word w :: .word v :: ts)) : Opens cs w := by
  generalize tokens : Token.word w :: Token.word v :: ts = us at lexed
  induction lexed with
  | nil => cases tokens
  | blank blank rest ih =>
    obtain ⟨isWord, blanks, b, more, rfl, before, after⟩ := ih tokens
    exact ⟨isWord, _ :: blanks, b, more, rfl, List.forall_mem_cons.2 ⟨blank, before⟩, after⟩
  | mark marks rest => cases tokens; cases marks
  | number => cases tokens
  | word word longest rest =>
    cases tokens
    obtain ⟨b, more, rfl, blank⟩ := blank_before_word rest longest
    exact ⟨word, [], b, more, by rw [String.toList_ofList]; rfl, List.forall_mem_nil _, blank⟩

/-! ## The first words of a statement -/

private theorem phrase_leads (phrase : Phrase (word :: words) us) : ∃ v vs, us = .word v :: vs := by
  cases phrase with
  | cons same rest => exact ⟨_, _, rfl⟩

/-- A word follows the verb of every statement. -/
private theorem body_leads (body : BodyPhrase s us) : ∃ v vs, us = .word v :: vs := by
  have leads {word : String} {us vs : List Token} (phrase : Phrase [word] us) :
      ∃ v ws, us ++ vs = .word v :: ws := by
    obtain ⟨v, ws, rfl⟩ := phrase_leads phrase
    exact ⟨v, ws ++ vs, rfl⟩
  cases body with
  | createTable kind => exact leads kind
  | addColumn kind => exact leads kind
  | dropColumn kind => exact leads kind
  | insert goal => exact leads goal
  | delete origin => exact leads origin
  | truncate kind => exact leads kind

/-- What is found as the verb of a text before it is read is what is read. -/
theorem verb_of_lexes (lexes : Lexes sql.toList ts) (derives : Derives s ts) :
    verb sql = s.verb := by
  obtain ⟨body, ending, split, lexed, -⟩ := lexes
  cases derives with
  | statement phrase follows =>
    obtain ⟨v, rest, rfl⟩ := body_leads follows
    cases phrase with
    | cons same none_left =>
      cases none_left
      have opens := (opens_of_lexed lexed).append ending
      rw [← split] at opens
      rw [verb, firstPiece_of_opens opens]
      exact (eq_of_beq same).trans (upper_of_reserved s.verb_reserved)

end Sql

namespace Dialogue

/-- Talk that fails of faults of one verb only, and fails of one whenever one is pending. -/
structure StruckBy (verb : String) (d : Dialogue α) : Prop where
  only : ∀ {link v after}, d link = .error (.of (.injected v)) after → v = verb
  whenever : ∀ link, (∃ after, d link = .error (.of (.injected verb)) after) ↔
    0 < link.database.faults.pending verb

theorem Unstruck.struckBy {verb : String} {d : Dialogue α}
    (unstruck : Unstruck (fun f => f.strike? verb = none) d)
    (struck : ∀ {link rest}, link.database.faults.strike? verb = some rest →
      d link = .error (.of (.injected verb)) (link.withFaults rest)) : StruckBy verb d := by
  constructor
  · intro link v after failed
    cases strikes : link.database.faults.strike? verb with
    | none => exact absurd rfl (unstruck.other strikes failed v)
    | some rest =>
      rw [struck strikes] at failed
      cases failed
      rfl
  · intro link
    cases strikes : link.database.faults.strike? verb with
    | none =>
      rw [(Faults.strike?_eq_none_iff _ _).1 strikes]
      refine iff_of_false ?_ (Nat.lt_irrefl 0)
      rintro ⟨after, failed⟩
      exact unstruck.other strikes failed verb rfl
    | some rest =>
      have some_left := mt (Faults.strike?_eq_none_iff _ _).2 (strikes ▸ Option.some_ne_none rest)
      exact iff_of_true ⟨_, struck strikes⟩ (Nat.pos_of_ne_zero some_left)

theorem struckBy_execute (sql : String) : StruckBy (Sql.verb sql) (execute sql) :=
  (unstruck_execute sql).struckBy fun strikes => by
    rw [execute_eq, strikes]
    rfl

theorem struckBy_executeWith (sql : String) (parameters : List Value) :
    StruckBy (Sql.verb sql) (executeWith sql parameters) :=
  (unstruck_executeWith sql parameters).struckBy fun strikes => by
    rw [executeWith_eq, strikes]
    rfl

/-- **Faults meet statements by their kind.** However a text of a statement is written, its verb is
the keyword of the statement that is read from it. So faults that are injected for a keyword strike
the statements that begin with it, each time while one is pending, and no other statements. -/
theorem struck_by_keyword {sql : String} {s : Sql.Statement} (parsed : Sql.parse sql = .ok s) :
    Sql.verb sql = s.verb ∧ StruckBy s.verb (execute sql) ∧
      ∀ parameters, StruckBy s.verb (executeWith sql parameters) := by
  obtain ⟨ts, lexes, derives⟩ := Sql.parse_ok_iff.1 parsed
  have same := Sql.verb_of_lexes lexes derives
  exact ⟨same, same ▸ struckBy_execute sql, fun parameters =>
    same ▸ struckBy_executeWith sql parameters⟩

/-- An insert in mixed case, after an ideographic space and with wider spaces and lines between its
words, and a semicolon. -/
theorem insert_struck_however_written :
    let sql := "\u3000\t\u0085inSerT\u2003Into\u2029t(k)VALUES\n( ? )\u00a0; "
    Sql.parse sql = .ok (.insert "t" ["k"] 1) ∧ Sql.verb sql = "INSERT" ∧
      StruckBy "INSERT" (execute sql) ∧
      ∀ parameters, StruckBy "INSERT" (executeWith sql parameters) :=
  have parsed : Sql.parse "\u3000\t\u0085inSerT\u2003Into\u2029t(k)VALUES\n( ? )\u00a0; " =
    .ok (.insert "t" ["k"] 1) := by decide +kernel
  ⟨parsed, struck_by_keyword parsed⟩

end Dialogue
end RecordSink
