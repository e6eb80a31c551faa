import RecordSink.Proofs.Sql.Lexemes
import RecordSink.Proofs.Sql.Phrases
import RecordSink.Proofs.Sql.Verbs

/-! Each reader of the library reads its phrase of the grammar. So the reader takes exactly the
tokens that derive a statement, and with the lexical side this says which texts are statements, and
which statements they are. -/
namespace RecordSink.Sql
open RecordSink.Sql.Parser

/-! ## Columns -/

/-- What may follow a column: nothing, or the rest of a list. -/
private theorem not_led_of_closes {word : String} {rest : List Token} (closes : Closes rest)
    {t : Token} (head : rest.head? = some t) : ¬ Phrase [word] [t] := by
  rintro ⟨⟩
  obtain same | same := closes _ head <;> cases same

/-- What follows the word of a type: perhaps a width. -/
private inductive WidthPhrase : List Token → Prop where
  | none : WidthPhrase []
  | wide (n : Nat) : WidthPhrase [.leftParen, .number n, .rightParen]

private theorem parses_width (type : ColumnType) :
    Parses (nextIs .leftParen >>= fun wide =>
        if wide then skip >>= fun _ => number >>= fun _ => token .rightParen >>= fun _ => pure type
        else pure type)
      (fun t us => t = type ∧ WidthPhrase us) (fun rest => rest.head? ≠ some .leftParen) := by
  have width := parses_number.bind (fun _ => (parses_token .rightParen).made fun _ => type)
    fun _ _ => trivial
  refine (Parses.orElse (looks_nextIs .leftParen) (by simp) (width.before fun _ => trivial)
    (parses_pure type) ?_).congr fun t us => ?_
  · rintro _ _ rest u ⟨rfl, rfl⟩ narrow head
    rintro ⟨⟩
    exact narrow head
  · constructor
    · rintro (⟨-, _, _, rfl, rfl, n, _, _, rfl, rfl, ⟨⟩, rfl, rfl⟩ | ⟨rfl, rfl⟩)
      · exact ⟨rfl, .wide n⟩
      · exact ⟨rfl, .none⟩
    · rintro ⟨rfl, ⟨⟩ | n⟩
      · exact .inr ⟨rfl, rfl⟩
      · exact .inl ⟨(), [.leftParen], _, rfl, rfl, n, [.number n], [.rightParen], rfl, rfl, (), rfl, rfl⟩

theorem parses_columnType :
    Parses columnType TypePhrase (fun rest => rest.head? ≠ some .leftParen) := by
  refine (parses_identifier.bind (fun w => (?_ : Parses _ (fun t us =>
    ColumnType.ofText? w = some t ∧ WidthPhrase us) _)) fun _ _ => trivial).congr fun t us => ?_
  · cases ColumnType.ofText? w with
    | none => exact parses_throw fun t us takes => by cases takes.1
    | some type => exact (parses_width type).congr fun t us => by simp [eq_comm]
  · constructor
    · rintro ⟨w, _, _, rfl, rfl, known, ⟨⟩ | n⟩
      · exact .plain known
      · exact .wide known n
    · rintro (known | ⟨known, n⟩)
      · exact ⟨_, [.word _], [], rfl, rfl, known, .none⟩
      · exact ⟨_, [.word _], _, rfl, rfl, known, .wide n⟩

/-- A constraint does not look like the beginning of a width. -/
private theorem constraint_narrow {n k : Bool} {us rest : List Token}
    (phrase : ConstraintPhrase n k us) (closes : Closes rest) :
    (us ++ rest).head? ≠ some .leftParen := by
  intro head
  have apart : rest.head? ≠ some .leftParen := fun head => by
    obtain same | same := closes _ head <;> cases same
  cases phrase with
  | none => exact apart head
  | notNull phrase => cases phrase with | cons => cases head
  | primaryKey phrase => cases phrase with | cons => cases head

/-- Constraints after some that were read already, as many as there are keywords for. -/
private def MoreConstraints (notNull primaryKey : Bool) (fuel : Nat) (flags : Bool × Bool)
    (us : List Token) : Prop :=
  ∃ n k, ConstraintPhrase n k us ∧ us.length ≤ 2 * fuel ∧ flags = (notNull || n, primaryKey || k)

/-- One word is not two different keywords. -/
private theorem keyword_apart {word other : String} {t : Token} (phrase : Phrase [word] [t])
    (different : Text.upper word ≠ Text.upper other) : ¬ Phrase [other] [t] := by
  rintro ⟨⟩
  rename_i second _
  cases phrase with
  | cons first _ => exact different ((eq_of_beq first).symm.trans (eq_of_beq second))

private theorem constraintPhrase_nil {n k : Bool} (phrase : ConstraintPhrase n k []) :
    n = false ∧ k = false := by
  generalize none_left : ([] : List Token) = us at phrase
  cases phrase with
  | none => exact ⟨rfl, rfl⟩
  | notNull phrase => cases phrase with | cons => cases none_left
  | primaryKey phrase => cases phrase with | cons => cases none_left

/-- Two keywords in a row and what follows them. -/
private theorem then_keywords_iff {phrase : α → List Token → Prop} {first second : String} {a : α}
    {us : List Token} :
    Then (fun (_ : Unit) => Phrase [first])
        (fun _ => Then (fun (_ : Unit) => Phrase [second]) fun _ => phrase) a us ↔
      ∃ vs ws, us = vs ++ ws ∧ Phrase [first, second] vs ∧ phrase a ws := by
  constructor
  · rintro ⟨-, vs, _, rfl, one, -, us, ws, rfl, two, takes⟩
    exact ⟨vs ++ us, ws, (List.append_assoc ..).symm, phrase_cons_iff.2 ⟨vs, us, rfl, one, two⟩, takes⟩
  · rintro ⟨_, ws, rfl, words, takes⟩
    obtain ⟨vs, us, rfl, one, two⟩ := phrase_cons_iff.1 words
    exact ⟨(), vs, _, List.append_assoc .., one, (), us, ws, rfl, two, takes⟩

private theorem moreConstraints_succ_iff {notNull primaryKey : Bool} {fuel : Nat}
    {flags : Bool × Bool} {us : List Token} :
    MoreConstraints notNull primaryKey (fuel + 1) flags us ↔
      (∃ vs ws, us = vs ++ ws ∧ Phrase ["NOT", "NULL"] vs ∧
        MoreConstraints true primaryKey fuel flags ws) ∨
      (∃ vs ws, us = vs ++ ws ∧ Phrase ["PRIMARY", "KEY"] vs ∧
        MoreConstraints notNull true fuel flags ws) ∨
      (flags = (notNull, primaryKey) ∧ us = []) := by
  constructor
  · rintro ⟨n, k, phrase, few, rfl⟩
    cases phrase with
    | none => exact .inr (.inr ⟨by simp, rfl⟩)
    | notNull words rest =>
      have used := phrase_length words
      simp only [List.length_append, List.length_cons, List.length_nil] at few used
      exact .inl ⟨_, _, rfl, words, _, _, rest, by omega, by simp⟩
    | primaryKey words rest =>
      have used := phrase_length words
      simp only [List.length_append, List.length_cons, List.length_nil] at few used
      exact .inr (.inl ⟨_, _, rfl, words, _, _, rest, by omega, by simp⟩)
  · rintro (⟨vs, ws, rfl, words, n, k, phrase, few, rfl⟩ |
      ⟨vs, ws, rfl, words, n, k, phrase, few, rfl⟩ | ⟨rfl, rfl⟩)
    · have used := phrase_length words
      refine ⟨true, k, .notNull words phrase, ?_, by simp⟩
      simp only [List.length_append, List.length_cons, List.length_nil] at used ⊢
      omega
    · have used := phrase_length words
      refine ⟨n, true, .primaryKey words phrase, ?_, by simp⟩
      simp only [List.length_append, List.length_cons, List.length_nil] at used ⊢
      omega
    · exact ⟨false, false, .none, Nat.zero_le _, by simp⟩

private theorem parses_constraints (notNull primaryKey : Bool) (fuel : Nat) :
    Parses (constraints notNull primaryKey fuel) (MoreConstraints notNull primaryKey fuel)
      Closes := by
  induction fuel generalizing notNull primaryKey with
  | zero =>
    refine (parses_pure (notNull, primaryKey)).congr fun flags us => ?_
    constructor
    · rintro ⟨rfl, rfl⟩
      exact ⟨false, false, .none, Nat.le_refl 0, by simp⟩
    · rintro ⟨n, k, phrase, none_left, rfl⟩
      obtain rfl := List.length_eq_zero_iff.1 (Nat.le_zero.1 none_left)
      obtain ⟨rfl, rfl⟩ := constraintPhrase_nil phrase
      simp
  | succ fuel ih =>
    have key := Parses.orElse (looks_nextIsKeyword "PRIMARY") (fun _ => phrase_length)
      ((ih notNull true).afterKeyword "KEY") (parses_pure (notNull, primaryKey))
      fun takes closes head => by
        obtain ⟨-, rfl⟩ := takes
        exact not_led_of_closes closes head
    have both := Parses.orElse (looks_nextIsKeyword "NOT") (fun _ => phrase_length)
      ((ih true primaryKey).afterKeyword "NULL") key ?_
    · refine both.congr fun flags us => ?_
      rw [then_keywords_iff, then_keywords_iff, moreConstraints_succ_iff]
    · rintro flags us rest t (⟨-, vs, ws, rfl, primary, -⟩ | ⟨-, rfl⟩) closes head
      · obtain ⟨u, rfl⟩ := List.length_eq_one_iff.1 (phrase_length primary)
        cases head
        exact keyword_apart primary (by decide)
      · exact not_led_of_closes closes head

theorem parses_column : Parses column ColumnPhrase Closes := by
  -- There are no more constraints than tokens.
  have all : Parses (fun tokens => constraints false false tokens.length tokens)
      (fun flags us => ConstraintPhrase flags.1 flags.2 us) Closes := by
    constructor
    · intro tokens flags rest ran
      obtain ⟨us, rfl, n, k, phrase, -, rfl⟩ := (parses_constraints _ _ _).sound ran
      exact ⟨us, rfl, by simpa using phrase⟩
    · intro us flags rest phrase closes
      refine (parses_constraints _ _ _).complete ⟨flags.1, flags.2, phrase, ?_, by simp⟩ closes
      rw [List.length_append]
      omega
  refine (Parses.afterName fun name => parses_columnType.bind (fun type =>
    all.made fun flags => Column.mk name type flags.1 flags.2) ?_).congr fun c us => ?_
  · rintro type c us rest ⟨flags, phrase, rfl⟩ closes
    exact constraint_narrow phrase closes
  · constructor
    · rintro ⟨name, us, _, rfl, named, type, vs, ws, rfl, typed, flags, phrase, rfl⟩
      exact .column named typed phrase
    · rintro ⟨named, typed, phrase⟩
      exact ⟨_, _, _, rfl, named, _, _, _, rfl, typed, (_, _), phrase, rfl⟩

/-! ## Lists -/

section Items
variable {item : Parser α} {phrase : α → List Token → Prop}

/-- Items that follow others, each after a comma. -/
private inductive MoreItems (phrase : α → List Token → Prop) : List α → List Token → Prop where
  | none : MoreItems phrase [] []
  | comma (first : phrase a us) (rest : MoreItems phrase as vs) :
      MoreItems phrase (a :: as) (.comma :: (us ++ vs))

/-- What may stand after the last item of a list. -/
private def Ends (rest : List Token) : Prop :=
  rest.head? = some .rightParen

private theorem closes_more {as : List α} {us rest : List Token} (more : MoreItems phrase as us)
    (ends : Ends rest) : Closes (us ++ rest) := by
  intro t head
  cases more with
  | none => exact .inr (Option.some.inj (head.symm.trans ends))
  | comma => cases head with | refl => exact .inl rfl

private theorem length_le_more {as : List α} {us : List Token} (more : MoreItems phrase as us) :
    as.length ≤ us.length := by
  induction more with
  | none => exact Nat.le_refl 0
  | comma first rest ih =>
    simp only [List.length_cons, List.length_append]
    omega

private theorem parses_moreItems (each : Parses item phrase Closes) (fuel : Nat) :
    Parses (moreItems item fuel) (fun as us => MoreItems phrase as us ∧ as.length ≤ fuel) Ends := by
  induction fuel with
  | zero =>
    refine (parses_pure []).congr fun as us => ?_
    constructor
    · rintro ⟨rfl, rfl⟩
      exact ⟨.none, Nat.le_refl 0⟩
    · rintro ⟨⟨⟩ | _, few⟩
      · exact ⟨rfl, rfl⟩
      · cases few
  | succ fuel ih =>
    have more := each.bind (fun first => ih.made (first :: ·)) fun {a b vs rest} takes ends => by
      obtain ⟨as, ⟨more, -⟩, -⟩ := takes
      exact closes_more more ends
    refine (Parses.orElse (looks_nextIs .comma) (by simp) more (parses_pure []) ?_).congr
      fun as us => ?_
    · rintro as us rest t ⟨-, rfl⟩ ends head
      rintro ⟨⟩
      cases ends.symm.trans head
    · constructor
      · rintro (⟨-, _, _, rfl, rfl, a, us, vs, rfl, first, as, ⟨rest, few⟩, rfl⟩ | ⟨rfl, rfl⟩)
        · have listed : MoreItems phrase (a :: as) (.comma :: (us ++ vs)) := .comma first rest
          exact ⟨listed, Nat.succ_le_succ few⟩
        · exact ⟨.none, Nat.zero_le _⟩
      · rintro ⟨⟨⟩ | ⟨first, rest⟩, few⟩
        · exact .inr ⟨rfl, rfl⟩
        · exact .inl ⟨(), [.comma], _, rfl, rfl, _, _, _, rfl, first, _,
            ⟨rest, Nat.le_of_succ_le_succ few⟩, rfl⟩

private theorem itemsPhrase_iff {as : List α} {us : List Token} :
    ItemsPhrase phrase as us ↔
      ∃ a rest vs ws, as = a :: rest ∧ us = vs ++ ws ∧ phrase a vs ∧ MoreItems phrase rest ws := by
  constructor
  · intro items
    induction items with
    | last only => exact ⟨_, [], _, [], rfl, by simp, only, .none⟩
    | more first rest ih =>
      obtain ⟨b, as, vs, ws, rfl, rfl, second, more⟩ := ih
      exact ⟨_, _, _, _, rfl, rfl, first, .comma second more⟩
  · rintro ⟨a, rest, vs, ws, rfl, rfl, first, more⟩
    induction more generalizing a vs with
    | none => simpa using .last first
    | comma second rest ih => exact .more first (ih _ _ second)

theorem parses_parenthesized (each : Parses item phrase Closes) :
    Parses (parenthesized item) (ListPhrase phrase) Anything := by
  -- There are no more items than tokens.
  have more : Parses (fun tokens => moreItems item tokens.length tokens) (MoreItems phrase) Ends := by
    constructor
    · intro tokens as rest ran
      obtain ⟨us, rfl, more, -⟩ := (parses_moreItems each _).sound ran
      exact ⟨us, rfl, more⟩
    · intro us as rest more ends
      refine (parses_moreItems each _).complete ⟨more, ?_⟩ ends
      have count := length_le_more more
      rw [List.length_append]
      omega
  have all := each.bind (fun first => more.made (first :: ·)) fun {a b vs rest} takes ends => by
    obtain ⟨as, more, -⟩ := takes
    exact closes_more more ends
  refine ((parses_token .leftParen).bind (fun _ => all.bind (fun as =>
    (parses_token .rightParen).made fun _ => as) ?_) fun _ _ => trivial).congr fun as us => ?_
  · rintro as bs _ rest ⟨-, rfl, -⟩ -
    rfl
  · constructor
    · rintro ⟨-, _, _, rfl, rfl, as, _, _, rfl, ⟨a, vs, ws, rfl, first, rest, more, rfl⟩, -, rfl, rfl⟩
      exact .enclosed (itemsPhrase_iff.2 ⟨a, rest, vs, ws, rfl, rfl, first, more⟩)
    · rintro ⟨items⟩
      obtain ⟨a, rest, vs, ws, rfl, rfl, first, more⟩ := itemsPhrase_iff.1 items
      exact ⟨(), [.leftParen], _, rfl, rfl, _, _, [.rightParen], rfl,
        ⟨a, vs, ws, rfl, first, rest, more, rfl⟩, (), rfl, rfl⟩

end Items

/-! ## Statements -/

/-- No word of this keyword comes next. -/
private def Unled (word : String) (rest : List Token) : Prop :=
  ∀ t ∈ rest.head?, ¬ Phrase [word] [t]

private theorem parses_ifNotExists : Parses ifNotExists GuardPhrase (Unled "IF") := by
  have phrase := Parses.afterKeyword "NOT" (((parses_keyword "EXISTS").made fun _ => true))
  refine (Parses.orElse (looks_nextIsKeyword "IF") (fun _ => phrase_length)
    (phrase.before fun _ => trivial) (parses_pure false) ?_).congr fun guard us => ?_
  · rintro guard us rest t ⟨-, rfl⟩ unled head
    exact unled t head
  · constructor
    · rintro (⟨-, us, _, rfl, first, -, vs, ws, rfl, second, -, third, rfl⟩ | ⟨rfl, rfl⟩)
      · exact .present (phrase_cons_iff.2 ⟨us, _, rfl, first,
          phrase_cons_iff.2 ⟨vs, ws, rfl, second, third⟩⟩)
      · exact .absent
    · rintro (phrase | _)
      · obtain ⟨us, _, rfl, first, phrase⟩ := phrase_cons_iff.1 phrase
        obtain ⟨vs, ws, rfl, second, third⟩ := phrase_cons_iff.1 phrase
        exact .inl ⟨(), us, _, rfl, first, (), vs, ws, rfl, second, (), third, rfl⟩
      · exact .inr ⟨rfl, rfl⟩

private theorem parses_limit (make : Option Nat → β) :
    Parses (nextIsKeyword "LIMIT" >>= fun found =>
        if found then skip >>= fun _ => number >>= fun n => pure (make (some n))
        else pure (make none))
      (fun b us => ∃ limit, LimitPhrase limit us ∧ b = make limit) Finished := by
  refine (Parses.orElse (looks_nextIsKeyword "LIMIT") (fun _ => phrase_length)
    ((parses_number.made fun n => make (some n)).before fun _ => trivial) (parses_pure (make none))
    ?_).congr fun b us => ?_
  · rintro _ _ _ t ⟨-, rfl⟩ rfl head
    cases head
  · constructor
    · rintro (⟨-, us, _, rfl, led, n, rfl, rfl⟩ | ⟨rfl, rfl⟩)
      · exact ⟨some n, .present led n, rfl⟩
      · exact ⟨none, .absent, rfl⟩
    · rintro ⟨_, led | _, rfl⟩
      · exact .inl ⟨(), _, _, rfl, led, _, rfl, rfl⟩
      · exact .inr ⟨rfl, rfl⟩

/-- What follows this verb. -/
private def BodyOf (verb : String) (s : Statement) (us : List Token) : Prop :=
  s.verb = verb ∧ BodyPhrase s us

private theorem parses_createTable : Parses createTable (BodyOf "CREATE") Anything := by
  refine (Parses.afterKeyword "TABLE" (parses_ifNotExists.bind (fun ifNotExists =>
    Parses.afterName fun table => (parses_parenthesized parses_column).made fun columns =>
      Statement.createTable table ifNotExists columns) ?_)).congr fun s us => ?_
  · rintro guard s _ rest ⟨table, _, us, rfl, ⟨free⟩, -⟩ - t head phrase
    cases head
    cases phrase with
    | cons same => exact Bool.false_ne_true ((sameFolded_reserved (by decide) free).symm.trans same)
  · constructor
    · rintro ⟨-, us, _, rfl, kind, ifNotExists, vs, _, rfl, guard, table, ws, xs, rfl, named,
        columns, list, rfl⟩
      exact ⟨rfl, .createTable kind guard named list⟩
    · rintro ⟨verb, body⟩
      cases body with
      | createTable kind guard named list =>
        exact ⟨(), _, _, rfl, kind, _, _, _, rfl, guard, _, _, _, rfl, named, _, list, rfl⟩
      | _ => simp [Statement.verb] at verb

/-- What follows the table and the action of an alteration. -/
private def ActionOf (table action : String) (s : Statement) (us : List Token) : Prop :=
  (action = "ADD" ∧ ∃ column, ColumnPhrase column us ∧ s = .addColumn table column) ∨
    (action = "DROP" ∧ ∃ column, NamePhrase column us ∧ s = .dropColumn table column)

private theorem parses_action (table action : String) :
    Parses (match action with
      | "ADD" => return .addColumn table (← column)
      | "DROP" => return .dropColumn table (← name)
      | other => throw (.unknownAction other)) (ActionOf table action) Closes := by
  split
  · exact (parses_column.made (Statement.addColumn table)).congr fun s us => by simp [ActionOf]
  · exact ((parses_name.made (Statement.dropColumn table)).before fun _ => trivial).congr
      fun s us => by simp [ActionOf]
  · rename_i not_add not_drop
    refine parses_throw fun s us => ?_
    rintro (⟨same, -⟩ | ⟨same, -⟩)
    · exact not_add same
    · exact not_drop same

/-- A keyword is a word that is the keyword in capitals. -/
private theorem phrase_word_iff {w word : String} (capital : Text.upper word = word) :
    Phrase [word] [.word w] ↔ Text.upper w = word := by
  constructor
  · intro phrase
    cases phrase with
    | cons same => exact (eq_of_beq same).trans capital
  · intro same
    exact .cons (beq_iff_eq.2 (same.trans capital.symm)) .nil

private theorem parses_alterTable : Parses alterTable (BodyOf "ALTER") Closes := by
  have add : Text.upper "ADD" = "ADD" := rfl
  have drop : Text.upper "DROP" = "DROP" := rfl
  refine (Parses.afterKeyword "TABLE" (Parses.afterName fun table => parses_identifier.bind
    (fun action => Parses.afterKeyword "COLUMN" (parses_action table (Text.upper action)))
    fun _ _ => trivial)).congr fun s us => ?_
  constructor
  · rintro ⟨-, us, _, rfl, kind, table, vs, _, rfl, named, action, _, _, rfl, rfl, -, ws, xs, rfl,
      object, ⟨same, column, phrase, rfl⟩ | ⟨same, column, phrase, rfl⟩⟩
    · have both := phrase_cons_iff.2 ⟨_, _, rfl, (phrase_word_iff add).2 same, object⟩
      exact ⟨rfl, List.append_assoc _ ws xs ▸ .addColumn kind named both phrase⟩
    · have both := phrase_cons_iff.2 ⟨_, _, rfl, (phrase_word_iff drop).2 same, object⟩
      exact ⟨rfl, List.append_assoc _ ws xs ▸ .dropColumn kind named both phrase⟩
  · rintro ⟨verb, body⟩
    cases body with
    | addColumn kind named action definition =>
      cases action with
      | cons same object =>
        exact ⟨(), _, _, rfl, kind, _, _, _, rfl, named, _, [_], _, rfl, rfl, (), _, _, rfl, object,
          .inl ⟨(eq_of_beq same).trans add, _, definition, rfl⟩⟩
    | dropColumn kind named action old =>
      cases action with
      | cons same object =>
        exact ⟨(), _, _, rfl, kind, _, _, _, rfl, named, _, [_], _, rfl, rfl, (), _, _, rfl, object,
          .inr ⟨(eq_of_beq same).trans drop, _, old, rfl⟩⟩
    | _ => simp [Statement.verb] at verb

private theorem parses_insert : Parses insert (BodyOf "INSERT") Anything := by
  have marks : Parses (token .placeholder) ParameterPhrase Closes :=
    ((parses_token .placeholder).before fun _ => trivial).congr fun _ us =>
      ⟨fun same => same ▸ .placeholder, fun ⟨⟩ => rfl⟩
  refine (Parses.afterKeyword "INTO" (Parses.afterName fun table =>
    (parses_parenthesized (parses_name.before fun _ => trivial)).bind (fun columns =>
      Parses.afterKeyword "VALUES" ((parses_parenthesized marks).made fun marks =>
        Statement.insert table columns marks.length)) fun _ _ => trivial)).congr fun s us => ?_
  constructor
  · rintro ⟨-, us, _, rfl, goal, table, vs, _, rfl, named, columns, ws, _, rfl, list, -, xs, ys,
      rfl, values, parameters, marks, rfl⟩
    exact ⟨rfl, .insert goal named list values marks⟩
  · rintro ⟨verb, body⟩
    cases body with
    | insert goal named list values marks =>
      exact ⟨(), _, _, rfl, goal, _, _, _, rfl, named, _, _, _, rfl, list, (), _, _, rfl, values,
        _, marks, rfl⟩
    | _ => simp [Statement.verb] at verb

private theorem parses_delete : Parses delete (BodyOf "DELETE") Finished := by
  refine (Parses.afterKeyword "FROM" (Parses.afterName fun table =>
    parses_limit (Statement.delete table))).congr fun s us => ?_
  constructor
  · rintro ⟨-, us, _, rfl, origin, table, vs, ws, rfl, named, limit, most, rfl⟩
    exact ⟨rfl, .delete origin named most⟩
  · rintro ⟨verb, body⟩
    cases body with
    | delete origin named most =>
      exact ⟨(), _, _, rfl, origin, _, _, _, rfl, named, _, most, rfl⟩
    | _ => simp [Statement.verb] at verb

private theorem parses_truncate : Parses truncate (BodyOf "TRUNCATE") Anything := by
  refine (Parses.afterKeyword "TABLE" (parses_name.made Statement.truncate)).congr fun s us => ?_
  constructor
  · rintro ⟨-, us, vs, rfl, kind, table, named, rfl⟩
    exact ⟨rfl, .truncate kind named⟩
  · rintro ⟨verb, body⟩
    cases body with
    | truncate kind named => exact ⟨(), _, _, rfl, kind, _, named, rfl⟩
    | _ => simp [Statement.verb] at verb

/-- The reader takes exactly the tokens of the phrase, and leaves none. -/
def Whole (p : Parser α) (phrase : α → List Token → Prop) : Prop :=
  ∀ {tokens a rest}, p tokens = .ok (a, rest) ↔ rest = [] ∧ phrase a tokens

theorem Parses.whole {p : Parser α} {phrase : α → List Token → Prop}
    (parses : Parses p phrase Finished) :
    Whole (p >>= fun a => finish >>= fun _ => pure a) phrase := by
  intro tokens a rest
  constructor
  · intro ran
    obtain ⟨⟨b, left⟩, taken, finished⟩ := bind_ok_iff.1 ran
    cases left with
    | nil =>
      cases finished
      obtain ⟨us, rfl, takes⟩ := parses.sound taken
      exact ⟨rfl, (List.append_nil us).symm ▸ takes⟩
    | cons => cases finished
  · rintro ⟨rfl, takes⟩
    have taken := parses.complete takes rfl
    rw [List.append_nil] at taken
    rw [run_bind, taken]
    rfl

theorem Whole.afterIdentifier {f : String → Parser α} {phrase : String → α → List Token → Prop}
    (whole : ∀ w, Whole (f w) (phrase w)) :
    Whole (identifier >>= f) (fun a us => ∃ w vs, us = .word w :: vs ∧ phrase w a vs) := by
  intro tokens a rest
  constructor
  · intro ran
    obtain ⟨⟨w, left⟩, taken, ran⟩ := bind_ok_iff.1 ran
    obtain ⟨_, rfl, rfl⟩ := parses_identifier.sound taken
    obtain ⟨rfl, phrase⟩ := (whole w).1 ran
    exact ⟨rfl, w, left, rfl, phrase⟩
  · rintro ⟨rfl, w, vs, rfl, phrase⟩
    exact (whole w).2 ⟨rfl, phrase⟩

/-- What follows a word is read as the word in capitals tells. -/
private theorem whole_statement : Whole statement
    (fun s us => ∃ w vs, us = .word w :: vs ∧ BodyOf (Text.upper w) s vs) := by
  refine Whole.afterIdentifier fun w => ?_
  generalize Text.upper w = verb
  split
  · exact (parses_createTable.before fun _ => trivial).whole
  · exact (parses_alterTable.before finished_closes).whole
  · exact (parses_insert.before fun _ => trivial).whole
  · exact parses_delete.whole
  · exact (parses_truncate.before fun _ => trivial).whole
  · rename_i not_create not_alter not_insert not_delete not_truncate
    refine (parses_throw fun s us => ?_).whole
    rintro ⟨same, -⟩
    cases s with
    | createTable => exact not_create same.symm
    | addColumn => exact not_alter same.symm
    | dropColumn => exact not_alter same.symm
    | insert => exact not_insert same.symm
    | delete => exact not_delete same.symm
    | truncate => exact not_truncate same.symm

private theorem upper_verb (s : Statement) : Text.upper s.verb = s.verb :=
  upper_of_reserved s.verb_reserved

private theorem derives_iff {s : Statement} {ts : List Token} :
    Derives s ts ↔ ∃ w us, ts = .word w :: us ∧ BodyOf (Text.upper w) s us := by
  constructor
  · rintro ⟨verb, body⟩
    cases verb with
    | cons same none_left =>
      cases none_left
      exact ⟨_, _, rfl, ((eq_of_beq same).trans (upper_verb s)).symm, body⟩
  · rintro ⟨w, us, rfl, same, body⟩
    exact .statement ((phrase_word_iff (upper_verb s)).2 same.symm) body

/-! ## Texts -/

theorem parse_ok_iff {sql : String} {s : Statement} :
    parse sql = .ok s ↔ ∃ ts, Lexes sql.toList ts ∧ Derives s ts := by
  constructor
  · intro ran
    obtain ⟨ts, scanned, ran⟩ := bind_ok_iff.1 ran
    obtain ⟨⟨t, rest⟩, read, made⟩ := bind_ok_iff.1 ran
    cases made
    exact ⟨ts, tokenize_ok_iff.1 scanned, derives_iff.2 (whole_statement.1 read).2⟩
  · rintro ⟨ts, lexes, derives⟩
    have read : statement.run ts = .ok (s, []) := whole_statement.2 ⟨rfl, derives_iff.1 derives⟩
    rw [parse, tokenize_ok_iff.2 lexes, ok_bind, read]
    rfl

/-- The texts of a statement are exactly those whose tokens derive it, and a text whose tokens
derive no statement is refused for its form. -/
theorem parse_exactly (sql : String) :
    (∀ s, parse sql = .ok s ↔ ∃ ts, Lexes sql.toList ts ∧ Derives s ts) ∧
      ((∃ s ts, Lexes sql.toList ts ∧ Derives s ts) ∨
        ∃ cause, (parse sql).mapError Cause.statement = .error cause ∧ cause.category = .format) := by
  refine ⟨fun s => parse_ok_iff, ?_⟩
  cases ran : parse sql with
  | ok s => exact .inl ⟨s, parse_ok_iff.1 ran⟩
  | error e => exact .inr ⟨.statement e, rfl, rfl⟩

end RecordSink.Sql
