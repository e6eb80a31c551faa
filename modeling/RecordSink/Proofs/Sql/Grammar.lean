import RecordSink.Sql.Statement
import RecordSink.Sql.Token

/-! The grammar of statements, as a relation between statements and tokens that knows no reader.
Keywords and types stand in any case, names keep theirs and are not reserved. -/
namespace RecordSink.Sql

/-- Keywords one after the other, each in any case. -/
inductive Phrase : List String → List Token → Prop where
  | nil : Phrase [] []
  | cons (same : Text.sameFolded w word = true) (rest : Phrase words ts) :
      Phrase (word :: words) (.word w :: ts)

/-- A name: a word that is not reserved, as it is written. -/
inductive NamePhrase : String → List Token → Prop where
  | word (free : isReserved w = false) : NamePhrase w [.word w]

/-- A type: a word that names one in any case, perhaps with a width. -/
inductive TypePhrase : ColumnType → List Token → Prop where
  | plain (known : ColumnType.ofText? w = some type) : TypePhrase type [.word w]
  | wide (known : ColumnType.ofText? w = some type) (width : Nat) :
      TypePhrase type [.word w, .leftParen, .number width, .rightParen]

/-- Constraints in any order and number: whether one of them says that cells may not be empty, and
whether one says that the column is the key. -/
inductive ConstraintPhrase : Bool → Bool → List Token → Prop where
  | none : ConstraintPhrase false false []
  | notNull (phrase : Phrase ["NOT", "NULL"] us) (rest : ConstraintPhrase n k vs) :
      ConstraintPhrase true k (us ++ vs)
  | primaryKey (phrase : Phrase ["PRIMARY", "KEY"] us) (rest : ConstraintPhrase n k vs) :
      ConstraintPhrase n true (us ++ vs)

/-- The definition of a column: its name, its type and its constraints. -/
inductive ColumnPhrase : Column → List Token → Prop where
  | column (name : NamePhrase c us) (type : TypePhrase t vs) (constraints : ConstraintPhrase n k ws) :
      ColumnPhrase ⟨c, t, n, k⟩ (us ++ (vs ++ ws))

/-- One or more items with commas between them. -/
inductive ItemsPhrase (item : α → List Token → Prop) : List α → List Token → Prop where
  | last (only : item a us) : ItemsPhrase item [a] us
  | more (first : item a us) (rest : ItemsPhrase item as vs) :
      ItemsPhrase item (a :: as) (us ++ .comma :: vs)

/-- One or more items in parentheses. -/
inductive ListPhrase (item : α → List Token → Prop) : List α → List Token → Prop where
  | enclosed (items : ItemsPhrase item as us) :
      ListPhrase item as (.leftParen :: (us ++ [.rightParen]))

/-- The place of a parameter. -/
inductive ParameterPhrase : Unit → List Token → Prop where
  | placeholder : ParameterPhrase () [.placeholder]

/-- Whether a table that exists is left alone. -/
inductive GuardPhrase : Bool → List Token → Prop where
  | present (phrase : Phrase ["IF", "NOT", "EXISTS"] us) : GuardPhrase true us
  | absent : GuardPhrase false []

/-- How many rows go at most, if there is a limit. -/
inductive LimitPhrase : Option Nat → List Token → Prop where
  | present (phrase : Phrase ["LIMIT"] us) (n : Nat) : LimitPhrase (some n) (us ++ [.number n])
  | absent : LimitPhrase none []

/-- What follows the verb of a statement. -/
inductive BodyPhrase : Statement → List Token → Prop where
  | createTable (kind : Phrase ["TABLE"] us) (guard : GuardPhrase ifNotExists vs)
      (name : NamePhrase table ws) (list : ListPhrase ColumnPhrase columns xs) :
      BodyPhrase (.createTable table ifNotExists columns) (us ++ (vs ++ (ws ++ xs)))
  | addColumn (kind : Phrase ["TABLE"] us) (name : NamePhrase table vs)
      (action : Phrase ["ADD", "COLUMN"] ws) (definition : ColumnPhrase column xs) :
      BodyPhrase (.addColumn table column) (us ++ (vs ++ (ws ++ xs)))
  | dropColumn (kind : Phrase ["TABLE"] us) (name : NamePhrase table vs)
      (action : Phrase ["DROP", "COLUMN"] ws) (old : NamePhrase column xs) :
      BodyPhrase (.dropColumn table column) (us ++ (vs ++ (ws ++ xs)))
  | insert (goal : Phrase ["INTO"] us) (name : NamePhrase table vs)
      (list : ListPhrase NamePhrase columns ws) (values : Phrase ["VALUES"] xs)
      (marks : ListPhrase ParameterPhrase parameters ys) :
      BodyPhrase (.insert table columns parameters.length) (us ++ (vs ++ (ws ++ (xs ++ ys))))
  | delete (origin : Phrase ["FROM"] us) (name : NamePhrase table vs)
      (most : LimitPhrase limit ws) : BodyPhrase (.delete table limit) (us ++ (vs ++ ws))
  | truncate (kind : Phrase ["TABLE"] us) (name : NamePhrase table vs) :
      BodyPhrase (.truncate table) (us ++ vs)

/-- The tokens that derive a statement: its verb, and what follows it. -/
inductive Derives : Statement → List Token → Prop where
  | statement (verb : Phrase [s.verb] us) (body : BodyPhrase s vs) : Derives s (us ++ vs)

theorem phrase_length {words : List String} {us : List Token} (phrase : Phrase words us) :
    us.length = words.length := by
  induction phrase with
  | nil => rfl
  | cons same rest ih => rw [List.length_cons, List.length_cons, ih]

/-- Several keywords are one of them and then the others. -/
theorem phrase_cons_iff {word : String} {words : List String} {us : List Token} :
    Phrase (word :: words) us ↔ ∃ vs ws, us = vs ++ ws ∧ Phrase [word] vs ∧ Phrase words ws := by
  constructor
  · intro phrase
    cases phrase with
    | cons same rest => exact ⟨[_], _, rfl, .cons same .nil, rest⟩
  · rintro ⟨_, ws, rfl, _ | ⟨same, ⟨⟩⟩, rest⟩
    exact .cons same rest

end RecordSink.Sql
