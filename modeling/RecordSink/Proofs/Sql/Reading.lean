import RecordSink.Proofs.Sql.Spelling
import RecordSink.Sql.Parser

/-! Reading statements. The names of a statement that was read are names, and the text of a
statement is read back as that statement, unless one of its names is reserved. -/
namespace RecordSink.Sql
open RecordSink.Sql.Parser

theorem run_bind (p : Parser α) (f : α → Parser β) (tokens : List Token) :
    (p >>= f) tokens = p tokens >>= fun s => f s.1 s.2 :=
  rfl

/-! ## What was read -/

/-- Whatever the reader takes from tidy tokens has this property, and what it leaves is tidy. -/
def Yields (p : Parser α) (holds : α → Prop) : Prop :=
  ∀ tokens a rest, Tidy tokens → p tokens = .ok (a, rest) → holds a ∧ Tidy rest

theorem Yields.bind {p : Parser α} {f : α → Parser β} {first : α → Prop} {second : β → Prop}
    (head : Yields p first) (tail : ∀ a, first a → Yields (f a) second) :
    Yields (p >>= f) second := by
  intro tokens b rest tidy ran
  rw [run_bind] at ran
  obtain ⟨⟨a, middle⟩, ranFirst, ranSecond⟩ := bind_ok_iff.1 ran
  obtain ⟨holds, middleTidy⟩ := head tokens a middle tidy ranFirst
  exact tail a holds middle b rest middleTidy ranSecond

theorem yields_pure {a : α} {holds : α → Prop} (held : holds a) :
    Yields (pure a : Parser α) holds := by
  intro tokens b rest tidy ran
  cases ran
  exact ⟨held, tidy⟩

theorem yields_throw {e : SyntaxError} {holds : α → Prop} :
    Yields (throw e : Parser α) holds := by
  intro tokens b rest _ ran
  cases ran

theorem Yields.ite {condition : Bool} {p q : Parser α} {holds : α → Prop} (yes : Yields p holds)
    (no : Yields q holds) : Yields (if condition then p else q) holds := by
  cases condition
  · exact no
  · exact yes

private theorem Tidy.tail {t : Token} {rest : List Token} (tidy : Tidy (t :: rest)) :
    Tidy rest := by
  have parts : Tidy ([t] ++ rest) := tidy
  exact (tidy_append.1 parts).2

theorem yields_keyword (word : String) : Yields (keyword word) fun _ => True := by
  intro tokens a rest tidy ran
  unfold keyword at ran
  split at ran
  · split at ran
    · cases ran
      exact ⟨trivial, tidy.tail⟩
    · cases ran
  · cases ran

theorem yields_nextIsKeyword (word : String) : Yields (nextIsKeyword word) fun _ => True := by
  intro tokens a rest tidy ran
  unfold nextIsKeyword at ran
  split at ran <;> cases ran <;> exact ⟨trivial, tidy⟩

theorem yields_nextIs (t : Token) : Yields (nextIs t) fun _ => True := by
  intro tokens a rest tidy ran
  cases ran
  exact ⟨trivial, tidy⟩

theorem yields_skip : Yields skip fun _ => True := by
  intro tokens a rest tidy ran
  cases ran
  exact ⟨trivial, fun w mem => tidy w (List.mem_of_mem_drop mem)⟩

theorem yields_token (t : Token) : Yields (token t) fun _ => True := by
  intro tokens a rest tidy ran
  unfold token at ran
  split at ran
  · split at ran
    · cases ran
      exact ⟨trivial, tidy.tail⟩
    · cases ran
  · cases ran

theorem yields_number : Yields number fun _ => True := by
  intro tokens a rest tidy ran
  unfold number at ran
  split at ran
  · cases ran
    exact ⟨trivial, tidy.tail⟩
  · cases ran

theorem yields_finish : Yields finish fun _ => True := by
  intro tokens a rest tidy ran
  unfold finish at ran
  split at ran <;> cases ran
  exact ⟨trivial, tidy⟩

theorem yields_get : Yields (get : Parser (List Token)) fun _ => True := by
  intro tokens a rest tidy ran
  cases ran
  exact ⟨trivial, tidy⟩

theorem yields_identifier : Yields identifier fun w => isWord w = true := by
  intro tokens a rest tidy ran
  unfold identifier at ran
  split at ran
  · cases ran
    exact ⟨tidy _ (by simp), tidy.tail⟩
  · cases ran

theorem yields_name : Yields name fun w => isName w = true := by
  refine yields_identifier.bind fun w word => ?_
  by_cases reserved : isReserved w = true
  · simp only [reserved, if_true]
    exact yields_throw.bind fun _ held => held
  · simp only [reserved]
    exact yields_pure (isName_iff.2 ⟨word, Bool.eq_false_iff.2 reserved⟩)

theorem yields_moreItems {item : Parser α} {holds : α → Prop} (read : Yields item holds)
    (fuel : Nat) : Yields (moreItems item fuel) fun all => ∀ a ∈ all, holds a := by
  induction fuel with
  | zero => exact yields_pure (by simp)
  | succ fuel ih =>
    refine (yields_nextIs _).bind fun more _ => Yields.ite ?_ (yields_pure (by simp))
    refine yields_skip.bind fun _ _ => read.bind fun first held => ih.bind fun rest all => ?_
    exact yields_pure (List.forall_mem_cons.2 ⟨held, all⟩)

theorem yields_parenthesized {item : Parser α} {holds : α → Prop} (read : Yields item holds) :
    Yields (parenthesized item) fun all => ∀ a ∈ all, holds a := by
  have items : Yields (items item) fun all => ∀ a ∈ all, holds a := by
    refine read.bind fun first held => yields_get.bind fun tokens _ => ?_
    refine (yields_moreItems read tokens.length).bind fun rest all => ?_
    exact yields_pure (List.forall_mem_cons.2 ⟨held, all⟩)
  refine (yields_token _).bind fun _ _ => items.bind fun all held => ?_
  exact (yields_token _).bind fun _ _ => yields_pure held

theorem yields_columnType : Yields columnType fun _ => True := by
  refine yields_identifier.bind fun word _ => ?_
  cases ColumnType.ofText? word with
  | none => exact yields_throw
  | some type =>
    refine (yields_nextIs _).bind fun width _ => ?_
    cases width with
    | false => exact yields_pure trivial
    | true =>
      refine yields_skip.bind fun _ _ => yields_number.bind fun _ _ => ?_
      exact (yields_token _).bind fun _ _ => yields_pure trivial

theorem yields_constraints (notNull primaryKey : Bool) (fuel : Nat) :
    Yields (constraints notNull primaryKey fuel) fun _ => True := by
  induction fuel generalizing notNull primaryKey with
  | zero => exact yields_pure trivial
  | succ fuel ih =>
    refine (yields_nextIsKeyword _).bind fun isNot _ => Yields.ite ?_ ?_
    · exact yields_skip.bind fun _ _ => (yields_keyword _).bind fun _ _ => ih true primaryKey
    · refine (yields_nextIsKeyword _).bind fun isPrimary _ => Yields.ite ?_ (yields_pure trivial)
      exact yields_skip.bind fun _ _ => (yields_keyword _).bind fun _ _ => ih notNull true

theorem yields_column : Yields column fun c => isName c.name = true := by
  refine yields_name.bind fun name held => yields_columnType.bind fun type _ => ?_
  refine yields_get.bind fun tokens _ => (yields_constraints _ _ _).bind fun flags _ => ?_
  exact yields_pure held

private def Named (s : Statement) : Prop :=
  ∀ n ∈ s.names, isName n = true

private theorem yields_createTable : Yields createTable Named := by
  have absent : Yields ifNotExists fun _ => True := by
    refine (yields_nextIsKeyword _).bind fun _ _ => Yields.ite ?_ (yields_pure trivial)
    refine yields_skip.bind fun _ _ => (yields_keyword _).bind fun _ _ => ?_
    exact (yields_keyword _).bind fun _ _ => yields_pure trivial
  refine (yields_keyword _).bind fun _ _ => absent.bind fun _ _ => ?_
  refine yields_name.bind fun table named => ?_
  refine (yields_parenthesized yields_column).bind fun columns all => yields_pure ?_
  exact List.forall_mem_cons.2 ⟨named, List.forall_mem_map.2 all⟩

private theorem yields_alterTable : Yields alterTable Named := by
  refine (yields_keyword _).bind fun _ _ => yields_name.bind fun table named => ?_
  refine yields_identifier.bind fun action _ => (yields_keyword _).bind fun _ _ => ?_
  split
  · refine yields_column.bind fun column held => yields_pure ?_
    exact List.forall_mem_cons.2 ⟨named, List.forall_mem_singleton.2 held⟩
  · refine yields_name.bind fun column held => yields_pure ?_
    exact List.forall_mem_cons.2 ⟨named, List.forall_mem_singleton.2 held⟩
  · exact yields_throw

private theorem yields_insert : Yields insert Named := by
  refine (yields_keyword _).bind fun _ _ => yields_name.bind fun table named => ?_
  refine (yields_parenthesized yields_name).bind fun columns all => ?_
  refine (yields_keyword _).bind fun _ _ => ?_
  refine (yields_parenthesized (yields_token _)).bind fun _ _ => yields_pure ?_
  exact List.forall_mem_cons.2 ⟨named, all⟩

private theorem yields_delete : Yields delete Named := by
  refine (yields_keyword _).bind fun _ _ => yields_name.bind fun table named => ?_
  have held : Named (.delete table none) := List.forall_mem_singleton.2 named
  refine (yields_nextIsKeyword _).bind fun _ _ => Yields.ite ?_ (yields_pure held)
  refine yields_skip.bind fun _ _ => yields_number.bind fun _ _ => yields_pure ?_
  exact List.forall_mem_singleton.2 named

private theorem yields_truncate : Yields truncate Named := by
  refine (yields_keyword _).bind fun _ _ => yields_name.bind fun table named => yields_pure ?_
  exact List.forall_mem_singleton.2 named

private theorem yields_statement : Yields statement Named := by
  have ended : ∀ s, Named s → Yields (do finish; pure s) Named :=
    fun s named => yields_finish.bind fun _ _ => yields_pure named
  refine yields_identifier.bind fun verb _ => ?_
  dsimp only
  split
  · exact yields_createTable.bind ended
  · exact yields_alterTable.bind ended
  · exact yields_insert.bind ended
  · exact yields_delete.bind ended
  · exact yields_truncate.bind ended
  · exact yields_throw.bind ended

/-- The names of every statement that is read are names. -/
theorem names_of_parse {sql : String} {s : Statement} (read : parse sql = .ok s) :
    ∀ n ∈ s.names, isName n = true := by
  obtain ⟨tokens, scanned, ran⟩ := bind_ok_iff.1 read
  obtain ⟨⟨found, rest⟩, taken, same⟩ := bind_ok_iff.1 ran
  cases same
  exact (yields_statement tokens s rest (tokenize_tidy scanned) taken).1

end RecordSink.Sql
