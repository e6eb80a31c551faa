import RecordSink.Proofs.Sql.Reading

/-! The text of a statement is read back as that statement if its names are free, and is refused if
one of them is reserved. Statements are written by the library itself, so this is what ties the
tables to what was meant to be done to them. -/
namespace RecordSink.Sql
open RecordSink.Sql.Parser

/-- Before any tokens that may follow, the reader takes exactly `used`: it makes `a` of them if the
condition holds and fails otherwise. -/
def Reads (p : Parser α) (used : List Token) (a : α) (good : Prop) (follow : List Token → Prop) :
    Prop :=
  ∀ rest, follow rest → (good → p (used ++ rest) = .ok (a, rest)) ∧
    (¬ good → ∃ e, p (used ++ rest) = .error e)

/-- Anything may follow. -/
def Anything (_ : List Token) : Prop :=
  True

/-- What may follow an item of a list or a whole statement. -/
def Closes (rest : List Token) : Prop :=
  ∀ t ∈ rest.head?, t = .comma ∨ t = .rightParen

theorem reads_of_eq {p : Parser α} {used : List Token} {a : α} {follow : List Token → Prop}
    (read : ∀ rest, follow rest → p (used ++ rest) = .ok (a, rest)) :
    Reads p used a True follow :=
  fun rest follows => ⟨fun _ => read rest follows, fun bad => absurd trivial bad⟩

theorem Reads.bind {p : Parser α} {f : α → Parser β} {us vs : List Token} {a : α} {b : β}
    {good fine : Prop} {middle follow : List Token → Prop} (first : Reads p us a good middle)
    (second : Reads (f a) vs b fine follow) (meets : ∀ rest, follow rest → middle (vs ++ rest)) :
    Reads (p >>= f) (us ++ vs) b (good ∧ fine) follow := by
  intro rest follows
  obtain ⟨ok, bad⟩ := first (vs ++ rest) (meets rest follows)
  obtain ⟨okAfter, badAfter⟩ := second rest follows
  rw [List.append_assoc, run_bind]
  constructor
  · rintro ⟨held, heldAfter⟩
    rw [ok held]
    exact okAfter heldAfter
  · intro fails
    by_cases held : good
    · rw [ok held]
      exact badAfter fun heldAfter => fails ⟨held, heldAfter⟩
    · obtain ⟨e, failed⟩ := bad held
      exact ⟨e, by rw [failed]; rfl⟩

theorem reads_pure (a : α) : Reads (pure a : Parser α) [] a True follow :=
  reads_of_eq fun _ _ => rfl

theorem Reads.congr {p : Parser α} {used : List Token} {a : α} {good fine : Prop}
    {follow : List Token → Prop} (read : Reads p used a good follow) (same : good ↔ fine) :
    Reads p used a fine follow :=
  propext same ▸ read

theorem reads_keyword {w word : String} (same : Text.sameFolded w word = true) :
    Reads (keyword word) [.word w] () True Anything :=
  reads_of_eq fun rest _ => by simp [keyword, same]

theorem reads_identifier (w : String) : Reads identifier [.word w] w True Anything :=
  reads_of_eq fun _ _ => rfl

theorem reads_token (t : Token) : Reads (token t) [t] () True Anything :=
  reads_of_eq fun rest _ => by simp [token]

theorem reads_name (w : String) : Reads name [.word w] w (isReserved w = false) Anything := by
  intro rest _
  by_cases reserved : isReserved w = true
  · refine ⟨fun free => absurd reserved (by simp [free]), fun _ => ⟨.reservedName w, ?_⟩⟩
    simp [name, run_bind, identifier, reserved]
    rfl
  · refine ⟨fun _ => ?_, fun bound => absurd (Bool.eq_false_iff.2 reserved) bound⟩
    simp [name, run_bind, identifier, reserved]
    rfl

theorem Reads.afterKeyword {p : Parser α} {us : List Token} {a : α} {good : Prop}
    {follow : List Token → Prop} {w word : String} (same : Text.sameFolded w word = true)
    (next : Reads p us a good follow) :
    Reads (keyword word >>= fun _ => p) (.word w :: us) a good follow :=
  ((reads_keyword same).bind next fun _ _ => trivial).congr (and_iff_right trivial)

theorem Reads.afterIdentifier {f : String → Parser α} {us : List Token} {a : α} {good : Prop}
    {follow : List Token → Prop} {w : String} (next : Reads (f w) us a good follow) :
    Reads (identifier >>= f) (.word w :: us) a good follow :=
  ((reads_identifier w).bind next fun _ _ => trivial).congr (and_iff_right trivial)

theorem Reads.afterName {f : String → Parser α} {us : List Token} {a : α} {good : Prop}
    {follow : List Token → Prop} {w : String} (next : Reads (f w) us a good follow) :
    Reads (name >>= f) (.word w :: us) a (isReserved w = false ∧ good) follow :=
  (reads_name w).bind next fun _ _ => trivial

theorem Reads.made {p : Parser α} {us : List Token} {a : α} {good : Prop}
    {follow : List Token → Prop} (read : Reads p us a good follow) (make : α → β) :
    Reads (p >>= fun a => pure (make a)) us (make a) good follow := by
  have last : Reads (pure (make a) : Parser β) [] (make a) True follow := reads_pure (make a)
  have both := read.bind (f := fun a => pure (make a)) last fun _ follows => follows
  rw [List.append_nil] at both
  exact both.congr (and_iff_left trivial)

/-- What may follow a type: no width. -/
private def Widthless (rest : List Token) : Prop :=
  rest.head? ≠ some .leftParen

theorem closes_nextIsKeyword {rest : List Token} (closes : Closes rest) (word : String) :
    nextIsKeyword word rest = .ok (false, rest) := by
  cases rest with
  | nil => rfl
  | cons t rest =>
    obtain rfl | rfl := closes t rfl <;> rfl

private theorem reads_type (t : ColumnType) : Reads columnType t.tokens t True Widthless := by
  refine reads_of_eq fun rest widthless => ?_
  have plain {w : String} {type : ColumnType} (known : ColumnType.ofText? w = some type) :
      columnType (.word w :: rest) = .ok (type, rest) := by
    have narrow : nextIs .leftParen rest = .ok (false, rest) := by
      simpa [nextIs, Widthless] using widthless
    simp only [columnType, run_bind, identifier, ok_bind, known, narrow]
    rfl
  cases t with
  | varchar =>
    have known : ColumnType.ofText? "VARCHAR" = some .varchar := rfl
    simp only [columnType, run_bind, identifier, ok_bind, known, ColumnType.tokens, List.cons_append]
    rfl
  | boolean => exact plain (ColumnType.ofText?_text .boolean)
  | tinyInt => exact plain (ColumnType.ofText?_text .tinyInt)
  | smallInt => exact plain (ColumnType.ofText?_text .smallInt)
  | integer => exact plain (ColumnType.ofText?_text .integer)
  | bigInt => exact plain (ColumnType.ofText?_text .bigInt)
  | double => exact plain (ColumnType.ofText?_text .double)
  | binary => exact plain (ColumnType.ofText?_text .binary)

private theorem constraints_end {rest : List Token} (closes : Closes rest)
    (notNull primaryKey : Bool) {fuel : Nat} :
    constraints notNull primaryKey fuel rest = .ok ((notNull, primaryKey), rest) := by
  cases fuel with
  | zero => rfl
  | succ fuel =>
    simp only [constraints, run_bind, closes_nextIsKeyword closes, ok_bind, if_false, Bool.false_eq_true]
    rfl

private theorem constraints_not {rest : List Token} (notNull primaryKey : Bool) (fuel : Nat) :
    constraints notNull primaryKey (fuel + 1) (.word "NOT" :: .word "NULL" :: rest) =
      constraints true primaryKey fuel rest := by
  have same : Text.sameFolded "NOT" "NOT" = true := Text.sameFolded_refl _
  have null : Text.sameFolded "NULL" "NULL" = true := Text.sameFolded_refl _
  simp [constraints, run_bind, nextIsKeyword, same, null, skip, keyword]

private theorem constraints_primary {rest : List Token} (notNull primaryKey : Bool) (fuel : Nat) :
    constraints notNull primaryKey (fuel + 1) (.word "PRIMARY" :: .word "KEY" :: rest) =
      constraints notNull true fuel rest := by
  have other : Text.sameFolded "PRIMARY" "NOT" = false := rfl
  have same : Text.sameFolded "PRIMARY" "PRIMARY" = true := Text.sameFolded_refl _
  have key : Text.sameFolded "KEY" "KEY" = true := Text.sameFolded_refl _
  simp [constraints, run_bind, nextIsKeyword, other, same, key, skip, keyword]

private theorem constraints_tokens (c : Column) {rest : List Token} (closes : Closes rest) :
    constraints false false (c.constraintTokens ++ rest).length (c.constraintTokens ++ rest) =
      .ok ((c.notNull, c.primaryKey), rest) := by
  cases notNull : c.notNull <;> cases primaryKey : c.primaryKey <;>
    simp [Column.constraintTokens, notNull, primaryKey, constraints_not, constraints_primary,
      constraints_end closes]

private theorem constraints_widthless (c : Column) {rest : List Token} (closes : Closes rest) :
    Widthless (c.constraintTokens ++ rest) := by
  cases notNull : c.notNull <;> cases primaryKey : c.primaryKey <;>
    simp only [Column.constraintTokens, notNull, primaryKey, Widthless] <;> try simp
  intro head
  obtain same | same := closes _ head <;> cases same

/-- What is read of the definition of a column after its name. -/
private def columnAfter (name : String) : Parser Column := do
  let type ← columnType
  let (notNull, primaryKey) ← constraints false false (← get).length
  return ⟨name, type, notNull, primaryKey⟩

theorem reads_column (c : Column) :
    Reads column c.tokens c (isReserved c.name = false) Closes := by
  have after : Reads (columnAfter c.name) (c.type.tokens ++ c.constraintTokens) c True Closes := by
    refine reads_of_eq fun rest closes => ?_
    have typed := (reads_type c.type _ (constraints_widthless c closes)).1 trivial
    have got (tokens : List Token) : (get : Parser (List Token)) tokens = .ok (tokens, tokens) := rfl
    rw [List.append_assoc, columnAfter, run_bind, typed, ok_bind, run_bind, got, ok_bind, run_bind,
      constraints_tokens c closes]
    rfl
  have read := (reads_name c.name).bind (f := columnAfter) after fun _ _ => trivial
  exact read.congr (and_iff_left trivial)

/-! ## Lists -/

/-- What follows the last item of a list. -/
private def Ended (rest : List Token) : Prop :=
  rest.head? = some .rightParen

private theorem closes_commas (groups : List (List Token)) {rest : List Token} (ended : Ended rest) :
    Closes (groups.flatMap (Token.comma :: ·) ++ rest) := by
  intro t head
  cases groups with
  | nil =>
    rw [List.flatMap_nil, List.nil_append, ended] at head
    cases head
    exact .inr rfl
  | cons group groups =>
    cases head
    exact .inl rfl

section Items
variable {item : Parser α} {spell : α → List Token} {good : α → Prop}

/-- An item, and as many more as commas follow it. -/
private def itemsWithin (item : Parser α) (fuel : Nat) : Parser (List α) := do
  let first ← item
  let rest ← moreItems item fuel
  return first :: rest

private theorem moreItems_comma (fuel : Nat) (tokens : List Token) :
    moreItems item (fuel + 1) (.comma :: tokens) = itemsWithin item fuel tokens :=
  rfl

private theorem reads_itemsWithin {a : α} {all : List α} {fuel : Nat}
    (head : Reads item (spell a) a (good a) Closes)
    (tail : Reads (moreItems item fuel) ((all.map spell).flatMap (Token.comma :: ·)) all
      (∀ b ∈ all, good b) Ended) :
    Reads (itemsWithin item fuel) (listed ((a :: all).map spell)) (a :: all)
      (∀ b ∈ a :: all, good b) Ended := by
  have both := head.bind (f := fun first => moreItems item fuel >>= fun rest => pure (first :: rest))
    (tail.made (a :: ·)) fun rest ended => closes_commas (all.map spell) ended
  exact both.congr (by simp)

private theorem reads_moreItems (all : List α)
    (each : ∀ a ∈ all, Reads item (spell a) a (good a) Closes) {fuel : Nat}
    (enough : all.length ≤ fuel) :
    Reads (moreItems item fuel) ((all.map spell).flatMap (Token.comma :: ·)) all (∀ a ∈ all, good a)
      Ended := by
  induction all generalizing fuel with
  | nil =>
    refine Reads.congr (reads_of_eq fun rest ended => ?_) (by simp)
    cases fuel with
    | zero => rfl
    | succ fuel =>
      have last : nextIs .comma rest = .ok (false, rest) := by
        simp [nextIs, show rest.head? = _ from ended]
      simp only [moreItems, List.map_nil, List.flatMap_nil, List.nil_append, run_bind, last, ok_bind]
      rfl
  | cons a all ih =>
    cases fuel with
    | zero => cases enough
    | succ fuel =>
      have tail := ih (fun b mem => each b (List.mem_cons_of_mem _ mem)) (Nat.le_of_succ_le_succ enough)
      intro rest ended
      rw [List.map_cons, List.flatMap_cons, List.cons_append, List.cons_append, moreItems_comma]
      exact reads_itemsWithin (each a List.mem_cons_self) tail rest ended

private theorem length_le_commas (groups : List (List Token)) :
    groups.length ≤ (groups.flatMap (Token.comma :: ·)).length := by
  induction groups with
  | nil => exact Nat.le_refl 0
  | cons group groups ih =>
    simp only [List.flatMap_cons, List.length_append, List.length_cons]
    omega

/-- Each comma is a token, so the tokens that are left bound the number of items. -/
private theorem reads_items {a : α} {all : List α}
    (each : ∀ b ∈ a :: all, Reads item (spell b) b (good b) Closes) :
    Reads (items item) (listed ((a :: all).map spell)) (a :: all) (∀ b ∈ a :: all, good b) Ended := by
  obtain ⟨head, tail⟩ := List.forall_mem_cons.1 each
  intro rest ended
  generalize left : (all.map spell).flatMap (Token.comma :: ·) ++ rest = more
  have enough : all.length ≤ more.length := by
    have count := length_le_commas (all.map spell)
    rw [List.length_map] at count
    rw [← left, List.length_append]
    omega
  have within := reads_itemsWithin head (reads_moreItems all tail enough) rest ended
  have spelled : listed ((a :: all).map spell) ++ rest = spell a ++ more := by
    rw [← left, ← List.append_assoc]
    rfl
  have same : items item (spell a ++ more) = itemsWithin item more.length (spell a ++ more) := by
    obtain ⟨ok, bad⟩ := head more (left ▸ closes_commas _ ended)
    by_cases held : good a
    · simp only [items, itemsWithin, run_bind, ok held]
      rfl
    · obtain ⟨e, failed⟩ := bad held
      simp only [items, itemsWithin, run_bind, failed]
      rfl
  rw [spelled] at within ⊢
  rwa [same]

theorem reads_parenthesized {all : List α} (inhabited : all ≠ [])
    (each : ∀ a ∈ all, Reads item (spell a) a (good a) Closes) :
    Reads (parenthesized item) (enclosed (all.map spell)) all (∀ a ∈ all, good a) Anything := by
  cases all with
  | nil => exact absurd rfl inhabited
  | cons a all =>
    have close := (reads_token .rightParen).made fun _ => a :: all
    have body := (reads_items each).bind (f := fun all => token .rightParen >>= fun _ => pure all)
      close fun _ _ => rfl
    have read := (reads_token .leftParen).bind (f := fun _ => items item >>= fun all =>
      token .rightParen >>= fun _ => pure all) body fun _ _ => trivial
    exact read.congr (by simp)

end Items

/-! ## Statements -/

/-- Nothing may follow. -/
def Finished (rest : List Token) : Prop :=
  rest = []

theorem sameFolded_reserved {w word : String} (reserved : word ∈ reservedWords)
    (free : isReserved w = false) : Text.sameFolded w word = false := by
  cases same : Text.sameFolded w word with
  | false => rfl
  | true =>
    have bound : isReserved w = true :=
      List.any_eq_true.2 ⟨word, reserved, (Text.sameFolded_comm _ _).trans same⟩
    rw [free] at bound
    cases bound

private theorem ifNotExists_phrase (rest : List Token) :
    ifNotExists (.word "IF" :: .word "NOT" :: .word "EXISTS" :: rest) = .ok (true, rest) := by
  have first : Text.sameFolded "IF" "IF" = true := Text.sameFolded_refl _
  have second : Text.sameFolded "NOT" "NOT" = true := Text.sameFolded_refl _
  have third : Text.sameFolded "EXISTS" "EXISTS" = true := Text.sameFolded_refl _
  simp [ifNotExists, run_bind, nextIsKeyword, keyword, skip, first, second]
  rfl

/-- A reserved word in place of the table's name may look like the phrase, but then ends it. -/
private theorem reads_createTable {table : String} {ifNotExists : Bool} {columns : List Column}
    (inhabited : columns ≠ []) :
    Reads createTable (.word "TABLE" ::
        ((if ifNotExists then [.word "IF", .word "NOT", .word "EXISTS"] else []) ++
          .word table :: enclosed (columns.map Column.tokens)))
      (.createTable table ifNotExists columns)
      (isReserved table = false ∧ ∀ c ∈ columns, isReserved c.name = false) Anything := by
  have listed (guard : Bool) :
      Reads (name >>= fun table => parenthesized column >>= fun columns =>
          pure (Statement.createTable table guard columns))
        (.word table :: enclosed (columns.map Column.tokens)) (.createTable table guard columns)
        (isReserved table = false ∧ ∀ c ∈ columns, isReserved c.name = false) Anything :=
    Reads.afterName ((reads_parenthesized inhabited fun c _ => reads_column c).made _)
  unfold createTable
  refine Reads.afterKeyword (Text.sameFolded_refl _) fun rest follows => ?_
  cases ifNotExists with
  | true =>
    simp only [if_true, List.cons_append, List.nil_append, run_bind, ifNotExists_phrase, ok_bind]
    exact listed true rest follows
  | false =>
    simp only [Bool.false_eq_true, if_false, List.nil_append]
    by_cases phrase : Text.sameFolded table "IF" = true
    · have reserved : ¬ isReserved table = false := fun free => by
        rw [sameFolded_reserved (by decide) free] at phrase
        cases phrase
      refine ⟨fun good => absurd good.1 reserved,
        fun _ => ⟨.expected (.keyword "NOT") (some .leftParen), ?_⟩⟩
      simp [Parser.ifNotExists, run_bind, nextIsKeyword, phrase, skip, keyword, enclosed]
    · have absent : Parser.ifNotExists (.word table :: enclosed (columns.map Column.tokens) ++ rest) =
          .ok (false, .word table :: enclosed (columns.map Column.tokens) ++ rest) := by
        simp [Parser.ifNotExists, run_bind, nextIsKeyword, phrase]
        rfl
      rw [run_bind, absent]
      exact listed false rest follows

private theorem upper_add : Text.upper "ADD" = "ADD" :=
  rfl

private theorem upper_drop : Text.upper "DROP" = "DROP" :=
  rfl

private theorem reads_addColumn (table : String) (column : Column) :
    Reads alterTable
      (.word "TABLE" :: .word table :: .word "ADD" :: .word "COLUMN" :: column.tokens)
      (.addColumn table column) (isReserved table = false ∧ isReserved column.name = false)
      Closes := by
  unfold alterTable
  refine Reads.afterKeyword (Text.sameFolded_refl _) (Reads.afterName (Reads.afterIdentifier ?_))
  refine Reads.afterKeyword (Text.sameFolded_refl _) ?_
  simp only [upper_add]
  exact (reads_column column).made _

private theorem reads_dropColumn (table column : String) :
    Reads alterTable
      [.word "TABLE", .word table, .word "DROP", .word "COLUMN", .word column]
      (.dropColumn table column) (isReserved table = false ∧ isReserved column = false)
      Anything := by
  unfold alterTable
  refine Reads.afterKeyword (Text.sameFolded_refl _) (Reads.afterName (Reads.afterIdentifier ?_))
  refine Reads.afterKeyword (Text.sameFolded_refl _) ?_
  simp only [upper_drop]
  exact (reads_name column).made _

private theorem reads_insert {table : String} {columns : List String} {placeholders : Nat}
    (inhabited : columns ≠ []) (positive : placeholders ≠ 0) :
    Reads insert (.word "INTO" :: .word table ::
      (enclosed (columns.map fun c => [.word c]) ++
        .word "VALUES" :: enclosed (List.replicate placeholders [.placeholder])))
      (.insert table columns placeholders)
      (isReserved table = false ∧ ∀ c ∈ columns, isReserved c = false) Anything := by
  have names := reads_parenthesized inhabited fun c _ rest _ => reads_name c rest trivial
  have marks : Reads (parenthesized (token .placeholder))
      (enclosed ((List.replicate placeholders ()).map fun _ => [.placeholder]))
      (List.replicate placeholders ()) (∀ _ ∈ List.replicate placeholders (), True) Anything :=
    reads_parenthesized (by simpa using positive)
      fun _ _ rest _ => reads_token .placeholder rest trivial
  have made := marks.made fun marks => Statement.insert table columns marks.length
  rw [List.map_replicate, List.length_replicate] at made
  unfold Parser.insert
  refine Reads.afterKeyword (Text.sameFolded_refl _) (Reads.afterName ?_)
  have both := names.bind (f := fun columns => keyword "VALUES" >>= fun _ =>
    parenthesized (token .placeholder) >>= fun marks =>
      pure (Statement.insert table columns marks.length))
    (Reads.afterKeyword (Text.sameFolded_refl _) made) fun _ _ => trivial
  exact both.congr (and_iff_left fun _ _ => trivial)

private theorem reads_delete (table : String) :
    Reads delete [.word "FROM", .word table] (.delete table none)
      (isReserved table = false ∧ True) Finished := by
  unfold delete
  refine Reads.afterKeyword (Text.sameFolded_refl _) (Reads.afterName (reads_of_eq ?_))
  rintro rest rfl
  rfl

private theorem reads_deleteLimit (table : String) (n : Nat) :
    Reads delete [.word "FROM", .word table, .word "LIMIT", .number n] (.delete table (some n))
      (isReserved table = false ∧ True) Finished := by
  have same : Text.sameFolded "LIMIT" "LIMIT" = true := Text.sameFolded_refl _
  unfold delete
  refine Reads.afterKeyword (Text.sameFolded_refl _) (Reads.afterName (reads_of_eq ?_))
  rintro rest rfl
  simp [run_bind, nextIsKeyword, same, skip]
  rfl

private theorem reads_truncate (table : String) :
    Reads truncate [.word "TABLE", .word table] (.truncate table) (isReserved table = false)
      Anything := by
  unfold truncate
  exact Reads.afterKeyword (Text.sameFolded_refl _) ((reads_name table).made _)

theorem finished_closes {rest : List Token} (finished : Finished rest) : Closes rest := by
  cases finished
  intro t head
  cases head

private theorem reads_whole {p : Parser Statement} {us : List Token} {s : Statement} {good : Prop}
    {follow : List Token → Prop} (read : Reads p us s good follow) (ends : follow []) :
    Reads (p >>= fun s => finish >>= fun _ => pure s) us s good Finished := by
  have last : Reads (finish >>= fun _ => pure s) [] s True Finished := by
    refine reads_of_eq ?_
    rintro rest rfl
    rfl
  have both := read.bind (f := fun s => finish >>= fun _ => pure s) last ?_
  · rw [List.append_nil] at both
    exact both.congr (and_iff_left trivial)
  · rintro rest rfl
    exact ends

/-- The tokens of a statement are read as the statement exactly if its names are free. -/
private theorem reads_statement {s : Statement} (complete : s.Complete) :
    Reads statement s.tokens s (∀ n ∈ s.names, isReserved n = false) Finished := by
  have create : Text.upper "CREATE" = "CREATE" := rfl
  have alter : Text.upper "ALTER" = "ALTER" := rfl
  have insert : Text.upper "INSERT" = "INSERT" := rfl
  have delete : Text.upper "DELETE" = "DELETE" := rfl
  have truncate : Text.upper "TRUNCATE" = "TRUNCATE" := rfl
  cases s with
  | createTable table ifNotExists columns =>
    refine Reads.afterIdentifier ?_
    simp only [create]
    exact (reads_whole (reads_createTable complete) trivial).congr (by simp [Statement.names])
  | addColumn table column =>
    refine Reads.afterIdentifier ?_
    simp only [alter]
    exact (reads_whole (reads_addColumn table column) (finished_closes rfl)).congr
      (by simp [Statement.names])
  | dropColumn table column =>
    refine Reads.afterIdentifier ?_
    simp only [alter]
    exact (reads_whole (reads_dropColumn table column) trivial).congr (by simp [Statement.names])
  | insert table columns placeholders =>
    refine Reads.afterIdentifier ?_
    simp only [insert]
    exact (reads_whole (reads_insert complete.1 complete.2) trivial).congr
      (by simp [Statement.names])
  | delete table limit =>
    cases limit with
    | none =>
      refine Reads.afterIdentifier ?_
      simp only [delete]
      exact (reads_whole (reads_delete table) rfl).congr (by simp [Statement.names])
    | some n =>
      refine Reads.afterIdentifier ?_
      simp only [delete]
      exact (reads_whole (reads_deleteLimit table n) rfl).congr (by simp [Statement.names])
  | truncate table =>
    refine Reads.afterIdentifier ?_
    simp only [truncate]
    exact (reads_whole (reads_truncate table) trivial).congr (by simp [Statement.names])

variable {s : Statement}

private theorem parse_of_tokens (words : ∀ n ∈ s.names, isWord n = true) (complete : s.Complete) :
    ((∀ n ∈ s.names, isReserved n = false) → parse s.text = .ok s) ∧
      (¬ (∀ n ∈ s.names, isReserved n = false) → ∃ e, parse s.text = .error e) := by
  obtain ⟨free, bound⟩ := reads_statement complete [] rfl
  rw [List.append_nil] at free bound
  have ran : parse s.text = (statement s.tokens >>= fun found => .ok found.1) := by
    rw [parse, tokenize_text words complete]
    rfl
  rw [ran]
  refine ⟨fun held => by rw [free held]; rfl, fun fails => ?_⟩
  obtain ⟨e, failed⟩ := bound fails
  exact ⟨e, by rw [failed]; rfl⟩

/-- The text of a statement is read back as the statement. -/
theorem parse_text (names : ∀ n ∈ s.names, isName n = true) (complete : s.Complete) :
    parse s.text = .ok s :=
  (parse_of_tokens (fun n mem => (isName_iff.1 (names n mem)).1) complete).1
    fun n mem => (isName_iff.1 (names n mem)).2

/-- A text that is written for a statement is never read as another one. -/
theorem eq_of_parse_text {t : Statement} (words : ∀ n ∈ s.names, isWord n = true)
    (complete : s.Complete) (read : parse s.text = .ok t) : t = s := by
  obtain ⟨free, bound⟩ := parse_of_tokens words complete
  by_cases held : ∀ n ∈ s.names, isReserved n = false
  · rw [free held] at read
    cases read
    rfl
  · obtain ⟨e, failed⟩ := bound held
    rw [failed] at read
    cases read

end RecordSink.Sql
