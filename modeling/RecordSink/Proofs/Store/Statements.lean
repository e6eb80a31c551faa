import Mathlib.Data.List.DropRight
import RecordSink.Proofs.Sql.Naming
import RecordSink.Proofs.Store.Efforts
import RecordSink.Store.Write

/-! The statements that a store writes, as the database reads them. Each is read back as the
statement that was meant, whatever names, column type and number it is written with. The names
themselves are made from the options and the fields of records, and are names unless such a text is
a reserved word in disguise. -/
namespace RecordSink

namespace Sql

/-- The statement is written as this text, and the text is read as the statement. -/
def Statement.Exchanged (s : Statement) (text : String) : Prop :=
  s.text = text ∧ parse text = .ok s

theorem Statement.exchanged {s : Statement} {text : String} (written : s.text = text)
    (names : ∀ n ∈ s.names, isName n = true) (complete : s.Complete) : s.Exchanged text := by
  constructor
  · exact written
  · rw [← written]
    exact parse_text names complete

end Sql

open Sql

/-- The six statements about a table, a column of it, a list of columns and a number of rows, each
as the text that is exchanged for it. -/
structure StatementTexts (table column : String) (columns : List String) (type : ColumnType)
    (n : UInt64) : Prop where
  create : (createStatement table).Exchanged
    ("CREATE TABLE IF NOT EXISTS " ++ table ++ " (TIMESTAMP BIGINT NOT NULL PRIMARY KEY);")
  created : createStatement table =
    .createTable table true [⟨"TIMESTAMP", .bigInt, true, true⟩]
  add : (Statement.addColumn table ⟨column, type, false, false⟩).Exchanged
    ("ALTER TABLE " ++ table ++ " ADD COLUMN " ++ column ++ " " ++ type.text ++ ";")
  drop : (Statement.dropColumn table column).Exchanged
    ("ALTER TABLE " ++ table ++ " DROP COLUMN " ++ column ++ ";")
  insert : (insertStatement table columns).Exchanged
    ("INSERT INTO " ++ table ++ " (" ++ String.intercalate ", " columns ++ ") VALUES (" ++
      String.intercalate ", " (List.replicate columns.length "?") ++ ");")
  inserted : insertStatement table columns = .insert table columns columns.length
  delete : (Statement.delete table (some n.toNat)).Exchanged
    ("DELETE FROM " ++ table ++ " LIMIT " ++ natText n.toNat ++ ";")
  truncate : (Statement.truncate table).Exchanged ("TRUNCATE TABLE " ++ table ++ ";")

/-- What the statements of a store are written as is read back as what was meant. -/
theorem statement_texts (table column : String) (columns : List String) (type : ColumnType)
    (n : UInt64) (table_ok : isName table = true) (column_ok : isName column = true)
    (some_column : columns ≠ []) (columns_ok : ∀ c ∈ columns, isName c = true) :
    StatementTexts table column columns type n := by
  have pair : ∀ m ∈ [table, column], isName m = true :=
    List.forall_mem_cons.2 ⟨table_ok, List.forall_mem_singleton.2 column_ok⟩
  have single : ∀ m ∈ [table], isName m = true := List.forall_mem_singleton.2 table_ok
  have bound : n.toNat ≤ maxNumber := Nat.le_of_lt_succ n.toNat_lt
  constructor
  case create =>
    refine Statement.exchanged ?_ ?_ (List.cons_ne_nil _ _)
    · have head : "CREATE TABLE " ++ "IF NOT EXISTS " = "CREATE TABLE IF NOT EXISTS " := by
        decide +kernel
      have tail : " (" ++ ("TIMESTAMP BIGINT NOT NULL PRIMARY KEY" ++ ");") =
        " (TIMESTAMP BIGINT NOT NULL PRIMARY KEY);" := by decide +kernel
      change "CREATE TABLE " ++ "IF NOT EXISTS " ++ table ++ " (" ++
        "TIMESTAMP BIGINT NOT NULL PRIMARY KEY" ++ ");" = _
      rw [head, String.append_assoc, String.append_assoc, tail]
    · exact List.forall_mem_cons.2 ⟨table_ok, List.forall_mem_singleton.2 keyColumn_is_name⟩
  case created => rfl
  case add =>
    refine Statement.exchanged ?_ pair trivial
    change "ALTER TABLE " ++ table ++ " ADD COLUMN " ++
      (column ++ " " ++ type.text ++ "" ++ "") ++ ";" = _
    simp only [String.append_empty, String.append_assoc]
  case drop => exact Statement.exchanged rfl pair trivial
  case insert =>
    refine Statement.exchanged rfl (List.forall_mem_cons.2 ⟨table_ok, columns_ok⟩) ⟨some_column, ?_⟩
    exact mt List.length_eq_zero_iff.1 some_column
  case inserted => rfl
  case delete => exact Statement.exchanged rfl single bound
  case truncate => exact Statement.exchanged rfl single trivial

/-- Names that begin like keywords, and the largest number. -/
theorem statement_texts_keywords :
    StatementTexts "IFNOT" "LIMIT1" ["TIMESTAMP", "nulls"] .varchar 0xffffffffffffffff :=
  statement_texts _ _ _ _ _ (by decide +kernel) (by decide +kernel) (List.cons_ne_nil _ _)
    (by decide +kernel)

/-! ## Names -/

private theorem isBlankText_of_trim {s : String} (empty : (Text.trim s).isEmpty = true) :
    Text.isBlankText s = true := by
  rw [String.isEmpty_iff, Text.trim, String.ofList_eq_empty_iff, List.reverse_eq_nil_iff,
    Text.trimStart, List.dropWhile_eq_nil_iff] at empty
  have rest : (s.toList.dropWhile Text.isBlank).dropWhile Text.isBlank = [] := by
    rw [List.dropWhile_eq_nil_iff]
    intro c among
    exact empty c (List.mem_reverse.2 among)
  rw [List.dropWhile_idempotent, List.dropWhile_eq_nil_iff] at rest
  exact List.all_eq_true.2 rest

private theorem table_standard (o : Options) :
    (∃ p, o.table .standard = .error p ∧ Text.isBlankText o.tableName = true) ∨
      o.table .standard = .ok (Naming.standard (o.tablePrefix ++ Text.trim o.tableName)) := by
  unfold Options.table
  dsimp only
  cases blank : (Text.trim o.tableName).isEmpty with
  | true => exact .inl ⟨_, rfl, isBlankText_of_trim blank⟩
  | false => exact .inr rfl

/-- Every name that a store makes is a word, and it is read as a name exactly if the text that it is
made from is no reserved word in disguise: any text, the table of any options, and the columns of
any record. -/
theorem made_names_read_iff (text : String) (o : Options) (r : Record) :
    (isWord (Naming.standard text) = true ∧
      (ReadsAsName (Naming.standard text) ↔ ¬ Disguised text)) ∧
    (match o.table .standard with
      | .error _ => Text.isBlankText o.tableName = true
      | .ok table => ReadsAsName table ↔ ¬ Disguised (o.tablePrefix ++ Text.trim o.tableName)) ∧
    (match r.columns .standard with
      | .error _ => True
      | .ok columns => List.Forall₂
          (fun column field => ReadsAsName column.1 ↔ ¬ Disguised field.1) columns r.fields) := by
  refine ⟨⟨standard_is_word text, readsAsName_standard_iff⟩, ?_, ?_⟩
  · rcases table_standard o with ⟨p, refused, blank⟩ | named
    · rw [refused]
      exact blank
    · rw [named]
      exact readsAsName_standard_iff
  · cases named : r.columns .standard with
    | error p => trivial
    | ok columns =>
      obtain ⟨rfl, -⟩ := Record.columns_ok named
      dsimp only
      rw [Record.renamed, List.forall₂_map_left_iff, List.forall₂_same]
      intro field _
      exact readsAsName_standard_iff

/-- The name that is made of this text is reserved. -/
theorem current_date_refused : Naming.standard "current date" = "current_date" ∧
    ¬ ReadsAsName (Naming.standard "current date") := by
  constructor
  · decide +kernel
  · rw [readsAsName_iff]
    decide +kernel

end RecordSink
