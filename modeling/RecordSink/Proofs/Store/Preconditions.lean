import RecordSink.Proofs.Store.Causes
import RecordSink.Proofs.Store.Runs

/-! Mistakes of the caller: a table without a name, and fields that would share a column or take the
key column. They are found out before the database is asked for anything, and nothing that the
database does is taken for one. -/
namespace RecordSink

namespace Record

variable {r : Record} {naming : Naming}

/-- Two fields would share a column, or one would take the key column, where letter case makes no
difference. -/
def Collides (r : Record) (naming : Naming) : Prop :=
  (∃ field ∈ r.fields.map Prod.fst, Text.upper (naming field) = Text.upper keyColumn) ∨
    ∃ field ∈ r.fields.map Prod.fst, ∃ other ∈ r.fields.map Prod.fst,
      field ≠ other ∧ Text.upper (naming field) = Text.upper (naming other)

/-- What a mistake says about a record is so: the field takes the key column, or the column of a
field before it. -/
inductive Tells (r : Record) (naming : Naming) : Precondition → Prop where
  | key {field : String} (among : field ∈ r.fields.map Prod.fst)
      (same : Text.upper (naming field) = Text.upper keyColumn) :
      Tells r naming (.fieldNamedAsKey field)
  | shared {before after : List String} {field other : String}
      (split : r.fields.map Prod.fst = before ++ field :: after) (earlier : other ∈ before)
      (same : Text.upper (naming other) = Text.upper (naming field)) :
      Tells r naming (.sharedColumn field (naming field))

theorem Tells.collides {p : Precondition} (tells : r.Tells naming p) : r.Collides naming := by
  cases tells with
  | @key field among same => exact .inl ⟨field, among, same⟩
  | @shared before after field other split earlier same =>
    have once : (before ++ field :: after).Nodup := split ▸ r.nodup
    have apart : other ≠ field := by
      rintro rfl
      exact List.disjoint_of_nodup_append once earlier (.head _)
    refine .inr ⟨other, ?_, field, ?_, apart, same⟩
    · rw [split]
      exact List.mem_append_left _ earlier
    · rw [split]
      exact List.mem_append_right _ (.head _)

/-- A field that is rejected takes the key column, or one that is taken already or by a field before
it. -/
private theorem columnsOf_error {taken : List String} {fields : NamedValues} {p : Precondition}
    (refused : columnsOf naming taken fields = .error p) :
    (∃ field ∈ fields.map Prod.fst, Text.upper (naming field) = Text.upper keyColumn ∧
      p = .fieldNamedAsKey field) ∨
    ∃ before field after, fields.map Prod.fst = before ++ field :: after ∧
      (∃ column ∈ before.map naming ++ taken, Text.upper column = Text.upper (naming field)) ∧
      p = .sharedColumn field (naming field) := by
  induction fields generalizing taken with
  | nil => cases refused
  | cons entry fields ih =>
    obtain ⟨field, value⟩ := entry
    rw [columnsOf] at refused
    by_cases key : Text.sameFolded (naming field) keyColumn = true
    · rw [if_pos key] at refused
      cases refused
      exact .inl ⟨field, .head _, by simpa [Text.sameFolded] using key, rfl⟩
    · by_cases shared : (taken.any fun other => Text.sameFolded other (naming field)) = true
      · rw [if_neg key, if_pos shared] at refused
        cases refused
        obtain ⟨column, held, same⟩ := List.any_eq_true.1 shared
        exact .inr ⟨[], field, _, rfl, ⟨column, held, by simpa [Text.sameFolded] using same⟩, rfl⟩
      · rw [if_neg key, if_neg shared] at refused
        -- What collides with this column later collides with that of a field before it.
        cases later : columnsOf naming (naming field :: taken) fields with
        | ok columns =>
          rw [later] at refused
          cases refused
        | error p' =>
          rw [later] at refused
          obtain rfl : p' = p := Except.error.inj refused
          rcases ih later with
            ⟨other, among, same⟩ | ⟨before, other, after, split, ⟨column, held, same⟩, told⟩
          · exact .inl ⟨other, .tail _ among, same⟩
          · have moved : column ∈ (field :: before).map naming ++ taken := by
              rcases List.mem_append.1 held with earlier | there
              · exact List.mem_append_left _ (.tail _ earlier)
              · rcases List.mem_cons.1 there with rfl | before_all
                · exact List.mem_append_left _ (.head _)
                · exact List.mem_append_right _ before_all
            exact .inr ⟨field :: before, other, after, congrArg (List.cons field) split,
              ⟨column, moved, same⟩, told⟩

theorem tells_of_error {p : Precondition} (refused : r.columns naming = .error p) :
    r.Tells naming p := by
  rcases columnsOf_error refused with
    ⟨field, among, same, rfl⟩ | ⟨before, field, after, split, ⟨column, held, same⟩, rfl⟩
  · exact .key among same
  · rw [List.append_nil] at held
    obtain ⟨other, earlier, rfl⟩ := List.mem_map.1 held
    exact .shared split earlier same

theorem not_collides_of_ok {columns : NamedValues} (named : r.columns naming = .ok columns) :
    ¬ r.Collides naming := by
  obtain ⟨rfl, once⟩ := columns_folded named
  have names : (r.renamed naming).map Prod.fst = (r.fields.map Prod.fst).map naming := by
    simp [renamed]
  rw [names, List.map_cons, List.nodup_cons, List.map_map] at once
  rintro (⟨field, among, same⟩ | ⟨field, among, other, among', apart, same⟩)
  · exact once.1 (List.mem_map.2 ⟨field, among, same⟩)
  · exact apart (List.inj_on_of_nodup_map once.2 among among' same)

/-- A record is rejected exactly if its fields collide. -/
theorem columns_error_iff : (∃ p, r.columns naming = .error p) ↔ r.Collides naming := by
  refine ⟨fun ⟨p, refused⟩ => (tells_of_error refused).collides, fun collides => ?_⟩
  cases named : r.columns naming with
  | error p => exact ⟨p, rfl⟩
  | ok columns => exact absurd collides (not_collides_of_ok named)

end Record

/-! ## Operations on a record whose fields do not collide -/

namespace Action

variable {naming : Naming} {r : Record} {columns : NamedValues}

theorem blameless_insertRecord (named : r.columns naming = .ok columns) (table : String)
    (timestamp : Int64) : Blameless (insertRecord naming table r timestamp) := by
  rw [insertRecord, named]
  apply blameless_onConnection
  exact (Dialogue.Talk.executeWith _ _).bind fun _ => .commit

theorem blameless_ensureColumns (named : r.columns naming = .ok columns) (typing : Typing)
    (table : String) : Blameless (ensureColumns naming typing table r) := by
  rw [ensureColumns, named]
  apply blameless_onConnection
  exact (Dialogue.Talk.columns table).bind fun live =>
    Dialogue.talk_ensureEach typing table live columns

theorem blameless_reconcile (named : r.columns naming = .ok columns) (typing : Typing)
    (table : String) : Blameless (reconcile naming typing table r) := by
  apply Blameless.bind (blameless_onConnection (Dialogue.talk_ensureTable table))
  intro created
  exact (blameless_ensureColumns named typing table).bind fun changes => blameless_pure _

end Action

namespace Site

variable {m : Mapping} {o : Options} {table : String} {r : Record} {s after : Site}
variable {failures : List Failure} {outcome : Outcome} {n left : Nat} {columns : NamedValues}

/-- A record whose fields do not collide is not given up for a mistake of the caller. -/
theorem Attempts.blameless (attempts : Attempts m table r n left s failures outcome after)
    (named : r.columns m.naming = .ok columns) {k : Nat} {why : Failure}
    (given_up : outcome = .abandoned k why) : why.category ≠ .precondition := by
  have insert := Action.blameless_insertRecord named table
  have reconcile := Action.blameless_reconcile named m.typing table
  induction attempts with
  | stored inserted => cases given_up
  | givenUp failed =>
    cases given_up
    exact insert _ (Action.attempt_error_iff.1 failed)
  | unreconciled failed refused =>
    cases given_up
    exact reconcile (Action.attempt_error_iff.1 refused)
  | again failed reconciled rest ih => exact ih given_up

theorem write_blank (blank : Text.trim o.tableName = "") :
    write m o r s = (.abandoned 0 (.of (.precondition .blankTable)), s) := by
  have refused : o.table m.naming = .error .blankTable := by
    rw [Options.table, blank]
    rfl
  rw [write, refused]

theorem table_of_named (named : Text.trim o.tableName ≠ "") :
    o.table m.naming = .ok (m.naming (o.tablePrefix ++ Text.trim o.tableName)) := by
  have filled : (Text.trim o.tableName).isEmpty = false := by
    simpa using named
  rw [Options.table, filled]
  rfl

/-- A record that is given up for a mistake of the caller has no table, or its fields collide. -/
theorem mistake_of_write {k : Nat} {why : Failure} (given_up : (write m o r s).1 = .abandoned k why)
    (mistake : why.category = .precondition) :
    Text.trim o.tableName = "" ∨ r.Collides m.naming := by
  by_cases blank : Text.trim o.tableName = ""
  · exact .inl blank
  · refine .inr (Record.columns_error_iff.1 ?_)
    cases named : r.columns m.naming with
    | error p => exact ⟨p, rfl⟩
    | ok columns =>
      rw [write_eq (table_of_named blank)] at given_up
      exact absurd mistake ((attempts_tryWrite 1 maxRetries s).blameless named given_up)

/-- **Mistakes are found out before the database is asked for anything, and only they are.** A
record is given up for a mistake of the caller exactly if the name of the table is blank, and then
nothing is attempted, or if fields collide, and then there is one attempt. In both cases the outcome
does not depend on the database at all, its connections and its pending faults included, and leaves
it as it was; of the clock one timestamp is taken for the attempt. -/
theorem mistakes_before_requests (m : Mapping) (o : Options) (r : Record) (clock : Clock) :
    (∀ db, (∃ n why, (write m o r ⟨clock, db⟩).1 = .abandoned n why ∧
        why.category = .precondition) ↔
      Text.trim o.tableName = "" ∨ r.Collides m.naming) ∧
    (Text.trim o.tableName = "" → ∀ db,
      write m o r ⟨clock, db⟩ = (.abandoned 0 (.of (.precondition .blankTable)), ⟨clock, db⟩)) ∧
    (Text.trim o.tableName ≠ "" → r.Collides m.naming →
      ∃ p, r.Tells m.naming p ∧ ∀ db,
        write m o r ⟨clock, db⟩ = (.abandoned 1 (.of (.precondition p)), ⟨clock.advance, db⟩)) := by
  have collided : Text.trim o.tableName ≠ "" → r.Collides m.naming →
      ∃ p, r.Tells m.naming p ∧ ∀ db,
        write m o r ⟨clock, db⟩ = (.abandoned 1 (.of (.precondition p)), ⟨clock.advance, db⟩) := by
    intro named collides
    obtain ⟨p, refused⟩ := Record.columns_error_iff.2 collides
    exact ⟨p, Record.tells_of_error refused, fun db => write_rejected (table_of_named named) refused⟩
  refine ⟨fun db => ⟨?_, ?_⟩, fun blank db => write_blank blank, collided⟩
  · rintro ⟨n, why, given_up, mistake⟩
    exact mistake_of_write given_up mistake
  · intro mistaken
    by_cases blank : Text.trim o.tableName = ""
    · exact ⟨0, _, congrArg Prod.fst (write_blank blank), rfl⟩
    · obtain ⟨p, -, outcome⟩ := collided blank (mistaken.resolve_left blank)
      exact ⟨1, _, congrArg Prod.fst (outcome db), rfl⟩

/-- Two fields whose columns differ in letter case only are given up on any database. -/
theorem folded_fields_given_up :
    let r : Record := ⟨[("a b", .integer 1), ("A_B", .integer 2)], by decide⟩
    let clock := Clock.start fun _ => 5
    r.Collides .standard ∧ ∃ p, ∀ db, write .standard (.standard "t") r ⟨clock, db⟩ =
      (.abandoned 1 (.of (.precondition p)), ⟨clock.advance, db⟩) := by
  intro r clock
  have collides : r.Collides .standard :=
    .inr ⟨"a b", .head _, "A_B", .tail _ (.head _), by decide, by decide +kernel⟩
  have named : Text.trim (Options.standard "t").tableName ≠ "" := by decide +kernel
  obtain ⟨-, -, collided⟩ := mistakes_before_requests .standard (.standard "t") r clock
  obtain ⟨p, -, outcome⟩ := collided named collides
  exact ⟨collides, p, outcome⟩

end Site
end RecordSink
