import RecordSink.Proofs.Retention.Trims
import RecordSink.Proofs.Store.Deployments
import RecordSink.Proofs.Store.Runs
import RecordSink.Proofs.Table.Timestamps

/-! The order of rows. On a database that only a store writes to, the timestamps of every table
increase from row to row up to the last one of the clock, whatever is delivered, changed, trimmed or
made to fail in between. So no insert meets a key that is taken, and the rows that a run of
retention takes from the front are the oldest ones. -/
namespace RecordSink

/-- Well-formed tables that are all chronological. -/
structure Catalog.Chronological (c : Catalog) (latest : Int64) : Prop where
  well : c.WellFormed
  tables : ∀ name t, c.get? name = some t → t.Chronological latest

namespace Catalog

variable {c d : Catalog} {name : String} {t u : Table} {row : Row} {values : NamedValues}
variable {latest n : Int64}

theorem chronological_empty : empty.Chronological latest :=
  ⟨wellFormed_empty, by simp [empty, get?]⟩

theorem Chronological.mono (chronological : c.Chronological latest) (later : latest ≤ n) :
    c.Chronological n :=
  ⟨chronological.well, fun name t held => (chronological.tables name t held).mono later⟩

theorem Chronological.set (chronological : c.Chronological latest)
    (named : Sql.isName name = true) (formed : t.WellFormed) (ordered : t.Chronological latest) :
    (c.set name t).Chronological latest := by
  refine ⟨chronological.well.set named formed, fun other u held => ?_⟩
  rw [get?_set] at held
  by_cases same : other = name
  · rw [if_pos same, Option.some.injEq] at held
    exact held ▸ ordered
  · rw [if_neg same] at held
    exact chronological.tables other u held

/-- A statement that changes one table keeps all of them chronological. -/
theorem Chronological.change (chronological : c.Chronological latest)
    (held : c.get? name = some t) (change : t.Change u) : (c.set name u).Chronological latest := by
  have formed := chronological.well.tables name t held
  have ordered := chronological.tables name t held
  exact chronological.set (chronological.well.named name t held)
    (Table.wellFormed_change formed change) (ordered.change formed change)

theorem Chronological.reshape {table : String} {names : List String}
    (chronological : c.Chronological latest) (step : c.Reshape table names d) :
    d.Chronological latest := by
  cases step with
  | created absent named made =>
    have formed := Table.wellFormed_create made (Nat.le_refl 1)
      (List.forall_mem_singleton.2 Sql.keyColumn_is_name)
    obtain ⟨-, rfl⟩ := Table.create_ok_iff.1 made
    exact chronological.set named formed ⟨⟨_, rfl, rfl, rfl⟩, .nil, nofun⟩
  | @gained t name type u held among named added =>
    have plain : (Column.plain name type).primaryKey = false := rfl
    exact chronological.change held (.gained plain named added)
  | lost held among dropped => exact chronological.change held (.lost dropped)

theorem Chronological.reshaped {table : String} {names : List String}
    (chronological : c.Chronological latest)
    (steps : Relation.ReflTransGen (Reshape table names) c d) : d.Chronological latest := by
  induction steps with
  | refl => exact chronological
  | tail _ step ih => exact ih.reshape step

/-- A row with the next timestamp can be added, since its key was checked. -/
theorem Chronological.appendRow (chronological : c.Chronological latest)
    (made : c.rowFor ⟨name, (keyColumn, .long n) :: values⟩ = .ok row) (later : latest ≤ n) :
    (c.appendRow name row).Chronological n := by
  obtain ⟨t, held, fits, fresh⟩ := rowFor_ok_iff.1 made
  have formed := chronological.well.tables name t held
  have ordered := chronological.tables name t held
  have own := ordered.stamped.keyOf_rowOf formed fits
  have longer : (t.grow [row]).WellFormed :=
    Table.wellFormed_grow formed fun other among => ⟨_, List.mem_singleton.1 among ▸ fits⟩
  rw [appendRow_eq_set held]
  exact (chronological.mono later).set (chronological.well.named name t held) longer
    (ordered.grow formed fits later (fresh _ own))

/-- A row with a later timestamp is not refused for its key. -/
theorem Chronological.rowFor_ne_repeatedKey (chronological : c.Chronological latest)
    (later : latest < n) (key : Value) (other : String) :
    c.rowFor ⟨name, (keyColumn, .long n) :: values⟩ ≠ .error (.repeatedKey key other) := by
  intro refused
  obtain ⟨t, row, held, made, own, taken⟩ := rowFor_repeatedKey refused
  have formed := chronological.well.tables name t held
  have ordered := chronological.tables name t held
  rw [ordered.stamped.keyOf_rowOf formed made, Option.some.injEq] at own
  rw [← own, ordered.fresh formed later] at taken
  cases taken

end Catalog

/-! ## Inserts, reconciliations and runs of retention -/

namespace Action

variable {db db' : Database} {table : String} {r : Record} {naming : Naming} {latest n : Int64}

theorem chronological_trim (chronological : db.tables.Chronological latest) (keep : UInt64) :
    ((trim table keep).attempt db).2.tables.Chronological latest := by
  unfold attempt
  rcases trim_cases chronological.well table keep with
    ⟨e, faults, failed⟩ | ⟨-, skipped⟩ | ⟨t, held, trimmed⟩
  · rw [failed]
    exact chronological
  · rw [skipped]
    exact chronological
  · rw [trimmed]
    exact chronological.change held (.emptied _)

variable (word : Sql.isWord table = true)
variable (spelled : ∀ name ∈ (r.renamed naming).map Prod.fst, Sql.isWord name = true)
include word spelled

theorem chronological_reconcile {typing : Typing} {result : Except Failure (List SchemaChange)}
    (chronological : db.tables.Chronological latest)
    (done : (reconcile naming typing table r).attempt db = (result, db')) :
    db'.tables.Chronological latest := by
  have steps := (reshapes_reconcile word spelled typing db).tables
  have after : reached (reconcile naming typing table r db) = db' := by
    unfold attempt at done
    cases ran : reconcile naming typing table r db <;> rw [ran] at done <;> cases done <;> rfl
  exact chronological.reshaped (after ▸ steps)

theorem chronological_inserted (chronological : db.tables.Chronological latest) (later : latest ≤ n)
    (inserted : (insertRecord naming table r n).attempt db = (.ok (), db')) :
    db'.tables.Chronological n := by
  rw [attempt_ok_iff] at inserted
  rcases insertRecord_cases word spelled n db with ⟨e, faults, same, -⟩ | ⟨row, made, same⟩
  · rw [inserted] at same
    cases same
  · rw [inserted] at same
    cases same
    exact chronological.appendRow made later

/-- An insert that fails changes no table, and with a later timestamp it does not fail for its
key. -/
theorem chronological_refused {e : Failure} (chronological : db.tables.Chronological latest)
    (refused : (insertRecord naming table r n).attempt db = (.error e, db')) :
    db'.tables.Chronological latest ∧
      (latest < n → ∀ key name, e.cause ≠ .mismatch (.repeatedKey key name)) := by
  rw [attempt_error_iff] at refused
  rcases insertRecord_cases word spelled n db with ⟨e', faults, same, why⟩ | ⟨row, -, same⟩
  · rw [refused] at same
    cases same
    refine ⟨chronological, fun later key name taken => ?_⟩
    exact chronological.rowFor_ne_repeatedKey later key name (why _ taken)
  · rw [refused] at same
    cases same

end Action

namespace Site

variable {m : Mapping} {table : String} {r : Record} {n left : Nat} {s after : Site}
variable {failures : List Failure} {outcome : Outcome} {latest : Int64}

section Write

variable (word : Sql.isWord table = true)
variable (spelled : ∀ name ∈ (r.renamed m.naming).map Prod.fst, Sql.isWord name = true)
include word spelled

/-- A write keeps the tables chronological. -/
theorem Attempts.chronological (attempts : Attempts m table r n left s failures outcome after)
    (chronological : s.database.tables.Chronological s.clock.last) :
    after.database.tables.Chronological after.clock.last := by
  induction attempts with
  | @stored s db n left inserted =>
    exact Action.chronological_inserted word spelled chronological s.clock.last_le_next inserted
  | @givenUp s e db n left failed =>
    have same := (Action.chronological_refused word spelled chronological failed).1
    exact same.mono s.clock.last_le_next
  | @unreconciled s e e' middle db n left failed refused =>
    have same := (Action.chronological_refused word spelled chronological failed).1
    have changed := Action.chronological_reconcile word spelled same refused
    exact changed.mono s.clock.last_le_next
  | @again s after e middle db changes n left failures outcome failed reconciled rest ih =>
    have same := (Action.chronological_refused word spelled chronological failed).1
    have changed := Action.chronological_reconcile word spelled same reconciled
    exact ih (changed.mono s.clock.last_le_next)

/-- No attempt of a write fails for its key, since no attempt but the last one adds a row. -/
theorem Attempts.ne_repeatedKey (attempts : Attempts m table r n left s failures outcome after)
    (chronological : s.database.tables.Chronological latest) (later : latest < s.clock.next) :
    ∀ e ∈ failures, ∀ key name, e.cause ≠ .mismatch (.repeatedKey key name) := by
  induction attempts with
  | stored inserted => exact List.forall_mem_nil _
  | givenUp failed =>
    have fresh := (Action.chronological_refused word spelled chronological failed).2
    exact List.forall_mem_singleton.2 (fresh later)
  | unreconciled failed refused =>
    have fresh := (Action.chronological_refused word spelled chronological failed).2
    exact List.forall_mem_singleton.2 (fresh later)
  | @again s after e middle db changes n left failures outcome failed reconciled rest ih =>
    obtain ⟨same, fresh⟩ := Action.chronological_refused word spelled chronological failed
    have changed := Action.chronological_reconcile word spelled same reconciled
    refine List.forall_mem_cons.2 ⟨fresh later, ih changed ?_⟩
    exact Int64.lt_of_lt_of_le later s.clock.advance.last_le_next

end Write

section WriteAll

variable {o : Options} (standard : m.naming = .standard)
include standard

theorem chronological_write (chronological : s.database.tables.Chronological s.clock.last) :
    (write m o r s).2.database.tables.Chronological (write m o r s).2.clock.last := by
  unfold write
  cases target : o.table m.naming with
  | error p => exact chronological
  | ok table =>
    have word := word_of_table (standard ▸ target)
    have spelled : ∀ name ∈ (r.renamed m.naming).map Prod.fst, Sql.isWord name = true := by
      rw [standard]
      exact r.isWord_renamed
    exact (attempts_tryWrite 1 maxRetries s).chronological word spelled chronological

theorem chronological_writeAll (records : List Record)
    (chronological : s.database.tables.Chronological s.clock.last) :
    (writeAll m o records s).2.database.tables.Chronological
      (writeAll m o records s).2.clock.last := by
  induction records generalizing s with
  | nil => exact chronological
  | cons r records ih =>
    rw [writeAll_cons]
    exact ih (chronological_write standard chronological)

end WriteAll
end Site

namespace Deployment

variable {σ : Type} {d : Deployment σ}

/-- Names are standard, and the tables are chronological up to the last timestamp of the clock. -/
structure Chronological (d : Deployment σ) : Prop where
  standard : d.store.mapping.naming = .standard
  tables : d.database.tables.Chronological d.store.clock.last

theorem chronological_performAll {latest : Int64} {db : Database} (firings : List Firing)
    (chronological : db.tables.Chronological latest) :
    (Firing.performAll firings db).tables.Chronological latest := by
  induction firings generalizing db with
  | nil => exact chronological
  | cons f firings ih => exact ih (Action.chronological_trim chronological f.plan.keep)

/-- Every event keeps a deployment chronological. -/
theorem Chronological.after (e : Event) (chronological : d.Chronological) :
    (d.after e).Chronological := by
  obtain ⟨standard, tables⟩ := chronological
  cases e with
  | deliver batch => exact ⟨standard, Site.chronological_writeAll standard batch tables⟩
  | update o =>
    rcases d.after_update_cases o with same | ⟨scheduler, same⟩
    all_goals
      rw [same]
      exact ⟨standard, tables⟩
  | advance span => exact ⟨standard, chronological_performAll _ tables⟩
  | trim table keep => exact ⟨standard, Action.chronological_trim tables keep⟩
  | deactivate => exact ⟨standard, tables⟩
  | observe wall => exact ⟨standard, tables⟩
  | request r =>
    have same := Pool.tables_of_step (d.pool.step_serve r.1) r.2
    refine ⟨standard, ?_⟩
    exact same.symm ▸ tables

/-- A deployment whose rows are in the order of their timestamps, with what follows for what comes
next. -/
structure InOrder (d : Deployment σ) : Prop where
  /-- Every row has a timestamp, larger than those before it and not larger than the last of the
  clock. -/
  rows : ∀ name t, (name, t) ∈ d.database.tables.entries →
    t.timestamps.length = t.rows.length ∧ t.timestamps.Pairwise (· < ·) ∧
      ∀ n ∈ t.timestamps, n ≤ d.store.clock.last
  /-- Whichever records are delivered before it, the write of a record that is delivered next comes
  to its outcome by attempts with these failures of its inserts. None of them fails for its key,
  unless the clock is at its end. -/
  inserts : ∀ before r table s, d.store.options.table d.store.mapping.naming = .ok table →
    s = (Site.writeAll d.store.mapping d.store.options before ⟨d.store.clock, d.database⟩).2 →
    let failures := s.refusals d.store.mapping table r Site.maxRetries
    let (outcome, after) := s.write d.store.mapping d.store.options r
    Site.Attempts d.store.mapping table r 1 Site.maxRetries s failures outcome after ∧
      (s.clock.last ≠ Int64.maxValue →
        ∀ e ∈ failures, ∀ key name, e.cause ≠ .mismatch (.repeatedKey key name))
  /-- A run of retention that answers with a number takes that many rows, the oldest of its
  table. -/
  trims : ∀ table keep n db, (Action.trim table keep).attempt d.database = (.ok (.deleted n), db) →
    (∃ t u, d.database.tables.get? table = some t ∧ db.tables.get? table = some u ∧
      t.LosesOldest n u) ∧
    ∀ other, other ≠ table → db.tables.get? other = d.database.tables.get? other

theorem Chronological.inOrder (chronological : d.Chronological) : d.InOrder := by
  obtain ⟨standard, tables⟩ := chronological
  refine ⟨fun name t held => ?_, ?_, ?_⟩
  · have there := (Catalog.mem_entries_iff tables.well.once).1 held
    have ordered := tables.tables name t there
    exact ⟨ordered.stamped.length_timestamps (tables.well.tables name t there), ordered.increasing,
      ordered.bounded⟩
  · intro before r table s target reached
    have word := Site.word_of_table (standard ▸ target)
    have spelled : ∀ name ∈ (r.renamed d.store.mapping.naming).map Prod.fst,
        Sql.isWord name = true := by
      rw [standard]
      exact r.isWord_renamed
    have ordered : s.database.tables.Chronological s.clock.last :=
      reached ▸ Site.chronological_writeAll standard before tables
    have attempts : Site.Attempts d.store.mapping table r 1 Site.maxRetries s _ _ _ :=
      Site.attempts_tryWrite 1 Site.maxRetries s
    rw [← Site.write_eq target] at attempts
    exact ⟨attempts, fun left =>
      attempts.ne_repeatedKey word spelled ordered (Clock.last_lt_next left)⟩
  · intro table keep n db done
    rw [Action.attempt_ok_iff] at done
    rcases Action.trim_cases tables.well table keep with
      ⟨e, faults, failed⟩ | ⟨-, skipped⟩ | ⟨t, held, trimmed⟩
    · rw [failed] at done
      cases done
    · rw [skipped] at done
      cases done
    · rw [trimmed] at done
      by_cases all : keep = 0
      · rw [if_pos all] at done
        cases done
      · rw [if_neg all] at done
        cases done
        have formed := tables.well.tables table t held
        refine ⟨⟨t, _, held, ?_, (tables.tables table t held).deleteRows formed _⟩, ?_⟩
        · exact (Catalog.get?_set ..).trans (if_pos rfl)
        · intro other apart
          exact (Catalog.get?_set ..).trans (if_neg apart)

/-- In every state that a store with standard names can reach on a database of its own, the rows of
every table are in order. -/
theorem rows_in_order (limit : Nat) (typing : Typing) (o : Options) (wall : Nat → Int64)
    (emit : Emitter σ) (downstream : σ) (now : Instant) (events : List Event) :
    ∃ d, start limit ⟨.standard, typing⟩ o wall emit downstream now = .ok d ∧
      (d.run events).InOrder := by
  obtain ⟨d, started⟩ : ∃ d, start limit ⟨.standard, typing⟩ o wall emit downstream now = .ok d :=
    ⟨_, rfl⟩
  have fresh : d.Chronological := by
    cases started
    exact ⟨rfl, Catalog.chronological_empty⟩
  have reached := run_keeps Chronological fresh (fun e => Chronological.after e) events
  exact ⟨d, started, reached.inOrder⟩

/-- The wall clock goes back and then stands still, an insert is made to fail, a column is replaced
and the first of three rows is taken. -/
theorem rows_in_order_after_trim :
    ∃ d e, start 1 .standard ⟨"t", "WR_", 1000, 1, .once⟩ (fun n => if n = 0 then 9 else 5)
        Emitter.silent () 0 = .ok d ∧
      d.run [.deliver [⟨[("v", .integer 1)], by decide⟩, ⟨[("v", .integer 2)], by decide⟩],
        .request ⟨.inject "INSERT" 1, rfl⟩, .deliver [⟨[("v", .string "x")], by decide⟩],
        .advance 1000] = e ∧
      (e.database.tables.get? "WR_t").map Table.timestamps = some [11, 13] ∧ e.InOrder := by
  obtain ⟨d, started, ordered⟩ := rows_in_order 1 .standard ⟨"t", "WR_", 1000, 1, .once⟩
    (fun n => if n = 0 then 9 else 5) Emitter.silent () 0
    [.deliver [⟨[("v", .integer 1)], by decide⟩, ⟨[("v", .integer 2)], by decide⟩],
      .request ⟨.inject "INSERT" 1, rfl⟩, .deliver [⟨[("v", .string "x")], by decide⟩],
      .advance 1000]
  refine ⟨d, _, started, rfl, ?_, ordered⟩
  cases started
  decide +kernel

end Deployment
end RecordSink
