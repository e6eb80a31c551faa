import RecordSink.Proofs.Database.Servings
import RecordSink.Proofs.Database.WellFormed

/-! Keys stay where they are until a statement takes their rows. Adding and dropping columns leaves
the keys of a table alone and a commit adds to them; only a statement that deletes rows or empties
the table can clear a key. -/
namespace RecordSink

/-- A statement that takes rows from the table of a name. -/
inductive Sql.Statement.TakesFrom (name : String) : Sql.Statement → Prop where
  | delete (limit : Option Nat) : TakesFrom name (.delete name limit)
  | truncate : TakesFrom name (.truncate name)

/-- A statement that takes rows is executed, and takes the last one with this key. -/
structure Serving.Clears (s : Serving) (name : String) (key : Value) : Prop where
  executed : ∃ client sql statement n, s.request = .execute client sql ∧
    Sql.parse sql = .ok statement ∧ statement.TakesFrom name ∧ s.answer = .count n
  there : ∃ t, s.before.tables.get? name = some t ∧ t.hasKey key = true
  gone : ∃ u, s.after.tables.get? name = some u ∧ u.hasKey key = false

namespace Catalog

variable {c d : Catalog} {name other : String} {t u : Table} {key : Value}

/-- The table of a name keeps a key when a table is set that has it. -/
private theorem hasKey_set (held : c.get? name = some t) (keyed : t.hasKey key = true)
    (kept : name = other → u.hasKey key = true) :
    ∃ v, (c.set other u).get? name = some v ∧ v.hasKey key = true := by
  rw [get?_set]
  by_cases same : name = other
  · exact ⟨u, if_pos same, kept same⟩
  · exact ⟨t, (if_neg same).trans held, keyed⟩

/-- Only statements that take rows from a table take a key from it. -/
private theorem hasKey_of_apply {statement : Sql.Statement} {n : Nat} (well : t.WellFormed)
    (held : c.get? name = some t) (keyed : t.hasKey key = true)
    (applied : c.apply statement = .ok (n, d)) :
    (∃ v, d.get? name = some v ∧ v.hasKey key = true) ∨
      (statement.TakesFrom name ∧ ∃ v, d.get? name = some v) := by
  -- A statement about the table of another name leaves this one alone.
  have taken : ∀ {table limit}, (name = table → statement.TakesFrom name) →
      c.deleteRows table limit = .ok (n, d) →
      (∃ v, d.get? name = some v ∧ v.hasKey key = true) ∨
        (statement.TakesFrom name ∧ ∃ v, d.get? name = some v) := by
    intro table limit takes deleted
    obtain ⟨u, -, -, rfl⟩ := deleteRows_ok_iff.1 deleted
    by_cases same : name = table
    · exact .inr ⟨takes same, _, by rw [get?_set, if_pos same]⟩
    · exact .inl (hasKey_set held keyed fun own => absurd own same)
  cases statement with
  | createTable table ifNotExists columns =>
    simp only [apply, map_ok_iff, mapError_ok_iff, Prod.mk.injEq] at applied
    obtain ⟨d, created, -, rfl⟩ := applied
    obtain ⟨-, -, rfl⟩ | ⟨absent, -, u, -, rfl⟩ := create_ok_iff.1 created
    · exact .inl ⟨t, held, keyed⟩
    · refine .inl (hasKey_set held keyed fun same => ?_)
      rw [same, absent] at held
      cases held
  | addColumn table column =>
    simp only [apply, map_ok_iff, mapError_ok_iff, Prod.mk.injEq] at applied
    obtain ⟨d, added, -, rfl⟩ := applied
    obtain ⟨old, there, plain, u, gained, rfl⟩ := addColumn_ok_iff.1 added
    refine .inl (hasKey_set held keyed fun same => ?_)
    rw [← same, held] at there
    cases there
    rw [Table.hasKey_addColumn well plain gained, keyed]
  | dropColumn table column =>
    simp only [apply, map_ok_iff, mapError_ok_iff, Prod.mk.injEq] at applied
    obtain ⟨d, dropped, -, rfl⟩ := applied
    obtain ⟨old, there, u, lost, rfl⟩ := dropColumn_ok_iff.1 dropped
    refine .inl (hasKey_set held keyed fun same => ?_)
    rw [← same, held] at there
    cases there
    rw [Table.hasKey_dropColumn well lost, keyed]
  | insert => cases applied
  | delete table limit =>
    exact taken (fun same => same ▸ .delete limit) (mapError_ok_iff.1 applied)
  | truncate table => exact taken (fun same => same ▸ .truncate) (mapError_ok_iff.1 applied)

end Catalog

namespace Pool

variable {p : Pool} {r : Request} {name : String} {t : Table} {key : Value}

/-- A request leaves a key where it is, or clears it. -/
private theorem hasKey_of_serve (well : p.database.tables.WellFormed)
    (held : p.database.tables.get? name = some t) (keyed : t.hasKey key = true) :
    (∃ u, (p.serve r).2.database.tables.get? name = some u ∧ u.hasKey key = true) ∨
      (p.serving r).Clears name key := by
  have step := step_serve p r
  generalize after : (p.serve r).2 = q at step
  cases step with
  | idle tables => exact .inl ⟨t, tables ▸ held, keyed⟩
  | executed there calm parsed applied =>
    rcases Catalog.hasKey_of_apply (well.tables name t held) held keyed applied with
      kept | ⟨takes, u, found⟩
    · exact .inl kept
    · cases left : u.hasKey key with
      | true => exact .inl ⟨u, found, left⟩
      | false =>
        have served := serve_execute there calm parsed applied
        refine .inr ⟨⟨_, _, _, _, rfl, parsed, takes, congrArg Prod.fst served⟩, ⟨t, held, keyed⟩, u,
          ?_, left⟩
        rw [serving, after]
        exact found
  | staged => exact .inl ⟨t, held, keyed⟩
  | committed there calm committed =>
    obtain ⟨made, -, grown⟩ := Catalog.get?_commit committed
    refine .inl ⟨_, (grown name).trans (by rw [held]; rfl), Table.hasKey_grow keyed⟩

/-- Along a run a key stays until a request clears it. -/
theorem hasKey_of_run (requests : List Request) (well : p.database.tables.WellFormed)
    (held : p.database.tables.get? name = some t) (keyed : t.hasKey key = true) :
    (∃ u, (p.run requests).2.database.tables.get? name = some u ∧ u.hasKey key = true) ∨
      ∃ s ∈ p.servings requests, s.Clears name key := by
  induction requests generalizing p t with
  | nil => exact .inl ⟨t, held, keyed⟩
  | cons r rest ih =>
    rcases @hasKey_of_serve p r name t key well held keyed with ⟨u, there, kept⟩ | clears
    · rcases ih (wellFormed_of_step (step_serve p r) well) there kept with last | ⟨s, later, clears⟩
      · exact .inl last
      · exact .inr ⟨s, .tail _ later, clears⟩
    · exact .inr ⟨_, .head _, clears⟩

end Pool

end RecordSink
