import RecordSink.Proofs.Store.Writes

/-! What later records do to the rows of earlier ones. A row stays where it is, and what it holds
under a name stays too, unless a later record touches the column of that name, which may empty it;
no value ever takes the place of another one. -/
namespace RecordSink

namespace Catalog

/-- What a row holds under a name: nothing if there is no such row or column, or the cell is
empty. -/
def value? (c : Catalog) (table : String) (row : Nat) (name : String) : Option Value :=
  (c.cell? table row name).join

/-- The first rows of a table hold what they held, but may have lost what they held under some
names. -/
def Fades (table : String) (rows : Nat) (names : List String) (before after : Catalog) : Prop :=
  ∀ i < rows, ∀ name, after.value? table i name = before.value? table i name ∨
    name ∈ names ∧ after.value? table i name = none

variable {table : String} {rows fewer : Nat} {names more : List String} {a b c : Catalog}

theorem Fades.refl (a : Catalog) : Fades table rows names a a :=
  fun _ _ _ => .inl rfl

theorem Fades.mono (fades : Fades table rows names a b) (within : fewer ≤ rows)
    (among : names ⊆ more) : Fades table fewer more a b :=
  fun i few name => (fades i (Nat.lt_of_lt_of_le few within) name).imp_right fun lost =>
    ⟨among lost.1, lost.2⟩

theorem Fades.trans (first : Fades table rows names a b) (second : Fades table rows names b c) :
    Fades table rows names a c := by
  intro i few name
  rcases second i few name with same | lost
  · rw [same]
    exact first i few name
  · exact .inr lost

/-- Rows that hold the same in all columns do not fade. -/
theorem fades_of_cells (same : ∀ i < rows, ∀ name,
    b.cell? table i name = a.cell? table i name) : Fades table rows names a b :=
  fun i few name => .inl (congrArg Option.join (same i few name))

theorem cell?_set_self (c : Catalog) (table : String) (t : Table) (i : Nat) (name : String) :
    (c.set table t).cell? table i name = t.cell? i name := by
  rw [cell?, get?_set, if_pos rfl, Option.bind_some]

/-- A change of shape takes values from the columns that it is about, and gives none. -/
theorem fades_of_reshape (well : a.WellFormed) (step : a.Reshape table names b) :
    Fades table rows names a b := by
  cases step with
  | @created t absent named made =>
    obtain ⟨-, rfl⟩ := Table.create_ok_iff.1 made
    refine fades_of_cells fun i _ name => ?_
    have formed := Table.wellFormed_create made (Nat.le_refl 1)
      (List.forall_mem_singleton.2 Sql.keyColumn_is_name)
    rw [cell?_set_self, cell?, absent, Table.cell?_eq formed.width]
    rfl
  | @gained t name type u held among named added =>
    have formed := well.tables _ _ held
    intro i _ other
    rw [value?, cell?_set_self, Table.cell?_addColumn formed rfl named added, value?, cell?, held,
      Option.bind_some]
    by_cases same : other = name
    · refine .inr ⟨same ▸ among, (congrArg Option.join (if_pos same)).trans ?_⟩
      cases t.rows[i]? <;> rfl
    · exact .inl (congrArg Option.join (if_neg same))
  | @lost t name u held among dropped =>
    have formed := well.tables _ _ held
    intro i _ other
    rw [value?, cell?_set_self, Table.cell?_dropColumn formed dropped, value?, cell?, held,
      Option.bind_some]
    by_cases same : other = name
    · exact .inr ⟨same ▸ among, congrArg Option.join (if_pos same)⟩
    · exact .inl (congrArg Option.join (if_neg same))

end Catalog

theorem Database.Reshaped.fades {table : String} {rows : Nat} {names : List String}
    {a b : Database} (reshaped : a.Reshaped table names b) (well : a.tables.WellFormed) :
    Catalog.Fades table rows names a.tables b.tables :=
  reshaped.keeps well (.refl _) fun formed step fades =>
    fades.trans (Catalog.fades_of_reshape formed step)

/-! ## One write -/

/-- What a write leaves of a database: whether it has stored a row, with these values, and the names
of the columns that it may have touched. -/
structure Database.Wrote (table : String) (stored : Bool) (values : NamedValues)
    (names : List String) (before after : Database) : Prop where
  well : after.tables.WellFormed
  /-- There is one more row if one was stored. -/
  rows : after.tables.rowCount table =
    before.tables.rowCount table + if stored then 1 else 0
  /-- The row that was stored is the last one and holds these values and no others. -/
  added : stored = true → ∀ name,
    after.tables.value? table (before.tables.rowCount table) name = values.lookup name
  /-- Earlier rows may have lost what they held in columns that were touched. -/
  earlier : Catalog.Fades table (before.tables.rowCount table) names before.tables after.tables
  others : ∀ other, other ≠ table → after.tables.get? other = before.tables.get? other
  openCount : after.openCount = before.openCount
  limit : after.limit = before.limit

namespace Site

variable {m : Mapping} {table : String} {r : Record} {s after : Site} {outcome : Outcome}
variable {failures : List Failure} {n left : Nat}

theorem Attempts.wrote (word : Sql.isWord table = true)
    (spelled : ∀ name ∈ (r.renamed m.naming).map Prod.fst, Sql.isWord name = true)
    (well : s.database.tables.WellFormed)
    (attempts : Attempts m table r n left s failures outcome after) :
    s.database.Wrote table outcome.isStored (r.rowValues m.naming after.clock.last)
      (r.touches m.naming) after.database := by
  obtain ⟨db, reshaped, ending⟩ := attempts.reshaped word spelled
  have kept := reshaped.kept well
  have fades : Catalog.Fades table (s.database.tables.rowCount table) (r.touches m.naming)
    s.database.tables db.tables := reshaped.fades well
  rcases ending with ⟨k, e, rfl, same⟩ | ⟨k, row, rfl, made, same⟩
  · rw [same]
    exact ⟨kept.well, kept.rows, nofun, fades, kept.others, kept.openCount, kept.limit⟩
  · obtain ⟨t, held, fits, -⟩ := Catalog.rowFor_ok_iff.1 made
    have formed := kept.well.tables _ _ held
    have count : s.database.tables.rowCount table = t.rows.length := by
      rw [← kept.rows, Catalog.rowCount, held]
      rfl
    have there : after.database.tables.get? table = some (t.grow [row]) := by
      rw [same, Catalog.appendRow_eq_set held]
      exact (Catalog.get?_set ..).trans (if_pos rfl)
    have grown : ∀ i name, after.database.tables.value? table i name =
        ((t.grow [row]).cell? i name).join := by
      intro i name
      rw [Catalog.value?, Catalog.cell?, there, Option.bind_some]
    have longer : (t.grow [row]).WellFormed := Table.wellFormed_grow formed fun made among =>
      ⟨_, (List.mem_singleton.1 among).symm ▸ fits⟩
    refine ⟨?_, ?_, fun _ name => ?_, fun i earlier name => ?_, fun other apart => ?_,
      ?_, ?_⟩
    · rw [same, Catalog.appendRow_eq_set held]
      exact kept.well.set (kept.well.named _ _ held) longer
    · rw [Catalog.rowCount, there, count]
      exact List.length_append
    · rw [grown, count, Table.cell?_grow_last formed fits]
      cases found : t.column? name with
      | some c => rfl
      | none =>
        -- A value that was stored has a column, so there is none under this name.
        cases value : (r.rowValues m.naming after.clock.last).lookup name with
        | none => rfl
        | some v =>
          obtain ⟨c, present, -⟩ := (Table.rowOf_ok_iff.1 fits).1.typed _ (mem_of_lookup value)
          cases found.symm.trans present
    · rw [grown, Table.cell?_grow_of_lt (count ▸ earlier)]
      have faded := fades i earlier name
      rw [Catalog.value?, Catalog.cell?, held] at faded
      exact faded
    · rw [same, Catalog.appendRow_eq_set held, ← kept.others other apart]
      exact (Catalog.get?_set ..).trans (if_neg apart)
    · rw [same, ← kept.openCount]
      rfl
    · rw [same, ← kept.limit]
      rfl

end Site
end RecordSink
