/-!
Lists of entries by name, in the order in which the names were first put. Tables, fault counts,
settings and held connections are kept this way.
-/
namespace RecordSink

/-- Entries by name. -/
abbrev Entries (α : Type) := List (String × α)

namespace Entries

/-- The entries with the one of this name replaced, or added at the end. -/
def put (name : String) (a : α) : Entries α → Entries α
  | [] => [(name, a)]
  | (n, b) :: rest => if n = name then (name, a) :: rest else (n, b) :: put name a rest

/-- The entries without those of this name. -/
def remove (name : String) (entries : Entries α) : Entries α :=
  entries.filter fun (n, _) => n != name

/-- Entries in ascending order with this one put in its place; it replaces one of the same name. -/
def sortedPut (name : String) (a : α) : Entries α → Entries α
  | [] => [(name, a)]
  | (n, b) :: rest =>
    if n = name then (name, a) :: rest
    else if name < n then (name, a) :: (n, b) :: rest
    else (n, b) :: sortedPut name a rest

/-- The entries in ascending order of names; the last one of a name counts. -/
def sorted (entries : Entries α) : Entries α :=
  entries.foldl (fun done (name, a) => sortedPut name a done) []

/-- An entry that is put is found under its name and changes no other. -/
theorem lookup_put (name other : String) (a : α) (entries : Entries α) :
    (put name a entries).lookup other =
      if other = name then some a else entries.lookup other := by
  induction entries with
  | nil =>
    by_cases h : other = name
    · simp [put, h]
    · simp [put, List.lookup_cons, beq_eq_false_iff_ne.2 h, h]
  | cons entry rest ih =>
    obtain ⟨n, b⟩ := entry
    by_cases hn : n = name
    · subst hn
      by_cases h : other = n <;> simp [put, List.lookup_cons, beq_eq_false_iff_ne.2, h]
    · by_cases h : other = n
      · subst h
        simp [put, hn]
      · simp only [put, hn, if_false, List.lookup_cons, beq_eq_false_iff_ne.2 h, ih]

/-- Where an entry is put makes no difference to what is found. -/
theorem lookup_sortedPut (name other : String) (a : α) (entries : Entries α) :
    (sortedPut name a entries).lookup other =
      if other = name then some a else entries.lookup other := by
  induction entries with
  | nil => by_cases h : other = name <;> simp [sortedPut, List.lookup_cons, beq_eq_false_iff_ne.2, h]
  | cons entry rest ih =>
    obtain ⟨n, b⟩ := entry
    by_cases same : n = name
    · subst same
      by_cases h : other = n <;> simp [sortedPut, List.lookup_cons, beq_eq_false_iff_ne.2, h]
    · by_cases before : name < n
      · by_cases h : other = name
        · simp [sortedPut, same, before, h]
        · simp [sortedPut, same, before, List.lookup_cons, beq_eq_false_iff_ne.2 h, h]
      · by_cases h : other = n
        · subst h
          simp [sortedPut, same, before]
        · simp only [sortedPut, same, before, if_false, List.lookup_cons,
            beq_eq_false_iff_ne.2 h, ih]

/-- Putting an entry keeps the names distinct. -/
theorem nodup_put (name : String) (a : α) {entries : Entries α}
    (h : (entries.map Prod.fst).Nodup) : ((put name a entries).map Prod.fst).Nodup := by
  have mem : ∀ {n} {l : Entries α}, n ∈ (put name a l).map Prod.fst → n = name ∨ n ∈ l.map Prod.fst := by
    intro n l
    induction l with
    | nil => simp [put]
    | cons entry rest ih =>
      obtain ⟨m, b⟩ := entry
      by_cases hm : m = name
      · subst hm
        simp only [put, if_true, List.map_cons, List.mem_cons]
        exact fun h => Or.inr h
      · simp only [put, hm, if_false, List.map_cons, List.mem_cons]
        grind
  induction entries with
  | nil => simp [put]
  | cons entry rest ih =>
    obtain ⟨m, b⟩ := entry
    simp only [List.map_cons, List.nodup_cons] at h
    by_cases hm : m = name
    · subst hm
      simpa [put] using h
    · simp only [put, hm, if_false, List.map_cons, List.nodup_cons]
      refine ⟨fun hmem => ?_, ih h.2⟩
      rcases mem hmem with rfl | hmem
      · exact hm rfl
      · exact h.1 hmem

end Entries
end RecordSink
