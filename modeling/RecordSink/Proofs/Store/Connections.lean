import RecordSink.Database.Pool
import RecordSink.Proofs.Store.Frugality

/-! Connections of a database. As many are open as its clients hold, and never more than it allows,
whatever the clients request and whatever stores do in between. -/
namespace RecordSink

namespace Entries

variable {α : Type} {entries : Entries α} {name : String}

theorem length_put (a : α) :
    (put name a entries).length = entries.length + if (entries.lookup name).isSome then 0 else 1 := by
  induction entries with
  | nil => rfl
  | cons entry rest ih =>
    obtain ⟨n, b⟩ := entry
    by_cases same : n = name
    · subst same
      simp [put]
    · have other : (name == n) = false := by simpa using Ne.symm same
      simp only [put, same, if_false, List.length_cons, ih, List.lookup_cons, other]
      omega

theorem length_remove (distinct : (entries.map Prod.fst).Nodup)
    (held : (entries.lookup name).isSome = true) :
    (remove name entries).length + 1 = entries.length := by
  induction entries with
  | nil => cases held
  | cons entry rest ih =>
    obtain ⟨n, b⟩ := entry
    obtain ⟨fresh, distinct⟩ := List.nodup_cons.1 distinct
    by_cases same : n = name
    · subst same
      have others : rest.filter (fun e => e.1 != n) = rest :=
        List.filter_eq_self.2 fun e among => by
          simpa using fun equal => fresh (List.mem_map.2 ⟨e, among, equal⟩)
      rw [remove, List.filter_cons_of_neg (by simp)]
      exact congrArg (·.length + 1) others
    · have other : (name == n) = false := by simpa using Ne.symm same
      rw [List.lookup_cons, other] at held
      have rest := ih distinct held
      rw [remove] at rest ⊢
      rw [List.filter_cons_of_pos (by simpa using same), List.length_cons, rest, List.length_cons]

theorem nodup_remove (distinct : (entries.map Prod.fst).Nodup) :
    ((remove name entries).map Prod.fst).Nodup :=
  distinct.sublist (List.filter_sublist.map Prod.fst)

end Entries

namespace Pool

variable {σ : Type} {p : Pool} {limit : Nat}

/-- What can happen to a database: a request of a client, or an operation of a store. -/
inductive Move (σ : Type) where
  | request (r : Request)
  | operate (op : Operation σ)

/-- The pool after something happened. -/
def after (m : Mapping) (p : Pool) : Move σ → Pool
  | .request r => (p.serve r).2
  | .operate op => { p with database := reached (op.action m p.database) }

/-- The pool after several things happened, one after the other. -/
def play (m : Mapping) (p : Pool) (moves : List (Move σ)) : Pool :=
  moves.foldl (after m) p

/-- The connections that are counted as open are those that clients hold, each under a name of its
own, and they are no more than allowed. -/
structure Balanced (limit : Nat) (p : Pool) : Prop where
  counted : p.database.openCount = p.connections.length
  named : (p.connections.map Prod.fst).Nodup
  allowed : p.database.limit = limit
  bounded : p.connections.length ≤ limit

theorem balanced_empty (limit : Nat) : Balanced limit (empty limit) :=
  ⟨rfl, .nil, rfl, Nat.zero_le _⟩

theorem Balanced.talk {α : Type} {d : Dialogue α} (talk : d.Talk) (balanced : Balanced limit p)
    (client : String) (answer : α → Answer) : Balanced limit (p.talk client d answer).2 := by
  unfold Pool.talk
  cases held : p.staged? client with
  | none => exact balanced
  | some staged =>
    obtain ⟨counted, named, allowed, bounded⟩ := balanced
    have same (rows : List StagedRow) :
        (p.connections.put client rows).length = p.connections.length := by
      rw [Entries.length_put, ← staged?, held]
      rfl
    have kept := talk.obeys Database.law_accounts ⟨p.database, staged⟩
    dsimp only
    cases ran : d ⟨p.database, staged⟩ <;> rw [ran] at kept <;>
      exact ⟨(kept.1.trans counted).trans (same _).symm, Entries.nodup_put _ _ named,
        kept.2.trans allowed, Nat.le_trans (Nat.le_of_eq (same _)) bounded⟩

theorem Balanced.connect (balanced : Balanced limit p) (client : String) :
    Balanced limit (p.connect client).2 := by
  obtain ⟨counted, named, allowed, bounded⟩ := balanced
  unfold Pool.connect
  rw [Action.connect_eq]
  cases p.database.faults.strike? "CONNECT" with
  | some rest => exact ⟨counted, named, allowed, bounded⟩
  | none =>
    by_cases free : p.database.openCount < p.database.limit
    · simp only [if_pos free]
      have length : (p.connections.put client []).length =
          p.connections.length + if (p.staged? client).isSome then 0 else 1 :=
        Entries.length_put []
      rw [counted, allowed] at free
      cases held : p.staged? client with
      | none =>
        rw [held] at length
        refine ⟨?_, Entries.nodup_put _ _ named, allowed, ?_⟩
        · simp [length, counted]
        · simp [length]
          omega
      | some rows =>
        rw [held] at length
        refine ⟨?_, Entries.nodup_put _ _ named, allowed, ?_⟩
        · simp [length, counted, Database.release]
        · simp [length, bounded]
    · simp only [if_neg free]
      exact ⟨counted, named, allowed, bounded⟩

theorem Balanced.close (balanced : Balanced limit p) (client : String) :
    Balanced limit (p.close client).2 := by
  unfold Pool.close
  cases held : p.staged? client with
  | none => exact balanced
  | some rows =>
    obtain ⟨counted, named, allowed, bounded⟩ := balanced
    have fewer : (p.connections.remove client).length + 1 = p.connections.length :=
      Entries.length_remove named (by rw [← staged?, held]; rfl)
    refine ⟨?_, Entries.nodup_remove named, allowed, ?_⟩
    · rw [Database.release]
      dsimp only
      omega
    · dsimp only
      omega

theorem Balanced.serve (balanced : Balanced limit p) (r : Request) :
    Balanced limit (p.serve r).2 := by
  cases r with
  | connect client => exact balanced.connect client
  | close client => exact balanced.close client
  | execute client sql => exact balanced.talk (.execute sql) client _
  | executeWith client sql parameters => exact balanced.talk (.executeWith sql parameters) client _
  | commit client => exact balanced.talk .commit client _
  | rollback client => exact balanced.talk .rollback client _
  | tableExists client table => exact balanced.talk (.tableExists table) client _
  | columns client table => exact balanced.talk (.columns table) client _
  | inject verb n => exact ⟨balanced.counted, balanced.named, balanced.allowed, balanced.bounded⟩

theorem Balanced.after (balanced : Balanced limit p) (m : Mapping) (move : Move σ) :
    Balanced limit (p.after m move) := by
  cases move with
  | request r => exact balanced.serve r
  | operate op =>
    obtain ⟨count, most⟩ := (op.frugal m).returned p.database
    exact ⟨count.trans balanced.counted, balanced.named, most.trans balanced.allowed,
      balanced.bounded⟩

theorem Balanced.play (balanced : Balanced limit p) (m : Mapping) (moves : List (Move σ)) :
    Balanced limit (p.play m moves) := by
  induction moves generalizing p with
  | nil => exact balanced
  | cons move rest ih => exact ih (balanced.after m move)

/-- A client gets a connection exactly if no fault strikes and fewer are held than are allowed. -/
theorem Balanced.connects_iff (balanced : Balanced limit p) (client : String) :
    (p.serve (.connect client)).1 = .done ↔
      p.database.faults.pending "CONNECT" = 0 ∧ p.connections.length < limit := by
  rw [← Faults.strike?_eq_none_iff, ← balanced.counted, ← balanced.allowed]
  dsimp only [Pool.serve]
  unfold Pool.connect
  rw [Action.connect_eq]
  cases p.database.faults.strike? "CONNECT" with
  | some rest => simp
  | none => by_cases free : p.database.openCount < p.database.limit <;> simp [free]

/-- **Connections are accounted for.** Whatever clients request and stores do on a database, the
connections that are counted as open are those that clients hold, no more than allowed, and a client
gets one exactly if no fault strikes and fewer are held than allowed. Every operation of a store takes
one connection at a time and gives it back; one that is free is enough for it, and it does the same
however many there are. -/
theorem connections_accounted (m : Mapping) (limit : Nat) (moves : List (Move σ)) :
    let p := (empty limit).play m moves
    Balanced limit p ∧
      (∀ client, (p.serve (.connect client)).1 = .done ↔
        p.database.faults.pending "CONNECT" = 0 ∧ p.connections.length < limit) ∧
      ∀ op : Operation σ, op.Frugal m := by
  intro p
  have balanced := (balanced_empty limit).play m moves
  exact ⟨balanced, balanced.connects_iff, Operation.frugal m⟩

end Pool
end RecordSink
