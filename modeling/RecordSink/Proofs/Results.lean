import Mathlib.Data.List.Forall2

/-! Results of computations that may fail, opened one step at a time: when a sequence succeeds,
every step of it has succeeded. Computations that also carry a state are applied to it step by
step. -/
namespace RecordSink

variable {ε δ α β : Type}

@[simp] theorem ok_bind (a : α) (f : α → Except ε β) : (Except.ok a >>= f) = f a :=
  rfl

@[simp] theorem error_bind (e : ε) (f : α → Except ε β) : (Except.error e >>= f) = .error e :=
  rfl

@[simp] theorem pure_ok (a : α) : (pure a : Except ε α) = .ok a :=
  rfl

@[simp] theorem throw_error (e : ε) : (throw e : Except ε α) = .error e :=
  rfl

theorem bind_ok_iff {x : Except ε α} {f : α → Except ε β} {b : β} :
    (x >>= f) = .ok b ↔ ∃ a, x = .ok a ∧ f a = .ok b := by
  cases x <;> simp

theorem map_ok_iff {x : Except ε α} {f : α → β} {b : β} :
    x.map f = .ok b ↔ ∃ a, x = .ok a ∧ f a = b := by
  cases x <;> simp [Except.map]

theorem mapError_ok_iff {x : Except ε α} {f : ε → δ} {a : α} :
    x.mapError f = .ok a ↔ x = .ok a := by
  cases x <;> simp [Except.mapError]

theorem toOption_eq_some_iff {x : Except ε α} {a : α} : x.toOption = some a ↔ x = .ok a := by
  cases x <;> simp [Except.toOption]

/-- All elements of a list are computed, in their order, or one of them fails. -/
theorem mapM_ok_iff {f : α → Except ε β} {as : List α} {bs : List β} :
    as.mapM f = .ok bs ↔ List.Forall₂ (fun a b => f a = .ok b) as bs := by
  induction as generalizing bs with
  | nil => simp [eq_comm]
  | cons a as ih =>
    simp only [List.mapM_cons, bind_ok_iff, pure_ok, Except.ok.injEq, ih]
    constructor
    · rintro ⟨b, head, rest, tail, rfl⟩
      exact .cons head tail
    · rintro (_ | ⟨head, tail⟩)
      exact ⟨_, head, _, tail, rfl⟩

theorem mapM_eq_some {f : α → Option β} {as : List α} {bs : List β}
    (each : List.Forall₂ (fun a b => f a = some b) as bs) : as.mapM f = some bs := by
  induction each with
  | nil => rfl
  | cons head tail ih => rw [List.mapM_cons, head, ih]; rfl

/-- An error of a list is that of one of its elements. -/
theorem mapM_error {f : α → Except ε β} {as : List α} {e : ε} (failed : as.mapM f = .error e) :
    ∃ a ∈ as, f a = .error e := by
  induction as with
  | nil => cases failed
  | cons a as ih =>
    rw [List.mapM_cons] at failed
    cases head : f a with
    | error d =>
      rw [head, error_bind] at failed
      cases failed
      exact ⟨a, .head _, head⟩
    | ok b =>
      cases tail : as.mapM f with
      | error d =>
        rw [head, ok_bind, tail, error_bind] at failed
        cases failed
        obtain ⟨c, among, same⟩ := ih tail
        exact ⟨c, .tail _ among, same⟩
      | ok bs =>
        rw [head, ok_bind, tail] at failed
        cases failed

section State
variable {σ : Type}

theorem bind_apply (x : EStateM ε σ α) (f : α → EStateM ε σ β) (s : σ) :
    (x >>= f) s = match x s with
      | .ok a s => f a s
      | .error e s => .error e s := by
  change EStateM.bind x f s = _
  rw [EStateM.bind]
  cases x s <;> rfl

theorem pure_apply (a : α) (s : σ) : (pure a : EStateM ε σ α) s = .ok a s :=
  rfl

theorem get_apply (s : σ) : (get : EStateM ε σ σ) s = .ok s s :=
  rfl

theorem set_apply (s t : σ) : (set t : EStateM ε σ PUnit) s = .ok ⟨⟩ t :=
  rfl

theorem modify_apply (f : σ → σ) (s : σ) : (modify f : EStateM ε σ PUnit) s = .ok ⟨⟩ (f s) :=
  rfl

/-- The state after a computation, whether it failed or not. -/
def reached : EStateM.Result ε σ α → σ
  | .ok _ s => s
  | .error _ s => s

/-- A computation that leads from every state to one related to it, whether it fails or not. -/
def Respects (R : σ → σ → Prop) (x : EStateM ε σ α) : Prop :=
  ∀ s, R s (reached (x s))

theorem respects_pure {R : σ → σ → Prop} (refl : ∀ s, R s s) (a : α) :
    Respects R (pure a : EStateM ε σ α) :=
  refl

theorem Respects.bind {R : σ → σ → Prop} {x : EStateM ε σ α} {f : α → EStateM ε σ β}
    (first : Respects R x) (second : ∀ a, Respects R (f a))
    (trans : ∀ {s t u}, R s t → R t u → R s u) : Respects R (x >>= f) := by
  intro s
  have step := first s
  rw [bind_apply]
  cases done : x s with
  | error e t =>
    rw [done] at step
    exact step
  | ok a t =>
    rw [done] at step
    exact trans step (second a t)

/-- The result with its state changed. -/
def mapState {τ : Type} (f : σ → τ) : EStateM.Result ε σ α → EStateM.Result ε τ α
  | .ok a s => .ok a (f s)
  | .error e s => .error e (f s)

/-- A computation for which it makes no difference whether the state is changed before or after. -/
def Commutes (f : σ → σ) (x : EStateM ε σ α) : Prop :=
  ∀ s, x (f s) = mapState f (x s)

theorem Commutes.bind {f : σ → σ} {x : EStateM ε σ α} {g : α → EStateM ε σ β}
    (first : Commutes f x) (second : ∀ a, Commutes f (g a)) : Commutes f (x >>= g) := by
  intro s
  rw [bind_apply, bind_apply, first s]
  cases x s with
  | error e t => rfl
  | ok a t => exact second a t

end State
end RecordSink
