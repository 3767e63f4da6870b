import NocRouting.Fault

/-!
# Operations in steps

An operation on something that is kept looks at it and changes it step by step, until it is done or
fails.  What it has changed before it fails stays changed.

* `Steps.left` is what an operation leaves, and `Steps.outcome` what comes of it.
* `Steps.ending` compares an operation in steps with one that is done at once or not at all.
-/

namespace NocRouting

/-- An operation in steps on something that is kept. -/
abbrev Steps (σ α : Type) := EStateM Fault σ α

namespace Steps

variable {σ α β : Type}

/-- A step that changes nothing. -/
def ofExcept (outcome : Except Fault α) : Steps σ α := fun s =>
  match outcome with
  | .ok a => .ok a s
  | .error fault => .error fault s

instance : MonadLift (Except Fault) (Steps σ) := ⟨ofExcept⟩

/-- What an operation has left, whether it failed or not. -/
def left : EStateM.Result Fault σ α → σ
  | .ok _ s => s
  | .error _ s => s

/-- The outcome of an operation. -/
def outcome : EStateM.Result Fault σ α → Except Fault α
  | .ok a _ => .ok a
  | .error fault _ => .error fault

theorem get_bind (f : σ → Steps σ α) (s : σ) : (get >>= f) s = f s s := rfl

theorem lift_bind_of_ok {x : Except Fault α} {a : α} (h : x = .ok a) (f : α → Steps σ β) (s : σ) :
    ((liftM x : Steps σ α) >>= f) s = f a s := by
  rw [h]
  rfl

theorem lift_bind_of_error {x : Except Fault α} {fault : Fault} (h : x = .error fault)
    (f : α → Steps σ β) (s : σ) : ((liftM x : Steps σ α) >>= f) s = .error fault s := by
  rw [h]
  rfl

theorem bind_of_ok {x : Steps σ α} {s s' : σ} {a : α} (h : x s = .ok a s') (f : α → Steps σ β) :
    (x >>= f) s = f a s' := by
  simp only [bind, EStateM.bind, h]

theorem bind_of_error {x : Steps σ α} {s s' : σ} {fault : Fault} (h : x s = .error fault s')
    (f : α → Steps σ β) : (x >>= f) s = .error fault s' := by
  simp only [bind, EStateM.bind, h]

/-- An operation leaves what it has found if it fails. -/
def IsAtomic (x : Steps σ α) (s : σ) : Prop :=
  ∀ fault s', x s = .error fault s' → s' = s

/-- A look at something leaves it as it is. -/
theorem IsAtomic.lift_bind {x : Except Fault α} {f : α → Steps σ β} {s : σ}
    (hf : ∀ a, IsAtomic (f a) s) : IsAtomic ((liftM x : Steps σ α) >>= f) s := by
  intro fault s' h
  cases hx : x with
  | ok a =>
    rw [lift_bind_of_ok hx] at h
    exact hf a fault s' h
  | error fault' =>
    rw [lift_bind_of_error hx] at h
    exact (EStateM.Result.error.inj h).2.symm

/-! ### Steps side by side -/

/-- How an operation ends that works in steps on what is kept of something: with what is kept of its
result, or with a fault and what was kept before. -/
def ending {τ : Type} (kept : τ → σ) (t : τ) : Except Fault (τ × α) → EStateM.Result Fault σ α
  | .ok (t', a) => .ok a (kept t')
  | .error fault => .error fault (kept t)

/-- Operations that begin with the same look at something end in the same way if their rests do. -/
theorem bind_eq_ending {τ : Type} {kept : τ → σ} {t : τ} {x : Steps σ α} {y : Except Fault α}
    {f : α → Steps σ β} {g : α → Except Fault (τ × β)} (hx : x (kept t) = ofExcept y (kept t))
    (hf : ∀ a, y = .ok a → f a (kept t) = ending kept t (g a)) :
    (x >>= f) (kept t) = ending kept t (y >>= g) := by
  cases y with
  | ok a =>
    rw [bind_of_ok hx, hf a rfl]
    rfl
  | error fault =>
    rw [bind_of_error hx]
    rfl

end Steps

end NocRouting
