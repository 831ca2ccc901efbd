import VirtualPhone.Runtime.Bytes

/-! # Programs with state and exceptions

`Py σ α` is a program over a state `σ` that returns an `α` or raises a `PyError`; whatever it
changed before raising stays changed.  It is the reading of a method in this development: `raise`
for an exception, `attempt` for a `try` block, `lift` for a pure computation that may fail and
`zoom` for a method of a component that is part of a larger state.

Two kinds of rules reason about a program.  The equations `run_bind_ok` and `run_bind_error`
execute it.  The closure rules of `Respects R` show that it relates the state before to the
state after by a preorder `R`, whether it returns or raises; `R` is `Eq` for a program that
changes nothing. -/

namespace Runtime

/-- A program over the state `σ`. -/
structure Py (σ α : Type) where
  run : σ → Except PyError α × σ

namespace Py

variable {σ τ α β : Type}

instance : Monad (Py σ) where
  pure a := ⟨fun s => (.ok a, s)⟩
  bind x f := ⟨fun s => match x.run s with
    | (.ok a, s') => (f a).run s'
    | (.error e, s') => (.error e, s')⟩

/-- Raise an exception. -/
def raise (e : PyError) : Py σ α := ⟨fun s => (.error e, s)⟩

/-- A computation that may fail and touches no state. -/
def lift (x : Except PyError α) : Py σ α := ⟨fun s => (x, s)⟩

/-- The current state. -/
def get : Py σ σ := ⟨fun s => (.ok s, s)⟩

/-- Change the state. -/
def modify (f : σ → σ) : Py σ Unit := ⟨fun s => (.ok (), f s)⟩

/-- The outcome of a program, as a value: the body of a `try` block. -/
def attempt (x : Py σ α) : Py σ (Except PyError α) := ⟨fun s => (.ok (x.run s).1, (x.run s).2)⟩

/-- A program on a component of the state. -/
def zoom (look : τ → σ) (put : σ → τ → τ) (x : Py σ α) : Py τ α :=
  ⟨fun t => ((x.run (look t)).1, put (x.run (look t)).2 t)⟩

/-! ### Execution -/

@[simp] theorem run_pure (a : α) (s : σ) : (pure a : Py σ α).run s = (.ok a, s) := rfl

@[simp] theorem run_raise (e : PyError) (s : σ) : (raise e : Py σ α).run s = (.error e, s) := rfl

@[simp] theorem run_lift (x : Except PyError α) (s : σ) : (lift x).run s = (x, s) := rfl

@[simp] theorem run_get (s : σ) : (get : Py σ σ).run s = (.ok s, s) := rfl

@[simp] theorem run_modify (f : σ → σ) (s : σ) : (modify f).run s = (.ok (), f s) := rfl

theorem run_attempt (x : Py σ α) (s : σ) : (attempt x).run s = (.ok (x.run s).1, (x.run s).2) := rfl

theorem run_zoom (look : τ → σ) (put : σ → τ → τ) (x : Py σ α) (t : τ) :
    (zoom look put x).run t = ((x.run (look t)).1, put (x.run (look t)).2 t) := rfl

theorem run_bind (x : Py σ α) (f : α → Py σ β) (s : σ) :
    (x >>= f).run s = match x.run s with
      | (.ok a, s') => (f a).run s'
      | (.error e, s') => (.error e, s') := rfl

theorem run_bind_ok {x : Py σ α} {s s' : σ} {a : α} (h : x.run s = (.ok a, s')) (f : α → Py σ β) :
    (x >>= f).run s = (f a).run s' := by
  rw [run_bind, h]

theorem run_bind_error {x : Py σ α} {s s' : σ} {e : PyError} (h : x.run s = (.error e, s'))
    (f : α → Py σ β) : (x >>= f).run s = (.error e, s') := by
  rw [run_bind, h]

/-- A program that returns, returns from each of its parts. -/
theorem run_bind_eq_ok {x : Py σ α} {f : α → Py σ β} {s s' : σ} {b : β}
    (h : (x >>= f).run s = (.ok b, s')) :
    ∃ a s₁, x.run s = (.ok a, s₁) ∧ (f a).run s₁ = (.ok b, s') := by
  rcases hx : x.run s with ⟨e | a, s₁⟩
  · rw [run_bind_error hx] at h
    cases h
  · rw [run_bind_ok hx] at h
    exact ⟨a, s₁, rfl, h⟩

@[simp] theorem run_get_bind (f : σ → Py σ β) (s : σ) : (get >>= f).run s = (f s).run s := rfl

@[simp] theorem run_pure_bind (a : α) (f : α → Py σ β) (s : σ) :
    (pure a >>= f).run s = (f a).run s := rfl

@[simp] theorem run_modify_bind (g : σ → σ) (f : Unit → Py σ β) (s : σ) :
    (modify g >>= f).run s = (f ()).run (g s) := rfl

@[simp] theorem run_raise_bind (e : PyError) (f : α → Py σ β) (s : σ) :
    ((raise e : Py σ α) >>= f).run s = (.error e, s) := rfl

@[simp] theorem run_lift_ok_bind (a : α) (f : α → Py σ β) (s : σ) :
    ((lift (.ok a) : Py σ α) >>= f).run s = (f a).run s := rfl

@[simp] theorem run_lift_error_bind (e : PyError) (f : α → Py σ β) (s : σ) :
    ((lift (.error e) : Py σ α) >>= f).run s = (.error e, s) := rfl

/-- A computation that may fail, and what follows it. -/
theorem run_lift_bind (x : Except PyError α) (f : α → Py σ β) (s : σ) :
    (lift x >>= f).run s = match x with
      | .ok a => (f a).run s
      | .error e => (.error e, s) := by
  cases x with
  | ok a => rfl
  | error e => rfl

/-- What follows a program and changes nothing leaves the state where the program left it. -/
theorem state_bind {x : Py σ α} {f : α → Py σ β} (hf : ∀ a s, ((f a).run s).2 = s) (s : σ) :
    ((x >>= f).run s).2 = (x.run s).2 := by
  cases h : x.run s with
  | mk r s' =>
      cases r with
      | ok a =>
          rw [run_bind_ok h]
          exact hf a s'
      | error e => rw [run_bind_error h]

/-! ### Results -/

/-- What a program returns, if it does not raise. -/
def result? (x : Py σ α) (s : σ) : Option α := (x.run s).1.toOption

theorem result?_bind (x : Py σ α) (f : α → Py σ β) (s : σ) :
    (x >>= f).result? s = (x.result? s).bind fun a => (f a).result? (x.run s).2 := by
  unfold result?
  rw [run_bind]
  rcases x.run s with ⟨e | a, s'⟩
  · rfl
  · rfl

@[simp] theorem result?_pure (a : α) (s : σ) : (pure a : Py σ α).result? s = some a := rfl

@[simp] theorem result?_raise (e : PyError) (s : σ) : (raise e : Py σ α).result? s = none := rfl

theorem result?_bind_run {x : Py σ α} {s s' : σ} {a : α} (h : x.run s = (.ok a, s')) (f : α → Py σ β) :
    (x >>= f).result? s = (f a).result? s' := by
  unfold result?
  rw [run_bind_ok h]

theorem result?_bind_error {x : Py σ α} {s s' : σ} {e : PyError} (h : x.run s = (.error e, s'))
    (f : α → Py σ β) : (x >>= f).result? s = none := by
  unfold result?
  rw [run_bind_error h]
  rfl

theorem result?_eq_some_iff {x : Py σ α} {s : σ} {a : α} :
    x.result? s = some a ↔ (x.run s).1 = .ok a := by
  unfold result?
  cases (x.run s).1 with
  | error e => exact ⟨nofun, nofun⟩
  | ok b => exact ⟨fun h => congrArg _ (Option.some.inj h), fun h => congrArg _ (Except.ok.inj h)⟩

theorem result?_bind_assoc {γ : Type} (x : Py σ α) (g : α → Py σ γ) (f : γ → Py σ β) (s : σ) :
    ((x >>= g) >>= f).result? s = (x >>= fun a => g a >>= f).result? s := by
  simp only [result?, run_bind]
  rcases x.run s with ⟨e | a, s'⟩
  · rfl
  · rfl

theorem result?_bind_eq_some_iff {x : Py σ α} {f : α → Py σ β} {s : σ} {b : β} :
    (x >>= f).result? s = some b ↔ ∃ a, x.result? s = some a ∧ (f a).result? (x.run s).2 = some b := by
  rw [result?_bind, Option.bind_eq_some_iff]

theorem result?_lift_bind_eq_some_iff {x : Except PyError α} {f : α → Py σ β} {s : σ} {b : β} :
    (lift x >>= f).result? s = some b ↔ ∃ a, x = .ok a ∧ (f a).result? s = some b := by
  rw [result?_bind_eq_some_iff]
  exact exists_congr fun a => and_congr_left' result?_eq_some_iff

theorem result?_get_bind (f : σ → Py σ β) (s : σ) : (get >>= f).result? s = (f s).result? s := rfl

/-! ### Relating the state before to the state after -/

/-- However the program ends, `R` relates the state before to the state after. -/
def Respects (R : σ → σ → Prop) (x : Py σ α) : Prop := ∀ s, R s (x.run s).2

namespace Respects

variable {R : σ → σ → Prop}

theorem pure (hrefl : ∀ s, R s s) (a : α) : Respects R (pure a : Py σ α) := hrefl

theorem lift (hrefl : ∀ s, R s s) (x : Except PyError α) : Respects R (Py.lift x) := hrefl

theorem bind (htrans : ∀ {a b c}, R a b → R b c → R a c) {x : Py σ α} {f : α → Py σ β}
    (hx : Respects R x) (hf : ∀ a, Respects R (f a)) : Respects R (x >>= f) := by
  intro s
  have hs := hx s
  cases h : x.run s with
  | mk r s' =>
      rw [h] at hs
      cases r with
      | ok a =>
          rw [run_bind_ok h]
          exact htrans hs (hf a s')
      | error e =>
          rw [run_bind_error h]
          exact hs

theorem attempt {x : Py σ α} (hx : Respects R x) : Respects R (Py.attempt x) := hx

end Respects

end Py

end Runtime
