import Mathlib.Data.List.Forall2
import VirtualPhone.Runtime.Coroutine

/-! # Contracts of coroutines

A coroutine runs in segments: from its start or a resumption to its next suspension.  Other
coroutines see the state at the ends of the segments only.

A `Contract` says what a suspended coroutine relies on the others to do (`rely`), what is known
when it is resumed (`resumes`), and what each of its segments does to the state (`guar`).
`Coro.Meets` is the weakest condition under which a coroutine that runs from `s`, in a segment
that began in `s₀`, keeps its contract and ends with `post`; the rules below compute it statement
by statement.  `Coro.Promises` is what is left of it while the coroutine is suspended, and what
`post` says once it has ended.  Different coroutines of one event loop may have different
contracts: each one's `guar` has to be within the `rely` of the others. -/

namespace Runtime

/-- What a coroutine relies on and what it guarantees. -/
structure Contract (σ ω : Type) where
  rely : σ → σ → Prop
  guar : σ → σ → Prop
  resumes : ω → σ → Prop
  rely_trans : ∀ {a b c}, rely a b → rely b c → rely a c

/-- The contract of a coroutine that relies on nothing, and whose segments are in `R`. -/
def Contract.segments {σ ω : Type} (R : σ → σ → Prop) : Contract σ ω where
  rely := fun _ _ => True
  guar := R
  resumes := fun _ _ => True
  rely_trans := fun _ _ => trivial

namespace Coro

variable {σ ω α β : Type} {K : Contract σ ω}

/-- From `s` on, in a segment that began in `s₀`, every segment is as the contract says, and the
outcome satisfies `post`, which looks at the beginning of the last segment too. -/
def Meets (K : Contract σ ω) (post : σ → Except PyError α → σ → Prop) : Coro σ ω α → σ → σ → Prop
  | done r, s₀, s => post s₀ r s
  | read k, s₀, s => (k s).Meets K post s₀ s
  | write f k, s₀, s => k.Meets K post s₀ (f s)
  | wait w k, s₀, s => K.guar s₀ s ∧ ∀ s', K.rely s s' → K.resumes w s' → k.Meets K post s' s'

/-! ### Rules -/

section

variable {post : σ → Except PyError β → σ → Prop} {s₀ s : σ}

/-- What a statement has to end with for the rest to go on. -/
def thenMeets (K : Contract σ ω) (f : α → Coro σ ω β) (post : σ → Except PyError β → σ → Prop) :
    σ → Except PyError α → σ → Prop
  | s₀, .ok a, s => (f a).Meets K post s₀ s
  | s₀, .error e, s => post s₀ (.error e) s

theorem meets_bind {c : Coro σ ω α} {f : α → Coro σ ω β} :
    (c >>= f).Meets K post s₀ s ↔ c.Meets K (thenMeets K f post) s₀ s := by
  induction c generalizing s₀ s with
  | done r =>
      cases r with
      | ok a => exact Iff.rfl
      | error e => exact Iff.rfl
  | read k ih => exact ih s
  | write g k ih => exact ih
  | wait w k ih =>
      refine and_congr_right fun _ => forall_congr' fun s' => ?_
      exact imp_congr_right fun _ => imp_congr_right fun _ => ih

theorem meets_attempt {c : Coro σ ω α} {post : σ → Except PyError (Except PyError α) → σ → Prop} :
    c.attempt.Meets K post s₀ s ↔ c.Meets K (fun s₀ r s => post s₀ (.ok r) s) s₀ s := by
  induction c generalizing s₀ s with
  | done r => exact Iff.rfl
  | read k ih => exact ih s
  | write g k ih => exact ih
  | wait w k ih =>
      refine and_congr_right fun _ => forall_congr' fun s' => ?_
      exact imp_congr_right fun _ => imp_congr_right fun _ => ih

theorem meets_get_bind {k : σ → Coro σ ω β} :
    (get >>= k : Coro σ ω β).Meets K post s₀ s ↔ (k s).Meets K post s₀ s := Iff.rfl

theorem meets_modify_bind {f : σ → σ} {k : Unit → Coro σ ω β} :
    (modify f >>= k : Coro σ ω β).Meets K post s₀ s ↔ (k ()).Meets K post s₀ (f s) := Iff.rfl

theorem meets_await_bind {w : ω} {k : Unit → Coro σ ω β} :
    (await w >>= k : Coro σ ω β).Meets K post s₀ s ↔
      K.guar s₀ s ∧ ∀ s', K.rely s s' → K.resumes w s' → (k ()).Meets K post s' s' := Iff.rfl

theorem meets_await {w : ω} {post : σ → Except PyError Unit → σ → Prop} :
    (await w : Coro σ ω Unit).Meets K post s₀ s ↔
      K.guar s₀ s ∧ ∀ s', K.rely s s' → K.resumes w s' → post s' (.ok ()) s' := Iff.rfl

/-- What runs to the end of a segment is as good as the rest. -/
theorem meets_run {c : Coro σ ω β} :
    c.Meets K post s₀ s ↔ (c.run s).1.Meets K post s₀ (c.run s).2 := by
  induction c generalizing s with
  | done r => exact Iff.rfl
  | read k ih => exact ih s
  | write g k ih => exact ih
  | wait w k ih => exact Iff.rfl

/-- A weaker outcome. -/
theorem Meets.mono {post' : σ → Except PyError β → σ → Prop} {c : Coro σ ω β}
    (h : c.Meets K post s₀ s) (hpost : ∀ s₀ r s, post s₀ r s → post' s₀ r s) :
    c.Meets K post' s₀ s := by
  induction c generalizing s₀ s with
  | done r => exact hpost _ _ _ h
  | read k ih => exact ih s h
  | write g k ih => exact ih h
  | wait w k ih => exact ⟨h.1, fun s' hr hw => ih (h.2 s' hr hw)⟩

/-- A contract that asks for less. -/
theorem Meets.weaken {K' : Contract σ ω} {c : Coro σ ω β} (h : c.Meets K post s₀ s)
    (hrely : ∀ a b, K'.rely a b → K.rely a b) (hresumes : ∀ w a, K'.resumes w a → K.resumes w a)
    (hguar : ∀ a b, K.guar a b → K'.guar a b) : c.Meets K' post s₀ s := by
  induction c generalizing s₀ s with
  | done r => exact h
  | read k ih => exact ih s h
  | write g k ih => exact ih h
  | wait w k ih =>
      exact ⟨hguar _ _ h.1, fun s' hr hw => ih (h.2 s' (hrely _ _ hr) (hresumes _ _ hw))⟩

end

/-! ### Suspended coroutines -/

/-- A coroutine between two segments: it has ended with `post`, or keeps its contract from any state
it can be resumed in. -/
def Promises (K : Contract σ ω) (post : Except PyError α → σ → Prop) : Coro σ ω α → σ → Prop
  | done r, s => post r s
  | wait w k, s => ∀ s', K.rely s s' → K.resumes w s' →
      k.Meets K (fun s₀ r s => K.guar s₀ s ∧ post r s) s' s'
  | _, _ => False

variable {post : Except PyError α → σ → Prop}

/-- One segment: it is as the contract says, and the rest is promised. -/
theorem Meets.run {c : Coro σ ω α} {s₀ s : σ}
    (h : c.Meets K (fun s₀ r s => K.guar s₀ s ∧ post r s) s₀ s) :
    K.guar s₀ (c.run s).2 ∧ Promises K post (c.run s).1 (c.run s).2 := by
  induction c generalizing s with
  | done r => exact h
  | read k ih => exact ih s h
  | write g k ih => exact ih h
  | wait w k ih => exact h

/-- A coroutine has ended. -/
def Ended : Coro σ ω α → Prop
  | done _ => True
  | _ => False

instance (c : Coro σ ω α) : Decidable c.Ended :=
  match c with
  | done _ => isTrue trivial
  | read _ => isFalse id
  | write _ _ => isFalse id
  | wait _ _ => isFalse id

theorem Ended.exists_eq {c : Coro σ ω α} (h : c.Ended) : ∃ r, c = done r := by
  cases c with
  | done r => exact ⟨r, rfl⟩
  | read k => exact h.elim
  | write g k => exact h.elim
  | wait w k => exact h.elim

/-- What the others do meanwhile does not matter: to a suspended coroutine, by its contract, and to
one that has ended, as its outcome stays. -/
def Tolerates (K : Contract σ ω) (post : Except PyError α → σ → Prop) (c : Coro σ ω α) (s s' : σ) :
    Prop :=
  (c.Ended → ∀ r, post r s → post r s') ∧ (¬c.Ended → K.rely s s')

theorem Promises.tolerate {c : Coro σ ω α} {s s' : σ} (h : Promises K post c s)
    (ht : c.Tolerates K post s s') : Promises K post c s' := by
  cases c with
  | done r => exact ht.1 trivial r h
  | read k => exact h.elim
  | write g k => exact h.elim
  | wait w k => exact fun s₁ hr₁ hw => h s₁ (K.rely_trans (ht.2 id) hr₁) hw

/-- The outcome of a coroutine that has ended. -/
theorem Promises.ended {r : Except PyError α} {s : σ} (h : Promises K post (done r) s) : post r s := h

/-- A resumption of a promised coroutine is a segment of its contract. -/
theorem Promises.resume {w : ω} {k : Coro σ ω α} {s s' : σ} (h : Promises K post (wait w k) s)
    (hr : K.rely s s') (hw : K.resumes w s') :
    K.guar s' (k.run s').2 ∧ Promises K post (k.run s').1 (k.run s').2 :=
  (h s' hr hw).run

/-! ### Segments of a sequence -/

/-- A statement that suspends, suspends what it is part of. -/
theorem run_bind_wait {c k : Coro σ ω α} {w : ω} {s s' : σ} (h : c.run s = (wait w k, s'))
    (f : α → Coro σ ω β) : (c >>= f).run s = (wait w (k >>= f), s') := by
  induction c generalizing s with
  | done r => cases h
  | read g ih => exact ih s h
  | write g c ih => exact ih h
  | wait w' c ih =>
      obtain ⟨hc, rfl⟩ := Prod.mk.inj h
      cases hc
      rfl

theorem run_bind_ok {c : Coro σ ω α} {a : α} {s s' : σ} (h : c.run s = (done (.ok a), s'))
    (f : α → Coro σ ω β) : (c >>= f).run s = (f a).run s' := by
  induction c generalizing s with
  | done r =>
      obtain ⟨hr, rfl⟩ := Prod.mk.inj h
      cases hr
      rfl
  | read g ih => exact ih s h
  | write g c ih => exact ih h
  | wait w' c ih => cases h

theorem run_bind_error {c : Coro σ ω α} {e : PyError} {s s' : σ}
    (h : c.run s = (done (.error e), s')) (f : α → Coro σ ω β) :
    (c >>= f).run s = (done (.error e), s') := by
  induction c generalizing s with
  | done r =>
      obtain ⟨hr, rfl⟩ := Prod.mk.inj h
      cases hr
      rfl
  | read g ih => exact ih s h
  | write g c ih => exact ih h
  | wait w' c ih => cases h

/-- What follows and changes nothing leaves the state where the segment left it. -/
theorem run_bind_state {c : Coro σ ω α} {f : α → Coro σ ω β} {s : σ} (hf : ∀ a s, ((f a).run s).2 = s) :
    ((c >>= f).run s).2 = (c.run s).2 := by
  have hhalted := run_halted c s
  cases hrun : c.run s with
  | mk c' s' =>
      rw [hrun] at hhalted
      match c', hhalted with
      | .done (.ok a), _ => rw [run_bind_ok hrun, hf]
      | .done (.error e), _ => rw [run_bind_error hrun]
      | .wait w k, _ => rw [run_bind_wait hrun]

theorem run_attempt_wait {c k : Coro σ ω α} {w : ω} {s s' : σ} (h : c.run s = (wait w k, s')) :
    c.attempt.run s = (wait w k.attempt, s') := by
  induction c generalizing s with
  | done r => cases h
  | read g ih => exact ih s h
  | write g c ih => exact ih h
  | wait w' c ih =>
      obtain ⟨hc, rfl⟩ := Prod.mk.inj h
      cases hc
      rfl

theorem run_attempt_done {c : Coro σ ω α} {r : Except PyError α} {s s' : σ}
    (h : c.run s = (done r, s')) : c.attempt.run s = (done (.ok r), s') := by
  induction c generalizing s with
  | done r' =>
      obtain ⟨hr, rfl⟩ := Prod.mk.inj h
      cases hr
      rfl
  | read g ih => exact ih s h
  | write g c ih => exact ih h
  | wait w' c ih => cases h

/-- A coroutine relates the state where it starts to the one where it is first suspended, or ends. -/
def Begins (R : σ → σ → Prop) (c : Coro σ ω α) : Prop := ∀ s, R s (c.run s).2

namespace Begins

variable {R : σ → σ → Prop}

theorem bind (htrans : ∀ {a b c}, R a b → R b c → R a c) {c : Coro σ ω α} {f : α → Coro σ ω β}
    (hc : Begins R c) (hf : ∀ a, Begins R (f a)) : Begins R (c >>= f) := by
  intro s
  have hs := hc s
  have hhalted := run_halted c s
  cases hrun : c.run s with
  | mk c' s' =>
      rw [hrun] at hs hhalted
      match c', hhalted with
      | .done (.ok a), _ =>
          rw [run_bind_ok hrun]
          exact htrans hs (hf a s')
      | .done (.error e), _ =>
          rw [run_bind_error hrun]
          exact hs
      | .wait w k, _ =>
          rw [run_bind_wait hrun]
          exact hs

theorem attempt {c : Coro σ ω α} (hc : Begins R c) : Begins R c.attempt := by
  intro s
  have hs := hc s
  have hhalted := run_halted c s
  cases hrun : c.run s with
  | mk c' s' =>
      rw [hrun] at hs hhalted
      match c', hhalted with
      | .done r, _ =>
          rw [run_attempt_done hrun]
          exact hs
      | .wait w k, _ =>
          rw [run_attempt_wait hrun]
          exact hs

end Begins

/-! ### Segments in a relation -/

/-- Every segment of the coroutine is in `R`, whatever state it is resumed in. -/
def Within (R : σ → σ → Prop) (c : Coro σ ω α) : Prop :=
  ∀ s₀ s, R s₀ s → c.Meets (.segments R) (fun s₀ _ s => R s₀ s) s₀ s

namespace Within

variable {R : σ → σ → Prop}

theorem done (r : Except PyError α) : Within R (Coro.done r : Coro σ ω α) := fun _ _ h => h

theorem get_bind {f : σ → Coro σ ω β} (hf : ∀ s, Within R (f s)) : Within R (Coro.get >>= f) :=
  fun s₀ s h => hf s s₀ s h

theorem modify {f : σ → σ} (hf : ∀ s₀ s, R s₀ s → R s₀ (f s)) :
    Within R (Coro.modify f : Coro σ ω Unit) := fun s₀ s h => hf s₀ s h

theorem await (hrefl : ∀ s, R s s) (w : ω) : Within R (Coro.await w : Coro σ ω Unit) :=
  fun _ _ h => ⟨h, fun s' _ _ => hrefl s'⟩

theorem bind {c : Coro σ ω α} {f : α → Coro σ ω β} (hc : Within R c) (hf : ∀ a, Within R (f a)) :
    Within R (c >>= f) := by
  intro s₀ s h
  refine meets_bind.mpr ((hc s₀ s h).mono fun s₁ r s' h' => ?_)
  cases r with
  | ok a => exact hf a s₁ s' h'
  | error e => exact h'

theorem attempt {c : Coro σ ω α} (hc : Within R c) : Within R c.attempt :=
  fun s₀ s h => meets_attempt.mpr (hc s₀ s h)

end Within

/-! ### Runs against an environment -/

section

variable {env : ω → σ → σ}

theorem against_run (c : Coro σ ω α) (s : σ) : c.against env s = (c.run s).1.against env (c.run s).2 := by
  induction c generalizing s with
  | done r => rfl
  | read k ih => exact ih s s
  | write f k ih => exact ih (f s)
  | wait w k ih => rfl

theorem against_of_wait {c k : Coro σ ω α} {w : ω} {s s' : σ} (h : c.run s = (wait w k, s')) :
    c.against env s = k.against env (env w s') := by
  rw [against_run, h]
  rfl

theorem against_of_done {c : Coro σ ω α} {r : Except PyError α} {s s' : σ} (h : c.run s = (done r, s')) :
    c.against env s = (r, s') := by
  rw [against_run, h]
  rfl

theorem against_get_bind (f : σ → Coro σ ω β) (s : σ) :
    (get >>= f : Coro σ ω β).against env s = (f s).against env s := rfl

theorem against_modify_bind (g : σ → σ) (f : Unit → Coro σ ω β) (s : σ) :
    (modify g >>= f : Coro σ ω β).against env s = (f ()).against env (g s) := rfl

theorem against_await_bind (w : ω) (f : Unit → Coro σ ω β) (s : σ) :
    (await w >>= f : Coro σ ω β).against env s = (f ()).against env (env w s) := rfl

theorem against_bind (c : Coro σ ω α) (f : α → Coro σ ω β) (s : σ) :
    (c >>= f).against env s = match c.against env s with
      | (.ok a, s') => (f a).against env s'
      | (.error e, s') => (.error e, s') := by
  induction c generalizing s with
  | done r =>
      cases r with
      | ok a => rfl
      | error e => rfl
  | read k ih => exact ih s s
  | write g k ih => exact ih (g s)
  | wait w k ih => exact ih (env w s)

theorem against_bind_ok {c : Coro σ ω α} {a : α} {s s' : σ} (h : c.against env s = (.ok a, s'))
    (f : α → Coro σ ω β) : (c >>= f).against env s = (f a).against env s' := by
  rw [against_bind, h]

theorem against_bind_error {c : Coro σ ω α} {e : PyError} {s s' : σ} (h : c.against env s = (.error e, s'))
    (f : α → Coro σ ω β) : (c >>= f).against env s = (.error e, s') := by
  rw [against_bind, h]

theorem against_attempt {c : Coro σ ω α} {r : Except PyError α} {s s' : σ}
    (h : c.against env s = (r, s')) : c.attempt.against env s = (.ok r, s') := by
  induction c generalizing s with
  | done r' =>
      obtain ⟨rfl, rfl⟩ := Prod.mk.inj h
      rfl
  | read k ih => exact ih s h
  | write g k ih => exact ih h
  | wait w k ih => exact ih h

/-- A run against `env` relates the state where it starts to the one where it ends. -/
def Passes (env : ω → σ → σ) (R : σ → σ → Prop) (c : Coro σ ω α) : Prop := ∀ s, R s (c.against env s).2

namespace Passes

variable {R : σ → σ → Prop}

theorem bind (htrans : ∀ {a b c}, R a b → R b c → R a c) {c : Coro σ ω α} {f : α → Coro σ ω β}
    (hc : Passes env R c) (hf : ∀ a, Passes env R (f a)) : Passes env R (c >>= f) := by
  intro s
  have hs := hc s
  rw [against_bind]
  generalize c.against env s = r at hs ⊢
  obtain ⟨e | a, s'⟩ := r
  · exact hs
  · exact htrans hs (hf a s')

/-- What follows a computation starts where it ends. -/
theorem rest (hrefl : ∀ a, R a a) {f : α → Coro σ ω β} (hf : ∀ a, Passes env R (f a)) (c : Coro σ ω α)
    (s : σ) : R (c.against env s).2 ((c >>= f).against env s).2 := by
  rw [against_bind]
  generalize c.against env s = r
  obtain ⟨e | a, s'⟩ := r
  · exact hrefl s'
  · exact hf a s'

theorem attempt {c : Coro σ ω α} (hc : Passes env R c) : Passes env R c.attempt := by
  intro s
  have hs := hc s
  rw [against_attempt rfl]
  exact hs

end Passes

/-- Every run against `env` ends with an outcome and a state that `Q` allows. -/
def Ends (env : ω → σ → σ) (Q : Except PyError α → σ → Prop) (c : Coro σ ω α) : Prop :=
  ∀ s, Q (c.against env s).1 (c.against env s).2

namespace Ends

/-- What follows a computation ends well, and so does an exception. -/
theorem bind {Q : Except PyError β → σ → Prop} {f : α → Coro σ ω β} (hf : ∀ a, Ends env Q (f a))
    (herror : ∀ e s, Q (.error e) s) (c : Coro σ ω α) : Ends env Q (c >>= f) := by
  intro s
  rw [against_bind]
  generalize c.against env s = r
  obtain ⟨e | a, s'⟩ := r
  · exact herror e s'
  · exact hf a s'

end Ends

/-- Every exception of the coroutine against `env` is one of `E`. -/
def Throws (env : ω → σ → σ) (E : PyError → Prop) (c : Coro σ ω α) : Prop :=
  ∀ s e, (c.against env s).1 = .error e → E e

namespace Throws

variable {E : PyError → Prop}

theorem pure (a : α) : Throws env E (Pure.pure a : Coro σ ω α) := fun _ _ h => by cases h

theorem modify (f : σ → σ) : Throws env E (Coro.modify f : Coro σ ω Unit) := fun _ _ h => by cases h

theorem await (w : ω) : Throws env E (Coro.await w : Coro σ ω Unit) := fun _ _ h => by cases h

theorem get_bind {f : σ → Coro σ ω β} (hf : ∀ s, Throws env E (f s)) : Throws env E (Coro.get >>= f) :=
  fun s => hf s s

theorem bind {c : Coro σ ω α} {f : α → Coro σ ω β} (hc : Throws env E c) (hf : ∀ a, Throws env E (f a)) :
    Throws env E (c >>= f) := by
  intro s e h
  have hs := hc s
  rw [against_bind] at h
  generalize c.against env s = r at hs h
  obtain ⟨e' | a, s'⟩ := r
  · obtain rfl : e' = e := Except.error.inj h
    exact hs e' rfl
  · exact hf a s' e h

theorem attempt (c : Coro σ ω α) : Throws env E c.attempt := by
  intro s e h
  rw [against_attempt rfl] at h
  cases h

end Throws

end

end Coro

/-! ### Event loops -/

namespace EventLoop

variable {σ ω β ι ε : Type} {L : EventLoop σ ω β ι ε} {p p' : Pool σ ω β}

theorem step_spawn {i : ι} (h : L.step p (.spawn i) = some p') :
    p'.state = ((L.main i).run p.state).2 ∧ p'.tasks = p.tasks ++ [((L.main i).run p.state).1] := by
  obtain rfl := Option.some.inj h
  exact ⟨rfl, rfl⟩

theorem step_resume {n : ℕ} (h : L.step p (.resume n) = some p') :
    ∃ w k, p.tasks[n]? = some (.wait w k) ∧ L.ready w p.state = true ∧
      p'.state = (k.run p.state).2 ∧ p'.tasks = p.tasks.set n (k.run p.state).1 := by
  unfold step at h
  simp only at h
  split at h
  case h_1 w k htask =>
      split_ifs at h with hready
      obtain rfl := Option.some.inj h
      exact ⟨w, k, htask, hready, rfl, rfl⟩
  case h_2 => cases h

theorem step_outside {e : ε} (h : L.step p (.outside e) = some p') :
    ∃ s, L.outside p.state e = some s ∧ p'.state = s ∧ p'.tasks = p.tasks := by
  obtain ⟨s, hs, rfl⟩ := Option.map_eq_some_iff.mp h
  exact ⟨s, hs, rfl, rfl⟩

theorem step_getElem? {e : PoolEvent ι ε} {n : ℕ} {c : Coro σ ω β} (he : e ≠ .resume n)
    (h : L.step p e = some p') (hc : p.tasks[n]? = some c) : p'.tasks[n]? = some c := by
  cases e with
  | spawn i =>
      rw [(step_spawn h).2]
      exact (List.getElem?_append_left (List.getElem?_eq_some_iff.mp hc).1).trans hc
  | resume m =>
      obtain ⟨w, k, -, -, -, htasks⟩ := step_resume h
      rw [htasks, List.getElem?_set_ne (fun hm => he (by rw [hm]))]
      exact hc
  | outside e =>
      obtain ⟨s, -, -, htasks⟩ := step_outside h
      rw [htasks]
      exact hc

/-! ### Loops of promises -/

variable {κ : Type} (K : κ → Contract σ ω) (post : κ → Except PyError β → σ → Prop)

/-- Every coroutine has a label, and keeps the promises of its label. -/
def Kept (ks : List κ) (p : Pool σ ω β) : Prop :=
  List.Forall₂ (fun k c => Coro.Promises (K k) (post k) c p.state) ks p.tasks

/-- The labels after an event: a started coroutine gets label `k`. -/
def labels (ks : List κ) (k : κ) : PoolEvent ι ε → List κ
  | .spawn _ => ks ++ [k]
  | _ => ks

/-- What an event is known to do: a segment of the coroutine it starts or resumes, or a change from
outside. -/
def Moves (L : EventLoop σ ω β ι ε) (ks : List κ) (k : κ) (s s' : σ) : PoolEvent ι ε → Prop
  | .spawn _ => (K k).guar s s'
  | .resume n => ∃ k, ks[n]? = some k ∧ (K k).guar s s'
  | .outside e => L.outside s e = some s'

variable {K post} {ks : List κ}

theorem Kept.get (h : Kept K post ks p) {n : ℕ} {c : Coro σ ω β} (hc : p.tasks[n]? = some c) :
    ∃ k, ks[n]? = some k ∧ Coro.Promises (K k) (post k) c p.state := by
  obtain ⟨hn, rfl⟩ := List.getElem?_eq_some_iff.mp hc
  have hlen := List.Forall₂.length_eq h
  refine ⟨ks[n], List.getElem?_eq_getElem (hlen ▸ hn), ?_⟩
  exact List.Forall₂.get h (hlen ▸ hn) hn

/-- **One event of a loop of promises.**  Where a started coroutine meets the contract of its label,
a resumed one finds what its contract says, and the others do not mind what the event does, all
promises are kept. -/
theorem Kept.step {k : κ} {e : PoolEvent ι ε}
    (hspawn : ∀ i, e = .spawn i →
      (L.main i).Meets (K k) (fun s₀ r s => (K k).guar s₀ s ∧ post k r s) p.state p.state)
    (hresume : ∀ n w c k, e = .resume n → p.tasks[n]? = some (.wait w c) → ks[n]? = some k →
      L.ready w p.state = true → (K k).rely p.state p.state ∧ (K k).resumes w p.state)
    (hothers : ∀ n k' c, e ≠ .resume n → ks[n]? = some k' → p.tasks[n]? = some c →
      Moves K L ks k p.state p'.state e → c.Tolerates (K k') (post k') p.state p'.state)
    (hp : Kept K post ks p) (h : L.step p e = some p') :
    Kept K post (labels ks k e) p' ∧ Moves K L ks k p.state p'.state e := by
  have hlen := List.Forall₂.length_eq hp
  have hrest : Moves K L ks k p.state p'.state e → ∀ n k' c, e ≠ .resume n → ks[n]? = some k' →
      p.tasks[n]? = some c → Coro.Promises (K k') (post k') c p'.state := by
    intro hmoves n k' c hn hk hc
    obtain ⟨k'', hk'', hpromise⟩ := hp.get hc
    obtain rfl := Option.some.inj (hk.symm.trans hk'')
    exact hpromise.tolerate (hothers n k' c hn hk hc hmoves)
  have hall : Moves K L ks k p.state p'.state e → (∀ n, e ≠ .resume n) →
      List.Forall₂ (fun k c => Coro.Promises (K k) (post k) c p'.state) ks p.tasks := by
    intro hmoves hne
    refine List.forall₂_iff_get.mpr ⟨hlen, fun n hk hc => ?_⟩
    exact hrest hmoves n _ _ (hne n) (List.getElem?_eq_getElem hk) (List.getElem?_eq_getElem hc)
  cases e with
  | spawn i =>
      obtain ⟨hstate, htasks⟩ := step_spawn h
      obtain ⟨hseg, hnew⟩ := (hspawn i rfl).run
      rw [← hstate] at hseg hnew
      refine ⟨?_, hseg⟩
      unfold Kept
      rw [htasks]
      have hold := hall hseg fun n hn => by cases hn
      exact List.rel_append hold (.cons hnew .nil)
  | resume n =>
      obtain ⟨w, c, htask, hready, hstate, htasks⟩ := step_resume h
      obtain ⟨k₀, hk₀, hpromise⟩ := hp.get htask
      obtain ⟨hrely, hresumes⟩ := hresume n w c k₀ rfl htask hk₀ hready
      obtain ⟨hseg, hnew⟩ := hpromise.resume hrely hresumes
      rw [← hstate] at hseg hnew
      have hmoves : Moves K L ks k p.state p'.state (.resume n) := ⟨k₀, hk₀, hseg⟩
      refine ⟨?_, hmoves⟩
      unfold Kept
      rw [htasks]
      refine List.forall₂_iff_get.mpr ⟨hlen.trans (List.length_set).symm, fun m hk hc => ?_⟩
      simp only [List.get_eq_getElem, List.getElem_set]
      split_ifs with hnm
      · obtain rfl := hnm
        obtain rfl : ks[n] = k₀ := Option.some.inj ((List.getElem?_eq_getElem hk).symm.trans hk₀)
        exact hnew
      · have hc' : m < p.tasks.length := by rwa [List.length_set] at hc
        refine hrest hmoves m _ _ ?_ (List.getElem?_eq_getElem hk) (List.getElem?_eq_getElem hc')
        rintro heq
        exact hnm (by injection heq)
  | outside e =>
      obtain ⟨s, hs, hstate, htasks⟩ := step_outside h
      have hmoves : Moves K L ks k p.state p'.state (.outside e) := hs.trans (by rw [hstate])
      refine ⟨?_, hmoves⟩
      unfold Kept
      rw [htasks]
      exact hall hmoves fun n hn => by cases hn

/-- **Loops of segments.**  Where every coroutine that is started has its segments in `R`, and every
change from outside is in `R`, every event is. -/
theorem Kept.segment {R : σ → σ → Prop} {us : List Unit} {e : PoolEvent ι ε} (hrefl : ∀ s, R s s)
    (hmain : ∀ i, Coro.Within R (L.main i)) (houtside : ∀ s e s', L.outside s e = some s' → R s s')
    (hp : Kept (fun _ => .segments R) (fun _ _ _ => True) us p) (h : L.step p e = some p') :
    Kept (fun _ => .segments R) (fun _ _ _ => True) (labels us () e) p' ∧ R p.state p'.state := by
  have hspawn : ∀ i, e = .spawn i → (L.main i).Meets (.segments R) (fun s₀ _ s => R s₀ s ∧ True)
      p.state p.state := by
    intro i _
    exact (hmain i p.state p.state (hrefl _)).mono fun _ _ _ hsegment => ⟨hsegment, trivial⟩
  obtain ⟨hp', hmoves⟩ := Kept.step (k := ()) hspawn (fun _ _ _ _ _ _ _ _ => ⟨trivial, trivial⟩)
    (fun _ _ _ _ _ _ _ => ⟨fun _ _ _ => trivial, fun _ => trivial⟩) hp h
  refine ⟨hp', ?_⟩
  cases e with
  | spawn i => exact hmoves
  | resume n =>
      obtain ⟨_, _, hsegment⟩ := hmoves
      exact hsegment
  | outside e => exact houtside _ _ _ hmoves

/-- At most one coroutine is suspended. -/
def Solo (p : Pool σ ω β) : Prop :=
  ∀ (n m : ℕ) (c d : Coro σ ω β), p.tasks[n]? = some c → p.tasks[m]? = some d → ¬c.Ended →
    ¬d.Ended → n = m

/-- Where a coroutine is started only when all the others have ended, one is suspended at most. -/
theorem Solo.step {e : PoolEvent ι ε} (hp : Solo p) (hspawn : ∀ i, e = .spawn i → ∀ c ∈ p.tasks, c.Ended)
    (h : L.step p e = some p') : Solo p' := by
  cases e with
  | spawn i =>
      obtain ⟨-, htasks⟩ := step_spawn h
      have hlast : ∀ (n : ℕ) (c : Coro σ ω β), p'.tasks[n]? = some c → ¬c.Ended →
          n = p.tasks.length := by
        intro n c hc hended
        rw [htasks, List.getElem?_append] at hc
        split_ifs at hc with hn
        · exact absurd (hspawn i rfl c (List.mem_of_getElem? hc)) hended
        · have hzero := (List.getElem?_eq_some_iff.mp hc).1
          simp only [List.length_singleton] at hzero
          omega
      exact fun n m c d hc hd hcn hdn => (hlast n c hc hcn).trans (hlast m d hd hdn).symm
  | resume k =>
      obtain ⟨w, c₀, htask, -, -, htasks⟩ := step_resume h
      have hold : ∀ (n : ℕ) (c : Coro σ ω β), p'.tasks[n]? = some c → ¬c.Ended →
          ∃ c : Coro σ ω β, p.tasks[n]? = some c ∧ ¬c.Ended := by
        intro n c hc hended
        by_cases hn : k = n
        · obtain rfl := hn
          exact ⟨_, htask, id⟩
        · rw [htasks, List.getElem?_set_ne hn] at hc
          exact ⟨c, hc, hended⟩
      intro n m c d hc hd hcn hdn
      obtain ⟨c', hc', hcn'⟩ := hold n c hc hcn
      obtain ⟨d', hd', hdn'⟩ := hold m d hd hdn
      exact hp n m c' d' hc' hd' hcn' hdn'
  | outside e =>
      obtain ⟨s, -, -, htasks⟩ := step_outside h
      unfold Solo
      rw [htasks]
      exact hp

/-- A coroutine that has ended cannot be resumed. -/
theorem step_done {e : PoolEvent ι ε} {n : ℕ} {r : Except PyError β} (h : L.step p e = some p')
    (hc : p.tasks[n]? = some (.done r)) : p'.tasks[n]? = some (.done r) := by
  refine step_getElem? ?_ h hc
  rintro rfl
  obtain ⟨w, k, htask, -⟩ := step_resume h
  rw [hc] at htask
  cases htask

end EventLoop

end Runtime
