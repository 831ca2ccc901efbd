import Mathlib.Logic.Relation

/-! # Runs of a partial step function

A system is a step function `step : σ → ε → Option σ`: the state after an event, or `none`
where the event is not enabled.  `runFrom step s es` performs the events of `es` in order, and
`Along step P s es` says that `P` holds of every event of that run in the state before it.

The rules below are the two inductions every safety argument needs: an invariant that each
step keeps (under a condition on the step) is kept by the run, and a reflexive and transitive
relation that each step respects relates the two ends of the run. -/

namespace Runtime

variable {σ ε : Type} (step : σ → ε → Option σ)

/-- The state after the events `es`, or `none` when one of them is not enabled. -/
def runFrom : σ → List ε → Option σ
  | s, [] => some s
  | s, e :: es => (step s e).bind fun s' => runFrom s' es

/-- `P` holds of every event of the run, in the state before it. -/
def Along (P : σ → ε → Prop) : σ → List ε → Prop
  | _, [] => True
  | s, e :: es => P s e ∧ ∀ s', step s e = some s' → Along P s' es

/-- The check of a decidable property along a run. -/
def decidableAlong (P : σ → ε → Prop) [∀ s e, Decidable (P s e)] :
    ∀ s es, Decidable (Along step P s es)
  | _, [] => isTrue trivial
  | s, e :: es =>
      match h : step s e with
      | none => decidable_of_iff (P s e) (by simp [Along, h])
      | some s' =>
          have : Decidable (Along step P s' es) := decidableAlong P s' es
          decidable_of_iff (P s e ∧ Along step P s' es) (by simp [Along, h])

instance {P : σ → ε → Prop} [∀ s e, Decidable (P s e)] (s : σ) (es : List ε) :
    Decidable (Along step P s es) := decidableAlong step P s es

@[simp] theorem runFrom_nil (s : σ) : runFrom step s [] = some s := rfl

theorem runFrom_cons (s : σ) (e : ε) (es : List ε) :
    runFrom step s (e :: es) = (step s e).bind fun s' => runFrom step s' es := rfl

theorem runFrom_append (s : σ) (es fs : List ε) :
    runFrom step s (es ++ fs) = (runFrom step s es).bind fun s' => runFrom step s' fs := by
  induction es generalizing s with
  | nil => rfl
  | cons e es ih =>
      simp only [List.cons_append, runFrom_cons]
      cases step s e with
      | none => rfl
      | some s' => exact ih s'

theorem runFrom_cons_some {s s' : σ} {e : ε} {es : List ε}
    (h : runFrom step s (e :: es) = some s') :
    ∃ s₁, step s e = some s₁ ∧ runFrom step s₁ es = some s' := by
  rw [runFrom_cons] at h
  exact Option.bind_eq_some_iff.mp h

@[simp] theorem along_nil (P : σ → ε → Prop) (s : σ) : Along step P s [] := trivial

theorem along_cons (P : σ → ε → Prop) (s : σ) (e : ε) (es : List ε) :
    Along step P s (e :: es) ↔ P s e ∧ ∀ s', step s e = some s' → Along step P s' es :=
  Iff.rfl

theorem Along.mono {P Q : σ → ε → Prop} (hPQ : ∀ s e, P s e → Q s e) {s : σ} {es : List ε}
    (h : Along step P s es) : Along step Q s es := by
  induction es generalizing s with
  | nil => trivial
  | cons e es ih => exact ⟨hPQ _ _ h.1, fun s' hs' => ih (h.2 s' hs')⟩

theorem Along.and {P Q : σ → ε → Prop} {s : σ} {es : List ε} (h : Along step P s es)
    (h' : Along step Q s es) : Along step (fun s e => P s e ∧ Q s e) s es := by
  induction es generalizing s with
  | nil => trivial
  | cons e es ih => exact ⟨⟨h.1, h'.1⟩, fun s' hs' => ih (h.2 s' hs') (h'.2 s' hs')⟩

theorem Along.of_forall {P : σ → ε → Prop} (h : ∀ s e, P s e) (s : σ) (es : List ε) :
    Along step P s es := by
  induction es generalizing s with
  | nil => trivial
  | cons e es ih => exact ⟨h s e, fun s' _ => ih s'⟩

/-- A condition on the events alone. -/
theorem Along.of_mem {P : ε → Prop} {es : List ε} (h : ∀ e ∈ es, P e) (s : σ) :
    Along step (fun _ => P) s es := by
  induction es generalizing s with
  | nil => trivial
  | cons e es ih =>
      exact ⟨h e (List.mem_cons_self ..), fun s' _ => ih (fun f hf => h f (List.mem_cons_of_mem _ hf)) s'⟩

/-- **Invariant rule.**  What every step of the run keeps, the run keeps. -/
theorem runFrom_invariant {P : σ → ε → Prop} {I : σ → Prop}
    (hstep : ∀ s e s', I s → P s e → step s e = some s' → I s') {s s' : σ} {es : List ε}
    (hs : I s) (hP : Along step P s es) (hr : runFrom step s es = some s') : I s' := by
  induction es generalizing s with
  | nil =>
      obtain rfl : s = s' := Option.some.inj hr
      exact hs
  | cons e es ih =>
      obtain ⟨s₁, h₁, h₂⟩ := runFrom_cons_some step hr
      exact ih (hstep s e s₁ hs hP.1 h₁) (hP.2 s₁ h₁) h₂

/-- **Relation rule.**  A preorder that every step respects relates the ends of the run. -/
theorem runFrom_rel {R : σ → σ → Prop} (hrefl : ∀ s, R s s)
    (htrans : ∀ {a b c}, R a b → R b c → R a c)
    (hstep : ∀ s e s', step s e = some s' → R s s') {s s' : σ} {es : List ε}
    (hr : runFrom step s es = some s') : R s s' := by
  induction es generalizing s with
  | nil =>
      obtain rfl : s = s' := Option.some.inj hr
      exact hrefl s
  | cons e es ih =>
      obtain ⟨s₁, h₁, h₂⟩ := runFrom_cons_some step hr
      exact htrans (hstep s e s₁ h₁) (ih h₂)

/-- Properties that are the same where an invariant holds are the same along a run, if the steps that have
them keep the invariant. -/
theorem along_congr_of_keeps {I : σ → Prop} {P Q : σ → ε → Prop} (hPQ : ∀ s e, I s → (P s e ↔ Q s e))
    (hI : ∀ s e s', I s → P s e → step s e = some s' → I s') {s : σ} (hs : I s) (es : List ε) :
    Along step P s es ↔ Along step Q s es := by
  induction es generalizing s with
  | nil => exact Iff.rfl
  | cons e es ih =>
      rw [along_cons, along_cons]
      constructor
      · rintro ⟨hP, hrest⟩
        exact ⟨(hPQ s e hs).mp hP, fun s' hs' => (ih (hI s e s' hs hP hs')).mp (hrest s' hs')⟩
      · rintro ⟨hQ, hrest⟩
        have hP : P s e := (hPQ s e hs).mpr hQ
        exact ⟨hP, fun s' hs' => (ih (hI s e s' hs hP hs')).mpr (hrest s' hs')⟩

/-- Properties that are the same where an invariant holds are the same along a run. -/
theorem along_congr {I : σ → Prop} {P Q : σ → ε → Prop} (hPQ : ∀ s e, I s → (P s e ↔ Q s e))
    (hI : ∀ s e s', I s → step s e = some s' → I s') {s : σ} (hs : I s) (es : List ε) :
    Along step P s es ↔ Along step Q s es :=
  along_congr_of_keeps step hPQ (fun s e s' hs _ => hI s e s' hs) hs es

/-- A property of all prefixes of a run, for an enabled run: it holds of `P` along the run iff
no prefix ends just before an event that violates `P`. -/
theorem along_iff_split {P : σ → ε → Prop} {s : σ} {es : List ε} :
    Along step P s es ↔
      ∀ pre e post s₁, es = pre ++ e :: post → runFrom step s pre = some s₁ → P s₁ e := by
  induction es generalizing s with
  | nil => simp
  | cons e es ih =>
      rw [along_cons]
      constructor
      · rintro ⟨hP, hrest⟩ pre f post s₁ heq hrun
        cases pre with
        | nil =>
            obtain ⟨rfl, -⟩ := List.cons_eq_cons.mp heq
            obtain rfl : s = s₁ := Option.some.inj hrun
            exact hP
        | cons p pre =>
            obtain ⟨hep, htail⟩ := List.cons_eq_cons.mp (heq.trans (List.cons_append ..))
            obtain ⟨s₂, h₂, hrun⟩ := runFrom_cons_some step hrun
            exact ih.mp (hrest s₂ (hep ▸ h₂)) pre f post s₁ htail hrun
      · intro h
        refine ⟨h [] e es s rfl rfl, fun s' hs' => ih.mpr ?_⟩
        intro pre f post s₁ heq hrun
        refine h (e :: pre) f post s₁ (by rw [heq]; rfl) ?_
        rw [runFrom_cons, hs']
        exact hrun

/-- A property holds along a run, or there is a first event that violates it. -/
theorem along_or_first {P : σ → ε → Prop} (s : σ) (es : List ε) :
    Along step P s es ∨
      ∃ pre e post s₁, es = pre ++ e :: post ∧ runFrom step s pre = some s₁ ∧
        Along step P s pre ∧ ¬P s₁ e := by
  induction es generalizing s with
  | nil => exact Or.inl trivial
  | cons e es ih =>
      by_cases hP : P s e
      · cases hs : step s e with
        | none => exact Or.inl ⟨hP, fun s' hs' => absurd (hs.symm.trans hs') (by simp)⟩
        | some s' =>
            rcases ih s' with halong | ⟨pre, f, post, s₁, rfl, hrun, halong, hno⟩
            · refine Or.inl ⟨hP, fun s'' hs'' => ?_⟩
              obtain rfl : s' = s'' := Option.some.inj (hs.symm.trans hs'')
              exact halong
            · refine Or.inr ⟨e :: pre, f, post, s₁, rfl, ?_, ⟨hP, fun s'' hs'' => ?_⟩, hno⟩
              · rw [runFrom_cons, hs]
                exact hrun
              · obtain rfl : s' = s'' := Option.some.inj (hs.symm.trans hs'')
                exact halong
      · exact Or.inr ⟨[], e, es, s, rfl, rfl, trivial, hP⟩

/-- A property along a run holds along its beginnings. -/
theorem Along.beginning {P : σ → ε → Prop} {s : σ} {es pre : List ε} (h : Along step P s es)
    (hpre : pre <+: es) : Along step P s pre := by
  obtain ⟨rest, rfl⟩ := hpre
  refine (along_iff_split step).mpr ?_
  rintro p e post s₁ rfl hrun
  exact (along_iff_split step).mp h p e (post ++ rest) s₁ (by simp) hrun

/-- A property along a run holds along its ends. -/
theorem Along.rest {P : σ → ε → Prop} {s s' : σ} {es fs : List ε} (h : Along step P s (es ++ fs))
    (hr : runFrom step s es = some s') : Along step P s' fs := by
  induction es generalizing s with
  | nil =>
      obtain rfl : s = s' := Option.some.inj hr
      exact h
  | cons e es ih =>
      obtain ⟨s₁, h₁, h₂⟩ := runFrom_cons_some step hr
      exact ih (h.2 s₁ h₁) h₂

/-- A property along a run and along what comes after it. -/
theorem Along.append {P : σ → ε → Prop} {s : σ} {es fs : List ε} (h : Along step P s es)
    (h' : ∀ s', runFrom step s es = some s' → Along step P s' fs) : Along step P s (es ++ fs) := by
  induction es generalizing s with
  | nil => exact h' s rfl
  | cons e es ih =>
      refine ⟨h.1, fun s₁ h₁ => ih (h.2 s₁ h₁) fun s' hs' => h' s' ?_⟩
      rw [runFrom_cons, h₁]
      exact hs'

/-- `P` holds of every state of the run, the first one included. -/
def Always (P : σ → Prop) (s : σ) (es : List ε) : Prop :=
  ∀ pre s', pre <+: es → runFrom step s pre = some s' → P s'

/-- **Exact conditions.**  Where a condition on the events keeps an invariant that implies `P`, and
every other event ends in a state without `P`, the condition is exact. -/
theorem always_iff_along {I P : σ → Prop} {Q : σ → ε → Prop} (hP : ∀ s, I s → P s)
    (hkeep : ∀ s e s', I s → Q s e → step s e = some s' → I s')
    (hbreak : ∀ s e s', I s → ¬Q s e → step s e = some s' → ¬P s') {s s' : σ} {es : List ε}
    (hs : I s) (hr : runFrom step s es = some s') : Always step P s es ↔ Along step Q s es := by
  constructor
  · intro halways
    rcases along_or_first step (P := Q) s es with halong | ⟨pre, e, post, s₁, rfl, hpre, halong, hno⟩
    · exact halong
    · rw [runFrom_append, hpre] at hr
      obtain ⟨s₂, h₂, -⟩ := runFrom_cons_some step hr
      have hs₁ := runFrom_invariant step hkeep hs halong hpre
      refine absurd (halways (pre ++ [e]) s₂ ⟨post, by simp⟩ ?_) (hbreak s₁ e s₂ hs₁ hno h₂)
      rw [runFrom_append, hpre]
      exact (runFrom_cons step s₁ e []).trans (by rw [h₂]; rfl)
  · intro halong pre s₁ hpre hrun
    exact hP s₁ (runFrom_invariant step hkeep hs (halong.beginning step hpre) hrun)

/-- A run is found by evaluating it. -/
theorem exists_run {P : σ → Prop} [DecidablePred P] {s : σ} {es : List ε}
    (h : ((runFrom step s es).any fun s' => decide (P s')) = true) :
    ∃ s', runFrom step s es = some s' ∧ P s' := by
  obtain ⟨s', hs', hP⟩ := (Option.any_eq_true _ _).mp h
  exact ⟨s', hs', of_decide_eq_true hP⟩

end Runtime
