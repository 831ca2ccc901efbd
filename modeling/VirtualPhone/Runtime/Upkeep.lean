import VirtualPhone.Runtime.Contract

/-! # A copy that the coroutines of a loop keep up to date

The state keeps a copy of a value that it also has otherwise, such as a counter.  A coroutine that
changes the value works the copy out again at some later point, maybe several suspensions later.  A
`Tally` names the two; `Tally.mark` keeps a list of the coroutines that have changed the value since
the copy was last rewritten.  An `Upkeep` adds what a suspended coroutine can rely on, and what is
known when the coroutine with some label is resumed, one of the list or not.

Verification keeps a debt: `due` says that the coroutine may have changed the value and owes the copy
(`Coro.Mends`).  In a loop of such coroutines that end without a debt, in every state, the copy is
right or a coroutine of the list is still under way (`EventLoop.Upkept.right`). -/

namespace Runtime

/-- A value of the state, and the copy that is shown of it. -/
structure Tally (σ ν : Type) where
  value : σ → ν
  shown : σ → ν

namespace Tally

variable {σ ν : Type} (T : Tally σ ν)

/-- The copy is right. -/
def Right (s : σ) : Prop := T.shown s = T.value s

/-- Who has changed the value since the copy was last rewritten, when coroutine `n` makes `s'` of `s`. -/
def mark [DecidableEq ν] (n : ℕ) (s s' : σ) (behind : List ℕ) : List ℕ :=
  if T.shown s' ≠ T.shown s then []
  else if T.value s' ≠ T.value s then n :: behind
  else behind

end Tally

/-- A copy, and what a suspended coroutine relies on and finds when it is resumed: with its label, what
it waits for, and whether it has changed the value since the copy was rewritten. -/
structure Upkeep (σ ω κ ν : Type) where
  tally : Tally σ ν
  later : σ → σ → Prop
  resumes : κ → ω → Prop → σ → Prop
  trans : ∀ {a b c}, later a b → later b c → later a c

namespace Upkeep

variable {σ ω κ ν : Type} {U : Upkeep σ ω κ ν} {due due' : Bool} {s s' : σ}

/-- How a change of the state settles the debt: the copy is rewritten and right, or it stays, and is
owed, or what was right stays right. -/
def Owes (U : Upkeep σ ω κ ν) (due : Bool) (s : σ) (due' : Bool) (s' : σ) : Prop :=
  U.tally.Right s' ∨ U.tally.shown s' = U.tally.shown s ∧
    (due' = true ∨ due = false ∧ (U.tally.Right s → U.tally.Right s'))

/-- A change that does not make the copy wrong leaves the debt as it is. -/
theorem Owes.of_keeps (due : Bool) (hshown : U.tally.shown s' = U.tally.shown s)
    (h : U.tally.Right s → U.tally.Right s') : U.Owes due s due s' := by
  cases due with
  | true => exact Or.inr ⟨hshown, Or.inl rfl⟩
  | false => exact Or.inr ⟨hshown, Or.inr ⟨rfl, h⟩⟩

end Upkeep

namespace Coro

variable {σ ω κ ν α β : Type}

/-- From `s` on, with the debt `due`, the coroutine labelled `l` settles its debts and ends as `post`
says.  One that is resumed and has not changed the value since the copy was rewritten may take its debt
as settled. -/
def Mends (U : Upkeep σ ω κ ν) (l : κ) (post : Bool → Except PyError α → σ → Prop) :
    Coro σ ω α → Bool → σ → Prop
  | done r, due, s => post due r s
  | read k, due, s => (k s).Mends U l post due s
  | write f k, due, s => ∃ due', U.Owes due s due' (f s) ∧ k.Mends U l post due' (f s)
  | wait w k, due, s => ∀ (behind : Prop) (s' : σ), U.later s s' → U.resumes l w behind s' →
      ∃ due', (behind → due' = due) ∧ k.Mends U l post due' s'

/-- Without a debt. -/
def Settled (due : Bool) (_ : Except PyError α) (_ : σ) : Prop := due = false

/-- What the statements of a segment make of `t`. -/
def follow {τ : Type} (g : σ → σ → τ → τ) : Coro σ ω α → σ → τ → τ
  | done _, _, t => t
  | read k, s, t => (k s).follow g s t
  | write f k, s, t => k.follow g (f s) (g s (f s) t)
  | wait _ _, _, t => t

variable {U : Upkeep σ ω κ ν} {l : κ}

/-! ### Rules -/

section

variable {post : Bool → Except PyError β → σ → Prop} {due : Bool} {s : σ}

/-- What a statement has to end with for the rest to go on. -/
def thenMends (U : Upkeep σ ω κ ν) (l : κ) (f : α → Coro σ ω β)
    (post : Bool → Except PyError β → σ → Prop) : Bool → Except PyError α → σ → Prop
  | due, .ok a, s => (f a).Mends U l post due s
  | due, .error e, s => post due (.error e) s

theorem mends_bind {c : Coro σ ω α} {f : α → Coro σ ω β} :
    (c >>= f).Mends U l post due s ↔ c.Mends U l (thenMends U l f post) due s := by
  induction c generalizing due s with
  | done r =>
      cases r with
      | ok a => exact Iff.rfl
      | error e => exact Iff.rfl
  | read k ih => exact ih s
  | write g k ih => exact exists_congr fun due' => and_congr_right fun _ => ih
  | wait w k ih =>
      refine forall_congr' fun behind => forall_congr' fun s' => ?_
      exact imp_congr_right fun _ => imp_congr_right fun _ => exists_congr fun _ => and_congr_right fun _ => ih

theorem mends_attempt {c : Coro σ ω α} {post : Bool → Except PyError (Except PyError α) → σ → Prop} :
    c.attempt.Mends U l post due s ↔ c.Mends U l (fun due r s => post due (.ok r) s) due s := by
  induction c generalizing due s with
  | done r => exact Iff.rfl
  | read k ih => exact ih s
  | write g k ih => exact exists_congr fun due' => and_congr_right fun _ => ih
  | wait w k ih =>
      refine forall_congr' fun behind => forall_congr' fun s' => ?_
      exact imp_congr_right fun _ => imp_congr_right fun _ => exists_congr fun _ => and_congr_right fun _ => ih

theorem mends_get_bind {k : σ → Coro σ ω β} :
    (get >>= k : Coro σ ω β).Mends U l post due s ↔ (k s).Mends U l post due s := Iff.rfl

theorem mends_modify_bind {f : σ → σ} {k : Unit → Coro σ ω β} :
    (modify f >>= k : Coro σ ω β).Mends U l post due s ↔
      ∃ due', U.Owes due s due' (f s) ∧ (k ()).Mends U l post due' (f s) := Iff.rfl

theorem mends_await_bind {w : ω} {k : Unit → Coro σ ω β} :
    (await w >>= k : Coro σ ω β).Mends U l post due s ↔
      ∀ (behind : Prop) (s' : σ), U.later s s' → U.resumes l w behind s' →
        ∃ due', (behind → due' = due) ∧ (k ()).Mends U l post due' s' := Iff.rfl

/-- A weaker outcome. -/
theorem Mends.mono {post' : Bool → Except PyError β → σ → Prop} {c : Coro σ ω β}
    (h : c.Mends U l post due s) (hpost : ∀ due r s, post due r s → post' due r s) :
    c.Mends U l post' due s := by
  induction c generalizing due s with
  | done r => exact hpost _ _ _ h
  | read k ih => exact ih s h
  | write f k ih =>
      obtain ⟨due', howes, h⟩ := h
      exact ⟨due', howes, ih h⟩
  | wait w k ih =>
      intro behind s' hlater hw
      obtain ⟨due', hdue, h⟩ := h behind s' hlater hw
      exact ⟨due', hdue, ih h⟩

/-- A statement, and what follows it where it ends. -/
theorem Mends.bind {K : Bool → Except PyError α → σ → Prop} {c : Coro σ ω α} {f : α → Coro σ ω β}
    (hc : c.Mends U l K due s) (hf : ∀ due a s, K due (.ok a) s → (f a).Mends U l post due s)
    (herror : ∀ due e s, K due (.error e) s → post due (.error e) s) :
    (c >>= f).Mends U l post due s := by
  refine mends_bind.mpr (hc.mono fun due r s h => ?_)
  cases r with
  | ok a => exact hf due a s h
  | error e => exact herror due e s h

/-- A coroutine whose changes do not make the copy wrong leaves the debt as it is. -/
theorem Guarantees.mends {D : Discipline σ ω} {post : Bool → Except PyError α → σ → Prop}
    {Q : Except PyError α → σ → Prop} {c : Coro σ ω α}
    (hshown : ∀ {a b}, D.micro a b → U.tally.shown b = U.tally.shown a)
    (hright : ∀ {a b}, D.micro a b → U.tally.Right a → U.tally.Right b)
    (hlater : ∀ {a b}, U.later a b → D.later a b)
    (hresumes : ∀ {w behind s}, U.resumes l w behind s → D.resumes w s) (hc : c.Guarantees D Q s)
    (hpost : ∀ r s', Q r s' → post due r s') : c.Mends U l post due s := by
  induction c generalizing s with
  | done r => exact hpost r s hc
  | read k ih => exact ih s hc
  | write f k ih => exact ⟨due, .of_keeps due (hshown hc.1) (hright hc.1), ih hc.2⟩
  | wait w k ih => exact fun behind s' h hw => ⟨due, fun _ => rfl, ih (hc s' (hlater h) (hresumes hw))⟩

end

/-! ### Suspended coroutines -/

section

variable {due : Bool} {s s' : σ} {c : Coro σ ω α}

theorem Mends.not_ended (h : c.Mends U l Settled true s) : ¬c.Ended := by
  intro hended
  obtain ⟨r, rfl⟩ := hended.exists_eq
  cases h

/-- What the others do meanwhile does not matter. -/
theorem Mends.later {post : Bool → Except PyError α → σ → Prop} (h : c.Mends U l post due s)
    (hpost : ∀ due r s s', post due r s → post due r s') (hhalted : c.Halted) (hs : U.later s s') :
    c.Mends U l post due s' := by
  cases c with
  | done r => exact hpost _ _ _ _ h
  | read k => exact hhalted.elim
  | write f k => exact hhalted.elim
  | wait w k => exact fun behind s₁ h₁ hw => h behind s₁ (U.trans hs h₁) hw

variable [DecidableEq ν]

/-- **A run to the next suspension.**  The coroutine settles its debts or hands them on: when it stops,
the copy is right, or it owes it and has changed the value since, or another one that has is left. -/
theorem Mends.run {post : Bool → Except PyError α → σ → Prop} {n : ℕ} {behind : List ℕ} {P : ℕ → Prop}
    (h : c.Mends U l post due s)
    (hdue : U.tally.Right s ∨ due = true ∧ n ∈ behind ∨ ∃ m ∈ behind, P m) :
    ∃ due', (c.run s).1.Mends U l post due' (c.run s).2 ∧
      (U.tally.Right (c.run s).2 ∨ due' = true ∧ n ∈ c.follow (U.tally.mark n) s behind ∨
        ∃ m ∈ c.follow (U.tally.mark n) s behind, P m) := by
  induction c generalizing due s behind with
  | done r => exact ⟨due, h, hdue⟩
  | read k ih => exact ih s h hdue
  | write f k ih =>
      obtain ⟨due₁, howes, h⟩ := h
      refine ih h ?_
      rcases howes with hright | ⟨hshown, howes⟩
      · exact Or.inl hright
      · have hmark : U.tally.mark n s (f s) behind =
            if U.tally.value (f s) ≠ U.tally.value s then n :: behind else behind :=
          if_neg (not_not.mpr hshown)
        have hkept : ∀ m ∈ behind, m ∈ U.tally.mark n s (f s) behind := by
          intro m hm
          rw [hmark]
          split_ifs
          · exact List.mem_cons_of_mem n hm
          · exact hm
        rcases howes with hdue₁ | ⟨hnot, hright⟩
        · by_cases hvalue : U.tally.value (f s) = U.tally.value s
          · rcases hdue with hright | ⟨-, hn⟩ | ⟨m, hm, hP⟩
            · exact Or.inl (hshown.trans (hright.trans hvalue.symm))
            · exact Or.inr (Or.inl ⟨hdue₁, hkept n hn⟩)
            · exact Or.inr (Or.inr ⟨m, hkept m hm, hP⟩)
          · refine Or.inr (Or.inl ⟨hdue₁, ?_⟩)
            rw [hmark, if_pos hvalue]
            exact List.mem_cons_self
        · rcases hdue with hs | ⟨hdue, -⟩ | ⟨m, hm, hP⟩
          · exact Or.inl (hright hs)
          · rw [hnot] at hdue
            cases hdue
          · exact Or.inr (Or.inr ⟨m, hkept m hm, hP⟩)
  | wait w k ih => exact ⟨due, h, hdue⟩

end

end Coro

/-! ### The loop -/

namespace EventLoop

variable {σ ω κ ν β ι ε : Type} (L : EventLoop σ ω β ι ε)

/-- The number of the coroutine that an event runs, and what there is to run of it. -/
def running (p : Pool σ ω β) : PoolEvent ι ε → Option (ℕ × Coro σ ω β)
  | .spawn i => some (p.tasks.length, L.main i)
  | .resume n =>
      match p.tasks[n]? with
      | some (.wait _ c) => some (n, c)
      | _ => none
  | .outside _ => none

/-- The event ends the coroutine that it runs. -/
def Ends (p : Pool σ ω β) (e : PoolEvent ι ε) : Prop :=
  ∃ run ∈ L.running p e, (run.2.run p.state).1.Ended

instance (p : Pool σ ω β) (e : PoolEvent ι ε) : Decidable (L.Ends p e) :=
  inferInstanceAs (Decidable (∃ _ ∈ _, _))

/-- Who has changed the value since the copy was last rewritten, after an event. -/
def marks [DecidableEq ν] (T : Tally σ ν) (p : Pool σ ω β) (old : List ℕ) (e : PoolEvent ι ε) : List ℕ :=
  match L.running p e with
  | some (n, c) => c.follow (T.mark n) p.state old
  | none => old

/-- Coroutine `n` is under way. -/
def UnderWay (p : Pool σ ω β) (n : ℕ) : Prop := ∃ c ∈ p.tasks[n]?, ¬c.Ended

instance (p : Pool σ ω β) (n : ℕ) : Decidable (UnderWay p n) :=
  inferInstanceAs (Decidable (∃ _ ∈ _, _))

/-- No coroutine ends while another one under way has changed the value since the copy was rewritten. -/
def Undisturbed [DecidableEq ν] (T : Tally σ ν) (p : Pool σ ω β) (old : List ℕ) (e : PoolEvent ι ε) : Prop :=
  L.Ends p e → ∀ n ∈ L.marks T p old e, UnderWay p n → ∃ run ∈ L.running p e, run.1 = n

instance [DecidableEq ν] (T : Tally σ ν) (p : Pool σ ω β) (old : List ℕ) (e : PoolEvent ι ε) :
    Decidable (L.Undisturbed T p old e) :=
  inferInstanceAs (Decidable (_ → ∀ _ ∈ _, _ → ∃ _ ∈ _, _))

variable {L} {U : Upkeep σ ω κ ν}

/-- A coroutine that is under way after an event was so before it, or is the one that was run, and it
has not ended. -/
theorem underWay_of_step {p p' : Pool σ ω β} {e : PoolEvent ι ε} {n : ℕ} (h : L.step p e = some p')
    (hn : UnderWay p' n) : UnderWay p n ∧ (∀ run ∈ L.running p e, run.1 ≠ n) ∨
      ∃ run ∈ L.running p e, run.1 = n ∧ ¬(run.2.run p.state).1.Ended := by
  obtain ⟨c, hc, hended⟩ := hn
  cases e with
  | spawn i =>
      obtain ⟨-, htasks⟩ := step_spawn h
      rw [htasks, Option.mem_def, List.getElem?_append] at hc
      split_ifs at hc with hlt
      · refine Or.inl ⟨⟨c, hc, hended⟩, fun run hrun => ?_⟩
        obtain rfl := Option.some.inj hrun
        exact hlt.ne'
      · obtain ⟨hzero, rfl⟩ := List.getElem?_eq_some_iff.mp hc
        rw [List.length_singleton] at hzero
        refine Or.inr ⟨_, rfl, ?_, ?_⟩
        · change p.tasks.length = n
          omega
        · simpa only [List.getElem_singleton] using hended
  | resume m =>
      obtain ⟨w, k, htask, -, -, htasks⟩ := step_resume h
      have hrunning : L.running p (.resume m) = some (m, k) := by simp only [running, htask]
      rw [htasks, Option.mem_def] at hc
      by_cases hm : m = n
      · subst hm
        rw [List.getElem?_set_self (List.getElem?_eq_some_iff.mp htask).1] at hc
        obtain rfl := Option.some.inj hc
        exact Or.inr ⟨_, hrunning, rfl, hended⟩
      · rw [List.getElem?_set_ne hm] at hc
        refine Or.inl ⟨⟨c, hc, hended⟩, fun run hrun => ?_⟩
        obtain rfl := Option.some.inj (hrunning.symm.trans hrun)
        exact hm
  | outside x =>
      obtain ⟨-, -, -, htasks⟩ := step_outside h
      rw [htasks] at hc
      exact Or.inl ⟨⟨c, hc, hended⟩, fun run hrun => by cases hrun⟩

/-- A coroutine between two segments that ends without a debt. -/
def Tends (U : Upkeep σ ω κ ν) (l : κ) (due : Bool) (c : Coro σ ω β) (s : σ) : Prop :=
  c.Halted ∧ c.Mends U l Coro.Settled due s

theorem Tends.later {l : κ} {due : Bool} {c : Coro σ ω β} {s s' : σ} (h : Tends U l due c s)
    (hs : U.later s s') : Tends U l due c s' :=
  ⟨h.1, h.2.later (fun _ _ _ _ => id) h.1 hs⟩

/-- Coroutine `n` of the pool ends without a debt, and has the debt `due`. -/
def TaskTends (U : Upkeep σ ω κ ν) (ls : List κ) (p : Pool σ ω β) (due : Bool) (n : ℕ) : Prop :=
  ∃ c l, p.tasks[n]? = some c ∧ ls[n]? = some l ∧ Tends U l due c p.state

/-- Every coroutine of the pool ends without a debt, and the copy is right, or one that has changed the
value since it was rewritten owes it. -/
structure Upkept (U : Upkeep σ ω κ ν) (ls : List κ) (behind : List ℕ) (p : Pool σ ω β) : Prop where
  length : ls.length = p.tasks.length
  tends : ∀ n < p.tasks.length, ∃ due, TaskTends U ls p due n
  owed : U.tally.Right p.state ∨ ∃ n ∈ behind, TaskTends U ls p true n

/-- Nothing runs yet. -/
theorem Upkept.initial {s : σ} (h : U.tally.Right s) :
    Upkept (β := β) U [] [] { state := s, tasks := [] } :=
  ⟨rfl, fun n hn => absurd hn (Nat.not_lt_zero n), Or.inl h⟩

/-- **The copy is right** where no coroutine under way has changed the value since it was rewritten. -/
theorem Upkept.right {ls : List κ} {behind : List ℕ} {p : Pool σ ω β} (h : Upkept U ls behind p)
    (hquiet : ∀ n ∈ behind, ¬UnderWay p n) : U.tally.Right p.state := by
  rcases h.owed with hright | ⟨n, hn, c, l, hc, -, htends⟩
  · exact hright
  · exact absurd ⟨c, hc, htends.2.not_ended⟩ (hquiet n hn)

variable [DecidableEq ν]

/-- **The copy is right when a coroutine has ended**, undisturbed by the others. -/
theorem Upkept.right_of_ends {ls : List κ} {old : List ℕ} {p p' : Pool σ ω β} {e : PoolEvent ι ε}
    (hp' : Upkept U ls (L.marks U.tally p old e) p') (h : L.step p e = some p') (hends : L.Ends p e)
    (hundisturbed : L.Undisturbed U.tally p old e) : U.tally.Right p'.state := by
  refine hp'.right fun n hn hway => ?_
  rcases underWay_of_step h hway with ⟨hway, hothers⟩ | ⟨run, hrun, -, hgoes⟩
  · obtain ⟨run, hrun, hrunn⟩ := hundisturbed hends n hn hway
    exact hothers run hrun hrunn
  · obtain ⟨run', hrun', hended⟩ := hends
    obtain rfl := Option.some.inj (hrun.symm.trans hrun')
    exact hgoes hended

/-- A segment of coroutine `n`, new or resumed, where the debts before it are as they should be. -/
theorem Upkept.of_segment {ls ls' : List κ} {behind : List ℕ} {p p' : Pool σ ω β} {n : ℕ} {k : κ} {due : Bool}
    {c : Coro σ ω β} (hp : Upkept U ls behind p) (hlater : U.later p.state p'.state)
    (hstate : p'.state = (c.run p.state).2) (hlength : ls'.length = p'.tasks.length)
    (htask : p'.tasks[n]? = some (c.run p.state).1) (htasks : ∀ m, m ≠ n → p'.tasks[m]? = p.tasks[m]?)
    (hlabel : ls'[n]? = some k) (hlabels : ∀ m, m ≠ n → ls'[m]? = ls[m]?)
    (hmends : c.Mends U k Coro.Settled due p.state)
    (howed : U.tally.Right p.state ∨ due = true ∧ n ∈ behind ∨
      ∃ m ∈ behind, m ≠ n ∧ TaskTends U ls p true m) :
    Upkept U ls' (c.follow (U.tally.mark n) p.state behind) p' := by
  obtain ⟨due', hrest, howed'⟩ := hmends.run howed
  rw [← hstate] at hrest howed'
  have hself : TaskTends U ls' p' due' n := ⟨_, k, htask, hlabel, Coro.run_halted _ _, hrest⟩
  have hothers : ∀ {due₁ : Bool} {m : ℕ}, m ≠ n → TaskTends U ls p due₁ m → TaskTends U ls' p' due₁ m := by
    rintro due₁ m hm ⟨d, k', hd, hk', htends⟩
    exact ⟨d, k', (htasks m hm).trans hd, (hlabels m hm).trans hk', htends.later hlater⟩
  refine ⟨hlength, fun m hm => ?_, ?_⟩
  · by_cases hmn : m = n
    · subst hmn
      exact ⟨due', hself⟩
    · have hold : m < p.tasks.length := by
        by_contra hlt
        have hnone := htasks m hmn
        rw [List.getElem?_eq_none (not_lt.mp hlt), List.getElem?_eq_none_iff] at hnone
        exact absurd hm (not_lt.mpr hnone)
      obtain ⟨due₁, htends⟩ := hp.tends m hold
      exact ⟨due₁, hothers hmn htends⟩
  · rcases howed' with hright | ⟨rfl, hn⟩ | ⟨m, hm, hmn, htends⟩
    · exact Or.inl hright
    · exact Or.inr ⟨n, hn, hself⟩
    · exact Or.inr ⟨m, hm, hothers hmn htends⟩

/-- **One event.**  Where a started coroutine and a resumed one settle their debts, and what happens
from outside does not make the copy wrong, the pool is kept up. -/
theorem Upkept.step {ls : List κ} {l : κ} {behind : List ℕ} {p p' : Pool σ ω β} {e : PoolEvent ι ε}
    (hspawn : ∀ i, e = .spawn i → (L.main i).Mends U l Coro.Settled false p.state)
    (hresume : ∀ n w c l, e = .resume n → p.tasks[n]? = some (.wait w c) → ls[n]? = some l →
      L.ready w p.state = true → U.resumes l w (n ∈ behind) p.state)
    (houtside : ∀ x s', e = .outside x → L.outside p.state x = some s' →
      U.tally.Right p.state → U.tally.Right s')
    (hrefl : U.later p.state p.state) (hlater : U.later p.state p'.state) (hp : Upkept U ls behind p)
    (h : L.step p e = some p') : Upkept U (labels ls l e) (L.marks U.tally p behind e) p' := by
  cases e with
  | spawn i =>
      obtain ⟨hstate, htasks⟩ := step_spawn h
      have hnew : ∀ m, m ≠ p.tasks.length → p'.tasks[m]? = p.tasks[m]? := by
        intro m hm
        rw [htasks, List.getElem?_append]
        split_ifs with hlt
        · rfl
        · rw [List.getElem?_eq_none (by simp only [List.length_singleton]; omega),
            List.getElem?_eq_none (not_lt.mp hlt)]
      have hlabels : ∀ m, m ≠ p.tasks.length → (ls ++ [l])[m]? = ls[m]? := by
        intro m hm
        rw [← hp.length] at hm
        rw [List.getElem?_append]
        split_ifs with hlt
        · rfl
        · rw [List.getElem?_eq_none (by simp only [List.length_singleton]; omega),
            List.getElem?_eq_none (not_lt.mp hlt)]
      refine hp.of_segment (n := p.tasks.length) (k := l) hlater hstate ?_ ?_ hnew ?_ hlabels
        (hspawn i rfl) ?_
      · rw [htasks, labels, List.length_append, List.length_append, hp.length]
        rfl
      · rw [htasks, List.getElem?_concat_length]
      · rw [← hp.length]
        exact List.getElem?_concat_length
      · rcases hp.owed with hright | ⟨m, hm, htends⟩
        · exact Or.inl hright
        · refine Or.inr (Or.inr ⟨m, hm, ?_, htends⟩)
          obtain ⟨c, -, hc, -⟩ := htends
          exact (List.getElem?_eq_some_iff.mp hc).1.ne
  | resume n =>
      obtain ⟨w, c, htask, hready, hstate, htasks⟩ := step_resume h
      have hn : n < p.tasks.length := (List.getElem?_eq_some_iff.mp htask).1
      have hself : p'.tasks[n]? = some (c.run p.state).1 := by rw [htasks, List.getElem?_set_self hn]
      have hothers : ∀ m, m ≠ n → p'.tasks[m]? = p.tasks[m]? := fun m hm => by
        rw [htasks, List.getElem?_set_ne hm.symm]
      have hlength : ls.length = p'.tasks.length := by
        rw [htasks, List.length_set]
        exact hp.length
      have hbehind : L.marks U.tally p behind (.resume n) = c.follow (U.tally.mark n) p.state behind := by
        simp only [marks, running, htask]
      -- the debt with which the coroutine waited, the one it is known to owe where that is known
      obtain ⟨due, ⟨d, k, hd, hk, htends⟩, howed⟩ : ∃ due, TaskTends U ls p due n ∧
          (U.tally.Right p.state ∨ due = true ∧ n ∈ behind ∨
            ∃ m ∈ behind, m ≠ n ∧ TaskTends U ls p true m) := by
        rcases hp.owed with hright | ⟨m, hm, htends⟩
        · obtain ⟨due, htends⟩ := hp.tends n hn
          exact ⟨due, htends, Or.inl hright⟩
        · by_cases hmn : m = n
          · subst hmn
            exact ⟨true, htends, Or.inr (Or.inl ⟨rfl, hm⟩)⟩
          · obtain ⟨due, htends'⟩ := hp.tends n hn
            exact ⟨due, htends', Or.inr (Or.inr ⟨m, hm, hmn, htends⟩)⟩
      obtain rfl := Option.some.inj (htask.symm.trans hd)
      have hresumes := hresume n w c k rfl htask hk hready
      obtain ⟨due', hdue, hmends⟩ := htends.2 (n ∈ behind) p.state hrefl hresumes
      rw [hbehind]
      refine hp.of_segment hlater hstate hlength hself hothers hk (fun _ _ => rfl) hmends ?_
      rcases howed with hright | ⟨rfl, hn⟩ | hrest
      · exact Or.inl hright
      · exact Or.inr (Or.inl ⟨hdue hn, hn⟩)
      · exact Or.inr (Or.inr hrest)
  | outside x =>
      obtain ⟨s, hs, hstate, htasks⟩ := step_outside h
      have hkept : ∀ {due : Bool} {n : ℕ}, TaskTends U ls p due n → TaskTends U ls p' due n := by
        rintro due n ⟨c, k, hc, hk, htends⟩
        exact ⟨c, k, by rw [htasks]; exact hc, hk, htends.later hlater⟩
      refine ⟨by rw [htasks]; exact hp.length, fun n hn => ?_, ?_⟩
      · rw [htasks] at hn
        obtain ⟨due, htends⟩ := hp.tends n hn
        exact ⟨due, hkept htends⟩
      · rcases hp.owed with hright | ⟨n, hn, htends⟩
        · rw [hstate]
          exact Or.inl (houtside x s rfl hs hright)
        · exact Or.inr ⟨n, hn, hkept htends⟩

end EventLoop

end Runtime
