import VirtualPhone.Runtime.Bytes
import VirtualPhone.Runtime.Trace

/-! # Coroutines on one event loop

`Coro σ ω α` is a coroutine over a shared state `σ`: it reads and changes the state, suspends at
points of `ω`, and returns an `α` or raises.  It is the reading of an `async` method: what stands
between two suspensions runs without interruption.

An event loop runs any number of coroutines.  Its events start a coroutine, resume a suspended one
whose point is ready, or change the state from outside, in any order.

Rely-guarantee reasoning is a `Discipline`: what one change of the state may be (`micro`), what a
suspended coroutine can rely on meanwhile (`later`), and what is known when it is resumed
(`resumes`).  A coroutine that `Guarantees` its discipline is verified by itself with the rules
below; `EventLoop.step_spec` then says what every event of a loop of such coroutines does. -/

namespace Runtime

/-- A coroutine: it has ended, reads the state, changes it, or suspends. -/
inductive Coro (σ ω α : Type)
  | done (r : Except PyError α)
  | read (k : σ → Coro σ ω α)
  | write (f : σ → σ) (k : Coro σ ω α)
  | wait (w : ω) (k : Coro σ ω α)

namespace Coro

variable {σ ω α β : Type}

/-- Sequencing; an exception ends the whole. -/
def bind : Coro σ ω α → (α → Coro σ ω β) → Coro σ ω β
  | done (.ok a), f => f a
  | done (.error e), _ => done (.error e)
  | read k, f => read fun s => (k s).bind f
  | write g k, f => write g (k.bind f)
  | wait w k, f => wait w (k.bind f)

instance : Monad (Coro σ ω) where
  pure a := done (.ok a)
  bind := bind

/-- Raise an exception. -/
def raise (e : PyError) : Coro σ ω α := done (.error e)

/-- The current state. -/
def get : Coro σ ω σ := read fun s => done (.ok s)

/-- Change the state. -/
def modify (f : σ → σ) : Coro σ ω Unit := write f (done (.ok ()))

/-- Suspend. -/
def await (w : ω) : Coro σ ω Unit := wait w (done (.ok ()))

/-- The outcome as a value: the body of a `try` block. -/
def attempt : Coro σ ω α → Coro σ ω (Except PyError α)
  | done r => done (.ok r)
  | read k => read fun s => (k s).attempt
  | write g k => write g k.attempt
  | wait w k => wait w k.attempt

/-- Run to the next suspension, or to the end. -/
def run : Coro σ ω α → σ → Coro σ ω α × σ
  | done r, s => (done r, s)
  | read k, s => (k s).run s
  | write f k, s => k.run (f s)
  | wait w k, s => (wait w k, s)

/-- Run to the end, with nothing in between: every suspension is over at once. -/
def alone : Coro σ ω α → σ → Except PyError α × σ
  | done r, s => (r, s)
  | read k, s => (k s).alone s
  | write f k, s => k.alone (f s)
  | wait _ k, s => k.alone s

/-- Run to the end against an environment, which changes the state at each suspension. -/
def against (env : ω → σ → σ) : Coro σ ω α → σ → Except PyError α × σ
  | done r, s => (r, s)
  | read k, s => (k s).against env s
  | write f k, s => k.against env (f s)
  | wait w k, s => k.against env (env w s)

@[simp] theorem pure_bind (a : α) (f : α → Coro σ ω β) : (pure a >>= f : Coro σ ω β) = f a := rfl

@[simp] theorem raise_bind (e : PyError) (f : α → Coro σ ω β) :
    (raise e >>= f : Coro σ ω β) = raise e := rfl

@[simp] theorem run_get_bind (f : σ → Coro σ ω β) (s : σ) :
    (get >>= f : Coro σ ω β).run s = (f s).run s := rfl

@[simp] theorem run_modify_bind (g : σ → σ) (f : Unit → Coro σ ω β) (s : σ) :
    (modify g >>= f : Coro σ ω β).run s = (f ()).run (g s) := rfl

theorem get_bind_bind (g : σ → Coro σ ω α) (f : α → Coro σ ω β) :
    (get >>= g >>= f : Coro σ ω β) = get >>= fun s => g s >>= f := rfl

theorem bind_assoc {γ : Type} (c : Coro σ ω α) (f : α → Coro σ ω β) (g : β → Coro σ ω γ) :
    (c >>= f >>= g : Coro σ ω γ) = c >>= fun a => f a >>= g := by
  induction c with
  | done r =>
      cases r with
      | ok a => rfl
      | error e => rfl
  | read k ih => exact congrArg read (funext ih)
  | write h k ih => exact congrArg (write h) ih
  | wait w k ih => exact congrArg (wait w) ih

/-- A coroutine between two runs: ended or suspended. -/
def Halted : Coro σ ω α → Prop
  | done _ => True
  | wait _ _ => True
  | read _ => False
  | write _ _ => False

theorem run_halted (c : Coro σ ω α) (s : σ) : (c.run s).1.Halted := by
  induction c generalizing s with
  | done r => trivial
  | read k ih => exact ih s s
  | write f k ih => exact ih (f s)
  | wait w k ih => trivial

end Coro

/-! ### Disciplines -/

/-- What the changes of a state are, and what a suspended coroutine relies on. -/
structure Discipline (σ ω : Type) where
  micro : σ → σ → Prop
  later : σ → σ → Prop
  resumes : ω → σ → Prop
  refl : ∀ s, later s s
  trans : ∀ {a b c}, later a b → later b c → later a c
  micro_later : ∀ {a b}, micro a b → later a b

namespace Discipline

variable {σ ω : Type} (D : Discipline σ ω)

/-- What a coroutine does between two suspensions. -/
def segment : σ → σ → Prop := Relation.ReflTransGen D.micro

theorem segment_later {a b : σ} (h : D.segment a b) : D.later a b := by
  induction h with
  | refl => exact D.refl a
  | tail _ hm ih => exact D.trans ih (D.micro_later hm)

/-- An invariant of every change is one of every segment. -/
theorem segment_invariant {I : σ → Prop} (hI : ∀ {a b}, D.micro a b → I a → I b) {a b : σ}
    (h : D.segment a b) (ha : I a) : I b := by
  induction h with
  | refl => exact ha
  | tail _ hm ih => exact hI hm ih

end Discipline

namespace Coro

variable {σ ω α β : Type} {D : Discipline σ ω}

/-- From `s` on, every change is a `micro` one, and the outcome satisfies `post`, whatever happens
at the suspensions. -/
def Guarantees (D : Discipline σ ω) (post : Except PyError α → σ → Prop) : Coro σ ω α → σ → Prop
  | done r, s => post r s
  | read k, s => (k s).Guarantees D post s
  | write f k, s => D.micro s (f s) ∧ k.Guarantees D post (f s)
  | wait w k, s => ∀ s', D.later s s' → D.resumes w s' → k.Guarantees D post s'

/-- The coroutine keeps the discipline from every state on. -/
def Safe (D : Discipline σ ω) (c : Coro σ ω α) : Prop := ∀ s, c.Guarantees D (fun _ _ => True) s

section

variable {post : Except PyError β → σ → Prop} {s : σ}

theorem guarantees_get_bind {k : σ → Coro σ ω β} :
    (get >>= k : Coro σ ω β).Guarantees D post s ↔ (k s).Guarantees D post s := Iff.rfl

theorem guarantees_modify_bind {f : σ → σ} {k : Unit → Coro σ ω β} :
    (modify f >>= k : Coro σ ω β).Guarantees D post s ↔
      D.micro s (f s) ∧ (k ()).Guarantees D post (f s) := Iff.rfl

theorem guarantees_await_bind {w : ω} {k : Unit → Coro σ ω β} :
    (await w >>= k : Coro σ ω β).Guarantees D post s ↔
      ∀ s', D.later s s' → D.resumes w s' → (k ()).Guarantees D post s' := Iff.rfl

theorem guarantees_modify {post : Except PyError Unit → σ → Prop} {f : σ → σ} :
    (modify f : Coro σ ω Unit).Guarantees D post s ↔ D.micro s (f s) ∧ post (.ok ()) (f s) := Iff.rfl

end

namespace Guarantees

/-- Where the coroutine ends, the state is a later one. -/
theorem mono {post post' : Except PyError α → σ → Prop} {c : Coro σ ω α} {s : σ}
    (h : c.Guarantees D post s) (hpost : ∀ r s', D.later s s' → post r s' → post' r s') :
    c.Guarantees D post' s := by
  induction c generalizing s with
  | done r => exact hpost r s (D.refl s) h
  | read k ih => exact ih s h hpost
  | write f k ih =>
      exact ⟨h.1, ih h.2 fun r s' hs' => hpost r s' (D.trans (D.micro_later h.1) hs')⟩
  | wait w k ih =>
      intro s₁ h₁ hw
      exact ih (h s₁ h₁ hw) fun r s' hs' => hpost r s' (D.trans h₁ hs')

theorem bind {post : Except PyError β → σ → Prop} {K : Except PyError α → σ → Prop}
    {c : Coro σ ω α} {f : α → Coro σ ω β} {s : σ} (hc : c.Guarantees D K s)
    (hf : ∀ a s', D.later s s' → K (.ok a) s' → (f a).Guarantees D post s')
    (herror : ∀ e s', D.later s s' → K (.error e) s' → post (.error e) s') :
    (c >>= f).Guarantees D post s := by
  induction c generalizing s with
  | done r =>
      cases r with
      | ok a => exact hf a s (D.refl s) hc
      | error e => exact herror e s (D.refl s) hc
  | read k ih => exact ih s hc hf herror
  | write g k ih =>
      refine ⟨hc.1, ih hc.2 ?_ ?_⟩
      · exact fun a s' hs' => hf a s' (D.trans (D.micro_later hc.1) hs')
      · exact fun e s' hs' => herror e s' (D.trans (D.micro_later hc.1) hs')
  | wait w k ih =>
      intro s₁ h₁ hw
      refine ih (hc s₁ h₁ hw) ?_ ?_
      · exact fun a s' hs' => hf a s' (D.trans h₁ hs')
      · exact fun e s' hs' => herror e s' (D.trans h₁ hs')

theorem attempt {post : Except PyError (Except PyError α) → σ → Prop} {c : Coro σ ω α} {s : σ}
    (hc : c.Guarantees D (fun r s' => post (.ok r) s') s) : c.attempt.Guarantees D post s := by
  induction c generalizing s with
  | done r => exact hc
  | read k ih => exact ih s hc
  | write g k ih => exact ⟨hc.1, ih hc.2⟩
  | wait w k ih => exact fun s₁ h₁ hw => ih (hc s₁ h₁ hw)

/-- A halted coroutine does not mind the time that passes. -/
theorem later {c : Coro σ ω α} {s s' : σ} (hc : c.Guarantees D (fun _ _ => True) s)
    (hhalted : c.Halted) (h : D.later s s') : c.Guarantees D (fun _ _ => True) s' := by
  cases c with
  | done r => trivial
  | read k => exact hhalted.elim
  | write f k => exact hhalted.elim
  | wait w k => exact fun s₁ h₁ hw => hc s₁ (D.trans h h₁) hw

/-- A run does a segment, and the rest of the coroutine guarantees the rest. -/
theorem run {post : Except PyError α → σ → Prop} {c : Coro σ ω α} {s : σ}
    (hc : c.Guarantees D post s) :
    D.segment s (c.run s).2 ∧ (c.run s).1.Guarantees D post (c.run s).2 := by
  induction c generalizing s with
  | done r => exact ⟨Relation.ReflTransGen.refl, hc⟩
  | read k ih => exact ih s hc
  | write f k ih => exact ⟨Relation.ReflTransGen.head hc.1 (ih hc.2).1, (ih hc.2).2⟩
  | wait w k ih => exact ⟨Relation.ReflTransGen.refl, hc⟩

end Guarantees

namespace Safe

theorem pure (a : α) : (Pure.pure a : Coro σ ω α).Safe D := fun _ => trivial

theorem raise (e : PyError) : (Coro.raise e : Coro σ ω α).Safe D := fun _ => trivial

theorem await (w : ω) : (Coro.await w : Coro σ ω Unit).Safe D := fun _ _ _ _ => trivial

theorem modify {f : σ → σ} (h : ∀ s, D.micro s (f s)) : (Coro.modify f : Coro σ ω Unit).Safe D :=
  fun s => ⟨h s, trivial⟩

theorem get_bind {f : σ → Coro σ ω β} (h : ∀ s, (f s).Guarantees D (fun _ _ => True) s) :
    (Coro.get >>= f).Safe D := fun s => h s

theorem bind {c : Coro σ ω α} {f : α → Coro σ ω β} (hc : c.Safe D) (hf : ∀ a, (f a).Safe D) :
    (c >>= f).Safe D :=
  fun s => (hc s).bind (fun a s' _ _ => hf a s') fun _ _ _ _ => trivial

theorem attempt {c : Coro σ ω α} (hc : c.Safe D) : c.attempt.Safe D := fun s => (hc s).attempt

end Safe

/-- A safe coroutine, and then what is known of the later states. -/
theorem Guarantees.safe_bind {post : Except PyError β → σ → Prop} {c : Coro σ ω α}
    {f : α → Coro σ ω β} {s : σ} (hc : c.Safe D)
    (hf : ∀ a s', D.later s s' → (f a).Guarantees D post s')
    (herror : ∀ e s', D.later s s' → post (.error e) s') : (c >>= f).Guarantees D post s :=
  (hc s).bind (fun a s' h _ => hf a s' h) fun e s' h _ => herror e s' h

end Coro

/-! ### The event loop -/

/-- A state and the coroutines started so far, the oldest first. -/
structure Pool (σ ω β : Type) where
  state : σ
  tasks : List (Coro σ ω β)

/-- An event of the loop. -/
inductive PoolEvent (ι ε : Type)
  | spawn (i : ι)
  | resume (n : ℕ)
  | outside (e : ε)
deriving DecidableEq

/-- The coroutines that can be started, when a suspension point is ready, and what can happen from
outside. -/
structure EventLoop (σ ω β ι ε : Type) where
  main : ι → Coro σ ω β
  ready : ω → σ → Bool
  outside : σ → ε → Option σ

namespace EventLoop

variable {σ ω β ι ε : Type} (L : EventLoop σ ω β ι ε)

/-- One event. -/
def step (p : Pool σ ω β) : PoolEvent ι ε → Option (Pool σ ω β)
  | .spawn i =>
      let r := (L.main i).run p.state
      some { state := r.2, tasks := p.tasks ++ [r.1] }
  | .resume n =>
      match p.tasks[n]? with
      | some (.wait w k) =>
          if L.ready w p.state then
            let r := k.run p.state
            some { state := r.2, tasks := p.tasks.set n r.1 }
          else none
      | _ => none
  | .outside e => (L.outside p.state e).map fun s => { p with state := s }

/-- Coroutine `n` is suspended at `w`. -/
def WaitsAt (p : Pool σ ω β) (n : ℕ) (w : ω) : Prop :=
  match p.tasks[n]? with
  | some (.wait w' _) => w' = w
  | _ => False

variable (D : Discipline σ ω)

/-- Every coroutine of the pool keeps the discipline from here on. -/
def Disciplined (p : Pool σ ω β) : Prop :=
  ∀ c ∈ p.tasks, c.Halted ∧ c.Guarantees D (fun _ _ => True) p.state

/-- What an event is allowed to be: a resumption finds what the discipline says. -/
def Admits (p : Pool σ ω β) : PoolEvent ι ε → Prop
  | .resume n => ∀ w, WaitsAt p n w → L.ready w p.state = true → D.resumes w p.state
  | _ => True

theorem Disciplined.later {D} {p : Pool σ ω β} (hp : Disciplined D p) {s : σ}
    (h : D.later p.state s) {c : Coro σ ω β} (hc : c ∈ p.tasks) :
    c.Halted ∧ c.Guarantees D (fun _ _ => True) s :=
  ⟨(hp c hc).1, (hp c hc).2.later (hp c hc).1 h⟩

/-- The coroutines from number `n` on keep the discipline. -/
def DisciplinedFrom (n : ℕ) (p : Pool σ ω β) : Prop :=
  n ≤ p.tasks.length ∧ ∀ c ∈ p.tasks.drop n, c.Halted ∧ c.Guarantees D (fun _ _ => True) p.state

/-- **One event of some coroutines.**  Where only coroutines that keep the discipline are started
and resumed, an event is a segment. -/
theorem step_from {D : Discipline σ ω} {n : ℕ} {p p' : Pool σ ω β} {e : PoolEvent ι ε}
    (hspawn : ∀ i, e = .spawn i → (L.main i).Guarantees D (fun _ _ => True) p.state)
    (hresume : ∀ m, e = .resume m → n ≤ m) (hresumes : ∀ w, D.resumes w p.state)
    (houtside : ∀ x s', e = .outside x → L.outside p.state x = some s' → D.micro p.state s')
    (hp : DisciplinedFrom D n p) (h : L.step p e = some p') :
    DisciplinedFrom D n p' ∧ D.segment p.state p'.state := by
  obtain ⟨hn, hp⟩ := hp
  cases e with
  | spawn i =>
      obtain rfl := Option.some.inj h
      have hseg := (hspawn i rfl).run
      have hlater := D.segment_later hseg.1
      refine ⟨⟨hn.trans (by simp), fun c hc => ?_⟩, hseg.1⟩
      rw [List.drop_append_of_le_length hn] at hc
      rcases List.mem_append.mp hc with hc | hc
      · exact ⟨(hp c hc).1, (hp c hc).2.later (hp c hc).1 hlater⟩
      · obtain rfl := List.mem_singleton.mp hc
        exact ⟨Coro.run_halted _ _, hseg.2⟩
  | resume m =>
      unfold step at h
      simp only at h
      split at h
      case h_1 w k htask =>
          split_ifs at h with hready
          obtain rfl := Option.some.inj h
          have hmem : Coro.wait w k ∈ p.tasks.drop n := by
            refine List.mem_of_getElem? (i := m - n) ?_
            rw [List.getElem?_drop, Nat.add_sub_cancel' (hresume m rfl)]
            exact htask
          have hk := (hp _ hmem).2 p.state (D.refl _) (hresumes w)
          have hseg := hk.run
          have hlater := D.segment_later hseg.1
          refine ⟨⟨hn.trans (by simp), fun c hc => ?_⟩, hseg.1⟩
          rw [List.drop_set, if_neg (Nat.not_lt.mpr (hresume m rfl))] at hc
          rcases List.mem_or_eq_of_mem_set hc with hc | rfl
          · exact ⟨(hp c hc).1, (hp c hc).2.later (hp c hc).1 hlater⟩
          · exact ⟨Coro.run_halted _ _, hseg.2⟩
      case h_2 => cases h
  | outside x =>
      obtain ⟨s, hs, rfl⟩ := Option.map_eq_some_iff.mp h
      have hmicro := houtside x s rfl hs
      refine ⟨⟨hn, fun c hc => ⟨(hp c hc).1, ?_⟩⟩, Relation.ReflTransGen.single hmicro⟩
      exact (hp c hc).2.later (hp c hc).1 (D.micro_later hmicro)

/-- **One event.**  In a loop whose coroutines keep a discipline after a first change `first`, an
event is such a change and a segment, or a segment, or a change from outside. -/
theorem step_spec {D : Discipline σ ω} {first : ι → σ → σ → Prop}
    (hmain : ∀ i s, ∃ (c : Coro σ ω β) (s₁ : σ), first i s s₁ ∧ (L.main i).run s = c.run s₁ ∧ D.later s s₁ ∧
      c.Guarantees D (fun _ _ => True) s₁)
    (houtside : ∀ s e s', L.outside s e = some s' → D.later s s') {p p' : Pool σ ω β}
    {e : PoolEvent ι ε} (hp : Disciplined D p) (he : L.Admits D p e) (h : L.step p e = some p') :
    Disciplined D p' ∧ D.later p.state p'.state ∧
      match e with
      | .spawn i => ∃ s₁, first i p.state s₁ ∧ D.segment s₁ p'.state
      | .resume _ => D.segment p.state p'.state
      | .outside e => L.outside p.state e = some p'.state := by
  cases e with
  | spawn i =>
      obtain ⟨c, s₁, hfirst, hrun, hlater, hc⟩ := hmain i p.state
      obtain rfl := Option.some.inj h
      have hseg := hc.run
      rw [← hrun] at hseg
      have hlater' := D.trans hlater (D.segment_later hseg.1)
      refine ⟨?_, hlater', s₁, hfirst, hseg.1⟩
      intro d hd
      rcases List.mem_append.mp hd with hd | hd
      · exact hp.later hlater' hd
      · obtain rfl := List.mem_singleton.mp hd
        exact ⟨Coro.run_halted _ _, hseg.2⟩
  | resume n =>
      unfold step at h
      simp only at h
      split at h
      case h_1 w k htask =>
          split_ifs at h with hready
          obtain rfl := Option.some.inj h
          have hresumes : D.resumes w p.state := he w (by simp [WaitsAt, htask]) hready
          have hk := (hp _ (List.mem_of_getElem? htask)).2 p.state (D.refl _) hresumes
          have hseg := hk.run
          have hlater := D.segment_later hseg.1
          refine ⟨?_, hlater, hseg.1⟩
          intro d hd
          rcases List.mem_or_eq_of_mem_set hd with hd | rfl
          · exact hp.later hlater hd
          · exact ⟨Coro.run_halted _ _, hseg.2⟩
      case h_2 => cases h
  | outside e =>
      obtain ⟨s, hs, rfl⟩ := Option.map_eq_some_iff.mp h
      have hlater := houtside p.state e s hs
      exact ⟨fun d hd => hp.later hlater hd, hlater, hs⟩

end EventLoop

end Runtime
