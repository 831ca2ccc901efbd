import VirtualPhone.Runtime.Contract
import VirtualPhone.Runtime.Trace

/-! # Services whose commands are numbered

A service is an event loop that starts a coroutine for every command, under the next number.  What a
command does, and what the others may do meanwhile, is a contract that depends on its number, so that
each command can have a part of the state for its own.

`Lawful` says what has to be shown of one command and of one change from outside.  From it,
`Serving.step` is about one event, and `Serving.run` about a whole run: whatever the order of the
events, each command keeps its contract, what holds of a command goes on to hold, and a command that
has ended has ended as it should.  The facts about the state depend on the commands that were begun and
on what has happened outside. -/

namespace Runtime

/-- An event loop for commands, and what is said of them: `holds` at any time, and `post` from their
end on. -/
structure Service (σ ω β ι ε κ : Type) where
  loop : EventLoop σ ω β ι ε
  command : ι → κ
  count : σ → ℕ
  contract : ℕ → κ → Contract σ ω
  holds : ℕ → κ → σ → Prop
  post : ℕ → κ → Except PyError β → σ → Prop
  fact : List κ → List ε → σ → Prop

namespace Service

variable {σ ω β ι ε κ : Type} (S : Service σ ω β ι ε κ)

/-- The commands that were begun. -/
def begun (events : List (PoolEvent ι ε)) : List κ :=
  events.filterMap fun
    | .spawn i => some (S.command i)
    | _ => none

/-- What has happened outside. -/
def happened (events : List (PoolEvent ι ε)) : List ε :=
  events.filterMap fun
    | .outside e => some e
    | _ => none

theorem happened_cons (e : PoolEvent ι ε) (events : List (PoolEvent ι ε)) :
    happened (e :: events) = happened [e] ++ happened events := by
  rw [happened, happened, happened, ← List.filterMap_append]
  rfl

/-- What has to be shown. -/
structure Lawful : Prop where
  refl : ∀ k c s, (S.contract k c).rely s s
  others : ∀ {j k c d s s'}, j ≠ k → (S.contract k c).guar s s' → (S.contract j d).rely s s'
  holds : ∀ {k c s s'}, (S.contract k c).guar s s' → S.holds k c s'
  holds_later : ∀ {k c s s'}, S.holds k c s → (S.contract k c).rely s s' → S.holds k c s'
  post_later : ∀ {k c r s s'}, S.post k c r s → (S.contract k c).rely s s' → S.post k c r s'
  count : ∀ {k c s s'}, (S.contract k c).guar s s' →
    S.count s ≤ S.count s' ∧ S.count s' ≤ max (S.count s) (k + 1)
  fact : ∀ {cs es k c s s'}, S.fact cs es s → cs[k]? = some c → (S.contract k c).guar s s' →
    S.fact cs es s'
  begins : ∀ {cs es s} (c : κ), S.fact cs es s → S.fact (cs ++ [c]) es s
  spawn : ∀ {cs es s} (i : ι), S.fact cs es s → S.count s = cs.length →
    (S.loop.main i).Meets (S.contract cs.length (S.command i)) (fun s₀ r s =>
      (S.contract cs.length (S.command i)).guar s₀ s ∧ S.post cs.length (S.command i) r s) s s ∧
    S.count s < S.count ((S.loop.main i).run s).2
  resume : ∀ {cs es k c w s}, S.fact cs es s → S.loop.ready w s = true → (S.contract k c).resumes w s
  outside : ∀ {cs es e s s'}, S.fact cs es s → S.loop.outside s e = some s' →
    (∀ k c, (S.contract k c).rely s s') ∧ S.count s' = S.count s ∧ S.fact cs (es ++ [e]) s'

/-- Commands with their numbers. -/
def numbered (cs : List κ) : List (ℕ × κ) := cs.mapIdx Prod.mk

variable {S}

theorem numbered_getElem?_eq_some {cs : List κ} {n : ℕ} {x : ℕ × κ} :
    (numbered cs)[n]? = some x ↔ x.1 = n ∧ cs[n]? = some x.2 := by
  rw [numbered, List.getElem?_mapIdx, Option.map_eq_some_iff]
  constructor
  · rintro ⟨c, hc, rfl⟩
    exact ⟨rfl, hc⟩
  · rintro ⟨rfl, hc⟩
    exact ⟨x.2, hc, rfl⟩

theorem numbered_append (cs : List κ) (c : κ) :
    numbered (cs ++ [c]) = numbered cs ++ [(cs.length, c)] := List.mapIdx_concat

/-- **The invariant**, where the commands of `cs` were begun and `es` has happened outside. -/
structure Serving (S : Service σ ω β ι ε κ) (cs : List κ) (es : List ε) (p : Pool σ ω β) : Prop where
  kept : EventLoop.Kept (fun x : ℕ × κ => S.contract x.1 x.2) (fun x => S.post x.1 x.2) (numbered cs) p
  count : S.count p.state = cs.length
  holds : ∀ (k : ℕ) (c : κ), cs[k]? = some c → S.holds k c p.state
  fact : S.fact cs es p.state

namespace Serving

variable {cs : List κ} {es : List ε} {p p' : Pool σ ω β}

/-- Before the first command. -/
theorem start {s : σ} (hcount : S.count s = 0) (hfact : S.fact [] [] s) : S.Serving [] [] ⟨s, []⟩ :=
  ⟨.nil, hcount, fun _ _ h => by simp at h, hfact⟩

/-- What is known of a command. -/
theorem command (hp : S.Serving cs es p) {k : ℕ} {c : κ} (hk : cs[k]? = some c) :
    S.holds k c p.state ∧ ∀ r, p.tasks[k]? = some (.done r) → S.post k c r p.state := by
  refine ⟨hp.holds k c hk, fun r hr => ?_⟩
  obtain ⟨⟨n, d⟩, hlabel, hpromise⟩ := hp.kept.get hr
  obtain ⟨rfl, hd⟩ := numbered_getElem?_eq_some.mp hlabel
  obtain rfl := Option.some.inj (hk.symm.trans hd)
  exact hpromise.ended

theorem moves (hS : S.Lawful) (hp : S.Serving cs es p) {e : PoolEvent ι ε} (x : ℕ × κ)
    (hx : ∀ i, e = .spawn i → x = (cs.length, S.command i)) (h : S.loop.step p e = some p') :
    EventLoop.Kept (fun x : ℕ × κ => S.contract x.1 x.2) (fun x => S.post x.1 x.2)
        (EventLoop.labels (numbered cs) x e) p' ∧
      EventLoop.Moves (fun x : ℕ × κ => S.contract x.1 x.2) S.loop (numbered cs) x p.state p'.state
        e := by
  refine EventLoop.Kept.step (fun i hi => ?_) (fun n w c y _ _ _ hready => ?_)
    (fun n y c hne hy _ hmoves => ?_) hp.kept h
  · obtain rfl := hx i hi
    exact (hS.spawn i hp.fact hp.count).1
  · exact ⟨hS.refl _ _ _, hS.resume hp.fact hready⟩
  · have hrely : (S.contract y.1 y.2).rely p.state p'.state := by
      obtain ⟨rfl, hn⟩ := numbered_getElem?_eq_some.mp hy
      cases e with
      | outside x => exact (hS.outside hp.fact hmoves).1 _ _
      | spawn i =>
          obtain rfl := hx i rfl
          refine hS.others ?_ hmoves
          exact (List.getElem?_eq_some_iff.mp hn).1.ne
      | resume m =>
          obtain ⟨z, hz, hguar⟩ := hmoves
          obtain ⟨rfl, -⟩ := numbered_getElem?_eq_some.mp hz
          exact hS.others (fun heq => hne (by rw [heq])) hguar
    exact ⟨fun _ r hr => hS.post_later hr hrely, fun _ => hrely⟩

/-- Something happens outside. -/
theorem outside (hS : S.Lawful) (hp : S.Serving cs es p) {x : ε}
    (h : S.loop.step p (.outside x) = some p') : S.Serving cs (es ++ [x]) p' := by
  obtain ⟨s, hs, hstate, htasks⟩ := EventLoop.step_outside h
  rw [← hstate] at hs
  obtain ⟨hrely, hcount, hfact⟩ := hS.outside hp.fact hs
  refine ⟨?_, hcount.trans hp.count, fun k c hk => hS.holds_later (hp.holds k c hk) (hrely k c), hfact⟩
  unfold EventLoop.Kept
  rw [htasks]
  exact hp.kept.imp fun y c hpromise => hpromise.tolerate
    ⟨fun _ r hr => hS.post_later hr (hrely _ _), fun _ => hrely _ _⟩

theorem holds_others (hS : S.Lawful) (hp : S.Serving cs es p) {k n : ℕ} {c d : κ} {s : σ}
    (hguar : (S.contract k c).guar p.state s) (hn : cs[n]? = some d) (hne : n ≠ k) : S.holds n d s :=
  hS.holds_later (hp.holds n d hn) (hS.others hne hguar)

/-- A command goes on. -/
theorem resume (hS : S.Lawful) (hp : S.Serving cs es p) {m : ℕ}
    (h : S.loop.step p (.resume m) = some p') : S.Serving cs es p' := by
  obtain ⟨w, c, htask, -⟩ := EventLoop.step_resume h
  obtain ⟨x, hx, -⟩ := hp.kept.get htask
  obtain ⟨hkept, y, hy, hguar⟩ := hp.moves hS x (fun i hi => by cases hi) h
  obtain ⟨rfl, hm⟩ := numbered_getElem?_eq_some.mp hy
  have hlt := (List.getElem?_eq_some_iff.mp hm).1
  obtain ⟨hle, hmax⟩ := hS.count hguar
  refine ⟨hkept, ?_, fun n d hn => ?_, hS.fact hp.fact hm hguar⟩
  · rw [hp.count] at hle hmax
    omega
  · by_cases hne : n = y.1
    · obtain rfl := hne
      obtain rfl := Option.some.inj (hm.symm.trans hn)
      exact hS.holds hguar
    · exact hp.holds_others hS hguar hn hne

/-- A command begins. -/
theorem spawn (hS : S.Lawful) (hp : S.Serving cs es p) {i : ι} (h : S.loop.step p (.spawn i) = some p') :
    S.Serving (cs ++ [S.command i]) es p' := by
  obtain ⟨hkept, hguar⟩ := hp.moves hS (cs.length, S.command i) (fun j hj => by cases hj; rfl) h
  have hstate := (EventLoop.step_spawn h).1
  have hmore := (hS.spawn i hp.fact hp.count).2
  obtain ⟨-, hmax⟩ := hS.count hguar
  refine ⟨?_, ?_, fun n d hn => ?_, ?_⟩
  · rw [numbered_append]
    exact hkept
  · rw [← hstate] at hmore
    rw [hp.count] at hmore hmax
    rw [List.length_append, List.length_singleton]
    omega
  · rw [List.getElem?_append] at hn
    split_ifs at hn with hlt
    · exact hp.holds_others hS hguar hn hlt.ne
    · obtain ⟨hzero, rfl⟩ := List.getElem?_eq_some_iff.mp hn
      rw [List.length_singleton] at hzero
      obtain rfl : n = cs.length := by omega
      rw [List.getElem_singleton]
      exact hS.holds hguar
  · refine hS.fact (hS.begins (S.command i) hp.fact) ?_ hguar
    exact List.getElem?_concat_length

/-- **Step lemma.** -/
theorem step (hS : S.Lawful) (hp : S.Serving cs es p) {e : PoolEvent ι ε}
    (h : S.loop.step p e = some p') : S.Serving (cs ++ S.begun [e]) (es ++ happened [e]) p' := by
  cases e with
  | outside x =>
      have hserving := hp.outside hS h
      rw [← List.append_nil cs] at hserving
      exact hserving
  | resume m =>
      have hserving := hp.resume hS h
      rw [← List.append_nil cs, ← List.append_nil es] at hserving
      exact hserving
  | spawn i =>
      have hserving := hp.spawn hS h
      rw [← List.append_nil es] at hserving
      exact hserving

/-- **Run lemma.** -/
theorem run (hS : S.Lawful) {events : List (PoolEvent ι ε)} (hp : S.Serving cs es p)
    (h : runFrom S.loop.step p events = some p') :
    S.Serving (cs ++ S.begun events) (es ++ happened events) p' := by
  induction events generalizing cs es p with
  | nil =>
      obtain rfl := Option.some.inj h
      rw [begun, happened, List.filterMap_nil, List.filterMap_nil, List.append_nil, List.append_nil]
      exact hp
  | cons e events ih =>
      obtain ⟨p₁, hstep, hrun⟩ := runFrom_cons_some _ h
      have hp' := ih (hp.step hS hstep) hrun
      have hbegun : S.begun (e :: events) = S.begun [e] ++ S.begun events := by
        rw [begun, begun, begun, ← List.filterMap_append]
        rfl
      rw [hbegun, happened_cons, ← List.append_assoc, ← List.append_assoc]
      exact hp'

/-- What is preserved by every command, and by what happens outside in the run, holds all along. -/
theorem invariant (hS : S.Lawful) {I : σ → Prop} {N : ε → Prop}
    (hguar : ∀ k c s s', I s → (S.contract k c).guar s s' → I s')
    (houtside : ∀ s s' x, N x → I s → S.loop.outside s x = some s' →
      (∀ k c, (S.contract k c).rely s s') → I s')
    {events : List (PoolEvent ι ε)} (hN : ∀ x ∈ happened events, N x) (hp : S.Serving cs es p)
    (hI : I p.state) (h : runFrom S.loop.step p events = some p') : I p'.state := by
  induction events generalizing cs es p with
  | nil =>
      obtain rfl := Option.some.inj h
      exact hI
  | cons e events ih =>
      obtain ⟨p₁, hstep, hrun⟩ := runFrom_cons_some _ h
      have hrest : ∀ x ∈ happened events, N x := fun x hx => by
        refine hN x ?_
        rw [happened_cons]
        exact List.mem_append_right _ hx
      refine ih hrest (hp.step hS hstep) ?_ hrun
      cases e with
      | outside x =>
          obtain ⟨s, hs, hstate, -⟩ := EventLoop.step_outside hstep
          rw [← hstate] at hs
          exact houtside _ _ x (hN x (List.mem_cons_self)) hI hs (hS.outside hp.fact hs).1
      | spawn i =>
          have hmoves := hp.moves hS (cs.length, S.command i) (fun j hj => by cases hj; rfl) hstep
          exact hguar _ _ _ _ hI hmoves.2
      | resume m =>
          obtain ⟨w, c, htask, -⟩ := EventLoop.step_resume hstep
          obtain ⟨x, hx, -⟩ := hp.kept.get htask
          obtain ⟨-, y, -, hy⟩ := hp.moves hS x (fun i hi => by cases hi) hstep
          exact hguar _ _ _ _ hI hy

end Serving

end Service

end Runtime
