import VirtualPhone.RilCorrelation

/-! # How often the bridge executes an Android request

A copy of a request counts when the bridge has read it or can still read it: it lies unread on a
connection that the bridge has not closed (`copies`).  Only `bridge_send` adds a copy, so a request
is executed at most once as long as it is sent again only when every earlier copy is lost for good
(`ResendsLost`); a send that breaks this rule can be followed by a second execution
(`resend_executes`). -/

namespace VirtualPhone

open Runtime

theorem sum_map_modify {α : Type} (l : List α) (f : α → α) (g : α → ℕ) {i : ℕ} {c : α}
    (h : l[i]? = some c) : ((l.modify i f).map g).sum + g c = (l.map g).sum + g (f c) := by
  induction l generalizing i with
  | nil => cases h
  | cons x l ih =>
      cases i with
      | zero =>
          obtain rfl := Option.some.inj h
          simp only [List.modify_zero_cons, List.map_cons, List.sum_cons]
          omega
      | succ i =>
          have := ih (i := i) h
          simp only [List.modify_succ_cons, List.map_cons, List.sum_cons]
          omega

namespace Conn

/-- The copies of request `n` that the bridge can still read from the connection. -/
def live (c : Conn) (n : ℕ) : ℕ :=
  if c.closed then 0 else (c.toBridge.map Frame.origin).count (some n)

/-- The bridge steps left until the bridge has read what lies on the connection, or more. -/
def work (c : Conn) : ℕ :=
  if c.closed then 0
  else 3 * c.toBridge.length + (if c.serving.isSome then 1 else 0) + if c.accepted then 0 else 1

end Conn

/-- The current request has not been sent. -/
def ShimPhase.Unsent : ShimPhase → Prop
  | idle => True
  | trying _ 0 => True
  | _ => False

namespace Ril

/-- The copies of request `n` that can still be read. -/
def live (s : Ril) (n : ℕ) : ℕ := (s.conns.map (·.live n)).sum

/-- The copies of request `n` that have been or can still be read. -/
def copies (s : Ril) (n : ℕ) : ℕ := s.live n + s.executed.count (some n)

/-- Every copy of request `n` is lost for good: none has been read, and none lies on a connection
that the bridge has not closed. -/
def Lost (s : Ril) (n : ℕ) : Prop :=
  some n ∉ s.executed ∧ ∀ c ∈ s.conns, c.closed = false → ∀ f ∈ c.toBridge, f.origin ≠ some n

instance (s : Ril) (n : ℕ) : Decidable (s.Lost n) := inferInstanceAs (Decidable (_ ∧ _))

/-- A request is sent again only when every earlier copy is lost, or to a connection that the bridge
has closed. -/
def ResendsLost (s : Ril) (e : RilEvent) : Prop :=
  match e, s.phase, s.currentConn with
  | .send, .trying _ (_ + 1), some (_, c) => c.closed = true ∨ s.Lost s.current
  | _, _, _ => True

instance (s : Ril) (e : RilEvent) : Decidable (s.ResendsLost e) := by
  unfold ResendsLost
  split <;> infer_instance

/-! ### Copies -/

theorem lost_iff (s : Ril) (n : ℕ) : s.Lost n ↔ s.copies n = 0 := by
  have hlive : s.live n = 0 ↔ ∀ c ∈ s.conns, c.closed = false → ∀ f ∈ c.toBridge, f.origin ≠ some n := by
    unfold live
    rw [List.sum_eq_zero_iff_forall_eq_nat]
    simp only [List.mem_map, forall_exists_index, and_imp, forall_apply_eq_imp_iff₂]
    refine forall₂_congr fun c _ => ?_
    unfold Conn.live
    cases c.closed with
    | true => simp
    | false => simp [List.count_eq_zero]
  rw [Lost, copies, Nat.add_eq_zero_iff, hlive, List.count_eq_zero, and_comm]

theorem live_updateConn {s : Ril} {i : ℕ} {c : Conn} (hc : s.conns[i]? = some c) (f : Conn → Conn)
    (n : ℕ) : (s.updateConn i f).live n + c.live n = s.live n + (f c).live n :=
  sum_map_modify s.conns f (fun c => c.live n) hc

theorem live_push (c : Conn) (f : Frame) (n : ℕ) :
    (c.push f).live n = c.live n + if c.closed = false ∧ f.origin = some n then 1 else 0 := by
  unfold Conn.live Conn.push
  cases hclosed : c.closed with
  | true => simp
  | false => by_cases ho : f.origin = some n <;> simp [List.count_append, ho]

/-- Reading moves a copy from the connection to the executed requests. -/
theorem live_take {c : Conn} {f : Frame} {rest : List Frame} (hbridge : c.toBridge = f :: rest)
    (hopen : c.closed = false) (n : ℕ) :
    c.live n = c.take.live n + [f.origin].count (some n) := by
  unfold Conn.live Conn.take
  simp [hopen, hbridge, List.count_cons]

theorem copies_take {s : Ril} {i : ℕ} {c : Conn} (hc : s.conns[i]? = some c) {f : Frame}
    {rest : List Frame} (hbridge : c.toBridge = f :: rest) (hopen : c.closed = false) (n : ℕ) :
    ((s.updateConn i Conn.take).execute f).copies n = s.copies n := by
  have hlive := live_updateConn hc Conn.take n
  rw [live_take hbridge hopen n] at hlive
  show (s.updateConn i Conn.take).live n + (s.executed ++ [f.origin]).count (some n) = _
  rw [List.count_append, copies]
  omega

theorem copies_updateConn {s : Ril} {i : ℕ} {c : Conn} (hc : s.conns[i]? = some c)
    {f : Conn → Conn} {n : ℕ} (hf : (f c).live n = c.live n) :
    (s.updateConn i f).copies n = s.copies n := by
  have := live_updateConn hc f n
  show (s.updateConn i f).live n + s.executed.count (some n) = _
  rw [copies]
  omega

/-! ### One step -/

theorem copies_connectionLost (s : Ril) (r : AndroidRequest) (retry n : ℕ) :
    (s.connectionLost r retry).copies n = s.copies n := by
  unfold connectionLost
  simp only
  split_ifs <;> rfl

theorem copies_send {s : Ril} {i : ℕ} {c : Conn} (hc : s.conns[i]? = some c) (r : AndroidRequest)
    (retry n : ℕ) :
    ((s.updateConn i (·.push (r.frame s.current))).toPhase (.receiving r retry)).copies n =
      s.copies n + if c.closed = false ∧ n = s.current then 1 else 0 := by
  have hlive := live_updateConn hc (·.push (r.frame s.current)) n
  have horigin : (r.frame s.current).origin = some n ↔ n = s.current := by
    simp [AndroidRequest.frame, eq_comm]
  simp only [live_push, horigin] at hlive
  show (s.updateConn i (·.push (r.frame s.current))).live n + s.executed.count (some n) = _
  rw [copies]
  omega

/-- **Only a send adds a copy**, and only on a connection the bridge has not closed. -/
theorem copies_step {s s' : Ril} {e : RilEvent} (hs : step s e = some s') (n : ℕ) :
    s'.copies n ≤ s.copies n ∨
      s'.copies n = s.copies n + 1 ∧ n = s.current ∧ e = .send ∧
        ∃ r retry i c, s.phase = .trying r retry ∧ s.currentConn = some (i, c) ∧ c.closed = false := by
  cases e with
  | request r =>
      simp only [step] at hs
      split_ifs at hs
      rw [← Option.some.inj hs]
      exact .inl le_rfl
  | send =>
      simp only [step] at hs
      split at hs
      · next r retry i c hphase hcur =>
          have hc := (currentConn_eq_some.mp hcur).2
          obtain rfl := Option.some.inj hs
          rw [copies_send hc]
          split_ifs with hnew
          · exact .inr ⟨rfl, hnew.2, rfl, r, retry, i, c, hphase, hcur, hnew.1⟩
          · exact .inl le_rfl
      · cases hs
  | sendFail =>
      simp only [step] at hs
      split at hs
      · rw [← Option.some.inj hs, copies_connectionLost]
        exact .inl le_rfl
      · cases hs
  | recv =>
      simp only [step] at hs
      split at hs
      · next r retry i c hphase hcur =>
          have hc := (currentConn_eq_some.mp hcur).2
          split at hs
          · obtain rfl := Option.some.inj hs
            have := copies_updateConn (n := n) hc (f := Conn.pop) rfl
            exact .inl (le_of_eq this)
          · cases hs
      · cases hs
  | recvFail =>
      simp only [step] at hs
      split at hs
      · rw [← Option.some.inj hs, copies_connectionLost]
        exact .inl le_rfl
      · cases hs
  | connect ok =>
      simp only [step] at hs
      split at hs
      · obtain rfl := Option.some.inj hs
        cases ok with
        | false => exact .inl le_rfl
        | true =>
            refine .inl (le_of_eq ?_)
            show ((s.conns ++ [({} : Conn)]).map fun c => c.live n).sum + s.executed.count (some n) = _
            simp [copies, live, Conn.live]
      · cases hs
  | accept i radioState =>
      simp only [step] at hs
      split at hs
      · next c hc =>
          split_ifs at hs
          rw [← Option.some.inj hs]
          exact .inl (le_of_eq (copies_updateConn hc rfl))
      · cases hs
  | take i =>
      simp only [step] at hs
      split at hs
      · next c hc =>
          split at hs
          · next f rest hbridge hserving =>
              split_ifs at hs with hopen
              rw [← Option.some.inj hs]
              exact .inl (le_of_eq (copies_take hc hbridge hopen.2 n))
          · cases hs
      · cases hs
  | reply i outcome =>
      simp only [step] at hs
      split at hs
      · next c hc =>
          split at hs
          · split_ifs at hs
            rw [← Option.some.inj hs]
            exact .inl (le_of_eq (copies_updateConn hc rfl))
          · cases hs
      · cases hs
  | indicate i indicationId data =>
      simp only [step] at hs
      split at hs
      · next c hc =>
          split_ifs at hs
          rw [← Option.some.inj hs]
          exact .inl (le_of_eq (copies_updateConn hc rfl))
      · cases hs
  | hangUp i =>
      simp only [step] at hs
      split at hs
      · next c hc =>
          split_ifs at hs with hopen
          rw [← Option.some.inj hs]
          have hlive := live_updateConn hc Conn.hangUp n
          have hzero : c.hangUp.live n = 0 := rfl
          left
          show (s.updateConn i Conn.hangUp).live n + s.executed.count (some n) ≤ _
          rw [copies]
          omega
      · cases hs

/-- A step starts the next request, or it is in the same one and does not unsend it. -/
theorem phase_step {s s' : Ril} {e : RilEvent} (hs : step s e = some s') :
    s'.current = s.current + 1 ∨
      s'.current = s.current ∧ (s'.phase.Unsent → s.phase.Unsent ∧ e ≠ .send) := by
  by_cases hsend : e = .send
  · subst hsend
    simp only [step] at hs
    split at hs
    · rw [← Option.some.inj hs]
      exact .inr ⟨rfl, fun h => h.elim⟩
    · cases hs
  have he := step_effect hs
  cases he with
  | bridge executed hne hc hmove => exact .inr ⟨rfl, fun h => ⟨h, hsend⟩⟩
  | request r hphase => exact .inr ⟨rfl, fun _ => ⟨by rw [hphase]; trivial, by simp⟩⟩
  | send hphase hfd hc => exact absurd rfl hsend
  | lost r retry hne =>
      unfold connectionLost
      simp only
      split_ifs
      · exact .inl (by simp [current, respond])
      · exact .inr ⟨rfl, fun h => h.elim⟩
  | recv hphase hfd hc hshim => exact .inl (by simp [current, respond, updateConn])
  | connect ok hphase =>
      refine .inr ⟨by cases ok <;> rfl, fun h => ?_⟩
      cases ok <;> exact h.elim

/-! ### Runs -/

/-- **The invariant**: no request has two copies, and a request that was not sent has none. -/
structure Once (s : Ril) : Prop where
  once : ∀ n, s.copies n ≤ 1
  later : ∀ n, s.current < n → s.copies n = 0
  unsent : s.phase.Unsent → s.copies s.current = 0

/-- **Step lemma.**  Sending again only what is lost keeps the invariant. -/
theorem Once.step {s s' : Ril} {e : RilEvent} (h : s.Once) (hlost : s.ResendsLost e)
    (hs : Ril.step s e = some s') : s'.Once := by
  have hcurrent : s.current ≤ s'.current := by
    rcases phase_step hs with hnext | ⟨hsame, -⟩ <;> omega
  refine ⟨?_, ?_, ?_⟩
  · intro n
    rcases copies_step hs n with hle | ⟨hadd, rfl, rfl, r, retry, i, c, hphase, hcur, hopen⟩
    · exact hle.trans (h.once n)
    · have hzero : s.copies s.current = 0 := by
        cases retry with
        | zero =>
            apply h.unsent
            rw [hphase]
            trivial
        | succ retry =>
            simp only [ResendsLost, hphase, hcur] at hlost
            rcases hlost with hclosed | hlost
            · rw [hopen] at hclosed
              cases hclosed
            · exact (lost_iff s s.current).mp hlost
      omega
  · intro n hn
    have hzero := h.later n (by omega)
    rcases copies_step hs n with hle | ⟨-, rfl, -⟩
    · omega
    · omega
  · intro hunsent
    rcases phase_step hs with hnext | ⟨hsame, hback⟩
    · have hzero := h.later s'.current (by omega)
      rcases copies_step hs s'.current with hle | ⟨-, heq, -⟩
      · omega
      · omega
    · obtain ⟨hunsent', hnosend⟩ := hback hunsent
      have hzero := h.unsent hunsent'
      rw [hsame]
      rcases copies_step hs s.current with hle | ⟨-, -, hsend, -⟩
      · omega
      · exact absurd hsend hnosend

theorem once_start : ({} : Ril).Once :=
  ⟨fun _ => Nat.zero_le _, fun _ _ => rfl, fun _ => rfl⟩

theorem work_updateConn {s : Ril} {i : ℕ} {c : Conn} (hc : s.conns[i]? = some c) {f : Conn → Conn}
    (hf : (f c).work < c.work) : ((s.updateConn i f).conns.map Conn.work).sum < (s.conns.map Conn.work).sum := by
  have := sum_map_modify s.conns f Conn.work hc
  show ((s.conns.modify i f).map Conn.work).sum < _
  omega

/-- While a copy can still be read, the bridge has a step that brings the reading closer. -/
theorem live_progress {s : Ril} {n : ℕ} (h : s.live n ≠ 0) :
    ∃ e s', step s e = some s' ∧ (s'.conns.map Conn.work).sum < (s.conns.map Conn.work).sum ∧
      s'.copies n = s.copies n := by
  obtain ⟨c, hmem, hlive⟩ : ∃ c ∈ s.conns, c.live n ≠ 0 := by
    by_contra hno
    push Not at hno
    apply h
    rw [live, List.sum_eq_zero_iff_forall_eq_nat]
    intro x hx
    obtain ⟨c, hc, rfl⟩ := List.mem_map.mp hx
    exact hno c hc
  obtain ⟨i, hc⟩ := List.mem_iff_getElem?.mp hmem
  have hopen : c.closed = false := by
    by_contra hclosed
    exact hlive (if_pos (by simpa using hclosed))
  cases hbridge : c.toBridge with
  | nil =>
      refine absurd ?_ hlive
      simp [Conn.live, hbridge]
  | cons f rest =>
      cases hacc : c.accepted with
      | false =>
          refine ⟨.accept i 0, s.updateConn i (·.accept 0), ?_, work_updateConn hc ?_, copies_updateConn hc rfl⟩
          · simp only [step, hc]
            exact if_pos ⟨hacc, hopen⟩
          · simp [Conn.work, Conn.accept, hopen, hacc]
      | true =>
          cases hserving : c.serving with
          | some g =>
              refine ⟨.reply i [], s.updateConn i (·.reply g []), ?_, work_updateConn hc ?_,
                copies_updateConn hc rfl⟩
              · simp only [step, hc, hserving]
                exact if_pos hopen
              · simp [Conn.work, Conn.reply, hopen, hacc, hserving]
          | none =>
              refine ⟨.take i, (s.updateConn i Conn.take).execute f, ?_, work_updateConn hc ?_,
                copies_take hc hbridge hopen n⟩
              · simp only [step, hc, hbridge, hserving]
                exact if_pos ⟨hacc, hopen⟩
              · simp [Conn.work, Conn.take, hopen, hacc, hserving, hbridge]
                omega

theorem copies_executed (n : ℕ) (s : Ril) :
    ∃ es s', runFrom step s es = some s' ∧ s'.executed.count (some n) = s.copies n := by
  induction hk : (s.conns.map Conn.work).sum using Nat.strong_induction_on generalizing s with
  | _ k ih =>
      by_cases hlive : s.live n = 0
      · refine ⟨[], s, rfl, ?_⟩
        rw [copies, hlive, Nat.zero_add]
      · obtain ⟨e, s₁, hstep, hwork, hcopies⟩ := live_progress hlive
        obtain ⟨es, s₂, hrun, hcount⟩ := ih _ (hk ▸ hwork) s₁ rfl
        refine ⟨e :: es, s₂, ?_, hcount.trans hcopies⟩
        rw [runFrom_cons, hstep]
        exact hrun

/-- **A resend that breaks the rule** can be followed by a second execution. -/
theorem resend_executes {s s' : Ril} (hs : step s .send = some s') (hbad : ¬ s.ResendsLost .send) :
    ∃ es s'', runFrom step s' es = some s'' ∧ 2 ≤ s''.executed.count (some s.current) := by
  unfold ResendsLost at hbad
  split at hbad
  · next r retry i c _ hphase hcur =>
      push Not at hbad
      obtain ⟨hopen, hnot⟩ := hbad
      rw [lost_iff] at hnot
      simp only [step, hphase, hcur] at hs
      obtain rfl := Option.some.inj hs
      obtain ⟨es, s'', hrun, hcount⟩ := copies_executed s.current
        ((s.updateConn i (·.push (r.frame s.current))).toPhase (.receiving r (retry + 1)))
      refine ⟨es, s'', hrun, ?_⟩
      rw [hcount, copies_send (currentConn_eq_some.mp hcur).2, if_pos ⟨by simpa using hopen, rfl⟩]
      omega
  · exact absurd trivial hbad

/-- **At-most-once execution.**  In every run in which a request is sent again only when every
earlier copy is lost for good, the bridge executes each Android request at most once.  A send that
breaks the rule leads to a state from which the bridge can execute the request twice. -/
theorem at_most_once {es : List RilEvent} {s : Ril} (hrun : runFrom step {} es = some s) :
    (Along step ResendsLost {} es → ∀ n, s.executed.count (some n) ≤ 1) ∧
      (¬ s.ResendsLost .send → ∀ s', step s .send = some s' →
        ∃ fs s'', runFrom step s' fs = some s'' ∧ 2 ≤ s''.executed.count (some s.current)) := by
  refine ⟨fun hlost n => ?_, fun hbad s' hs => resend_executes hs hbad⟩
  have hinv : s.Once :=
    runFrom_invariant step (fun _ _ _ h hl hs => h.step hl hs) once_start hlost hrun
  exact (Nat.le_add_left _ _).trans (hinv.once n)

/-- DIAL is sent again after the bridge has closed the first connection without reading it. -/
theorem at_most_once_lost :
    ∃ s, runFrom step {} [.request ⟨10, 7, none⟩, .send, .hangUp 0, .recvFail, .connect true, .send,
        .accept 1 10, .take 1] = some s ∧ ∀ n, s.executed.count (some n) ≤ 1 := by
  have hrun : (runFrom step {} [.request ⟨10, 7, none⟩, .send, .hangUp 0, .recvFail, .connect true,
      .send, .accept 1 10, .take 1]).isSome := by decide +kernel
  obtain ⟨s, hs⟩ := Option.isSome_iff_exists.mp hrun
  exact ⟨s, hs, (at_most_once hs).1 (by decide +kernel)⟩

/-- DIAL with token 7 is executed twice: the connection is lost between the bridge's reading the
request and the shim's reading the reply. -/
theorem dial_executed_twice :
    ∃ s, runFrom step {} [.request ⟨10, 7, none⟩, .send, .accept 0 10, .take 0, .recvFail,
        .connect true, .send, .accept 1 10, .take 1] = some s ∧ s.executed.count (some 0) = 2 := by
  have hrun : (runFrom step {} [.request ⟨10, 7, none⟩, .send, .accept 0 10, .take 0, .recvFail,
      .connect true, .send, .accept 1 10, .take 1]).map (fun s => s.executed.count (some 0)) =
        some 2 := by decide +kernel
  exact Option.map_eq_some_iff.mp hrun

end Ril

end VirtualPhone
