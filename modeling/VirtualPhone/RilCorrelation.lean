import VirtualPhone.RilShim
import Mathlib.Data.List.Infix

/-! # Which frame answers an Android request

The connection of the shim is read as one queue: the frames written to it, the reply the bridge is
preparing and the replies to the requests it has not read, in the order in which the shim will get
them.  The first entry of every connection is the indication the bridge writes when it accepts it,
and each request takes one entry and adds one, so the reply to a request is never at the head when
the shim takes the head as its answer (`Behind`).  Hence no successful response is ever built from
the reply to its own request, and `correlated_iff` follows. -/

namespace VirtualPhone

open Runtime

/-! ### The queue of a connection -/

namespace Conn

/-- The origins of the frames the shim will get, in order; the indication of a connection that is not
accepted yet is the first. -/
def queue (c : Conn) : List (Option ℕ) :=
  (if c.accepted then [] else [none]) ++
    (c.toShim ++ c.serving.toList ++ c.toBridge).map Frame.origin

/-- Nothing is written to or read from a connection before it is accepted. -/
def Fresh (c : Conn) : Prop := c.accepted = false → c.toShim = [] ∧ c.serving = none

theorem queue_push (c : Conn) (f : Frame) : (c.push f).queue = c.queue ++ [f.origin] := by
  cases hacc : c.accepted <;> simp [queue, push, hacc]

theorem queue_accept {c : Conn} (h : c.Fresh) (hacc : c.accepted = false) (radioState : ℤ) :
    (c.accept radioState).queue = c.queue := by
  obtain ⟨hshim, hserving⟩ := h hacc
  simp [queue, accept, hacc, hshim, hserving, radioStateChanged, unsolicitedFrame]

theorem queue_take {c : Conn} {f : Frame} {rest : List Frame} (hbridge : c.toBridge = f :: rest)
    (hserving : c.serving = none) : c.take.queue = c.queue := by
  cases hacc : c.accepted <;> simp [queue, take, hbridge, hserving, hacc]

theorem queue_reply {c : Conn} {f : Frame} (hserving : c.serving = some f) (outcome : Text) :
    (c.reply f outcome).queue = c.queue := by
  cases hacc : c.accepted <;> simp [queue, reply, hserving, hacc]

theorem queue_indicate {c : Conn} (hacc : c.accepted = true) (indicationId : ℤ) (data : Text) :
    ∃ p q, c.queue = p ++ q ∧ (c.indicate indicationId data).queue = p ++ none :: q :=
  ⟨c.toShim.map Frame.origin, (c.serving.toList ++ c.toBridge).map Frame.origin,
    by simp [queue, hacc], by simp [queue, hacc, indicate, unsolicitedFrame]⟩

theorem queue_pop {c : Conn} {f : Frame} {rest : List Frame} (hacc : c.accepted = true)
    (hshim : c.toShim = f :: rest) : c.queue = f.origin :: c.pop.queue := by
  simp [queue, pop, hacc, hshim]

/-- The steps of the bridge on a connection. -/
inductive Move (c : Conn) : (Conn → Conn) → Prop
  | accept (radioState : ℤ) (hacc : c.accepted = false) : Move c (·.accept radioState)
  | take {f : Frame} {rest : List Frame} (hbridge : c.toBridge = f :: rest)
      (hserving : c.serving = none) (hacc : c.accepted = true) : Move c Conn.take
  | reply {f : Frame} (outcome : Text) (hserving : c.serving = some f) : Move c (·.reply f outcome)
  | indicate (indicationId : ℤ) (data : Text) (hacc : c.accepted = true) :
      Move c (·.indicate indicationId data)
  | hangUp : Move c Conn.hangUp

theorem Move.fresh {c : Conn} {f : Conn → Conn} (h : Move c f) (hc : c.Fresh) : (f c).Fresh := by
  cases h with
  | accept radioState hacc => intro hno; cases hno
  | take hbridge hserving hacc => intro hno; exact absurd hno (by simp [Conn.take, hacc])
  | reply outcome hserving =>
      intro hno
      rw [(hc hno).2] at hserving
      cases hserving
  | indicate indicationId data hacc => intro hno; exact absurd hno (by simp [Conn.indicate, hacc])
  | hangUp => exact hc

end Conn

/-! ### The invariant -/

/-- Before request `n` is sent, the queue holds an entry and no entry of `n` or later. -/
def Ahead (n : ℕ) (q : List (Option ℕ)) : Prop := q ≠ [] ∧ ∀ m, some m ∈ q → m < n

/-- While the shim waits for the answer to request `n`, another entry is at the head of the queue. -/
def Behind (n : ℕ) (q : List (Option ℕ)) : Prop :=
  ∃ o rest, q = o :: rest ∧ o ≠ some n ∧ rest ≠ [] ∧ ∀ m, some m ∈ q → m ≤ n

theorem Ahead.behind {n : ℕ} {q : List (Option ℕ)} (h : Ahead n q) : Behind n (q ++ [some n]) := by
  obtain ⟨hne, hlt⟩ := h
  cases q with
  | nil => exact absurd rfl hne
  | cons o rest =>
      refine ⟨o, rest ++ [some n], rfl, ?_, by simp, ?_⟩
      · rintro rfl
        exact Nat.lt_irrefl n (hlt n (by simp))
      · intro m hm
        rcases List.mem_append.mp hm with hm | hm
        · exact Nat.le_of_lt (hlt m hm)
        · exact Nat.le_of_eq (Option.some.inj (List.mem_singleton.mp hm))

theorem Behind.ahead {n : ℕ} {o : Option ℕ} {rest : List (Option ℕ)} (h : Behind n (o :: rest)) :
    o ≠ some n ∧ Ahead (n + 1) rest := by
  obtain ⟨o', rest', heq, ho, hne, hle⟩ := h
  obtain ⟨rfl, rfl⟩ := List.cons_eq_cons.mp heq
  exact ⟨ho, hne, fun m hm => Nat.lt_succ_of_le (hle m (List.mem_cons_of_mem o hm))⟩

/-- What the bridge does to a queue: nothing, or an indication enters it somewhere. -/
def Grows (q q' : List (Option ℕ)) : Prop := q' = q ∨ ∃ p r, q = p ++ r ∧ q' = p ++ none :: r

theorem Conn.Move.grows {c : Conn} {f : Conn → Conn} (h : c.Move f)
    (hc : c.Fresh) : Grows c.queue (f c).queue := by
  cases h with
  | accept radioState hacc => exact Or.inl (Conn.queue_accept hc hacc radioState)
  | take hbridge hserving hacc => exact Or.inl (Conn.queue_take hbridge hserving)
  | reply outcome hserving => exact Or.inl (Conn.queue_reply hserving outcome)
  | indicate indicationId data hacc => exact Or.inr (Conn.queue_indicate hacc indicationId data)
  | hangUp => exact Or.inl rfl

theorem Ahead.grows {n : ℕ} {q q' : List (Option ℕ)} (h : Ahead n q) (hg : Grows q q') :
    Ahead n q' := by
  rcases hg with rfl | ⟨p, r, rfl, rfl⟩
  · exact h
  · refine ⟨by simp, fun m hm => h.2 m ?_⟩
    simpa using hm

theorem Behind.grows {n : ℕ} {q q' : List (Option ℕ)} (h : Behind n q) (hg : Grows q q') :
    Behind n q' := by
  rcases hg with rfl | ⟨p, r, rfl, rfl⟩
  · exact h
  obtain ⟨o, rest, heq, ho, hne, hle⟩ := h
  have hle' : ∀ m, some m ∈ p ++ none :: r → m ≤ n := fun m hm => hle m (by simpa using hm)
  cases p with
  | nil =>
      refine ⟨none, r, rfl, by simp, ?_, hle'⟩
      rintro rfl
      cases heq
  | cons o' p =>
      obtain ⟨rfl, hrest⟩ := List.cons_eq_cons.mp heq
      exact ⟨o', p ++ none :: r, rfl, ho, by simp, hle'⟩

namespace Ril

/-- The request in progress is waiting for its answer. -/
def Waiting (s : Ril) : Prop := ∃ r retry, s.phase = .receiving r retry

/-- Every connection before its acceptance, and the queue of the shim's connection. -/
structure Queued (s : Ril) : Prop where
  fresh : ∀ (i : ℕ) (c : Conn), s.conns[i]? = some c → c.Fresh
  ahead : ∀ (i : ℕ) (c : Conn), s.fd = some i → s.conns[i]? = some c → ¬ s.Waiting → Ahead s.current c.queue
  behind : ∀ (i : ℕ) (c : Conn), s.fd = some i → s.conns[i]? = some c → s.Waiting → Behind s.current c.queue

theorem currentConn_eq_some {s : Ril} {i : ℕ} {c : Conn} :
    s.currentConn = some (i, c) ↔ s.fd = some i ∧ s.conns[i]? = some c := by
  unfold currentConn
  constructor
  · intro h
    obtain ⟨j, hj, h⟩ := Option.bind_eq_some_iff.mp h
    obtain ⟨d, hd, h⟩ := Option.map_eq_some_iff.mp h
    obtain ⟨rfl, rfl⟩ := Prod.mk.inj h
    exact ⟨hj, hd⟩
  · rintro ⟨hfd, hc⟩
    rw [hfd, Option.bind_some, hc]
    rfl

theorem updateConn_getElem? (s : Ril) (i j : ℕ) (f : Conn → Conn) :
    (s.updateConn i f).conns[j]? = if i = j then s.conns[j]?.map f else s.conns[j]? := by
  simp only [updateConn, List.getElem?_modify]
  split_ifs <;> simp

theorem Queued.bridge {s : Ril} (h : s.Queued) {i : ℕ} {c : Conn} (hc : s.conns[i]? = some c)
    {f : Conn → Conn} (hfresh : (f c).Fresh) (hgrows : Grows c.queue (f c).queue) :
    (s.updateConn i f).Queued := by
  have hconn : ∀ (j : ℕ) (d : Conn), (s.updateConn i f).conns[j]? = some d →
      ∃ c' : Conn, s.conns[j]? = some c' ∧ Grows c'.queue d.queue ∧ (c'.Fresh → d.Fresh) := by
    intro j d hd
    rw [updateConn_getElem?] at hd
    split_ifs at hd with hij
    · subst hij
      rw [hc] at hd
      obtain rfl := Option.some.inj hd
      exact ⟨c, hc, hgrows, fun _ => hfresh⟩
    · exact ⟨d, hd, Or.inl rfl, id⟩
  refine ⟨?_, ?_, ?_⟩
  · intro j d hd
    obtain ⟨c', hc', -, hf⟩ := hconn j d hd
    exact hf (h.fresh j c' hc')
  · intro j d hfd hd hwait
    obtain ⟨c', hc', hg, -⟩ := hconn j d hd
    exact (h.ahead j c' hfd hc' hwait).grows hg
  · intro j d hfd hd hwait
    obtain ⟨c', hc', hg, -⟩ := hconn j d hd
    exact (h.behind j c' hfd hc' hwait).grows hg

theorem Queued.of_no_fd {s : Ril} (hfresh : ∀ (i : ℕ) (c : Conn), s.conns[i]? = some c → c.Fresh)
    (hfd : s.fd = none) : s.Queued := by
  refine ⟨hfresh, ?_, ?_⟩
  · intro i c hi
    rw [hfd] at hi
    cases hi
  · intro i c hi
    rw [hfd] at hi
    cases hi

theorem Queued.connectionLost {s : Ril} (h : s.Queued) (r : AndroidRequest) (retry : ℕ) :
    (s.connectionLost r retry).Queued := by
  unfold Ril.connectionLost
  simp only
  split_ifs
  · exact .of_no_fd h.fresh rfl
  · exact .of_no_fd h.fresh rfl

/-- The shim moves between phases in which it does not wait for a frame. -/
theorem Queued.toPhase {s : Ril} (h : s.Queued) (hs : ¬ s.Waiting) {p : ShimPhase}
    (hp : ∀ r retry, p ≠ .receiving r retry) : (s.toPhase p).Queued := by
  refine ⟨h.fresh, ?_, ?_⟩
  · intro i c hfd hc _
    exact h.ahead i c hfd hc hs
  · rintro i c _ _ ⟨r, retry, hwait⟩
    exact absurd hwait (hp r retry)

theorem Queued.connect {s : Ril} (h : s.Queued) (hs : ¬ s.Waiting) : s.connect.Queued := by
  have hnew : Ahead s.current (Conn.queue {}) := ⟨by simp [Conn.queue], by simp [Conn.queue]⟩
  have hconn : ∀ i c, s.connect.conns[i]? = some c →
      s.conns[i]? = some c ∨ i = s.conns.length ∧ c = {} := by
    intro i c hc
    simp only [Ril.connect, List.getElem?_append] at hc
    split_ifs at hc with hi
    · exact Or.inl hc
    · cases hn : i - s.conns.length with
      | zero =>
          rw [hn] at hc
          exact Or.inr ⟨by omega, (Option.some.inj hc).symm⟩
      | succ n =>
          rw [hn] at hc
          cases hc
  refine ⟨?_, ?_, ?_⟩
  · intro i c hc
    rcases hconn i c hc with hc | ⟨-, rfl⟩
    · exact h.fresh i c hc
    · exact fun _ => ⟨rfl, rfl⟩
  · intro i c hfd hc _
    obtain rfl : s.conns.length = i := Option.some.inj hfd
    rcases hconn _ c hc with hc | ⟨-, rfl⟩
    · exact absurd (List.getElem?_eq_some_iff.mp hc).1 (Nat.lt_irrefl _)
    · exact hnew
  · intro i c _ _ hwait
    exact absurd hwait hs

theorem Queued.send {s : Ril} (h : s.Queued) (hs : ¬ s.Waiting) {i : ℕ} {c : Conn}
    (hfd : s.fd = some i) (hc : s.conns[i]? = some c) (r : AndroidRequest) (retry : ℕ) :
    ((s.updateConn i (·.push (r.frame s.current))).toPhase (.receiving r retry)).Queued := by
  have hconn : ∀ j d, (s.updateConn i (·.push (r.frame s.current))).conns[j]? = some d →
      (i ≠ j ∧ s.conns[j]? = some d) ∨ (i = j ∧ d = c.push (r.frame s.current)) := by
    intro j d hd
    rw [updateConn_getElem?] at hd
    split_ifs at hd with hij
    · subst hij
      rw [hc] at hd
      exact Or.inr ⟨rfl, (Option.some.inj hd).symm⟩
    · exact Or.inl ⟨hij, hd⟩
  refine ⟨?_, ?_, ?_⟩
  · intro j d hd
    rcases hconn j d hd with ⟨-, hd⟩ | ⟨-, rfl⟩
    · exact h.fresh j d hd
    · exact h.fresh i c hc
  · intro j d _ _ hwait
    exact absurd ⟨r, retry, rfl⟩ hwait
  · intro j d hj hd _
    obtain rfl : i = j := Option.some.inj (hfd.symm.trans hj)
    rcases hconn i d hd with ⟨hne, -⟩ | ⟨-, rfl⟩
    · exact absurd rfl hne
    · rw [Conn.queue_push]
      exact (h.ahead i c hfd hc hs).behind

/-- The frame the shim takes as the answer belongs to another request or to none. -/
theorem Queued.recv {s : Ril} (h : s.Queued) {r : AndroidRequest} {retry : ℕ}
    (hphase : s.phase = .receiving r retry) {i : ℕ} {c : Conn} (hfd : s.fd = some i)
    (hc : s.conns[i]? = some c) {f : Frame} {rest : List Frame} (hshim : c.toShim = f :: rest) :
    f.origin ≠ some s.current ∧ ((s.updateConn i Conn.pop).respond r (some f)).Queued := by
  have hacc : c.accepted = true := by
    by_contra hacc
    have := (h.fresh i c hc (by simpa using hacc)).1
    rw [hshim] at this
    cases this
  have hbehind := h.behind i c hfd hc ⟨r, retry, hphase⟩
  rw [Conn.queue_pop hacc hshim] at hbehind
  obtain ⟨hother, hahead⟩ := hbehind.ahead
  refine ⟨hother, ?_, ?_, ?_⟩
  · intro j d hd
    have hd' : (s.updateConn i Conn.pop).conns[j]? = some d := hd
    rw [updateConn_getElem?] at hd'
    split_ifs at hd' with hij
    · subst hij
      rw [hc] at hd'
      obtain rfl := Option.some.inj hd'
      intro hno
      rw [Conn.pop, hacc] at hno
      cases hno
    · exact h.fresh j d hd'
  · intro j d hj hd _
    obtain rfl : i = j := Option.some.inj (hfd.symm.trans hj)
    have hd' : (s.updateConn i Conn.pop).conns[i]? = some d := hd
    rw [updateConn_getElem?, if_pos rfl, hc] at hd'
    obtain rfl := Option.some.inj hd'
    have hnext : ((s.updateConn i Conn.pop).respond r (some f)).current = s.current + 1 := by
      simp [current, respond, updateConn]
    rw [hnext]
    exact hahead
  · rintro j d _ _ ⟨r', retry', hwait⟩
    cases hwait

/-! ### One step -/

/-- What an event does to the state. -/
inductive Effect (s : Ril) : RilEvent → Ril → Prop
  | bridge {e : RilEvent} {i : ℕ} {c : Conn} {f : Conn → Conn} (executed : List (Option ℕ))
      (he : e ≠ .recv) (hc : s.conns[i]? = some c) (hmove : c.Move f) :
      Effect s e { s.updateConn i f with executed := executed }
  | request (r : AndroidRequest) (hphase : s.phase = .idle) :
      Effect s (.request r) (s.toPhase (.trying r 0))
  | send {r : AndroidRequest} {retry i : ℕ} {c : Conn} (hphase : s.phase = .trying r retry)
      (hfd : s.fd = some i) (hc : s.conns[i]? = some c) :
      Effect s .send
        ((s.updateConn i (·.push (r.frame s.current))).toPhase (.receiving r retry))
  | lost {e : RilEvent} (r : AndroidRequest) (retry : ℕ) (he : e ≠ .recv) :
      Effect s e (s.connectionLost r retry)
  | recv {r : AndroidRequest} {retry i : ℕ} {c : Conn} {f : Frame} {rest : List Frame}
      (hphase : s.phase = .receiving r retry) (hfd : s.fd = some i) (hc : s.conns[i]? = some c)
      (hshim : c.toShim = f :: rest) :
      Effect s .recv ((s.updateConn i Conn.pop).respond r (some f))
  | connect {r : AndroidRequest} {retry : ℕ} (ok : Bool) (hphase : s.phase = .reconnecting r retry) :
      Effect s (.connect ok) ((if ok then s.connect else s).toPhase (.trying r (retry + 1)))

theorem step_effect {s s' : Ril} {e : RilEvent} (h : step s e = some s') : Effect s e s' := by
  cases e with
  | request r =>
      simp only [step] at h
      split_ifs at h with hphase
      obtain rfl := Option.some.inj h
      exact .request r hphase
  | send =>
      simp only [step] at h
      split at h
      · next r retry i c hphase hcur =>
          obtain ⟨hfd, hc⟩ := currentConn_eq_some.mp hcur
          obtain rfl := Option.some.inj h
          exact .send hphase hfd hc
      · cases h
  | sendFail =>
      simp only [step] at h
      split at h
      · next r retry hphase =>
          obtain rfl := Option.some.inj h
          exact .lost r retry (by simp)
      · cases h
  | recv =>
      simp only [step] at h
      split at h
      · next r retry i c hphase hcur =>
          obtain ⟨hfd, hc⟩ := currentConn_eq_some.mp hcur
          split at h
          · next f rest hshim =>
              obtain rfl := Option.some.inj h
              exact .recv hphase hfd hc hshim
          · cases h
      · cases h
  | recvFail =>
      simp only [step] at h
      split at h
      · next r retry hphase =>
          obtain rfl := Option.some.inj h
          exact .lost r retry (by simp)
      · cases h
  | connect ok =>
      simp only [step] at h
      split at h
      · next r retry hphase =>
          obtain rfl := Option.some.inj h
          exact .connect ok hphase
      · cases h
  | accept i radioState =>
      simp only [step] at h
      split at h
      · next c hc =>
          split_ifs at h with hopen
          obtain rfl := Option.some.inj h
          exact .bridge s.executed (by simp) hc (.accept radioState hopen.1)
      · cases h
  | take i =>
      simp only [step] at h
      split at h
      · next c hc =>
          split at h
          · next f rest hbridge hserving =>
              split_ifs at h with hopen
              obtain rfl := Option.some.inj h
              exact .bridge (s.executed ++ [f.origin]) (by simp) hc
                (.take hbridge hserving hopen.1)
          · cases h
      · cases h
  | reply i outcome =>
      simp only [step] at h
      split at h
      · next c hc =>
          split at h
          · next f hserving =>
              split_ifs at h with hopen
              obtain rfl := Option.some.inj h
              exact .bridge s.executed (by simp) hc (.reply outcome hserving)
          · cases h
      · cases h
  | indicate i indicationId data =>
      simp only [step] at h
      split at h
      · next c hc =>
          split_ifs at h with hopen
          obtain rfl := Option.some.inj h
          exact .bridge s.executed (by simp) hc (.indicate indicationId data hopen.1)
      · cases h
  | hangUp i =>
      simp only [step] at h
      split at h
      · next c hc =>
          split_ifs at h with hopen
          obtain rfl := Option.some.inj h
          exact .bridge s.executed (by simp) hc .hangUp
      · cases h

theorem Queued.history {s : Ril} (h : s.Queued) (executed : List (Option ℕ)) :
    ({ s with executed := executed } : Ril).Queued := ⟨h.fresh, h.ahead, h.behind⟩

theorem not_waiting_of_phase {s : Ril} {p : ShimPhase} (hphase : s.phase = p)
    (hp : ∀ r retry, p ≠ .receiving r retry) : ¬ s.Waiting := by
  rintro ⟨r, retry, hwait⟩
  exact hp r retry (hphase.symm.trans hwait)

/-- Every step keeps the answer to the request in progress behind the head of the queue. -/
theorem Queued.step {s s' : Ril} {e : RilEvent} (h : s.Queued) (he : Effect s e s') : s'.Queued := by
  cases he with
  | bridge executed _ hc hmove =>
      have hfresh := h.fresh _ _ hc
      exact (h.bridge hc (hmove.fresh hfresh) (hmove.grows hfresh)).history executed
  | request r hphase => exact h.toPhase (not_waiting_of_phase hphase (by simp)) (by simp)
  | send hphase hfd hc => exact h.send (not_waiting_of_phase hphase (by simp)) hfd hc _ _
  | lost r retry _ => exact h.connectionLost r retry
  | recv hphase hfd hc hshim => exact (h.recv hphase hfd hc hshim).2
  | connect ok hphase =>
      have hs := not_waiting_of_phase hphase (by simp)
      cases ok with
      | false => exact h.toPhase hs (by simp)
      | true => exact (h.connect hs).toPhase hs (by simp)

theorem queued_start : ({} : Ril).Queued := by
  refine ⟨?_, ?_, ?_⟩
  · intro i c hc
    obtain rfl : ({} : Conn) = c := List.mem_singleton.mp (List.mem_of_getElem? hc) |>.symm
    exact fun _ => ⟨rfl, rfl⟩
  · intro i c _ hc _
    obtain rfl : ({} : Conn) = c := List.mem_singleton.mp (List.mem_of_getElem? hc) |>.symm
    exact ⟨by simp [Conn.queue], by simp [Conn.queue]⟩
  · rintro i c _ _ ⟨r, retry, hwait⟩
    cases hwait

theorem Effect.responses {s s' : Ril} {e : RilEvent} (he : Effect s e s') :
    (e ≠ .recv ∧ (s'.responses = s.responses ∨
      ∃ r, s'.responses = s.responses ++ [buildResponse r none])) ∨
    ∃ r retry i c f rest, e = .recv ∧ s.phase = .receiving r retry ∧ s.fd = some i ∧
      s.conns[i]? = some c ∧ c.toShim = f :: rest ∧
      s'.responses = s.responses ++ [buildResponse r (some f)] := by
  cases he with
  | bridge executed hne _ _ => exact Or.inl ⟨hne, Or.inl rfl⟩
  | request r _ => exact Or.inl ⟨by simp, Or.inl rfl⟩
  | send _ _ _ => exact Or.inl ⟨by simp, Or.inl rfl⟩
  | lost r retry hne =>
      refine Or.inl ⟨hne, ?_⟩
      unfold connectionLost
      simp only
      split_ifs
      · exact Or.inr ⟨r, rfl⟩
      · exact Or.inl rfl
  | recv hphase hfd hc hshim =>
      exact Or.inr ⟨_, _, _, _, _, _, rfl, hphase, hfd, hc, hshim, rfl⟩
  | connect ok _ =>
      refine Or.inl ⟨by simp, Or.inl ?_⟩
      cases ok <;> rfl

/-! ### The responses -/

/-- The response to Android request `k` is an error, or it is built from the solicited frame with
the token of the request that the bridge wrote as the reply to this request. -/
def Correlated (k : ℕ) (r : Response) : Prop :=
  r.error ≠ .success ∨
    ∃ f, r.source = some f ∧ f.message.msgType = solicited ∧ f.message.serial = r.token ∧
      f.origin = some k

/-- No successful response so far is built from the reply to its own request. -/
def Crossed (s : Ril) : Prop :=
  ∀ (k : ℕ) (r : Response), s.responses[k]? = some r → r.error = .success → ∀ f ∈ r.source, f.origin ≠ some k

theorem buildResponse_none_error (r : AndroidRequest) : (buildResponse r none).error ≠ .success := by
  simp [buildResponse]

theorem crossed_step {s s' : Ril} {e : RilEvent} (h : s.Queued) (hs : s.Crossed)
    (he : Effect s e s') : s'.Crossed := by
  -- the responses that were there keep their numbers
  have hadd : ∀ r : Response, (r.error = .success → ∀ f ∈ r.source, f.origin ≠ some s.current) →
      s'.responses = s.responses ++ [r] → s'.Crossed := by
    intro r hr heq k r' hk
    rw [heq, List.getElem?_append] at hk
    split_ifs at hk with hlt
    · exact hs k r' hk
    · cases hn : k - s.responses.length with
      | zero =>
          rw [hn] at hk
          obtain rfl := Option.some.inj hk
          have hk' : k = s.current := by unfold current; omega
          rw [hk']
          exact hr
      | succ n =>
          rw [hn] at hk
          cases hk
  rcases he.responses with ⟨-, heq | ⟨r, heq⟩⟩ | ⟨r, retry, i, c, f, rest, -, hphase, hfd, hc, hshim, heq⟩
  · intro k r hk
    rw [heq] at hk
    exact hs k r hk
  · exact hadd _ (fun hsucc => absurd hsucc (buildResponse_none_error r)) heq
  · refine hadd _ (fun _ g hg => ?_) heq
    obtain rfl : f = g := Option.some.inj hg
    exact (h.recv hphase hfd hc hshim).1

theorem run_invariant {es : List RilEvent} {s : Ril} (hrun : runFrom step {} es = some s) :
    s.Queued ∧ s.Crossed :=
  runFrom_invariant step (P := fun _ _ => True) (I := fun s => s.Queued ∧ s.Crossed)
    (fun _ _ _ h _ hs => ⟨h.1.step (step_effect hs), crossed_step h.1 h.2 (step_effect hs)⟩)
    ⟨queued_start, fun k r hk => by cases hk⟩ (.of_forall step (fun _ _ => trivial) _ _) hrun

/-! ### The first frame -/

/-- An accepted connection from which no frame has been read begins with its own indication. -/
def BeginsWithState (c : Conn) : Prop :=
  c.accepted = true → ∃ radioState, c.toShim.head? = some (radioStateChanged radioState)

/-- No frame of any connection has been read. -/
def Unread (s : Ril) : Prop :=
  ∀ (i : ℕ) (c : Conn), s.conns[i]? = some c → BeginsWithState c

theorem BeginsWithState.append {c : Conn} (h : BeginsWithState c) (hacc : c.accepted = true)
    (f : Frame) : ∃ radioState, (c.toShim ++ [f]).head? = some (radioStateChanged radioState) := by
  obtain ⟨radioState, hhead⟩ := h hacc
  cases hl : c.toShim with
  | nil => rw [hl] at hhead; cases hhead
  | cons g rest => rw [hl] at hhead; exact ⟨radioState, hhead⟩

theorem beginsWithState_move {c : Conn} {f : Conn → Conn} (hfresh : c.Fresh)
    (h : BeginsWithState c) (hmove : c.Move f) : BeginsWithState (f c) := by
  cases hmove with
  | accept radioState hacc =>
      intro _
      refine ⟨radioState, ?_⟩
      show (c.toShim ++ [radioStateChanged radioState]).head? = _
      rw [(hfresh hacc).1]
      rfl
  | take hbridge hserving hacc => exact h
  | reply outcome hserving => exact fun hacc => h.append hacc _
  | indicate indicationId data hacc => exact fun _ => h.append hacc _
  | hangUp => exact h

/-- A character the JSON text of a frame does not contain is not found in its data. -/
theorem not_refusal_of_not_mem {f : Frame} (h : 'Q' ∉ f.message.payload) : ¬ f.Refusal := by
  have hsuffix : ∀ {text pattern found : Text}, strstr text pattern = some found →
      pattern <+: found ∧ found <:+ text := by
    intro text pattern found hfound
    exact ⟨by simpa using List.find?_some hfound,
      (List.mem_tails _ _).mp (List.mem_of_find?_eq_some hfound)⟩
  intro hrefusal
  obtain ⟨found, hfound⟩ := Option.isSome_iff_exists.mp hrefusal
  obtain ⟨hpattern, hdata⟩ := hsuffix hfound
  have hq : 'Q' ∈ jsonFindData f.message.payload := hdata.subset (hpattern.subset (by decide))
  unfold jsonFindData at hq
  split at hq
  · simp at hq
  · next p hp =>
      have hmem : 'Q' ∈ p := List.drop_subset 7 p ((List.dropWhile_sublist _).subset hq)
      exact h ((hsuffix hp).2.subset hmem)

theorem not_mem_intText (n : ℤ) : 'Q' ∉ intText n := by
  have hnat : ∀ n : ℕ, 'Q' ∉ natText n := by
    intro n hmem
    have := Nat.isDigit_of_mem_toDigits (by decide) (by decide) hmem
    exact absurd this (by decide)
  cases n with
  | ofNat n => exact hnat n
  | negSucc n =>
      intro hmem
      rcases List.mem_cons.mp hmem with h | h
      · cases h
      · exact hnat _ h

theorem not_mem_payload {m : RILMessage} (h : 'Q' ∉ m.data) : 'Q' ∉ m.payload := by
  unfold RILMessage.payload
  refine List.not_mem_append (List.not_mem_append ?_ h) (by decide)
  refine List.not_mem_append (List.not_mem_append ?_ (not_mem_intText _)) (by decide)
  refine List.not_mem_append (List.not_mem_append ?_ (not_mem_intText _)) (by decide)
  exact List.not_mem_append (List.not_mem_append (by decide) (not_mem_intText _)) (by decide)

theorem radioStateChanged_not_refusal (radioState : ℤ) : ¬ (radioStateChanged radioState).Refusal := by
  refine not_refusal_of_not_mem (not_mem_payload ?_)
  exact List.not_mem_append (List.not_mem_append (by decide) (not_mem_intText _)) (by decide)

/-- Until a frame is read, the bridge only adds behind the first indication. -/
theorem unread_step {s s' : Ril} {e : RilEvent} (hq : s.Queued) (h : s.Unread)
    (he : Effect s e s') (hne : e ≠ .recv) : s'.Unread := by
  have hupdate : ∀ (i : ℕ) (c : Conn) (f : Conn → Conn), s.conns[i]? = some c →
      BeginsWithState (f c) → (s.updateConn i f).Unread := by
    intro i c f hc hf j d hd
    rw [updateConn_getElem?] at hd
    split_ifs at hd with hij
    · subst hij
      rw [hc] at hd
      obtain rfl := Option.some.inj hd
      exact hf
    · exact h j d hd
  cases he with
  | bridge executed _ hc hmove =>
      exact hupdate _ _ _ hc (beginsWithState_move (hq.fresh _ _ hc) (h _ _ hc) hmove)
  | request r _ => exact h
  | send _ _ hc =>
      have hbegins := h _ _ hc
      exact hupdate _ _ _ hc hbegins
  | lost r retry _ =>
      unfold connectionLost
      simp only
      split_ifs
      · exact h
      · exact h
  | recv _ _ _ _ => exact absurd rfl hne
  | connect ok _ =>
      cases ok with
      | false => exact h
      | true =>
          intro i c hc
          have hc' : (s.conns ++ [({} : Conn)])[i]? = some c := hc
          rw [List.getElem?_append] at hc'
          split_ifs at hc' with hi
          · exact h i c hc'
          · obtain rfl : ({} : Conn) = c :=
              (List.mem_singleton.mp (List.mem_of_getElem? hc')).symm
            exact fun hacc => nomatch hacc

theorem unread_start : ({} : Ril).Unread := by
  intro i c hc
  obtain rfl : ({} : Conn) = c := (List.mem_singleton.mp (List.mem_of_getElem? hc)).symm
  exact fun hacc => nomatch hacc

theorem first_recv {s s' : Ril} (hq : s.Queued) (h : s.Unread) (he : Effect s .recv s') :
    ∃ r ∈ s'.responses, r.error = .success := by
  rcases he.responses with ⟨hne, -⟩ | ⟨r, retry, i, c, f, rest, -, -, -, hc, hshim, heq⟩
  · exact absurd rfl hne
  · have hacc : c.accepted = true := by
      by_contra hacc
      have := (hq.fresh i c hc (by simpa using hacc)).1
      rw [hshim] at this
      cases this
    obtain ⟨radioState, hhead⟩ := h i c hc hacc
    rw [hshim] at hhead
    obtain rfl : f = radioStateChanged radioState := Option.some.inj hhead
    refine ⟨buildResponse r (some (radioStateChanged radioState)), by rw [heq]; simp, ?_⟩
    unfold buildResponse
    simp only
    exact if_neg (radioStateChanged_not_refusal radioState)

theorem Effect.mem_responses {s s' : Ril} {e : RilEvent} (he : Effect s e s') {r : Response}
    (hr : r ∈ s.responses) : r ∈ s'.responses := by
  rcases he.responses with ⟨-, heq | ⟨r', heq⟩⟩ | ⟨r', _, _, _, f, _, -, -, -, -, -, heq⟩
  · rw [heq]; exact hr
  · rw [heq]; exact List.mem_append_left _ hr
  · rw [heq]; exact List.mem_append_left _ hr

theorem run_mem_responses {s s' : Ril} {es : List RilEvent} (hrun : runFrom step s es = some s')
    {r : Response} (hr : r ∈ s.responses) : r ∈ s'.responses :=
  runFrom_rel step (R := fun a b => ∀ r ∈ a.responses, r ∈ b.responses) (fun _ _ h => h)
    (fun hab hbc r h => hbc r (hab r h)) (fun _ _ _ hs _ h => (step_effect hs).mem_responses h) hrun
    r hr

/-- The run has a successful response exactly when a frame was read. -/
theorem success_iff_recv {s s' : Ril} {es : List RilEvent} (hq : s.Queued) (h : s.Unread)
    (hs : ∀ r ∈ s.responses, r.error ≠ .success) (hrun : runFrom step s es = some s') :
    (∃ r ∈ s'.responses, r.error = .success) ↔ .recv ∈ es := by
  induction es generalizing s with
  | nil =>
      obtain rfl : s = s' := Option.some.inj hrun
      exact ⟨fun ⟨r, hr, hsucc⟩ => absurd hsucc (hs r hr), fun hm => nomatch hm⟩
  | cons e es ih =>
      obtain ⟨s₁, h₁, h₂⟩ := runFrom_cons_some step hrun
      have he := step_effect h₁
      by_cases hrecv : e = .recv
      · subst hrecv
        refine ⟨fun _ => by simp, fun _ => ?_⟩
        obtain ⟨r, hr, hsucc⟩ := first_recv hq h he
        exact ⟨r, run_mem_responses h₂ hr, hsucc⟩
      · have hs₁ : ∀ r ∈ s₁.responses, r.error ≠ .success := by
          rcases he.responses with ⟨-, heq | ⟨r', heq⟩⟩ | ⟨_, _, _, _, _, _, hr, _⟩
          · rw [heq]; exact hs
          · rw [heq]
            intro r hr
            rcases List.mem_append.mp hr with hr | hr
            · exact hs r hr
            · rw [List.mem_singleton.mp hr]
              exact buildResponse_none_error r'
          · exact absurd hr hrecv
        rw [ih (hq.step he) (unread_step hq h he hrecv) hs₁ h₂, List.mem_cons]
        simp [Ne.symm hrecv]

/-- **Correlation of responses.**  In every run of the shim and the bridge, the responses are all
correlated with their requests exactly when the shim reads no frame at all; and no successful
response is ever correlated. -/
theorem correlated_iff {es : List RilEvent} {s : Ril} (hrun : runFrom step {} es = some s) :
    ((∀ k r, s.responses[k]? = some r → Correlated k r) ↔ RilEvent.recv ∉ es) ∧
      ∀ k r, s.responses[k]? = some r → r.error = .success → ¬ Correlated k r := by
  obtain ⟨-, hcrossed⟩ := run_invariant hrun
  have hwrong : ∀ k r, s.responses[k]? = some r → r.error = .success → ¬ Correlated k r := by
    rintro k r hk hsucc (herr | ⟨f, hf, -, -, horigin⟩)
    · exact herr hsucc
    · exact hcrossed k r hk hsucc f hf horigin
  refine ⟨?_, hwrong⟩
  rw [← success_iff_recv queued_start unread_start (fun r hr => nomatch hr) hrun]
  constructor
  · rintro hall ⟨r, hr, hsucc⟩
    obtain ⟨k, hk⟩ := List.mem_iff_getElem?.mp hr
    exact hwrong k r hk hsucc (hall k r hk)
  · intro hnone k r hk
    exact Or.inl fun hsucc => hnone ⟨r, List.mem_of_getElem? hk, hsucc⟩

/-- A request whose connection is lost five times is answered with an error. -/
theorem correlated_iff_lost :
    ∃ s, runFrom step {} [.request ⟨11, 7, none⟩, .send, .recvFail, .connect true, .sendFail,
        .connect false, .sendFail, .connect false, .sendFail, .connect false, .sendFail] = some s ∧
      ∀ k r, s.responses[k]? = some r → Correlated k r := by
  have hrun : (runFrom step {} [.request ⟨11, 7, none⟩, .send, .recvFail, .connect true, .sendFail,
      .connect false, .sendFail, .connect false, .sendFail, .connect false, .sendFail]).isSome := by
    decide +kernel
  obtain ⟨s, hs⟩ := Option.isSome_iff_exists.mp hrun
  exact ⟨s, hs, (correlated_iff hs).1.mpr (by decide)⟩

/-- GET_IMSI with token 7 is answered from the indication that the bridge wrote on accepting the
connection. -/
theorem imsi_from_indication :
    ∃ s, runFrom step {} [.accept 0 10, .request ⟨11, 7, none⟩, .send, .take 0,
        .reply 0 "\x7b\"imsi\": \"310260000000001\"\x7d".toList, .recv] = some s ∧
      s.responses = [{
        requestId := 11
        token := 7
        error := .success
        source := some (radioStateChanged 10) }] := by
  have hrun : (runFrom step {} [.accept 0 10, .request ⟨11, 7, none⟩, .send, .take 0,
      .reply 0 "\x7b\"imsi\": \"310260000000001\"\x7d".toList, .recv]).map Ril.responses = some [{
        requestId := 11
        token := 7
        error := .success
        source := some (radioStateChanged 10) }] := by
    decide +kernel
  exact Option.map_eq_some_iff.mp hrun

end Ril

end VirtualPhone
