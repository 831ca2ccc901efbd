import VirtualPhone.SipClient

/-! # Matching of responses and requests

Which response a call of `send_request` returns, over every run of a session.  The table of pending
responses is keyed by the Call-ID alone, so the answer depends on the overlaps: a run is *orderly*
when no request is begun under a Call-ID whose call has not ended, every final response that arrives for
such a Call-ID belongs to the request registered there and comes in its time, and no `transport.send`
raises another exception than `TimeoutError`.
Along an orderly run the table and the futures of the calls describe each other (`Consistent`), and
`orderly_matching` follows; `crossed_responses` is a run of two requests of one dialog that is not
orderly. -/

namespace VirtualPhone

open Runtime

namespace Session

/-- The message is a final response. -/
def Final (msg : SIPMessage) : Prop := ∃ code ∈ msg.statusCode, 200 ≤ code

instance (msg : SIPMessage) : Decidable (Final msg) :=
  inferInstanceAs (Decidable (∃ code ∈ msg.statusCode, 200 ≤ code))

/-- The response is the final response to the request of the call: its Call-ID is the call's, and
its CSeq (number and method) is that of the request. -/
def Matches (msg : SIPMessage) (t : Call) : Prop :=
  Final msg ∧ msg.callId = t.cid ∧ msg.cseq = t.request.cseq

/-- The exception is `TimeoutError`. -/
def IsTimeout (e : PyError) : Prop := ∃ text, e = .timeoutError text

instance : DecidablePred IsTimeout
  | .timeoutError text => isTrue ⟨text, rfl⟩
  | .indexError | .keyError _ | .valueError _ | .typeError | .attributeError | .overflowError
  | .memoryError _ | .runtimeError _ | .osError | .exception _ _ =>
      isFalse fun h => by
        obtain ⟨text, h⟩ := h
        cases h

/-- What holds of every call that is registered under the Call-ID and has not ended. -/
def OfRegistered (s : Session) (cid : Text) (P : Call → Prop) : Prop :=
  ∀ i ∈ s.client.pendingResponses.get? cid, ∀ t ∈ s.calls[i]?, Call.Outstanding t → P t

instance (s : Session) (cid : Text) (P : Call → Prop) [DecidablePred P] : Decidable (s.OfRegistered cid P) :=
  inferInstanceAs (Decidable (∀ i ∈ _, ∀ t ∈ _, _ → _))

/-- A final response for a registered Call-ID finds a call that waits and carries its CSeq. -/
def Expected (s : Session) (msg : SIPMessage) : Prop :=
  Final msg → s.OfRegistered msg.callId fun t => t.future = .pending ∧ msg.cseq = t.request.cseq

instance (s : Session) (msg : SIPMessage) : Decidable (Expected s msg) :=
  inferInstanceAs (Decidable (_ → Session.OfRegistered _ _ _))

/-- The event does not disturb a call that is registered and has not ended, and no `transport.send`
raises another exception than `TimeoutError`. -/
def Orderly (s : Session) : ClientEvent → Prop
  | .request args ids => s.OfRegistered (args.cid ids) fun _ => False
  | .unsent _ e => IsTimeout e
  | .receive msg => Expected s msg
  | .resolve msg => Expected s msg
  | _ => True

instance (s : Session) (e : ClientEvent) : Decidable (Orderly s e) := by
  induction e using ClientEvent.casesOn <;> unfold Orderly <;> infer_instance

/-- The event, when it is a response that no outstanding call matches, completes no call: those that
have not ended are as they were, and no other one stands elsewhere. -/
def UnmatchedIgnored (s : Session) (e : ClientEvent) : Prop :=
  ∀ msg, e = .receive msg ∨ e = .resolve msg →
    (∀ t ∈ s.calls, t.Outstanding → ¬ Matches msg t) →
    ∀ s', step s e = some s' → s'.calls.map Call.phase = s.calls.map Call.phase ∧
      ∀ (i : ℕ) (t : Call), s.calls[i]? = some t → t.Outstanding → s'.calls[i]? = some t

/-! ### The invariant -/

/-- What the phase of a call, its future and the registration under its Call-ID have to do with
each other; `i` is the number of the call and `reg` the number registered under its Call-ID. -/
inductive CallOk (reg : Option ℕ) (i : ℕ) (t : Call) : Prop
  | registered (hphase : t.phase = .sending ∨ t.phase = .waiting) (hfuture : t.future = .pending)
      (hreg : reg = some i)
  | answered (m : SIPMessage) (hphase : t.phase = .sending ∨ t.phase = .waiting)
      (hfuture : t.future = .result m) (hmatch : Matches m t)
  | expired (hphase : t.phase = .expired) (hfuture : t.future = .cancelled) (hreg : reg = some i)
  | returned (m : SIPMessage) (hphase : t.phase = .returned m) (hfuture : t.future = .result m)
      (hmatch : Matches m t)
  | raised (hphase : t.phase = .raised t.timeoutError) (hfuture : t.future = .cancelled)
  | unsent (e : PyError) (hphase : t.phase = .raised e) (he : IsTimeout e)

/-- The call may be registered: nothing has completed its future. -/
def Unanswered (t : Call) : Prop := t.future = .pending ∨ t.phase = .expired

/-- The table of pending responses and the calls describe each other. -/
structure Consistent (s : Session) : Prop where
  registered : ∀ k i, s.client.pendingResponses.get? k = some i →
    ∃ t, s.calls[i]? = some t ∧ t.cid = k ∧ Unanswered t
  call : ∀ i t, s.calls[i]? = some t → CallOk (s.client.pendingResponses.get? t.cid) i t

/-- Only its own registration matters to a call, and only while it has not ended. -/
theorem CallOk.reg_of_imp {reg : Option ℕ} {i : ℕ} {t : Call} (h : CallOk reg i t)
    {reg' : Option ℕ} (hreg : t.Outstanding → reg = some i → reg' = some i) : CallOk reg' i t := by
  cases h with
  | registered hphase hfuture h =>
      exact .registered hphase hfuture (hreg (hphase.imp id Or.inl) h)
  | answered m hphase hfuture hmatch => exact .answered m hphase hfuture hmatch
  | expired hphase hfuture h => exact .expired hphase hfuture (hreg (Or.inr (Or.inr hphase)) h)
  | returned m hphase hfuture hmatch => exact .returned m hphase hfuture hmatch
  | raised hphase hfuture => exact .raised hphase hfuture
  | unsent e hphase he => exact .unsent e hphase he

/-- A call that has not ended and whose future is pending has not left `wait_for`. -/
theorem CallOk.of_pending {reg : Option ℕ} {i : ℕ} {t : Call} (h : CallOk reg i t)
    (hout : t.Outstanding) (hf : t.future = .pending) :
    (t.phase = .sending ∨ t.phase = .waiting) ∧ reg = some i := by
  cases h with
  | registered hphase _ hreg => exact ⟨hphase, hreg⟩
  | answered m _ hfuture _ => rw [hf] at hfuture; cases hfuture
  | expired _ hfuture _ => rw [hf] at hfuture; cases hfuture
  | returned m _ hfuture _ => rw [hf] at hfuture; cases hfuture
  | raised _ hfuture => rw [hf] at hfuture; cases hfuture
  | unsent e hphase _ => simp [Call.Outstanding, hphase] at hout

theorem CallOk.of_unanswered {reg : Option ℕ} {i : ℕ} {t : Call} (h : CallOk reg i t)
    (hopen : Unanswered t) (hout : ¬t.Outstanding) : ∃ e, t.phase = .raised e ∧ IsTimeout e := by
  cases h with
  | registered hphase _ _ => exact absurd (hphase.imp id Or.inl) hout
  | answered m hphase _ _ => exact absurd (hphase.imp id Or.inl) hout
  | expired hphase _ _ => exact absurd (Or.inr (Or.inr hphase)) hout
  | returned m hphase hfuture _ => simp [Unanswered, hphase, hfuture] at hopen
  | raised hphase hfuture => simp [Unanswered, hphase, hfuture] at hopen
  | unsent e hphase he => exact ⟨e, hphase, he⟩

/-- The future of a call that has not ended, or that has returned, holds a matching response. -/
theorem CallOk.of_result {reg : Option ℕ} {i : ℕ} {t : Call} {m : SIPMessage} (h : CallOk reg i t)
    (hout : t.Outstanding) (hf : t.future = .result m) : Matches m t ∧ t.phase ≠ .expired := by
  cases h with
  | registered _ hfuture _ => rw [hf] at hfuture; cases hfuture
  | answered m' hphase hfuture hmatch =>
      obtain rfl : m = m' := Future.result.inj (hf.symm.trans hfuture)
      exact ⟨hmatch, by rcases hphase with h | h <;> simp [h]⟩
  | expired _ hfuture _ => rw [hf] at hfuture; cases hfuture
  | returned m' hphase hfuture hmatch =>
      obtain rfl : m = m' := Future.result.inj (hf.symm.trans hfuture)
      exact ⟨hmatch, by simp [hphase]⟩
  | raised _ hfuture => rw [hf] at hfuture; cases hfuture
  | unsent e hphase _ => simp [Call.Outstanding, hphase] at hout

theorem consistent_start (c : SIPClient) (h : c.pendingResponses = Dict.empty) :
    Consistent { client := c } := by
  refine ⟨?_, ?_⟩
  · intro k i hk
    rw [h] at hk
    cases hk
  · intro i t ht
    cases ht

/-- A new call under a Call-ID that is not registered, or for a call that has ended. -/
theorem Consistent.sendRequest {s : Session} (h : Consistent s) {args : RequestArgs}
    {ids : RandomIds} (hfree : s.OfRegistered (args.cid ids) fun _ => False) :
    Consistent (s.sendRequest args ids) := by
  refine ⟨?_, ?_⟩
  · intro k i hk
    simp only [Session.sendRequest, SIPClient.register_pendingResponses, Dict.get?_set] at hk ⊢
    split_ifs at hk with hkc
    · obtain rfl := Option.some.inj hk
      exact ⟨_, List.getElem?_concat_length, hkc.symm, Or.inl rfl⟩
    · obtain ⟨t, ht, htk, hopen⟩ := h.registered k i hk
      exact ⟨t, by rw [List.getElem?_append_left (List.getElem?_eq_some_iff.mp ht).1, ht], htk, hopen⟩
  · intro i t ht
    simp only [Session.sendRequest, SIPClient.register_pendingResponses] at ht ⊢
    rw [List.getElem?_append] at ht
    split_ifs at ht with hi
    · refine (h.call i t ht).reg_of_imp fun hout hreg => ?_
      rw [Dict.get?_set_ne]
      · exact hreg
      · intro hcid
        exact hfree i (hcid ▸ hreg) t ht hout
    · obtain ⟨hlen, rfl⟩ : i = s.calls.length ∧ t =
          { cid := args.cid ids, request := s.client.request args ids } := by
        cases hn : i - s.calls.length with
        | zero =>
            rw [hn] at ht
            exact ⟨by omega, (Option.some.inj ht).symm⟩
        | succ n =>
            rw [hn] at ht
            cases ht
      rw [hlen, Dict.get?_set_self]
      exact .registered (Or.inl rfl) rfl rfl

theorem Consistent.not_registered_of_result {s : Session} (h : Consistent s) {i : ℕ} {t : Call}
    {m : SIPMessage} (ht : s.calls[i]? = some t) (hout : t.Outstanding) (hfuture : t.future = .result m) :
    s.client.pendingResponses.get? t.cid ≠ some i := by
  intro hreg
  obtain ⟨u, hu, -, hopen⟩ := h.registered _ i hreg
  obtain rfl : t = u := Option.some.inj (ht.symm.trans hu)
  rcases hopen with hopen | hopen
  · rw [hfuture] at hopen
    cases hopen
  · exact ((h.call i t ht).of_result hout hfuture).2 hopen

theorem Consistent.updateCall {s : Session} (h : Consistent s) {i : ℕ} {t : Call}
    (ht : s.calls[i]? = some t) {f : Call → Call} (hcid : (f t).cid = t.cid)
    (hopen : Unanswered (f t) ∨ s.client.pendingResponses.get? t.cid ≠ some i)
    (hok : CallOk (s.client.pendingResponses.get? t.cid) i (f t)) : Consistent (s.updateCall i f) := by
  refine ⟨?_, ?_⟩
  · intro k j hk
    obtain ⟨u, hu, huk, huopen⟩ := h.registered k j hk
    rw [updateCall_getElem?]
    split_ifs with hij
    · subst hij
      obtain rfl : t = u := Option.some.inj (ht.symm.trans hu)
      refine ⟨f t, by rw [ht]; rfl, hcid.trans huk, hopen.resolve_right ?_⟩
      rw [huk, not_not]
      exact hk
    · exact ⟨u, hu, huk, huopen⟩
  · intro j u hu
    rw [updateCall_getElem?] at hu
    split_ifs at hu with hij
    · subst hij
      rw [ht] at hu
      obtain rfl : f t = u := Option.some.inj hu
      rw [updateCall_client, hcid]
      exact hok
    · exact h.call j u hu

theorem Consistent.closeCall {s : Session} (h : Consistent s) {i : ℕ} {t : Call}
    (ht : s.calls[i]? = some t) (hreg : s.client.pendingResponses.get? t.cid = some i)
    {f : Call → Call} (hcid : (f t).cid = t.cid) (hok : CallOk none i (f t)) :
    Consistent ((s.withClient (s.client.unregister t.cid)).updateCall i f) := by
  refine ⟨?_, ?_⟩
  · intro k j hk
    rw [updateCall_client, withClient_client, SIPClient.unregister_pendingResponses,
      Dict.get?_erase] at hk
    split_ifs at hk with hkc
    obtain ⟨u, hu, huk, hopen⟩ := h.registered k j hk
    have hij : i ≠ j := by
      rintro rfl
      obtain rfl : t = u := Option.some.inj (ht.symm.trans hu)
      exact hkc huk.symm
    exact ⟨u, by rw [updateCall_getElem?, if_neg hij, withClient_calls, hu], huk, hopen⟩
  · intro j u hu
    rw [updateCall_getElem?, withClient_calls] at hu
    rw [updateCall_client, withClient_client, SIPClient.unregister_pendingResponses]
    split_ifs at hu with hij
    · subst hij
      rw [ht] at hu
      obtain rfl : f t = u := Option.some.inj hu
      rw [hcid, Dict.get?_erase_self]
      exact hok
    · refine (h.call j u hu).reg_of_imp fun _ hregj => ?_
      rw [Dict.get?_erase]
      split_ifs with hk
      · rw [hk, hreg] at hregj
        exact absurd (Option.some.inj hregj) hij
      · exact hregj

theorem Consistent.handleMessage {s : Session} (h : Consistent s) {msg : SIPMessage}
    (hexp : Expected s msg) : Consistent (s.handleMessage msg) := by
  rcases s.handleMessage_cases msg with heq | ⟨code, i, hcode, hfinal, hreg, heq⟩
  · rw [heq]
    exact h
  · rw [heq]
    obtain ⟨t, ht, htk, hopen⟩ := h.registered _ i hreg
    rw [popAndComplete, ← htk]
    refine h.closeCall ht (htk ▸ hreg) (t.complete_cid msg) ?_
    by_cases hout : t.Outstanding
    · obtain ⟨hfuture, hcseq⟩ := hexp ⟨code, hcode, hfinal⟩ i hreg t ht hout
      have hmatch : Matches msg t := ⟨⟨code, hcode, hfinal⟩, htk.symm, hcseq⟩
      rw [Call.complete, if_pos hfuture]
      exact .answered msg ((h.call i t ht).of_pending hout hfuture).1 rfl hmatch
    · obtain ⟨e, hphase, he⟩ := (h.call i t ht).of_unanswered hopen hout
      exact .unsent e ((t.complete_phase msg).trans hphase) he

/-- A call whose time is up has its future cancelled and is still registered. -/
theorem Consistent.expired {s : Session} (h : Consistent s) {i : ℕ} {t : Call}
    (ht : s.calls[i]? = some t) (hphase : t.phase = .expired) :
    t.future = .cancelled ∧ s.client.pendingResponses.get? t.cid = some i := by
  cases h.call i t ht with
  | registered h _ _ => rw [hphase] at h; simp at h
  | answered m h _ _ => rw [hphase] at h; simp at h
  | expired _ hfuture hreg => exact ⟨hfuture, hreg⟩
  | returned m h _ _ => rw [hphase] at h; cases h
  | raised h _ => rw [hphase] at h; cases h
  | unsent e h _ => rw [hphase] at h; cases h

/-- The except branch of a call whose time is up finds its own entry and raises `TimeoutError`. -/
theorem Consistent.timeOut_eq {s : Session} (h : Consistent s) {i : ℕ} {t : Call}
    (ht : s.calls[i]? = some t) (hphase : t.phase = .expired) :
    s.timeOut i t = (s.withClient (s.client.unregister t.cid)).updateCall i
      (Call.withPhase (.raised t.timeoutError)) :=
  if_pos (Dict.mem_keys_of_get? (h.expired ht hphase).2)

theorem Consistent.timeOut {s : Session} (h : Consistent s) {i : ℕ} {t : Call}
    (ht : s.calls[i]? = some t) (hphase : t.phase = .expired) : Consistent (s.timeOut i t) := by
  obtain ⟨hfuture, hreg⟩ := h.expired ht hphase
  rw [h.timeOut_eq ht hphase]
  exact h.closeCall ht hreg rfl (.raised rfl hfuture)

/-- **One step** of an orderly run keeps the table and the calls consistent. -/
theorem consistent_step {s s' : Session} {e : ClientEvent} (h : Consistent s) (he : Orderly s e)
    (hs : step s e = some s') : Consistent s' := by
  cases e with
  | request args ids =>
      obtain rfl := Option.some.inj hs
      exact h.sendRequest he
  | receive msg =>
      obtain rfl := Option.some.inj hs
      exact h.handleMessage he
  | resolve msg =>
      obtain rfl := Option.some.inj hs
      rw [resolveResponse_eq]
      exact h.handleMessage he
  | sent i =>
      simp only [step] at hs
      split at hs
      · next t ht =>
          split_ifs at hs with hphase
          obtain rfl := Option.some.inj hs
          cases h.call i t ht with
          | registered _ hfuture hreg =>
              exact h.updateCall ht rfl (Or.inl (Or.inl hfuture)) (.registered (Or.inr rfl) hfuture hreg)
          | answered m _ hfuture hmatch =>
              exact h.updateCall ht rfl (Or.inr (h.not_registered_of_result ht (Or.inl hphase) hfuture))
                (.answered m (Or.inr rfl) hfuture hmatch)
          | expired h _ _ => rw [hphase] at h; cases h
          | returned m h _ _ => rw [hphase] at h; cases h
          | raised h _ => rw [hphase] at h; cases h
          | unsent e h _ => rw [hphase] at h; cases h
      · cases hs
  | unsent i e =>
      simp only [step] at hs
      split at hs
      · next t ht =>
          split_ifs at hs with hphase
          obtain rfl := Option.some.inj hs
          refine h.updateCall ht rfl ?_ (.unsent e rfl he)
          cases h.call i t ht with
          | registered _ hfuture _ => exact Or.inl (Or.inl hfuture)
          | answered m _ hfuture _ =>
              exact Or.inr (h.not_registered_of_result ht (Or.inl hphase) hfuture)
          | expired h _ _ => rw [hphase] at h; cases h
          | returned m h _ _ => rw [hphase] at h; cases h
          | raised h _ => rw [hphase] at h; cases h
          | unsent e h _ => rw [hphase] at h; cases h
      · cases hs
  | expire i =>
      simp only [step] at hs
      split at hs
      · next t ht =>
          split_ifs at hs with hphase
          obtain rfl := Option.some.inj hs
          exact h.updateCall ht rfl (Or.inl (Or.inr rfl))
            (.expired rfl rfl ((h.call i t ht).of_pending (Or.inr (Or.inl hphase.1)) hphase.2).2)
      · cases hs
  | resume i =>
      simp only [step] at hs
      split at hs
      · next t ht =>
          split at hs
          · next m hphase hfuture =>
              obtain rfl := Option.some.inj hs
              have hout : t.Outstanding := Or.inr (Or.inl hphase)
              exact h.updateCall ht rfl (Or.inr (h.not_registered_of_result ht hout hfuture))
                (.returned m rfl hfuture ((h.call i t ht).of_result hout hfuture).1)
          · cases hs
      · cases hs
  | timeOut i =>
      simp only [step] at hs
      split at hs
      · next t ht =>
          split_ifs at hs with hphase
          obtain rfl := Option.some.inj hs
          exact h.timeOut ht hphase
      · cases hs

theorem consistent_run {c : SIPClient} {es : List ClientEvent} {s : Session}
    (hfresh : c.pendingResponses = Dict.empty) (horderly : Along step Orderly { client := c } es)
    (hrun : runFrom step { client := c } es = some s) : Consistent s :=
  runFrom_invariant step (fun _ _ _ h he hs => consistent_step h he hs) (consistent_start c hfresh)
    horderly hrun

/-! ### What the calls return -/

/-- A call that returned, returned a final response with the CSeq of its request. -/
theorem Consistent.returned {s : Session} (h : Consistent s) {t : Call} (ht : t ∈ s.calls)
    {m : SIPMessage} (hphase : t.phase = .returned m) : Final m ∧ m.cseq = t.request.cseq := by
  obtain ⟨i, hi⟩ := List.mem_iff_getElem?.mp ht
  cases h.call i t hi with
  | registered h _ _ => rw [hphase] at h; simp at h
  | answered m' h _ _ => rw [hphase] at h; simp at h
  | expired h _ _ => rw [hphase] at h; cases h
  | returned m' h _ hmatch =>
      obtain rfl : m = m' := Phase.returned.inj (hphase.symm.trans h)
      exact ⟨hmatch.1, hmatch.2.2⟩
  | raised h _ => rw [hphase] at h; cases h
  | unsent e h _ => rw [hphase] at h; cases h

theorem Consistent.raised {s : Session} (h : Consistent s) {t : Call} (ht : t ∈ s.calls)
    {e : PyError} (hphase : t.phase = .raised e) : IsTimeout e := by
  obtain ⟨i, hi⟩ := List.mem_iff_getElem?.mp ht
  cases h.call i t hi with
  | registered h _ _ => rw [hphase] at h; simp at h
  | answered m h _ _ => rw [hphase] at h; simp at h
  | expired h _ _ => rw [hphase] at h; cases h
  | returned m h _ _ => rw [hphase] at h; cases h
  | raised h _ => exact ⟨_, Phase.raised.inj (hphase.symm.trans h)⟩
  | unsent e' h he => exact Phase.raised.inj (hphase.symm.trans h) ▸ he

/-- An expected response that no outstanding call matches changes no outstanding call. -/
theorem Consistent.unmatchedIgnored {s : Session} (h : Consistent s) {e : ClientEvent}
    (he : Orderly s e) : UnmatchedIgnored s e := by
  intro msg hmsg hnone s' hs
  have hexp : Expected s msg ∧ s' = s.handleMessage msg := by
    rcases hmsg with rfl | rfl
    · exact ⟨he, (Option.some.inj hs).symm⟩
    · exact ⟨he, by rw [← resolveResponse_eq]; exact (Option.some.inj hs).symm⟩
  obtain ⟨hexp, rfl⟩ := hexp
  rcases s.handleMessage_cases msg with heq | ⟨code, i, hcode, hfinal, hreg, heq⟩
  · rw [heq]
    exact ⟨rfl, fun _ _ ht _ => ht⟩
  · obtain ⟨t, ht, htk, -⟩ := h.registered _ i hreg
    have hended : ¬t.Outstanding := by
      intro hout
      obtain ⟨-, hcseq⟩ := hexp ⟨code, hcode, hfinal⟩ i hreg t ht hout
      exact hnone t (List.mem_of_getElem? ht) hout ⟨⟨code, hcode, hfinal⟩, htk.symm, hcseq⟩
    rw [heq, popAndComplete]
    constructor
    · refine List.ext_getElem? fun j => ?_
      rw [List.getElem?_map, List.getElem?_map, updateCall_getElem?, withClient_calls]
      split_ifs
      · rw [Option.map_map]
        exact congrArg (Option.map · _) (funext fun u => u.complete_phase msg)
      · rfl
    · intro j u hu hout
      have hij : i ≠ j := by
        rintro rfl
        exact hended (Option.some.inj (ht.symm.trans hu) ▸ hout)
      rw [updateCall_getElem?, if_neg hij, withClient_calls]
      exact hu

/-- A waiting call whose response does not come ends with `TimeoutError`. -/
theorem Consistent.times_out {s : Session} (h : Consistent s) {i : ℕ} {t : Call}
    (ht : s.calls[i]? = some t) (hphase : t.phase = .waiting) (hfuture : t.future = .pending) :
    ∃ s', runFrom step s [.expire i, .timeOut i] = some s' ∧
      ∃ t', s'.calls[i]? = some t' ∧ t'.phase = .raised t.timeoutError := by
  have hexpire : step s (.expire i) = some (s.updateCall i Call.expire) := by
    simp only [step, ht]
    exact if_pos ⟨hphase, hfuture⟩
  have hcons := consistent_step h (e := .expire i) trivial hexpire
  have ht' : (s.updateCall i Call.expire).calls[i]? = some t.expire := by
    rw [updateCall_getElem?, if_pos rfl, ht]
    rfl
  have htimeOut : step (s.updateCall i Call.expire) (.timeOut i) =
      some ((s.updateCall i Call.expire).timeOut i t.expire) := by
    simp only [step, ht']
    exact if_pos rfl
  refine ⟨(s.updateCall i Call.expire).timeOut i t.expire, ?_,
    t.expire.withPhase (.raised t.timeoutError), ?_, rfl⟩
  · rw [runFrom_cons, hexpire, Option.bind_some, runFrom_cons, htimeOut]
    rfl
  · rw [hcons.timeOut_eq ht' rfl, updateCall_getElem?, if_pos rfl, withClient_calls, ht']
    rfl

/-- **Matching of responses.**  Along a run in which no request is begun under the Call-ID of a call that
has not ended, every final response for such a Call-ID comes in time and carries the CSeq of the request
registered there, and no `transport.send` raises anything but `TimeoutError`: a call that returns, returns
a final response with the CSeq of its request; a call that raises, raises `TimeoutError`; a response that
no outstanding call matches completes none; and a call that waits in vain does raise `TimeoutError`. -/
theorem orderly_matching {c : SIPClient} {es : List ClientEvent} {s : Session}
    (hfresh : c.pendingResponses = Dict.empty) (horderly : Along step Orderly { client := c } es)
    (hrun : runFrom step { client := c } es = some s) :
    (∀ t ∈ s.calls, ∀ m, t.phase = .returned m → Final m ∧ m.cseq = t.request.cseq) ∧
      (∀ t ∈ s.calls, ∀ e, t.phase = .raised e → IsTimeout e) ∧
      Along step UnmatchedIgnored { client := c } es ∧
      ∀ i t, s.calls[i]? = some t → t.phase = .waiting → t.future = .pending →
        ∃ s', runFrom step s [.expire i, .timeOut i] = some s' ∧
          ∃ t', s'.calls[i]? = some t' ∧ t'.phase = .raised t.timeoutError := by
  have hcons := consistent_run hfresh horderly hrun
  refine ⟨fun t ht m => hcons.returned ht, fun t ht e => hcons.raised ht, ?_,
    fun i t ht => hcons.times_out ht⟩
  refine (along_iff_split step).mpr ?_
  rintro pre e post s₁ rfl hpre
  have hsplit := (along_iff_split step).mp horderly
  have hbefore : Along step Orderly { client := c } pre := horderly.beginning step ⟨e :: post, rfl⟩
  exact (consistent_run hfresh hbefore hpre).unmatchedIgnored (hsplit pre e post s₁ rfl hpre)

/-- The request `method` of the dialog `dlg`. -/
def dialogRequest (method : String) : ClientEvent :=
  .request {
    method := method.toList
    requestUri := "sip:b".toList
    toUri := "sip:b".toList
    fromUri := "sip:a".toList
    dest := ("pcscf".toList, 5060)
    callId := some "dlg".toList } ⟨[], [], []⟩

/-- A response in the dialog `dlg`. -/
def dialogResponse (code : ℤ) (cseq : String) : SIPMessage :=
  { statusCode := some code
    headers := Dict.ofList [("Call-ID".toList, "dlg".toList), ("CSeq".toList, cseq.toList)] }

/-- Three requests of one dialog: the first is answered after a provisional response, the answer comes
twice, the second waits in vain, and the connection for the third times out. -/
theorem orderly_matching_dialog :
    ∃ s, runFrom step {} [dialogRequest "INVITE", .sent 0, .receive (dialogResponse 180 "1 INVITE"),
        .receive (dialogResponse 200 "1 INVITE"), .resume 0, .receive (dialogResponse 200 "1 INVITE"),
        dialogRequest "BYE", .sent 1, .expire 1, .timeOut 1, dialogRequest "BYE",
        .unsent 2 (.timeoutError [])] = some s ∧
      (∀ t ∈ s.calls, ∀ m, t.phase = .returned m → Final m ∧ m.cseq = t.request.cseq) ∧
      ∀ t ∈ s.calls, ∀ e, t.phase = .raised e → IsTimeout e := by
  have hrun : (runFrom step {} [dialogRequest "INVITE", .sent 0,
      .receive (dialogResponse 180 "1 INVITE"), .receive (dialogResponse 200 "1 INVITE"), .resume 0,
      .receive (dialogResponse 200 "1 INVITE"), dialogRequest "BYE", .sent 1, .expire 1, .timeOut 1,
      dialogRequest "BYE", .unsent 2 (.timeoutError [])]).isSome := by
    decide +kernel
  obtain ⟨s, hs⟩ := Option.isSome_iff_exists.mp hrun
  have h := orderly_matching (c := {}) rfl (by decide +kernel) hs
  exact ⟨s, hs, h.1, h.2.1⟩

/-- Two requests of one dialog at the same time: the answer to the re-INVITE completes the BYE, and
the re-INVITE ends with `KeyError`. -/
theorem crossed_responses :
    ∃ s, runFrom step {} [dialogRequest "INVITE", .sent 0, dialogRequest "BYE", .sent 1,
        .receive (dialogResponse 200 "1 INVITE"), .resume 1, .expire 0, .timeOut 0] = some s ∧
      (s.calls.map fun t => (t.request.cseq, t.phase)) =
        [("1 INVITE".toList, .raised (.keyError "dlg".toList)),
          ("2 BYE".toList, .returned (dialogResponse 200 "1 INVITE"))] := by
  have hrun : (runFrom step {} [dialogRequest "INVITE", .sent 0, dialogRequest "BYE", .sent 1,
      .receive (dialogResponse 200 "1 INVITE"), .resume 1, .expire 0, .timeOut 0]).map
        (fun s => s.calls.map fun t => (t.request.cseq, t.phase)) =
      some [("1 INVITE".toList, .raised (.keyError "dlg".toList)),
        ("2 BYE".toList, .returned (dialogResponse 200 "1 INVITE"))] := by
    decide +kernel
  exact Option.map_eq_some_iff.mp hrun

end Session

end VirtualPhone
