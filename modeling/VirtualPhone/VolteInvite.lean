import VirtualPhone.VolteRequests
import VirtualPhone.VolteChanges
import VirtualPhone.VolteAnswer

/-! # The error path of `initiate_call`

An outgoing call whose INVITE is not answered with 200 runs in two segments: up to the wait for
the response, and from there to its end.  What anything else does in between, a BYE or a CANCEL
for the call, `hangup_call`, `stop`, or any other operation, is a run of the phone that does not
resume it.

The second segment removes the table entry with `del`.  `initiate_failure_iff` says when that goes
well: exactly when nobody has removed the entry before, and no late response has crossed the
time-out. -/

namespace VirtualPhone

open Runtime
open Coro (get modify raise attempt run_bind_wait run_bind_ok run_bind_error run_attempt_wait run_attempt_done)
open Async (onTimeout)

/-! ### `try: ... except TimeoutError: ...` -/

section

variable {α : Type} {body handler k : Async α} {w : Await} {s s' : Phone}

theorem onTimeout_wait (h : body.run s = (.wait w k, s')) (handler : Async α) :
    (onTimeout body handler).run s = (.wait w (onTimeout k handler), s') :=
  run_bind_wait (run_attempt_wait h) _

theorem onTimeout_timeout {m : Text} (h : body.run s = (.done (.error (.timeoutError m)), s'))
    (handler : Async α) : (onTimeout body handler).run s = handler.run s' :=
  run_bind_ok (run_attempt_done h) _

theorem onTimeout_keyError {key : Text} (h : body.run s = (.done (.error (.keyError key)), s'))
    (handler : Async α) :
    (onTimeout body handler).run s = (.done (.error (.keyError key)), s') :=
  run_bind_ok (run_attempt_done h) _

end

namespace VoLTECallManager

/-! ### The two segments -/

/-- The Call-ID of a call that is initiated now. -/
def inviteCallId (s : Phone) : Text := s.draw 0

/-- The number of its INVITE among the requests of the client. -/
def inviteRequest (s : Phone) : ℕ := ((s.sipClient.map (·.calls.length)).getD 0)

/-- `initiate_call` from the wait for the response on. -/
def awaitInvite (i ref radioCallIndex : ℕ) (callId : Text) : Async (Option Text) :=
  onTimeout
    (do
      let response ← receiveResponse i
      finishInvite ref radioCallIndex callId response)
    (do
      delCall callId
      return none)

/-- Other calls keep their data, their media among them, and their entries. -/
def OthersKept (ref : ℕ) (callId : Text) (s s' : Phone) : Prop :=
  (∀ r < s.callHeap.length, r ≠ ref → s'.callHeap[r]? = s.callHeap[r]?) ∧
    ∀ id, id ≠ callId → s'.calls.get? id = s.calls.get? id

/-- A manager that is started enters the call in the table and sends its INVITE. -/
theorem initiateCall_eq (number : Text) (radioCallIndex : ℕ) {s : Phone} (h : s.started = true) :
    ∃ args s' c, (initiateCall number radioCallIndex).run s =
        (onTimeout
          (do
            let response ← sendRequest args
            finishInvite s.callHeap.length radioCallIndex (inviteCallId s) response)
          (do
            delCall (inviteCallId s)
            return none)).run s' ∧
      s'.sipClient = s.sipClient ∧ s'.callHeap = s.callHeap ++ [c] ∧
      s'.calls = s.calls.set (inviteCallId s) s.callHeap.length := by
  have hif : (initiateCall number radioCallIndex).run s =
      (if s.started = false then (pure none : Async (Option Text)) else _).run s := rfl
  rw [if_neg (by simp [h])] at hif
  exact ⟨_, _, _, hif, rfl, rfl, rfl⟩

/-- The phone once a new call, `c`, is entered in the table. -/
structure Invited (s s' : Phone) (c : VoLTECall) : Prop where
  client : s'.sipClient = s.sipClient
  radioHal : s'.radioHal = s.radioHal
  radio : s'.radio = s.radio
  started : s'.started = s.started
  heap : s'.callHeap = s.callHeap ++ [c]
  calls : s'.calls = s.calls.set (inviteCallId s) s.callHeap.length
  sipCallId : c.sipCallId = inviteCallId s
  inviteRequest : c.history.inviteRequest = s.sipClient.map (·.calls.length)
  media : c.sessions = [] ∧ c.mediaSession = none

theorem initiateCall_meets {K : Contract Phone Await}
    {post : Phone → Except PyError (Option Text) → Phone → Prop} {s₀ s : Phone} (number : Text)
    (radioCallIndex : ℕ) (hstarted : s.started = true)
    (h : ∀ args s' c, Invited s s' c → c.state = .initiating ∧ c.radioCallIndex = radioCallIndex →
      (onTimeout
        (do
          let response ← sendRequest args
          finishInvite s.callHeap.length radioCallIndex (inviteCallId s) response)
        (do
          delCall (inviteCallId s)
          return none)).Meets K post s₀ s') :
    (initiateCall number radioCallIndex).Meets K post s₀ s := by
  show (if s.started = false then (pure none : Async (Option Text)) else _).Meets K post s₀ s
  rw [if_neg (by simp [hstarted])]
  exact h _ _ _ ⟨rfl, rfl, rfl, rfl, rfl, rfl, rfl, rfl, rfl, rfl⟩ ⟨rfl, rfl⟩

/-- The first segment: a manager that is not started refuses; otherwise the call is entered in the
table, under a number of its own, and waits for the response to its INVITE. -/
theorem initiateCall_run (number : Text) (radioCallIndex : ℕ) (s : Phone) :
    (s.started = false ∧ (initiateCall number radioCallIndex).run s = (.done (.ok none), s)) ∨
    (s.started = true ∧ s.sipClient = none ∧
      ∃ s', (initiateCall number radioCallIndex).run s = (.done (.error .attributeError), s')) ∨
    ∃ s', (initiateCall number radioCallIndex).run s =
        (.wait (.response (inviteRequest s))
          (awaitInvite (inviteRequest s) s.callHeap.length radioCallIndex (inviteCallId s)), s') ∧
      OthersKept s.callHeap.length (inviteCallId s) s s' := by
  cases hstarted : s.started with
  | false =>
      refine Or.inl ⟨rfl, ?_⟩
      unfold initiateCall
      rw [Coro.run_get_bind, if_pos hstarted]
      rfl
  | true =>
      obtain ⟨args, s₁, c, hrun, hclient, hheap, hcalls⟩ :=
        initiateCall_eq number radioCallIndex hstarted
      rw [hrun]
      cases hsip : s.sipClient with
      | none =>
          refine Or.inr (Or.inl ⟨rfl, rfl, s₁, ?_⟩)
          have herror : (sendRequest args).run s₁ = (.done (.error .attributeError), s₁) :=
            sendRequest_eq_error (hclient.trans hsip)
          have hbody := run_bind_error herror
            (finishInvite s.callHeap.length radioCallIndex (inviteCallId s))
          exact (run_bind_ok (run_attempt_done hbody) _).trans rfl
      | some client =>
          have hi : inviteRequest s = client.calls.length := by
            rw [inviteRequest, hsip]
            rfl
          refine Or.inr (Or.inr ⟨s₁.beginRequest args, ?_, ?_, ?_⟩)
          · rw [hi]
            exact onTimeout_wait (run_bind_wait (sendRequest_eq (hclient.trans hsip)) _) _
          · intro r hr _
            rw [beginRequest_callHeap, hheap, List.getElem?_append_left hr]
          · intro id hid
            rw [beginRequest_calls, hcalls, Dict.get?_set_ne _ _ hid]

/-- The second segment, when the INVITE is not answered with 200: the entry goes, or `KeyError` is
raised, for the entry or for the request. -/
theorem awaitInvite_run {i : ℕ} {s : Phone} (hready : s.ready (.response i) = true)
    (hfail : ∀ msg ∈ s.response? i, msg.statusCode ≠ some 200) (ref radioCallIndex : ℕ)
    (callId : Text) :
    ∃ r s', (awaitInvite i ref radioCallIndex callId).run s = (.done r, s') ∧
      s'.callHeap = s.callHeap ∧
      ((callId ∈ s.calls.keys ∧ ¬s.Crossed i ∧ r = .ok none ∧ s'.calls = s.calls.erase callId) ∨
        (¬(callId ∈ s.calls.keys ∧ ¬s.Crossed i) ∧ (∃ key, r = .error (.keyError key)) ∧
          s'.calls = s.calls)) := by
  obtain ⟨r, e, hrun, hreceived⟩ := receiveResponse_run hready
  have hdel : ∃ r' s', (delCall callId >>= fun _ => (pure none : Async (Option Text))).run
        (s.modifyClient (Session.perform e)) = (.done r', s') ∧ s'.callHeap = s.callHeap ∧
      ((callId ∈ s.calls.keys ∧ r' = .ok none ∧ s'.calls = s.calls.erase callId) ∨
        (callId ∉ s.calls.keys ∧ r' = .error (.keyError callId) ∧ s'.calls = s.calls)) := by
    by_cases hmem : callId ∈ s.calls.keys
    · refine ⟨.ok none, (s.modifyClient (Session.perform e)).delCall callId, ?_, rfl, Or.inl ⟨hmem, rfl, rfl⟩⟩
      refine run_bind_ok (a := ()) ?_ _
      unfold delCall
      rw [Coro.run_get_bind, if_pos (show callId ∈ (s.modifyClient (Session.perform e)).calls.keys from hmem)]
      rfl
    · refine ⟨.error (.keyError callId), s.modifyClient (Session.perform e), ?_, rfl, Or.inr ⟨hmem, rfl, rfl⟩⟩
      refine run_bind_error ?_ _
      unfold delCall
      rw [Coro.run_get_bind, if_neg (show callId ∉ (s.modifyClient (Session.perform e)).calls.keys from hmem)]
      rfl
  obtain ⟨r', s', hdelRun, hheap, hdel⟩ := hdel
  cases hreceived with
  | @response msg hmsg =>
      have hnot : ¬s.Crossed i := by
        rintro ⟨client, hclient, t, ht, hphase, -⟩
        rw [Phone.response?, Option.mem_def.mp hclient, Option.bind_some, Session.response?,
          Option.mem_def.mp ht] at hmsg
        simp [hphase] at hmsg
      have hfinish : (awaitInvite i ref radioCallIndex callId).run s = (.done r', s') := by
        have hbody : (receiveResponse i >>= finishInvite ref radioCallIndex callId).run s =
            (.done r', s') := by
          rw [run_bind_ok hrun]
          unfold finishInvite
          rw [if_neg (hfail msg hmsg)]
          exact hdelRun
        refine (run_bind_ok (run_attempt_done hbody) _).trans ?_
        rcases hdel with ⟨-, rfl, -⟩ | ⟨-, rfl, -⟩
        · rfl
        · rfl
      refine ⟨r', s', hfinish, hheap, ?_⟩
      rcases hdel with ⟨hmem, hr, hcalls⟩ | ⟨hmem, hr, hcalls⟩
      · exact Or.inl ⟨hmem, hnot, hr, hcalls⟩
      · exact Or.inr ⟨fun h => hmem h.1, ⟨callId, hr⟩, hcalls⟩
  | timedOut m _ hnot =>
      have hfinish : (awaitInvite i ref radioCallIndex callId).run s = (.done r', s') :=
        (onTimeout_timeout (run_bind_error hrun _) _).trans hdelRun
      refine ⟨r', s', hfinish, hheap, ?_⟩
      rcases hdel with ⟨hmem, hr, hcalls⟩ | ⟨hmem, hr, hcalls⟩
      · exact Or.inl ⟨hmem, hnot, hr, hcalls⟩
      · exact Or.inr ⟨fun h => hmem h.1, ⟨callId, hr⟩, hcalls⟩
  | crossed cid _ hcrossed =>
      refine ⟨.error (.keyError cid), s.modifyClient (Session.perform e), onTimeout_keyError (run_bind_error hrun _) _,
        rfl, Or.inr ⟨fun h => h.2 hcrossed, ⟨cid, rfl⟩, rfl⟩⟩

end VoLTECallManager

/-! ### Runs -/

open VoLTECallManager

/-- `initiate_call`, the method started on `p`, has returned None, and no entry for its Call-ID
remains. -/
def FailedCleanly (p p' : PhonePool) : Prop :=
  p'.tasks[p.tasks.length]? = some (.done (.ok (.callId none))) ∧
    p'.state.calls.get? (inviteCallId p.state) = none

theorem PhonePool.getElem?_of_run {n : ℕ} {c : Async OperationResult} {es : List PhoneEvent}
    {p p' : PhonePool} (hr : runFrom PhonePool.step p es = some p') (hes : .resume n ∉ es)
    (hc : p.tasks[n]? = some c) : p'.tasks[n]? = some c := by
  refine runFrom_invariant PhonePool.step (P := fun _ e => e ≠ .resume n)
    (I := fun p => p.tasks[n]? = some c) ?_ hc ?_ hr
  · intro p e p' hc he h
    exact EventLoop.step_getElem? he (PhonePool.step_eq h) hc
  · have hne : ∀ e ∈ es, e ≠ PoolEvent.resume n := by
      rintro e he rfl
      exact hes he
    exact Along.of_mem PhonePool.step hne p

theorem PhonePool.done_of_run {n : ℕ} {r : Except PyError OperationResult} {es : List PhoneEvent}
    {p p' : PhonePool} (hr : runFrom PhonePool.step p es = some p')
    (hc : p.tasks[n]? = some (.done r)) : p'.tasks[n]? = some (.done r) := by
  refine runFrom_invariant PhonePool.step (P := fun _ _ => True)
    (I := fun p => p.tasks[n]? = some (.done r)) ?_ hc (Along.of_forall _ (fun _ _ => trivial) p es) hr
  intro p e p' hc _ h
  exact EventLoop.step_done (PhonePool.step_eq h) hc

/-- **The error path of `initiate_call`.**  A call is initiated on any phone `p`, and the phone runs
on, whatever happens in `es` while the INVITE is under way.

A manager that is not started returns None at once and changes nothing; one that is started waits.
When the method is resumed and the INVITE has not been answered with 200, it returns None without
an entry left behind exactly when its entry is still in the table and no late response has crossed
the time-out.  Neither of its two segments touches another call, and its result stays. -/
theorem initiate_failure_iff {p p' : PhonePool} {number : Text} {radioCallIndex : ℕ}
    (hspawn : p.step (.spawn (.initiateCall number radioCallIndex)) = some p') :
    (p.state.started = false →
      p'.tasks[p.tasks.length]? = some (.done (.ok (.callId none))) ∧ p'.state = p.state) ∧
    (p.state.started = true → p.state.sipClient.isSome →
      ∃ k, p'.tasks[p.tasks.length]? = some (.wait (.response (inviteRequest p.state)) k) ∧
        OthersKept p.state.callHeap.length (inviteCallId p.state) p.state p'.state) ∧
    ∀ (es : List PhoneEvent) (p₁ p₂ : PhonePool), runFrom PhonePool.step p' es = some p₁ →
      .resume p.tasks.length ∉ es → p₁.step (.resume p.tasks.length) = some p₂ →
      (∀ msg ∈ p₁.state.response? (inviteRequest p.state), msg.statusCode ≠ some 200) →
      (FailedCleanly p p₂ ↔ inviteCallId p.state ∈ p₁.state.calls.keys ∧
        ¬p₁.state.Crossed (inviteRequest p.state)) ∧
      OthersKept p.state.callHeap.length (inviteCallId p.state) p₁.state p₂.state ∧
      ∀ (es' : List PhoneEvent) (p₃ : PhonePool), runFrom PhonePool.step p₂ es' = some p₃ →
        p₃.tasks[p.tasks.length]? = p₂.tasks[p.tasks.length]? := by
  obtain ⟨hstate, htasks⟩ := EventLoop.step_spawn (PhonePool.step_eq hspawn)
  have hmain : phoneLoop.main (.initiateCall number radioCallIndex) =
      (initiateCall number radioCallIndex >>= fun id => (pure (.callId id) : Async OperationResult)) :=
    rfl
  have hnew : p'.tasks[p.tasks.length]? = some ((initiateCall number radioCallIndex >>= fun id =>
      (pure (.callId id) : Async OperationResult)).run p.state).1 := by
    rw [htasks, List.getElem?_concat_length, hmain]
  rw [hmain] at hstate
  have hended : ∀ {r s} (es : List PhoneEvent) (p₁ p₂ : PhonePool),
      ((initiateCall number radioCallIndex >>= fun id =>
        (pure (.callId id) : Async OperationResult)).run p.state) = (.done r, s) →
      runFrom PhonePool.step p' es = some p₁ →
      p₁.step (.resume p.tasks.length) = some p₂ → False := by
    intro r s es p₁ p₂ hdone hr hres
    rw [hdone] at hnew
    obtain ⟨w, k, htask, -⟩ := EventLoop.step_resume (PhonePool.step_eq hres)
    rw [PhonePool.done_of_run hr hnew] at htask
    cases htask
  rcases initiateCall_run number radioCallIndex p.state with
    ⟨hstarted, hrun⟩ | ⟨hstarted, hclient, s', hrun⟩ | ⟨s', hrun, hothers⟩
  · have hdone := run_bind_ok hrun fun id => (pure (.callId id) : Async OperationResult)
    refine ⟨fun _ => ⟨?_, ?_⟩, fun h => absurd (hstarted.symm.trans h) (by decide), ?_⟩
    · rw [hnew, hdone]
      rfl
    · rw [hstate, hdone]
      rfl
    · exact fun es p₁ p₂ hr _ hres => (hended es p₁ p₂ (hdone.trans rfl) hr hres).elim
  · have hdone := run_bind_error hrun fun id => (pure (.callId id) : Async OperationResult)
    refine ⟨fun h => absurd (hstarted.symm.trans h) (by decide), fun _ h => ?_, ?_⟩
    · rw [hclient] at h
      cases h
    · exact fun es p₁ p₂ hr _ hres => (hended es p₁ p₂ hdone hr hres).elim
  · have hwait := run_bind_wait hrun fun id => (pure (.callId id) : Async OperationResult)
    rw [hwait] at hnew hstate
    refine ⟨fun h => ?_, fun _ _ => ⟨_, hnew, hstate ▸ hothers⟩, ?_⟩
    · exfalso
      have hrefused : (initiateCall number radioCallIndex).run p.state = (.done (.ok none), p.state) := by
        unfold initiateCall
        rw [Coro.run_get_bind, if_pos h]
        rfl
      rw [hrefused] at hrun
      cases hrun
    · intro es p₁ p₂ hr hes hres hfail
      have htask := PhonePool.getElem?_of_run hr hes hnew
      obtain ⟨w, k, htask', hready, hstate₂, htasks₂⟩ :=
        EventLoop.step_resume (PhonePool.step_eq hres)
      obtain ⟨rfl, rfl⟩ : Await.response (inviteRequest p.state) = w ∧ _ = k := by
        simpa using htask.symm.trans htask'
      obtain ⟨r, s₂, hrun₂, hheap, hcases⟩ := awaitInvite_run hready hfail p.state.callHeap.length
        radioCallIndex (inviteCallId p.state)
      have hlt := (List.getElem?_eq_some_iff.mp htask).1
      have hothers₂ : OthersKept p.state.callHeap.length (inviteCallId p.state) p₁.state s₂ := by
        refine ⟨fun r _ _ => by rw [hheap], fun id hid => ?_⟩
        rcases hcases with ⟨-, -, -, hcalls⟩ | ⟨-, -, hcalls⟩
        · rw [hcalls, Dict.get?_erase_ne _ hid]
        · rw [hcalls]
      rcases hcases with ⟨hmem, hnot, rfl, hcalls⟩ | ⟨hno, ⟨key, rfl⟩, hcalls⟩
      · have hend := run_bind_ok hrun₂ fun id => (pure (.callId id) : Async OperationResult)
        have hend := hend.trans (show (pure (.callId none) : Async OperationResult).run s₂ =
          (.done (.ok (.callId none)), s₂) from rfl)
        rw [hend] at hstate₂ htasks₂
        have hdone : p₂.tasks[p.tasks.length]? = some (.done (.ok (.callId none))) := by
          rw [htasks₂, List.getElem?_set_self hlt]
        refine ⟨⟨fun _ => ⟨hmem, hnot⟩, fun _ => ⟨hdone, ?_⟩⟩, hstate₂ ▸ hothers₂, ?_⟩
        · rw [hstate₂, hcalls, Dict.get?_erase_self]
        · intro es' p₃ hr'
          rw [PhonePool.done_of_run hr' hdone, hdone]
      · have hend := run_bind_error hrun₂ fun id => (pure (.callId id) : Async OperationResult)
        rw [hend] at hstate₂ htasks₂
        have hdone : p₂.tasks[p.tasks.length]? = some (.done (.error (.keyError key))) := by
          rw [htasks₂, List.getElem?_set_self hlt]
        refine ⟨⟨fun hclean => ?_, fun h => absurd h hno⟩, hstate₂ ▸ hothers₂, ?_⟩
        · have hsame := hdone.symm.trans hclean.1
          cases hsame
        · intro es' p₃ hr'
          rw [PhonePool.done_of_run hr' hdone, hdone]

/-- A message with the Call-ID of the first call that the test phone initiates. -/
def testMessage (method : Option String) (statusCode : Option ℤ) : Operation :=
  .incoming
    { method := method.map String.toList
      statusCode := statusCode
      headers := Dict.ofList [("Call-ID".toList, "0".toList)] }
    ("pcscf".toList, 5060)

/-- The test phone with its manager started. -/
def startedPhone : PhonePool := (testPhone.step (.spawn .start)).getD testPhone

/-- A call is initiated. -/
def invitedPhone : PhonePool :=
  (startedPhone.step (.spawn (.initiateCall "1".toList 1))).getD startedPhone

/-- The other side is busy. -/
def busyPhone : PhonePool :=
  (runFrom PhonePool.step invitedPhone [.spawn (testMessage none (some 486))]).getD invitedPhone

/-- A busy signal, and nothing else: the method returns None. -/
theorem initiate_failure_busy :
    (∃ p₂, busyPhone.step (.resume 1) = some p₂ ∧ FailedCleanly startedPhone p₂) := by
  have hget : ∀ (o : Option PhonePool) (d : PhonePool), o.isSome = true → o = some (o.getD d) :=
    fun o d ho => (Option.getD_of_ne_none (Option.isSome_iff_ne_none.mp ho) d).symm
  have hspawn : startedPhone.step (.spawn (.initiateCall "1".toList 1)) = some invitedPhone :=
    hget _ _ (by decide +kernel)
  have hrun : runFrom PhonePool.step invitedPhone [.spawn (testMessage none (some 486))] =
      some busyPhone := hget _ _ (by decide +kernel)
  have hres : busyPhone.step (.resume 1) = some ((busyPhone.step (.resume 1)).getD busyPhone) :=
    hget _ _ (by decide +kernel)
  have hfail : ∀ msg ∈ busyPhone.state.response? (inviteRequest startedPhone.state),
      msg.statusCode ≠ some 200 := by
    decide +kernel
  exact ⟨_, hres, ((initiate_failure_iff hspawn).2.2 _ _ _ hrun (by decide +kernel) hres hfail).1.mpr
    (by decide +kernel)⟩

/-- What coroutine `n` has ended with. -/
def PhonePool.result (p : PhonePool) (n : ℕ) : Option (Except PyError OperationResult) :=
  match p.tasks[n]? with
  | some (.done r) => some r
  | _ => none

theorem PhonePool.tasks_of_result {p : PhonePool} {n : ℕ} {r : Except PyError OperationResult}
    (h : p.result n = some r) : p.tasks[n]? = some (.done r) := by
  unfold result at h
  split at h
  · next r' hr' => rw [hr', Option.some.inj h]
  · cases h

/-- The other side hangs up while the phone still waits, and then signals busy: `initiate_call`
raises `KeyError`. -/
theorem initiate_failure_raises :
    (runFrom PhonePool.step testPhone
      [.spawn .start, .spawn (.initiateCall "1".toList 1), .spawn (testMessage (some "BYE") none),
        .spawn (testMessage none (some 486)), .resume 1]).bind (·.result 1) =
      some (.error (.keyError "0".toList)) := by
  decide +kernel

end VirtualPhone
