import VirtualPhone.VolteTransfers

/-! # CANCELs that come late

A CANCEL ends an INVITE that has no final response yet; one that crosses the 200 OK comes too late and
changes nothing.  `_handle_incoming_cancel` has the words *remote party cancels before answer*, but it
does not ask whether the call is answered: whatever call the table has under the Call-ID goes
(`late_cancel_iff`). -/

namespace VirtualPhone

open Runtime
open Async (when whenSome)

/-- The message is a CANCEL. -/
def SIPMessage.IsCancel (msg : SIPMessage) : Prop :=
  msg.statusCode = none ∧ msg.method = some "CANCEL".toList

instance (msg : SIPMessage) : Decidable msg.IsCancel := inferInstanceAs (Decidable (_ ∧ _))

/-- A CANCEL comes in for call `ref`, which the table has under `callId`. -/
def Cancels (callId : Text) (ref : ℕ) (p : PhonePool) (e : PhoneEvent) : Prop :=
  ∃ msg ∈ incomingMessage e, msg.IsCancel ∧ msg.callId = callId ∧ p.state.calls.get? callId = some ref

/-- Call `ref` is left in the table, with its state and its media, and its voice calls are left in the
list. -/
structure LeftAlone (callId : Text) (ref : ℕ) (s s' : Phone) : Prop where
  table : s'.calls.get? callId = some ref
  state : (s'.call ref).state = (s.call ref).state
  media : (s'.call ref).mediaSession = (s.call ref).mediaSession ∧
    (s'.call ref).sessions = (s.call ref).sessions
  voices : ∀ v ∈ s.radio.voiceCalls, (s.radio.voice v).sipCallId = callId → v ∈ s'.radio.voiceCalls

/-- The event, if it is a CANCEL for the call, leaves it alone. -/
def CancelHarmless (callId : Text) (ref : ℕ) (p : PhonePool) (e : PhoneEvent) : Prop :=
  Cancels callId ref p e → ∀ p', p.step e = some p' → LeftAlone callId ref p.state p'.state

open VoLTECallManager

/-- The handler of a BYE or a CANCEL takes the call out of the table before it waits for anything. -/
theorem takeDown_run_calls {msg : SIPMessage} {s : Phone} {ref : ℕ} (addr : Text × ℕ)
    (h : s.calls.get? msg.callId = some ref) :
    ((takeDown msg addr).run s).2.calls = s.calls.erase msg.callId := by
  have hrest : KeepsTable (do
      stopMedia ref
      sendIfClient (response msg 200 "OK" msg.callId [] []) addr
      when (some ref).isSome (dropVoice msg.callId)) := by
    refine (stopMedia_table ref).bind fun _ => KeepsTable.bind (fun s => ?_) fun _ s => ?_
    · change (if s.sipClient.isSome then s.send _ addr else s).calls = s.calls
      split_ifs <;> rfl
    · change ((dropVoice msg.callId).run s).2.calls = s.calls
      unfold dropVoice Async.when
      rw [Coro.run_get_bind]
      split
      · rfl
      · rfl
  unfold takeDown
  rw [Coro.run_get_bind]
  simp only [h]
  exact hrest (s.popCall msg.callId ref)

theorem PhonePool.step_cancel {p p' : PhonePool} {msg : SIPMessage} {addr : Text × ℕ} {ref : ℕ}
    (hcancel : msg.IsCancel) (href : p.state.calls.get? msg.callId = some ref)
    (h : p.step (.spawn (.incoming msg addr)) = some p') :
    p'.state.calls = p.state.calls.erase msg.callId := by
  have hsip : handleIncomingSip msg addr = takeDown msg addr := by
    unfold handleIncomingSip handleIncomingCancel
    rw [hcancel.1, hcancel.2]
    rfl
  have hrun : (Operation.incoming msg addr).run.run p.state =
      (takeDown msg addr >>= fun _ => pure OperationResult.none).run p.state := by
    rw [← hsip]
    rfl
  rw [PhonePool.step_spawn h, hrun, Coro.run_bind_state fun _ _ => rfl, takeDown_run_calls addr href]

theorem cancelHarmless_iff (callId : Text) (ref : ℕ) (p : PhonePool) (e : PhoneEvent) :
    CancelHarmless callId ref p e ↔ ¬Cancels callId ref p e := by
  refine ⟨fun h hcancels => ?_, fun h hcancels => absurd hcancels h⟩
  have hall := h hcancels
  obtain ⟨msg, hmsg, hcancel, rfl, href⟩ := hcancels
  obtain ⟨addr, rfl⟩ := eq_incoming hmsg
  obtain ⟨p', hp'⟩ : ∃ p', p.step (.spawn (.incoming msg addr)) = some p' := ⟨_, rfl⟩
  have hcalls := PhonePool.step_cancel hcancel href hp'
  have htable := (hall p' hp').table
  rw [hcalls, Dict.get?_erase_self] at htable
  cases htable

/-- **Late CANCELs.**  In a run of the phone, from any state on, every CANCEL for a call that the table
has leaves the call alone exactly when no such CANCEL comes in. -/
theorem late_cancel_iff (callId : Text) (ref : ℕ) (p : PhonePool) (es : List PhoneEvent) :
    Along PhonePool.step (CancelHarmless callId ref) p es ↔
      Along PhonePool.step (fun p e => ¬Cancels callId ref p e) p es :=
  ⟨Along.mono _ fun p e => (cancelHarmless_iff callId ref p e).mp,
    Along.mono _ fun p e => (cancelHarmless_iff callId ref p e).mpr⟩

/-- A call comes in and `answer_call` takes it. -/
def takenRun : List PhoneEvent :=
  [.spawn .start, .spawn (testInvite "c=IN IP4 10.0.0.1\r\nm=audio 4000 RTP/AVP 96"), .resume 1, .resume 1,
    .spawn (.answerCall "c".toList), .resume 2, .resume 2]

/-- The CANCEL that crossed the answer. -/
def lateCancelMessage : SIPMessage :=
  { method := some "CANCEL".toList
    headers := Dict.ofList [("Call-ID".toList, "c".toList)] }

def lateCancel : Operation :=
  .incoming lateCancelMessage ("pcscf".toList, 5060)

/-- The answered call is gone from the table. -/
theorem late_cancel_drops : ∃ p, runFrom PhonePool.step testPhone takenRun = some p ∧
    p.result 2 = some (.ok (.bool true)) ∧ p.state.calls.get? "c".toList = some 0 ∧
    (p.state.call 0).state = .active ∧
    ∃ p', p.step (.spawn lateCancel) = some p' ∧ p'.state.calls.get? "c".toList = none ∧
      ¬CancelHarmless "c".toList 0 p (.spawn lateCancel) := by
  obtain ⟨p, hr, hresult, hlisted, hactive⟩ : ∃ p, runFrom PhonePool.step testPhone takenRun = some p ∧
      p.result 2 = some (.ok (.bool true)) ∧ p.state.calls.get? "c".toList = some 0 ∧
      (p.state.call 0).state = .active := exists_run PhonePool.step (by decide +kernel)
  obtain ⟨p', hp'⟩ : ∃ p', p.step (.spawn lateCancel) = some p' := ⟨_, rfl⟩
  refine ⟨p, hr, hresult, hlisted, hactive, p', hp', ?_, fun h => ?_⟩
  · have hcancel : lateCancelMessage.IsCancel := by decide
    rw [PhonePool.step_cancel hcancel hlisted hp']
    exact Dict.get?_erase_self _ _
  · exact (cancelHarmless_iff _ _ _ _).mp h ⟨_, rfl, by decide, by decide, hlisted⟩

end VirtualPhone
