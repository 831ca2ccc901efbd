import VirtualPhone.VolteMethods
import VirtualPhone.Runtime.Contract

/-! # The RTP ports of the calls

`_allocate_rtp_port` goes up by two from `rtp_port_base`, once for each call that is initiated or
received, and never comes back.  No method is suspended between the allocation and the entry of the
call, so at every suspension the calls made so far have the ports from the base on, in the order they
were made (`ports_of_run`).  No two of them share one; but after enough calls, however few are live
at a time, the ports are above 65534 (`rtp_ports_iff`). -/

namespace VirtualPhone

open Runtime
open Coro (get modify attempt)
open Async (when whenSome ignore onTimeout)

/-! ### Ports and offers -/

/-- The RTP port of a call, and the SDP with it. -/
def VoLTECall.offer (c : VoLTECall) : ℕ × Text := (c.rtpPort, c.localSdp)

/-- A port, and the SDP a new call has with it. -/
def VoLTEConfig.offer (cfg : VoLTEConfig) (port : ℕ) : ℕ × Text :=
  (port, buildSdpOffer cfg.mediaIp port cfg.codecPriority .sendrecv)

/-- The calls keep their ports and their SDPs, and new calls have the next ports. -/
def PortsGrow (s s' : Phone) : Prop :=
  s'.config = s.config ∧ ∃ k, s'.rtpPortNext = s.rtpPortNext + 2 * k ∧
    s'.callHeap.map VoLTECall.offer =
      s.callHeap.map VoLTECall.offer ++ (List.range' s.rtpPortNext k 2).map s.config.offer

namespace PortsGrow

theorem of_eq {s s' : Phone} (hconfig : s'.config = s.config) (hnext : s'.rtpPortNext = s.rtpPortNext)
    (hheap : s'.callHeap.map VoLTECall.offer = s.callHeap.map VoLTECall.offer) : PortsGrow s s' :=
  ⟨hconfig, 0, hnext, by rw [hheap]; simp⟩

theorem refl (s : Phone) : PortsGrow s s := of_eq rfl rfl rfl

theorem trans {a b c : Phone} (h : PortsGrow a b) (h' : PortsGrow b c) : PortsGrow a c := by
  obtain ⟨hconfig, k, hnext, hheap⟩ := h
  obtain ⟨hconfig', k', hnext', hheap'⟩ := h'
  refine ⟨hconfig'.trans hconfig, k + k', by omega, ?_⟩
  rw [hheap', hheap, hconfig, hnext, List.append_assoc, ← List.map_append, List.range'_append]

theorem newCall {s s' : Phone} {c : VoLTECall} (hconfig : s'.config = s.config)
    (hnext : s'.rtpPortNext = s.rtpPortNext + 2) (hheap : s'.callHeap = s.callHeap)
    (hc : c.offer = s.config.offer s.rtpPortNext) : PortsGrow s (s'.newCall c) := by
  refine ⟨hconfig, 1, hnext, ?_⟩
  change (s'.callHeap ++ [c]).map VoLTECall.offer = _
  rw [hheap, List.map_append, List.range'_one]
  simp only [List.map_cons, List.map_nil, hc]

end PortsGrow

theorem modifyCall_offers (ref : ℕ) {f : VoLTECall → VoLTECall} (hf : ∀ c, (f c).offer = c.offer)
    (s : Phone) : (s.modifyCall ref f).callHeap.map VoLTECall.offer = s.callHeap.map VoLTECall.offer := by
  apply List.ext_getElem?
  intro i
  rw [Phone.modifyCall_callHeap, List.getElem?_map, List.getElem?_map, List.getElem?_modify]
  cases s.callHeap[i]? with
  | none => rfl
  | some c =>
      refine congrArg some ?_
      dsimp only
      split_ifs
      · exact hf c
      · rfl

/-! ### Statements -/

/-- Between its suspensions the method gives new calls the next ports. -/
def KeepsPorts {α : Type} (body : Async α) : Prop := Coro.Within PortsGrow body

namespace KeepsPorts

variable {α β : Type}

theorem done (r : Except PyError α) : KeepsPorts (Coro.done r : Async α) := Coro.Within.done r

theorem get_bind {f : Phone → Async β} (hf : ∀ s, KeepsPorts (f s)) : KeepsPorts (Coro.get >>= f) :=
  Coro.Within.get_bind hf

theorem bind {body : Async α} {f : α → Async β} (h : KeepsPorts body) (hf : ∀ a, KeepsPorts (f a)) :
    KeepsPorts (body >>= f) := Coro.Within.bind h hf

theorem attempt {body : Async α} (h : KeepsPorts body) : KeepsPorts body.attempt := Coro.Within.attempt h

theorem modify {f : Phone → Phone} (h : ∀ s, PortsGrow s (f s)) : KeepsPorts (Coro.modify f) :=
  Coro.Within.modify fun _ s h₀ => h₀.trans (h s)

theorem await (w : Await) : KeepsPorts (Coro.await w) := Coro.Within.await PortsGrow.refl w

theorem modifyRadio (f : RadioHAL → RadioHAL) : KeepsPorts (VirtualPhone.modifyRadio f) :=
  modify fun _ => .of_eq rfl rfl rfl

theorem modifyCall {ref : ℕ} {f : VoLTECall → VoLTECall} (hf : ∀ c, (f c).offer = c.offer) :
    KeepsPorts (VirtualPhone.modifyCall ref f) := by
  exact modify fun s => .of_eq rfl rfl (modifyCall_offers ref hf s)

theorem when {c : Prop} [Decidable c] {body : Async Unit} (h : KeepsPorts body) :
    KeepsPorts (Async.when c body) := by
  unfold Async.when
  split_ifs
  · exact h
  · exact .done _

theorem whenSome {o : Option α} {body : α → Async Unit} (h : ∀ a, KeepsPorts (body a)) :
    KeepsPorts (Async.whenSome o body) := by
  unfold Async.whenSome
  split
  · exact h _
  · exact .done _

theorem ignore {body : Async α} (h : KeepsPorts body) : KeepsPorts (Async.ignore body) :=
  h.bind fun _ => .done _

theorem onTimeout {body handler : Async α} (h : KeepsPorts body) (hhandler : KeepsPorts handler) :
    KeepsPorts (Async.onTimeout body handler) := by
  refine h.attempt.bind fun r => ?_
  split
  · exact .done _
  · exact hhandler
  · exact .done _

end KeepsPorts

/-! ### Requests, the radio and media -/

theorem sendIfClient_ports (msg : SIPMessage) (addr : Text × ℕ) : KeepsPorts (sendIfClient msg addr) := by
  refine .modify fun s => ?_
  split_ifs
  · exact .of_eq rfl rfl rfl
  · exact .refl s

theorem sendInviteOk_ports (ref : ℕ) (msg : SIPMessage) (callId : Text) (addr : Text × ℕ) :
    KeepsPorts (sendInviteOk ref msg callId addr) := by
  refine .modify fun s => ?_
  split_ifs
  · have hoffers := modifyCall_offers ref (f := VoLTECall.record fun h => { h with okSent := true })
      (fun _ => rfl) s
    exact .of_eq rfl rfl hoffers
  · exact .refl s

theorem sendAck_ports (ref : ℕ) : KeepsPorts (sendAck ref) := .modify fun _ => .of_eq rfl rfl rfl

theorem beginRequest_grows (args : RequestArgs) (s : Phone) : PortsGrow s (s.beginRequest args) := by
  unfold Phone.beginRequest
  split
  · exact .refl s
  · exact .of_eq rfl rfl rfl

theorem modifyClient_ports (f : Session → Session) : KeepsPorts (modify (Phone.modifyClient f)) :=
  .modify fun _ => .of_eq rfl rfl rfl

theorem sendRequest_ports (args : RequestArgs) : KeepsPorts (sendRequest args) := by
  refine .get_bind fun s => ?_
  split
  · exact .done _
  · refine .bind (.modify (beginRequest_grows args)) fun _ => ?_
    refine .bind (.await _) fun _ => .get_bind fun s => ?_
    split
    · exact (modifyClient_ports _).bind fun _ => .done _
    · refine (modifyClient_ports _).bind fun _ => .get_bind fun s => ?_
      split <;> exact .done _

theorem sendDialogRequest_ports (ref : ℕ) (method : String) (headers : List (Text × Text)) (body : Bytes) :
    KeepsPorts (sendDialogRequest ref method headers body) :=
  .get_bind fun _ => sendRequest_ports _

namespace RadioHAL

theorem sendIndication_ports (indication : ℕ) : KeepsPorts (sendIndication indication) :=
  (KeepsPorts.modifyRadio _).bind fun _ => .await _

theorem removeVoice_ports (v : ℕ) : KeepsPorts (removeVoice v) :=
  .get_bind fun _ => .bind (.done _) fun _ => .modifyRadio _

theorem updateCallState_ports (callIndex : ℕ) (state : CallState) :
    KeepsPorts (updateCallState callIndex state) := by
  refine .get_bind fun s => ?_
  split
  · exact (KeepsPorts.modifyRadio _).bind fun _ => sendIndication_ports _
  · exact .done _

end RadioHAL

theorem updateRadio_ports (ref : ℕ) (state : CallState) : KeepsPorts (updateRadio ref state) :=
  .get_bind fun _ => .when (RadioHAL.updateCallState_ports _ _)

theorem dropVoice_ports (callId : Text) : KeepsPorts (dropVoice callId) :=
  .get_bind fun _ => .when ((KeepsPorts.modifyRadio _).bind fun _ => RadioHAL.sendIndication_ports _)

theorem MediaSession.start_ports (ref m localPort : ℕ) (remoteAddr : Text × ℤ) (codec : Text)
    (payloadType : ℤ) : KeepsPorts (MediaSession.start ref m localPort remoteAddr codec payloadType) := by
  refine .bind (.modifyCall fun _ => rfl) fun _ => .bind (.await _) fun _ => ?_
  split
  · exact .done _
  · refine .bind (.await _) fun _ => ?_
    split
    · exact .done _
    · exact .modifyCall fun _ => rfl

theorem startMedia_ports (ref : ℕ) : KeepsPorts (startMedia ref) := by
  refine .get_bind fun s => ?_
  split_ifs
  · exact .done _
  · refine .bind (.done _) fun remoteAddr => ?_
    split_ifs
    · exact .done _
    · refine .bind (.done _) fun payloadType => ?_
      refine .bind (.modifyCall fun _ => rfl) fun _ => ?_
      refine .bind (MediaSession.start_ports _ _ _ _ _ _).attempt fun r => ?_
      split
      · exact .modifyCall fun _ => rfl
      · exact .done _

theorem stopMedia_ports (ref : ℕ) : KeepsPorts (stopMedia ref) := by
  refine .get_bind fun s => ?_
  split
  · refine .bind (.bind (.modifyCall fun _ => rfl) fun _ => .await _) fun _ => ?_
    exact .modifyCall fun _ => rfl
  · exact .done _

/-! ### The call manager -/

namespace VoLTECallManager

theorem countActive_ports : KeepsPorts (modify Phone.countActive) := .modify fun _ => .of_eq rfl rfl rfl

theorem delCall_ports (callId : Text) : KeepsPorts (delCall callId) := by
  refine .get_bind fun s => ?_
  split_ifs
  · exact .modify fun _ => .of_eq rfl rfl rfl
  · exact .done _

theorem finishInvite_ports (ref radioCallIndex : ℕ) (callId : Text) (response : SIPMessage) :
    KeepsPorts (finishInvite ref radioCallIndex callId response) := by
  unfold finishInvite
  split_ifs
  · refine .bind (.modifyCall fun _ => rfl) fun _ => (sendAck_ports ref).bind fun _ => ?_
    refine .get_bind fun s => .bind (.when (RadioHAL.updateCallState_ports _ _)) fun _ => ?_
    refine countActive_ports.bind fun _ => .bind (.modify fun _ => .of_eq rfl rfl rfl) fun _ => ?_
    exact (startMedia_ports ref).bind fun _ => .done _
  · exact (delCall_ports callId).bind fun _ => .done _

section

variable {α : Type} {K : Contract Phone Await} {post : Phone → Except PyError α → Phone → Prop} {s₀ s : Phone}

theorem meets_allocateRtpPort {f : ℕ → Async α} : (allocateRtpPort >>= f).Meets K post s₀ s ↔
    (f s.rtpPortNext).Meets K post s₀ { s with rtpPortNext := s.rtpPortNext + 2 } := Iff.rfl

theorem meets_generateCallId {f : Text → Async α} : (generateCallId >>= f).Meets K post s₀ s ↔
    (f (s.draw 0)).Meets K post s₀ (s.skipDraws 1) := Iff.rfl

theorem meets_newCall {c : VoLTECall} {f : ℕ → Async α} : (newCall c >>= f).Meets K post s₀ s ↔
    (f s.callHeap.length).Meets K post s₀ (s.newCall c) := Iff.rfl

end

/-- The call is entered with its port before the method is suspended. -/
theorem initiateCall_ports (number : Text) (radioCallIndex : ℕ) :
    KeepsPorts (initiateCall number radioCallIndex) := by
  intro s₀ s h
  unfold initiateCall
  rw [Coro.meets_get_bind]
  split_ifs
  · exact h
  · rw [meets_allocateRtpPort, meets_generateCallId, meets_newCall]
    refine KeepsPorts.onTimeout ?_ ?_ s₀ _ (h.trans (.newCall rfl rfl rfl rfl))
    · exact (sendRequest_ports _).bind fun response => finishInvite_ports _ _ _ response
    · exact (delCall_ports _).bind fun _ => .done _

theorem answerCall_ports (callId : Text) : KeepsPorts (answerCall callId) := by
  refine .get_bind fun s => ?_
  split
  · exact .done _
  · refine .bind (.modifyCall fun _ => rfl) fun _ => ?_
    split
    · exact .done _
    · split
      · exact .done _
      · split
        · exact .done _
        · refine (sendInviteOk_ports _ _ _ _).bind fun _ => .bind (.modifyCall fun _ => rfl) fun _ => ?_
          refine countActive_ports.bind fun _ => .bind (.modify fun _ => .of_eq rfl rfl rfl) fun _ => ?_
          exact (startMedia_ports _).bind fun _ => .done _

theorem sendReinvite_ports (ref : ℕ) (direction : MediaDirection) :
    KeepsPorts (sendReinvite ref direction) := by
  refine .get_bind fun s => .when (.onTimeout ?_ (.done _))
  exact (KeepsPorts.ignore (sendDialogRequest_ports _ _ _ _)).bind fun _ => sendAck_ports ref

theorem switchHold_ports {change finish : VoLTECall → VoLTECall} (state : VoLTECallState)
    (direction : MediaDirection) (radioState : CallState) (callId : Text)
    (hchange : ∀ c, (change c).offer = c.offer) (hfinish : ∀ c, (finish c).offer = c.offer) :
    KeepsPorts (switchHold state change finish direction radioState callId) := by
  refine .get_bind fun s => ?_
  split
  · exact .done _
  · split_ifs
    · exact .done _
    · refine .bind (.modifyCall hchange) fun _ => (sendReinvite_ports _ _).bind fun _ => ?_
      refine (updateRadio_ports _ _).bind fun _ => countActive_ports.bind fun _ => ?_
      exact .bind (.modifyCall hfinish) fun _ => .done _

theorem onMedia_offer (f : MediaSession → MediaSession) (c : VoLTECall) : (c.onMedia f).offer = c.offer := by
  unfold VoLTECall.onMedia
  split <;> rfl

theorem holdCall_ports (callId : Text) : KeepsPorts (holdCall callId) :=
  switchHold_ports _ _ _ _ (fun _ => onMedia_offer _ _) fun _ => rfl

theorem resumeCall_ports (callId : Text) : KeepsPorts (resumeCall callId) :=
  switchHold_ports _ _ _ _ (fun _ => onMedia_offer _ _) fun _ => rfl

theorem swapCalls_ports : KeepsPorts swapCalls := by
  refine .get_bind fun s => ?_
  dsimp only
  split_ifs
  · exact .done _
  · refine .bind (.whenSome fun _ => .ignore (holdCall_ports _)) fun _ => ?_
    exact .bind (.whenSome fun _ => .ignore (resumeCall_ports _)) fun _ => .done _

theorem conferenceCalls_ports : KeepsPorts conferenceCalls := by
  refine .get_bind fun s => ?_
  split
  · refine .bind (.modifyCall fun c => onMedia_offer _ _) fun _ => .bind (.when ?_) fun _ => ?_
    · exact (KeepsPorts.modifyRadio _).bind fun _ => RadioHAL.sendIndication_ports _
    · exact countActive_ports.bind fun _ => .done _
  · exact .done _

theorem sendRefer_ports (ref : ℕ) (referTo : Text) {accept : VoLTECall → VoLTECall}
    (haccept : ∀ c, (accept c).offer = c.offer) : KeepsPorts (sendRefer ref referTo accept) := by
  refine .get_bind fun s => ?_
  split_ifs
  · refine .bind (.modifyCall fun _ => rfl) fun _ => .onTimeout ?_ (.done _)
    refine (sendDialogRequest_ports _ _ _ _).bind fun response => ?_
    split_ifs
    · exact .bind (.modifyCall haccept) fun _ => .done _
    · exact .done _
  · exact .done _
  · exact .done _

theorem transferCall_ports (callId targetNumber : Text) : KeepsPorts (transferCall callId targetNumber) := by
  refine .get_bind fun s => ?_
  split
  · exact .done _
  · exact sendRefer_ports _ _ fun _ => rfl

theorem attendedTransfer_ports (callIdA callIdB : Text) : KeepsPorts (attendedTransfer callIdA callIdB) := by
  refine .get_bind fun s => ?_
  split
  · exact sendRefer_ports _ _ fun _ => rfl
  · exact .done _

theorem popCall_ports (callId : Text) (ref : ℕ) : KeepsPorts (modify (Phone.popCall callId ref)) :=
  .modify fun s => .of_eq rfl rfl (modifyCall_offers ref
    (f := VoLTECall.record fun h => { h with removed := true }) (fun _ => rfl) (s.delCall callId))

theorem hangupCall_ports (callId : Text) : KeepsPorts (hangupCall callId) := by
  refine .get_bind fun s => ?_
  split
  · exact .done _
  · refine (popCall_ports _ _).bind fun _ => (stopMedia_ports _).bind fun _ => .get_bind fun s => ?_
    split_ifs
    · refine .bind (.modifyCall fun _ => rfl) fun _ => ?_
      refine .bind (.onTimeout (.ignore (sendDialogRequest_ports _ _ _ _)) (.done _)) fun _ => ?_
      exact countActive_ports.bind fun _ => .done _
    · exact .done _

end VoLTECallManager

/-! ### The radio -/

namespace RadioHAL

open VoLTECallManager

theorem withManager_ports {body : Async Unit} (h : KeepsPorts body) : KeepsPorts (withManager body) :=
  .get_bind fun _ => .when h

theorem withSipCall_ports (v : ℕ) {body : Text → Async Bool} (h : ∀ callId, KeepsPorts (body callId)) :
    KeepsPorts (withSipCall v body) := .get_bind fun _ => .when (.ignore (h _))

theorem dial_ports (number : Text) : KeepsPorts (dial number) := by
  refine .get_bind fun s => (KeepsPorts.modifyRadio _).bind fun _ => ?_
  refine (sendIndication_ports _).bind fun _ => .get_bind fun s => ?_
  split_ifs
  · refine (initiateCall_ports _ _).bind fun sipCallId => ?_
    split
    · exact (KeepsPorts.modifyRadio _).bind fun _ => .done _
    · exact (removeVoice_ports _).bind fun _ => (sendIndication_ports _).bind fun _ => .done _
  · exact .done _

theorem answer_ports : KeepsPorts answer := by
  refine .get_bind fun s => ?_
  split
  · refine (KeepsPorts.modifyRadio _).bind fun _ => (sendIndication_ports _).bind fun _ => ?_
    refine .get_bind fun s => .bind (withManager_ports (.ignore (answerCall_ports _))) fun _ => .done _
  · exact .done _

theorem hangup_ports (callIndex : ℕ) : KeepsPorts (hangup callIndex) := by
  refine .get_bind fun s => ?_
  split
  · refine (withSipCall_ports _ hangupCall_ports).bind fun _ => (removeVoice_ports _).bind fun _ => ?_
    exact (sendIndication_ports _).bind fun _ => .done _
  · exact .done _

theorem holdActive_ports (rounds k : ℕ) : KeepsPorts (holdActive rounds k) := by
  induction rounds generalizing k with
  | zero => exact .await _
  | succ rounds ih =>
      refine .get_bind fun s => ?_
      split
      · exact .done _
      · refine .bind (.when ((KeepsPorts.modifyRadio _).bind fun _ => ?_)) fun _ => ih (k + 1)
        exact withManager_ports (.ignore (holdCall_ports _))

theorem answerOrSwap_ports (rounds : ℕ) (waiting : Option ℕ) : KeepsPorts (answerOrSwap rounds waiting) := by
  cases waiting with
  | some v =>
      refine (holdActive_ports rounds 0).bind fun _ => (KeepsPorts.modifyRadio _).bind fun _ => ?_
      exact withSipCall_ports v answerCall_ports
  | none => exact withManager_ports (.ignore swapCalls_ports)

theorem switchWaitingOrHoldingAndActive_ports (rounds : ℕ) :
    KeepsPorts (switchWaitingOrHoldingAndActive rounds) :=
  .get_bind fun _ => (answerOrSwap_ports _ _).bind fun _ => (sendIndication_ports _).bind fun _ => .done _

theorem conference_ports : KeepsPorts conference := by
  refine .get_bind fun s => ?_
  split_ifs
  · exact conferenceCalls_ports.bind fun _ => .done _
  · exact .done _

theorem separateConnection_ports (callIndex : ℕ) : KeepsPorts (separateConnection callIndex) := by
  refine .get_bind fun s => ?_
  split
  · refine (KeepsPorts.modifyRadio _).bind fun _ => ?_
    refine (withManager_ports (.ignore (holdCall_ports _))).bind fun _ => ?_
    exact (sendIndication_ports _).bind fun _ => .done _
  · exact .done _

theorem explicitCallTransfer_ports : KeepsPorts explicitCallTransfer := by
  refine .get_bind fun s => ?_
  split
  · split_ifs
    · refine (transferCall_ports _ _).bind fun transferred => ?_
      split_ifs
      · refine (removeVoice_ports _).bind fun _ => (removeVoice_ports _).bind fun _ => ?_
        exact (sendIndication_ports _).bind fun _ => .done _
      · exact .done _
    · exact .done _
  · exact .done _

theorem hangupEach_ports (vs : List ℕ) : KeepsPorts (hangupEach vs) := by
  induction vs with
  | nil => exact .done _
  | cons v vs ih => exact (withSipCall_ports v hangupCall_ports).bind fun _ => ih

theorem hangupAll_ports : KeepsPorts hangupAll := by
  refine .get_bind fun s => (hangupEach_ports _).bind fun _ => (KeepsPorts.modifyRadio _).bind fun _ => ?_
  exact (sendIndication_ports _).bind fun _ => .done _

theorem setCallForward_ports (action : ℤ) (reason : CallForwardReason) (number : Text) (timeSeconds : ℤ) :
    KeepsPorts (setCallForward action reason number timeSeconds) := by
  refine .get_bind fun s => ?_
  split
  · exact .done _
  · dsimp only
    split
    · exact (KeepsPorts.modifyRadio _).bind fun _ => .done _
    · exact .done _

/-- A call that comes in is forwarded, as a call that goes out, or it rings. -/
theorem incomingCall_ports (number callId : Text) : KeepsPorts (incomingCall number callId) := by
  refine .get_bind fun s => ?_
  split
  · refine withManager_ports (.bind (.ignore (hangupCall_ports _)) fun _ => ?_)
    exact .ignore (initiateCall_ports _ _)
  · refine (KeepsPorts.modifyRadio _).bind fun _ => (sendIndication_ports _).bind fun _ => ?_
    exact sendIndication_ports _

end RadioHAL

/-! ### Incoming messages -/

namespace VoLTECallManager

/-- A call that comes in is entered with its port, and then the radio is told. -/
theorem handleIncomingInvite_ports (msg : SIPMessage) (addr : Text × ℕ) :
    KeepsPorts (handleIncomingInvite msg addr) := by
  refine (sendIfClient_ports _ _).bind fun _ => ?_
  intro s₀ s h
  rw [Coro.meets_get_bind, meets_allocateRtpPort, meets_newCall]
  refine KeepsPorts.when ?_ s₀ _ (h.trans (.newCall rfl rfl rfl rfl))
  refine (RadioHAL.incomingCall_ports _ _).bind fun _ => .get_bind fun s => ?_
  split
  · exact .modifyCall fun _ => rfl
  · exact .done _

theorem reinvite_offer (sdp : Text) (c : VoLTECall) : (c.reinvite sdp).offer = c.offer := by
  unfold VoLTECall.reinvite
  dsimp only
  split_ifs
  · exact onMedia_offer _ _
  · exact onMedia_offer _ _
  · rfl

theorem handleReinvite_ports (msg : SIPMessage) (addr : Text × ℕ) (ref : ℕ) :
    KeepsPorts (handleReinvite msg addr ref) := by
  refine .bind (.modifyCall (reinvite_offer _)) fun _ => .bind (.when (updateRadio_ports _ _)) fun _ => ?_
  exact .bind (.when (updateRadio_ports _ _)) fun _ => sendInviteOk_ports _ _ _ _

theorem takeDown_ports (msg : SIPMessage) (addr : Text × ℕ) : KeepsPorts (takeDown msg addr) := by
  refine .get_bind fun s => .bind (.whenSome fun ref => ?_) fun _ => ?_
  · exact (popCall_ports _ _).bind fun _ => stopMedia_ports _
  · exact (sendIfClient_ports _ _).bind fun _ => .when (dropVoice_ports _)

theorem handleIncomingBye_ports (msg : SIPMessage) (addr : Text × ℕ) :
    KeepsPorts (handleIncomingBye msg addr) := (takeDown_ports msg addr).bind fun _ => countActive_ports

theorem sendReferNotify_ports (ref : ℕ) (sipfrag subState : String) :
    KeepsPorts (sendReferNotify ref sipfrag subState) :=
  .get_bind fun _ => .when (.onTimeout (.ignore (sendDialogRequest_ports _ _ _ _)) (.done _))

theorem handleIncomingRefer_ports (msg : SIPMessage) (addr : Text × ℕ) :
    KeepsPorts (handleIncomingRefer msg addr) := by
  refine .get_bind fun s => ?_
  split
  · exact .done _
  · refine (sendIfClient_ports _ _).bind fun _ => .when ?_
    refine (sendReferNotify_ports _ _ _).bind fun _ => .bind (.ignore (hangupCall_ports _)) fun _ => ?_
    exact .bind (.when (.ignore (RadioHAL.dial_ports _))) fun _ => sendReferNotify_ports _ _ _

theorem handleIncomingNotify_ports (msg : SIPMessage) (addr : Text × ℕ) :
    KeepsPorts (handleIncomingNotify msg addr) := by
  refine .get_bind fun s => (sendIfClient_ports _ _).bind fun _ => ?_
  split
  · exact .done _
  · split_ifs
    · exact .done _
    · dsimp only
      split_ifs
      · exact .modifyCall fun _ => rfl
      · exact .when (.ignore (hangupCall_ports _))

theorem handleResponse_ports (msg : SIPMessage) (code : ℤ) : KeepsPorts (handleResponse msg code) := by
  refine .get_bind fun s => ?_
  split
  · exact .done _
  · split_ifs
    · exact modifyClient_ports _
    · split
      · exact .when (.bind (.modifyCall fun _ => rfl) fun _ => updateRadio_ports _ _)
      · exact .done _
    · exact .done _
    · exact .done _

theorem handleIncomingSip_ports (msg : SIPMessage) (addr : Text × ℕ) :
    KeepsPorts (handleIncomingSip msg addr) := by
  unfold handleIncomingSip
  split
  · exact handleResponse_ports msg _
  · split_ifs
    · refine .get_bind fun s => ?_
      split
      · exact handleReinvite_ports msg addr _
      · exact handleIncomingInvite_ports msg addr
    · exact handleIncomingBye_ports msg addr
    · exact takeDown_ports msg addr
    · exact handleIncomingRefer_ports msg addr
    · exact handleIncomingNotify_ports msg addr
    · exact .done _

theorem startManager_ports : KeepsPorts startManager := by
  refine .modify fun s => ?_
  split_ifs
  · exact .refl s
  · exact .of_eq rfl rfl rfl

theorem hangupActive_ports (refs : List ℕ) : KeepsPorts (hangupActive refs) := by
  induction refs with
  | nil => exact .done _
  | cons ref refs ih => exact .get_bind fun _ => .bind (.when (.ignore (hangupCall_ports _))) fun _ => ih

theorem stop_ports : KeepsPorts VoLTECallManager.stop :=
  .get_bind fun _ => (hangupActive_ports _).bind fun _ => .modify fun _ => .of_eq rfl rfl rfl

end VoLTECallManager

theorem Operation.run_ports (op : Operation) : KeepsPorts op.run := by
  cases op with
  | start => exact VoLTECallManager.startManager_ports.bind fun _ => .done _
  | stop => exact VoLTECallManager.stop_ports.bind fun _ => .done _
  | incoming msg addr => exact (VoLTECallManager.handleIncomingSip_ports msg addr).bind fun _ => .done _
  | initiateCall number index =>
      exact (VoLTECallManager.initiateCall_ports number index).bind fun _ => .done _
  | answerCall callId => exact (VoLTECallManager.answerCall_ports callId).bind fun _ => .done _
  | holdCall callId => exact (VoLTECallManager.holdCall_ports callId).bind fun _ => .done _
  | resumeCall callId => exact (VoLTECallManager.resumeCall_ports callId).bind fun _ => .done _
  | swapCalls => exact VoLTECallManager.swapCalls_ports.bind fun _ => .done _
  | conferenceCalls => exact VoLTECallManager.conferenceCalls_ports.bind fun _ => .done _
  | transferCall callId target =>
      exact (VoLTECallManager.transferCall_ports callId target).bind fun _ => .done _
  | attendedTransfer a b => exact (VoLTECallManager.attendedTransfer_ports a b).bind fun _ => .done _
  | hangupCall callId => exact (VoLTECallManager.hangupCall_ports callId).bind fun _ => .done _
  | dial number => exact (RadioHAL.dial_ports number).bind fun _ => .done _
  | answer => exact RadioHAL.answer_ports.bind fun _ => .done _
  | hangup index => exact (RadioHAL.hangup_ports index).bind fun _ => .done _
  | switchWaitingOrHoldingAndActive rounds =>
      exact (RadioHAL.switchWaitingOrHoldingAndActive_ports rounds).bind fun _ => .done _
  | conference => exact RadioHAL.conference_ports.bind fun _ => .done _
  | separateConnection index => exact (RadioHAL.separateConnection_ports index).bind fun _ => .done _
  | explicitCallTransfer => exact RadioHAL.explicitCallTransfer_ports.bind fun _ => .done _
  | hangupAll => exact RadioHAL.hangupAll_ports.bind fun _ => .done _
  | setCallForward action reason number time =>
      exact (RadioHAL.setCallForward_ports action reason number time).bind fun _ => .done _
  | powerOff => exact (KeepsPorts.modifyRadio _).bind fun _ => .done _

/-! ### Runs -/

namespace PhonePool

theorem expire_grows {s s' : Phone} {i : ℕ} (h : s.expire i = some s') : PortsGrow s s' := by
  unfold Phone.expire at h
  obtain ⟨client, _, h⟩ := Option.bind_eq_some_iff.mp h
  obtain ⟨c, _, rfl⟩ := Option.map_eq_some_iff.mp h
  exact .of_eq rfl rfl rfl

theorem run_ports {p p' : PhonePool} {es : List PhoneEvent} (htasks : p.tasks = [])
    (hr : runFrom step p es = some p') : PortsGrow p.state p'.state := by
  let Kept : PhonePool → Prop := fun q =>
    (∃ us, EventLoop.Kept (fun _ : Unit => .segments PortsGrow) (fun _ _ _ => True) us q) ∧
      PortsGrow p.state q.state
  have hstart : Kept p := by
    refine ⟨⟨[], ?_⟩, .refl _⟩
    unfold EventLoop.Kept
    rw [htasks]
    exact .nil
  have hall : Along step (fun _ _ => True) p es := Along.of_forall step (fun _ _ => trivial) p es
  refine (runFrom_invariant step (I := Kept) ?_ hstart hall hr).2
  rintro q e q' ⟨⟨us, hq⟩, hgrow⟩ - hstep
  obtain ⟨hq', hsegment⟩ := hq.segment PortsGrow.refl Operation.run_ports
    (fun _ _ _ h => expire_grows h) (step_eq hstep)
  exact ⟨⟨_, hq'⟩, hgrow.trans hsegment⟩

variable {config : VoLTEConfig} {radioHal : Bool} {radio : RadioHAL} {random : ℕ → Text}
  {es : List PhoneEvent} {p : PhonePool}

/-- **The ports of a run.**  The calls made so far have the ports from the base on, in their order. -/
theorem ports_of_run (hr : runFrom step (initial config radioHal radio random) es = some p) :
    p.state.config = config ∧ p.state.callHeap.map VoLTECall.offer =
      (List.range' config.rtpPortBase p.state.callHeap.length 2).map config.offer := by
  obtain ⟨hconfig, k, -, hheap⟩ := run_ports rfl hr
  have hlength := congrArg List.length hheap
  have hempty : (initial config radioHal radio random).state.callHeap = [] := rfl
  rw [hempty] at hheap hlength
  simp only [List.map_nil, List.nil_append, List.length_map, List.length_range'] at hheap hlength
  refine ⟨hconfig, ?_⟩
  rw [hheap, hlength]
  rfl

theorem call_of_run (hr : runFrom step (initial config radioHal radio random) es = some p) {ref : ℕ}
    {c : VoLTECall} (hc : p.state.callHeap[ref]? = some c) :
    c.offer = config.offer (config.rtpPortBase + 2 * ref) := by
  obtain ⟨-, hheap⟩ := ports_of_run hr
  have hlt := (List.getElem?_eq_some_iff.mp hc).1
  have hentry := congrArg (·[ref]?) hheap
  simp only [List.getElem?_map, hc, Option.map_some, List.getElem?_range' hlt] at hentry
  exact Option.some.inj hentry

end PhonePool

/-! ### Sound ports -/

/-- The port of a call, which its SDP offers, is even, leaves room for the RTCP port, and is no
other call's, whether that is live or not. -/
structure SoundPort (s : Phone) (ref : ℕ) (c : VoLTECall) : Prop where
  sdp : c.localSdp = buildSdpOffer s.config.mediaIp c.rtpPort s.config.codecPriority .sendrecv
  even : Even c.rtpPort
  bound : c.rtpPort ≤ 65534
  alone : ∀ (ref' : ℕ) (c' : VoLTECall), s.callHeap[ref']? = some c' → c'.rtpPort = c.rtpPort → ref' = ref

/-- All calls made so far have sound ports. -/
def Phone.SoundPorts (s : Phone) : Prop :=
  ∀ (ref : ℕ) (c : VoLTECall), s.callHeap[ref]? = some c → SoundPort s ref c

/-- **RTP ports.**  The ports of a run are sound as long as the calls made so far, ended, rejected and
failed ones among them, do not use up the numbers from the base on. -/
theorem rtp_ports_iff {config : VoLTEConfig} {radioHal : Bool} {radio : RadioHAL} {random : ℕ → Text}
    {es : List PhoneEvent} {p : PhonePool} (heven : Even config.rtpPortBase)
    (hbase : config.rtpPortBase ≤ 65000)
    (hr : runFrom PhonePool.step (PhonePool.initial config radioHal radio random) es = some p) :
    p.state.SoundPorts ↔ config.rtpPortBase + 2 * p.state.callHeap.length ≤ 65536 := by
  have hport : ∀ (ref : ℕ) (c : VoLTECall), p.state.callHeap[ref]? = some c →
      c.rtpPort = config.rtpPortBase + 2 * ref :=
    fun ref c hc => congrArg Prod.fst (PhonePool.call_of_run hr hc)
  constructor
  · intro hsound
    by_contra hbound
    obtain ⟨n, hn⟩ : ∃ n, p.state.callHeap.length = n + 1 := ⟨p.state.callHeap.length - 1, by omega⟩
    have hlast : p.state.callHeap[n]? = some p.state.callHeap[n] := List.getElem?_eq_getElem (by omega)
    have hle := (hsound n _ hlast).bound
    rw [hport n _ hlast] at hle
    omega
  · intro hbound ref c hc
    have hlt := (List.getElem?_eq_some_iff.mp hc).1
    have hrtp := hport ref c hc
    have hsdp := congrArg Prod.snd (PhonePool.call_of_run hr hc)
    refine ⟨?_, ?_, by omega, fun ref' c' hc' hsame => ?_⟩
    · rw [hrtp, (PhonePool.ports_of_run hr).1]
      exact hsdp
    · rw [hrtp]
      exact heven.add (even_two_mul ref)
    · have hrtp' := hport ref' c' hc'
      omega

/-! ### A phone that is up for long -/

/-- A request of a call under Call-ID `c`. -/
def missedMessage (method : String) : SIPMessage :=
  { method := some method.toList
    requestUri := some "sip:a".toList
    headers := Dict.ofList [("Call-ID".toList, "c".toList)] }

/-- The request comes in from the P-CSCF. -/
def missedRequest (method : String) : Operation :=
  .incoming (missedMessage method) ("pcscf".toList, 5060)

/-- A number of calls come in one after the other, and each is given up by the other side. -/
def missedCalls : ℕ → List PhoneEvent
  | 0 => []
  | n + 1 => .spawn (missedRequest "INVITE") :: .spawn (missedRequest "CANCEL") :: missedCalls n

/-- The manager is started, no radio is set, and there is no call. -/
structure NoCalls (s : Phone) : Prop where
  radioHal : s.radioHal = false
  client : s.sipClient.isSome
  calls : s.calls = Dict.empty

/-- The phone rings for a call that has no media yet. -/
structure RingsNext (s s' : Phone) : Prop where
  radioHal : s'.radioHal = false
  client : s'.sipClient.isSome
  calls : s'.calls = Dict.empty.set "c".toList s.callHeap.length
  heap : ∃ c, c.mediaSession = none ∧ s'.callHeap = s.callHeap ++ [c]

theorem step_missedInvite {p : PhonePool} (h : NoCalls p.state) :
    ∃ p', p.step (.spawn (missedRequest "INVITE")) = some p' ∧ RingsNext p.state p'.state := by
  obtain ⟨⟨config, radioHal, radio, sipClient, started, callHeap, calls, valid, next, volteState, sent,
    random, drawn⟩, tasks⟩ := p
  obtain ⟨hradio, hclient, hcalls⟩ := h
  dsimp only at hradio hclient hcalls
  obtain ⟨client, rfl⟩ := Option.isSome_iff_exists.mp hclient
  subst hradio hcalls
  refine ⟨_, rfl, rfl, rfl, rfl, _, rfl, rfl⟩

/-- Without a radio, a call that has no media is taken down at once. -/
theorem takeDown_run {msg : SIPMessage} {s : Phone} {ref : ℕ} (addr : Text × ℕ)
    (hcall : s.calls.get? msg.callId = some ref) (hmedia : (s.call ref).mediaSession = none)
    (hradio : s.radioHal = false) (hclient : s.sipClient.isSome) :
    ((VoLTECallManager.takeDown msg addr).run s).2 =
      (s.popCall msg.callId ref).send (response msg 200 "OK" msg.callId [] []) addr := by
  have hpopped : ((s.popCall msg.callId ref).call ref).mediaSession = none := by
    have hmodify : (s.popCall msg.callId ref).call ref =
        (s.call ref).record fun h => { h with removed := true } :=
      Phone.call_modifyCall_self hcall _
    rw [hmodify]
    exact hmedia
  have hstop : (stopMedia ref).run (s.popCall msg.callId ref) =
      (Coro.done (.ok ()), s.popCall msg.callId ref) := by
    unfold stopMedia
    rw [Coro.run_get_bind]
    simp only [hpopped]
    rfl
  have htake : (VoLTECallManager.takeDown msg addr).run s =
      (sendIfClient (response msg 200 "OK" msg.callId [] []) addr >>= fun _ =>
        dropVoice msg.callId).run (s.popCall msg.callId ref) := by
    unfold VoLTECallManager.takeDown
    rw [Coro.run_get_bind]
    simp only [hcall]
    exact Coro.run_bind_ok hstop _
  have hclient' : (s.popCall msg.callId ref).sipClient.isSome := hclient
  rw [htake, sendIfClient, Coro.run_modify_bind, if_pos hclient']
  unfold dropVoice Async.when
  rw [Coro.run_get_bind, if_neg]
  · rfl
  · change ¬s.radioHal = true
    rw [hradio]
    decide

theorem step_missedCancel {s₀ : Phone} {p : PhonePool} (h : RingsNext s₀ p.state) :
    ∃ p', p.step (.spawn (missedRequest "CANCEL")) = some p' ∧ NoCalls p'.state ∧
      p'.state.callHeap.length = s₀.callHeap.length + 1 := by
  obtain ⟨hradio, hclient, hcalls, c, hmedia, hheap⟩ := h
  have hcall : p.state.calls.get? "c".toList = some s₀.callHeap.length := by
    rw [hcalls]
    exact Dict.get?_set_self _ _ _
  have hlast : p.state.call s₀.callHeap.length = c := by
    unfold Phone.call
    rw [hheap, List.getD_eq_getElem?_getD, List.getElem?_concat_length]
    rfl
  obtain ⟨p', hp'⟩ : ∃ p', p.step (.spawn (missedRequest "CANCEL")) = some p' := ⟨_, rfl⟩
  have hstate : p'.state = (p.state.popCall "c".toList s₀.callHeap.length).send
      (response (missedMessage "CANCEL") 200 "OK" "c".toList [] []) ("pcscf".toList, 5060) := by
    rw [PhonePool.step_spawn hp']
    exact (Coro.run_bind_state fun _ _ => rfl).trans (takeDown_run _ hcall (hlast ▸ hmedia) hradio hclient)
  refine ⟨p', hp', ⟨?_, ?_, ?_⟩, ?_⟩
  · rw [hstate]
    exact hradio
  · rw [hstate]
    exact hclient
  · rw [hstate]
    change p.state.calls.erase _ = _
    rw [hcalls]
    rfl
  · rw [hstate]
    change (p.state.callHeap.modify _ _).length = _
    rw [List.length_modify, hheap, List.length_append, List.length_singleton]

theorem run_missedCalls (n : ℕ) {p : PhonePool} (h : NoCalls p.state) :
    ∃ p', runFrom PhonePool.step p (missedCalls n) = some p' ∧ NoCalls p'.state ∧
      p'.state.callHeap.length = p.state.callHeap.length + n ∧
      Along PhonePool.step (fun p _ => p.state.calls.keys.length ≤ 1) p (missedCalls n) := by
  induction n generalizing p with
  | zero => exact ⟨p, rfl, h, rfl, trivial⟩
  | succ n ih =>
      obtain ⟨p₁, h₁, hrings⟩ := step_missedInvite h
      obtain ⟨p₂, h₂, hidle, hlength⟩ := step_missedCancel hrings
      obtain ⟨p₃, h₃, hidle₃, hlength₃, halong⟩ := ih hidle
      refine ⟨p₃, ?_, hidle₃, by omega, ?_, fun q hq => ⟨?_, fun q' hq' => ?_⟩⟩
      · rw [missedCalls, runFrom_cons, h₁, Option.bind_some, runFrom_cons, h₂, Option.bind_some, h₃]
      · change p.state.calls.keys.length ≤ 1
        rw [h.calls]
        exact Nat.zero_le 1
      · obtain rfl := Option.some.inj (h₁.symm.trans hq)
        rw [hrings.calls]
        exact le_rfl
      · obtain rfl := Option.some.inj (h₁.symm.trans hq)
        obtain rfl := Option.some.inj (h₂.symm.trans hq')
        exact halong

/-- The phone of the IMS service: a manager with a P-CSCF and without a radio, with a high base. -/
def servicePhone : PhonePool :=
  PhonePool.initial { pcscfAddress := "pcscf".toList, rtpPortBase := 65000 } false {} fun n => natText n

theorem rtp_ports_iff_missed : ∃ p, runFrom PhonePool.step servicePhone
    [.spawn .start, .spawn (missedRequest "INVITE")] = some p ∧
      (p.state.SoundPorts ↔ 65000 + 2 * p.state.callHeap.length ≤ 65536) := by
  refine ⟨_, rfl, ?_⟩
  exact @rtp_ports_iff { pcscfAddress := "pcscf".toList, rtpPortBase := 65000 } false {}
    (fun n => natText n) [.spawn .start, .spawn (missedRequest "INVITE")] _ (by decide) (by decide) rfl

/-- The 269th call that is made has port 65536, though no two calls are ever live at a time. -/
theorem port_out_of_range : ∃ p, runFrom PhonePool.step servicePhone
    (.spawn .start :: missedCalls 269) = some p ∧
      Along PhonePool.step (fun p _ => p.state.calls.keys.length ≤ 1) servicePhone
        (.spawn .start :: missedCalls 269) ∧
      (∃ c, p.state.callHeap[268]? = some c ∧ c.rtpPort = 65536 ∧ c.localSdp =
        buildSdpOffer p.state.config.mediaIp 65536 p.state.config.codecPriority .sendrecv) ∧
      ¬p.state.SoundPorts := by
  obtain ⟨p₁, hp₁, hidle⟩ : ∃ p₁, servicePhone.step (.spawn .start) = some p₁ ∧ NoCalls p₁.state :=
    ⟨_, rfl, ⟨rfl, rfl, rfl⟩⟩
  obtain ⟨p, hrun, -, hlength, halong⟩ := run_missedCalls 269 hidle
  have hall : runFrom PhonePool.step servicePhone (.spawn .start :: missedCalls 269) = some p := by
    rw [runFrom_cons, hp₁, Option.bind_some, hrun]
  obtain ⟨c, hc⟩ : ∃ c, p.state.callHeap[268]? = some c :=
    ⟨_, List.getElem?_eq_getElem (by omega)⟩
  have hoffer := PhonePool.call_of_run hall hc
  have hport : c.rtpPort = 65536 := congrArg Prod.fst hoffer
  refine ⟨p, hall, ⟨Nat.zero_le 1, fun q hq => ?_⟩, ⟨c, hc, hport, ?_⟩, fun hsound => ?_⟩
  · obtain rfl := Option.some.inj (hp₁.symm.trans hq)
    exact halong
  · rw [(PhonePool.ports_of_run hall).1]
    exact congrArg Prod.snd hoffer
  · have hbound := (hsound 268 c hc).bound
    omega

end VirtualPhone
