import VirtualPhone.VolteChanges

/-! # Every method keeps the discipline

Each method of the call manager and of the radio makes only `CallChange`s, from every state on and
whatever runs while it is suspended.  The one exception is the first thing the handler of a
re-INVITE does: `Operation.keeps` separates it from the rest.

`PhonePool.step_spec` then says what every event of the phone does to the calls, and
`PhonePool.run_invariant` carries that to runs. -/

namespace VirtualPhone

open Runtime
open Async (when whenSome ignore onTimeout)

/-! ### A call that rings at the other end -/

/-- The response reports that the outgoing call `ref` rings at the other end. -/
def IsRinging (s : Phone) (msg : SIPMessage) (ref : ℕ) : Prop :=
  msg.statusCode = some 180 ∧
    (∃ client ∈ s.sipClient, client.client.hasPendingRequest msg.callId = true) ∧
    s.calls.get? msg.callId = some ref ∧ (s.call ref).direction = .mo

/-- The voice call of `ref` that is told to ring. -/
def Phone.ringbackVoice (s : Phone) (ref : ℕ) : Option ℕ :=
  if s.radioHal then s.radio.find? (·.index = (s.call ref).radioCallIndex) else none

/-- The call rings at the other end, and so does its voice call. -/
def Phone.ringBack (ref : ℕ) (s : Phone) : Phone :=
  match s.ringbackVoice ref with
  | some v => (s.modifyCall ref (VoLTECall.setState .ringingOut)).modifyRadio
      (RadioHAL.modifyVoice v (VoiceCall.setState .alerting))
  | none => s.modifyCall ref (VoLTECall.setState .ringingOut)

namespace Phone

theorem ringBack_callHeap (ref : ℕ) (s : Phone) :
    (s.ringBack ref).callHeap = s.callHeap.modify ref (VoLTECall.setState .ringingOut) := by
  unfold ringBack
  split <;> rfl

theorem ringBack_calls (ref : ℕ) (s : Phone) : (s.ringBack ref).calls = s.calls := by
  unfold ringBack
  split <;> rfl

theorem ringBack_sent (ref : ℕ) (s : Phone) : (s.ringBack ref).sent = s.sent := by
  unfold ringBack
  split <;> rfl

theorem ringBack_config (ref : ℕ) (s : Phone) : (s.ringBack ref).config = s.config := by
  unfold ringBack
  split <;> rfl

end Phone

theorem VoLTECall.setState_later (state : VoLTECallState) (c : VoLTECall) :
    CallLater c (c.setState state) := ⟨rfl, rfl, rfl, id, id, id, id, id⟩

section

variable {C : VoLTECall → Prop} {α : Type}

open Coro (get modify raise attempt)

/-! ### The radio and the media -/

namespace RadioHAL

theorem sendIndication_keeps (indication : ℕ) : Keeps C (sendIndication indication) :=
  Coro.Safe.bind (modifyRadio_keeps fun _ => .of_eq rfl) fun _ => Coro.Safe.await _

theorem removeVoice_keeps (v : ℕ) : Keeps C (removeVoice v) := by
  refine Coro.Safe.get_bind fun s => ?_
  cases h : s.radio.remove v with
  | error e => trivial
  | ok radio => exact ⟨micro_modifyRadio (NoRingback.remove h), trivial⟩

theorem updateCallState_keeps (callIndex : ℕ) {newState : CallState} (h : newState ≠ .alerting) :
    Keeps C (updateCallState callIndex newState) := by
  refine Coro.Safe.get_bind fun s => ?_
  split
  · next v _ =>
      refine Coro.Safe.bind (modifyRadio_keeps fun r => ?_) (fun _ => sendIndication_keeps 1001) s
      exact .setState h v r
  · exact Coro.Safe.pure () s

end RadioHAL

theorem updateRadio_keeps (ref : ℕ) {state : CallState} (h : state ≠ .alerting) :
    Keeps C (updateRadio ref state) :=
  Coro.Safe.get_bind fun s => when_keeps (fun _ => RadioHAL.updateCallState_keeps _ h) s

theorem dropVoice_keeps (callId : Text) : Keeps C (dropVoice callId) :=
  Coro.Safe.get_bind fun s => when_keeps (fun _ =>
    Coro.Safe.bind (modifyRadio_keeps fun r => .dropSipCall callId r) fun _ =>
      RadioHAL.sendIndication_keeps 1001) s

theorem MediaSession.start_keeps (ref m localPort : ℕ) (remoteAddr : Text × ℤ) (codec : Text)
    (payloadType : ℤ) : Keeps C (MediaSession.start ref m localPort remoteAddr codec payloadType) := by
  refine Coro.Safe.bind (modifyCall_keeps fun c => .modifySession c m fun _ => rfl) fun _ => ?_
  refine Coro.Safe.bind (Coro.Safe.await _) fun _ => ?_
  split
  · exact Coro.Safe.raise _
  · refine Coro.Safe.bind (Coro.Safe.await _) fun _ => ?_
    split
    · exact Coro.Safe.raise _
    · exact modifyCall_keeps fun c => .modifySession c m fun _ => rfl

theorem MediaSession.stop_keeps (ref m : ℕ) : Keeps C (MediaSession.stop ref m) :=
  Coro.Safe.bind (modifyCall_keeps fun c => .modifySession c m fun _ => rfl) fun _ =>
    Coro.Safe.await _

theorem setMediaSession_keeps (ref : ℕ) (m : Option ℕ) :
    Keeps C (modifyCall ref (VoLTECall.setMediaSession m)) :=
  modifyCall_keeps fun _ => .of_eq rfl rfl rfl rfl rfl ⟨rfl, rfl, rfl⟩ rfl

theorem startMedia_keeps (ref : ℕ) : Keeps C (startMedia ref) := by
  refine Coro.Safe.get_bind fun s => ?_
  split_ifs
  · trivial
  · refine Coro.Safe.bind (lift_keeps _) (fun remoteAddr => ?_) s
    split_ifs
    · exact Coro.Safe.pure ()
    · refine Coro.Safe.bind (lift_keeps _) fun payloadType => ?_
      refine Coro.Safe.bind (modifyCall_keeps .addSession) fun _ => ?_
      refine Coro.Safe.bind (Coro.Safe.attempt (MediaSession.start_keeps _ _ _ _ _ _)) fun r => ?_
      cases r with
      | ok _ => exact setMediaSession_keeps ref _
      | error e => exact Coro.Safe.pure ()

theorem stopMedia_keeps (ref : ℕ) : Keeps C (stopMedia ref) := by
  refine Coro.Safe.get_bind fun s => ?_
  split
  · exact Coro.Safe.bind (MediaSession.stop_keeps ref _) (fun _ => setMediaSession_keeps ref none) s
  · trivial

namespace VoLTECallManager

/-! ### Outgoing calls -/

theorem delCall_keeps (callId : Text) : Keeps C (delCall callId) := by
  refine Coro.Safe.get_bind fun s => ?_
  split
  · exact ⟨Micro.deleted callId, trivial⟩
  · trivial

/-- The call whose INVITE was answered is an outgoing one with `C`. -/
theorem finishInvite_keepsAt {ref : ℕ} {s : Phone} {response : SIPMessage}
    (h : s.Knows (fun c => c.direction = .mo ∧ (response.statusCode = some 200 → C c)) ref)
    (radioCallIndex : ℕ) (callId : Text) :
    KeepsAt C (finishInvite ref radioCallIndex callId response) s := by
  unfold finishInvite
  split
  · next hok =>
      have hchange : Micro C s (s.modifyCall ref (VoLTECall.connect response.body)) := by
        refine micro_modifyCall fun c hc => ?_
        have hk := h.apply hc
        exact .connected _ hk.1 (hk.2 hok)
      refine ⟨hchange, ?_⟩
      refine Coro.Safe.bind (sendAck_keeps ref) (fun _ => Coro.Safe.get_bind fun s => ?_) _
      refine Coro.Safe.bind (when_keeps fun _ => RadioHAL.updateCallState_keeps _ (by decide)) (fun _ => ?_) s
      refine Coro.Safe.bind countActive_keeps fun _ => Coro.Safe.bind (countCall_keeps ref) fun _ => ?_
      exact Coro.Safe.bind (startMedia_keeps ref) fun _ => Coro.Safe.pure _
  · exact Coro.Safe.bind (delCall_keeps callId) (fun _ => Coro.Safe.pure none) s

theorem inviteHeaders_from (cfg : VoLTEConfig) : LeavesFrom (inviteHeaders cfg) := by
  refine cfg.withRoute_from fun e he heq => ?_
  have hname : "From".toList ∈ ["Content-Type".toList, "Allow".toList, "Supported".toList,
      "P-Preferred-Identity".toList] := heq ▸ List.mem_map_of_mem (f := Prod.fst) he
  exact absurd hname (by decide)

theorem initiateCall_keeps (number : Text) (radioCallIndex : ℕ) :
    Keeps C (initiateCall number radioCallIndex) := by
  refine Coro.Safe.get_bind fun s => ?_
  split
  · trivial
  · refine ⟨Micro.other rfl rfl rfl (.of_eq rfl rfl rfl rfl le_rfl),
      Micro.other rfl rfl rfl (.of_eq rfl rfl rfl rfl (Nat.le_add_right _ _)),
      Micro.created _ ⟨Or.inl ⟨rfl, rfl⟩, rfl, rfl, nofun⟩ ⟨rfl, rfl⟩, ?_⟩
    refine onTimeout_keepsAt ?_ (Coro.Safe.bind (delCall_keeps _) fun _ => Coro.Safe.pure none)
    refine Coro.Guarantees.bind (sendRequest_guarantees (inviteHeaders_from s.config) _) ?_ fun _ _ _ _ => trivial
    intro response s' hlater hconnects
    obtain ⟨c, hc, hcl⟩ := hlater s.callHeap.length _ List.getElem?_concat_length
    obtain ⟨i, hi, hconnects⟩ := hconnects response rfl
    refine finishInvite_keepsAt ⟨c, hc, hcl.direction, fun hok => ?_⟩ radioCallIndex _
    exact hconnects hok s.callHeap.length c hc (hcl.inviteRequest.trans hi)

/-! ### Incoming calls -/

theorem answerCall_keeps (callId : Text) : Keeps C (answerCall callId) := by
  refine Coro.Safe.get_bind fun s => ?_
  split
  · trivial
  · next ref href =>
      refine Coro.guarantees_modify_bind.mpr ⟨micro_modifyCall fun _ _ => .answerInvoked, ?_⟩
      split
      · trivial
      · next hstate =>
          split
          · trivial
          · next msg addr hmsg =>
              split
              · trivial
              · have hinvoked : (s.modifyCall ref (VoLTECall.record fun h =>
                    { h with answerInvoked := true })).Knows
                    (fun c => c.state = .ringingIn ∧ c.history.answerInvoked = true) ref := by
                  refine (Phone.knows_of_get? href).modifyCall fun c hc => ⟨?_, rfl⟩
                  rw [hc]
                  exact not_not.mp hstate
                have hanswers : (s.modifyCall ref (VoLTECall.record fun h =>
                    { h with answerInvoked := true })).Answers msg callId := by
                  refine Or.inr ⟨ref, addr, href, ?_⟩
                  rw [Phone.call_modifyCall_self href]
                  exact hmsg
                refine Coro.Guarantees.bind (sendInviteOk_guarantees addr hanswers
                  (hinvoked.imp fun c h => ⟨Or.inl h.2, h⟩) fun _ h => h) ?_ fun _ _ _ _ => trivial
                intro _ s' _ hringing
                refine Coro.guarantees_modify_bind.mpr ⟨micro_modifyCall fun c hc => ?_, ?_⟩
                · exact .answered (hringing.apply hc).1 (hringing.apply hc).2
                refine Coro.Safe.bind countActive_keeps (fun _ => ?_) _
                refine Coro.Safe.bind (countCall_keeps ref) fun _ => ?_
                exact Coro.Safe.bind (startMedia_keeps ref) fun _ => Coro.Safe.pure true

/-! ### Hold and resume -/

theorem sendReinvite_keeps (ref : ℕ) (direction : MediaDirection) :
    Keeps C (sendReinvite ref direction) := by
  refine Coro.Safe.get_bind fun s => when_keeps (fun _ => onTimeout_keeps ?_ ?_) s
  · exact Coro.Safe.bind (ignore_keeps (sendDialogRequest_keeps _ _ ["Content-Type".toList] rfl
      (by decide) _)) fun _ => sendAck_keeps ref
  · exact Coro.Safe.pure ()

theorem switchHold_keeps {state : VoLTECallState} {change finish : VoLTECall → VoLTECall}
    {K : VoLTECall → Prop} (hK : ∀ c c', CallLater c c' → K c → K c')
    (hchange : ∀ c, c.state = state → CallChange C c (change c) ∧ K (change c))
    (hfinish : ∀ c, K c → CallChange C c (finish c)) (direction : MediaDirection)
    {radioState : CallState} (hradio : radioState ≠ .alerting) (callId : Text) :
    Keeps C (switchHold state change finish direction radioState callId) := by
  refine Coro.Safe.get_bind fun s => ?_
  split
  · trivial
  · next ref href =>
      split
      · trivial
      · next hstate =>
          have hknows : s.Knows (fun c => c.state = state) ref := by
            obtain ⟨c, hc, rfl⟩ := Phone.knows_of_get? href
            exact ⟨_, hc, not_not.mp hstate⟩
          refine Coro.guarantees_modify_bind.mpr
            ⟨micro_modifyCall fun c hc => (hchange c (hknows.apply hc)).1, ?_⟩
          have hknows := hknows.modifyCall fun c hc => (hchange c hc).2
          refine Coro.Guarantees.safe_bind (sendReinvite_keeps ref direction) ?_ fun _ _ _ => trivial
          intro _ s₁ h₁
          refine Coro.Guarantees.safe_bind (updateRadio_keeps ref hradio) ?_ fun _ _ _ => trivial
          intro _ s₂ h₂
          have hknows := hknows.later hK (h₁.trans h₂)
          refine ⟨Micro.other rfl rfl rfl ⟨Or.inl rfl, .of_eq rfl, Or.inr rfl, .of_sent rfl le_rfl rfl⟩,
            micro_modifyCall fun c hc => ?_, trivial⟩
          exact hfinish c (hknows.apply hc)

theorem holdCall_keeps (callId : Text) : Keeps C (holdCall callId) :=
  switchHold_keeps (K := fun c => c.history.everHeld = true) (fun _ _ h => h.everHeld)
    (fun _ h => ⟨.held h, rfl⟩) (fun _ h => .holdReturned h) _ (by decide) callId

theorem resumeCall_keeps (callId : Text) : Keeps C (resumeCall callId) :=
  switchHold_keeps (K := fun _ => True) (fun _ _ _ h => h) (fun _ h => ⟨.released h, trivial⟩)
    (fun _ _ => .detail (.of_eq rfl rfl rfl rfl rfl ⟨rfl, rfl, rfl⟩ rfl)) _ (by decide) callId

theorem swapCalls_keeps : Keeps C swapCalls := by
  refine Coro.Safe.get_bind fun s => ?_
  dsimp only
  split
  · trivial
  · refine Coro.Safe.bind (whenSome_keeps fun _ => ignore_keeps (holdCall_keeps _)) (fun _ => ?_) s
    refine Coro.Safe.bind (whenSome_keeps fun _ => ignore_keeps (resumeCall_keeps _)) fun _ => ?_
    exact Coro.Safe.pure true

theorem conferenceCalls_keeps : Keeps C conferenceCalls := by
  refine Coro.Safe.get_bind fun s => ?_
  split
  · next active held _ hheld =>
      have hstate : (s.call held).state = .held := by
        have hfound := List.find?_some hheld
        simpa using hfound
      refine Coro.guarantees_modify_bind.mpr ⟨micro_modifyCall fun c hc => ?_, ?_⟩
      · rw [Phone.call_eq hc] at hstate
        exact .released hstate
      · refine Coro.Safe.bind (when_keeps fun _ => ?_) (fun _ => ?_) _
        · refine Coro.Safe.bind (modifyRadio_keeps fun r => ?_) fun _ =>
            RadioHAL.sendIndication_keeps 1001
          exact .joinParties _ _ r
        · exact Coro.Safe.bind countActive_keeps fun _ => Coro.Safe.pure true
  · trivial

/-! ### Transfer and hanging up -/

theorem sendRefer_keepsAt {ref : ℕ} {s : Phone} {accept : VoLTECall → VoLTECall}
    (hknows : s.Knows (· = s.call ref) ref)
    (haccept : ∀ c, c.history.transferRequested = true → CallChange C c (accept c)) (referTo : Text) :
    KeepsAt C (sendRefer ref referTo accept) s := by
  refine Coro.guarantees_get_bind.mpr ?_
  split
  · next hstate =>
      split
      · refine Coro.guarantees_modify_bind.mpr ⟨micro_modifyCall fun c hc => ?_, ?_⟩
        · rw [← hknows.apply hc] at hstate
          exact .transferRequested hstate
        · have hknows := hknows.modifyCall (L := fun c => c.history.transferRequested = true)
            (f := VoLTECall.record fun h => { h with transferRequested := true }) fun _ _ => rfl
          refine onTimeout_keepsAt ?_ (Coro.Safe.pure false)
          refine Coro.Guarantees.safe_bind (sendDialogRequest_keeps _ _
            ["Refer-To".toList, "Referred-By".toList] rfl (by decide) _) ?_ fun _ _ _ => trivial
          intro response s' hs'
          have hknows := hknows.later (fun _ _ h => h.transferRequested) hs'
          split
          · exact ⟨micro_modifyCall fun c hc => haccept c (hknows.apply hc), trivial⟩
          · trivial
      · trivial
  · trivial

theorem transferCall_keeps (callId targetNumber : Text) :
    Keeps C (transferCall callId targetNumber) := by
  refine Coro.Safe.get_bind fun s => ?_
  split
  · trivial
  · next ref href =>
      exact sendRefer_keepsAt (Phone.knows_of_get? href) (fun _ h => .transferred _ h) _

theorem attendedTransfer_keeps (callIdA callIdB : Text) :
    Keeps C (attendedTransfer callIdA callIdB) := by
  refine Coro.Safe.get_bind fun s => ?_
  split
  · next a b ha _ =>
      have haccept : ∀ c : VoLTECall, c.history.transferRequested = true →
          CallChange C c (c.setTransfer (s.call b).remoteUri) :=
        fun _ _ => .detail (.of_eq rfl rfl rfl rfl rfl ⟨rfl, rfl, rfl⟩ rfl)
      exact sendRefer_keepsAt (Phone.knows_of_get? ha) haccept _
  · trivial

theorem hangupCall_keeps (callId : Text) : Keeps C (hangupCall callId) := by
  refine Coro.Safe.get_bind fun s => ?_
  split
  · trivial
  · next ref href =>
      refine Coro.guarantees_modify_bind.mpr ⟨Micro.popped href, ?_⟩
      have hknows : (s.delCall callId).Knows (· = s.call ref) ref := by
        have hthere := Phone.knows_of_get? href
        exact hthere
      have hknows : (s.popCall callId ref).Knows (fun c => c.history.removed = true) ref :=
        hknows.modifyCall fun _ _ => rfl
      refine Coro.Guarantees.safe_bind (stopMedia_keeps ref) ?_ fun _ _ _ => trivial
      intro _ s' hs'
      have hknows := hknows.later (fun _ _ h => h.removed) hs'
      rw [Coro.guarantees_get_bind]
      split
      · refine Coro.guarantees_modify_bind.mpr
          ⟨micro_modifyCall fun c hc => .terminated (hknows.apply hc), ?_⟩
        refine Coro.Safe.bind (onTimeout_keeps ?_ (Coro.Safe.pure ())) (fun _ => ?_) _
        · exact ignore_keeps (sendDialogRequest_keeps _ _ [] rfl (by decide) _)
        · exact Coro.Safe.bind countActive_keeps fun _ => Coro.Safe.pure true
      · trivial

end VoLTECallManager

/-! ### The radio's operations -/

namespace RadioHAL

open VoLTECallManager

theorem withManager_keeps {body : Async Unit} (h : Keeps C body) : Keeps C (withManager body) :=
  Coro.Safe.get_bind fun s => when_keeps (fun _ => h) s

theorem withSipCall_keeps (v : ℕ) {body : Text → Async Bool} (h : ∀ callId, Keeps C (body callId)) :
    Keeps C (withSipCall v body) :=
  Coro.Safe.get_bind fun s => when_keeps (fun _ => ignore_keeps (h _)) s

theorem dial_keeps (number : Text) : Keeps C (dial number) := by
  refine Coro.Safe.get_bind fun s => ?_
  refine Coro.Safe.bind (modifyRadio_keeps fun r => .append _ r) (fun _ => ?_) s
  refine Coro.Safe.bind (sendIndication_keeps 1001) fun _ => Coro.Safe.get_bind fun s => ?_
  split
  · refine Coro.Safe.bind (initiateCall_keeps _ _) (fun id => ?_) s
    cases id with
    | some callId =>
        refine Coro.Safe.bind (modifyRadio_keeps fun r => ?_) fun _ => Coro.Safe.pure _
        exact .modifyVoice (f := VoiceCall.setSipCallId callId) (fun _ => id) _ r
    | none =>
        refine Coro.Safe.bind (removeVoice_keeps _) fun _ => ?_
        exact Coro.Safe.bind (sendIndication_keeps 1001) fun _ => Coro.Safe.pure _
  · trivial

theorem answer_keeps : Keeps C answer := by
  refine Coro.Safe.get_bind fun s => ?_
  split
  · refine Coro.Safe.bind (modifyRadio_keeps fun r => .setState (by decide) _ r) (fun _ => ?_) s
    refine Coro.Safe.bind (sendIndication_keeps 1001) fun _ => Coro.Safe.get_bind fun s => ?_
    exact Coro.Safe.bind (withManager_keeps (ignore_keeps (answerCall_keeps _)))
      (fun _ => Coro.Safe.pure _) s
  · trivial

theorem hangup_keeps (callIndex : ℕ) : Keeps C (hangup callIndex) := by
  refine Coro.Safe.get_bind fun s => ?_
  split
  · refine Coro.Safe.bind (withSipCall_keeps _ hangupCall_keeps) (fun _ => ?_) s
    refine Coro.Safe.bind (removeVoice_keeps _) fun _ => ?_
    exact Coro.Safe.bind (sendIndication_keeps 1001) fun _ => Coro.Safe.pure _
  · trivial

theorem holdActive_keeps (rounds k : ℕ) : Keeps C (holdActive rounds k) := by
  induction rounds generalizing k with
  | zero => exact Coro.Safe.await _
  | succ rounds ih =>
      refine Coro.Safe.get_bind fun s => ?_
      split
      · trivial
      · refine Coro.Safe.bind (when_keeps fun _ => ?_) (fun _ => ih (k + 1)) s
        refine Coro.Safe.bind (modifyRadio_keeps fun r => .setState (by decide) _ r) fun _ => ?_
        exact withManager_keeps (ignore_keeps (holdCall_keeps _))

theorem answerOrSwap_keeps (rounds : ℕ) (v : Option ℕ) : Keeps C (answerOrSwap rounds v) := by
  cases v with
  | some v =>
      refine Coro.Safe.bind (holdActive_keeps rounds 0) fun _ => ?_
      refine Coro.Safe.bind (modifyRadio_keeps fun r => .setState (by decide) _ r) fun _ => ?_
      exact withSipCall_keeps v answerCall_keeps
  | none => exact withManager_keeps (ignore_keeps swapCalls_keeps)

theorem switchWaitingOrHoldingAndActive_keeps (rounds : ℕ) :
    Keeps C (switchWaitingOrHoldingAndActive rounds) := by
  refine Coro.Safe.get_bind fun s => ?_
  refine Coro.Safe.bind (answerOrSwap_keeps rounds _) (fun _ => ?_) s
  exact Coro.Safe.bind (sendIndication_keeps 1001) fun _ => Coro.Safe.pure _

theorem conference_keeps : Keeps C conference := by
  refine Coro.Safe.get_bind fun s => ?_
  split
  · exact Coro.Safe.bind conferenceCalls_keeps (fun _ => Coro.Safe.pure _) s
  · trivial

theorem separateConnection_keeps (callIndex : ℕ) : Keeps C (separateConnection callIndex) := by
  refine Coro.Safe.get_bind fun s => ?_
  split
  · refine Coro.Safe.bind (modifyRadio_keeps fun r => ?_) (fun _ => ?_) s
    · exact .modifyVoice (fun _ h => by cases h) _ r
    refine Coro.Safe.bind (withManager_keeps (ignore_keeps (holdCall_keeps _))) fun _ => ?_
    exact Coro.Safe.bind (sendIndication_keeps 1001) fun _ => Coro.Safe.pure _
  · trivial

theorem explicitCallTransfer_keeps : Keeps C explicitCallTransfer := by
  refine Coro.Safe.get_bind fun s => ?_
  split
  · split
    · refine Coro.Safe.bind (transferCall_keeps _ _) (fun transferred => ?_) s
      split
      · refine Coro.Safe.bind (removeVoice_keeps _) fun _ => ?_
        refine Coro.Safe.bind (removeVoice_keeps _) fun _ => ?_
        exact Coro.Safe.bind (sendIndication_keeps 1001) fun _ => Coro.Safe.pure _
      · exact Coro.Safe.pure _
    · trivial
  · trivial

theorem hangupEach_keeps (vs : List ℕ) : Keeps C (hangupEach vs) := by
  induction vs with
  | nil => exact Coro.Safe.pure ()
  | cons v vs ih => exact Coro.Safe.bind (withSipCall_keeps v hangupCall_keeps) fun _ => ih

theorem hangupAll_keeps : Keeps C hangupAll := by
  refine Coro.Safe.get_bind fun s => ?_
  refine Coro.Safe.bind (hangupEach_keeps _) (fun _ => ?_) s
  refine Coro.Safe.bind (modifyRadio_keeps fun _ => .of_eq rfl) fun _ => ?_
  exact Coro.Safe.bind (sendIndication_keeps 1001) fun _ => Coro.Safe.pure _

theorem setCallForward_keeps (action : ℤ) (reason : CallForwardReason) (number : Text)
    (timeSeconds : ℤ) : Keeps C (setCallForward action reason number timeSeconds) := by
  refine Coro.Safe.get_bind fun s => ?_
  split
  · trivial
  · dsimp only
    split
    · refine Coro.Safe.bind (modifyRadio_keeps fun r => ?_) (fun _ => Coro.Safe.pure _) s
      exact .of_eq rfl
    · trivial

theorem incomingCall_keeps (number callId : Text) : Keeps C (incomingCall number callId) := by
  refine Coro.Safe.get_bind fun s => ?_
  split
  · refine withManager_keeps (Coro.Safe.bind ?_ fun _ => ?_) s
    · exact ignore_keeps (hangupCall_keeps callId)
    · exact ignore_keeps (initiateCall_keeps _ 0)
  · refine Coro.Safe.bind (modifyRadio_keeps fun r => .append _ r) (fun _ => ?_) s
    exact Coro.Safe.bind (sendIndication_keeps 1002) fun _ => sendIndication_keeps 1001

end RadioHAL

/-! ### Incoming messages -/

namespace VoLTECallManager

theorem handleIncomingInvite_keeps (msg : SIPMessage) (addr : Text × ℕ) :
    Keeps C (handleIncomingInvite msg addr) := by
  refine Coro.Safe.bind (sendIfClient_keeps msg (by decide) addr) fun _ => Coro.Safe.get_bind fun s => ?_
  refine ⟨Micro.other rfl rfl rfl (.of_eq rfl rfl rfl rfl le_rfl), Micro.created _ ⟨Or.inr ⟨rfl, rfl⟩, rfl, rfl, ?_⟩ ⟨rfl, rfl⟩, ?_⟩
  · exact fun m hm => by rw [← Option.some.inj hm]
  refine when_keeps (fun _ => ?_) _
  refine Coro.Safe.bind (RadioHAL.incomingCall_keeps _ _) fun _ => ?_
  refine Coro.Safe.get_bind fun s => ?_
  split
  · exact modifyCall_keeps (.setRadioCallIndex _) s
  · trivial

/-- The handler of a re-INVITE, behind the change it makes first. -/
def answerReinvite (msg : SIPMessage) (addr : Text × ℕ) (ref : ℕ) : Async Unit := do
  when (HoldsRemotely (decodeUtf8 msg.body)) (updateRadio ref .holding)
  when (ResumesRemotely (decodeUtf8 msg.body)) (updateRadio ref .active)
  sendInviteOk ref msg msg.callId addr

theorem answerReinvite_keepsAt {ref : ℕ} {s : Phone} (msg : SIPMessage) (addr : Text × ℕ)
    (h : s.Knows (fun c => c.history.reinvited = true) ref) :
    KeepsAt C (answerReinvite msg addr ref) s := by
  refine Coro.Guarantees.safe_bind (when_keeps fun _ => updateRadio_keeps ref (by decide)) ?_
    fun _ _ _ => trivial
  intro _ s₁ h₁
  refine Coro.Guarantees.safe_bind (when_keeps fun _ => updateRadio_keeps ref (by decide)) ?_
    fun _ _ _ => trivial
  intro _ s₂ h₂
  have h := h.later (fun _ _ hc => hc.reinvited) (h₁.trans h₂)
  exact (sendInviteOk_guarantees (K := fun _ => True) addr (Or.inl rfl)
    (h.imp fun _ hc => ⟨Or.inr hc, trivial⟩) fun _ _ => trivial).mono fun _ _ _ _ => trivial

theorem takeDown_keeps (msg : SIPMessage) (addr : Text × ℕ) : Keeps C (takeDown msg addr) := by
  refine Coro.Safe.get_bind fun s => ?_
  dsimp only
  refine Coro.Guarantees.bind (whenSome_keepsAt fun ref href => ?_) ?_ fun _ _ _ _ => trivial
  · exact Coro.guarantees_modify_bind.mpr ⟨Micro.popped href, stopMedia_keeps ref _⟩
  · intro _ s' _ _
    exact Coro.Safe.bind (sendIfClient_keeps msg (by decide) addr) (fun _ => when_keeps fun _ => dropVoice_keeps _) s'

theorem handleIncomingBye_keeps (msg : SIPMessage) (addr : Text × ℕ) :
    Keeps C (handleIncomingBye msg addr) :=
  Coro.Safe.bind (takeDown_keeps msg addr) fun _ => countActive_keeps

theorem sendReferNotify_keeps (ref : ℕ) (sipfrag subState : String) :
    Keeps C (sendReferNotify ref sipfrag subState) :=
  Coro.Safe.get_bind fun s => when_keeps (fun _ =>
    onTimeout_keeps (ignore_keeps (sendDialogRequest_keeps _ _
      ["Event".toList, "Subscription-State".toList, "Content-Type".toList] rfl (by decide) _))
      (Coro.Safe.pure ())) s

theorem handleIncomingRefer_keeps (msg : SIPMessage) (addr : Text × ℕ) :
    Keeps C (handleIncomingRefer msg addr) := by
  refine Coro.Safe.get_bind fun s => ?_
  split
  · trivial
  · refine Coro.Safe.bind (sendIfClient_keeps msg (by decide) addr) (fun _ => ?_) s
    refine when_keeps fun _ => Coro.Safe.bind (sendReferNotify_keeps _ _ _) fun _ => ?_
    refine Coro.Safe.bind (ignore_keeps (hangupCall_keeps _)) fun _ => ?_
    refine Coro.Safe.bind (when_keeps fun _ => ignore_keeps (RadioHAL.dial_keeps _)) fun _ => ?_
    exact sendReferNotify_keeps _ _ _

theorem handleIncomingNotify_keeps (msg : SIPMessage) (addr : Text × ℕ) :
    Keeps C (handleIncomingNotify msg addr) := by
  refine Coro.Safe.get_bind fun s => ?_
  dsimp only
  refine Coro.Safe.bind (sendIfClient_keeps msg (by decide) addr) (fun _ => ?_) s
  split
  · exact Coro.Safe.pure ()
  · split
    · exact Coro.Safe.pure ()
    · split
      · exact modifyCall_keeps fun _ => .of_eq rfl rfl rfl rfl rfl ⟨rfl, rfl, rfl⟩ rfl
      · exact when_keeps fun _ => ignore_keeps (hangupCall_keeps _)

theorem handleResponse_keepsAt {s : Phone} {msg : SIPMessage} {code : ℤ}
    (hcode : msg.statusCode = some code) (h : ∀ ref, ¬IsRinging s msg ref) :
    KeepsAt C (handleResponse msg code) s := by
  unfold handleResponse
  refine Coro.guarantees_get_bind.mpr ?_
  split
  · trivial
  · next client hclient =>
      split
      · next hpending =>
          split
          · exact modifyClient_keeps _ s
          · split
            · next h180 =>
                split
                · next ref href =>
                    refine when_keepsAt fun hmo => absurd ?_ (h ref)
                    exact ⟨hcode.trans (congrArg some h180), ⟨client, hclient, hpending⟩, href, hmo⟩
                · trivial
            · trivial
      · trivial

/-! ### Start and stop -/

theorem startManager_keeps : Keeps C startManager := by
  refine modify_keeps ?_ ?_ ?_ fun s => ?_
  · intro s
    split_ifs <;> rfl
  · intro s
    split_ifs <;> rfl
  · intro s
    split_ifs <;> rfl
  · split_ifs
    · exact .of_eq rfl rfl rfl rfl le_rfl
    · exact .of_eq rfl rfl rfl rfl le_rfl

theorem hangupActive_keeps (refs : List ℕ) : Keeps C (hangupActive refs) := by
  induction refs with
  | nil => exact Coro.Safe.pure ()
  | cons ref refs ih =>
      refine Coro.Safe.get_bind fun s => ?_
      exact Coro.Safe.bind (when_keeps fun _ => ignore_keeps (hangupCall_keeps _)) (fun _ => ih) s

theorem stop_keeps : Keeps C stop := by
  refine Coro.Safe.get_bind fun s => Coro.Safe.bind (hangupActive_keeps _) (fun _ => ?_) s
  exact modify_keeps (fun _ => rfl) (fun _ => rfl) (fun _ => rfl) fun _ => .of_eq rfl rfl rfl rfl le_rfl

end VoLTECallManager

/-! ### Operations -/

/-- The message is an INVITE. -/
def SIPMessage.IsInvite (msg : SIPMessage) : Prop :=
  msg.statusCode = none ∧ msg.method = some "INVITE".toList

instance (msg : SIPMessage) : Decidable msg.IsInvite := inferInstanceAs (Decidable (_ ∧ _))

/-- The message an event brings. -/
def incomingMessage : PhoneEvent → Option SIPMessage
  | .spawn (.incoming msg _) => some msg
  | _ => none

theorem eq_incoming {e : PhoneEvent} {msg : SIPMessage} (h : msg ∈ incomingMessage e) :
    ∃ addr, e = .spawn (.incoming msg addr) := by
  unfold incomingMessage at h
  split at h
  · next m addr => exact ⟨addr, by rw [Option.some.inj h]⟩
  · cases h

/-- The message is an INVITE for a call in the table, `ref`. -/
def IsReinvite (s : Phone) (msg : SIPMessage) (ref : ℕ) : Prop :=
  msg.IsInvite ∧ s.calls.get? msg.callId = some ref

/-- What an operation does before it keeps the discipline: nothing, or the change of a re-INVITE. -/
inductive First : Operation → Phone → Phone → Prop
  | nothing (op : Operation) (s : Phone) : First op s s
  | reinvite {s : Phone} {msg : SIPMessage} {ref : ℕ} (addr : Text × ℕ) : IsReinvite s msg ref →
      First (.incoming msg addr) s (s.modifyCall ref (VoLTECall.reinvite (decodeUtf8 msg.body)))
  | ringing {s : Phone} {msg : SIPMessage} {ref : ℕ} (addr : Text × ℕ) : IsRinging s msg ref →
      First (.incoming msg addr) s (s.ringBack ref)

theorem First.later {op : Operation} {s s' : Phone} (h : First op s s') : Later s s' := by
  cases h with
  | nothing => exact Later.refl s
  | reinvite addr _ => exact Later.of_modify (fun c _ => c.reinvite_later _) rfl
  | ringing addr _ => exact Later.of_modify (fun c _ => c.setState_later _) (Phone.ringBack_callHeap _ s)

open VoLTECallManager

/-- A message that is no re-INVITE and reports no ringing is handled within the discipline. -/
theorem handleIncomingSip_keepsAt {s : Phone} {msg : SIPMessage} (addr : Text × ℕ)
    (h : ∀ ref, ¬IsReinvite s msg ref) (h' : ∀ ref, ¬IsRinging s msg ref) :
    KeepsAt C (handleIncomingSip msg addr) s := by
  unfold handleIncomingSip
  split
  · next code hcode => exact handleResponse_keepsAt hcode h'
  · next hstatus =>
      split
      · next hmethod =>
          refine Coro.guarantees_get_bind.mpr ?_
          split
          · next ref href => exact absurd ⟨⟨hstatus, hmethod⟩, href⟩ (h ref)
          · exact handleIncomingInvite_keeps msg addr s
      · split
        · exact handleIncomingBye_keeps msg addr s
        · split
          · exact takeDown_keeps msg addr s
          · split
            · exact handleIncomingRefer_keeps msg addr s
            · split
              · exact handleIncomingNotify_keeps msg addr s
              · trivial

theorem handleIncomingSip_reinvite {s : Phone} {msg : SIPMessage} {ref : ℕ} (addr : Text × ℕ)
    (h : IsReinvite s msg ref) (f : Unit → Async α) :
    (handleIncomingSip msg addr >>= f).run s = (answerReinvite msg addr ref >>= f).run
      (s.modifyCall ref (VoLTECall.reinvite (decodeUtf8 msg.body))) := by
  obtain ⟨⟨hstatus, hmethod⟩, href⟩ := h
  have hrun : (handleIncomingSip msg addr >>= f).run s =
      ((match s.calls.get? msg.callId with
        | some ref => handleReinvite msg addr ref
        | none => handleIncomingInvite msg addr) >>= f).run s := by
    unfold handleIncomingSip
    simp only [hstatus]
    rw [if_pos hmethod]
    rfl
  rw [hrun, href]
  rfl

/-- A response that reports ringing first makes the call ring. -/
theorem handleIncomingSip_ringing {s : Phone} {msg : SIPMessage} {ref : ℕ} (addr : Text × ℕ)
    (h : IsRinging s msg ref) (f : Unit → Async α) :
    (handleIncomingSip msg addr >>= f).run s =
      (when (s.ringbackVoice ref).isSome (RadioHAL.sendIndication 1001) >>= f).run
        (s.ringBack ref) := by
  obtain ⟨hcode, ⟨client, hclient, hpending⟩, href, hmo⟩ := h
  have hindex : ((s.modifyCall ref (VoLTECall.setState .ringingOut)).call ref).radioCallIndex =
      (s.call ref).radioCallIndex := by
    rw [Phone.call_modifyCall]
    split_ifs <;> rfl
  have hring : (updateRadio ref .alerting >>= f).run
      (s.modifyCall ref (VoLTECall.setState .ringingOut)) =
        (when (s.ringbackVoice ref).isSome (RadioHAL.sendIndication 1001) >>= f).run
          (s.ringBack ref) := by
    unfold updateRadio Phone.ringBack Phone.ringbackVoice Async.when
    rw [Coro.get_bind_bind, Coro.run_get_bind, hindex]
    by_cases hradio : s.radioHal = true
    · rw [if_pos hradio, if_pos (show (Phone.modifyCall _ _ s).radioHal = true from hradio)]
      unfold RadioHAL.updateCallState
      rw [Coro.get_bind_bind, Coro.run_get_bind]
      change Coro.run ((match s.radio.find? (·.index = (s.call ref).radioCallIndex) with
        | some v => _
        | none => _) >>= f) _ = _
      cases s.radio.find? (·.index = (s.call ref).radioCallIndex) <;> rfl
    · rw [if_neg hradio, if_neg (show ¬(Phone.modifyCall _ _ s).radioHal = true from hradio)]
      rfl
  have hresponse : (handleResponse msg 180 >>= f).run s = (updateRadio ref .alerting >>= f).run
      (s.modifyCall ref (VoLTECall.setState .ringingOut)) := by
    unfold handleResponse
    rw [Coro.get_bind_bind, Coro.run_get_bind, Option.mem_def.mp hclient]
    simp only [hpending, if_true, href, Async.when, hmo]
    rfl
  rw [← hring, ← hresponse]
  unfold handleIncomingSip
  rw [hcode]

/-- Every operation but an incoming message keeps the discipline. -/
theorem Operation.keeps {op : Operation} (h : ∀ msg addr, op ≠ .incoming msg addr) :
    Keeps C op.run := by
  cases op with
  | start => exact Coro.Safe.bind startManager_keeps fun _ => Coro.Safe.pure _
  | stop => exact Coro.Safe.bind stop_keeps fun _ => Coro.Safe.pure _
  | incoming msg addr => exact absurd rfl (h msg addr)
  | initiateCall number index =>
      exact Coro.Safe.bind (initiateCall_keeps number index) fun _ => Coro.Safe.pure _
  | answerCall callId => exact Coro.Safe.bind (answerCall_keeps callId) fun _ => Coro.Safe.pure _
  | holdCall callId => exact Coro.Safe.bind (holdCall_keeps callId) fun _ => Coro.Safe.pure _
  | resumeCall callId => exact Coro.Safe.bind (resumeCall_keeps callId) fun _ => Coro.Safe.pure _
  | swapCalls => exact Coro.Safe.bind swapCalls_keeps fun _ => Coro.Safe.pure _
  | conferenceCalls => exact Coro.Safe.bind conferenceCalls_keeps fun _ => Coro.Safe.pure _
  | transferCall callId target =>
      exact Coro.Safe.bind (transferCall_keeps callId target) fun _ => Coro.Safe.pure _
  | attendedTransfer a b =>
      exact Coro.Safe.bind (attendedTransfer_keeps a b) fun _ => Coro.Safe.pure _
  | hangupCall callId => exact Coro.Safe.bind (hangupCall_keeps callId) fun _ => Coro.Safe.pure _
  | dial number => exact Coro.Safe.bind (RadioHAL.dial_keeps number) fun _ => Coro.Safe.pure _
  | answer => exact Coro.Safe.bind RadioHAL.answer_keeps fun _ => Coro.Safe.pure _
  | hangup index => exact Coro.Safe.bind (RadioHAL.hangup_keeps index) fun _ => Coro.Safe.pure _
  | switchWaitingOrHoldingAndActive rounds =>
      exact Coro.Safe.bind (RadioHAL.switchWaitingOrHoldingAndActive_keeps rounds) fun _ =>
        Coro.Safe.pure _
  | conference => exact Coro.Safe.bind RadioHAL.conference_keeps fun _ => Coro.Safe.pure _
  | separateConnection index =>
      exact Coro.Safe.bind (RadioHAL.separateConnection_keeps index) fun _ => Coro.Safe.pure _
  | explicitCallTransfer =>
      exact Coro.Safe.bind RadioHAL.explicitCallTransfer_keeps fun _ => Coro.Safe.pure _
  | hangupAll => exact Coro.Safe.bind RadioHAL.hangupAll_keeps fun _ => Coro.Safe.pure _
  | setCallForward action reason number time =>
      exact Coro.Safe.bind (RadioHAL.setCallForward_keeps action reason number time) fun _ =>
        Coro.Safe.pure _
  | powerOff =>
      exact Coro.Safe.bind (modifyRadio_keeps fun _ => .of_eq rfl) fun _ => Coro.Safe.pure _

theorem Operation.guarantees (C : VoLTECall → Prop) (op : Operation) (s : Phone) :
    ∃ (c : Async OperationResult) (s₁ : Phone), First op s s₁ ∧ op.run.run s = c.run s₁ ∧
      Later s s₁ ∧ KeepsAt C c s₁ := by
  by_cases hop : ∀ msg addr, op ≠ .incoming msg addr
  · exact ⟨op.run, s, .nothing op s, rfl, Later.refl s, Operation.keeps hop s⟩
  · push Not at hop
    obtain ⟨msg, addr, rfl⟩ := hop
    by_cases hre : ∃ ref, IsReinvite s msg ref
    · obtain ⟨ref, hre⟩ := hre
      have hfirst := First.reinvite addr hre
      refine ⟨answerReinvite msg addr ref >>= fun _ => pure .none, _, hfirst,
        handleIncomingSip_reinvite addr hre _, hfirst.later, ?_⟩
      have hknows := (Phone.knows_of_get? hre.2).modifyCall
        (L := fun c => c.history.reinvited = true) (f := VoLTECall.reinvite (decodeUtf8 msg.body))
        fun c _ => c.reinvite_reinvited _
      exact (answerReinvite_keepsAt msg addr hknows).bind (fun _ _ _ _ => trivial)
        fun _ _ _ _ => trivial
    · push Not at hre
      by_cases hring : ∃ ref, IsRinging s msg ref
      · obtain ⟨ref, hring⟩ := hring
        have hfirst := First.ringing addr hring
        refine ⟨when (s.ringbackVoice ref).isSome (RadioHAL.sendIndication 1001) >>=
          fun _ => pure .none, _, hfirst, handleIncomingSip_ringing addr hring _, hfirst.later, ?_⟩
        exact Coro.Safe.bind (when_keeps fun _ => RadioHAL.sendIndication_keeps 1001)
          (fun _ => Coro.Safe.pure _) _
      · push Not at hring
        refine ⟨Operation.run (.incoming msg addr), s, .nothing _ s, rfl, Later.refl s, ?_⟩
        exact (handleIncomingSip_keepsAt addr hre hring).bind (fun _ _ _ _ => trivial)
          fun _ _ _ _ => trivial

end

/-! ### Runs of the phone -/

namespace PhonePool

/-- The phone before anything runs. -/
def initial (config : VoLTEConfig) (radioHal : Bool) (radio : RadioHAL) (random : ℕ → Text) :
    PhonePool :=
  { state := Phone.create config radioHal radio random, tasks := [] }

/-- What is seen of call `ref` after a run. -/
def observe {β : Type} (p : PhonePool) (es : List PhoneEvent) (ref : ℕ) (f : VoLTECall → β) :
    Option β :=
  ((runFrom step p es).bind fun p => p.state.callHeap[ref]?).map f

/-- An observation is one of a call at the end of a run. -/
theorem of_observe {β : Type} {p : PhonePool} {es : List PhoneEvent} {ref : ℕ} {f : VoLTECall → β}
    {b : β} (h : observe p es ref f = some b) :
    ∃ p' c, runFrom step p es = some p' ∧ p'.state.callHeap[ref]? = some c ∧ f c = b := by
  obtain ⟨c, hc, hf⟩ := Option.map_eq_some_iff.mp h
  obtain ⟨p', hp', hc⟩ := Option.bind_eq_some_iff.mp hc
  exact ⟨p', c, hp', hc, hf⟩

/-- The methods that run on the phone keep the discipline. -/
def Disciplined (C : VoLTECall → Prop) (p : PhonePool) : Prop :=
  EventLoop.Disciplined (volteDiscipline C) p

/-- A method that is resumed with the response to an INVITE connects only calls with `C`. -/
def Admits (C : VoLTECall → Prop) (p : PhonePool) (e : PhoneEvent) : Prop :=
  phoneLoop.Admits (volteDiscipline C) p e

theorem initial_disciplined (C : VoLTECall → Prop) (config : VoLTEConfig) (radioHal : Bool)
    (radio : RadioHAL) (random : ℕ → Text) : Disciplined C (initial config radioHal radio random) :=
  fun _ h => absurd h List.not_mem_nil

variable {C : VoLTECall → Prop}

theorem expire_micro {s s' : Phone} {i : ℕ} (h : s.expire i = some s') : Micro C s s' := by
  unfold Phone.expire at h
  obtain ⟨client, _, h⟩ := Option.bind_eq_some_iff.mp h
  obtain ⟨c, _, rfl⟩ := Option.map_eq_some_iff.mp h
  exact Micro.other rfl rfl rfl (.of_eq rfl rfl rfl rfl le_rfl)

/-- The request whose sender an event resumes. -/
def resumedRequest (p : PhonePool) : PhoneEvent → Option ℕ
  | .resume n =>
      match p.tasks[n]? with
      | some (.wait (.response i) _) => some i
      | _ => none
  | _ => none

/-- Where the response that resumes a method connects only calls with `C`, the event is admitted. -/
theorem admits_of {p : PhonePool} {e : PhoneEvent} (h : ∀ i ∈ resumedRequest p e,
    ∀ msg ∈ p.state.sipClient.bind (·.response? i), Connects C i msg p.state) : Admits C p e := by
  cases e with
  | spawn op => trivial
  | outside i => trivial
  | resume n =>
      intro w hw _
      cases w with
      | pause => trivial
      | exhausted => trivial
      | response i =>
          refine fun msg hmsg => h i ?_ msg hmsg
          unfold EventLoop.WaitsAt at hw
          unfold resumedRequest
          simp only
          split at hw
          · next w k htask =>
              obtain rfl := hw
              rw [htask]
              rfl
          · exact hw.elim

/-- A condition that asks nothing of the calls is met by every event. -/
theorem admits_true (p : PhonePool) (e : PhoneEvent) : Admits (fun _ => True) p e :=
  admits_of fun _ _ _ _ _ _ _ _ _ => trivial

theorem step_eq {p p' : PhonePool} {e : PhoneEvent} (h : p.step e = some p') :
    phoneLoop.step p e = some p' := by
  unfold step at h
  split_ifs at h
  exact h

/-- The state after an event is the one after the first stretch of the method it starts. -/
theorem step_spawn {p p' : PhonePool} {op : Operation} (h : p.step (.spawn op) = some p') :
    p'.state = (op.run.run p.state).2 := by
  rw [← Option.some.inj (step_eq h)]
  rfl

/-- **One event of the phone.**  The methods keep the discipline, and the state goes through the
first change of an operation and then through `CallChange`s only. -/
theorem step_spec {p p' : PhonePool} {e : PhoneEvent} (hp : Disciplined C p) (he : Admits C p e)
    (h : p.step e = some p') :
    Disciplined C p' ∧ ∃ s₁, (volteDiscipline C).segment s₁ p'.state ∧
      (s₁ = p.state ∨ ∃ op, e = .spawn op ∧ First op p.state s₁) := by
  have hmain : ∀ (op : Operation) (s : Phone), ∃ (c : Async OperationResult) (s₁ : Phone),
      First op s s₁ ∧ (phoneLoop.main op).run s = c.run s₁ ∧ Later s s₁ ∧ KeepsAt C c s₁ :=
    Operation.guarantees C
  obtain ⟨hp', -, hseg⟩ := EventLoop.step_spec (L := phoneLoop) hmain
    (fun s i s' hs => (expire_micro (C := C) hs).later) hp he (step_eq h)
  refine ⟨hp', ?_⟩
  cases e with
  | spawn op =>
      obtain ⟨s₁, hfirst, hseg⟩ := hseg
      exact ⟨s₁, hseg, Or.inr ⟨op, rfl, hfirst⟩⟩
  | resume n => exact ⟨p.state, hseg, Or.inl rfl⟩
  | outside i =>
      exact ⟨p.state, Relation.ReflTransGen.single (expire_micro hseg), Or.inl rfl⟩

/-- **Invariants of the phone.**  What every change keeps, and the first change of every operation
that `cond` allows, is kept by every run whose events `cond` allows. -/
theorem run_invariant {I : Phone → Prop} {cond : PhonePool → PhoneEvent → Prop}
    (hmicro : ∀ {s s'}, Micro C s s' → I s → I s')
    (hfirst : ∀ {p op s₁}, cond p (.spawn op) → First op p.state s₁ → I p.state → I s₁)
    (hresume : ∀ {p e}, cond p e → Admits C p e) {p p' : PhonePool} {es : List PhoneEvent}
    (hp : Disciplined C p) (hI : I p.state) (hcond : Along step cond p es)
    (hr : runFrom step p es = some p') : Disciplined C p' ∧ I p'.state := by
  refine runFrom_invariant step (P := cond) (I := fun p => Disciplined C p ∧ I p.state) ?_ ⟨hp, hI⟩
    hcond hr
  rintro p e p' ⟨hp, hI⟩ he h
  obtain ⟨hp', s₁, hseg, hs₁⟩ := step_spec hp (hresume he) h
  refine ⟨hp', (volteDiscipline C).segment_invariant hmicro hseg ?_⟩
  rcases hs₁ with rfl | ⟨op, rfl, hop⟩
  · exact hI
  · exact hfirst he hop hI

/-- **Invariants of a call.**  What new calls have, and every change, every re-INVITE and every ringing
keeps, holds of every call in every run. -/
theorem run_calls {K : VoLTECall → Prop} {config : VoLTEConfig}
    (hnew : ∀ c, IsNew c → c.Offers config → K c)
    (hchange : ∀ {c c'}, CallChange (fun _ => True) c c' → K c → K c')
    (hremoved : ∀ c, K c → K (c.record fun h => { h with removed := true }))
    (hreinvite : ∀ sdp c, K c → K (c.reinvite sdp))
    (hringing : ∀ c, c.direction = .mo → K c → K (c.setState .ringingOut)) {radioHal : Bool} {radio : RadioHAL}
    {random : ℕ → Text} {es : List PhoneEvent} {p : PhonePool}
    (hr : runFrom step (initial config radioHal radio random) es = some p) :
    ∀ c ∈ p.state.callHeap, K c := by
  have hall : Along step (fun _ _ => True) (initial config radioHal radio random) es :=
    Along.of_forall step (fun _ _ => trivial) _ es
  have hrun := run_invariant (C := fun _ => True)
    (I := fun s => s.config = config ∧ ∀ c ∈ s.callHeap, K c) ?_ ?_ (fun {p e} _ => admits_true p e)
    (initial_disciplined _ config radioHal radio random) ⟨rfl, fun c hc => by cases hc⟩ hall hr
  · exact hrun.2.2
  · rintro s s' h ⟨hconfig, hcalls⟩
    refine ⟨h.config.trans hconfig, ?_⟩
    cases h with
    | other hheap _ _ _ =>
        rw [hheap]
        exact hcalls
    | created c hc hoffers =>
        intro x hx
        rcases List.mem_append.mp hx with hx | hx
        · exact hcalls x hx
        · obtain rfl := List.mem_singleton.mp hx
          exact hnew x hc (hconfig ▸ hoffers)
    | deleted callId => exact hcalls
    | popped _ => exact Phone.forall_modify (fun c _ => hremoved c) hcalls
    | changed ref f hf hheap _ _ _ =>
        rw [hheap]
        exact Phone.forall_modify (fun c hc => hchange (hf c hc)) hcalls
  · rintro p op s₁ - h ⟨hconfig, hcalls⟩
    cases h with
    | nothing => exact ⟨hconfig, hcalls⟩
    | reinvite addr _ => exact ⟨hconfig, Phone.forall_modify (fun c _ => hreinvite _ c) hcalls⟩
    | ringing addr hring =>
        refine ⟨(Phone.ringBack_config _ _).trans hconfig, ?_⟩
        rw [Phone.ringBack_callHeap]
        refine Phone.forall_modify (fun c hc => hringing c ?_) hcalls
        exact Phone.call_eq hc ▸ hring.2.2.2

end PhonePool

end VirtualPhone
