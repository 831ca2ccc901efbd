import VirtualPhone.HoldMirror

/-! # Methods that run alone

One operation at a time is under way; while it waits, only the handlers of responses and the timers
of the client run (`Drifts`).  Each method that starts from the invariant `Mirrored` ends with it.

An accepted REFER of `transfer_call` puts a held call in state ACTIVE and leaves its media session and
its voice call on hold; `Phone.ReferOffHold` says that this does not happen. -/

namespace VirtualPhone

open Runtime
open Coro (get modify raise attempt)
open Async (when whenSome ignore onTimeout)
open VoLTECallManager

/-! ### The contract of an operation -/

/-- The operation sends re-INVITEs, and updates the radio after the response. -/
def Operation.reinvites : Operation → Bool
  | .holdCall _ => true
  | .resumeCall _ => true
  | .swapCalls => true
  | .switchWaitingOrHoldingAndActive _ => true
  | .separateConnection _ => true
  | _ => false

/-- An accepted REFER of the operation puts the call in state ACTIVE. -/
def Operation.transfers : Operation → Bool
  | .transferCall _ _ => true
  | .explicitCallTransfer => true
  | _ => false

/-- The next Call-ID is new. -/
def FreshCallId (s : Phone) : Prop := s.draw 0 ≠ [] ∧ NewCallId s (s.draw 0)

instance (s : Phone) : Decidable (FreshCallId s) := inferInstanceAs (Decidable (_ ∧ _))

/-- A REFER that is accepted is not one for a held call with an active media session. -/
def Phone.ReferOffHold (s : Phone) (i : ℕ) : Prop :=
  ∀ client ∈ s.sipClient, ∀ t ∈ client.calls[i]?, ∀ msg ∈ s.response? i,
    msg.statusCode = some 200 ∨ msg.statusCode = some 202 →
    ∀ ref ∈ s.calls.get? t.cid, (s.call ref).Playing → (s.call ref).state ≠ .held

instance (s : Phone) (i : ℕ) : Decidable (s.ReferOffHold i) :=
  inferInstanceAs (Decidable (∀ _ ∈ _, ∀ _ ∈ _, ∀ _ ∈ _, _ → ∀ _ ∈ _, _))

/-- What is known when a request of an operation is resumed: no late response has crossed the time-out
of a re-INVITE, and no held call is transferred. -/
def Phone.Settles (op : Operation) (s : Phone) (i : ℕ) : Prop :=
  (op.reinvites = true → ¬s.Crossed i) ∧ (op.transfers = true → s.ReferOffHold i)

instance (op : Operation) (s : Phone) (i : ℕ) : Decidable (s.Settles op i) :=
  inferInstanceAs (Decidable ((_ → _) ∧ (_ → _)))

/-- The contract of the operation that is under way. -/
def Operation.contract (op : Operation) : Contract Phone Await where
  rely := Drifts
  guar _ _ := True
  resumes w s := s.ready w = true ∧ FreshCallId s ∧ ∀ i, w = .response i → s.Settles op i
  rely_trans := Drifts.trans

section

variable {op : Operation} {s₀ s : Phone} {α : Type} {callId : Text} {ref : ℕ}

/-! ### Requests and indications -/

theorem sendRequest_drifts {post : Phone → Except PyError SIPMessage → Phone → Prop}
    {args : RequestArgs} (hnone : s.sipClient = none → post s₀ (.error .attributeError) s)
    (h : ∀ s₁ s' r client, s.sipClient = some client → Drifts (s.beginRequest args) s₁ →
      s₁.Settles op client.calls.length → Received s₁ client.calls.length r → Drifts s s' →
      FreshCallId s' → s'.calls = s₁.calls → s'.callHeap = s₁.callHeap → post s₁ r s') :
    (sendRequest args).Meets op.contract post s₀ s := by
  cases hclient : s.sipClient with
  | none =>
      refine Coro.meets_run.mpr ?_
      rw [sendRequest_eq_error hclient]
      exact hnone hclient
  | some client =>
      refine sendRequest_meets hclient (fun h => h.1) trivial ?_
      rintro s₁ r e hrely ⟨-, hfresh, hsettles⟩ hreceived
      have hdrifts := ((Drifts.beginRequest args s).trans hrely).trans (Drifts.modifyClient s₁ e)
      exact h s₁ _ r client hclient hrely (hsettles _ rfl) hreceived hdrifts hfresh rfl rfl

theorem sendRequest_any {post : Phone → Except PyError SIPMessage → Phone → Prop}
    {args : RequestArgs}
    (h : ∀ s₁ s' r, Drifts s s' → (s.sipClient.isSome → FreshCallId s') → post s₁ r s') :
    (sendRequest args).Meets op.contract post s₀ s := by
  refine sendRequest_drifts (fun hnone => ?_) fun s₁ s' r client _ _ _ _ hdrifts hfresh _ _ =>
    h s₁ s' r hdrifts fun _ => hfresh
  refine h s₀ s _ (Drifts.refl s) fun hsome => ?_
  rw [hnone] at hsome
  cases hsome

theorem sendIndication_drifts {post : Phone → Except PyError Unit → Phone → Prop} (indication : ℕ)
    (h : ∀ s', Drifts s s' → FreshCallId s' → post s' (.ok ()) s') :
    (RadioHAL.sendIndication indication).Meets op.contract post s₀ s :=
  ⟨trivial, fun s' hrely hresumes => h s' ((Drifts.indicate s indication).trans hrely) hresumes.2.1⟩

theorem Drifts.ack (s : Phone) (ref : ℕ) :
    Drifts s ((s.send (s.ack ref) s.config.dest).skipDraws 2) :=
  of_eq rfl rfl rfl same_client rfl rfl rfl rfl rfl

theorem Drifts.sendIfClient (s : Phone) (msg : SIPMessage) (addr : Text × ℕ) :
    Drifts s (if s.sipClient.isSome then s.send msg addr else s) := by
  split_ifs
  · exact of_eq rfl rfl rfl same_client rfl rfl rfl rfl rfl
  · exact refl s

/-- The re-INVITE of `hold_call` and `resume_call`: it is answered, or its time is up. -/
theorem sendReinvite_drifts {post : Phone → Except PyError Unit → Phone → Prop} (ref : ℕ)
    (direction : MediaDirection) (hop : op.reinvites = true)
    (h : ∀ s₁ s', Drifts s s' → post s₁ (.ok ()) s') :
    (sendReinvite ref direction).Meets op.contract post s₀ s := by
  refine Coro.meets_get_bind.mpr (when_meets.mpr ⟨fun hready => ?_, fun _ => h s₀ s (Drifts.refl s)⟩)
  refine onTimeout_meets.mpr (Coro.meets_bind.mpr (ignore_meets.mpr (Coro.meets_get_bind.mpr ?_)))
  refine sendRequest_drifts (fun hnone => ?_) ?_
  · rw [hnone] at hready
    cases hready.1
  · intro s₁ s' r client _ _ hsettles hreceived hdrifts _ _ _
    cases hreceived with
    | response _ => exact h s₁ _ (hdrifts.trans (Drifts.ack s' ref))
    | timedOut m _ _ => exact h s₁ s' hdrifts
    | crossed cid _ hcrossed => exact absurd hcrossed (hsettles.1 hop)

/-! ### A switched call and its voice call -/

/-- A call and its media are switched; its voice call is not yet. -/
structure Switched (s : Phone) (callId : Text) (ref : ℕ) : Prop where
  mirrored : Mirrored (some ref) s
  entry : s.calls.get? callId = some ref
  answered : (s.call ref).Answered
  inStep : (s.call ref).InStep
  index : ∀ v ∈ s.radio.voiceCalls, (s.radio.voice v).sipCallId = callId →
    (s.radio.voice v).index = (s.call ref).radioCallIndex

/-- What stays of the table and of the other voice calls while the call of `callId` is switched. -/
structure Spares (callId : Text) (s s' : Phone) : Prop where
  calls : s'.calls = s.calls
  list : s'.radio.voiceCalls = s.radio.voiceCalls
  voice : ∀ v ∈ s.radio.voiceCalls,
    (s'.radio.voice v).sipCallId = (s.radio.voice v).sipCallId ∧
      ((s.radio.voice v).sipCallId = callId ∨ (s.radio.voice v).sipCallId = [] ∨
        (s'.radio.voice v).state = (s.radio.voice v).state ∨ (s'.radio.voice v).state = .alerting)

namespace Spares

theorem trans {a b c : Phone} (h : Spares callId a b) (h' : Spares callId b c) : Spares callId a c := by
  refine ⟨h'.calls.trans h.calls, h'.list.trans h.list, fun v hv => ?_⟩
  obtain ⟨hid, hcase⟩ := h.voice v hv
  obtain ⟨hid', hcase'⟩ := h'.voice v (h.list ▸ hv)
  refine ⟨hid'.trans hid, ?_⟩
  rw [hid] at hcase'
  rcases hcase' with hsip | hsip | hstate | hstate
  · exact Or.inl hsip
  · exact Or.inr (Or.inl hsip)
  · rcases hcase with hsip | hsip | hold | hold
    · exact Or.inl hsip
    · exact Or.inr (Or.inl hsip)
    · exact Or.inr (Or.inr (Or.inl (hstate.trans hold)))
    · exact Or.inr (Or.inr (Or.inr (hstate.trans hold)))
  · exact Or.inr (Or.inr (Or.inr hstate))

end Spares

theorem Stays.spares {s s' : Phone} (h : Stays s s') (callId : Text) : Spares callId s s' := by
  refine ⟨h.calls, h.list, fun v _ => ⟨(h.voice_part v).2.1, ?_⟩⟩
  rcases h.voice v with hv | hv <;> rw [hv]
  · exact Or.inr (Or.inr (Or.inl rfl))
  · exact Or.inr (Or.inr (Or.inr rfl))

namespace Switched

theorem drifts {s' : Phone} (h : Switched s callId ref) (hd : Drifts s s') : Switched s' callId ref := by
  have hstate := hd.toStays.state_eq h.answered.not_early
  refine ⟨h.mirrored.drifts hd, by rw [hd.calls, h.entry], ?_, fun session hm hactive => ?_,
    fun v hv hid => ?_⟩
  · unfold VoLTECall.Answered
    rw [hstate]
    exact h.answered
  · rw [hd.media ref] at hm
    rw [hstate]
    exact h.inStep session hm hactive
  · rw [hd.list] at hv
    obtain ⟨hindex, hsip, -⟩ := hd.toStays.voice_part v
    rw [hsip] at hid
    rw [hindex, (hd.call ref).2.1]
    exact h.index v hv hid

/-- The call fits where its voice call is switched too. -/
theorem restore (h : Switched s callId ref)
    (hvoice : ∀ v ∈ s.radio.voiceCalls, (s.radio.voice v).sipCallId = callId →
      ((s.radio.voice v).state = .holding ↔ (s.call ref).state = .held)) : Mirrored none s := by
  refine h.mirrored.restore fun callId' hr => ?_
  obtain rfl := h.mirrored.callId_eq h.entry hr
  refine ⟨fun hstate => ?_, fun _ => h.answered, h.inStep, fun v hv hid => ⟨h.index v hv hid,
    fun hstate => ?_, fun _ => h.answered, fun _ => hvoice v hv hid⟩⟩ <;>
    · rcases h.answered with ha | ha <;> cases ha.symm.trans hstate

theorem of_switches {state : VoLTECallState} {change : VoLTECall → VoLTECall}
    (h : Mirrored (some ref) s) (hr : s.calls.get? callId = some ref)
    (hindex : ∀ v ∈ s.radio.voiceCalls, (s.radio.voice v).sipCallId = callId →
      (s.radio.voice v).index = (s.call ref).radioCallIndex)
    (hchange : VoLTECall.Switches state change) (hanswered : state = .active ∨ state = .held) :
    Switched (s.modifyCall ref change) callId ref := by
  have hself := Phone.call_modifyCall_self hr change
  refine ⟨?_, hr, ?_, ?_, fun v hv hid => ?_⟩
  · refine h.modifyCall hchange.sipCallId hchange.radioCallIndex fun _ => ?_
    rw [(h.entry callId ref hr).2.1, hr]
  · unfold VoLTECall.Answered
    rw [hself, hchange.state]
    exact hanswered
  · rw [hself]
    exact hchange.inStep _
  · rw [hself, hchange.radioCallIndex]
    exact hindex v hv hid

/-- **The radio is told, and the call fits again.** -/
theorem updateRadio {post : Phone → Except PyError Unit → Phone → Prop} (h : Switched s callId ref)
    {state : CallState} (hstate : state = .holding ↔ (s.call ref).state = .held)
    (hpost : ∀ s₁ s', Mirrored none s' → Spares callId s s' → post s₁ (.ok ()) s') :
    (VirtualPhone.updateRadio ref state).Meets op.contract post s₀ s := by
  refine Coro.meets_get_bind.mpr (when_meets.mpr ⟨fun _ => Coro.meets_get_bind.mpr ?_,
    fun hno => absurd h.mirrored.radioHal hno⟩)
  split
  · next v hv =>
      have hmem := List.mem_of_find?_eq_some hv
      have hfound := List.find?_some hv
      have hindex : (s.radio.voice v).index = (s.call ref).radioCallIndex := of_decide_eq_true hfound
      have hvoice : ∀ w, (s.modifyRadio (RadioHAL.modifyVoice v (VoiceCall.setState state))).radio.voice
          w = if v = w ∧ w < s.radio.voices.length then (s.radio.voice w).setState state
            else s.radio.voice w := fun w => RadioHAL.voice_modifyVoice v w _ s.radio
      have hsip := h.mirrored.bound callId ref h.entry v hmem hindex
      have hmirrored : Mirrored (some ref)
          (s.modifyRadio (RadioHAL.modifyVoice v (VoiceCall.setState state))) := by
        refine h.mirrored.modifyVoice (fun _ => rfl) (fun _ => rfl) fun callId' r hr hne _ hid => ?_
        rcases hsip with hsip | hsip
        · rw [← hid, hsip, h.entry] at hr
          exact absurd hr hne
        · exact absurd (hid.symm.trans hsip) (h.mirrored.entry callId' r hr).1
      have hswitched : Switched (s.modifyRadio (RadioHAL.modifyVoice v (VoiceCall.setState state)))
          callId ref := by
        refine ⟨hmirrored, h.entry, h.answered, h.inStep, fun w hw hid => ?_⟩
        rw [hvoice] at hid ⊢
        split_ifs at hid ⊢ <;> exact h.index w hw hid
      have hrestored : Mirrored none
          (s.modifyRadio (RadioHAL.modifyVoice v (VoiceCall.setState state))) := by
        refine hswitched.restore fun w hw hid => ?_
        have hown : v = w := by
          refine h.mirrored.once v hmem w hw (hindex.trans ?_)
          rw [hvoice] at hid
          split_ifs at hid <;> exact (h.index w hw hid).symm
        rw [hvoice, if_pos ⟨hown, h.mirrored.valid w hw⟩]
        exact hstate
      have hspares : Spares callId s
          (s.modifyRadio (RadioHAL.modifyVoice v (VoiceCall.setState state))) := by
        refine ⟨rfl, rfl, fun w _ => ?_⟩
        rw [hvoice]
        split_ifs with hw
        · obtain ⟨rfl, -⟩ := hw
          exact ⟨rfl, hsip.imp_right Or.inl⟩
        · exact ⟨rfl, Or.inr (Or.inr (Or.inl rfl))⟩
      refine Coro.meets_modify_bind.mpr (sendIndication_drifts 1001 fun s' hdrifts _ => ?_)
      exact hpost s' s' (hrestored.drifts hdrifts) (hspares.trans (hdrifts.toStays.spares callId))
  · next hnone =>
      refine hpost s₀ s (h.restore fun v hv hid => ?_) ((Stays.refl s).spares callId)
      have hfalse := List.find?_eq_none.mp hnone v hv
      exact absurd (decide_eq_true (h.index v hv hid)) hfalse

end Switched

/-! ### Hold and resume -/

/-- What `switchHold` starts from: everything fits, but the call of `callId` where it is in the state
that is switched. -/
structure Loose (s : Phone) (callId : Text) (state : VoLTECallState) : Prop where
  gone : s.calls.get? callId = none → Mirrored none s
  mirrored : ∀ ref, s.calls.get? callId = some ref → Mirrored (some ref) s
  index : ∀ ref, s.calls.get? callId = some ref → ∀ v ∈ s.radio.voiceCalls,
    (s.radio.voice v).sipCallId = callId →
    (s.radio.voice v).index = (s.call ref).radioCallIndex
  other : ∀ ref, s.calls.get? callId = some ref → (s.call ref).state ≠ state → Mirrored none s

theorem Mirrored.loose (h : Mirrored none s) (callId : Text) (state : VoLTECallState) :
    Loose s callId state :=
  ⟨fun _ => h, fun ref _ => h.loosen (some ref),
    fun ref hr v hv hid => ((h.fits callId ref hr nofun).agree v hv hid).index, fun _ _ _ => h⟩

theorem switchHold_mirrors {post : Phone → Except PyError Bool → Phone → Prop}
    {state newState : VoLTECallState} {change finish : VoLTECall → VoLTECall}
    {direction : MediaDirection} {radioState : CallState} (hop : op.reinvites = true)
    (h : Loose s callId state) (hchange : VoLTECall.Switches newState change)
    (hanswered : newState = .active ∨ newState = .held)
    (hradio : radioState = .holding ↔ newState = .held)
    (hpart : ∀ c, (finish c).holdPart = c.holdPart) (hstate : ∀ c, (finish c).state = c.state)
    (hpost : ∀ s₁ s' b, Mirrored none s' → Spares callId s s' → post s₁ (.ok b) s') :
    (switchHold state change finish direction radioState callId).Meets op.contract post s₀ s := by
  refine Coro.meets_get_bind.mpr ?_
  cases hr : s.calls.get? callId with
  | none => exact hpost s₀ s false (h.gone hr) ((Stays.refl s).spares callId)
  | some ref =>
      show (if (s.call ref).state ≠ state then (pure false : Async Bool) else _).Meets op.contract post s₀ s
      split_ifs with hother
      · exact hpost s₀ s false (h.other ref hr hother) ((Stays.refl s).spares callId)
      · have hself := Phone.call_modifyCall_self hr change
        have hswitched : Switched (s.modifyCall ref change) callId ref :=
          Switched.of_switches (h.mirrored ref hr) hr (h.index ref hr) hchange hanswered
        have hspares : Spares callId s (s.modifyCall ref change) :=
          ⟨rfl, rfl, fun v _ => ⟨rfl, Or.inr (Or.inr (Or.inl rfl))⟩⟩
        refine Coro.meets_modify_bind.mpr (Coro.meets_bind.mpr (sendReinvite_drifts ref direction hop ?_))
        intro s₁ s₂ hdrifts
        have hswitched₂ := hswitched.drifts hdrifts
        have hspares₂ := hspares.trans (hdrifts.toStays.spares callId)
        refine Coro.meets_bind.mpr (hswitched₂.updateRadio ?_ ?_)
        · rw [hdrifts.toStays.state_eq hswitched.answered.not_early, hself, hchange.state]
          exact hradio
        · intro s₃ s₄ h₄ h₂₄
          have hfinish := (Drifts.countActive s₄).trans (Drifts.modifyCall s₄.countActive ref hpart hstate)
          refine Coro.meets_modify_bind.mpr (Coro.meets_modify_bind.mpr ?_)
          exact hpost s₃ _ true (h₄.drifts hfinish)
            (hspares₂.trans (h₂₄.trans (hfinish.toStays.spares callId)))

theorem holdCall_mirrors {post : Phone → Except PyError Bool → Phone → Prop}
    (hop : op.reinvites = true) (h : Loose s callId .active)
    (hpost : ∀ s₁ s' b, Mirrored none s' → Spares callId s s' → post s₁ (.ok b) s') :
    (holdCall callId).Meets op.contract post s₀ s :=
  switchHold_mirrors hop h VoLTECall.Switches.hold (Or.inr rfl) (by decide) (fun _ => rfl)
    (fun _ => rfl) hpost

theorem resumeCall_mirrors {post : Phone → Except PyError Bool → Phone → Prop}
    (hop : op.reinvites = true) (h : Mirrored none s)
    (hpost : ∀ s₁ s' b, Mirrored none s' → post s₁ (.ok b) s') :
    (resumeCall callId).Meets op.contract post s₀ s :=
  switchHold_mirrors hop (h.loose callId .held)
    (VoLTECall.Switches.resume (fun _ => rfl) fun _ => rfl) (Or.inl rfl) (by decide) (fun _ => rfl)
    (fun _ => rfl) fun s₁ s' b h' _ => hpost s₁ s' b h'

/-! ### Media -/

theorem VoLTECall.not_playing_addSession {c : VoLTECall} (h : ¬c.Playing) : ¬c.addSession.Playing := by
  rintro ⟨session, hm, hactive⟩
  refine h ⟨session, ?_, hactive⟩
  obtain ⟨m, hmedia, hsession⟩ := Option.bind_eq_some_iff.mp (Option.mem_def.mp hm)
  refine Option.bind_eq_some_iff.mpr ⟨m, hmedia, ?_⟩
  rw [show c.addSession.sessions = c.sessions ++ [{}] from rfl, List.getElem?_append] at hsession
  split_ifs at hsession
  · exact hsession
  · rw [List.mem_singleton.mp (List.mem_of_getElem? hsession)] at hactive
    cases hactive

theorem VoLTECall.not_playing_modifySession {c : VoLTECall} (h : ¬c.Playing) (m : ℕ)
    {f : MediaSession → MediaSession} (hf : ∀ session, (f session).active = true →
      session.active = true) : ¬(c.modifySession m f).Playing := by
  rintro ⟨session, hm, hactive⟩
  obtain ⟨n, hmedia, hsession⟩ := Option.bind_eq_some_iff.mp (Option.mem_def.mp hm)
  rw [show (c.modifySession m f).sessions = c.sessions.modify m f from rfl, List.getElem?_modify]
    at hsession
  obtain ⟨old, hold, heq⟩ := Option.map_eq_some_iff.mp hsession
  refine h ⟨old, Option.bind_eq_some_iff.mpr ⟨n, hmedia, hold⟩, ?_⟩
  split_ifs at heq
  · rw [← heq] at hactive
    exact hf old hactive
  · rw [heq]
    exact hactive

/-- A call that has been answered, and whose voice calls are not on hold. -/
structure Connected (s : Phone) (callId : Text) (ref : ℕ) : Prop where
  mirrored : Mirrored (some ref) s
  entry : s.calls.get? callId = some ref
  active : (s.call ref).state = .active
  voice : ∀ v ∈ s.radio.voiceCalls, (s.radio.voice v).sipCallId = callId →
    (s.radio.voice v).index = (s.call ref).radioCallIndex ∧ (s.radio.voice v).state ≠ .holding

namespace Connected

theorem answered (h : Connected s callId ref) : (s.call ref).Answered := Or.inl h.active

theorem drifts {s' : Phone} (h : Connected s callId ref) (hd : Drifts s s') :
    Connected s' callId ref := by
  refine ⟨h.mirrored.drifts hd, by rw [hd.calls, h.entry],
    (hd.toStays.state_eq h.answered.not_early).trans h.active, fun v hv hid => ?_⟩
  rw [hd.list] at hv
  obtain ⟨hindex, hsip, -⟩ := hd.toStays.voice_part v
  rw [hsip] at hid
  obtain ⟨hold, hstate⟩ := h.voice v hv hid
  refine ⟨by rw [hindex, (hd.call ref).2.1, hold], ?_⟩
  rcases hd.voice v with hv' | hv' <;> rw [hv']
  · exact hstate
  · nofun

theorem restore (h : Connected s callId ref) (hstep : (s.call ref).InStep) : Mirrored none s := by
  have hswitched : Switched s callId ref :=
    ⟨h.mirrored, h.entry, h.answered, hstep, fun v hv hid => (h.voice v hv hid).1⟩
  refine hswitched.restore fun v hv hid => ⟨fun hheld => absurd hheld (h.voice v hv hid).2, fun hheld => ?_⟩
  cases h.active.symm.trans hheld

theorem restore_quiet (h : Connected s callId ref) (hquiet : ¬(s.call ref).Playing) :
    Mirrored none s :=
  h.restore fun session hm hactive => absurd ⟨session, hm, hactive⟩ hquiet

theorem modifyCall (h : Connected s callId ref) {f : VoLTECall → VoLTECall}
    (hid : ∀ c, (f c).sipCallId = c.sipCallId)
    (hindex : ∀ c, (f c).radioCallIndex = c.radioCallIndex)
    (hstate : ∀ c, (f c).state = c.state) : Connected (s.modifyCall ref f) callId ref := by
  have hself := Phone.call_modifyCall_self h.entry f
  refine ⟨h.mirrored.modifyCall hid hindex fun _ => ?_, h.entry, ?_, fun v hv hsip => ?_⟩
  · rw [(h.mirrored.entry callId ref h.entry).2.1, h.entry]
  · rw [hself, hstate]
    exact h.active
  · rw [hself, hindex]
    exact h.voice v hv hsip

end Connected

theorem Stays.modifyCall (s : Phone) (ref : ℕ) {f : VoLTECall → VoLTECall}
    (hid : ∀ c, (f c).sipCallId = c.sipCallId)
    (hindex : ∀ c, (f c).radioCallIndex = c.radioCallIndex)
    (hstate : ∀ c, (f c).state = c.state) : Stays s (s.modifyCall ref f) := by
  refine ⟨rfl, rfl, rfl, fun r => ?_, fun _ => Or.inl rfl⟩
  rw [Phone.call_modifyCall]
  split_ifs
  · exact ⟨hid _, hindex _, Or.inl (hstate _)⟩
  · exact ⟨rfl, rfl, Or.inl rfl⟩

theorem startMedia_mirrors {post : Phone → Except PyError Unit → Phone → Prop}
    (h : Connected s callId ref) (hquiet : ¬(s.call ref).Playing) (hraise : ∀ e, post s₀ (.error e) s)
    (hpost : ∀ s₁ s', Mirrored none s' → Stays s s' → s'.callHeap.length = s.callHeap.length →
      post s₁ (.ok ()) s') : (startMedia ref).Meets op.contract post s₀ s := by
  have hsame := fun s₁ => hpost s₁ s (h.restore_quiet hquiet) (Stays.refl s) rfl
  refine startMedia_meets (hsame s₀) (fun _ => hraise) fun remoteAddr payloadType => ?_
  obtain ⟨n, hn⟩ : ∃ n, n = (s.call ref).sessions.length := ⟨_, rfl⟩
  let configure := MediaSession.configure (s.call ref).rtpPort remoteAddr
    (s.call ref).codec payloadType
  obtain ⟨s₁, hs₁⟩ : ∃ s₁, s₁ = (s.modifyCall ref VoLTECall.addSession).modifyCall ref
    (VoLTECall.modifySession n configure) := ⟨_, rfl⟩
  have h₁ : Connected s₁ callId ref := by
    rw [hs₁]
    have hadd := h.modifyCall (f := VoLTECall.addSession) (fun _ => rfl) (fun _ => rfl) fun _ => rfl
    exact hadd.modifyCall (f := VoLTECall.modifySession n configure) (fun _ => rfl)
      (fun _ => rfl) fun _ => rfl
  have hstays₁ : Stays s s₁ := by
    rw [hs₁]
    have hadd := Stays.modifyCall s ref (f := VoLTECall.addSession) (fun _ => rfl)
      (fun _ => rfl) fun _ => rfl
    exact hadd.trans (Stays.modifyCall _ ref (f := VoLTECall.modifySession n configure)
      (fun _ => rfl) (fun _ => rfl) fun _ => rfl)
  have hcall₁ : s₁.call ref = ((s.call ref).addSession).modifySession n configure := by
    rw [hs₁, Phone.call_modifyCall_self (s := s.modifyCall ref VoLTECall.addSession) h.entry,
      Phone.call_modifyCall_self h.entry]
  have hlength₁ : s₁.callHeap.length = s.callHeap.length := by
    rw [hs₁, Phone.modifyCall_callHeap, Phone.modifyCall_callHeap, List.length_modify,
      List.length_modify]
  have hquiet₁ : ¬(s₁.call ref).Playing := by
    rw [hcall₁]
    exact VoLTECall.not_playing_modifySession (VoLTECall.not_playing_addSession hquiet) n
      fun _ => id
  have hsession₁ : (s₁.call ref).sessions[n]? = some (configure {}) := by
    rw [hcall₁, hn]
    show (((s.call ref).sessions ++ [({} : MediaSession)]).modify _ _)[_]? = _
    rw [List.getElem?_modify_eq, List.getElem?_concat_length]
    rfl
  refine Coro.meets_modify_bind.mpr (Coro.meets_bind.mpr (Coro.meets_attempt.mpr ?_))
  rw [← hn]
  refine Coro.meets_modify_bind.mpr (Coro.meets_await_bind.mpr ⟨trivial, fun s₂ hd₂ _ => ?_⟩)
  replace hd₂ : Drifts s₁ s₂ := hs₁ ▸ hd₂
  have hover : ∀ s' s₃, Drifts s₁ s₃ → post s' (.ok ()) s₃ := fun s' s₃ hd =>
    hpost s' s₃ ((h₁.drifts hd).restore_quiet (mt (hd.playing ref).mp hquiet₁))
      (hstays₁.trans hd.toStays) (hd.heap.trans hlength₁)
  split
  · exact hover s₂ s₂ hd₂
  · refine Coro.meets_await_bind.mpr ⟨trivial, fun s₃ hd₃ _ => ?_⟩
    have hd₃ := hd₂.trans hd₃
    split
    · exact hover s₃ s₃ hd₃
    · have h₃ := h₁.drifts hd₃
      have hactive := h₃.modifyCall (f := VoLTECall.modifySession n (MediaSession.setActive true))
        (fun _ => rfl) (fun _ => rfl) fun _ => rfl
      have hset := hactive.modifyCall (f := VoLTECall.setMediaSession (some n))
        (fun _ => rfl) (fun _ => rfl) fun _ => rfl
      have hstays₃ := (hstays₁.trans hd₃.toStays).trans ((Stays.modifyCall s₃ ref
        (f := VoLTECall.modifySession n (MediaSession.setActive true)) (fun _ => rfl)
        (fun _ => rfl) fun _ => rfl).trans (Stays.modifyCall _ ref
        (f := VoLTECall.setMediaSession (some n)) (fun _ => rfl) (fun _ => rfl) fun _ => rfl))
      refine hpost s₃ _ (hset.restore fun session hm _ => ?_) hstays₃ ?_
      · have hpart := hd₃.part ref
        simp only [VoLTECall.holdPart, Prod.mk.injEq] at hpart
        obtain ⟨-, -, -, hsessions, -⟩ := hpart
        rw [Phone.call_modifyCall_self (s := s₃.modifyCall ref _) h₃.entry,
          Phone.call_modifyCall_self h₃.entry] at hm ⊢
        replace hm : ((s₃.call ref).sessions.modify n (MediaSession.setActive true))[n]? =
          some session := hm
        rw [List.getElem?_modify_eq, hsessions, hsession₁] at hm
        rw [← Option.some.inj hm]
        show false = true ↔ (s₃.call ref).state = .held
        rw [h₃.active]
        exact iff_of_false Bool.false_ne_true (by rintro ⟨⟩)
      · rw [Phone.modifyCall_callHeap, Phone.modifyCall_callHeap, List.length_modify,
          List.length_modify]
        exact hd₃.heap.trans hlength₁

/-! ### Calls that leave the table -/

/-- The table gets new calls only, and the calls stay. -/
structure TableGrows (s s' : Phone) : Prop where
  heap : s.callHeap.length ≤ s'.callHeap.length
  calls : ∀ callId r, s'.calls.get? callId = some r →
    s.calls.get? callId = some r ∨ s.callHeap.length ≤ r

/-- The call is not in the table, and will not be. -/
structure Away (ref : ℕ) (s : Phone) : Prop where
  there : ref < s.callHeap.length
  gone : ∀ callId, s.calls.get? callId ≠ some ref

theorem TableGrows.refl (s : Phone) : TableGrows s s := ⟨le_rfl, fun _ _ => Or.inl⟩

theorem TableGrows.trans {a b c : Phone} (h : TableGrows a b) (h' : TableGrows b c) : TableGrows a c := by
  refine ⟨h.heap.trans h'.heap, fun callId r hr => ?_⟩
  rcases h'.calls callId r hr with hr | hr
  · exact h.calls callId r hr
  · exact Or.inr (h.heap.trans hr)

theorem TableGrows.of_eq {s s' : Phone} (hheap : s'.callHeap.length = s.callHeap.length)
    (hcalls : s'.calls = s.calls) : TableGrows s s' := ⟨hheap.ge, fun _ _ hr => Or.inl (hcalls ▸ hr)⟩

theorem Drifts.grows {s s' : Phone} (h : Drifts s s') : TableGrows s s' := .of_eq h.heap h.calls

theorem TableGrows.modifyCall (s : Phone) (ref : ℕ) (f : VoLTECall → VoLTECall) :
    TableGrows s (s.modifyCall ref f) := .of_eq (List.length_modify ..) rfl

theorem TableGrows.delCall (s : Phone) (callId : Text) : TableGrows s (s.delCall callId) := by
  refine ⟨le_rfl, fun callId' r hr => Or.inl ?_⟩
  rw [show (s.delCall callId).calls = s.calls.erase callId from rfl, Dict.get?_erase] at hr
  split_ifs at hr
  exact hr

theorem Away.grows {s' : Phone} (h : Away ref s) (hg : TableGrows s s') : Away ref s' := by
  refine ⟨h.there.trans_le hg.heap, fun callId hr => ?_⟩
  rcases hg.calls callId ref hr with hr | hr
  · exact h.gone callId hr
  · exact absurd h.there (Nat.not_lt.mpr hr)

theorem Mirrored.modifyAway (h : Mirrored none s) (haway : Away ref s) {f : VoLTECall → VoLTECall}
    (hquiet : ¬(f (s.call ref)).Playing) : Mirrored none (s.modifyCall ref f) := by
  have hcall : ∀ {callId r}, s.calls.get? callId = some r → (s.modifyCall ref f).call r = s.call r := by
    intro callId r hr
    refine Phone.call_modifyCall_ne ?_ f s
    rintro rfl
    exact haway.gone callId hr
  refine ⟨h.radioHal, h.callManager, h.client, h.valid, h.next, h.range, h.once, fun callId r hr => ?_,
    fun callId r hr v hv hv' => ?_, fun callId r callId' r' hr hr' v hv hv₁ hv₂ => ?_,
    fun r hplaying => ?_, fun callId r hr _ => ?_⟩
  · rw [hcall hr]
    exact h.entry callId r hr
  · rw [hcall hr] at hv'
    exact h.bound callId r hr v hv hv'
  · rw [hcall hr] at hv₁
    rw [hcall hr'] at hv₂
    exact h.unique callId r callId' r' hr hr' v hv hv₁ hv₂
  · rw [Phone.call_modifyCall] at hplaying ⊢
    split_ifs at hplaying ⊢ with href
    · obtain ⟨rfl, -⟩ := href
      exact absurd hplaying hquiet
    · exact h.quiet r hplaying
  · rw [hcall hr]
    obtain ⟨hringing, hplaying, hstep, hagree⟩ := h.fits callId r hr nofun
    exact ⟨hringing, hplaying, hstep, hagree⟩

theorem Mirrored.not_playing_away (h : Mirrored none s) (haway : Away ref s) :
    ¬(s.call ref).Playing := fun hplaying => haway.gone _ (h.quiet ref hplaying)

theorem VoLTECall.not_playing_stop {c : VoLTECall} {m : ℕ} (hm : c.mediaSession = some m) :
    ¬(c.modifySession m (MediaSession.setActive false)).Playing := by
  rintro ⟨session, hsession, hactive⟩
  obtain ⟨n, hn, hsession⟩ := Option.bind_eq_some_iff.mp (Option.mem_def.mp hsession)
  obtain rfl : m = n := Option.some.inj (hm.symm.trans hn)
  rw [show (c.modifySession m (MediaSession.setActive false)).sessions = c.sessions.modify m _ from rfl,
    List.getElem?_modify_eq] at hsession
  obtain ⟨old, -, rfl⟩ := Option.map_eq_some_iff.mp hsession
  cases hactive

theorem VoLTECall.not_playing_none {c : VoLTECall} (hm : c.mediaSession = none) : ¬c.Playing := by
  rintro ⟨session, hsession, -⟩
  rw [VoLTECall.media, hm] at hsession
  cases hsession

theorem popCall_mirrors {post : Phone → Except PyError Unit → Phone → Prop} (h : Mirrored none s)
    (hr : s.calls.get? callId = some ref)
    (hpost : ∀ s₁ s', Mirrored none s' → Away ref s' → s'.radio.voiceCalls = s.radio.voiceCalls →
      post s₁ (.ok ()) s') :
    (stopMedia ref).Meets op.contract post s₀ (s.popCall callId ref) := by
  have haway : ∀ f : VoLTECall → VoLTECall, Away ref ((s.delCall callId).modifyCall ref f) := by
    intro f
    refine ⟨?_, fun callId' hr' => ?_⟩
    · rw [Phone.modifyCall_callHeap, List.length_modify]
      exact s.valid callId ref hr
    · rw [show ((s.delCall callId).modifyCall ref f).calls = s.calls.erase callId from rfl,
        Dict.get?_erase] at hr'
      split_ifs at hr' with hne
      exact hne (h.callId_eq hr hr').symm
  have hcall : (s.popCall callId ref).call ref =
      (s.call ref).record fun h => { h with removed := true } := by
    refine (Phone.call_modifyCall ref ref _ (s.delCall callId)).trans (if_pos ⟨rfl, s.valid callId ref hr⟩)
  refine Coro.meets_get_bind.mpr ?_
  rw [hcall]
  split
  · next m hm =>
      have hpop := h.popCall (f := fun c => (c.record fun h => { h with removed := true }).modifySession
        m (MediaSession.setActive false)) hr (fun _ => rfl) (fun _ => rfl)
        (VoLTECall.not_playing_stop hm)
      have heq : (s.popCall callId ref).modifyCall ref
          (VoLTECall.modifySession m (MediaSession.setActive false)) =
          (s.delCall callId).modifyCall ref fun c =>
            (c.record fun h => { h with removed := true }).modifySession m
              (MediaSession.setActive false) := by
        simp only [Phone.popCall, Phone.modifyCall, List.modify_modify_eq, Function.comp_def]
      refine Coro.meets_bind.mpr (Coro.meets_modify_bind.mpr ?_)
      rw [heq]
      refine ⟨trivial, fun s₁ hrely _ => ?_⟩
      have h₁ := hpop.drifts hrely
      have haway₁ := (haway _).grows hrely.grows
      have hset := TableGrows.modifyCall s₁ ref (VoLTECall.setMediaSession none)
      exact hpost s₁ _ (h₁.modifyAway haway₁ (VoLTECall.not_playing_none rfl)) (haway₁.grows hset)
        hrely.list
  · next hm =>
      have hpop := h.popCall (f := VoLTECall.record fun h => { h with removed := true }) hr
        (fun _ => rfl) (fun _ => rfl) (VoLTECall.not_playing_none hm)
      exact hpost s₀ _ hpop (haway _) rfl

theorem hangupCall_mirrors {post : Phone → Except PyError Bool → Phone → Prop} (h : Mirrored none s)
    (hpost : ∀ s₁ s' r, Mirrored none s' → (∀ ref, s.calls.get? callId = some ref →
      Away ref s' ∧ (s'.started = true → FreshCallId s')) → post s₁ r s') :
    (hangupCall callId).Meets op.contract post s₀ s := by
  refine Coro.meets_get_bind.mpr ?_
  split
  · next hnone =>
      refine hpost s₀ s _ h fun ref hr => ?_
      rw [hnone] at hr
      cases hr
  · next ref hr =>
      have hone : ∀ {s'}, Away ref s' → (s'.started = true → FreshCallId s') →
          ∀ ref', s.calls.get? callId = some ref' →
            Away ref' s' ∧ (s'.started = true → FreshCallId s') := by
        intro s' haway hfresh ref' hr'
        obtain rfl := Option.some.inj (hr.symm.trans hr')
        exact ⟨haway, hfresh⟩
      refine Coro.meets_modify_bind.mpr (Coro.meets_bind.mpr (popCall_mirrors h hr ?_))
      intro s₁ s₂ h₂ haway _
      refine Coro.meets_get_bind.mpr ?_
      split_ifs with hready
      · have hend := TableGrows.modifyCall s₂ ref (VoLTECall.setState .terminating)
        have h₃ := h₂.modifyAway haway (f := VoLTECall.setState .terminating)
          (h₂.not_playing_away haway)
        have haway₃ := haway.grows hend
        refine Coro.meets_modify_bind.mpr (Coro.meets_bind.mpr (onTimeout_meets.mpr ?_))
        refine ignore_meets.mpr (Coro.meets_get_bind.mpr (sendRequest_any ?_))
        intro s₄ s₅ r hdrifts hfresh
        have h₅ := h₃.drifts hdrifts
        have haway₅ := haway₃.grows hdrifts.grows
        have hlast := fun r => hpost s₄ s₅.countActive r (h₅.drifts (Drifts.countActive s₅))
          (hone (haway₅.grows (Drifts.countActive s₅).grows) fun _ => hfresh hready.1)
        cases r with
        | ok msg => exact hlast _
        | error e =>
            cases e with
            | timeoutError m => exact hlast _
            | _ => exact hpost s₄ s₅ _ h₅ (hone haway₅ fun _ => hfresh hready.1)
      · exact hpost s₁ s₂ _ h₂ (hone haway fun hstarted => absurd ⟨h₂.client hstarted, hstarted⟩ hready)

/-! ### Outgoing calls -/

/-- The call of `callId` is ACTIVE, and its voice call, the one with index `idx`, is not on hold. -/
structure Joined (s s' : Phone) (idx : ℕ) (callId : Text) : Prop where
  call : ∃ ref, s'.calls.get? callId = some ref ∧ (s'.call ref).state = .active ∧
    (s'.call ref).radioCallIndex = idx
  index : ∀ v, (s'.radio.voice v).index = (s.radio.voice v).index
  voice : ∀ v ∈ s'.radio.voiceCalls, (s'.radio.voice v).index = idx →
    (s'.radio.voice v).state ≠ .holding

/-- The voice calls with index `idx` have no Call-ID, are not on hold, and belong to no other call. -/
def Unnamed (s : Phone) (idx : ℕ) : Prop :=
  ∀ v ∈ s.radio.voiceCalls, (s.radio.voice v).index = idx → (s.radio.voice v).sipCallId = [] ∧
    (s.radio.voice v).state ≠ .holding ∧
    ∀ callId r, s.calls.get? callId = some r → (s.call r).radioCallIndex ≠ idx

instance (s : Phone) (idx : ℕ) : Decidable (Unnamed s idx) :=
  have : Decidable (∀ callId r, s.calls.get? callId = some r → (s.call r).radioCallIndex ≠ idx) :=
    decidable_of_iff
      (∀ callId ∈ s.calls.keys, ∀ r ∈ s.calls.get? callId, (s.call r).radioCallIndex ≠ idx)
      ⟨fun h callId r hr => h callId (Dict.mem_keys_of_get? hr) r hr,
        fun h callId _ r hr => h callId r hr⟩
  inferInstanceAs (Decidable (∀ _ ∈ _, _ → _ ∧ _ ∧ _))

/-- The call of `callId` was answered, and has no media yet; before, the phone was in state `s`. -/
structure Setup (s : Phone) (callId : Text) (ref idx : ℕ) (s' : Phone) : Prop where
  connected : Connected s' callId ref
  quiet : ¬(s'.call ref).Playing
  own : (s'.call ref).radioCallIndex = idx
  index : ∀ v, (s'.radio.voice v).index = (s.radio.voice v).index
  unnamed : ∀ v ∈ s'.radio.voiceCalls, (s'.radio.voice v).index = idx →
    (s'.radio.voice v).sipCallId = [] ∧ (s'.radio.voice v).state ≠ .holding
  grows : TableGrows s s'

namespace Setup

variable {idx : ℕ} {s' : Phone}

theorem drifts {s'' : Phone} (h : Setup s callId ref idx s') (hd : Drifts s' s'') :
    Setup s callId ref idx s'' := by
  refine ⟨h.connected.drifts hd, mt (hd.playing ref).mp h.quiet, (hd.call ref).2.1.trans h.own,
    fun v => (hd.toStays.voice_part v).1.trans (h.index v), fun v hv hindex => ?_,
    h.grows.trans hd.grows⟩
  rw [hd.list] at hv
  rw [(hd.toStays.voice_part v).1] at hindex
  rw [(hd.toStays.voice_part v).2.1]
  obtain ⟨hid, hstate⟩ := h.unnamed v hv hindex
  refine ⟨hid, ?_⟩
  rcases hd.voice v with hvoice | hvoice <;> rw [hvoice]
  · exact hstate
  · nofun

theorem setActive (h : Setup s callId ref idx s') {v : ℕ} (hv : v ∈ s'.radio.voiceCalls)
    (hindex : (s'.radio.voice v).index = idx) :
    Setup s callId ref idx (s'.modifyRadio (RadioHAL.modifyVoice v (VoiceCall.setState .active))) := by
  have hvoice : ∀ w, (s'.modifyRadio (RadioHAL.modifyVoice v (VoiceCall.setState .active))).radio.voice
      w = if v = w ∧ w < s'.radio.voices.length then (s'.radio.voice w).setState .active
        else s'.radio.voice w := fun w => RadioHAL.voice_modifyVoice v w _ s'.radio
  have hpart : ∀ w, ((s'.modifyRadio (RadioHAL.modifyVoice v
        (VoiceCall.setState .active))).radio.voice w).index = (s'.radio.voice w).index ∧
      ((s'.modifyRadio (RadioHAL.modifyVoice v (VoiceCall.setState .active))).radio.voice
        w).sipCallId = (s'.radio.voice w).sipCallId := by
    intro w
    rw [hvoice]
    split_ifs <;> exact ⟨rfl, rfl⟩
  have hmirrored : Mirrored (some ref)
      (s'.modifyRadio (RadioHAL.modifyVoice v (VoiceCall.setState .active))) := by
    refine h.connected.mirrored.modifyVoice (fun _ => rfl) (fun _ => rfl) fun callId' r hr _ _ hid => ?_
    have hnone := (h.unnamed v hv hindex).1
    exact absurd (hid.symm.trans hnone) (h.connected.mirrored.entry callId' r hr).1
  have hnotholding : ∀ w, (s'.radio.voice w).state ≠ .holding →
      ((s'.modifyRadio (RadioHAL.modifyVoice v (VoiceCall.setState .active))).radio.voice w).state ≠
        .holding := by
    intro w hw
    rw [hvoice]
    split_ifs
    · nofun
    · exact hw
  refine ⟨⟨hmirrored, h.connected.entry, h.connected.active, fun w hw hid => ?_⟩, h.quiet, h.own,
    fun w => (hpart w).1.trans (h.index w), fun w hw hi => ?_, h.grows.trans (TableGrows.of_eq rfl rfl)⟩
  · rw [(hpart w).2] at hid
    obtain ⟨hi, hstate⟩ := h.connected.voice w hw hid
    exact ⟨(hpart w).1.trans hi, hnotholding w hstate⟩
  · rw [(hpart w).1] at hi
    rw [(hpart w).2]
    exact (h.unnamed w hw hi).imp_right (hnotholding w)

theorem joined {s'' : Phone} (h : Setup s callId ref idx s') (hstays : Stays s' s'') :
    Joined s s'' idx callId := by
  refine ⟨⟨ref, by rw [hstays.calls, h.connected.entry],
    (hstays.state_eq h.connected.answered.not_early).trans h.connected.active,
    (hstays.call ref).2.1.trans h.own⟩,
    fun v => (hstays.voice_part v).1.trans (h.index v), fun v hv hindex => ?_⟩
  rw [hstays.list] at hv
  rw [(hstays.voice_part v).1] at hindex
  rcases hstays.voice v with hv' | hv' <;> rw [hv']
  · exact (h.unnamed v hv hindex).2
  · nofun

end Setup

theorem dropInvite_mirrors {post : Phone → Except PyError (Option Text) → Phone → Prop}
    (h : Mirrored none s) (hentry : s.calls.get? callId = some ref) (hquiet : ¬(s.call ref).Playing)
    (hpost : ∀ s₁ s' r, Mirrored none s' → TableGrows s s' → (r = .ok none ∨ ∃ k, r = .error (.keyError k)) →
      post s₁ r s') :
    (do
      delCall callId
      return none : Async (Option Text)).Meets op.contract post s₀ s := by
  refine Coro.meets_bind.mpr (Coro.meets_get_bind.mpr ?_)
  split_ifs
  · exact hpost s₀ _ _ ((h.loosen (some ref)).delCall hentry hquiet) (TableGrows.delCall s _) (Or.inl rfl)
  · exact hpost s₀ s _ h (TableGrows.refl s) (Or.inr ⟨_, rfl⟩)

/-- What is left of an INVITE with a 200 when the radio has been told. -/
theorem finishSetup_mirrors {post : Phone → Except PyError (Option Text) → Phone → Prop} {idx : ℕ}
    {s₁ : Phone} (h : Setup s callId ref idx s₁)
    (hpost : ∀ s₂ s' r, Mirrored none s' → TableGrows s s' →
      (∀ id, r = .ok (some id) → Joined s s' idx id) → post s₂ r s') :
    (do
      modify Phone.countActive
      modify fun s => s.countCall (s.call ref).codec
      startMedia ref
      return some callId : Async (Option Text)).Meets op.contract
      (handled op.contract (do
        delCall callId
        return none) post) s₀ s₁ := by
  have hcount : Drifts s₁ (s₁.countActive.countCall (s₁.countActive.call ref).codec) :=
    Drifts.of_eq rfl rfl rfl Drifts.same_client rfl rfl rfl rfl rfl
  have h₂ := h.drifts hcount
  refine Coro.meets_modify_bind.mpr (Coro.meets_modify_bind.mpr (Coro.meets_bind.mpr ?_))
  refine startMedia_mirrors h₂.connected h₂.quiet (fun e => ?_) fun s₃ s₄ h₄ hstays hlength => ?_
  · have hmirrored := h₂.connected.restore_quiet h₂.quiet
    cases e with
    | timeoutError m =>
        refine dropInvite_mirrors hmirrored h₂.connected.entry h₂.quiet fun s₅ s₆ r h₆ hg hr => ?_
        refine hpost s₅ s₆ r h₆ (h₂.grows.trans hg) fun id hid => ?_
        rcases hr with rfl | ⟨k, rfl⟩ <;> cases hid
    | _ => exact hpost s₀ _ _ hmirrored h₂.grows nofun
  · refine hpost s₃ s₄ _ h₄ (h₂.grows.trans (TableGrows.of_eq hlength hstays.calls)) fun id hid => ?_
    obtain rfl : callId = id := by
      injection hid with hid
      injection hid
    exact h₂.joined hstays

section

variable {idx : ℕ} {s₁ s₂ : Phone} {c : VoLTECall}

theorem VoLTECallManager.Invited.grows (hinvited : Invited s s₁ c) : TableGrows s s₁ := by
  refine ⟨by rw [hinvited.heap]; simp, fun callId r hr => ?_⟩
  rw [hinvited.calls, Dict.get?_set] at hr
  split_ifs at hr
  · exact Or.inr (Option.some.inj hr).le
  · exact Or.inl hr

theorem VoLTECallManager.Invited.mirrored (hinvited : Invited s s₁ c) (h : Mirrored none s) (hfresh : FreshCallId s)
    (hstate : c.state = .initiating) (hindex : c.radioCallIndex < s.radio.nextCallIndex)
    (hvoice : Unnamed s c.radioCallIndex) : Mirrored none s₁ := by
  obtain ⟨hne, hnew⟩ := hfresh
  have hid : c.sipCallId = s.draw 0 := hinvited.sipCallId
  refine h.enter hinvited.heap ?_ hinvited.radio hinvited.radioHal hinvited.started ?_ ?_ ?_ hindex ?_
    hinvited.media.2 ?_
  · rw [hid]
    exact hinvited.calls
  · rw [hinvited.client]
    exact id
  · rwa [hid]
  · rwa [hid]
  · exact fun v hv hvindex => ⟨(hvoice v hv hvindex).1, (hvoice v hv hvindex).2.2⟩
  · intro hring
    cases hstate.symm.trans hring

theorem VoLTECallManager.Invited.setup (hinvited : Invited s s₁ c) (hd : Drifts s₁ s₂) (h : Mirrored none s₂)
    (hnew : NewCallId s (inviteCallId s)) (hindex : c.radioCallIndex = idx) (hvoice : Unnamed s idx)
    (body : Bytes) : Setup s (inviteCallId s) s.callHeap.length idx
      (s₂.modifyCall s.callHeap.length (VoLTECall.connect body)) := by
  have hcall : s₁.call s.callHeap.length = c := by rw [Phone.call_append hinvited.heap, if_pos rfl]
  have hentry : s₂.calls.get? (inviteCallId s) = some s.callHeap.length := by
    rw [hd.calls, hinvited.calls, Dict.get?_set_self]
  have hself := Phone.call_modifyCall_self hentry (VoLTECall.connect body)
  have hvindex : ∀ v, (s₂.radio.voice v).index = (s.radio.voice v).index := by
    intro v
    rw [(hd.toStays.voice_part v).1, hinvited.radio]
  have hunnamed : ∀ v ∈ s₂.radio.voiceCalls, (s₂.radio.voice v).sipCallId ≠ inviteCallId s := by
    intro v hv
    rw [hd.list, hinvited.radio] at hv
    rw [(hd.toStays.voice_part v).2.1, hinvited.radio]
    exact hnew.2 v hv
  refine ⟨⟨(h.loosen (some s.callHeap.length)).modifyCall (fun _ => rfl) (fun _ => rfl) fun _ => ?_,
    hentry, by rw [hself]; rfl, fun v hv hsip => absurd hsip (hunnamed v hv)⟩, ?_, ?_,
    hvindex, fun v hv hvidx => ?_,
    (hinvited.grows.trans hd.grows).trans (TableGrows.modifyCall s₂ s.callHeap.length _)⟩
  · rw [(h.entry _ _ hentry).2.1, hentry]
  · rw [hself]
    refine fun hplaying => VoLTECall.not_playing_none hinvited.media.2 ?_
    rw [← hcall]
    exact (hd.playing _).mp hplaying
  · rw [hself]
    exact (hd.call _).2.1.trans (by rw [hcall, hindex])
  · replace hv : v ∈ s₂.radio.voiceCalls := hv
    replace hvidx : (s₂.radio.voice v).index = idx := hvidx
    rw [hd.list, hinvited.radio] at hv
    rw [hvindex] at hvidx
    obtain ⟨hsip, hstate, -⟩ := hvoice v hv hvidx
    show (s₂.radio.voice v).sipCallId = [] ∧ (s₂.radio.voice v).state ≠ .holding
    rw [(hd.toStays.voice_part v).2.1, hinvited.radio]
    refine ⟨hsip, ?_⟩
    rcases hd.voice v with hv' | hv' <;> rw [hv']
    · rw [hinvited.radio]
      exact hstate
    · rintro ⟨⟩

end

theorem initiateCall_mirrors {post : Phone → Except PyError (Option Text) → Phone → Prop}
    (number : Text) {idx : ℕ} (h : Mirrored none s) (hfresh : s.started = true → FreshCallId s)
    (hidx : idx < s.radio.nextCallIndex) (hvoice : Unnamed s idx)
    (hpost : ∀ s₁ s' r, Mirrored none s' → TableGrows s s' →
      (∀ callId, r = .ok (some callId) → Joined s s' idx callId) → post s₁ r s') :
    (initiateCall number idx).Meets op.contract post s₀ s := by
  cases hstarted : s.started with
  | false =>
      refine Coro.meets_get_bind.mpr ?_
      rw [if_pos hstarted]
      exact hpost s₀ s _ h (TableGrows.refl s) fun callId hid => by cases hid
  | true =>
      obtain ⟨hne, hnew⟩ := hfresh hstarted
      refine initiateCall_meets number idx hstarted fun args s₁ c hinvited hc => ?_
      have hentered : Mirrored none s₁ :=
        hinvited.mirrored h ⟨hne, hnew⟩ hc.1 (by rwa [hc.2]) (by rwa [hc.2])
      have hgrows := hinvited.grows
      refine onTimeout_meets.mpr (Coro.meets_bind.mpr (sendRequest_drifts (fun hnone => ?_) ?_))
      · exact hpost s₀ s₁ _ hentered hgrows fun callId hid => by cases hid
      intro s₂ s₃ r client _ _ _ hreceived hd _ _ _
      have h₃ := hentered.drifts hd
      have hg₃ := hgrows.trans hd.grows
      have hentry₃ : s₃.calls.get? (inviteCallId s) = some s.callHeap.length := by
        rw [hd.calls, hinvited.calls, Dict.get?_set_self]
      have hquiet₃ : ¬(s₃.call s.callHeap.length).Playing := by
        rw [hd.playing, Phone.call_append hinvited.heap, if_pos rfl]
        exact VoLTECall.not_playing_none hinvited.media.2
      have hdropped : ∀ s₄ s₅ r, Mirrored none s₅ → TableGrows s₃ s₅ →
          (r = .ok none ∨ ∃ k, r = .error (.keyError k)) → post s₄ r s₅ := by
        intro s₄ s₅ r h₅ hg hr
        refine hpost s₄ s₅ r h₅ (hg₃.trans hg) fun callId hid => ?_
        rcases hr with rfl | ⟨k, rfl⟩ <;> cases hid
      cases hreceived with
      | timedOut m _ _ => exact dropInvite_mirrors h₃ hentry₃ hquiet₃ hdropped
      | crossed cid _ _ => exact hpost s₂ s₃ _ h₃ hg₃ fun callId hid => by cases hid
      | @response msg _ =>
          show (finishInvite s.callHeap.length idx (inviteCallId s) msg).Meets op.contract
            (handled op.contract _ post) s₂ s₃
          unfold finishInvite
          split
          · have hsetup := hinvited.setup hd h₃ hnew hc.2 hvoice msg.body
            have h₅ := hsetup.drifts (Drifts.ack _ s.callHeap.length)
            refine Coro.meets_modify_bind.mpr (Coro.meets_modify_bind.mpr (Coro.meets_get_bind.mpr ?_))
            refine Coro.meets_bind.mpr (when_meets.mpr ⟨fun _ => Coro.meets_get_bind.mpr ?_,
              fun hno => absurd h₅.connected.mirrored.radioHal hno⟩)
            split
            · next v hv =>
                have hfound := List.find?_some hv
                have h₆ := h₅.setActive (List.mem_of_find?_eq_some hv) (of_decide_eq_true hfound)
                refine Coro.meets_modify_bind.mpr (sendIndication_drifts 1001 fun s₇ hd₇ _ => ?_)
                exact finishSetup_mirrors (h₆.drifts hd₇) hpost
            · exact finishSetup_mirrors h₅ hpost
          · refine dropInvite_mirrors h₃ hentry₃ hquiet₃ fun s₄ s₅ r h₅ hg hr => ?_
            rcases hr with rfl | ⟨k, rfl⟩
            · exact hdropped s₄ s₅ _ h₅ hg (Or.inl rfl)
            · exact hdropped s₄ s₅ _ h₅ hg (Or.inr ⟨k, rfl⟩)

end

end VirtualPhone
