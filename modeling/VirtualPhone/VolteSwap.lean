import VirtualPhone.CallCounter
import VirtualPhone.ExplicitTransfer
import VirtualPhone.VolteDialogs

/-! # Holding, resuming and swapping calls

`hold_call` and `resume_call` change three objects of a call: the call itself, its media session
and its voice call.  Against the network they do so whatever becomes of the re-INVITE
(`switchHold_against`), and always return True.

`swap_exchanges` shows that `swap_calls` exchanges a call in state ACTIVE and a call in state HELD,
and that a second swap undoes the first.  `failed_switch_not_undone` shows that a hold or a resume
that the network rejects is not undone: the response is not looked at. -/

namespace VirtualPhone

open Runtime
open Coro (get modify raise attempt)
open Async (when whenSome ignore onTimeout)

theorem find?_eq_of_unique {α : Type} {l : List α} {p : α → Bool} {a : α} (ha : a ∈ l)
    (h : ∀ b ∈ l, p b = true ↔ b = a) : l.find? p = some a := by
  cases hfind : l.find? p with
  | none => exact absurd ((h a ha).mpr rfl) (List.find?_eq_none.mp hfind a ha)
  | some b => rw [(h b (List.mem_of_find?_eq_some hfind)).mp (List.find?_some hfind)]

/-! ### The radio's side -/

namespace RadioHAL

/-- The radio after `update_call_state(call_index, new_state)`. -/
def withCallState (callIndex : ℕ) (newState : CallState) (r : RadioHAL) : RadioHAL :=
  match r.find? (·.index = callIndex) with
  | some v => (r.modifyVoice v (VoiceCall.setState newState)).indicate 1001
  | none => r

theorem updateCallState_against (outcome : ℕ → RequestOutcome) (callIndex : ℕ) (newState : CallState)
    (s : Phone) : (updateCallState callIndex newState).against (network outcome) s =
      (.ok (), s.modifyRadio (withCallState callIndex newState)) := by
  unfold updateCallState withCallState
  rw [Coro.against_get_bind, Phone.modifyRadio]
  cases s.radio.find? (·.index = callIndex) with
  | none => rfl
  | some v => rfl

end RadioHAL

theorem updateRadio_against (outcome : ℕ → RequestOutcome) (ref : ℕ) (state : CallState) (s : Phone) :
    (updateRadio ref state).against (network outcome) s =
      (.ok (), if s.radioHal then
        s.modifyRadio (RadioHAL.withCallState (s.call ref).radioCallIndex state) else s) := by
  unfold updateRadio Async.when
  rw [Coro.against_get_bind]
  by_cases hradio : s.radioHal = true
  · rw [if_pos hradio, if_pos hradio]
    exact RadioHAL.updateCallState_against outcome _ state s
  · rw [if_neg hradio, if_neg hradio]
    rfl

/-! ### One switch -/

theorem Phone.Asked.trans {k l : ℕ} {a b c : Phone} (h : a.Asked k b) (h' : b.Asked l c) :
    a.Asked (k + l) c := by
  refine ⟨h'.config.trans h.config, h'.radioHal.trans h.radioHal, h'.radio.trans h.radio,
    h'.started.trans h.started, h'.callHeap.trans h.callHeap, h'.calls.trans h.calls, ?_⟩
  rw [h'.requests, h.requests, Option.map_map]
  exact congrArg (Option.map · a.requests) (funext fun n => Nat.add_assoc n k l)

theorem Phone.Asked.ack (ref : ℕ) (s : Phone) :
    s.Asked 0 ((s.send (s.ack ref) s.config.dest).skipDraws 2) :=
  ⟨rfl, rfl, rfl, rfl, rfl, rfl, (Option.map_id_apply).symm⟩

namespace VoLTECallManager

/-- A re-INVITE changes nothing but the client, whatever becomes of it. -/
theorem sendReinvite_against (outcome : ℕ → RequestOutcome) (ref : ℕ) (direction : MediaDirection)
    (s : Phone) :
    ∃ s' k, (sendReinvite ref direction).against (network outcome) s = (.ok (), s') ∧ s.Asked k s' := by
  unfold sendReinvite
  rw [Coro.against_get_bind]
  dsimp only
  obtain ⟨sdp, hsdp⟩ : ∃ sdp, sdp = encodeUtf8
      (buildSdpOffer s.config.mediaIp (s.call ref).rtpPort s.config.codecPriority direction) := ⟨_, rfl⟩
  rw [← hsdp]
  unfold Async.when
  split_ifs with hsend
  · obtain ⟨client, hclient⟩ := Option.isSome_iff_exists.mp hsend.1
    obtain ⟨args, hargs⟩ : ∃ args, (sendDialogRequest ref "INVITE"
        [("Content-Type".toList, "application/sdp".toList)] sdp).against (network outcome) s =
          (sendRequest args).against (network outcome) s := ⟨_, rfl⟩
    obtain ⟨r, s₁, hsent, hasked, hgives⟩ := sendRequest_against outcome args hclient
    rw [← hargs] at hsent
    cases houtcome : outcome client.calls.length with
    | timeout =>
        rw [houtcome] at hgives
        obtain ⟨m, rfl⟩ := hgives
        refine ⟨s₁, 1, ?_, hasked⟩
        exact onTimeout_against_timeout (Coro.against_bind_error (ignore_against hsent) _) _
    | final code hcode headers body =>
        rw [houtcome] at hgives
        obtain ⟨msg, rfl, -⟩ := hgives
        have hack : (sendAck ref).against (network outcome) s₁ =
            (.ok (), (s₁.send (s₁.ack ref) s₁.config.dest).skipDraws 2) := rfl
        exact ⟨_, 1, onTimeout_against ((Coro.against_bind_ok (ignore_against hsent) _).trans hack)
          (fun m h => by cases h) _, hasked.trans (.ack ref s₁)⟩
  · exact ⟨s, 0, rfl, rfl, rfl, rfl, rfl, rfl, rfl, (Option.map_id_apply).symm⟩

end VoLTECallManager

/-- The phone after `hold_call` or `resume_call`: call `ref` has changed, and the voice call it names
is in another state. -/
structure Phone.Switched (ref : ℕ) (change : VoLTECall → VoLTECall) (radioState : CallState)
    (s s' : Phone) : Prop where
  radioHal : s'.radioHal = s.radioHal
  calls : s'.calls = s.calls
  callHeap : s'.callHeap = s.callHeap.modify ref change
  radio : s'.radio =
    if s.radioHal then s.radio.withCallState (s.call ref).radioCallIndex radioState else s.radio
  counted : s'.Counted

namespace VoLTECallManager

/-- **A switch.**  Whatever becomes of the re-INVITE, the call is switched, and the result is True. -/
theorem switchHold_against (outcome : ℕ → RequestOutcome) {state : VoLTECallState}
    {change finish : VoLTECall → VoLTECall} {direction : MediaDirection} {radioState : CallState}
    {callId : Text} {ref : ℕ} {s : Phone} (hchange : ∀ c, (change c).radioCallIndex = c.radioCallIndex)
    (hfinish : ∀ c, (finish c).state = c.state) (href : s.calls.get? callId = some ref)
    (hstate : (s.call ref).state = state) :
    ∃ s', (switchHold state change finish direction radioState callId).against (network outcome) s =
      (.ok true, s') ∧ s.Switched ref (finish ∘ change) radioState s' := by
  obtain ⟨s₁, hs₁⟩ : ∃ s₁, s₁ = s.modifyCall ref change := ⟨_, rfl⟩
  obtain ⟨s₂, k, hreinvite, hasked⟩ := sendReinvite_against outcome ref direction s₁
  have hvalid := s.valid callId ref href
  have hcall : s₂.call ref = change (s.call ref) := by
    rw [Phone.call, hasked.callHeap, hs₁]
    exact Phone.call_modifyCall_self href change
  unfold switchHold
  rw [Coro.against_get_bind]
  simp only [href, hstate, ne_eq, not_true_eq_false, if_false]
  unfold VirtualPhone.modifyCall
  rw [Coro.against_modify_bind, ← hs₁, Coro.against_bind_ok hreinvite,
    Coro.against_bind_ok (updateRadio_against outcome ref radioState s₂), hcall, hchange]
  have hkept : s₂.radioHal = s.radioHal ∧ s₂.calls = s.calls ∧
      s₂.callHeap = s.callHeap.modify ref change ∧ s₂.radio = s.radio := by
    rw [hasked.radioHal, hasked.calls, hasked.callHeap, hasked.radio, hs₁]
    exact ⟨rfl, rfl, rfl, rfl⟩
  obtain ⟨hhal, hcalls, hheap, hradio⟩ := hkept
  obtain ⟨s₃, hs₃⟩ : ∃ s₃, s₃ = if s₂.radioHal then
      s₂.modifyRadio (RadioHAL.withCallState (s.call ref).radioCallIndex radioState) else s₂ := ⟨_, rfl⟩
  rw [← hs₃]
  have hupdated : s₃.radioHal = s.radioHal ∧ s₃.calls = s.calls ∧
      s₃.callHeap = s.callHeap.modify ref change ∧ s₃.radio =
        if s.radioHal then s.radio.withCallState (s.call ref).radioCallIndex radioState else s.radio := by
    rw [hs₃, hhal]
    by_cases h : s.radioHal = true
    · rw [if_pos h, if_pos h, Phone.modifyRadio, hradio]
      exact ⟨hhal, hcalls, hheap, rfl⟩
    · rw [if_neg h, if_neg h]
      exact ⟨hhal, hcalls, hheap, hradio⟩
  obtain ⟨hhal₃, hcalls₃, hheap₃, hradio₃⟩ := hupdated
  refine ⟨s₃.countActive.modifyCall ref finish, rfl, hhal₃, hcalls₃, ?_, hradio₃, ?_⟩
  · show s₃.callHeap.modify ref finish = _
    rw [hheap₃, List.modify_modify_eq]
  · exact (Phone.countActive_counted s₃).modifyCall fun _ => by rw [hfinish]

end VoLTECallManager

/-! ### What a switch does -/

namespace VoLTECall

/-- What `hold_call` does to its call. -/
def putOnHold (c : VoLTECall) : VoLTECall :=
  (c.hold.record fun h => { h with everHeld := true }).record fun h => { h with locallyHeld := true }

/-- What `resume_call` does to its call. -/
def takeOffHold (c : VoLTECall) : VoLTECall := c.resume.release

/-- The media session's hold flag. -/
def mediaHeld (c : VoLTECall) : Option Bool := c.media.map MediaSession.held

/-- A change to hold state `state`: the media session, if it is active, is held or not. -/
structure SwitchesTo (state : VoLTECallState) (held : Bool) (change : VoLTECall → VoLTECall) :
    Prop where
  state : ∀ c, (change c).state = state
  sipCallId : ∀ c, (change c).sipCallId = c.sipCallId
  radioCallIndex : ∀ c, (change c).radioCallIndex = c.radioCallIndex
  playing : ∀ c : VoLTECall, c.Playing → (change c).Playing
  mediaHeld : ∀ c : VoLTECall, c.Playing → (change c).mediaHeld = some held

theorem onMedia_radioCallIndex (f : MediaSession → MediaSession) (c : VoLTECall) :
    (c.onMedia f).radioCallIndex = c.radioCallIndex := by
  unfold onMedia
  split <;> rfl

theorem putOnHold_switches : SwitchesTo .held true putOnHold := by
  have hmedia : ∀ c : VoLTECall, c.putOnHold.media = c.media.map MediaSession.hold :=
    fun c => media_onMedia _ (c.setState .held)
  refine ⟨fun c => onMedia_state _ (c.setState .held),
    fun c => onMedia_sipCallId _ (c.setState .held),
    fun c => onMedia_radioCallIndex _ (c.setState .held), fun c hplaying => ?_, fun c hplaying => ?_⟩
  · obtain ⟨session, hsession, hactive⟩ := hplaying
    exact ⟨session.hold, by rw [hmedia, hsession]; rfl, (hold_active session).1.trans hactive⟩
  · obtain ⟨session, hsession, hactive⟩ := hplaying
    rw [mediaHeld, hmedia, hsession, Option.map_some, Option.map_some, (hold_active session).2 hactive]

theorem takeOffHold_switches : SwitchesTo .active false takeOffHold := by
  have hmedia : ∀ c : VoLTECall, c.takeOffHold.media = c.media.map MediaSession.resume :=
    fun c => media_onMedia _ (c.setState .active)
  refine ⟨fun c => onMedia_state _ (c.setState .active),
    fun c => onMedia_sipCallId _ (c.setState .active),
    fun c => onMedia_radioCallIndex _ (c.setState .active), fun c hplaying => ?_, fun c hplaying => ?_⟩
  · obtain ⟨session, hsession, hactive⟩ := hplaying
    exact ⟨session.resume, by rw [hmedia, hsession]; rfl, (resume_active session).1.trans hactive⟩
  · obtain ⟨session, hsession, hactive⟩ := hplaying
    rw [mediaHeld, hmedia, hsession, Option.map_some, Option.map_some,
      (resume_active session).2 hactive]

end VoLTECall

namespace VoLTECallManager

variable (outcome : ℕ → RequestOutcome) {callId : Text} {ref : ℕ} {s : Phone}
  (href : s.calls.get? callId = some ref)

include href

theorem holdCall_against (hstate : (s.call ref).state = .active) :
    ∃ s', (holdCall callId).against (network outcome) s = (.ok true, s') ∧
      s.Switched ref VoLTECall.putOnHold .holding s' :=
  switchHold_against outcome VoLTECall.putOnHold_switches.radioCallIndex (fun _ => rfl) href hstate

theorem resumeCall_against (hstate : (s.call ref).state = .held) :
    ∃ s', (resumeCall callId).against (network outcome) s = (.ok true, s') ∧
      s.Switched ref VoLTECall.takeOffHold .active s' :=
  switchHold_against outcome VoLTECall.takeOffHold_switches.radioCallIndex (fun _ => rfl) href hstate

end VoLTECallManager

/-! ### The radio's side of a switch -/

namespace RadioHAL

variable (callIndex : ℕ) (newState : CallState) (r : RadioHAL)

theorem withCallState_voice (v : ℕ) : (r.withCallState callIndex newState).voice v =
    if r.find? (·.index = callIndex) = some v ∧ v < r.voices.length then
      (r.voice v).setState newState else r.voice v := by
  unfold withCallState
  cases hfind : r.find? (·.index = callIndex) with
  | none => rw [if_neg fun h => by cases h.1]
  | some w =>
      show (r.modifyVoice w (VoiceCall.setState newState)).voice v = _
      simp only [voice_modifyVoice, Option.some.injEq]

theorem withCallState_voiceCalls : (r.withCallState callIndex newState).voiceCalls = r.voiceCalls := by
  unfold withCallState
  split <;> rfl

theorem withCallState_index (v : ℕ) :
    ((r.withCallState callIndex newState).voice v).index = (r.voice v).index := by
  rw [withCallState_voice]
  split_ifs
  · rfl
  · rfl

theorem withCallState_length :
    (r.withCallState callIndex newState).voices.length = r.voices.length := by
  unfold withCallState
  split
  · exact List.length_modify _ _ _
  · rfl

end RadioHAL

namespace Phone

/-- The voice call that a call names by its index. -/
def voiceOf (s : Phone) (ref : ℕ) : Option ℕ := s.radio.find? (·.index = (s.call ref).radioCallIndex)

/-- The state of that voice call. -/
def voiceState (s : Phone) (ref : ℕ) : Option CallState :=
  (s.voiceOf ref).map fun v => (s.radio.voice v).state

/-- What switches leave alone: the table, the list of voice calls, and which voice call a call
names. -/
structure Retains (s s' : Phone) : Prop where
  radioHal : s'.radioHal = s.radioHal
  calls : s'.calls = s.calls
  heap : s'.callHeap.length = s.callHeap.length
  voices : s'.radio.voices.length = s.radio.voices.length
  voiceCalls : s'.radio.voiceCalls = s.radio.voiceCalls
  index : ∀ v, (s'.radio.voice v).index = (s.radio.voice v).index
  sipCallId : ∀ ref, (s'.call ref).sipCallId = (s.call ref).sipCallId
  radioCallIndex : ∀ ref, (s'.call ref).radioCallIndex = (s.call ref).radioCallIndex
  playing : ∀ ref, (s.call ref).Playing → (s'.call ref).Playing

theorem Retains.trans {a b c : Phone} (h : a.Retains b) (h' : b.Retains c) : a.Retains c where
  radioHal := h'.radioHal.trans h.radioHal
  calls := h'.calls.trans h.calls
  heap := h'.heap.trans h.heap
  voices := h'.voices.trans h.voices
  voiceCalls := h'.voiceCalls.trans h.voiceCalls
  index v := (h'.index v).trans (h.index v)
  sipCallId ref := (h'.sipCallId ref).trans (h.sipCallId ref)
  radioCallIndex ref := (h'.radioCallIndex ref).trans (h.radioCallIndex ref)
  playing ref hplaying := h'.playing ref (h.playing ref hplaying)

theorem Retains.keyed {s s' : Phone} (h : s.Retains s') (hs : s.Keyed) : s'.Keyed := by
  intro callId ref hget
  obtain ⟨c', hc'⟩ : ∃ c', s'.callHeap[ref]? = some c' :=
    ⟨_, List.getElem?_eq_getElem (s'.valid callId ref hget)⟩
  rw [h.calls] at hget
  obtain ⟨c, hc, hid⟩ := hs callId ref hget
  refine ⟨c', hc', ?_⟩
  show c'.sipCallId = callId
  rw [← call_eq hc', h.sipCallId, call_eq hc, hid]

theorem Retains.voiceOf {s s' : Phone} (h : s.Retains s') (ref : ℕ) :
    s'.voiceOf ref = s.voiceOf ref := by
  unfold Phone.voiceOf RadioHAL.find?
  rw [h.voiceCalls, h.radioCallIndex]
  simp only [h.index]

namespace Switched

variable {ref : ℕ} {state : VoLTECallState} {held : Bool} {change : VoLTECall → VoLTECall}
  {radioState : CallState} {s s' : Phone}

theorem call (h : s.Switched ref change radioState s') (r : ℕ) : s'.call r =
    if ref = r ∧ r < s.callHeap.length then change (s.call r) else s.call r := by
  rw [← call_modifyCall]
  exact congrArg (·.getD r {}) h.callHeap

theorem call_ne (h : s.Switched ref change radioState s') {r : ℕ} (hr : r ≠ ref) :
    s'.call r = s.call r := by
  rw [h.call, if_neg fun h' => hr h'.1.symm]

theorem retains (hchange : VoLTECall.SwitchesTo state held change)
    (h : s.Switched ref change radioState s') : s.Retains s' := by
  have hcalls : ∀ r, s'.call r = change (s.call r) ∨ s'.call r = s.call r := by
    intro r
    rw [h.call]
    split_ifs
    · exact Or.inl rfl
    · exact Or.inr rfl
  refine ⟨h.radioHal, h.calls, ?_, ?_, ?_, fun v => ?_, fun r => ?_, fun r => ?_, fun r hplaying => ?_⟩
  · rw [h.callHeap, List.length_modify]
  · rw [h.radio]
    split_ifs
    · exact RadioHAL.withCallState_length _ _ _
    · rfl
  · rw [h.radio]
    split_ifs
    · exact RadioHAL.withCallState_voiceCalls _ _ _
    · rfl
  · rw [h.radio]
    split_ifs
    · exact RadioHAL.withCallState_index _ _ _ v
    · rfl
  · rcases hcalls r with hr | hr
    · rw [hr, hchange.sipCallId]
    · rw [hr]
  · rcases hcalls r with hr | hr
    · rw [hr, hchange.radioCallIndex]
    · rw [hr]
  · rcases hcalls r with hr | hr
    · rw [hr]
      exact hchange.playing _ hplaying
    · rw [hr]
      exact hplaying

theorem voice (h : s.Switched ref change radioState s') (hradio : s.radioHal = true) (v : ℕ) :
    s'.radio.voice v = if s.voiceOf ref = some v ∧ v < s.radio.voices.length then
      (s.radio.voice v).setState radioState else s.radio.voice v := by
  rw [h.radio, if_pos hradio]
  exact RadioHAL.withCallState_voice _ _ _ v

end Switched

/-! ### Swapping -/

/-- A phone with call `active` in state ACTIVE, call `held` in state HELD and the other calls in other
states, whose media sessions and voice calls agree with that. -/
structure Swappable (active held : ℕ) (s : Phone) : Prop where
  keyed : s.Keyed
  radioHal : s.radioHal = true
  activeListed : active ∈ s.calls.values
  heldListed : held ∈ s.calls.values
  /-- Exactly one call is ACTIVE. -/
  isActive : ∀ ref ∈ s.calls.values, (s.call ref).state = .active ↔ ref = active
  /-- Exactly one call is HELD. -/
  isHeld : ∀ ref ∈ s.calls.values, (s.call ref).state = .held ↔ ref = held
  /-- Each call names its own voice call. -/
  named : ∀ ref ∈ s.calls.values, ∃ v, s.voiceOf ref = some v
  distinct : ∀ ref ∈ s.calls.values, ∀ ref' ∈ s.calls.values,
    (s.call ref).radioCallIndex = (s.call ref').radioCallIndex → ref = ref'
  /-- The media sessions are started. -/
  activePlaying : (s.call active).Playing
  heldPlaying : (s.call held).Playing
  /-- Media are held, and voice calls HOLDING and ACTIVE, as the calls are. -/
  mediaHeld : ∀ ref ∈ s.calls.values, ∀ flag ∈ (s.call ref).mediaHeld,
    flag = true ↔ (s.call ref).state = .held
  holding : ∀ ref ∈ s.calls.values, s.voiceState ref = some .holding ↔ (s.call ref).state = .held
  voiceActive : ∀ ref ∈ s.calls.values, s.voiceState ref = some .active ↔ (s.call ref).state = .active

/-- Calls `a` and `b` have exchanged their state, media hold flag and voice call state, and the other
calls and voice calls are as before. -/
structure Exchanged (a b : ℕ) (s s' : Phone) : Prop where
  retains : s.Retains s'
  state : (s'.call a).state = (s.call b).state ∧ (s'.call b).state = (s.call a).state
  mediaHeld : (s'.call a).mediaHeld = (s.call b).mediaHeld ∧
    (s'.call b).mediaHeld = (s.call a).mediaHeld
  voiceState : s'.voiceState a = s.voiceState b ∧ s'.voiceState b = s.voiceState a
  others : ∀ ref, ref ≠ a → ref ≠ b → s'.call ref = s.call ref
  otherVoices : ∀ v, s.voiceOf a ≠ some v → s.voiceOf b ≠ some v → s'.radio.voice v = s.radio.voice v

/-- Every call has the state, the media hold flag and the voice call state it had. -/
structure Restored (s s' : Phone) : Prop where
  retains : s.Retains s'
  state : ∀ ref, (s'.call ref).state = (s.call ref).state
  mediaHeld : ∀ ref, (s'.call ref).mediaHeld = (s.call ref).mediaHeld
  voiceState : ∀ v, (s'.radio.voice v).state = (s.radio.voice v).state

theorem state_of_voiceState {s s' : Phone} (h : s.Retains s') {ref v : ℕ} (hv : s.voiceOf ref = some v)
    (hstate : s'.voiceState ref = s.voiceState ref) :
    (s'.radio.voice v).state = (s.radio.voice v).state := by
  rw [voiceState, voiceState, h.voiceOf, hv] at hstate
  exact Option.some.inj hstate

theorem voice_lt {s : Phone} {ref v : ℕ} {state : CallState} (hv : s.voiceOf ref = some v)
    (hstate : s.voiceState ref = some state) (hne : state ≠ .dialing) : v < s.radio.voices.length := by
  rw [voiceState, hv, Option.map_some] at hstate
  by_contra hlt
  refine hne ((Option.some.inj hstate).symm.trans ?_)
  rw [RadioHAL.voice, List.getD_eq_getElem?_getD, List.getElem?_eq_none (Nat.not_lt.mp hlt)]
  rfl

theorem Switched.voiceState_self {ref : ℕ} {change : VoLTECall → VoLTECall}
    {radioState before : CallState} {s s₁ : Phone} (h : s.Switched ref change radioState s₁)
    (hretains : s.Retains s₁) (hradio : s.radioHal = true) (hbefore : s.voiceState ref = some before)
    (hne : before ≠ .dialing) :
    s₁.voiceState ref = some radioState := by
  cases hv : s.voiceOf ref with
  | none => rw [voiceState, hv] at hbefore; cases hbefore
  | some v =>
      rw [voiceState, hretains.voiceOf, hv, Option.map_some, h.voice hradio,
        if_pos ⟨hv, voice_lt hv hbefore hne⟩]
      rfl

/-- A switch of another call leaves the state of a voice call alone. -/
theorem Switched.voiceState_ne {ref r : ℕ} {change : VoLTECall → VoLTECall} {radioState : CallState}
    {s s₁ : Phone} (h : s.Switched ref change radioState s₁) (hretains : s.Retains s₁)
    (hradio : s.radioHal = true) (hne : ∀ v, s.voiceOf r = some v → s.voiceOf ref ≠ some v) :
    s₁.voiceState r = s.voiceState r := by
  rw [voiceState, voiceState, hretains.voiceOf]
  cases hv : s.voiceOf r with
  | none => rfl
  | some v => rw [Option.map_some, Option.map_some, h.voice hradio, if_neg fun h' => hne v hv h'.1]

theorem Exchanged.twice {a b : ℕ} {s s' s'' : Phone} (h : s.Exchanged a b s')
    (h' : s'.Exchanged b a s'') : s.Restored s'' := by
  have hretains := h.retains.trans h'.retains
  have hcall : ∀ ref, ref ≠ a → ref ≠ b → s''.call ref = s.call ref := fun ref ha hb =>
    (h'.others ref hb ha).trans (h.others ref ha hb)
  refine ⟨hretains, fun ref => ?_, fun ref => ?_, fun v => ?_⟩
  · by_cases ha : ref = a
    · rw [ha, h'.state.2, h.state.2]
    · by_cases hb : ref = b
      · rw [hb, h'.state.1, h.state.1]
      · rw [hcall ref ha hb]
  · by_cases ha : ref = a
    · rw [ha, h'.mediaHeld.2, h.mediaHeld.2]
    · by_cases hb : ref = b
      · rw [hb, h'.mediaHeld.1, h.mediaHeld.1]
      · rw [hcall ref ha hb]
  · by_cases ha : s.voiceOf a = some v
    · exact state_of_voiceState hretains ha (h'.voiceState.2.trans h.voiceState.2)
    · by_cases hb : s.voiceOf b = some v
      · exact state_of_voiceState hretains hb (h'.voiceState.1.trans h.voiceState.1)
      · rw [h'.otherVoices v (by rwa [h.retains.voiceOf]) (by rwa [h.retains.voiceOf]),
          h.otherVoices v ha hb]

namespace Swappable

variable {active held : ℕ} {s : Phone} (hs : s.Swappable active held)

include hs

theorem active_ne_held : active ≠ held := by
  intro h
  have hactive := (hs.isActive active hs.activeListed).mpr rfl
  have hheld := (hs.isHeld active hs.activeListed).mpr h
  rw [hactive] at hheld
  cases hheld

theorem get?_callId {ref : ℕ} (h : ref ∈ s.calls.values) :
    s.calls.get? (s.call ref).sipCallId = some ref := by
  obtain ⟨callId, hget⟩ := (Dict.mem_values_iff _ _).mp h
  obtain ⟨c, hc, hid⟩ := hs.keyed callId ref hget
  rw [call_eq hc, hid]
  exact hget

theorem firstCall_active : s.firstCall .active = some active :=
  find?_eq_of_unique hs.activeListed fun ref href => by
    rw [decide_eq_true_eq]
    exact hs.isActive ref href

theorem firstCall_held : s.firstCall .held = some held :=
  find?_eq_of_unique hs.heldListed fun ref href => by
    rw [decide_eq_true_eq]
    exact hs.isHeld ref href

theorem voiceOf_ne {ref ref' v : ℕ} (href : ref ∈ s.calls.values) (href' : ref' ∈ s.calls.values)
    (hne : ref ≠ ref') (h : s.voiceOf ref = some v) : s.voiceOf ref' ≠ some v := by
  intro h'
  have hindex := List.find?_some h
  have hindex' := List.find?_some h'
  rw [decide_eq_true_eq] at hindex hindex'
  exact hne (hs.distinct ref href ref' href' (hindex.symm.trans hindex'))

theorem lt {ref : ℕ} (h : ref ∈ s.calls.values) : ref < s.callHeap.length :=
  s.valid _ ref (hs.get?_callId h)

theorem mediaHeld_active : (s.call active).mediaHeld = some false := by
  obtain ⟨session, hsession, -⟩ := hs.activePlaying
  have hflag : (s.call active).mediaHeld = some session.held := by
    rw [VoLTECall.mediaHeld, hsession, Option.map_some]
  have hiff := hs.mediaHeld active hs.activeListed _ hflag
  rw [(hs.isActive active hs.activeListed).mpr rfl] at hiff
  have hfalse : session.held = false := Bool.eq_false_iff.mpr fun h => by cases hiff.mp h
  rw [hflag, hfalse]

theorem mediaHeld_held : (s.call held).mediaHeld = some true := by
  obtain ⟨session, hsession, -⟩ := hs.heldPlaying
  have hflag : (s.call held).mediaHeld = some session.held := by
    rw [VoLTECall.mediaHeld, hsession, Option.map_some]
  have hiff := hs.mediaHeld held hs.heldListed _ hflag
  rw [hflag, hiff.mpr ((hs.isHeld held hs.heldListed).mpr rfl)]

theorem exchanged {s₁ s' : Phone} (h₁ : s.Switched active VoLTECall.putOnHold .holding s₁)
    (h₂ : s₁.Switched held VoLTECall.takeOffHold .active s') : s.Exchanged active held s' := by
  have hretains₁ := h₁.retains VoLTECall.putOnHold_switches
  have hretains₂ := h₂.retains VoLTECall.takeOffHold_switches
  have hne := hs.active_ne_held
  have hradio₁ : s₁.radioHal = true := hretains₁.radioHal.trans hs.radioHal
  have hactive : s'.call active = (s.call active).putOnHold := by
    rw [h₂.call_ne hne, h₁.call, if_pos ⟨rfl, hs.lt hs.activeListed⟩]
  have hheld : s'.call held = (s.call held).takeOffHold := by
    have hlt : held < s₁.callHeap.length := hretains₁.heap.symm ▸ hs.lt hs.heldListed
    rw [h₂.call, if_pos ⟨rfl, hlt⟩, h₁.call_ne hne.symm]
  have hstates := And.intro ((hs.isActive active hs.activeListed).mpr rfl)
    ((hs.isHeld held hs.heldListed).mpr rfl)
  have hflags := And.intro (hs.mediaHeld_active) (hs.mediaHeld_held)
  have hholding := (hs.holding held hs.heldListed).mpr hstates.2
  have hvoiceActive := (hs.voiceActive active hs.activeListed).mpr hstates.1
  have hapart : ∀ v, s.voiceOf held = some v → s.voiceOf active ≠ some v :=
    fun v => hs.voiceOf_ne hs.heldListed hs.activeListed hne.symm
  have hapart₁ : ∀ v, s₁.voiceOf active = some v → s₁.voiceOf held ≠ some v := by
    intro v
    rw [hretains₁.voiceOf, hretains₁.voiceOf]
    exact hs.voiceOf_ne hs.activeListed hs.heldListed hne
  have hvoice₁ := h₁.voiceState_self hretains₁ hs.radioHal hvoiceActive (by decide)
  have hvoice₁' := (h₁.voiceState_ne hretains₁ hs.radioHal hapart).trans hholding
  refine ⟨hretains₁.trans hretains₂, ⟨?_, ?_⟩, ⟨?_, ?_⟩, ⟨?_, ?_⟩, fun ref ha hb => ?_,
    fun v ha hb => ?_⟩
  · rw [hactive, VoLTECall.putOnHold_switches.state, hstates.2]
  · rw [hheld, VoLTECall.takeOffHold_switches.state, hstates.1]
  · rw [hactive, VoLTECall.putOnHold_switches.mediaHeld _ hs.activePlaying, hflags.2]
  · rw [hheld, VoLTECall.takeOffHold_switches.mediaHeld _ hs.heldPlaying, hflags.1]
  · rw [h₂.voiceState_ne hretains₂ hradio₁ hapart₁, hvoice₁, hholding]
  · rw [h₂.voiceState_self hretains₂ hradio₁ hvoice₁' (by decide), hvoiceActive]
  · rw [h₂.call_ne hb, h₁.call_ne ha]
  · have hb₁ : s₁.voiceOf held ≠ some v := by rwa [hretains₁.voiceOf]
    rw [h₂.voice hradio₁, if_neg fun h => hb₁ h.1, h₁.voice hs.radioHal, if_neg fun h => ha h.1]

theorem of_exchanged {s' : Phone} (h : s.Exchanged active held s') : s'.Swappable held active := by
  have hactive := (hs.isActive active hs.activeListed).mpr rfl
  have hheld := (hs.isHeld held hs.heldListed).mpr rfl
  have hne := hs.active_ne_held
  have hcases : ∀ ref ∈ s.calls.values, ref = active ∨ ref = held ∨
      ref ≠ active ∧ ref ≠ held ∧ s'.call ref = s.call ref ∧ s'.voiceState ref = s.voiceState ref := by
    intro ref href
    by_cases ha : ref = active
    · exact Or.inl ha
    · by_cases hb : ref = held
      · exact Or.inr (Or.inl hb)
      · refine Or.inr (Or.inr ⟨ha, hb, h.others ref ha hb, ?_⟩)
        obtain ⟨v, hv⟩ := hs.named ref href
        rw [voiceState, voiceState, h.retains.voiceOf, hv, Option.map_some, Option.map_some,
          h.otherVoices v (hs.voiceOf_ne href hs.activeListed ha hv)
            (hs.voiceOf_ne href hs.heldListed hb hv)]
  have hlisted := h.retains.calls
  refine ⟨h.retains.keyed hs.keyed, h.retains.radioHal.trans hs.radioHal, hlisted ▸ hs.heldListed,
    hlisted ▸ hs.activeListed, fun ref href => ?_, fun ref href => ?_, fun ref href => ?_,
    fun ref href ref' href' heq => ?_,
    h.retains.playing held hs.heldPlaying, h.retains.playing active hs.activePlaying,
    fun ref href => ?_, fun ref href => ?_, fun ref href => ?_⟩ <;> rw [hlisted] at href
  · rcases hcases ref href with rfl | rfl | ⟨ha, hb, hcall, -⟩
    · simp [h.state.1, hheld, hne]
    · simp [h.state.2, hactive]
    · simp [hcall, hs.isActive ref href, ha, hb]
  · rcases hcases ref href with rfl | rfl | ⟨ha, hb, hcall, -⟩
    · simp [h.state.1, hheld]
    · simp [h.state.2, hactive, hne.symm]
    · simp [hcall, hs.isHeld ref href, ha, hb]
  · rw [h.retains.voiceOf]
    exact hs.named ref href
  · rw [hlisted] at href'
    rw [h.retains.radioCallIndex, h.retains.radioCallIndex] at heq
    exact hs.distinct ref href ref' href' heq
  · rcases hcases ref href with rfl | rfl | ⟨-, -, hcall, -⟩
    · rw [h.mediaHeld.1, h.state.1]
      exact hs.mediaHeld held hs.heldListed
    · rw [h.mediaHeld.2, h.state.2]
      exact hs.mediaHeld active hs.activeListed
    · rw [hcall]
      exact hs.mediaHeld ref href
  · rcases hcases ref href with rfl | rfl | ⟨-, -, hcall, hvoice⟩
    · rw [h.voiceState.1, h.state.1]
      exact hs.holding held hs.heldListed
    · rw [h.voiceState.2, h.state.2]
      exact hs.holding active hs.activeListed
    · rw [hcall, hvoice]
      exact hs.holding ref href
  · rcases hcases ref href with rfl | rfl | ⟨-, -, hcall, hvoice⟩
    · rw [h.voiceState.1, h.state.1]
      exact hs.voiceActive held hs.heldListed
    · rw [h.voiceState.2, h.state.2]
      exact hs.voiceActive active hs.activeListed
    · rw [hcall, hvoice]
      exact hs.voiceActive ref href

end Swappable

end Phone

namespace VoLTECallManager

open Phone

theorem swapCalls_against (outcome : ℕ → RequestOutcome) {active held : ℕ} {s : Phone}
    (hs : s.Swappable active held) :
    ∃ s', swapCalls.against (network outcome) s = (.ok true, s') ∧ s.Exchanged active held s' := by
  obtain ⟨s₁, hhold, h₁⟩ := holdCall_against outcome (hs.get?_callId hs.activeListed)
    ((hs.isActive active hs.activeListed).mpr rfl)
  have hretains := h₁.retains VoLTECall.putOnHold_switches
  have hget : s₁.calls.get? (s.call held).sipCallId = some held := by
    rw [hretains.calls]
    exact hs.get?_callId hs.heldListed
  have hstate : (s₁.call held).state = .held := by
    rw [h₁.call_ne hs.active_ne_held.symm]
    exact (hs.isHeld held hs.heldListed).mpr rfl
  obtain ⟨s', hresume, h₂⟩ := resumeCall_against outcome hget hstate
  refine ⟨s', ?_, hs.exchanged h₁ h₂⟩
  unfold swapCalls
  rw [Coro.against_get_bind]
  simp only [hs.firstCall_active, hs.firstCall_held, Option.isNone_some, Bool.false_eq_true, false_and,
    if_false, whenSome]
  rw [Coro.against_bind_ok (ignore_against hhold), Coro.against_bind_ok (ignore_against hresume)]
  rfl

end VoLTECallManager

/-- **Swapping.**  With one call ACTIVE and one HELD, and every re-INVITE answered or timed out,
`swap_calls` returns True and exchanges the two calls; a second swap restores every call. -/
theorem swap_exchanges (outcome outcome' : ℕ → RequestOutcome) {active held : ℕ} {s : Phone}
    (hs : s.Swappable active held) :
    ∃ s', VoLTECallManager.swapCalls.against (network outcome) s = (.ok true, s') ∧
      s.Exchanged active held s' ∧
      ∃ s'', VoLTECallManager.swapCalls.against (network outcome') s' = (.ok true, s'') ∧
        s.Restored s'' := by
  obtain ⟨s', hswap, hexchanged⟩ := VoLTECallManager.swapCalls_against outcome hs
  obtain ⟨s'', hswap', hexchanged'⟩ :=
    VoLTECallManager.swapCalls_against outcome' (hs.of_exchanged hexchanged)
  exact ⟨s', hswap, hexchanged, s'', hswap', hexchanged.twice hexchanged'⟩

theorem Phone.Keyed.of_entries {s : Phone}
    (h : ∀ e ∈ s.calls.entries, (s.callHeap[e.2]?).map VoLTECall.sipCallId = some e.1) : s.Keyed := by
  intro callId ref hget
  obtain ⟨c, hc, hid⟩ := Option.map_eq_some_iff.mp (h _ ((Dict.get?_eq_some_iff _ _ _).mp hget))
  exact ⟨c, hc, hid⟩

/-- The phone that has called "1", put the call on hold and called "2". -/
theorem twoLegsPhone_swappable : twoLegsPhone.Swappable 1 0 := by
  obtain ⟨hentries, hradio, hactive, hheld, hcalls, hplaying, hplaying'⟩ :
      (∀ e ∈ twoLegsPhone.calls.entries,
        (twoLegsPhone.callHeap[e.2]?).map VoLTECall.sipCallId = some e.1) ∧
      twoLegsPhone.radioHal = true ∧ 1 ∈ twoLegsPhone.calls.values ∧ 0 ∈ twoLegsPhone.calls.values ∧
      (∀ ref ∈ twoLegsPhone.calls.values,
        ((twoLegsPhone.call ref).state = .active ↔ ref = 1) ∧
        ((twoLegsPhone.call ref).state = .held ↔ ref = 0) ∧
        (twoLegsPhone.voiceOf ref).isSome ∧
        (∀ ref' ∈ twoLegsPhone.calls.values, (twoLegsPhone.call ref).radioCallIndex =
          (twoLegsPhone.call ref').radioCallIndex → ref = ref') ∧
        (∀ flag ∈ (twoLegsPhone.call ref).mediaHeld,
          flag = true ↔ (twoLegsPhone.call ref).state = .held) ∧
        (twoLegsPhone.voiceState ref = some .holding ↔ (twoLegsPhone.call ref).state = .held) ∧
        (twoLegsPhone.voiceState ref = some .active ↔ (twoLegsPhone.call ref).state = .active)) ∧
      (twoLegsPhone.call 1).Playing ∧ (twoLegsPhone.call 0).Playing := by
    decide +kernel
  exact {
    keyed := .of_entries hentries
    radioHal := hradio
    activeListed := hactive
    heldListed := hheld
    isActive := fun ref href => (hcalls ref href).1
    isHeld := fun ref href => (hcalls ref href).2.1
    named := fun ref href => Option.isSome_iff_exists.mp (hcalls ref href).2.2.1
    distinct := fun ref href => (hcalls ref href).2.2.2.1
    activePlaying := hplaying
    heldPlaying := hplaying'
    mediaHeld := fun ref href => (hcalls ref href).2.2.2.2.1
    holding := fun ref href => (hcalls ref href).2.2.2.2.2.1
    voiceActive := fun ref href => (hcalls ref href).2.2.2.2.2.2 }

/-- The re-INVITEs of the first swap are answered, those of the second time out. -/
theorem swap_exchanges_twoLegsPhone :
    ∃ s', VoLTECallManager.swapCalls.against (network acceptAll) twoLegsPhone = (.ok true, s') ∧
      twoLegsPhone.Exchanged 1 0 s' ∧
      ∃ s'', VoLTECallManager.swapCalls.against (network fun _ => .timeout) s' = (.ok true, s'') ∧
        twoLegsPhone.Restored s'' :=
  swap_exchanges acceptAll (fun _ => .timeout) twoLegsPhone_swappable

/-! ### A re-INVITE that fails -/

/-- The two requests that switch a call. -/
inductive HoldSwitch
  | hold
  | resume
deriving DecidableEq

namespace HoldSwitch

/-- The method. -/
def run : HoldSwitch → Text → Async Bool
  | .hold => VoLTECallManager.holdCall
  | .resume => VoLTECallManager.resumeCall

/-- The state of the call before. -/
def before : HoldSwitch → VoLTECallState
  | .hold => .active
  | .resume => .held

/-- The state of the call after. -/
def after : HoldSwitch → VoLTECallState
  | .hold => .held
  | .resume => .active

end HoldSwitch

/-- The re-INVITE fails: it times out, or its final response is not a 2xx. -/
def RequestOutcome.Fails : RequestOutcome → Prop
  | .final code _ _ _ => 300 ≤ code
  | .timeout => True

/-- A switch has returned False and left call `ref` as it was. -/
structure Phone.LeavesAsBefore (ref : ℕ) (s : Phone) (result : Except PyError Bool) (s' : Phone) :
    Prop where
  result : result = .ok false
  state : (s'.call ref).state = (s.call ref).state
  media : (s'.call ref).media.map (fun session => (session.held, session.direction)) =
    (s.call ref).media.map fun session => (session.held, session.direction)
  voiceState : s'.voiceState ref = s.voiceState ref
  activeCalls : s'.volteState.activeCalls = s.volteState.activeCalls

/-- **Nothing is undone.**  Whatever becomes of the re-INVITE, `hold_call` on an ACTIVE call and
`resume_call` on a HELD one return True, and the call stays switched. -/
theorem failed_switch_not_undone (switch : HoldSwitch) (outcome : ℕ → RequestOutcome) {callId : Text}
    {ref : ℕ} {s : Phone} (href : s.calls.get? callId = some ref)
    (hstate : (s.call ref).state = switch.before) :
    ∃ s', (switch.run callId).against (network outcome) s = (.ok true, s') ∧
      (s'.call ref).state = switch.after ∧ ¬s.LeavesAsBefore ref (.ok true) s' := by
  have hlt := s.valid callId ref href
  cases switch with
  | hold =>
      obtain ⟨s', hrun, hs'⟩ := VoLTECallManager.holdCall_against outcome href hstate
      refine ⟨s', hrun, ?_, fun h => by cases h.result⟩
      rw [hs'.call, if_pos ⟨rfl, hlt⟩, VoLTECall.putOnHold_switches.state]
      rfl
  | resume =>
      obtain ⟨s', hrun, hs'⟩ := VoLTECallManager.resumeCall_against outcome href hstate
      refine ⟨s', hrun, ?_, fun h => by cases h.result⟩
      rw [hs'.call, if_pos ⟨rfl, hlt⟩, VoLTECall.takeOffHold_switches.state]
      rfl

/-- The other side rejects every request. -/
def rejectAll (_ : ℕ) : RequestOutcome := .final 488 (by decide) Dict.empty []

/-- Both calls of the phone are switched. -/
theorem failed_switch_not_undone_twoLegsPhone :
    (∃ s', (HoldSwitch.hold.run "11".toList).against (network rejectAll) twoLegsPhone = (.ok true, s') ∧
      (s'.call 1).state = .held ∧ ¬twoLegsPhone.LeavesAsBefore 1 (.ok true) s') ∧
    ∃ s', (HoldSwitch.resume.run "0".toList).against (network rejectAll) twoLegsPhone = (.ok true, s') ∧
      (s'.call 0).state = .active ∧ ¬twoLegsPhone.LeavesAsBefore 0 (.ok true) s' :=
  ⟨failed_switch_not_undone .hold rejectAll (by decide +kernel) (by decide +kernel),
    failed_switch_not_undone .resume rejectAll (by decide +kernel) (by decide +kernel)⟩

/-- The phone after a hold that is rejected with a 488, with the result. -/
def rejectedHold : Except PyError Bool × Phone :=
  (VoLTECallManager.holdCall "11".toList).against (network rejectAll) twoLegsPhone

/-- The re-INVITE for the ACTIVE call "11" is answered with a 488: `hold_call` returns True, the call is
HELD, its media are held, its voice call is HOLDING, and no call counts as active. -/
theorem hold_rejected_holds : (∀ i, (rejectAll i).Fails) ∧
    twoLegsPhone.calls.get? "11".toList = some 1 ∧ (twoLegsPhone.call 1).state = .active ∧
    twoLegsPhone.volteState.activeCalls = 1 ∧
    rejectedHold.1 = .ok true ∧ (rejectedHold.2.call 1).state = .held ∧
    (rejectedHold.2.call 1).mediaHeld = some true ∧
    rejectedHold.2.voiceState 1 = some .holding ∧ rejectedHold.2.volteState.activeCalls = 0 ∧
    ¬twoLegsPhone.LeavesAsBefore 1 rejectedHold.1 rejectedHold.2 := by
  obtain ⟨href, hactive, hcount, hresult, hheld, hmedia, hvoice, hcount'⟩ :
      twoLegsPhone.calls.get? "11".toList = some 1 ∧ (twoLegsPhone.call 1).state = .active ∧
      twoLegsPhone.volteState.activeCalls = 1 ∧
      rejectedHold.1 = .ok true ∧ (rejectedHold.2.call 1).state = .held ∧
      (rejectedHold.2.call 1).mediaHeld = some true ∧
      rejectedHold.2.voiceState 1 = some .holding ∧ rejectedHold.2.volteState.activeCalls = 0 := by
    decide +kernel
  have hfails : ∀ i, (rejectAll i).Fails := by
    intro i
    show (300 : ℤ) ≤ 488
    decide
  refine ⟨hfails, href, hactive, hcount, hresult, hheld, hmedia, hvoice, hcount', fun h => ?_⟩
  have hsame := h.state
  rw [hheld, hactive] at hsame
  cases hsame

end VirtualPhone
