import VirtualPhone.VolteBinding

/-! # Three copies of the hold bit

Whether a call is on hold is kept in the call's state, in its media session and in its voice call.
`Phone.Mirrors` says that the three agree for a call whose media session is active.

`Mirrored` is the invariant behind it: the voice call of a call is found by its Call-ID and by its
index, a ringing call has a voice call that rings, and only a call in the table, ACTIVE or HELD, has
an active media session.  While an operation switches call `x`, what belongs to that call is left
out (`Mirrored (some x)`).

`Drifts` is what happens to the phone while an operation waits: the client's requests go on, and a
call that is being set up rings. -/

namespace VirtualPhone

open Runtime

/-! ### The media session of a call -/

namespace VoLTECall

/-- An active media session is held if and only if the call is. -/
def InStep (c : VoLTECall) : Prop :=
  ∀ session ∈ c.media, session.active = true → (session.held = true ↔ c.state = .held)

/-- The call is ACTIVE or HELD. -/
def Answered (c : VoLTECall) : Prop := c.state = .active ∨ c.state = .held

/-- The call is being set up. -/
def Early (c : VoLTECall) : Prop := c.state = .initiating ∨ c.state = .ringingOut

instance (c : VoLTECall) : Decidable c.Early := inferInstanceAs (Decidable (_ ∨ _))

/-- What the hold bits of a call depend on, besides its state. -/
def holdPart (c : VoLTECall) :
    Text × ℕ × Option (SIPMessage × (Text × ℕ)) × List MediaSession × Option ℕ :=
  (c.sipCallId, c.radioCallIndex, c.inviteMsg, c.sessions, c.mediaSession)

variable {c c' : VoLTECall}

theorem holdPart_eq (h : c'.holdPart = c.holdPart) : c'.sipCallId = c.sipCallId ∧
    c'.radioCallIndex = c.radioCallIndex ∧ c'.inviteMsg = c.inviteMsg ∧ c'.media = c.media := by
  simp only [holdPart, Prod.mk.injEq] at h
  obtain ⟨hid, hindex, hmsg, hsessions, hmedia⟩ := h
  exact ⟨hid, hindex, hmsg, by rw [media, media, hsessions, hmedia]⟩

theorem playing_iff (h : c'.media = c.media) : c'.Playing ↔ c.Playing := by
  rw [Playing, Playing, h]

theorem Answered.not_early (h : c.Answered) : ¬c.Early := by
  rintro (he | he) <;> rcases h with h | h <;> rw [h] at he <;> cases he

/-- What goes on hold with its media is in step, and so is what goes off hold with its media. -/
structure Switches (state : VoLTECallState) (f : VoLTECall → VoLTECall) : Prop where
  sipCallId : ∀ c, (f c).sipCallId = c.sipCallId
  radioCallIndex : ∀ c, (f c).radioCallIndex = c.radioCallIndex
  state : ∀ c, (f c).state = state
  playing : ∀ c, (f c).Playing → c.Playing
  inStep : ∀ c, (f c).InStep

theorem Switches.hold {g : CallHistory → CallHistory} :
    Switches .held fun c => c.hold.record g := by
  have hmedia : ∀ c : VoLTECall, (c.hold.record g).media = c.media.map MediaSession.hold :=
    fun c => media_onMedia _ (c.setState .held)
  have hstate : ∀ c : VoLTECall, (c.hold.record g).state = .held :=
    fun c => onMedia_state _ (c.setState .held)
  refine ⟨fun c => onMedia_sipCallId _ (c.setState .held), fun c => ?_, hstate, fun c h => ?_,
    fun c session hm hactive => ?_⟩
  · show (c.setState .held |>.onMedia MediaSession.hold).radioCallIndex = c.radioCallIndex
    unfold onMedia
    split <;> rfl
  · obtain ⟨session, hm, hactive⟩ := h
    rw [hmedia] at hm
    obtain ⟨old, hold, rfl⟩ := Option.map_eq_some_iff.mp hm
    exact ⟨old, hold, (hold_active old).1 ▸ hactive⟩
  · rw [hmedia] at hm
    obtain ⟨old, -, rfl⟩ := Option.map_eq_some_iff.mp hm
    rw [(hold_active old).1] at hactive
    exact ⟨fun _ => hstate c, fun _ => (hold_active old).2 hactive⟩

theorem Switches.resume {g : VoLTECall → VoLTECall} (hpart : ∀ c, (g c).holdPart = c.holdPart)
    (hg : ∀ c, (g c).state = c.state) : Switches .active fun c => g c.resume := by
  have hmedia : ∀ c : VoLTECall, (g c.resume).media = c.media.map MediaSession.resume :=
    fun c => (holdPart_eq (hpart _)).2.2.2.trans (media_onMedia _ (c.setState .active))
  have hstate : ∀ c : VoLTECall, (g c.resume).state = .active :=
    fun c => (hg _).trans (onMedia_state _ (c.setState .active))
  refine ⟨fun c => ?_, fun c => ?_, hstate, fun c h => ?_, fun c session hm hactive => ?_⟩
  · exact (holdPart_eq (hpart _)).1.trans (onMedia_sipCallId _ (c.setState .active))
  · refine (holdPart_eq (hpart _)).2.1.trans ?_
    show (c.setState .active |>.onMedia MediaSession.resume).radioCallIndex = c.radioCallIndex
    unfold onMedia
    split <;> rfl
  · obtain ⟨session, hm, hactive⟩ := h
    rw [hmedia] at hm
    obtain ⟨old, hold, rfl⟩ := Option.map_eq_some_iff.mp hm
    exact ⟨old, hold, (resume_active old).1 ▸ hactive⟩
  · rw [hmedia] at hm
    obtain ⟨old, -, rfl⟩ := Option.map_eq_some_iff.mp hm
    rw [(resume_active old).1] at hactive
    rw [(resume_active old).2 hactive, hstate c]
    exact ⟨nofun, nofun⟩

/-- What the hold bits do not depend on may change before. -/
theorem Switches.comp {state : VoLTECallState} {f g : VoLTECall → VoLTECall} (h : Switches state f)
    (hpart : ∀ c, (g c).holdPart = c.holdPart) : Switches state (f ∘ g) where
  sipCallId c := (h.sipCallId _).trans (holdPart_eq (hpart c)).1
  radioCallIndex c := (h.radioCallIndex _).trans (holdPart_eq (hpart c)).2.1
  state _ := h.state _
  playing c hplaying := (playing_iff (holdPart_eq (hpart c)).2.2.2).mp (h.playing _ hplaying)
  inStep _ := h.inStep _

end VoLTECall

/-- The state of the call, its active media session and its voice calls agree on whether it is on
hold. -/
def Phone.Mirrors (s : Phone) (c : VoLTECall) : Prop :=
  ∀ session ∈ c.media, session.active = true →
    (session.held = true ↔ c.state = .held) ∧
    ∀ v ∈ s.radio.voiceCalls, (s.radio.voice v).sipCallId = c.sipCallId →
      ((s.radio.voice v).state = .holding ↔ c.state = .held)

instance (s : Phone) (c : VoLTECall) : Decidable (s.Mirrors c) :=
  inferInstanceAs (Decidable (∀ _ ∈ _, _ → _))

/-! ### Parties of a conference -/

namespace RadioHAL

/-- The voice calls of both parties are those that join. -/
theorem joinParties_voice (a b : Text) (r : RadioHAL) (w : ℕ) : (r.joinParties a b).voice w =
    if w ∈ r.voiceCalls ∧ w < r.voices.length ∧
      ((r.voice w).sipCallId = a ∨ (r.voice w).sipCallId = b)
    then (r.voice w).join else r.voice w := by
  unfold joinParties
  suffices hlist : ∀ (l : List ℕ) (r : RadioHAL), (l.foldl (fun r v =>
      if (r.voice v).sipCallId = a ∨ (r.voice v).sipCallId = b then r.modifyVoice v VoiceCall.join
      else r) r).voice w = if w ∈ l ∧ w < r.voices.length ∧
        ((r.voice w).sipCallId = a ∨ (r.voice w).sipCallId = b)
      then (r.voice w).join else r.voice w from hlist r.voiceCalls r
  intro l
  induction l with
  | nil => simp
  | cons v l ih =>
      intro r
      rw [List.foldl_cons, ih]
      by_cases hparty : (r.voice v).sipCallId = a ∨ (r.voice v).sipCallId = b
      · rw [if_pos hparty]
        simp only [voice_modifyVoice, show (r.modifyVoice v VoiceCall.join).voices.length =
          r.voices.length from List.length_modify ..]
        by_cases hvw : v = w
        · obtain rfl := hvw
          by_cases hlt : v < r.voices.length
          · simp [hlt, hparty, VoiceCall.join]
          · simp [hlt]
        · simp [hvw, Ne.symm hvw]
      · rw [if_neg hparty]
        by_cases hvw : v = w
        · obtain rfl := hvw
          simp [hparty]
        · simp [Ne.symm hvw]

theorem joinParties_rest (a b : Text) (r : RadioHAL) :
    (r.joinParties a b).voiceCalls = r.voiceCalls ∧
      (r.joinParties a b).nextCallIndex = r.nextCallIndex ∧
      (r.joinParties a b).callManager = r.callManager ∧
      (r.joinParties a b).voices.length = r.voices.length := by
  unfold joinParties
  refine List.foldlRecOn (motive := fun r' : RadioHAL => r'.voiceCalls = r.voiceCalls ∧
    r'.nextCallIndex = r.nextCallIndex ∧ r'.callManager = r.callManager ∧
    r'.voices.length = r.voices.length) r.voiceCalls _ ⟨rfl, rfl, rfl, rfl⟩ fun r' hr v _ => ?_
  split_ifs
  · exact ⟨hr.1, hr.2.1, hr.2.2.1, (List.length_modify ..).trans hr.2.2.2⟩
  · exact hr

end RadioHAL

/-! ### What happens meanwhile -/

/-- The voice call is that of a call which is being set up. -/
def Phone.Alerts (s : Phone) (v : ℕ) : Prop :=
  ∃ callId r, s.calls.get? callId = some r ∧ (s.call r).Early ∧
    (s.call r).radioCallIndex = (s.radio.voice v).index

/-- The tables stay, and so do the calls but for one that is being set up and rings. -/
structure Stays (s s' : Phone) : Prop where
  calls : s'.calls = s.calls
  list : s'.radio.voiceCalls = s.radio.voiceCalls
  next : s'.radio.nextCallIndex = s.radio.nextCallIndex
  call : ∀ r, (s'.call r).sipCallId = (s.call r).sipCallId ∧
    (s'.call r).radioCallIndex = (s.call r).radioCallIndex ∧
    ((s'.call r).state = (s.call r).state ∨ (s.call r).Early ∧ (s'.call r).state = .ringingOut)
  voice : ∀ v, s'.radio.voice v = s.radio.voice v ∨
    s'.radio.voice v = (s.radio.voice v).setState .alerting

/-- What happens to the phone while an operation waits. -/
structure Drifts (s s' : Phone) : Prop extends Stays s s' where
  radioHal : s'.radioHal = s.radioHal
  callManager : s'.radio.callManager = s.radio.callManager
  started : s'.started = s.started
  requests : ∀ client ∈ s.sipClient, ∃ client' ∈ s'.sipClient, client.SameRequests client'
  voices : s'.radio.voices.length = s.radio.voices.length
  heap : s'.callHeap.length = s.callHeap.length
  part : ∀ r, (s'.call r).holdPart = (s.call r).holdPart
  alerts : ∀ v, s'.radio.voice v = s.radio.voice v ∨ s.Alerts v

namespace Stays

variable {s s' : Phone}

theorem refl (s : Phone) : Stays s s := ⟨rfl, rfl, rfl, fun _ => ⟨rfl, rfl, Or.inl rfl⟩, fun _ => Or.inl rfl⟩

theorem trans {a b c : Phone} (h : Stays a b) (h' : Stays b c) : Stays a c := by
  refine ⟨h'.calls.trans h.calls, h'.list.trans h.list, h'.next.trans h.next, fun r => ?_, fun v => ?_⟩
  · obtain ⟨hid, hindex, hstate⟩ := h.call r
    obtain ⟨hid', hindex', hstate'⟩ := h'.call r
    refine ⟨hid'.trans hid, hindex'.trans hindex, ?_⟩
    rcases hstate' with hstate' | ⟨hearly, hring⟩
    · rcases hstate with hstate | ⟨hearly, hring⟩
      · exact Or.inl (hstate'.trans hstate)
      · exact Or.inr ⟨hearly, hstate'.trans hring⟩
    · rcases hstate with hstate | ⟨hearly₀, -⟩
      · refine Or.inr ⟨?_, hring⟩
        unfold VoLTECall.Early at hearly ⊢
        rwa [hstate] at hearly
      · exact Or.inr ⟨hearly₀, hring⟩
  · rcases h'.voice v with hv' | hv'
    · rw [hv']
      exact h.voice v
    · rcases h.voice v with hv | hv
      · rw [hv', hv]
        exact Or.inr rfl
      · rw [hv', hv]
        exact Or.inr rfl

/-- The index, the Call-ID and the conference of a voice call stay. -/
theorem voice_part (h : Stays s s') (v : ℕ) :
    (s'.radio.voice v).index = (s.radio.voice v).index ∧
      (s'.radio.voice v).sipCallId = (s.radio.voice v).sipCallId ∧
      (s'.radio.voice v).isMpty = (s.radio.voice v).isMpty := by
  rcases h.voice v with hv | hv <;> rw [hv] <;> exact ⟨rfl, rfl, rfl⟩

theorem state_eq (h : Stays s s') {r : ℕ} (hr : ¬(s.call r).Early) :
    (s'.call r).state = (s.call r).state :=
  (h.call r).2.2.resolve_right fun h' => hr h'.1

end Stays

namespace Drifts

variable {s s' : Phone}

theorem refl (s : Phone) : Drifts s s :=
  ⟨.refl s, rfl, rfl, rfl, fun client h => ⟨client, h, .refl client⟩, rfl, rfl, fun _ => rfl,
    fun _ => Or.inl rfl⟩

theorem trans {a b c : Phone} (h : Drifts a b) (h' : Drifts b c) : Drifts a c := by
  refine ⟨h.toStays.trans h'.toStays, h'.radioHal.trans h.radioHal,
    h'.callManager.trans h.callManager, h'.started.trans h.started, fun client hclient => ?_,
    h'.voices.trans h.voices, h'.heap.trans h.heap, fun r => (h'.part r).trans (h.part r),
    fun v => ?_⟩
  · obtain ⟨client₁, h₁, hsame₁⟩ := h.requests client hclient
    obtain ⟨client₂, h₂, hsame₂⟩ := h'.requests client₁ h₁
    exact ⟨client₂, h₂, hsame₁.trans hsame₂⟩
  · rcases h.alerts v with hv | hv
    · rcases h'.alerts v with hv' | ⟨callId, r, hr, hearly, hindex⟩
      · exact Or.inl (hv'.trans hv)
      · refine Or.inr ⟨callId, r, h.calls ▸ hr, ?_, ?_⟩
        · by_contra hnot
          unfold VoLTECall.Early at hearly
          rw [h.toStays.state_eq hnot] at hearly
          exact hnot hearly
        · rw [← (h.call r).2.1, hindex, hv]
    · exact Or.inr hv

theorem client (h : Drifts s s') (hs : s.sipClient.isSome) : s'.sipClient.isSome := by
  obtain ⟨client, hclient⟩ := Option.isSome_iff_exists.mp hs
  obtain ⟨client', hclient', -⟩ := h.requests client hclient
  exact Option.isSome_iff_exists.mpr ⟨client', hclient'⟩

theorem media (h : Drifts s s') (r : ℕ) : (s'.call r).media = (s.call r).media :=
  (VoLTECall.holdPart_eq (h.part r)).2.2.2

theorem playing (h : Drifts s s') (r : ℕ) : (s'.call r).Playing ↔ (s.call r).Playing :=
  VoLTECall.playing_iff (h.media r)

theorem same_client : ∀ client ∈ s.sipClient, ∃ client' ∈ s.sipClient, client.SameRequests client' :=
  fun client h => ⟨client, h, .refl client⟩

/-- What touches neither the calls nor the voice calls. -/
theorem of_eq (hradioHal : s'.radioHal = s.radioHal) (hmanager : s'.radio.callManager = s.radio.callManager)
    (hstarted : s'.started = s.started)
    (hclient : ∀ client ∈ s.sipClient, ∃ client' ∈ s'.sipClient, client.SameRequests client')
    (hvoices : s'.radio.voices = s.radio.voices) (hlist : s'.radio.voiceCalls = s.radio.voiceCalls)
    (hnext : s'.radio.nextCallIndex = s.radio.nextCallIndex) (hheap : s'.callHeap = s.callHeap)
    (hcalls : s'.calls = s.calls) : Drifts s s' := by
  have hcall : ∀ r, s'.call r = s.call r := fun r => by rw [Phone.call, Phone.call, hheap]
  have hvoice : ∀ v, s'.radio.voice v = s.radio.voice v := fun v => by
    rw [RadioHAL.voice, RadioHAL.voice, hvoices]
  have hstays : Stays s s' := by
    refine ⟨hcalls, hlist, hnext, fun r => ?_, fun v => Or.inl (hvoice v)⟩
    rw [hcall]
    exact ⟨rfl, rfl, Or.inl rfl⟩
  exact ⟨hstays, hradioHal, hmanager, hstarted, hclient, by rw [hvoices], by rw [hheap],
    fun r => by rw [hcall], fun v => Or.inl (hvoice v)⟩

theorem modifyClient (s : Phone) (e : ClientEvent) : Drifts s (s.modifyClient (Session.perform e)) := by
  refine of_eq rfl rfl rfl (fun client h => ⟨client.perform e, ?_, .perform e client⟩) rfl rfl rfl rfl rfl
  rw [Phone.modifyClient, Option.mem_def.mp h]
  rfl

theorem beginRequest (args : RequestArgs) (s : Phone) : Drifts s (s.beginRequest args) := by
  cases hclient : s.sipClient with
  | none =>
      have heq : s.beginRequest args = s := by
        unfold Phone.beginRequest
        simp only [hclient]
      rw [heq]
      exact refl s
  | some client =>
      obtain ⟨client', hclient', hsame, -⟩ := beginRequest_client args hclient
      have hbegin : (s.beginRequest args).radioHal = s.radioHal ∧
          (s.beginRequest args).radio = s.radio ∧ (s.beginRequest args).started = s.started := by
        unfold Phone.beginRequest
        simp only [hclient]
        exact ⟨rfl, rfl, rfl⟩
      have hradio := hbegin.2.1
      refine of_eq hbegin.1 (by rw [hradio]) hbegin.2.2 (fun c hc => ?_) (by rw [hradio])
        (by rw [hradio]) (by rw [hradio]) (beginRequest_callHeap args s) (beginRequest_calls args s)
      obtain rfl := Option.some.inj (hclient.symm.trans hc)
      exact ⟨client', hclient', hsame⟩

theorem indicate (s : Phone) (indication : ℕ) :
    Drifts s (s.modifyRadio (RadioHAL.indicate indication)) :=
  of_eq rfl rfl rfl same_client rfl rfl rfl rfl rfl

theorem countActive (s : Phone) : Drifts s s.countActive :=
  of_eq rfl rfl rfl same_client rfl rfl rfl rfl rfl

/-- A change of a call that the hold bits do not depend on. -/
theorem modifyCall (s : Phone) (ref : ℕ) {f : VoLTECall → VoLTECall}
    (hpart : ∀ c, (f c).holdPart = c.holdPart) (hstate : ∀ c, (f c).state = c.state) :
    Drifts s (s.modifyCall ref f) := by
  have hcall : ∀ r, ((s.modifyCall ref f).call r).holdPart = (s.call r).holdPart ∧
      ((s.modifyCall ref f).call r).state = (s.call r).state := by
    intro r
    rw [Phone.call_modifyCall]
    split_ifs
    · exact ⟨hpart _, hstate _⟩
    · exact ⟨rfl, rfl⟩
  refine ⟨⟨rfl, rfl, rfl, fun r => ?_, fun _ => Or.inl rfl⟩, rfl, rfl, rfl, same_client, rfl,
    List.length_modify .., fun r => (hcall r).1, fun _ => Or.inl rfl⟩
  obtain ⟨hid, hindex, -⟩ := VoLTECall.holdPart_eq (hcall r).1
  exact ⟨hid, hindex, Or.inl (hcall r).2⟩

end Drifts

/-! ### The invariant -/

/-- A voice call with the Call-ID of a call; that of a ringing call is in a state `ring`. -/
structure Agree (ring : CallState → Prop) (c : VoLTECall) (vc : VoiceCall) : Prop where
  index : vc.index = c.radioCallIndex
  ringing : c.state = .ringingIn → ring vc.state
  party : vc.isMpty = true → c.Answered
  held : c.Playing → (vc.state = .holding ↔ c.state = .held)

/-- A call in the table. -/
structure Fits (ring : CallState → Prop) (s : Phone) (callId : Text) (c : VoLTECall) : Prop where
  ringing : c.state = .ringingIn → s.sipClient.isSome ∧ c.inviteMsg.isSome
  playing : c.Playing → c.Answered
  inStep : c.InStep
  agree : ∀ v ∈ s.radio.voiceCalls, (s.radio.voice v).sipCallId = callId →
    Agree ring c (s.radio.voice v)

/-- The voice call rings. -/
def CallState.Rings (state : CallState) : Prop := state = .incoming ∨ state = .waiting

/-- The invariant; what belongs to call `x` is left out. -/
structure Mirrored (x : Option ℕ) (s : Phone) : Prop where
  radioHal : s.radioHal = true
  callManager : s.radio.callManager = true
  client : s.started = true → s.sipClient.isSome
  valid : s.radio.Valid
  next : 0 < s.radio.nextCallIndex
  range : ∀ v ∈ s.radio.voiceCalls,
    0 < (s.radio.voice v).index ∧ (s.radio.voice v).index < s.radio.nextCallIndex
  once : ∀ v ∈ s.radio.voiceCalls, ∀ w ∈ s.radio.voiceCalls,
    (s.radio.voice v).index = (s.radio.voice w).index → v = w
  entry : ∀ callId r, s.calls.get? callId = some r → callId ≠ [] ∧ (s.call r).sipCallId = callId ∧
    (s.call r).radioCallIndex < s.radio.nextCallIndex
  bound : ∀ callId r, s.calls.get? callId = some r → ∀ v ∈ s.radio.voiceCalls,
    (s.radio.voice v).index = (s.call r).radioCallIndex →
    (s.radio.voice v).sipCallId = callId ∨ (s.radio.voice v).sipCallId = []
  unique : ∀ callId r callId' r', s.calls.get? callId = some r → s.calls.get? callId' = some r' →
    ∀ v ∈ s.radio.voiceCalls, (s.radio.voice v).index = (s.call r).radioCallIndex →
    (s.radio.voice v).index = (s.call r').radioCallIndex → r = r'
  quiet : ∀ r, (s.call r).Playing → s.calls.get? (s.call r).sipCallId = some r
  fits : ∀ callId r, s.calls.get? callId = some r → x ≠ some r →
    Fits CallState.Rings s callId (s.call r)

namespace Mirrored

variable {x : Option ℕ} {s s' : Phone} {callId : Text} {ref : ℕ}

/-- **The invariant says that the hold bits agree.** -/
theorem mirrors (h : Mirrored none s) {c : VoLTECall} (hc : c ∈ s.callHeap) : s.Mirrors c := by
  obtain ⟨r, hr⟩ := List.mem_iff_getElem?.mp hc
  obtain rfl := Phone.call_eq hr
  intro session hm hactive
  have hplaying : (s.call r).Playing := ⟨session, hm, hactive⟩
  have hfits := h.fits _ r (h.quiet r hplaying) nofun
  exact ⟨hfits.inStep session hm hactive, fun v hv hid => (hfits.agree v hv hid).held hplaying⟩

theorem callId_eq (h : Mirrored x s) {callId' : Text} (hr : s.calls.get? callId = some ref)
    (hr' : s.calls.get? callId' = some ref) : callId = callId' :=
  (h.entry _ _ hr).2.1.symm.trans (h.entry _ _ hr').2.1

theorem loosen (h : Mirrored none s) (x : Option ℕ) : Mirrored x s :=
  ⟨h.radioHal, h.callManager, h.client, h.valid, h.next, h.range, h.once, h.entry, h.bound, h.unique,
    h.quiet, fun callId r hr _ => h.fits callId r hr nofun⟩

theorem restore (h : Mirrored (some ref) s)
    (hfits : ∀ callId, s.calls.get? callId = some ref →
      Fits CallState.Rings s callId (s.call ref)) :
    Mirrored none s := by
  refine ⟨h.radioHal, h.callManager, h.client, h.valid, h.next, h.range, h.once, h.entry, h.bound,
    h.unique, h.quiet, fun callId r hr _ => ?_⟩
  by_cases href : ref = r
  · obtain rfl := href
    exact hfits callId hr
  · exact h.fits callId r hr fun heq => href (Option.some.inj heq)

/-- A call that is being set up has no voice call of its own that an answered call has. -/
theorem not_alerts (h : Mirrored x s) {v : ℕ} (hv : v ∈ s.radio.voiceCalls)
    (hr : s.calls.get? callId = some ref)
    (hindex : (s.radio.voice v).index = (s.call ref).radioCallIndex) (hearly : ¬(s.call ref).Early) :
    ¬s.Alerts v := by
  rintro ⟨callId', r, hr', hearly', hindex'⟩
  obtain rfl := h.unique _ _ _ _ hr hr' v hv hindex hindex'.symm
  exact hearly hearly'

theorem fits_drifts {ring : CallState → Prop} (h : Mirrored x s) (hr : s.calls.get? callId = some ref)
    (hfits : Fits ring s callId (s.call ref)) (hd : Drifts s s') :
    Fits ring s' callId (s'.call ref) := by
  have hpart := hd.toStays.voice_part
  obtain ⟨hringing, hanswered, hstep, hagree⟩ := hfits
  have hsame : (s.call ref).Answered → (s'.call ref).state = (s.call ref).state :=
    fun h => hd.toStays.state_eq h.not_early
  have hring : (s'.call ref).state = .ringingIn → (s.call ref).state = .ringingIn := by
    intro hstate
    rcases (hd.call ref).2.2 with heq | ⟨-, heq⟩
    · exact heq.symm.trans hstate
    · rw [heq] at hstate
      cases hstate
  refine ⟨fun hstate => ?_, fun hplaying => ?_, fun session hm hactive => ?_, fun v hv hid => ?_⟩
  · obtain ⟨hsome, hmsg⟩ := hringing (hring hstate)
    rw [(VoLTECall.holdPart_eq (hd.part ref)).2.2.1]
    exact ⟨hd.client hsome, hmsg⟩
  · have hans := hanswered ((hd.playing ref).mp hplaying)
    unfold VoLTECall.Answered
    rw [hsame hans]
    exact hans
  · rw [hd.media ref] at hm
    rw [hsame (hanswered ⟨session, hm, hactive⟩)]
    exact hstep session hm hactive
  · rw [hd.list] at hv
    rw [(hpart v).2.1] at hid
    obtain ⟨hindex, hvoice, hparty, hheld⟩ := hagree v hv hid
    -- the voice call alerts only where the call is being set up
    have hkept : ¬(s.call ref).Early → s'.radio.voice v = s.radio.voice v := fun hearly =>
      (hd.alerts v).resolve_right (h.not_alerts hv hr hindex hearly)
    refine ⟨?_, fun hstate => ?_, fun hmpty => ?_, fun hplaying => ?_⟩
    · rw [(hpart v).1, (hd.call ref).2.1, hindex]
    · have hstate := hring hstate
      have hearly : ¬(s.call ref).Early := by
        rintro (he | he) <;> rw [hstate] at he <;> cases he
      rw [hkept hearly]
      exact hvoice hstate
    · rw [(hpart v).2.2] at hmpty
      have hans := hparty hmpty
      unfold VoLTECall.Answered
      rw [hsame hans]
      exact hans
    · have hplaying := (hd.playing ref).mp hplaying
      have hans := hanswered hplaying
      rw [hkept hans.not_early, hsame hans]
      exact hheld hplaying

/-- **The invariant holds while an operation waits.** -/
theorem drifts (h : Mirrored x s) (hd : Drifts s s') : Mirrored x s' := by
  have hpart := hd.toStays.voice_part
  constructor
  case radioHal =>
      exact hd.radioHal.trans h.radioHal
  case callManager =>
      exact hd.callManager.trans h.callManager
  case client =>
      intro hstarted
      exact hd.client (h.client (hd.started ▸ hstarted))
  case valid =>
      intro v hv
      rw [hd.list] at hv
      rw [hd.voices]
      exact h.valid v hv
  case next =>
      rw [hd.next]
      exact h.next
  case range =>
      intro v hv
      rw [hd.list] at hv
      rw [(hpart v).1, hd.next]
      exact h.range v hv
  case once =>
      intro v hv w hw hindex
      rw [hd.list] at hv hw
      rw [(hpart v).1, (hpart w).1] at hindex
      exact h.once v hv w hw hindex
  case entry =>
      intro callId r hr
      rw [hd.calls] at hr
      obtain ⟨hne, hid, hlt⟩ := h.entry callId r hr
      rw [(hd.call r).1, (hd.call r).2.1, hd.next]
      exact ⟨hne, hid, hlt⟩
  case bound =>
      intro callId r hr v hv hindex
      rw [hd.calls] at hr
      rw [hd.list] at hv
      rw [(hpart v).1, (hd.call r).2.1] at hindex
      rw [(hpart v).2.1]
      exact h.bound callId r hr v hv hindex
  case unique =>
      intro callId r callId' r' hr hr' v hv hindex hindex'
      rw [hd.calls] at hr hr'
      rw [hd.list] at hv
      rw [(hpart v).1, (hd.call r).2.1] at hindex
      rw [(hpart v).1, (hd.call r').2.1] at hindex'
      exact h.unique callId r callId' r' hr hr' v hv hindex hindex'
  case quiet =>
      intro r hplaying
      rw [hd.calls, (hd.call r).1]
      exact h.quiet r ((hd.playing r).mp hplaying)
  case fits =>
      intro callId r hr hx
      rw [hd.calls] at hr
      exact h.fits_drifts hr (h.fits callId r hr hx) hd

/-! ### Changes -/

section

variable {v : ℕ}

theorem modifyCall {f : VoLTECall → VoLTECall} (h : Mirrored (some ref) s)
    (hid : ∀ c, (f c).sipCallId = c.sipCallId)
    (hindex : ∀ c, (f c).radioCallIndex = c.radioCallIndex)
    (hquiet : (f (s.call ref)).Playing → s.calls.get? (s.call ref).sipCallId = some ref) :
    Mirrored (some ref) (s.modifyCall ref f) := by
  have hpart : ∀ r, ((s.modifyCall ref f).call r).sipCallId = (s.call r).sipCallId ∧
      ((s.modifyCall ref f).call r).radioCallIndex = (s.call r).radioCallIndex := by
    intro r
    rw [Phone.call_modifyCall]
    split_ifs
    · exact ⟨hid _, hindex _⟩
    · exact ⟨rfl, rfl⟩
  refine ⟨h.radioHal, h.callManager, h.client, h.valid, h.next, h.range, h.once, fun callId r hr => ?_,
    fun callId r hr v hv hv' => ?_, fun callId r callId' r' hr hr' v hv hv₁ hv₂ => ?_,
    fun r hplaying => ?_, fun callId r hr hx => ?_⟩
  · rw [(hpart r).1, (hpart r).2]
    exact h.entry callId r hr
  · rw [(hpart r).2] at hv'
    exact h.bound callId r hr v hv hv'
  · rw [(hpart r).2] at hv₁
    rw [(hpart r').2] at hv₂
    exact h.unique callId r callId' r' hr hr' v hv hv₁ hv₂
  · rw [(hpart r).1]
    rw [Phone.call_modifyCall] at hplaying
    split_ifs at hplaying with href
    · obtain ⟨rfl, -⟩ := href
      exact hquiet hplaying
    · exact h.quiet r hplaying
  · rw [Phone.call_modifyCall_ne fun href => hx (congrArg some href)]
    obtain ⟨hringing, hplaying, hstep, hagree⟩ := h.fits callId r hr hx
    exact ⟨hringing, hplaying, hstep, hagree⟩

theorem revoice {radio : RadioHAL} (h : Mirrored x s) (hmanager : radio.callManager = s.radio.callManager)
    (hlength : radio.voices.length = s.radio.voices.length)
    (hlist : radio.voiceCalls = s.radio.voiceCalls) (hnext : radio.nextCallIndex = s.radio.nextCallIndex)
    (hpart : ∀ w, (radio.voice w).index = (s.radio.voice w).index ∧
      (radio.voice w).sipCallId = (s.radio.voice w).sipCallId)
    (hagree : ∀ callId r, s.calls.get? callId = some r → x ≠ some r → ∀ w ∈ s.radio.voiceCalls,
      (s.radio.voice w).sipCallId = callId → Agree CallState.Rings (s.call r) (radio.voice w)) :
    Mirrored x (s.modifyRadio fun _ => radio) := by
  have hpart' : ∀ w, ((s.modifyRadio fun _ => radio).radio.voice w).index = (s.radio.voice w).index ∧
      ((s.modifyRadio fun _ => radio).radio.voice w).sipCallId = (s.radio.voice w).sipCallId := hpart
  have hnext' : (s.modifyRadio fun _ => radio).radio.nextCallIndex = s.radio.nextCallIndex := hnext
  refine ⟨h.radioHal, hmanager.trans h.callManager, h.client, fun w hw => ?_, hnext ▸ h.next,
    fun w hw => ?_, fun w hw w' hw' heq => ?_, fun callId r hr => ?_, fun callId r hr w hw hw' => ?_,
    fun callId r callId' r' hr hr' w hw hw₁ hw₂ => ?_, h.quiet, fun callId r hr hx => ?_⟩
  · show w < radio.voices.length
    rw [hlength]
    exact h.valid w (hlist ▸ hw)
  · rw [(hpart' w).1, hnext']
    exact h.range w (hlist ▸ hw)
  · rw [(hpart' w).1, (hpart' w').1] at heq
    exact h.once w (hlist ▸ hw) w' (hlist ▸ hw') heq
  · rw [hnext']
    exact h.entry callId r hr
  · rw [(hpart' w).1] at hw'
    rw [(hpart' w).2]
    exact h.bound callId r hr w (hlist ▸ hw) hw'
  · rw [(hpart' w).1] at hw₁ hw₂
    exact h.unique callId r callId' r' hr hr' w (hlist ▸ hw) hw₁ hw₂
  · obtain ⟨hringing, hplaying, hstep, -⟩ := h.fits callId r hr hx
    refine ⟨hringing, hplaying, hstep, fun w hw hsip => ?_⟩
    rw [(hpart' w).2] at hsip
    exact hagree callId r hr hx w (hlist ▸ hw) hsip

theorem modifyVoice {f : VoiceCall → VoiceCall} (h : Mirrored x s)
    (hindex : ∀ vc, (f vc).index = vc.index) (hid : ∀ vc, (f vc).sipCallId = vc.sipCallId)
    (hagree : ∀ callId r, s.calls.get? callId = some r → x ≠ some r → v ∈ s.radio.voiceCalls →
      (s.radio.voice v).sipCallId = callId →
      Agree CallState.Rings (s.call r) (f (s.radio.voice v))) :
    Mirrored x (s.modifyRadio (RadioHAL.modifyVoice v f)) := by
  have hvoice : ∀ w, (s.radio.modifyVoice v f).voice w =
      if v = w ∧ w < s.radio.voices.length then f (s.radio.voice w) else s.radio.voice w :=
    fun w => RadioHAL.voice_modifyVoice v w f s.radio
  have hmanager : (s.radio.modifyVoice v f).callManager = s.radio.callManager := rfl
  refine h.revoice hmanager (List.length_modify ..) rfl rfl (fun w => ?_)
    fun callId r hr hx w hw hsip => ?_
  · rw [hvoice]
    split_ifs
    · exact ⟨hindex _, hid _⟩
    · exact ⟨rfl, rfl⟩
  · rw [hvoice]
    split_ifs with hvw
    · obtain ⟨rfl, -⟩ := hvw
      exact hagree callId r hr hx hw hsip
    · exact (h.fits callId r hr hx).agree w hw hsip

theorem sublist {list : List ℕ} (h : Mirrored x s) (hsub : ∀ v ∈ list, v ∈ s.radio.voiceCalls) :
    Mirrored x (s.modifyRadio fun r => { r with voiceCalls := list }) := by
  refine ⟨h.radioHal, h.callManager, h.client, fun w hw => h.valid w (hsub w hw), h.next,
    fun w hw => h.range w (hsub w hw), fun w hw w' hw' => h.once w (hsub w hw) w' (hsub w' hw'),
    h.entry, fun callId r hr w hw => h.bound callId r hr w (hsub w hw),
    fun callId r callId' r' hr hr' w hw => h.unique callId r callId' r' hr hr' w (hsub w hw), h.quiet,
    fun callId r hr hx => ?_⟩
  obtain ⟨hringing, hplaying, hstep, hagree⟩ := h.fits callId r hr hx
  exact ⟨hringing, hplaying, hstep, fun w hw => hagree w (hsub w hw)⟩

theorem append (h : Mirrored x s) (vc : VoiceCall)
    (hnew : ∀ callId r, s.calls.get? callId = some r → x ≠ some r → vc.sipCallId ≠ callId) :
    Mirrored x (s.modifyRadio (RadioHAL.append vc)) := by
  have hold : ∀ w ∈ s.radio.voiceCalls, (s.modifyRadio (RadioHAL.append vc)).radio.voice w =
      s.radio.voice w := fun w hw => RadioHAL.voice_append_left (h.valid w hw)
  have hself : (s.modifyRadio (RadioHAL.append vc)).radio.voice s.radio.voices.length = _ :=
    RadioHAL.voice_append_self s.radio vc
  have hcases : ∀ w ∈ (s.modifyRadio (RadioHAL.append vc)).radio.voiceCalls,
      w ∈ s.radio.voiceCalls ∨ w = s.radio.voices.length := by
    intro w hw
    rcases List.mem_append.mp hw with hw | hw
    · exact Or.inl hw
    · exact Or.inr (List.mem_singleton.mp hw)
  have hself_index : ∀ callId r, s.calls.get? callId = some r →
      s.radio.nextCallIndex ≠ (s.call r).radioCallIndex := fun callId r hr =>
    (h.entry callId r hr).2.2.ne'
  refine ⟨h.radioHal, h.callManager, h.client, h.valid.append vc, Nat.succ_pos _, fun w hw => ?_,
    fun w hw w' hw' heq => ?_, fun callId r hr => ?_, fun callId r hr w hw hindex => ?_,
    fun callId r callId' r' hr hr' w hw hw₁ hw₂ => ?_, h.quiet, fun callId r hr hx => ?_⟩
  · show _ ∧ _ < s.radio.nextCallIndex + 1
    rcases hcases w hw with hw | rfl
    · rw [hold w hw]
      have hrange := h.range w hw
      omega
    · rw [hself]
      have hnext := h.next
      exact ⟨hnext, Nat.lt_succ_self _⟩
  · rcases hcases w hw with hw | rfl <;> rcases hcases w' hw' with hw' | rfl
    · rw [hold w hw, hold w' hw'] at heq
      exact h.once w hw w' hw' heq
    · rw [hold w hw, hself] at heq
      exact absurd heq (h.range w hw).2.ne
    · rw [hold w' hw', hself] at heq
      exact absurd heq.symm (h.range w' hw').2.ne
    · rfl
  · obtain ⟨hne, hid, hlt⟩ := h.entry callId r hr
    exact ⟨hne, hid, Nat.lt_succ_of_lt hlt⟩
  · rcases hcases w hw with hw | rfl
    · rw [hold w hw] at hindex ⊢
      exact h.bound callId r hr w hw hindex
    · rw [hself] at hindex
      exact absurd hindex (hself_index callId r hr)
  · rcases hcases w hw with hw | rfl
    · rw [hold w hw] at hw₁ hw₂
      exact h.unique callId r callId' r' hr hr' w hw hw₁ hw₂
    · rw [hself] at hw₁
      exact absurd hw₁ (hself_index callId r hr)
  · obtain ⟨hringing, hplaying, hstep, hagree⟩ := h.fits callId r hr hx
    refine ⟨hringing, hplaying, hstep, fun w hw hsip => ?_⟩
    rcases hcases w hw with hw | rfl
    · rw [hold w hw] at hsip ⊢
      exact hagree w hw hsip
    · rw [hself] at hsip
      exact absurd hsip (hnew callId r hr hx)

theorem delCall (h : Mirrored (some ref) s) (hr : s.calls.get? callId = some ref)
    (hquiet : ¬(s.call ref).Playing) : Mirrored none (s.delCall callId) := by
  have hget : ∀ {callId' r}, (s.delCall callId).calls.get? callId' = some r →
      s.calls.get? callId' = some r ∧ ref ≠ r := by
    intro callId' r hr'
    rw [show (s.delCall callId).calls = s.calls.erase callId from rfl, Dict.get?_erase] at hr'
    split_ifs at hr' with hne
    refine ⟨hr', ?_⟩
    rintro rfl
    exact hne (h.callId_eq hr hr').symm
  refine ⟨h.radioHal, h.callManager, h.client, h.valid, h.next, h.range, h.once,
    fun callId' r hr' => h.entry callId' r (hget hr').1,
    fun callId' r hr' => h.bound callId' r (hget hr').1,
    fun id₁ r₁ id₂ r₂ h₁ h₂ => h.unique id₁ r₁ id₂ r₂ (hget h₁).1 (hget h₂).1, fun r hplaying => ?_,
    fun callId' r hr' _ => ?_⟩
  · have hr' := h.quiet r hplaying
    refine (Dict.get?_erase_ne _ fun heq => ?_).trans hr'
    replace heq : (s.call r).sipCallId = callId := heq
    rw [heq, hr] at hr'
    obtain rfl := Option.some.inj hr'
    exact hquiet hplaying
  · obtain ⟨hr', hne⟩ := hget hr'
    obtain ⟨hringing, hplaying, hstep, hagree⟩ := h.fits callId' r hr' fun heq =>
      hne (Option.some.inj heq)
    exact ⟨hringing, hplaying, hstep, hagree⟩

theorem popCall {f : VoLTECall → VoLTECall} (h : Mirrored none s)
    (hr : s.calls.get? callId = some ref) (hid : ∀ c, (f c).sipCallId = c.sipCallId)
    (hindex : ∀ c, (f c).radioCallIndex = c.radioCallIndex) (hquiet : ¬(f (s.call ref)).Playing) :
    Mirrored none ((s.delCall callId).modifyCall ref f) := by
  have hchange := (h.loosen (some ref)).modifyCall hid hindex fun hplaying => absurd hplaying hquiet
  refine hchange.delCall hr ?_
  rw [Phone.call_modifyCall_self hr]
  exact hquiet

theorem enter (h : Mirrored none s) {c : VoLTECall} (hheap : s'.callHeap = s.callHeap ++ [c])
    (hcalls : s'.calls = s.calls.set c.sipCallId s.callHeap.length) (hradio : s'.radio = s.radio)
    (hradioHal : s'.radioHal = s.radioHal) (hstarted : s'.started = s.started)
    (hclient : s.sipClient.isSome → s'.sipClient.isSome) (hne : c.sipCallId ≠ [])
    (hnew : NewCallId s c.sipCallId) (hindex : c.radioCallIndex < s.radio.nextCallIndex)
    (hvoice : ∀ v ∈ s.radio.voiceCalls, (s.radio.voice v).index = c.radioCallIndex →
      (s.radio.voice v).sipCallId = [] ∧
        ∀ callId r, s.calls.get? callId = some r → (s.call r).radioCallIndex ≠ c.radioCallIndex)
    (hquiet : c.mediaSession = none)
    (hringing : c.state = .ringingIn → s'.sipClient.isSome ∧ c.inviteMsg.isSome) :
    Mirrored none s' := by
  have hmedia : c.media = none := by
    rw [VoLTECall.media, hquiet]
    rfl
  have hplaying : ¬c.Playing := by
    rintro ⟨session, hm, -⟩
    rw [hmedia] at hm
    cases hm
  have hcall := Phone.call_append hheap
  have hself : s'.call s.callHeap.length = c := by rw [hcall, if_pos rfl]
  have hget : ∀ {callId r}, s'.calls.get? callId = some r →
      callId = c.sipCallId ∧ r = s.callHeap.length ∨
        s.calls.get? callId = some r ∧ s'.call r = s.call r := by
    intro callId r hr
    rw [hcalls, Dict.get?_set] at hr
    split_ifs at hr with heq
    · exact Or.inl ⟨heq, (Option.some.inj hr).symm⟩
    · exact Or.inr ⟨hr, by rw [hcall, if_neg (s.valid _ _ hr).ne]⟩
  constructor
  case radioHal =>
      exact hradioHal.trans h.radioHal
  case callManager =>
      rw [hradio]
      exact h.callManager
  case client =>
      exact fun hs => hclient (h.client (hstarted ▸ hs))
  case valid =>
      rw [hradio]
      exact h.valid
  case next =>
      rw [hradio]
      exact h.next
  case range =>
      rw [hradio]
      exact h.range
  case once =>
      rw [hradio]
      exact h.once
  case entry =>
      intro callId r hr
      rw [hradio]
      rcases hget hr with ⟨rfl, rfl⟩ | ⟨hr, heq⟩
      · rw [hself]
        exact ⟨hne, rfl, hindex⟩
      · rw [heq]
        exact h.entry callId r hr
  case bound =>
      intro callId r hr v hv hv'
      rw [hradio] at hv hv' ⊢
      rcases hget hr with ⟨rfl, rfl⟩ | ⟨hr, heq⟩
      · rw [hself] at hv'
        exact Or.inr (hvoice v hv hv').1
      · rw [heq] at hv'
        exact h.bound callId r hr v hv hv'
  case unique =>
      intro callId r callId' r' hr hr' v hv hv₁ hv₂
      rw [hradio] at hv hv₁ hv₂
      rcases hget hr with ⟨-, rfl⟩ | ⟨hr, heq⟩ <;> rcases hget hr' with ⟨-, rfl⟩ | ⟨hr', heq'⟩
      · rfl
      · rw [hself] at hv₁
        rw [heq'] at hv₂
        exact absurd (hv₂.symm.trans hv₁) ((hvoice v hv hv₁).2 callId' r' hr')
      · rw [heq] at hv₁
        rw [hself] at hv₂
        exact absurd (hv₁.symm.trans hv₂) ((hvoice v hv hv₂).2 callId r hr)
      · rw [heq] at hv₁
        rw [heq'] at hv₂
        exact h.unique callId r callId' r' hr hr' v hv hv₁ hv₂
  case quiet =>
      intro r hr
      rw [hcall] at hr
      split_ifs at hr with heq
      · exact absurd hr hplaying
      · rw [hcall, if_neg heq, hcalls]
        have hr' := h.quiet r hr
        refine (Dict.get?_set_ne _ _ fun hid => ?_).trans hr'
        exact hnew.1 (hid ▸ Dict.mem_keys_of_get? hr')
  case fits =>
      intro callId r hr _
      rcases hget hr with ⟨rfl, rfl⟩ | ⟨hr, heq⟩
      · rw [hself]
        refine ⟨hringing, fun hp => absurd hp hplaying, fun session hm => ?_, fun v hv hid => ?_⟩
        · rw [hmedia] at hm
          cases hm
        · rw [hradio] at hv hid
          exact absurd hid (hnew.2 v hv)
      · rw [heq]
        obtain ⟨hring, hplay, hstep, hagree⟩ := h.fits callId r hr (Option.some_ne_none r).symm
        refine ⟨fun hstate => ⟨hclient (hring hstate).1, (hring hstate).2⟩, hplay, hstep, ?_⟩
        rw [hradio]
        exact hagree

theorem setSipCallId (h : Mirrored none s) (hr : s.calls.get? callId = some ref)
    (hindex : (s.radio.voice v).index = (s.call ref).radioCallIndex)
    (hactive : (s.call ref).state = .active)
    (hvoice : v ∈ s.radio.voiceCalls → (s.radio.voice v).state ≠ .holding) :
    Mirrored none (s.modifyRadio (RadioHAL.modifyVoice v (VoiceCall.setSipCallId callId))) := by
  have hnamed : ∀ w, (s.modifyRadio (RadioHAL.modifyVoice v
      (VoiceCall.setSipCallId callId))).radio.voice w =
      if v = w ∧ w < s.radio.voices.length then (s.radio.voice w).setSipCallId callId
      else s.radio.voice w :=
    fun w => RadioHAL.voice_modifyVoice v w _ s.radio
  have hindex' : ∀ w, ((s.modifyRadio (RadioHAL.modifyVoice v
      (VoiceCall.setSipCallId callId))).radio.voice w).index = (s.radio.voice w).index := by
    intro w
    rw [hnamed]
    split_ifs <;> rfl
  refine ⟨h.radioHal, h.callManager, h.client, fun w hw => ?_, h.next, fun w hw => ?_,
    fun w hw w' hw' heq => ?_, h.entry, fun callId' r hr' w hw hw' => ?_,
    fun id₁ r₁ id₂ r₂ h₁ h₂ w hw hw₁ hw₂ => ?_, h.quiet, fun callId' r hr' _ => ?_⟩
  · show w < (s.radio.voices.modify v _).length
    rw [List.length_modify]
    exact h.valid w hw
  · rw [hindex' w]
    exact h.range w hw
  · rw [hindex' w, hindex' w'] at heq
    exact h.once w hw w' hw' heq
  · rw [hindex' w] at hw'
    rw [hnamed]
    split_ifs with hvw
    · obtain ⟨rfl, -⟩ := hvw
      obtain rfl := h.unique _ _ _ _ hr hr' v hw hindex hw'
      exact Or.inl (h.callId_eq hr hr')
    · exact h.bound callId' r hr' w hw hw'
  · rw [hindex' w] at hw₁ hw₂
    exact h.unique id₁ r₁ id₂ r₂ h₁ h₂ w hw hw₁ hw₂
  · obtain ⟨hringing, hplaying, hstep, hagree⟩ := h.fits callId' r hr' nofun
    refine ⟨hringing, hplaying, hstep, fun w hw hid => ?_⟩
    rw [hnamed] at hid ⊢
    split_ifs at hid ⊢ with hvw
    · obtain ⟨rfl, -⟩ := hvw
      obtain rfl : callId = callId' := hid
      obtain rfl := Option.some.inj (hr.symm.trans hr')
      refine ⟨hindex, fun hstate => ?_, fun _ => Or.inl hactive, fun _ => ?_⟩
      · cases hactive.symm.trans hstate
      · exact ⟨fun hholding => absurd hholding (hvoice hw),
          fun hheld => by cases hactive.symm.trans hheld⟩
    · exact hagree w hw hid

theorem setRadioCallIndex (h : Mirrored (some ref) s) (hr : s.calls.get? callId = some ref)
    (hv : v ∈ s.radio.voiceCalls) (hid : (s.radio.voice v).sipCallId = callId) :
    Mirrored (some ref)
      (s.modifyCall ref (VoLTECall.setRadioCallIndex (s.radio.voice v).index)) := by
  have hcall : ∀ r, ref ≠ r → (s.modifyCall ref (VoLTECall.setRadioCallIndex
      (s.radio.voice v).index)).call r = s.call r := fun r hne => Phone.call_modifyCall_ne hne _ s
  have hself := Phone.call_modifyCall_self hr (VoLTECall.setRadioCallIndex (s.radio.voice v).index)
  have hother : ∀ callId' r, s.calls.get? callId' = some r → ref ≠ r →
      (s.radio.voice v).index ≠ (s.call r).radioCallIndex := by
    intro callId' r hr' hne hindex
    rcases h.bound callId' r hr' v hv hindex with hsip | hsip
    · rw [← hsip, hid, hr] at hr'
      exact hne (Option.some.inj hr')
    · exact (h.entry callId ref hr).1 (hid.symm.trans hsip)
  refine ⟨h.radioHal, h.callManager, h.client, h.valid, h.next, h.range, h.once,
    fun callId' r hr' => ?_, fun callId' r hr' w hw hw' => ?_,
    fun id₁ r₁ id₂ r₂ h₁ h₂ w hw hw₁ hw₂ => ?_, fun r hplaying => ?_, fun callId' r hr' hx => ?_⟩
  · by_cases href : ref = r
    · obtain rfl := href
      obtain rfl := h.callId_eq hr hr'
      rw [hself]
      exact ⟨(h.entry callId ref hr).1, (h.entry callId ref hr).2.1, (h.range v hv).2⟩
    · rw [hcall r href]
      exact h.entry callId' r hr'
  · by_cases href : ref = r
    · obtain rfl := href
      obtain rfl := h.callId_eq hr hr'
      rw [hself] at hw'
      obtain rfl := h.once w hw v hv hw'
      exact Or.inl hid
    · rw [hcall r href] at hw'
      exact h.bound callId' r hr' w hw hw'
  · by_cases href₁ : ref = r₁ <;> by_cases href₂ : ref = r₂
    · exact href₁.symm.trans href₂
    · obtain rfl := href₁
      rw [hself] at hw₁
      obtain rfl := h.once w hw v hv hw₁
      rw [hcall r₂ href₂] at hw₂
      exact absurd hw₂ (hother id₂ r₂ h₂ href₂)
    · obtain rfl := href₂
      rw [hself] at hw₂
      obtain rfl := h.once w hw v hv hw₂
      rw [hcall r₁ href₁] at hw₁
      exact absurd hw₁ (hother id₁ r₁ h₁ href₁)
    · rw [hcall r₁ href₁] at hw₁
      rw [hcall r₂ href₂] at hw₂
      exact h.unique id₁ r₁ id₂ r₂ h₁ h₂ w hw hw₁ hw₂
  · by_cases href : ref = r
    · obtain rfl := href
      rw [hself] at hplaying ⊢
      exact h.quiet ref hplaying
    · rw [hcall r href] at hplaying ⊢
      exact h.quiet r hplaying
  · rw [hcall r fun href => hx (congrArg some href)]
    obtain ⟨hringing, hplaying, hstep, hagree⟩ := h.fits callId' r hr' hx
    exact ⟨hringing, hplaying, hstep, hagree⟩

theorem joinParties (h : Mirrored x s) {a b : Text}
    (hactive : ∀ callId r, callId = a ∨ callId = b → s.calls.get? callId = some r → x ≠ some r →
      (s.call r).state = .active) :
    Mirrored x (s.modifyRadio (RadioHAL.joinParties a b)) := by
  have hvoice := RadioHAL.joinParties_voice a b s.radio
  obtain ⟨hlist, hnext, hmanager, hlength⟩ := RadioHAL.joinParties_rest a b s.radio
  refine h.revoice hmanager hlength hlist hnext (fun w => ?_)
    fun callId r hr hx w hw hsip => ?_
  · rw [hvoice]
    split_ifs <;> exact ⟨rfl, rfl⟩
  · have hagree := (h.fits callId r hr hx).agree w hw hsip
    rw [hvoice]
    split_ifs with hparty
    · have hstate := hactive callId r (hsip ▸ hparty.2.2) hr hx
      refine ⟨hagree.index, fun hring => ?_, fun _ => Or.inl hstate, fun _ => ?_⟩
      · cases hstate.symm.trans hring
      · rw [hstate]
        exact ⟨nofun, nofun⟩
    · exact hagree

end

end Mirrored

end VirtualPhone
