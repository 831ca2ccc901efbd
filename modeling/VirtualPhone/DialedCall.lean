import VirtualPhone.VolteBinding

/-! # A dialed call in three tables

`dial` makes a voice call, a SIP call and a media session, and connects the voice call to the SIP
call only when the INVITE has been answered.  Until then the voice call has no Call-ID.

`Dialed.Sound` is what holds at every await point, whatever runs.  `Dialed.Onward` says that nothing
undoes what has happened to the call: a Call-ID stays, an entry that a named call has lost is not
made again, and a voice call that has left the list does not come back.  While the voice call has
no Call-ID, only `dial` itself changes what belongs to the call (`Dialed.Calm`). -/

namespace VirtualPhone

open Runtime

/-! ### What the media of a call depend on -/

/-- The Call-ID of a call, its INVITE, and what its media depend on. -/
def VoLTECall.mediaPart (c : VoLTECall) :
    Text × Option ℕ × ℕ × (Text × Text) × List MediaSession × Option ℕ :=
  (c.sipCallId, c.history.inviteRequest, c.rtpPort, (c.remoteSdp, c.codec), c.sessions,
    c.mediaSession)

/-- The only session of the call that can be active is its media session. -/
def VoLTECall.Tuned (c : VoLTECall) : Prop :=
  ∀ (m : ℕ) (session : MediaSession), c.sessions[m]? = some session → session.active = true →
    c.mediaSession = some m

/-- No session of the call is active. -/
def VoLTECall.Silent (c : VoLTECall) : Prop := ∀ session ∈ c.sessions, session.active = false

instance (c : VoLTECall) : Decidable c.Silent := inferInstanceAs (Decidable (∀ _ ∈ _, _))

namespace VoLTECall

theorem Silent.tuned {c : VoLTECall} (h : c.Silent) : c.Tuned := by
  intro m session hm hactive
  rw [h session (List.mem_of_getElem? hm)] at hactive
  cases hactive

theorem Silent.of_sessions {c c' : VoLTECall} (h : c.Silent) (hs : c'.sessions = c.sessions) :
    c'.Silent := by
  unfold Silent
  rw [hs]
  exact h

theorem Tuned.stop {c : VoLTECall} {m : ℕ} (h : c.Tuned) (hm : c.mediaSession = some m) :
    (c.modifySession m (MediaSession.setActive false)).Silent := by
  intro session hsession
  obtain ⟨n, hn⟩ := List.mem_iff_getElem?.mp hsession
  rw [modifySession, List.getElem?_modify] at hn
  split_ifs at hn with hmn
  · obtain ⟨old, -, rfl⟩ := Option.map_eq_some_iff.mp hn
    rfl
  · obtain ⟨old, hold, rfl⟩ := Option.map_eq_some_iff.mp hn
    cases hactive : old.active with
    | false => rfl
    | true =>
        have hsame := h n old hold hactive
        rw [hm] at hsame
        exact absurd (Option.some.inj hsame) hmn

theorem Tuned.silent {c : VoLTECall} (h : c.Tuned) (hm : c.mediaSession = none) : c.Silent := by
  intro session hsession
  obtain ⟨n, hn⟩ := List.mem_iff_getElem?.mp hsession
  cases hactive : session.active with
  | false => rfl
  | true =>
      have hsame := h n session hn hactive
      rw [hm] at hsame
      cases hsame

theorem mediaPart_eq {c c' : VoLTECall} (h : c'.mediaPart = c.mediaPart) :
    c'.sipCallId = c.sipCallId ∧ c'.history.inviteRequest = c.history.inviteRequest ∧
      c'.rtpPort = c.rtpPort ∧ (c'.remoteSdp = c.remoteSdp ∧ c'.codec = c.codec) ∧
      c'.sessions = c.sessions ∧ c'.mediaSession = c.mediaSession := by
  simpa only [mediaPart, Prod.mk.injEq] using h

end VoLTECall

/-! ### The call -/

/-- A dialed call: the number of its voice call and its index, the number of its SIP call and its
Call-ID. -/
structure Dialed where
  voice : ℕ
  index : ℕ
  ref : ℕ
  callId : Text

/-- The call that is dialed now. -/
def Dialed.of (s : Phone) : Dialed :=
  { voice := s.radio.voices.length
    index := s.radio.nextCallIndex
    ref := s.callHeap.length
    callId := s.draw 0 }

namespace Dialed

variable (d : Dialed)

/-- The Call-ID the voice call has. -/
def name (s : Phone) : Text := (s.radio.voice d.voice).sipCallId

/-- The voice call is in the list. -/
def Listed (s : Phone) : Prop := d.voice ∈ s.radio.voiceCalls

/-- The manager holds the call. -/
def InTable (s : Phone) : Prop := d.callId ∈ s.calls.keys

instance (s : Phone) : Decidable (d.InTable s) := inferInstanceAs (Decidable (_ ∈ _))

/-- What holds at every await point. -/
structure Sound (s : Phone) : Prop where
  callId : d.callId ≠ []
  radioHal : s.radioHal = true
  callManager : s.radio.callManager = true
  client : s.started = true → s.sipClient.isSome
  there : d.voice < s.radio.voices.length
  index : (s.radio.voice d.voice).index = d.index
  others : ∀ v ∈ s.radio.voiceCalls, v ≠ d.voice →
    (s.radio.voice v).index ≠ d.index ∧ (s.radio.voice v).sipCallId ≠ d.callId
  once : s.radio.voiceCalls.count d.voice ≤ 1
  entry : ∀ ref, s.calls.get? d.callId = some ref → ref = d.ref
  calls : ∀ (ref : ℕ) (c : VoLTECall), s.callHeap[ref]? = some c → c.sipCallId = d.callId →
    ref = d.ref
  own : ∀ c, s.callHeap[d.ref]? = some c → c.sipCallId = d.callId
  name : d.name s = [] ∨ d.name s = d.callId
  named : d.name s = d.callId → s.started = true ∧ (d.InTable s → d.Listed s)
  made : d.name s = d.callId → d.ref < s.callHeap.length
  media : d.name s = d.callId → ∀ c, s.callHeap[d.ref]? = some c →
    c.Tuned ∧ (¬d.InTable s → c.Silent)

/-- What is never undone. -/
structure Progress (s s' : Phone) : Prop where
  started : s'.started = s.started
  requests : ∀ client ∈ s.sipClient, ∃ client' ∈ s'.sipClient, client.SameRequests client'
  named : d.name s = d.callId → d.name s' = d.callId
  gone : d.name s = d.callId → ¬d.InTable s → ¬d.InTable s'
  off : ¬d.Listed s → ¬d.Listed s'

/-- Whatever runs leads from a sound state to a sound state, further on. -/
def Onward (s s' : Phone) : Prop := d.Sound s → d.Sound s' ∧ d.Progress s s'

/-- What belongs to the call is as it was. -/
structure Same (s s' : Phone) : Prop where
  name : d.name s' = []
  listed : d.Listed s' ↔ d.Listed s
  entry : s'.calls.get? d.callId = s.calls.get? d.callId
  length : s'.callHeap.length = s.callHeap.length
  draw : s'.draw 0 = s.draw 0
  call : ∀ c, s.callHeap[d.ref]? = some c →
    ∃ c', s'.callHeap[d.ref]? = some c' ∧ c'.mediaPart = c.mediaPart

/-- Nobody touches a call whose voice call has no Call-ID. -/
def Calm (s s' : Phone) : Prop := d.name s = [] → d.Same s s'

/-- The entry of a named call is still there, unless it was gone before. -/
def KeepsEntry (s s' : Phone) : Prop :=
  d.name s' = d.callId → ¬d.InTable s' → d.name s = d.callId ∧ ¬d.InTable s

variable {d}

namespace Progress

theorem refl (s : Phone) : d.Progress s s :=
  ⟨rfl, fun client h => ⟨client, h, .refl client⟩, id, fun _ => id, id⟩

theorem of_unnamed {s s' : Phone} (hstarted : s'.started = s.started)
    (hclient : ∀ client ∈ s.sipClient, ∃ client' ∈ s'.sipClient, client.SameRequests client')
    (hunnamed : d.name s ≠ d.callId) (hlisted : d.Listed s) : d.Progress s s' :=
  ⟨hstarted, hclient, fun hname => absurd hname hunnamed, fun hname => absurd hname hunnamed,
    fun hoff => absurd hlisted hoff⟩

theorem trans {a b c : Phone} (h : d.Progress a b) (h' : d.Progress b c) : d.Progress a c := by
  refine ⟨h'.started.trans h.started, fun client hclient => ?_, h'.named ∘ h.named,
    fun hname hgone => h'.gone (h.named hname) (h.gone hname hgone), h'.off ∘ h.off⟩
  obtain ⟨client₁, h₁, hsame₁⟩ := h.requests client hclient
  obtain ⟨client₂, h₂, hsame₂⟩ := h'.requests client₁ h₁
  exact ⟨client₂, h₂, hsame₁.trans hsame₂⟩

end Progress

theorem Onward.refl (s : Phone) : d.Onward s s := fun h => ⟨h, Progress.refl s⟩

theorem Onward.trans {a b c : Phone} (h : d.Onward a b) (h' : d.Onward b c) : d.Onward a c := by
  intro ha
  obtain ⟨hb, hab⟩ := h ha
  obtain ⟨hc, hbc⟩ := h' hb
  exact ⟨hc, hab.trans hbc⟩

theorem Calm.refl (s : Phone) : d.Calm s s :=
  fun h => ⟨h, Iff.rfl, rfl, rfl, rfl, fun c hc => ⟨c, hc, rfl⟩⟩

theorem Calm.trans {a b c : Phone} (h : d.Calm a b) (h' : d.Calm b c) : d.Calm a c := by
  intro ha
  have hab := h ha
  have hbc := h' hab.name
  refine ⟨hbc.name, hbc.listed.trans hab.listed, hbc.entry.trans hab.entry,
    hbc.length.trans hab.length, hbc.draw.trans hab.draw, fun x hx => ?_⟩
  obtain ⟨y, hy, hxy⟩ := hab.call x hx
  obtain ⟨z, hz, hyz⟩ := hbc.call y hy
  exact ⟨z, hz, hyz.trans hxy⟩

theorem Calm.of_named {s s' : Phone} (hs : d.Sound s) (h : d.name s = d.callId) : d.Calm s s' :=
  fun hname => absurd (h.symm.trans hname) hs.callId

theorem KeepsEntry.refl (s : Phone) : d.KeepsEntry s s := fun h h' => ⟨h, h'⟩

theorem KeepsEntry.trans {a b c : Phone} (h : d.KeepsEntry a b) (h' : d.KeepsEntry b c) :
    d.KeepsEntry a c := fun hname hgone => h (h' hname hgone).1 (h' hname hgone).2

/-! ### Changes that do not matter -/

/-- Nothing that belongs to any call changes, but states, directions and histories. -/
structure Still (s s' : Phone) : Prop where
  radioHal : s'.radioHal = s.radioHal
  callManager : s'.radio.callManager = s.radio.callManager
  started : s'.started = s.started
  requests : ∀ client ∈ s.sipClient, ∃ client' ∈ s'.sipClient, client.SameRequests client'
  voices : s'.radio.voices.length = s.radio.voices.length
  voice : ∀ v, (s'.radio.voice v).index = (s.radio.voice v).index ∧
    (s'.radio.voice v).sipCallId = (s.radio.voice v).sipCallId
  list : s'.radio.voiceCalls = s.radio.voiceCalls
  heap : s'.callHeap.map VoLTECall.mediaPart = s.callHeap.map VoLTECall.mediaPart
  calls : s'.calls = s.calls

namespace Still

theorem refl (s : Phone) : Still s s :=
  ⟨rfl, rfl, rfl, fun client h => ⟨client, h, .refl client⟩, rfl, fun _ => ⟨rfl, rfl⟩, rfl, rfl, rfl⟩

theorem trans {a b c : Phone} (h : Still a b) (h' : Still b c) : Still a c := by
  refine ⟨h'.radioHal.trans h.radioHal, h'.callManager.trans h.callManager,
    h'.started.trans h.started, fun client hclient => ?_, h'.voices.trans h.voices,
    fun v => ⟨(h'.voice v).1.trans (h.voice v).1, (h'.voice v).2.trans (h.voice v).2⟩,
    h'.list.trans h.list, h'.heap.trans h.heap, h'.calls.trans h.calls⟩
  obtain ⟨client₁, h₁, hsame₁⟩ := h.requests client hclient
  obtain ⟨client₂, h₂, hsame₂⟩ := h'.requests client₁ h₁
  exact ⟨client₂, h₂, hsame₁.trans hsame₂⟩

variable {s s' : Phone}

theorem call (h : Still s s') {ref : ℕ} {c' : VoLTECall} (hc : s'.callHeap[ref]? = some c') :
    ∃ c, s.callHeap[ref]? = some c ∧ c'.mediaPart = c.mediaPart := by
  have hmap := congrArg (fun l => l[ref]?) h.heap
  simp only [List.getElem?_map, hc, Option.map_some] at hmap
  obtain ⟨c, hc, hpart⟩ := Option.map_eq_some_iff.mp hmap.symm
  exact ⟨c, hc, hpart.symm⟩

theorem length (h : Still s s') : s'.callHeap.length = s.callHeap.length := by
  have hlen := congrArg List.length h.heap
  simpa only [List.length_map] using hlen

theorem symm_call (h : Still s s') {ref : ℕ} {c : VoLTECall} (hc : s.callHeap[ref]? = some c) :
    ∃ c', s'.callHeap[ref]? = some c' ∧ c'.mediaPart = c.mediaPart := by
  have hmap := congrArg (fun l => l[ref]?) h.heap
  simp only [List.getElem?_map, hc, Option.map_some] at hmap
  exact Option.map_eq_some_iff.mp hmap

theorem name (h : Still s s') : d.name s' = d.name s := (h.voice d.voice).2

theorem listed (h : Still s s') : d.Listed s' ↔ d.Listed s := by
  unfold Listed
  rw [h.list]

theorem inTable (h : Still s s') : d.InTable s' ↔ d.InTable s := by
  unfold InTable
  rw [h.calls]

theorem sound (h : Still s s') (hs : d.Sound s) : d.Sound s' := by
  constructor
  · exact hs.callId
  · exact h.radioHal.trans hs.radioHal
  · exact h.callManager.trans hs.callManager
  · intro hstarted
    obtain ⟨client, hclient⟩ := Option.isSome_iff_exists.mp (hs.client (h.started ▸ hstarted))
    obtain ⟨client', hclient', -⟩ := h.requests client hclient
    exact Option.isSome_iff_exists.mpr ⟨client', hclient'⟩
  · rw [h.voices]
    exact hs.there
  · exact (h.voice d.voice).1.trans hs.index
  · intro v hv
    rw [h.list] at hv
    rw [(h.voice v).1, (h.voice v).2]
    exact hs.others v hv
  · rw [h.list]
    exact hs.once
  · rw [h.calls]
    exact hs.entry
  · intro ref c' hc' hid
    obtain ⟨c, hc, hpart⟩ := h.call hc'
    exact hs.calls ref c hc ((VoLTECall.mediaPart_eq hpart).1.symm.trans hid)
  · intro c' hc'
    obtain ⟨c, hc, hpart⟩ := h.call hc'
    exact (VoLTECall.mediaPart_eq hpart).1.trans (hs.own c hc)
  · rw [h.name]
    exact hs.name
  · rw [h.name, h.started, h.inTable, h.listed]
    exact hs.named
  · rw [h.name, h.length]
    exact hs.made
  · intro hname c' hc'
    obtain ⟨c, hc, hpart⟩ := h.call hc'
    obtain ⟨-, -, -, -, hsessions, hmedia⟩ := VoLTECall.mediaPart_eq hpart
    obtain ⟨htuned, hsilent⟩ := hs.media (h.name ▸ hname) c hc
    rw [h.inTable]
    refine ⟨?_, fun hgone => (hsilent hgone).of_sessions hsessions⟩
    unfold VoLTECall.Tuned
    rw [hsessions, hmedia]
    exact htuned

theorem progress (h : Still s s') : d.Progress s s' :=
  ⟨h.started, h.requests, fun hname => h.name.trans hname, fun _ hgone => mt h.inTable.mp hgone,
    fun hoff => mt h.listed.mp hoff⟩

theorem onward (h : Still s s') : d.Onward s s' := fun hs => ⟨h.sound hs, h.progress⟩

theorem keepsEntry (h : Still s s') : d.KeepsEntry s s' :=
  fun hname hgone => ⟨h.name.symm.trans hname, mt h.inTable.mpr hgone⟩

theorem calm (h : Still s s') (hdraw : s'.draw 0 = s.draw 0) : d.Calm s s' := by
  exact fun hname => ⟨h.name.trans hname, h.listed, by rw [h.calls], h.length, hdraw,
    fun c hc => h.symm_call hc⟩

/-- A change of the client's state, of the messages sent, or of what the phone counts. -/
theorem of_eq (hradioHal : s'.radioHal = s.radioHal) (hradio : s'.radio = s.radio)
    (hstarted : s'.started = s.started)
    (hclient : ∀ client ∈ s.sipClient, ∃ client' ∈ s'.sipClient, client.SameRequests client')
    (hheap : s'.callHeap = s.callHeap) (hcalls : s'.calls = s.calls) : Still s s' :=
  ⟨hradioHal, by rw [hradio], hstarted, hclient, by rw [hradio], fun v => by rw [hradio]; exact ⟨rfl, rfl⟩,
    by rw [hradio], by rw [hheap], hcalls⟩

theorem same_client : ∀ client ∈ s.sipClient, ∃ client' ∈ s.sipClient, client.SameRequests client' :=
  fun client h => ⟨client, h, .refl client⟩

theorem modifyClient (s : Phone) (e : ClientEvent) :
    Still s (s.modifyClient (Session.perform e)) := by
  refine of_eq rfl rfl rfl (fun client h => ⟨client.perform e, ?_, .perform e client⟩) rfl rfl
  rw [Phone.modifyClient, Option.mem_def.mp h]
  rfl

theorem beginRequest (args : RequestArgs) (s : Phone) : Still s (s.beginRequest args) := by
  cases hclient : s.sipClient with
  | none =>
      have heq : s.beginRequest args = s := by
        unfold Phone.beginRequest
        simp only [hclient]
      rw [heq]
      exact refl s
  | some client =>
      obtain ⟨client', hclient', hsame, -⟩ := beginRequest_client args hclient
      have hrequests : ∀ c ∈ s.sipClient, ∃ c' ∈ (s.beginRequest args).sipClient,
          c.SameRequests c' := by
        intro c hc
        obtain rfl := Option.some.inj (hclient.symm.trans hc)
        exact ⟨client', hclient', hsame⟩
      have hbegin : (s.beginRequest args).radioHal = s.radioHal ∧
          (s.beginRequest args).radio = s.radio ∧ (s.beginRequest args).started = s.started := by
        unfold Phone.beginRequest
        simp only [hclient]
        exact ⟨rfl, rfl, rfl⟩
      exact of_eq hbegin.1 hbegin.2.1 hbegin.2.2 hrequests (beginRequest_callHeap args s)
        (beginRequest_calls args s)

theorem indicate (s : Phone) (indication : ℕ) :
    Still s (s.modifyRadio (RadioHAL.indicate indication)) :=
  ⟨rfl, rfl, rfl, same_client, rfl, fun _ => ⟨rfl, rfl⟩, rfl, rfl, rfl⟩

theorem modifyVoice (s : Phone) (w : ℕ) (state : CallState) :
    Still s (s.modifyRadio (RadioHAL.modifyVoice w (VoiceCall.setState state))) := by
  refine ⟨rfl, rfl, rfl, same_client, List.length_modify .., fun v => ?_, rfl, rfl, rfl⟩
  have hvoice := RadioHAL.voice_modifyVoice w v (VoiceCall.setState state) s.radio
  rw [show (s.modifyRadio (RadioHAL.modifyVoice w (VoiceCall.setState state))).radio.voice v = _ from
    hvoice]
  split_ifs <;> exact ⟨rfl, rfl⟩

theorem modifyCall (s : Phone) (ref : ℕ) {f : VoLTECall → VoLTECall}
    (hf : ∀ c, (f c).mediaPart = c.mediaPart) : Still s (s.modifyCall ref f) := by
  refine ⟨rfl, rfl, rfl, same_client, rfl, fun _ => ⟨rfl, rfl⟩, rfl, ?_, rfl⟩
  rw [Phone.modifyCall_callHeap]
  refine List.ext_getElem? fun n => ?_
  rw [List.getElem?_map, List.getElem?_map, List.getElem?_modify]
  cases s.callHeap[n]? with
  | none => split_ifs <;> rfl
  | some c =>
      split_ifs
      · exact congrArg some (hf c)
      · rfl

end Still

/-! ### The voice call in the list -/

/-- The voice call is the one in the list with a property that no other has. -/
theorem find_voice {s : Phone} {q : VoiceCall → Bool}
    (hq : q (s.radio.voice d.voice) = true)
    (hothers : ∀ v ∈ s.radio.voiceCalls, v ≠ d.voice → q (s.radio.voice v) = false) :
    (d.Listed s → s.radio.find? q = some d.voice) ∧ (¬d.Listed s → s.radio.find? q = none) := by
  have honly : ∀ v, s.radio.find? q = some v → v = d.voice := by
    intro v hv
    by_contra hne
    have hfound := List.find?_some hv
    rw [hothers v (List.mem_of_find?_eq_some hv) hne] at hfound
    cases hfound
  constructor
  · intro hlisted
    cases hfind : s.radio.find? q with
    | none => exact absurd hq (List.find?_eq_none.mp hfind d.voice hlisted)
    | some v => rw [honly v hfind]
  · intro hoff
    cases hfind : s.radio.find? q with
    | none => rfl
    | some v =>
        have hmem := List.mem_of_find?_eq_some hfind
        rw [honly v hfind] at hmem
        exact absurd hmem hoff

namespace Sound

variable {s : Phone}

theorem find_index (hs : d.Sound s) :
    (d.Listed s → s.radio.find? (·.index = d.index) = some d.voice) ∧
      (¬d.Listed s → s.radio.find? (·.index = d.index) = none) :=
  find_voice (decide_eq_true hs.index) fun v hv hne => decide_eq_false (hs.others v hv hne).1

theorem find_callId (hs : d.Sound s) (hname : d.name s = d.callId) :
    (d.Listed s → s.radio.find? (·.sipCallId = d.callId) = some d.voice) ∧
      (¬d.Listed s → s.radio.find? (·.sipCallId = d.callId) = none) :=
  find_voice (decide_eq_true hname) fun v hv hne => decide_eq_false (hs.others v hv hne).2

/-- The phone without the voice call in its list. -/
def dropped (d : Dialed) (s : Phone) : Phone :=
  s.modifyRadio fun r => { r with voiceCalls := r.voiceCalls.erase d.voice }

theorem remove_eq (hs : d.Sound s) (hlisted : d.Listed s) :
    s.radio.remove d.voice = .ok (dropped d s).radio := by
  have hfind : s.radio.find? (· = s.radio.voice d.voice) = some d.voice := by
    refine (find_voice (decide_eq_true rfl) fun v hv hne => decide_eq_false fun heq => ?_).1 hlisted
    exact (hs.others v hv hne).1 (heq ▸ hs.index)
  unfold RadioHAL.remove
  rw [hfind]
  rfl

theorem dropSipCall_eq (hs : d.Sound s) (hname : d.name s = d.callId) :
    s.modifyRadio (RadioHAL.dropSipCall d.callId) = dropped d s := by
  by_cases hlisted : d.Listed s
  · simp only [Phone.modifyRadio, RadioHAL.dropSipCall, (hs.find_callId hname).1 hlisted, dropped]
  · simp only [Phone.modifyRadio, RadioHAL.dropSipCall, (hs.find_callId hname).2 hlisted, dropped,
      List.erase_of_not_mem hlisted]

theorem dropped_off (hs : d.Sound s) : ¬d.Listed (dropped d s) := by
  intro hmem
  have hcount := List.count_pos_iff.mpr hmem
  have hle := hs.once
  rw [show (dropped d s).radio.voiceCalls = s.radio.voiceCalls.erase d.voice from rfl,
    List.count_erase_self] at hcount
  omega

/-- The voice call may leave the list when it has no Call-ID, or the manager does not hold the
call. -/
theorem drop (hs : d.Sound s) (h : d.name s = d.callId → ¬d.InTable s) : d.Sound (dropped d s) := by
  refine ⟨hs.callId, hs.radioHal, hs.callManager, hs.client, hs.there, hs.index, ?_, ?_, hs.entry,
    hs.calls, hs.own, hs.name, ?_, hs.made, hs.media⟩
  · exact fun v hv => hs.others v (List.mem_of_mem_erase hv)
  · exact le_trans (List.Sublist.count_le _ List.erase_sublist) hs.once
  · exact fun hname => ⟨(hs.named hname).1, fun htable => absurd htable (h hname)⟩

theorem drop_progress (hs : d.Sound s) : d.Progress s (dropped d s) :=
  ⟨rfl, Still.same_client, id, fun _ => id, fun _ => hs.dropped_off⟩

end Sound

end Dialed

end VirtualPhone
