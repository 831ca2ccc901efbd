import VirtualPhone.VolteManager

/-! # What the methods do to a call

Every change that a method of the call manager or of the radio makes to a call is one of the
`CallChange`s: each says what the method has checked, or has seen happen, before it.  What a
suspended method relies on is that a call keeps its identity and that its history only grows
(`CallLater`).

An answered INVITE connects a call only where a condition `C` holds of it, which a reader of these
results chooses; a resumed method can rely on that (`ResumesWith`). -/

namespace VirtualPhone

open Runtime
open Async (when whenSome ignore onTimeout)

/-! ### Changes of a call -/

/-- The call keeps its state, its identity, its INVITE, its history and its session descriptions, and
its media sessions stay held or not held. -/
structure SameControl (c c' : VoLTECall) : Prop where
  state : c'.state = c.state
  direction : c'.direction = c.direction
  sipCallId : c'.sipCallId = c.sipCallId
  inviteMsg : c'.inviteMsg = c.inviteMsg
  history : c'.history = c.history
  sdp : c'.localSdp = c.localSdp ∧ c'.remoteSdp = c.remoteSdp ∧ c'.codec = c.codec
  held : ∀ (m : ℕ) (session : MediaSession), c.sessions[m]? = some session →
    ∃ session', c'.sessions[m]? = some session' ∧ session'.held = session.held

/-- One change of a call. -/
inductive CallChange (C : VoLTECall → Prop) : VoLTECall → VoLTECall → Prop
  | detail {c c' : VoLTECall} : SameControl c c' → CallChange C c c'
  | connected {c : VoLTECall} (body : Bytes) : c.direction = .mo → C c →
      CallChange C c (c.connect body)
  | answerInvoked {c : VoLTECall} :
      CallChange C c (c.record fun h => { h with answerInvoked := true })
  | answered {c : VoLTECall} : c.state = .ringingIn → c.history.answerInvoked = true →
      CallChange C c c.answer
  | okSent {c : VoLTECall} : c.history.answerInvoked = true ∨ c.history.reinvited = true →
      CallChange C c (c.record fun h => { h with okSent := true })
  | held {c : VoLTECall} : c.state = .active →
      CallChange C c (c.hold.record fun h => { h with everHeld := true })
  | holdReturned {c : VoLTECall} : c.history.everHeld = true →
      CallChange C c (c.record fun h => { h with locallyHeld := true })
  | released {c : VoLTECall} : c.state = .held → CallChange C c c.resume.release
  | transferRequested {c : VoLTECall} : c.state = .active ∨ c.state = .held →
      CallChange C c (c.record fun h => { h with transferRequested := true })
  | transferred {c : VoLTECall} (target : Text) : c.history.transferRequested = true →
      CallChange C c (((c.setState .active).release).setTransfer target)
  | terminated {c : VoLTECall} : c.history.removed = true →
      CallChange C c (c.setState .terminating)

/-- What stays of a call. -/
structure CallLater (c c' : VoLTECall) : Prop where
  direction : c'.direction = c.direction
  sipCallId : c'.sipCallId = c.sipCallId
  inviteRequest : c'.history.inviteRequest = c.history.inviteRequest
  answerInvoked : c.history.answerInvoked = true → c'.history.answerInvoked = true
  reinvited : c.history.reinvited = true → c'.history.reinvited = true
  everHeld : c.history.everHeld = true → c'.history.everHeld = true
  transferRequested : c.history.transferRequested = true → c'.history.transferRequested = true
  removed : c.history.removed = true → c'.history.removed = true

theorem CallLater.refl (c : VoLTECall) : CallLater c c := ⟨rfl, rfl, rfl, id, id, id, id, id⟩

theorem CallLater.trans {a b c : VoLTECall} (h : CallLater a b) (h' : CallLater b c) :
    CallLater a c :=
  ⟨h'.direction.trans h.direction, h'.sipCallId.trans h.sipCallId,
    h'.inviteRequest.trans h.inviteRequest, h'.answerInvoked ∘ h.answerInvoked,
    h'.reinvited ∘ h.reinvited, h'.everHeld ∘ h.everHeld,
    h'.transferRequested ∘ h.transferRequested, h'.removed ∘ h.removed⟩

/-! ### The fields of a changed call -/

namespace VoLTECall

@[simp] theorem onMedia_state (f : MediaSession → MediaSession) (c : VoLTECall) :
    (c.onMedia f).state = c.state := by
  unfold onMedia
  split <;> rfl

@[simp] theorem onMedia_direction (f : MediaSession → MediaSession) (c : VoLTECall) :
    (c.onMedia f).direction = c.direction := by
  unfold onMedia
  split <;> rfl

@[simp] theorem onMedia_sipCallId (f : MediaSession → MediaSession) (c : VoLTECall) :
    (c.onMedia f).sipCallId = c.sipCallId := by
  unfold onMedia
  split <;> rfl

@[simp] theorem onMedia_inviteMsg (f : MediaSession → MediaSession) (c : VoLTECall) :
    (c.onMedia f).inviteMsg = c.inviteMsg := by
  unfold onMedia
  split <;> rfl

@[simp] theorem onMedia_history (f : MediaSession → MediaSession) (c : VoLTECall) :
    (c.onMedia f).history = c.history := by
  unfold onMedia
  split <;> rfl

theorem media_onMedia (f : MediaSession → MediaSession) (c : VoLTECall) :
    (c.onMedia f).media = c.media.map f := by
  unfold onMedia
  split
  · next m hm =>
      simp only [media, hm, Option.bind_some, List.getElem?_modify_eq]
      rfl
  · next hm => simp only [media, hm, Option.bind_none, Option.map_none]

theorem hold_active (session : MediaSession) :
    session.hold.active = session.active ∧ (session.active = true → session.hold.held = true) := by
  unfold MediaSession.hold
  split_ifs with h
  · exact ⟨rfl, fun _ => rfl⟩
  · exact ⟨rfl, fun h' => absurd h' h⟩

theorem resume_active (session : MediaSession) :
    session.resume.active = session.active ∧ (session.active = true → session.resume.held = false) := by
  unfold MediaSession.resume
  split_ifs with h
  · exact ⟨rfl, fun _ => rfl⟩
  · exact ⟨rfl, fun h' => absurd h' h⟩

/-- The media session is active. -/
def Playing (c : VoLTECall) : Prop := ∃ session ∈ c.media, session.active = true

instance (c : VoLTECall) : Decidable c.Playing := inferInstanceAs (Decidable (∃ _ ∈ _, _))

/-- A media operation changes the sessions by itself, or leaves them. -/
theorem onMedia_sessions (f : MediaSession → MediaSession) (c : VoLTECall) {m : ℕ}
    {session : MediaSession} (h : c.sessions[m]? = some session) :
    ∃ session', (c.onMedia f).sessions[m]? = some session' ∧
      (session' = f session ∨ session' = session) := by
  unfold onMedia
  split
  · rw [List.getElem?_modify, h]
    split_ifs
    · exact ⟨_, rfl, Or.inl rfl⟩
    · exact ⟨_, rfl, Or.inr rfl⟩
  · exact ⟨session, h, Or.inr rfl⟩

end VoLTECall

theorem SameControl.modifySession (c : VoLTECall) (m : ℕ) {f : MediaSession → MediaSession}
    (hf : ∀ session, (f session).held = session.held) : SameControl c (c.modifySession m f) := by
  refine ⟨rfl, rfl, rfl, rfl, rfl, ⟨rfl, rfl, rfl⟩, ?_⟩
  intro n session hn
  unfold VoLTECall.modifySession
  rw [List.getElem?_modify, hn]
  split_ifs
  · exact ⟨_, rfl, hf session⟩
  · exact ⟨_, rfl, rfl⟩

theorem SameControl.addSession (c : VoLTECall) : SameControl c c.addSession := by
  refine ⟨rfl, rfl, rfl, rfl, rfl, ⟨rfl, rfl, rfl⟩, fun m session hm => ⟨session, ?_, rfl⟩⟩
  exact (List.getElem?_append_left (List.getElem?_eq_some_iff.mp hm).1).trans hm

theorem SameControl.of_eq {c c' : VoLTECall} (hstate : c'.state = c.state)
    (hdirection : c'.direction = c.direction) (hid : c'.sipCallId = c.sipCallId)
    (hmsg : c'.inviteMsg = c.inviteMsg) (hhistory : c'.history = c.history)
    (hsdp : c'.localSdp = c.localSdp ∧ c'.remoteSdp = c.remoteSdp ∧ c'.codec = c.codec)
    (hsessions : c'.sessions = c.sessions) : SameControl c c' :=
  ⟨hstate, hdirection, hid, hmsg, hhistory, hsdp, fun _ session hm => ⟨session, hsessions ▸ hm, rfl⟩⟩

theorem SameControl.setRadioCallIndex (index : ℕ) (c : VoLTECall) :
    SameControl c (c.setRadioCallIndex index) := .of_eq rfl rfl rfl rfl rfl ⟨rfl, rfl, rfl⟩ rfl

theorem CallChange.later {C : VoLTECall → Prop} {c c' : VoLTECall} (h : CallChange C c c') :
    CallLater c c' := by
  cases h with
  | detail h =>
      have hh := h.history
      exact ⟨h.direction, h.sipCallId, by rw [hh], by rw [hh]; exact id, by rw [hh]; exact id,
        by rw [hh]; exact id, by rw [hh]; exact id, by rw [hh]; exact id⟩
  | connected body _ _ => exact ⟨rfl, rfl, rfl, id, id, id, id, id⟩
  | answerInvoked => exact ⟨rfl, rfl, rfl, fun _ => rfl, id, id, id, id⟩
  | answered _ _ => exact ⟨rfl, rfl, rfl, id, id, id, id, id⟩
  | okSent _ => exact ⟨rfl, rfl, rfl, id, id, id, id, id⟩
  | held _ =>
      constructor <;> simp [VoLTECall.hold, VoLTECall.record, VoLTECall.setState]
  | holdReturned _ => exact ⟨rfl, rfl, rfl, id, id, id, id, id⟩
  | released _ =>
      constructor <;> simp [VoLTECall.resume, VoLTECall.release, VoLTECall.setState]
  | transferRequested _ => exact ⟨rfl, rfl, rfl, id, id, id, fun _ => rfl, id⟩
  | transferred target _ => exact ⟨rfl, rfl, rfl, id, id, id, id, id⟩
  | terminated _ => exact ⟨rfl, rfl, rfl, id, id, id, id, id⟩

theorem VoLTECall.reinvite_later (sdp : Text) (c : VoLTECall) : CallLater c (c.reinvite sdp) := by
  unfold VoLTECall.reinvite
  simp only
  split_ifs <;> constructor <;> simp [VoLTECall.hold, VoLTECall.resume, VoLTECall.setState]

theorem VoLTECall.reinvite_reinvited (sdp : Text) (c : VoLTECall) :
    (c.reinvite sdp).history.reinvited = true := by
  unfold VoLTECall.reinvite
  simp only
  split_ifs <;> simp [VoLTECall.hold, VoLTECall.resume, VoLTECall.setState]

/-! ### Changes of the phone -/

/-- A call as it is made. -/
structure IsNew (c : VoLTECall) : Prop where
  state : c.state = .initiating ∧ c.direction = .mo ∨ c.state = .ringingIn ∧ c.direction = .mt
  history : c.history = { inviteRequest := c.history.inviteRequest }
  sessions : c.sessions = []
  inviteMsg : ∀ m ∈ c.inviteMsg, m.1.callId = c.sipCallId

/-- The local SDP of the call is the offer of a configuration, and no codec is selected yet. -/
def VoLTECall.Offers (cfg : VoLTEConfig) (c : VoLTECall) : Prop :=
  c.localSdp = buildSdpOffer cfg.mediaIp c.rtpPort cfg.codecPriority .sendrecv ∧ c.codec = []

/-- The headers the 200 OK to an INVITE has more than other responses. -/
def inviteOkHeaders (cfg : VoLTEConfig) : List (Text × Text) :=
  [("Contact".toList, "<sip:".toList ++ cfg.impu ++ ">".toList),
    ("Content-Type".toList, "application/sdp".toList)]

/-- `callId` is the Call-ID of `msg`, or that of a call whose INVITE `msg` is. -/
def Phone.Answers (s : Phone) (msg : SIPMessage) (callId : Text) : Prop :=
  callId = msg.callId ∨
    ∃ ref addr, s.calls.get? callId = some ref ∧ (s.call ref).inviteMsg = some (msg, addr)

/-- A message the phone sends: a request of its client, an ACK, or a response to a message. -/
inductive Outgoing (s : Phone) : SIPMessage → Prop
  | request {client : Session} (args : RequestArgs) : s.sipClient = some client →
      Outgoing s (client.client.request args
        { callId := s.draw 0, branch := s.draw 1, tag := s.draw 2 })
  | ack (ref : ℕ) : Outgoing s (s.ack ref)
  | reply (msg : SIPMessage) (code : ℤ) {reason : String} : OneLine reason.toList →
      Outgoing s (response msg code reason msg.callId [] [])
  | inviteOk {msg : SIPMessage} {callId : Text} (ref : ℕ) : s.Answers msg callId →
      Outgoing s (response msg 200 "OK" callId (inviteOkHeaders s.config)
        (encodeUtf8 (s.call ref).localSdp))

/-- How many entries of the table are in state ACTIVE. -/
def Phone.activeCount (s : Phone) : ℕ := s.calls.values.countP fun ref => (s.call ref).state = .active

/-- The random texts are drawn in order, and the From tag of a request that goes out is one of them. -/
structure Draws (s s' : Phone) : Prop where
  random : s'.random = s.random
  drawn : s.drawn ≤ s'.drawn
  tag : ∀ msg addr, s'.sent = s.sent ++ [(msg, addr)] → msg.method.isSome →
    ∃ uri k, s.drawn ≤ k ∧ k < s'.drawn ∧
      msg.fromHeader = "<".toList ++ uri ++ ">;tag=".toList ++ s.random k

theorem Draws.of_sent {s s' : Phone} (hrandom : s'.random = s.random) (hdrawn : s.drawn ≤ s'.drawn)
    (hsent : s'.sent = s.sent) : Draws s s' := by
  refine ⟨hrandom, hdrawn, fun msg addr h _ => ?_⟩
  rw [hsent] at h
  cases List.self_eq_append_right.mp h

/-- A message goes out, and it is a response or has a tag drawn on the way. -/
theorem Draws.of_send {s s' : Phone} {msg : SIPMessage} {addr : Text × ℕ}
    (hrandom : s'.random = s.random) (hdrawn : s.drawn ≤ s'.drawn)
    (hsent : s'.sent = s.sent ++ [(msg, addr)])
    (htag : msg.method.isSome → ∃ uri k, s.drawn ≤ k ∧ k < s'.drawn ∧
      msg.fromHeader = "<".toList ++ uri ++ ">;tag=".toList ++ s.random k) : Draws s s' := by
  refine ⟨hrandom, hdrawn, fun msg' addr' h => ?_⟩
  rw [hsent] at h
  obtain ⟨rfl, -⟩ := Prod.mk.inj (List.singleton_inj.mp (List.append_cancel_left h))
  exact htag

/-- What a change does besides: at most one message goes out, no voice call begins to ring at the
other end, the counter of active calls stays or counts the calls, and random texts are drawn. -/
structure Aside (s s' : Phone) : Prop where
  sent : s'.sent = s.sent ∨ ∃ msg addr, s'.sent = s.sent ++ [(msg, addr)] ∧ Outgoing s msg
  alerting : s.radio.NoRingback s'.radio
  counter : s'.volteState.activeCalls = s.volteState.activeCalls ∨
    s'.volteState.activeCalls = s.activeCount
  draws : Draws s s'

theorem Aside.of_eq {s s' : Phone} (hsent : s'.sent = s.sent) (hradio : s'.radio = s.radio)
    (hcounter : s'.volteState.activeCalls = s.volteState.activeCalls) (hrandom : s'.random = s.random)
    (hdrawn : s.drawn ≤ s'.drawn) : Aside s s' :=
  ⟨Or.inl hsent, .of_eq (by rw [hradio]), Or.inl hcounter, .of_sent hrandom hdrawn hsent⟩

theorem Aside.of_send {s s' : Phone} {msg : SIPMessage} {addr : Text × ℕ} (hmsg : Outgoing s msg)
    (hsent : s'.sent = s.sent ++ [(msg, addr)]) (hradio : s'.radio = s.radio)
    (hcounter : s'.volteState = s.volteState) (hdraws : Draws s s') : Aside s s' :=
  ⟨Or.inr ⟨msg, addr, hsent, hmsg⟩, .of_eq (by rw [hradio]), Or.inl (by rw [hcounter]), hdraws⟩

theorem Aside.of_response {s s' : Phone} {msg : SIPMessage} {addr : Text × ℕ} (hmsg : Outgoing s msg)
    (hmethod : msg.method = none) (hsent : s'.sent = s.sent ++ [(msg, addr)])
    (hradio : s'.radio = s.radio) (hcounter : s'.volteState = s.volteState)
    (hrandom : s'.random = s.random) (hdrawn : s'.drawn = s.drawn) : Aside s s' := by
  refine .of_send hmsg hsent hradio hcounter (.of_send hrandom hdrawn.ge hsent fun h => ?_)
  rw [hmethod] at h
  cases h

/-- One change of the phone, as far as its configuration, the calls and their table are concerned. -/
inductive Micro (C : VoLTECall → Prop) : Phone → Phone → Prop
  | other {s s' : Phone} : s'.callHeap = s.callHeap → s'.calls = s.calls → s'.config = s.config →
      Aside s s' → Micro C s s'
  | created {s : Phone} (c : VoLTECall) : IsNew c → c.Offers s.config → Micro C s (s.newCall c)
  | deleted {s : Phone} (callId : Text) : Micro C s (s.delCall callId)
  | popped {s : Phone} {callId : Text} {ref : ℕ} : s.calls.get? callId = some ref →
      Micro C s (s.popCall callId ref)
  | changed {s s' : Phone} (ref : ℕ) (f : VoLTECall → VoLTECall) :
      (∀ c, s.callHeap[ref]? = some c → CallChange C c (f c)) →
      s'.callHeap = s.callHeap.modify ref f → s'.calls = s.calls → s'.config = s.config →
      Aside s s' → Micro C s s'

/-- Every call stays, as a later one. -/
def Later (s s' : Phone) : Prop :=
  ∀ (ref : ℕ) (c : VoLTECall), s.callHeap[ref]? = some c →
    ∃ c', s'.callHeap[ref]? = some c' ∧ CallLater c c'

theorem Later.refl (s : Phone) : Later s s := fun _ c h => ⟨c, h, CallLater.refl c⟩

theorem Later.trans {a b c : Phone} (h : Later a b) (h' : Later b c) : Later a c := by
  intro ref x hx
  obtain ⟨y, hy, hxy⟩ := h ref x hx
  obtain ⟨z, hz, hyz⟩ := h' ref y hy
  exact ⟨z, hz, hxy.trans hyz⟩

theorem Later.of_heap {s s' : Phone} (h : s'.callHeap = s.callHeap) : Later s s' :=
  fun _ c hc => ⟨c, h ▸ hc, CallLater.refl c⟩

theorem Later.of_modify {s s' : Phone} {ref : ℕ} {f : VoLTECall → VoLTECall}
    (hf : ∀ c, s.callHeap[ref]? = some c → CallLater c (f c))
    (h : s'.callHeap = s.callHeap.modify ref f) : Later s s' := by
  intro n c hc
  by_cases hn : ref = n
  · obtain rfl := hn
    exact ⟨f c, by rw [h, List.getElem?_modify_eq, hc]; rfl, hf c hc⟩
  · exact ⟨c, by rw [h, List.getElem?_modify_ne f _ hn, hc], CallLater.refl c⟩

theorem Micro.later {C : VoLTECall → Prop} {s s' : Phone} (h : Micro C s s') : Later s s' := by
  cases h with
  | other hheap _ _ _ => exact Later.of_heap hheap
  | created c _ _ =>
      intro ref x hx
      exact ⟨x, (List.getElem?_append_left (List.getElem?_eq_some_iff.mp hx).1).trans hx,
        CallLater.refl x⟩
  | deleted callId => exact Later.of_heap rfl
  | popped _ =>
      refine Later.of_modify (fun c _ => ?_) rfl
      exact ⟨rfl, rfl, rfl, id, id, id, id, fun _ => rfl⟩
  | changed ref f hf hheap _ _ _ => exact Later.of_modify (fun c hc => (hf c hc).later) hheap

theorem Micro.config {C : VoLTECall → Prop} {s s' : Phone} (h : Micro C s s') : s'.config = s.config := by
  cases h with
  | other _ _ hconfig _ => exact hconfig
  | created c _ _ => rfl
  | deleted callId => rfl
  | popped _ => rfl
  | changed ref f _ _ _ hconfig _ => exact hconfig

/-- The response to request `i` connects only calls with `C`. -/
def Connects (C : VoLTECall → Prop) (i : ℕ) (msg : SIPMessage) (s : Phone) : Prop :=
  msg.statusCode = some 200 → ∀ (ref : ℕ) (c : VoLTECall), s.callHeap[ref]? = some c →
    c.history.inviteRequest = some i → C c

/-- The response that waits for the sender of request `i` connects only calls with `C`. -/
def ResumesWith (C : VoLTECall → Prop) : Await → Phone → Prop
  | .response i, s => ∀ msg, s.sipClient.bind (·.response? i) = some msg → Connects C i msg s
  | _, _ => True

/-- The discipline of the methods. -/
def volteDiscipline (C : VoLTECall → Prop) : Discipline Phone Await where
  micro := Micro C
  later := Later
  resumes := ResumesWith C
  refl := Later.refl
  trans := Later.trans
  micro_later := Micro.later

namespace Phone

@[simp] theorem modifyCall_calls (ref : ℕ) (f : VoLTECall → VoLTECall) (s : Phone) :
    (s.modifyCall ref f).calls = s.calls := rfl

@[simp] theorem modifyCall_callHeap (ref : ℕ) (f : VoLTECall → VoLTECall) (s : Phone) :
    (s.modifyCall ref f).callHeap = s.callHeap.modify ref f := rfl

theorem eq_or_of_modify {heap : List VoLTECall} {ref r : ℕ} {f : VoLTECall → VoLTECall}
    {c' : VoLTECall} (h : (heap.modify ref f)[r]? = some c') :
    ∃ c, heap[r]? = some c ∧ (ref = r ∧ c' = f c ∨ c' = c) := by
  by_cases hr : ref = r
  · obtain rfl := hr
    rw [List.getElem?_modify_eq] at h
    obtain ⟨c, hc, rfl⟩ := Option.map_eq_some_iff.mp h
    exact ⟨c, hc, Or.inl ⟨rfl, rfl⟩⟩
  · rw [List.getElem?_modify_ne f _ hr] at h
    exact ⟨c', h, Or.inr rfl⟩

/-- A property of all calls that the change of one call keeps. -/
theorem forall_modify {K : VoLTECall → Prop} {heap : List VoLTECall} {ref : ℕ}
    {f : VoLTECall → VoLTECall} (hf : ∀ c, heap[ref]? = some c → K c → K (f c))
    (hheap : ∀ c ∈ heap, K c) : ∀ c ∈ heap.modify ref f, K c := by
  intro c' hc'
  obtain ⟨r, hr⟩ := List.mem_iff_getElem?.mp hc'
  obtain ⟨c, hc, ⟨rfl, rfl⟩ | rfl⟩ := eq_or_of_modify hr
  · exact hf c hc (hheap c (List.mem_of_getElem? hc))
  · exact hheap c' (List.mem_of_getElem? hc)

theorem eq_or_of_append {heap : List VoLTECall} {r : ℕ} {c c' : VoLTECall}
    (h : (heap ++ [c])[r]? = some c') : heap[r]? = some c' ∨ r = heap.length ∧ c' = c := by
  rcases lt_trichotomy r heap.length with hr | rfl | hr
  · rw [List.getElem?_append_left hr] at h
    exact Or.inl h
  · rw [List.getElem?_concat_length] at h
    exact Or.inr ⟨rfl, (Option.some.inj h).symm⟩
  · rw [List.getElem?_eq_none (by simp; omega)] at h
    cases h

theorem call_eq {s : Phone} {ref : ℕ} {c : VoLTECall} (h : s.callHeap[ref]? = some c) :
    s.call ref = c := by
  rw [call, List.getD_eq_getElem?_getD, h]
  rfl

/-- The call `ref` is there and has `K`. -/
def Knows (K : VoLTECall → Prop) (ref : ℕ) (s : Phone) : Prop :=
  ∃ c, s.callHeap[ref]? = some c ∧ K c

theorem Knows.apply {K : VoLTECall → Prop} {ref : ℕ} {s : Phone} (h : s.Knows K ref) {c : VoLTECall}
    (hc : s.callHeap[ref]? = some c) : K c := by
  obtain ⟨c', hc', hK⟩ := h
  rw [hc] at hc'
  obtain rfl := Option.some.inj hc'
  exact hK

theorem Knows.imp {K L : VoLTECall → Prop} {ref : ℕ} {s : Phone} (h : s.Knows K ref)
    (hKL : ∀ c, K c → L c) : s.Knows L ref := by
  obtain ⟨c, hc, hK⟩ := h
  exact ⟨c, hc, hKL c hK⟩

theorem Knows.later {K : VoLTECall → Prop} {ref : ℕ} {s s' : Phone} (h : s.Knows K ref)
    (hK : ∀ c c', CallLater c c' → K c → K c') (hs : Later s s') : s'.Knows K ref := by
  obtain ⟨c, hc, hKc⟩ := h
  obtain ⟨c', hc', hlater⟩ := hs ref c hc
  exact ⟨c', hc', hK c c' hlater hKc⟩

theorem Knows.modifyCall {K L : VoLTECall → Prop} {ref : ℕ} {s : Phone} (h : s.Knows K ref)
    {f : VoLTECall → VoLTECall} (hf : ∀ c, K c → L (f c)) : (s.modifyCall ref f).Knows L ref := by
  obtain ⟨c, hc, hK⟩ := h
  refine ⟨f c, ?_, hf c hK⟩
  rw [modifyCall_callHeap, List.getElem?_modify_eq, hc]
  rfl

theorem knows_of_get? {s : Phone} {callId : Text} {ref : ℕ} (h : s.calls.get? callId = some ref) :
    s.Knows (· = s.call ref) ref := by
  have hlt := s.valid callId ref h
  exact ⟨s.callHeap[ref], List.getElem?_eq_getElem hlt,
    (call_eq (List.getElem?_eq_getElem hlt)).symm⟩

end Phone

section

variable {C : VoLTECall → Prop} {α : Type}

/-! ### Parts of the methods -/

/-- A method keeps the discipline from every state on. -/
abbrev Keeps (C : VoLTECall → Prop) (body : Async α) : Prop := Coro.Safe (volteDiscipline C) body

/-- A method keeps the discipline from `s` on. -/
abbrev KeepsAt (C : VoLTECall → Prop) (body : Async α) (s : Phone) : Prop :=
  body.Guarantees (volteDiscipline C) (fun _ _ => True) s

open Coro (get modify raise attempt)

theorem when_keepsAt {c : Prop} [Decidable c] {body : Async Unit} {s : Phone}
    (h : c → KeepsAt C body s) : KeepsAt C (when c body) s := by
  unfold Async.when
  split_ifs with hc
  · exact h hc
  · trivial

theorem when_keeps {c : Prop} [Decidable c] {body : Async Unit} (h : c → Keeps C body) :
    Keeps C (when c body) := fun s => when_keepsAt fun hc => h hc s

theorem whenSome_keepsAt {o : Option α} {body : α → Async Unit} {s : Phone}
    (h : ∀ a, o = some a → KeepsAt C (body a) s) : KeepsAt C (whenSome o body) s := by
  cases o with
  | none => trivial
  | some a => exact h a rfl

theorem whenSome_keeps {o : Option α} {body : α → Async Unit} (h : ∀ a, Keeps C (body a)) :
    Keeps C (whenSome o body) := fun s => whenSome_keepsAt fun a _ => h a s

theorem ignore_keeps {body : Async α} (h : Keeps C body) : Keeps C (ignore body) :=
  Coro.Safe.bind h fun _ => Coro.Safe.pure ()

theorem lift_keeps (x : Except PyError α) : Keeps C (Async.lift x) := fun _ => trivial

theorem onTimeout_keepsAt {body handler : Async α} {s : Phone} (hbody : KeepsAt C body s)
    (hhandler : Keeps C handler) : KeepsAt C (onTimeout body handler) s := by
  refine Coro.Guarantees.bind (K := fun _ _ => True) (Coro.Guarantees.attempt hbody) ?_
    fun _ _ _ _ => trivial
  intro r s' _ _
  match r with
  | .ok a => trivial
  | .error (.timeoutError m) => exact hhandler s'
  | .error .indexError => trivial
  | .error (.keyError k) => trivial
  | .error (.valueError m) => trivial
  | .error .typeError => trivial
  | .error .attributeError => trivial
  | .error .overflowError => trivial
  | .error (.memoryError m) => trivial
  | .error (.runtimeError m) => trivial
  | .error .osError => trivial
  | .error (.exception name m) => trivial

theorem onTimeout_keeps {body handler : Async α} (hbody : Keeps C body) (hhandler : Keeps C handler) :
    Keeps C (onTimeout body handler) := fun s => onTimeout_keepsAt (hbody s) hhandler

theorem modify_keeps {f : Phone → Phone} (hheap : ∀ s, (f s).callHeap = s.callHeap)
    (hcalls : ∀ s, (f s).calls = s.calls) (hconfig : ∀ s, (f s).config = s.config)
    (haside : ∀ s, Aside s (f s)) : Keeps C (modify f : Async Unit) :=
  Coro.Safe.modify fun s => Micro.other (hheap s) (hcalls s) (hconfig s) (haside s)

theorem micro_modifyRadio {f : RadioHAL → RadioHAL} {s : Phone} (hf : s.radio.NoRingback (f s.radio)) :
    Micro C s (s.modifyRadio f) :=
  Micro.other rfl rfl rfl ⟨Or.inl rfl, hf, Or.inl rfl, .of_sent rfl le_rfl rfl⟩

theorem modifyRadio_keeps {f : RadioHAL → RadioHAL} (hf : ∀ r : RadioHAL, r.NoRingback (f r)) :
    Keeps C (modifyRadio f) := Coro.Safe.modify fun s => micro_modifyRadio (hf s.radio)

theorem modifyClient_keeps (f : Session → Session) :
    Keeps C (modify (Phone.modifyClient f) : Async Unit) :=
  modify_keeps (fun _ => rfl) (fun _ => rfl) (fun _ => rfl) fun _ => .of_eq rfl rfl rfl rfl le_rfl

theorem countActive_keeps : Keeps C (modify Phone.countActive : Async Unit) :=
  modify_keeps (fun _ => rfl) (fun _ => rfl) (fun _ => rfl) fun _ => 
    ⟨Or.inl rfl, .of_eq rfl, Or.inr rfl, .of_sent rfl le_rfl rfl⟩

theorem countCall_keeps (ref : ℕ) :
    Keeps C (modify fun s => s.countCall (s.call ref).codec : Async Unit) :=
  modify_keeps (fun _ => rfl) (fun _ => rfl) (fun _ => rfl) fun _ => .of_eq rfl rfl rfl rfl le_rfl

theorem micro_modifyCall {ref : ℕ} {f : VoLTECall → VoLTECall} {s : Phone}
    (h : ∀ c, s.callHeap[ref]? = some c → CallChange C c (f c)) : Micro C s (s.modifyCall ref f) :=
  Micro.changed ref f h rfl rfl rfl (.of_eq rfl rfl rfl rfl le_rfl)

theorem modifyCall_keepsAt {ref : ℕ} {f : VoLTECall → VoLTECall} {s : Phone}
    (h : ∀ c, s.callHeap[ref]? = some c → CallChange C c (f c)) : KeepsAt C (modifyCall ref f) s :=
  ⟨micro_modifyCall h, trivial⟩

theorem modifyCall_keeps {ref : ℕ} {f : VoLTECall → VoLTECall} (h : ∀ c, SameControl c (f c)) :
    Keeps C (modifyCall ref f) := fun _ => modifyCall_keepsAt fun c _ => .detail (h c)

/-! ### Requests and responses -/

theorem beginRequest_callHeap (args : RequestArgs) (s : Phone) :
    (s.beginRequest args).callHeap = s.callHeap := by
  unfold Phone.beginRequest
  split <;> rfl

theorem beginRequest_calls (args : RequestArgs) (s : Phone) :
    (s.beginRequest args).calls = s.calls := by
  unfold Phone.beginRequest
  split <;> rfl

theorem beginRequest_config (args : RequestArgs) (s : Phone) :
    (s.beginRequest args).config = s.config := by
  unfold Phone.beginRequest
  split <;> rfl

/-- The caller's headers leave a header alone that is not among them. -/
theorem foldl_set_get? {k : Text} (l : List (Text × Text)) (hk : ∀ e ∈ l, e.1 ≠ k)
    (d : Dict Text Text) : (l.foldl (fun d e => d.set e.1 e.2) d).get? k = d.get? k := by
  induction l generalizing d with
  | nil => rfl
  | cons e l ih =>
      obtain ⟨he, hl⟩ := List.forall_mem_cons.mp hk
      rw [List.foldl_cons, ih hl, Dict.get?_set_ne _ _ he.symm]

/-- No From header is among these. -/
def LeavesFrom (headers : List (Text × Text)) : Prop := ∀ e ∈ headers, e.1 ≠ "From".toList

theorem request_fromHeader {args : RequestArgs} (h : LeavesFrom args.extraHeaders) (c : SIPClient)
    (ids : RandomIds) : (c.request args ids).fromHeader =
      "<".toList ++ args.fromUri ++ ">;tag=".toList ++ ids.tag := by
  unfold SIPMessage.fromHeader SIPMessage.header SIPClient.request SIPClient.requestHeaders
  rw [foldl_set_get? _ h, (Dict.get?_ofList _ _ _).mpr
    (List.mem_cons_of_mem _ (List.mem_cons_of_mem _ List.mem_cons_self))]
  · rfl
  · change ["Via".toList, "Max-Forwards".toList, "From".toList, "To".toList, "Call-ID".toList,
      "CSeq".toList, "User-Agent".toList].Nodup
    decide

theorem beginRequest_aside {args : RequestArgs} (h : LeavesFrom args.extraHeaders) (s : Phone) :
    Aside s (s.beginRequest args) := by
  unfold Phone.beginRequest
  split
  · exact .of_eq rfl rfl rfl rfl le_rfl
  · next client hclient =>
      refine .of_send (.request args hclient) rfl rfl rfl
        (.of_send rfl (Nat.le_add_right _ _) rfl fun _ => ?_)
      exact ⟨args.fromUri, s.drawn + 2, Nat.le_add_right _ _, Nat.lt_succ_self _,
        request_fromHeader h _ _⟩

/-- The response a request gets is the one that waited for its sender. -/
theorem sendRequest_guarantees {args : RequestArgs} (hargs : LeavesFrom args.extraHeaders) (s : Phone) :
    (sendRequest args).Guarantees (volteDiscipline C)
      (fun r s' => ∀ msg, r = .ok msg →
        ∃ i, s.sipClient.map (·.calls.length) = some i ∧ Connects C i msg s') s := by
  unfold sendRequest
  rw [Coro.guarantees_get_bind]
  split
  · intro msg h
    cases h
  · next client hclient =>
      rw [Coro.guarantees_modify_bind]
      refine ⟨Micro.other (beginRequest_callHeap args s) (beginRequest_calls args s)
        (beginRequest_config args s) (beginRequest_aside hargs s), ?_⟩
      rw [Coro.guarantees_await_bind]
      intro s' _ hresumes
      rw [Coro.guarantees_get_bind]
      split
      · next response hresponse =>
          refine ⟨Micro.other rfl rfl rfl (.of_eq rfl rfl rfl rfl le_rfl), ?_⟩
          intro msg hmsg
          obtain rfl := Except.ok.inj hmsg
          exact ⟨client.calls.length, by rw [hclient]; rfl, hresumes response hresponse⟩
      · rw [Coro.guarantees_modify_bind]
        refine ⟨Micro.other rfl rfl rfl (.of_eq rfl rfl rfl rfl le_rfl), ?_⟩
        rw [Coro.guarantees_get_bind]
        split <;> exact fun _ h => by cases h

theorem sendRequest_keeps {args : RequestArgs} (h : LeavesFrom args.extraHeaders) :
    Keeps C (sendRequest args) :=
  fun s => (sendRequest_guarantees h s).mono fun _ _ _ _ => trivial

theorem VoLTEConfig.withRoute_from (cfg : VoLTEConfig) {headers : List (Text × Text)}
    (h : LeavesFrom headers) : LeavesFrom (cfg.withRoute headers) := by
  unfold withRoute
  split_ifs
  · exact h
  · intro e he
    rcases List.mem_append.mp he with he | he
    · exact h e he
    · rw [List.mem_singleton.mp he]
      change "Route".toList ≠ "From".toList
      decide

/-- A request of a dialog, with headers that have the given names. -/
theorem sendDialogRequest_keeps (ref : ℕ) (method : String) {headers : List (Text × Text)}
    (names : List Text) (hnames : headers.map Prod.fst = names) (h : "From".toList ∉ names)
    (body : Bytes) : Keeps C (sendDialogRequest ref method headers body) := by
  refine Coro.Safe.get_bind fun s => sendRequest_keeps (s.config.withRoute_from fun e he heq => ?_) s
  exact h (hnames ▸ heq ▸ List.mem_map_of_mem he)

/-- A response to `msg` goes out, if there is a client. -/
theorem sendIfClient_keeps (msg : SIPMessage) {code : ℤ} {reason : String}
    (h : OneLine reason.toList) (addr : Text × ℕ) :
    Keeps C (sendIfClient (response msg code reason msg.callId [] []) addr) := by
  refine modify_keeps ?_ ?_ ?_ fun s => ?_
  · intro s
    split_ifs <;> rfl
  · intro s
    split_ifs <;> rfl
  · intro s
    split_ifs <;> rfl
  · split_ifs
    · exact .of_response (.reply msg code h) rfl rfl rfl rfl rfl rfl
    · exact .of_eq rfl rfl rfl rfl le_rfl

theorem ack_fromHeader (s : Phone) (ref : ℕ) : (s.ack ref).fromHeader =
    "<".toList ++ s.config.fromUri ++ ">;tag=".toList ++ s.draw 1 := by
  have hnames : List.Nodup ["Via".toList, "Max-Forwards".toList, "From".toList, "To".toList,
      "Call-ID".toList, "CSeq".toList] := by decide
  have hget : (s.ack ref).headers.get? "From".toList =
      some ("<".toList ++ s.config.fromUri ++ ">;tag=".toList ++ s.draw 1) := by
    dsimp only [Phone.ack]
    refine (Dict.get?_ofList ?_ _ _).mpr ?_
    · exact hnames
    · simp only [List.mem_cons, true_or, or_true]
  rw [SIPMessage.fromHeader, SIPMessage.header, hget, Option.getD_some]

theorem sendAck_keeps (ref : ℕ) : Keeps C (sendAck ref) := by
  refine modify_keeps (fun _ => rfl) (fun _ => rfl) (fun _ => rfl) fun s => ?_
  refine .of_send (.ack ref) rfl rfl rfl (.of_send rfl (Nat.le_add_right _ _) rfl fun _ => ?_)
  exact ⟨s.config.fromUri, s.drawn + 1, Nat.le_add_right _ _, Nat.lt_succ_self _, ack_fromHeader s ref⟩

/-- The 200 OK to an INVITE goes out for a call the user took or the other side invited again. -/
theorem sendInviteOk_guarantees {K : VoLTECall → Prop} {ref : ℕ} {s : Phone} {msg : SIPMessage}
    {callId : Text} (addr : Text × ℕ) (hanswers : s.Answers msg callId)
    (h : s.Knows (fun c => (c.history.answerInvoked = true ∨ c.history.reinvited = true) ∧ K c) ref)
    (hK : ∀ c, K c → K (c.record fun h => { h with okSent := true })) :
    (sendInviteOk ref msg callId addr).Guarantees (volteDiscipline C) (fun _ s' => s'.Knows K ref)
      s := by
  refine Coro.guarantees_modify.mpr ?_
  split
  · refine ⟨Micro.changed ref _ (fun c hc => .okSent (h.apply hc).1) rfl rfl rfl
      (.of_response (.inviteOk ref hanswers) rfl rfl rfl rfl rfl rfl), ?_⟩
    exact Phone.Knows.modifyCall h fun c hc => hK c hc.2
  · refine ⟨Micro.other rfl rfl rfl (.of_eq rfl rfl rfl rfl le_rfl), ?_⟩
    obtain ⟨c, hc, -, hKc⟩ := h
    exact ⟨c, hc, hKc⟩

end

end VirtualPhone
