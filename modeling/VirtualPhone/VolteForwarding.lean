import VirtualPhone.VolteInvite

/-! # Forwarded calls

`incoming_call` hangs a forwarded call up and initiates another one.  Both wait for responses; the
contract of this module says when neither raises, whatever else of this kind runs meanwhile: a
request that is resumed is not `Crossed`, and an INVITE gets an answer it can work with. -/

namespace VirtualPhone

open Runtime
open Coro (get modify raise attempt)
open Async (when whenSome ignore onTimeout)

/-! ### The contract -/

/-- Media can be started for the call, or is not started. -/
def VoLTECall.Playable (c : VoLTECall) : Prop := VirtualPhone.Playable c.rtpPort c.remoteSdp c.codec

/-- What stays of a call that is initiated. -/
structure SameInvite (c c' : VoLTECall) : Prop where
  sipCallId : c'.sipCallId = c.sipCallId
  inviteRequest : c'.history.inviteRequest = c.history.inviteRequest
  rtpPort : c'.rtpPort = c.rtpPort
  playable : c.Playable → c'.Playable

theorem SameInvite.refl (c : VoLTECall) : SameInvite c c := ⟨rfl, rfl, rfl, id⟩

theorem SameInvite.trans {a b c : VoLTECall} (h : SameInvite a b) (h' : SameInvite b c) :
    SameInvite a c :=
  ⟨h'.sipCallId.trans h.sipCallId, h'.inviteRequest.trans h.inviteRequest,
    h'.rtpPort.trans h.rtpPort, h'.playable ∘ h.playable⟩

/-- What stays of the phone: its parts, the calls, and a list of voice calls that is not empty. -/
structure Steady (s s' : Phone) : Prop where
  radioHal : s'.radioHal = s.radioHal
  started : s'.started = s.started
  client : s'.sipClient.isSome = s.sipClient.isSome
  cfManager : s'.radio.cfManager = s.radio.cfManager
  listed : s.radio.voiceCalls ≠ [] → s'.radio.voiceCalls ≠ []
  calls : ∀ (ref : ℕ) (c : VoLTECall), s.callHeap[ref]? = some c →
    ∃ c', s'.callHeap[ref]? = some c' ∧ SameInvite c c'

namespace Steady

theorem refl (s : Phone) : Steady s s := ⟨rfl, rfl, rfl, rfl, id, fun _ c h => ⟨c, h, .refl c⟩⟩

theorem trans {a b c : Phone} (h : Steady a b) (h' : Steady b c) : Steady a c := by
  refine ⟨h'.radioHal.trans h.radioHal, h'.started.trans h.started, h'.client.trans h.client,
    h'.cfManager.trans h.cfManager, h'.listed ∘ h.listed, ?_⟩
  intro ref x hx
  obtain ⟨y, hy, hxy⟩ := h.calls ref x hx
  obtain ⟨z, hz, hyz⟩ := h'.calls ref y hy
  exact ⟨z, hz, hxy.trans hyz⟩

theorem forwardNumber {s s' : Phone} (h : Steady s s') :
    s'.radio.forwardNumber = s.radio.forwardNumber := by
  unfold RadioHAL.forwardNumber
  rw [h.cfManager]

/-- A change that touches neither the calls nor the radio. -/
theorem of_eq {s s' : Phone} (hradioHal : s'.radioHal = s.radioHal) (hstarted : s'.started = s.started)
    (hclient : s'.sipClient.isSome = s.sipClient.isSome) (hradio : s'.radio = s.radio)
    (hheap : s'.callHeap = s.callHeap) : Steady s s' :=
  ⟨hradioHal, hstarted, hclient, by rw [hradio], by rw [hradio]; exact id,
    fun _ c h => ⟨c, hheap ▸ h, .refl c⟩⟩

theorem ack (s : Phone) (ref : ℕ) : Steady s ((s.send (s.ack ref) s.config.dest).skipDraws 2) :=
  of_eq rfl rfl rfl rfl rfl

theorem modifyCall {s : Phone} {ref : ℕ} {f : VoLTECall → VoLTECall}
    (h : ∀ c, s.callHeap[ref]? = some c → SameInvite c (f c)) : Steady s (s.modifyCall ref f) := by
  refine ⟨rfl, rfl, rfl, rfl, id, fun r c hc => ?_⟩
  rw [Phone.modifyCall_callHeap, List.getElem?_modify, hc]
  split_ifs with hr
  · obtain rfl := hr
    exact ⟨f c, rfl, h c hc⟩
  · exact ⟨c, rfl, .refl c⟩

theorem modifyRadio (s : Phone) {f : RadioHAL → RadioHAL} (hcf : ∀ r, (f r).cfManager = r.cfManager)
    (hlisted : ∀ r, (f r).voiceCalls = r.voiceCalls) : Steady s (s.modifyRadio f) :=
  ⟨rfl, rfl, rfl, hcf _, fun h => (hlisted s.radio).symm ▸ h, fun _ c h => ⟨c, h, .refl c⟩⟩

theorem modifyClient (s : Phone) (f : Session → Session) : Steady s (s.modifyClient f) :=
  of_eq rfl rfl (by rw [Phone.modifyClient, Option.isSome_map]) rfl rfl

theorem beginRequest (args : RequestArgs) (s : Phone) : Steady s (s.beginRequest args) := by
  cases hclient : s.sipClient with
  | none =>
      have heq : s.beginRequest args = s := by
        unfold Phone.beginRequest
        simp only [hclient]
      rw [heq]
      exact refl s
  | some client =>
      unfold Phone.beginRequest
      simp only [hclient]
      exact of_eq rfl rfl (by simp [Phone.send, Phone.modifyClient, Phone.skipDraws, hclient]) rfl rfl

end Steady

/-- Everything keeps the phone steady; a sender gets its response in time, and an INVITE one it can
work with. -/
def steadyContract : Contract Phone Await where
  rely := Steady
  guar := Steady
  resumes w s := s.ready w = true ∧ ∀ i, w = .response i → ¬s.Crossed i ∧ s.Usable i
  rely_trans := Steady.trans

/-! ### The parts -/

section

variable {s₀ s : Phone} {α : Type}

/-- How a method that does not raise goes on. -/
abbrev Continues (s : Phone) (post : Phone → Except PyError α → Phone → Prop) : Prop :=
  ∀ s₁ s' a, Steady s s' → Steady s₁ s' → post s₁ (.ok a) s'

theorem sendRequest_steady {post : Phone → Except PyError SIPMessage → Phone → Prop}
    {args : RequestArgs} {client : Session} (h₀ : Steady s₀ s) (hclient : s.sipClient = some client)
    (hok : ∀ s₁ s' msg, Steady s s₁ → s₁.Usable client.calls.length → Steady s₁ s' →
      s'.calls = s₁.calls → s₁.response? client.calls.length = some msg → post s₁ (.ok msg) s')
    (htimeout : ∀ s₁ s' m, Steady s s₁ → s₁.Usable client.calls.length → Steady s₁ s' →
      s'.calls = s₁.calls → s₁.response? client.calls.length = none →
      post s₁ (.error (.timeoutError m)) s') :
    (sendRequest args).Meets steadyContract post s₀ s := by
  have hbegin := Steady.beginRequest args s
  refine sendRequest_meets hclient (fun h => h.1) (h₀.trans hbegin) ?_
  rintro s₁ r e hrely ⟨-, hresumes⟩ hreceived
  obtain ⟨hnot, husable⟩ := hresumes _ rfl
  cases hreceived with
  | response hmsg => exact hok s₁ _ _ (hbegin.trans hrely) husable (.modifyClient s₁ _) rfl hmsg
  | timedOut m hnone _ =>
      exact htimeout s₁ _ m (hbegin.trans hrely) husable (.modifyClient s₁ _) rfl hnone
  | crossed cid _ hcrossed => exact absurd hcrossed hnot

theorem sendIndication_steady {post : Phone → Except PyError Unit → Phone → Prop} (indication : ℕ)
    (h₀ : Steady s₀ s) (h : Continues s post) :
    (RadioHAL.sendIndication indication).Meets steadyContract post s₀ s := by
  have hindicate : Steady s (s.modifyRadio (RadioHAL.indicate indication)) :=
    Steady.modifyRadio s (fun _ => rfl) fun _ => rfl
  refine ⟨h₀.trans hindicate, fun s' hrely _ => ?_⟩
  exact h s' s' () (hindicate.trans hrely) (Steady.refl s')

theorem updateCallState_steady {post : Phone → Except PyError Unit → Phone → Prop} (callIndex : ℕ)
    (newState : CallState) (h₀ : Steady s₀ s) (h : Continues s post) :
    (RadioHAL.updateCallState callIndex newState).Meets steadyContract post s₀ s := by
  refine Coro.meets_get_bind.mpr ?_
  split
  · next v _ =>
      have hvoice : Steady s (s.modifyRadio (RadioHAL.modifyVoice v (VoiceCall.setState newState))) :=
        Steady.modifyRadio s (fun _ => rfl) fun _ => rfl
      refine Coro.meets_modify_bind.mpr (sendIndication_steady 1001 (h₀.trans hvoice) ?_)
      exact fun s₁ s' a hs' h₁ => h s₁ s' a (hvoice.trans hs') h₁
  · exact h s₀ s () (Steady.refl s) h₀

theorem SameInvite.modifySession (m : ℕ) (f : MediaSession → MediaSession) (c : VoLTECall) :
    SameInvite c (c.modifySession m f) := ⟨rfl, rfl, rfl, id⟩

/-- Media starts or not, and what goes wrong with the sockets is caught. -/
theorem startMedia_steady {post : Phone → Except PyError Unit → Phone → Prop} {ref : ℕ}
    {c : VoLTECall} (h₀ : Steady s₀ s) (hc : s.callHeap[ref]? = some c) (hplay : c.Playable)
    (h : Continues s post) : (startMedia ref).Meets steadyContract post s₀ s := by
  have hcall := Phone.call_eq hc
  refine startMedia_meets (h s₀ s () (Steady.refl s) h₀) (fun hno => ?_) fun remoteAddr payloadType => ?_
  · rw [hcall] at hno
    exact absurd hplay hno
  · rw [hcall]
    have hsame : ∀ (s : Phone) (f : VoLTECall → VoLTECall), (∀ c, SameInvite c (f c)) →
        Steady s (s.modifyCall ref f) := fun s f hf => Steady.modifyCall fun c _ => hf c
    have hadd := hsame s VoLTECall.addSession fun _ => ⟨rfl, rfl, rfl, id⟩
    have hconfigure := hsame (s.modifyCall ref VoLTECall.addSession)
      (VoLTECall.modifySession c.sessions.length
        (MediaSession.configure c.rtpPort remoteAddr c.codec payloadType)) fun c => .modifySession _ _ c
    refine Coro.meets_modify_bind.mpr (Coro.meets_bind.mpr (Coro.meets_attempt.mpr ?_))
    refine Coro.meets_modify_bind.mpr (Coro.meets_await_bind.mpr ?_)
    refine ⟨(h₀.trans hadd).trans hconfigure, fun s₁ h₁ _ => ?_⟩
    have h₁ := (hadd.trans hconfigure).trans h₁
    split
    · exact h s₁ s₁ () h₁ (Steady.refl s₁)
    · refine Coro.meets_await_bind.mpr ⟨Steady.refl s₁, fun s₂ h₂ _ => ?_⟩
      have h₂ := h₁.trans h₂
      split
      · exact h s₂ s₂ () h₂ (Steady.refl s₂)
      · have hactive := hsame s₂ (VoLTECall.modifySession c.sessions.length
          (MediaSession.setActive true)) fun c => .modifySession _ _ c
        have hset := hsame (s₂.modifyCall ref (VoLTECall.modifySession c.sessions.length
          (MediaSession.setActive true))) (VoLTECall.setMediaSession (some c.sessions.length))
          fun _ => ⟨rfl, rfl, rfl, id⟩
        exact h s₂ _ () (h₂.trans (hactive.trans hset)) (hactive.trans hset)

theorem stopMedia_steady {post : Phone → Except PyError Unit → Phone → Prop} (ref : ℕ)
    (h₀ : Steady s₀ s) (h : Continues s post) :
    (stopMedia ref).Meets steadyContract post s₀ s := by
  refine Coro.meets_get_bind.mpr ?_
  split
  · next m _ =>
      have hstop : Steady s (s.modifyCall ref (VoLTECall.modifySession m
          (MediaSession.setActive false))) := Steady.modifyCall fun c _ => .modifySession m _ c
      refine Coro.meets_bind.mpr (Coro.meets_modify_bind.mpr ⟨h₀.trans hstop, fun s₁ h₁ _ => ?_⟩)
      have hset : Steady s₁ (s₁.modifyCall ref (VoLTECall.setMediaSession none)) :=
        Steady.modifyCall fun _ _ => ⟨rfl, rfl, rfl, id⟩
      exact h s₁ _ () ((hstop.trans h₁).trans hset) hset
  · exact h s₀ s () (Steady.refl s) h₀

namespace VoLTECallManager

theorem hangupCall_steady {post : Phone → Except PyError Bool → Phone → Prop} (callId : Text)
    (h₀ : Steady s₀ s) (h : Continues s post) :
    (hangupCall callId).Meets steadyContract post s₀ s := by
  refine Coro.meets_get_bind.mpr ?_
  split
  · exact h s₀ s false (Steady.refl s) h₀
  · next ref _ =>
      have hdel : Steady s (s.delCall callId) := Steady.of_eq rfl rfl rfl rfl rfl
      have hpop : Steady s (s.popCall callId ref) :=
        hdel.trans (Steady.modifyCall fun _ _ => ⟨rfl, rfl, rfl, id⟩)
      refine Coro.meets_modify_bind.mpr (Coro.meets_bind.mpr (stopMedia_steady ref (h₀.trans hpop) ?_))
      intro s₁ s₂ _ h₂ h₁₂
      have h₂ := hpop.trans h₂
      refine Coro.meets_get_bind.mpr ?_
      split_ifs with hready
      · obtain ⟨client, hclient⟩ := Option.isSome_iff_exists.mp hready.1
        have hend : Steady s₂ (s₂.modifyCall ref (VoLTECall.setState .terminating)) :=
          Steady.modifyCall fun _ _ => ⟨rfl, rfl, rfl, id⟩
        have hfinish : ∀ s₃ s₄, Steady s₂ s₃ → Steady s₃ s₄ →
            (modify Phone.countActive >>= fun _ => (pure true : Async Bool)).Meets steadyContract post
              s₃ s₄ := by
          intro s₃ s₄ h₃ h₃₄
          have hcount : Steady s₄ s₄.countActive := Steady.of_eq rfl rfl rfl rfl rfl
          exact h s₃ _ true (h₂.trans (h₃.trans (h₃₄.trans hcount))) (h₃₄.trans hcount)
        refine Coro.meets_modify_bind.mpr (Coro.meets_bind.mpr (onTimeout_meets.mpr ?_))
        refine ignore_meets.mpr (Coro.meets_get_bind.mpr ?_)
        refine sendRequest_steady (h₁₂.trans hend) hclient ?_ ?_
        · exact fun s₃ s₄ msg h₃ _ h₃₄ _ _ => hfinish s₃ s₄ (hend.trans h₃) h₃₄
        · exact fun s₃ s₄ m h₃ _ h₃₄ _ _ => hfinish s₃ s₄ (hend.trans h₃) h₃₄
      · exact h s₁ s₂ false h₂ h₁₂

theorem delCall_steady {post : Phone → Except PyError (Option Text) → Phone → Prop} {callId : Text}
    (h₀ : Steady s₀ s) (hmem : callId ∈ s.calls.keys) (h : Continues s post) :
    (delCall callId >>= fun _ => (pure none : Async (Option Text))).Meets steadyContract post s₀ s := by
  refine Coro.meets_bind.mpr (Coro.meets_get_bind.mpr ?_)
  rw [if_pos hmem]
  have hdel : Steady s (s.delCall callId) := Steady.of_eq rfl rfl rfl rfl rfl
  exact h s₀ _ none hdel (h₀.trans hdel)

/-- The INVITE of a call that can play what it is offered has a 200. -/
theorem finishInvite_steady {post : Phone → Except PyError (Option Text) → Phone → Prop} {msg : SIPMessage}
    {ref : ℕ} {c : VoLTECall} (radioCallIndex : ℕ) (callId : Text) (h₀ : Steady s₀ s)
    (hc : s.callHeap[ref]? = some c) (hplay : (c.connect msg.body).Playable)
    (hstatus : msg.statusCode = some 200) (h : Continues s post) :
    (finishInvite ref radioCallIndex callId msg).Meets steadyContract
      (handled steadyContract (do
        delCall callId
        return none) post) s₀ s := by
  unfold finishInvite
  rw [if_pos hstatus]
  obtain ⟨s', hs', hconnect⟩ : ∃ s', s' = s.modifyCall ref (VoLTECall.connect msg.body) ∧ Steady s s' := by
    refine ⟨_, rfl, Steady.modifyCall fun x hx => ?_⟩
    obtain rfl := Option.some.inj (hc.symm.trans hx)
    exact ⟨rfl, rfl, rfl, fun _ => hplay⟩
  obtain ⟨s₁, hs₁⟩ : ∃ s₁, s₁ = (s'.send (s'.ack ref) s'.config.dest).skipDraws 2 := ⟨_, rfl⟩
  have h₁ : Steady s s₁ := hconnect.trans (hs₁ ▸ Steady.ack s' ref)
  have hc₁ : s₁.callHeap[ref]? = some (c.connect msg.body) := by
    rw [hs₁, hs']
    show (s.callHeap.modify _ _)[_]? = _
    rw [List.getElem?_modify_eq, hc]
    rfl
  refine Coro.meets_modify_bind.mpr (Coro.meets_modify_bind.mpr ?_)
  rw [← hs', ← hs₁]
  have hrest : ∀ s₂ s₃, Steady s₁ s₃ → Steady s₂ s₃ →
      (do
        modify Phone.countActive
        modify fun s => s.countCall (s.call ref).codec
        startMedia ref
        return some callId : Async (Option Text)).Meets steadyContract
        (handled steadyContract (do
          delCall callId
          return none) post) s₂ s₃ := by
    intro s₂ s₃ h₃ h₂₃
    obtain ⟨c₃, hc₃, hsame₃⟩ := h₃.calls _ _ hc₁
    have hcount : Steady s₃ ((s₃.countActive).countCall ((s₃.countActive).call ref).codec) :=
      Steady.of_eq rfl rfl rfl rfl rfl
    refine Coro.meets_modify_bind.mpr (Coro.meets_modify_bind.mpr (Coro.meets_bind.mpr ?_))
    refine startMedia_steady (h₂₃.trans hcount) hc₃ (hsame₃.playable hplay) ?_
    exact fun s₄ s₅ _ h₅ h₄₅ => h s₄ s₅ _ (h₁.trans (h₃.trans (hcount.trans h₅))) h₄₅
  refine Coro.meets_get_bind.mpr (Coro.meets_bind.mpr (when_meets.mpr ⟨fun _ => ?_, fun _ => ?_⟩))
  · refine updateCallState_steady _ _ (h₀.trans h₁) ?_
    exact fun s₂ s₃ _ h₃ h₂₃ => hrest s₂ s₃ h₃ h₂₃
  · exact hrest s₀ s₁ (Steady.refl s₁) (h₀.trans h₁)

theorem initiateCall_steady {post : Phone → Except PyError (Option Text) → Phone → Prop}
    (number : Text) (radioCallIndex : ℕ) (h₀ : Steady s₀ s)
    (hclient : s.started = true → s.sipClient.isSome) (h : Continues s post) :
    (initiateCall number radioCallIndex).Meets steadyContract post s₀ s := by
  cases hstarted : s.started with
  | false =>
      refine Coro.meets_get_bind.mpr ?_
      rw [if_pos hstarted]
      exact h s₀ s none (Steady.refl s) h₀
  | true =>
      obtain ⟨client, hclient⟩ := Option.isSome_iff_exists.mp (hclient hstarted)
      refine initiateCall_meets number radioCallIndex hstarted fun args s₁ c hinvited _ => ?_
      have h₁ : Steady s s₁ := by
        refine ⟨hinvited.radioHal, hinvited.started, by rw [hinvited.client], by rw [hinvited.radio],
          by rw [hinvited.radio]; exact id, fun ref x hx => ⟨x, ?_, .refl x⟩⟩
        rw [hinvited.heap]
        exact (List.getElem?_append_left (List.getElem?_eq_some_iff.mp hx).1).trans hx
      have hc : s₁.callHeap[s.callHeap.length]? = some c := by
        rw [hinvited.heap, List.getElem?_concat_length]
      have hinvite : c.history.inviteRequest = some client.calls.length := by
        rw [hinvited.inviteRequest, hclient]
        rfl
      refine onTimeout_meets.mpr (Coro.meets_bind.mpr ?_)
      have hcall : ∀ {s₂}, Steady s₁ s₂ → s₂.Usable client.calls.length →
          ∃ c₂, s₂.callHeap[s.callHeap.length]? = some c₂ ∧
          (∀ msg ∈ s₂.response? client.calls.length, msg.statusCode = some 200 →
            Playable c₂.rtpPort (decodeUtf8 msg.body)
              (extractCodecFromSdp (decodeUtf8 msg.body))) ∧
          ((∀ msg ∈ s₂.response? client.calls.length, msg.statusCode ≠ some 200) →
            inviteCallId s ∈ s₂.calls.keys) := by
        intro s₂ h₂ husable
        obtain ⟨c₂, hc₂, hsame⟩ := h₂.calls _ c hc
        have huse := husable c₂ (List.mem_of_getElem? hc₂) (hsame.inviteRequest.trans hinvite)
        rw [hsame.sipCallId.trans hinvited.sipCallId] at huse
        exact ⟨c₂, hc₂, huse⟩
      refine sendRequest_steady (h₀.trans h₁) (hinvited.client.trans hclient) ?_ ?_
      · intro s₂ s₃ msg h₂ husable h₂₃ hcalls hmsg
        obtain ⟨c₂, hc₂, hok, hfail⟩ := hcall h₂ husable
        obtain ⟨c₃, hc₃, hsame₃⟩ := h₂₃.calls _ c₂ hc₂
        have h₃ := h₁.trans (h₂.trans h₂₃)
        show (finishInvite _ _ _ msg).Meets steadyContract (handled steadyContract _ post) s₂ s₃
        have hcontinues : Continues s₃ post := fun s₄ s₅ a h₅ h₄₅ => h s₄ s₅ a (h₃.trans h₅) h₄₅
        by_cases hstatus : msg.statusCode = some 200
        · have hplay := hok msg hmsg hstatus
          rw [← hsame₃.rtpPort] at hplay
          exact finishInvite_steady radioCallIndex (inviteCallId s) h₂₃ hc₃ hplay hstatus hcontinues
        · unfold finishInvite
          rw [if_neg hstatus]
          have hmem := hfail fun m hm => by
            obtain rfl := Option.some.inj (hmsg.symm.trans hm)
            exact hstatus
          exact delCall_steady h₂₃ (hcalls ▸ hmem) hcontinues
      · intro s₂ s₃ m h₂ husable h₂₃ hcalls hnone
        obtain ⟨c₂, -, -, hfail⟩ := hcall h₂ husable
        have hmem := hfail fun msg hmsg => by
          rw [hnone] at hmsg
          cases hmsg
        refine delCall_steady h₂₃ (hcalls ▸ hmem) ?_
        exact fun s₄ s₅ a h₅ h₄₅ => h s₄ s₅ a (h₁.trans (h₂.trans (h₂₃.trans h₅))) h₄₅

theorem handleResponse_steady {post : Phone → Except PyError Unit → Phone → Prop} (msg : SIPMessage)
    (code : ℤ) (h₀ : Steady s₀ s) (hclient : s.sipClient.isSome) (h : Continues s post) :
    (handleResponse msg code).Meets steadyContract post s₀ s := by
  obtain ⟨client, hclient⟩ := Option.isSome_iff_exists.mp hclient
  refine Coro.meets_get_bind.mpr ?_
  simp only [hclient]
  have hsame := h s₀ s () (Steady.refl s) h₀
  split
  · split
    · have hresolve := Steady.modifyClient s (Session.perform (.resolve msg))
      exact h s₀ _ () hresolve (h₀.trans hresolve)
    · split
      · split
        · next ref _ =>
            refine when_meets.mpr ⟨fun _ => ?_, fun _ => hsame⟩
            have hring : Steady s (s.modifyCall ref (VoLTECall.setState .ringingOut)) :=
              Steady.modifyCall fun _ _ => ⟨rfl, rfl, rfl, id⟩
            refine Coro.meets_modify_bind.mpr (Coro.meets_get_bind.mpr (when_meets.mpr ⟨fun _ => ?_, fun _ => ?_⟩))
            · refine updateCallState_steady _ _ (h₀.trans hring) ?_
              exact fun s₁ s' a hs' h₁ => h s₁ s' a (hring.trans hs') h₁
            · exact h s₀ _ () hring (h₀.trans hring)
        · exact hsame
      · exact hsame
  · exact hsame

end VoLTECallManager

end

end VirtualPhone
