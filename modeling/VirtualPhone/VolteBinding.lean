import VirtualPhone.VolteForwarding

/-! # The radio call of an incoming call

`_handle_incoming_invite` hands the call to the radio, which appends a voice call and sends two
indications; after that it reads the index of the voice call back as that of the last one in the
list.  While the indications are sent, another INVITE can append a voice call of its own, and a
forwarded call appends none at all. -/

namespace VirtualPhone

open Runtime
open Coro (get modify raise attempt)
open Async (when whenSome ignore onTimeout)
open VoLTECallManager

/-- The call of `callId` is bound to the voice calls that carry this Call-ID, and there is one. -/
def Bound (s : Phone) (callId : Text) : Prop :=
  ∃ ref, s.calls.get? callId = some ref ∧
    (∃ v ∈ s.radio.voiceCalls, (s.radio.voice v).sipCallId = callId) ∧
    ∀ v ∈ s.radio.voiceCalls, (s.radio.voice v).sipCallId = callId →
      (s.call ref).radioCallIndex = (s.radio.voice v).index

instance (s : Phone) (callId : Text) : Decidable (Bound s callId) :=
  inferInstanceAs (Decidable (∃ ref ∈ s.calls.get? callId, _))

/-- A Call-ID the phone knows nothing of. -/
def NewCallId (s : Phone) (callId : Text) : Prop :=
  callId ∉ s.calls.keys ∧ ∀ v ∈ s.radio.voiceCalls, (s.radio.voice v).sipCallId ≠ callId

instance (s : Phone) (callId : Text) : Decidable (NewCallId s callId) :=
  inferInstanceAs (Decidable (_ ∧ _))

/-! ### The handler -/

/-- The handler from the radio's part on. -/
def bindIncoming (ref : ℕ) (number callId : Text) : Async Unit := do
  RadioHAL.incomingCall number callId
  let s ← get
  match s.radio.voiceCalls.getLast? with
  | some v => modifyCall ref (VoLTECall.setRadioCallIndex (s.radio.voice v).index)
  | none => raise .indexError

/-- The handler up to the radio's part enters the call in the table. -/
theorem handleIncomingInvite_meets {K : Contract Phone Await}
    {post : Phone → Except PyError Unit → Phone → Prop} {s₀ s : Phone} (msg : SIPMessage)
    (addr : Text × ℕ) (hradio : s.radioHal = true)
    (h : ∀ s' c, s'.radioHal = true → s'.radio = s.radio → s'.callHeap = s.callHeap ++ [c] →
      c.sipCallId = msg.callId → c.mediaSession = none →
      s'.calls = s.calls.set msg.callId s.callHeap.length → s'.sipClient = s.sipClient →
      s'.started = s.started →
      c.state = .ringingIn ∧ c.inviteMsg.isSome ∧ c.radioCallIndex = 0 →
      (bindIncoming s.callHeap.length (extractNumberFromUri msg.fromHeader) msg.callId).Meets K post
        s₀ s') :
    (handleIncomingInvite msg addr).Meets K post s₀ s := by
  obtain ⟨s₁, hs₁, hradioHal, hradio₁, hheap, hcalls, hclient, hstarted⟩ : ∃ s₁,
      s₁ = (if s.sipClient.isSome then s.send (response msg 180 "Ringing" msg.callId [] []) addr
        else s) ∧ s₁.radioHal = true ∧ s₁.radio = s.radio ∧ s₁.callHeap = s.callHeap ∧
        s₁.calls = s.calls ∧ s₁.sipClient = s.sipClient ∧ s₁.started = s.started := by
    refine ⟨_, rfl, ?_⟩
    split_ifs <;> exact ⟨hradio, rfl, rfl, rfl, rfl, rfl⟩
  unfold handleIncomingInvite sendIfClient
  refine Coro.meets_modify_bind.mpr ?_
  rw [← hs₁]
  rw [← hheap] at h
  change (when (s₁.radioHal = true) _).Meets K post s₀ _
  rw [Async.when, if_pos hradioHal]
  exact h _ _ hradioHal hradio₁ rfl rfl rfl (congrArg (Dict.set · msg.callId s₁.callHeap.length) hcalls)
    hclient hstarted ⟨rfl, rfl, rfl⟩

theorem handleIncomingSip_invite {s : Phone} {msg : SIPMessage} (addr : Text × ℕ)
    (hinvite : msg.IsInvite) (hnew : msg.callId ∉ s.calls.keys) {K : Contract Phone Await}
    {post : Phone → Except PyError OperationResult → Phone → Prop} {s₀ : Phone}
    (h : (handleIncomingInvite msg addr).Meets K
      (Coro.thenMeets K (fun _ => (pure .none : Async OperationResult)) post) s₀ s) :
    (Operation.run (.incoming msg addr)).Meets K post s₀ s := by
  have hnone : s.calls.get? msg.callId = none := (Dict.get?_eq_none_iff _ _).mpr hnew
  refine Coro.meets_bind.mpr ?_
  unfold handleIncomingSip
  rw [hinvite.1]
  simp only
  rw [if_pos hinvite.2]
  refine Coro.meets_get_bind.mpr ?_
  simp only [hnone]
  exact h

/-! ### An INVITE that is not forwarded -/

/-- The list names voice calls there are. -/
def RadioHAL.Valid (r : RadioHAL) : Prop := ∀ v ∈ r.voiceCalls, v < r.voices.length

instance (r : RadioHAL) : Decidable r.Valid := inferInstanceAs (Decidable (∀ _ ∈ _, _))

/-- Calls are not forwarded, and there is a radio that rings. -/
structure Rings (s : Phone) : Prop where
  radioHal : s.radioHal = true
  forward : s.radio.forwardNumber = none
  valid : s.radio.Valid

/-- A handler that runs alone: while it is suspended, only the client's timers change anything; and
it leaves calls bound as they are. -/
def aloneContract : Contract Phone Await where
  rely s s' := s'.radioHal = s.radioHal ∧ s'.radio = s.radio ∧ s'.callHeap = s.callHeap ∧
    s'.calls = s.calls
  guar s s' := (Rings s → Rings s') ∧ ∀ callId, Bound s callId → Bound s' callId
  resumes _ _ := True
  rely_trans h h' := ⟨h'.1.trans h.1, h'.2.1.trans h.2.1, h'.2.2.1.trans h.2.2.1,
    h'.2.2.2.trans h.2.2.2⟩

theorem RadioHAL.voice_append_left {r : RadioHAL} {vc : VoiceCall} {v : ℕ} (h : v < r.voices.length) :
    (r.append vc).voice v = r.voice v := by
  simp only [voice, append, List.getD_eq_getElem?_getD, List.getElem?_append_left h]

theorem RadioHAL.voice_append_self (r : RadioHAL) (vc : VoiceCall) :
    (r.append vc).voice r.voices.length = { vc with index := r.nextCallIndex } := by
  simp only [voice, append, List.getD_eq_getElem?_getD, List.getElem?_concat_length,
    Option.getD_some]

theorem RadioHAL.Valid.append {r : RadioHAL} (h : r.Valid) (vc : VoiceCall) : (r.append vc).Valid := by
  intro v hv
  rw [show (r.append vc).voices.length = r.voices.length + 1 from List.length_append]
  rcases List.mem_append.mp hv with hv | hv
  · exact Nat.lt_succ_of_lt (h v hv)
  · rw [List.mem_singleton.mp hv]
    exact Nat.lt_succ_self _

/-- A call is bound by the table, the calls, and the voice calls of the list. -/
theorem Bound.of_eq {s s' : Phone} {callId : Text} (h : Bound s callId)
    (hvoices : s'.radio.voices = s.radio.voices) (hlist : s'.radio.voiceCalls = s.radio.voiceCalls)
    (hheap : s'.callHeap = s.callHeap) (hcalls : s'.calls = s.calls) : Bound s' callId := by
  have hvoice : s'.radio.voice = s.radio.voice := by
    funext v
    simp only [RadioHAL.voice, hvoices]
  have hcall : s'.call = s.call := by
    funext ref
    simp only [Phone.call, hheap]
  obtain ⟨ref, href, hthere, hall⟩ := h
  exact ⟨ref, by rw [hcalls, href], by rw [hlist, hvoice]; exact hthere,
    by rw [hlist, hvoice, hcall]; exact hall⟩

/-- The call `callId`, number `ref`, has the last voice call, and no other call is number `ref`. -/
structure Ringing (s : Phone) (callId : Text) (ref : ℕ) : Prop where
  entry : s.calls.get? callId = some ref
  last : ∃ v, s.radio.voiceCalls.getLast? = some v ∧ (s.radio.voice v).sipCallId = callId
  only : ∀ v ∈ s.radio.voiceCalls, (s.radio.voice v).sipCallId = callId →
    s.radio.voiceCalls.getLast? = some v
  others : ∀ id r, id ≠ callId → s.calls.get? id = some r → r ≠ ref
  there : ref < s.callHeap.length

theorem Ringing.of_eq {s s' : Phone} {callId : Text} {ref : ℕ} (h : Ringing s callId ref)
    (hvoices : s'.radio.voices = s.radio.voices) (hlist : s'.radio.voiceCalls = s.radio.voiceCalls)
    (hheap : s'.callHeap = s.callHeap) (hcalls : s'.calls = s.calls) : Ringing s' callId ref := by
  have hvoice : s'.radio.voice = s.radio.voice := by
    funext v
    simp only [RadioHAL.voice, hvoices]
  obtain ⟨hentry, hlast, honly, hothers, hthere⟩ := h
  constructor <;> simp only [hlist, hvoice, hheap, hcalls] <;> assumption

/-- A new INVITE gets the last voice call, and the calls that are bound stay bound. -/
theorem ringing_of_append {s : Phone} (s' : Phone) {c : VoLTECall} (vc : VoiceCall)
    (hvalid : s.radio.Valid)
    (hnew : NewCallId s c.sipCallId) (hvc : vc.sipCallId = c.sipCallId)
    (hvoices : s'.radio.voices = (s.radio.append vc).voices)
    (hlist : s'.radio.voiceCalls = (s.radio.append vc).voiceCalls)
    (hheap : s'.callHeap = s.callHeap ++ [c])
    (hcalls : s'.calls = s.calls.set c.sipCallId s.callHeap.length) :
    Ringing s' c.sipCallId s.callHeap.length ∧ ∀ id, Bound s id → Bound s' id := by
  have hvoice : ∀ v ∈ s.radio.voiceCalls, s'.radio.voice v = s.radio.voice v := by
    intro v hv
    have hleft : (s.radio.append vc).voice v = s.radio.voice v :=
      RadioHAL.voice_append_left (hvalid v hv)
    rw [← hleft]
    simp only [RadioHAL.voice, hvoices]
  have hself : (s'.radio.voice s.radio.voices.length).sipCallId = c.sipCallId := by
    have hvoice : s'.radio.voice s.radio.voices.length =
        (s.radio.append vc).voice s.radio.voices.length := by
      simp only [RadioHAL.voice, hvoices]
    rw [hvoice, RadioHAL.voice_append_self]
    exact hvc
  have hmem : ∀ v, v ∈ s'.radio.voiceCalls ↔ v ∈ s.radio.voiceCalls ∨ v = s.radio.voices.length := by
    intro v
    rw [hlist]
    exact List.mem_append.trans (or_congr_right List.mem_singleton)
  have hlast : s'.radio.voiceCalls.getLast? = some s.radio.voices.length := by
    rw [hlist]
    exact List.getLast?_concat
  constructor
  · constructor
    · rw [hcalls, Dict.get?_set_self]
    · exact ⟨_, hlast, hself⟩
    · intro v hv hid
      rcases (hmem v).mp hv with hv | rfl
      · rw [hvoice v hv] at hid
        exact absurd hid (hnew.2 v hv)
      · exact hlast
    · intro id r hid hr
      rw [hcalls, Dict.get?_set_ne _ _ hid] at hr
      exact (s.valid id r hr).ne
    · rw [hheap, List.length_append]
      exact Nat.lt_succ_self _
  · rintro id ⟨ref, href, ⟨v, hv, hid⟩, hall⟩
    have hne : id ≠ c.sipCallId := by
      rintro rfl
      exact hnew.1 (Dict.mem_keys_of_get? href)
    have hcall : s'.call ref = s.call ref := by
      simp only [Phone.call, hheap, List.getD_eq_getElem?_getD,
        List.getElem?_append_left (s.valid id ref href)]
    refine ⟨ref, ?_, ⟨v, (hmem v).mpr (Or.inl hv), by rw [hvoice v hv, hid]⟩, ?_⟩
    · rw [hcalls, Dict.get?_set_ne _ _ hne, href]
    · intro w hw hwid
      rcases (hmem w).mp hw with hw | rfl
      · rw [hvoice w hw] at hwid ⊢
        rw [hcall]
        exact hall w hw hwid
      · exact absurd (hwid.symm.trans hself) hne

/-- Reading the last index back binds the call that rings, and no other. -/
theorem Ringing.bind {s : Phone} {callId : Text} {ref v : ℕ} (h : Ringing s callId ref)
    (hv : s.radio.voiceCalls.getLast? = some v) (id : Text) (hid : id = callId ∨ Bound s id) :
    Bound (s.modifyCall ref (VoLTECall.setRadioCallIndex (s.radio.voice v).index)) id := by
  by_cases hne : id = callId
  · obtain rfl := hne
    obtain ⟨w, hw, hwid⟩ := h.last
    refine ⟨ref, h.entry, ⟨w, List.mem_of_getLast? hw, hwid⟩, ?_⟩
    intro u hu huid
    obtain rfl := Option.some.inj (hv.symm.trans (h.only u hu huid))
    have hcall : (s.modifyCall ref (VoLTECall.setRadioCallIndex (s.radio.voice v).index)).call ref =
        (s.call ref).setRadioCallIndex (s.radio.voice v).index := by
      obtain ⟨c, hc⟩ : ∃ c, s.callHeap[ref]? = some c :=
        ⟨_, List.getElem?_eq_getElem h.there⟩
      rw [Phone.call_eq hc]
      refine Phone.call_eq ?_
      rw [Phone.modifyCall_callHeap, List.getElem?_modify_eq, hc]
      rfl
    rw [hcall]
    rfl
  · obtain ⟨r, hr, hthere, hall⟩ := hid.resolve_left hne
    have hcall : (s.modifyCall ref (VoLTECall.setRadioCallIndex (s.radio.voice v).index)).call r =
        s.call r := by
      simp only [Phone.call, Phone.modifyCall_callHeap, List.getD_eq_getElem?_getD,
        List.getElem?_modify_ne _ _ (h.others id r hne hr).symm]
    exact ⟨r, hr, hthere, by rw [hcall]; exact hall⟩

/-- **A handler that runs alone binds its call.** -/
theorem bindIncoming_alone {s₀ s : Phone} {c : VoLTECall} {callId : Text} (number : Text)
    (hrings : Rings s₀) (hnew : NewCallId s₀ callId) (hid : c.sipCallId = callId)
    (hradioHal : s.radioHal = true) (hradio : s.radio = s₀.radio)
    (hheap : s.callHeap = s₀.callHeap ++ [c]) (hcalls : s.calls = s₀.calls.set callId s₀.callHeap.length) :
    (bindIncoming s₀.callHeap.length number callId).Meets aloneContract
      (fun s₀ r s => aloneContract.guar s₀ s ∧ r = .ok () ∧ Bound s callId) s₀ s := by
  obtain rfl := hid
  refine Coro.meets_bind.mpr (Coro.meets_get_bind.mpr ?_)
  rw [hradio, hrings.forward]
  simp only
  refine Coro.meets_modify_bind.mpr (Coro.meets_bind.mpr (Coro.meets_modify_bind.mpr ?_))
  obtain ⟨hringing, hbound⟩ := ringing_of_append
    ((s.modifyRadio (RadioHAL.append _)).modifyRadio (RadioHAL.indicate 1002))
    { state := _, isMt := true, number := number, sipCallId := c.sipCallId } hrings.valid hnew
    rfl (congrArg (fun r => (RadioHAL.append _ r).voices) hradio)
    (congrArg (fun r => (RadioHAL.append _ r).voiceCalls) hradio) hheap hcalls
  refine ⟨⟨fun _ => ⟨hradioHal, ?_, ?_⟩, hbound⟩, ?_⟩
  · exact (congrArg (fun r => RadioHAL.forwardNumber r) hradio).trans hrings.forward
  · show RadioHAL.Valid (s.radio.append _)
    rw [hradio]
    exact hrings.valid.append _
  rintro s₁ ⟨-, hradio₁, hheap₁, hcalls₁⟩ -
  have hringing₁ := hringing.of_eq (congrArg RadioHAL.voices hradio₁)
    (congrArg RadioHAL.voiceCalls hradio₁) hheap₁ hcalls₁
  refine Coro.meets_modify_bind.mpr ⟨⟨fun h => ⟨h.1, h.2, h.3⟩, fun id h => h.of_eq rfl rfl rfl rfl⟩, ?_⟩
  rintro s₂ ⟨-, hradio₂, hheap₂, hcalls₂⟩ -
  have hindicated : Ringing (s₁.modifyRadio (RadioHAL.indicate 1001)) c.sipCallId
      s₀.callHeap.length := hringing₁.of_eq rfl rfl rfl rfl
  have hringing₂ := hindicated.of_eq (congrArg RadioHAL.voices hradio₂) (congrArg RadioHAL.voiceCalls hradio₂) hheap₂ hcalls₂
  obtain ⟨v, hv, -⟩ := hringing₂.last
  refine Coro.meets_get_bind.mpr ?_
  rw [hv]
  exact ⟨⟨fun h => ⟨h.1, h.2, h.3⟩, fun id h => hringing₂.bind hv id (Or.inr h)⟩, rfl,
    hringing₂.bind hv _ (Or.inl rfl)⟩

/-! ### An INVITE that is forwarded -/

/-- The handler of an INVITE that is forwarded does not raise where there is a voice call to read. -/
theorem bindIncoming_steady {post : Phone → Except PyError Unit → Phone → Prop} {s₀ s : Phone}
    {fwdNumber : Text} (ref : ℕ) (number callId : Text) (h₀ : Steady s₀ s)
    (hforward : s.radio.forwardNumber = some fwdNumber) (hlisted : s.radio.voiceCalls ≠ [])
    (hclient : s.started = true → s.sipClient.isSome) (h : Continues s post) :
    (bindIncoming ref number callId).Meets steadyContract post s₀ s := by
  have hread : ∀ s₁ s₂, Steady s s₂ → Steady s₁ s₂ →
      (do
        let s ← get
        match s.radio.voiceCalls.getLast? with
        | some v => modifyCall ref (VoLTECall.setRadioCallIndex (s.radio.voice v).index)
        | none => raise .indexError : Async Unit).Meets steadyContract post s₁ s₂ := by
    intro s₁ s₂ h₂ h₁₂
    refine Coro.meets_get_bind.mpr ?_
    rw [List.getLast?_eq_some_getLast (h₂.listed hlisted)]
    have hindex : ∀ index, Steady s₂ (s₂.modifyCall ref (VoLTECall.setRadioCallIndex index)) :=
      fun index => Steady.modifyCall fun _ _ => ⟨rfl, rfl, rfl, id⟩
    exact h s₁ _ () (h₂.trans (hindex _)) (h₁₂.trans (hindex _))
  refine Coro.meets_bind.mpr (Coro.meets_get_bind.mpr ?_)
  rw [hforward]
  refine Coro.meets_get_bind.mpr (when_meets.mpr ⟨fun _ => ?_, fun _ => ?_⟩)
  · refine Coro.meets_bind.mpr (ignore_meets.mpr (hangupCall_steady callId h₀ ?_))
    intro s₁ s₂ _ h₂ h₁₂
    refine ignore_meets.mpr (initiateCall_steady fwdNumber 0 h₁₂ ?_ ?_)
    · rw [h₂.started, h₂.client]
      exact hclient
    · exact fun s₃ s₄ _ h₄ h₃₄ => hread s₃ s₄ (h₂.trans h₄) h₃₄
  · exact hread s₀ s (Steady.refl s) h₀

/-! ### Runs -/

/-- A phone with a radio, on which nothing runs yet; its manager has a client once it is started. -/
structure Idle (p : PhonePool) : Prop where
  tasks : p.tasks = []
  radioHal : p.state.radioHal = true
  client : p.state.started = true → p.state.sipClient.isSome
  valid : p.state.radio.Valid

/-- What happens while INVITEs are handled: new INVITEs come in, the handlers go on, requests run out
of time, and responses come in to the requests that forwarding makes. -/
def InviteTraffic (p : PhonePool) : PhoneEvent → Prop
  | .spawn op => ∃ msg ∈ incomingMessage (.spawn op),
      (msg.IsInvite ∧ NewCallId p.state msg.callId) ∨
        (msg.statusCode.isSome ∧ p.state.sipClient.isSome ∧ p.state.radio.forwardNumber.isSome)
  | _ => True

instance (p : PhonePool) (e : PhoneEvent) : Decidable (InviteTraffic p e) :=
  match e with
  | .spawn op => inferInstanceAs (Decidable (∃ msg ∈ incomingMessage (.spawn op), _ ∨ _))
  | .resume _ => isTrue trivial
  | .outside _ => isTrue trivial

/-- Nothing comes in the way of an INVITE.  Where calls are not forwarded, it comes in when the others
have been handled.  Where they are, there is a voice call in the list, and what the handler waits
for comes out: the time-out of a request is not crossed by a late response, and the INVITE gets an
answer its sender can work with. -/
def Undisturbed (p : PhonePool) : PhoneEvent → Prop
  | .spawn _ =>
      if p.state.radio.forwardNumber = none then ∀ c ∈ p.tasks, c.Ended
      else p.state.radio.voiceCalls ≠ []
  | e => ∀ i ∈ p.resumedRequest e, ¬p.state.Crossed i ∧ p.state.Usable i

instance (p : PhonePool) (e : PhoneEvent) : Decidable (Undisturbed p e) :=
  match e with
  | .spawn _ => inferInstanceAs (Decidable (if p.state.radio.forwardNumber = none then _ else _))
  | .resume n => inferInstanceAs (Decidable (∀ i ∈ p.resumedRequest (.resume n), _))
  | .outside i => inferInstanceAs (Decidable (∀ _ ∈ p.resumedRequest (.outside i), _))

/-- The Call-ID an event comes with. -/
def eventCallId (e : PhoneEvent) : Text := ((incomingMessage e).map SIPMessage.callId).getD []

/-- What is known while calls are not forwarded: the handler of each INVITE binds its call. -/
structure Binds (ks : List Text) (p : PhonePool) : Prop where
  kept : EventLoop.Kept (fun _ => aloneContract) (fun id r s => r = .ok .none ∧ Bound s id) ks p
  solo : EventLoop.Solo p
  rings : Rings p.state

theorem Binds.step {ks : List Text} {p p' : PhonePool} {e : PhoneEvent} (hp : Binds ks p)
    (htraffic : InviteTraffic p e) (hcond : Undisturbed p e) (h : p.step e = some p') :
    Binds (EventLoop.labels ks (eventCallId e) e) p' := by
  have hended : ∀ op, e = .spawn op → ∀ c ∈ p.tasks, c.Ended := by
    rintro op rfl
    unfold Undisturbed at hcond
    rwa [if_pos hp.rings.forward] at hcond
  have hstep := PhonePool.step_eq h
  have hguar : ∀ {e}, EventLoop.Moves (fun _ => aloneContract) phoneLoop ks (eventCallId e) p.state
      p'.state e → aloneContract.guar p.state p'.state := by
    intro e hmoves
    cases e with
    | spawn op => exact hmoves
    | resume n =>
        obtain ⟨_, -, hguar⟩ := hmoves
        exact hguar
    | outside i =>
        rw [Phone.expire_eq hmoves]
        exact ⟨fun h => ⟨h.1, h.2, h.3⟩, fun id h => h.of_eq rfl rfl rfl rfl⟩
  suffices hkept : _ ∧ EventLoop.Moves _ _ _ _ _ _ e from
    ⟨hkept.1, hp.solo.step hended hstep, (hguar hkept.2).1 hp.rings⟩
  refine EventLoop.Kept.step (k := eventCallId e) ?_ ?_ ?_ hp.kept hstep
  · rintro op rfl
    obtain ⟨msg, hmsg, htraffic⟩ := htraffic
    cases op with
    | incoming msg' addr =>
        obtain rfl := Option.some.inj hmsg
        obtain ⟨hinvite, hnew⟩ : msg'.IsInvite ∧ NewCallId p.state msg'.callId := by
          rcases htraffic with htraffic | ⟨-, -, hforward⟩
          · exact htraffic
          · rw [hp.rings.forward] at hforward
            cases hforward
        refine handleIncomingSip_invite addr hinvite hnew.1 (handleIncomingInvite_meets msg' addr
          hp.rings.radioHal ?_)
        intro s c hradioHal hradio hheap hid _ hcalls _ _ _
        refine (bindIncoming_alone _ hp.rings hnew hid hradioHal hradio hheap hcalls).mono ?_
        rintro s₀ r s ⟨hguar, rfl, hbound⟩
        exact ⟨hguar, rfl, hbound⟩
    | _ => cases hmsg
  · exact fun _ _ _ _ _ _ _ _ => ⟨⟨rfl, rfl, rfl, rfl⟩, trivial⟩
  · intro n id c hn _ hc hmoves
    constructor
    · rintro - r ⟨hr, hbound⟩
      exact ⟨hr, (hguar hmoves).2 id hbound⟩
    · intro hsuspended
      cases e with
      | spawn op => exact absurd (hended op rfl c (List.mem_of_getElem? hc)) hsuspended
      | resume m =>
          obtain ⟨w, k, htask, -⟩ := EventLoop.step_resume hstep
          exact absurd (congrArg PoolEvent.resume (hp.solo m n _ c htask hc (fun h => h) hsuspended)) hn
      | outside i =>
          rw [Phone.expire_eq hmoves]
          exact ⟨rfl, rfl, rfl, rfl⟩

/-- The labels are the Call-IDs of the INVITEs, and they stay. -/
theorem Binds.run {ks : List Text} {p p' : PhonePool} {es : List PhoneEvent} (hp : Binds ks p)
    (hes : Along PhonePool.step (fun p e => InviteTraffic p e ∧ Undisturbed p e) p es)
    (hr : runFrom PhonePool.step p es = some p') : ∃ ks', ks <+: ks' ∧ Binds ks' p' := by
  refine runFrom_invariant PhonePool.step (I := fun p => ∃ ks', ks <+: ks' ∧ Binds ks' p) ?_
    ⟨ks, List.prefix_rfl, hp⟩ hes hr
  rintro p e p' ⟨ks', hks', hp⟩ ⟨he, he'⟩ h
  refine ⟨_, hks'.trans ?_, hp.step he he' h⟩
  cases e with
  | spawn op => exact List.prefix_append _ _
  | resume n => exact List.prefix_rfl
  | outside i => exact List.prefix_rfl

/-- What is known while calls are forwarded: no handler has raised. -/
structure Forwards (p₀ : Phone) (p : PhonePool) : Prop where
  kept : ∃ ks : List Unit, EventLoop.Kept (fun _ => steadyContract) (fun _ r _ => r = .ok .none) ks p
  steady : Steady p₀ p.state

theorem Forwards.step {p₀ : Phone} {p p' : PhonePool} {e : PhoneEvent} (hp : Forwards p₀ p)
    (hforward : p₀.radio.forwardNumber ≠ none) (hradioHal : p₀.radioHal = true)
    (hclient : p₀.started = true → p₀.sipClient.isSome) (htraffic : InviteTraffic p e)
    (hcond : Undisturbed p e) (h : p.step e = some p') : Forwards p₀ p' := by
  obtain ⟨ks, hkept⟩ := hp.kept
  have hforward : p.state.radio.forwardNumber ≠ none := by rwa [hp.steady.forwardNumber]
  have hclient : p.state.started = true → p.state.sipClient.isSome := by
    rwa [hp.steady.started, hp.steady.client]
  have hstep := PhonePool.step_eq h
  have hrely : ∀ {e}, EventLoop.Moves (fun _ => steadyContract) phoneLoop ks () p.state p'.state e →
      Steady p.state p'.state := by
    intro e hmoves
    cases e with
    | spawn op => exact hmoves
    | resume n =>
        obtain ⟨_, -, hguar⟩ := hmoves
        exact hguar
    | outside i =>
        rw [Phone.expire_eq hmoves]
        exact Steady.modifyClient _ _
  suffices hkept : EventLoop.Kept _ _ (EventLoop.labels ks () e) p' ∧
      EventLoop.Moves _ _ _ _ _ _ e from ⟨⟨_, hkept.1⟩, hp.steady.trans (hrely hkept.2)⟩
  refine EventLoop.Kept.step (k := ()) ?_ ?_ ?_ hkept hstep
  · rintro op rfl
    have hlisted : p.state.radio.voiceCalls ≠ [] := by
      unfold Undisturbed at hcond
      rwa [if_neg hforward] at hcond
    obtain ⟨msg, hmsg, htraffic⟩ := htraffic
    cases op with
    | incoming msg' addr =>
        obtain rfl := Option.some.inj hmsg
        rcases htraffic with ⟨hinvite, hnew⟩ | ⟨hstatus, hsome, -⟩
        · obtain ⟨fwdNumber, hfwd⟩ := Option.ne_none_iff_exists'.mp hforward
          have hradio : p.state.radioHal = true := hp.steady.radioHal.trans hradioHal
          refine handleIncomingSip_invite addr hinvite hnew.1 (handleIncomingInvite_meets msg' addr
            hradio ?_)
          intro s c hradioHal hradio' hheap _ _ _ hsip hstarted _
          have hs : Steady p.state s := by
            refine ⟨hradioHal.trans hradio.symm, hstarted, by rw [hsip], by rw [hradio'],
              by rw [hradio']; exact id, fun ref x hx => ⟨x, ?_, .refl x⟩⟩
            rw [hheap]
            exact (List.getElem?_append_left (List.getElem?_eq_some_iff.mp hx).1).trans hx
          refine bindIncoming_steady _ _ _ hs (by rw [hradio', hfwd]) (by rwa [hradio']) ?_ ?_
          · rw [hstarted, hsip]
            exact hclient
          · exact fun s₁ s' _ _ h₁ => ⟨h₁, rfl⟩
        · obtain ⟨code, hcode⟩ := Option.isSome_iff_exists.mp hstatus
          refine Coro.meets_bind.mpr ?_
          unfold handleIncomingSip
          rw [hcode]
          exact handleResponse_steady msg' code (Steady.refl _) hsome fun s₁ s' _ _ h₁ => ⟨h₁, rfl⟩
    | _ => cases hmsg
  · rintro n w c - rfl htask - hready
    refine ⟨Steady.refl _, hready, ?_⟩
    rintro i rfl
    refine hcond i ?_
    unfold PhonePool.resumedRequest
    simp only
    rw [htask]
    rfl
  · intro n _ c _ _ _ hmoves
    exact ⟨fun _ r hr => hr, fun _ => hrely hmoves⟩

/-- **Incoming calls are bound.**  INVITEs are handled on a phone, in any interleaving, under any
forwarding rules; one of them is `msg`.  In a run in which nothing comes in the way of an INVITE,
the handler of `msg` returns, and unless calls are forwarded, its call has the index of its voice
call from then on. -/
theorem incoming_bound {p p₁ p' : PhonePool} {es es' : List PhoneEvent} {msg : SIPMessage}
    {addr : Text × ℕ} {r : Except PyError OperationResult} (hidle : Idle p)
    (hr₁ : runFrom PhonePool.step p es = some p₁)
    (hr : runFrom PhonePool.step p (es ++ .spawn (.incoming msg addr) :: es') = some p')
    (htraffic : Along PhonePool.step InviteTraffic p (es ++ .spawn (.incoming msg addr) :: es'))
    (hcond : Along PhonePool.step Undisturbed p (es ++ .spawn (.incoming msg addr) :: es'))
    (hresult : p'.result p₁.tasks.length = some r) :
    r = .ok .none ∧ (p.state.radio.forwardNumber = none → Bound p'.state msg.callId) := by
  have hdone := PhonePool.tasks_of_result hresult
  have hboth := htraffic.and PhonePool.step hcond
  by_cases hforward : p.state.radio.forwardNumber = none
  · have hstart : Binds [] p := by
      refine ⟨?_, ?_, hidle.radioHal, hforward, hidle.valid⟩
      · unfold EventLoop.Kept
        rw [hidle.tasks]
        exact .nil
      · intro n m c d hc
        rw [hidle.tasks] at hc
        cases hc
    rw [runFrom_append, hr₁, Option.bind_some] at hr
    obtain ⟨p₂, h₂, hr₂⟩ := runFrom_cons_some PhonePool.step hr
    obtain ⟨ks, -, hks⟩ := hstart.run (hboth.beginning PhonePool.step (List.prefix_append _ _)) hr₁
    have hrest := hboth.rest PhonePool.step hr₁
    have hnew := hks.step hrest.1.1 hrest.1.2 h₂
    obtain ⟨ks', hprefix, hks'⟩ := hnew.run (hrest.2 p₂ h₂) hr₂
    obtain ⟨id, hid, hpromise⟩ := hks'.kept.get hdone
    have hlabel : ks'[p₁.tasks.length]? = some msg.callId := by
      have hlen := List.Forall₂.length_eq hks.kept
      rw [← hlen]
      obtain ⟨rest, rfl⟩ := hprefix
      refine (List.getElem?_append_left (by simp [EventLoop.labels])).trans ?_
      show (ks ++ [msg.callId])[ks.length]? = some msg.callId
      exact List.getElem?_concat_length
    obtain rfl := Option.some.inj (hid.symm.trans hlabel)
    exact ⟨hpromise.ended.1, fun _ => hpromise.ended.2⟩
  · have hstart : Forwards p.state p := by
      refine ⟨⟨[], ?_⟩, Steady.refl _⟩
      unfold EventLoop.Kept
      rw [hidle.tasks]
      exact .nil
    have hend : Forwards p.state p' := by
      refine runFrom_invariant PhonePool.step (I := Forwards p.state) ?_ hstart hboth hr
      exact fun q e q' hq he h => hq.step hforward hidle.radioHal hidle.client he.1 he.2 h
    obtain ⟨ks, hkept⟩ := hend.kept
    obtain ⟨-, -, hpromise⟩ := hkept.get hdone
    exact ⟨hpromise.ended, fun h => absurd h hforward⟩

/-- The started phone, with nothing running on it and these forwarding rules. -/
def idlePhone (cf : CallForwardingManager) : PhonePool :=
  { state := startedPhone.state.modifyRadio fun r => { r with cfManager := some cf }, tasks := [] }

/-- An INVITE of a call. -/
def invite (callId : String) : Operation :=
  .incoming
    { method := some "INVITE".toList
      headers := Dict.ofList [("Call-ID".toList, callId.toList)] }
    ("pcscf".toList, 5060)

/-- One INVITE after the other: the first call is bound, and stays so. -/
theorem incoming_bound_two : ∃ p', runFrom PhonePool.step (idlePhone {})
    [.spawn (invite "c"), .resume 0, .resume 0, .spawn (invite "d"), .resume 1, .resume 1] = some p' ∧
    Bound p'.state "c".toList := by
  obtain ⟨p', hr, hresult⟩ : ∃ p', runFrom PhonePool.step (idlePhone {})
      [.spawn (invite "c"), .resume 0, .resume 0, .spawn (invite "d"), .resume 1, .resume 1] =
        some p' ∧ p'.result 0 = some (.ok .none) := exists_run PhonePool.step (by decide +kernel)
  have hr₁ : runFrom PhonePool.step (idlePhone {}) [] = some (idlePhone {}) := rfl
  have hidle : Idle (idlePhone {}) :=
    ⟨rfl, by decide +kernel, by decide +kernel, by decide +kernel⟩
  have hbound := incoming_bound hidle hr₁ hr (by decide +kernel) (by decide +kernel) hresult
  exact ⟨p', hr, hbound.2 (by decide +kernel)⟩

/-- The second INVITE comes in while the first one is handled: the first call gets the index of the
second one's voice call. -/
theorem incoming_misbound : ∃ p', runFrom PhonePool.step (idlePhone {})
    [.spawn (invite "c"), .spawn (invite "d"), .resume 0, .resume 0, .resume 1, .resume 1] = some p' ∧
    p'.result 0 = some (.ok .none) ∧ ¬Bound p'.state "c".toList :=
  exists_run PhonePool.step (by decide +kernel)

end VirtualPhone
