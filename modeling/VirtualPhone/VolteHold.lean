import VirtualPhone.VolteAnswer

/-! # Who undoes a local hold

`hold_call` puts a call and its media session on hold.  The state HELD does not say who asked for
it, and the handler of a re-INVITE takes every call off hold whose SDP says `sendrecv`.

`local_hold_stays` shows that a call on which `hold_call` returned True stays off state ACTIVE, and
its held media sessions stay held, until a local request releases it, in every run without such a
re-INVITE and without a late answer to the call's own INVITE.  `local_hold_undone` is a run with
one. -/

namespace VirtualPhone

open Runtime

/-- The call was not put in state ACTIVE, and what was held is held. -/
structure StaysHeld (c c' : VoLTECall) : Prop where
  active : c'.state = .active → c.state = .active
  held : ∀ (m : ℕ) (session : MediaSession), c.sessions[m]? = some session → session.held = true →
    ∃ session', c'.sessions[m]? = some session' ∧ session'.held = true

/-- Releases are counted, and without one a locally held call stays held. -/
structure HoldKept (c c' : VoLTECall) : Prop where
  releases : c.history.releases ≤ c'.history.releases
  kept : c.history.locallyHeld = true → c'.history.releases = c.history.releases →
    c'.history.locallyHeld = true ∧ StaysHeld c c'

/-- A call that rings was never put on hold. -/
structure HoldSound (c : VoLTECall) : Prop where
  everHeld : c.history.locallyHeld = true → c.history.everHeld = true
  ringing : c.state = .ringingIn → c.history.everHeld = false

theorem StaysHeld.refl (c : VoLTECall) : StaysHeld c c :=
  ⟨id, fun _ session hm hheld => ⟨session, hm, hheld⟩⟩

theorem StaysHeld.trans {a b c : VoLTECall} (h : StaysHeld a b) (h' : StaysHeld b c) :
    StaysHeld a c := by
  refine ⟨h.active ∘ h'.active, fun m session hm hheld => ?_⟩
  obtain ⟨session₁, hm₁, hheld₁⟩ := h.held m session hm hheld
  exact h'.held m session₁ hm₁ hheld₁

theorem HoldKept.refl (c : VoLTECall) : HoldKept c c := ⟨le_rfl, fun h _ => ⟨h, StaysHeld.refl c⟩⟩

theorem HoldKept.trans {a b c : VoLTECall} (h : HoldKept a b) (h' : HoldKept b c) : HoldKept a c := by
  refine ⟨h.releases.trans h'.releases, fun hheld hsame => ?_⟩
  -- no release in all is none in either half
  have hab := h.releases
  have hbc := h'.releases
  obtain ⟨hb, hstays⟩ := h.kept hheld (by omega)
  obtain ⟨hc, hstays'⟩ := h'.kept hb (by omega)
  exact ⟨hc, hstays.trans hstays'⟩

/-! ### One change -/

theorem onMedia_held {f : MediaSession → MediaSession} (hf : ∀ session : MediaSession,
    session.held = true → (f session).held = true) (c : VoLTECall) {m : ℕ} {session : MediaSession}
    (hm : c.sessions[m]? = some session) (hheld : session.held = true) :
    ∃ session', (c.onMedia f).sessions[m]? = some session' ∧ session'.held = true := by
  obtain ⟨session', hm', rfl | rfl⟩ := c.onMedia_sessions f hm
  · exact ⟨_, hm', hf session hheld⟩
  · exact ⟨_, hm', hheld⟩

theorem MediaSession.hold_held (session : MediaSession) (h : session.held = true) :
    session.hold.held = true := by
  unfold MediaSession.hold
  split_ifs
  · rfl
  · exact h

theorem HoldKept.of_state {c c' : VoLTECall} (hreleases : c'.history.releases = c.history.releases)
    (hlocal : c.history.locallyHeld = true → c'.history.locallyHeld = true)
    (hstate : c'.state = .active → c.state = .active) (hsessions : c'.sessions = c.sessions) :
    HoldKept c c' := by
  refine ⟨hreleases.ge, fun hheld _ => ⟨hlocal hheld, hstate, fun m session hm hs => ?_⟩⟩
  exact ⟨session, hsessions ▸ hm, hs⟩

/-- A call that is not held locally is nothing to look at, as long as releases are counted. -/
theorem HoldKept.of_not_held {c c' : VoLTECall} (hreleases : c.history.releases ≤ c'.history.releases)
    (h : c.history.locallyHeld = false) : HoldKept c c' := by
  refine ⟨hreleases, fun hheld => ?_⟩
  rw [h] at hheld
  cases hheld

theorem HoldKept.of_release {c c' : VoLTECall} (h : c'.history.releases = c.history.releases + 1) :
    HoldKept c c' := by
  refine ⟨by omega, fun _ hsame => ?_⟩
  omega

/-- The call is not held by a local request. -/
def NotLocallyHeld (c : VoLTECall) : Prop := c.history.locallyHeld = false

theorem VoLTECall.hold_kept (c : VoLTECall) : HoldKept c c.hold := by
  have hh : c.hold.history.locallyHeld = c.history.locallyHeld ∧
      c.hold.history.releases = c.history.releases := by
    simp [VoLTECall.hold, VoLTECall.setState]
  refine ⟨hh.2.ge, fun hheld _ => ⟨hh.1.trans hheld, ?_, fun m session hm hs => ?_⟩⟩
  · intro hactive
    simp [VoLTECall.hold, VoLTECall.setState] at hactive
  · exact onMedia_held MediaSession.hold_held (c.setState .held) hm hs

theorem CallChange.holdSound {C : VoLTECall → Prop} {c c' : VoLTECall} (h : CallChange C c c')
    (hc : HoldSound c) : HoldSound c' := by
  cases h with
  | detail hsame =>
      have hh := hsame.history
      exact ⟨by rw [hh]; exact hc.everHeld, by rw [hsame.state, hh]; exact hc.ringing⟩
  | connected body _ _ => exact ⟨hc.everHeld, fun h => by cases h⟩
  | answerInvoked => exact ⟨hc.everHeld, hc.ringing⟩
  | answered _ _ => exact ⟨hc.everHeld, fun h => by cases h⟩
  | okSent _ => exact ⟨hc.everHeld, hc.ringing⟩
  | held _ =>
      refine ⟨fun _ => rfl, fun h => ?_⟩
      simp [VoLTECall.hold, VoLTECall.record, VoLTECall.setState] at h
  | holdReturned hever =>
      refine ⟨fun _ => hever, fun h => ?_⟩
      have hnever := hc.ringing h
      rw [hever] at hnever
      cases hnever
  | released _ =>
      refine ⟨fun h => ?_, fun h => ?_⟩
      · simp [VoLTECall.release] at h
      · simp [VoLTECall.resume, VoLTECall.release, VoLTECall.setState] at h
  | transferRequested _ => exact ⟨hc.everHeld, hc.ringing⟩
  | transferred target _ =>
      constructor
      · intro h
        cases h
      · intro h
        cases h
  | terminated _ => exact ⟨hc.everHeld, fun h => by cases h⟩

theorem CallChange.holdKept {c c' : VoLTECall} (h : CallChange NotLocallyHeld c c')
    (hc : HoldSound c) : HoldKept c c' := by
  cases h with
  | detail hsame =>
      have hh := hsame.history
      refine ⟨by rw [hh], fun hheld _ => ⟨by rw [hh]; exact hheld, ?_, fun m session hm hs => ?_⟩⟩
      · rw [hsame.state]
        exact id
      · obtain ⟨session', hm', hs'⟩ := hsame.held m session hm
        exact ⟨session', hm', hs'.trans hs⟩
  | connected body _ hnot => exact .of_not_held le_rfl hnot
  | answerInvoked => exact .of_state rfl id id rfl
  | answered hringing _ =>
      refine .of_not_held le_rfl (Bool.eq_false_iff.mpr fun hheld => ?_)
      have hnever := hc.ringing hringing
      rw [hc.everHeld hheld] at hnever
      cases hnever
  | okSent _ => exact .of_state rfl id id rfl
  | held _ => exact c.hold_kept.trans (.of_state rfl id id rfl)
  | holdReturned _ => exact .of_state rfl (fun _ => rfl) id rfl
  | released _ =>
      refine .of_release ?_
      simp [VoLTECall.resume, VoLTECall.release, VoLTECall.setState]
  | transferRequested _ => exact .of_state rfl id id rfl
  | transferred target _ => exact .of_release rfl
  | terminated _ => exact .of_state rfl id (fun h => by cases h) rfl

theorem VoLTECall.reinvite_kept {sdp : Text} {c : VoLTECall}
    (h : ResumesRemotely sdp → c.history.locallyHeld = false) : HoldKept c (c.reinvite sdp) := by
  have hfirst : HoldKept c
      { c with remoteSdp := sdp, history := { c.history with reinvited := true } } :=
    .of_state rfl id id rfl
  unfold VoLTECall.reinvite
  simp only
  split_ifs with hhold hresume
  · exact hfirst.trans (VoLTECall.hold_kept _)
  · refine .of_not_held ?_ (h hresume)
    simp [VoLTECall.resume, VoLTECall.setState]
  · exact hfirst

theorem VoLTECall.reinvite_holdSound {sdp : Text} {c : VoLTECall} (h : HoldSound c) :
    HoldSound (c.reinvite sdp) := by
  unfold VoLTECall.reinvite
  simp only
  split_ifs with hhold hresume
  · constructor
    · simpa [VoLTECall.hold, VoLTECall.setState] using h.everHeld
    · simp [VoLTECall.hold, VoLTECall.setState]
  · constructor
    · simpa [VoLTECall.resume, VoLTECall.setState] using h.everHeld
    · simp [VoLTECall.resume, VoLTECall.setState]
  · exact ⟨h.everHeld, h.ringing⟩

/-! ### Runs -/

/-- Every call is sound, and every call there was in `s₀` kept its hold. -/
structure HoldsKept (s₀ s : Phone) : Prop where
  sound : ∀ (ref : ℕ) (c : VoLTECall), s.callHeap[ref]? = some c → HoldSound c
  kept : ∀ (ref : ℕ) (c : VoLTECall), s₀.callHeap[ref]? = some c →
    ∃ c', s.callHeap[ref]? = some c' ∧ HoldKept c c'

theorem HoldsKept.of_related {s₀ s s' : Phone} (h : HoldsKept s₀ s)
    (hrel : ∀ (ref : ℕ) (c : VoLTECall), s.callHeap[ref]? = some c →
      ∃ c', s'.callHeap[ref]? = some c' ∧ HoldKept c c')
    (hsound : ∀ (ref : ℕ) (c : VoLTECall), s'.callHeap[ref]? = some c → HoldSound c) :
    HoldsKept s₀ s' := by
  refine ⟨hsound, fun ref c hc => ?_⟩
  obtain ⟨c₁, hc₁, hkept⟩ := h.kept ref c hc
  obtain ⟨c₂, hc₂, hkept'⟩ := hrel ref c₁ hc₁
  exact ⟨c₂, hc₂, hkept.trans hkept'⟩

theorem HoldsKept.of_modify {s₀ s s' : Phone} (h : HoldsKept s₀ s) {ref : ℕ}
    {f : VoLTECall → VoLTECall} (hheap : s'.callHeap = s.callHeap.modify ref f)
    (hf : ∀ c, s.callHeap[ref]? = some c → HoldKept c (f c) ∧ HoldSound (f c)) :
    HoldsKept s₀ s' := by
  refine h.of_related (fun r c hc => ?_) fun r c' hc' => ?_
  · by_cases hr : ref = r
    · obtain rfl := hr
      exact ⟨f c, by rw [hheap, List.getElem?_modify_eq, hc]; rfl, (hf c hc).1⟩
    · exact ⟨c, by rw [hheap, List.getElem?_modify_ne f _ hr, hc], HoldKept.refl c⟩
  · rw [hheap] at hc'
    obtain ⟨c, hc, ⟨rfl, rfl⟩ | rfl⟩ := Phone.eq_or_of_modify hc'
    · exact (hf c hc).2
    · exact h.sound r c' hc

theorem Micro.holdsKept {s₀ s s' : Phone} (h : Micro NotLocallyHeld s s') (hs : HoldsKept s₀ s) :
    HoldsKept s₀ s' := by
  cases h with
  | other hheap _ => exact ⟨by rw [hheap]; exact hs.sound, by rw [hheap]; exact hs.kept⟩
  | created c hnew =>
      refine hs.of_related (fun r x hx => ⟨x, ?_, HoldKept.refl x⟩) fun r x hx => ?_
      · exact (List.getElem?_append_left (List.getElem?_eq_some_iff.mp hx).1).trans hx
      · rcases Phone.eq_or_of_append hx with hx | ⟨-, rfl⟩
        · exact hs.sound r x hx
        · have hh := hnew.history
          constructor
          · intro h
            rw [hh] at h
            cases h
          · intro _
            rw [hh]
  | deleted id => exact ⟨hs.sound, hs.kept⟩
  | @popped id ref href =>
      refine hs.of_modify rfl fun c hc => ⟨.of_state rfl (fun h => h) (fun h => h) rfl, ?_⟩
      exact ⟨(hs.sound ref c hc).everHeld, (hs.sound ref c hc).ringing⟩
  | changed ref f hf hheap _ =>
      refine hs.of_modify hheap fun c hc => ?_
      exact ⟨(hf c hc).holdKept (hs.sound ref c hc), (hf c hc).holdSound (hs.sound ref c hc)⟩

/-- A message takes a locally held call off hold: a re-INVITE, or the answer to its own INVITE, whose
sender goes on only now. -/
def ResumesLocallyHeld (p : PhonePool) (e : PhoneEvent) : Prop :=
  (∃ msg ∈ incomingMessage e, msg.IsInvite ∧ ResumesRemotely (decodeUtf8 msg.body) ∧
    ∃ ref ∈ p.state.calls.get? msg.callId, (p.state.call ref).history.locallyHeld = true) ∨
  ∃ i ∈ PhonePool.resumedRequest p e, ∃ msg ∈ p.state.sipClient.bind (·.response? i),
    msg.statusCode = some 200 ∧
      ∃ c ∈ p.state.callHeap, c.history.inviteRequest = some i ∧ c.history.locallyHeld = true

instance (p : PhonePool) (e : PhoneEvent) : Decidable (ResumesLocallyHeld p e) :=
  inferInstanceAs (Decidable (_ ∨ ∃ _ ∈ _, ∃ _ ∈ _, _))

theorem admits_of_not_resumes {p : PhonePool} {e : PhoneEvent} (h : ¬ResumesLocallyHeld p e) :
    PhonePool.Admits NotLocallyHeld p e := by
  refine PhonePool.admits_of fun i hi msg hmsg hok ref c hc hinvite => ?_
  refine Bool.eq_false_iff.mpr fun hheld => h (Or.inr ⟨i, hi, msg, hmsg, hok, c, ?_, hinvite, hheld⟩)
  exact List.mem_of_getElem? hc

theorem First.holdsKept {s₀ : Phone} {p : PhonePool} {op : Operation} {s' : Phone}
    (hcond : ¬ResumesLocallyHeld p (.spawn op)) (h : First op p.state s')
    (hs : HoldsKept s₀ p.state) : HoldsKept s₀ s' := by
  cases h with
  | nothing => exact hs
  | @reinvite _ msg ref addr hre =>
      refine hs.of_modify rfl fun c hc => ⟨VoLTECall.reinvite_kept fun hresume => ?_, ?_⟩
      · refine Bool.eq_false_iff.mpr fun hheld => hcond (Or.inl ⟨msg, rfl, hre.1, hresume, ref, hre.2, ?_⟩)
        rw [Phone.call_eq hc]
        exact hheld
      · exact VoLTECall.reinvite_holdSound (hs.sound ref c hc)
  | @ringing _ msg ref addr _ =>
      refine hs.of_modify (Phone.ringBack_callHeap _ _) fun c hc => ⟨?_, ?_⟩
      · exact .of_state rfl id (fun h => by cases h) rfl
      · exact ⟨(hs.sound ref c hc).everHeld, fun h => by cases h⟩

/-- **A local hold stays.**  In every run in which no message takes a locally held call off hold, a
call on which `hold_call` returned True is not put in state ACTIVE, and its held media sessions stay
held and emit nothing, until a local request releases the call. -/
theorem local_hold_stays {config : VoLTEConfig} {radioHal : Bool} {radio : RadioHAL}
    {random : ℕ → Text} (before during after : List PhoneEvent) {p₁ p₂ : PhonePool}
    (hquiet : Along PhonePool.step (fun p e => ¬ResumesLocallyHeld p e)
      (PhonePool.initial config radioHal radio random) (before ++ (during ++ after)))
    (h₁ : runFrom PhonePool.step (PhonePool.initial config radioHal radio random) before = some p₁)
    (h₂ : runFrom PhonePool.step p₁ during = some p₂) (ref : ℕ) (c : VoLTECall)
    (hc : p₁.state.callHeap[ref]? = some c) (hheld : c.history.locallyHeld = true) :
    ∃ c', p₂.state.callHeap[ref]? = some c' ∧
      (c'.history.releases = c.history.releases →
        (c'.state = .active → c.state = .active) ∧
        ∀ (m : ℕ) (session : MediaSession), c.sessions[m]? = some session → session.held = true →
          ∃ session', c'.sessions[m]? = some session' ∧ session'.held = true ∧
            ∀ frame, (session'.sendFrame frame).2 = none) := by
  have hinit : HoldsKept (PhonePool.initial config radioHal radio random).state
      (PhonePool.initial config radioHal radio random).state := by
    constructor
    · intro _ _ h
      cases h
    · intro _ _ h
      cases h
  obtain ⟨hp₁, hsound⟩ := PhonePool.run_invariant Micro.holdsKept First.holdsKept
    admits_of_not_resumes (PhonePool.initial_disciplined _ config radioHal radio random) hinit
    (Along.beginning PhonePool.step hquiet (List.prefix_append _ _)) h₁
  have hstart : HoldsKept p₁.state p₁.state :=
    ⟨hsound.sound, fun _ c hc => ⟨c, hc, HoldKept.refl c⟩⟩
  obtain ⟨-, hkept⟩ := PhonePool.run_invariant Micro.holdsKept First.holdsKept
    admits_of_not_resumes hp₁ hstart
    (Along.beginning PhonePool.step (Along.rest PhonePool.step hquiet h₁) (List.prefix_append _ _)) h₂
  obtain ⟨c', hc', hkept⟩ := hkept.kept ref c hc
  refine ⟨c', hc', fun hsame => ⟨(hkept.kept hheld hsame).2.active, fun m session hm hs => ?_⟩⟩
  obtain ⟨session', hm', hs'⟩ := (hkept.kept hheld hsame).2.held m session hm hs
  exact ⟨session', hm', hs', fun frame => by rw [MediaSession.sendFrame_of_held hs']⟩

/-- An incoming call is answered, and then held by the user. -/
def heldRun : List PhoneEvent :=
  [.spawn .start, .spawn (testInvite "m=audio 4\r\na=sendrecv"), .resume 1, .resume 1,
    .spawn .answer, .resume 2, .resume 2, .resume 2, .spawn (.holdCall "c".toList),
    .spawn (.incoming
      { statusCode := some 200
        reasonPhrase := some "OK".toList
        headers := Dict.ofList [("Call-ID".toList, "c".toList)] } ("pcscf".toList, 5060)),
    .resume 3, .resume 3]

/-- What is seen of a call on hold. -/
def holdView (c : VoLTECall) : VoLTECallState × List Bool × Bool × ℕ :=
  (c.state, c.sessions.map MediaSession.held, c.history.locallyHeld, c.history.releases)

theorem held_run_view : PhonePool.observe testPhone heldRun 0 holdView =
    some (.held, [true], true, 0) := by
  decide +kernel

/-- The other side asks for hold too. -/
theorem local_hold_stays_sendonly : ∃ p₁ p₂ c c',
    runFrom PhonePool.step testPhone heldRun = some p₁ ∧ p₁.state.callHeap[0]? = some c ∧
    c.history.locallyHeld = true ∧
    runFrom PhonePool.step p₁ [.spawn (testInvite "a=sendonly")] = some p₂ ∧
    p₂.state.callHeap[0]? = some c' ∧ c'.state ≠ .active := by
  obtain ⟨p₁, c, h₁, hc, hview⟩ := PhonePool.of_observe held_run_view
  simp only [holdView, Prod.mk.injEq] at hview
  have hboth : PhonePool.observe testPhone (heldRun ++ [.spawn (testInvite "a=sendonly")]) 0
      holdView = some (.held, [true], true, 0) := by
    decide +kernel
  obtain ⟨p₂, c₂, h₂, hc₂, hview₂⟩ := PhonePool.of_observe hboth
  rw [runFrom_append, h₁, Option.bind_some] at h₂
  simp only [holdView, Prod.mk.injEq] at hview₂
  obtain ⟨c', hc', hkept⟩ := local_hold_stays heldRun _ [] (by decide +kernel) h₁ h₂ 0 c hc
    hview.2.2.1
  obtain rfl : c₂ = c' := Option.some.inj (hc₂.symm.trans hc')
  refine ⟨p₁, p₂, c, c₂, h₁, hc, hview.2.2.1, h₂, hc₂, fun hactive => ?_⟩
  have := (hkept (hview₂.2.2.2.trans hview.2.2.2.symm)).1 hactive
  rw [hview.1] at this
  cases this

/-- The other side asks for `sendrecv`: the call the user put on hold is active, and its media
session is on. -/
theorem local_hold_undone : ∃ p₁ p₂ c c',
    runFrom PhonePool.step testPhone heldRun = some p₁ ∧ p₁.state.callHeap[0]? = some c ∧
    c.history.locallyHeld = true ∧ c.state = .held ∧
    runFrom PhonePool.step p₁ [.spawn (testInvite "a=sendrecv")] = some p₂ ∧
    p₂.state.callHeap[0]? = some c' ∧ c'.history.releases = c.history.releases ∧
    c'.state = .active ∧ c.sessions.map MediaSession.held = [true] ∧
    c'.sessions.map MediaSession.held = [false] := by
  obtain ⟨p₁, c, h₁, hc, hview⟩ := PhonePool.of_observe held_run_view
  simp only [holdView, Prod.mk.injEq] at hview
  have hboth : PhonePool.observe testPhone (heldRun ++ [.spawn (testInvite "a=sendrecv")]) 0
      holdView = some (.active, [false], true, 0) := by
    decide +kernel
  obtain ⟨p₂, c₂, h₂, hc₂, hview₂⟩ := PhonePool.of_observe hboth
  rw [runFrom_append, h₁, Option.bind_some] at h₂
  simp only [holdView, Prod.mk.injEq] at hview₂
  exact ⟨p₁, p₂, c, c₂, h₁, hc, hview.2.2.1, hview.1, h₂, hc₂,
    hview₂.2.2.2.trans hview.2.2.2.symm, hview₂.1, hview.2.1, hview₂.2.1⟩

end VirtualPhone
