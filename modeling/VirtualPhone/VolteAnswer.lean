import VirtualPhone.VolteMethods

/-! # Who answers an incoming call

An incoming call is answered by the user: `answer_call` sends the 200 OK to its INVITE and makes it
active.  The handler of incoming messages takes every INVITE with a known Call-ID for a re-INVITE,
whatever the state of the call, and answers it with a 200 OK; where its SDP says `sendrecv` the call
becomes active.

`answered_by_user` shows that an incoming call which nobody answered keeps ringing in every run that
brings no such INVITE to a ringing call; `answered_by_retransmission` is a run that brings one. -/

namespace VirtualPhone

open Runtime

/-- An incoming call nobody answered rings or is being torn down, and nothing was done for it. -/
def Untaken (c : VoLTECall) : Prop :=
  c.direction = .mt → c.history.answerInvoked = false →
    (c.state = .ringingIn ∨ c.state = .terminating ∧ c.history.removed = true) ∧
      c.history.wasActive = false ∧ c.history.okSent = false ∧ c.history.reinvited = false ∧
        c.history.transferRequested = false

/-- The table names calls under their own Call-ID that were not taken out of it. -/
def Listed (s : Phone) : Prop :=
  ∀ (callId : Text) (ref : ℕ) (c : VoLTECall), s.calls.get? callId = some ref →
    s.callHeap[ref]? = some c → c.sipCallId = callId ∧ c.history.removed = false

/-! ### One change -/

/-- A call with an answer, or an outgoing one, is nothing to look at. -/
theorem Untaken.of_taken {c : VoLTECall} (h : c.direction = .mo ∨ c.history.answerInvoked = true) :
    Untaken c := by
  intro hmt hno
  rcases h with h | h
  · rw [hmt] at h
    cases h
  · rw [hno] at h
    cases h

theorem IsNew.untaken {c : VoLTECall} (h : IsNew c) : Untaken c := by
  have hh := h.history
  rcases h.state with ⟨_, hmo⟩ | ⟨hringing, _⟩
  · exact Untaken.of_taken (Or.inl hmo)
  · intro _ _
    rw [hh]
    exact ⟨Or.inl hringing, rfl, rfl, rfl, rfl⟩

theorem Untaken.taken_of_state {c : VoLTECall} (h : Untaken c)
    (hstate : c.state = .active ∨ c.state = .held) :
    c.direction = .mo ∨ c.history.answerInvoked = true := by
  cases hdir : c.direction with
  | mo => exact Or.inl rfl
  | mt =>
      refine Or.inr (by_contra fun hno => ?_)
      have hringing := (h hdir (Bool.eq_false_iff.mpr hno)).1
      rcases hstate with hstate | hstate <;> rw [hstate] at hringing <;> simp at hringing

theorem CallChange.untaken {C : VoLTECall → Prop} {c c' : VoLTECall} (h : CallChange C c c')
    (hc : Untaken c) : Untaken c' := by
  have hlater := h.later
  by_cases htaken : c.direction = .mo ∨ c.history.answerInvoked = true
  · refine Untaken.of_taken (htaken.imp (fun hmo => ?_) hlater.answerInvoked)
    exact hlater.direction.trans hmo
  · obtain ⟨hmt, hno⟩ := not_or.mp htaken
    have hmt : c.direction = .mt := by
      cases hdir : c.direction with
      | mo => exact absurd hdir hmt
      | mt => rfl
    have hno : c.history.answerInvoked = false := Bool.eq_false_iff.mpr hno
    obtain ⟨hstate, hactive, hok, hre, htransfer⟩ := hc hmt hno
    cases h with
    | detail hsame =>
        intro _ _
        rw [hsame.state, hsame.history]
        exact ⟨hstate, hactive, hok, hre, htransfer⟩
    | connected body hmo _ => exact absurd (Or.inl hmo) htaken
    | answerInvoked => exact Untaken.of_taken (Or.inr rfl)
    | answered _ hinvoked => exact absurd (Or.inr hinvoked) htaken
    | okSent hcause =>
        rcases hcause with hcause | hcause
        · exact absurd (Or.inr hcause) htaken
        · rw [hre] at hcause
          cases hcause
    | held hstate' => exact absurd (hc.taken_of_state (Or.inl hstate')) htaken
    | holdReturned _ => exact fun _ _ => ⟨hstate, hactive, hok, hre, htransfer⟩
    | released hstate' => exact absurd (hc.taken_of_state (Or.inr hstate')) htaken
    | transferRequested hstate' => exact absurd (hc.taken_of_state hstate') htaken
    | transferred target hrequested =>
        rw [htransfer] at hrequested
        cases hrequested
    | terminated hremoved =>
        refine fun _ _ => ⟨Or.inr ⟨rfl, hremoved⟩, ?_, hok, hre, htransfer⟩
        simp [VoLTECall.setState, hactive]

theorem CallChange.removed {C : VoLTECall → Prop} {c c' : VoLTECall} (h : CallChange C c c') :
    c'.history.removed = c.history.removed := by
  cases h with
  | detail hsame => rw [hsame.history]
  | held _ => simp [VoLTECall.hold, VoLTECall.record, VoLTECall.setState]
  | released _ => simp [VoLTECall.resume, VoLTECall.release, VoLTECall.setState]
  | _ => rfl

/-! ### The table -/

theorem Micro.listed {C : VoLTECall → Prop} {s s' : Phone} (h : Micro C s s') (hs : Listed s) :
    Listed s' := by
  intro callId r c' hr hc'
  cases h with
  | other hheap hcalls =>
      rw [hcalls] at hr
      rw [hheap] at hc'
      exact hs callId r c' hr hc'
  | created c hnew =>
      have hr : (s.calls.set c.sipCallId s.callHeap.length).get? callId = some r := hr
      rw [Dict.get?_set] at hr
      split_ifs at hr with hid
      · obtain rfl := Option.some.inj hr
        have hc' : (s.callHeap ++ [c])[s.callHeap.length]? = some c' := hc'
        rw [List.getElem?_concat_length] at hc'
        obtain rfl := Option.some.inj hc'
        have hh := hnew.history
        exact ⟨hid.symm, by rw [hh]⟩
      · rcases Phone.eq_or_of_append hc' with hc | ⟨rfl, -⟩
        · exact hs callId r c' hr hc
        · exact absurd (s.valid callId _ hr) (Nat.lt_irrefl _)
  | deleted id =>
      have hr : (s.calls.erase id).get? callId = some r := hr
      rw [Dict.get?_erase] at hr
      split_ifs at hr
      exact hs callId r c' hr hc'
  | @popped id ref href =>
      have hr : (s.calls.erase id).get? callId = some r := hr
      rw [Dict.get?_erase] at hr
      split_ifs at hr with hid
      obtain ⟨c, hc, ⟨rfl, -⟩ | rfl⟩ := Phone.eq_or_of_modify hc'
      · -- the call that was popped is in the table under its own Call-ID only
        exact absurd ((hs callId ref c hr hc).1.symm.trans (hs id ref c href hc).1) hid
      · exact hs callId r c' hr hc
  | changed ref f hf hheap hcalls =>
      rw [hcalls] at hr
      rw [hheap] at hc'
      obtain ⟨c, hc, ⟨rfl, rfl⟩ | rfl⟩ := Phone.eq_or_of_modify hc'
      · have hchange := hf c hc
        rw [hchange.later.sipCallId, hchange.removed]
        exact hs callId ref c hr hc
      · exact hs callId r c' hr hc

theorem VoLTECall.reinvite_removed (sdp : Text) (c : VoLTECall) :
    (c.reinvite sdp).history.removed = c.history.removed := by
  unfold VoLTECall.reinvite
  simp only
  split_ifs <;> simp [VoLTECall.hold, VoLTECall.resume, VoLTECall.setState]

theorem First.listed {op : Operation} {s s' : Phone} (h : First op s s') (hs : Listed s) :
    Listed s' := by
  cases h with
  | nothing => exact hs
  | @reinvite s msg ref addr hre =>
      intro callId r c' hr hc'
      obtain ⟨c, hc, ⟨rfl, rfl⟩ | rfl⟩ := Phone.eq_or_of_modify hc'
      · rw [(c.reinvite_later _).sipCallId, c.reinvite_removed]
        exact hs callId ref c hr hc
      · exact hs callId r c' hr hc
  | @ringing s msg ref addr _ =>
      intro callId r c' hr hc'
      rw [Phone.ringBack_calls] at hr
      rw [Phone.ringBack_callHeap] at hc'
      obtain ⟨c, hc, ⟨rfl, rfl⟩ | rfl⟩ := Phone.eq_or_of_modify hc'
      · exact hs callId ref c hr hc
      · exact hs callId r c' hr hc

/-! ### Runs -/

/-- An INVITE comes in for a call that is still ringing. -/
def ReinvitesRinging (p : PhonePool) (e : PhoneEvent) : Prop :=
  ∃ msg ∈ incomingMessage e, msg.IsInvite ∧
    ∃ ref ∈ p.state.calls.get? msg.callId, (p.state.call ref).state = .ringingIn

instance (p : PhonePool) (e : PhoneEvent) : Decidable (ReinvitesRinging p e) :=
  inferInstanceAs (Decidable (∃ _ ∈ _, _ ∧ ∃ _ ∈ _, _))

/-- Every call is untaken or taken, and the table is in order. -/
def UserAnswers (s : Phone) : Prop :=
  Listed s ∧ ∀ (ref : ℕ) (c : VoLTECall), s.callHeap[ref]? = some c → Untaken c

theorem Micro.userAnswers {C : VoLTECall → Prop} {s s' : Phone} (h : Micro C s s')
    (hs : UserAnswers s) : UserAnswers s' := by
  refine ⟨h.listed hs.1, fun r c' hc' => ?_⟩
  cases h with
  | other hheap _ => exact hs.2 r c' (hheap ▸ hc')
  | created c hnew =>
      rcases Phone.eq_or_of_append hc' with hc | ⟨-, rfl⟩
      · exact hs.2 r c' hc
      · exact hnew.untaken
  | deleted id => exact hs.2 r c' hc'
  | @popped id ref href =>
      obtain ⟨c, hc, ⟨rfl, rfl⟩ | rfl⟩ := Phone.eq_or_of_modify hc'
      · intro hmt hno
        obtain ⟨hstate, hrest⟩ := hs.2 ref c hc hmt hno
        exact ⟨hstate.imp_right fun h => ⟨h.1, rfl⟩, hrest⟩
      · exact hs.2 r c' hc
  | changed ref f hf hheap _ =>
      rw [hheap] at hc'
      obtain ⟨c, hc, ⟨rfl, rfl⟩ | rfl⟩ := Phone.eq_or_of_modify hc'
      · exact (hf c hc).untaken (hs.2 ref c hc)
      · exact hs.2 r c' hc

/-- A re-INVITE for a call that does not ring is one for a call that is taken. -/
theorem First.userAnswers {p : PhonePool} {op : Operation} {s' : Phone}
    (hcond : ¬ReinvitesRinging p (.spawn op)) (h : First op p.state s') (hs : UserAnswers p.state) :
    UserAnswers s' := by
  refine ⟨h.listed hs.1, fun r c' hc' => ?_⟩
  cases h with
  | nothing => exact hs.2 r c' hc'
  | @reinvite _ msg ref addr hre =>
      obtain ⟨c, hc, ⟨rfl, rfl⟩ | rfl⟩ := Phone.eq_or_of_modify hc'
      · have hlater := c.reinvite_later (decodeUtf8 msg.body)
        intro hmt hno
        rw [hlater.direction] at hmt
        have hno : c.history.answerInvoked = false := by
          cases hinvoked : c.history.answerInvoked with
          | false => rfl
          | true => rw [hlater.answerInvoked hinvoked] at hno; exact hno
        obtain ⟨hringing | ⟨-, hremoved⟩, -⟩ := hs.2 ref c hc hmt hno
        · refine absurd ⟨msg, rfl, hre.1, ref, hre.2, ?_⟩ hcond
          rw [Phone.call_eq hc]
          exact hringing
        · rw [(hs.1 msg.callId ref c hre.2 hc).2] at hremoved
          cases hremoved
      · exact hs.2 r c' hc
  | @ringing _ msg ref addr hring =>
      rw [Phone.ringBack_callHeap] at hc'
      obtain ⟨c, hc, ⟨rfl, rfl⟩ | rfl⟩ := Phone.eq_or_of_modify hc'
      · refine Untaken.of_taken (Or.inl ?_)
        rw [← Phone.call_eq hc]
        exact hring.2.2.2
      · exact hs.2 r c' hc

/-- **The user answers.**  In every run that brings no INVITE to a call which is still ringing, an
incoming call is put in state ACTIVE, or gets a 200 OK to its INVITE, only after `answer_call` was
invoked for it. -/
theorem answered_by_user {config : VoLTEConfig} {radioHal : Bool} {radio : RadioHAL}
    {random : ℕ → Text} {es : List PhoneEvent} {p : PhonePool}
    (hringing : Along PhonePool.step (fun p e => ¬ReinvitesRinging p e)
      (PhonePool.initial config radioHal radio random) es)
    (hrun : runFrom PhonePool.step (PhonePool.initial config radioHal radio random) es = some p)
    (ref : ℕ) (c : VoLTECall) (hc : p.state.callHeap[ref]? = some c) (hmt : c.direction = .mt)
    (htaken : c.state = .active ∨ c.history.wasActive = true ∨ c.history.okSent = true) :
    c.history.answerInvoked = true := by
  have hinit : UserAnswers (PhonePool.initial config radioHal radio random).state := by
    constructor
    · intro _ _ _ h
      cases h
    · intro _ _ h
      cases h
  have hinv := (PhonePool.run_invariant Micro.userAnswers First.userAnswers
    (fun _ => PhonePool.admits_true _ _) (PhonePool.initial_disciplined _ config radioHal radio random) hinit hringing hrun).2
  by_contra hno
  obtain ⟨hstate, hactive, hok, -⟩ := hinv.2 ref c hc hmt (Bool.eq_false_iff.mpr hno)
  rcases htaken with h | h | h
  · rw [h] at hstate
    simp at hstate
  · rw [hactive] at h
    cases h
  · rw [hok] at h
    cases h

/-- A phone with a P-CSCF. -/
def testPhone : PhonePool :=
  PhonePool.initial { pcscfAddress := "pcscf".toList } true {} fun n => natText n

/-- An INVITE with an SDP. -/
def testInvite (sdp : String) : Operation :=
  .incoming
    { method := some "INVITE".toList
      requestUri := some "sip:a".toList
      headers := Dict.ofList [("Call-ID".toList, "c".toList)]
      body := encodeUtf8 sdp.toList }
    ("pcscf".toList, 5060)

/-- The user answers, and then the other side invites again. -/
def answeredRun : List PhoneEvent :=
  [.spawn .start, .spawn (testInvite "a=sendrecv"), .resume 1, .resume 1, .spawn .answer, .resume 2,
    .spawn (testInvite "a=sendrecv")]

theorem answered_by_user_answer : ∃ p c, runFrom PhonePool.step testPhone answeredRun = some p ∧
    p.state.callHeap[0]? = some c ∧ c.state = .active ∧ c.history.answerInvoked = true := by
  have hobserve : PhonePool.observe testPhone answeredRun 0 (fun c => (c.direction, c.state)) =
      some (.mt, .active) := by
    decide +kernel
  obtain ⟨p, c, hrun, hc, hf⟩ := PhonePool.of_observe hobserve
  obtain ⟨hmt, hactive⟩ := Prod.mk.inj hf
  exact ⟨p, c, hrun, hc, hactive,
    answered_by_user (by decide +kernel) hrun 0 c hc hmt (Or.inl hactive)⟩

/-- The INVITE of a ringing call is retransmitted: the call is active, and its INVITE has a 200 OK,
but nobody answered. -/
theorem answered_by_retransmission : ∃ p c,
    runFrom PhonePool.step testPhone
      [.spawn .start, .spawn (testInvite "a=sendrecv"), .spawn (testInvite "a=sendrecv")] = some p ∧
    p.state.callHeap[0]? = some c ∧ c.direction = .mt ∧ c.state = .active ∧
      c.history.okSent = true ∧ c.history.answerInvoked = false := by
  have hobserve : PhonePool.observe testPhone
      [.spawn .start, .spawn (testInvite "a=sendrecv"), .spawn (testInvite "a=sendrecv")] 0
      (fun c => (c.direction, c.state, c.history.okSent, c.history.answerInvoked)) =
        some (.mt, .active, true, false) := by
    decide +kernel
  obtain ⟨p, c, hrun, hc, hf⟩ := PhonePool.of_observe hobserve
  simp only [Prod.mk.injEq] at hf
  exact ⟨p, c, hrun, hc, hf⟩

end VirtualPhone
