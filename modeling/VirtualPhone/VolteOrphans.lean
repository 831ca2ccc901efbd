import VirtualPhone.DialedCall

/-! # No orphan call

`dial` for one call runs next to the handlers of the other side's responses and BYEs, and to
`hangup` of the call.  `no_orphan` says when none of them raises, and when the voice call, the
entry of the call and its media are all there or all gone in the end.

The contracts: while the voice call has no Call-ID, the others let `dial` alone.  A `remover` is a BYE
or a `hangup` that takes the entry of the named call away; it takes the voice call off the list
too.  Everything else is a `bystander`. -/

namespace VirtualPhone

open Runtime
open Coro (get modify raise attempt)
open Async (when whenSome ignore onTimeout)
open VoLTECallManager

/-- A BYE that is answered is one of a call whose voice call is still in the list. -/
def Phone.ByeListed (s : Phone) (i : ℕ) : Prop :=
  ∀ client ∈ s.sipClient, ∀ t ∈ client.calls[i]?, t.request.method = some "BYE".toList →
    ∃ v ∈ s.radio.voiceCalls, (s.radio.voice v).sipCallId = t.cid

instance (s : Phone) (i : ℕ) : Decidable (s.ByeListed i) :=
  inferInstanceAs (Decidable (∀ _ ∈ _, ∀ _ ∈ _, _ → _))

namespace Dialed

variable {d : Dialed}

/-! ### The contracts -/

/-- What a method does with the call. -/
inductive Role
  | dial
  | bystander
  | remover
deriving DecidableEq

/-- What is known when a method is resumed. -/
def Resumes (w : Await) (s : Phone) : Prop :=
  s.ready w = true ∧ ∀ i, w = .response i → ¬s.Crossed i ∧ s.Usable i ∧ s.ByeListed i

/-- The contract of a role. -/
def contract (d : Dialed) : Role → Contract Phone Await
  | .dial =>
      { rely := fun s s' => d.Onward s s' ∧ d.Calm s s'
        guar := fun s s' => d.Onward s s' ∧ d.KeepsEntry s s'
        resumes := Resumes
        rely_trans := fun h h' => ⟨h.1.trans h'.1, h.2.trans h'.2⟩ }
  | .bystander =>
      { rely := d.Onward
        guar := fun s s' => d.Onward s s' ∧ d.Calm s s' ∧ d.KeepsEntry s s'
        resumes := Resumes
        rely_trans := Onward.trans }
  | .remover =>
      { rely := d.Onward
        guar := fun s s' => d.Onward s s' ∧ d.Calm s s'
        resumes := Resumes
        rely_trans := Onward.trans }

variable {s₀ s : Phone}

theorem Still.stands {s s' : Phone} (h : Still s s') (hdraw : s'.draw 0 = s.draw 0) :
    (d.contract .bystander).guar s s' := ⟨h.onward, h.calm hdraw, h.keepsEntry⟩

theorem sendIndication_meets {K : Contract Phone Await}
    {post : Phone → Except PyError Unit → Phone → Prop} (indication : ℕ)
    (hguar : K.guar s₀ (s.modifyRadio (RadioHAL.indicate indication)))
    (h : ∀ s', K.rely (s.modifyRadio (RadioHAL.indicate indication)) s' → post s' (.ok ()) s') :
    (RadioHAL.sendIndication indication).Meets K post s₀ s :=
  ⟨hguar, fun s' hrely _ => h s' hrely⟩

theorem dropTail_meets {K : Contract Phone Await} {result : RadioHAL.Result}
    {post : Phone → Except PyError RadioHAL.Result → Phone → Prop} (hs : d.Sound s)
    (hlisted : d.Listed s)
    (hguar : K.guar s₀ ((Sound.dropped d s).modifyRadio (RadioHAL.indicate 1001)))
    (h : ∀ s', K.rely ((Sound.dropped d s).modifyRadio (RadioHAL.indicate 1001)) s' →
      post s' (.ok result) s') :
    (do
      RadioHAL.removeVoice d.voice
      RadioHAL.sendIndication 1001
      return result : Async RadioHAL.Result).Meets K post s₀ s := by
  refine Coro.meets_bind.mpr (Coro.meets_get_bind.mpr ?_)
  rw [hs.remove_eq hlisted]
  show (RadioHAL.sendIndication 1001 >>= fun _ => (pure result : Async RadioHAL.Result)).Meets K post
    s₀ (Sound.dropped d s)
  exact Coro.meets_bind.mpr (sendIndication_meets 1001 hguar h)

/-! ### Bystanders -/

/-- The outcome of a bystander. -/
def Stood (d : Dialed) {α : Type} (s₀ : Phone) (r : Except PyError α) (s : Phone) : Prop :=
  (d.contract .bystander).guar s₀ s ∧ ∃ a, r = .ok a

theorem updateCallState_stands (callIndex : ℕ) (newState : CallState) (h₀ : Still s₀ s)
    (hdraw : s.draw 0 = s₀.draw 0) :
    (RadioHAL.updateCallState callIndex newState).Meets (d.contract .bystander) d.Stood s₀ s := by
  refine Coro.meets_get_bind.mpr ?_
  split
  · next v _ =>
      have hvoice := Still.modifyVoice s v newState
      refine Coro.meets_modify_bind.mpr (sendIndication_meets 1001 ?_ fun s' _ => ?_)
      · exact ((h₀.trans hvoice).trans (Still.indicate _ 1001)).stands hdraw
      · exact ⟨(Still.refl s').stands rfl, (), rfl⟩
  · exact ⟨h₀.stands hdraw, (), rfl⟩

theorem handleResponse_stands (msg : SIPMessage) (code : ℤ) (hclient : s.sipClient.isSome) :
    (handleResponse msg code).Meets (d.contract .bystander) d.Stood s s := by
  obtain ⟨client, hclient⟩ := Option.isSome_iff_exists.mp hclient
  have hsame : d.Stood s (.ok ()) s := ⟨(Still.refl s).stands rfl, (), rfl⟩
  refine Coro.meets_get_bind.mpr ?_
  simp only [hclient]
  split
  · split
    · exact ⟨(Still.modifyClient s _).stands rfl, (), rfl⟩
    · split
      · split
        · next ref _ =>
            refine when_meets.mpr ⟨fun _ => ?_, fun _ => hsame⟩
            have hring := Still.modifyCall s ref (f := VoLTECall.setState .ringingOut) fun _ => rfl
            refine Coro.meets_modify_bind.mpr (Coro.meets_get_bind.mpr (when_meets.mpr ⟨fun _ => ?_, fun _ => ?_⟩))
            · exact updateCallState_stands _ _ hring rfl
            · exact ⟨hring.stands rfl, (), rfl⟩
        · exact hsame
      · exact hsame
  · exact hsame

theorem Still.ack (s : Phone) (ref : ℕ) :
    Still s ((s.send (s.ack ref) s.config.dest).skipDraws 2) :=
  of_eq rfl rfl rfl same_client rfl rfl

/-- A message other than a BYE goes out where there is a client. -/
theorem Still.sendIfClient (s : Phone) (msg : SIPMessage) (addr : Text × ℕ) :
    Still s (if s.sipClient.isSome then s.send msg addr else s) := by
  split_ifs
  · exact of_eq rfl rfl rfl same_client rfl rfl
  · exact refl s

theorem Still.sendIfClient_draw (s : Phone) (msg : SIPMessage) (addr : Text × ℕ) :
    (if s.sipClient.isSome then s.send msg addr else s).draw 0 = s.draw 0 := by
  split_ifs <;> rfl

theorem handleIncomingBye_stands {msg : SIPMessage} (addr : Text × ℕ) (hid : msg.callId = d.callId)
    (hgone : ¬d.InTable s) :
    (handleIncomingBye msg addr).Meets (d.contract .bystander) d.Stood s s := by
  have hnone : s.calls.get? msg.callId = none := by
    rw [hid]
    exact (Dict.get?_eq_none_iff _ _).mpr hgone
  refine Coro.meets_bind.mpr (Coro.meets_get_bind.mpr ?_)
  simp only [hnone]
  refine Coro.meets_modify_bind.mpr ?_
  show d.Stood s (.ok ()) (Phone.countActive _)
  refine ⟨Still.stands ((Still.sendIfClient s (response msg 200 "OK" msg.callId [] []) addr).trans
    ?_) ?_, (), rfl⟩
  · exact Still.of_eq rfl rfl rfl Still.same_client rfl rfl
  · exact Still.sendIfClient_draw s (response msg 200 "OK" msg.callId [] []) addr

/-! ### Removers -/

/-- The call has a Call-ID, and the manager does not hold it. -/
structure Removing (d : Dialed) (s : Phone) : Prop where
  sound : d.Sound s
  name : d.name s = d.callId
  gone : ¬d.InTable s

namespace Removing

theorem onward {s' : Phone} (h : d.Removing s) (hr : d.Onward s s') : d.Removing s' := by
  obtain ⟨hs', hprogress⟩ := hr h.sound
  exact ⟨hs', hprogress.named h.name, hprogress.gone h.name h.gone⟩

theorem still {s' : Phone} (h : d.Removing s) (hstill : Still s s') : d.Removing s' :=
  h.onward hstill.onward

theorem guar {s' : Phone} (h : d.Removing s) (hr : d.Onward s s') :
    (d.contract .remover).guar s s' := ⟨hr, Calm.of_named h.sound h.name⟩

theorem modifyCall (h : d.Removing s) {f : VoLTECall → VoLTECall}
    (hid : ∀ c, (f c).sipCallId = c.sipCallId) (hsessions : ∀ c, (f c).sessions = c.sessions) :
    d.Onward s (s.modifyCall d.ref f) := by
  intro hs
  refine ⟨⟨hs.callId, hs.radioHal, hs.callManager, hs.client, hs.there, hs.index, hs.others, hs.once,
    hs.entry, fun ref c hc => ?_, fun c hc => ?_, hs.name, hs.named, fun h => ?_,
    fun _ c hc => ?_⟩, ⟨rfl, Still.same_client, id, fun _ => id, id⟩⟩
  · obtain ⟨c₀, hc₀, ⟨-, rfl⟩ | rfl⟩ := Phone.eq_or_of_modify hc
    · rw [hid]
      exact hs.calls ref c₀ hc₀
    · exact hs.calls ref _ hc₀
  · obtain ⟨c₀, hc₀, ⟨-, rfl⟩ | rfl⟩ := Phone.eq_or_of_modify hc
    · rw [hid]
      exact hs.own c₀ hc₀
    · exact hs.own _ hc₀
  · rw [Phone.modifyCall_callHeap, List.length_modify]
    exact hs.made h
  · obtain ⟨c₀, hc₀, hcase⟩ := Phone.eq_or_of_modify hc
    have hsilent := (hs.media h.name c₀ hc₀).2 h.gone
    rcases hcase with ⟨-, rfl⟩ | rfl
    · have hsilent' := hsilent.of_sessions (hsessions c₀)
      exact ⟨hsilent'.tuned, fun _ => hsilent'⟩
    · exact ⟨hsilent.tuned, fun _ => hsilent⟩

theorem drop (h : d.Removing s) : d.Onward s (Sound.dropped d s) :=
  fun hs => ⟨hs.drop fun _ => h.gone, hs.drop_progress⟩

end Removing

/-- The entry of a named call goes, and its media are silent. -/
theorem Sound.pop (hs : d.Sound s) (hname : d.name s = d.callId) {f : VoLTECall → VoLTECall}
    (hid : ∀ c, (f c).sipCallId = c.sipCallId)
    (hsilent : ∀ c, s.callHeap[d.ref]? = some c → (f c).Silent) :
    d.Removing ((s.delCall d.callId).modifyCall d.ref f) ∧
      d.Progress s ((s.delCall d.callId).modifyCall d.ref f) := by
  have hgone : ¬d.InTable ((s.delCall d.callId).modifyCall d.ref f) := by
    intro hmem
    exact ((Dict.mem_keys_erase _ _ _).mp hmem).1 rfl
  refine ⟨⟨⟨hs.callId, hs.radioHal, hs.callManager, hs.client, hs.there, hs.index, hs.others, hs.once,
    fun ref href => ?_, fun ref c hc => ?_, fun c hc => ?_, hs.name, fun h => ⟨(hs.named h).1, fun h => absurd h hgone⟩,
    fun h => ?_, fun _ c hc => ?_⟩, hname, hgone⟩, ⟨rfl, Still.same_client, id, fun _ _ => hgone, id⟩⟩
  · exact absurd (Dict.mem_keys_of_get? href) hgone
  · obtain ⟨c₀, hc₀, ⟨-, rfl⟩ | rfl⟩ := Phone.eq_or_of_modify hc
    · rw [hid]
      exact hs.calls ref c₀ hc₀
    · exact hs.calls ref _ hc₀
  · obtain ⟨c₀, hc₀, ⟨-, rfl⟩ | rfl⟩ := Phone.eq_or_of_modify hc
    · rw [hid]
      exact hs.own c₀ hc₀
    · exact hs.own _ hc₀
  · rw [Phone.modifyCall_callHeap, List.length_modify]
    exact hs.made h
  · obtain ⟨c₀, hc₀, ⟨-, rfl⟩ | rfl⟩ := Phone.eq_or_of_modify hc
    · exact ⟨(hsilent c₀ hc₀).tuned, fun _ => hsilent c₀ hc₀⟩
    · have hself := Phone.modifyCall_callHeap d.ref f (s.delCall d.callId)
      rw [hself, List.getElem?_modify_eq] at hc
      obtain ⟨c₁, hc₁, heq⟩ := Option.map_eq_some_iff.mp hc
      rw [← heq]
      exact ⟨(hsilent c₁ hc₁).tuned, fun _ => hsilent c₁ hc₁⟩

theorem stopMedia_remover {post : Phone → Except PyError Unit → Phone → Prop} (hs : d.Sound s)
    (hname : d.name s = d.callId) (hin : s.calls.get? d.callId = some d.ref)
    (h : ∀ s₁ s', d.Removing s' → (d.contract .remover).guar s₁ s' → post s₁ (.ok ()) s') :
    (stopMedia d.ref).Meets (d.contract .remover) post s (s.popCall d.callId d.ref) := by
  obtain ⟨c, hc, rfl⟩ := Phone.knows_of_get? hin
  have htuned := (hs.media hname _ hc).1
  have hcall : (s.popCall d.callId d.ref).call d.ref =
      (s.call d.ref).record fun h => { h with removed := true } := by
    refine Phone.call_eq ?_
    show (s.callHeap.modify d.ref _)[d.ref]? = _
    rw [List.getElem?_modify_eq, hc]
    rfl
  have hguar : ∀ {s'}, d.Removing s' → d.Progress s s' → (d.contract .remover).guar s s' :=
    fun hr hp => ⟨fun _ => ⟨hr.sound, hp⟩, Calm.of_named hs hname⟩
  refine Coro.meets_get_bind.mpr ?_
  rw [hcall]
  split
  · next m hm =>
      have hpop := hs.pop hname (f := fun c => (c.record fun h => { h with removed := true }).modifySession
        m (MediaSession.setActive false)) (fun _ => rfl) fun c' hc' => by
          obtain rfl := Option.some.inj (hc.symm.trans hc')
          exact htuned.stop hm
      have heq : (s.popCall d.callId d.ref).modifyCall d.ref
          (VoLTECall.modifySession m (MediaSession.setActive false)) =
          (s.delCall d.callId).modifyCall d.ref fun c =>
            (c.record fun h => { h with removed := true }).modifySession m
              (MediaSession.setActive false) := by
        simp only [Phone.popCall, Phone.modifyCall, List.modify_modify_eq, Function.comp_def]
      refine Coro.meets_bind.mpr (Coro.meets_modify_bind.mpr ?_)
      rw [heq]
      refine ⟨hguar hpop.1 hpop.2, fun s₁ hrely _ => ?_⟩
      have hr := hpop.1.onward hrely
      have hset := hr.modifyCall (f := VoLTECall.setMediaSession none) (fun _ => rfl) fun _ => rfl
      exact h s₁ _ (hr.onward hset) (hr.guar hset)
  · next hm =>
      have hpop := hs.pop hname (f := VoLTECall.record fun h => { h with removed := true }) (fun _ => rfl)
        fun c' hc' => by
          obtain rfl := Option.some.inj (hc.symm.trans hc')
          exact (htuned.silent hm).of_sessions rfl
      exact h s _ hpop.1 (hguar hpop.1 hpop.2)

/-- The outcome of a remover. -/
def Removed (d : Dialed) {α : Type} (s₀ : Phone) (r : Except PyError α) (s : Phone) : Prop :=
  (d.contract .remover).guar s₀ s ∧ (∃ a, r = .ok a) ∧ ¬d.Listed s

theorem handleIncomingBye_removes {msg : SIPMessage} (addr : Text × ℕ) (hid : msg.callId = d.callId)
    (hs : d.Sound s) (hname : d.name s = d.callId) (hin : s.calls.get? d.callId = some d.ref) :
    (handleIncomingBye msg addr).Meets (d.contract .remover) d.Removed s s := by
  refine Coro.meets_bind.mpr (Coro.meets_get_bind.mpr ?_)
  simp only [hid, hin]
  refine Coro.meets_bind.mpr (Coro.meets_modify_bind.mpr (stopMedia_remover hs hname hin ?_))
  intro s₁ s₂ hr h₁₂
  have hsend := Still.sendIfClient s₂ (response msg 200 "OK" d.callId [] []) addr
  have hr₃ := hr.still hsend
  refine Coro.meets_modify_bind.mpr ?_
  generalize (if s₂.sipClient.isSome = true then s₂.send (response msg 200 "OK" d.callId [] []) addr
    else s₂) = s₃ at hsend hr₃ ⊢
  refine Coro.meets_get_bind.mpr (when_meets.mpr ⟨fun _ => ?_, fun hno => absurd hr₃.sound.radioHal hno⟩)
  refine Coro.meets_modify_bind.mpr ?_
  rw [hr₃.sound.dropSipCall_eq hr₃.name]
  have hindicate := Still.indicate (Sound.dropped d s₃) 1001
  have hdrop := hr₃.drop.trans hindicate.onward
  have hoff : ¬d.Listed ((Sound.dropped d s₃).modifyRadio (RadioHAL.indicate 1001)) :=
    mt hindicate.listed.mp hr₃.sound.dropped_off
  refine sendIndication_meets 1001 ⟨?_, ?_⟩ fun s₄ hrely => ?_
  · exact h₁₂.1.trans (hsend.onward.trans hdrop)
  · exact h₁₂.2.trans (hr.guar (hsend.onward.trans hdrop)).2
  · have hr₄ := (hr₃.onward hdrop).onward hrely
    have hcount : Still s₄ s₄.countActive := Still.of_eq rfl rfl rfl Still.same_client rfl rfl
    refine ⟨hr₄.guar hcount.onward, ⟨(), rfl⟩, mt hcount.listed.mp ?_⟩
    exact (hrely (hr₃.onward hdrop).sound).2.off hoff

theorem sendBye_removes {post : Phone → Except PyError SIPMessage → Phone → Prop}
    (hr : d.Removing s) (h₀ : (d.contract .remover).guar s₀ s) {ref : ℕ} {c : VoLTECall}
    (hc : s.callHeap[ref]? = some c) (hid : c.sipCallId = d.callId)
    (h : ∀ s₁ s' r, d.Removing s' → (d.contract .remover).guar s₁ s' → d.Listed s' →
      (∀ e, r = .error e → ∃ m, e = .timeoutError m) → post s₁ r s') :
    (sendDialogRequest ref "BYE" [] []).Meets (d.contract .remover) post s₀ s := by
  obtain ⟨client, hclient⟩ := Option.isSome_iff_exists.mp (hr.sound.client (hr.sound.named hr.name).1)
  refine Coro.meets_get_bind.mpr ?_
  rw [Phone.call_eq hc, hid]
  have hbegin := Still.beginRequest
    { method := "BYE".toList
      requestUri := c.remoteUri
      toUri := c.remoteUri
      fromUri := s.config.fromUri
      dest := s.config.dest
      extraHeaders := s.config.withRoute []
      body := []
      callId := some d.callId } s
  have hr₁ := hr.still hbegin
  refine sendRequest_meets hclient (fun h => h.1) ?_ ?_
  · exact ⟨h₀.1.trans hbegin.onward, h₀.2.trans (hr.guar hbegin.onward).2⟩
  rintro s₂ r e hrely ⟨-, hresumes⟩ hreceived
  obtain ⟨hnot, -, hbye⟩ := hresumes _ rfl
  have hr₂ := hr₁.onward hrely
  -- the request is still the client's, and it is the BYE
  have hlisted : d.Listed s₂ := by
    obtain ⟨client₁, hclient₁, -, t, ids, ht, hcid, hmethod⟩ := beginRequest_client _ hclient
    obtain ⟨client₂, hclient₂, hsame⟩ := (hrely hr₁.sound).2.requests client₁ hclient₁
    obtain ⟨t₂, ht₂, hcid₂, hrequest₂⟩ := hsame _ t ht
    obtain ⟨v, hv, hvid⟩ := hbye client₂ hclient₂ t₂ ht₂ (by rw [hrequest₂, hmethod])
    have hcallId : t.cid = d.callId := by
      rw [hcid]
      exact if_neg hr.sound.callId
    by_contra hoff
    refine (hr₂.sound.others v hv ?_).2 (hvid.trans (hcid₂.trans hcallId))
    rintro rfl
    exact hoff hv
  have hclient := Still.modifyClient s₂ e
  have hr₃ := hr₂.still hclient
  refine h s₂ _ r hr₃ (hr₂.guar hclient.onward) (hclient.listed.mpr hlisted) ?_
  rintro e' rfl
  cases hreceived with
  | timedOut m _ _ => exact ⟨m, rfl⟩
  | crossed cid _ hcrossed => exact absurd hcrossed hnot

theorem hangupCall_removes {post : Phone → Except PyError Bool → Phone → Prop} (hs : d.Sound s)
    (hname : d.name s = d.callId) (hin : s.calls.get? d.callId = some d.ref)
    (h : ∀ s₁ s' b, d.Removing s' → (d.contract .remover).guar s₁ s' → d.Listed s' →
      post s₁ (.ok b) s') :
    (hangupCall d.callId).Meets (d.contract .remover) post s s := by
  refine Coro.meets_get_bind.mpr ?_
  rw [hin]
  refine Coro.meets_modify_bind.mpr (Coro.meets_bind.mpr (stopMedia_remover hs hname hin ?_))
  intro s₁ s₂ hr h₁₂
  have hstarted := (hr.sound.named hr.name).1
  refine Coro.meets_get_bind.mpr ?_
  rw [if_pos ⟨hr.sound.client hstarted, hstarted⟩]
  have hend := Still.modifyCall s₂ d.ref (f := VoLTECall.setState .terminating) fun _ => rfl
  have hr₃ := hr.still hend
  have hc := List.getElem?_eq_getElem (hr₃.sound.made hr₃.name)
  refine Coro.meets_modify_bind.mpr (Coro.meets_bind.mpr (onTimeout_meets.mpr (ignore_meets.mpr ?_)))
  refine sendBye_removes hr₃ ⟨h₁₂.1.trans hend.onward, h₁₂.2.trans (hr.guar hend.onward).2⟩ hc
    (hr₃.sound.own _ hc) ?_
  intro s₄ s₅ r hr₅ h₄₅ hlisted herror
  have hcount : Still s₅ s₅.countActive := Still.of_eq rfl rfl rfl Still.same_client rfl rfl
  have hlast := h s₄ _ true (hr₅.still hcount) ⟨h₄₅.1.trans hcount.onward,
    h₄₅.2.trans (hr₅.guar hcount.onward).2⟩ (hcount.listed.mpr hlisted)
  cases r with
  | ok msg => exact hlast
  | error e =>
      obtain ⟨m, rfl⟩ := herror e rfl
      exact hlast

/-! ### `hangup` -/

/-- `hangup` of a call the manager does not hold: the voice call leaves the list, where it is
there. -/
theorem hangup_stands (hs : d.Sound s)
    (h : d.Listed s → d.name s = d.callId ∧ ¬d.InTable s) :
    (RadioHAL.hangup d.index).Meets (d.contract .bystander) d.Stood s s := by
  refine Coro.meets_get_bind.mpr ?_
  by_cases hlisted : d.Listed s
  · rw [hs.find_index.1 hlisted]
    obtain ⟨hname, hgone⟩ := h hlisted
    have hr : d.Removing s := ⟨hs, hname, hgone⟩
    have hindicate := Still.indicate (Sound.dropped d s) 1001
    have hdrop := hr.drop.trans hindicate.onward
    refine Coro.meets_bind.mpr (Coro.meets_get_bind.mpr ?_)
    rw [show (s.radio.voice d.voice).sipCallId = d.callId from hr.name]
    refine when_meets.mpr ⟨fun _ => ignore_meets.mpr (Coro.meets_get_bind.mpr ?_),
      fun hno => absurd ⟨hs.callManager, hs.callId⟩ hno⟩
    rw [(Dict.get?_eq_none_iff _ _).mpr hgone]
    refine dropTail_meets hs hlisted ⟨hdrop, (hr.guar hdrop).2, fun _ _ => ⟨hr.name, hgone⟩⟩ ?_
    exact fun s' _ => ⟨(Still.refl s').stands rfl, _, rfl⟩
  · rw [hs.find_index.2 hlisted]
    exact ⟨(Still.refl s).stands rfl, _, rfl⟩

theorem hangup_removes (hs : d.Sound s) (hname : d.name s = d.callId)
    (hin : s.calls.get? d.callId = some d.ref) :
    (RadioHAL.hangup d.index).Meets (d.contract .remover) d.Removed s s := by
  refine Coro.meets_get_bind.mpr ?_
  rw [hs.find_index.1 ((hs.named hname).2 (Dict.mem_keys_of_get? hin))]
  refine Coro.meets_bind.mpr (Coro.meets_get_bind.mpr ?_)
  rw [show (s.radio.voice d.voice).sipCallId = d.callId from hname]
  refine when_meets.mpr ⟨fun _ => ignore_meets.mpr (hangupCall_removes hs hname hin ?_),
    fun hno => absurd ⟨hs.callManager, hs.callId⟩ hno⟩
  intro s₁ s₂ b hr h₁₂ hlisted
  have hindicate := Still.indicate (Sound.dropped d s₂) 1001
  have hdrop := hr.drop.trans hindicate.onward
  have hoff : ¬d.Listed ((Sound.dropped d s₂).modifyRadio (RadioHAL.indicate 1001)) :=
    mt hindicate.listed.mp hr.sound.dropped_off
  refine dropTail_meets hr.sound hlisted ⟨h₁₂.1.trans hdrop, h₁₂.2.trans (hr.guar hdrop).2⟩ ?_
  intro s₃ hrely
  exact ⟨⟨Onward.refl s₃, Calm.refl s₃⟩, ⟨_, rfl⟩, (hrely (hr.onward hdrop).sound).2.off hoff⟩

/-! ### `dial` -/

/-- The voice call has no Call-ID yet, and the manager holds the call, whose media depend on `m`. -/
structure Inviting (d : Dialed) (m : Text × Option ℕ × ℕ × (Text × Text) × List MediaSession × Option ℕ)
    (s : Phone) : Prop where
  sound : d.Sound s
  name : d.name s = []
  listed : d.Listed s
  entry : s.calls.get? d.callId = some d.ref
  call : ∃ c, s.callHeap[d.ref]? = some c ∧ c.mediaPart = m
  started : s.started = true

namespace Inviting

variable {s' : Phone} {m m' : Text × Option ℕ × ℕ × (Text × Text) × List MediaSession × Option ℕ}

theorem unnamed (h : d.Inviting m s) : d.name s ≠ d.callId :=
  fun hname => h.sound.callId (hname.symm.trans h.name)

theorem rely (h : d.Inviting m s) (hr : (d.contract .dial).rely s s') : d.Inviting m s' := by
  obtain ⟨hs', hprogress⟩ := hr.1 h.sound
  have hsame := hr.2 h.name
  obtain ⟨c, hc, hm⟩ := h.call
  obtain ⟨c', hc', hpart⟩ := hsame.call c hc
  exact ⟨hs', hsame.name, hsame.listed.mpr h.listed, hsame.entry.trans h.entry,
    ⟨c', hc', hpart.trans hm⟩, hprogress.started.trans h.started⟩

theorem guar (h : d.Inviting m s) (h' : d.Inviting m' s')
    (hclient : ∀ client ∈ s.sipClient, ∃ client' ∈ s'.sipClient, client.SameRequests client') :
    (d.contract .dial).guar s s' := by
  have hprogress : d.Progress s s' :=
    .of_unnamed (h'.started.trans h.started.symm) hclient h.unnamed h.listed
  exact ⟨fun _ => ⟨h'.sound, hprogress⟩, fun hname => absurd hname h'.unnamed⟩

theorem still (h : d.Inviting m s) (hstill : Still s s') : d.Inviting m s' := by
  obtain ⟨c, hc, hm⟩ := h.call
  obtain ⟨c', hc', hpart⟩ := hstill.symm_call hc
  exact ⟨hstill.sound h.sound, hstill.name.trans h.name, hstill.listed.mpr h.listed,
    by rw [hstill.calls, h.entry], ⟨c', hc', hpart.trans hm⟩, hstill.started.trans h.started⟩

theorem modifyCall (h : d.Inviting m s)
    (m' : Text × Option ℕ × ℕ × (Text × Text) × List MediaSession × Option ℕ) {f : VoLTECall → VoLTECall}
    (hf : ∀ c, c.mediaPart = m → (f c).mediaPart = m') (hid : m'.1 = d.callId) :
    d.Inviting m' (s.modifyCall d.ref f) := by
  obtain ⟨c, hc, hm⟩ := h.call
  have hself : (s.modifyCall d.ref f).callHeap[d.ref]? = some (f c) := by
    rw [Phone.modifyCall_callHeap, List.getElem?_modify_eq, hc]
    rfl
  have hs := h.sound
  refine ⟨⟨hs.callId, hs.radioHal, hs.callManager, hs.client, hs.there, hs.index, hs.others, hs.once,
    hs.entry, fun ref c' hc' hid' => ?_, fun c' hc' => ?_, hs.name, fun hname => absurd hname h.unnamed,
    fun hname => absurd hname h.unnamed, fun hname => absurd hname h.unnamed⟩,
    h.name, h.listed, h.entry, ⟨f c, hself, hf c hm⟩, h.started⟩
  · by_cases href : d.ref = ref
    · exact href.symm
    · rw [Phone.modifyCall_callHeap, List.getElem?_modify_ne _ _ href] at hc'
      exact hs.calls ref c' hc' hid'
  · obtain rfl := Option.some.inj (hself.symm.trans hc')
    exact (congrArg Prod.fst (hf c hm)).trans hid

end Inviting

/-- The outcome of `dial`: the call has a Call-ID, or nothing is left of it. -/
structure Done (d : Dialed) (s : Phone) : Prop where
  sound : d.Sound s
  named : d.name s = d.callId ∨ d.name s = [] ∧ ¬d.Listed s ∧ ¬d.InTable s ∧
    ∀ c, s.callHeap[d.ref]? = some c → c.Silent

/-- `dial` has ended well. -/
def Finished (d : Dialed) {α : Type} (s₀ : Phone) (r : Except PyError α) (s : Phone) : Prop :=
  (d.contract .dial).guar s₀ s ∧ (∃ a, r = .ok a) ∧ d.Done s

section

variable {m : Text × Option ℕ × ℕ × (Text × Text) × List MediaSession × Option ℕ}

theorem updateCallState_dial {post : Phone → Except PyError Unit → Phone → Prop} (hs : d.Inviting m s)
    (h₀ : (d.contract .dial).guar s₀ s) (newState : CallState)
    (h : ∀ s₁ s', d.Inviting m s' → (d.contract .dial).guar s₁ s' → post s₁ (.ok ()) s') :
    (RadioHAL.updateCallState d.index newState).Meets (d.contract .dial) post s₀ s := by
  refine Coro.meets_get_bind.mpr ?_
  rw [hs.sound.find_index.1 hs.listed]
  have hstill := (Still.modifyVoice s d.voice newState).trans (Still.indicate _ 1001)
  refine Coro.meets_modify_bind.mpr (sendIndication_meets 1001 ?_ fun s' hrely => ?_)
  · exact ⟨h₀.1.trans hstill.onward, h₀.2.trans hstill.keepsEntry⟩
  · exact h s' s' ((hs.still hstill).rely hrely) ⟨Onward.refl s', KeepsEntry.refl s'⟩

/-- Media start, or do not: only the media session of the call can be active. -/
theorem startMedia_dial {post : Phone → Except PyError Unit → Phone → Prop} {i : Option ℕ} {port : ℕ}
    {sdp : Text × Text} (hs : d.Inviting (d.callId, i, port, sdp, [], none) s)
    (h₀ : (d.contract .dial).guar s₀ s) (hplay : Playable port sdp.1 sdp.2)
    (h : ∀ s₁ s' sessions media,
      d.Inviting (d.callId, i, port, sdp, sessions, media) s' → (d.contract .dial).guar s₁ s' →
      (∀ (n : ℕ) (session : MediaSession), sessions[n]? = some session → session.active = true →
        media = some n) → post s₁ (.ok ()) s') :
    (startMedia d.ref).Meets (d.contract .dial) post s₀ s := by
  obtain ⟨c, hc, hm⟩ := hs.call
  simp only [VoLTECall.mediaPart, Prod.mk.injEq] at hm
  obtain ⟨hid, -, rfl, rfl, hsessions, hmedia⟩ := hm
  have hnone : post s₀ (.ok ()) s := h s₀ s [] none hs h₀ fun n session hn => by simp at hn
  have hcall := Phone.call_eq hc
  refine startMedia_meets hnone (fun hno => ?_) fun remoteAddr payloadType => ?_
  · rw [hcall] at hno
    exact absurd hplay hno
  · rw [hcall]
    unfold openMedia
    rw [hsessions]
    let session : MediaSession := MediaSession.configure c.rtpPort remoteAddr c.codec payloadType {}
    have hadd := hs.modifyCall (d.callId, i, c.rtpPort, (c.remoteSdp, c.codec), [{}], none)
      (f := VoLTECall.addSession) (by
        intro c' hc'
        simp only [VoLTECall.mediaPart, VoLTECall.addSession, Prod.mk.injEq] at hc' ⊢
        obtain ⟨h₁, h₂, h₃, h₄, h₅, h₆⟩ := hc'
        exact ⟨h₁, h₂, h₃, h₄, by rw [h₅]; rfl, h₆⟩) rfl
    have hmodify : ∀ {s : Phone} {x : MediaSession} {f : MediaSession → MediaSession},
        d.Inviting (d.callId, i, c.rtpPort, (c.remoteSdp, c.codec), [x], none) s →
        d.Inviting (d.callId, i, c.rtpPort, (c.remoteSdp, c.codec), [f x], none)
          (s.modifyCall d.ref (VoLTECall.modifySession 0 f)) := by
      intro s x f hs
      refine hs.modifyCall _ (fun c' hc' => ?_) rfl
      simp only [VoLTECall.mediaPart, VoLTECall.modifySession, Prod.mk.injEq] at hc' ⊢
      obtain ⟨h₁, h₂, h₃, h₄, h₅, h₆⟩ := hc'
      exact ⟨h₁, h₂, h₃, h₄, by rw [h₅]; rfl, h₆⟩
    have hconfigure := hmodify (f := MediaSession.configure c.rtpPort remoteAddr c.codec payloadType) hadd
    have hguar := hs.guar hconfigure Still.same_client
    have hquiet : ∀ (n : ℕ) (x : MediaSession), [session][n]? = some x → x.active = true →
        (none : Option ℕ) = some n := by
      intro n x hx hactive
      have hmem := List.mem_singleton.mp (List.mem_of_getElem? hx)
      rw [hmem] at hactive
      cases hactive
    refine Coro.meets_modify_bind.mpr (Coro.meets_bind.mpr (Coro.meets_attempt.mpr ?_))
    refine Coro.meets_modify_bind.mpr (Coro.meets_await_bind.mpr ?_)
    refine ⟨⟨h₀.1.trans hguar.1, h₀.2.trans hguar.2⟩, fun s₁ hrely₁ _ => ?_⟩
    have h₁ := hconfigure.rely hrely₁
    have hrefl : ∀ s, (d.contract .dial).guar s s := fun s => ⟨Onward.refl s, KeepsEntry.refl s⟩
    split
    · exact h s₁ s₁ _ none h₁ (hrefl s₁) hquiet
    · refine Coro.meets_await_bind.mpr ⟨hrefl s₁, fun s₂ hrely₂ _ => ?_⟩
      have h₂ := h₁.rely hrely₂
      split
      · exact h s₂ s₂ _ none h₂ (hrefl s₂) hquiet
      · have hactive := hmodify (f := MediaSession.setActive true) h₂
        have hset := hactive.modifyCall (d.callId, i, c.rtpPort, (c.remoteSdp, c.codec),
          [session.setActive true], some 0) (f := VoLTECall.setMediaSession (some 0)) (by
            intro c' hc'
            simp only [VoLTECall.mediaPart, VoLTECall.setMediaSession, Prod.mk.injEq] at hc' ⊢
            obtain ⟨h₁, h₂, h₃, h₄, h₅, -⟩ := hc'
            exact ⟨h₁, h₂, h₃, h₄, h₅, trivial⟩) rfl
        refine h s₂ _ _ (some 0) hset (h₂.guar hset Still.same_client) ?_
        intro n x hx _
        have hn := (List.getElem?_eq_some_iff.mp hx).1
        simp only [List.length_singleton] at hn
        rw [Nat.lt_one_iff.mp hn]

theorem finishInvite_dial {post : Phone → Except PyError (Option Text) → Phone → Prop}
    {i : Option ℕ} {port : ℕ} {sdp : Text × Text} {msg : SIPMessage}
    (hs : d.Inviting (d.callId, i, port, sdp, [], none) s) (h₀ : (d.contract .dial).guar s₀ s)
    (hok : msg.statusCode = some 200) (hplay : Playable port (decodeUtf8 msg.body)
      (extractCodecFromSdp (decodeUtf8 msg.body)))
    (h : ∀ s₁ s' m, d.Inviting m s' → (d.contract .dial).guar s₁ s' →
      (∀ c : VoLTECall, c.mediaPart = m → c.Tuned) → post s₁ (.ok (some d.callId)) s') :
    (finishInvite d.ref d.index d.callId msg).Meets (d.contract .dial) post s₀ s := by
  unfold finishInvite
  rw [if_pos hok]
  have hconnect := hs.modifyCall (d.callId, i, port,
    (decodeUtf8 msg.body, extractCodecFromSdp (decodeUtf8 msg.body)), [], none)
    (f := VoLTECall.connect msg.body) (by
      intro c hc
      simp only [VoLTECall.mediaPart, VoLTECall.connect, VoLTECall.setState, Prod.mk.injEq] at hc ⊢
      exact ⟨hc.1, hc.2.1, hc.2.2.1, trivial, hc.2.2.2.2⟩) rfl
  have hguar := hs.guar hconnect Still.same_client
  have hack := Still.ack (s.modifyCall d.ref (VoLTECall.connect msg.body)) d.ref
  refine Coro.meets_modify_bind.mpr (Coro.meets_modify_bind.mpr (Coro.meets_get_bind.mpr ?_))
  have hs' := hconnect.still hack
  have h₀' : (d.contract .dial).guar s₀ _ := ⟨(h₀.1.trans hguar.1).trans hack.onward,
    (h₀.2.trans hguar.2).trans hack.keepsEntry⟩
  refine Coro.meets_bind.mpr (when_meets.mpr ⟨fun _ => ?_, fun hno => absurd hs'.sound.radioHal hno⟩)
  refine updateCallState_dial hs' h₀' .active fun s₁ s₂ hs₂ h₁₂ => ?_
  have hcount : Still s₂ ((s₂.countActive).countCall ((s₂.countActive).call d.ref).codec) :=
    Still.of_eq rfl rfl rfl Still.same_client rfl rfl
  refine Coro.meets_modify_bind.mpr (Coro.meets_modify_bind.mpr (Coro.meets_bind.mpr ?_))
  refine startMedia_dial (hs₂.still hcount) ⟨h₁₂.1.trans hcount.onward, h₁₂.2.trans hcount.keepsEntry⟩
    hplay fun s₃ s₄ sessions media hs₄ h₃₄ htuned => ?_
  refine h s₃ s₄ _ hs₄ h₃₄ fun c hc n session hn hactive => ?_
  simp only [VoLTECall.mediaPart, Prod.mk.injEq] at hc
  obtain ⟨-, -, -, -, rfl, rfl⟩ := hc
  exact htuned n session hn hactive

end

/-- The voice call has no Call-ID, and the manager does not hold the call, which it has not made yet
or has given up. -/
structure Unheld (d : Dialed) (s : Phone) : Prop where
  sound : d.Sound s
  name : d.name s = []
  listed : d.Listed s
  gone : ¬d.InTable s
  silent : ∀ c, s.callHeap[d.ref]? = some c → c.Silent

theorem dialFailed {result : RadioHAL.Result} (hs : d.Unheld s) (h₀ : (d.contract .dial).guar s₀ s) :
    (do
      RadioHAL.removeVoice d.voice
      RadioHAL.sendIndication 1001
      return result : Async RadioHAL.Result).Meets (d.contract .dial) d.Finished s₀ s := by
  have hunnamed : d.name s ≠ d.callId := fun hname => hs.sound.callId (hname.symm.trans hs.name)
  have hdrop := hs.sound.drop fun hname => absurd hname hunnamed
  have hindicate := Still.indicate (Sound.dropped d s) 1001
  have hguar : (d.contract .dial).guar s ((Sound.dropped d s).modifyRadio (RadioHAL.indicate 1001)) :=
    ⟨fun _ => ⟨hindicate.sound hdrop, hs.sound.drop_progress.trans hindicate.progress⟩,
      fun hname => absurd hname hunnamed⟩
  refine dropTail_meets hs.sound hs.listed ⟨h₀.1.trans hguar.1, h₀.2.trans hguar.2⟩ fun s' hrely => ?_
  have hsame := hrely.2 hs.name
  have hoff : ¬d.Listed ((Sound.dropped d s).modifyRadio (RadioHAL.indicate 1001)) :=
    mt hindicate.listed.mp hs.sound.dropped_off
  refine ⟨⟨Onward.refl s', KeepsEntry.refl s'⟩, ⟨_, rfl⟩, (hrely.1 (hindicate.sound hdrop)).1,
    Or.inr ⟨hsame.name, mt hsame.listed.mp hoff, fun hmem => hs.gone ?_, fun c hc => ?_⟩⟩
  · obtain ⟨ref, href⟩ := (Dict.mem_keys_iff _ _).mp hmem
    exact Dict.mem_keys_of_get? (hsame.entry.symm.trans href)
  · have hlt : d.ref < s.callHeap.length := by
      have hlt' := (List.getElem?_eq_some_iff.mp hc).1
      rwa [hsame.length] at hlt'
    obtain ⟨c', hc', hpart⟩ := hsame.call _ (List.getElem?_eq_getElem hlt)
    obtain rfl := Option.some.inj (hc.symm.trans hc')
    exact (hs.silent _ (List.getElem?_eq_getElem hlt)).of_sessions (VoLTECall.mediaPart_eq hpart).2.2.2.2.1

/-- The INVITE has not been answered with 200: the entry goes. -/
theorem Inviting.fail {i : Option ℕ} {port : ℕ} {sdp : Text × Text}
    {post : Phone → Except PyError (Option Text) → Phone → Prop}
    (hs : d.Inviting (d.callId, i, port, sdp, [], none) s) (h₀ : (d.contract .dial).guar s₀ s)
    (h : ∀ s', d.Unheld s' → (d.contract .dial).guar s₀ s' → post s₀ (.ok none) s') :
    (do
      delCall d.callId
      return none : Async (Option Text)).Meets (d.contract .dial) post s₀ s := by
  refine Coro.meets_bind.mpr (Coro.meets_get_bind.mpr ?_)
  rw [if_pos (Dict.mem_keys_of_get? hs.entry)]
  have hgone : ¬d.InTable (s.delCall d.callId) := fun hmem => ((Dict.mem_keys_erase _ _ _).mp hmem).1 rfl
  have hsound := hs.sound
  have hdel : d.Sound (s.delCall d.callId) :=
    ⟨hsound.callId, hsound.radioHal, hsound.callManager, hsound.client, hsound.there, hsound.index,
      hsound.others, hsound.once, fun ref href => absurd (Dict.mem_keys_of_get? href) hgone,
      hsound.calls, hsound.own, hsound.name, fun hname => absurd hname hs.unnamed, hsound.made,
      fun hname => absurd hname hs.unnamed⟩
  refine h _ ⟨hdel, hs.name, hs.listed, hgone, fun c hc => ?_⟩ ⟨h₀.1.trans fun _ => ⟨hdel, ?_⟩, h₀.2.trans ?_⟩
  · obtain ⟨c', hc', hm⟩ := hs.call
    obtain rfl := Option.some.inj (hc.symm.trans hc')
    simp only [VoLTECall.mediaPart, Prod.mk.injEq] at hm
    intro session hsession
    rw [hm.2.2.2.2.1] at hsession
    cases hsession
  · exact ⟨rfl, Still.same_client, id, fun hname => absurd hname hs.unnamed, id⟩
  · exact fun hname => absurd hname hs.unnamed

section

variable {s₁ : Phone} {c : VoLTECall}

theorem Unheld.invited (hs : d.Unheld s) (hinvited : VoLTECallManager.Invited s s₁ c)
    (hid : inviteCallId s = d.callId) (href : s.callHeap.length = d.ref) {client : Session}
    (hclient : s.sipClient = some client) (hstarted : s.started = true) : d.Inviting
      (d.callId, some client.calls.length, c.rtpPort, (c.remoteSdp, c.codec), [], none) s₁ := by
  have hsound := hs.sound
  have hself : s₁.callHeap[d.ref]? = some c := by
    rw [hinvited.heap, ← href, List.getElem?_concat_length]
  have hname₁ : d.name s₁ = [] := by
    rw [Dialed.name, hinvited.radio]
    exact hs.name
  have hunnamed₁ : d.name s₁ ≠ d.callId := fun hname => hsound.callId (hname.symm.trans hname₁)
  have hentry : s₁.calls.get? d.callId = some d.ref := by
    rw [hinvited.calls, hid, href, Dict.get?_set_self]
  refine ⟨⟨hsound.callId, hinvited.radioHal.trans hsound.radioHal, ?_, ?_, ?_, ?_, ?_, ?_, ?_, ?_, ?_,
    Or.inl hname₁, fun hname => absurd hname hunnamed₁, fun hname => absurd hname hunnamed₁,
    fun hname => absurd hname hunnamed₁⟩, hname₁, ?_, hentry, ⟨c, hself, ?_⟩,
    hinvited.started.trans hstarted⟩
  · rw [hinvited.radio]
    exact hsound.callManager
  · rw [hinvited.started, hinvited.client]
    exact hsound.client
  · rw [hinvited.radio]
    exact hsound.there
  · rw [hinvited.radio]
    exact hsound.index
  · rw [hinvited.radio]
    exact hsound.others
  · rw [hinvited.radio]
    exact hsound.once
  · exact fun ref href' => Option.some.inj (href'.symm.trans hentry)
  · intro ref x hx hxid
    rw [hinvited.heap] at hx
    rcases Phone.eq_or_of_append hx with hx | ⟨rfl, rfl⟩
    · exact hsound.calls ref x hx hxid
    · exact href
  · intro x hx
    obtain rfl := Option.some.inj (hself.symm.trans hx)
    exact hinvited.sipCallId.trans hid
  · rw [Listed, hinvited.radio]
    exact hs.listed
  · simp only [VoLTECall.mediaPart, hinvited.sipCallId, hid, hinvited.inviteRequest, hclient,
      hinvited.media.1, hinvited.media.2, Option.map_some]

theorem Unheld.invited_guar (hs : d.Unheld s) (hinvited : VoLTECallManager.Invited s s₁ c)
    (hsound₁ : d.Sound s₁) : (d.contract .dial).guar s s₁ := by
  have hunnamed : d.name s ≠ d.callId := fun hname => hs.sound.callId (hname.symm.trans hs.name)
  have hunnamed₁ : d.name s₁ ≠ d.callId := by
    rw [Dialed.name, hinvited.radio]
    exact hunnamed
  have hclient : ∀ client ∈ s.sipClient, ∃ client' ∈ s₁.sipClient, client.SameRequests client' := by
    rw [hinvited.client]
    exact Still.same_client
  have hprogress : d.Progress s s₁ := .of_unnamed hinvited.started hclient hunnamed hs.listed
  exact ⟨fun _ => ⟨hsound₁, hprogress⟩, fun hname => absurd hname hunnamed₁⟩

end

theorem initiateCall_dial {post : Phone → Except PyError (Option Text) → Phone → Prop} (number : Text)
    (hs : d.Unheld s) (href : s.callHeap.length = d.ref) (hdraw : s.draw 0 = d.callId)
    (hnone : post s (.ok none) s)
    (hok : ∀ s₁ s' m, d.Inviting m s' → (d.contract .dial).guar s₁ s' →
      (∀ c : VoLTECall, c.mediaPart = m → c.Tuned) → post s₁ (.ok (some d.callId)) s')
    (hfail : ∀ s₁ s', d.Unheld s' → (d.contract .dial).guar s₁ s' → post s₁ (.ok none) s') :
    (initiateCall number d.index).Meets (d.contract .dial) post s s := by
  cases hstarted : s.started with
  | false =>
      refine Coro.meets_get_bind.mpr ?_
      rw [if_pos hstarted]
      exact hnone
  | true =>
      obtain ⟨client, hclient⟩ := Option.isSome_iff_exists.mp (hs.sound.client hstarted)
      refine initiateCall_meets number d.index hstarted fun args s₁ c hinvited _ => ?_
      have hid : inviteCallId s = d.callId := hdraw
      have hs₁ := hs.invited hinvited hid href hclient hstarted
      have hguar := hs.invited_guar hinvited hs₁.sound
      have hbegin := Still.beginRequest args s₁
      have hs₂ := hs₁.still hbegin
      rw [hid, href]
      refine onTimeout_meets.mpr (Coro.meets_bind.mpr (sendRequest_meets (hinvited.client.trans hclient)
        (fun h => h.1) ⟨hguar.1.trans hbegin.onward, hguar.2.trans hbegin.keepsEntry⟩ ?_))
      rintro s₃ r e hrely ⟨-, hresumes⟩ hreceived
      obtain ⟨hnot, husable, -⟩ := hresumes _ rfl
      have hs₃ := hs₂.rely hrely
      have hclient₃ := Still.modifyClient s₃ e
      have hs₄ := hs₃.still hclient₃
      have hguar₃ : (d.contract .dial).guar s₃ _ := ⟨hclient₃.onward, hclient₃.keepsEntry⟩
      have hfailed : (do
          delCall d.callId
          return none : Async (Option Text)).Meets (d.contract .dial) post s₃
          (s₃.modifyClient (Session.perform e)) := hs₄.fail hguar₃ fun s' => hfail s₃ s'
      cases hreceived with
      | @response msg hmsg =>
          by_cases hstatus : msg.statusCode = some 200
          · obtain ⟨c₃, hc₃, hm₃⟩ := hs₃.call
            simp only [VoLTECall.mediaPart, Prod.mk.injEq] at hm₃
            have hplay := (husable c₃ (List.mem_of_getElem? hc₃) hm₃.2.1).1 msg hmsg hstatus
            rw [hm₃.2.2.1] at hplay
            exact finishInvite_dial hs₄ hguar₃ hstatus hplay hok
          · show (finishInvite d.ref d.index d.callId msg).Meets (d.contract .dial)
              (handled (d.contract .dial) _ post) s₃ _
            unfold finishInvite
            rw [if_neg hstatus]
            exact hs₄.fail hguar₃ fun s' => hfail s₃ s'
      | timedOut m hnone _ => exact hfailed
      | crossed cid _ hcrossed => exact absurd hcrossed hnot

/-- A phone that can dial: its manager and its radio know each other, and the next index and the next
Call-ID are new to it. -/
structure Ready (s : Phone) : Prop where
  radioHal : s.radioHal = true
  callManager : s.radio.callManager = true
  client : s.started = true → s.sipClient.isSome
  valid : s.radio.Valid
  index : ∀ v ∈ s.radio.voiceCalls, (s.radio.voice v).index ≠ s.radio.nextCallIndex
  callId : s.draw 0 ≠ []
  newCallId : NewCallId s (s.draw 0)
  calls : ∀ c ∈ s.callHeap, c.sipCallId ≠ s.draw 0

theorem Ready.unheld (h : Ready s) (vc : VoiceCall) (hvc : vc.sipCallId = []) :
    (Dialed.of s).Unheld (s.modifyRadio (RadioHAL.append vc)) := by
  have hself := RadioHAL.voice_append_self s.radio vc
  have hname : (Dialed.of s).name (s.modifyRadio (RadioHAL.append vc)) = [] :=
    (congrArg VoiceCall.sipCallId hself).trans hvc
  have hunnamed : (Dialed.of s).name (s.modifyRadio (RadioHAL.append vc)) ≠ s.draw 0 :=
    fun hid => h.callId (hid.symm.trans hname)
  have hnew : s.radio.voices.length ∉ s.radio.voiceCalls := fun hmem => (h.valid _ hmem).ne rfl
  have hheap : ∀ c, s.callHeap[s.callHeap.length]? ≠ some c := by simp
  refine ⟨⟨h.callId, h.radioHal, h.callManager, h.client, ?_, congrArg VoiceCall.index hself, ?_, ?_,
    ?_, ?_, fun c hc => absurd hc (hheap c), Or.inl hname, fun hid => absurd hid hunnamed,
    fun hid => absurd hid hunnamed, fun hid => absurd hid hunnamed⟩, hname, ?_, h.newCallId.1,
    fun c hc => absurd hc (hheap c)⟩
  · show s.radio.voices.length < (s.radio.voices ++ [_]).length
    simp
  · intro v hv hne
    have hmem : v ∈ s.radio.voiceCalls := by
      rcases List.mem_append.mp hv with hv | hv
      · exact hv
      · exact absurd (List.mem_singleton.mp hv) hne
    rw [show (s.modifyRadio (RadioHAL.append vc)).radio.voice v = s.radio.voice v from
      RadioHAL.voice_append_left (h.valid v hmem)]
    exact ⟨h.index v hmem, h.newCallId.2 v hmem⟩
  · show (s.radio.voiceCalls ++ [s.radio.voices.length]).count s.radio.voices.length ≤ 1
    rw [List.count_append, List.count_eq_zero_of_not_mem hnew, List.count_singleton_self]
  · exact fun ref href => absurd (Dict.mem_keys_of_get? href) h.newCallId.1
  · exact fun ref c hc hid => absurd hid (h.calls c (List.mem_of_getElem? hc))
  · exact List.mem_append_right _ (List.mem_singleton.mpr rfl)

theorem Inviting.connect {m : Text × Option ℕ × ℕ × (Text × Text) × List MediaSession × Option ℕ}
    (hs : d.Inviting m s) (h₀ : (d.contract .dial).guar s₀ s)
    (htuned : ∀ c : VoLTECall, c.mediaPart = m → c.Tuned) :
    (d.contract .dial).guar s₀
        (s.modifyRadio (RadioHAL.modifyVoice d.voice (VoiceCall.setSipCallId d.callId))) ∧
      d.Done (s.modifyRadio (RadioHAL.modifyVoice d.voice (VoiceCall.setSipCallId d.callId))) := by
  obtain ⟨s', hs'⟩ : ∃ s', s' =
    s.modifyRadio (RadioHAL.modifyVoice d.voice (VoiceCall.setSipCallId d.callId)) := ⟨_, rfl⟩
  have hsound := hs.sound
  have hvoice : ∀ v, s'.radio.voice v = if d.voice = v ∧ v < s.radio.voices.length then
      (s.radio.voice v).setSipCallId d.callId else s.radio.voice v := by
    intro v
    rw [hs']
    exact RadioHAL.voice_modifyVoice _ _ _ _
  have hname : d.name s' = d.callId := by
    rw [Dialed.name, hvoice, if_pos ⟨rfl, hsound.there⟩]
    rfl
  have hin : d.InTable s' := by
    rw [hs']
    exact Dict.mem_keys_of_get? hs.entry
  obtain ⟨c, hc, hm⟩ := hs.call
  have hdone : d.Sound s' := by
    refine ⟨hsound.callId, ?_, ?_, ?_, ?_, ?_, ?_, ?_, ?_, ?_, ?_, Or.inr hname, fun _ => ⟨?_, fun _ => ?_⟩,
      fun _ => ?_, fun _ x hx => ⟨?_, fun hgone => absurd hin hgone⟩⟩
    · rw [hs']
      exact hsound.radioHal
    · rw [hs']
      exact hsound.callManager
    · rw [hs']
      exact hsound.client
    · rw [hs']
      show d.voice < (s.radio.voices.modify _ _).length
      rw [List.length_modify]
      exact hsound.there
    · rw [hvoice, if_pos ⟨rfl, hsound.there⟩]
      exact hsound.index
    · intro v hv hne
      rw [hvoice, if_neg fun h => hne h.1.symm]
      rw [hs'] at hv
      exact hsound.others v hv hne
    · rw [hs']
      exact hsound.once
    · rw [hs']
      exact hsound.entry
    · rw [hs']
      exact hsound.calls
    · rw [hs']
      exact hsound.own
    · rw [hs']
      exact hs.started
    · rw [hs']
      exact hs.listed
    · rw [hs']
      exact (List.getElem?_eq_some_iff.mp hc).1
    · rw [hs'] at hx
      obtain rfl := Option.some.inj (hc.symm.trans hx)
      exact htuned c hm
  rw [← hs']
  refine ⟨⟨h₀.1.trans fun _ => ⟨hdone, ?_⟩, h₀.2.trans fun _ hgone => absurd hin hgone⟩, hdone, Or.inl hname⟩
  refine ⟨?_, ?_, fun hid => absurd hid hs.unnamed, fun hid => absurd hid hs.unnamed,
    fun hoff => absurd hs.listed hoff⟩
  · rw [hs']
    rfl
  · rw [hs']
    exact Still.same_client

/-- **`dial` by itself.** -/
theorem dial_finishes (number : Text) (h : Ready s) :
    (RadioHAL.dial number).Meets ((Dialed.of s).contract .dial) (Dialed.of s).Finished s s := by
  have hnew : ∀ {s' : Phone}, ¬(Dialed.of s).Sound s → (Dialed.of s).name s' = [] →
      ((Dialed.of s).contract .dial).guar s s' := by
    intro s' hno hname
    exact ⟨fun hs => absurd hs hno, fun hid => absurd (hid.symm.trans hname) h.callId⟩
  have hno : ¬(Dialed.of s).Sound s := fun hs => Nat.lt_irrefl _ hs.there
  refine Coro.meets_get_bind.mpr (Coro.meets_modify_bind.mpr (Coro.meets_bind.mpr ?_))
  have hunheld := h.unheld { state := .dialing, isMt := false, number := number } rfl
  have hindicate := Still.indicate (s.modifyRadio (RadioHAL.append
    { state := .dialing, isMt := false, number := number })) 1001
  have hname := hindicate.name.trans hunheld.name
  refine sendIndication_meets 1001 (hnew hno hname) fun s₁ hrely => ?_
  have hs₁ := (hrely.1 (hindicate.sound hunheld.sound)).1
  have hsame := hrely.2 hname
  have hlength : s₁.callHeap.length = s.callHeap.length := hsame.length
  have hunheld₁ : (Dialed.of s).Unheld s₁ := by
    refine ⟨hs₁, hsame.name, hsame.listed.mpr (hindicate.listed.mpr hunheld.listed), fun hmem => ?_,
      fun c hc => ?_⟩
    · obtain ⟨ref, href⟩ := (Dict.mem_keys_iff _ _).mp hmem
      exact hunheld.gone (Dict.mem_keys_of_get? (hsame.entry.symm.trans href))
    · have hlt := (List.getElem?_eq_some_iff.mp hc).1
      rw [hlength] at hlt
      exact absurd hlt (Nat.lt_irrefl _)
  refine Coro.meets_get_bind.mpr ?_
  rw [if_pos hs₁.callManager]
  refine Coro.meets_bind.mpr (initiateCall_dial number hunheld₁ hlength hsame.draw ?_ ?_ ?_)
  · exact dialFailed hunheld₁ ⟨Onward.refl s₁, KeepsEntry.refl s₁⟩
  · intro s₂ s₃ m hs₃ h₂₃ htuned
    obtain ⟨hguar, hdone⟩ := hs₃.connect h₂₃ htuned
    exact ⟨hguar, ⟨_, rfl⟩, hdone⟩
  · exact fun s₂ s₃ hs₃ h₂₃ => dialFailed hs₃ h₂₃

/-! ### Runs -/

/-- What is going on next to `dial`: responses and BYEs come in for the call, and it is hung up. -/
def DialTraffic (d : Dialed) (p : PhonePool) : PhoneEvent → Prop
  | .spawn op => (∃ msg ∈ incomingMessage (.spawn op), msg.callId = d.callId ∧
      p.state.sipClient.isSome ∧
      (msg.statusCode.isSome ∨ msg.statusCode = none ∧ msg.method = some "BYE".toList)) ∨
    op = .hangup d.index
  | _ => True

instance (d : Dialed) (p : PhonePool) (e : PhoneEvent) : Decidable (DialTraffic d p e) :=
  match e with
  | .spawn op => inferInstanceAs (Decidable ((∃ msg ∈ incomingMessage (.spawn op), _) ∨ _))
  | .resume _ => isTrue trivial
  | .outside _ => isTrue trivial

/-- No operation comes before its time.  No BYE comes in for a call that the manager holds, and no
voice call is hung up, before the voice call has its Call-ID; a BYE of the phone is answered while
the voice call is in the list; no response crosses the time-out of a request, and the 200 has an SDP that
can be worked with. -/
def Orderly (d : Dialed) (p : PhonePool) : PhoneEvent → Prop
  | .spawn op =>
      (∀ msg ∈ incomingMessage (.spawn op), msg.statusCode = none → d.InTable p.state →
        ∃ v ∈ p.state.radio.voiceCalls, (p.state.radio.voice v).sipCallId = d.callId) ∧
      (op = .hangup d.index → ∀ v ∈ p.state.radio.voiceCalls,
        (p.state.radio.voice v).index = d.index → (p.state.radio.voice v).sipCallId ≠ [])
  | e => ∀ i ∈ p.resumedRequest e, ¬p.state.Crossed i ∧ p.state.Usable i ∧ p.state.ByeListed i

instance (d : Dialed) (p : PhonePool) (e : PhoneEvent) : Decidable (Orderly d p e) :=
  match e with
  | .spawn op => inferInstanceAs (Decidable ((∀ msg ∈ incomingMessage (.spawn op), _) ∧ (_ → _)))
  | .resume n => inferInstanceAs (Decidable (∀ i ∈ p.resumedRequest (.resume n), _))
  | .outside i => inferInstanceAs (Decidable (∀ _ ∈ p.resumedRequest (.outside i), _))

/-- What a method that has ended leaves behind. -/
def Outcome (d : Dialed) (role : Role) (r : Except PyError OperationResult) (s : Phone) : Prop :=
  (∃ a, r = .ok a) ∧
    match role with
    | .dial => d.Done s
    | .bystander => True
    | .remover => ¬d.Listed s

theorem Operation.meets {α : Type} {K : Contract Phone Await} {c : Async α} {f : α → OperationResult}
    {post : Phone → Except PyError α → Phone → Prop}
    {post' : Phone → Except PyError OperationResult → Phone → Prop} (h : c.Meets K post s₀ s)
    (hpost : ∀ s₁ r s', post s₁ r s' → ∃ a, r = .ok a ∧ post' s₁ (.ok (f a)) s') :
    (c >>= fun a => (pure (f a) : Async OperationResult)).Meets K post' s₀ s := by
  refine Coro.meets_bind.mpr (h.mono fun s₁ r s' hr => ?_)
  obtain ⟨a, rfl, hpost'⟩ := hpost s₁ r s' hr
  exact hpost'

theorem contract_onward {role : Role} {s s' : Phone} (h : (d.contract role).guar s s') :
    d.Onward s s' := by
  cases role <;> exact h.1

theorem contract_calm {role : Role} {s s' : Phone} (hrole : role ≠ .dial)
    (h : (d.contract role).guar s s') : d.Calm s s' := by
  cases role with
  | dial => exact absurd rfl hrole
  | bystander => exact h.2.1
  | remover => exact h.2

theorem contract_keepsEntry {role : Role} {s s' : Phone} (hrole : role ≠ .remover)
    (h : (d.contract role).guar s s') : d.KeepsEntry s s' := by
  cases role with
  | dial => exact h.2
  | bystander => exact h.2.2
  | remover => exact absurd rfl hrole

/-- **Every operation next to `dial` is a bystander or a remover.** -/
theorem spawn_meets {p : PhonePool} {op : Operation} (hs : d.Sound p.state)
    (htraffic : DialTraffic d p (.spawn op)) (hcond : Orderly d p (.spawn op)) :
    ∃ role : Role, role ≠ .dial ∧ op.run.Meets (d.contract role)
      (fun s₀ r s => (d.contract role).guar s₀ s ∧ d.Outcome role r s) p.state p.state := by
  have hstood : ∀ {α : Type} (f : α → OperationResult) s₁ (r : Except PyError α) s', d.Stood s₁ r s' →
      ∃ a, r = .ok a ∧ (d.contract .bystander).guar s₁ s' ∧ d.Outcome .bystander (.ok (f a)) s' := by
    rintro α f s₁ r s' ⟨hguar, a, rfl⟩
    exact ⟨a, rfl, hguar, ⟨_, rfl⟩, trivial⟩
  have hremoved : ∀ {α : Type} (f : α → OperationResult) s₁ (r : Except PyError α) s',
      d.Removed s₁ r s' →
      ∃ a, r = .ok a ∧ (d.contract .remover).guar s₁ s' ∧ d.Outcome .remover (.ok (f a)) s' := by
    rintro α f s₁ r s' ⟨hguar, ⟨a, rfl⟩, hoff⟩
    exact ⟨a, rfl, hguar, ⟨_, rfl⟩, hoff⟩
  have hentry : d.InTable p.state → p.state.calls.get? d.callId = some d.ref := by
    intro hin
    obtain ⟨ref, href⟩ := (Dict.mem_keys_iff _ _).mp hin
    rwa [hs.entry ref href] at href
  rcases htraffic with ⟨msg, hmsg, hid, hclient, hkind⟩ | rfl
  · cases op with
    | incoming msg' addr =>
        obtain rfl := Option.some.inj hmsg
        rcases hkind with hstatus | ⟨hstatus, hbye⟩
        · obtain ⟨code, hcode⟩ := Option.isSome_iff_exists.mp hstatus
          refine ⟨.bystander, nofun, Operation.meets ?_ (hstood fun _ => .none)⟩
          unfold handleIncomingSip
          rw [hcode]
          exact handleResponse_stands msg' code hclient
        · have hrun : handleIncomingSip msg' addr = handleIncomingBye msg' addr := by
            unfold handleIncomingSip
            rw [hstatus]
            simp only [hbye]
            exact if_neg (by decide)
          by_cases hin : d.InTable p.state
          · have hname : d.name p.state = d.callId := by
              obtain ⟨v, hv, hvid⟩ := hcond.1 msg' rfl hstatus hin
              by_contra hne
              refine (hs.others v hv ?_).2 hvid
              rintro rfl
              exact hne hvid
            refine ⟨.remover, nofun, Operation.meets ?_ (hremoved fun _ => .none)⟩
            rw [hrun]
            exact handleIncomingBye_removes addr hid hs hname (hentry hin)
          · refine ⟨.bystander, nofun, Operation.meets ?_ (hstood fun _ => .none)⟩
            rw [hrun]
            exact handleIncomingBye_stands addr hid hin
    | _ => cases hmsg
  · have hnamed : d.Listed p.state → d.name p.state = d.callId := fun hlisted =>
      hs.name.resolve_left (hcond.2 rfl d.voice hlisted hs.index)
    by_cases hin : d.name p.state = d.callId ∧ d.InTable p.state
    · exact ⟨.remover, nofun, Operation.meets (hangup_removes hs hin.1 (hentry hin.2))
        (hremoved OperationResult.radio)⟩
    · refine ⟨.bystander, nofun, Operation.meets (hangup_stands hs fun hlisted => ?_)
        (hstood OperationResult.radio)⟩
      exact ⟨hnamed hlisted, fun htable => hin ⟨hnamed hlisted, htable⟩⟩

/-- What holds throughout a run: every method keeps the contract of its role, the first is `dial`, and
who has taken a named call out of the table is a remover. -/
structure Goes (d : Dialed) (ks : List Role) (p : PhonePool) : Prop where
  kept : EventLoop.Kept d.contract d.Outcome ks p
  sound : d.Sound p.state
  dial : ∀ n, ks[n]? = some .dial ↔ n = 0
  removed : d.name p.state = d.callId → ¬d.InTable p.state → Role.remover ∈ ks

theorem Outcome.stays {role : Role} {r : Except PyError OperationResult} {s s' : Phone}
    (h : d.Outcome role r s) (hs : d.Sound s) (honward : d.Onward s s')
    (hcalm : role = .dial → d.Calm s s') : d.Outcome role r s' := by
  obtain ⟨hs', hprogress⟩ := honward hs
  refine ⟨h.1, ?_⟩
  cases role with
  | dial =>
      refine ⟨hs', ?_⟩
      rcases h.2.named with hname | ⟨hname, hoff, hgone, hsilent⟩
      · exact Or.inl (hprogress.named hname)
      · have hsame := hcalm rfl hname
        refine Or.inr ⟨hsame.name, mt hsame.listed.mp hoff, fun hmem => ?_, fun c' hc' => ?_⟩
        · obtain ⟨ref, href⟩ := (Dict.mem_keys_iff _ _).mp hmem
          exact hgone (Dict.mem_keys_of_get? (hsame.entry.symm.trans href))
        · have hlt := (List.getElem?_eq_some_iff.mp hc').1
          rw [hsame.length] at hlt
          obtain ⟨c, hc, hpart⟩ := hsame.call _ (List.getElem?_eq_getElem hlt)
          obtain rfl := Option.some.inj (hc'.symm.trans hc)
          have hsessions := (VoLTECall.mediaPart_eq hpart).2.2.2.2.1
          exact (hsilent _ (List.getElem?_eq_getElem hlt)).of_sessions hsessions
  | bystander => trivial
  | remover => exact hprogress.off h.2

theorem Goes.step {ks : List Role} {p p' : PhonePool} {e : PhoneEvent} (hp : d.Goes ks p)
    (htraffic : DialTraffic d p e) (hcond : Orderly d p e) (h : p.step e = some p') :
    ∃ ks', d.Goes ks' p' := by
  have hstep := PhonePool.step_eq h
  obtain ⟨role, hrole, hspawn⟩ : ∃ role : Role, role ≠ .dial ∧ ∀ op, e = .spawn op →
      op.run.Meets (d.contract role)
        (fun s₀ r s => (d.contract role).guar s₀ s ∧ d.Outcome role r s) p.state p.state := by
    cases e with
    | spawn op =>
        obtain ⟨role, hrole, hmeets⟩ := spawn_meets hp.sound htraffic hcond
        refine ⟨role, hrole, fun op' heq => ?_⟩
        obtain rfl : op = op' := by injection heq
        exact hmeets
    | resume n => exact ⟨.bystander, nofun, fun op heq => by cases heq⟩
    | outside i => exact ⟨.bystander, nofun, fun op heq => by cases heq⟩
  have honward : EventLoop.Moves d.contract phoneLoop ks role p.state p'.state e →
      d.Onward p.state p'.state := by
    intro hmoves
    cases e with
    | spawn op => exact contract_onward hmoves
    | resume n =>
        obtain ⟨k, -, hguar⟩ := hmoves
        exact contract_onward hguar
    | outside i =>
        rw [Phone.expire_eq hmoves]
        exact (Still.modifyClient _ _).onward
  have hcalm : EventLoop.Moves d.contract phoneLoop ks role p.state p'.state e → e ≠ .resume 0 →
      d.Calm p.state p'.state := by
    intro hmoves hne
    cases e with
    | spawn op => exact contract_calm hrole hmoves
    | resume n =>
        obtain ⟨k, hk, hguar⟩ := hmoves
        refine contract_calm ?_ hguar
        rintro rfl
        exact hne (by rw [(hp.dial n).mp hk])
    | outside i =>
        rw [Phone.expire_eq hmoves]
        exact (Still.modifyClient _ _).calm rfl
  suffices hkept : EventLoop.Kept d.contract d.Outcome (EventLoop.labels ks role e) p' ∧
      EventLoop.Moves d.contract phoneLoop ks role p.state p'.state e by
    refine ⟨_, hkept.1, (honward hkept.2 hp.sound).1, ?_, ?_⟩
    · intro n
      cases e with
      | spawn op =>
          have hpos : 0 < ks.length := (List.getElem?_eq_some_iff.mp ((hp.dial 0).mpr rfl)).1
          show (ks ++ [role])[n]? = some .dial ↔ n = 0
          rw [List.getElem?_append]
          split_ifs with hn
          · exact hp.dial n
          · constructor
            · intro hlast
              have hmem := List.mem_singleton.mp (List.mem_of_getElem? hlast)
              exact absurd hmem.symm hrole
            · rintro rfl
              exact absurd hpos hn
      | resume m => exact hp.dial n
      | outside i => exact hp.dial n
    · -- who takes the entry away is a remover
      intro hname hgone
      have hbefore : d.KeepsEntry p.state p'.state → Role.remover ∈ ks :=
        fun hkeeps => hp.removed (hkeeps hname hgone).1 (hkeeps hname hgone).2
      cases e with
      | spawn op =>
          by_cases hremover : role = .remover
          · exact List.mem_append_right _ (List.mem_singleton.mpr hremover.symm)
          · exact List.mem_append_left _ (hbefore (contract_keepsEntry hremover hkept.2))
      | resume n =>
          obtain ⟨k, hk, hguar⟩ := hkept.2
          by_cases hremover : k = .remover
          · exact hremover ▸ List.mem_of_getElem? hk
          · exact hbefore (contract_keepsEntry hremover hguar)
      | outside i =>
          refine hbefore ?_
          rw [Phone.expire_eq hkept.2]
          exact (Still.modifyClient _ _).keepsEntry
  refine EventLoop.Kept.step (k := role) hspawn ?_ ?_ hp.kept hstep
  · rintro n w c k rfl htask - hready
    have hresumes : Resumes w p.state := by
      refine ⟨hready, ?_⟩
      rintro i rfl
      refine hcond i ?_
      unfold PhonePool.resumedRequest
      simp only
      rw [htask]
      rfl
    cases k with
    | dial => exact ⟨⟨Onward.refl _, Calm.refl _⟩, hresumes⟩
    | bystander => exact ⟨Onward.refl _, hresumes⟩
    | remover => exact ⟨Onward.refl _, hresumes⟩
  · intro n k c hne hk _ hmoves
    have hdial : k = .dial → d.Calm p.state p'.state := by
      rintro rfl
      refine hcalm hmoves ?_
      rw [(hp.dial n).mp hk] at hne
      exact hne
    refine ⟨fun _ r hr => hr.stays hp.sound (honward hmoves) hdial, fun _ => ?_⟩
    cases k with
    | dial => exact ⟨honward hmoves, hdial rfl⟩
    | bystander => exact honward hmoves
    | remover => exact honward hmoves

/-- The voice call is in the list if and only if the manager holds the call, it is named after the call,
and no media run for a call that the manager does not hold. -/
structure NoOrphan (d : Dialed) (s : Phone) : Prop where
  listed : (∃ v ∈ s.radio.voiceCalls, (s.radio.voice v).index = d.index) ↔ d.InTable s
  named : ∀ v ∈ s.radio.voiceCalls, (s.radio.voice v).index = d.index →
    (s.radio.voice v).sipCallId = d.callId
  silent : ¬d.InTable s → ∀ c ∈ s.callHeap, c.sipCallId = d.callId → c.Silent

theorem noOrphan_iff {s : Phone} : d.NoOrphan s ↔
    ((∃ v ∈ s.radio.voiceCalls, (s.radio.voice v).index = d.index) ↔ d.InTable s) ∧
      (∀ v ∈ s.radio.voiceCalls, (s.radio.voice v).index = d.index →
        (s.radio.voice v).sipCallId = d.callId) ∧
      (¬d.InTable s → ∀ c ∈ s.callHeap, c.sipCallId = d.callId → c.Silent) :=
  ⟨fun h => ⟨h.1, h.2, h.3⟩, fun h => ⟨h.1, h.2.1, h.2.2⟩⟩

instance (s : Phone) : Decidable (d.NoOrphan s) := decidable_of_iff' _ noOrphan_iff

theorem Goes.noOrphan {ks : List Role} {p : PhonePool} (hp : d.Goes ks p)
    (hended : ∀ c ∈ p.tasks, c.Ended) : d.NoOrphan p.state := by
  have houtcome : ∀ (n : ℕ) role, ks[n]? = some role → ∃ r, d.Outcome role r p.state := by
    intro n role hn
    have hlt : n < p.tasks.length :=
      List.Forall₂.length_eq hp.kept ▸ (List.getElem?_eq_some_iff.mp hn).1
    obtain ⟨role', hrole', hpromise⟩ := hp.kept.get (List.getElem?_eq_getElem hlt)
    obtain rfl := Option.some.inj (hn.symm.trans hrole')
    have hend := hended _ (List.getElem_mem hlt)
    cases hc : p.tasks[n] with
    | done r =>
        rw [hc] at hpromise
        exact ⟨r, hpromise.ended⟩
    | _ =>
        rw [hc] at hend
        exact hend.elim
  have hs := hp.sound
  have honly : ∀ v ∈ p.state.radio.voiceCalls, (p.state.radio.voice v).index = d.index →
      v = d.voice := by
    intro v hv hindex
    by_contra hne
    exact (hs.others v hv hne).1 hindex
  have hlisted : (∃ v ∈ p.state.radio.voiceCalls, (p.state.radio.voice v).index = d.index) ↔
      d.Listed p.state := by
    constructor
    · rintro ⟨v, hv, hindex⟩
      obtain rfl := honly v hv hindex
      exact hv
    · exact fun h => ⟨d.voice, h, hs.index⟩
  have hmine : ∀ c ∈ p.state.callHeap, c.sipCallId = d.callId → p.state.callHeap[d.ref]? = some c := by
    intro c hc hid
    obtain ⟨ref, href⟩ := List.mem_iff_getElem?.mp hc
    rwa [hs.calls ref c href hid] at href
  obtain ⟨r, -, hdone⟩ := houtcome 0 .dial ((hp.dial 0).mpr rfl)
  rcases hdone.named with hname | ⟨-, hoff, hgone, hsilent⟩
  · refine ⟨hlisted.trans ⟨fun hlisted => ?_, (hs.named hname).2⟩, ?_, fun hgone c hc hid => ?_⟩
    · by_contra hgone
      obtain ⟨n, hn⟩ := List.mem_iff_getElem?.mp (hp.removed hname hgone)
      obtain ⟨r', -, hoff⟩ := houtcome n .remover hn
      exact hoff hlisted
    · intro v hv hindex
      rw [honly v hv hindex]
      exact hname
    · exact (hs.media hname c (hmine c hc hid)).2 hgone
  · refine ⟨hlisted.trans ⟨fun h => absurd h hoff, fun h => absurd h hgone⟩, ?_, ?_⟩
    · exact fun v hv hindex => absurd (hlisted.mp ⟨v, hv, hindex⟩) hoff
    · exact fun _ c hc hid => hsilent c (hmine c hc hid)

end Dialed

open Dialed in
/-- **No orphan call or media.**  A call is dialed, and then responses and BYEs come in for it and it
is hung up, in any interleaving.  In a run in which nothing comes before its time, none of the
operations raises, and when all of them have ended there is no orphan. -/
theorem no_orphan {p p₀ p' : PhonePool} {number : Text} {es : List PhoneEvent} (htasks : p.tasks = [])
    (hready : Ready p.state) (hdial : p.step (.spawn (.dial number)) = some p₀)
    (hr : runFrom PhonePool.step p₀ es = some p')
    (htraffic : Along PhonePool.step (DialTraffic (Dialed.of p.state)) p₀ es)
    (hcond : Along PhonePool.step (Orderly (Dialed.of p.state)) p₀ es) :
    (∀ n r, p'.result n = some r → ∃ a, r = .ok a) ∧
      ((∀ c ∈ p'.tasks, c.Ended) → (Dialed.of p.state).NoOrphan p'.state) := by
  obtain ⟨d, hd⟩ : ∃ d, d = Dialed.of p.state := ⟨_, rfl⟩
  rw [← hd] at htraffic hcond ⊢
  have hstart : ∃ ks, d.Goes ks p₀ := by
    obtain ⟨hstate, htasks₀⟩ := EventLoop.step_spawn (PhonePool.step_eq hdial)
    have hunheld := hready.unheld { state := .dialing, isMt := false, number := number } rfl
    have hindicate := Still.indicate (p.state.modifyRadio (RadioHAL.append
      { state := .dialing, isMt := false, number := number })) 1001
    have heq : p₀.state = (p.state.modifyRadio (RadioHAL.append
      { state := .dialing, isMt := false, number := number })).modifyRadio (RadioHAL.indicate 1001) :=
      hstate
    rw [← hd] at hunheld
    have hsound : d.Sound p₀.state := heq ▸ hindicate.sound hunheld.sound
    have hname : d.name p₀.state = [] := heq ▸ hindicate.name.trans hunheld.name
    have hmeets : (Operation.dial number).run.Meets (d.contract .dial)
        (fun s₀ r s => (d.contract .dial).guar s₀ s ∧ d.Outcome .dial r s) p.state p.state := by
      refine Operation.meets (f := .radio) (hd ▸ dial_finishes number hready) ?_
      rintro s₁ r s' ⟨hguar, ⟨a, rfl⟩, hdone⟩
      exact ⟨a, rfl, hguar, ⟨_, rfl⟩, hdone⟩
    refine ⟨[.dial], ?_, hsound, fun n => ?_, fun h => absurd (h.symm.trans hname) hsound.callId⟩
    · unfold EventLoop.Kept
      rw [htasks₀, htasks, hstate]
      exact .cons hmeets.run.2 .nil
    · cases n with
      | zero => exact ⟨fun _ => rfl, fun _ => rfl⟩
      | succ n => exact ⟨nofun, nofun⟩
  obtain ⟨ks, hks⟩ : ∃ ks, d.Goes ks p' := by
    refine runFrom_invariant PhonePool.step (I := fun p => ∃ ks, d.Goes ks p) ?_ hstart
      (htraffic.and PhonePool.step hcond) hr
    rintro q e q' ⟨ks, hks⟩ ⟨he, he'⟩ h
    exact hks.step he he' h
  refine ⟨fun n r hresult => ?_, hks.noOrphan⟩
  obtain ⟨role, -, hpromise⟩ := hks.kept.get (PhonePool.tasks_of_result hresult)
  exact hpromise.ended.1

/-- The idle phone after `dial`. -/
def dialingPhone : PhonePool :=
  ((idlePhone {}).step (.spawn (.dial "1".toList))).getD (idlePhone {})

/-- The 200 for the INVITE, with an SDP. -/
def dialAnswered : Operation :=
  .incoming
    { statusCode := some 200
      headers := Dict.ofList [("Call-ID".toList, "0".toList)]
      body := encodeUtf8 "c=IN IP4 10.0.0.1\r\nm=audio 4000 RTP/AVP 0".toList }
    ("pcscf".toList, 5060)

/-- The call is answered, media run, and the other side hangs up: nothing is left of the call. -/
theorem no_orphan_answered : ∃ p', runFrom PhonePool.step dialingPhone
    [.resume 0, .spawn dialAnswered, .resume 0, .resume 0, .resume 0, .resume 0,
      .spawn (testMessage (some "BYE") none), .resume 2, .resume 2] = some p' ∧
    (Dialed.of (idlePhone {}).state).NoOrphan p'.state := by
  obtain ⟨p', hr, hended⟩ : ∃ p', runFrom PhonePool.step dialingPhone
      [.resume 0, .spawn dialAnswered, .resume 0, .resume 0, .resume 0, .resume 0,
        .spawn (testMessage (some "BYE") none), .resume 2, .resume 2] = some p' ∧
      ∀ c ∈ p'.tasks, c.Ended := exists_run PhonePool.step (by decide +kernel)
  have hdial : (idlePhone {}).step (.spawn (.dial "1".toList)) = some dialingPhone :=
    (Option.getD_of_ne_none (Option.isSome_iff_ne_none.mp (by decide +kernel)) _).symm
  have hready : Dialed.Ready (idlePhone {}).state :=
    ⟨by decide +kernel, by decide +kernel, by decide +kernel, by decide +kernel, by decide +kernel,
      by decide +kernel, by decide +kernel, by decide +kernel⟩
  exact ⟨p', hr, (no_orphan rfl hready hdial hr (by decide +kernel) (by decide +kernel)).2 hended⟩

/-- The user hangs up while the phone still waits for the 200: the manager holds the call, media run,
and there is no voice call. -/
theorem orphan_call : Along PhonePool.step (Dialed.DialTraffic (Dialed.of (idlePhone {}).state))
      dialingPhone
      [.resume 0, .spawn (.hangup 1), .resume 1, .spawn dialAnswered, .resume 0, .resume 0, .resume 0] ∧
    ∃ p', runFrom PhonePool.step dialingPhone
      [.resume 0, .spawn (.hangup 1), .resume 1, .spawn dialAnswered, .resume 0, .resume 0, .resume 0] = some p' ∧
      (∀ c ∈ p'.tasks, c.Ended) ∧ ¬(Dialed.of (idlePhone {}).state).NoOrphan p'.state :=
  ⟨by decide +kernel, exists_run PhonePool.step (by decide +kernel)⟩

end VirtualPhone
