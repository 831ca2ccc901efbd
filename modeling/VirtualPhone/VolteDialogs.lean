import VirtualPhone.VolteInvite

/-! # Dialogs do not interfere

A method that works on the dialog with Call-ID `callId` changes the table under that Call-ID only,
and only calls that were stored under it (`Touches`).  In every state the phone can reach, the
table names under a Call-ID a call that was stored under it (`Keyed`), so that the calls of the
other entries are left alone.

`dialogs_apart` puts the two together, for any operations and messages of one dialog that run
together. -/

namespace VirtualPhone

open Runtime
open Async (when whenSome ignore onTimeout)
open Coro (get modify raise attempt)

/-! ### Reachable tables -/

/-- The table names calls under their own Call-IDs. -/
def Phone.Keyed (s : Phone) : Prop :=
  ∀ (callId : Text) (ref : ℕ), s.calls.get? callId = some ref → s.Knows (·.sipCallId = callId) ref

theorem Phone.Keyed.of_eq {s s' : Phone} (h : s.Keyed) (hheap : s'.callHeap = s.callHeap)
    (hcalls : s'.calls = s.calls) : s'.Keyed := by
  intro id ref hget
  rw [hcalls] at hget
  obtain ⟨c, hc, hid⟩ := h id ref hget
  exact ⟨c, hheap ▸ hc, hid⟩

theorem Micro.keyed {C : VoLTECall → Prop} {s s' : Phone} (h : Micro C s s') (hs : s.Keyed) : s'.Keyed := by
  have hlater := h.later
  have hold : ∀ {callId : Text} {ref : ℕ}, s.calls.get? callId = some ref →
      s'.Knows (·.sipCallId = callId) ref := fun hget =>
    (hs _ _ hget).later (fun _ _ hc hid => hc.sipCallId.trans hid) hlater
  cases h with
  | other hheap hcalls =>
      intro callId ref hget
      rw [hcalls] at hget
      exact hold hget
  | created c hnew =>
      intro callId ref hget
      change (s.calls.set c.sipCallId s.callHeap.length).get? callId = some ref at hget
      rw [Dict.get?_set] at hget
      split_ifs at hget with hid
      · obtain rfl := Option.some.inj hget
        exact ⟨c, List.getElem?_concat_length, hid.symm⟩
      · exact hold hget
  | deleted callId' =>
      intro callId ref hget
      change (s.calls.erase callId').get? callId = some ref at hget
      rw [Dict.get?_erase] at hget
      split_ifs at hget
      exact hold hget
  | @popped callId' ref' hpop =>
      intro callId ref hget
      change (s.calls.erase callId').get? callId = some ref at hget
      rw [Dict.get?_erase] at hget
      split_ifs at hget
      exact hold hget
  | changed ref' f hf hheap hcalls =>
      intro callId ref hget
      rw [hcalls] at hget
      exact hold hget

theorem First.keyed {op : Operation} {s s' : Phone} (h : First op s s') (hs : s.Keyed) : s'.Keyed := by
  have hlater := h.later
  cases h with
  | nothing => exact hs
  | reinvite addr _ =>
      exact fun callId ref hget =>
        (hs callId ref hget).later (fun _ _ hc hid => hc.sipCallId.trans hid) hlater
  | ringing addr _ =>
      intro callId ref hget
      rw [Phone.ringBack_calls] at hget
      exact (hs callId ref hget).later (fun _ _ hc hid => hc.sipCallId.trans hid) hlater

/-- Every table that is reached names calls under their own Call-IDs. -/
theorem PhonePool.keyed_of_run {config : VoLTEConfig} {radioHal : Bool} {radio : RadioHAL}
    {random : ℕ → Text} {es : List PhoneEvent} {p : PhonePool}
    (hr : runFrom PhonePool.step (PhonePool.initial config radioHal radio random) es = some p) :
    p.state.Keyed := by
  have hall : Along PhonePool.step (fun _ _ => True) (PhonePool.initial config radioHal radio random) es :=
    Along.of_forall _ (fun _ _ => trivial) _ es
  refine (PhonePool.run_invariant (C := fun _ => True) (I := Phone.Keyed) Micro.keyed
    (fun _ hfirst => hfirst.keyed) (fun _ => PhonePool.admits_true _ _)
    (PhonePool.initial_disciplined _ config radioHal radio random) ?_ hall hr).2
  exact fun callId ref hget => by cases hget

/-! ### Changes inside one dialog -/

/-- Every call keeps its Call-ID. -/
def SameIds (s s' : Phone) : Prop :=
  ∀ (ref : ℕ) (c : VoLTECall), s.callHeap[ref]? = some c →
    ∃ c', s'.callHeap[ref]? = some c' ∧ c'.sipCallId = c.sipCallId

/-- The phone changes inside the dialog with a Call-ID only. -/
structure Touches (callId : Text) (s s' : Phone) : Prop where
  table : ∀ id, id ≠ callId → s'.calls.get? id = s.calls.get? id
  others : ∀ (ref : ℕ) (c : VoLTECall), s.callHeap[ref]? = some c → c.sipCallId ≠ callId →
    s'.callHeap[ref]? = some c
  ids : SameIds s s'

namespace Touches

variable {callId : Text} {s s' : Phone}

theorem refl (callId : Text) (s : Phone) : Touches callId s s :=
  ⟨fun _ _ => rfl, fun _ _ h _ => h, fun _ c h => ⟨c, h, rfl⟩⟩

theorem trans {a b c : Phone} (h : Touches callId a b) (h' : Touches callId b c) : Touches callId a c where
  table id hid := (h'.table id hid).trans (h.table id hid)
  others ref x hx hid := h'.others ref x (h.others ref x hx hid) hid
  ids ref x hx := by
    obtain ⟨y, hy, hxy⟩ := h.ids ref x hx
    obtain ⟨z, hz, hyz⟩ := h'.ids ref y hy
    exact ⟨z, hz, hyz.trans hxy⟩

theorem of_table (hheap : s'.callHeap = s.callHeap)
    (htable : ∀ id, id ≠ callId → s'.calls.get? id = s.calls.get? id) : Touches callId s s' :=
  ⟨htable, fun _ _ h _ => hheap ▸ h, fun _ c h => ⟨c, hheap ▸ h, rfl⟩⟩

theorem of_modify {ref : ℕ} {f : VoLTECall → VoLTECall} (howns : s.Knows (·.sipCallId = callId) ref)
    (hf : ∀ c, (f c).sipCallId = c.sipCallId) (hheap : s'.callHeap = s.callHeap.modify ref f)
    (htable : ∀ id, id ≠ callId → s'.calls.get? id = s.calls.get? id) : Touches callId s s' := by
  refine ⟨htable, fun r c hc hid => ?_, fun r c hc => ?_⟩
  · have hr : ref ≠ r := by
      rintro rfl
      exact hid (howns.apply hc)
    rw [hheap, List.getElem?_modify_ne f _ hr]
    exact hc
  · by_cases hr : ref = r
    · obtain rfl := hr
      exact ⟨f c, by rw [hheap, List.getElem?_modify_eq, hc]; rfl, hf c⟩
    · exact ⟨c, by rw [hheap, List.getElem?_modify_ne f _ hr]; exact hc, rfl⟩

theorem of_append {c : VoLTECall} (hheap : s'.callHeap = s.callHeap ++ [c])
    (htable : ∀ id, id ≠ callId → s'.calls.get? id = s.calls.get? id) : Touches callId s s' := by
  have hkept : ∀ (r : ℕ) (x : VoLTECall), s.callHeap[r]? = some x → s'.callHeap[r]? = some x := by
    intro r x hx
    rw [hheap, List.getElem?_append_left (List.getElem?_eq_some_iff.mp hx).1]
    exact hx
  exact ⟨htable, fun r x hx _ => hkept r x hx, fun r x hx => ⟨x, hkept r x hx, rfl⟩⟩

end Touches

/-- Changes inside the dialog with a Call-ID; a suspended method relies on the Call-IDs of calls. -/
def dialogDiscipline (callId : Text) : Discipline Phone Await where
  micro := Touches callId
  later := SameIds
  resumes := fun _ _ => True
  refl := fun s => (Touches.refl callId s).ids
  trans := fun h h' ref x hx => by
    obtain ⟨y, hy, hxy⟩ := h ref x hx
    obtain ⟨z, hz, hyz⟩ := h' ref y hy
    exact ⟨z, hz, hyz.trans hxy⟩
  micro_later := Touches.ids

theorem Touches.of_segment {callId : Text} {s s' : Phone} (h : (dialogDiscipline callId).segment s s') :
    Touches callId s s' := by
  induction h with
  | refl => exact .refl callId s
  | tail _ hm ih => exact ih.trans hm

/-! ### Methods inside one dialog -/

section

variable {callId : Text} {ref : ℕ} {α β : Type}

/-- The call `ref` was stored under the Call-ID. -/
abbrev Phone.Owns (callId : Text) (ref : ℕ) (s : Phone) : Prop := s.Knows (·.sipCallId = callId) ref

theorem SameIds.owns {s s' : Phone} (h : SameIds s s') (howns : s.Owns callId ref) : s'.Owns callId ref := by
  obtain ⟨c, hc, hid⟩ := howns
  obtain ⟨c', hc', hid'⟩ := h ref c hc
  exact ⟨c', hc', hid'.trans hid⟩

/-- From every state on, a method stays inside the dialog. -/
abbrev Within (callId : Text) (body : Async α) : Prop := Coro.Safe (dialogDiscipline callId) body

/-- From `s` on, a method stays inside the dialog. -/
abbrev WithinAt (callId : Text) (body : Async α) (s : Phone) : Prop :=
  body.Guarantees (dialogDiscipline callId) (fun _ _ => True) s

/-- A method that works on the call `ref` stays inside the dialog of that call. -/
def Works (callId : Text) (ref : ℕ) (body : Async α) : Prop := ∀ s, s.Owns callId ref → WithinAt callId body s

namespace Works

theorem of_within {body : Async α} (h : Within callId body) : Works callId ref body := fun s _ => h s

theorem pure (a : α) : Works callId ref (pure a : Async α) := fun _ _ => trivial

theorem bind {body : Async α} {f : α → Async β} (hbody : Works callId ref body)
    (hf : ∀ a, Works callId ref (f a)) : Works callId ref (body >>= f) := fun s hs =>
  Coro.Guarantees.bind (K := fun _ _ => True) (hbody s hs) (fun a s' hlater _ => hf a s' (hlater.owns hs))
    fun _ _ _ _ => trivial

theorem get_bind {f : Phone → Async β} (hf : ∀ s, Works callId ref (f s)) :
    Works callId ref (get >>= f) := fun s hs => hf s s hs

theorem attempt {body : Async α} (h : Works callId ref body) : Works callId ref (Coro.attempt body) :=
  fun s hs => Coro.Guarantees.attempt (h s hs)

theorem when {c : Prop} [Decidable c] {body : Async Unit} (h : Works callId ref body) :
    Works callId ref (Async.when c body) := by
  intro s hs
  unfold Async.when
  split_ifs
  · exact h s hs
  · trivial

theorem modifyCall {f : VoLTECall → VoLTECall} (hf : ∀ c, (f c).sipCallId = c.sipCallId) :
    Works callId ref (modifyCall ref f) := fun _ hs => ⟨.of_modify hs hf rfl fun _ _ => rfl, trivial⟩

theorem modifyCall_bind {f : VoLTECall → VoLTECall} {k : Unit → Async β}
    (hf : ∀ c, (f c).sipCallId = c.sipCallId) (hk : Works callId ref (k ())) :
    Works callId ref (VirtualPhone.modifyCall ref f >>= k) :=
  bind (modifyCall hf) fun _ => hk

theorem await_bind {w : Await} {k : Unit → Async β} (hk : Works callId ref (k ())) :
    Works callId ref (Coro.await w >>= k) := bind (of_within (Coro.Safe.await w)) fun _ => hk

end Works

namespace Within

theorem modify {f : Phone → Phone} (hheap : ∀ s, (f s).callHeap = s.callHeap)
    (hcalls : ∀ s, (f s).calls = s.calls) : Within callId (modify f : Async Unit) :=
  Coro.Safe.modify fun s => .of_table (hheap s) fun id _ => by rw [hcalls s]

theorem modifyClient (f : Session → Session) :
    Within callId (Coro.modify (Phone.modifyClient f) : Async Unit) := modify (fun _ => rfl) fun _ => rfl

theorem modifyClient_bind {f : Session → Session} {k : Unit → Async β} (hk : Within callId (k ())) :
    Within callId (Coro.modify (Phone.modifyClient f) >>= k) :=
  Coro.Safe.bind (modifyClient f) fun _ => hk

theorem modifyRadio (f : RadioHAL → RadioHAL) : Within callId (modifyRadio f) :=
  .modify (fun _ => rfl) fun _ => rfl

theorem when {c : Prop} [Decidable c] {body : Async Unit} (h : Within callId body) :
    Within callId (Async.when c body) := by
  intro s
  unfold Async.when
  split_ifs
  · exact h s
  · trivial

end Within

/-! ### Requests, the radio and the media -/

theorem Works.onTimeout {body handler : Async α} (hbody : Works callId ref body)
    (hhandler : Works callId ref handler) : Works callId ref (Async.onTimeout body handler) := by
  refine Works.bind hbody.attempt fun r => ?_
  match r with
  | .ok a => exact Works.pure a
  | .error (.timeoutError _) => exact hhandler
  | .error .indexError => exact fun _ _ => trivial
  | .error (.keyError _) => exact fun _ _ => trivial
  | .error (.valueError _) => exact fun _ _ => trivial
  | .error .typeError => exact fun _ _ => trivial
  | .error .attributeError => exact fun _ _ => trivial
  | .error .overflowError => exact fun _ _ => trivial
  | .error (.memoryError _) => exact fun _ _ => trivial
  | .error (.runtimeError _) => exact fun _ _ => trivial
  | .error .osError => exact fun _ _ => trivial
  | .error (.exception name m) => exact fun _ _ => trivial

theorem Works.ignore {body : Async α} (h : Works callId ref body) : Works callId ref (Async.ignore body) :=
  h.bind fun _ => .pure ()

theorem sendRequest_within (args : RequestArgs) : Within callId (sendRequest args) := by
  refine Coro.Safe.get_bind fun s => ?_
  split
  · trivial
  · refine Coro.Safe.bind (Within.modify (beginRequest_callHeap args) (beginRequest_calls args))
      (fun _ => ?_) s
    refine Coro.Safe.bind (Coro.Safe.await _) fun _ => Coro.Safe.get_bind fun s => ?_
    split
    · exact Within.modifyClient_bind (Coro.Safe.pure _) s
    · refine Within.modifyClient_bind (Coro.Safe.get_bind fun s => ?_) s
      split
      · trivial
      · trivial

theorem sendDialogRequest_within (ref : ℕ) (method : String) (headers : List (Text × Text)) (body : Bytes) :
    Within callId (sendDialogRequest ref method headers body) :=
  Coro.Safe.get_bind fun s => sendRequest_within _ s

theorem sendIfClient_within (msg : SIPMessage) (addr : Text × ℕ) : Within callId (sendIfClient msg addr) := by
  refine Within.modify ?_ ?_ <;> intro s <;> split_ifs <;> rfl

theorem sendIndication_within (indication : ℕ) : Within callId (RadioHAL.sendIndication indication) :=
  Coro.Safe.bind (Within.modifyRadio _) fun _ => Coro.Safe.await _

theorem updateRadio_within (ref : ℕ) (state : CallState) : Within callId (updateRadio ref state) := by
  refine Coro.Safe.get_bind fun s => Within.when ?_ s
  refine Coro.Safe.get_bind fun s => ?_
  split
  · exact Coro.Safe.bind (Within.modifyRadio _) (fun _ => sendIndication_within 1001) s
  · exact Coro.Safe.pure () s

theorem dropVoice_within (id : Text) : Within callId (dropVoice id) :=
  Coro.Safe.get_bind fun s => Within.when
    (Coro.Safe.bind (Within.modifyRadio _) fun _ => sendIndication_within 1001) s

theorem countActive_within : Within callId (modify Phone.countActive : Async Unit) :=
  .modify (fun _ => rfl) fun _ => rfl

theorem countCall_within (ref : ℕ) :
    Within callId (modify fun s => s.countCall (s.call ref).codec : Async Unit) :=
  .modify (fun _ => rfl) fun _ => rfl

theorem sendInviteOk_works (msg : SIPMessage) (id : Text) (addr : Text × ℕ) :
    Works callId ref (sendInviteOk ref msg id addr) := by
  refine fun s hs => Coro.guarantees_modify.mpr ⟨?_, trivial⟩
  show Touches callId s (if s.sipClient.isSome then _ else s)
  split_ifs
  · refine .of_modify (f := VoLTECall.record fun h => { h with okSent := true }) hs (fun _ => rfl) rfl ?_
    exact fun _ _ => rfl
  · exact .refl callId s

theorem MediaSession.start_works (m localPort : ℕ) (remoteAddr : Text × ℤ) (codec : Text)
    (payloadType : ℤ) : Works callId ref (MediaSession.start ref m localPort remoteAddr codec payloadType) := by
  refine Works.modifyCall_bind (fun _ => rfl) (Works.await_bind ?_)
  split
  · exact .of_within (Coro.Safe.raise _)
  · refine Works.await_bind ?_
    split
    · exact .of_within (Coro.Safe.raise _)
    · exact .modifyCall fun _ => rfl

theorem startMedia_works : Works callId ref (startMedia ref) := by
  refine Works.get_bind fun s => ?_
  split_ifs
  · exact .pure ()
  · refine Works.bind (fun _ _ => trivial) fun remoteAddr => ?_
    split_ifs
    · exact .pure ()
    · refine Works.bind (fun _ _ => trivial) fun payloadType => ?_
      refine Works.modifyCall_bind (fun _ => rfl) ?_
      refine (MediaSession.start_works _ _ _ _ _).attempt.bind fun r => ?_
      cases r with
      | ok _ => exact .modifyCall fun _ => rfl
      | error e => exact .pure ()

theorem stopMedia_works : Works callId ref (stopMedia ref) := by
  refine Works.get_bind fun s => ?_
  split
  · refine Works.bind ?_ fun _ => .modifyCall fun _ => rfl
    exact Works.modifyCall_bind (fun _ => rfl) (.of_within (Coro.Safe.await _))
  · exact .pure ()

namespace VoLTECallManager

/-! ### The operations on one call -/

theorem sendReinvite_works (direction : MediaDirection) : Works callId ref (sendReinvite ref direction) := by
  refine Works.get_bind fun s => Works.when (Works.onTimeout ?_ (.pure ()))
  refine (Works.ignore (.of_within (sendDialogRequest_within _ _ _ _))).bind fun _ => ?_
  exact .of_within (Within.modify (fun _ => rfl) fun _ => rfl)

theorem switchHold_withinAt {s : Phone} (hs : s.Keyed) {state : VoLTECallState}
    {change finish : VoLTECall → VoLTECall} (hchange : ∀ c, (change c).sipCallId = c.sipCallId)
    (hfinish : ∀ c, (finish c).sipCallId = c.sipCallId) (direction : MediaDirection)
    (radioState : CallState) :
    WithinAt callId (switchHold state change finish direction radioState callId) s := by
  refine Coro.guarantees_get_bind.mpr ?_
  split
  · trivial
  · next ref href =>
      split
      · trivial
      · refine Works.modifyCall_bind hchange ?_ s (hs callId ref href)
        refine (sendReinvite_works direction).bind fun _ => ?_
        refine (Works.of_within (updateRadio_within ref radioState)).bind fun _ => ?_
        refine (Works.of_within countActive_within).bind fun _ => ?_
        exact Works.modifyCall_bind hfinish (.pure true)

theorem holdCall_withinAt {s : Phone} (hs : s.Keyed) : WithinAt callId (holdCall callId) s := by
  unfold holdCall
  refine switchHold_withinAt hs (fun c => ?_) (fun c => ?_) _ _
  · exact VoLTECall.onMedia_sipCallId MediaSession.hold (c.setState .held)
  · rfl

theorem resumeCall_withinAt {s : Phone} (hs : s.Keyed) : WithinAt callId (resumeCall callId) s := by
  unfold resumeCall
  refine switchHold_withinAt hs (fun c => ?_) (fun c => ?_) _ _
  · exact VoLTECall.onMedia_sipCallId MediaSession.resume (c.setState .active)
  · rfl

theorem answerCall_withinAt {s : Phone} (hs : s.Keyed) : WithinAt callId (answerCall callId) s := by
  refine Coro.guarantees_get_bind.mpr ?_
  split
  · trivial
  · next ref href =>
      refine Works.modifyCall_bind ?_ ?_ s (hs callId ref href)
      · exact fun _ => rfl
      split
      · exact .pure false
      · split
        · exact .pure false
        · next msg addr _ =>
            split
            · exact .pure false
            · refine (sendInviteOk_works msg callId addr).bind fun _ => ?_
              refine Works.modifyCall_bind (fun _ => rfl) ?_
              refine (Works.of_within countActive_within).bind fun _ => ?_
              refine (Works.of_within (countCall_within ref)).bind fun _ => ?_
              exact startMedia_works.bind fun _ => .pure true

theorem sendRefer_works (referTo : Text) {accept : VoLTECall → VoLTECall}
    (haccept : ∀ c, (accept c).sipCallId = c.sipCallId) :
    Works callId ref (sendRefer ref referTo accept) := by
  refine Works.get_bind fun s => ?_
  split
  · split
    · refine Works.modifyCall_bind (fun _ => rfl) (Works.onTimeout ?_ (.pure false))
      refine (Works.of_within (sendDialogRequest_within _ _ _ _)).bind fun response => ?_
      split
      · exact Works.modifyCall_bind haccept (.pure true)
      · exact .pure false
    · exact .pure false
  · exact .pure false

theorem transferCall_withinAt {s : Phone} (hs : s.Keyed) (targetNumber : Text) :
    WithinAt callId (transferCall callId targetNumber) s := by
  refine Coro.guarantees_get_bind.mpr ?_
  split
  · trivial
  · next ref href =>
      refine sendRefer_works _ ?_ s (hs callId ref href)
      exact fun _ => rfl

theorem attendedTransfer_withinAt {s : Phone} (hs : s.Keyed) (callIdB : Text) :
    WithinAt callId (attendedTransfer callId callIdB) s := by
  refine Coro.guarantees_get_bind.mpr ?_
  split
  · next ref b href _ =>
      refine sendRefer_works _ ?_ s (hs callId ref href)
      exact fun _ => rfl
  · trivial

theorem popCall_touches {s : Phone} (hs : s.Owns callId ref) : Touches callId s (s.popCall callId ref) :=
  .of_modify (f := VoLTECall.record fun h => { h with removed := true }) hs (fun _ => rfl) rfl
    fun _ hid => Dict.get?_erase_ne _ hid

theorem hangupCall_withinAt {s : Phone} (hs : s.Keyed) : WithinAt callId (hangupCall callId) s := by
  refine Coro.guarantees_get_bind.mpr ?_
  split
  · trivial
  · next ref href =>
      have howns := hs callId ref href
      have hpop := popCall_touches howns
      refine Coro.guarantees_modify_bind.mpr ⟨hpop, ?_⟩
      refine stopMedia_works.bind (fun _ => Works.get_bind fun s => ?_) _ (hpop.ids.owns howns)
      split
      · refine Works.modifyCall_bind (fun _ => rfl) ?_
        refine Works.bind (Works.onTimeout ?_ (.pure ())) fun _ => ?_
        · exact Works.ignore (.of_within (sendDialogRequest_within _ _ _ _))
        · exact (Works.of_within countActive_within).bind fun _ => .pure true
      · exact .pure false

/-! ### The messages of one dialog -/

theorem handleReinvite_works (msg : SIPMessage) (addr : Text × ℕ) :
    Works callId ref (handleReinvite msg addr ref) := by
  refine Works.modifyCall_bind (fun c => (c.reinvite_later _).sipCallId) ?_
  refine (Works.when (.of_within (updateRadio_within ref .holding))).bind fun _ => ?_
  refine (Works.when (.of_within (updateRadio_within ref .active))).bind fun _ => ?_
  exact sendInviteOk_works msg msg.callId addr

theorem sendIfClient_guarantees {s : Phone} {msg : SIPMessage} {addr : Text × ℕ} {k : Unit → Async α}
    (h : ∀ s', s'.callHeap = s.callHeap → s'.calls = s.calls → s'.radio = s.radio → WithinAt callId (k ()) s') :
    WithinAt callId (sendIfClient msg addr >>= k) s := by
  refine Coro.guarantees_modify_bind.mpr ?_
  split_ifs
  · exact ⟨.of_table rfl fun _ _ => rfl, h _ rfl rfl rfl⟩
  · exact ⟨.refl callId s, h s rfl rfl rfl⟩

theorem when_withinAt {c : Prop} [Decidable c] {body : Async Unit} {s : Phone}
    (h : c → WithinAt callId body s) : WithinAt callId (when c body) s := by
  unfold Async.when
  split_ifs with hc
  · exact h hc
  · trivial

theorem incomingCall_withinAt {s : Phone} (hforward : s.radio.forwardNumber = none) (number id : Text) :
    WithinAt callId (RadioHAL.incomingCall number id) s := by
  refine Coro.guarantees_get_bind.mpr ?_
  rw [hforward]
  refine Coro.Safe.bind (Within.modifyRadio _) (fun _ => ?_) s
  exact Coro.Safe.bind (sendIndication_within 1002) fun _ => sendIndication_within 1001

theorem handleIncomingInvite_withinAt {s : Phone} (msg : SIPMessage) (addr : Text × ℕ)
    (hforward : s.radio.forwardNumber = none) :
    WithinAt msg.callId (handleIncomingInvite msg addr) s := by
  refine sendIfClient_guarantees fun s₁ _ _ hradio => ?_
  refine ⟨.of_table rfl fun _ _ => rfl, .of_append rfl fun id hid => Dict.get?_set_ne _ _ hid, ?_⟩
  refine when_withinAt fun _ => ?_
  refine Coro.Guarantees.bind (incomingCall_withinAt (hradio ▸ hforward) _ _) (fun _ s₂ hlater _ => ?_)
    fun _ _ _ _ => trivial
  have howns : s₂.Owns msg.callId s₁.callHeap.length :=
    hlater.owns ⟨_, List.getElem?_concat_length, rfl⟩
  refine Coro.guarantees_get_bind.mpr ?_
  split
  · refine Works.modifyCall ?_ s₂ howns
    exact fun _ => rfl
  · trivial

theorem takeDown_withinAt {s : Phone} (hs : s.Keyed) (msg : SIPMessage) (addr : Text × ℕ) :
    WithinAt msg.callId (takeDown msg addr) s := by
  refine Coro.guarantees_get_bind.mpr ?_
  dsimp only
  have hrest : ∀ {c : Prop} [Decidable c], Within msg.callId (do
      sendIfClient (response msg 200 "OK" msg.callId [] []) addr
      when c (dropVoice msg.callId)) :=
    Coro.Safe.bind (sendIfClient_within _ addr) fun _ => Within.when (dropVoice_within _)
  cases href : s.calls.get? msg.callId with
  | none => exact hrest s
  | some ref =>
      have howns := hs _ ref href
      have hpop := popCall_touches howns
      refine ⟨hpop, ?_⟩
      exact stopMedia_works.bind (fun _ => .of_within hrest) _ (hpop.ids.owns howns)

theorem handleIncomingNotify_withinAt {s : Phone} (hs : s.Keyed) (msg : SIPMessage) (addr : Text × ℕ) :
    WithinAt msg.callId (handleIncomingNotify msg addr) s := by
  refine Coro.guarantees_get_bind.mpr (sendIfClient_guarantees fun s₁ hheap hcalls _ => ?_)
  have hkeyed := hs.of_eq hheap hcalls
  split
  · trivial
  · next ref href =>
      split
      · trivial
      · dsimp only
        split
        · refine Works.modifyCall ?_ s₁ (hkeyed _ ref (hcalls ▸ href))
          exact fun _ => rfl
        · refine when_withinAt fun _ => ?_
          exact (hangupCall_withinAt hkeyed).bind (fun _ _ _ _ => trivial) fun _ _ _ _ => trivial

theorem handleResponse_withinAt {s : Phone} (hs : s.Keyed) (msg : SIPMessage) (code : ℤ) :
    WithinAt msg.callId (handleResponse msg code) s := by
  refine Coro.guarantees_get_bind.mpr ?_
  split
  · trivial
  · split
    · split
      · exact Within.modifyClient _ s
      · split
        · split
          · next ref href =>
              refine Works.when (Works.modifyCall_bind ?_ ?_) s (hs _ ref href)
              · exact fun _ => rfl
              exact .of_within (updateRadio_within ref .alerting)
          · trivial
        · trivial
    · trivial

end VoLTECallManager

end

/-! ### Runs inside one dialog -/

open VoLTECallManager

/-- The operation is one on the call with a Call-ID, or a message with this Call-ID comes in: no
REFER, and no new INVITE that is forwarded. -/
def Operation.Concerns (callId : Text) (s : Phone) : Operation → Prop
  | answerCall id | holdCall id | resumeCall id | hangupCall id => id = callId
  | transferCall id _ | attendedTransfer id _ => id = callId
  | incoming msg _ =>
      msg.callId = callId ∧ ¬(msg.statusCode = none ∧ msg.method = some "REFER".toList) ∧
        (msg.IsInvite → s.calls.get? callId = none → s.radio.forwardNumber = none)
  | _ => False

theorem handleIncomingSip_withinAt {s : Phone} (hs : s.Keyed) {msg : SIPMessage} (addr : Text × ℕ)
    (hrefer : ¬(msg.statusCode = none ∧ msg.method = some "REFER".toList))
    (hforward : msg.IsInvite → s.calls.get? msg.callId = none → s.radio.forwardNumber = none) :
    WithinAt msg.callId (handleIncomingSip msg addr) s := by
  unfold handleIncomingSip
  split
  · next code _ => exact handleResponse_withinAt hs msg code
  · next hstatus =>
      split
      · next hmethod =>
          refine Coro.guarantees_get_bind.mpr ?_
          split
          · next ref href => exact handleReinvite_works msg addr s (hs _ ref href)
          · next hnone => exact handleIncomingInvite_withinAt msg addr (hforward ⟨hstatus, hmethod⟩ hnone)
      · split
        · exact (takeDown_withinAt hs msg addr).bind (fun _ s' _ _ => countActive_within s')
            fun _ _ _ _ => trivial
        · split
          · exact takeDown_withinAt hs msg addr
          · split
            · next hmethod => exact absurd ⟨hstatus, hmethod⟩ hrefer
            · split
              · exact handleIncomingNotify_withinAt hs msg addr
              · trivial

theorem Operation.withinAt {callId : Text} {s : Phone} (hs : s.Keyed) {op : Operation}
    (hop : op.Concerns callId s) : WithinAt callId op.run s := by
  have hresult : ∀ {α : Type} {body : Async α} {f : α → OperationResult}, WithinAt callId body s →
      WithinAt callId (do let a ← body; return f a) s :=
    fun h => h.bind (fun _ _ _ _ => trivial) fun _ _ _ _ => trivial
  cases op with
  | answerCall id => exact hresult (hop ▸ answerCall_withinAt hs)
  | holdCall id => exact hresult (hop ▸ holdCall_withinAt hs)
  | resumeCall id => exact hresult (hop ▸ resumeCall_withinAt hs)
  | hangupCall id => exact hresult (hop ▸ hangupCall_withinAt hs)
  | transferCall id target => exact hresult (hop ▸ transferCall_withinAt hs target)
  | attendedTransfer id other => exact hresult (hop ▸ attendedTransfer_withinAt hs other)
  | incoming msg addr =>
      obtain ⟨rfl, hrefer, hforward⟩ := hop
      exact hresult (handleIncomingSip_withinAt hs addr hrefer hforward)
  | start => exact hop.elim
  | stop => exact hop.elim
  | initiateCall number index => exact hop.elim
  | swapCalls => exact hop.elim
  | conferenceCalls => exact hop.elim
  | dial number => exact hop.elim
  | answer => exact hop.elim
  | hangup index => exact hop.elim
  | switchWaitingOrHoldingAndActive rounds => exact hop.elim
  | conference => exact hop.elim
  | separateConnection index => exact hop.elim
  | explicitCallTransfer => exact hop.elim
  | hangupAll => exact hop.elim
  | setCallForward action reason number time => exact hop.elim
  | powerOff => exact hop.elim

/-- Operations and messages of one dialog, the resumptions of the methods numbered from `n` on, and
timers. -/
def DialogTraffic (callId : Text) (n : ℕ) (p : PhonePool) : PhoneEvent → Prop
  | .spawn op => op.Concerns callId p.state
  | .resume m => n ≤ m
  | .outside _ => True

/-- The entries under other Call-IDs are the same, and so are their calls, with their media
sessions. -/
def OthersSame (callId : Text) (s s' : Phone) : Prop :=
  ∀ id, id ≠ callId → s'.calls.get? id = s.calls.get? id ∧
    ∀ ref, s.calls.get? id = some ref → ∃ c, s.callHeap[ref]? = some c ∧ s'.callHeap[ref]? = some c

theorem Touches.othersSame {callId : Text} {s s' : Phone} (h : Touches callId s s') (hs : s.Keyed) :
    OthersSame callId s s' := by
  refine fun id hid => ⟨h.table id hid, fun ref href => ?_⟩
  obtain ⟨c, hc, rfl⟩ := hs id ref href
  exact ⟨c, hc, h.others ref c hc hid⟩

theorem DialogTraffic.step {callId : Text} {n : ℕ} {p p' : PhonePool} {e : PhoneEvent}
    (hs : p.state.Keyed) (hp : EventLoop.DisciplinedFrom (dialogDiscipline callId) n p)
    (he : DialogTraffic callId n p e) (h : p.step e = some p') :
    EventLoop.DisciplinedFrom (dialogDiscipline callId) n p' ∧ Touches callId p.state p'.state := by
  have hstep := phoneLoop.step_from (D := dialogDiscipline callId) ?_ ?_ (fun _ => trivial) ?_ hp
    (PhonePool.step_eq h)
  · exact ⟨hstep.1, .of_segment hstep.2⟩
  · rintro op rfl
    exact Operation.withinAt hs he
  · rintro m rfl
    exact he
  · intro i s' _ hexpire
    obtain ⟨client, -, hexpire⟩ := Option.bind_eq_some_iff.mp hexpire
    obtain ⟨c, -, rfl⟩ := Option.map_eq_some_iff.mp hexpire
    exact .of_table rfl fun _ _ => rfl

/-- **Dialogs do not interfere.**  In a run from any state that is reached, the operations and
messages of one dialog leave all other entries of the table as they were, and add none. -/
theorem dialogs_apart {config : VoLTEConfig} {radioHal : Bool} {radio : RadioHAL} {random : ℕ → Text}
    {es es' : List PhoneEvent} {p p' : PhonePool} {callId : Text}
    (hr : runFrom PhonePool.step (PhonePool.initial config radioHal radio random) es = some p)
    (htraffic : Along PhonePool.step (DialogTraffic callId p.tasks.length) p es')
    (hr' : runFrom PhonePool.step p es' = some p') : OthersSame callId p.state p'.state := by
  have hinv := runFrom_invariant PhonePool.step (P := DialogTraffic callId p.tasks.length)
    (I := fun q => (∃ fs, runFrom PhonePool.step (PhonePool.initial config radioHal radio random) fs = some q) ∧
      EventLoop.DisciplinedFrom (dialogDiscipline callId) p.tasks.length q ∧ Touches callId p.state q.state)
    ?_ ⟨⟨es, hr⟩, ⟨le_rfl, by simp⟩, .refl callId p.state⟩ htraffic hr'
  · exact hinv.2.2.othersSame (PhonePool.keyed_of_run hr)
  · rintro q e q' ⟨⟨fs, hfs⟩, hq, htouches⟩ he h
    obtain ⟨hq', hstep⟩ := he.step (PhonePool.keyed_of_run hfs) hq h
    refine ⟨⟨fs ++ [e], ?_⟩, hq', htouches.trans hstep⟩
    rw [runFrom_append, hfs, Option.bind_some, runFrom_cons, h]
    rfl

/-- A ringing call is left alone when the user hangs up another one. -/
theorem dialogs_apart_hangup : ∃ p p', runFrom PhonePool.step testPhone
      [.spawn .start, .spawn (testInvite "a=sendrecv"), .spawn (.initiateCall "1".toList 1)] = some p ∧
    runFrom PhonePool.step p [.spawn (.hangupCall "0".toList), .outside 1, .resume 3] = some p' ∧
    p'.result 3 = some (.ok (.bool true)) ∧ OthersSame "0".toList p.state p'.state := by
  obtain ⟨p, hr, hlength, hend⟩ : ∃ p, runFrom PhonePool.step testPhone
      [.spawn .start, .spawn (testInvite "a=sendrecv"), .spawn (.initiateCall "1".toList 1)] = some p ∧
        p.tasks.length = 3 ∧
        ((runFrom PhonePool.step p [.spawn (.hangupCall "0".toList), .outside 1, .resume 3]).any
          fun p' => p'.result 3 = some (.ok (.bool true))) = true :=
    exists_run PhonePool.step (by decide +kernel)
  obtain ⟨p', hr', hresult⟩ := exists_run PhonePool.step hend
  refine ⟨p, p', hr, hr', hresult, dialogs_apart hr ?_ hr'⟩
  exact ⟨rfl, fun _ _ => ⟨trivial, fun _ _ => ⟨hlength.le, fun _ _ => trivial⟩⟩⟩

end VirtualPhone
