import VirtualPhone.VolteInvite

/-! # Calls that ring again

A 180 is taken for the outgoing call with its Call-ID, in whatever state that call is.  So one that
comes in while a request inside an established dialog is pending puts the call back to RINGING_OUT
and its voice call to ALERTING.  Nothing else does (`ringback_iff`). -/

namespace VirtualPhone

open Runtime
open Async (when)

/-- A listed voice call of call `ref` that does not ring at the other end: it has the radio index of
the call, or its Call-ID. -/
def Phone.QuietVoice (s : Phone) (ref v : ℕ) : Prop :=
  v ∈ s.radio.voiceCalls ∧ ∃ vc ∈ s.radio.voices[v]?, vc.state ≠ .alerting ∧
    (vc.index = (s.call ref).radioCallIndex ∨ vc.sipCallId = (s.call ref).sipCallId)

/-- A call made from here that is connected. -/
def Phone.Established (s : Phone) (ref : ℕ) : Prop :=
  ∃ c ∈ s.callHeap[ref]?, c.direction = .mo ∧ (c.state = .active ∨ c.state = .held)

/-- Call `ref` is not ringing out, and those voice calls of it which were quiet in `s₁` still are. -/
def NotRinging (s₁ : Phone) (ref : ℕ) (s : Phone) : Prop :=
  (s.call ref).state ≠ .ringingOut ∧ ∀ v, s₁.QuietVoice ref v → (s.radio.voice v).state ≠ .alerting

/-- A 180 comes in that is taken for call `ref`, or for a call whose voice call is one of `ref` which
was quiet in `s₁`. -/
def RingsAgain (s₁ : Phone) (ref : ℕ) (p : PhonePool) (e : PhoneEvent) : Prop :=
  ∃ msg ∈ incomingMessage e, ∃ r ∈ p.state.calls.get? msg.callId, IsRinging p.state msg r ∧
    (r = ref ∨ ∃ v ∈ p.state.ringbackVoice r, s₁.QuietVoice ref v)

instance (s : Phone) (msg : SIPMessage) (ref : ℕ) : Decidable (IsRinging s msg ref) :=
  inferInstanceAs (Decidable (_ ∧ (∃ _ ∈ _, _) ∧ _ ∧ _))

instance (s : Phone) (ref v : ℕ) : Decidable (s.QuietVoice ref v) :=
  inferInstanceAs (Decidable (_ ∧ ∃ _ ∈ _, _))

instance (s : Phone) (ref : ℕ) : Decidable (s.Established ref) :=
  inferInstanceAs (Decidable (∃ _ ∈ _, _))

instance (s₁ : Phone) (ref : ℕ) (p : PhonePool) (e : PhoneEvent) : Decidable (RingsAgain s₁ ref p e) :=
  inferInstanceAs (Decidable (∃ _ ∈ _, ∃ _ ∈ _, _ ∧ (_ ∨ ∃ _ ∈ _, _)))

/-! ### What the changes keep -/

theorem CallChange.not_ringingOut {C : VoLTECall → Prop} {c c' : VoLTECall} (h : CallChange C c c')
    (hc : c.state ≠ .ringingOut) : c'.state ≠ .ringingOut := by
  cases h with
  | detail hsame =>
      rw [hsame.state]
      exact hc
  | connected body _ _ => rintro ⟨⟩
  | answerInvoked => exact hc
  | answered _ _ => rintro ⟨⟩
  | okSent _ => exact hc
  | held _ => simp [VoLTECall.hold, VoLTECall.record, VoLTECall.setState]
  | holdReturned _ => exact hc
  | released _ => simp [VoLTECall.resume, VoLTECall.release, VoLTECall.setState]
  | transferRequested _ => exact hc
  | transferred target _ => rintro ⟨⟩
  | terminated _ => rintro ⟨⟩

theorem VoLTECall.reinvite_not_ringingOut (sdp : Text) {c : VoLTECall} (h : c.state ≠ .ringingOut) :
    (c.reinvite sdp).state ≠ .ringingOut := by
  unfold VoLTECall.reinvite
  simp only
  split_ifs
  · simp [VoLTECall.hold, VoLTECall.setState]
  · simp [VoLTECall.resume, VoLTECall.setState]
  · exact h

/-- Call `ref` is there and not ringing out, and the quiet voice calls of `s₁` are there and quiet. -/
structure Upright (s₁ : Phone) (ref : ℕ) (s : Phone) : Prop where
  call : s.Knows (fun c => c.state ≠ .ringingOut) ref
  voice : ∀ v, s₁.QuietVoice ref v → ∃ vc, s.radio.voices[v]? = some vc ∧ vc.state ≠ .alerting

namespace Upright

variable {s₁ s s' : Phone} {ref : ℕ}

theorem notRinging (h : Upright s₁ ref s) : NotRinging s₁ ref s := by
  obtain ⟨c, hc, hstate⟩ := h.call
  refine ⟨?_, fun v hv => ?_⟩
  · rw [Phone.call_eq hc]
    exact hstate
  · obtain ⟨vc, hvc, hquiet⟩ := h.voice v hv
    rw [RadioHAL.voice, List.getD_eq_getElem?_getD, hvc]
    exact hquiet

/-- Where no voice call begins to ring, only the call is to be looked at. -/
theorem of_radio (h : Upright s₁ ref s) (hradio : s.radio.NoRingback s'.radio)
    (hcall : s'.Knows (fun c => c.state ≠ .ringingOut) ref) : Upright s₁ ref s' := by
  refine ⟨hcall, fun v hv => ?_⟩
  obtain ⟨vc, hvc, hquiet⟩ := h.voice v hv
  obtain ⟨vc', hvc', hkept⟩ := hradio v vc hvc
  exact ⟨vc', hvc', fun halerting => hquiet (hkept halerting)⟩

theorem knows_modify {f : VoLTECall → VoLTECall} {r : ℕ} (h : Upright s₁ ref s)
    (hheap : s'.callHeap = s.callHeap.modify r f)
    (hf : ∀ c, s.callHeap[r]? = some c → r = ref → c.state ≠ .ringingOut → (f c).state ≠ .ringingOut) :
    s'.Knows (fun c => c.state ≠ .ringingOut) ref := by
  obtain ⟨c, hc, hstate⟩ := h.call
  by_cases hr : r = ref
  · obtain rfl := hr
    exact ⟨f c, by rw [hheap, List.getElem?_modify_eq, hc]; rfl, hf c hc rfl hstate⟩
  · exact ⟨c, by rw [hheap, List.getElem?_modify_ne f _ hr, hc], hstate⟩

end Upright

theorem Micro.upright {C : VoLTECall → Prop} {s₁ s s' : Phone} {ref : ℕ} (h : Micro C s s')
    (hs : Upright s₁ ref s) : Upright s₁ ref s' := by
  cases h with
  | other hheap _ _ haside =>
      refine hs.of_radio haside.alerting ?_
      obtain ⟨c, hc, hstate⟩ := hs.call
      exact ⟨c, hheap ▸ hc, hstate⟩
  | created c _ _ =>
      refine hs.of_radio (.of_eq rfl) ?_
      obtain ⟨x, hx, hstate⟩ := hs.call
      exact ⟨x, (List.getElem?_append_left (List.getElem?_eq_some_iff.mp hx).1).trans hx, hstate⟩
  | deleted callId => exact hs.of_radio (.of_eq rfl) hs.call
  | popped _ => exact hs.of_radio (.of_eq rfl) (hs.knows_modify rfl fun _ _ _ hstate => hstate)
  | changed r f hf hheap _ _ haside =>
      exact hs.of_radio haside.alerting
        (hs.knows_modify hheap fun c hc _ hstate => (hf c hc).not_ringingOut hstate)

theorem First.upright {p : PhonePool} {op : Operation} {s₁ s' : Phone} {ref : ℕ}
    (hcond : ¬RingsAgain s₁ ref p (.spawn op)) (h : First op p.state s')
    (hs : Upright s₁ ref p.state) : Upright s₁ ref s' := by
  cases h with
  | nothing => exact hs
  | @reinvite _ msg r addr _ =>
      exact hs.of_radio (.of_eq rfl)
        (hs.knows_modify rfl fun c _ _ hstate => c.reinvite_not_ringingOut _ hstate)
  | @ringing _ msg r addr hring =>
      refine ⟨hs.knows_modify (Phone.ringBack_callHeap r _) fun _ _ heq => ?_, fun v hv => ?_⟩
      · exact absurd ⟨msg, rfl, r, hring.2.2.1, hring, Or.inl heq⟩ hcond
      · obtain ⟨vc, hvc, hquiet⟩ := hs.voice v hv
        refine ⟨vc, ?_, hquiet⟩
        unfold Phone.ringBack
        split
        · next w hw =>
            have hne : w ≠ v := fun heq =>
              hcond ⟨msg, rfl, r, hring.2.2.1, hring, Or.inr ⟨w, hw, heq ▸ hv⟩⟩
            exact (List.getElem?_modify_ne _ _ hne).trans hvc
        · exact hvc

/-! ### What a 180 does -/

theorem PhonePool.step_ringing {p p' : PhonePool} {msg : SIPMessage} {addr : Text × ℕ} {r : ℕ}
    (hring : IsRinging p.state msg r) (h : p.step (.spawn (.incoming msg addr)) = some p') :
    p'.state.callHeap = (p.state.ringBack r).callHeap ∧
      p'.state.radio.voices = (p.state.ringBack r).radio.voices := by
  have hrun : (Operation.incoming msg addr).run.run p.state =
      (when (p.state.ringbackVoice r).isSome (RadioHAL.sendIndication 1001) >>=
        fun _ => pure OperationResult.none).run (p.state.ringBack r) :=
    handleIncomingSip_ringing addr hring _
  rw [PhonePool.step_spawn h, hrun]
  unfold Async.when
  split_ifs
  · exact ⟨rfl, rfl⟩
  · exact ⟨rfl, rfl⟩

/-- A 180 for the call, or for one of its quiet voice calls, makes it ring. -/
theorem Upright.rings {s₁ : Phone} {ref : ℕ} {p p' : PhonePool} {e : PhoneEvent}
    (hs : Upright s₁ ref p.state) (hring : RingsAgain s₁ ref p e) (h : p.step e = some p') :
    ¬NotRinging s₁ ref p'.state := by
  obtain ⟨msg, hmsg, r, -, hring, hcause⟩ := hring
  obtain ⟨addr, rfl⟩ := eq_incoming hmsg
  obtain ⟨hheap, hvoices⟩ := PhonePool.step_ringing hring h
  rintro ⟨hstate, hquiet⟩
  rcases hcause with rfl | ⟨v, hv, hwas⟩
  · obtain ⟨c, hc, -⟩ := hs.call
    have hcall : p'.state.callHeap[r]? = some (c.setState .ringingOut) := by
      rw [hheap, Phone.ringBack_callHeap, List.getElem?_modify_eq, hc]
      rfl
    rw [Phone.call_eq hcall] at hstate
    exact hstate rfl
  · obtain ⟨vc, hvc, -⟩ := hs.voice v hwas
    have hvoice : p'.state.radio.voices[v]? = some (vc.setState .alerting) := by
      rw [hvoices, Phone.ringBack, Option.mem_def.mp hv]
      change (p.state.radio.voices.modify v _)[v]? = _
      rw [List.getElem?_modify_eq, hvc]
      rfl
    refine hquiet v hwas ?_
    rw [RadioHAL.voice, List.getD_eq_getElem?_getD, hvoice]
    rfl

/-! ### Runs -/

/-- **An established call rings again exactly at a 180.**  From a state on in which an outgoing call
is ACTIVE or HELD, the call is never in state RINGING_OUT and no quiet voice call of it comes to
ALERTING, iff no 180 comes in that is taken for the call or for one of these voice calls. -/
theorem ringback_iff {config : VoLTEConfig} {radioHal : Bool} {radio : RadioHAL}
    {random : ℕ → Text} {before es : List PhoneEvent} {p₁ p₂ : PhonePool} {ref : ℕ}
    (h₁ : runFrom PhonePool.step (PhonePool.initial config radioHal radio random) before = some p₁)
    (hup : p₁.state.Established ref) (h₂ : runFrom PhonePool.step p₁ es = some p₂) :
    Always PhonePool.step (fun p => NotRinging p₁.state ref p.state) p₁ es ↔
      Along PhonePool.step (fun p e => ¬RingsAgain p₁.state ref p e) p₁ es := by
  have hany : Along PhonePool.step (fun _ _ => True)
      (PhonePool.initial config radioHal radio random) before :=
    Along.of_forall _ (fun _ _ => trivial) _ _
  have hp₁ : PhonePool.Disciplined (fun _ => True) p₁ :=
    (PhonePool.run_invariant (C := fun _ => True) (I := fun _ => True)
      (fun _ h => h) (fun _ _ h => h) (fun _ => PhonePool.admits_true _ _)
      (PhonePool.initial_disciplined _ config radioHal radio random) trivial hany h₁).1
  have hs₁ : Upright p₁.state ref p₁.state := by
    obtain ⟨c, hc, -, hstate⟩ := hup
    refine ⟨⟨c, hc, fun h => ?_⟩, fun v hv => ?_⟩
    · rw [h] at hstate
      rcases hstate with hstate | hstate <;> cases hstate
    · obtain ⟨-, vc, hvc, hquiet, -⟩ := hv
      exact ⟨vc, hvc, hquiet⟩
  refine always_iff_along PhonePool.step
    (I := fun p => PhonePool.Disciplined (fun _ => True) p ∧ Upright p₁.state ref p.state)
    (fun p h => h.2.notRinging) ?_ ?_ ⟨hp₁, hs₁⟩ h₂
  · rintro p e p' ⟨hp, hs⟩ hcond h
    obtain ⟨hp', s, hseg, hfirst⟩ := PhonePool.step_spec hp (PhonePool.admits_true p e) h
    refine ⟨hp', (volteDiscipline _).segment_invariant Micro.upright hseg ?_⟩
    rcases hfirst with rfl | ⟨op, rfl, hfirst⟩
    · exact hs
    · exact hfirst.upright hcond hs
  · rintro p e p' ⟨-, hs⟩ hcond h
    exact hs.rings (not_not.mp hcond) h

/-- A response with the Call-ID of the first outgoing call. -/
def dialResponse (code : ℤ) (sdp : String) : Operation :=
  .incoming
    { statusCode := some code
      headers := Dict.ofList [("Call-ID".toList, "0".toList)]
      body := encodeUtf8 sdp.toList }
    ("pcscf".toList, 5060)

/-- The phone dials a number, and the call is answered. -/
def dialedRun : List PhoneEvent :=
  [.spawn .start, .spawn (.dial "1".toList), .resume 1,
    .spawn (dialResponse 200 "c=IN IP4 10.0.0.1\r\nm=audio 4000 RTP/AVP 0"),
    .resume 1, .resume 1, .resume 1, .resume 1]

/-- The phone after that. -/
def dialedPhone : PhonePool := (runFrom PhonePool.step testPhone dialedRun).getD testPhone

theorem dialedPhone_run : runFrom PhonePool.step testPhone dialedRun = some dialedPhone :=
  (Option.getD_of_ne_none (Option.isSome_iff_ne_none.mp (by decide +kernel)) _).symm

/-- The call is put on hold and resumed, and does not ring again. -/
theorem ringback_iff_held : Always PhonePool.step (fun p => NotRinging dialedPhone.state 0 p.state)
    dialedPhone [.spawn (.holdCall "0".toList), .spawn (dialResponse 200 ""), .resume 3, .resume 3,
      .spawn (.resumeCall "0".toList), .spawn (dialResponse 200 ""), .resume 5, .resume 5] := by
  obtain ⟨p₂, h₂, -⟩ : ∃ p₂, runFrom PhonePool.step dialedPhone
      [.spawn (.holdCall "0".toList), .spawn (dialResponse 200 ""), .resume 3, .resume 3,
        .spawn (.resumeCall "0".toList), .spawn (dialResponse 200 ""), .resume 5, .resume 5] = some p₂ ∧
      (p₂.state.call 0).state = .active := exists_run PhonePool.step (by decide +kernel)
  exact (ringback_iff dialedPhone_run (by decide +kernel) h₂).mpr (by decide +kernel)

/-- A 180 comes in while the user puts the call on hold: the call rings out again, and its voice call
is in state ALERTING. -/
theorem ringback_on_hold : ∃ p₁ p₂, runFrom PhonePool.step testPhone dialedRun = some p₁ ∧
    p₁.state.Established 0 ∧ p₁.state.QuietVoice 0 0 ∧
    runFrom PhonePool.step p₁ [.spawn (.holdCall "0".toList), .spawn (dialResponse 180 "")] = some p₂ ∧
    (p₂.state.call 0).state = .ringingOut ∧ (p₂.state.radio.voice 0).state = .alerting ∧
    ¬NotRinging p₁.state 0 p₂.state := by
  obtain ⟨p₂, h₂, hstate, hvoice⟩ : ∃ p₂, runFrom PhonePool.step dialedPhone
      [.spawn (.holdCall "0".toList), .spawn (dialResponse 180 "")] = some p₂ ∧
      (p₂.state.call 0).state = .ringingOut ∧ (p₂.state.radio.voice 0).state = .alerting :=
    exists_run PhonePool.step (by decide +kernel)
  exact ⟨dialedPhone, p₂, dialedPhone_run, by decide +kernel, by decide +kernel, h₂, hstate, hvoice,
    fun hnot => hnot.1 hstate⟩

end VirtualPhone
