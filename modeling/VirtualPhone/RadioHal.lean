import VirtualPhone.Runtime.Text
import VirtualPhone.Runtime.Dict

/-! # The voice calls of the radio

The part of `RadioHAL` of `hal/radio_hal.py` that the call manager works with: the list of voice
calls, and the call-forwarding rules of `ims/supplementary.py`.

A `VoiceCall` is an object: operations keep a reference to one while they wait, and it can leave
the list meanwhile.  `voices` holds every voice call made so far, and the list holds numbers of
them. -/

namespace VirtualPhone

open Runtime

/-! ### Voice calls -/

/-- `CallState`. -/
inductive CallState
  | active
  | holding
  | dialing
  | alerting
  | incoming
  | waiting
deriving DecidableEq, Repr

/-- `VoiceCall`. -/
structure VoiceCall where
  index : ℕ := 1
  state : CallState := .dialing
  isMt : Bool := false
  isMpty : Bool := false
  number : Text := []
  sipCallId : Text := []
deriving DecidableEq

/-- The voice call in another state. -/
def VoiceCall.setState (state : CallState) (vc : VoiceCall) : VoiceCall := { vc with state := state }

/-- The voice call bound to a SIP call. -/
def VoiceCall.setSipCallId (callId : Text) (vc : VoiceCall) : VoiceCall :=
  { vc with sipCallId := callId }

/-- The voice call as a party of a conference. -/
def VoiceCall.join (vc : VoiceCall) : VoiceCall := { vc with isMpty := true, state := .active }

/-- The voice call taken out of its conference. -/
def VoiceCall.separate (vc : VoiceCall) : VoiceCall := { vc with isMpty := false, state := .holding }

/-! ### Call forwarding -/

/-- `CallForwardReason`. -/
inductive CallForwardReason
  | unconditional
  | busy
  | noReply
  | notReachable
  | all
  | allConditional
deriving DecidableEq, Repr

/-- `CallForwardRule`. -/
structure CallForwardRule where
  reason : CallForwardReason := .unconditional
  enabled : Bool := false
  number : Text := []
  timeSeconds : ℤ := 20
deriving DecidableEq

/-- `CallForwardingManager`. -/
structure CallForwardingManager where
  rules : Dict CallForwardReason CallForwardRule := Dict.empty
deriving DecidableEq

namespace CallForwardingManager

/-- `set_rule(reason, number, time_seconds)`. -/
def setRule (m : CallForwardingManager) (reason : CallForwardReason) (number : Text)
    (timeSeconds : ℤ) : CallForwardingManager :=
  { rules := m.rules.set reason
      { reason := reason, enabled := true, number := number, timeSeconds := timeSeconds } }

/-- `enable_rule(reason)` and `disable_rule(reason)`; a rule that is not there stays away. -/
def switchRule (enabled : Bool) (m : CallForwardingManager) (reason : CallForwardReason) :
    CallForwardingManager :=
  { rules := m.rules.modify reason fun rule => { rule with enabled := enabled } }

/-- `enable_rule(reason)`. -/
def enableRule : CallForwardingManager → CallForwardReason → CallForwardingManager := switchRule true

/-- `disable_rule(reason)`. -/
def disableRule : CallForwardingManager → CallForwardReason → CallForwardingManager :=
  switchRule false

/-- `erase_rule(reason)`. -/
def eraseRule (m : CallForwardingManager) : CallForwardReason → CallForwardingManager
  | .all => { rules := Dict.empty }
  | .allConditional =>
      { rules := ((m.rules.erase .busy).erase .noReply).erase .notReachable }
  | reason => { rules := m.rules.erase reason }

/-- The number of a rule that is on. -/
def enabledNumber (m : CallForwardingManager) (reason : CallForwardReason) : Option Text :=
  match m.rules.get? reason with
  | some rule => if rule.enabled then some rule.number else none
  | none => none

/-- `should_forward(reason)`: unconditional forwarding comes before everything else. -/
def shouldForward (m : CallForwardingManager) (reason : CallForwardReason) : Option Text :=
  (m.enabledNumber .unconditional).or (m.enabledNumber reason)

end CallForwardingManager

/-! ### The radio -/

/-- `RadioHAL`: whether a call manager is set, every voice call made so far, the list of calls, and
the indications sent. -/
structure RadioHAL where
  callManager : Bool := true
  voices : List VoiceCall := []
  voiceCalls : List ℕ := []
  nextCallIndex : ℕ := 1
  cfManager : Option CallForwardingManager := none
  indications : List ℕ := []
deriving DecidableEq

namespace RadioHAL

/-- The voice call behind a reference. -/
def voice (r : RadioHAL) (v : ℕ) : VoiceCall := r.voices.getD v {}

/-- The radio with voice call `v` changed. -/
def modifyVoice (v : ℕ) (f : VoiceCall → VoiceCall) (r : RadioHAL) : RadioHAL :=
  { r with voices := r.voices.modify v f }

theorem voice_modifyVoice (v w : ℕ) (f : VoiceCall → VoiceCall) (r : RadioHAL) :
    (r.modifyVoice v f).voice w =
      if v = w ∧ w < r.voices.length then f (r.voice w) else r.voice w := by
  simp only [modifyVoice, voice, List.getD_eq_getElem?_getD, List.getElem?_modify]
  split_ifs with hw hboth hboth
  · rw [List.getElem?_eq_getElem hboth.2]
    rfl
  · rw [List.getElem?_eq_none (by omega)]
    rfl
  · exact absurd hboth.1 hw
  · simp

/-- The first listed call with a property. -/
def find? (r : RadioHAL) (p : VoiceCall → Bool) : Option ℕ := r.voiceCalls.find? fun v => p (r.voice v)

/-- The last listed call with a property. -/
def findLast? (r : RadioHAL) (p : VoiceCall → Bool) : Option ℕ :=
  r.voiceCalls.reverse.find? fun v => p (r.voice v)

/-- `self.voice_calls.append(VoiceCall(...))` with the next index. -/
def append (vc : VoiceCall) (r : RadioHAL) : RadioHAL :=
  { r with
    voices := r.voices ++ [{ vc with index := r.nextCallIndex }]
    voiceCalls := r.voiceCalls ++ [r.voices.length]
    nextCallIndex := r.nextCallIndex + 1 }

/-- `self.voice_calls.remove(vc)`: the first listed call equal to it goes. -/
def remove (v : ℕ) (r : RadioHAL) : Except PyError RadioHAL :=
  match r.find? (· = r.voice v) with
  | some w => .ok { r with voiceCalls := r.voiceCalls.erase w }
  | none => .error (.valueError "list.remove(x): x not in list".toList)

/-- Take the first call with this Call-ID off the list. -/
def dropSipCall (callId : Text) (r : RadioHAL) : RadioHAL :=
  match r.find? (·.sipCallId = callId) with
  | some w => { r with voiceCalls := r.voiceCalls.erase w }
  | none => r

/-- `self.voice_calls.clear()`. -/
def clear (r : RadioHAL) : RadioHAL := { r with voiceCalls := [] }

/-- The radio after an indication. -/
def indicate (indication : ℕ) (r : RadioHAL) : RadioHAL :=
  { r with indications := r.indications ++ [indication] }

/-- Both parties join the conference. -/
def joinParties (a b : Text) (r : RadioHAL) : RadioHAL :=
  r.voiceCalls.foldl (fun r v =>
    if (r.voice v).sipCallId = a ∨ (r.voice v).sipCallId = b then r.modifyVoice v VoiceCall.join
    else r) r

/-! ### Ringing at the other end -/

/-- Every voice call stays, and none begins to ring at the other end. -/
def NoRingback (r r' : RadioHAL) : Prop :=
  ∀ (v : ℕ) (vc : VoiceCall), r.voices[v]? = some vc →
    ∃ vc', r'.voices[v]? = some vc' ∧ (vc'.state = .alerting → vc.state = .alerting)

theorem NoRingback.of_eq {r r' : RadioHAL} (h : r'.voices = r.voices) : NoRingback r r' :=
  fun _ vc hvc => ⟨vc, h ▸ hvc, id⟩

theorem NoRingback.trans {a b c : RadioHAL} (h : NoRingback a b) (h' : NoRingback b c) :
    NoRingback a c := by
  intro v x hx
  obtain ⟨y, hy, hxy⟩ := h v x hx
  obtain ⟨z, hz, hyz⟩ := h' v y hy
  exact ⟨z, hz, hxy ∘ hyz⟩

theorem NoRingback.append (vc : VoiceCall) (r : RadioHAL) : NoRingback r (r.append vc) := by
  intro v x hx
  exact ⟨x, (List.getElem?_append_left (List.getElem?_eq_some_iff.mp hx).1).trans hx, id⟩

theorem NoRingback.modifyVoice {f : VoiceCall → VoiceCall}
    (h : ∀ vc, (f vc).state = .alerting → vc.state = .alerting) (v : ℕ) (r : RadioHAL) :
    NoRingback r (r.modifyVoice v f) := by
  intro w vc hvc
  by_cases hw : v = w
  · refine ⟨f vc, ?_, h vc⟩
    rw [RadioHAL.modifyVoice, hw, List.getElem?_modify_eq, hvc]
    rfl
  · refine ⟨vc, ?_, id⟩
    rw [RadioHAL.modifyVoice, List.getElem?_modify_ne f _ hw, hvc]

theorem NoRingback.setState {state : CallState} (h : state ≠ .alerting) (v : ℕ) (r : RadioHAL) :
    NoRingback r (r.modifyVoice v (VoiceCall.setState state)) :=
  .modifyVoice (fun _ hstate => absurd hstate h) v r

theorem NoRingback.remove {r r' : RadioHAL} {v : ℕ} (h : r.remove v = .ok r') : NoRingback r r' := by
  unfold RadioHAL.remove at h
  split at h
  · rw [← Except.ok.inj h]
    exact .of_eq rfl
  · cases h

theorem NoRingback.dropSipCall (callId : Text) (r : RadioHAL) : NoRingback r (r.dropSipCall callId) := by
  unfold RadioHAL.dropSipCall
  split
  · exact .of_eq rfl
  · exact .of_eq rfl

theorem NoRingback.joinParties (a b : Text) (r : RadioHAL) : NoRingback r (r.joinParties a b) := by
  have hfold : ∀ (vs : List ℕ) (r : RadioHAL), NoRingback r (vs.foldl (fun r v =>
      if (r.voice v).sipCallId = a ∨ (r.voice v).sipCallId = b then r.modifyVoice v VoiceCall.join
      else r) r) := by
    intro vs
    induction vs with
    | nil => exact fun r => .of_eq rfl
    | cons v vs ih =>
        intro r
        rw [List.foldl_cons]
        refine NoRingback.trans ?_ (ih _)
        split_ifs
        · exact .modifyVoice (fun vc h => by cases h) v r
        · exact .of_eq rfl
  exact hfold r.voiceCalls r

end RadioHAL

end VirtualPhone
