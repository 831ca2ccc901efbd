import VirtualPhone.LateCancel
import VirtualPhone.VolteRequests
import VirtualPhone.Runtime.Upkeep

/-! # The counter of active calls

`_volte_state['active_calls']` is worked out from the table by `countActive`, at some points of some
methods.  Between the change of a call and that point a method may be suspended, and other methods
run; and there are paths on which the point is not reached.

This file has the number the counter should show, the conditions under which every path reaches the
point (`Operation.Starts`, `Operation.ResumesWell`), and what single statements do to the counter. -/

namespace Runtime.Dict

variable {α β : Type} [DecidableEq α]

theorem countP_erase {p : β → Bool} {d : Dict α β} {k : α} (h : ∀ v, d.get? k = some v → ¬p v) :
    (d.erase k).values.countP p = d.values.countP p := by
  simp only [values, erase, List.countP_map, List.countP_filter]
  refine List.countP_congr fun e he => ?_
  simp only [Function.comp_apply, Bool.and_eq_true, decide_eq_true_eq, and_iff_left_iff_imp]
  rintro hp rfl
  exact h e.2 ((d.get?_eq_some_iff e.1 e.2).mpr he) hp

/-- An entry that does not count can be written over one that does not, or be new. -/
theorem countP_set {p : β → Bool} {d : Dict α β} {k : α} {v : β}
    (h : ∀ w, d.get? k = some w → ¬p w) (hv : ¬p v) : (d.set k v).values.countP p = d.values.countP p := by
  unfold set
  split_ifs with hk
  · simp only [values, modify, mapEntry, List.countP_map]
    refine List.countP_congr fun e he => ?_
    simp only [Function.comp_apply]
    split_ifs with hek
    · subst hek
      have hold := h e.2 ((d.get?_eq_some_iff e.1 e.2).mpr he)
      exact ⟨fun hp => absurd hp hv, fun hp => absurd hp hold⟩
    · exact Iff.rfl
  · simp only [values, List.map_append, List.map_singleton, List.countP_append, List.countP_singleton,
      if_neg hv, Nat.add_zero]

end Runtime.Dict

namespace VirtualPhone

open Runtime
open Coro (get modify raise attempt)
open Async (when whenSome ignore onTimeout)

/-! ### The number of active calls -/

namespace Phone

/-- The table has an ACTIVE call under this Call-ID. -/
def HasActive (s : Phone) (callId : Text) : Prop :=
  ∃ ref ∈ s.calls.get? callId, (s.call ref).state = .active

instance (s : Phone) (callId : Text) : Decidable (s.HasActive callId) :=
  inferInstanceAs (Decidable (∃ _ ∈ _, _))

/-- `active_calls` is the number of calls in the table that are ACTIVE. -/
def Counted (s : Phone) : Prop := s.volteState.activeCalls = s.activeCount

instance (s : Phone) : Decidable s.Counted := inferInstanceAs (Decidable (_ = _))

/-- The counter, and what it counts. -/
def counter : Tally Phone ℕ where
  value := activeCount
  shown s := s.volteState.activeCalls

theorem countActive_counted (s : Phone) : s.countActive.Counted := rfl

variable {s s' : Phone}

theorem Counted.of_states (hcalls : s'.calls = s.calls)
    (hactive : ∀ ref ∈ s.calls.values, (s'.call ref).state = .active ↔ (s.call ref).state = .active)
    (hcounter : s'.volteState.activeCalls = s.volteState.activeCalls) (h : s.Counted) : s'.Counted := by
  unfold Counted activeCount
  rw [hcounter, hcalls, h]
  refine List.countP_congr fun ref href => ?_
  rw [decide_eq_true_eq, decide_eq_true_eq]
  exact (hactive ref href).symm

theorem Counted.modifyCall {ref : ℕ} {f : VoLTECall → VoLTECall}
    (hf : ref ∈ s.calls.values → ((f (s.call ref)).state = .active ↔ (s.call ref).state = .active))
    (h : s.Counted) : (s.modifyCall ref f).Counted := by
  refine Counted.of_states (s := s) rfl (fun r hr => ?_) rfl h
  rw [call_modifyCall]
  split_ifs with hboth
  · obtain rfl := hboth.1
    exact hf hr
  · exact Iff.rfl

/-- A call that is not ACTIVE is taken out of the table. -/
theorem Counted.delCall {callId : Text} (hactive : ¬s.HasActive callId) (h : s.Counted) :
    (s.delCall callId).Counted := by
  refine Eq.trans h (Dict.countP_erase fun ref href => ?_).symm
  rw [decide_eq_true_eq]
  exact fun hstate => hactive ⟨ref, href, hstate⟩

theorem Counted.popCall {callId : Text} {ref : ℕ} (hactive : ¬s.HasActive callId) (h : s.Counted) :
    (s.popCall callId ref).Counted :=
  (h.delCall hactive).modifyCall fun _ => Iff.rfl

/-- The calls behind the references of the table, when a call is made. -/
theorem call_newCall {c : VoLTECall} {callId : Text} {ref : ℕ} (h : s.calls.get? callId = some ref) :
    (s.newCall c).call ref = s.call ref := by
  rw [call_append rfl, if_neg (s.valid callId ref h).ne]

theorem call_newCall_self (s : Phone) (c : VoLTECall) : (s.newCall c).call s.callHeap.length = c := by
  rw [call_append rfl, if_pos rfl]

theorem HasActive.of_newCall {c : VoLTECall} {callId : Text} (hc : c.state ≠ .active)
    (h : (s.newCall c).HasActive callId) : s.HasActive callId := by
  obtain ⟨ref, href, hstate⟩ := h
  change (s.calls.set c.sipCallId s.callHeap.length).get? callId = some ref at href
  rw [Dict.get?_set] at href
  split_ifs at href with hid
  · obtain rfl := Option.some.inj href
    rw [call_newCall_self] at hstate
    exact absurd hstate hc
  · rw [call_newCall href] at hstate
    exact ⟨ref, href, hstate⟩

/-- A call that is not ACTIVE is made, and takes the place of none that is. -/
theorem Counted.newCall {c : VoLTECall} (hactive : ¬s.HasActive c.sipCallId) (hc : c.state ≠ .active)
    (h : s.Counted) : (s.newCall c).Counted := by
  have hcall : ∀ ref ∈ s.calls.values, (s.newCall c).call ref = s.call ref := by
    intro ref href
    obtain ⟨k, hk⟩ := (Dict.mem_values_iff _ _).mp href
    exact call_newCall hk
  have hset : (s.newCall c).activeCount =
      s.calls.values.countP fun ref => ((s.newCall c).call ref).state = .active := by
    refine Dict.countP_set (fun ref href => ?_) ?_
    · rw [decide_eq_true_eq, hcall ref ((Dict.mem_values_iff _ _).mpr ⟨_, href⟩)]
      exact fun hstate => hactive ⟨ref, href, hstate⟩
    · rw [decide_eq_true_eq, call_newCall_self]
      exact hc
  refine Eq.trans h (Eq.trans ?_ hset.symm)
  refine List.countP_congr fun ref href => ?_
  rw [hcall ref href]

end Phone

/-! ### The conditions -/

namespace Phone

/-- The manager can send requests. -/
def Running (s : Phone) : Prop := s.sipClient.isSome ∧ s.started

instance (s : Phone) : Decidable s.Running := inferInstanceAs (Decidable (_ ∧ _))

/-- The sender of request `i` gets another response than 200, or a time-out. -/
def InviteFails (s : Phone) (i : ℕ) : Prop :=
  (∃ msg ∈ s.response? i, msg.statusCode ≠ some 200) ∨ s.response? i = none ∧ ¬s.Crossed i

instance (s : Phone) (i : ℕ) : Decidable (s.InviteFails i) :=
  inferInstanceAs (Decidable ((∃ _ ∈ _, _) ∨ _))

/-- The sender of request `i` gets a 200 or a 202. -/
def ReferAccepted (s : Phone) (i : ℕ) : Prop :=
  ∃ msg ∈ s.response? i, msg.statusCode = some 200 ∨ msg.statusCode = some 202

instance (s : Phone) (i : ℕ) : Decidable (s.ReferAccepted i) :=
  inferInstanceAs (Decidable (∃ _ ∈ _, _))

instance (s : Phone) (msg : SIPMessage) (ref : ℕ) : Decidable (IsRinging s msg ref) :=
  inferInstanceAs (Decidable (_ ∧ (∃ _ ∈ _, _) ∧ _))

/-- No CANCEL and no 180 is for an ACTIVE call, and a re-INVITE takes no ACTIVE call off the air and
puts no other on it. -/
def Minds (s : Phone) (msg : SIPMessage) : Prop :=
  ∀ ref ∈ s.calls.get? msg.callId,
    (msg.IsCancel ∨ IsRinging s msg ref → (s.call ref).state ≠ .active) ∧
    (msg.IsInvite → (HoldsRemotely (decodeUtf8 msg.body) → (s.call ref).state ≠ .active) ∧
      (ResumesRemotely (decodeUtf8 msg.body) → (s.call ref).state = .active))

instance (s : Phone) (msg : SIPMessage) : Decidable (s.Minds msg) :=
  inferInstanceAs (Decidable (∀ _ ∈ _, _))

end Phone

namespace Operation

/-- The operation may place a call. -/
def Dials : Operation → Prop
  | .initiateCall _ _ => True
  | .dial _ => True
  | .incoming msg _ => msg.statusCode = none ∧
      (msg.method = some "INVITE".toList ∨ msg.method = some "REFER".toList)
  | _ => False

/-- The operation may hang up calls. -/
def HangsUp : Operation → Prop
  | .hangupCall _ => True
  | .hangup _ => True
  | .hangupAll => True
  | .stop => True
  | .incoming msg _ => msg.statusCode = none ∧
      (msg.method = some "NOTIFY".toList ∨ msg.method = some "REFER".toList)
  | _ => False

/-- The calls the operation hangs up have this Call-ID, where it has one. -/
def Targets : Operation → Text → Prop
  | .hangupCall callId', callId => callId = callId'
  | .incoming msg _, callId => callId = msg.callId
  | _, _ => True

/-- The operation counts the calls again when a request of it has its final response. -/
def Recounts : Operation → Prop
  | .initiateCall _ _ => False
  | .dial _ => False
  | .transferCall _ _ => False
  | .attendedTransfer _ _ => False
  | .explicitCallTransfer => False
  | _ => True

/-- The call that the operation transfers, when it starts in `s`. -/
def transferee (s : Phone) : Operation → Option ℕ
  | .transferCall callId _ => s.calls.get? callId
  | .explicitCallTransfer =>
      (s.radio.findLast? (·.state = .holding)).bind fun held => s.calls.get? (s.radio.voice held).sipCallId
  | _ => none

instance (op : Operation) : Decidable op.Dials := by
  induction op using Operation.casesOn <;> unfold Dials <;> infer_instance

instance (op : Operation) : Decidable op.HangsUp := by
  induction op using Operation.casesOn <;> unfold HangsUp <;> infer_instance

instance (op : Operation) (callId : Text) : Decidable (op.Targets callId) := by
  induction op using Operation.casesOn <;> unfold Targets <;> infer_instance

instance (op : Operation) : Decidable op.Recounts := by
  induction op using Operation.casesOn <;> unfold Recounts <;> infer_instance

/-- A Call-ID the operation draws now is not that of an ACTIVE call, and a call it hangs up now can be
told to the other side or is not ACTIVE. -/
structure Steady (op : Operation) (s : Phone) : Prop where
  dials : op.Dials → ¬s.HasActive (s.draw 0)
  hangsUp : op.HangsUp → s.Running ∨ ∀ callId ∈ s.calls.keys, op.Targets callId → ¬s.HasActive callId

instance (op : Operation) (s : Phone) : Decidable (op.Steady s) :=
  decidable_of_iff ((op.Dials → ¬s.HasActive (s.draw 0)) ∧
    (op.HangsUp → s.Running ∨ ∀ callId ∈ s.calls.keys, op.Targets callId → ¬s.HasActive callId))
    ⟨fun h => ⟨h.1, h.2⟩, fun h => ⟨h.dials, h.hangsUp⟩⟩

/-- The operation can start in `s`. -/
def Starts (s : Phone) (op : Operation) : Prop :=
  op.Steady s ∧ match op with
    | .incoming msg _ => s.Minds msg
    | _ => True

/-- What an operation that started in `s₀` finds when it goes on with what request `i` got: no late
response took the request away from an operation that is behind with its count, no INVITE failed whose
call is ACTIVE, and the call of an accepted transfer is ACTIVE. -/
structure Receives (op : Operation) (s₀ s : Phone) (behind : Prop) (i : ℕ) : Prop where
  crossed : op.Recounts → behind → ¬s.Crossed i
  invite : s.InviteFails i → ∀ c ∈ s.callHeap, c.history.inviteRequest = some i → ¬s.HasActive c.sipCallId
  transfer : s.ReferAccepted i → ∀ ref ∈ op.transferee s₀, ref ∈ s.calls.values →
    (s.call ref).state = .active

/-- The operation, started in `s₀`, can go on in `s`, where it is `behind` or not: it has changed the
number of ACTIVE calls, and the counter has not been rewritten since. -/
def ResumesWell (op : Operation) (s₀ s : Phone) (behind : Prop) (w : Await) : Prop :=
  op.Steady s ∧ (op.HangsUp → behind → s.Running) ∧ match w with
    | .response i => op.Receives s₀ s behind i
    | _ => True

instance (op : Operation) (s : Phone) : Decidable (op.Starts s) := by
  unfold Starts
  induction op using Operation.casesOn <;> infer_instance

instance (op : Operation) (s₀ s : Phone) (behind : Prop) [Decidable behind] (i : ℕ) :
    Decidable (op.Receives s₀ s behind i) :=
  decidable_of_iff ((op.Recounts → behind → ¬s.Crossed i) ∧
    (s.InviteFails i → ∀ c ∈ s.callHeap, c.history.inviteRequest = some i → ¬s.HasActive c.sipCallId) ∧
    (s.ReferAccepted i → ∀ ref ∈ op.transferee s₀, ref ∈ s.calls.values → (s.call ref).state = .active))
    ⟨fun h => ⟨h.1, h.2.1, h.2.2⟩, fun h => ⟨h.crossed, h.invite, h.transfer⟩⟩

instance (op : Operation) (s₀ s : Phone) (behind : Prop) [Decidable behind] (w : Await) :
    Decidable (op.ResumesWell s₀ s behind w) := by
  unfold ResumesWell
  induction w using Await.casesOn <;> infer_instance

variable {op : Operation} {s s' : Phone}

/-- What does not draw, stop the manager or make a call ACTIVE leaves an operation steady. -/
theorem Steady.of_active (h : op.Steady s) (hdraw : s'.draw 0 = s.draw 0) (hrunning : s.Running → s'.Running)
    (hactive : ∀ callId, s'.HasActive callId → s.HasActive callId) : op.Steady s' := by
  refine ⟨fun hdials hnew => h.dials hdials ?_, fun hhangs => (h.hangsUp hhangs).imp hrunning ?_⟩
  · exact hdraw ▸ hactive _ hnew
  · intro hall callId _ htargets hnew
    obtain ⟨ref, href, hstate⟩ := hactive callId hnew
    exact hall callId (Dict.mem_keys_of_get? href) htargets ⟨ref, href, hstate⟩

/-- A call that a steady operation may hang up can be hung up. -/
theorem Steady.can (h : op.Steady s) (hhangs : op.HangsUp) {callId : Text} (htargets : op.Targets callId) :
    s.Running ∨ ¬s.HasActive callId := by
  refine (h.hangsUp hhangs).imp id fun hall hactive => ?_
  obtain ⟨ref, href, hstate⟩ := hactive
  exact hall callId (Dict.mem_keys_of_get? href) htargets ⟨ref, href, hstate⟩

end Operation

/-! ### Statements that leave the counter alone -/

/-- The table, the calls of it that are ACTIVE, and the counter stay. -/
structure SameCount (s s' : Phone) : Prop where
  calls : s'.calls = s.calls
  active : ∀ ref, (s'.call ref).state = .active ↔ (s.call ref).state = .active
  counter : s'.volteState.activeCalls = s.volteState.activeCalls

namespace SameCount

variable {s s' : Phone}

theorem refl (s : Phone) : SameCount s s := ⟨rfl, fun _ => Iff.rfl, rfl⟩

theorem of_eq (hheap : s'.callHeap = s.callHeap) (hcalls : s'.calls = s.calls)
    (hcounter : s'.volteState.activeCalls = s.volteState.activeCalls) : SameCount s s' :=
  ⟨hcalls, fun ref => by rw [Phone.call, hheap, Phone.call], hcounter⟩

theorem modifyCall {f : VoLTECall → VoLTECall} (hf : ∀ c, (f c).state = c.state) (ref : ℕ) (s : Phone) :
    SameCount s (s.modifyCall ref f) := by
  refine ⟨rfl, fun r => ?_, rfl⟩
  rw [Phone.call_modifyCall]
  split_ifs
  · rw [hf]
  · exact Iff.rfl

theorem counted (h : SameCount s s') : s.Counted → s'.Counted :=
  .of_states h.calls (fun ref _ => h.active ref) h.counter

theorem hasActive (h : SameCount s s') (callId : Text) : s'.HasActive callId ↔ s.HasActive callId := by
  unfold Phone.HasActive
  rw [h.calls]
  exact exists_congr fun ref => and_congr_right fun _ => h.active ref

end SameCount

/-- What a statement may do that leaves the counter alone. -/
def countDiscipline : Discipline Phone Await where
  micro := SameCount
  later := fun _ _ => True
  resumes := fun _ _ => True
  refl := fun _ => trivial
  trans := fun _ _ => trivial
  micro_later := fun _ => trivial

/-- The statement changes nothing that is counted, and raises only exceptions in `E`. -/
def Uncounted {α : Type} (E : PyError → Prop) (body : Async α) : Prop :=
  ∀ s, body.Guarantees countDiscipline (fun r _ => ∀ e, r = .error e → E e) s

namespace Uncounted

variable {α β : Type} {E : PyError → Prop}

theorem pure (a : α) : Uncounted E (Pure.pure a : Async α) := fun _ e h => by cases h

theorem lift {x : Except PyError α} (h : ∀ e, x = .error e → E e) : Uncounted E (Async.lift x) := fun _ => h

theorem raise {e : PyError} (h : E e) : Uncounted E (Coro.raise e : Async α) :=
  lift fun e' he => by rwa [← Except.error.inj he]

theorem await (w : Await) : Uncounted E (Coro.await w) := fun _ _ _ _ e h => by cases h

theorem modify {f : Phone → Phone} (h : ∀ s, SameCount s (f s)) : Uncounted E (Coro.modify f) :=
  fun s => ⟨h s, fun e h => by cases h⟩

theorem get_bind {f : Phone → Async β} (h : ∀ s, Uncounted E (f s)) : Uncounted E (Coro.get >>= f) :=
  fun s => h s s

theorem bind {body : Async α} {f : α → Async β} (h : Uncounted E body) (hf : ∀ a, Uncounted E (f a)) :
    Uncounted E (body >>= f) :=
  fun s => (h s).bind (fun a s' _ _ => hf a s') fun _ _ _ he e' h' =>
    he e' (congrArg Except.error (Except.error.inj h'))

theorem attempt {E' : PyError → Prop} {body : Async α} (h : Uncounted E' body) : Uncounted E body.attempt :=
  fun s => Coro.Guarantees.attempt ((h s).mono fun _ _ _ _ e he => by cases he)

theorem mono {E' : PyError → Prop} {body : Async α} (h : Uncounted E body) (hE : ∀ e, E e → E' e) :
    Uncounted E' body := fun s => (h s).mono fun _ _ _ hr e he => hE e (hr e he)

theorem ignore {body : Async α} (h : Uncounted E body) : Uncounted E (Async.ignore body) :=
  h.bind fun _ => .pure ()

theorem when {c : Prop} [Decidable c] {body : Async Unit} (h : Uncounted E body) :
    Uncounted E (Async.when c body) := by
  unfold Async.when
  split_ifs
  · exact h
  · exact .pure ()

theorem onTimeout {body handler : Async α} (h : Uncounted (fun _ => True) body)
    (hhandler : Uncounted (fun _ => True) handler) : Uncounted (fun _ => True) (Async.onTimeout body handler) := by
  refine h.attempt.bind fun r => ?_
  split
  · exact .pure _
  · exact hhandler
  · exact .raise trivial

theorem modifyRadio (f : RadioHAL → RadioHAL) : Uncounted E (VirtualPhone.modifyRadio f) :=
  .modify fun _ => .of_eq rfl rfl rfl

theorem modifyCall {ref : ℕ} {f : VoLTECall → VoLTECall} (hf : ∀ c, (f c).state = c.state) :
    Uncounted E (VirtualPhone.modifyCall ref f) := .modify (.modifyCall hf ref)

end Uncounted

section

variable {E : PyError → Prop}

theorem sendIfClient_uncounted (msg : SIPMessage) (addr : Text × ℕ) : Uncounted E (sendIfClient msg addr) := by
  refine .modify fun s => ?_
  split_ifs
  · exact .of_eq rfl rfl rfl
  · exact .refl s

theorem sendInviteOk_uncounted (ref : ℕ) (msg : SIPMessage) (callId : Text) (addr : Text × ℕ) :
    Uncounted E (sendInviteOk ref msg callId addr) := by
  refine .modify fun s => ?_
  split_ifs
  · have hrecord := SameCount.modifyCall (f := VoLTECall.record fun h => { h with okSent := true })
      (fun _ => rfl) ref s
    exact ⟨hrecord.calls, hrecord.active, hrecord.counter⟩
  · exact .refl s

theorem sendAck_uncounted (ref : ℕ) : Uncounted E (sendAck ref) := .modify fun _ => .of_eq rfl rfl rfl

theorem beginRequest_sameCount (args : RequestArgs) (s : Phone) : SameCount s (s.beginRequest args) := by
  unfold Phone.beginRequest
  split
  · exact .refl s
  · exact .of_eq rfl rfl rfl

theorem modifyClient_uncounted (f : Session → Session) : Uncounted E (modify (Phone.modifyClient f)) :=
  .modify fun _ => .of_eq rfl rfl rfl

theorem sendRequest_uncounted (args : RequestArgs) : Uncounted (fun _ => True) (sendRequest args) := by
  refine .get_bind fun s => ?_
  split
  · exact .raise trivial
  · refine .bind (.modify (beginRequest_sameCount args)) fun _ => ?_
    refine .bind (.await _) fun _ => .get_bind fun s => ?_
    split
    · exact (modifyClient_uncounted _).bind fun _ => .pure _
    · refine (modifyClient_uncounted _).bind fun _ => .get_bind fun s => ?_
      split <;> exact .raise trivial

theorem sendDialogRequest_uncounted (ref : ℕ) (method : String) (headers : List (Text × Text)) (body : Bytes) :
    Uncounted (fun _ => True) (sendDialogRequest ref method headers body) :=
  .get_bind fun _ => sendRequest_uncounted _

namespace RadioHAL

theorem sendIndication_uncounted (indication : ℕ) : Uncounted E (sendIndication indication) :=
  (Uncounted.modifyRadio _).bind fun _ => .await _

theorem removeVoice_uncounted (v : ℕ) : Uncounted (fun _ => True) (removeVoice v) :=
  .get_bind fun _ => (Uncounted.lift fun _ _ => trivial).bind fun _ => .modifyRadio _

theorem updateCallState_uncounted (callIndex : ℕ) (state : CallState) :
    Uncounted E (updateCallState callIndex state) := by
  refine .get_bind fun s => ?_
  split
  · exact (Uncounted.modifyRadio _).bind fun _ => sendIndication_uncounted _
  · exact .pure ()

end RadioHAL

theorem updateRadio_uncounted (ref : ℕ) (state : CallState) : Uncounted E (updateRadio ref state) :=
  .get_bind fun _ => .when (RadioHAL.updateCallState_uncounted _ _)

theorem dropVoice_uncounted (callId : Text) : Uncounted E (dropVoice callId) :=
  .get_bind fun _ => .when ((Uncounted.modifyRadio _).bind fun _ => RadioHAL.sendIndication_uncounted _)

theorem modifySession_uncounted (ref m : ℕ) (f : MediaSession → MediaSession) :
    Uncounted E (modifyCall ref (VoLTECall.modifySession m f)) := .modifyCall fun _ => rfl

theorem MediaSession.start_uncounted (ref m localPort : ℕ) (remoteAddr : Text × ℤ) (codec : Text)
    (payloadType : ℤ) :
    Uncounted (fun _ => True) (MediaSession.start ref m localPort remoteAddr codec payloadType) := by
  refine (modifySession_uncounted ref m _).bind fun _ => .bind (.await _) fun _ => ?_
  split
  · exact .raise trivial
  · refine .bind (.await _) fun _ => ?_
    split
    · exact .raise trivial
    · exact modifySession_uncounted ref m _

/-- Starting media raises at most the error of `int(...)`. -/
theorem startMedia_uncounted (ref : ℕ) : Uncounted (· = intError) (startMedia ref) := by
  refine .get_bind fun s => ?_
  split_ifs
  · exact .pure ()
  · refine .bind (.lift fun _ => parseRemoteRtpAddress_error) fun remoteAddr => ?_
    split_ifs
    · exact .pure ()
    · refine .bind (.lift fun _ => parsePayloadType_error) fun payloadType => ?_
      refine .bind (.modifyCall fun _ => rfl) fun _ => ?_
      refine .bind (.attempt (MediaSession.start_uncounted _ _ _ _ _ _)) fun r => ?_
      split
      · exact .modifyCall fun _ => rfl
      · exact .pure ()

theorem stopMedia_uncounted (ref : ℕ) : Uncounted E (stopMedia ref) := by
  refine .get_bind fun s => ?_
  split
  · refine .bind ((modifySession_uncounted ref _ _).bind fun _ => .await _) fun _ => ?_
    exact .modifyCall fun _ => rfl
  · exact .pure ()

end

end VirtualPhone
