import VirtualPhone.VolteNetwork
import VirtualPhone.VolteTransfers

/-! # What a transferee reports

`_handle_incoming_refer` accepts a REFER, reports `100 Trying`, hangs up the call it came in, calls
the target, and reports `200 OK`.  It never looks at what has become of the call to the target.

`referral_truthful_iff` says for which targets, phones and answers of the network the report is
true: where the INVITE to the target is answered with a 200. -/

namespace VirtualPhone

open Runtime
open Coro (get modify raise attempt Passes Throws)
open Async (when whenSome ignore onTimeout)

/-! ### What stays -/

/-- The set-up of a phone stays, no call is new, and the client has begun `k` more requests. -/
structure SetupKept (k : ℕ) (s s' : Phone) : Prop where
  radioHal : s'.radioHal = s.radioHal
  callManager : s'.radio.callManager = s.radio.callManager
  started : s'.started = s.started
  size : s'.callHeap.length = s.callHeap.length
  requests : s'.requests = s.requests.map (· + k)

/-- The table stays, and so do the states and the numbers of the calls. -/
structure TableKept (s s' : Phone) : Prop where
  calls : s'.calls = s.calls
  call : ∀ ref, (s'.call ref).state = (s.call ref).state ∧
    (s'.call ref).remoteNumber = (s.call ref).remoteNumber

/-- Both, with no new request. -/
structure CallsKept (s s' : Phone) : Prop extends SetupKept 0 s s', TableKept s s'

theorem SetupKept.trans {j k : ℕ} {a b c : Phone} (h : SetupKept j a b) (h' : SetupKept k b c) :
    SetupKept (j + k) a c := by
  refine ⟨h'.radioHal.trans h.radioHal, h'.callManager.trans h.callManager, h'.started.trans h.started,
    h'.size.trans h.size, ?_⟩
  rw [h'.requests, h.requests, Option.map_map]
  congr 1
  funext n
  exact Nat.add_assoc n j k

theorem Phone.Asked.setup {k : ℕ} {s s' : Phone} (h : s.Asked k s') : SetupKept k s s' :=
  ⟨h.radioHal, by rw [h.radio], h.started, by rw [h.callHeap], h.requests⟩

theorem Phone.Asked.table {k : ℕ} {s s' : Phone} (h : s.Asked k s') : TableKept s s' := by
  refine ⟨h.calls, fun ref => ?_⟩
  rw [Phone.call, Phone.call, h.callHeap]
  exact ⟨rfl, rfl⟩

theorem TableKept.trans {a b c : Phone} (h : TableKept a b) (h' : TableKept b c) : TableKept a c :=
  ⟨h'.calls.trans h.calls, fun ref =>
    ⟨(h'.call ref).1.trans (h.call ref).1, (h'.call ref).2.trans (h.call ref).2⟩⟩

theorem map_add_zero (n : Option ℕ) : n = n.map (· + 0) := by cases n <;> rfl

namespace CallsKept

theorem refl (s : Phone) : CallsKept s s :=
  ⟨⟨rfl, rfl, rfl, rfl, map_add_zero _⟩, rfl, fun _ => ⟨rfl, rfl⟩⟩

theorem trans {a b c : Phone} (h : CallsKept a b) (h' : CallsKept b c) : CallsKept a c :=
  ⟨h.toSetupKept.trans h'.toSetupKept, h.toTableKept.trans h'.toTableKept⟩

theorem modifyRadio {f : RadioHAL → RadioHAL} (hf : ∀ r, (f r).callManager = r.callManager) (s : Phone) :
    CallsKept s (s.modifyRadio f) :=
  ⟨⟨rfl, hf s.radio, rfl, rfl, map_add_zero _⟩, rfl, fun _ => ⟨rfl, rfl⟩⟩

theorem modifyCall {f : VoLTECall → VoLTECall} (hstate : ∀ c, (f c).state = c.state)
    (hnumber : ∀ c, (f c).remoteNumber = c.remoteNumber) (ref : ℕ) (s : Phone) :
    CallsKept s (s.modifyCall ref f) := by
  refine ⟨⟨rfl, rfl, rfl, List.length_modify f s.callHeap ref, map_add_zero _⟩, rfl, fun r => ?_⟩
  rw [Phone.call_modifyCall]
  split_ifs
  · exact ⟨hstate _, hnumber _⟩
  · exact ⟨rfl, rfl⟩

end CallsKept

section

variable {outcome : ℕ → RequestOutcome} {α β : Type}

/-- Against the network, the method keeps the calls. -/
abbrev LeavesCalls (outcome : ℕ → RequestOutcome) (body : Async α) : Prop :=
  Passes (network outcome) CallsKept body

namespace LeavesCalls

theorem bind {body : Async α} {f : α → Async β} (h : LeavesCalls outcome body)
    (hf : ∀ a, LeavesCalls outcome (f a)) : LeavesCalls outcome (body >>= f) :=
  Passes.bind (fun hab hbc => hab.trans hbc) h hf

theorem get_bind {f : Phone → Async β} (hf : ∀ s, LeavesCalls outcome (f s)) :
    LeavesCalls outcome (get >>= f) := fun s => hf s s

theorem done (r : Except PyError α) : LeavesCalls outcome (Coro.done r : Async α) := CallsKept.refl

theorem pause : LeavesCalls outcome (Coro.await .pause) := CallsKept.refl

theorem modifyRadio {f : RadioHAL → RadioHAL} (hf : ∀ r, (f r).callManager = r.callManager) :
    LeavesCalls outcome (VirtualPhone.modifyRadio f) := fun s => CallsKept.modifyRadio hf s

theorem modifyCall {f : VoLTECall → VoLTECall} {ref : ℕ} (hstate : ∀ c, (f c).state = c.state)
    (hnumber : ∀ c, (f c).remoteNumber = c.remoteNumber) :
    LeavesCalls outcome (VirtualPhone.modifyCall ref f) := fun s => CallsKept.modifyCall hstate hnumber ref s

theorem when {c : Prop} [Decidable c] {body : Async Unit} (h : LeavesCalls outcome body) :
    LeavesCalls outcome (Async.when c body) := by
  unfold Async.when
  split_ifs
  · exact h
  · exact done _

end LeavesCalls

theorem stopMedia_leaves (ref : ℕ) : LeavesCalls outcome (stopMedia ref) := by
  unfold stopMedia MediaSession.stop
  refine LeavesCalls.get_bind fun s => ?_
  split
  · refine LeavesCalls.bind (LeavesCalls.bind ?_ fun _ => LeavesCalls.pause) fun _ => ?_
    · exact LeavesCalls.modifyCall (fun _ => rfl) fun _ => rfl
    · exact LeavesCalls.modifyCall (fun _ => rfl) fun _ => rfl
  · exact LeavesCalls.done _

theorem startMedia_leaves (ref : ℕ) : LeavesCalls outcome (startMedia ref) := by
  have hstart : ∀ m localPort remoteAddr codec payloadType,
      LeavesCalls outcome (MediaSession.start ref m localPort remoteAddr codec payloadType) := by
    intro m localPort remoteAddr codec payloadType
    unfold MediaSession.start
    refine LeavesCalls.bind (LeavesCalls.modifyCall (fun _ => rfl) fun _ => rfl) fun _ => ?_
    refine LeavesCalls.bind LeavesCalls.pause fun _ => ?_
    split_ifs
    · exact LeavesCalls.done _
    · refine LeavesCalls.bind LeavesCalls.pause fun _ => ?_
      exact LeavesCalls.done _
    · refine LeavesCalls.bind LeavesCalls.pause fun _ => ?_
      exact LeavesCalls.modifyCall (fun _ => rfl) fun _ => rfl
  unfold startMedia
  refine LeavesCalls.get_bind fun s => ?_
  split
  · exact LeavesCalls.done _
  · refine LeavesCalls.bind (LeavesCalls.done _) fun remoteAddr => ?_
    split
    · exact LeavesCalls.done _
    · refine LeavesCalls.bind (LeavesCalls.done _) fun payloadType => ?_
      refine LeavesCalls.bind (LeavesCalls.modifyCall (fun _ => rfl) fun _ => rfl) fun _ => ?_
      refine LeavesCalls.bind (hstart _ _ _ _ _).attempt fun r => ?_
      split
      · exact LeavesCalls.modifyCall (fun _ => rfl) fun _ => rfl
      · exact LeavesCalls.done _

theorem when_throws {E : PyError → Prop} {env : Await → Phone → Phone} {c : Prop} [Decidable c]
    {body : Async Unit} (h : Throws env E body) : Throws env E (when c body) := by
  unfold Async.when
  split_ifs
  · exact h
  · exact Throws.pure _

theorem startMedia_throws {env : Await → Phone → Phone} (ref : ℕ) :
    Throws env (· = intError) (startMedia ref) := by
  unfold startMedia
  refine Throws.get_bind fun s => ?_
  split
  · exact Throws.pure _
  · refine Throws.bind (fun _ e h => parseRemoteRtpAddress_error h) fun remoteAddr => ?_
    split
    · exact Throws.pure _
    · refine Throws.bind (fun _ e h => parsePayloadType_error h) fun payloadType => ?_
      refine Throws.bind (Throws.modify _) fun _ => Throws.bind (Throws.attempt _) fun r => ?_
      split
      · exact Throws.modify _
      · exact Throws.pure _

namespace RadioHAL

theorem sendIndication_leaves (indication : ℕ) : LeavesCalls outcome (sendIndication indication) :=
  LeavesCalls.bind (LeavesCalls.modifyRadio fun _ => rfl) fun _ => LeavesCalls.pause

theorem updateCallState_leaves (callIndex : ℕ) (state : CallState) :
    LeavesCalls outcome (updateCallState callIndex state) := by
  unfold updateCallState
  refine LeavesCalls.get_bind fun s => ?_
  split
  · refine LeavesCalls.bind (LeavesCalls.modifyRadio fun _ => rfl) fun _ => ?_
    exact sendIndication_leaves 1001
  · exact LeavesCalls.done _

theorem updateCallState_throws {E : PyError → Prop} {env : Await → Phone → Phone} (callIndex : ℕ)
    (state : CallState) : Throws env E (updateCallState callIndex state) := by
  unfold updateCallState sendIndication
  refine Throws.get_bind fun s => ?_
  split
  · refine Throws.bind (Throws.modify _) fun _ => Throws.bind (Throws.modify _) fun _ => ?_
    exact Throws.await _
  · exact Throws.pure _

theorem removeVoice_leaves (v : ℕ) : LeavesCalls outcome (removeVoice v) := by
  intro s
  have hremove : ∀ r, s.radio.remove v = .ok r → r.callManager = s.radio.callManager := by
    intro r hr
    unfold remove at hr
    split at hr
    · obtain rfl := Except.ok.inj hr
      rfl
    · cases hr
  unfold removeVoice
  rw [Coro.against_get_bind]
  cases hr : s.radio.remove v with
  | error e => exact CallsKept.refl s
  | ok r =>
      refine ⟨⟨rfl, hremove r hr, rfl, rfl, map_add_zero _⟩, rfl, fun _ => ⟨rfl, rfl⟩⟩

end RadioHAL

/-! ### The call that is transferred -/

theorem stopMedia_against (outcome : ℕ → RequestOutcome) (ref : ℕ) (s : Phone) :
    ∃ s', (stopMedia ref).against (network outcome) s = (.ok (), s') ∧ CallsKept s s' := by
  have hkept : CallsKept s ((stopMedia ref).against (network outcome) s).2 := stopMedia_leaves ref s
  refine ⟨_, ?_, hkept⟩
  unfold stopMedia
  rw [Coro.against_get_bind]
  split <;> rfl

namespace VoLTECallManager

theorem sendReferNotify_against (outcome : ℕ → RequestOutcome) (ref : ℕ) (sipfrag subState : String)
    (s : Phone) : ∃ s', (sendReferNotify ref sipfrag subState).against (network outcome) s = (.ok (), s') ∧
      s.Asked 1 s' := by
  unfold sendReferNotify
  rw [Coro.against_get_bind]
  cases hclient : s.sipClient with
  | none =>
      have hrequests : s.requests = s.requests.map (· + 1) := by
        rw [Phone.requests, hclient]
        rfl
      exact ⟨s, rfl, rfl, rfl, rfl, rfl, rfl, rfl, hrequests⟩
  | some client => exact ignoredRequest_against outcome _ hclient

/-- `hangup_call` goes to its end, with a BYE where the manager is started. -/
theorem hangupCall_against (outcome : ℕ → RequestOutcome) {callId : Text} {ref : ℕ} {s : Phone}
    (h : s.calls.get? callId = some ref) :
    ∃ b s' k, (hangupCall callId).against (network outcome) s = (.ok b, s') ∧
      s'.calls = s.calls.erase callId ∧ SetupKept k s s' ∧ (s.started = true → k = 1) := by
  have hpop : SetupKept 0 s (s.popCall callId ref) :=
    ⟨rfl, rfl, rfl, List.length_modify _ s.callHeap ref, map_add_zero _⟩
  obtain ⟨s₁, hstop, hkept⟩ := stopMedia_against outcome ref (s.popCall callId ref)
  have hs₁ := hpop.trans hkept.toSetupKept
  unfold hangupCall
  rw [Coro.against_get_bind]
  simp only [h]
  rw [Coro.against_modify_bind, Coro.against_bind_ok hstop, Coro.against_get_bind]
  by_cases hbye : s₁.sipClient.isSome = true ∧ s₁.started = true
  · rw [if_pos hbye]
    obtain ⟨client, hclient⟩ := Option.isSome_iff_exists.mp hbye.1
    obtain ⟨s₂, hs₂⟩ : ∃ s₂, s₂ = s₁.modifyCall ref (VoLTECall.setState .terminating) := ⟨_, rfl⟩
    have hset : SetupKept 0 s₁ s₂ := by
      rw [hs₂]
      exact ⟨rfl, rfl, rfl, List.length_modify _ s₁.callHeap ref, map_add_zero _⟩
    obtain ⟨s₃, hbye', hasked⟩ := ignoredRequest_against outcome
      { method := "BYE".toList
        requestUri := (s₂.call ref).remoteUri
        toUri := (s₂.call ref).remoteUri
        fromUri := s₂.config.fromUri
        dest := s₂.config.dest
        extraHeaders := s₂.config.withRoute []
        body := []
        callId := some (s₂.call ref).sipCallId } (s := s₂) (by rw [hs₂]; exact hclient)
    refine ⟨true, s₃.countActive, 0 + 0 + 0 + 1, ?_, ?_, ?_, fun _ => rfl⟩
    · show (Coro.modify (Phone.modifyCall ref (VoLTECall.setState .terminating)) >>= fun _ => _).against
        (network outcome) s₁ = _
      rw [Coro.against_modify_bind, ← hs₂]
      exact Coro.against_bind_ok hbye' _
    · show s₃.calls = _
      rw [hasked.calls, hs₂]
      exact hkept.calls
    · obtain ⟨h₁, h₂, h₃, h₄, h₅⟩ := (hs₁.trans hset).trans hasked.setup
      exact ⟨h₁, h₂, h₃, h₄, h₅⟩
  · rw [if_neg hbye]
    by_cases hstarted : s.started = true
    · have hnone : s₁.sipClient = none := by
        cases hclient : s₁.sipClient with
        | none => rfl
        | some client => exact absurd ⟨by rw [hclient]; rfl, hs₁.started.trans hstarted⟩ hbye
      have hrequests : s₁.requests = none := by rw [Phone.requests, hnone]; rfl
      refine ⟨false, s₁, 1, rfl, hkept.calls, ⟨hs₁.radioHal, hs₁.callManager, hs₁.started, hs₁.size, ?_⟩,
        fun _ => rfl⟩
      rw [hs₁.requests] at hrequests
      rw [hs₁.requests, hrequests, Option.map_eq_none_iff.mp hrequests]
      rfl
    · exact ⟨false, s₁, 0 + 0, rfl, hkept.calls, hs₁, fun h => absurd h hstarted⟩

end VoLTECallManager

/-! ### The call to the target -/

/-- The network accepts the request with a 200. -/
def RequestOutcome.IsOk : RequestOutcome → Prop
  | .final code _ _ _ => code = 200
  | .timeout => False

instance : (o : RequestOutcome) → Decidable o.IsOk
  | .final code _ _ _ => inferInstanceAs (Decidable (code = 200))
  | .timeout => inferInstanceAs (Decidable False)

/-- A new call to the target is in the table, and active. -/
def Reached (target : Text) (s s' : Phone) : Prop :=
  ∃ callId ref, s'.calls.get? callId = some ref ∧ s.callHeap.length ≤ ref ∧
    (s'.call ref).state = .active ∧ (s'.call ref).remoteNumber = target

/-- What is in the table was there before, or is a new call that is not active. -/
def Fruitless (s s' : Phone) : Prop :=
  ∀ callId ref, s'.calls.get? callId = some ref → s.calls.get? callId = some ref ∨
    (s.callHeap.length ≤ ref ∧ (s'.call ref).state ≠ .active)

theorem Reached.kept {target : Text} {s s₁ s₂ : Phone} (h : Reached target s s₁) (hkept : TableKept s₁ s₂) :
    Reached target s s₂ := by
  obtain ⟨callId, ref, hget, hnew, hactive, hnumber⟩ := h
  refine ⟨callId, ref, hkept.calls ▸ hget, hnew, ?_, ?_⟩
  · rw [(hkept.call ref).1, hactive]
  · rw [(hkept.call ref).2, hnumber]

theorem Fruitless.kept {s s₁ s₂ : Phone} (h : Fruitless s s₁) (hkept : TableKept s₁ s₂) : Fruitless s s₂ := by
  intro callId ref hget
  rw [hkept.calls] at hget
  refine (h callId ref hget).imp_right fun hnew => ⟨hnew.1, ?_⟩
  rw [(hkept.call ref).1]
  exact hnew.2

theorem Fruitless.not_reached {target : Text} {s s' : Phone} (h : Fruitless s s') :
    ¬Reached target s s' := by
  rintro ⟨callId, ref, hget, hnew, hactive, -⟩
  rcases h callId ref hget with hold | ⟨-, hno⟩
  · exact absurd (s.valid callId ref hold) (Nat.not_lt.mpr hnew)
  · exact hno hactive

theorem Fruitless.of_erase {s s' : Phone} {callId : Text} {ref : ℕ}
    (h : s'.calls = (s.calls.set callId ref).erase callId) : Fruitless s s' := by
  intro id r hget
  rw [h, Dict.get?_erase] at hget
  split_ifs at hget with hid
  refine Or.inl ?_
  rw [← Dict.get?_set_ne s.calls ref hid]
  exact hget

namespace VoLTECallManager

variable {s : Phone}

theorem initiateCall_against (outcome : ℕ → RequestOutcome) (number : Text) (radioCallIndex : ℕ)
    (hstarted : s.started = true) :
    ∃ args s' c, (initiateCall number radioCallIndex).against (network outcome) s = (onTimeout
        (do
          let response ← sendRequest args
          finishInvite s.callHeap.length radioCallIndex (inviteCallId s) response)
        (do
          delCall (inviteCallId s)
          return none)).against (network outcome) s' ∧
      Invited s s' c ∧ c.state = .initiating ∧ c.remoteNumber = number := by
  have hif : (initiateCall number radioCallIndex).against (network outcome) s =
      (if s.started = false then (pure none : Async (Option Text)) else _).against (network outcome) s := rfl
  rw [if_neg (by simp [hstarted])] at hif
  exact ⟨_, _, _, hif, ⟨rfl, rfl, rfl, rfl, rfl, rfl, rfl, rfl, rfl, rfl⟩, rfl, rfl⟩

theorem finishInvite_ok (outcome : ℕ → RequestOutcome) (s : Phone) (ref radioCallIndex : ℕ)
    (callId : Text) {response : SIPMessage} (h : response.statusCode = some 200) :
    CallsKept (s.modifyCall ref (VoLTECall.connect response.body))
        ((finishInvite ref radioCallIndex callId response).against (network outcome) s).2 ∧
      ∀ m, ((finishInvite ref radioCallIndex callId response).against (network outcome) s).1 ≠
        .error (.timeoutError m) := by
  obtain ⟨rest, hrest⟩ : ∃ rest : Async (Option Text), rest = do
      sendAck ref
      let s ← get
      when s.radioHal (RadioHAL.updateCallState radioCallIndex .active)
      modify Phone.countActive
      modify fun s => s.countCall (s.call ref).codec
      startMedia ref
      return some callId := ⟨_, rfl⟩
  have hkept : LeavesCalls outcome rest := by
    rw [hrest]
    refine LeavesCalls.bind (fun s => ⟨⟨rfl, rfl, rfl, rfl, map_add_zero _⟩, rfl, fun _ => ⟨rfl, rfl⟩⟩)
      fun _ => LeavesCalls.get_bind fun s => ?_
    refine LeavesCalls.bind (LeavesCalls.when (RadioHAL.updateCallState_leaves _ _)) fun _ => ?_
    refine LeavesCalls.bind (fun s => ⟨⟨rfl, rfl, rfl, rfl, map_add_zero _⟩, rfl, fun _ => ⟨rfl, rfl⟩⟩)
      fun _ => ?_
    refine LeavesCalls.bind (fun s => ⟨⟨rfl, rfl, rfl, rfl, map_add_zero _⟩, rfl, fun _ => ⟨rfl, rfl⟩⟩)
      fun _ => ?_
    exact LeavesCalls.bind (startMedia_leaves ref) fun _ => LeavesCalls.done _
  have hthrows : Throws (network outcome) (· = intError) rest := by
    rw [hrest]
    refine Throws.bind (Throws.modify _) fun _ => Throws.get_bind fun s => ?_
    refine Throws.bind (when_throws (RadioHAL.updateCallState_throws _ _)) fun _ => ?_
    refine Throws.bind (Throws.modify _) fun _ => Throws.bind (Throws.modify _) fun _ => ?_
    exact Throws.bind (startMedia_throws ref) fun _ => Throws.pure _
  have hrun : (finishInvite ref radioCallIndex callId response).against (network outcome) s =
      rest.against (network outcome) (s.modifyCall ref (VoLTECall.connect response.body)) := by
    unfold finishInvite
    rw [if_pos h, hrest]
    rfl
  rw [hrun]
  refine ⟨hkept _, fun m hm => ?_⟩
  cases hthrows _ _ hm

theorem delCall_against {env : Await → Phone → Phone} {callId : Text} (h : callId ∈ s.calls.keys) :
    (delCall callId >>= fun _ => (pure none : Async (Option Text))).against env s =
      (.ok none, s.delCall callId) := by
  have hdel : (delCall callId).against env s = (.ok (), s.delCall callId) := by
    unfold delCall
    rw [Coro.against_get_bind, if_pos h]
    rfl
  exact Coro.against_bind_ok hdel _

/-- The end of `initiate_call`, where the INVITE is answered with 200. -/
theorem initiateCall_reaches (number : Text) (radioCallIndex : ℕ) {client : Session} (hstarted : s.started = true)
    (hclient : s.sipClient = some client) (hok : (outcome client.calls.length).IsOk) :
    Reached number s ((initiateCall number radioCallIndex).against (network outcome) s).2 := by
  obtain ⟨args, s₁, c, hagainst, hinvited, -, hnumber⟩ :=
    initiateCall_against outcome number radioCallIndex hstarted
  obtain ⟨r, s₂, hsend, hasked, hgives⟩ := sendRequest_against outcome args (hinvited.client.trans hclient)
  cases houtcome : outcome client.calls.length with
  | timeout =>
      rw [houtcome] at hok
      exact hok.elim
  | final code hcode headers body =>
      rw [houtcome] at hok hgives
      obtain ⟨msg, rfl, hstatus, -⟩ := hgives
      obtain ⟨hkept, hthrows⟩ := finishInvite_ok outcome s₂ s.callHeap.length radioCallIndex
        (inviteCallId s) (hstatus.trans (congrArg some hok))
      have hlast : s₂.callHeap.length = s.callHeap.length + 1 := by
        rw [hasked.callHeap, hinvited.heap, List.length_append, List.length_singleton]
      have hcall : s₂.call s.callHeap.length = c := by
        rw [Phone.call_append (hasked.callHeap.trans hinvited.heap), if_pos rfl]
      have hreached : Reached number s (s₂.modifyCall s.callHeap.length (VoLTECall.connect msg.body)) := by
        refine ⟨inviteCallId s, s.callHeap.length, ?_, le_rfl, ?_, ?_⟩
        · show s₂.calls.get? _ = _
          rw [hasked.calls, hinvited.calls, Dict.get?_set_self]
        · rw [Phone.call_modifyCall, if_pos ⟨rfl, by omega⟩]
          rfl
        · rw [Phone.call_modifyCall, if_pos ⟨rfl, by omega⟩, hcall]
          exact hnumber
      have hbody := Coro.against_bind_ok hsend
        (finishInvite s.callHeap.length radioCallIndex (inviteCallId s))
      rw [hagainst, onTimeout_against hbody hthrows]
      exact hreached.kept hkept.toTableKept

theorem initiateCall_fruitless (number : Text) (radioCallIndex : ℕ)
    (h : ¬(s.started = true ∧ ∃ n ∈ s.requests, (outcome n).IsOk)) :
    Fruitless s ((initiateCall number radioCallIndex).against (network outcome) s).2 := by
  cases hstarted : s.started with
  | false =>
      have hagainst : (initiateCall number radioCallIndex).against (network outcome) s = (.ok none, s) := by
        unfold initiateCall
        rw [Coro.against_get_bind, if_pos hstarted]
        rfl
      rw [hagainst]
      exact fun callId ref hget => Or.inl hget
  | true =>
      obtain ⟨args, s₁, c, hagainst, hinvited, hstate, -⟩ :=
        initiateCall_against outcome number radioCallIndex hstarted
      rw [hagainst]
      cases hclient : s.sipClient with
      | none =>
          have hsend := sendRequest_against_error outcome args (hinvited.client.trans hclient)
          have hbody := Coro.against_bind_error hsend
            (finishInvite s.callHeap.length radioCallIndex (inviteCallId s))
          rw [onTimeout_against hbody fun _ h => by cases h]
          intro callId ref hget
          rw [hinvited.calls, Dict.get?_set] at hget
          split_ifs at hget with hid
          · obtain rfl := Option.some.inj hget
            refine Or.inr ⟨le_rfl, ?_⟩
            rw [Phone.call_append hinvited.heap, if_pos rfl, hstate]
            decide
          · exact Or.inl hget
      | some client =>
          obtain ⟨r, s₂, hsend, hasked, hgives⟩ :=
            sendRequest_against outcome args (hinvited.client.trans hclient)
          have hcalls : s₂.calls = s.calls.set (inviteCallId s) s.callHeap.length :=
            hasked.calls.trans hinvited.calls
          have hmem : inviteCallId s ∈ s₂.calls.keys :=
            Dict.mem_keys_of_get? (hcalls ▸ Dict.get?_set_self _ _ _)
          have hno : ¬(outcome client.calls.length).IsOk := fun hok =>
            h ⟨hstarted, client.calls.length, by rw [Phone.requests, hclient]; rfl, hok⟩
          have herased : Fruitless s (s₂.delCall (inviteCallId s)) :=
            Fruitless.of_erase (congrArg (Dict.erase · (inviteCallId s)) hcalls)
          cases houtcome : outcome client.calls.length with
          | timeout =>
              rw [houtcome] at hgives
              obtain ⟨m, rfl⟩ := hgives
              rw [onTimeout_against_timeout (Coro.against_bind_error hsend _), delCall_against hmem]
              exact herased
          | final code hcode headers body =>
              rw [houtcome] at hgives hno
              obtain ⟨msg, rfl, hstatus, -⟩ := hgives
              have hfinish : (finishInvite s.callHeap.length radioCallIndex (inviteCallId s) msg).against
                  (network outcome) s₂ = (.ok none, s₂.delCall (inviteCallId s)) := by
                unfold finishInvite
                rw [if_neg fun hok => hno (Option.some.inj (hstatus.symm.trans hok))]
                exact delCall_against hmem
              rw [onTimeout_against ((Coro.against_bind_ok hsend _).trans hfinish) fun _ h => by cases h]
              exact herased

end VoLTECallManager

namespace RadioHAL

open VoLTECallManager

/-- `dial` with a call manager is `initiate_call`, as far as the calls go. -/
theorem dial_against (outcome : ℕ → RequestOutcome) (number : Text) (s : Phone) :
    ∃ s₁, CallsKept s s₁ ∧ s₁.sipClient = s.sipClient ∧
      (s.radio.callManager = false → CallsKept s ((dial number).against (network outcome) s).2) ∧
      (s.radio.callManager = true → CallsKept
        ((initiateCall number s.radio.nextCallIndex).against (network outcome) s₁).2
        ((dial number).against (network outcome) s).2) := by
  obtain ⟨s₁, hs₁⟩ : ∃ s₁, s₁ = (s.modifyRadio (append
      { state := .dialing, isMt := false, number := number })).modifyRadio (indicate 1001) := ⟨_, rfl⟩
  have hkept : CallsKept s s₁ := by
    rw [hs₁]
    exact ⟨⟨rfl, rfl, rfl, rfl, map_add_zero _⟩, rfl, fun _ => ⟨rfl, rfl⟩⟩
  obtain ⟨rest, hleaves, hdial⟩ : ∃ rest : Option Text → Async Result, (∀ a, LeavesCalls outcome (rest a)) ∧
      (dial number).against (network outcome) s =
        (if s.radio.callManager then initiateCall number s.radio.nextCallIndex >>= rest
          else return { success := true, callIndex := some s.radio.nextCallIndex }).against
          (network outcome) s₁ := by
    rw [hs₁]
    refine ⟨_, fun a => ?_, rfl⟩
    cases a with
    | some sipCallId =>
        exact LeavesCalls.bind (LeavesCalls.modifyRadio fun _ => rfl) fun _ => LeavesCalls.done _
    | none =>
        refine LeavesCalls.bind (removeVoice_leaves _) fun _ => ?_
        exact LeavesCalls.bind (sendIndication_leaves 1001) fun _ => LeavesCalls.done _
  refine ⟨s₁, hkept, hs₁ ▸ rfl, fun hmanager => ?_, fun hmanager => ?_⟩
  · rw [hdial, if_neg (by simp [hmanager])]
    exact hkept
  · rw [hdial, if_pos hmanager]
    exact Passes.rest CallsKept.refl hleaves _ s₁

theorem dial_reaches (number : Text) {s : Phone} {client : Session} (hmanager : s.radio.callManager = true)
    (hstarted : s.started = true) (hclient : s.sipClient = some client)
    (hok : (outcome client.calls.length).IsOk) :
    Reached number s ((dial number).against (network outcome) s).2 := by
  obtain ⟨s₁, hkept, hsame, -, hinitiate⟩ := dial_against outcome number s
  have hreached := initiateCall_reaches number s.radio.nextCallIndex
    (hkept.started.trans hstarted) (hsame.trans hclient) hok
  obtain ⟨callId, ref, hget, hnew, hcall⟩ := hreached.kept (hinitiate hmanager).toTableKept
  exact ⟨callId, ref, hget, hkept.size ▸ hnew, hcall⟩

theorem dial_fruitless {number : Text} {s : Phone}
    (h : ¬(s.radio.callManager = true ∧ s.started = true ∧ ∃ n ∈ s.requests, (outcome n).IsOk)) :
    Fruitless s ((dial number).against (network outcome) s).2 := by
  obtain ⟨s₁, hkept, hsame, hnone, hinitiate⟩ := dial_against outcome number s
  cases hmanager : s.radio.callManager with
  | false =>
      have hsame : Fruitless s s := fun callId ref hget => Or.inl hget
      exact hsame.kept (hnone hmanager).toTableKept
  | true =>
      have hrequests : s₁.requests = s.requests := by rw [Phone.requests, Phone.requests, hsame]
      have hno : ¬(s₁.started = true ∧ ∃ n ∈ s₁.requests, (outcome n).IsOk) := by
        rintro ⟨hstarted, n, hn, hok⟩
        exact h ⟨hmanager, hkept.started.symm.trans hstarted, n, hrequests ▸ hn, hok⟩
      have hfruitless := initiateCall_fruitless number s.radio.nextCallIndex hno
      intro callId ref hget
      rw [← hkept.calls, ← hkept.size]
      exact hfruitless.kept (hinitiate hmanager).toTableKept callId ref hget

end RadioHAL

end

/-! ### The report -/

/-- The message ends the subscription to a transfer. -/
def SIPMessage.IsFinalNotify (m : SIPMessage) : Prop :=
  m.method = some "NOTIFY".toList ∧ m.header "Event" = "refer".toList ∧
    "terminated".toList <+: m.header "Subscription-State"

instance (m : SIPMessage) : Decidable m.IsFinalNotify := inferInstanceAs (Decidable (_ ∧ _ ∧ _))

/-- Between the two states a final NOTIFY with this status went out. -/
def Reports (code : ℤ) (s s' : Phone) : Prop :=
  ∃ m ∈ s'.sent.drop s.sent.length, m.1.IsFinalNotify ∧
    VoLTECallManager.sipfragStatus (decodeUtf8 m.1.body) = some code

instance (code : ℤ) (s s' : Phone) : Decidable (Reports code s s') :=
  inferInstanceAs (Decidable (∃ _ ∈ _, _))

/-- What the handler of a REFER for the call `ref` is to do: report success of the call to the target
only where that call is there, and otherwise report a failure, with the call still up. -/
def TruthfulReferral (target callId : Text) (ref : ℕ) (s s' : Phone) : Prop :=
  (Reports 200 s s' → Reached target s s') ∧
    (¬Reached target s s' → (∃ code, Reports code s s' ∧ ¬(200 ≤ code ∧ code < 300)) ∧
      s'.calls.get? callId = some ref)

/-- The target of a REFER. -/
def SIPMessage.referTarget (msg : SIPMessage) : Text := extractNumberFromUri (msg.header "Refer-To")

/-- There is a target, the radio and the call manager work together, and the request after the first
NOTIFY and the BYE, which is the INVITE to the target, is answered with a 200. -/
def Completes (outcome : ℕ → RequestOutcome) (target : Text) (s : Phone) : Prop :=
  target ≠ [] ∧ s.radioHal = true ∧ s.radio.callManager = true ∧ s.started = true ∧
    ∃ n ∈ s.requests, (outcome (n + 2)).IsOk

instance (outcome : ℕ → RequestOutcome) (target : Text) (s : Phone) :
    Decidable (Completes outcome target s) := inferInstanceAs (Decidable (_ ∧ _ ∧ _ ∧ _ ∧ ∃ _ ∈ _, _))

open VoLTECallManager

section

variable {msg : SIPMessage} {ref : ℕ} {s : Phone}

/-- The phone where the handler runs, and the one it leaves. -/
def referred (outcome : ℕ → RequestOutcome) (msg : SIPMessage) (addr : Text × ℕ) (s : Phone) : Phone :=
  ((handleIncomingRefer msg addr).against (network outcome) s).2

/-- Without a target the handler accepts the REFER, and that is all. -/
theorem referred_of_nil (outcome : ℕ → RequestOutcome) (addr : Text × ℕ) (h : s.calls.get? msg.callId = some ref) (htarget : msg.referTarget = []) :
    (referred outcome msg addr s).calls = s.calls ∧ (referred outcome msg addr s).callHeap = s.callHeap ∧
      ∀ m ∈ (referred outcome msg addr s).sent.drop s.sent.length, m.1.method = none := by
  have hrun : referred outcome msg addr s = if s.sipClient.isSome then
      s.send (response msg 202 "Accepted" msg.callId [] []) addr else s := by
    unfold referred handleIncomingRefer
    rw [Coro.against_get_bind]
    simp only [h]
    have hnone : extractNumberFromUri (msg.header "Refer-To") = [] := htarget
    unfold sendIfClient Async.when
    rw [Coro.against_modify_bind, if_neg (not_not.mpr hnone)]
    rfl
  rw [hrun]
  split_ifs
  · refine ⟨rfl, rfl, fun m hm => ?_⟩
    rw [Phone.send, List.drop_left] at hm
    rw [List.mem_singleton.mp hm]
    rfl
  · refine ⟨rfl, rfl, fun m hm => ?_⟩
    rw [List.drop_length] at hm
    cases hm

/-- With a target the call goes first; then the target is called, where there is a radio, and the
report follows. -/
theorem referred_of_target (outcome : ℕ → RequestOutcome) (addr : Text × ℕ) (h : s.calls.get? msg.callId = some ref) (htarget : msg.referTarget ≠ []) :
    ∃ s₁ k, s₁.calls = s.calls.erase msg.callId ∧ SetupKept k s s₁ ∧ (s.started = true → k = 2) ∧
      (s.radioHal = false → TableKept s₁ (referred outcome msg addr s)) ∧
      (s.radioHal = true → TableKept ((RadioHAL.dial msg.referTarget).against (network outcome) s₁).2
        (referred outcome msg addr s)) := by
  obtain ⟨s₁, hs₁⟩ : ∃ s₁, s₁ = (if s.sipClient.isSome then
      s.send (response msg 202 "Accepted" msg.callId [] []) addr else s) := ⟨_, rfl⟩
  have haccept : CallsKept s s₁ := by
    rw [hs₁]
    split_ifs
    · exact ⟨⟨rfl, rfl, rfl, rfl, map_add_zero _⟩, rfl, fun _ => ⟨rfl, rfl⟩⟩
    · exact CallsKept.refl s
  obtain ⟨s₂, hnotify, hasked⟩ := sendReferNotify_against outcome ref "SIP/2.0 100 Trying\r\n" "active" s₁
  have hget : s₂.calls.get? msg.callId = some ref := by rw [hasked.calls, haccept.calls, h]
  obtain ⟨b, s₃, k, hhangup, hcalls, hsetup, hk⟩ := hangupCall_against outcome hget
  have hkept := (haccept.toSetupKept.trans hasked.setup).trans hsetup
  have hrun : referred outcome msg addr s = ((when s.radioHal (ignore (RadioHAL.dial msg.referTarget)) >>=
      fun _ => sendReferNotify ref "SIP/2.0 200 OK\r\n" "terminated;reason=noresource").against
        (network outcome) s₃).2 := by
    unfold referred handleIncomingRefer
    rw [Coro.against_get_bind]
    simp only [h]
    unfold sendIfClient
    rw [Coro.against_modify_bind, ← hs₁]
    have hsome : extractNumberFromUri (msg.header "Refer-To") ≠ [] := htarget
    conv_lhs => rw [Async.when, if_pos hsome]
    rw [Coro.against_bind_ok hnotify, Coro.against_bind_ok (ignore_against hhangup)]
    rfl
  have hreport : Passes (network outcome) TableKept
      (sendReferNotify ref "SIP/2.0 200 OK\r\n" "terminated;reason=noresource") := by
    intro s
    obtain ⟨s', hagainst, hasked⟩ := sendReferNotify_against outcome ref "SIP/2.0 200 OK\r\n"
      "terminated;reason=noresource" s
    rw [hagainst]
    exact hasked.table
  refine ⟨s₃, 0 + 1 + k, ?_, hkept, fun hstarted => ?_, fun hradio => ?_, fun hradio => ?_⟩
  · rw [hcalls, hasked.calls, haccept.calls]
  · rw [hk (hasked.started.trans (haccept.started.trans hstarted))]
  · rw [hrun, hradio]
    exact hreport s₃
  · rw [hrun, hradio]
    have hrest := Passes.rest (fun _ => ⟨rfl, fun _ => ⟨rfl, rfl⟩⟩) (fun _ : Unit => hreport)
      (ignore (RadioHAL.dial msg.referTarget)) s₃
    rw [ignore_against rfl] at hrest
    exact hrest

/-- **What a transferee reports.**  For every REFER on an existing call, every target and every answer
of the network: the report is true exactly where the INVITE to the target is sent and answered with a
200. -/
theorem referral_truthful_iff (outcome : ℕ → RequestOutcome) (msg : SIPMessage) (addr : Text × ℕ)
    {ref : ℕ} {s : Phone} (h : s.calls.get? msg.callId = some ref) :
    TruthfulReferral msg.referTarget msg.callId ref s (referred outcome msg addr s) ↔
      Completes outcome msg.referTarget s := by
  have hvalid := s.valid msg.callId ref h
  by_cases htarget : msg.referTarget = []
  · obtain ⟨hcalls, hheap, hsent⟩ := referred_of_nil outcome addr h htarget
    refine ⟨fun htruth => ?_, fun hcompletes => absurd htarget hcompletes.1⟩
    -- neither a call nor a report
    have hnot : ¬Reached msg.referTarget s (referred outcome msg addr s) := by
      rintro ⟨callId, r, hget, hnew, -⟩
      rw [hcalls] at hget
      exact absurd (s.valid callId r hget) (Nat.not_lt.mpr hnew)
    obtain ⟨⟨code, ⟨m, hm, hfinal, -⟩, -⟩, -⟩ := htruth.2 hnot
    have hmethod := hfinal.1
    rw [hsent m hm] at hmethod
    cases hmethod
  · obtain ⟨s₁, k, hcalls, hsetup, hk, hnone, hdial⟩ :=
      referred_of_target outcome addr h htarget
    have hfail : Fruitless s₁ (referred outcome msg addr s) →
        ¬TruthfulReferral msg.referTarget msg.callId ref s (referred outcome msg addr s) := by
      intro hfruitless htruth
      have hnot : ¬Reached msg.referTarget s (referred outcome msg addr s) := by
        rintro ⟨callId, r, hget, hnew, hcall⟩
        exact hfruitless.not_reached ⟨callId, r, hget, hsetup.size ▸ hnew, hcall⟩
      obtain ⟨-, hup⟩ := htruth.2 hnot
      rcases hfruitless msg.callId ref hup with hold | ⟨hnew, -⟩
      · rw [hcalls, Dict.get?_erase_self] at hold
        cases hold
      · exact absurd hvalid (Nat.not_lt.mpr (hsetup.size ▸ hnew))
    constructor
    · intro htruth
      by_contra hnot
      cases hradio : s.radioHal with
      | false =>
          refine hfail ?_ htruth
          exact Fruitless.kept (fun callId r hget => Or.inl hget) (hnone hradio)
      | true =>
          refine hfail ((RadioHAL.dial_fruitless ?_).kept (hdial hradio)) htruth
          rintro ⟨hmanager, hstarted, n, hn, hok⟩
          have hstarted' := hsetup.started.symm.trans hstarted
          rw [hsetup.requests, hk hstarted'] at hn
          obtain ⟨n', hn', rfl⟩ := Option.map_eq_some_iff.mp hn
          exact hnot ⟨htarget, hradio, hsetup.callManager.symm.trans hmanager, hstarted', n', hn', hok⟩
    · rintro ⟨-, hradio, hmanager, hstarted, n, hn, hok⟩
      have hn' : s₁.requests = some (n + 2) := by
        rw [hsetup.requests, hk hstarted, Option.mem_def.mp hn]
        rfl
      obtain ⟨client, hclient, hlen⟩ := Option.map_eq_some_iff.mp hn'
      have hreached := RadioHAL.dial_reaches msg.referTarget
        (hsetup.callManager.trans hmanager) (hsetup.started.trans hstarted) hclient (hlen ▸ hok)
      obtain ⟨callId, r, hget, hnew, hcall⟩ := hreached.kept (hdial hradio)
      have hreached' : Reached msg.referTarget s (referred outcome msg addr s) :=
        ⟨callId, r, hget, hsetup.size ▸ hnew, hcall⟩
      exact ⟨fun _ => hreached', fun hno => absurd hreached' hno⟩

end

/-- Every request is answered with a 200, but for one that is answered with `code`. -/
def answers (request : ℕ) (code : ℤ) (hcode : 200 ≤ code) (i : ℕ) : RequestOutcome :=
  if i = request then .final code hcode Dict.empty [] else .final 200 final_ok Dict.empty []

/-- A phone in a call, whose INVITE was its first request. -/
def connectedPhone : Phone :=
  ((initiateCall "1".toList 1).against (network (answers 0 200 final_ok)) startedPhone.state).2

/-- The other side transfers the call. -/
def testRefer : SIPMessage :=
  { method := some "REFER".toList
    headers := Dict.ofList [("Call-ID".toList, "0".toList), ("Refer-To".toList, "<sip:2@home>".toList)] }

/-- The target takes the call, and the report says so. -/
theorem referral_truthful_answered : TruthfulReferral "2".toList "0".toList 0 connectedPhone
    (referred (answers 3 200 final_ok) testRefer ("pcscf".toList, 5060) connectedPhone) := by
  have htarget : testRefer.referTarget = "2".toList := by decide +kernel
  have hcall : connectedPhone.calls.get? testRefer.callId = some 0 := by decide +kernel
  have hcompletes : Completes (answers 3 200 final_ok) testRefer.referTarget connectedPhone := by
    decide +kernel
  have htruth := (referral_truthful_iff _ _ ("pcscf".toList, 5060) hcall).mpr hcompletes
  rw [htarget] at htruth
  exact htruth

/-- The target is busy: the report says 200 OK, and no call is left. -/
theorem referral_false_busy : connectedPhone.calls.get? testRefer.callId = some 0 ∧
    (let s' := referred (answers 3 486 (by decide)) testRefer ("pcscf".toList, 5060) connectedPhone
     Reports 200 connectedPhone s' ∧ s'.calls.entries = [] ∧
      ¬TruthfulReferral testRefer.referTarget testRefer.callId 0 connectedPhone s') := by
  obtain ⟨hcall, hreports, hempty⟩ : connectedPhone.calls.get? testRefer.callId = some 0 ∧
      Reports 200 connectedPhone
        (referred (answers 3 486 (by decide)) testRefer ("pcscf".toList, 5060) connectedPhone) ∧
      (referred (answers 3 486 (by decide)) testRefer ("pcscf".toList, 5060) connectedPhone).calls.entries =
        [] := by decide +kernel
  refine ⟨hcall, hreports, hempty, fun htruth => ?_⟩
  obtain ⟨callId, ref, hget, -⟩ := htruth.1 hreports
  have hmem := (Dict.get?_eq_some_iff _ _ _).mp hget
  rw [hempty] at hmem
  cases hmem

end VirtualPhone
