import VirtualPhone.VolteHold
import VirtualPhone.VolteMirror

/-! # The hold bits after each operation

Operations of the call manager and of the radio are carried out one after the other.  While one is
under way, responses to its requests come in and its requests run out of time.

`hold_bits_agree` shows that after each operation the state of every call, its active media session
and its voice calls agree on whether it is on hold, unless one of four things happened: a response
crossed the time-out of a re-INVITE, a transfer of a call on hold was accepted, a ringing tone came
for a call that was not being set up, or a Call-ID was used twice.  `held_transfer_disagrees` is the
second of them. -/

namespace VirtualPhone

open Runtime
open Coro (get modify raise attempt)
open Async (when whenSome ignore onTimeout)
open VoLTECallManager

/-! ### One operation -/

/-- What an operation that is called can rely on.  A message comes from the client, and an INVITE for
no call of the table has a Call-ID of its own; a call is initiated for a voice call that has no SIP
call, and under a new Call-ID. -/
def Phone.Accepts (s : Phone) : Operation → Prop
  | .incoming msg _ => s.sipClient.isSome ∧
      (msg.method = some "INVITE".toList → msg.callId ∉ s.calls.keys →
        msg.callId ≠ [] ∧ NewCallId s msg.callId)
  | .initiateCall _ radioCallIndex => (s.started = true → FreshCallId s) ∧
      radioCallIndex < s.radio.nextCallIndex ∧ Unnamed s radioCallIndex
  | _ => True

instance (s : Phone) (op : Operation) : Decidable (s.Accepts op) := by
  induction op using Operation.casesOn <;> unfold Phone.Accepts <;> infer_instance

theorem handleIncomingSip_mirrors {op : Operation} {s₀ s : Phone} {msg : SIPMessage}
    (addr : Text × ℕ) (h : Mirrored none s) (hrequest : msg.statusCode = none)
    (haccepts : s.Accepts (.incoming msg addr)) :
    (handleIncomingSip msg addr).Meets op.contract (fun _ _ s' => Mirrored none s') s₀ s := by
  obtain ⟨hclient, hnew⟩ := haccepts
  unfold handleIncomingSip
  rw [hrequest]
  dsimp only
  split_ifs with hinvite
  · refine Coro.meets_get_bind.mpr ?_
    split
    · next ref hr => exact handleReinvite_mirrors msg addr h hr
    · next hnone =>
        obtain ⟨hne, hnew⟩ := hnew hinvite ((Dict.get?_eq_none_iff _ _).mp hnone)
        exact handleIncomingInvite_mirrors msg addr h hclient hne hnew
  · exact ((KeepsMirror.takeDown msg addr).bind fun _ => KeepsMirror.countActive) s₀ s h
  · exact KeepsMirror.takeDown msg addr s₀ s h
  · exact KeepsMirror.handleIncomingRefer msg addr s₀ s h
  · exact KeepsMirror.handleIncomingNotify msg addr s₀ s h
  · exact h

theorem KeepsMirror.hangupActive {op : Operation} (refs : List ℕ) :
    KeepsMirror op (VoLTECallManager.hangupActive refs) := by
  induction refs with
  | nil => exact KeepsMirror.pure ()
  | cons ref refs ih =>
      exact KeepsMirror.get_bind fun s => (KeepsMirror.when fun _ => (KeepsMirror.hangupCall _).ignore).bind
        fun _ => ih

/-- The manager is started or stopped, or its forwarding rules change. -/
theorem Mirrored.of_eq {s s' : Phone} (h : Mirrored none s) (hradioHal : s'.radioHal = s.radioHal)
    (hmanager : s'.radio.callManager = s.radio.callManager)
    (hclient : s.sipClient.isSome → s'.sipClient.isSome) (hstarted : s'.started = true → s'.sipClient.isSome)
    (hvoices : s'.radio.voices = s.radio.voices) (hlist : s'.radio.voiceCalls = s.radio.voiceCalls)
    (hnext : s'.radio.nextCallIndex = s.radio.nextCallIndex) (hheap : s'.callHeap = s.callHeap)
    (hcalls : s'.calls = s.calls) : Mirrored none s' := by
  have hcall : ∀ r, s'.call r = s.call r := fun r => by rw [Phone.call, Phone.call, hheap]
  have hvoice : ∀ v, s'.radio.voice v = s.radio.voice v := fun v => by
    rw [RadioHAL.voice, RadioHAL.voice, hvoices]
  obtain ⟨hradioHal', hmanager', -, hvalid, hnext', hrange, honce, hentry, hbound, hunique, hquiet,
    hfits⟩ := h
  refine ⟨hradioHal.trans hradioHal', hmanager.trans hmanager', hstarted, ?_, by rwa [hnext], ?_, ?_, ?_,
    ?_, ?_, ?_, fun callId r hr _ => ?_⟩
  · unfold RadioHAL.Valid
    rw [hlist, hvoices]
    exact hvalid
  · simpa only [hlist, hvoice, hnext] using hrange
  · simpa only [hlist, hvoice] using honce
  · simpa only [hcalls, hcall, hnext] using hentry
  · simpa only [hcalls, hlist, hvoice, hcall] using hbound
  · simpa only [hcalls, hlist, hvoice, hcall] using hunique
  · simpa only [hcalls, hcall] using hquiet
  · obtain ⟨hringing, hplaying, hstep, hagree⟩ := hfits callId r (hcalls ▸ hr) (Option.some_ne_none r).symm
    rw [hcall]
    refine ⟨fun hstate => ⟨hclient (hringing hstate).1, (hringing hstate).2⟩, hplaying, hstep, ?_⟩
    simpa only [hlist, hvoice] using hagree

/-- **Every operation keeps the invariant.** -/
theorem Operation.mirrors {op : Operation} {s₀ s : Phone} (h : Mirrored none s)
    (hrequest : ∀ msg ∈ incomingMessage (.spawn op), msg.statusCode = none) (haccepts : s.Accepts op) :
    op.run.Meets op.contract (fun _ _ s' => Mirrored none s') s₀ s := by
  have hlast : ∀ {α : Type} {c : Async α} {f : α → OperationResult}, KeepsMirror op c →
      (c >>= fun a => pure (f a)).Meets op.contract (fun _ _ s' => Mirrored none s') s₀ s :=
    fun hc => hc.bind (fun _ => KeepsMirror.pure _) s₀ s h
  cases op with
  | start =>
      refine hlast (f := fun _ => .none) (KeepsMirror.modify fun s h => ?_)
      split_ifs
      · exact h
      · exact h.of_eq rfl rfl (fun _ => rfl) (fun _ => rfl) rfl rfl rfl rfl rfl
  | stop =>
      refine hlast (f := fun _ => .none) (KeepsMirror.get_bind fun s' =>
        (KeepsMirror.hangupActive _).bind fun _ => KeepsMirror.modify fun s h => ?_)
      exact h.of_eq rfl rfl id (fun hstarted => absurd hstarted Bool.false_ne_true) rfl rfl rfl rfl rfl
  | incoming msg addr =>
      exact KeepsMirror.after (handleIncomingSip_mirrors addr h (hrequest msg rfl) haccepts)
        fun _ => KeepsMirror.pure _
  | initiateCall number index =>
      refine Coro.meets_bind.mpr (initiateCall_mirrors number h haccepts.1 haccepts.2.1 haccepts.2.2 ?_)
      intro s₁ s' r h' _ _
      cases r <;> exact h'
  | answerCall callId =>
      refine KeepsMirror.after (answerCall_mirrors (fun _ => h) fun ref hr => h.answerable hr) fun _ =>
        KeepsMirror.pure _
  | holdCall callId => exact hlast (KeepsMirror.holdCall callId rfl)
  | resumeCall callId => exact hlast (KeepsMirror.resumeCall callId rfl)
  | swapCalls => exact hlast (KeepsMirror.swapCalls rfl)
  | conferenceCalls => exact hlast KeepsMirror.conferenceCalls
  | transferCall callId target => exact hlast (KeepsMirror.transferCall callId target rfl)
  | attendedTransfer a b => exact hlast (KeepsMirror.attendedTransfer a b)
  | hangupCall callId => exact hlast (KeepsMirror.hangupCall callId)
  | dial number => exact hlast (KeepsMirror.dial number)
  | answer => exact hlast KeepsMirror.answer
  | hangup index => exact hlast (KeepsMirror.hangup index)
  | switchWaitingOrHoldingAndActive rounds =>
      exact hlast (KeepsMirror.switchWaitingOrHoldingAndActive rounds rfl)
  | conference => exact hlast KeepsMirror.conference
  | separateConnection index => exact hlast (KeepsMirror.separateConnection index rfl)
  | explicitCallTransfer => exact hlast (KeepsMirror.explicitCallTransfer rfl)
  | hangupAll => exact hlast KeepsMirror.hangupAll
  | setCallForward action reason number time =>
      refine hlast (KeepsMirror.get_bind fun s' => ?_)
      split
      · exact KeepsMirror.pure _
      · dsimp only
        split
        · refine KeepsMirror.bind (KeepsMirror.modify fun s h => ?_) fun _ => KeepsMirror.pure _
          exact h.of_eq rfl rfl id h.client rfl rfl rfl rfl rfl
        · exact KeepsMirror.pure _
  | powerOff =>
      exact hlast (f := fun _ => .none) (KeepsMirror.modify fun s h =>
        have hnone : ∀ v ∈ [], v ∈ s.radio.voiceCalls := List.forall_mem_nil _
        h.sublist hnone)

/-! ### Responses -/

/-- A coroutine that changes nothing any more. -/
def Spent (c : Async OperationResult) : Prop := c.Ended ∨ ∃ r, c = .wait .pause (.done r)

/-- A ringing tone is for a call that is being set up. -/
def Phone.RingsEarly (s : Phone) (msg : SIPMessage) : Prop :=
  ∀ ref ∈ s.calls.get? msg.callId, msg.statusCode = some 180 → (s.call ref).direction = .mo →
    (∃ client ∈ s.sipClient, client.client.hasPendingRequest msg.callId = true) → (s.call ref).Early

instance (s : Phone) (msg : SIPMessage) : Decidable (s.RingsEarly msg) :=
  inferInstanceAs (Decidable (∀ _ ∈ _, _ → _ → _ → _))

/-- A call that is being set up rings, and so does its voice call. -/
theorem Drifts.ringBack {s : Phone} {callId : Text} {ref : ℕ} (hr : s.calls.get? callId = some ref)
    (hearly : (s.call ref).Early) : Drifts s (s.ringBack ref) := by
  have hring : ∀ r, (s.modifyCall ref (VoLTECall.setState .ringingOut)).call r = s.call r ∨
      ref = r ∧ (s.modifyCall ref (VoLTECall.setState .ringingOut)).call r =
        (s.call r).setState .ringingOut := by
    intro r
    rw [Phone.call_modifyCall]
    split_ifs with href
    · exact Or.inr ⟨href.1, rfl⟩
    · exact Or.inl rfl
  have hcall : ∀ r, (s.ringBack ref).call r =
      (s.modifyCall ref (VoLTECall.setState .ringingOut)).call r := by
    intro r
    rw [Phone.call, Phone.call, Phone.ringBack_callHeap, Phone.modifyCall_callHeap]
  have hvoice : ∀ v, (s.ringBack ref).radio.voice v = s.radio.voice v ∨
      (s.ringBack ref).radio.voice v = (s.radio.voice v).setState .alerting ∧
        (s.call ref).radioCallIndex = (s.radio.voice v).index := by
    intro v
    unfold Phone.ringBack
    split
    · next w hw =>
        rw [Phone.ringbackVoice] at hw
        split_ifs at hw
        have hfound := List.find?_some hw
        have hindex : (s.radio.voice w).index = (s.call ref).radioCallIndex := of_decide_eq_true hfound
        show (s.radio.modifyVoice w (VoiceCall.setState .alerting)).voice v = _ ∨
          (s.radio.modifyVoice w (VoiceCall.setState .alerting)).voice v = _ ∧ _
        rw [RadioHAL.voice_modifyVoice]
        split_ifs with hwv
        · obtain ⟨rfl, -⟩ := hwv
          exact Or.inr ⟨rfl, hindex.symm⟩
        · exact Or.inl rfl
    · exact Or.inl rfl
  obtain ⟨hradioHal, hmanager, hstarted, hclient, hlength, hlist, hnext⟩ :
      (s.ringBack ref).radioHal = s.radioHal ∧
      (s.ringBack ref).radio.callManager = s.radio.callManager ∧
      (s.ringBack ref).started = s.started ∧ (s.ringBack ref).sipClient = s.sipClient ∧
      (s.ringBack ref).radio.voices.length = s.radio.voices.length ∧
      (s.ringBack ref).radio.voiceCalls = s.radio.voiceCalls ∧
      (s.ringBack ref).radio.nextCallIndex = s.radio.nextCallIndex := by
    unfold Phone.ringBack
    split
    · exact ⟨rfl, rfl, rfl, rfl, List.length_modify .., rfl, rfl⟩
    · exact ⟨rfl, rfl, rfl, rfl, rfl, rfl, rfl⟩
  have hstays : Stays s (s.ringBack ref) := by
    refine ⟨Phone.ringBack_calls ref s, hlist, hnext, fun r => ?_, fun v => ?_⟩
    · rw [hcall]
      rcases hring r with heq | ⟨rfl, heq⟩ <;> rw [heq]
      · exact ⟨rfl, rfl, Or.inl rfl⟩
      · exact ⟨rfl, rfl, Or.inr ⟨hearly, rfl⟩⟩
    · exact (hvoice v).imp_right And.left
  have hrequests : ∀ client ∈ s.sipClient, ∃ client' ∈ (s.ringBack ref).sipClient,
      client.SameRequests client' := fun client h => ⟨client, hclient ▸ h, .refl client⟩
  refine ⟨hstays, hradioHal, hmanager, hstarted, hrequests, hlength, ?_, fun r => ?_, fun v => ?_⟩
  · rw [Phone.ringBack_callHeap, List.length_modify]
  · rw [hcall]
    rcases hring r with heq | ⟨-, heq⟩ <;> rw [heq]
    rfl
  · exact (hvoice v).imp_right fun h => ⟨callId, ref, hr, hearly, h.2⟩

theorem handleResponse_run {s : Phone} {msg : SIPMessage} {code : ℤ}
    (hcode : msg.statusCode = some code) (h : ∀ ref, ¬IsRinging s msg ref) :
    ((handleResponse msg code).run s).1.Ended ∧ Drifts s ((handleResponse msg code).run s).2 := by
  unfold handleResponse
  rw [Coro.run_get_bind]
  split
  · exact ⟨trivial, Drifts.refl s⟩
  · next client hclient =>
      split_ifs with hpending _ h180
      · exact ⟨trivial, Drifts.modifyClient s _⟩
      · split
        · next ref hr =>
            rw [Async.when, if_neg fun hmo => h ref
              ⟨hcode.trans (congrArg some h180), ⟨client, hclient, hpending⟩, hr, hmo⟩]
            exact ⟨trivial, Drifts.refl s⟩
        · exact ⟨trivial, Drifts.refl s⟩
      · exact ⟨trivial, Drifts.refl s⟩
      · exact ⟨trivial, Drifts.refl s⟩

/-- **A response is only a drift.** -/
theorem response_drifts {s : Phone} {msg : SIPMessage} (addr : Text × ℕ)
    (hstatus : msg.statusCode.isSome) (hring : s.RingsEarly msg) :
    Spent ((Operation.run (.incoming msg addr)).run s).1 ∧
      Drifts s ((Operation.run (.incoming msg addr)).run s).2 := by
  obtain ⟨code, hcode⟩ := Option.isSome_iff_exists.mp hstatus
  by_cases hrings : ∃ ref, IsRinging s msg ref
  · obtain ⟨ref, hrings⟩ := hrings
    obtain ⟨h180, hpending, hr, hmo⟩ := hrings
    have hdrifts := Drifts.ringBack hr (hring ref hr h180 hmo hpending)
    rw [show (Operation.run (.incoming msg addr)).run s = _ from
      handleIncomingSip_ringing addr ⟨h180, hpending, hr, hmo⟩ _, Async.when]
    split_ifs
    · exact ⟨Or.inr ⟨_, rfl⟩, hdrifts.trans (Drifts.indicate _ 1001)⟩
    · exact ⟨Or.inl trivial, hdrifts⟩
  · obtain ⟨hended, hdrifts⟩ := handleResponse_run hcode (not_exists.mp hrings)
    obtain ⟨r, hr⟩ := hended.exists_eq
    have hsip : (handleIncomingSip msg addr).run s = (.done r, ((handleResponse msg code).run s).2) := by
      unfold handleIncomingSip
      rw [hcode, ← hr]
    cases r with
    | ok a =>
        rw [show (Operation.run (.incoming msg addr)).run s = _ from Coro.run_bind_ok hsip _]
        exact ⟨Or.inl trivial, hdrifts⟩
    | error e =>
        rw [show (Operation.run (.incoming msg addr)).run s = _ from Coro.run_bind_error hsip _]
        exact ⟨Or.inl trivial, hdrifts⟩

/-! ### Runs -/

/-- A phone with the operation that was called last. -/
abbrev CalledPhone : Type := Option Operation × PhonePool

/-- The event is the arrival of a response. -/
def PhoneResponds (e : PhoneEvent) : Prop := ∃ msg ∈ incomingMessage e, msg.statusCode.isSome

instance (e : PhoneEvent) : Decidable (PhoneResponds e) :=
  inferInstanceAs (Decidable (∃ _ ∈ incomingMessage e, _))

namespace CalledPhone

/-- The operation that was called last, after an event. -/
def called (last : Option Operation) (e : PhoneEvent) : Option Operation :=
  match e with
  | .spawn op => if PhoneResponds e then last else some op
  | _ => last

/-- An event. -/
def step (q : CalledPhone) (e : PhoneEvent) : Option CalledPhone :=
  (q.2.step e).map fun p => (called q.1 e, p)

/-- The condition on an event: an operation is called when the others have returned, and can rely on what
it relies on; a ringing tone is for a call that is being set up; and where an operation goes on,
the next Call-ID is new, no late response has crossed the time-out of a re-INVITE, and no held call
is transferred. -/
def Orderly (q : CalledPhone) (e : PhoneEvent) : Prop :=
  match e with
  | .spawn op =>
      if PhoneResponds e then ∀ msg ∈ incomingMessage e, q.2.state.RingsEarly msg
      else (∀ c ∈ q.2.tasks, c.Ended) ∧ q.2.state.Accepts op
  | .resume n => FreshCallId q.2.state ∧
      ∀ op ∈ q.1, ∀ i ∈ q.2.resumedRequest (.resume n), q.2.state.Settles op i
  | .outside _ => True

instance (q : CalledPhone) (e : PhoneEvent) : Decidable (q.Orderly e) :=
  match e with
  | .spawn op => inferInstanceAs (Decidable (if PhoneResponds (.spawn op) then _ else _))
  | .resume n => inferInstanceAs (Decidable (_ ∧ ∀ _ ∈ q.1, ∀ _ ∈ q.2.resumedRequest (.resume n), _))
  | .outside _ => isTrue trivial

/-- What is known between two events: the invariant holds, or the operation that was called last has
promised to restore it; nothing else changes anything. -/
def Sequel (q : CalledPhone) : Prop :=
  (Mirrored none q.2.state ∧ ∀ c ∈ q.2.tasks, Spent c) ∨
    ∃ (op : Operation) (n : ℕ) (c : Async OperationResult), q.1 = some op ∧ q.2.tasks[n]? = some c ∧
      Coro.Promises op.contract (fun _ s => Mirrored none s) c q.2.state ∧
      ∀ (m : ℕ) (d : Async OperationResult), n ≠ m → q.2.tasks[m]? = some d → Spent d

theorem promises_drifts {op : Operation} {c : Async OperationResult} {s s' : Phone}
    (h : Coro.Promises op.contract (fun _ s => Mirrored none s) c s) (hd : Drifts s s') :
    Coro.Promises op.contract (fun _ s => Mirrored none s) c s' :=
  h.tolerate ⟨fun _ _ hm => hm.drifts hd, fun _ => hd⟩

variable {q q' : CalledPhone} {e : PhoneEvent}

theorem Sequel.mirrored (h : q.Sequel) (hended : ∀ c ∈ q.2.tasks, c.Ended) : Mirrored none q.2.state := by
  rcases h with ⟨h, -⟩ | ⟨op, n, c, -, hc, hpromise, -⟩
  · exact h
  · obtain ⟨r, rfl⟩ := (hended c (List.mem_of_getElem? hc)).exists_eq
    exact hpromise.ended

theorem Sequel.drifts {last : Option Operation} {p p' : PhonePool} (h : Sequel (last, p))
    (hd : Drifts p.state p'.state)
    (htasks : ∃ rest : List (Async OperationResult), p'.tasks = p.tasks ++ rest ∧ ∀ c ∈ rest, Spent c) :
    Sequel (last, p') := by
  obtain ⟨rest, htasks, hrest⟩ := htasks
  have hold : ∀ {n : ℕ} {c : Async OperationResult}, p.tasks[n]? = some c → p'.tasks[n]? = some c := by
    intro n c hc
    rw [htasks]
    exact (List.getElem?_append_left (List.getElem?_eq_some_iff.mp hc).1).trans hc
  rcases h with ⟨h, hspent⟩ | ⟨op, n, c, hlast, hc, hpromise, hspent⟩
  · refine Or.inl ⟨h.drifts hd, fun c hc => ?_⟩
    replace hc : c ∈ p'.tasks := hc
    rw [htasks] at hc
    rcases List.mem_append.mp hc with hc | hc
    · exact hspent c hc
    · exact hrest c hc
  · refine Or.inr ⟨op, n, c, hlast, hold hc, promises_drifts hpromise hd, fun m d hm hget => ?_⟩
    replace hget : p'.tasks[m]? = some d := hget
    rw [htasks, List.getElem?_append] at hget
    split_ifs at hget
    · exact hspent m d hm hget
    · exact hrest d (List.mem_of_getElem? hget)

section

variable {last : Option Operation} {p p' : PhonePool}

theorem Sequel.spawn {op : Operation} (h : Sequel (last, p)) (horderly : Orderly (last, p) (.spawn op))
    (hstate : p'.state = (op.run.run p.state).2) (htasks : p'.tasks = p.tasks ++ [(op.run.run p.state).1]) :
    Sequel (called last (.spawn op), p') := by
  simp only [Orderly] at horderly
  by_cases hresponse : PhoneResponds (.spawn op)
  · obtain ⟨msg, hmsg, hstatus⟩ := hresponse
    obtain ⟨addr, hop⟩ := eq_incoming hmsg
    obtain rfl : op = .incoming msg addr := by injection hop
    rw [if_pos ⟨msg, hmsg, hstatus⟩] at horderly
    obtain ⟨hspent, hdrifts⟩ := response_drifts addr hstatus (horderly msg hmsg)
    have hcalled : called last (.spawn (.incoming msg addr)) = last := if_pos ⟨msg, hmsg, hstatus⟩
    rw [hcalled]
    exact h.drifts (hstate ▸ hdrifts) ⟨_, htasks, fun c hc => by rwa [List.mem_singleton.mp hc]⟩
  · rw [if_neg hresponse] at horderly
    obtain ⟨hended, haccepts⟩ := horderly
    have hmirrored := h.mirrored hended
    have hrequest : ∀ msg ∈ incomingMessage (.spawn op), msg.statusCode = none := by
      intro msg hmsg
      by_contra hstatus
      exact hresponse ⟨msg, hmsg, Option.isSome_iff_ne_none.mpr hstatus⟩
    have hmeets : op.run.Meets op.contract (fun _ _ s' => Mirrored none s') p.state p.state :=
      Operation.mirrors hmirrored hrequest haccepts
    obtain ⟨-, hpromise⟩ := (hmeets.mono fun _ _ _ h => ⟨trivial, h⟩).run
    have hcalled : called last (.spawn op) = some op := if_neg hresponse
    refine Or.inr ⟨op, p.tasks.length, (op.run.run p.state).1, hcalled, ?_, ?_, fun m d hm hd => ?_⟩
    · show p'.tasks[p.tasks.length]? = _
      rw [htasks]
      exact List.getElem?_concat_length
    · show Coro.Promises _ _ _ p'.state
      rw [hstate]
      exact hpromise
    · replace hd : p'.tasks[m]? = some d := hd
      rw [htasks, List.getElem?_append] at hd
      split_ifs at hd with hlt
      · exact Or.inl (hended d (List.mem_of_getElem? hd))
      · have hlength := (List.getElem?_eq_some_iff.mp hd).1
        rw [List.length_singleton] at hlength
        exact absurd hm (by omega)

/-- A coroutine goes on: the one that promises the invariant, or one that has nothing left to do. -/
theorem Sequel.resume {m : ℕ} {w : Await} {k : Async OperationResult} (h : Sequel (last, p))
    (horderly : Orderly (last, p) (.resume m)) (htask : p.tasks[m]? = some (.wait w k))
    (hready : phoneLoop.ready w p.state = true) (hstate : p'.state = (k.run p.state).2)
    (htasks : p'.tasks = p.tasks.set m (k.run p.state).1) : Sequel (last, p') := by
  have hspent : ∀ c, p.tasks[m]? = some c → Spent c → p'.state = p.state ∧ Spent (k.run p.state).1 := by
    rintro c hc (hended | ⟨r, rfl⟩)
    · obtain rfl := Option.some.inj (htask.symm.trans hc)
      exact hended.elim
    · obtain ⟨rfl, rfl⟩ : w = .pause ∧ k = .done r := by
        have heq := Option.some.inj (htask.symm.trans hc)
        injection heq with hw hk
        exact ⟨hw, hk⟩
      exact ⟨hstate, Or.inl trivial⟩
  have hset : ∀ {n : ℕ} {d : Async OperationResult}, p'.tasks[n]? = some d → m ≠ n →
      p.tasks[n]? = some d := by
    intro n d hd hn
    rwa [htasks, List.getElem?_set_ne hn] at hd
  have hself : p'.tasks[m]? = some (k.run p.state).1 := by
    rw [htasks, List.getElem?_set_self (List.getElem?_eq_some_iff.mp htask).1]
  rcases h with ⟨h, hall⟩ | ⟨op, n, c, hlast, hc, hpromise, hall⟩
  · obtain ⟨hsame, hspent⟩ := hspent _ htask (hall _ (List.mem_of_getElem? htask))
    refine Or.inl ⟨hsame ▸ h, fun c hc => ?_⟩
    obtain ⟨n, hn⟩ := List.mem_iff_getElem?.mp hc
    by_cases hmn : m = n
    · obtain rfl := hmn
      rwa [← Option.some.inj (hself.symm.trans hn)]
    · exact hall c (List.mem_of_getElem? (hset hn hmn))
  · by_cases hmn : m = n
    · obtain rfl := hmn
      obtain rfl := Option.some.inj (htask.symm.trans hc)
      obtain ⟨hfresh, hsettles⟩ := horderly
      have hresumes : op.contract.resumes w p.state := by
        refine ⟨hready, hfresh, ?_⟩
        rintro i rfl
        refine hsettles op hlast i ?_
        unfold PhonePool.resumedRequest
        dsimp only
        rw [htask]
        rfl
      obtain ⟨-, hnew⟩ := hpromise.resume (Drifts.refl p.state) hresumes
      refine Or.inr ⟨op, m, (k.run p.state).1, hlast, hself, ?_, fun n d hn hd => hall n d hn (hset hd hn)⟩
      show Coro.Promises _ _ _ p'.state
      rw [hstate]
      exact hnew
    · obtain ⟨hsame, hspent⟩ := hspent _ htask (hall m _ (Ne.symm hmn) htask)
      refine Or.inr ⟨op, n, c, hlast, ?_, ?_, fun i d hi hd => ?_⟩
      · show p'.tasks[n]? = some c
        rw [htasks, List.getElem?_set_ne hmn]
        exact hc
      · show Coro.Promises _ _ _ p'.state
        rw [hsame]
        exact hpromise
      · by_cases hmi : m = i
        · obtain rfl := hmi
          rwa [← Option.some.inj (hself.symm.trans hd)]
        · exact hall i d hi (hset hd hmi)

end

/-- **One event of the run.** -/
theorem Sequel.step (h : q.Sequel) (horderly : q.Orderly e) (hstep : q.step e = some q') : q'.Sequel := by
  obtain ⟨last, p⟩ := q
  obtain ⟨p', hp', rfl⟩ := Option.map_eq_some_iff.mp hstep
  replace hp' := PhonePool.step_eq hp'
  cases e with
  | spawn op =>
      obtain ⟨hstate, htasks⟩ := EventLoop.step_spawn hp'
      exact h.spawn horderly hstate htasks
  | resume m =>
      obtain ⟨w, k, htask, hready, hstate, htasks⟩ := EventLoop.step_resume hp'
      exact h.resume horderly htask hready hstate htasks
  | outside i =>
      obtain ⟨s, hs, hstate, htasks⟩ := EventLoop.step_outside hp'
      refine h.drifts ?_ ⟨[], by rw [htasks, List.append_nil], nofun⟩
      rw [hstate, Phone.expire_eq hs]
      exact Drifts.modifyClient p.state _

end CalledPhone

/-- A radio that has no calls yet. -/
structure RadioHAL.Bare (r : RadioHAL) : Prop where
  callManager : r.callManager = true
  voiceCalls : r.voiceCalls = []
  next : 0 < r.nextCallIndex

theorem mirrored_initial {config : VoLTEConfig} {radio : RadioHAL} {random : ℕ → Text}
    (h : radio.Bare) : Mirrored none (Phone.create config true radio random) := by
  have hno : ∀ v, v ∉ (Phone.create config true radio random).radio.voiceCalls := by
    intro v hv
    replace hv : v ∈ radio.voiceCalls := hv
    rw [h.voiceCalls] at hv
    cases hv
  refine ⟨rfl, h.callManager, nofun, fun v hv => absurd hv (hno v), h.next, fun v hv => absurd hv (hno v),
    fun v hv => absurd hv (hno v), nofun, nofun, nofun, fun r hplaying => ?_, nofun⟩
  exact absurd hplaying (VoLTECall.not_playing_none rfl)

/-- **The hold bits agree.**  Operations of the call manager and of the radio are carried out one after
the other on a phone with a radio, in any order, and every event is orderly.  Whenever all of them
have returned, the state of every call, its active media session and its voice calls agree on
whether it is on hold. -/
theorem hold_bits_agree {config : VoLTEConfig} {radio : RadioHAL} {random : ℕ → Text}
    {es : List PhoneEvent} {q : CalledPhone} (hradio : radio.Bare)
    (horderly : Along CalledPhone.step CalledPhone.Orderly
      (none, PhonePool.initial config true radio random) es)
    (hr : runFrom CalledPhone.step (none, PhonePool.initial config true radio random) es = some q)
    (hended : ∀ c ∈ q.2.tasks, c.Ended) : ∀ c ∈ q.2.state.callHeap, q.2.state.Mirrors c := by
  have hstart : CalledPhone.Sequel (none, PhonePool.initial config true radio random) :=
    Or.inl ⟨mirrored_initial hradio, nofun⟩
  have hend : q.Sequel := runFrom_invariant CalledPhone.step
    (fun _ _ _ h horderly hstep => h.step horderly hstep) hstart horderly hr
  exact fun c hc => (hend.mirrored hended).mirrors hc

/-- A call is answered and put on hold. -/
theorem hold_bits_agree_held : ∃ q, runFrom CalledPhone.step (none, testPhone) heldRun = some q ∧
    q.2.state.callHeap.map VoLTECall.state = [.held] ∧
    ∀ c ∈ q.2.state.callHeap, q.2.state.Mirrors c := by
  obtain ⟨q, hr, hended, hstates⟩ : ∃ q, runFrom CalledPhone.step (none, testPhone) heldRun = some q ∧
      (∀ c ∈ q.2.tasks, c.Ended) ∧ q.2.state.callHeap.map VoLTECall.state = [.held] :=
    exists_run CalledPhone.step (by decide +kernel)
  exact ⟨q, hr, hstates, hold_bits_agree ⟨rfl, rfl, by decide⟩ (by decide +kernel) hr hended⟩

/-- A call on hold is transferred, and the REFER is accepted: the call is active, its media session
and its voice call are on hold. -/
theorem held_transfer_disagrees : ∃ p, runFrom PhonePool.step testPhone
    (heldRun ++ [.spawn (.transferCall "c".toList "2".toList),
      .spawn (.incoming
        { statusCode := some 202
          headers := Dict.ofList [("Call-ID".toList, "c".toList)] } ("pcscf".toList, 5060)),
      .resume 5]) = some p ∧
    (∀ c ∈ p.tasks, c.Ended) ∧ ∃ c ∈ p.state.callHeap, ¬p.state.Mirrors c :=
  exists_run PhonePool.step (by decide +kernel)

end VirtualPhone
