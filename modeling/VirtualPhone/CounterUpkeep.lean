import VirtualPhone.CallCounter
import VirtualPhone.VolteHold

/-! # Every method mends the counter

Under the conditions of `CallCounter` every operation of the phone ends without a debt: where it has
changed the number of ACTIVE calls, it counts them again before it ends (`Operation.mends`).  What
ends meanwhile finds the old number; in a run where nothing does, the counter is right after every
operation (`activeCalls_kept`). -/

namespace VirtualPhone

open Runtime
open Coro (get modify raise attempt Settled)
open Async (when whenSome ignore onTimeout)

/-- The counter of active calls, for operations with the state they started in. -/
def counterUpkeep : Upkeep Phone Await (Operation × Phone) ℕ where
  tally := Phone.counter
  later := Later
  resumes l w behind s := s.ready w = true ∧ l.1.ResumesWell l.2 s behind w
  trans := Later.trans

section

variable {α β : Type} {E : PyError → Prop} {l : Operation × Phone} {due : Bool} {s : Phone}

/-- A statement settles its debts and ends as `post` says. -/
abbrev Mending (l : Operation × Phone) (post : Bool → Except PyError α → Phone → Prop) (body : Async α)
    (due : Bool) (s : Phone) : Prop := body.Mends counterUpkeep l post due s

/-! ### Rules -/

theorem Uncounted.mending {post : Bool → Except PyError α → Phone → Prop} {body : Async α}
    (h : Uncounted E body) (hok : ∀ a s', post due (.ok a) s')
    (herror : ∀ e s', E e → post due (.error e) s') : Mending l post body due s := by
  refine Coro.Guarantees.mends (D := countDiscipline) (fun h => SameCount.counter h)
    (fun h => SameCount.counted h) (fun _ => trivial) (fun _ => trivial) (h s) ?_
  intro r s' hr
  cases r with
  | ok a => exact hok a s'
  | error e => exact herror e s' (hr e rfl)

theorem Uncounted.mending_bind {post : Bool → Except PyError β → Phone → Prop} {body : Async α}
    {f : α → Async β} (h : Uncounted (fun _ => False) body) (hf : ∀ a s', Mending l post (f a) due s') :
    Mending l post (body >>= f) due s :=
  Coro.mends_bind.mpr (h.mending hf fun _ _ => False.elim)

theorem Uncounted.settled {body : Async α} (h : Uncounted (fun _ => True) body) : Mending l Settled body false s :=
  h.mending (fun _ _ => rfl) fun _ _ _ => rfl

theorem when_mending {c : Prop} [Decidable c] {body : Async Unit}
    {post : Bool → Except PyError Unit → Phone → Prop} (h : c → Mending l post body due s)
    (h' : ¬c → post due (.ok ()) s) : Mending l post (when c body) due s := by
  unfold Async.when
  split_ifs with hc
  · exact h hc
  · exact h' hc

/-- A debt at the end, whatever the result is. -/
def Ends (K : Bool → Phone → Prop) (due : Bool) (_ : Except PyError α) (s : Phone) : Prop := K due s

theorem ignore_mending {K : Bool → Phone → Prop} {body : Async α} (h : Mending l (Ends K) body due s) :
    Mending l (Ends K) (ignore body) due s :=
  h.bind (fun _ _ _ h => h) fun _ _ _ h => h

/-- A `try` block: what it ends with, and what the handler makes of a time-out. -/
theorem onTimeout_mending {post : Bool → Except PyError α → Phone → Prop} {body handler : Async α}
    (h : Mending l (fun due r s => (∀ m, r = .error (.timeoutError m) → Mending l post handler due s) ∧
      ((∀ m, r ≠ .error (.timeoutError m)) → post due r s)) body due s) :
    Mending l post (onTimeout body handler) due s := by
  refine Coro.mends_bind.mpr (Coro.mends_attempt.mpr (h.mono ?_))
  rintro due r s' ⟨htimeout, hrest⟩
  cases r with
  | ok a => exact hrest nofun
  | error e =>
      cases e
      case timeoutError m => exact htimeout m rfl
      all_goals exact hrest nofun

/-- A body of a `try` block that owes nothing, and a handler that owes nothing. -/
theorem settled_mending {handler body : Async α}
    (hhandler : ∀ s', Mending l Settled handler false s') (h : Mending l Settled body false s) :
    Mending l (fun due r s => (∀ m, r = .error (.timeoutError m) → Mending l Settled handler due s) ∧
      ((∀ m, r ≠ .error (.timeoutError m)) → Settled due r s)) body false s := by
  refine h.mono fun due r s' hdue => ?_
  obtain rfl : due = false := hdue
  exact ⟨fun _ _ => hhandler s', fun _ => rfl⟩

/-! ### Requests -/

variable {op : Operation} {s₀ : Phone}

theorem receiveResponse_mending {post : Bool → Except PyError SIPMessage → Phone → Prop} {i : ℕ}
    (hready : s.ready (.response i) = true)
    (h : ∀ r e, Received s i r → post due r (s.modifyClient (Session.perform e))) :
    Mending l post (receiveResponse i) due s := by
  obtain ⟨r, e, hrun, hreceived⟩ := receiveResponse_run hready
  have hpost := h r e hreceived
  unfold receiveResponse at hrun ⊢
  rw [Coro.run_get_bind] at hrun
  refine Coro.mends_get_bind.mpr ?_
  split at hrun
  · obtain ⟨hr, hs⟩ := Prod.mk.inj hrun
    cases hr
    rw [← hs] at hpost
    exact ⟨due, .of_keeps due rfl id, hpost⟩
  · rw [Coro.run_modify_bind, Coro.run_get_bind] at hrun
    refine Coro.mends_modify_bind.mpr ⟨due, .of_keeps due rfl id, Coro.mends_get_bind.mpr ?_⟩
    split at hrun <;>
      · obtain ⟨hr, hs⟩ := Prod.mk.inj hrun
        cases hr
        rw [← hs] at hpost
        exact hpost

theorem sendRequest_mending {post : Bool → Except PyError SIPMessage → Phone → Prop} {args : RequestArgs}
    {client : Session} (hclient : s.sipClient = some client)
    (h : ∀ (behind : Prop) (s' : Phone), Later (s.beginRequest args) s' →
      op.ResumesWell s₀ s' behind (.response client.calls.length) →
      ∃ due', (behind → due' = due) ∧ ∀ r e, Received s' client.calls.length r →
        post due' r (s'.modifyClient (Session.perform e))) :
    Mending (op, s₀) post (sendRequest args) due s := by
  unfold sendRequest
  refine Coro.mends_get_bind.mpr ?_
  simp only [hclient]
  have hsame := beginRequest_sameCount args s
  refine Coro.mends_modify_bind.mpr ⟨due, .of_keeps due hsame.counter hsame.counted, ?_⟩
  refine Coro.mends_await_bind.mpr fun behind s' hlater hresumes => ?_
  obtain ⟨due', hdue, hpost⟩ := h behind s' hlater hresumes.2
  exact ⟨due', hdue, receiveResponse_mending hresumes.1 hpost⟩

theorem Operation.Steady.modifyClient {f : Session → Session} (h : op.Steady s) :
    op.Steady (s.modifyClient f) := by
  refine h.of_active rfl (fun hrunning => ⟨?_, hrunning.2⟩) fun _ => id
  rw [Phone.modifyClient, Option.isSome_map]
  exact hrunning.1

/-- A request in a dialog, of an operation that counts again behind it: if a late response has taken
the request away, the operation is not behind with its count. -/
theorem sendDialogRequest_mending {post : Bool → Except PyError SIPMessage → Phone → Prop} {ref : ℕ}
    {method : String} {headers : List (Text × Text)} {body : Bytes} (hclient : s.sipClient.isSome)
    (hrecounts : op.Recounts) (hok : ∀ msg s', op.Steady s' → post due (.ok msg) s')
    (htimeout : ∀ m s', op.Steady s' → post due (.error (.timeoutError m)) s')
    (herror : ∀ cid s', op.Steady s' → post false (.error (.keyError cid)) s') :
    Mending (op, s₀) post (sendDialogRequest ref method headers body) due s := by
  obtain ⟨client, hclient⟩ := Option.isSome_iff_exists.mp hclient
  refine Coro.mends_get_bind.mpr (sendRequest_mending hclient ?_)
  rintro behind s' - ⟨hsteady, -, hreceives⟩
  by_cases hlost : s'.response? client.calls.length = none ∧ s'.Crossed client.calls.length
  · have hnot : ¬behind := fun hbehind => hreceives.crossed hrecounts hbehind hlost.2
    refine ⟨false, fun hbehind => absurd hbehind hnot, fun r e hreceived => ?_⟩
    cases hreceived with
    | response hmsg =>
        rw [hlost.1] at hmsg
        cases hmsg
    | timedOut m _ hcrossed => exact absurd hlost.2 hcrossed
    | crossed cid _ _ => exact herror cid _ hsteady.modifyClient
  · refine ⟨due, fun _ => rfl, fun r e hreceived => ?_⟩
    cases hreceived with
    | response _ => exact hok _ _ hsteady.modifyClient
    | timedOut m _ _ => exact htimeout m _ hsteady.modifyClient
    | crossed cid hnone hcrossed => exact absurd ⟨hnone, hcrossed⟩ hlost

/-- What is known after a request that may fail: where it fails otherwise than by its time-out, nothing
is owed. -/
def Tried (op : Operation) (due₀ due : Bool) (r : Except PyError α) (s : Phone) : Prop :=
  op.Steady s ∧ (due = false ∨ due = due₀ ∧ ∀ e, r ≠ .error e)

theorem tryDialogRequest_mending {ref : ℕ} {method : String} {headers : List (Text × Text)} {body : Bytes}
    (hclient : s.sipClient.isSome) (hrecounts : op.Recounts) :
    Mending (op, s₀) (Tried op due)
      (onTimeout (ignore (sendDialogRequest ref method headers body)) (return)) due s := by
  refine onTimeout_mending (Coro.mends_bind.mpr (sendDialogRequest_mending hclient hrecounts ?_ ?_ ?_))
  · exact fun _ s' hsteady => ⟨nofun, fun _ => ⟨hsteady, Or.inr ⟨rfl, nofun⟩⟩⟩
  · exact fun m s' hsteady => ⟨fun _ _ => ⟨hsteady, Or.inr ⟨rfl, nofun⟩⟩, fun h => absurd rfl (h m)⟩
  · exact fun cid s' hsteady => ⟨nofun, fun _ => ⟨hsteady, Or.inl rfl⟩⟩

/-! ### What is done after another -/

theorem settled_bind {body : Async α} {f : α → Async β} (h : Mending l Settled body false s)
    (hf : ∀ a s', Mending l Settled (f a) false s') : Mending l Settled (body >>= f) false s := by
  refine h.bind (fun due a s' hdue => ?_) fun _ _ _ hdue => hdue
  obtain rfl : due = false := hdue
  exact hf a s'

theorem when_settled {c : Prop} [Decidable c] {body : Async Unit} (h : c → Mending l Settled body false s) :
    Mending l Settled (when c body) false s := when_mending h fun _ => rfl

theorem ignore_settled {body : Async α} (h : Mending l Settled body false s) :
    Mending l Settled (ignore body) false s := settled_bind h fun _ _ => rfl

theorem pure_settled (a : α) : Mending l Settled (pure a) false s := rfl

theorem countActive_mending {post : Bool → Except PyError α → Phone → Prop} {f : Unit → Async α}
    (h : Mending l post (f ()) false s.countActive) : Mending l post (modify Phone.countActive >>= f) due s :=
  ⟨false, Or.inl s.countActive_counted, h⟩

theorem owe_mending {post : Bool → Except PyError α → Phone → Prop} {g : Phone → Phone} {f : Unit → Async α}
    (hg : (g s).volteState = s.volteState) (h : Mending l post (f ()) true (g s)) :
    Mending l post (modify g >>= f) due s :=
  ⟨true, Or.inr ⟨congrArg VolteState.activeCalls hg, Or.inl rfl⟩, h⟩

theorem keep_mending {post : Bool → Except PyError α → Phone → Prop} {g : Phone → Phone} {f : Unit → Async α}
    (hshown : (g s).volteState.activeCalls = s.volteState.activeCalls) (hg : s.Counted → (g s).Counted)
    (h : Mending l post (f ()) due (g s)) : Mending l post (modify g >>= f) due s :=
  ⟨due, .of_keeps due hshown hg, h⟩

theorem keepCall_mending {post : Bool → Except PyError α → Phone → Prop} {ref : ℕ}
    {g : VoLTECall → VoLTECall} {f : Unit → Async α} (hg : ∀ c, (g c).state = c.state)
    (h : Mending l post (f ()) due (s.modifyCall ref g)) : Mending l post (modifyCall ref g >>= f) due s :=
  keep_mending (SameCount.modifyCall hg ref s).counter (SameCount.modifyCall hg ref s).counted h

/-- Nothing is owed, and the operation is steady. -/
def Clean (op : Operation) (due : Bool) (s : Phone) : Prop := due = false ∧ op.Steady s

theorem Clean.settled {body : Async α} (h : Mending (op, s₀) (Ends (Clean op)) body false s) :
    Mending (op, s₀) Settled body false s := h.mono fun _ _ _ h => h.1

theorem clean_bind {K : Bool → Phone → Prop} {body : Async α} {f : α → Async β}
    (h : Mending (op, s₀) (Ends (Clean op)) body false s)
    (hf : ∀ a s', op.Steady s' → Mending (op, s₀) (Ends K) (f a) false s')
    (herror : ∀ s', op.Steady s' → K false s') : Mending (op, s₀) (Ends K) (body >>= f) false s := by
  refine h.bind (fun due a s' hclean => ?_) fun due e s' hclean => ?_
  · obtain ⟨rfl, hsteady⟩ := hclean
    exact hf a s' hsteady
  · obtain ⟨rfl, hsteady⟩ := hclean
    exact herror s' hsteady

theorem Operation.Steady.of_sameCount {s' : Phone} (h : op.Steady s) (hcount : SameCount s s')
    (hdraw : s'.draw 0 = s.draw 0) (hrunning : s.Running → s'.Running) : op.Steady s' :=
  h.of_active hdraw hrunning fun callId => (hcount.hasActive callId).mp

theorem sendIndication_mending {post : Bool → Except PyError β → Phone → Prop} (indication : ℕ)
    {f : Unit → Async β} (h : ∀ s', op.Steady s' → Mending (op, s₀) post (f ()) due s') :
    Mending (op, s₀) post (RadioHAL.sendIndication indication >>= f) due s :=
  Coro.mends_bind.mpr (keep_mending rfl id fun _ s' _ hresumes => ⟨due, fun _ => rfl, h s' hresumes.2.1⟩)

end

namespace VoLTECallManager

variable {α : Type} {l : Operation × Phone} {op : Operation} {s₀ s : Phone} {due : Bool}

/-! ### Outgoing calls -/

theorem delCall_mending {post : Bool → Except PyError α → Phone → Prop} {callId : Text} {f : Unit → Async α}
    (hactive : ¬s.HasActive callId) (h : Mending l post (f ()) due (s.delCall callId))
    (herror : post due (.error (.keyError callId)) s) : Mending l post (delCall callId >>= f) due s := by
  refine Coro.mends_bind.mpr (Coro.mends_get_bind.mpr ?_)
  split_ifs
  · exact ⟨due, .of_keeps due rfl (Phone.Counted.delCall hactive), h⟩
  · exact herror

/-- An answered INVITE makes its call ACTIVE, and the calls are counted; one that failed takes its call
out of the table. -/
theorem finishInvite_mending {response : SIPMessage} {callId : Text}
    (h : response.statusCode ≠ some 200 → ¬s.HasActive callId) (ref radioCallIndex : ℕ) :
    Mending l (fun due r _ => due = false ∧ ∀ m, r ≠ .error (.timeoutError m))
      (finishInvite ref radioCallIndex callId response) false s := by
  unfold finishInvite
  split_ifs with hok
  · refine owe_mending rfl ((sendAck_uncounted ref).mending_bind fun _ s₁ => Coro.mends_get_bind.mpr ?_)
    refine Uncounted.mending_bind (.when (RadioHAL.updateCallState_uncounted _ _)) fun _ s₂ => ?_
    refine countActive_mending (keep_mending rfl id ?_)
    refine Coro.mends_bind.mpr
      ((startMedia_uncounted ref).mending (fun _ _ => ⟨rfl, fun m hm => by cases hm⟩) ?_)
    rintro e s' rfl
    exact ⟨rfl, fun m hm => by cases hm⟩
  · exact delCall_mending (h hok) ⟨rfl, fun m hm => by cases hm⟩ ⟨rfl, fun m hm => by cases hm⟩

theorem sendInvite_mending {ref : ℕ} {callId : Text}
    (h : s.Knows (fun c => c.sipCallId = callId ∧
      c.history.inviteRequest = s.sipClient.map (·.calls.length)) ref)
    (args : RequestArgs) (radioCallIndex : ℕ) :
    Mending (op, s₀) Settled
      (onTimeout (do
        let response ← sendRequest args
        finishInvite ref radioCallIndex callId response)
      (do
        delCall callId
        return none)) false s := by
  obtain ⟨c, hc, hid, hrequest⟩ := h
  refine onTimeout_mending (Coro.mends_bind.mpr ?_)
  obtain hclient | ⟨client, hclient⟩ := s.sipClient.eq_none_or_eq_some
  · unfold sendRequest
    refine Coro.mends_get_bind.mpr ?_
    simp only [hclient]
    exact ⟨nofun, fun _ => rfl⟩
  · refine sendRequest_mending hclient fun behind s' hlater hresumes =>
      ⟨false, fun _ => rfl, fun r e hreceived => ?_⟩
    obtain ⟨c', hc', hcall⟩ := hlater ref c (by rw [beginRequest_callHeap]; exact hc)
    have hinvite : s'.InviteFails client.calls.length → ¬s'.HasActive callId := by
      intro hfails
      rw [← hid, ← hcall.sipCallId]
      refine hresumes.2.2.invite hfails c' (List.mem_of_getElem? hc') ?_
      rw [hcall.inviteRequest, hrequest, hclient]
      rfl
    cases hreceived with
    | response hmsg =>
        have hfinish := finishInvite_mending (l := (op, s₀)) (s := s'.modifyClient (Session.perform e))
          (fun hcode => hinvite (Or.inl ⟨_, hmsg, hcode⟩)) ref radioCallIndex
        refine hfinish.mono ?_
        rintro due r s'' ⟨rfl, htimeout⟩
        exact ⟨fun m hm => absurd hm (htimeout m), fun _ => rfl⟩
    | timedOut m hnone hcrossed =>
        refine ⟨fun _ _ => ?_, fun h => absurd rfl (h m)⟩
        exact delCall_mending (hinvite (Or.inr ⟨hnone, hcrossed⟩)) rfl rfl
    | crossed cid _ _ => exact ⟨nofun, fun _ => rfl⟩

theorem initiateCall_mending (hsteady : op.Steady s) (hdials : op.Dials) (number : Text)
    (radioCallIndex : ℕ) : Mending (op, s₀) Settled (initiateCall number radioCallIndex) false s := by
  refine Coro.mends_get_bind.mpr ?_
  split_ifs
  · exact pure_settled _
  · refine Coro.mends_bind.mpr (Coro.mends_get_bind.mpr (keep_mending rfl id ?_))
    refine Coro.mends_bind.mpr (Coro.mends_get_bind.mpr (keep_mending rfl id ?_))
    refine Coro.mends_bind.mpr (Coro.mends_get_bind.mpr (keep_mending rfl ?_ ?_))
    · exact .newCall (hsteady.dials hdials) fun h => by cases h
    · change Mending (op, s₀) Settled (onTimeout _ _) false (Phone.newCall _ _)
      refine sendInvite_mending ?_ _ _
      refine ⟨_, List.getElem?_concat_length, ?_, ?_⟩
      · rfl
      · rfl

/-! ### Incoming calls -/

theorem answerCall_mending (callId : Text) : Mending l Settled (answerCall callId) false s := by
  refine Coro.mends_get_bind.mpr ?_
  split
  · exact pure_settled _
  · next ref href =>
      refine keepCall_mending (fun _ => rfl) ?_
      split
      · exact pure_settled _
      · split
        · exact pure_settled _
        · split
          · exact pure_settled _
          · refine (sendInviteOk_uncounted ref _ callId _).mending_bind fun _ s₁ => owe_mending rfl ?_
            refine countActive_mending (keep_mending rfl id ?_)
            exact settled_bind ((startMedia_uncounted ref).mono fun _ _ => trivial).settled fun _ _ => rfl

/-! ### Hold and resume -/

/-- Where the re-INVITE fails otherwise than by its time-out, nothing is owed. -/
theorem sendReinvite_mending (hrecounts : op.Recounts) (ref : ℕ) (direction : MediaDirection) :
    Mending (op, s₀) (fun due r _ => ∀ e, r = .error e → due = false) (sendReinvite ref direction) due s := by
  refine Coro.mends_get_bind.mpr (when_mending (fun hrunning => onTimeout_mending ?_) fun _ => nofun)
  refine Coro.mends_bind.mpr (Coro.mends_bind.mpr
    (sendDialogRequest_mending hrunning.1 hrecounts (fun msg s' _ => ?_) (fun m s' _ => ?_) fun cid s' _ => ?_))
  · exact ⟨due, .of_keeps due rfl id, nofun, fun _ => nofun⟩
  · exact ⟨fun _ _ => nofun, fun h => absurd rfl (h m)⟩
  · exact ⟨nofun, fun _ _ _ => rfl⟩

/-- A call goes on or off hold: it is changed, and all are counted behind the re-INVITE. -/
theorem switchHold_mending (hrecounts : op.Recounts) {state : VoLTECallState}
    {change finish : VoLTECall → VoLTECall} (hfinish : ∀ c, (finish c).state = c.state)
    (direction : MediaDirection) (radioState : CallState) (callId : Text) :
    Mending (op, s₀) Settled (switchHold state change finish direction radioState callId) false s := by
  refine Coro.mends_get_bind.mpr ?_
  split
  · exact pure_settled _
  · next ref href =>
      split_ifs
      · exact pure_settled _
      · refine owe_mending rfl ((sendReinvite_mending hrecounts ref direction).bind ?_ ?_)
        · intro due _ s₁ _
          refine (updateRadio_uncounted ref radioState).mending_bind fun _ s₂ => countActive_mending ?_
          exact keepCall_mending hfinish (pure_settled _)
        · exact fun due e s₁ h => h e rfl

theorem holdCall_mending (hrecounts : op.Recounts) (callId : Text) :
    Mending (op, s₀) Settled (holdCall callId) false s :=
  switchHold_mending hrecounts (by intro c; rfl) _ _ _

theorem resumeCall_mending (hrecounts : op.Recounts) (callId : Text) :
    Mending (op, s₀) Settled (resumeCall callId) false s :=
  switchHold_mending hrecounts (by intro c; rfl) _ _ _

theorem whenSome_settled {o : Option α} {body : α → Async Unit}
    (h : ∀ a, Mending l Settled (body a) false s) : Mending l Settled (whenSome o body) false s := by
  cases o with
  | none => rfl
  | some a => exact h a

theorem swapCalls_mending (hrecounts : op.Recounts) : Mending (op, s₀) Settled swapCalls false s := by
  refine Coro.mends_get_bind.mpr ?_
  dsimp only
  split_ifs
  · exact pure_settled _
  · refine settled_bind (whenSome_settled fun _ => ignore_settled (holdCall_mending hrecounts _)) fun _ s₁ => ?_
    refine settled_bind (whenSome_settled fun _ => ignore_settled (resumeCall_mending hrecounts _)) fun _ s₂ => ?_
    exact pure_settled _

theorem conferenceCalls_mending : Mending l Settled conferenceCalls false s := by
  refine Coro.mends_get_bind.mpr ?_
  split
  · refine owe_mending rfl (Uncounted.mending_bind (.when ?_) fun _ s₁ => countActive_mending (pure_settled _))
    exact (Uncounted.modifyRadio _).bind fun _ => RadioHAL.sendIndication_uncounted _
  · exact pure_settled _

/-! ### Transfer and hanging up -/

/-- An accepted transfer leaves its call ACTIVE, if it is in the table. -/
theorem sendRefer_mending {ref : ℕ} (hop : op.transferee s₀ = some ref) (referTo : Text)
    {accept : VoLTECall → VoLTECall} (haccept : ∀ c, (accept c).state = .active) :
    Mending (op, s₀) Settled (sendRefer ref referTo accept) false s := by
  refine Coro.mends_get_bind.mpr ?_
  split_ifs with hstate hrunning
  · refine keepCall_mending (fun _ => rfl) (onTimeout_mending ?_)
    obtain ⟨client, hclient⟩ := Option.isSome_iff_exists.mp hrunning.1
    refine Coro.mends_bind.mpr (Coro.mends_get_bind.mpr (sendRequest_mending hclient ?_))
    refine fun behind s' _ hresumes => ⟨false, fun _ => rfl, fun r e hreceived => ?_⟩
    cases hreceived with
    | response hmsg =>
        refine settled_mending (fun _ => rfl) ?_
        dsimp only
        split_ifs with hcode
        · refine keep_mending rfl (Phone.Counted.modifyCall fun hmem => ?_) (pure_settled _)
          have hactive := hresumes.2.2.transfer ⟨_, hmsg, hcode⟩ ref hop hmem
          exact ⟨fun _ => hactive, fun _ => haccept _⟩
        · exact pure_settled _
    | timedOut m _ _ => exact ⟨fun _ _ => rfl, fun _ => rfl⟩
    | crossed cid _ _ => exact ⟨nofun, fun _ => rfl⟩
  · exact pure_settled _
  · exact pure_settled _

theorem transferCall_mending {callId : Text}
    (hop : ∀ ref, s.calls.get? callId = some ref → op.transferee s₀ = some ref) (targetNumber : Text) :
    Mending (op, s₀) Settled (transferCall callId targetNumber) false s := by
  refine Coro.mends_get_bind.mpr ?_
  split
  · exact pure_settled _
  · next ref href => exact sendRefer_mending (hop ref href) _ fun _ => rfl

theorem attendedTransfer_uncounted (callIdA callIdB : Text) :
    Uncounted (fun _ => True) (attendedTransfer callIdA callIdB) := by
  refine .get_bind fun s => ?_
  split
  · refine .get_bind fun s => ?_
    split_ifs
    · refine .bind (.modifyCall fun _ => rfl) fun _ => .onTimeout ?_ (.pure false)
      refine (sendDialogRequest_uncounted _ _ _ _).bind fun response => ?_
      split_ifs
      · exact .bind (.modifyCall fun _ => rfl) fun _ => .pure true
      · exact .pure false
    · exact .pure false
    · exact .pure false
  · exact .pure false

/-- `hangup_call` once the media have stopped. -/
def sendBye (ref : ℕ) : Async Bool := do
  let s ← get
  if s.sipClient.isSome ∧ s.started then
    modifyCall ref (VoLTECall.setState .terminating)
    onTimeout (ignore (sendDialogRequest ref "BYE" [] [])) (return)
    modify Phone.countActive
    return true
  else return false

/-- What is owed is paid behind the BYE, which a running manager sends. -/
theorem sendBye_mending (hrecounts : op.Recounts) (hsteady : op.Steady s) (hdue : due = true → s.Running)
    (ref : ℕ) : Mending (op, s₀) (Ends (Clean op)) (sendBye ref) due s := by
  refine Coro.mends_get_bind.mpr ?_
  split_ifs with hrunning
  · refine owe_mending rfl (Coro.Mends.bind (tryDialogRequest_mending ?_ hrecounts) ?_ ?_)
    · exact hrunning.1
    · rintro due' _ s' ⟨hsteady', -⟩
      refine countActive_mending ⟨rfl, hsteady'.of_active rfl id fun _ => id⟩
    · rintro due' e s' ⟨hsteady', rfl | ⟨-, herror⟩⟩
      · exact ⟨rfl, hsteady'⟩
      · exact absurd rfl (herror e)
  · cases due with
    | true => exact absurd (hdue rfl) hrunning
    | false => exact ⟨rfl, hsteady⟩

/-- The media of a call stop; if they do not at once, the operation is resumed. -/
theorem stopMedia_mending {post : Bool → Except PyError α → Phone → Prop} {ref : ℕ} {f : Unit → Async α}
    (hsteady : op.Steady s) (hdue : due = true → s.Running)
    (hpause : (s.call ref).mediaSession = none ∨ op.HangsUp)
    (h : ∀ due s', op.Steady s' → (due = true → s'.Running) → Mending (op, s₀) post (f ()) due s') :
    Mending (op, s₀) post (stopMedia ref >>= f) due s := by
  refine Coro.mends_bind.mpr (Coro.mends_get_bind.mpr ?_)
  split
  · next m hm =>
      have hhangs : op.HangsUp := hpause.resolve_left (by rw [hm]; exact nofun)
      refine Coro.mends_bind.mpr (keepCall_mending (fun _ => rfl) fun behind s₂ _ hresumes => ?_)
      obtain ⟨-, hsteady₂, hcan, -⟩ := hresumes
      have hsame := SameCount.modifyCall (f := VoLTECall.setMediaSession none) (fun _ => rfl) ref s₂
      have hsteady₃ := hsteady₂.of_sameCount hsame rfl id
      by_cases hbehind : behind
      · have hrunning := hcan hhangs hbehind
        exact ⟨due, fun _ => rfl, due, .of_keeps due rfl hsame.counted, h due _ hsteady₃ fun _ => hrunning⟩
      · exact ⟨false, fun h => absurd h hbehind, false, .of_keeps false rfl hsame.counted,
          h false _ hsteady₃ nofun⟩
  · exact h due s hsteady hdue

/-- An ACTIVE call that is hung up is counted out, where the manager runs. -/
theorem hangupCall_mending {callId : Text} (hrecounts : op.Recounts) (hsteady : op.Steady s)
    (hcan : s.Running ∨ ¬s.HasActive callId)
    (hpause : ∀ ref, s.calls.get? callId = some ref → (s.call ref).mediaSession = none ∨ op.HangsUp) :
    Mending (op, s₀) (Ends (Clean op)) (hangupCall callId) false s := by
  refine Coro.mends_get_bind.mpr ?_
  split
  · exact ⟨rfl, hsteady⟩
  · next ref href =>
      have hcall : ∀ r, ((s.popCall callId ref).call r).state = (s.call r).state ∧
          ((s.popCall callId ref).call r).mediaSession = (s.call r).mediaSession := by
        intro r
        unfold Phone.popCall
        rw [Phone.call_modifyCall]
        split_ifs <;> exact ⟨rfl, rfl⟩
      have hactive : ∀ callId', (s.popCall callId ref).HasActive callId' → s.HasActive callId' := by
        rintro callId' ⟨r, hr, hstate⟩
        change (s.calls.erase callId).get? callId' = some r at hr
        rw [Dict.get?_erase] at hr
        split_ifs at hr
        exact ⟨r, hr, (hcall r).1.symm.trans hstate⟩
      have hsteady₁ : op.Steady (s.popCall callId ref) := hsteady.of_active rfl id hactive
      obtain ⟨due, howes, hdue⟩ : ∃ due, counterUpkeep.Owes false s due (s.popCall callId ref) ∧
          (due = true → s.Running) := by
        rcases hcan with hrunning | hnot
        · exact ⟨true, Or.inr ⟨rfl, Or.inl rfl⟩, fun _ => hrunning⟩
        · exact ⟨false, .of_keeps false rfl (Phone.Counted.popCall hnot), nofun⟩
      refine ⟨due, howes, stopMedia_mending hsteady₁ hdue ?_ fun due' s' hsteady' hdue' => ?_⟩
      · rw [(hcall ref).2]
        exact hpause ref href
      · exact sendBye_mending hrecounts hsteady' hdue' ref

theorem hangupTarget_mending (hrecounts : op.Recounts) (hhangs : op.HangsUp) (hsteady : op.Steady s)
    {callId : Text} (htarget : op.Targets callId) :
    Mending (op, s₀) (Ends (Clean op)) (hangupCall callId) false s :=
  hangupCall_mending hrecounts hsteady (hsteady.can hhangs htarget) fun _ _ => Or.inr hhangs

end VoLTECallManager

/-! ### The radio's operations -/

namespace RadioHAL

open VoLTECallManager

variable {l : Operation × Phone} {op : Operation} {s₀ s : Phone}

theorem withManager_mending {body : Async Unit} (h : Mending l Settled body false s) :
    Mending l Settled (withManager body) false s := Coro.mends_get_bind.mpr (when_settled fun _ => h)

theorem withSipCall_mending {K : Bool → Phone → Prop} (v : ℕ) {body : Text → Async Bool} (hK : K false s)
    (h : ∀ callId, Mending l (Ends K) (body callId) false s) :
    Mending l (Ends K) (withSipCall v body) false s :=
  Coro.mends_get_bind.mpr (when_mending (fun _ => ignore_mending (h _)) fun _ => hK)

theorem dial_mending (hdials : op.Dials) (number : Text) :
    Mending (op, s₀) Settled (dial number) false s := by
  refine Coro.mends_get_bind.mpr (keep_mending rfl id ?_)
  refine sendIndication_mending 1001 fun s₁ hsteady => Coro.mends_get_bind.mpr ?_
  split
  · refine settled_bind (initiateCall_mending hsteady hdials number _) fun id s₂ => ?_
    cases id with
    | some callId => exact keep_mending rfl (fun h => h) (pure_settled _)
    | none =>
        refine settled_bind (removeVoice_uncounted _).settled fun _ s₃ => ?_
        exact settled_bind (sendIndication_uncounted 1001).settled fun _ s₄ => pure_settled _
  · exact pure_settled _

theorem answer_mending : Mending l Settled answer false s := by
  refine Coro.mends_get_bind.mpr ?_
  split
  · refine keep_mending rfl id (settled_bind (sendIndication_uncounted 1001).settled fun _ s₁ => ?_)
    refine Coro.mends_get_bind.mpr (settled_bind ?_ fun _ s₂ => pure_settled _)
    exact withManager_mending (ignore_settled (answerCall_mending _))
  · exact pure_settled _

theorem hangup_mending (hrecounts : op.Recounts) (hhangs : op.HangsUp) (htargets : ∀ callId, op.Targets callId)
    (hsteady : op.Steady s) (callIndex : ℕ) : Mending (op, s₀) Settled (hangup callIndex) false s := by
  refine Coro.mends_get_bind.mpr ?_
  split
  · refine settled_bind (Clean.settled (withSipCall_mending _ ⟨rfl, hsteady⟩ fun callId =>
      hangupTarget_mending hrecounts hhangs hsteady (htargets callId))) fun _ s₁ => ?_
    refine settled_bind (removeVoice_uncounted _).settled fun _ s₂ => ?_
    exact settled_bind (sendIndication_uncounted 1001).settled fun _ s₃ => pure_settled _
  · exact pure_settled _

theorem holdActive_mending (hrecounts : op.Recounts) (rounds k : ℕ) :
    Mending (op, s₀) Settled (holdActive rounds k) false s := by
  induction rounds generalizing k s with
  | zero => exact fun behind s' _ hresumes => absurd hresumes.1 nofun
  | succ rounds ih =>
      refine Coro.mends_get_bind.mpr ?_
      split
      · exact pure_settled _
      · refine settled_bind (when_settled fun _ => ?_) fun _ s₁ => ih (k + 1)
        exact keep_mending rfl id (withManager_mending (ignore_settled (holdCall_mending hrecounts _)))

theorem switchWaitingOrHoldingAndActive_mending (hrecounts : op.Recounts) (rounds : ℕ) :
    Mending (op, s₀) Settled (switchWaitingOrHoldingAndActive rounds) false s := by
  refine Coro.mends_get_bind.mpr (settled_bind ?_ fun _ s₁ =>
    settled_bind (sendIndication_uncounted 1001).settled fun _ s₂ => pure_settled _)
  unfold answerOrSwap
  split
  · refine settled_bind (holdActive_mending hrecounts rounds 0) fun _ s₁ => keep_mending rfl id ?_
    exact withSipCall_mending _ rfl fun callId => (answerCall_mending callId)
  · exact withManager_mending (ignore_settled (swapCalls_mending hrecounts))

theorem conference_mending : Mending l Settled conference false s := by
  refine Coro.mends_get_bind.mpr ?_
  split
  · exact settled_bind conferenceCalls_mending fun _ s₁ => pure_settled _
  · exact pure_settled _

theorem separateConnection_mending (hrecounts : op.Recounts) (callIndex : ℕ) :
    Mending (op, s₀) Settled (separateConnection callIndex) false s := by
  refine Coro.mends_get_bind.mpr ?_
  split
  · refine keep_mending rfl id (settled_bind (withManager_mending (ignore_settled
      (holdCall_mending hrecounts _))) fun _ s₁ => ?_)
    exact settled_bind (sendIndication_uncounted 1001).settled fun _ s₂ => pure_settled _
  · exact pure_settled _

theorem explicitCallTransfer_mending (hop : op.transferee s₀ = Operation.explicitCallTransfer.transferee s) :
    Mending (op, s₀) Settled explicitCallTransfer false s := by
  refine Coro.mends_get_bind.mpr ?_
  split
  · next active held hactive hheld =>
      split
      · refine settled_bind (transferCall_mending (fun ref href => ?_) _) fun transferred s₁ => ?_
        · rw [hop, Operation.transferee, hheld]
          exact href
        · split
          · refine settled_bind (removeVoice_uncounted _).settled fun _ s₂ => ?_
            refine settled_bind (removeVoice_uncounted _).settled fun _ s₃ => ?_
            exact settled_bind (sendIndication_uncounted 1001).settled fun _ s₄ => pure_settled _
          · exact pure_settled _
      · exact pure_settled _
  · exact pure_settled _

theorem hangupEach_mending (hrecounts : op.Recounts) (hhangs : op.HangsUp)
    (htargets : ∀ callId, op.Targets callId) (hsteady : op.Steady s) (vs : List ℕ) :
    Mending (op, s₀) (Ends (Clean op)) (hangupEach vs) false s := by
  induction vs generalizing s with
  | nil => exact ⟨rfl, hsteady⟩
  | cons v vs ih =>
      refine clean_bind (withSipCall_mending v ⟨rfl, hsteady⟩ fun callId => ?_)
        (fun _ s₁ hsteady₁ => ih hsteady₁) fun _ hsteady₁ => ⟨rfl, hsteady₁⟩
      exact hangupTarget_mending hrecounts hhangs hsteady (htargets callId)

theorem hangupAll_mending (hrecounts : op.Recounts) (hhangs : op.HangsUp)
    (htargets : ∀ callId, op.Targets callId) (hsteady : op.Steady s) :
    Mending (op, s₀) Settled hangupAll false s := by
  refine Coro.mends_get_bind.mpr (settled_bind (Clean.settled
    (hangupEach_mending hrecounts hhangs htargets hsteady _)) fun _ s₁ => keep_mending rfl id ?_)
  exact settled_bind (sendIndication_uncounted 1001).settled fun _ s₂ => pure_settled _

theorem setCallForward_uncounted {E : PyError → Prop} (action : ℤ) (reason : CallForwardReason) (number : Text)
    (timeSeconds : ℤ) : Uncounted E (setCallForward action reason number timeSeconds) := by
  refine .get_bind fun s => ?_
  split
  · exact .pure _
  · dsimp only
    split
    · exact (Uncounted.modifyRadio _).bind fun _ => .pure _
    · exact .pure _

/-- An incoming call that is not ACTIVE and has no media, forwarded or not. -/
theorem incomingCall_mending (hrecounts : op.Recounts) (hdials : op.Dials) (hsteady : op.Steady s)
    {callId : Text} (hnew : ∀ ref, s.calls.get? callId = some ref →
      (s.call ref).state ≠ .active ∧ (s.call ref).mediaSession = none) (number : Text) :
    Mending (op, s₀) Settled (incomingCall number callId) false s := by
  refine Coro.mends_get_bind.mpr ?_
  split
  · refine withManager_mending (clean_bind (ignore_mending (hangupCall_mending hrecounts hsteady ?_ ?_)) ?_ ?_)
    · exact Or.inr fun ⟨ref, href, hstate⟩ => (hnew ref href).1 hstate
    · exact fun ref href => Or.inl (hnew ref href).2
    · exact fun _ s' hsteady' => ignore_settled (initiateCall_mending hsteady' hdials _ 0)
    · exact fun _ _ => rfl
  · exact Uncounted.settled ((Uncounted.modifyRadio _).bind fun _ =>
      (sendIndication_uncounted 1002).bind fun _ => sendIndication_uncounted 1001)

end RadioHAL

namespace VoLTECallManager

/-! ### Incoming messages -/

variable {l : Operation × Phone} {op : Operation} {s₀ s : Phone}

theorem sendIfClient_mending {α : Type} {post : Bool → Except PyError α → Phone → Prop} {due : Bool}
    (hsteady : op.Steady s) (msg : SIPMessage) (addr : Text × ℕ) {f : Unit → Async α}
    (h : ∀ s', s'.calls = s.calls → s'.callHeap = s.callHeap → op.Steady s' →
      Mending (op, s₀) post (f ()) due s') :
    Mending (op, s₀) post (sendIfClient msg addr >>= f) due s := by
  refine keep_mending ?_ (fun hcounted => ?_) ?_
  · split_ifs <;> rfl
  · split_ifs <;> exact hcounted
  · split_ifs
    · exact h _ rfl rfl (hsteady.of_active rfl id fun _ => id)
    · exact h s rfl rfl hsteady

theorem handleIncomingInvite_mending {msg : SIPMessage} (hrecounts : op.Recounts) (hdials : op.Dials)
    (hsteady : op.Steady s) (hnew : s.calls.get? msg.callId = none) (addr : Text × ℕ) :
    Mending (op, s₀) Settled (handleIncomingInvite msg addr) false s := by
  refine sendIfClient_mending hsteady _ addr fun s₁ hcalls _ hsteady₁ => Coro.mends_get_bind.mpr ?_
  have hnone : ¬s₁.HasActive msg.callId := by
    rintro ⟨ref, href, -⟩
    rw [hcalls, hnew] at href
    cases href
  refine Coro.mends_bind.mpr (Coro.mends_get_bind.mpr (keep_mending rfl id ?_))
  refine Coro.mends_bind.mpr (Coro.mends_get_bind.mpr (keep_mending rfl ?_ ?_))
  · exact .newCall hnone fun h => by cases h
  refine when_settled fun _ => settled_bind (RadioHAL.incomingCall_mending hrecounts hdials ?_ ?_ _)
    fun _ s₂ => ?_
  · refine hsteady₁.of_active rfl id fun callId h => ?_
    exact Phone.HasActive.of_newCall (fun h => by cases h) h
  · intro ref href
    obtain rfl := Option.some.inj ((Dict.get?_set_self _ _ _).symm.trans href)
    rw [Phone.call_newCall_self]
    exact ⟨nofun, rfl⟩
  · refine Coro.mends_get_bind.mpr ?_
    split
    · exact Uncounted.settled (.modifyCall fun _ => rfl)
    · rfl

theorem handleReinvite_mending {msg : SIPMessage} {ref : ℕ} (hinvite : IsReinvite s msg ref)
    (hminds : s.Minds msg) (addr : Text × ℕ) : Mending l Settled (handleReinvite msg addr ref) false s := by
  have href := (hminds ref hinvite.2).2 hinvite.1
  refine keep_mending rfl (Phone.Counted.modifyCall fun _ => ?_) ?_
  · unfold VoLTECall.reinvite
    dsimp only
    split_ifs with hhold hresume
    · have hstate := href.1 hhold
      simp [VoLTECall.hold, VoLTECall.setState, hstate]
    · have hstate := href.2 hresume
      simp [VoLTECall.resume, VoLTECall.setState, hstate]
    · exact Iff.rfl
  · refine Uncounted.settled (.bind (.when (updateRadio_uncounted ref _)) fun _ => ?_)
    exact .bind (.when (updateRadio_uncounted ref _)) fun _ => sendInviteOk_uncounted ref _ _ addr

theorem takeDown_mending {msg : SIPMessage} (due : Bool) (addr : Text × ℕ)
    (h : ∀ ref, s.calls.get? msg.callId = some ref →
      counterUpkeep.Owes false s due (s.popCall msg.callId ref)) :
    Mending l (fun due' r _ => r = .ok () ∧ (due' = false ∨ due' = due)) (takeDown msg addr) false s := by
  refine Coro.mends_get_bind.mpr ?_
  dsimp only
  have hrest : ∀ (c : Option ℕ) (due' : Bool) (s' : Phone), due' = false ∨ due' = due →
      Mending l (fun due' r _ => r = .ok () ∧ (due' = false ∨ due' = due)) (do
        sendIfClient (response msg 200 "OK" msg.callId [] []) addr
        when c.isSome (dropVoice msg.callId)) due' s' := by
    intro c due' s' hdue
    refine (sendIfClient_uncounted _ addr).mending_bind fun _ s'' => ?_
    exact (Uncounted.when (dropVoice_uncounted (E := fun _ => False) _)).mending (fun _ _ => ⟨rfl, hdue⟩)
      fun _ _ => False.elim
  cases hcall : s.calls.get? msg.callId with
  | none => exact hrest none false s (Or.inl rfl)
  | some ref =>
      refine Coro.mends_bind.mpr ⟨due, h ref hcall, ?_⟩
      refine (stopMedia_uncounted (E := fun _ => False) ref).mending (fun _ s' => ?_) fun _ _ => False.elim
      exact hrest (some ref) due s' (Or.inr rfl)

theorem handleIncomingBye_mending (msg : SIPMessage) (addr : Text × ℕ) :
    Mending l Settled (handleIncomingBye msg addr) false s := by
  refine (takeDown_mending true addr fun _ _ => Or.inr ⟨rfl, Or.inl rfl⟩).bind ?_ ?_
  · exact fun due _ s' _ => ⟨false, Or.inl s'.countActive_counted, rfl⟩
  · exact fun due e s' h => nomatch h.1

theorem handleIncomingCancel_mending {msg : SIPMessage} (hcancel : msg.IsCancel) (hminds : s.Minds msg)
    (addr : Text × ℕ) : Mending l Settled (handleIncomingCancel msg addr) false s := by
  have hnot : ¬s.HasActive msg.callId := fun ⟨ref, href, hstate⟩ =>
    (hminds ref href).1 (Or.inl hcancel) hstate
  refine (takeDown_mending false addr fun _ _ => .of_keeps false rfl (Phone.Counted.popCall hnot)).mono ?_
  exact fun due r s' h => h.2.elim id id

theorem sendReferNotify_uncounted (ref : ℕ) (sipfrag subState : String) :
    Uncounted (fun _ => True) (sendReferNotify ref sipfrag subState) :=
  .get_bind fun _ => .when (.onTimeout (.ignore (sendDialogRequest_uncounted _ _ _ _)) (.pure ()))

theorem sendReferNotify_mending (hrecounts : op.Recounts) (hsteady : op.Steady s) (ref : ℕ)
    (sipfrag subState : String) :
    Mending (op, s₀) (Ends (Clean op)) (sendReferNotify ref sipfrag subState) false s := by
  refine Coro.mends_get_bind.mpr (when_mending (fun hclient => ?_) fun _ => ⟨rfl, hsteady⟩)
  refine (tryDialogRequest_mending hclient hrecounts).mono ?_
  rintro due r s' ⟨hsteady', hdue⟩
  exact ⟨hdue.elim id And.left, hsteady'⟩

theorem handleIncomingRefer_mending {msg : SIPMessage} (hrecounts : op.Recounts) (hdials : op.Dials)
    (hhangs : op.HangsUp) (htarget : op.Targets msg.callId) (hsteady : op.Steady s) (addr : Text × ℕ) :
    Mending (op, s₀) Settled (handleIncomingRefer msg addr) false s := by
  refine Coro.mends_get_bind.mpr ?_
  split
  · exact pure_settled _
  · next ref href =>
      refine sendIfClient_mending hsteady _ addr fun s₁ _ _ hsteady₁ => when_settled fun _ => ?_
      refine clean_bind (sendReferNotify_mending hrecounts hsteady₁ ref _ _) (fun _ s₂ hsteady₂ => ?_)
        fun _ _ => rfl
      refine clean_bind (ignore_mending (hangupTarget_mending hrecounts hhangs hsteady₂ htarget))
        (fun _ s₃ _ => ?_) fun _ _ => rfl
      refine settled_bind (when_settled fun _ => ignore_settled (RadioHAL.dial_mending hdials _)) fun _ s₄ => ?_
      exact (sendReferNotify_uncounted ref _ _).settled

theorem handleIncomingNotify_mending {msg : SIPMessage} (hrecounts : op.Recounts) (hhangs : op.HangsUp)
    (htarget : op.Targets msg.callId) (hsteady : op.Steady s) (addr : Text × ℕ) :
    Mending (op, s₀) Settled (handleIncomingNotify msg addr) false s := by
  refine Coro.mends_get_bind.mpr ?_
  dsimp only
  refine sendIfClient_mending hsteady _ addr fun s₁ _ _ hsteady₁ => ?_
  split
  · exact pure_settled _
  · split_ifs
    · exact pure_settled _
    · exact Uncounted.settled (.modifyCall fun _ => rfl)
    · refine when_settled fun _ => ignore_settled (Clean.settled ?_)
      exact hangupTarget_mending hrecounts hhangs hsteady₁ htarget

theorem handleResponse_mending {msg : SIPMessage} {code : ℤ} (hcode : msg.statusCode = some code)
    (hminds : s.Minds msg) : Mending l Settled (handleResponse msg code) false s := by
  refine Coro.mends_get_bind.mpr ?_
  split
  · rfl
  · next client hclient =>
      split_ifs with hpending hfinal h180
      · exact (modifyClient_uncounted _).settled
      · split
        · next ref href =>
            refine when_settled fun hmo => keep_mending rfl (Phone.Counted.modifyCall fun _ => ?_) ?_
            · have hstate := (hminds ref href).1
                (Or.inr ⟨hcode.trans (congrArg some h180), ⟨client, hclient, hpending⟩, href, hmo⟩)
              simp [VoLTECall.setState, hstate]
            · exact (updateRadio_uncounted ref .alerting).settled
        · exact pure_settled _
      · exact pure_settled _
      · exact pure_settled _

/-! ### Start and stop -/

theorem startManager_uncounted {E : PyError → Prop} : Uncounted E startManager := by
  refine .modify fun s => ?_
  split_ifs
  · exact .refl s
  · exact .of_eq rfl rfl rfl

theorem hangupActive_mending (hrecounts : op.Recounts) (hhangs : op.HangsUp)
    (htargets : ∀ callId, op.Targets callId) (hsteady : op.Steady s) (refs : List ℕ) :
    Mending (op, s₀) (Ends (Clean op)) (hangupActive refs) false s := by
  induction refs generalizing s with
  | nil => exact ⟨rfl, hsteady⟩
  | cons ref refs ih =>
      refine Coro.mends_get_bind.mpr (clean_bind (when_mending (fun _ => ignore_mending ?_) fun _ => ?_)
        (fun _ s₁ hsteady₁ => ih hsteady₁) fun _ hsteady₁ => ⟨rfl, hsteady₁⟩)
      · exact hangupTarget_mending hrecounts hhangs hsteady (htargets _)
      · exact ⟨rfl, hsteady⟩

theorem stop_mending (hrecounts : op.Recounts) (hhangs : op.HangsUp) (htargets : ∀ callId, op.Targets callId)
    (hsteady : op.Steady s) : Mending (op, s₀) Settled stop false s := by
  refine Coro.mends_get_bind.mpr (settled_bind (Clean.settled
    (hangupActive_mending hrecounts hhangs htargets hsteady _)) fun _ s₁ => ?_)
  exact Uncounted.settled (.modify fun s => .of_eq rfl rfl rfl)

end VoLTECallManager

/-! ### Operations -/

open VoLTECallManager

theorem handleIncomingSip_mending {s : Phone} {msg : SIPMessage} {addr : Text × ℕ}
    (h : (Operation.incoming msg addr).Starts s) :
    Mending (.incoming msg addr, s) Settled (handleIncomingSip msg addr) false s := by
  obtain ⟨hsteady, hminds⟩ := h
  have hrecounts : (Operation.incoming msg addr).Recounts := trivial
  have htarget : (Operation.incoming msg addr).Targets msg.callId := rfl
  unfold handleIncomingSip
  split
  · next code hcode => exact handleResponse_mending hcode hminds
  · next hstatus =>
      split_ifs with hinvite hbye hcancel hrefer hnotify
      · refine Coro.mends_get_bind.mpr ?_
        split
        · next ref href => exact handleReinvite_mending ⟨⟨hstatus, hinvite⟩, href⟩ hminds addr
        · next hnew =>
            have hdials : (Operation.incoming msg addr).Dials := ⟨hstatus, Or.inl hinvite⟩
            exact handleIncomingInvite_mending hrecounts hdials hsteady hnew addr
      · exact handleIncomingBye_mending msg addr
      · exact handleIncomingCancel_mending ⟨hstatus, hcancel⟩ hminds addr
      · have hdials : (Operation.incoming msg addr).Dials := ⟨hstatus, Or.inr hrefer⟩
        have hhangs : (Operation.incoming msg addr).HangsUp := ⟨hstatus, Or.inr hrefer⟩
        exact handleIncomingRefer_mending hrecounts hdials hhangs htarget hsteady addr
      · have hhangs : (Operation.incoming msg addr).HangsUp := ⟨hstatus, Or.inl hnotify⟩
        exact handleIncomingNotify_mending hrecounts hhangs htarget hsteady addr
      · exact pure_settled _

/-- **Every operation pays its debts.** -/
theorem Operation.mends {op : Operation} {s : Phone} (h : op.Starts s) :
    Mending (op, s) Settled op.run false s := by
  have hsteady := h.1
  cases op with
  | start =>
      refine settled_bind ?_ fun _ _ => pure_settled _
      exact startManager_uncounted.settled
  | stop =>
      refine settled_bind ?_ fun _ _ => pure_settled _
      exact stop_mending (by trivial) (by trivial) (fun _ => by trivial) hsteady
  | incoming msg addr =>
      refine settled_bind ?_ fun _ _ => pure_settled _
      exact handleIncomingSip_mending h
  | initiateCall number index =>
      refine settled_bind ?_ fun _ _ => pure_settled _
      exact initiateCall_mending hsteady (by trivial) number index
  | answerCall callId =>
      refine settled_bind ?_ fun _ _ => pure_settled _
      exact answerCall_mending callId
  | holdCall callId =>
      refine settled_bind ?_ fun _ _ => pure_settled _
      exact holdCall_mending (by trivial) callId
  | resumeCall callId =>
      refine settled_bind ?_ fun _ _ => pure_settled _
      exact resumeCall_mending (by trivial) callId
  | swapCalls =>
      refine settled_bind ?_ fun _ _ => pure_settled _
      exact swapCalls_mending (by trivial)
  | conferenceCalls =>
      refine settled_bind ?_ fun _ _ => pure_settled _
      exact conferenceCalls_mending
  | transferCall callId target =>
      refine settled_bind ?_ fun _ _ => pure_settled _
      exact transferCall_mending (by exact fun _ href => href) target
  | attendedTransfer a b =>
      refine settled_bind ?_ fun _ _ => pure_settled _
      exact (attendedTransfer_uncounted a b).settled
  | hangupCall callId =>
      refine settled_bind (Clean.settled ?_) fun _ _ => pure_settled _
      exact hangupTarget_mending (by trivial) (by trivial) hsteady (by rfl)
  | dial number =>
      refine settled_bind ?_ fun _ _ => pure_settled _
      exact RadioHAL.dial_mending (by trivial) number
  | answer =>
      refine settled_bind ?_ fun _ _ => pure_settled _
      exact RadioHAL.answer_mending
  | hangup index =>
      refine settled_bind ?_ fun _ _ => pure_settled _
      exact RadioHAL.hangup_mending (by trivial) (by trivial) (fun _ => by trivial) hsteady index
  | switchWaitingOrHoldingAndActive rounds =>
      refine settled_bind ?_ fun _ _ => pure_settled _
      exact RadioHAL.switchWaitingOrHoldingAndActive_mending (by trivial) rounds
  | conference =>
      refine settled_bind ?_ fun _ _ => pure_settled _
      exact RadioHAL.conference_mending
  | separateConnection index =>
      refine settled_bind ?_ fun _ _ => pure_settled _
      exact RadioHAL.separateConnection_mending (by trivial) index
  | explicitCallTransfer =>
      refine settled_bind ?_ fun _ _ => pure_settled _
      exact RadioHAL.explicitCallTransfer_mending rfl
  | hangupAll =>
      refine settled_bind ?_ fun _ _ => pure_settled _
      exact RadioHAL.hangupAll_mending (by trivial) (by trivial) (fun _ => by trivial) hsteady
  | setCallForward action reason number time =>
      refine settled_bind ?_ fun _ _ => pure_settled _
      exact (RadioHAL.setCallForward_uncounted action reason number time).settled
  | powerOff =>
      refine settled_bind ?_ fun _ _ => pure_settled _
      exact Uncounted.settled (.modifyRadio _)

/-! ### Runs of the phone -/

/-- The phone with what runs on it, what was started in which state, which operations have changed the
number of ACTIVE calls since the counter was last rewritten, and whether the last event ended one. -/
structure PhoneLog where
  pool : PhonePool
  started : List (Operation × Phone) := []
  behind : List ℕ := []
  completed : Bool := false

namespace PhoneLog

/-- What an event starts, and in which state. -/
def label (p : PhonePool) : PhoneEvent → Operation × Phone
  | .spawn op => (op, p.state)
  | _ => (.start, p.state)

/-- One event of the phone. -/
def step (log : PhoneLog) (e : PhoneEvent) : Option PhoneLog :=
  (log.pool.step e).map fun p =>
    { pool := p
      started := EventLoop.labels log.started (label log.pool e) e
      behind := phoneLoop.marks Phone.counter log.pool log.behind e
      completed := decide (phoneLoop.Ends log.pool e) }

/-- An operation can start, and whenever it goes on, it can go on. -/
def Proceeds (log : PhoneLog) : PhoneEvent → Prop
  | .spawn op => op.Starts log.pool.state
  | .resume n =>
      match log.pool.tasks[n]?, log.started[n]? with
      | some (.wait w _), some (op, s₀) => op.ResumesWell s₀ log.pool.state (n ∈ log.behind) w
      | _, _ => True
  | .outside _ => True

instance (log : PhoneLog) (e : PhoneEvent) : Decidable (log.Proceeds e) := by
  cases e with
  | spawn op => exact inferInstanceAs (Decidable (op.Starts log.pool.state))
  | resume n =>
      unfold Proceeds
      dsimp only
      split <;> infer_instance
  | outside i => exact isTrue trivial

/-- The condition on an event. -/
structure Careful (log : PhoneLog) (e : PhoneEvent) : Prop where
  proceeds : log.Proceeds e
  undisturbed : phoneLoop.Undisturbed Phone.counter log.pool log.behind e

instance (log : PhoneLog) (e : PhoneEvent) : Decidable (log.Careful e) :=
  decidable_of_iff (log.Proceeds e ∧ phoneLoop.Undisturbed Phone.counter log.pool log.behind e)
    ⟨fun h => ⟨h.1, h.2⟩, fun h => ⟨h.proceeds, h.undisturbed⟩⟩

/-- The counter is right when an operation has ended, and as long as no operation under way has changed
the number of ACTIVE calls since it was rewritten. -/
structure CounterKept (log : PhoneLog) : Prop where
  completed : log.completed = true → log.pool.state.Counted
  quiet : (∀ n ∈ log.behind, ¬EventLoop.UnderWay log.pool n) → log.pool.state.Counted

theorem later_of_step {p p' : PhonePool} {e : PhoneEvent}
    (hp : PhonePool.Disciplined (fun _ => True) p) (h : p.step e = some p') :
    PhonePool.Disciplined (fun _ => True) p' ∧ Later p.state p'.state := by
  obtain ⟨hp', s₁, hseg, hfirst⟩ := PhonePool.step_spec hp (PhonePool.admits_true p e) h
  have hlater : Later s₁ p'.state := (volteDiscipline _).segment_later hseg
  refine ⟨hp', ?_⟩
  rcases hfirst with rfl | ⟨op, -, hop⟩
  · exact hlater
  · exact hop.later.trans hlater

/-- The counter is kept up. -/
structure Upkept (log : PhoneLog) : Prop where
  disciplined : PhonePool.Disciplined (fun _ => True) log.pool
  pool : EventLoop.Upkept counterUpkeep log.started log.behind log.pool
  completed : log.completed = true → log.pool.state.Counted

theorem Upkept.kept {log : PhoneLog} (h : log.Upkept) : log.CounterKept := ⟨h.completed, h.pool.right⟩

theorem Upkept.step {log log' : PhoneLog} {e : PhoneEvent} (hkept : log.Upkept) (he : log.Careful e)
    (h : log.step e = some log') : log'.Upkept := by
  obtain ⟨p, hstep, rfl⟩ := Option.map_eq_some_iff.mp h
  obtain ⟨hp', hlater⟩ := later_of_step hkept.disciplined hstep
  have hloop := PhonePool.step_eq hstep
  have hpool : EventLoop.Upkept counterUpkeep (EventLoop.labels log.started (label log.pool e) e)
      (phoneLoop.marks Phone.counter log.pool log.behind e) p := by
    refine hkept.pool.step ?_ ?_ ?_ (Later.refl _) hlater hloop
    · rintro op rfl
      exact Operation.mends he.proceeds
    · rintro n w c l rfl htask hl hready
      have hproceeds := he.proceeds
      unfold Proceeds at hproceeds
      simp only [htask, hl] at hproceeds
      exact ⟨hready, hproceeds⟩
    · rintro i s' rfl hs hcounted
      rw [Phone.expire_eq hs]
      exact hcounted
  exact ⟨hp', hpool, fun hends => hpool.right_of_ends hloop (of_decide_eq_true hends) he.undisturbed⟩

end PhoneLog

open PhoneLog in
/-- **The counter of active calls.**  In a run whose events are all careful, whenever an operation or an
incoming message has been handled to its end, the counter is the number of ACTIVE calls in the table. -/
theorem activeCalls_kept {config : VoLTEConfig} {radioHal : Bool} {radio : RadioHAL}
    {random : ℕ → Text} {es : List PhoneEvent}
    (hcareful : Along PhoneLog.step Careful { pool := PhonePool.initial config radioHal radio random } es) :
    Always PhoneLog.step CounterKept { pool := PhonePool.initial config radioHal radio random } es := by
  intro pre log hpre hr
  have hinitial : Upkept { pool := PhonePool.initial config radioHal radio random } := by
    refine ⟨PhonePool.initial_disciplined _ config radioHal radio random, ?_, fun h => by cases h⟩
    exact EventLoop.Upkept.initial (U := counterUpkeep) (s := Phone.create config radioHal radio random) rfl
  have hkept : log.Upkept := runFrom_invariant PhoneLog.step (I := Upkept)
    (fun log e log' h he hstep => h.step he hstep) hinitial
    (Along.beginning PhoneLog.step hcareful hpre) hr
  exact hkept.kept

/-- An answered call is put on hold, whose re-INVITE times out, and then canceled. -/
def heldCanceledRun : List PhoneEvent :=
  [.spawn .start, .spawn (testInvite "m=audio 4\r\na=sendrecv"), .resume 1, .resume 1,
    .spawn .answer, .resume 2, .resume 2, .resume 2, .spawn (.holdCall "c".toList), .outside 0,
    .resume 3, .resume 3, .spawn lateCancel, .resume 4, .resume 4]

/-- When the operations have ended the counter is right. -/
theorem activeCalls_kept_held : ∃ log, runFrom PhoneLog.step { pool := testPhone } heldCanceledRun = some log ∧
    log.completed = true ∧ log.pool.state.Counted := by
  obtain ⟨log, hr, hcompleted⟩ : ∃ log, runFrom PhoneLog.step { pool := testPhone } heldCanceledRun = some log ∧
      log.completed = true := exists_run PhoneLog.step (by decide +kernel)
  have hcareful : Along PhoneLog.step PhoneLog.Careful { pool := testPhone } heldCanceledRun := by
    decide +kernel
  have hkept := activeCalls_kept hcareful _ log (List.prefix_refl _) hr
  exact ⟨log, hr, hcompleted, hkept.completed hcompleted⟩

/-- An answered call is canceled: the table is empty, and the counter is one. -/
theorem activeCalls_after_cancel : ∃ p, runFrom PhonePool.step testPhone
    (takenRun ++ [.spawn lateCancel, .resume 3, .resume 3]) = some p ∧ (∀ c ∈ p.tasks, c.Ended) ∧
    p.state.volteState.activeCalls = 1 ∧ p.state.activeCount = 0 ∧ ¬p.state.Counted := by
  obtain ⟨p, hr, hended, hcounter, hcount⟩ : ∃ p, runFrom PhonePool.step testPhone
      (takenRun ++ [.spawn lateCancel, .resume 3, .resume 3]) = some p ∧ (∀ c ∈ p.tasks, c.Ended) ∧
      p.state.volteState.activeCalls = 1 ∧ p.state.activeCount = 0 :=
    exists_run PhonePool.step (by decide +kernel)
  refine ⟨p, hr, hended, hcounter, hcount, fun hcounted => ?_⟩
  rw [Phone.Counted, hcounter, hcount] at hcounted
  cases hcounted

end VirtualPhone
