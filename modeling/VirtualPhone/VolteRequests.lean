import VirtualPhone.VolteManager
import VirtualPhone.Runtime.Contract

/-! # What the sender of a request gets

A method that has sent a request is resumed with the response, or when the 32 seconds are over.
In the second case the client takes the request out of its table and raises `TimeoutError`, unless
a late response has taken it out meanwhile: `del` then raises `KeyError`, which nobody catches.
Such a request is `Crossed`. -/

namespace VirtualPhone

open Runtime
open Coro (get modify raise attempt run_bind_wait run_bind_ok run_bind_error run_attempt_wait run_attempt_done)
open Async (onTimeout when ignore)

/-! ### Contracts of the statements -/

section

variable {K : Contract Phone Await} {α : Type} {s₀ s : Phone}

theorem when_meets {c : Prop} [Decidable c] {body : Async Unit}
    {post : Phone → Except PyError Unit → Phone → Prop} :
    (when c body).Meets K post s₀ s ↔ (c → body.Meets K post s₀ s) ∧ (¬c → post s₀ (.ok ()) s) := by
  unfold Async.when
  split_ifs with hc
  · exact ⟨fun h => ⟨fun _ => h, fun hn => absurd hc hn⟩, fun h => h.1 hc⟩
  · exact ⟨fun h => ⟨fun hc' => absurd hc' hc, fun _ => h⟩, fun h => h.2 hc⟩

/-- The outcome of a method whose result nobody looks at. -/
def ignored (post : Phone → Except PyError Unit → Phone → Prop) :
    Phone → Except PyError α → Phone → Prop
  | s₀, .ok _, s => post s₀ (.ok ()) s
  | s₀, .error e, s => post s₀ (.error e) s

theorem ignore_meets {body : Async α} {post : Phone → Except PyError Unit → Phone → Prop} :
    (ignore body).Meets K post s₀ s ↔ body.Meets K (ignored post) s₀ s := by
  refine Coro.meets_bind.trans ⟨fun h => h.mono ?_, fun h => h.mono ?_⟩ <;>
    · intro s₀ r s hr
      cases r <;> exact hr

/-- The outcome of the body of a `try` block: a `TimeoutError` is handled. -/
def handled (K : Contract Phone Await) (handler : Async α)
    (post : Phone → Except PyError α → Phone → Prop) : Phone → Except PyError α → Phone → Prop
  | s₀, .error (.timeoutError _), s => handler.Meets K post s₀ s
  | s₀, r, s => post s₀ r s

theorem onTimeout_meets {body handler : Async α}
    {post : Phone → Except PyError α → Phone → Prop} :
    (onTimeout body handler).Meets K post s₀ s ↔ body.Meets K (handled K handler post) s₀ s := by
  refine Coro.meets_bind.trans (Coro.meets_attempt.trans ⟨fun h => h.mono ?_, fun h => h.mono ?_⟩) <;>
    · intro s₀ r s hr
      cases r with
      | ok a => exact hr
      | error e => cases e <;> exact hr

end

/-! ### The outcome of a request -/

/-- The time of request `i` is over, and a late response has taken its Call-ID from the table. -/
def Phone.Crossed (s : Phone) (i : ℕ) : Prop :=
  ∃ client ∈ s.sipClient, ∃ t ∈ client.calls[i]?,
    t.phase = .expired ∧ t.cid ∉ client.client.pendingResponses.keys

instance (s : Phone) (i : ℕ) : Decidable (s.Crossed i) :=
  inferInstanceAs (Decidable (∃ _ ∈ _, ∃ _ ∈ _, _))

/-- The response that waits for the sender of request `i`. -/
def Phone.response? (s : Phone) (i : ℕ) : Option SIPMessage := s.sipClient.bind (·.response? i)

/-- `send_request(...)` from its wait on. -/
def receiveResponse (i : ℕ) : Async SIPMessage := do
  let s ← get
  match s.sipClient.bind (·.response? i) with
  | some response =>
      modify (Phone.modifyClient (Session.perform (.resume i)))
      return response
  | none =>
      modify (Phone.modifyClient (Session.perform (.timeOut i)))
      let s ← get
      match (s.sipClient.bind (·.calls[i]?)).map Call.phase with
      | some (.raised e) => raise e
      | _ => raise .attributeError

theorem sendRequest_eq {args : RequestArgs} {s : Phone} {client : Session}
    (h : s.sipClient = some client) : (sendRequest args).run s =
      (.wait (.response client.calls.length) (receiveResponse client.calls.length),
        s.beginRequest args) := by
  unfold sendRequest
  rw [Coro.run_get_bind]
  simp only [h]
  rfl

theorem sendRequest_eq_error {args : RequestArgs} {s : Phone} (h : s.sipClient = none) :
    (sendRequest args).run s = (.done (.error .attributeError), s) := by
  unfold sendRequest
  rw [Coro.run_get_bind]
  simp only [h]
  rfl

/-- What a ready sender gets: the response, or the exception of its time-out. -/
inductive Received (s : Phone) (i : ℕ) : Except PyError SIPMessage → Prop
  | response {msg : SIPMessage} : s.response? i = some msg → Received s i (.ok msg)
  | timedOut (m : Text) : s.response? i = none → ¬s.Crossed i → Received s i (.error (.timeoutError m))
  | crossed (cid : Text) : s.response? i = none → s.Crossed i → Received s i (.error (.keyError cid))

/-- The wait ends with what the sender gets, after a step of the client. -/
theorem receiveResponse_run {s : Phone} {i : ℕ} (h : s.ready (.response i) = true) :
    ∃ r e, (receiveResponse i).run s = (.done r, s.modifyClient (Session.perform e)) ∧
      Received s i r := by
  cases hclient : s.sipClient with
  | none =>
      rw [Phone.ready, hclient] at h
      cases h
  | some client =>
      have hresponse : s.response? i = client.response? i := by
        rw [Phone.response?, hclient]
        rfl
      unfold receiveResponse
      rw [Coro.run_get_bind]
      cases hmsg : client.response? i with
      | some msg =>
          refine ⟨.ok msg, .resume i, ?_, .response (hresponse.trans hmsg)⟩
          simp only [hclient, Option.bind_some, hmsg]
          rfl
      | none =>
          have hnone := hresponse.trans hmsg
          -- without a response, a settled request is one whose time is over
          have hsettled : client.settled i = true := by
            rw [Phone.ready, hclient] at h
            exact h
          obtain ⟨t, ht, hphase⟩ : ∃ t, client.calls[i]? = some t ∧ t.phase = .expired := by
            unfold Session.settled at hsettled
            unfold Session.response? at hmsg
            split at hsettled
            · next t ht =>
                rw [ht] at hmsg
                refine ⟨t, ht, ?_⟩
                split at hsettled
                · next hp hf =>
                    simp only [hp, hf] at hmsg
                    cases hmsg
                · next hp => exact hp
                · cases hsettled
            · cases hsettled
          have hstep : client.perform (.timeOut i) = client.timeOut i t := by
            simp only [Session.perform, Session.step, ht, hphase, if_true, Option.getD_some]
          have hcrossed : s.Crossed i ↔ t.cid ∉ client.client.pendingResponses.keys := by
            constructor
            · rintro ⟨client', hclient', t', ht', -, hcid⟩
              obtain rfl := Option.some.inj (hclient.symm.trans hclient')
              obtain rfl := Option.some.inj (ht.symm.trans ht')
              exact hcid
            · exact fun hcid => ⟨client, hclient, t, ht, hphase, hcid⟩
          simp only [hclient, Option.bind_some, hmsg]
          rw [Coro.run_modify_bind, Coro.run_get_bind]
          simp only [Phone.modifyClient, hclient, Option.map_some, Option.bind_some, hstep,
            Session.timeOut]
          by_cases hcid : t.cid ∈ client.client.pendingResponses.keys
          · refine ⟨.error t.timeoutError, .timeOut i, ?_,
              .timedOut _ hnone fun hc => (hcrossed.mp hc) hcid⟩
            simp only [if_pos hcid, Session.updateCall_getElem?, if_true, Session.withClient_calls, ht,
              Option.map_some, hstep, Session.timeOut]
            rfl
          · refine ⟨.error (.keyError t.cid), .timeOut i, ?_,
              .crossed _ hnone (hcrossed.mpr hcid)⟩
            simp only [if_neg hcid, Session.updateCall_getElem?, if_true, ht, Option.map_some, hstep,
              Session.timeOut]
            rfl

/-- A request with a contract: the segment ends where the request is out, and its sender goes on with
what it gets. -/
theorem sendRequest_meets {K : Contract Phone Await}
    {post : Phone → Except PyError SIPMessage → Phone → Prop} {args : RequestArgs} {s₀ s : Phone}
    {client : Session} (hclient : s.sipClient = some client)
    (hready : ∀ {w s}, K.resumes w s → s.ready w = true) (hguar : K.guar s₀ (s.beginRequest args))
    (h : ∀ s' r e, K.rely (s.beginRequest args) s' →
      K.resumes (.response client.calls.length) s' → Received s' client.calls.length r →
      post s' r (s'.modifyClient (Session.perform e))) : (sendRequest args).Meets K post s₀ s := by
  refine Coro.meets_run.mpr ?_
  rw [sendRequest_eq hclient]
  refine ⟨hguar, fun s' hrely hresumes => ?_⟩
  obtain ⟨r, e, hrun, hreceived⟩ := receiveResponse_run (hready hresumes)
  refine Coro.meets_run.mpr ?_
  rw [hrun]
  exact h s' r e hrely hresumes hreceived

theorem Phone.expire_eq {s s' : Phone} {i : ℕ} (h : s.expire i = some s') :
    s' = s.modifyClient (Session.perform (.expire i)) := by
  unfold Phone.expire at h
  obtain ⟨client, hclient, h⟩ := Option.bind_eq_some_iff.mp h
  obtain ⟨c, hc, rfl⟩ := Option.map_eq_some_iff.mp h
  simp only [Phone.modifyClient, hclient, Option.map_some, Session.perform, hc, Option.getD_some]

/-! ### The requests of the client stay -/

/-- Every request of the client stays, as the one it is. -/
def Session.SameRequests (c c' : Session) : Prop :=
  ∀ (i : ℕ) (t : Call), c.calls[i]? = some t →
    ∃ t', c'.calls[i]? = some t' ∧ t'.cid = t.cid ∧ t'.request = t.request

namespace Session.SameRequests

theorem refl (c : Session) : c.SameRequests c := fun _ t h => ⟨t, h, rfl, rfl⟩

theorem trans {a b c : Session} (h : a.SameRequests b) (h' : b.SameRequests c) : a.SameRequests c := by
  intro i t ht
  obtain ⟨u, hu, hcid, hrequest⟩ := h i t ht
  obtain ⟨w, hw, hcid', hrequest'⟩ := h' i u hu
  exact ⟨w, hw, hcid'.trans hcid, hrequest'.trans hrequest⟩

theorem sendRequest (c : Session) (args : RequestArgs) (ids : RandomIds) :
    c.SameRequests (c.sendRequest args ids) :=
  fun _ t ht => ⟨t, (List.getElem?_append_left (List.getElem?_eq_some_iff.mp ht).1).trans ht, rfl, rfl⟩

theorem modify {c c' : Session} {i : ℕ} {f : Call → Call}
    (hf : ∀ t, (f t).cid = t.cid ∧ (f t).request = t.request) (h : c'.calls = c.calls.modify i f) :
    c.SameRequests c' := by
  intro j t ht
  rw [h, List.getElem?_modify, ht]
  split_ifs
  · exact ⟨f t, rfl, (hf t).1, (hf t).2⟩
  · exact ⟨t, rfl, rfl, rfl⟩

end Session.SameRequests

namespace Session

/-- A step of the client that begins no request changes one of those there are, at most: what was
asked under which Call-ID stays. -/
theorem perform_calls {e : ClientEvent} (c : Session) (he : ∀ args ids, e ≠ .request args ids) :
    ∃ i f, (∀ t : Call, (f t).cid = t.cid ∧ (f t).request = t.request) ∧
      (c.perform e).calls = c.calls.modify i f := by
  have hsame : ∃ i f, (∀ t : Call, (f t).cid = t.cid ∧ (f t).request = t.request) ∧
      c.calls = c.calls.modify i f := ⟨0, id, fun _ => ⟨rfl, rfl⟩, (List.modify_id 0 c.calls).symm⟩
  have hmessage : ∀ msg, ∃ i f, (∀ t : Call, (f t).cid = t.cid ∧ (f t).request = t.request) ∧
      (c.handleMessage msg).calls = c.calls.modify i f := by
    intro msg
    rcases c.handleMessage_cases msg with h | ⟨code, i, -, -, -, h⟩
    · rw [h]
      exact hsame
    · rw [h]
      refine ⟨i, Call.complete msg, fun t => ?_, rfl⟩
      unfold Call.complete
      split_ifs <;> exact ⟨rfl, rfl⟩
  unfold Session.perform
  cases e with
  | request args ids => exact absurd rfl (he args ids)
  | receive msg => exact hmessage msg
  | resolve msg =>
      rw [Session.step, Option.getD_some, Session.resolveResponse_eq]
      exact hmessage msg
  | sent i =>
      simp only [Session.step]
      split
      · split_ifs
        · exact ⟨i, Call.withPhase .waiting, fun _ => ⟨rfl, rfl⟩, rfl⟩
        · exact hsame
      · exact hsame
  | unsent i e =>
      simp only [Session.step]
      split
      · split_ifs
        · exact ⟨i, Call.withPhase (.raised e), fun _ => ⟨rfl, rfl⟩, rfl⟩
        · exact hsame
      · exact hsame
  | expire i =>
      simp only [Session.step]
      split
      · split_ifs
        · exact ⟨i, Call.expire, fun _ => ⟨rfl, rfl⟩, rfl⟩
        · exact hsame
      · exact hsame
  | resume i =>
      simp only [Session.step]
      split
      · split
        · exact ⟨i, Call.withPhase _, fun _ => ⟨rfl, rfl⟩, rfl⟩
        · exact hsame
      · exact hsame
  | timeOut i =>
      simp only [Session.step]
      split
      · split_ifs
        · unfold Session.timeOut
          rw [Option.getD_some]
          split_ifs <;> exact ⟨i, Call.withPhase _, fun _ => ⟨rfl, rfl⟩, rfl⟩
        · exact hsame
      · exact hsame

theorem SameRequests.perform (e : ClientEvent) (c : Session) : c.SameRequests (c.perform e) := by
  by_cases he : ∃ args ids, e = .request args ids
  · obtain ⟨args, ids, rfl⟩ := he
    exact SameRequests.sendRequest c args ids
  · obtain ⟨i, f, hf, hcalls⟩ := c.perform_calls fun args ids h => he ⟨args, ids, h⟩
    exact SameRequests.modify hf hcalls

theorem perform_length {e : ClientEvent} (c : Session) (he : ∀ args ids, e ≠ .request args ids) :
    (c.perform e).calls.length = c.calls.length := by
  obtain ⟨i, f, -, hcalls⟩ := c.perform_calls he
  rw [hcalls, List.length_modify]

end Session

/-- The request that `send_request` makes, when it waits for the response. -/
theorem beginRequest_client (args : RequestArgs) {s : Phone} {client : Session}
    (h : s.sipClient = some client) : ∃ client', (s.beginRequest args).sipClient = some client' ∧
      client.SameRequests client' ∧ ∃ t ids, client'.calls[client.calls.length]? = some t ∧
        t.cid = args.cid ids ∧ t.request.method = some args.method := by
  let ids : RandomIds := { callId := s.draw 0, branch := s.draw 1, tag := s.draw 2 }
  have hbegin : (s.beginRequest args).sipClient = some ((client.perform (.request args ids)).perform
      (.sent client.calls.length)) := by
    unfold Phone.beginRequest
    simp only [h]
    simp only [Phone.send, Phone.modifyClient, Phone.skipDraws, h, Option.map_some]
    rfl
  have hsent := Session.SameRequests.perform (.sent client.calls.length)
    (client.perform (.request args ids))
  refine ⟨_, hbegin, (Session.SameRequests.perform _ client).trans hsent, ?_⟩
  obtain ⟨t, ht, hcid, hrequest⟩ := hsent client.calls.length _ List.getElem?_concat_length
  exact ⟨t, ids, ht, hcid, by rw [hrequest]; rfl⟩

/-! ### Answers that can be worked with -/

/-- Media can be started for a call with this port, this remote SDP and this codec, or is not
started. -/
def Playable (rtpPort : ℕ) (sdp codec : Text) : Prop :=
  rtpPort = 0 ∨ sdp = [] ∨ ∃ addr ∈ (parseRemoteRtpAddress sdp).toOption,
    addr.2 = 0 ∨ (parsePayloadType sdp codec).isOk = true

instance (rtpPort : ℕ) (sdp codec : Text) : Decidable (Playable rtpPort sdp codec) :=
  inferInstanceAs (Decidable (_ ∨ _ ∨ ∃ _ ∈ _, _))

/-- `_start_media` once the SDP is read. -/
def openMedia (ref : ℕ) (c : VoLTECall) (remoteAddr : Text × ℤ) (payloadType : ℤ) : Async Unit := do
  modifyCall ref VoLTECall.addSession
  match ← attempt (MediaSession.start ref c.sessions.length c.rtpPort remoteAddr c.codec payloadType) with
  | .ok _ => modifyCall ref (VoLTECall.setMediaSession (some c.sessions.length))
  | .error _ => return

/-- Media are not started, or the SDP cannot be read, or a session is opened. -/
theorem startMedia_meets {K : Contract Phone Await} {post : Phone → Except PyError Unit → Phone → Prop}
    {ref : ℕ} {s₀ s : Phone} (hoff : post s₀ (.ok ()) s)
    (herror : ¬Playable (s.call ref).rtpPort (s.call ref).remoteSdp (s.call ref).codec →
      ∀ e, post s₀ (.error e) s)
    (hopen : ∀ remoteAddr payloadType,
      (openMedia ref (s.call ref) remoteAddr payloadType).Meets K post s₀ s) :
    (startMedia ref).Meets K post s₀ s := by
  refine Coro.meets_get_bind.mpr ?_
  split_ifs with hnone
  · exact hoff
  · rw [not_or] at hnone
    cases haddr : parseRemoteRtpAddress (s.call ref).remoteSdp with
    | error e =>
        refine herror (fun hplay => ?_) e
        rcases hplay with hport | hsdp | ⟨addr, hget, -⟩
        · exact hnone.2 hport
        · exact hnone.1 hsdp
        · rw [haddr] at hget
          cases hget
    | ok remoteAddr =>
        refine Coro.meets_bind.mpr ?_
        show (if remoteAddr.2 = 0 then (pure () : Async Unit) else _).Meets K post s₀ s
        split_ifs with hzero
        · exact hoff
        · cases hpayload : parsePayloadType (s.call ref).remoteSdp (s.call ref).codec with
          | error e =>
              refine herror (fun hplay => ?_) e
              rcases hplay with hport | hsdp | ⟨addr, hget, h⟩
              · exact hnone.2 hport
              · exact hnone.1 hsdp
              · rw [haddr] at hget
                obtain rfl := Option.some.inj hget
                rcases h with h | h
                · exact hzero h
                · rw [hpayload] at h
                  cases h
          | ok payloadType => exact hopen remoteAddr payloadType

/-- The sender of an INVITE can work with what it gets: with the SDP of a 200, or, where the call
fails, with a table that still has its entry. -/
def Phone.Usable (s : Phone) (i : ℕ) : Prop :=
  ∀ c ∈ s.callHeap, c.history.inviteRequest = some i →
    (∀ msg ∈ s.response? i, msg.statusCode = some 200 →
      Playable c.rtpPort (decodeUtf8 msg.body) (extractCodecFromSdp (decodeUtf8 msg.body))) ∧
    ((∀ msg ∈ s.response? i, msg.statusCode ≠ some 200) → c.sipCallId ∈ s.calls.keys)

instance (s : Phone) (i : ℕ) : Decidable (s.Usable i) :=
  inferInstanceAs (Decidable (∀ _ ∈ _, _))

end VirtualPhone
