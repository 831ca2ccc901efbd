import VirtualPhone.VolteRequests

/-! # Methods against the network

A method of the phone that runs while nothing else does: the network answers each of its requests
with a final response, which the phone's handler gets, or lets its time run out.  `Coro.against`
runs a method to its end this way. -/

namespace VirtualPhone

open Runtime
open Coro (get modify raise attempt Passes)
open Async (when whenSome ignore onTimeout)

/-- What becomes of a request: a final response, or none in time. -/
inductive RequestOutcome
  | final (code : ℤ) (hcode : 200 ≤ code) (headers : Dict Text Text) (body : Bytes)
  | timeout

theorem final_ok : (200 : ℤ) ≤ 200 := le_rfl

/-- The Call-ID of request `i`. -/
def Phone.requestId (s : Phone) (i : ℕ) : Text :=
  ((s.sipClient.bind (·.calls[i]?)).map Call.cid).getD []

/-- A response in the dialog of a request. -/
def finalResponse (callId : Text) (code : ℤ) (headers : Dict Text Text) (body : Bytes) : SIPMessage :=
  { statusCode := some code
    headers := headers.set "Call-ID".toList callId
    body := body }

/-- The network: it answers every request as `outcome` says. -/
def network (outcome : ℕ → RequestOutcome) : Await → Phone → Phone
  | .response i, s =>
      match outcome i with
      | .final code _ headers body =>
          ((VoLTECallManager.handleIncomingSip (finalResponse (s.requestId i) code headers body)
            s.config.dest).run s).2
      | .timeout => (s.expire i).getD s
  | .pause, s => s
  | .exhausted, s => s

/-- What the sender of a request gets. -/
def RequestOutcome.Gives : RequestOutcome → Except PyError SIPMessage → Prop
  | .final code _ _ body, r => ∃ msg, r = .ok msg ∧ msg.statusCode = some code ∧ msg.body = body
  | .timeout, r => ∃ m, r = .error (.timeoutError m)

/-- How many requests the client has begun. -/
def Phone.requests (s : Phone) : Option ℕ := s.sipClient.map fun client => client.calls.length

/-! ### The client -/

namespace Session

/-- A pending request, which the client knows under its Call-ID. -/
def Open (c : Session) (i : ℕ) (cid : Text) : Prop :=
  (∃ t, c.calls[i]? = some t ∧ t.cid = cid ∧ t.phase = .waiting ∧ t.future = .pending) ∧
    c.client.pendingResponses.get? cid = some i

end Session

theorem beginRequest_open (args : RequestArgs) {s : Phone} {client : Session} (h : s.sipClient = some client) :
    ∃ client' cid, (s.beginRequest args).sipClient = some client' ∧
      client'.Open client.calls.length cid ∧ client'.calls.length = client.calls.length + 1 := by
  obtain ⟨ids, hids⟩ : ∃ ids : RandomIds,
      ids = { callId := s.draw 0, branch := s.draw 1, tag := s.draw 2 } := ⟨_, rfl⟩
  have hbegin : (s.beginRequest args).sipClient = some ((client.perform (.request args ids)).perform
      (.sent client.calls.length)) := by
    unfold Phone.beginRequest
    simp only [h]
    simp only [Phone.send, Phone.modifyClient, Phone.skipDraws, h, Option.map_some, hids]
  have hlast : (client.perform (.request args ids)).calls[client.calls.length]? =
      some { cid := args.cid ids, request := client.client.request args ids } := List.getElem?_concat_length
  have hsent : (client.perform (.request args ids)).perform (.sent client.calls.length) =
      (client.perform (.request args ids)).updateCall client.calls.length (Call.withPhase .waiting) := by
    simp only [Session.perform, Session.step, Option.getD_some] at hlast ⊢
    simp only [hlast, if_true, Option.getD_some]
  refine ⟨_, args.cid ids, hbegin, ⟨?_, ?_⟩, ?_⟩
  · rw [hsent, Session.updateCall_getElem?, if_pos rfl, hlast]
    exact ⟨_, rfl, rfl, rfl, rfl⟩
  · rw [hsent, Session.updateCall_client]
    exact Dict.get?_set_self _ _ _
  · rw [hsent]
    exact (List.length_modify _ _ _).trans (by simp [Session.perform, Session.step, Session.sendRequest])

/-! ### Requests against the network -/

/-- Between two states that differ by `k` more requests and in what the requests leave behind. -/
structure Phone.Asked (k : ℕ) (s s' : Phone) : Prop where
  config : s'.config = s.config
  radioHal : s'.radioHal = s.radioHal
  radio : s'.radio = s.radio
  started : s'.started = s.started
  callHeap : s'.callHeap = s.callHeap
  calls : s'.calls = s.calls
  requests : s'.requests = s.requests.map (· + k)

theorem beginRequest_asked (args : RequestArgs) {s : Phone} {client : Session}
    (h : s.sipClient = some client) : s.Asked 1 (s.beginRequest args) := by
  obtain ⟨client', cid, hclient', -, hlen⟩ := beginRequest_open args h
  have hrequests : (s.beginRequest args).requests = s.requests.map (· + 1) := by
    rw [Phone.requests, Phone.requests, hclient', h]
    exact congrArg some hlen
  refine ⟨?_, ?_, ?_, ?_, ?_, ?_, hrequests⟩ <;>
    · unfold Phone.beginRequest
      rw [h]
      rfl

theorem Phone.Asked.perform {k : ℕ} {s s' : Phone} {e : ClientEvent} (h : s.Asked k s')
    (he : ∀ args ids, e ≠ .request args ids) : s.Asked k (s'.modifyClient (Session.perform e)) := by
  refine ⟨h.config, h.radioHal, h.radio, h.started, h.callHeap, h.calls, ?_⟩
  rw [← h.requests]
  simp only [Phone.requests, Phone.modifyClient, Option.map_map]
  cases s'.sipClient with
  | none => rfl
  | some client => exact congrArg some (client.perform_length he)

theorem finalResponse_callId (callId : Text) (code : ℤ) (headers : Dict Text Text) (body : Bytes) :
    (finalResponse callId code headers body).callId = callId := by
  unfold SIPMessage.callId SIPMessage.header finalResponse
  rw [Dict.get?_set_self, Option.getD_some]

section

variable {s : Phone} {client : Session} {i : ℕ} {cid : Text}

theorem resolve_open {msg : SIPMessage} {code : ℤ} (hclient : s.sipClient = some client)
    (hopen : client.Open i cid) (hid : msg.callId = cid) (hstatus : msg.statusCode = some code)
    (hcode : 200 ≤ code) :
    (s.modifyClient (Session.perform (.resolve msg))).response? i = some msg ∧
      (s.modifyClient (Session.perform (.resolve msg))).ready (.response i) = true := by
  obtain ⟨⟨t, ht, hcid, hphase, hfuture⟩, hget⟩ := hopen
  have hclient' : (s.modifyClient (Session.perform (.resolve msg))).sipClient =
      some (client.popAndComplete cid i msg) := by
    simp only [Phone.modifyClient, hclient, Option.map_some, Session.perform, Session.step,
      Option.getD_some, Session.resolveResponse_eq, Session.handleMessage, hstatus, hid, hget, if_pos hcode]
  have hcall : (client.popAndComplete cid i msg).calls[i]? = some { t with future := .result msg } := by
    rw [Session.popAndComplete, Session.updateCall_getElem?, if_pos rfl, Session.withClient_calls, ht,
      Option.map_some, Call.complete, if_pos hfuture]
  constructor
  · simp only [Phone.response?, hclient', Option.bind_some, Session.response?, hcall, hphase]
  · simp only [Phone.ready, hclient', Option.map_some, Option.getD_some, Session.settled, hcall, hphase]

/-- An open request runs out of time, and the client still knows its Call-ID. -/
theorem expire_open (hclient : s.sipClient = some client) (hopen : client.Open i cid) :
    (s.modifyClient (Session.perform (.expire i))).response? i = none ∧
      (s.modifyClient (Session.perform (.expire i))).ready (.response i) = true ∧
      ¬(s.modifyClient (Session.perform (.expire i))).Crossed i := by
  obtain ⟨⟨t, ht, hcid, hphase, hfuture⟩, hget⟩ := hopen
  have hclient' : (s.modifyClient (Session.perform (.expire i))).sipClient =
      some (client.updateCall i Call.expire) := by
    simp only [Phone.modifyClient, hclient, Option.map_some, Session.perform, Session.step, ht, hphase,
      hfuture, and_self, if_true, Option.getD_some]
  have hcall : (client.updateCall i Call.expire).calls[i]? = some t.expire := by
    rw [Session.updateCall_getElem?, if_pos rfl, ht, Option.map_some]
  refine ⟨?_, ?_, ?_⟩
  · simp only [Phone.response?, hclient', Option.bind_some, Session.response?, hcall, Call.expire]
  · simp only [Phone.ready, hclient', Option.map_some, Option.getD_some, Session.settled, hcall, Call.expire]
  · rintro ⟨client₁, hclient₁, t₁, ht₁, -, hno⟩
    obtain rfl := Option.some.inj (hclient'.symm.trans hclient₁)
    obtain rfl := Option.some.inj (hcall.symm.trans ht₁)
    refine hno ?_
    rw [Session.updateCall_client]
    exact Dict.mem_keys_of_get? (hcid ▸ hget)

/-- What the network does to a phone that waits for it is a step of its client, and settles the
request. -/
theorem network_open (outcome : ℕ → RequestOutcome) (hclient : s.sipClient = some client)
    (hopen : client.Open i cid) :
    ∃ e, (∀ args ids, e ≠ .request args ids) ∧
      network outcome (.response i) s = s.modifyClient (Session.perform e) ∧
      (network outcome (.response i) s).ready (.response i) = true ∧
      ∀ r, Received (network outcome (.response i) s) i r → (outcome i).Gives r := by
  have hid : s.requestId i = cid := by
    obtain ⟨⟨t, ht, hcid, -⟩, -⟩ := hopen
    simp only [Phone.requestId, hclient, Option.bind_some, ht, Option.map_some, Option.getD_some, hcid]
  cases houtcome : outcome i with
  | final code hcode headers body =>
      obtain ⟨msg, hmsg⟩ : ∃ msg, msg = finalResponse cid code headers body := ⟨_, rfl⟩
      have hcallId : msg.callId = cid := hmsg ▸ finalResponse_callId cid code headers body
      have hstatus : msg.statusCode = some code := hmsg ▸ rfl
      have hpending : client.client.hasPendingRequest msg.callId = true :=
        decide_eq_true (hcallId ▸ Dict.mem_keys_of_get? hopen.2)
      have hnetwork : network outcome (.response i) s =
          s.modifyClient (Session.perform (.resolve msg)) := by
        unfold network VoLTECallManager.handleIncomingSip VoLTECallManager.handleResponse
        simp only [houtcome, hid, ← hmsg, hstatus]
        rw [Coro.run_get_bind]
        simp only [hclient, if_pos hpending, if_pos hcode]
        rfl
      obtain ⟨hresponse, hready⟩ := resolve_open hclient hopen hcallId hstatus hcode
      rw [hnetwork]
      refine ⟨.resolve msg, fun _ _ h => (by cases h), rfl, hready, fun r hr => ?_⟩
      cases hr with
      | response h =>
          obtain rfl := Option.some.inj (hresponse.symm.trans h)
          exact ⟨msg, rfl, hstatus, hmsg ▸ rfl⟩
      | timedOut m h => rw [hresponse] at h; cases h
      | crossed m h => rw [hresponse] at h; cases h
  | timeout =>
      have hnetwork : network outcome (.response i) s = s.modifyClient (Session.perform (.expire i)) := by
        obtain ⟨⟨t, ht, -, hphase, hfuture⟩, -⟩ := hopen
        simp only [network, houtcome, Phone.expire, hclient, Option.bind_some, Session.step, ht, hphase,
          hfuture, and_self, if_true, Option.map_some, Option.getD_some, Phone.modifyClient,
          Session.perform]
      obtain ⟨hresponse, hready, hcrossed⟩ := expire_open hclient hopen
      rw [hnetwork]
      refine ⟨.expire i, fun _ _ h => (by cases h), rfl, hready, fun r hr => ?_⟩
      cases hr with
      | response h => rw [hresponse] at h; cases h
      | timedOut m => exact ⟨m, rfl⟩
      | crossed m h hc => exact absurd hc hcrossed

end

/-- A wait for a response ends with a step of the client that begins no request. -/
theorem receiveResponse_perform (i : ℕ) (s : Phone) : ∃ e, (∀ args ids, e ≠ .request args ids) ∧
    ((receiveResponse i).run s).2 = s.modifyClient (Session.perform e) := by
  unfold receiveResponse
  rw [Coro.run_get_bind]
  split
  · exact ⟨.resume i, fun _ _ h => (by cases h), rfl⟩
  · refine ⟨.timeOut i, fun _ _ h => (by cases h), ?_⟩
    rw [Coro.run_modify_bind, Coro.run_get_bind]
    split <;> rfl

/-- **A request.**  Its sender gets what the network has for it. -/
theorem sendRequest_against (outcome : ℕ → RequestOutcome) (args : RequestArgs) {s : Phone}
    {client : Session} (hclient : s.sipClient = some client) :
    ∃ r s', (sendRequest args).against (network outcome) s = (r, s') ∧ s.Asked 1 s' ∧
      (outcome client.calls.length).Gives r := by
  obtain ⟨client', cid, hclient', hopen, -⟩ := beginRequest_open args hclient
  obtain ⟨e, he, hnetwork, hready, hgives⟩ := network_open outcome hclient' hopen
  obtain ⟨r, e', hrun, hreceived⟩ := receiveResponse_run hready
  obtain ⟨e₂, he₂, hstate⟩ := receiveResponse_perform client.calls.length
    (network outcome (.response client.calls.length) (s.beginRequest args))
  rw [hrun, hnetwork] at hstate
  dsimp only at hstate
  refine ⟨r, _, (Coro.against_of_wait (sendRequest_eq hclient)).trans (Coro.against_of_done hrun), ?_,
    hgives r hreceived⟩
  rw [hnetwork, hstate]
  exact ((beginRequest_asked args hclient).perform he).perform he₂

theorem sendRequest_against_error (outcome : ℕ → RequestOutcome) (args : RequestArgs) {s : Phone}
    (hclient : s.sipClient = none) :
    (sendRequest args).against (network outcome) s = (.error .attributeError, s) :=
  Coro.against_of_done (sendRequest_eq_error hclient)

section

variable {env : Await → Phone → Phone} {α : Type} {s s' : Phone}

theorem onTimeout_against_timeout {body : Async α} {m : Text}
    (h : body.against env s = (.error (.timeoutError m), s')) (handler : Async α) :
    (onTimeout body handler).against env s = handler.against env s' :=
  Coro.against_bind_ok (Coro.against_attempt h) _

theorem onTimeout_against {body : Async α} {r : Except PyError α} (h : body.against env s = (r, s'))
    (hr : ∀ m, r ≠ .error (.timeoutError m)) (handler : Async α) :
    (onTimeout body handler).against env s = (r, s') := by
  unfold Async.onTimeout
  rw [Coro.against_bind_ok (Coro.against_attempt h)]
  rcases r with e | a
  · cases e with
    | timeoutError m => exact absurd rfl (hr m)
    | _ => rfl
  · rfl

theorem ignore_against {body : Async α} {r : Except PyError α} (h : body.against env s = (r, s')) :
    (ignore body).against env s = (r.map fun _ => (), s') := by
  unfold Async.ignore
  rw [Coro.against_bind, h]
  rcases r with e | a <;> rfl

end

/-- A request whose response nobody looks at, and that may run out of time. -/
theorem ignoredRequest_against (outcome : ℕ → RequestOutcome) (args : RequestArgs) {s : Phone}
    {client : Session} (hclient : s.sipClient = some client) :
    ∃ s', (onTimeout (ignore (sendRequest args)) (return)).against (network outcome) s = (.ok (), s') ∧
      s.Asked 1 s' := by
  obtain ⟨r, s', hagainst, hasked, hgives⟩ := sendRequest_against outcome args hclient
  refine ⟨s', ?_, hasked⟩
  cases houtcome : outcome client.calls.length with
  | final code hcode headers body =>
      rw [houtcome] at hgives
      obtain ⟨msg, rfl, -⟩ := hgives
      exact onTimeout_against (ignore_against hagainst) (fun _ h => by cases h) _
  | timeout =>
      rw [houtcome] at hgives
      obtain ⟨m, rfl⟩ := hgives
      exact onTimeout_against_timeout (ignore_against hagainst) _

end VirtualPhone
