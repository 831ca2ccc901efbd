import VirtualPhone.SipMessage
import VirtualPhone.Runtime.Trace

/-! # The requests of a SIP client

`SIPClient` of `ims/sip_client.py`: `send_request` registers a future under the Call-ID of its
request, sends the request, and waits for the future; the message handlers complete the future
registered under the Call-ID of a final response.

A session is the client together with the calls of `send_request` that were ever begun.  Between
two await points a call runs without interruption, so a step of the session is one such piece of a
call, one expiry of a timer, or one run of a message handler; runs interleave these in any order.
`transport.send` may raise, as it does over TCP where the peer does not listen; the Call-ID of the
request stays registered then.  Random Call-IDs, branches and tags are given with the event that draws
them. -/

namespace VirtualPhone

open Runtime

/-! ### The client -/

/-- `SIPClient`; a pending response is the number of the call of `send_request` that waits for it. -/
structure SIPClient where
  transport : Text := "UDP".toList
  localIp : Text := "0.0.0.0".toList
  localPort : ℕ := 5060
  cseqNext : ℕ := 1
  pendingResponses : Dict Text ℕ := Dict.empty
deriving DecidableEq

/-- The arguments of `send_request`. -/
structure RequestArgs where
  method : Text
  requestUri : Text
  toUri : Text
  fromUri : Text
  dest : Text × ℕ
  extraHeaders : List (Text × Text) := []
  body : Bytes := []
  callId : Option Text := none
deriving DecidableEq

/-- The random texts one call draws. -/
structure RandomIds where
  callId : Text
  branch : Text
  tag : Text
deriving DecidableEq

/-- The Call-ID a request is registered under: `call_id or generate_call_id()`. -/
def RequestArgs.cid (args : RequestArgs) (ids : RandomIds) : Text :=
  match args.callId with
  | some cid => if cid = [] then ids.callId else cid
  | none => ids.callId

namespace SIPClient

/-- The headers of a request, with the caller's headers written over them. -/
def requestHeaders (c : SIPClient) (args : RequestArgs) (ids : RandomIds) : Dict Text Text :=
  let headers := Dict.ofList [
    ("Via".toList, "SIP/2.0/".toList ++ c.transport ++ " ".toList ++ c.localIp ++ ":".toList ++
      natText c.localPort ++ ";branch=".toList ++ ids.branch),
    ("Max-Forwards".toList, "70".toList),
    ("From".toList, "<".toList ++ args.fromUri ++ ">;tag=".toList ++ ids.tag),
    ("To".toList, "<".toList ++ args.toUri ++ ">".toList),
    ("Call-ID".toList, args.cid ids),
    ("CSeq".toList, natText c.cseqNext ++ " ".toList ++ args.method),
    ("User-Agent".toList, "VirtualPhone/1.0".toList)]
  args.extraHeaders.foldl (fun d e => d.set e.1 e.2) headers

/-- The request a call sends. -/
def request (c : SIPClient) (args : RequestArgs) (ids : RandomIds) : SIPMessage :=
  { method := some args.method
    requestUri := some args.requestUri
    headers := c.requestHeaders args ids
    body := args.body }

/-- `has_pending_request(call_id)`. -/
def hasPendingRequest (c : SIPClient) (callId : Text) : Bool := callId ∈ c.pendingResponses.keys

/-- The client with `n` registered under `cid`. -/
def register (c : SIPClient) (cid : Text) (n : ℕ) : SIPClient :=
  { c with cseqNext := c.cseqNext + 1, pendingResponses := c.pendingResponses.set cid n }

/-- The client without the entry under `cid`. -/
def unregister (c : SIPClient) (cid : Text) : SIPClient :=
  { c with pendingResponses := c.pendingResponses.erase cid }

@[simp] theorem register_pendingResponses (c : SIPClient) (cid : Text) (n : ℕ) :
    (c.register cid n).pendingResponses = c.pendingResponses.set cid n := rfl

@[simp] theorem unregister_pendingResponses (c : SIPClient) (cid : Text) :
    (c.unregister cid).pendingResponses = c.pendingResponses.erase cid := rfl

end SIPClient

/-! ### The calls of `send_request` -/

/-- The future of a call. -/
inductive Future
  | pending
  | result (response : SIPMessage)
  | cancelled
deriving DecidableEq

/-- Where a call stands: at the `send`, in `wait_for`, past its 32 seconds with the future cancelled,
or ended. -/
inductive Phase
  | sending
  | waiting
  | expired
  | returned (response : SIPMessage)
  | raised (e : PyError)
deriving DecidableEq

/-- One call of `send_request`. -/
structure Call where
  cid : Text
  request : SIPMessage
  phase : Phase := .sending
  future : Future := .pending
deriving DecidableEq

/-- The call has not ended. -/
def Call.Outstanding (t : Call) : Prop :=
  t.phase = .sending ∨ t.phase = .waiting ∨ t.phase = .expired

instance (t : Call) : Decidable t.Outstanding := inferInstanceAs (Decidable (_ ∨ _ ∨ _))

/-- The call in another phase. -/
def Call.withPhase (phase : Phase) (t : Call) : Call := { t with phase := phase }

/-- The call after its timer has cancelled its future. -/
def Call.expire (t : Call) : Call := { t with phase := .expired, future := .cancelled }

/-- `future.set_result(msg)` unless the future is done. -/
def Call.complete (msg : SIPMessage) (t : Call) : Call :=
  if t.future = .pending then { t with future := .result msg } else t

theorem Call.complete_cid (t : Call) (msg : SIPMessage) : (t.complete msg).cid = t.cid := by
  unfold Call.complete
  split_ifs <;> rfl

theorem Call.complete_phase (t : Call) (msg : SIPMessage) : (t.complete msg).phase = t.phase := by
  unfold Call.complete
  split_ifs <;> rfl

/-- The exception of a call whose time is up. -/
def Call.timeoutError (t : Call) : PyError :=
  .timeoutError ("SIP ".toList ++ SIPMessage.fieldText t.request.method ++ " timed out".toList)

/-- A client and the calls begun so far, the oldest first. -/
structure Session where
  client : SIPClient := {}
  calls : List Call := []
deriving DecidableEq

namespace Session

/-- The session with call `i` changed. -/
def updateCall (s : Session) (i : ℕ) (f : Call → Call) : Session :=
  { s with calls := s.calls.modify i f }

/-- The session with another client. -/
def withClient (s : Session) (c : SIPClient) : Session := { s with client := c }

/-- `send_request` up to its first await. -/
def sendRequest (s : Session) (args : RequestArgs) (ids : RandomIds) : Session :=
  { client := s.client.register (args.cid ids) s.calls.length
    calls := s.calls ++ [{ cid := args.cid ids, request := s.client.request args ids }] }

/-- Pop the future registered under `cid`, which is that of call `i`, and complete it. -/
def popAndComplete (s : Session) (cid : Text) (i : ℕ) (msg : SIPMessage) : Session :=
  (s.withClient (s.client.unregister cid)).updateCall i (Call.complete msg)

/-- `SIPClient._handle_message(msg, addr)`. -/
def handleMessage (s : Session) (msg : SIPMessage) : Session :=
  match msg.statusCode with
  | none => s
  | some code =>
      match s.client.pendingResponses.get? msg.callId with
      | none => s
      | some i => if 200 ≤ code then s.popAndComplete msg.callId i msg else s

/-- `SIPClient.resolve_response(msg)`. -/
def resolveResponse (s : Session) (msg : SIPMessage) : Bool × Session :=
  match s.client.pendingResponses.get? msg.callId with
  | none => (false, s)
  | some i =>
      match msg.statusCode with
      | some code => if 200 ≤ code then (true, s.popAndComplete msg.callId i msg) else (false, s)
      | none => (false, s)

/-- The except branch of `send_request`: `del self._pending_responses[cid]`, then the exception. -/
def timeOut (s : Session) (i : ℕ) (t : Call) : Session :=
  if t.cid ∈ s.client.pendingResponses.keys then
    (s.withClient (s.client.unregister t.cid)).updateCall i (Call.withPhase (.raised t.timeoutError))
  else s.updateCall i (Call.withPhase (.raised (.keyError t.cid)))

end Session

/-- What can happen between two await points. -/
inductive ClientEvent
  /-- A call of `send_request` begins. -/
  | request (args : RequestArgs) (ids : RandomIds)
  /-- `transport.send` of call `i` is done. -/
  | sent (i : ℕ)
  /-- `transport.send` of call `i` raises, in front of the `try`. -/
  | unsent (i : ℕ) (e : PyError)
  /-- `_handle_message` gets a message. -/
  | receive (msg : SIPMessage)
  /-- `resolve_response` gets a message from a service's handler. -/
  | resolve (msg : SIPMessage)
  /-- The 32 seconds of call `i` are over and its future, which is not done, is cancelled. -/
  | expire (i : ℕ)
  /-- `wait_for` of call `i` gets the result of the future. -/
  | resume (i : ℕ)
  /-- `wait_for` of call `i` raises after the cancellation. -/
  | timeOut (i : ℕ)
deriving DecidableEq

namespace Session

/-- One step of the session. -/
def step (s : Session) : ClientEvent → Option Session
  | .request args ids => some (s.sendRequest args ids)
  | .sent i =>
      match s.calls[i]? with
      | some t => if t.phase = .sending then some (s.updateCall i (Call.withPhase .waiting)) else none
      | none => none
  | .unsent i e =>
      match s.calls[i]? with
      | some t => if t.phase = .sending then some (s.updateCall i (Call.withPhase (.raised e))) else none
      | none => none
  | .receive msg => some (s.handleMessage msg)
  | .resolve msg => some (s.resolveResponse msg).2
  | .expire i =>
      match s.calls[i]? with
      | some t =>
          if t.phase = .waiting ∧ t.future = .pending then
            some (s.updateCall i Call.expire)
          else none
      | none => none
  | .resume i =>
      match s.calls[i]? with
      | some t =>
          match t.phase, t.future with
          | .waiting, .result m => some (s.updateCall i (Call.withPhase (.returned m)))
          | _, _ => none
      | none => none
  | .timeOut i =>
      match s.calls[i]? with
      | some t => if t.phase = .expired then some (s.timeOut i t) else none
      | none => none

/-- The response that waits for the sender of request `i`. -/
def response? (s : Session) (i : ℕ) : Option SIPMessage :=
  match s.calls[i]? with
  | some t =>
      match t.phase, t.future with
      | .waiting, .result msg => some msg
      | _, _ => none
  | none => none

/-- The client's side of a request whose final response is there or whose time is up. -/
def settled (s : Session) (i : ℕ) : Bool :=
  match s.calls[i]? with
  | some t =>
      match t.phase, t.future with
      | .waiting, .result _ => true
      | .expired, _ => true
      | _, _ => false
  | none => false

/-- An enabled step of the client. -/
def perform (e : ClientEvent) (s : Session) : Session := (s.step e).getD s

/-! ### What one step does -/

@[simp] theorem updateCall_client (s : Session) (i : ℕ) (f : Call → Call) :
    (s.updateCall i f).client = s.client := rfl

theorem updateCall_getElem? (s : Session) (i j : ℕ) (f : Call → Call) :
    (s.updateCall i f).calls[j]? = if i = j then s.calls[j]?.map f else s.calls[j]? := by
  simp only [updateCall, List.getElem?_modify]
  split_ifs <;> simp

@[simp] theorem withClient_calls (s : Session) (c : SIPClient) : (s.withClient c).calls = s.calls := rfl

@[simp] theorem withClient_client (s : Session) (c : SIPClient) : (s.withClient c).client = c := rfl

theorem resolveResponse_eq (s : Session) (msg : SIPMessage) :
    (s.resolveResponse msg).2 = s.handleMessage msg := by
  unfold resolveResponse handleMessage
  cases s.client.pendingResponses.get? msg.callId with
  | none => cases msg.statusCode <;> rfl
  | some i =>
      cases msg.statusCode with
      | none => rfl
      | some code => by_cases h : 200 ≤ code <;> simp [h]

/-- A handler leaves the session as it is, or it gets a final response for a registered call. -/
theorem handleMessage_cases (s : Session) (msg : SIPMessage) :
    s.handleMessage msg = s ∨
      ∃ code i, msg.statusCode = some code ∧ 200 ≤ code ∧
        s.client.pendingResponses.get? msg.callId = some i ∧
        s.handleMessage msg = s.popAndComplete msg.callId i msg := by
  unfold handleMessage
  cases hcode : msg.statusCode with
  | none => exact Or.inl rfl
  | some code =>
      cases hreg : s.client.pendingResponses.get? msg.callId with
      | none => exact Or.inl rfl
      | some i =>
          by_cases h : 200 ≤ code
          · exact Or.inr ⟨code, i, rfl, h, rfl, if_pos h⟩
          · exact Or.inl (if_neg h)

theorem handleMessage_of_not_isResponse (s : Session) {msg : SIPMessage}
    (h : msg.isResponse = false) : s.handleMessage msg = s := by
  unfold handleMessage
  cases hcode : msg.statusCode with
  | none => rfl
  | some code => simp [SIPMessage.isResponse, hcode] at h

end Session

end VirtualPhone
