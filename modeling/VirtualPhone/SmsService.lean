import VirtualPhone.SmsDelivery
import VirtualPhone.SipClient
import VirtualPhone.Runtime.Contract

/-! # The SMS service (`ims/sms.py`)

`SMSoverIMS` on its event loop: messages that Android sends, messages that come in, and the
responses and timers of the SIP client, any number of them at the same time.

A method is suspended where it waits for the final response to its MESSAGE, for the callback that
hands a message to the radio, and, over TCP, for the transport.  The callback and the transport are
not part of the service: what they end with comes from outside, and what becomes of a datagram too.
The random texts of the `i`-th request are `random i`.

Each method runs under the number of its task.  The requests, transmissions and callbacks it began
carry this number as history, and so do the responses that were handed to the client; no method
reads them. -/

namespace VirtualPhone

open Runtime
open Coro (get modify raise attempt)

/-! ### The service -/

/-- `SMSConfig`. -/
structure SMSConfig where
  pcscfAddress : Text := []
  pcscfPort : ℕ := 5060
  transport : Text := "UDP".toList
  impu : Text := []
  homeDomain : Text := []
  serviceRoute : Text := []
deriving DecidableEq

namespace SMSConfig

/-- Where requests go. -/
def dest (cfg : SMSConfig) : Text × ℕ := (cfg.pcscfAddress, cfg.pcscfPort)

/-- The URI of this UE. -/
def fromUri (cfg : SMSConfig) : Text :=
  if "sip:".toList <+: cfg.impu then cfg.impu else "sip:".toList ++ cfg.impu

/-- The URI of a number in the home domain. -/
def destUri (cfg : SMSConfig) (destNumber : Text) : Text :=
  "sip:".toList ++ destNumber.dropWhile (· = '+') ++ "@".toList ++ cfg.homeDomain

/-- The headers of a MESSAGE. -/
def headers (cfg : SMSConfig) : List (Text × Text) :=
  [("Content-Type".toList, contentType3gppSms)] ++
    (if cfg.serviceRoute = [] then [] else [("Route".toList, cfg.serviceRoute)]) ++
    [("P-Preferred-Identity".toList, "<".toList ++ cfg.fromUri ++ ">".toList)]

/-- The arguments of the `send_request` of a message. -/
def messageArgs (cfg : SMSConfig) (destNumber : Text) (body : Bytes) : RequestArgs where
  method := "MESSAGE".toList
  requestUri := cfg.destUri destNumber
  toUri := cfg.destUri destNumber
  fromUri := cfg.fromUri
  dest := cfg.dest
  extraHeaders := cfg.headers
  body := body

end SMSConfig

/-- `_sms_state`. -/
structure SmsState where
  enabled : Bool := false
  messagesSent : ℕ := 0
  messagesReceived : ℕ := 0
  lastError : Option Text := none
deriving DecidableEq

/-- A `transport.send(...)`, and what it ends with. -/
structure Transmission where
  command : ℕ
  message : SIPMessage
  dest : Text × ℕ
  outcome : Option (Except PyError Unit) := none

/-- A call of the MT callback, what it ends with, and whether its caller has gone on. -/
structure MtCall where
  command : ℕ
  fromNumber : Text
  toNumber : Text
  text : Text
  outcome : Option (Except PyError Unit) := none
  returned : Bool := false

/-- The history of a request: its command, the number of its relay message, and the TPDU in it. -/
structure Posting where
  command : ℕ
  attempt : ℕ
  tpdu : Bytes
deriving DecidableEq

/-- `SMSoverIMS` with `_sms_state`, what `sendto` of the UDP socket does, and what its methods have
begun so far. -/
structure SmsService where
  config : SMSConfig
  sipClient : Option Session := none
  started : Bool := false
  messageRef : ℕ := 0
  rpRef : ℕ := 0
  mtCallback : Bool := false
  socket : Except PyError Unit := .ok ()
  state : SmsState := {}
  random : ℕ → RandomIds
  transmissions : List Transmission := []
  mtCalls : List MtCall := []
  commands : ℕ := 0
  attempts : ℕ := 0
  postings : List Posting := []
  arrived : List SIPMessage := []

/-- Where a method is suspended. -/
inductive SmsAwait
  | sent (transmission : ℕ)
  | response (request : ℕ)
  | callback (call : ℕ)
deriving DecidableEq

/-- The reading of an `async` method of the service. -/
abbrev SmsAsync (α : Type) := Coro SmsService SmsAwait α

/-- What `send_sms` returns. -/
structure SmsResult where
  messageRef : ℕ
  ackPdu : Text := []
  errorCode : ℕ
deriving DecidableEq

/-- The destination as the service reads it: an international number gets its plus. -/
def SMSSubmit.destNumber (m : SMSSubmit) : Text :=
  if m.destination.typeOfNumber.value = 1 then '+' :: m.destination.number else m.destination.number

/-- The response says that the message was delivered or accepted. -/
def SIPMessage.acceptsMessage (response : SIPMessage) : Bool :=
  response.statusCode = some 200 ∨ response.statusCode = some 202

namespace SmsService

/-! ### Changes of the state -/

/-- A command begins. -/
def beginCommand (s : SmsService) : SmsService := { s with commands := s.commands + 1 }

/-- `self._message_ref = ref`. -/
def setMessageRef (ref : ℕ) (s : SmsService) : SmsService := { s with messageRef := ref }

/-- `_sms_state["messages_sent"] += 1` and `_sms_state["last_error"] = None`. -/
def countSent (s : SmsService) : SmsService :=
  { s with state := { s.state with messagesSent := s.state.messagesSent + 1, lastError := none } }

/-- `_sms_state["last_error"] = error`. -/
def setLastError (error : Text) (s : SmsService) : SmsService :=
  { s with state := { s.state with lastError := some error } }

/-- Change the SIP client. -/
def modifyClient (f : Session → Session) (s : SmsService) : SmsService :=
  { s with sipClient := s.sipClient.map f }

/-- `self._sip_client.transport.transport == "TCP"`. -/
def overTcp (s : SmsService) : Bool :=
  match s.sipClient with
  | some client => client.client.transport = "TCP".toList
  | none => false

/-- A message is given to the transport, which is done with it at once, but over TCP. -/
def beginTransmission (command : ℕ) (message : SIPMessage) (dest : Text × ℕ) (s : SmsService) :
    SmsService :=
  { s with transmissions := s.transmissions ++
      [{ command, message, dest, outcome := if s.overTcp then none else some s.socket }] }

/-- The callback is called. -/
def beginCallback (command : ℕ) (fromNumber toNumber text : Text) (s : SmsService) : SmsService :=
  { s with mtCalls := s.mtCalls ++ [{ command, fromNumber, toNumber, text }] }

/-- The caller of a callback goes on; after a success it counts the message. -/
def endCallback (n : ℕ) (success : Bool) (s : SmsService) : SmsService :=
  { s with
    mtCalls := s.mtCalls.modify n fun c => { c with returned := true }
    state := if success then { s.state with messagesReceived := s.state.messagesReceived + 1 }
      else s.state }

/-- A request is registered and entered in the history. -/
def beginRequest (command attempt : ℕ) (tpdu : Bytes) (args : RequestArgs) (client : Session)
    (s : SmsService) : SmsService :=
  { s with
    sipClient := some (client.sendRequest args (s.random client.calls.length))
    postings := s.postings ++ [{ command, attempt, tpdu }] }

/-- A response is handed to the client, by its own handler or by that of the service. -/
def handResponse (msg : SIPMessage) (s : SmsService) : SmsService :=
  { s with sipClient := s.sipClient.map (·.handleMessage msg), arrived := s.arrived ++ [msg] }

/-! ### The client and its transport -/

/-- `transport.send(message, dest)`. -/
def transmit (command : ℕ) (message : SIPMessage) (dest : Text × ℕ) : SmsAsync Unit := do
  let s ← get
  modify (beginTransmission command message dest)
  if s.overTcp then
    Coro.await (.sent s.transmissions.length)
    let s' ← get
    match s'.transmissions[s.transmissions.length]?.bind Transmission.outcome with
    | some outcome => Coro.done outcome
    | none => raise .attributeError
  else Coro.done s.socket

/-- The end of `send_request`: the response, or the exception of the time-out. -/
def receiveResponse (i : ℕ) : SmsAsync SIPMessage := do
  let s ← get
  match s.sipClient.bind (·.response? i) with
  | some response =>
      modify (modifyClient (Session.perform (.resume i)))
      return response
  | none =>
      modify (modifyClient (Session.perform (.timeOut i)))
      let s ← get
      match (s.sipClient.bind (·.calls[i]?)).map Call.phase with
      | some (.raised e) => raise e
      | _ => raise .attributeError

/-- `send_request(...)` of the client. -/
def sendRequest (command attempt : ℕ) (tpdu : Bytes) (args : RequestArgs) : SmsAsync SIPMessage := do
  let s ← get
  match s.sipClient with
  | none => raise .attributeError
  | some client =>
      let i := client.calls.length
      modify (beginRequest command attempt tpdu args client)
      transmit command (client.client.request args (s.random i)) args.dest
      modify (modifyClient (Session.perform (.sent i)))
      Coro.await (.response i)
      receiveResponse i

/-! ### Sending -/

/-- `_next_rp_ref()`, with the number of the relay message. -/
def nextRpRef : SmsAsync (ℕ × ℕ) := do
  let s ← get
  modify fun s => { s with rpRef := (s.rpRef + 1) &&& 0xFF, attempts := s.attempts + 1 }
  return (s.rpRef, s.attempts)

/-- The end of `_send_sip_message`: what the response says, or `except TimeoutError`. -/
def readDelivery : Except PyError SIPMessage → SmsAsync Bool
  | .ok response => return response.acceptsMessage
  | .error (.timeoutError _) => return false
  | .error e => raise e

/-- `_send_sip_message(dest_number, tpdu)`. -/
def sendSipMessage (command : ℕ) (destNumber : Text) (tpdu : Bytes) : SmsAsync Bool := do
  let (reference, number) ← nextRpRef
  let rpData ← Coro.done (RPData.wrapMo tpdu reference)
  let body ← Coro.done rpData.toBytes
  let s ← get
  let response ← attempt (sendRequest command number tpdu (s.config.messageArgs destNumber body))
  readDelivery response

/-- The end of the `try` block of `send_sms`. -/
def finishSms (messageRef : ℕ) (success : Bool) : SmsAsync SmsResult := do
  if success then
    modify countSent
    return { messageRef, errorCode := 0 }
  else
    modify (setLastError "SIP MESSAGE failed".toList)
    return { messageRef, errorCode := 1 }

/-- The `try` block of `send_sms`. -/
def sendSmsBody (command : ℕ) (pdu : Text) : SmsAsync SmsResult := do
  let (_, tpdu) ← Coro.done (parsePduFromRil pdu)
  let submit ← Coro.done (SMSSubmit.fromBytes tpdu)
  modify (setMessageRef submit.messageRef)
  let success ← sendSipMessage command submit.destNumber tpdu
  finishSms submit.messageRef success

/-- `send_sms(smsc_pdu, pdu)`; `strError` is `str(e)` of an exception. -/
def sendSms (strError : PyError → Text) (command : ℕ) (_smscPdu pdu : Text) : SmsAsync SmsResult := do
  let s ← get
  if s.started then
    match ← attempt (sendSmsBody command pdu) with
    | .ok result => return result
    | .error e =>
        modify (setLastError (strError e))
        return { messageRef := 0, errorCode := 1 }
  else return { messageRef := 0, errorCode := 0 }

/-! ### Receiving -/

/-- The callback is awaited, and a message it has taken is counted. -/
def callback (command : ℕ) (fromNumber toNumber text : Text) : SmsAsync Unit := do
  let s ← get
  modify (beginCallback command fromNumber toNumber text)
  Coro.await (.callback s.mtCalls.length)
  let s' ← get
  match s'.mtCalls[s.mtCalls.length]?.bind MtCall.outcome with
  | some (.ok ()) => modify (endCallback s.mtCalls.length true)
  | some (.error e) =>
      modify (endCallback s.mtCalls.length false)
      raise e
  | none => raise .attributeError

/-- `deliver_mt_sms(from_number, text, to_number)`. -/
def deliverMtSms (command : ℕ) (fromNumber text toNumber : Text) : SmsAsync Bool := do
  let s ← get
  if s.mtCallback then
    callback command fromNumber toNumber text
    return true
  else return false

/-- The `try` block of `_handle_sip_message`. -/
def deliverRpData (command : ℕ) (body : Bytes) : SmsAsync Unit := do
  let rpData ← Coro.done (RPData.fromBytes body)
  if rpData.msgType = .rpDataMt ∨ rpData.msgType = .rpDataMo then
    let deliver ← Coro.done (SMSDeliver.fromBytes rpData.tpdu)
    let s ← get
    if s.mtCallback then callback command deliver.fromNumber [] deliver.text else return
  else return

/-- `_handle_sip_message(msg, addr)` after the 200 OK. -/
def handleContent (command : ℕ) (msg : SIPMessage) : SmsAsync Unit := do
  if ¬ contentType3gppSms <:+: msg.header "Content-Type" then
    let text := if msg.body ≠ [] then decodeUtf8 msg.body else []
    let fromNumber := extractNumberFromUri (msg.header "From")
    let s ← get
    if s.mtCallback ∧ text ≠ [] then callback command fromNumber [] text else return
  else
    -- whatever the block raises is logged and dropped
    let _ ← attempt (deliverRpData command msg.body)
    return

/-- `_handle_sip_message(msg, addr)`. -/
def handleSipMessage (command : ℕ) (msg : SIPMessage) (addr : Text × ℕ) : SmsAsync Unit := do
  let s ← get
  if s.sipClient.isSome then
    transmit command (okResponse msg) addr
    handleContent command msg
  else handleContent command msg

/-- `_handle_incoming_sip(msg, addr)`. -/
def handleIncomingSip (command : ℕ) (msg : SIPMessage) (addr : Text × ℕ) : SmsAsync Unit := do
  if msg.isResponse then
    let s ← get
    if s.sipClient.isSome then modify (handResponse msg) else raise .attributeError
  else if msg.method = some "MESSAGE".toList then handleSipMessage command msg addr
  else return

/-! ### Start and stop -/

/-- A service whose `start()` has succeeded. -/
def start (config : SMSConfig) (random : ℕ → RandomIds) (mtCallback : Bool) : SmsService where
  config := config
  sipClient := some { client := { transport := config.transport.map Char.toUpper } }
  started := true
  mtCallback := mtCallback
  state := { enabled := true }
  random := random

/-- `stop()`; the socket is closed outside. -/
def stop : SmsAsync Unit := modify fun s =>
  { s with started := false, state := { s.state with enabled := false } }

end SmsService

/-! ### The event loop -/

/-- A call of a method of the service from outside. -/
inductive SmsCommand
  | sendSms (smscPdu pdu : Text)
  | deliverMtSms (fromNumber text toNumber : Text)
  | incoming (msg : SIPMessage) (addr : Text × ℕ)
  | stop

/-- What a call returns. -/
inductive SmsAnswer
  | result (r : SmsResult)
  | delivered (b : Bool)
  | none
deriving DecidableEq

/-- What happens outside: the endpoint gives a message to `SIPClient._handle_message`, the time of a
request is up, the transport and the callback end, and the UDP socket changes its ways. -/
inductive SmsOutside
  | datagram (msg : SIPMessage)
  | expire (request : ℕ)
  | sent (transmission : ℕ) (outcome : Except PyError Unit)
  | callback (call : ℕ) (outcome : Except PyError Unit)
  | socket (outcome : Except PyError Unit)

namespace SmsService

/-- A call, as the task with number `command`. -/
def serve (strError : PyError → Text) (command : ℕ) : SmsCommand → SmsAsync SmsAnswer
  | .sendSms smscPdu pdu => do
      let r ← sendSms strError command smscPdu pdu
      return .result r
  | .deliverMtSms fromNumber text toNumber => do
      let b ← deliverMtSms command fromNumber text toNumber
      return .delivered b
  | .incoming msg addr => do
      handleIncomingSip command msg addr
      return .none
  | .stop => do
      stop
      return .none

/-- Something outside happens. -/
def outside (s : SmsService) : SmsOutside → Option SmsService
  | .datagram msg => some (if msg.isResponse then s.handResponse msg else s)
  | .expire i => (s.sipClient.bind (·.step (.expire i))).map fun c => { s with sipClient := some c }
  | .sent n outcome =>
      match s.transmissions[n]? with
      | some { outcome := none, .. } =>
          some { s with transmissions := s.transmissions.modify n fun t =>
            { t with outcome := some outcome } }
      | _ => none
  | .callback n outcome =>
      match s.mtCalls[n]? with
      | some { outcome := none, .. } =>
          some { s with mtCalls := s.mtCalls.modify n fun c => { c with outcome := some outcome } }
      | _ => none
  | .socket outcome => some { s with socket := outcome }

/-- A suspended method can go on. -/
def isReady (w : SmsAwait) (s : SmsService) : Bool :=
  match w with
  | .sent n => (s.transmissions[n]?.bind Transmission.outcome).isSome
  | .response i => (s.sipClient.map (·.settled i)).getD false
  | .callback n => (s.mtCalls[n]?.bind MtCall.outcome).isSome

/-- The service: calls from anywhere, on one event loop. -/
def loop (strError : PyError → Text) : EventLoop SmsService SmsAwait SmsAnswer SmsCommand SmsOutside where
  main cmd := do
    let s ← get
    modify beginCommand
    serve strError s.commands cmd
  ready := isReady
  outside := outside

end SmsService

end VirtualPhone
