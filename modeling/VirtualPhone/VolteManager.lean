import VirtualPhone.VolteCall
import VirtualPhone.Runtime.Coroutine

/-! # The VoLTE call manager and the voice calls of the radio

The methods of `VoLTECallManager` of `ims/volte.py`, and those of `RadioHAL` of `hal/radio_hal.py`
that deal with voice calls, as coroutines over a `Phone`.

A method suspends where it waits for the final response of a request, for the client that gets an
indication, or for the sockets and the timer of a media session.  Sending over UDP does not
suspend.  The methods run on one event loop, next to the timers of the pending requests. -/

namespace VirtualPhone

open Runtime

/-- Where a method is suspended: at a callback, at the response to a request of the client, or in a
loop that has made the number of rounds it was given. -/
inductive Await
  | pause
  | response (request : ℕ)
  | exhausted
deriving DecidableEq

/-- The reading of an `async` method. -/
abbrev Async (α : Type) := Coro Phone Await α

open Coro (get modify raise attempt)

namespace Async

variable {α : Type}

/-- A computation that may raise. -/
def lift (x : Except PyError α) : Async α := Coro.done x

/-- `if c: ...`. -/
def when (c : Prop) [Decidable c] (body : Async Unit) : Async Unit := if c then body else pure ()

/-- `if x: ...` with the object `x` is. -/
def whenSome : Option α → (α → Async Unit) → Async Unit
  | some a, body => body a
  | none, _ => pure ()

/-- A result nobody looks at. -/
def ignore (body : Async α) : Async Unit := do
  let _ ← body

/-- `try: ... except TimeoutError: ...`. -/
def onTimeout (body handler : Async α) : Async α := do
  match ← attempt body with
  | .ok a => return a
  | .error (.timeoutError _) => handler
  | .error e => raise e

end Async

open Async (when whenSome ignore onTimeout)

/-! ### Requests and responses -/

/-- `send_request(...)` up to its wait: the request is registered and sent. -/
def Phone.beginRequest (args : RequestArgs) (s : Phone) : Phone :=
  match s.sipClient with
  | none => s
  | some client =>
      let ids : RandomIds := { callId := s.draw 0, branch := s.draw 1, tag := s.draw 2 }
      let i := client.calls.length
      ((s.skipDraws 3).modifyClient fun c => (c.perform (.request args ids)).perform (.sent i)).send
        (client.client.request args ids) args.dest

/-- `send_request(...)`. -/
def sendRequest (args : RequestArgs) : Async SIPMessage := do
  let s ← get
  match s.sipClient with
  | none => raise .attributeError
  | some client =>
      let i := client.calls.length
      modify (Phone.beginRequest args)
      Coro.await (.response i)
      let s ← get
      match s.sipClient.bind (·.response? i) with
      | some response =>
          modify (Phone.modifyClient (Session.perform (.resume i)))
          return response
      | none =>
          modify (Phone.modifyClient (Session.perform (.timeOut i)))
          let s ← get
          match (s.sipClient.bind (·.calls[i]?)).map Call.phase with
          | some (.raised e) => raise e
          | _ => raise .attributeError

/-- A response to `msg`: its Via, From, To and CSeq come back. -/
def response (msg : SIPMessage) (code : ℤ) (reason : String) (callId : Text)
    (extra : List (Text × Text)) (body : Bytes) : SIPMessage :=
  { statusCode := some code
    reasonPhrase := some reason.toList
    headers := Dict.ofList ([
      ("Via".toList, msg.header "Via"),
      ("From".toList, msg.header "From"),
      ("To".toList, msg.header "To"),
      ("Call-ID".toList, callId),
      ("CSeq".toList, msg.header "CSeq")] ++ extra)
    body := body }

/-- `if self._sip_client: await self._sip_client.transport.send(msg, addr)`. -/
def sendIfClient (msg : SIPMessage) (addr : Text × ℕ) : Async Unit :=
  modify fun s => if s.sipClient.isSome then s.send msg addr else s

/-- The 200 OK to an INVITE of a call, with the local SDP. -/
def sendInviteOk (ref : ℕ) (msg : SIPMessage) (callId : Text) (addr : Text × ℕ) : Async Unit :=
  modify fun s =>
    if s.sipClient.isSome then
      (s.send (response msg 200 "OK" callId
        [("Contact".toList, "<sip:".toList ++ s.config.impu ++ ">".toList),
          ("Content-Type".toList, "application/sdp".toList)]
        (encodeUtf8 (s.call ref).localSdp)) addr).modifyCall ref
          (VoLTECall.record fun h => { h with okSent := true })
    else s

/-- The ACK for the 200 OK to an INVITE, with a branch and a tag of its own. -/
def Phone.ack (s : Phone) (ref : ℕ) : SIPMessage :=
  let client := (s.sipClient.map Session.client).getD {}
  { method := some "ACK".toList
    requestUri := some (s.call ref).remoteUri
    headers := Dict.ofList [
      ("Via".toList, "SIP/2.0/".toList ++ s.config.transport ++ " ".toList ++ client.localIp ++
        ":".toList ++ natText client.localPort ++ ";branch=".toList ++ s.draw 0),
      ("Max-Forwards".toList, "70".toList),
      ("From".toList, "<".toList ++ s.config.fromUri ++ ">;tag=".toList ++ s.draw 1),
      ("To".toList, "<".toList ++ (s.call ref).remoteUri ++ ">".toList),
      ("Call-ID".toList, (s.call ref).sipCallId),
      ("CSeq".toList, "1 ACK".toList)] }

/-- `_send_ack(call, dest)`. -/
def sendAck (ref : ℕ) : Async Unit :=
  modify fun s => (s.send (s.ack ref) s.config.dest).skipDraws 2

/-- A request of the dialog of a call. -/
def sendDialogRequest (ref : ℕ) (method : String) (headers : List (Text × Text)) (body : Bytes) :
    Async SIPMessage := do
  let s ← get
  sendRequest
    { method := method.toList
      requestUri := (s.call ref).remoteUri
      toUri := (s.call ref).remoteUri
      fromUri := s.config.fromUri
      dest := s.config.dest
      extraHeaders := s.config.withRoute headers
      body := body
      callId := some (s.call ref).sipCallId }

/-! ### The radio's side -/

/-- Change a call. -/
def modifyCall (ref : ℕ) (f : VoLTECall → VoLTECall) : Async Unit := modify (Phone.modifyCall ref f)

/-- Change the radio. -/
def modifyRadio (f : RadioHAL → RadioHAL) : Async Unit := modify (Phone.modifyRadio f)

namespace RadioHAL

/-- `_send_indication(indication_id, data)`. -/
def sendIndication (indication : ℕ) : Async Unit := do
  modifyRadio (indicate indication)
  Coro.await .pause

/-- `self.voice_calls.remove(vc)`. -/
def removeVoice (v : ℕ) : Async Unit := do
  let s ← get
  let radio ← Async.lift (s.radio.remove v)
  modifyRadio fun _ => radio

/-- `update_call_state(call_index, new_state)`. -/
def updateCallState (callIndex : ℕ) (newState : CallState) : Async Unit := do
  let s ← get
  match s.radio.find? (·.index = callIndex) with
  | some v =>
      modifyRadio (modifyVoice v (VoiceCall.setState newState))
      sendIndication 1001
  | none => return

end RadioHAL

/-- `if self._radio_hal: await self._radio_hal.update_call_state(call.radio_call_index, state)`. -/
def updateRadio (ref : ℕ) (state : CallState) : Async Unit := do
  let s ← get
  when s.radioHal (RadioHAL.updateCallState (s.call ref).radioCallIndex state)

/-- Take the voice call of a SIP call off the list, with an indication. -/
def dropVoice (callId : Text) : Async Unit := do
  let s ← get
  when s.radioHal (do
    modifyRadio (RadioHAL.dropSipCall callId)
    RadioHAL.sendIndication 1001)

/-! ### Media -/

/-- `MediaSession.start(...)`: two sockets are bound, and a port there is not is an error. -/
def MediaSession.start (ref m localPort : ℕ) (remoteAddr : Text × ℤ) (codec : Text)
    (payloadType : ℤ) : Async Unit := do
  modifyCall ref (VoLTECall.modifySession m (configure localPort remoteAddr codec payloadType))
  Coro.await .pause
  if 65535 < localPort then raise .overflowError
  else
    Coro.await .pause
    if 65535 < localPort + 1 then raise .overflowError
    else modifyCall ref (VoLTECall.modifySession m (setActive true))

/-- `MediaSession.stop()`. -/
def MediaSession.stop (ref m : ℕ) : Async Unit := do
  modifyCall ref (VoLTECall.modifySession m (setActive false))
  Coro.await .pause

/-- `_start_media(call)`. -/
def startMedia (ref : ℕ) : Async Unit := do
  let s ← get
  if (s.call ref).remoteSdp = [] ∨ (s.call ref).rtpPort = 0 then return
  else
    let remoteAddr ← Async.lift (parseRemoteRtpAddress (s.call ref).remoteSdp)
    if remoteAddr.2 = 0 then return
    else
      let payloadType ← Async.lift (parsePayloadType (s.call ref).remoteSdp (s.call ref).codec)
      let m := (s.call ref).sessions.length
      modifyCall ref VoLTECall.addSession
      match ← attempt (MediaSession.start ref m (s.call ref).rtpPort remoteAddr (s.call ref).codec
        payloadType) with
      | .ok _ => modifyCall ref (VoLTECall.setMediaSession (some m))
      | .error _ => return

/-- `_stop_media(call)`. -/
def stopMedia (ref : ℕ) : Async Unit := do
  let s ← get
  match (s.call ref).mediaSession with
  | some m =>
      MediaSession.stop ref m
      modifyCall ref (VoLTECall.setMediaSession none)
  | none => return

namespace VoLTECallManager

/-! ### Outgoing calls -/

/-- `_allocate_rtp_port()`. -/
def allocateRtpPort : Async ℕ := do
  let s ← get
  modify fun s => { s with rtpPortNext := s.rtpPortNext + 2 }
  return s.rtpPortNext

/-- `generate_call_id()`. -/
def generateCallId : Async Text := do
  let s ← get
  modify (Phone.skipDraws 1)
  return s.draw 0

/-- A call is entered in the table. -/
def newCall (c : VoLTECall) : Async ℕ := do
  let s ← get
  modify (Phone.newCall c)
  return s.callHeap.length

/-- `del self._calls[call_id]`. -/
def delCall (callId : Text) : Async Unit := do
  let s ← get
  if callId ∈ s.calls.keys then modify (Phone.delCall callId) else raise (.keyError callId)

/-- The headers of the INVITE of a new call. -/
def inviteHeaders (cfg : VoLTEConfig) : List (Text × Text) :=
  cfg.withRoute [
    ("Content-Type".toList, "application/sdp".toList),
    ("Allow".toList, "INVITE, ACK, BYE, CANCEL, OPTIONS, MESSAGE".toList),
    ("Supported".toList, "100rel, timer, precondition".toList),
    ("P-Preferred-Identity".toList, "<".toList ++ cfg.fromUri ++ ">".toList)]

/-- What follows the response to the INVITE of an outgoing call. -/
def finishInvite (ref radioCallIndex : ℕ) (callId : Text) (response : SIPMessage) :
    Async (Option Text) := do
  if response.statusCode = some 200 then
    modifyCall ref (VoLTECall.connect response.body)
    sendAck ref
    let s ← get
    when s.radioHal (RadioHAL.updateCallState radioCallIndex .active)
    modify Phone.countActive
    modify fun s => s.countCall (s.call ref).codec
    startMedia ref
    return some callId
  else
    delCall callId
    return none

/-- `initiate_call(number, radio_call_index)`. -/
def initiateCall (number : Text) (radioCallIndex : ℕ) : Async (Option Text) := do
  let s ← get
  if s.started = false then return none
  else
    let cfg := s.config
    let rtpPort ← allocateRtpPort
    let sdp := buildSdpOffer cfg.mediaIp rtpPort cfg.codecPriority .sendrecv
    let callId ← generateCallId
    let destUri := cfg.numberUri number
    let ref ← newCall
      { sipCallId := callId
        radioCallIndex := radioCallIndex
        state := .initiating
        direction := .mo
        remoteNumber := number
        remoteUri := destUri
        localSdp := sdp
        rtpPort := rtpPort
        history := { inviteRequest := s.sipClient.map fun client => client.calls.length } }
    onTimeout
      (do
        let response ← sendRequest
          { method := "INVITE".toList
            requestUri := destUri
            toUri := destUri
            fromUri := cfg.fromUri
            dest := cfg.dest
            extraHeaders := inviteHeaders cfg
            body := encodeUtf8 sdp
            callId := some callId }
        finishInvite ref radioCallIndex callId response)
      (do
        delCall callId
        return none)

/-! ### Incoming calls -/

/-- `answer_call(sip_call_id)`. -/
def answerCall (callId : Text) : Async Bool := do
  let s ← get
  match s.calls.get? callId with
  | none => return false
  | some ref =>
      modifyCall ref (VoLTECall.record fun h => { h with answerInvoked := true })
      if (s.call ref).state ≠ .ringingIn then return false
      else
        match (s.call ref).inviteMsg with
        | none => return false
        | some (msg, addr) =>
            if s.sipClient.isNone then return false
            else
              sendInviteOk ref msg callId addr
              modifyCall ref VoLTECall.answer
              modify Phone.countActive
              modify fun s => s.countCall (s.call ref).codec
              startMedia ref
              return true

/-! ### Hold and resume -/

/-- A re-INVITE that asks for a media direction, and the ACK for its response. -/
def sendReinvite (ref : ℕ) (direction : MediaDirection) : Async Unit := do
  let s ← get
  let sdp := buildSdpOffer s.config.mediaIp (s.call ref).rtpPort s.config.codecPriority direction
  when (s.sipClient.isSome ∧ s.started) (onTimeout
    (do
      ignore (sendDialogRequest ref "INVITE" [("Content-Type".toList, "application/sdp".toList)]
        (encodeUtf8 sdp))
      sendAck ref)
    (return))

/-- A call in state `state` goes on or off hold: `change`, then the re-INVITE, then the radio; and
`finish` when all is done. -/
def switchHold (state : VoLTECallState) (change finish : VoLTECall → VoLTECall)
    (direction : MediaDirection) (radioState : CallState) (callId : Text) : Async Bool := do
  let s ← get
  match s.calls.get? callId with
  | none => return false
  | some ref =>
      if (s.call ref).state ≠ state then return false
      else
        modifyCall ref change
        sendReinvite ref direction
        updateRadio ref radioState
        modify Phone.countActive
        modifyCall ref finish
        return true

/-- `hold_call(sip_call_id)`. -/
def holdCall (callId : Text) : Async Bool :=
  switchHold .active
    (fun c => c.hold.record fun h => { h with everHeld := true })
    (VoLTECall.record fun h => { h with locallyHeld := true }) .sendonly .holding callId

/-- `resume_call(sip_call_id)`. -/
def resumeCall (callId : Text) : Async Bool :=
  switchHold .held (fun c => c.resume.release) id .sendrecv .active callId

/-- `swap_calls()`. -/
def swapCalls : Async Bool := do
  let s ← get
  let active := s.firstCall .active
  let held := s.firstCall .held
  if active.isNone ∧ held.isNone then return false
  else
    whenSome active fun ref => ignore (holdCall (s.call ref).sipCallId)
    whenSome held fun ref => ignore (resumeCall (s.call ref).sipCallId)
    return true

/-- `conference_calls()`. -/
def conferenceCalls : Async Bool := do
  let s ← get
  match s.lastCall .active, s.lastCall .held with
  | some active, some held =>
      modifyCall held fun c => c.resume.release
      when s.radioHal (do
        modifyRadio (RadioHAL.joinParties (s.call active).sipCallId (s.call held).sipCallId)
        RadioHAL.sendIndication 1001)
      modify Phone.countActive
      return true
  | _, _ => return false

/-! ### Transfer -/

/-- A REFER for a call in state ACTIVE or HELD, and what an accepted one does to the call. -/
def sendRefer (ref : ℕ) (referTo : Text) (accept : VoLTECall → VoLTECall) : Async Bool := do
  let s ← get
  if (s.call ref).state = .active ∨ (s.call ref).state = .held then
    if s.sipClient.isSome ∧ s.started then
      modifyCall ref (VoLTECall.record fun h => { h with transferRequested := true })
      onTimeout
        (do
          let response ← sendDialogRequest ref "REFER"
            [("Refer-To".toList, "<".toList ++ referTo ++ ">".toList),
              ("Referred-By".toList, "<".toList ++ s.config.fromUri ++ ">".toList)] []
          if response.statusCode = some 200 ∨ response.statusCode = some 202 then
            modifyCall ref accept
            return true
          else return false)
        (return false)
    else return false
  else return false

/-- `transfer_call(sip_call_id, target_number)`. -/
def transferCall (callId targetNumber : Text) : Async Bool := do
  let s ← get
  match s.calls.get? callId with
  | none => return false
  | some ref =>
      let targetUri := s.config.numberUri targetNumber
      sendRefer ref targetUri fun c => ((c.setState .active).release).setTransfer targetUri

/-- `attended_transfer(call_id_a, call_id_b)`. -/
def attendedTransfer (callIdA callIdB : Text) : Async Bool := do
  let s ← get
  match s.calls.get? callIdA, s.calls.get? callIdB with
  | some a, some b =>
      let remoteUri := (s.call b).remoteUri
      sendRefer a (remoteUri ++ "?Replaces=".toList ++ callIdB) (VoLTECall.setTransfer remoteUri)
  | _, _ => return false

/-! ### Hanging up -/

/-- `hangup_call(sip_call_id)`. -/
def hangupCall (callId : Text) : Async Bool := do
  let s ← get
  match s.calls.get? callId with
  | none => return false
  | some ref =>
      modify (Phone.popCall callId ref)
      stopMedia ref
      let s ← get
      if s.sipClient.isSome ∧ s.started then
        modifyCall ref (VoLTECall.setState .terminating)
        onTimeout (ignore (sendDialogRequest ref "BYE" [] [])) (return)
        modify Phone.countActive
        return true
      else return false

end VoLTECallManager

/-! ### The radio's operations -/

namespace RadioHAL

open VoLTECallManager

/-- The result of a radio operation. -/
structure Result where
  success : Bool
  error : Option Text := none
  callIndex : Option ℕ := none
deriving DecidableEq

/-- `{"success": False, "error": error}`. -/
def Result.failure (error : String) : Result := { success := false, error := some error.toList }

/-- `if self._call_manager: ...`. -/
def withManager (body : Async Unit) : Async Unit := do
  let s ← get
  when s.radio.callManager body

/-- `if self._call_manager and call.sip_call_id: ...` with the Call-ID of a voice call. -/
def withSipCall (v : ℕ) (body : Text → Async Bool) : Async Unit := do
  let s ← get
  when (s.radio.callManager ∧ (s.radio.voice v).sipCallId ≠ [])
    (ignore (body (s.radio.voice v).sipCallId))

/-- `dial(number)`. -/
def dial (number : Text) : Async Result := do
  let s ← get
  let v := s.radio.voices.length
  let callIndex := s.radio.nextCallIndex
  modifyRadio (append { state := .dialing, isMt := false, number := number })
  sendIndication 1001
  let s ← get
  if s.radio.callManager then
    match ← initiateCall number callIndex with
    | some sipCallId =>
        modifyRadio (modifyVoice v (VoiceCall.setSipCallId sipCallId))
        return { success := true, callIndex := some callIndex }
    | none =>
        removeVoice v
        sendIndication 1001
        return Result.failure "INVITE failed"
  else return { success := true, callIndex := some callIndex }

/-- `answer()`. -/
def answer : Async Result := do
  let s ← get
  match s.radio.find? (·.state = .incoming) with
  | some v =>
      modifyRadio (modifyVoice v (VoiceCall.setState .active))
      sendIndication 1001
      let s ← get
      withManager (ignore (answerCall (s.radio.voice v).sipCallId))
      return { success := true }
  | none => return Result.failure "No incoming call"

/-- `hangup(call_index)`. -/
def hangup (callIndex : ℕ) : Async Result := do
  let s ← get
  match s.radio.find? (·.index = callIndex) with
  | some v =>
      withSipCall v hangupCall
      removeVoice v
      sendIndication 1001
      return { success := true }
  | none => return Result.failure "Call not found"

/-- The loop that holds the active calls of the list, from position `k` on; the list is read anew in
every round.  Each finite run of the loop is one with enough rounds. -/
def holdActive : ℕ → ℕ → Async Unit
  | 0, _ => Coro.await .exhausted
  | rounds + 1, k => do
      let s ← get
      match s.radio.voiceCalls[k]? with
      | none => return
      | some v =>
          when ((s.radio.voice v).state = .active) (do
            modifyRadio (modifyVoice v (VoiceCall.setState .holding))
            withManager (ignore (holdCall (s.radio.voice v).sipCallId)))
          holdActive rounds (k + 1)

/-- Answer the waiting call, the active ones being held; without one, swap. -/
def answerOrSwap (rounds : ℕ) : Option ℕ → Async Unit
  | some v => do
      holdActive rounds 0
      modifyRadio (modifyVoice v (VoiceCall.setState .active))
      withSipCall v answerCall
  | none => withManager (ignore swapCalls)

/-- `switch_waiting_or_holding_and_active()`. -/
def switchWaitingOrHoldingAndActive (rounds : ℕ) : Async Result := do
  let s ← get
  answerOrSwap rounds (s.radio.find? (·.state = .waiting))
  sendIndication 1001
  return { success := true }

/-- `conference()`. -/
def conference : Async Result := do
  let s ← get
  if s.radio.callManager then return { success := ← conferenceCalls }
  else return Result.failure "No call manager"

/-- `separate_connection(call_index)`. -/
def separateConnection (callIndex : ℕ) : Async Result := do
  let s ← get
  match s.radio.find? fun vc => vc.index = callIndex ∧ vc.isMpty with
  | some v =>
      modifyRadio (modifyVoice v VoiceCall.separate)
      withManager (ignore (holdCall (s.radio.voice v).sipCallId))
      sendIndication 1001
      return { success := true }
  | none => return Result.failure "Call not in conference"

/-- `explicit_call_transfer()`. -/
def explicitCallTransfer : Async Result := do
  let s ← get
  match s.radio.findLast? (·.state = .active), s.radio.findLast? (·.state = .holding) with
  | some active, some held =>
      if s.radio.callManager then
        let transferred ← transferCall (s.radio.voice held).sipCallId (s.radio.voice active).number
        if transferred then
          removeVoice active
          removeVoice held
          sendIndication 1001
          return { success := true }
        else return Result.failure "Transfer failed"
      else return Result.failure "Transfer failed"
  | _, _ => return Result.failure "Need active + held call"

/-- Hang up the SIP calls of some voice calls, one after the other. -/
def hangupEach : List ℕ → Async Unit
  | [] => return
  | v :: vs => do
      withSipCall v hangupCall
      hangupEach vs

/-- `hangup_all()`. -/
def hangupAll : Async Result := do
  let s ← get
  hangupEach s.radio.voiceCalls
  modifyRadio clear
  sendIndication 1001
  return { success := true }

/-- `set_call_forward(action, reason, number, time_seconds)`. -/
def setCallForward (action : ℤ) (reason : CallForwardReason) (number : Text) (timeSeconds : ℤ) :
    Async Result := do
  let s ← get
  match s.radio.cfManager with
  | none => return Result.failure "CF not available"
  | some cf =>
      let rules : Option CallForwardingManager :=
        if action = 0 then some (cf.disableRule reason)
        else if action = 1 then some (cf.enableRule reason)
        else if action = 3 then some (cf.setRule reason number timeSeconds)
        else if action = 4 then some (cf.eraseRule reason)
        else none
      match rules with
      | some cf =>
          modifyRadio fun r => { r with cfManager := some cf }
          return { success := true }
      | none => return { success := false, error := some ("Invalid action: ".toList ++ intText action) }

/-- The number an incoming call is forwarded to. -/
def forwardNumber (r : RadioHAL) : Option Text :=
  match r.cfManager.bind (·.shouldForward .unconditional) with
  | some number => if number = [] then none else some number
  | none => none

/-- `incoming_call(number, sip_call_id)`. -/
def incomingCall (number callId : Text) : Async Unit := do
  let s ← get
  match s.radio.forwardNumber with
  | some fwdNumber =>
      withManager (do
        ignore (hangupCall callId)
        ignore (initiateCall fwdNumber 0))
  | none =>
      let state : CallState :=
        if (s.radio.find? (·.state = .active)).isSome then .waiting else .incoming
      modifyRadio (append { state := state, isMt := true, number := number, sipCallId := callId })
      sendIndication 1002
      sendIndication 1001

end RadioHAL

/-! ### Incoming messages -/

namespace VoLTECallManager

/-- `_handle_incoming_invite(msg, addr)`. -/
def handleIncomingInvite (msg : SIPMessage) (addr : Text × ℕ) : Async Unit := do
  let callId := msg.callId
  let fromUri := msg.fromHeader
  let fromNumber := extractNumberFromUri fromUri
  sendIfClient (response msg 180 "Ringing" callId [] []) addr
  let s ← get
  let rtpPort ← allocateRtpPort
  let localSdp := buildSdpOffer s.config.mediaIp rtpPort s.config.codecPriority .sendrecv
  let ref ← newCall
    { sipCallId := callId
      state := .ringingIn
      direction := .mt
      remoteNumber := fromNumber
      remoteUri := fromUri
      remoteSdp := decodeUtf8 msg.body
      localSdp := localSdp
      rtpPort := rtpPort
      inviteMsg := some (msg, addr) }
  when s.radioHal (do
    RadioHAL.incomingCall fromNumber callId
    let s ← get
    match s.radio.voiceCalls.getLast? with
    | some v => modifyCall ref (VoLTECall.setRadioCallIndex (s.radio.voice v).index)
    | none => raise .indexError)

/-- `_handle_reinvite(msg, addr, call)`. -/
def handleReinvite (msg : SIPMessage) (addr : Text × ℕ) (ref : ℕ) : Async Unit := do
  let sdp := decodeUtf8 msg.body
  modifyCall ref (VoLTECall.reinvite sdp)
  when (HoldsRemotely sdp) (updateRadio ref .holding)
  when (ResumesRemotely sdp) (updateRadio ref .active)
  sendInviteOk ref msg msg.callId addr

/-- The call leaves the table, its media stops, and the request is answered. -/
def takeDown (msg : SIPMessage) (addr : Text × ℕ) : Async Unit := do
  let s ← get
  let call := s.calls.get? msg.callId
  whenSome call fun ref => do
    modify (Phone.popCall msg.callId ref)
    stopMedia ref
  sendIfClient (response msg 200 "OK" msg.callId [] []) addr
  when call.isSome (dropVoice msg.callId)

/-- `_handle_incoming_bye(msg, addr)`. -/
def handleIncomingBye (msg : SIPMessage) (addr : Text × ℕ) : Async Unit := do
  takeDown msg addr
  modify Phone.countActive

/-- `_handle_incoming_cancel(msg, addr)`. -/
def handleIncomingCancel : SIPMessage → Text × ℕ → Async Unit := takeDown

/-- `_send_refer_notify(call, addr, sipfrag, sub_state)`. -/
def sendReferNotify (ref : ℕ) (sipfrag subState : String) : Async Unit := do
  let s ← get
  when s.sipClient.isSome (onTimeout
    (ignore (sendDialogRequest ref "NOTIFY"
      [("Event".toList, "refer".toList),
        ("Subscription-State".toList, subState.toList),
        ("Content-Type".toList, "message/sipfrag;version=2.0".toList)]
      (encodeUtf8 sipfrag.toList)))
    (return))

/-- `_handle_incoming_refer(msg, addr)`. -/
def handleIncomingRefer (msg : SIPMessage) (addr : Text × ℕ) : Async Unit := do
  let s ← get
  match s.calls.get? msg.callId with
  | none => return
  | some ref =>
      sendIfClient (response msg 202 "Accepted" msg.callId [] []) addr
      let target := extractNumberFromUri (msg.header "Refer-To")
      when (target ≠ []) (do
        sendReferNotify ref "SIP/2.0 100 Trying\r\n" "active"
        ignore (hangupCall msg.callId)
        when s.radioHal (ignore (RadioHAL.dial target))
        sendReferNotify ref "SIP/2.0 200 OK\r\n" "terminated;reason=noresource")

/-- The status code of a sipfrag. -/
def sipfragStatus (sipfrag : Text) : Option ℤ :=
  match (splitChar ' ' 2 (strip sipfrag))[1]? with
  | some code => (pyInt code).toOption
  | none => none

/-- A NOTIFY ends the transfer: a 2xx sipfrag, or a terminated subscription. -/
def TransferOver (status : Option ℤ) (subscriptionState : Text) : Prop :=
  (∃ code ∈ status, 200 ≤ code ∧ code < 300) ∨ "terminated".toList <+: subscriptionState

instance (status : Option ℤ) (subscriptionState : Text) :
    Decidable (TransferOver status subscriptionState) := inferInstanceAs (Decidable (_ ∨ _))

/-- `_handle_incoming_notify(msg, addr)`. -/
def handleIncomingNotify (msg : SIPMessage) (addr : Text × ℕ) : Async Unit := do
  let s ← get
  let call := s.calls.get? msg.callId
  sendIfClient (response msg 200 "OK" msg.callId [] []) addr
  match call with
  | none => return
  | some ref =>
      if msg.header "Event" ≠ "refer".toList then return
      else
        let status := sipfragStatus (decodeUtf8 msg.body)
        if ∃ code ∈ status, 400 ≤ code then modifyCall ref VoLTECall.clearTransfer
        else
          when (TransferOver status (msg.header "Subscription-State") ∧ (s.call ref).transferPending)
            (ignore (hangupCall msg.callId))

/-- A response in `_handle_incoming_sip`. -/
def handleResponse (msg : SIPMessage) (code : ℤ) : Async Unit := do
  let s ← get
  match s.sipClient with
  | none => raise .attributeError
  | some client =>
      if client.client.hasPendingRequest msg.callId then
        if 200 ≤ code then modify (Phone.modifyClient (Session.perform (.resolve msg)))
        else if code = 180 then
          match s.calls.get? msg.callId with
          | some ref => when ((s.call ref).direction = .mo) (do
              modifyCall ref (VoLTECall.setState .ringingOut)
              updateRadio ref .alerting)
          | none => return

/-- `_handle_incoming_sip(msg, addr)`. -/
def handleIncomingSip (msg : SIPMessage) (addr : Text × ℕ) : Async Unit := do
  match msg.statusCode with
  | some code => handleResponse msg code
  | none =>
      if msg.method = some "INVITE".toList then
        let s ← get
        match s.calls.get? msg.callId with
        | some ref => handleReinvite msg addr ref
        | none => handleIncomingInvite msg addr
      else if msg.method = some "BYE".toList then handleIncomingBye msg addr
      else if msg.method = some "CANCEL".toList then handleIncomingCancel msg addr
      else if msg.method = some "REFER".toList then handleIncomingRefer msg addr
      else if msg.method = some "NOTIFY".toList then handleIncomingNotify msg addr

/-! ### Start and stop -/

/-- `start()`. -/
def startManager : Async Unit :=
  modify fun s =>
    if s.config.pcscfAddress = [] then s
    else { s with
      sipClient := some { client := { transport := s.config.transport } }
      started := true
      volteState := { s.volteState with enabled := true } }

/-- Hang up those of some calls that are active or ringing out. -/
def hangupActive : List ℕ → Async Unit
  | [] => return
  | ref :: refs => do
      let s ← get
      when ((s.call ref).state = .active ∨ (s.call ref).state = .ringingOut)
        (ignore (hangupCall (s.call ref).sipCallId))
      hangupActive refs

/-- `stop()`. -/
def stop : Async Unit := do
  let s ← get
  hangupActive s.calls.values
  modify fun s =>
    { s with started := false, volteState := { s.volteState with enabled := false } }

end VoLTECallManager

/-! ### The event loop -/

/-- What the user, the management API, the radio and the network ask for. -/
inductive Operation
  | start
  | stop
  | incoming (msg : SIPMessage) (addr : Text × ℕ)
  | initiateCall (number : Text) (radioCallIndex : ℕ)
  | answerCall (callId : Text)
  | holdCall (callId : Text)
  | resumeCall (callId : Text)
  | swapCalls
  | conferenceCalls
  | transferCall (callId targetNumber : Text)
  | attendedTransfer (callIdA callIdB : Text)
  | hangupCall (callId : Text)
  | dial (number : Text)
  | answer
  | hangup (callIndex : ℕ)
  | switchWaitingOrHoldingAndActive (rounds : ℕ)
  | conference
  | separateConnection (callIndex : ℕ)
  | explicitCallTransfer
  | hangupAll
  | setCallForward (action : ℤ) (reason : CallForwardReason) (number : Text) (timeSeconds : ℤ)
  | powerOff
deriving DecidableEq

/-- What an operation returns. -/
inductive OperationResult
  | none
  | bool (b : Bool)
  | callId (id : Option Text)
  | radio (result : RadioHAL.Result)
deriving DecidableEq

open VoLTECallManager in
/-- The coroutine of an operation. -/
def Operation.run : Operation → Async OperationResult
  | .start => do startManager; return .none
  | .stop => do VoLTECallManager.stop; return .none
  | .incoming msg addr => do handleIncomingSip msg addr; return .none
  | .initiateCall number index => do return .callId (← VoLTECallManager.initiateCall number index)
  | .answerCall callId => do return .bool (← VoLTECallManager.answerCall callId)
  | .holdCall callId => do return .bool (← VoLTECallManager.holdCall callId)
  | .resumeCall callId => do return .bool (← VoLTECallManager.resumeCall callId)
  | .swapCalls => do return .bool (← VoLTECallManager.swapCalls)
  | .conferenceCalls => do return .bool (← VoLTECallManager.conferenceCalls)
  | .transferCall callId target => do return .bool (← VoLTECallManager.transferCall callId target)
  | .attendedTransfer a b => do return .bool (← VoLTECallManager.attendedTransfer a b)
  | .hangupCall callId => do return .bool (← VoLTECallManager.hangupCall callId)
  | .dial number => do return .radio (← RadioHAL.dial number)
  | .answer => do return .radio (← RadioHAL.answer)
  | .hangup index => do return .radio (← RadioHAL.hangup index)
  | .switchWaitingOrHoldingAndActive rounds => do
      return .radio (← RadioHAL.switchWaitingOrHoldingAndActive rounds)
  | .conference => do return .radio (← RadioHAL.conference)
  | .separateConnection index => do return .radio (← RadioHAL.separateConnection index)
  | .explicitCallTransfer => do return .radio (← RadioHAL.explicitCallTransfer)
  | .hangupAll => do return .radio (← RadioHAL.hangupAll)
  | .setCallForward action reason number time => do
      return .radio (← RadioHAL.setCallForward action reason number time)
  | .powerOff => do modifyRadio RadioHAL.clear; return .none

/-- A suspended method can go on. -/
def Phone.ready (w : Await) (s : Phone) : Bool :=
  match w with
  | .pause => true
  | .response i => (s.sipClient.map (·.settled i)).getD false
  | .exhausted => false

/-- The 32 seconds of a request are over. -/
def Phone.expire (s : Phone) (i : ℕ) : Option Phone :=
  s.sipClient.bind fun client => (client.step (.expire i)).map fun c => s.modifyClient fun _ => c

/-- The event loop of the phone. -/
def phoneLoop : EventLoop Phone Await OperationResult Operation ℕ where
  main := Operation.run
  ready := Phone.ready
  outside := Phone.expire

/-- The phone with what runs on it. -/
abbrev PhonePool : Type := Pool Phone Await OperationResult

/-- An event of the phone. -/
abbrev PhoneEvent : Type := PoolEvent Operation ℕ

/-- One event of the phone; `start` happens at most once. -/
def PhonePool.step (p : PhonePool) (e : PhoneEvent) : Option PhonePool :=
  if e = .spawn .start ∧ p.state.sipClient.isSome then none else phoneLoop.step p e

end VirtualPhone
