import VirtualPhone.Sdp
import VirtualPhone.RadioHal
import VirtualPhone.SipClient

/-! # The calls of the VoLTE call manager

The data of `VoLTECallManager` of `ims/volte.py`: its calls, their media sessions, and the state
`Phone` that the manager, its SIP client and the radio share.

A call is an object that operations keep a reference to while they wait; `callHeap` holds every
call made so far, and the table `calls` maps Call-IDs to numbers of them.  The media sessions of a
call are likewise all kept with the call.  A call also carries a `CallHistory`: what has happened
to it so far, which no operation reads. -/

namespace VirtualPhone

open Runtime

/-! ### Media sessions -/

/-- `MediaSession`, without its sockets, its statistics and what it receives. -/
structure MediaSession where
  localPort : ℕ := 0
  remoteAddr : Text × ℤ := ([], 0)
  codec : Text := "AMR-WB".toList
  payloadType : ℤ := 96
  active : Bool := false
  held : Bool := false
  direction : MediaDirection := .sendrecv
  seq : ℕ := 0
deriving DecidableEq

namespace MediaSession

/-- `hold()`. -/
def hold (m : MediaSession) : MediaSession :=
  if m.active then { m with held := true, direction := .sendonly } else m

/-- `resume()`. -/
def resume (m : MediaSession) : MediaSession :=
  if m.active then { m with held := false, direction := .sendrecv } else m

/-- The payload type of a codec, where the SDP has that of AMR-WB. -/
def codecPayloadType (codec : Text) (payloadType : ℤ) : ℤ :=
  if payloadType = 96 then
    if codec = "AMR".toList then 97 else if codec = "EVS".toList then 98 else 96
  else payloadType

/-- The parameters of `start(...)`. -/
def configure (localPort : ℕ) (remoteAddr : Text × ℤ) (codec : Text) (payloadType : ℤ)
    (m : MediaSession) : MediaSession :=
  { m with
    localPort := localPort
    remoteAddr := remoteAddr
    codec := codec
    payloadType := codecPayloadType codec payloadType }

/-- The session begins or ends. -/
def setActive (active : Bool) (m : MediaSession) : MediaSession := { m with active := active }

/-- `send_frame(frame_data)`: the sequence number and payload of the packet that goes out. -/
def sendFrame (frame : Bytes) (m : MediaSession) : MediaSession × Option (ℕ × Bytes) :=
  if !m.active || m.held then (m, none)
  else ({ m with seq := m.seq + 1 }, some (m.seq % 2 ^ 16, frame))

theorem sendFrame_of_held {m : MediaSession} (h : m.held = true) (frame : Bytes) :
    m.sendFrame frame = (m, none) := by
  simp [sendFrame, h]

end MediaSession

/-! ### Calls -/

/-- `VoLTECallState`. -/
inductive VoLTECallState
  | initiating
  | ringingOut
  | ringingIn
  | active
  | held
  | terminating
  | ended
deriving DecidableEq, Repr

/-- The `direction` of a call. -/
inductive CallDirection
  | mo
  | mt
deriving DecidableEq, Repr

/-- What has happened to a call. -/
structure CallHistory where
  /-- The number of the request that carries the INVITE of an outgoing call. -/
  inviteRequest : Option ℕ := none
  /-- `answer_call` was invoked for the call. -/
  answerInvoked : Bool := false
  /-- The call was put in state ACTIVE. -/
  wasActive : Bool := false
  /-- A 200 OK to an INVITE of the call was sent. -/
  okSent : Bool := false
  /-- A re-INVITE was handled. -/
  reinvited : Bool := false
  /-- `hold_call` put the call in state HELD. -/
  everHeld : Bool := false
  /-- `hold_call` returned True, and the call was not released since. -/
  locallyHeld : Bool := false
  /-- How often `resume_call`, `conference_calls` or `transfer_call` released the call. -/
  releases : ℕ := 0
  /-- `transfer_call` sent a REFER for the call. -/
  transferRequested : Bool := false
  /-- `hangup_call`, a BYE or a CANCEL took the call out of the table. -/
  removed : Bool := false
deriving DecidableEq

/-- `VoLTECall`, with the attributes that are set on it later. -/
structure VoLTECall where
  sipCallId : Text := []
  radioCallIndex : ℕ := 0
  state : VoLTECallState := .initiating
  direction : CallDirection := .mo
  remoteNumber : Text := []
  remoteUri : Text := []
  localSdp : Text := []
  remoteSdp : Text := []
  rtpPort : ℕ := 0
  codec : Text := []
  /-- Every media session made for the call. -/
  sessions : List MediaSession := []
  mediaSession : Option ℕ := none
  inviteMsg : Option (SIPMessage × (Text × ℕ)) := none
  transferPending : Bool := false
  transferTarget : Option Text := none
  history : CallHistory := {}
deriving DecidableEq

namespace VoLTECall

/-- `call.state = state`. -/
def setState (state : VoLTECallState) (c : VoLTECall) : VoLTECall :=
  { c with
    state := state
    history := { c.history with wasActive := c.history.wasActive || state = .active } }

/-- The media session of the call. -/
def media (c : VoLTECall) : Option MediaSession := c.mediaSession.bind (c.sessions[·]?)

/-- Change the media session, if there is one. -/
def onMedia (f : MediaSession → MediaSession) (c : VoLTECall) : VoLTECall :=
  match c.mediaSession with
  | some m => { c with sessions := c.sessions.modify m f }
  | none => c

/-- The call on hold: state and media. -/
def hold (c : VoLTECall) : VoLTECall := (c.setState .held).onMedia MediaSession.hold

/-- The call off hold: state and media. -/
def resume (c : VoLTECall) : VoLTECall := (c.setState .active).onMedia MediaSession.resume

/-- A local request takes the call off hold. -/
def release (c : VoLTECall) : VoLTECall :=
  { c with history := { c.history with releases := c.history.releases + 1, locallyHeld := false } }

/-- The 200 OK to the INVITE of an outgoing call. -/
def connect (body : Bytes) (c : VoLTECall) : VoLTECall :=
  let sdp := decodeUtf8 body
  { c.setState .active with remoteSdp := sdp, codec := extractCodecFromSdp sdp }

/-- The user takes an incoming call. -/
def answer (c : VoLTECall) : VoLTECall :=
  { c.setState .active with codec := extractCodecFromSdp c.remoteSdp }

/-- The REFER was accepted. -/
def setTransfer (target : Text) (c : VoLTECall) : VoLTECall :=
  { c with transferPending := true, transferTarget := some target }

/-- `del call._transfer_pending`. -/
def clearTransfer (c : VoLTECall) : VoLTECall := { c with transferPending := false }

/-- `call.radio_call_index = index`. -/
def setRadioCallIndex (index : ℕ) (c : VoLTECall) : VoLTECall := { c with radioCallIndex := index }

/-- `MediaSession()` for the call. -/
def addSession (c : VoLTECall) : VoLTECall := { c with sessions := c.sessions ++ [{}] }

/-- Change media session `m`. -/
def modifySession (m : ℕ) (f : MediaSession → MediaSession) (c : VoLTECall) : VoLTECall :=
  { c with sessions := c.sessions.modify m f }

/-- `call.media_session = session`. -/
def setMediaSession (m : Option ℕ) (c : VoLTECall) : VoLTECall := { c with mediaSession := m }

/-- The call with its history changed. -/
def record (f : CallHistory → CallHistory) (c : VoLTECall) : VoLTECall :=
  { c with history := f c.history }

/-- A re-INVITE comes in: the remote SDP, and what its direction does to the call. -/
def reinvite (sdp : Text) (c : VoLTECall) : VoLTECall :=
  let c := { c with remoteSdp := sdp, history := { c.history with reinvited := true } }
  if HoldsRemotely sdp then c.hold
  else if ResumesRemotely sdp then c.resume
  else c

end VoLTECall

/-! ### The state -/

/-- `VoLTEConfig`, without the fields no operation reads. -/
structure VoLTEConfig where
  pcscfAddress : Text := []
  pcscfPort : ℕ := 5060
  transport : Text := "UDP".toList
  codecPriority : List Text := ["AMR-WB".toList, "AMR-NB".toList, "EVS".toList]
  impu : Text := []
  homeDomain : Text := []
  serviceRoute : Text := []
  localIp : Text := []
  rtpPortBase : ℕ := 50000
deriving DecidableEq

namespace VoLTEConfig

/-- `config.local_ip or "10.45.0.2"`. -/
def mediaIp (cfg : VoLTEConfig) : Text :=
  if cfg.localIp = [] then "10.45.0.2".toList else cfg.localIp

/-- The public identity as a URI. -/
def fromUri (cfg : VoLTEConfig) : Text :=
  if "sip:".toList <+: cfg.impu then cfg.impu else "sip:".toList ++ cfg.impu

/-- The P-CSCF. -/
def dest (cfg : VoLTEConfig) : Text × ℕ := (cfg.pcscfAddress, cfg.pcscfPort)

/-- Headers with the Route header, if there is a service route. -/
def withRoute (cfg : VoLTEConfig) (headers : List (Text × Text)) : List (Text × Text) :=
  if cfg.serviceRoute = [] then headers else headers ++ [("Route".toList, cfg.serviceRoute)]

/-- The URI of a number in the home domain. -/
def numberUri (cfg : VoLTEConfig) (number : Text) : Text :=
  "sip:".toList ++ number.dropWhile (· = '+') ++ "@".toList ++ cfg.homeDomain

end VoLTEConfig

/-- `_volte_state`. -/
structure VolteState where
  enabled : Bool := false
  activeCalls : ℕ := 0
  totalCalls : ℕ := 0
  codec : Option Text := none
deriving DecidableEq

/-- The call manager, its SIP client, the radio, the messages sent, and the random texts to come;
the table names calls there are. -/
structure Phone where
  config : VoLTEConfig := {}
  /-- `_radio_hal` is set. -/
  radioHal : Bool := true
  radio : RadioHAL := {}
  sipClient : Option Session := none
  started : Bool := false
  callHeap : List VoLTECall := []
  calls : Dict Text ℕ := Dict.empty
  valid : ∀ (callId : Text) (ref : ℕ), calls.get? callId = some ref → ref < callHeap.length
  rtpPortNext : ℕ := 50000
  volteState : VolteState := {}
  sent : List (SIPMessage × (Text × ℕ)) := []
  random : ℕ → Text := fun _ => []
  drawn : ℕ := 0

namespace Phone

/-- `VoLTECallManager(config)` with a radio, and the random texts it is going to draw. -/
def create (config : VoLTEConfig) (radioHal : Bool) (radio : RadioHAL) (random : ℕ → Text) : Phone :=
  { config := config
    radioHal := radioHal
    radio := radio
    rtpPortNext := config.rtpPortBase
    random := random
    valid := fun callId ref h => by cases h }

/-- The call behind a reference. -/
def call (s : Phone) (ref : ℕ) : VoLTECall := s.callHeap.getD ref {}

/-- The phone with call `ref` changed. -/
def modifyCall (ref : ℕ) (f : VoLTECall → VoLTECall) (s : Phone) : Phone :=
  { s with
    callHeap := s.callHeap.modify ref f
    valid := fun callId r h => by
      rw [List.length_modify]
      exact s.valid callId r h }

/-- A new call, entered in the table under its Call-ID. -/
def newCall (c : VoLTECall) (s : Phone) : Phone :=
  { s with
    callHeap := s.callHeap ++ [c]
    calls := s.calls.set c.sipCallId s.callHeap.length
    valid := fun callId r h => by
      rw [List.length_append, List.length_singleton]
      rw [Dict.get?_set] at h
      split_ifs at h
      · obtain rfl := Option.some.inj h
        exact Nat.lt_succ_self _
      · exact Nat.lt_succ_of_lt (s.valid callId r h) }

/-- The table without a Call-ID. -/
def delCall (callId : Text) (s : Phone) : Phone :=
  { s with
    calls := s.calls.erase callId
    valid := fun callId' r h => by
      rw [Dict.get?_erase] at h
      split_ifs at h
      exact s.valid callId' r h }

/-- `self._calls.pop(call_id)` of the call `ref`. -/
def popCall (callId : Text) (ref : ℕ) (s : Phone) : Phone :=
  (s.delCall callId).modifyCall ref (VoLTECall.record fun h => { h with removed := true })

/-- The table entry of the first call in a state. -/
def firstCall (s : Phone) (state : VoLTECallState) : Option ℕ :=
  s.calls.values.find? fun ref => (s.call ref).state = state

/-- The table entry of the last call in a state. -/
def lastCall (s : Phone) (state : VoLTECallState) : Option ℕ :=
  s.calls.values.reverse.find? fun ref => (s.call ref).state = state

/-- Count the active calls again. -/
def countActive (s : Phone) : Phone :=
  { s with volteState := { s.volteState with
      activeCalls := s.calls.values.countP fun ref => (s.call ref).state = .active } }

/-- One more call was connected, with this codec. -/
def countCall (codec : Text) (s : Phone) : Phone :=
  { s with volteState := { s.volteState with
      totalCalls := s.volteState.totalCalls + 1
      codec := some codec } }

/-- Change the radio. -/
def modifyRadio (f : RadioHAL → RadioHAL) (s : Phone) : Phone := { s with radio := f s.radio }

/-- Change the SIP client. -/
def modifyClient (f : Session → Session) (s : Phone) : Phone :=
  { s with sipClient := s.sipClient.map f }

/-- A message goes out. -/
def send (msg : SIPMessage) (addr : Text × ℕ) (s : Phone) : Phone :=
  { s with sent := s.sent ++ [(msg, addr)] }

/-- The `i`-th random text from here. -/
def draw (s : Phone) (i : ℕ) : Text := s.random (s.drawn + i)

/-- The phone after `n` draws. -/
def skipDraws (n : ℕ) (s : Phone) : Phone := { s with drawn := s.drawn + n }

/-! ### The calls of a changed phone -/

theorem call_modifyCall (ref r : ℕ) (f : VoLTECall → VoLTECall) (s : Phone) :
    (s.modifyCall ref f).call r =
      if ref = r ∧ r < s.callHeap.length then f (s.call r) else s.call r := by
  simp only [call, modifyCall, List.getD_eq_getElem?_getD, List.getElem?_modify]
  split_ifs with hr hboth hboth
  · rw [List.getElem?_eq_getElem hboth.2]
    rfl
  · rw [List.getElem?_eq_none (by omega)]
    rfl
  · exact absurd hboth.1 hr
  · simp

theorem call_modifyCall_self {s : Phone} {callId : Text} {ref : ℕ}
    (h : s.calls.get? callId = some ref) (f : VoLTECall → VoLTECall) :
    (s.modifyCall ref f).call ref = f (s.call ref) := by
  rw [call_modifyCall, if_pos ⟨rfl, s.valid callId ref h⟩]

theorem call_modifyCall_ne {ref r : ℕ} (h : ref ≠ r) (f : VoLTECall → VoLTECall) (s : Phone) :
    (s.modifyCall ref f).call r = s.call r := by
  rw [call_modifyCall, if_neg fun h' => h h'.1]

theorem call_append {s s' : Phone} {c : VoLTECall} (h : s'.callHeap = s.callHeap ++ [c]) (r : ℕ) :
    s'.call r = if r = s.callHeap.length then c else s.call r := by
  simp only [call, List.getD_eq_getElem?_getD, h]
  rw [List.getElem?_append]
  split_ifs with hlt heq heq
  · omega
  · rfl
  · rw [heq, Nat.sub_self]
    rfl
  · rw [List.getElem?_eq_none (by simp; omega), List.getElem?_eq_none (by omega)]

end Phone

end VirtualPhone
