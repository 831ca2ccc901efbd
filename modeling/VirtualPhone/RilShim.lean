import VirtualPhone.Runtime.Text
import VirtualPhone.Runtime.Trace

/-! # The RIL shim and the RIL bridge

One Android client of `ril_shim/ril_shim.c` and the TCP connections it opens to the bridge of
`hal/ril_bridge.py` for its solicited requests.  `handle_request` sends a request and takes the next
frame of the connection as its answer, reconnecting with a pause when the connection is lost.  The
bridge writes an indication to every connection it accepts, answers the requests of a connection one
after the other, and broadcasts indications in between.

The two programs run concurrently: a step is one write, read, connect or accept of either, and an
event that is not enabled has no successor.  Every frame carries, as history, the number of the
Android request it belongs to. -/

namespace VirtualPhone

open Runtime

/-! ### Frames -/

/-- `RILMessage`; `data` is the JSON text of the data object. -/
structure RILMessage where
  msgType : ℤ
  serial : ℤ
  requestId : ℤ
  data : Text
deriving DecidableEq

/-- `RILResponse.SOLICITED`. -/
def solicited : ℤ := 0

/-- `RILResponse.UNSOLICITED`. -/
def unsolicited : ℤ := 1

namespace RILMessage

/-- The JSON text of `serialize()`. -/
def payload (m : RILMessage) : Text :=
  "\x7b\"type\": ".toList ++ intText m.msgType ++ ", \"serial\": ".toList ++ intText m.serial ++
    ", \"id\": ".toList ++ intText m.requestId ++ ", \"data\": ".toList ++ m.data ++ "\x7d".toList

end RILMessage

/-- `strstr(text, pattern)`: the text from the first occurrence on. -/
def strstr (text pattern : Text) : Option Text := text.tails.find? fun t => decide (pattern <+: t)

/-- `json_find_data(json)`. -/
def jsonFindData (json : Text) : Text :=
  match strstr json "\"data\":".toList with
  | none => "\x7b\x7d".toList
  | some p => (p.drop 7).dropWhile (· = ' ')

/-- A frame on a connection; `origin` is the number of the Android request it belongs to. -/
structure Frame where
  message : RILMessage
  origin : Option ℕ
deriving DecidableEq

/-- The test for an error in the frame that was read: `strstr(data_part, "REQUEST_NOT_SUPPORTED")`. -/
def Frame.Refusal (f : Frame) : Prop :=
  (strstr (jsonFindData f.message.payload) "REQUEST_NOT_SUPPORTED".toList).isSome

instance (f : Frame) : Decidable f.Refusal := inferInstanceAs (Decidable (_ = true))

/-! ### The bridge -/

/-- The bridge's side of one connection: the requests it has not read, the one it is processing, the
frames it has written, and whether it has accepted the connection and not closed it. -/
structure Conn where
  accepted : Bool := false
  closed : Bool := false
  toBridge : List Frame := []
  serving : Option Frame := none
  toShim : List Frame := []
deriving DecidableEq

/-- The request ids with a handler in `_process_request`. -/
def handledRequests : List ℤ :=
  [1, 11, 38, 22, 19, 20, 21, 23, 28, 125, 25, 26, 2, 57, 111, 128, 9, 10, 12, 40, 15, 16, 52, 72,
    29, 30, 33, 34, 53, 54]

/-- `_process_request(msg)`, with the JSON text of what the handler returns. -/
def processRequest (msg : RILMessage) (outcome : Text) : RILMessage :=
  { msgType := solicited
    serial := msg.serial
    requestId := msg.requestId
    data :=
      if msg.requestId ∈ handledRequests then outcome
      else "\x7b\"error\": \"REQUEST_NOT_SUPPORTED\"\x7d".toList }

/-- `_send_unsolicited(writer, indication_id, data)`. -/
def unsolicitedFrame (indicationId : ℤ) (data : Text) : Frame :=
  { message := ⟨unsolicited, 0, indicationId, data⟩, origin := none }

/-- The first indication on a connection: `RADIO_STATE_CHANGED`. -/
def radioStateChanged (radioState : ℤ) : Frame :=
  unsolicitedFrame 1000 ("\x7b\"radioState\": ".toList ++ intText radioState ++ "\x7d".toList)

namespace Conn

/-- `_handle_client` takes a new client in. -/
def accept (c : Conn) (radioState : ℤ) : Conn :=
  { c with accepted := true, toShim := c.toShim ++ [radioStateChanged radioState] }

/-- The bridge reads the next request. -/
def take (c : Conn) : Conn :=
  { c with toBridge := c.toBridge.tail, serving := c.toBridge.head? }

/-- The bridge answers the request it is processing. -/
def reply (c : Conn) (f : Frame) (outcome : Text) : Conn :=
  { c with
    serving := none
    toShim := c.toShim ++ [{ message := processRequest f.message outcome, origin := f.origin }] }

/-- A broadcast reaches the connection. -/
def indicate (c : Conn) (indicationId : ℤ) (data : Text) : Conn :=
  { c with toShim := c.toShim ++ [unsolicitedFrame indicationId data] }

/-- The bridge closes the connection. -/
def hangUp (c : Conn) : Conn := { c with closed := true }

/-- `bridge_send` puts a request on the connection. -/
def push (c : Conn) (f : Frame) : Conn := { c with toBridge := c.toBridge ++ [f] }

/-- `bridge_recv` takes the next frame off the connection. -/
def pop (c : Conn) : Conn := { c with toShim := c.toShim.tail }

end Conn

/-! ### The shim -/

/-- A request of the Android client, with the JSON data made from its Parcel. -/
structure AndroidRequest where
  requestId : ℤ
  token : ℤ
  dataJson : Option Text := none
deriving DecidableEq

/-- The frame `bridge_request` sends. -/
def AndroidRequest.frame (r : AndroidRequest) (n : ℕ) : Frame :=
  { message := ⟨solicited, r.token, r.requestId, r.dataJson.getD "\x7b\x7d".toList⟩, origin := some n }

/-- The error field of a response Parcel. -/
inductive RILError
  | success
  | genericFailure
  | requestNotSupported
deriving DecidableEq

/-- The code written into the Parcel. -/
def RILError.code : RILError → ℤ
  | success => 0
  | genericFailure => 2
  | requestNotSupported => 6

/-- A response Parcel: its token and error, and the frame it was built from. -/
structure Response where
  requestId : ℤ
  token : ℤ
  error : RILError
  source : Option Frame
deriving DecidableEq

/-- The response `handle_request` builds from what `bridge_request` returned. -/
def buildResponse (r : AndroidRequest) (resp : Option Frame) : Response :=
  { requestId := r.requestId
    token := r.token
    error :=
      match resp with
      | some f => if f.Refusal then .requestNotSupported else .success
      | none => .genericFailure
    source := resp }

/-- Where `handle_request` stands: in round `retry` of `bridge_request` before the send, in
`bridge_recv`, or asleep before the next connect. -/
inductive ShimPhase
  | idle
  | trying (r : AndroidRequest) (retry : ℕ)
  | receiving (r : AndroidRequest) (retry : ℕ)
  | reconnecting (r : AndroidRequest) (retry : ℕ)
deriving DecidableEq

/-- The shim, its connections (the oldest first), the responses it has sent, and as history the
numbers of the requests the bridge has executed. -/
structure Ril where
  conns : List Conn := [{}]
  fd : Option ℕ := some 0
  phase : ShimPhase := .idle
  responses : List Response := []
  executed : List (Option ℕ) := []
deriving DecidableEq

namespace Ril

/-- The number of the Android request that is or will be handled next. -/
def current (s : Ril) : ℕ := s.responses.length

/-- The state with connection `i` changed. -/
def updateConn (s : Ril) (i : ℕ) (f : Conn → Conn) : Ril := { s with conns := s.conns.modify i f }

/-- The state with the shim in another phase. -/
def toPhase (s : Ril) (p : ShimPhase) : Ril := { s with phase := p }

/-- `handle_request` ends. -/
def respond (s : Ril) (r : AndroidRequest) (resp : Option Frame) : Ril :=
  { s with phase := .idle, responses := s.responses ++ [buildResponse r resp] }

/-- A send or a receive failed, or there was no connection: close it, give up after the fourth
retry, else sleep. -/
def connectionLost (s : Ril) (r : AndroidRequest) (retry : ℕ) : Ril :=
  let s := { s with fd := none }
  if 4 ≤ retry then s.respond r none else s.toPhase (.reconnecting r retry)

/-- `bridge_connect()`, when it succeeds: a connection the bridge has not accepted yet. -/
def connect (s : Ril) : Ril :=
  { s with conns := s.conns ++ [{}], fd := some s.conns.length }

/-- The bridge has executed a request. -/
def execute (s : Ril) (f : Frame) : Ril := { s with executed := s.executed ++ [f.origin] }

end Ril

/-- The steps of the two programs. -/
inductive RilEvent
  /-- A request of the Android client. -/
  | request (r : AndroidRequest)
  /-- `bridge_send` succeeds. -/
  | send
  /-- `bridge_send` fails, or there is no connection. -/
  | sendFail
  /-- `bridge_recv` returns the next frame. -/
  | recv
  /-- `bridge_recv` fails. -/
  | recvFail
  /-- `bridge_connect` after the pause. -/
  | connect (ok : Bool)
  /-- The bridge accepts connection `i`. -/
  | accept (i : ℕ) (radioState : ℤ)
  /-- The bridge reads the next request of connection `i`. -/
  | take (i : ℕ)
  /-- The bridge answers the request of connection `i`. -/
  | reply (i : ℕ) (outcome : Text)
  /-- The bridge writes an indication to connection `i`. -/
  | indicate (i : ℕ) (indicationId : ℤ) (data : Text)
  /-- The bridge closes connection `i`. -/
  | hangUp (i : ℕ)
deriving DecidableEq

namespace Ril

/-- The connection the shim uses. -/
def currentConn (s : Ril) : Option (ℕ × Conn) :=
  s.fd.bind fun i => (s.conns[i]?).map (i, ·)

/-- One step. -/
def step (s : Ril) : RilEvent → Option Ril
  | .request r => if s.phase = .idle then some (s.toPhase (.trying r 0)) else none
  | .send =>
      match s.phase, s.currentConn with
      | .trying r retry, some (i, _) =>
          some ((s.updateConn i (·.push (r.frame s.current))).toPhase (.receiving r retry))
      | _, _ => none
  | .sendFail =>
      match s.phase with
      | .trying r retry => some (s.connectionLost r retry)
      | _ => none
  | .recv =>
      match s.phase, s.currentConn with
      | .receiving r _, some (i, c) =>
          match c.toShim with
          | f :: _ => some ((s.updateConn i Conn.pop).respond r (some f))
          | [] => none
      | _, _ => none
  | .recvFail =>
      match s.phase with
      | .receiving r retry => some (s.connectionLost r retry)
      | _ => none
  | .connect ok =>
      match s.phase with
      | .reconnecting r retry =>
          some ((if ok then s.connect else s).toPhase (.trying r (retry + 1)))
      | _ => none
  | .accept i radioState =>
      match s.conns[i]? with
      | some c =>
          if c.accepted = false ∧ c.closed = false then some (s.updateConn i (·.accept radioState))
          else none
      | none => none
  | .take i =>
      match s.conns[i]? with
      | some c =>
          match c.toBridge, c.serving with
          | f :: _, none =>
              if c.accepted ∧ c.closed = false then some ((s.updateConn i Conn.take).execute f)
              else none
          | _, _ => none
      | none => none
  | .reply i outcome =>
      match s.conns[i]? with
      | some c =>
          match c.serving with
          | some f => if c.closed = false then some (s.updateConn i (·.reply f outcome)) else none
          | none => none
      | none => none
  | .indicate i indicationId data =>
      match s.conns[i]? with
      | some c =>
          if c.accepted ∧ c.closed = false then some (s.updateConn i (·.indicate indicationId data))
          else none
      | none => none
  | .hangUp i =>
      match s.conns[i]? with
      | some c => if c.closed = false then some (s.updateConn i Conn.hangUp) else none
      | none => none

end Ril

end VirtualPhone
