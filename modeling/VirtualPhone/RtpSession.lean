import VirtualPhone.DtmfEvent
import VirtualPhone.JitterBuffer
import VirtualPhone.Rtp
import VirtualPhone.VolteCall

/-! # The RTP side of a media session

`MediaSession` of `ims/media.py` with its counters, its statistics and what it receives; the model of
the calls has the side the signalling sees.  A session sends a digit as five packets: the start of the
event, the event going on, and three times its end.  The receiver calls back at every end of an event. -/

namespace VirtualPhone

open Runtime

namespace Rtp

/-- `MediaSession` with a transport that is open or not; `sent` lists the datagrams given to it and
`digits` the calls of the DTMF callback, where there is one. -/
structure MediaSession where
  ssrc : ℕ := 0
  payloadType : ℤ := ptAmrWb
  seq : ℕ := 0
  timestamp : ℕ := 0
  clockRate : ℕ := 16000
  samplesPerFrame : ℕ := 320
  transport : Bool := false
  jitterBuffer : JitterBuffer := {}
  packetsSent : ℕ := 0
  packetsReceived : ℕ := 0
  bytesSent : ℕ := 0
  bytesReceived : ℕ := 0
  active : Bool := false
  held : Bool := false
  onDtmf : Bool := false
  sent : List Bytes := []
  digits : List Text := []
deriving DecidableEq

namespace MediaSession

/-- The parameters of `start(..., codec, payload_type)`, which opens the transport if the port is free. -/
def start (codec : Text) (payloadType : ℤ) (free : Bool) (m : MediaSession) : MediaSession :=
  { m with
    payloadType := VirtualPhone.MediaSession.codecPayloadType codec payloadType
    clockRate := (getCodecInfo codec).1
    samplesPerFrame := (getCodecInfo codec).2
    transport := free
    active := true }

/-! ### Sending -/

/-- The packet goes to the transport, if there is one, and is counted. -/
def emit (raw : Bytes) (m : MediaSession) : MediaSession :=
  { m with
    sent := if m.transport then m.sent ++ [raw] else m.sent
    packetsSent := m.packetsSent + 1
    bytesSent := m.bytesSent + raw.length }

/-- The packet of a session with its next number. -/
def packet (m : MediaSession) (marker : Bool) (payloadType : ℤ) (payload : Bytes) : RTPPacket :=
  { marker := marker
    payloadType := payloadType
    sequenceNumber := m.seq % 2 ^ 16
    timestamp := m.timestamp % 2 ^ 32
    ssrc := m.ssrc
    payload := payload }

/-- `send_frame(frame_data, marker)`. -/
def sendFrame (frameData : Bytes) (marker : Bool) : Py MediaSession Unit := do
  let m ← Py.get
  if !m.active || m.held then return ()
  else do
    let packet := m.packet marker m.payloadType frameData
    Py.modify fun m => { m with seq := m.seq + 1, timestamp := m.timestamp + m.samplesPerFrame }
    let raw ← Py.lift packet.toBytes
    Py.modify (emit raw)

/-- `_send_dtmf_packet(event, marker)`. -/
def sendDtmfPacket (event : DTMFEvent) (marker : Bool) : Py MediaSession Unit := do
  let m ← Py.get
  let payload ← Py.lift event.toRtpPayload
  let packet := m.packet marker ptTelephoneEvent payload
  Py.modify fun m => { m with seq := m.seq + 1 }
  let raw ← Py.lift packet.toBytes
  Py.modify (emit raw)

/-- `send_dtmf(digit, duration_ms)`. -/
def sendDtmf (digit : Text) (durationMs : ℕ) : Py MediaSession Unit := do
  let m ← Py.get
  if ¬IsDtmfDigit digit then return ()
  else do
    let durationSamples := durationMs * m.clockRate / 1000
    let event := DTMFEvent.fromDigit digit (durationSamples / 3) false
    sendDtmfPacket event true
    let event := { event with duration := durationSamples * 2 / 3 }
    sendDtmfPacket event false
    let event := { event with isEnd := true, duration := durationSamples }
    sendDtmfPacket event false
    sendDtmfPacket event false
    sendDtmfPacket event false

/-! ### Receiving -/

/-- What the jitter buffer reads of a packet; a number that was received has two octets anyway. -/
def buffered (p : RTPPacket) : VirtualPhone.RTPPacket where
  sequenceNumber := p.sequenceNumber % 65536
  timestamp := p.timestamp
  payload := p.payload
  valid := Nat.mod_lt _ (by decide)

/-- `_on_rtp_received(data, addr)`. -/
def onRtpReceived (data : Bytes) : Py MediaSession Unit := do
  match RTPPacket.fromBytes data with
  | .error _ => return ()
  | .ok packet => do
      Py.modify fun m =>
        { m with packetsReceived := m.packetsReceived + 1, bytesReceived := m.bytesReceived + data.length }
      if packet.payloadType = ptTelephoneEvent then
        match DTMFEvent.fromRtpPayload packet.payload with
        | .error _ => return ()
        | .ok event => do
            let m ← Py.get
            if event.isEnd && m.onDtmf then Py.modify fun m => { m with digits := m.digits ++ [event.digit] }
            else return ()
      else
        Py.zoom jitterBuffer (fun b m => { m with jitterBuffer := b }) (JitterBuffer.put (buffered packet))

end MediaSession

/-! ### What is heard in a datagram -/

/-- The digits a receiver hears in a payload of telephone events. -/
def heardEvent (payload : Bytes) : List Text :=
  match DTMFEvent.fromRtpPayload payload with
  | .error _ => []
  | .ok event => if event.isEnd then [event.digit] else []

/-- The digits a receiver hears in a datagram. -/
def heard (data : Bytes) : List Text :=
  match RTPPacket.fromBytes data with
  | .error _ => []
  | .ok packet => if packet.payloadType = ptTelephoneEvent then heardEvent packet.payload else []

end Rtp

end VirtualPhone
