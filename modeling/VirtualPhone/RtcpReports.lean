import VirtualPhone.Loopback
import Mathlib.Data.NNRat.Floor

/-! # The RTCP loop of a session (`ims/media.py`, `ims/rtp.py`)

While a session is active its task sends a sender report and a receiver report every five seconds.  Of the
numbers in them only the losses are cut to their fields: the counts of packets and octets, the seconds
since 1900, the count of packets received and the jitter are packed as they are, and `struct.pack` refuses
one that has more than 32 bits.  The exception ends the task, and nothing says so; so the loop runs for as
long as its session exactly if the numbers fit at every report (`reporting_iff`). -/

namespace VirtualPhone

open Runtime

namespace Rtp

/-- `ntp_timestamp_now()`, at a time in seconds since 1970; the fraction of a second is exact in a
floating-point number, and stays exact when it is multiplied by `2 ^ 32`. -/
def ntpTimestampNow (now : ℚ≥0) : ℕ × ℕ := (⌊now⌋₊ + 2208988800, ⌊(now - ⌊now⌋₊) * 2 ^ 32⌋₊)

/-- A session with its RTCP transport, open or not, and its task; `rtcpSent` lists the datagrams given to the
transport. -/
structure Reporter where
  sender : Sender
  rtcpTransport : Bool
  rtcpSent : List Bytes := []
  rtcpSrSent : ℕ := 0
  rtcpRrSent : ℕ := 0
  loop : Bool
deriving DecidableEq

namespace Reporter

/-! ### The reports -/

/-- The sender report of a session. -/
def senderReport (now : ℚ≥0) (r : Reporter) : RTCPSenderReport where
  ssrc := r.sender.session.ssrc
  ntpTimestampMsw := (ntpTimestampNow now).1
  ntpTimestampLsw := (ntpTimestampNow now).2
  rtpTimestamp := r.sender.session.timestamp % 2 ^ 32
  senderPacketCount := r.sender.session.packetsSent
  senderOctetCount := r.sender.session.bytesSent

/-- The receiver report of a session; its jitter is a statistic that is kept in floating-point numbers, and
comes from outside the model. -/
def receiverReport (jitterMs : ℚ≥0) (r : Reporter) : RTCPReceiverReport :=
  let buffer := r.sender.session.jitterBuffer
  let totalExpected := buffer.packetsReceived + buffer.packetsLost
  let fraction := if totalExpected > 0 then 256 * buffer.packetsLost / totalExpected else 0
  { ssrc := r.sender.session.ssrc
    sourceSsrc := 0
    fractionLost := min 255 fraction
    cumulativeLost := buffer.packetsLost
    highestSeq := buffer.packetsReceived
    jitter := ⌊jitterMs * r.sender.session.clockRate / 1000⌋₊ }

/-- A report goes to the transport, if there is one, and is counted. -/
def sendReport (report : Except PyError Bytes) (count : Reporter → Reporter) : Py Reporter Unit := do
  let r ← Py.get
  if r.rtcpTransport then do
    let raw ← Py.lift report
    Py.modify fun r => { r with rtcpSent := r.rtcpSent ++ [raw] }
    Py.modify count
  else Py.modify count

/-- One sender report more. -/
def countSr (r : Reporter) : Reporter := { r with rtcpSrSent := r.rtcpSrSent + 1 }

/-- One receiver report more. -/
def countRr (r : Reporter) : Reporter := { r with rtcpRrSent := r.rtcpRrSent + 1 }

/-- `_send_rtcp_sr()`. -/
def sendRtcpSr (now : ℚ≥0) : Py Reporter Unit := do
  let r ← Py.get
  sendReport (r.senderReport now).toBytes countSr

/-- `_send_rtcp_rr()`. -/
def sendRtcpRr (jitterMs : ℚ≥0) : Py Reporter Unit := do
  let r ← Py.get
  sendReport (r.receiverReport jitterMs).toBytes countRr

/-- One round of `_rtcp_loop()`, behind the sleep. -/
def round (now jitterMs : ℚ≥0) : Py Reporter Unit := do
  let r ← Py.get
  if !r.sender.session.active then Py.modify fun r => { r with loop := false }
  else do
    sendRtcpSr now
    sendRtcpRr jitterMs

/-- The task wakes up; an exception is the end of it. -/
def wake (now jitterMs : ℚ≥0) (r : Reporter) : Reporter :=
  if r.loop then
    match (round now jitterMs).run r with
    | (.ok (), r') => r'
    | (.error _, r') => { r' with loop := false }
  else r

end Reporter

/-! ### What a report needs -/

/-- Both reports are written: neither method raises, and where there is a transport the datagrams carry the
counts and the seconds modulo `2 ^ 32`. -/
def ReportsWell (now jitterMs : ℚ≥0) (r : Reporter) : Prop :=
  ∃ r₁ r₂, (Reporter.sendRtcpSr now).run r = (.ok (), r₁) ∧ (Reporter.sendRtcpRr jitterMs).run r₁ = (.ok (), r₂) ∧
    (r.rtcpTransport = true → ∃ raw raw' sr rr, r₂.rtcpSent = r.rtcpSent ++ [raw, raw'] ∧
      RTCPSenderReport.fromBytes raw = .ok sr ∧ RTCPReceiverReport.fromBytes raw' = .ok rr ∧
      sr.senderPacketCount = r.sender.session.packetsSent % 2 ^ 32 ∧
      sr.senderOctetCount = r.sender.session.bytesSent % 2 ^ 32 ∧
      sr.ntpTimestampMsw = (ntpTimestampNow now).1 % 2 ^ 32)

/-- The numbers that are packed as they are have 32 bits. -/
structure NumbersFit (now jitterMs : ℚ≥0) (m : MediaSession) : Prop where
  ssrc : m.ssrc < 2 ^ 32
  seconds : (ntpTimestampNow now).1 < 2 ^ 32
  packetsSent : m.packetsSent < 2 ^ 32
  bytesSent : m.bytesSent < 2 ^ 32
  received : m.jitterBuffer.packetsReceived < 2 ^ 32
  jitter : ⌊jitterMs * m.clockRate / 1000⌋₊ < 2 ^ 32

theorem ntpFraction_lt (now : ℚ≥0) : (ntpTimestampNow now).2 < 2 ^ 32 := by
  have hfraction : now - ⌊now⌋₊ < 1 := by
    rw [tsub_lt_iff_left (Nat.floor_le zero_le)]
    exact Nat.lt_floor_add_one now
  show ⌊(now - ⌊now⌋₊) * 2 ^ 32⌋₊ < 2 ^ 32
  rw [Nat.floor_lt zero_le]
  push_cast
  calc (now - ⌊now⌋₊) * 2 ^ 32 < 1 * 2 ^ 32 := by
        apply mul_lt_mul_of_pos_right hfraction
        exact pow_pos two_pos 32
    _ = 2 ^ 32 := one_mul _

theorem senderReport_fits (now : ℚ≥0) (r : Reporter) : (r.senderReport now).Fits ↔
    r.sender.session.ssrc < 2 ^ 32 ∧ (ntpTimestampNow now).1 < 2 ^ 32 ∧
      r.sender.session.packetsSent < 2 ^ 32 ∧ r.sender.session.bytesSent < 2 ^ 32 := by
  constructor
  · rintro ⟨hssrc, hmsw, -, -, hpackets, hoctets⟩
    exact ⟨hssrc, hmsw, hpackets, hoctets⟩
  · rintro ⟨hssrc, hmsw, hpackets, hoctets⟩
    exact ⟨hssrc, hmsw, ntpFraction_lt now, Nat.mod_lt _ (by decide), hpackets, hoctets⟩

theorem receiverReport_fits (jitterMs : ℚ≥0) (r : Reporter) : (r.receiverReport jitterMs).Fits ↔
    r.sender.session.ssrc < 2 ^ 32 ∧ r.sender.session.jitterBuffer.packetsReceived < 2 ^ 32 ∧
      ⌊jitterMs * r.sender.session.clockRate / 1000⌋₊ < 2 ^ 32 := by
  constructor
  · rintro ⟨hssrc, -, hhighest, hjitter, -, -⟩
    exact ⟨hssrc, hhighest, hjitter⟩
  · rintro ⟨hssrc, hhighest, hjitter⟩
    exact ⟨hssrc, Nat.two_pow_pos 32, hhighest, hjitter, Nat.two_pow_pos 32, Nat.two_pow_pos 32⟩

section

variable (count : Reporter → Reporter)

theorem sendReport_closed (report : Except PyError Bytes) {r : Reporter} (h : r.rtcpTransport = false) :
    (Reporter.sendReport report count).run r = (.ok (), count r) := by
  unfold Reporter.sendReport
  rw [Py.run_get_bind, h]
  rfl

theorem sendReport_ok (raw : Bytes) {r : Reporter} (h : r.rtcpTransport = true) :
    (Reporter.sendReport (.ok raw) count).run r = (.ok (), count { r with rtcpSent := r.rtcpSent ++ [raw] }) := by
  unfold Reporter.sendReport
  rw [Py.run_get_bind, if_pos h]
  rfl

theorem sendReport_error (e : PyError) {r : Reporter} (h : r.rtcpTransport = true) :
    (Reporter.sendReport (.error e) count).run r = (.error e, r) := by
  unfold Reporter.sendReport
  rw [Py.run_get_bind, if_pos h]
  rfl

theorem sendReport_written {report : Except PyError Bytes} {r r' : Reporter} (h : r.rtcpTransport = true)
    (hrun : (Reporter.sendReport report count).run r = (.ok (), r')) :
    ∃ raw, report = .ok raw ∧ r' = count { r with rtcpSent := r.rtcpSent ++ [raw] } := by
  cases report with
  | error e =>
      rw [sendReport_error count e h] at hrun
      cases hrun
  | ok raw =>
      rw [sendReport_ok count raw h] at hrun
      exact ⟨raw, rfl, (congrArg Prod.snd hrun).symm⟩

end

/-- The sender report does not change what the receiver report says. -/
theorem receiverReport_congr {r r₁ : Reporter} (h : r₁.sender = r.sender) (jitterMs : ℚ≥0) :
    r₁.receiverReport jitterMs = r.receiverReport jitterMs := by
  unfold Reporter.receiverReport
  rw [h]

theorem sendRtcpSr_run (now : ℚ≥0) (r : Reporter) : (Reporter.sendRtcpSr now).run r =
    (Reporter.sendReport (r.senderReport now).toBytes Reporter.countSr).run r := rfl

theorem sendRtcpRr_run {r r₁ : Reporter} (h : r₁.sender = r.sender) (jitterMs : ℚ≥0) :
    (Reporter.sendRtcpRr jitterMs).run r₁ =
      (Reporter.sendReport (r.receiverReport jitterMs).toBytes Reporter.countRr).run r₁ := by
  unfold Reporter.sendRtcpRr
  rw [Py.run_get_bind, receiverReport_congr h]

theorem numbersFit_of_run {now jitterMs : ℚ≥0} {r r₁ r₂ : Reporter}
    (hsr : (Reporter.sendRtcpSr now).run r = (.ok (), r₁)) (hrr : (Reporter.sendRtcpRr jitterMs).run r₁ = (.ok (), r₂))
    (htransport : r.rtcpTransport = true) : NumbersFit now jitterMs r.sender.session := by
  rw [sendRtcpSr_run] at hsr
  obtain ⟨raw, hraw, hr₁⟩ := sendReport_written _ htransport hsr
  have hsame : r₁.sender = r.sender ∧ r₁.rtcpTransport = true := by
    rw [hr₁]
    exact ⟨rfl, htransport⟩
  rw [sendRtcpRr_run hsame.1] at hrr
  obtain ⟨raw', hraw', -⟩ := sendReport_written _ hsame.2 hrr
  obtain ⟨hssrc, hseconds, hpackets, hoctets⟩ :=
    (senderReport_fits now r).mp (RTCPSenderReport.toBytes_eq_ok_iff.mp hraw).1
  obtain ⟨-, hreceived, hjitter⟩ :=
    (receiverReport_fits jitterMs r).mp (RTCPReceiverReport.toBytes_eq_ok_iff.mp hraw').1
  exact ⟨hssrc, hseconds, hpackets, hoctets, hreceived, hjitter⟩

/-- **One round.**  Both reports are written exactly if there is no transport, or the numbers fit. -/
theorem reportsWell_iff (now jitterMs : ℚ≥0) (r : Reporter) :
    ReportsWell now jitterMs r ↔ (r.rtcpTransport = true → NumbersFit now jitterMs r.sender.session) := by
  cases htransport : r.rtcpTransport with
  | false =>
      refine iff_of_true ⟨r.countSr, r.countSr.countRr, ?_, ?_, fun h => ?_⟩ nofun
      · rw [sendRtcpSr_run]
        exact sendReport_closed _ _ htransport
      · rw [@sendRtcpRr_run r r.countSr rfl]
        exact sendReport_closed _ _ htransport
      · exact absurd (htransport.symm.trans h) Bool.false_ne_true
  | true =>
      rw [imp_iff_right rfl]
      constructor
      · rintro ⟨r₁, r₂, hsr, hrr, -⟩
        exact numbersFit_of_run hsr hrr htransport
      · rintro ⟨hssrc, hseconds, hpackets, hoctets, hreceived, hjitter⟩
        have hsr := (senderReport_fits now r).mpr ⟨hssrc, hseconds, hpackets, hoctets⟩
        have hrr := (receiverReport_fits jitterMs r).mpr ⟨hssrc, hreceived, hjitter⟩
        obtain ⟨raw, hraw, hread⟩ := bind_eq_ok (RTCPSenderReport.fromBytes_toBytes hsr)
        obtain ⟨raw', hraw', hread'⟩ := bind_eq_ok (RTCPReceiverReport.fromBytes_toBytes hrr)
        obtain ⟨r₁, hr₁⟩ : ∃ r₁, r₁ = Reporter.countSr { r with rtcpSent := r.rtcpSent ++ [raw] } := ⟨_, rfl⟩
        have hsame : r₁.sender = r.sender ∧ r₁.rtcpTransport = true ∧ r₁.rtcpSent = r.rtcpSent ++ [raw] := by
          rw [hr₁]
          exact ⟨rfl, htransport, rfl⟩
        refine ⟨r₁, Reporter.countRr { r₁ with rtcpSent := r₁.rtcpSent ++ [raw'] }, ?_, ?_, fun _ =>
          ⟨raw, raw', _, _, ?_, hread, hread', ?_, ?_, ?_⟩⟩
        · rw [sendRtcpSr_run, hraw, sendReport_ok _ raw htransport, hr₁]
        · rw [sendRtcpRr_run hsame.1, hraw', sendReport_ok _ raw' hsame.2.1]
        · show r₁.rtcpSent ++ [raw'] = _
          rw [hsame.2.2, List.append_assoc]
          rfl
        · exact (Nat.mod_eq_of_lt hpackets).symm
        · exact (Nat.mod_eq_of_lt hoctets).symm
        · exact (Nat.mod_eq_of_lt hseconds).symm

/-! ### The loop -/

/-- What happens to a session that was started. -/
inductive ReporterEvent
  /-- A method is called. -/
  | call (a : MediaAction)
  /-- A datagram is received. -/
  | receive (data : Bytes)
  /-- A frame is taken out of the jitter buffer. -/
  | play
  /-- The session ends, and its task with it. -/
  | stop
  /-- The task wakes up, at a time and with an estimate of the jitter. -/
  | report (now jitterMs : ℚ≥0)

/-- The step of an event. -/
def reporterStep (sine : Sine) (r : Reporter) : ReporterEvent → Option Reporter
  | .call a => some { r with sender := ((a.run sine).run r.sender).2 }
  | .receive data => some { r with sender := ((Sender.onRtpReceived data).run r.sender).2 }
  | .play =>
      some { r with
        sender :=
          { r.sender with
            session := { r.sender.session with jitterBuffer := r.sender.session.jitterBuffer.get.2 } } }
  | .stop => some { r with sender := r.sender.setActive false, loop := false }
  | .report now jitterMs => some (r.wake now jitterMs)

/-- While the session is active, its task is there. -/
def Reporter.Alive (r : Reporter) : Prop := r.sender.session.active = true → r.loop = true

/-- The task is there after the event, and a report of an active session is written. -/
def ReportsAlong (sine : Sine) (r : Reporter) (e : ReporterEvent) : Prop :=
  (∀ r', reporterStep sine r e = some r' → r'.Alive) ∧
    ∀ now jitterMs, e = .report now jitterMs → r.sender.session.active = true → ReportsWell now jitterMs r

/-- At a report of an active session with a transport the numbers fit. -/
def FitsAlong (r : Reporter) (e : ReporterEvent) : Prop :=
  ∀ now jitterMs, e = .report now jitterMs → r.sender.session.active = true → r.rtcpTransport = true →
    NumbersFit now jitterMs r.sender.session

theorem action_active (sine : Sine) (a : MediaAction) (w : Sender) :
    ((a.run sine).run w).2.session.active = w.session.active := by
  have hframe : ∀ (m : MediaSession) (data : Bytes) (marker : Bool),
      ((MediaSession.sendFrame data marker).run m).2.active = m.active := by
    intro m data marker
    by_cases hopen : m.active = true ∧ m.held = false
    · obtain ⟨raw, -, hrun⟩ := sendFrame_open hopen.1 hopen.2 data marker
      rw [hrun]
      rfl
    · rw [sendFrame_closed hopen]
  cases a with
  | frame data marker => exact hframe w.session data marker
  | amrFrame mode silence =>
      obtain ⟨payload, hpayload⟩ := (w.nextFrame sine mode silence).1.toRtpPayload_ok
      show ((Sender.sendAmrFrame sine mode silence).run w).2.session.active = _
      rw [sendAmrFrame_run sine hpayload, Sender.onSession, Py.run_zoom]
      exact hframe w.session payload _
  | dtmf digit durationMs =>
      show ((MediaSession.sendDtmf digit durationMs).run w.session).2.active = _
      by_cases hdigit : IsDtmfDigit digit
      · obtain ⟨raws, r, hrun, -, -⟩ := sendEvents_run
          (fun e he => ⟨(dtmfPlan_fields hdigit (durationMs * w.session.clockRate / 1000) e he).1,
            (dtmfPlan_fields hdigit (durationMs * w.session.clockRate / 1000) e he).2.1⟩) w.session
        rw [sendDtmf_run hdigit, hrun]
        rfl
      · unfold MediaSession.sendDtmf
        rw [Py.run_get_bind, if_pos hdigit]
        rfl
  | hold =>
      show w.session.hold.active = _
      unfold MediaSession.hold
      split
      · rfl
      · rfl
  | resume =>
      show w.session.resume.active = _
      unfold MediaSession.resume
      split
      · rfl
      · rfl

theorem onRtpReceived_active (data : Bytes) (w : Sender) :
    ((Sender.onRtpReceived data).run w).2.session.active = w.session.active := by
  unfold Sender.onRtpReceived
  cases RTPPacket.fromBytes data with
  | error e => rfl
  | ok packet =>
      dsimp only
      by_cases hevent : packet.payloadType = ptTelephoneEvent
      · rw [if_pos hevent]
        cases DTMFEvent.fromRtpPayload packet.payload with
        | error e => rfl
        | ok event =>
            dsimp only
            rw [Sender.onSession, Py.run_bind, Py.run_zoom]
            dsimp only [Py.run_modify]
            rw [Py.run_get_bind]
            split
            · rfl
            · rfl
      · rw [if_neg hevent]
        rfl

theorem sendReport_keeps {count : Reporter → Reporter}
    (hcount : ∀ r, (count r).sender = r.sender ∧ (count r).loop = r.loop) (report : Except PyError Bytes)
    (r : Reporter) : ((Reporter.sendReport report count).run r).2.sender = r.sender ∧
      ((Reporter.sendReport report count).run r).2.loop = r.loop := by
  cases htransport : r.rtcpTransport with
  | false =>
      rw [sendReport_closed count report htransport]
      exact hcount r
  | true =>
      cases report with
      | error e =>
          rw [sendReport_error count e htransport]
          exact ⟨rfl, rfl⟩
      | ok raw =>
          rw [sendReport_ok count raw htransport]
          exact hcount _

theorem sendRtcpSr_keeps (now : ℚ≥0) (r : Reporter) :
    ((Reporter.sendRtcpSr now).run r).2.sender = r.sender ∧ ((Reporter.sendRtcpSr now).run r).2.loop = r.loop := by
  rw [sendRtcpSr_run]
  apply sendReport_keeps
  exact fun _ => ⟨rfl, rfl⟩

theorem sendRtcpRr_keeps (jitterMs : ℚ≥0) (r : Reporter) :
    ((Reporter.sendRtcpRr jitterMs).run r).2.sender = r.sender ∧
      ((Reporter.sendRtcpRr jitterMs).run r).2.loop = r.loop := by
  rw [@sendRtcpRr_run r r rfl]
  apply sendReport_keeps
  exact fun _ => ⟨rfl, rfl⟩

/-- The task wakes up in an active session: it goes on exactly if both reports are written. -/
theorem wake_loop_iff {now jitterMs : ℚ≥0} {r : Reporter} (hactive : r.sender.session.active = true)
    (hloop : r.loop = true) : (r.wake now jitterMs).loop = true ↔ ReportsWell now jitterMs r := by
  have hround : (Reporter.round now jitterMs).run r =
      (do Reporter.sendRtcpSr now; Reporter.sendRtcpRr jitterMs : Py Reporter Unit).run r := by
    unfold Reporter.round
    rw [Py.run_get_bind, hactive]
    rfl
  rw [Reporter.wake, if_pos hloop, hround]
  have hkeeps := sendRtcpSr_keeps now r
  rcases hsr : (Reporter.sendRtcpSr now).run r with ⟨e | ⟨⟩, r₁⟩
  · rw [Py.run_bind_error hsr]
    refine iff_of_false Bool.false_ne_true ?_
    rintro ⟨r₁', r₂, hsr', -⟩
    cases hsr.symm.trans hsr'
  · rw [hsr] at hkeeps
    have hkeeps' := (sendRtcpRr_keeps jitterMs r₁).2
    rw [Py.run_bind_ok hsr]
    rcases hrr : (Reporter.sendRtcpRr jitterMs).run r₁ with ⟨e | ⟨⟩, r₂⟩
    · refine iff_of_false Bool.false_ne_true ?_
      rintro ⟨r₁', r₂', hsr', hrr', -⟩
      obtain rfl : r₁ = r₁' := congrArg Prod.snd (hsr.symm.trans hsr')
      cases hrr.symm.trans hrr'
    · rw [hrr] at hkeeps'
      refine iff_of_true ?_ ((reportsWell_iff now jitterMs r).mpr (numbersFit_of_run hsr hrr))
      exact hkeeps'.trans (hkeeps.2.trans hloop)

theorem wake_sender (now jitterMs : ℚ≥0) (r : Reporter) : (r.wake now jitterMs).sender = r.sender := by
  have hround : ((Reporter.round now jitterMs).run r).2.sender = r.sender := by
    unfold Reporter.round
    rw [Py.run_get_bind]
    split
    · rfl
    · have hsr := sendRtcpSr_keeps now r
      rcases hrun : (Reporter.sendRtcpSr now).run r with ⟨e | ⟨⟩, r₁⟩
      · rw [hrun] at hsr
        rw [Py.run_bind_error hrun]
        exact hsr.1
      · rw [hrun] at hsr
        rw [Py.run_bind_ok hrun]
        exact (sendRtcpRr_keeps jitterMs r₁).1.trans hsr.1
  unfold Reporter.wake
  split
  · rcases hrun : (Reporter.round now jitterMs).run r with ⟨e | ⟨⟩, r'⟩
    · rw [hrun] at hround
      exact hround
    · rw [hrun] at hround
      exact hround
  · rfl

/-- **One event.** -/
theorem reportsAlong_iff (sine : Sine) {r : Reporter} (h : r.Alive) (e : ReporterEvent) :
    ReportsAlong sine r e ↔ FitsAlong r e := by
  have hother : ∀ r', reporterStep sine r e = some r' → r'.sender.session.active = r.sender.session.active →
      r'.loop = r.loop → (∀ now jitterMs, e ≠ .report now jitterMs) → (ReportsAlong sine r e ↔ FitsAlong r e) := by
    intro r' hstep hactive hloop hno
    refine iff_of_true ⟨?_, fun now jitterMs he => absurd he (hno now jitterMs)⟩
      fun now jitterMs he => absurd he (hno now jitterMs)
    rintro r'' hr''
    obtain rfl : r' = r'' := Option.some.inj (hstep.symm.trans hr'')
    rw [Reporter.Alive, hactive, hloop]
    exact h
  cases e with
  | call a => exact hother _ rfl (action_active sine a r.sender) rfl nofun
  | receive data => exact hother _ rfl (onRtpReceived_active data r.sender) rfl nofun
  | play => exact hother _ rfl rfl rfl nofun
  | stop =>
      refine iff_of_true ⟨?_, nofun⟩ nofun
      rintro r' ⟨⟩ hactive
      exact absurd hactive Bool.false_ne_true
  | report now jitterMs =>
      constructor
      · rintro ⟨-, hwell⟩ now' jitterMs' he hactive
        exact (reportsWell_iff now' jitterMs' r).mp (hwell now' jitterMs' he hactive)
      · intro hfits
        have hwell : r.sender.session.active = true → ReportsWell now jitterMs r := fun hactive =>
          (reportsWell_iff now jitterMs r).mpr (hfits now jitterMs rfl hactive)
        refine ⟨?_, ?_⟩
        · rintro r' ⟨⟩ hactive
          rw [wake_sender] at hactive
          exact (wake_loop_iff hactive (h hactive)).mpr (hwell hactive)
        · rintro now' jitterMs' ⟨⟩
          exact hwell

/-- **RTCP for as long as the session.**  In every history of a session whose task is there, the task is there
for as long as the session is active, and every report of it is written, exactly if at every report of the
active session there is no RTCP transport, or the SSRC, the seconds since 1900, the packets and octets
sent, the packets received and the jitter have 32 bits. -/
theorem reporting_iff (sine : Sine) {r : Reporter} (h : r.Alive) (es : List ReporterEvent) :
    Along (reporterStep sine) (ReportsAlong sine) r es ↔ Along (reporterStep sine) FitsAlong r es :=
  along_congr_of_keeps (reporterStep sine) (fun _ e hr => reportsAlong_iff sine hr e)
    (fun _ _ r' _ hreports hstep => hreports.1 r' hstep) h es

/-- A session that was started, with its task. -/
def startedReporter (sender : Sender) (rtcpTransport : Bool) : Reporter where
  sender := sender
  rtcpTransport := rtcpTransport
  loop := true

/-- A report in July 2025. -/
theorem reporting_iff_2025 :
    let sine : Sine := fun _ _ _ => 0
    let r := startedReporter (startedSender 1 "AMR-WB".toList 96 true {}) true
    Along (reporterStep sine) (ReportsAlong sine) r [.report 1751630400 0] := by
  intro sine r
  refine (reporting_iff sine (fun _ => rfl) _).mpr ⟨?_, fun _ _ => trivial⟩
  rintro now jitterMs ⟨⟩ - -
  refine ⟨by decide, ?_, by decide, by decide, by decide, ?_⟩
  · show ⌊(1751630400 : ℚ≥0)⌋₊ + 2208988800 < 2 ^ 32
    rw [Nat.floor_ofNat]
    decide
  · rw [zero_mul, zero_div, Nat.floor_zero]
    decide

/-- At half past six on 7 February 2036 the seconds since 1900 need a bit more: the first report is
refused, and the session goes on without its task. -/
theorem report_in_2036 :
    let sine : Sine := fun _ _ _ => 0
    let r := startedReporter (startedSender 1 "AMR-WB".toList 96 true {}) true
    let r' := r.wake 2085978600 0
    r'.sender.session.active = true ∧ r'.loop = false ∧
      ¬Along (reporterStep sine) (ReportsAlong sine) r [.report 2085978600 0] := by
  intro sine r r'
  have hlarge : ¬ReportsWell 2085978600 0 r := by
    rw [reportsWell_iff]
    intro hfits
    have hseconds : ⌊(2085978600 : ℚ≥0)⌋₊ + 2208988800 < 2 ^ 32 := (hfits rfl).seconds
    rw [Nat.floor_ofNat] at hseconds
    revert hseconds
    decide
  have hactive : r'.sender.session.active = true := by
    rw [show r'.sender = r.sender from wake_sender _ _ _]
    rfl
  refine ⟨hactive, ?_, fun h => hlarge (h.1.2 _ _ rfl rfl)⟩
  exact Bool.eq_false_iff.mpr fun hloop => hlarge ((wake_loop_iff rfl rfl).mp hloop)

end Rtp

end VirtualPhone
