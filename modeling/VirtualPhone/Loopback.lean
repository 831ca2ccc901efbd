import VirtualPhone.DtmfDelivery
import VirtualPhone.MediaFormats
import VirtualPhone.RtpHold

/-! # The loopback audio source (`ims/media.py`, `ims/codec.py`)

A session with a LOOPBACK source keeps the last fifty payloads it received, and sends them back one by one.
What it keeps is the payload as it came, with the two octets of its codec header; what it sends back is
that again as the data of a frame, behind a header of its own.  So what comes back is two octets longer
than what was received, and is what was received only by chance (`echoes_iff`). -/

namespace VirtualPhone

open Runtime

namespace Rtp

/-! ### Receiving -/

/-- `feed_loopback(payload)`. -/
def VirtualAudioSource.feedLoopback (payload : Bytes) (source : VirtualAudioSource) : VirtualAudioSource :=
  if source.sourceType = .loopback then
    { source with loopbackBuffer := dequeAppend 50 source.loopbackBuffer payload }
  else source

/-- `_on_rtp_received(data, addr)`, with the audio source. -/
def Sender.onRtpReceived (data : Bytes) : Py Sender Unit := do
  match RTPPacket.fromBytes data with
  | .error _ => return ()
  | .ok packet => do
      Sender.onSession (Py.modify fun m =>
        { m with packetsReceived := m.packetsReceived + 1, bytesReceived := m.bytesReceived + data.length })
      if packet.payloadType = ptTelephoneEvent then
        match DTMFEvent.fromRtpPayload packet.payload with
        | .error _ => return ()
        | .ok event => do
            let w ← Py.get
            if event.isEnd && w.session.onDtmf then
              Sender.onSession (Py.modify fun m => { m with digits := m.digits ++ [event.digit] })
            else return ()
      else do
        Py.modify fun w => { w with source := w.source.feedLoopback packet.payload }
        Sender.onSession (Py.zoom MediaSession.jitterBuffer (fun b m => { m with jitterBuffer := b })
          (JitterBuffer.put (MediaSession.buffered packet)))

theorem onRtpReceived_session (data : Bytes) (w : Sender) :
    (MediaSession.onRtpReceived data).run w.session =
      (((Sender.onRtpReceived data).run w).1, ((Sender.onRtpReceived data).run w).2.session) := by
  unfold MediaSession.onRtpReceived Sender.onRtpReceived
  cases RTPPacket.fromBytes data with
  | error e => rfl
  | ok packet =>
      dsimp only
      by_cases hevent : packet.payloadType = ptTelephoneEvent
      · rw [if_pos hevent, if_pos hevent]
        cases DTMFEvent.fromRtpPayload packet.payload with
        | error e => rfl
        | ok event =>
            cases hdigit : event.isEnd && w.session.onDtmf
            · simp only [Sender.onSession, Py.run_bind, Py.run_zoom, Py.run_modify, Py.run_get, hdigit]
              rfl
            · simp only [Sender.onSession, Py.run_bind, Py.run_zoom, Py.run_modify, Py.run_get, hdigit]
              rfl
      · rw [if_neg hevent, if_neg hevent]
        rfl

/-- The payload of a datagram. -/
def payloadOf (data : Bytes) : Option Bytes := (RTPPacket.fromBytes data).toOption.map RTPPacket.payload

/-- The payload of a datagram that is no telephone event. -/
def audioPayload (data : Bytes) : Option Bytes :=
  match RTPPacket.fromBytes data with
  | .error _ => none
  | .ok packet => if packet.payloadType = ptTelephoneEvent then none else some packet.payload

namespace Sender

/-- The sender after the datagrams. -/
def receiving (w : Sender) : List Bytes → Sender
  | [] => w
  | data :: rest => receiving ((onRtpReceived data).run w).2 rest

/-- The sender after frames of its audio source, of these modes. -/
def echoing (sine : Sine) (w : Sender) : List ℤ → Sender
  | [] => w
  | mode :: modes => echoing sine ((sendAmrFrame sine mode false).run w).2 modes

end Sender

/-- What was received is what is sent back: as many frames of the audio source as datagrams came, and the
payloads of theirs in order. -/
def Echoes (sine : Sine) (w : Sender) (datagrams : List Bytes) (payloads : List Bytes) (modes : List ℤ) : Prop :=
  ∃ raws, ((w.receiving datagrams).echoing sine modes).session.sent = w.session.sent ++ raws ∧
    raws.map payloadOf = payloads.map some

/-! ### The queue -/

/-- The last `n` elements. -/
def lastOf {α : Type} (n : ℕ) (l : List α) : List α := l.drop (l.length - n)

section

variable {α : Type} {n : ℕ}

theorem dequeAppend_eq (q : List α) (x : α) : dequeAppend n q x = lastOf n (q ++ [x]) := by
  rw [dequeAppend, lastOf, List.length_append, List.length_singleton]

theorem lastOf_length (l : List α) : (lastOf n l).length = min n l.length := by
  rw [lastOf, List.length_drop]
  omega

theorem lastOf_append (l l' : List α) : lastOf n (lastOf n l ++ l') = lastOf n (l ++ l') := by
  rw [lastOf, lastOf, lastOf, ← List.drop_append_of_le_length (Nat.sub_le _ _), List.drop_drop,
    List.length_drop, List.length_append]
  congr 1
  omega

/-- A bounded queue keeps the last elements; the induction is on what is appended. -/
theorem foldl_dequeAppend {q xs : List α} (hxs : xs ≠ []) : xs.foldl (dequeAppend n) q = lastOf n (q ++ xs) := by
  induction xs generalizing q with
  | nil => exact absurd rfl hxs
  | cons x xs ih =>
      rw [List.foldl_cons, dequeAppend_eq]
      cases xs with
      | nil => rfl
      | cons y xs =>
          rw [ih (List.cons_ne_nil _ _), lastOf_append, List.append_assoc]
          rfl

end

/-- Over a run of datagrams the session is the one that receives them without an audio source. -/
theorem receiving_session (datagrams : List Bytes) (w : Sender) :
    (w.receiving datagrams).session = w.session.receiving datagrams := by
  induction datagrams generalizing w with
  | nil => rfl
  | cons data datagrams ih =>
      rw [Sender.receiving, MediaSession.receiving, ih, onRtpReceived_session]

/-- The side of a session that sends is as it was. -/
structure MediaSession.SameOut (m m' : MediaSession) : Prop where
  sent : m'.sent = m.sent
  transport : m'.transport = m.transport
  active : m'.active = m.active
  held : m'.held = m.held

theorem onRtpReceived_audio {data payload : Bytes} (h : audioPayload data = some payload) (w : Sender) :
    w.session.SameOut ((Sender.onRtpReceived data).run w).2.session ∧
      ((Sender.onRtpReceived data).run w).2.source = w.source.feedLoopback payload := by
  unfold audioPayload at h
  unfold Sender.onRtpReceived
  cases hpacket : RTPPacket.fromBytes data with
  | error e => rw [hpacket] at h; cases h
  | ok packet =>
      rw [hpacket] at h
      dsimp only at h ⊢
      split_ifs at h with hevent
      obtain rfl := Option.some.inj h
      rw [if_neg hevent]
      exact ⟨⟨rfl, rfl, rfl, rfl⟩, rfl⟩

theorem receiving_audio {w : Sender} (hsource : w.source.sourceType = .loopback) {datagrams payloads : List Bytes}
    (h : datagrams.map audioPayload = payloads.map some) :
    w.session.SameOut (w.receiving datagrams).session ∧
      (w.receiving datagrams).source =
        { w.source with loopbackBuffer := payloads.foldl (dequeAppend 50) w.source.loopbackBuffer } := by
  induction datagrams generalizing w payloads with
  | nil =>
      obtain rfl : payloads = [] := List.map_eq_nil_iff.mp h.symm
      exact ⟨⟨rfl, rfl, rfl, rfl⟩, rfl⟩
  | cons data datagrams ih =>
      cases payloads with
      | nil => cases h
      | cons payload payloads =>
          obtain ⟨hdata, hrest⟩ := List.cons_eq_cons.mp h
          obtain ⟨hout, hfed⟩ := onRtpReceived_audio hdata w
          rw [VirtualAudioSource.feedLoopback, if_pos hsource] at hfed
          obtain ⟨hout', hfed'⟩ := @ih ((Sender.onRtpReceived data).run w).2 (by rw [hfed]; exact hsource)
            payloads hrest
          refine ⟨⟨hout'.sent.trans hout.sent, hout'.transport.trans hout.transport,
            hout'.active.trans hout.active, hout'.held.trans hout.held⟩, ?_⟩
          rw [Sender.receiving, hfed', hfed, List.foldl_cons]

/-! ### Sending back -/

/-- The two octets in front of the data of a frame that is sent back. -/
def echoHeader (mode : ℤ) : Bytes := AMRFrame.payloadHeader { mode := mode }

theorem nextFrame_loopback (sine : Sine) {w : Sender} (hsource : w.source.sourceType = .loopback) {data : Bytes}
    {queue : List Bytes} (hqueue : w.source.loopbackBuffer = data :: queue) (mode : ℤ) :
    (w.nextFrame sine mode false).1.toRtpPayload = .ok (echoHeader mode ++ data) ∧
      (w.nextFrame sine mode false).2 =
        { w.source with frameCount := w.source.frameCount + 1, loopbackBuffer := queue } := by
  have hnext : w.nextFrame sine mode false =
      ({ mode := mode, data := data, isWideband := w.codec.map Char.toUpper ∈ ["AMR-WB".toList, "AMRWB".toList] },
        { w.source with frameCount := w.source.frameCount + 1, loopbackBuffer := queue }) := by
    rw [Sender.nextFrame, if_neg Bool.false_ne_true, VirtualAudioSource.generateFrame]
    simp only [hsource, hqueue]
  rw [hnext]
  exact ⟨AMRFrame.toRtpPayload_eq _, rfl⟩

/-- What an open session with a transport sends back: each payload of the queue behind a header.  The
induction is on the frames. -/
theorem echoing_sent (sine : Sine) {w : Sender} (hsource : w.source.sourceType = .loopback) (hopen : w.Open)
    (htransport : w.session.transport = true) {modes : List ℤ} (hmodes : modes.length ≤ w.source.loopbackBuffer.length) :
    ∃ raws, (w.echoing sine modes).session.sent = w.session.sent ++ raws ∧
      raws.map payloadOf =
        (List.zipWith (fun mode data => echoHeader mode ++ data) modes w.source.loopbackBuffer).map some := by
  induction modes generalizing w with
  | nil => exact ⟨[], (List.append_nil _).symm, rfl⟩
  | cons mode modes ih =>
      obtain ⟨data, queue, hqueue⟩ : ∃ data queue, w.source.loopbackBuffer = data :: queue :=
        List.exists_cons_of_length_pos (Nat.lt_of_lt_of_le (Nat.zero_lt_succ _) hmodes)
      obtain ⟨hpayload, hnext⟩ := nextFrame_loopback sine hsource hqueue mode
      obtain ⟨raw, hread, hrun⟩ := sendFrame_open hopen.1 hopen.2 (echoHeader mode ++ data) (w.session.seq = 0)
      have hraw : payloadOf raw = some (echoHeader mode ++ data) := by
        rw [payloadOf, hread]
        rfl
      obtain ⟨w', hw'⟩ : ∃ w', w' = ((Sender.sendAmrFrame sine mode false).run w).2 := ⟨_, rfl⟩
      have hstep : w' = { w with
          source := { w.source with frameCount := w.source.frameCount + 1, loopbackBuffer := queue }
          session := MediaSession.emit raw
            { w.session with seq := w.session.seq + 1, timestamp := w.session.timestamp + w.session.samplesPerFrame } } := by
        rw [hw', sendAmrFrame_run sine hpayload, hnext, Sender.onSession, Py.run_zoom, hrun]
      have hsent : w'.session.sent = w.session.sent ++ [raw] := by
        rw [hstep]
        exact if_pos htransport
      obtain ⟨raws, hraws, hpayloads⟩ := @ih w' (by rw [hstep]; exact hsource) (by rw [hstep]; exact hopen)
        (by rw [hstep]; exact htransport) (by
          rw [hstep]
          rw [hqueue] at hmodes
          exact Nat.le_of_succ_le_succ hmodes)
      refine ⟨raw :: raws, ?_, ?_⟩
      · rw [Sender.echoing, ← hw', hraws, hsent, List.append_assoc]
        rfl
      · rw [List.map_cons, hraw, hpayloads, hqueue, List.zipWith_cons_cons, List.map_cons, hstep]

theorem echoing_closed (sine : Sine) {w : Sender} (h : ¬(w.session.transport = true ∧ w.Open)) (modes : List ℤ) :
    (w.echoing sine modes).session.sent = w.session.sent := by
  induction modes generalizing w with
  | nil => rfl
  | cons mode modes ih =>
      obtain ⟨payload, hpayload⟩ := (w.nextFrame sine mode false).1.toRtpPayload_ok
      have hrun := sendAmrFrame_run sine hpayload
      rw [Sender.onSession, Py.run_zoom] at hrun
      by_cases hopen : w.Open
      · have htransport : w.session.transport = false :=
          Bool.eq_false_iff.mpr fun htransport => h ⟨htransport, hopen⟩
        obtain ⟨raw, -, hsend⟩ := sendFrame_open hopen.1 hopen.2 payload (w.session.seq = 0)
        rw [hsend] at hrun
        have hsent : ∀ m : MediaSession, m.transport = false → (MediaSession.emit raw m).sent = m.sent := by
          intro m hm
          rw [MediaSession.emit, hm]
          rfl
        rw [Sender.echoing, hrun, ih]
        · exact hsent _ htransport
        · exact fun hw => Bool.false_ne_true (htransport.symm.trans hw.1)
      · rw [sendFrame_closed hopen] at hrun
        rw [Sender.echoing, hrun, ih]
        exact fun hw => hopen hw.2

/-- What is sent back is what was received if it is sent at all, and behind the headers by chance. -/
theorem echoes_iff_queue (sine : Sine) {w : Sender} (hsource : w.source.sourceType = .loopback)
    {datagrams payloads : List Bytes} (hreceived : datagrams.map audioPayload = payloads.map some)
    (hcount : payloads.length ≤ 50) {modes : List ℤ} (hmodes : modes.length = payloads.length) :
    Echoes sine w datagrams payloads modes ↔
      payloads = [] ∨ (w.session.transport = true ∧ w.Open ∧
        payloads = List.zipWith (fun mode data => echoHeader mode ++ data) modes
          (lastOf 50 (w.source.loopbackBuffer ++ payloads))) := by
  obtain ⟨hout, hfed⟩ := receiving_audio hsource hreceived
  have hsame : (w.receiving datagrams).session.transport = true ∧ (w.receiving datagrams).Open ↔
      w.session.transport = true ∧ w.Open := by
    rw [Sender.Open, hout.transport, hout.active, hout.held, Sender.Open]
  by_cases hnone : payloads = []
  · obtain rfl : modes = [] := List.length_eq_zero_iff.mp (by rw [hmodes, hnone]; rfl)
    refine iff_of_true ⟨[], ?_, ?_⟩ (Or.inl hnone)
    · rw [List.append_nil]
      exact hout.sent
    · rw [hnone]
      rfl
  · rw [or_iff_right hnone]
    have hqueue : (w.receiving datagrams).source.loopbackBuffer =
        lastOf 50 (w.source.loopbackBuffer ++ payloads) := by
      rw [hfed, foldl_dequeAppend hnone]
    by_cases hsends : (w.receiving datagrams).session.transport = true ∧ (w.receiving datagrams).Open
    · have hlength : modes.length ≤ (w.receiving datagrams).source.loopbackBuffer.length := by
        rw [hqueue, lastOf_length, List.length_append]
        omega
      obtain ⟨raws, hraws, hpayloads⟩ := echoing_sent sine (by rw [hfed]; exact hsource) hsends.2 hsends.1 hlength
      rw [hqueue] at hpayloads
      have hw := hsame.mp hsends
      constructor
      · rintro ⟨raws', hraws', hpayloads'⟩
        obtain rfl : raws = raws' := List.append_cancel_left (by rw [← hraws', hraws, hout.sent])
        rw [hpayloads'] at hpayloads
        exact ⟨hw.1, hw.2, List.map_injective_iff.mpr (Option.some_injective _) hpayloads⟩
      · rintro ⟨-, -, hheaders⟩
        refine ⟨raws, by rw [hraws, hout.sent], ?_⟩
        rw [hpayloads, ← hheaders]
    · have hclosed := echoing_closed sine hsends modes
      refine iff_of_false ?_ ?_
      · rintro ⟨raws, hraws, hpayloads⟩
        rw [hclosed, hout.sent] at hraws
        obtain rfl : raws = [] := List.append_cancel_left (hraws.symm.trans (List.append_nil _).symm)
        exact hnone (List.map_eq_nil_iff.mp hpayloads.symm)
      · rintro ⟨htransport, hopen, -⟩
        exact hsends (hsame.mpr ⟨htransport, hopen⟩)

theorem eq_nil_of_headers {modes : List ℤ} {payloads : List Bytes} (hmodes : modes.length = payloads.length)
    (h : payloads = List.zipWith (fun mode data => echoHeader mode ++ data) modes payloads) : payloads = [] := by
  cases payloads with
  | nil => rfl
  | cons payload payloads =>
      cases modes with
      | nil => cases hmodes
      | cons mode modes =>
          rw [List.zipWith_cons_cons] at h
          have hlength := congrArg List.length (List.cons_eq_cons.mp h).1
          rw [List.length_append, show (echoHeader mode).length = 2 from rfl] at hlength
          omega

/-- **What comes back.**  A session with a LOOPBACK source that received at most fifty audio packets and
then sends as many frames sends back what it received exactly if that is nothing, or if it sends at all
and each payload is the header of the frame and the payload in its place of the queue: the last fifty of
what was left there and what came.  If nothing was left there, that is never so.  Whatever it sends, it
has received the packets as a session without an audio source does. -/
theorem echoes_iff (sine : Sine) {w : Sender} (hsource : w.source.sourceType = .loopback)
    {datagrams payloads : List Bytes} (hreceived : datagrams.map audioPayload = payloads.map some)
    (hcount : payloads.length ≤ 50) {modes : List ℤ} (hmodes : modes.length = payloads.length) :
    (Echoes sine w datagrams payloads modes ↔
      payloads = [] ∨ (w.session.transport = true ∧ w.Open ∧
        payloads = List.zipWith (fun mode data => echoHeader mode ++ data) modes
          (lastOf 50 (w.source.loopbackBuffer ++ payloads)))) ∧
    (w.source.loopbackBuffer = [] → (Echoes sine w datagrams payloads modes ↔ payloads = [])) ∧
    (w.receiving datagrams).session = w.session.receiving datagrams := by
  have hiff := echoes_iff_queue sine hsource hreceived hcount hmodes
  refine ⟨hiff, fun hempty => ?_, receiving_session datagrams w⟩
  rw [hiff, or_iff_left_of_imp]
  rintro ⟨-, -, hheaders⟩
  rw [hempty, List.nil_append, show lastOf 50 payloads = payloads by
    rw [lastOf, Nat.sub_eq_zero_of_le hcount, List.drop_zero]] at hheaders
  exact eq_nil_of_headers hmodes hheaders

/-- A frame of an AMR-WB sender, with the time stamp 0 and the SSRC 1. -/
def receivedFrame : Bytes := [0x80, 96, 0, 1, 0, 0, 0, 0, 0, 0, 0, 1, 0xF0, 0x44, 7, 8, 9]

/-- The frame comes back longer from an empty queue, and as it was from a queue that holds its data. -/
theorem echoes_iff_frame :
    let sine : Sine := fun _ _ _ => 0
    let w := startedSender 1 "AMR-WB".toList 96 true { sourceType := .loopback }
    let w' := startedSender 1 "AMR-WB".toList 96 true { sourceType := .loopback, loopbackBuffer := [[7, 8, 9]] }
    ¬Echoes sine w [receivedFrame] [[0xF0, 0x44, 7, 8, 9]] [8] ∧
      Echoes sine w' [receivedFrame] [[0xF0, 0x44, 7, 8, 9]] [8] ∧
      (w.receiving [receivedFrame]).session.packetsReceived = 1 := by
  intro sine w w'
  have hreceived : [receivedFrame].map audioPayload = [[0xF0, 0x44, 7, 8, 9]].map some := by decide +kernel
  have hempty := @echoes_iff sine w rfl [receivedFrame] [[0xF0, 0x44, 7, 8, 9]] hreceived (by decide) [8] rfl
  have hqueue := @echoes_iff sine w' rfl [receivedFrame] [[0xF0, 0x44, 7, 8, 9]] hreceived (by decide) [8] rfl
  refine ⟨?_, ?_, ?_⟩
  · rw [hempty.2.1 rfl]
    exact List.cons_ne_nil _ _
  · exact hqueue.1.mpr (Or.inr ⟨rfl, by decide, by decide +kernel⟩)
  · rw [hempty.2.2]
    decide +kernel

/-- A frame comes back with the octets F0 44 twice. -/
theorem echo_is_longer :
    let sine : Sine := fun _ _ _ => 0
    let w := startedSender 1 "AMR-WB".toList 96 true { sourceType := .loopback }
    audioPayload receivedFrame = some [0xF0, 0x44, 7, 8, 9] ∧
      ((w.receiving [receivedFrame]).echoing sine [8]).session.sent.map payloadOf =
        [some [0xF0, 0x44, 0xF0, 0x44, 7, 8, 9]] ∧
      ¬Echoes sine w [receivedFrame] [[0xF0, 0x44, 7, 8, 9]] [8] := by
  intro sine w
  have hsent : ((w.receiving [receivedFrame]).echoing sine [8]).session.sent.map payloadOf =
      [some [0xF0, 0x44, 0xF0, 0x44, 7, 8, 9]] := by decide +kernel
  refine ⟨by decide +kernel, hsent, ?_⟩
  rintro ⟨raws, hraws, hpayloads⟩
  rw [show w.session.sent = [] from rfl, List.nil_append] at hraws
  rw [hraws, hpayloads] at hsent
  revert hsent
  decide

end Rtp

end VirtualPhone
