import VirtualPhone.RtpSession

/-! # Digits from one phone to the other

The packets of one session given to another, none lost and in order.  The sender repeats the end of an
event, as RFC 4733 has it, and the receiver calls back at each repetition: it does not compare time
stamps, and the time stamp of the session does not move between two digits either. -/

namespace VirtualPhone

open Runtime

namespace Rtp

open Rtp.MediaSession

/-- A call on the sender, a digit with the default duration; `send_amr_frame` is a frame of the audio
source. -/
inductive MediaCall
  | dtmf (digit : Text)
  | frame (data : Bytes) (marker : Bool)
deriving DecidableEq

/-- The call. -/
def MediaCall.run : MediaCall → Py MediaSession Unit
  | .dtmf digit => sendDtmf digit 160
  | .frame data marker => sendFrame data marker

namespace MediaSession

/-- The sender after the calls. -/
def sending (m : MediaSession) : List MediaCall → MediaSession
  | [] => m
  | call :: calls => sending (call.run.run m).2 calls

/-- The receiver after the datagrams. -/
def receiving (m : MediaSession) : List Bytes → MediaSession
  | [] => m
  | data :: rest => receiving ((onRtpReceived data).run m).2 rest

end MediaSession

/-- The digits sent. -/
def digitsOf : List MediaCall → List Text
  | [] => []
  | .dtmf digit :: calls => if IsDtmfDigit digit then digit :: digitsOf calls else digitsOf calls
  | .frame _ _ :: calls => digitsOf calls

/-- An audio frame is not read as the end of an event: its payload type is another one, or the frame is
too short for an event or has no end bit. -/
def MediaCall.IsAudio (payloadType : ℤ) : MediaCall → Prop
  | .dtmf _ => True
  | .frame data _ => payloadType % 128 = ptTelephoneEvent →
      ∀ event, DTMFEvent.fromRtpPayload data = .ok event → event.isEnd = false

/-! ### What is heard of a packet -/

/-- The digits heard of a frame. -/
def heardFrame (payloadType : ℤ) (data : Bytes) : List Text :=
  if payloadType % 128 = ptTelephoneEvent then heardEvent data else []

theorem heardFrame_eq_nil_iff {payloadType : ℤ} {data : Bytes} {marker : Bool} :
    heardFrame payloadType data = [] ↔ (MediaCall.frame data marker).IsAudio payloadType := by
  simp only [heardFrame, MediaCall.IsAudio, heardEvent]
  by_cases hpt : payloadType % 128 = ptTelephoneEvent
  · rw [if_pos hpt, imp_iff_right hpt]
    cases DTMFEvent.fromRtpPayload data with
    | error e => exact iff_of_true rfl fun event h => by cases h
    | ok event =>
        dsimp only
        constructor
        · rintro hnil _ ⟨⟩
          exact Bool.eq_false_iff.mpr fun hend => by
            rw [if_pos hend] at hnil
            cases hnil
        · intro h
          rw [if_neg (by rw [h event rfl]; decide)]
  · rw [if_neg hpt]
    exact iff_of_true rfl fun h => absurd h hpt

/-- The packet of a session is plain, and heard by its payload type. -/
theorem heard_packet (m : MediaSession) (marker : Bool) (payloadType : ℤ) (payload : Bytes) :
    ∃ raw, (m.packet marker payloadType payload).toBytes = .ok raw ∧
      heard raw = heardFrame payloadType payload := by
  have hplain : (m.packet marker payloadType payload).Plain := ⟨rfl, rfl, rfl, rfl, Nat.zero_lt_succ _⟩
  refine ⟨_, hplain.toBytes, ?_⟩
  unfold heard
  rw [RTPPacket.fromBytes_image hplain]
  rfl

/-! ### Sending -/

/-- A session that sends what it is told to, and whose digits are short enough. -/
structure MediaSession.Ready (m : MediaSession) : Prop where
  transport : m.transport = true
  active : m.active = true
  held : m.held = false
  duration : 160 * m.clockRate / 1000 < 65536

/-- From one state of the sender to a later one, datagrams have gone out in which `ds` is heard. -/
structure MediaSession.Sends (m m' : MediaSession) (ds : List Text) : Prop where
  ready : m'.Ready
  payloadType : m'.payloadType = m.payloadType
  sent : ∃ raws, m'.sent = m.sent ++ raws ∧ raws.flatMap heard = ds

namespace MediaSession.Sends

variable {m m₁ m₂ : MediaSession} {ds ds₁ : List Text}

theorem refl (h : m.Ready) : m.Sends m [] := ⟨h, rfl, [], by rw [List.append_nil], rfl⟩

theorem trans (h : m.Sends m₁ ds) (h₁ : m₁.Sends m₂ ds₁) : m.Sends m₂ (ds ++ ds₁) := by
  obtain ⟨raws, hsent, hheard⟩ := h.sent
  obtain ⟨raws₁, hsent₁, hheard₁⟩ := h₁.sent
  refine ⟨h₁.ready, h₁.payloadType.trans h.payloadType, raws ++ raws₁, ?_, ?_⟩
  · rw [hsent₁, hsent, List.append_assoc]
  · rw [List.flatMap_append, hheard, hheard₁]

end MediaSession.Sends

theorem sends_emit {m m' : MediaSession} (h : m.Ready) {raw : Bytes} (htransport : m'.transport = m.transport)
    (hactive : m'.active = m.active) (hheld : m'.held = m.held) (hclock : m'.clockRate = m.clockRate)
    (hpt : m'.payloadType = m.payloadType) (hsent : m'.sent = m.sent) :
    m.Sends (emit raw m') (heard raw) where
  ready := ⟨htransport.trans h.transport, hactive.trans h.active, hheld.trans h.held, by
    rw [show (emit raw m').clockRate = m.clockRate from hclock]
    exact h.duration⟩
  payloadType := hpt
  sent := by
    refine ⟨[raw], ?_, by rw [List.flatMap_singleton]⟩
    rw [emit, htransport, h.transport, hsent]
    rfl

theorem sendFrame_sends {m : MediaSession} (h : m.Ready) (data : Bytes) (marker : Bool) :
    m.Sends ((sendFrame data marker).run m).2 (heardFrame m.payloadType data) := by
  obtain ⟨raw, hraw, hheard⟩ := heard_packet m marker m.payloadType data
  have hrun : ((sendFrame data marker).run m).2 =
      emit raw { m with seq := m.seq + 1, timestamp := m.timestamp + m.samplesPerFrame } := by
    unfold sendFrame
    rw [Py.run_get_bind, if_neg (by simp [h.active, h.held]), Py.run_modify_bind, hraw]
    rfl
  rw [hrun, ← hheard]
  exact sends_emit h rfl rfl rfl rfl rfl rfl

theorem sendDtmfPacket_sends {m : MediaSession} (h : m.Ready) {event : DTMFEvent}
    (hevent : event.event < 16) (hvolume : event.volume < 64) (hduration : event.duration < 65536)
    (marker : Bool) : ∃ m', (sendDtmfPacket event marker).run m = (.ok (), m') ∧
      m.Sends m' (if event.isEnd then [event.digit] else []) := by
  obtain ⟨payload, hpayload, hread⟩ := DTMFEvent.fromRtpPayload_toRtpPayload (e := event)
    (by omega) hvolume hduration
  obtain ⟨raw, hraw, hheard⟩ := heard_packet m marker ptTelephoneEvent payload
  refine ⟨emit raw { m with seq := m.seq + 1 }, ?_, ?_⟩
  · unfold sendDtmfPacket
    rw [Py.run_get_bind, hpayload, Py.run_lift_ok_bind, Py.run_modify_bind, hraw]
    rfl
  · have hdigits : heard raw = if event.isEnd then [event.digit] else [] := by
      rw [hheard, heardFrame, if_pos (by decide), heardEvent, hread]
    rw [← hdigits]
    exact sends_emit h rfl rfl rfl rfl rfl rfl

/-- **A digit is heard three times.** -/
theorem sendDtmf_sends {m : MediaSession} (h : m.Ready) {digit : Text} (hdigit : IsDtmfDigit digit) :
    m.Sends ((sendDtmf digit 160).run m).2 [digit, digit, digit] := by
  obtain ⟨hevent, hname⟩ := DTMFEvent.digit_fromDigit hdigit (160 * m.clockRate / 1000 / 3) false
  have hduration := h.duration
  have hstart : 160 * m.clockRate / 1000 / 3 < 65536 := by omega
  have hongoing : 160 * m.clockRate / 1000 * 2 / 3 < 65536 := by omega
  have hvolume : (10 : ℕ) < 64 := by decide
  unfold sendDtmf
  rw [Py.run_get_bind, if_neg (not_not.mpr hdigit)]
  obtain ⟨m₁, hrun₁, h₁⟩ := sendDtmfPacket_sends h hevent hvolume hstart true
  obtain ⟨m₂, hrun₂, h₂⟩ := @sendDtmfPacket_sends _ h₁.ready
    { DTMFEvent.fromDigit digit (160 * m.clockRate / 1000 / 3) false with
      duration := 160 * m.clockRate / 1000 * 2 / 3 } hevent hvolume hongoing false
  have hend : ∀ {m' : MediaSession}, m'.Ready → ∃ m'',
      (sendDtmfPacket { DTMFEvent.fromDigit digit (160 * m.clockRate / 1000 / 3) false with
        isEnd := true, duration := 160 * m.clockRate / 1000 } false).run m' = (.ok (), m'') ∧
        m'.Sends m'' [digit] := by
    intro m' h'
    obtain ⟨m'', hrun, hsends⟩ := @sendDtmfPacket_sends _ h'
      { DTMFEvent.fromDigit digit (160 * m.clockRate / 1000 / 3) false with
        isEnd := true, duration := 160 * m.clockRate / 1000 } hevent hvolume hduration false
    refine ⟨m'', hrun, ?_⟩
    rw [← hname]
    exact hsends
  obtain ⟨m₃, hrun₃, h₃⟩ := hend h₂.ready
  obtain ⟨m₄, hrun₄, h₄⟩ := hend h₃.ready
  obtain ⟨m₅, hrun₅, h₅⟩ := hend h₄.ready
  dsimp only
  rw [Py.run_bind_ok hrun₁, Py.run_bind_ok hrun₂, Py.run_bind_ok hrun₃, Py.run_bind_ok hrun₄, hrun₅]
  exact (((h₁.trans h₂).trans h₃).trans h₄).trans h₅

/-- What is heard of a call. -/
def heardCall (payloadType : ℤ) : MediaCall → List Text
  | .dtmf digit => if IsDtmfDigit digit then [digit, digit, digit] else []
  | .frame data _ => heardFrame payloadType data

theorem sending_sends {m : MediaSession} (h : m.Ready) (calls : List MediaCall) :
    m.Sends (m.sending calls) (calls.flatMap (heardCall m.payloadType)) := by
  induction calls generalizing m with
  | nil => exact .refl h
  | cons call calls ih =>
      have hcall : m.Sends (call.run.run m).2 (heardCall m.payloadType call) := by
        cases call with
        | frame data marker => exact sendFrame_sends h data marker
        | dtmf digit =>
            by_cases hdigit : IsDtmfDigit digit
            · rw [heardCall, if_pos hdigit]
              exact sendDtmf_sends h hdigit
            · rw [heardCall, if_neg hdigit, MediaCall.run, sendDtmf, Py.run_get_bind, if_pos hdigit]
              exact .refl h
      have hrest := ih hcall.ready
      rw [hcall.payloadType] at hrest
      exact hcall.trans hrest

/-! ### Receiving -/

theorem onRtpReceived_digits {m : MediaSession} (h : m.onDtmf = true) (data : Bytes) :
    ((onRtpReceived data).run m).2.onDtmf = true ∧
      ((onRtpReceived data).run m).2.digits = m.digits ++ heard data := by
  unfold onRtpReceived heard
  cases RTPPacket.fromBytes data with
  | error e => exact ⟨h, (List.append_nil _).symm⟩
  | ok packet =>
      dsimp only
      rw [Py.run_modify_bind]
      by_cases hpt : packet.payloadType = ptTelephoneEvent
      · rw [if_pos hpt, if_pos hpt, heardEvent]
        cases DTMFEvent.fromRtpPayload packet.payload with
        | error e => exact ⟨h, (List.append_nil _).symm⟩
        | ok event =>
            dsimp only
            rw [Py.run_get_bind, h, Bool.and_true]
            by_cases hend : event.isEnd = true
            · rw [if_pos hend, if_pos hend]
              exact ⟨rfl, rfl⟩
            · rw [if_neg hend, if_neg hend]
              exact ⟨rfl, (List.append_nil _).symm⟩
      · rw [if_neg hpt, if_neg hpt]
        exact ⟨h, (List.append_nil _).symm⟩

/-- The callback is called for what is heard in the datagrams, in order. -/
theorem receiving_digits {m : MediaSession} (h : m.onDtmf = true) (raws : List Bytes) :
    (m.receiving raws).digits = m.digits ++ raws.flatMap heard := by
  induction raws generalizing m with
  | nil => exact (List.append_nil _).symm
  | cons data raws ih =>
      obtain ⟨hcallback, hdigits⟩ := onRtpReceived_digits h data
      rw [receiving, ih hcallback, hdigits, List.flatMap_cons, List.append_assoc]

/-! ### The two counts -/

/-- What is heard of the frames. -/
def heardFrames (payloadType : ℤ) : List MediaCall → List Text
  | [] => []
  | .dtmf _ :: calls => heardFrames payloadType calls
  | .frame data _ :: calls => heardFrame payloadType data ++ heardFrames payloadType calls

theorem heardCall_length (payloadType : ℤ) (calls : List MediaCall) :
    (calls.flatMap (heardCall payloadType)).length =
      3 * (digitsOf calls).length + (heardFrames payloadType calls).length := by
  induction calls with
  | nil => rfl
  | cons call calls ih =>
      rw [List.flatMap_cons, List.length_append, ih]
      cases call with
      | frame data marker =>
          rw [heardCall, digitsOf, heardFrames, List.length_append]
          omega
      | dtmf digit =>
          rw [heardCall, digitsOf, heardFrames]
          split
          · simp only [List.length_cons, List.length_nil]
            omega
          · simp only [List.length_nil]
            omega

theorem heardFrames_eq_nil_iff {payloadType : ℤ} {calls : List MediaCall} :
    heardFrames payloadType calls = [] ↔ ∀ call ∈ calls, call.IsAudio payloadType := by
  induction calls with
  | nil => exact iff_of_true rfl fun call hcall => absurd hcall List.not_mem_nil
  | cons call calls ih =>
      rw [List.forall_mem_cons]
      cases call with
      | dtmf digit => exact ih.trans (and_iff_right trivial).symm
      | frame data marker =>
          rw [heardFrames, List.append_eq_nil_iff, ih, @heardFrame_eq_nil_iff _ _ marker]

/-! ### From end to end -/

/-- A session of a codec, started with an open transport. -/
def startedSession (ssrc : ℕ) (codec : Text) (payloadType : ℤ) : MediaSession :=
  start codec payloadType true { ssrc := ssrc }

theorem startedSession_ready (ssrc : ℕ) (codec : Text) (payloadType : ℤ) :
    (startedSession ssrc codec payloadType).Ready where
  transport := rfl
  active := rfl
  held := rfl
  duration := by
    show 160 * (getCodecInfo codec).1 / 1000 < 65536
    unfold getCodecInfo
    dsimp only
    split <;> decide

/-- **No digit arrives once.**  The callback of the receiver is called with the digits sent, each once,
exactly where no digit is sent, and no audio frame is taken for one. -/
theorem dtmf_once_iff (ssrc : ℕ) (codec : Text) (payloadType : ℤ) (calls : List MediaCall)
    (receiver : MediaSession) (hcallback : receiver.onDtmf = true) :
    (receiver.receiving ((startedSession ssrc codec payloadType).sending calls).sent).digits =
        receiver.digits ++ digitsOf calls ↔
      digitsOf calls = [] ∧
        ∀ call ∈ calls, call.IsAudio (startedSession ssrc codec payloadType).payloadType := by
  obtain ⟨raws, hsent, hheard⟩ := (sending_sends (startedSession_ready ssrc codec payloadType) calls).sent
  rw [receiving_digits hcallback, hsent, show (startedSession ssrc codec payloadType).sent = [] from rfl,
    List.nil_append, hheard, List.append_cancel_left_eq, ← heardFrames_eq_nil_iff]
  have hlength := heardCall_length (startedSession ssrc codec payloadType).payloadType calls
  constructor
  · intro h
    rw [h] at hlength
    exact ⟨List.length_eq_zero_iff.mp (by omega), List.length_eq_zero_iff.mp (by omega)⟩
  · rintro ⟨hdigits, hframes⟩
    rw [hdigits, hframes] at hlength
    rw [hdigits]
    exact List.length_eq_zero_iff.mp hlength

/-- A receiver with a callback. -/
def testReceiver : MediaSession := start "AMR-WB".toList 96 true { ssrc := 2, onDtmf := true }

/-- One audio frame and no digit. -/
theorem dtmf_once_frame :
    (testReceiver.receiving ((startedSession 1 "AMR-WB".toList 96).sending
        [.frame [0xF0, 0x4C, 0, 0, 0, 0, 0] true]).sent).digits = testReceiver.digits ++
          digitsOf [.frame [0xF0, 0x4C, 0, 0, 0, 0, 0] true] ↔
      digitsOf [.frame [0xF0, 0x4C, 0, 0, 0, 0, 0] true] = [] ∧
        ∀ call ∈ [MediaCall.frame [0xF0, 0x4C, 0, 0, 0, 0, 0] true],
          call.IsAudio (startedSession 1 "AMR-WB".toList 96).payloadType :=
  dtmf_once_iff 1 "AMR-WB".toList 96 [.frame [0xF0, 0x4C, 0, 0, 0, 0, 0] true] testReceiver rfl

/-- The digit 5 arrives three times. -/
theorem dtmf_three_times :
    (testReceiver.receiving ((startedSession 1 "AMR-WB".toList 96).sending [.dtmf ['5']]).sent).digits =
      [['5'], ['5'], ['5']] ∧ testReceiver.digits ++ digitsOf [.dtmf ['5']] = [['5']] := by
  decide +kernel

end Rtp

end VirtualPhone
