import VirtualPhone.DtmfEmission
import VirtualPhone.Runtime.Trace

/-! # RTP of a session that is on hold or stopped (`ims/media.py`)

`sendFrame` sends only while the session is active and not held; `sendDtmf` does not look.  Every run of
calls on a session is therefore quiet on hold exactly if no digit, whose first packet can be made, is
sent while it is held or stopped (`quiet_iff`).

`stop` closes the transport, but the closed transport stays with the session, and takes datagrams. -/

namespace VirtualPhone

open Runtime

namespace Rtp

/-! ### Beginning and end of a session -/

namespace Sender

/-- The parameters that `start(..., codec, payload_type)` sets first. -/
def configure (codec : Text) (payloadType : ℤ) (w : Sender) : Sender :=
  { w with
    codec := codec
    session :=
      { w.session with
        payloadType := VirtualPhone.MediaSession.codecPayloadType codec payloadType
        clockRate := (getCodecInfo codec).1
        samplesPerFrame := (getCodecInfo codec).2 } }

/-- The RTP transport, if the port was free. -/
def openTransport (free : Bool) (w : Sender) : Sender := { w with session := { w.session with transport := free } }

/-- `_active`. -/
def setActive (active : Bool) (w : Sender) : Sender := { w with session := { w.session with active := active } }

/-- `start(local_port, ..., codec, payload_type)`.  A port in use is passed over, a number that is no port
is not; the RTCP socket is bound to the next one. -/
def start (localPort : ℕ) (codec : Text) (payloadType : ℤ) (free : Bool) : Py Sender Unit := do
  Py.modify (configure codec payloadType)
  if 65535 < localPort then Py.raise .overflowError
  else do
    Py.modify (openTransport free)
    if 65535 < localPort + 1 then Py.raise .overflowError
    else Py.modify (setActive true)

/-- `stop()`. -/
def stop : Py Sender Unit := Py.modify (setActive false)

end Sender

/-- A call on a session, the beginning and the end of the session among them. -/
inductive MediaOperation
  | start (localPort : ℕ) (codec : Text) (payloadType : ℤ) (free : Bool)
  | stop
  | call (a : MediaAction)
deriving DecidableEq

/-- The call. -/
def MediaOperation.run (sine : Sine) : MediaOperation → Py Sender Unit
  | start localPort codec payloadType free => Sender.start localPort codec payloadType free
  | stop => Sender.stop
  | call a => a.run sine

/-- A run goes on after a call that has raised. -/
def mediaStep (sine : Sine) (w : Sender) (op : MediaOperation) : Option Sender := some ((op.run sine).run w).2

/-! ### Who sends -/

/-- The session is active and not held. -/
def Sender.Open (w : Sender) : Prop := w.session.active = true ∧ w.session.held = false

instance (w : Sender) : Decidable w.Open := inferInstanceAs (Decidable (_ ∧ _))

/-- From one state to the next nothing was handed to the transport, and nothing counted as sent. -/
def Sender.Silent (w w' : Sender) : Prop :=
  w'.session.sent = w.session.sent ∧ w'.session.packetsSent = w.session.packetsSent

/-- What the call sends, it sends while the session is active and not held. -/
def SendsOpen (sine : Sine) (w : Sender) (op : MediaOperation) : Prop :=
  w.Open ∨ w.Silent ((op.run sine).run w).2

/-- The call is a digit whose first packet can be made: a third of its event lasts at most 65535 units of
the clock. -/
def MediaOperation.Sounds (w : Sender) : MediaOperation → Prop
  | call (.dtmf digit durationMs) => IsDtmfDigit digit ∧ durationMs * w.session.clockRate / 1000 / 3 ≤ 65535
  | _ => False

instance (w : Sender) (op : MediaOperation) : Decidable (op.Sounds w) := by
  induction op using MediaOperation.casesOn with
  | call a =>
      induction a using MediaAction.casesOn <;> unfold MediaOperation.Sounds <;> infer_instance
  | start _ _ _ _ => exact isFalse id
  | stop => exact isFalse id

/-- No digit sounds while the session is held or stopped. -/
def NoDigitOnHold (w : Sender) (op : MediaOperation) : Prop := w.Open ∨ ¬op.Sounds w

instance (w : Sender) (op : MediaOperation) : Decidable (NoDigitOnHold w op) :=
  inferInstanceAs (Decidable (_ ∨ _))

/-- A frame is not sent while the session is held or stopped. -/
theorem sendFrame_closed {m : MediaSession} (h : ¬(m.active = true ∧ m.held = false)) (data : Bytes)
    (marker : Bool) : (MediaSession.sendFrame data marker).run m = (.ok (), m) := by
  have hblocked : (!m.active || m.held) = true := by
    cases hactive : m.active
    · rfl
    · cases hheld : m.held
      · exact absurd ⟨hactive, hheld⟩ h
      · rfl
  unfold MediaSession.sendFrame
  rw [Py.run_get_bind, if_pos hblocked]
  rfl

/-- A frame is sent by a session that is active and not held, as a packet of its type. -/
theorem sendFrame_open {m : MediaSession} (hactive : m.active = true) (hheld : m.held = false) (data : Bytes)
    (marker : Bool) : ∃ raw, RTPPacket.fromBytes raw = .ok (m.packet marker m.payloadType data).masked ∧
      (MediaSession.sendFrame data marker).run m =
        (.ok (), MediaSession.emit raw { m with seq := m.seq + 1, timestamp := m.timestamp + m.samplesPerFrame }) := by
  have hplain : (m.packet marker m.payloadType data).Plain := ⟨rfl, rfl, rfl, rfl, Nat.zero_lt_succ _⟩
  refine ⟨(m.packet marker m.payloadType data).image, RTPPacket.fromBytes_image hplain, ?_⟩
  unfold MediaSession.sendFrame
  rw [Py.run_get_bind, if_neg (by simp [hactive, hheld]), Py.run_modify_bind, hplain.toBytes]
  rfl

/-- A digit is silent unless its first packet can be made, whatever the state of the session. -/
theorem sendDtmf_silent_iff (digit : Text) (durationMs : ℕ) (m : MediaSession) :
    (((MediaSession.sendDtmf digit durationMs).run m).2.sent = m.sent ∧
      ((MediaSession.sendDtmf digit durationMs).run m).2.packetsSent = m.packetsSent) ↔
      ¬(IsDtmfDigit digit ∧ durationMs * m.clockRate / 1000 / 3 ≤ 65535) := by
  by_cases hdigit : IsDtmfDigit digit
  · obtain ⟨samples, hsamples⟩ : ∃ samples, samples = durationMs * m.clockRate / 1000 := ⟨_, rfl⟩
    obtain ⟨raws, r, hrun, hraws, -⟩ := sendEvents_run
      (fun e he => ⟨(dtmfPlan_fields hdigit samples e he).1, (dtmfPlan_fields hdigit samples e he).2.1⟩) m
    rw [sendDtmf_run hdigit, ← hsamples, hrun, and_iff_right hdigit]
    by_cases hfirst : samples / 3 ≤ 65535
    · have hfits : eventFits (DTMFEvent.fromDigit digit (samples / 3) false) = true :=
        decide_eq_true (Nat.lt_succ_of_le hfirst)
      have hone : 0 < raws.length := by
        rw [← List.length_map eventOf, hraws, List.length_map, dtmfPlan, List.map_cons,
          List.takeWhile_cons_of_pos hfits]
        exact Nat.zero_lt_succ _
      refine iff_of_false (fun hsilent => ?_) (not_not.mpr hfirst)
      have hcount : m.packetsSent + raws.length = m.packetsSent := hsilent.2
      omega
    · have hnone : raws = [] := by
        apply List.map_eq_nil_iff.mp
        rw [hraws, dtmfPlan, List.map_cons, List.takeWhile_cons_of_neg, List.map_nil]
        intro hfits
        exact hfirst (Nat.le_of_lt_succ (of_decide_eq_true hfits))
      rw [hnone, m.emitting_nil]
      exact iff_of_true ⟨rfl, rfl⟩ hfirst
  · have hrun : (MediaSession.sendDtmf digit durationMs).run m = (.ok (), m) := by
      unfold MediaSession.sendDtmf
      rw [Py.run_get_bind, if_pos hdigit]
      rfl
    rw [hrun]
    exact iff_of_true ⟨rfl, rfl⟩ fun h => hdigit h.1

theorem start_silent (localPort : ℕ) (codec : Text) (payloadType : ℤ) (free : Bool) (w : Sender) :
    w.Silent ((Sender.start localPort codec payloadType free).run w).2 := by
  unfold Sender.start
  rw [Py.run_modify_bind]
  by_cases hport : 65535 < localPort
  · rw [if_pos hport]
    exact ⟨rfl, rfl⟩
  · rw [if_neg hport, Py.run_modify_bind]
    by_cases hrtcp : 65535 < localPort + 1
    · rw [if_pos hrtcp]
      exact ⟨rfl, rfl⟩
    · rw [if_neg hrtcp]
      exact ⟨rfl, rfl⟩

/-- The next frame of a sender, and its audio source behind it. -/
def Sender.nextFrame (sine : Sine) (mode : ℤ) (silence : Bool) (w : Sender) : AMRFrame × VirtualAudioSource :=
  let isWb : Bool := w.codec.map Char.toUpper ∈ ["AMR-WB".toList, "AMRWB".toList]
  if silence then (AMRFrame.silence isWb, w.source) else w.source.generateFrame sine isWb mode

/-- `send_amr_frame` sends the payload of the next frame. -/
theorem sendAmrFrame_run (sine : Sine) {mode : ℤ} {silence : Bool} {w : Sender} {payload : Bytes}
    (h : (w.nextFrame sine mode silence).1.toRtpPayload = .ok payload) :
    (Sender.sendAmrFrame sine mode silence).run w =
      (Sender.onSession (MediaSession.sendFrame payload (w.session.seq = 0))).run
        { w with source := (w.nextFrame sine mode silence).2 } := by
  have hrun : (Sender.sendAmrFrame sine mode silence).run w = (do
      Py.modify fun v : Sender => { v with source := (w.nextFrame sine mode silence).2 }
      let payload ← Py.lift (w.nextFrame sine mode silence).1.toRtpPayload
      Sender.onSession (MediaSession.sendFrame payload (w.session.seq = 0))).run w := rfl
  rw [hrun, Py.run_modify_bind, h, Py.run_lift_ok_bind]

/-- A frame of the audio source is not sent while the session is held or stopped. -/
theorem sendAmrFrame_closed (sine : Sine) {w : Sender} (h : ¬w.Open) (mode : ℤ) (silence : Bool) :
    w.Silent ((Sender.sendAmrFrame sine mode silence).run w).2 := by
  obtain ⟨payload, hpayload⟩ := (w.nextFrame sine mode silence).1.toRtpPayload_ok
  rw [sendAmrFrame_run sine hpayload, Sender.onSession, Py.run_zoom, sendFrame_closed h]
  exact ⟨rfl, rfl⟩

/-- **One call.** -/
theorem sendsOpen_iff (sine : Sine) (w : Sender) (op : MediaOperation) :
    SendsOpen sine w op ↔ NoDigitOnHold w op := by
  by_cases hopen : w.Open
  · exact iff_of_true (Or.inl hopen) (Or.inl hopen)
  · rw [SendsOpen, NoDigitOnHold, or_iff_right hopen, or_iff_right hopen]
    cases op with
    | start localPort codec payloadType free =>
        exact iff_of_true (start_silent localPort codec payloadType free w) id
    | stop => exact iff_of_true ⟨rfl, rfl⟩ id
    | call a =>
        cases a with
        | frame data marker =>
            refine iff_of_true ?_ id
            show w.Silent ((Sender.onSession (MediaSession.sendFrame data marker)).run w).2
            rw [Sender.onSession, Py.run_zoom, sendFrame_closed hopen]
            exact ⟨rfl, rfl⟩
        | amrFrame mode silence => exact iff_of_true (sendAmrFrame_closed sine hopen mode silence) id
        | dtmf digit durationMs => exact sendDtmf_silent_iff digit durationMs w.session
        | hold =>
            refine iff_of_true ?_ id
            show w.session.hold.sent = _ ∧ w.session.hold.packetsSent = _
            unfold MediaSession.hold
            split
            · exact ⟨rfl, rfl⟩
            · exact ⟨rfl, rfl⟩
        | resume =>
            refine iff_of_true ?_ id
            show w.session.resume.sent = _ ∧ w.session.resume.packetsSent = _
            unfold MediaSession.resume
            split
            · exact ⟨rfl, rfl⟩
            · exact ⟨rfl, rfl⟩

/-- **No RTP on hold.**  In a run of calls on a session every packet is handed to the transport or counted
while the session is active and not held, exactly if no digit whose first packet can be made is sent
while it is held or stopped. -/
theorem quiet_iff (sine : Sine) (w : Sender) (ops : List MediaOperation) :
    Along (mediaStep sine) (SendsOpen sine) w ops ↔ Along (mediaStep sine) NoDigitOnHold w ops :=
  along_congr (mediaStep sine) (I := fun _ => True) (fun w op _ => sendsOpen_iff sine w op)
    (fun _ _ _ _ _ => trivial) trivial ops

/-- A session that is put on hold and then asked for a digit hands five packets to its transport. -/
theorem digit_on_hold :
    let sine : Sine := fun _ _ _ => 0
    let w : Sender := { session := { ssrc := 1 }, codec := "AMR-WB".toList }
    let ops : List MediaOperation := [.start 50000 "AMR-WB".toList 96 true, .call .hold]
    ∃ w', runFrom (mediaStep sine) w ops = some w' ∧ w'.session.held = true ∧ w'.session.sent = [] ∧
      ((((MediaOperation.call (.dtmf ['5'] 160)).run sine).run w').2.session.sent.length = 5) ∧
      ¬Along (mediaStep sine) (SendsOpen sine) w (ops ++ [.call (.dtmf ['5'] 160)]) := by
  intro sine w ops
  refine ⟨_, rfl, rfl, rfl, by decide +kernel, fun hall => ?_⟩
  obtain ⟨-, h₁⟩ := hall
  obtain ⟨-, h₂⟩ := h₁ _ rfl
  obtain ⟨hsends, -⟩ := h₂ _ rfl
  have hsounds := (sendsOpen_iff sine _ _).mp hsends
  revert hsounds
  decide +kernel

end Rtp

end VirtualPhone
