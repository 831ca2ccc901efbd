import VirtualPhone.RtpSession

/-! # Numbers and time stamps of a session (`ims/media.py`, `ims/codec.py`)

Two methods of a media session make packets: `sendFrame`, whose time stamps move by the samples of a
frame, and `sendDtmfPacket`, whose time stamps stand still.  Both take their numbers from one counter.

`rtp_discipline` is about every run of frames, digits, hold and resume: what the packets carry on the
wire, and what the statistics count.  A session whose port was not free has no transport and counts all
the same; the packets of a run are therefore those that each call would hand to an open transport. -/

namespace VirtualPhone

open Runtime

namespace Rtp

/-! ### Frames of the codec -/

/-- `AMR_WB_FRAME_SIZES`. -/
def amrWbFrameSizes : List (ℤ × ℕ) :=
  [(0, 17), (1, 23), (2, 32), (3, 36), (4, 40), (5, 46), (6, 50), (7, 58), (8, 60), (9, 5), (15, 0)]

/-- `AMR_NB_FRAME_SIZES`. -/
def amrNbFrameSizes : List (ℤ × ℕ) :=
  [(0, 12), (1, 13), (2, 15), (3, 17), (4, 19), (5, 20), (6, 26), (7, 31), (8, 5), (15, 0)]

/-- `AMRFrame`. -/
structure AMRFrame where
  mode : ℤ := 8
  quality : Bool := true
  data : Bytes := []
  cmr : ℤ := 15
  isWideband : Bool := true
deriving DecidableEq

namespace AMRFrame

/-- `to_rtp_payload()`. -/
def toRtpPayload (f : AMRFrame) : Except PyError Bytes := do
  let cmrByte ← mkByte ((f.cmr % 16).toNat <<< 4)
  let tocByte ← mkByte ((0 <<< 7) ||| ((f.mode % 16).toNat <<< 3) ||| (f.quality.toNat <<< 2))
  return [cmrByte, tocByte] ++ f.data

/-- `frame_size`. -/
def frameSize (f : AMRFrame) : ℕ :=
  ((if f.isWideband then amrWbFrameSizes else amrNbFrameSizes).lookup f.mode).getD 0

/-- `silence(is_wideband)`. -/
def silence (isWideband : Bool) : AMRFrame :=
  { mode := 9, quality := true, data := List.replicate 5 0, isWideband := isWideband }

theorem toRtpPayload_ok (f : AMRFrame) : ∃ payload, f.toRtpPayload = .ok payload := by
  have hcmr : ∀ n < 16, n <<< 4 < 256 := by decide
  have htoc : ∀ n < 16, ∀ quality : Bool, (0 <<< 7) ||| (n <<< 3) ||| (quality.toNat <<< 2) < 256 := by
    decide
  have hlt : ∀ n : ℤ, (n % 16).toNat < 16 := fun n => by omega
  unfold toRtpPayload
  rw [mkByte_of_lt (hcmr _ (hlt f.cmr)), ok_bind, mkByte_of_lt (htoc _ (hlt f.mode) f.quality), ok_bind]
  exact ⟨_, rfl⟩

end AMRFrame

/-! ### The audio source -/

/-- `AudioSourceType`. -/
inductive AudioSourceType
  | silence
  | tone
  | zero
  | loopback
deriving DecidableEq

/-- `VirtualAudioSource`. -/
structure VirtualAudioSource where
  sourceType : AudioSourceType := .silence
  frequency : ℤ := 440
  frameCount : ℕ := 0
  loopbackBuffer : List Bytes := []
deriving DecidableEq

/-- `int(127 * math.sin(2 * math.pi * frequency * n / sample_rate))`, for the frequency, `n`, and the
sample rate: the arithmetic of floating-point numbers is a parameter. -/
abbrev Sine : Type := ℤ → ℕ → ℕ → ℤ

namespace VirtualAudioSource

/-- The octets of a tone, in a frame of `frameSize` octets. -/
def toneData (sine : Sine) (source : VirtualAudioSource) (isWideband : Bool) (frameSize : ℕ) : Bytes :=
  let sampleRate := if isWideband then 16000 else 8000
  let samplesPerFrame := if isWideband then 320 else 160
  let count := min frameSize samplesPerFrame
  ((List.range count).map fun j =>
    UInt8.ofNat ((sine source.frequency (source.frameCount * samplesPerFrame + j) sampleRate + 128)
      % 256).toNat) ++ List.replicate (frameSize - count) 0

/-- `generate_frame(is_wideband, mode)`, with the source after it. -/
def generateFrame (sine : Sine) (isWideband : Bool) (mode : ℤ) (source : VirtualAudioSource) :
    AMRFrame × VirtualAudioSource :=
  let source := { source with frameCount := source.frameCount + 1 }
  let frameSize := AMRFrame.frameSize { mode := mode, isWideband := isWideband }
  match source.sourceType with
  | .silence => (AMRFrame.silence isWideband, source)
  | .loopback =>
      match source.loopbackBuffer with
      | data :: rest =>
          ({ mode := mode, data := data, isWideband := isWideband }, { source with loopbackBuffer := rest })
      | [] => (AMRFrame.silence isWideband, source)
  | .tone =>
      ({ mode := mode, data := source.toneData sine isWideband frameSize, isWideband := isWideband }, source)
  | .zero => ({ mode := mode, data := List.replicate frameSize 0, isWideband := isWideband }, source)

end VirtualAudioSource

/-! ### Calls on a session -/

/-- `hold()`; the direction, which nothing but a statistic reads, is left out. -/
def MediaSession.hold (m : MediaSession) : MediaSession := if !m.active then m else { m with held := true }

/-- `resume()`. -/
def MediaSession.resume (m : MediaSession) : MediaSession := if !m.active then m else { m with held := false }

/-- The side of a session that sends, with the codec and the audio source. -/
structure Sender where
  session : MediaSession
  codec : Text
  source : VirtualAudioSource := {}
deriving DecidableEq

namespace Sender

/-- A method of the session. -/
def onSession (x : Py MediaSession Unit) : Py Sender Unit :=
  Py.zoom session (fun m w => { w with session := m }) x

/-- `send_amr_frame(mode, silence)`. -/
def sendAmrFrame (sine : Sine) (mode : ℤ) (silence : Bool) : Py Sender Unit := do
  let w ← Py.get
  let isWb : Bool := w.codec.map Char.toUpper ∈ ["AMR-WB".toList, "AMRWB".toList]
  let (frame, source) :=
    if silence then (AMRFrame.silence isWb, w.source) else w.source.generateFrame sine isWb mode
  Py.modify fun w => { w with source := source }
  let payload ← Py.lift frame.toRtpPayload
  onSession (MediaSession.sendFrame payload (w.session.seq = 0))

end Sender

/-- A call. -/
inductive MediaAction
  | frame (data : Bytes) (marker : Bool)
  | amrFrame (mode : ℤ) (silence : Bool)
  | dtmf (digit : Text) (durationMs : ℕ)
  | hold
  | resume
deriving DecidableEq

namespace MediaAction

/-- The call. -/
def run (sine : Sine) : MediaAction → Py Sender Unit
  | frame data marker => Sender.onSession (MediaSession.sendFrame data marker)
  | amrFrame mode silence => Sender.sendAmrFrame sine mode silence
  | dtmf digit durationMs => Sender.onSession (MediaSession.sendDtmf digit durationMs)
  | hold => Sender.onSession (Py.modify MediaSession.hold)
  | resume => Sender.onSession (Py.modify MediaSession.resume)

/-- Its packets are audio packets. -/
def isAudio : MediaAction → Bool
  | frame _ _ => true
  | amrFrame _ _ => true
  | _ => false

/-- The event of a digit lasts at most 65535 units of the clock. -/
def Short (clockRate : ℕ) : MediaAction → Prop
  | dtmf digit durationMs => IsDtmfDigit digit → durationMs * clockRate / 1000 ≤ 65535
  | _ => True

instance (clockRate : ℕ) (a : MediaAction) : Decidable (a.Short clockRate) := by
  induction a using MediaAction.casesOn <;> unfold Short <;> infer_instance

end MediaAction

/-! ### Packets of a run -/

/-- The session with another transport, and other datagrams handed to it. -/
def MediaSession.over (m : MediaSession) (transport : Bool) (sent : List Bytes) : MediaSession :=
  { m with transport := transport, sent := sent }

/-- The sender with another transport. -/
def Sender.over (w : Sender) (transport : Bool) (sent : List Bytes) : Sender :=
  { w with session := w.session.over transport sent }

/-- The packets of a call, audio packets marked: what it would hand to an open transport. -/
def emittedBy (sine : Sine) (a : MediaAction) (w : Sender) : List (Bool × Bytes) :=
  ((a.run sine).run (w.over true [])).2.session.sent.map fun raw => (a.isAudio, raw)

/-- The packets of a run, in order. -/
def emitted (sine : Sine) : Sender → List MediaAction → List (Bool × Bytes)
  | _, [] => []
  | w, a :: actions => emittedBy sine a w ++ emitted sine ((a.run sine).run w).2 actions

/-- The sender after a run. -/
def Sender.after (sine : Sine) : Sender → List MediaAction → Sender
  | w, [] => w
  | w, a :: actions => after sine ((a.run sine).run w).2 actions

/-- The packet carries a number and a time stamp, cut to their widths. -/
def Carries (raw : Bytes) (number time : ℕ) : Prop :=
  ∃ p, RTPPacket.fromBytes raw = .ok p ∧ p.sequenceNumber = number % 2 ^ 16 ∧ p.timestamp = time % 2 ^ 32

/-- The number of audio packets. -/
def audioCount (log : List (Bool × Bytes)) : ℕ := log.countP Prod.fst

/-- From one state of the session to a later one the packets of `log` were made. -/
structure Grows (m m' : MediaSession) (log : List (Bool × Bytes)) : Prop where
  seq : m'.seq = m.seq + log.length
  timestamp : m'.timestamp = m.timestamp + m.samplesPerFrame * audioCount log
  packetsSent : m'.packetsSent = m.packetsSent + log.length
  bytesSent : m'.bytesSent = m.bytesSent + (log.map fun x => x.2.length).sum
  active : m'.active = m.active
  samples : m'.samplesPerFrame = m.samplesPerFrame
  clock : m'.clockRate = m.clockRate
  carries : ∀ (i : ℕ) (audio : Bool) (raw : Bytes), log[i]? = some (audio, raw) →
    Carries raw (m.seq + i) (m.timestamp + m.samplesPerFrame * audioCount (log.take i))

namespace Grows

variable {m m₁ m₂ : MediaSession} {log log₁ : List (Bool × Bytes)}

theorem refl (m : MediaSession) : Grows m m [] :=
  ⟨rfl, rfl, rfl, rfl, rfl, rfl, rfl, nofun⟩

theorem trans (h : Grows m m₁ log) (h₁ : Grows m₁ m₂ log₁) : Grows m m₂ (log ++ log₁) := by
  have hcount : ∀ l l' : List (Bool × Bytes), audioCount (l ++ l') = audioCount l + audioCount l' :=
    fun l l' => List.countP_append
  refine ⟨?_, ?_, ?_, ?_, h₁.active.trans h.active, h₁.samples.trans h.samples, h₁.clock.trans h.clock, ?_⟩
  · rw [h₁.seq, h.seq, List.length_append, Nat.add_assoc]
  · rw [h₁.timestamp, h.timestamp, h.samples, hcount, Nat.mul_add, Nat.add_assoc]
  · rw [h₁.packetsSent, h.packetsSent, List.length_append, Nat.add_assoc]
  · rw [h₁.bytesSent, h.bytesSent, List.map_append, List.sum_append, Nat.add_assoc]
  · intro i audio raw hi
    rw [List.getElem?_append] at hi
    split at hi
    · next hlt =>
        rw [List.take_append_of_le_length (Nat.le_of_lt hlt)]
        exact h.carries i audio raw hi
    · next hle =>
        have hcarries := h₁.carries (i - log.length) audio raw hi
        rw [h.seq, h.timestamp, h.samples, Nat.add_assoc, Nat.add_assoc, ← Nat.mul_add,
          Nat.add_sub_cancel' (Nat.le_of_not_lt hle)] at hcarries
        rwa [List.take_append, List.take_of_length_le (Nat.le_of_not_lt hle), hcount]

end Grows

/-- What a method does to a session, under every transport: it makes the packets of `log`, which are all
audio packets or all none. -/
structure Makes (audio : Bool) (x : Py MediaSession Unit) (m m' : MediaSession)
    (log : List (Bool × Bytes)) : Prop where
  run : ∀ transport sent, x.run (m.over transport sent) =
    (.ok (), m'.over transport (if transport then sent ++ log.map Prod.snd else sent))
  grows : Grows m m' log
  kind : ∀ e ∈ log, e.1 = audio

theorem Makes.bind {audio : Bool} {x y : Py MediaSession Unit} {m m₁ m₂ : MediaSession}
    {log log₁ : List (Bool × Bytes)} (h : Makes audio x m m₁ log) (h₁ : Makes audio y m₁ m₂ log₁) :
    Makes audio (x >>= fun _ => y) m m₂ (log ++ log₁) := by
  refine ⟨fun transport sent => ?_, h.grows.trans h₁.grows, fun e he => ?_⟩
  · rw [Py.run_bind_ok (h.run transport sent), h₁.run]
    cases transport
    · rfl
    · simp only [if_true, List.map_append, List.append_assoc]
  · rcases List.mem_append.mp he with he | he
    · exact h.kind e he
    · exact h₁.kind e he

theorem Makes.nothing {audio : Bool} {x : Py MediaSession Unit} {m m' : MediaSession}
    (h : ∀ transport sent, x.run (m.over transport sent) = (.ok (), m'.over transport sent))
    (hgrows : Grows m m' []) : Makes audio x m m' [] := by
  refine ⟨fun transport sent => ?_, hgrows, nofun⟩
  rw [h, List.map_nil, List.append_nil, ite_self]

theorem Makes.one {audio : Bool} {x : Py MediaSession Unit} {m m' : MediaSession} {raw : Bytes}
    (h : ∀ transport sent, x.run (m.over transport sent) =
      (.ok (), m'.over transport (if transport then sent ++ [raw] else sent)))
    (hgrows : Grows m m' [(audio, raw)]) : Makes audio x m m' [(audio, raw)] := by
  refine ⟨h, hgrows, fun e he => ?_⟩
  rw [List.mem_singleton.mp he]

/-- The packet of a session can be made, and carries its number and time stamp. -/
theorem packet_carries (m : MediaSession) (marker : Bool) (payloadType : ℤ) (payload : Bytes) :
    ∃ raw, (m.packet marker payloadType payload).toBytes = .ok raw ∧ Carries raw m.seq m.timestamp := by
  have hplain : (m.packet marker payloadType payload).Plain := ⟨rfl, rfl, rfl, rfl, Nat.zero_lt_succ _⟩
  refine ⟨_, hplain.toBytes, _, RTPPacket.fromBytes_image hplain, ?_, ?_⟩
  · exact Nat.mod_mod _ _
  · exact Nat.mod_mod _ _

theorem grows_emit {m : MediaSession} {raw : Bytes} (h : Carries raw m.seq m.timestamp) (audio : Bool) :
    Grows m (MediaSession.emit raw { m with
      seq := m.seq + 1
      timestamp := m.timestamp + if audio then m.samplesPerFrame else 0 }) [(audio, raw)] := by
  refine ⟨rfl, ?_, rfl, rfl, rfl, rfl, rfl, ?_⟩
  · cases audio
    · rfl
    · exact congrArg (m.timestamp + ·) (Nat.mul_one _).symm
  · intro i audio' raw' hi
    cases i with
    | zero =>
        obtain ⟨rfl, rfl⟩ := Prod.mk.inj (Option.some.inj hi)
        exact h
    | succ i => cases hi

/-! ### The methods -/

section

variable (m : MediaSession)

theorem sendFrame_makes (data : Bytes) (marker : Bool) :
    ∃ m' log, Makes true (MediaSession.sendFrame data marker) m m' log := by
  by_cases hsends : (!m.active || m.held) = true
  · refine ⟨m, [], .nothing (fun transport sent => ?_) (.refl m)⟩
    unfold MediaSession.sendFrame
    rw [Py.run_get_bind, if_pos (show (!(m.over transport sent).active ||
      (m.over transport sent).held) = true from hsends)]
    rfl
  · obtain ⟨raw, hraw, hcarries⟩ := packet_carries m marker m.payloadType data
    refine ⟨_, _, .one (fun transport sent => ?_) (grows_emit hcarries true)⟩
    unfold MediaSession.sendFrame
    rw [Py.run_get_bind, if_neg (show ¬(!(m.over transport sent).active ||
      (m.over transport sent).held) = true from hsends), Py.run_modify_bind,
      show ((m.over transport sent).packet marker (m.over transport sent).payloadType data).toBytes =
        .ok raw from hraw]
    rfl

theorem sendDtmfPacket_makes {event : DTMFEvent} (hevent : event.event < 16) (hvolume : event.volume < 64)
    (hduration : event.duration ≤ 65535) (marker : Bool) :
    ∃ m' log, Makes false (MediaSession.sendDtmfPacket event marker) m m' log := by
  obtain ⟨payload, hpayload, -⟩ := @DTMFEvent.fromRtpPayload_toRtpPayload event (by omega) hvolume
    (by omega)
  obtain ⟨raw, hraw, hcarries⟩ := packet_carries m marker ptTelephoneEvent payload
  refine ⟨_, _, .one (fun transport sent => ?_) (grows_emit hcarries false)⟩
  unfold MediaSession.sendDtmfPacket
  rw [Py.run_get_bind, hpayload, Py.run_lift_ok_bind, Py.run_modify_bind,
    show ((m.over transport sent).packet marker ptTelephoneEvent payload).toBytes = .ok raw from hraw]
  rfl

theorem sendDtmf_makes {digit : Text} {durationMs : ℕ}
    (hshort : IsDtmfDigit digit → durationMs * m.clockRate / 1000 ≤ 65535) :
    ∃ m' log, Makes false (MediaSession.sendDtmf digit durationMs) m m' log := by
  by_cases hdigit : IsDtmfDigit digit
  · obtain ⟨samples, hsamples⟩ : ∃ samples, durationMs * m.clockRate / 1000 = samples := ⟨_, rfl⟩
    have hend : samples ≤ 65535 := hsamples ▸ hshort hdigit
    have hevent := (DTMFEvent.digit_fromDigit hdigit (samples / 3) false).1
    have hvolume : (10 : ℕ) < 64 := by decide
    obtain ⟨m₁, _, h₁⟩ := @sendDtmfPacket_makes m
      (DTMFEvent.fromDigit digit (samples / 3) false) hevent hvolume
      (show samples / 3 ≤ 65535 by omega) true
    obtain ⟨m₂, _, h₂⟩ := @sendDtmfPacket_makes m₁
      { DTMFEvent.fromDigit digit (samples / 3) false with duration := samples * 2 / 3 } hevent hvolume
      (show samples * 2 / 3 ≤ 65535 by omega) false
    have hlast := fun m' => @sendDtmfPacket_makes m'
      { DTMFEvent.fromDigit digit (samples / 3) false with isEnd := true, duration := samples } hevent
      hvolume hend false
    obtain ⟨m₃, _, h₃⟩ := hlast m₂
    obtain ⟨m₄, _, h₄⟩ := hlast m₃
    obtain ⟨m₅, _, h₅⟩ := hlast m₄
    have hall := h₁.bind (h₂.bind (h₃.bind (h₄.bind h₅)))
    refine ⟨m₅, _, fun transport sent => ?_, hall.grows, hall.kind⟩
    rw [← hall.run transport sent]
    unfold MediaSession.sendDtmf
    rw [Py.run_get_bind, if_neg (not_not.mpr hdigit),
      show durationMs * (m.over transport sent).clockRate / 1000 = samples from hsamples]
  · refine ⟨m, [], .nothing (fun transport sent => ?_) (.refl m)⟩
    unfold MediaSession.sendDtmf
    rw [Py.run_get_bind, if_pos hdigit]
    rfl

theorem held_makes {f : MediaSession → MediaSession} {b : Bool}
    (hf : ∀ m, f m = if !m.active then m else { m with held := b }) :
    ∃ m' log, Makes false (Py.modify f) m m' log := by
  cases hactive : m.active with
  | false =>
      refine ⟨m, [], .nothing (fun transport sent => ?_) (.refl m)⟩
      rw [Py.run_modify, hf, if_pos (by rw [MediaSession.over, hactive]; rfl)]
  | true =>
      refine ⟨{ m with held := b }, [], .nothing (fun transport sent => ?_) ?_⟩
      · rw [Py.run_modify, hf, if_neg (by rw [MediaSession.over, hactive]; decide)]
        rfl
      · exact ⟨rfl, rfl, rfl, rfl, rfl, rfl, rfl, nofun⟩

end

/-! ### Runs -/

section

variable (sine : Sine)

theorem onSession_makes {audio : Bool} {x : Py MediaSession Unit} {w : Sender} {m' : MediaSession}
    {log : List (Bool × Bytes)} (h : Makes audio x w.session m' log) (transport : Bool) (sent : List Bytes) :
    (Sender.onSession x).run (w.over transport sent) =
      (.ok (), ({ w with session := m' } : Sender).over transport
        (if transport then sent ++ log.map Prod.snd else sent)) := by
  rw [Sender.onSession, Py.run_zoom, show (w.over transport sent).session =
    w.session.over transport sent from rfl, h.run]
  rfl

/-- **One call**: under every transport it makes the packets of `log`. -/
theorem action_makes (a : MediaAction) (w : Sender) (hshort : a.Short w.session.clockRate) :
    ∃ (w' : Sender) (log : List (Bool × Bytes)), (∀ transport sent, (a.run sine).run (w.over transport sent) =
        (.ok (), w'.over transport (if transport then sent ++ log.map Prod.snd else sent))) ∧
      Grows w.session w'.session log ∧ ∀ x ∈ log, x.1 = a.isAudio := by
  cases a with
  | frame data marker =>
      obtain ⟨m', log, h⟩ := sendFrame_makes w.session data marker
      exact ⟨{ w with session := m' }, log, onSession_makes h, h.grows, h.kind⟩
  | amrFrame mode silence =>
      obtain ⟨made, hmade⟩ : ∃ made, made = if silence
          then (AMRFrame.silence (w.codec.map Char.toUpper ∈ ["AMR-WB".toList, "AMRWB".toList]), w.source)
          else w.source.generateFrame sine
            (w.codec.map Char.toUpper ∈ ["AMR-WB".toList, "AMRWB".toList]) mode := ⟨_, rfl⟩
      obtain ⟨payload, hpayload⟩ := made.1.toRtpPayload_ok
      obtain ⟨m', log, h⟩ := sendFrame_makes w.session payload (w.session.seq = 0)
      refine ⟨{ w with source := made.2, session := m' }, log, fun transport sent => ?_, h.grows, h.kind⟩
      have hrun : (Sender.sendAmrFrame sine mode silence).run (w.over transport sent) =
          (do
            Py.modify fun v : Sender => { v with source := made.2 }
            let payload ← Py.lift made.1.toRtpPayload
            Sender.onSession (MediaSession.sendFrame payload (w.session.seq = 0))).run
              (w.over transport sent) := by
        subst hmade
        rfl
      show (Sender.sendAmrFrame sine mode silence).run (w.over transport sent) = _
      rw [hrun, Py.run_modify_bind, hpayload, Py.run_lift_ok_bind]
      exact @onSession_makes _ _ { w with source := made.2 } _ _ h transport sent
  | dtmf digit durationMs =>
      obtain ⟨m', log, h⟩ := sendDtmf_makes w.session hshort
      exact ⟨{ w with session := m' }, log, onSession_makes h, h.grows, h.kind⟩
  | hold =>
      obtain ⟨m', log, h⟩ := held_makes w.session (f := MediaSession.hold) fun _ => rfl
      exact ⟨{ w with session := m' }, log, onSession_makes h, h.grows, h.kind⟩
  | resume =>
      obtain ⟨m', log, h⟩ := held_makes w.session (f := MediaSession.resume) fun _ => rfl
      exact ⟨{ w with session := m' }, log, onSession_makes h, h.grows, h.kind⟩

/-- One call of a run: its packets are those that are made, and go to the transport. -/
theorem action_emits (a : MediaAction) (w : Sender) (hshort : a.Short w.session.clockRate) :
    Grows w.session ((a.run sine).run w).2.session (emittedBy sine a w) ∧
      ((a.run sine).run w).2.session.transport = w.session.transport ∧
      (w.session.transport = true → ((a.run sine).run w).2.session.sent =
        w.session.sent ++ (emittedBy sine a w).map Prod.snd) := by
  obtain ⟨w', log, hrun, hgrows, hlog⟩ := action_makes sine a w hshort
  have hemitted : emittedBy sine a w = log := by
    unfold emittedBy
    rw [hrun true []]
    show ((if true then [] ++ log.map Prod.snd else []).map fun raw => (a.isAudio, raw)) = log
    rw [if_pos rfl, List.nil_append, List.map_map]
    calc log.map ((fun raw => (a.isAudio, raw)) ∘ Prod.snd) = log.map id := by
          refine List.map_congr_left fun x hx => ?_
          rw [Function.comp_apply, ← hlog x hx]
          rfl
      _ = log := List.map_id log
  have hself := hrun w.session.transport w.session.sent
  rw [show w.over w.session.transport w.session.sent = w from rfl] at hself
  rw [hself, hemitted]
  refine ⟨⟨hgrows.seq, hgrows.timestamp, hgrows.packetsSent, hgrows.bytesSent, hgrows.active,
    hgrows.samples, hgrows.clock, hgrows.carries⟩, rfl, fun htransport => ?_⟩
  show (if w.session.transport then w.session.sent ++ log.map Prod.snd else w.session.sent) = _
  rw [if_pos htransport]

/-- **A run**; the induction is on its calls. -/
theorem run_emits (actions : List MediaAction) (w : Sender)
    (hshort : ∀ a ∈ actions, a.Short w.session.clockRate) :
    Grows w.session (w.after sine actions).session (emitted sine w actions) ∧
      (w.session.transport = true → (w.after sine actions).session.sent =
        w.session.sent ++ (emitted sine w actions).map Prod.snd) := by
  induction actions generalizing w with
  | nil => exact ⟨.refl _, fun _ => (List.append_nil _).symm⟩
  | cons a actions ih =>
      obtain ⟨hgrows, htransport, hsent⟩ := action_emits sine a w (hshort a List.mem_cons_self)
      obtain ⟨hrest, hsentRest⟩ := ih ((a.run sine).run w).2 fun x hx => by
        rw [hgrows.clock]
        exact hshort x (List.mem_cons_of_mem _ hx)
      refine ⟨hgrows.trans hrest, fun h => ?_⟩
      show (Sender.after sine ((a.run sine).run w).2 actions).session.sent = _
      rw [hsentRest (htransport.trans h), hsent h, emitted, List.map_append, List.append_assoc]

end

/-- A session of a codec that was started, with its audio source. -/
def startedSender (ssrc : ℕ) (codec : Text) (payloadType : ℤ) (free : Bool)
    (source : VirtualAudioSource) : Sender where
  session := MediaSession.start codec payloadType free { ssrc := ssrc }
  codec := codec
  source := source

/-- **Numbers and time stamps.**  In every run of frames, digits, hold and resume on a session that was
started, where no event lasts longer than 65535 units of the clock: the `i`-th packet carries the number
`i` modulo `2 ^ 16`, and as its time stamp the samples of a frame times the audio packets before it
modulo `2 ^ 32`; the statistics count the packets and their octets; and if the port was free, these
packets are what was handed to the transport. -/
theorem rtp_discipline (sine : Sine) (ssrc : ℕ) (codec : Text) (payloadType : ℤ) (free : Bool)
    (source : VirtualAudioSource) {actions : List MediaAction}
    (hshort : ∀ a ∈ actions, a.Short (getCodecInfo codec).1) :
    let w := startedSender ssrc codec payloadType free source
    let log := emitted sine w actions
    let w' := w.after sine actions
    (∀ (i : ℕ) (audio : Bool) (raw : Bytes), log[i]? = some (audio, raw) → ∃ p,
      RTPPacket.fromBytes raw = .ok p ∧ p.sequenceNumber = i % 2 ^ 16 ∧
        p.timestamp = (getCodecInfo codec).2 * audioCount (log.take i) % 2 ^ 32) ∧
    w'.session.packetsSent = log.length ∧
    w'.session.bytesSent = (log.map fun x => x.2.length).sum ∧
    (free = true → w'.session.sent = log.map Prod.snd) := by
  intro w log w'
  obtain ⟨hgrows, hsent⟩ := run_emits sine actions w hshort
  refine ⟨fun i audio raw hi => ?_, ?_, ?_, fun hfree => hsent hfree⟩
  · have hcarries := hgrows.carries i audio raw hi
    rwa [show w.session.seq = 0 from rfl, show w.session.timestamp = 0 from rfl, Nat.zero_add,
      Nat.zero_add] at hcarries
  · exact hgrows.packetsSent.trans (Nat.zero_add _)
  · exact hgrows.bytesSent.trans (Nat.zero_add _)

/-- A digit between two frames: the second frame has the number 6, and the time stamp of one frame. -/
theorem rtp_discipline_digit :
    let sine : Sine := fun _ _ _ => 0
    let w := startedSender 1 "AMR-WB".toList 98 true {}
    let log := emitted sine w [.frame [1, 2] false, .dtmf ['5'] 160, .amrFrame 8 false]
    log.length = 7 ∧ ∃ (raw : Bytes) (p : RTPPacket), log[6]? = some (true, raw) ∧
      RTPPacket.fromBytes raw = .ok p ∧ p.sequenceNumber = 6 ∧ p.timestamp = 320 := by
  intro sine w log
  have hlength : log.length = 7 := by decide +kernel
  have hcount : audioCount (log.take 6) = 1 := by decide +kernel
  have haudio : log[6]?.map Prod.fst = some true := by decide +kernel
  have hshort : ∀ a ∈ ([.frame [1, 2] false, .dtmf ['5'] 160, .amrFrame 8 false] : List MediaAction),
      a.Short (getCodecInfo "AMR-WB".toList).1 := by decide +kernel
  have hrule := (rtp_discipline sine 1 "AMR-WB".toList 98 true {} hshort).1
  obtain ⟨⟨audio, raw⟩, hraw, rfl⟩ := Option.map_eq_some_iff.mp haudio
  obtain ⟨p, hp, hseq, htime⟩ := hrule 6 true raw hraw
  refine ⟨hlength, raw, p, hraw, hp, hseq, ?_⟩
  rw [htime, show audioCount _ = 1 from hcount]
  rfl

end Rtp

end VirtualPhone
