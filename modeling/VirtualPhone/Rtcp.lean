import VirtualPhone.Runtime.Struct

/-! # RTCP reports

`RTCPSenderReport` and `RTCPReceiverReport` of `ims/rtp.py` on the wire.  A report has a header of two
words and then words of 32 bits; `struct.pack` refuses a number that needs more, except for the losses of
a receiver report, which are cut to 8 and 24 bits and share a word. -/

namespace VirtualPhone

open Runtime

namespace Rtp

/-! ### Sender reports -/

/-- `RTCPSenderReport`. -/
structure RTCPSenderReport where
  ssrc : ℕ := 0
  ntpTimestampMsw : ℕ := 0
  ntpTimestampLsw : ℕ := 0
  rtpTimestamp : ℕ := 0
  senderPacketCount : ℕ := 0
  senderOctetCount : ℕ := 0
deriving DecidableEq, Repr

namespace RTCPSenderReport

/-- `to_bytes()`. -/
def toBytes (r : RTCPSenderReport) : Except PyError Bytes := do
  let payload ← packFields [(r.ntpTimestampMsw, 4), (r.ntpTimestampLsw, 4), (r.rtpTimestamp, 4),
    (r.senderPacketCount, 4), (r.senderOctetCount, 4)]
  let length := (4 + payload.length) / 4 - 1
  let header ← packFields [(0x80, 1), (200, 1), (length, 2), (r.ssrc, 4)]
  return header ++ payload

/-- `from_bytes(data)`. -/
def fromBytes (data : Bytes) : Except PyError RTCPSenderReport :=
  if data.length < 28 then .error (.valueError "RTCP SR too short".toList)
  else
    .ok
      { ssrc := unpackBE data 4 4
        ntpTimestampMsw := unpackBE data 8 4
        ntpTimestampLsw := unpackBE data 12 4
        rtpTimestamp := unpackBE data 16 4
        senderPacketCount := unpackBE data 20 4
        senderOctetCount := unpackBE data 24 4 }

/-- Every field has 32 bits. -/
structure Fits (r : RTCPSenderReport) : Prop where
  ssrc : r.ssrc < 2 ^ 32
  msw : r.ntpTimestampMsw < 2 ^ 32
  lsw : r.ntpTimestampLsw < 2 ^ 32
  rtp : r.rtpTimestamp < 2 ^ 32
  packets : r.senderPacketCount < 2 ^ 32
  octets : r.senderOctetCount < 2 ^ 32

/-- The words of the report behind its header. -/
def words (r : RTCPSenderReport) : List (ℕ × ℕ) :=
  [(r.ntpTimestampMsw, 4), (r.ntpTimestampLsw, 4), (r.rtpTimestamp, 4), (r.senderPacketCount, 4),
    (r.senderOctetCount, 4)]

/-- The header of the report: five words of payload make six with the SSRC. -/
def header (r : RTCPSenderReport) : List (ℕ × ℕ) := [(0x80, 1), (200, 1), (5, 2), (r.ssrc, 4)]

theorem fits_iff (r : RTCPSenderReport) :
    r.Fits ↔ (∀ f ∈ r.words, f.1 < 256 ^ f.2) ∧ ∀ f ∈ r.header, f.1 < 256 ^ f.2 := by
  simp only [words, header, List.forall_mem_cons, List.not_mem_nil, false_imp_iff, implies_true, and_true]
  constructor
  · rintro ⟨h₁, h₂, h₃, h₄, h₅, h₆⟩
    omega
  · rintro ⟨⟨h₂, h₃, h₄, h₅, h₆⟩, -, -, -, h₁⟩
    exact ⟨by omega, by omega, by omega, by omega, by omega, by omega⟩

theorem toBytes_eq_ok_iff {r : RTCPSenderReport} {raw : Bytes} :
    r.toBytes = .ok raw ↔ r.Fits ∧ raw = packed r.header ++ packed r.words := by
  have hlength : (packed r.words).length = 20 := packed_length r.words
  rw [fits_iff, and_assoc]
  show packFields r.words >>= _ = _ ↔ _
  rw [packFields_bind_eq_ok_iff]
  dsimp only
  rw [hlength]
  show _ ∧ packFields r.header >>= _ = _ ↔ _
  rw [packFields_bind_eq_ok_iff]
  exact and_congr_right' (and_congr_right' ⟨fun h => (Except.ok.inj h).symm, fun h => congrArg Except.ok h.symm⟩)

/-- **A sender report is read back.** -/
theorem fromBytes_toBytes {r : RTCPSenderReport} (h : r.Fits) : r.toBytes >>= fromBytes = .ok r := by
  obtain ⟨hwords, hheader⟩ := r.fits_iff.mp h
  rw [toBytes_eq_ok_iff.mpr ⟨h, rfl⟩, ok_bind]
  have hlength : (packed r.header ++ packed r.words).length = 28 := by
    rw [List.length_append, packed_length, packed_length]
    rfl
  have hread := @unpackFields_of_eq (packed r.header ++ packed r.words) [] (packed r.words) r.header 0 rfl rfl
    hheader
  have hread' := @unpackFields_of_eq (packed r.header ++ packed r.words) (packed r.header) [] r.words 8
    (List.append_nil _).symm (by rw [packed_length]; rfl) hwords
  simp only [header, words, List.map_cons, List.map_nil, unpackFields, List.cons.injEq, and_true] at hread hread'
  obtain ⟨-, -, -, hssrc⟩ := hread
  obtain ⟨hmsw, hlsw, hrtp, hpackets, hoctets⟩ := hread'
  rw [fromBytes, if_neg (by omega)]
  simp only [header, words, hssrc, hmsw, hlsw, hrtp, hpackets, hoctets]

end RTCPSenderReport

/-! ### Receiver reports -/

/-- `RTCPReceiverReport`. -/
structure RTCPReceiverReport where
  ssrc : ℕ := 0
  sourceSsrc : ℕ := 0
  fractionLost : ℕ := 0
  cumulativeLost : ℕ := 0
  highestSeq : ℕ := 0
  jitter : ℕ := 0
  lastSr : ℕ := 0
  delaySinceSr : ℕ := 0
deriving DecidableEq, Repr

namespace RTCPReceiverReport

/-- fraction_lost (8 bits) + cumulative_lost (24 bits). -/
def lostWord (r : RTCPReceiverReport) : ℕ :=
  ((r.fractionLost &&& 0xFF) <<< 24) ||| (r.cumulativeLost &&& 0x00FFFFFF)

/-- `to_bytes()`. -/
def toBytes (r : RTCPReceiverReport) : Except PyError Bytes := do
  let source ← packFields [(r.sourceSsrc, 4)]
  let words ← packFields [(r.lostWord, 4), (r.highestSeq, 4), (r.jitter, 4), (r.lastSr, 4), (r.delaySinceSr, 4)]
  let reportBlock := source ++ words
  let length := (4 + reportBlock.length) / 4 - 1
  let header ← packFields [(0x81, 1), (201, 1), (length, 2), (r.ssrc, 4)]
  return header ++ reportBlock

/-- `from_bytes(data)`. -/
def fromBytes (data : Bytes) : Except PyError RTCPReceiverReport :=
  if data.length < 32 then .error (.valueError "RTCP RR too short".toList)
  else
    let lostWord := unpackBE data 12 4
    .ok
      { ssrc := unpackBE data 4 4
        sourceSsrc := unpackBE data 8 4
        fractionLost := (lostWord >>> 24) &&& 0xFF
        cumulativeLost := lostWord &&& 0x00FFFFFF
        highestSeq := unpackBE data 16 4
        jitter := unpackBE data 20 4
        lastSr := unpackBE data 24 4
        delaySinceSr := unpackBE data 28 4 }

/-- Every field but the losses has 32 bits. -/
structure Fits (r : RTCPReceiverReport) : Prop where
  ssrc : r.ssrc < 2 ^ 32
  source : r.sourceSsrc < 2 ^ 32
  highest : r.highestSeq < 2 ^ 32
  jitter : r.jitter < 2 ^ 32
  last : r.lastSr < 2 ^ 32
  delay : r.delaySinceSr < 2 ^ 32

/-- The words of the report block behind its source. -/
def words (r : RTCPReceiverReport) : List (ℕ × ℕ) :=
  [(r.lostWord, 4), (r.highestSeq, 4), (r.jitter, 4), (r.lastSr, 4), (r.delaySinceSr, 4)]

/-- The header of the report, with six words of report block. -/
def header (r : RTCPReceiverReport) : List (ℕ × ℕ) := [(0x81, 1), (201, 1), (6, 2), (r.ssrc, 4)]

theorem lostWord_eq (r : RTCPReceiverReport) :
    r.lostWord = r.fractionLost % 2 ^ 8 * 2 ^ 24 + r.cumulativeLost % 2 ^ 24 := by
  have hfraction : r.fractionLost &&& 0xFF = r.fractionLost % 2 ^ 8 := Nat.and_two_pow_sub_one_eq_mod _ 8
  have hcumulative : r.cumulativeLost &&& 0x00FFFFFF = r.cumulativeLost % 2 ^ 24 :=
    Nat.and_two_pow_sub_one_eq_mod _ 24
  rw [lostWord, hfraction, hcumulative, ← Nat.shiftLeft_add_eq_or_of_lt (Nat.mod_lt _ (by decide)),
    Nat.shiftLeft_eq]

theorem lostWord_lt (r : RTCPReceiverReport) : r.lostWord < 256 ^ 4 := by
  rw [lostWord_eq]
  omega

theorem lostWord_read (r : RTCPReceiverReport) : (r.lostWord >>> 24) &&& 0xFF = r.fractionLost % 2 ^ 8 ∧
    r.lostWord &&& 0x00FFFFFF = r.cumulativeLost % 2 ^ 24 := by
  have hmask : ∀ n, n &&& 0xFF = n % 2 ^ 8 := fun n => Nat.and_two_pow_sub_one_eq_mod n 8
  have hmask' : ∀ n, n &&& 0x00FFFFFF = n % 2 ^ 24 := fun n => Nat.and_two_pow_sub_one_eq_mod n 24
  rw [hmask, hmask', Nat.shiftRight_eq_div_pow, lostWord_eq]
  omega

theorem fits_iff (r : RTCPReceiverReport) :
    r.Fits ↔ (∀ f ∈ [(r.sourceSsrc, 4)], f.1 < 256 ^ f.2) ∧ (∀ f ∈ r.words, f.1 < 256 ^ f.2) ∧
      ∀ f ∈ r.header, f.1 < 256 ^ f.2 := by
  have hlost := r.lostWord_lt
  simp only [words, header, List.forall_mem_cons, List.not_mem_nil, false_imp_iff, implies_true, and_true]
  constructor
  · rintro ⟨h₁, h₂, h₃, h₄, h₅, h₆⟩
    omega
  · rintro ⟨h₂, ⟨-, h₃, h₄, h₅, h₆⟩, -, -, -, h₁⟩
    exact ⟨by omega, by omega, by omega, by omega, by omega, by omega⟩

theorem toBytes_eq_ok_iff {r : RTCPReceiverReport} {raw : Bytes} :
    r.toBytes = .ok raw ↔
      r.Fits ∧ raw = packed r.header ++ (packed [(r.sourceSsrc, 4)] ++ packed r.words) := by
  have hlength : (packed [(r.sourceSsrc, 4)] ++ packed r.words).length = 24 := by
    rw [List.length_append, packed_length, packed_length]
    rfl
  rw [fits_iff, and_assoc, and_assoc]
  unfold toBytes
  rw [packFields_bind_eq_ok_iff]
  show _ ∧ packFields r.words >>= _ = _ ↔ _
  rw [packFields_bind_eq_ok_iff]
  dsimp only
  rw [hlength]
  show _ ∧ _ ∧ packFields r.header >>= _ = _ ↔ _
  rw [packFields_bind_eq_ok_iff]
  exact and_congr_right' (and_congr_right' (and_congr_right'
    ⟨fun h => (Except.ok.inj h).symm, fun h => congrArg Except.ok h.symm⟩))

/-- **A receiver report is read back**, with its losses cut to their widths. -/
theorem fromBytes_toBytes {r : RTCPReceiverReport} (h : r.Fits) : r.toBytes >>= fromBytes = .ok
    { r with fractionLost := r.fractionLost % 2 ^ 8, cumulativeLost := r.cumulativeLost % 2 ^ 24 } := by
  obtain ⟨hsource, hwords, hheader⟩ := r.fits_iff.mp h
  obtain ⟨raw, hraw⟩ : ∃ raw, raw = packed r.header ++ (packed [(r.sourceSsrc, 4)] ++ packed r.words) := ⟨_, rfl⟩
  rw [toBytes_eq_ok_iff.mpr ⟨h, hraw⟩, ok_bind]
  have hlength : raw.length = 32 := by
    rw [hraw, List.length_append, List.length_append, packed_length, packed_length, packed_length]
    rfl
  have hread := @unpackFields_of_eq raw [] (packed [(r.sourceSsrc, 4)] ++ packed r.words) r.header 0 hraw rfl
    hheader
  have hread' := @unpackFields_of_eq raw (packed r.header) (packed r.words) [(r.sourceSsrc, 4)] 8
    (by rw [hraw, List.append_assoc]) (by rw [packed_length]; rfl) hsource
  have hread'' := @unpackFields_of_eq raw (packed r.header ++ packed [(r.sourceSsrc, 4)]) [] r.words 12
    (by rw [hraw, List.append_nil, List.append_assoc])
    (by rw [List.length_append, packed_length, packed_length]; rfl) hwords
  simp only [header, words, List.map_cons, List.map_nil, unpackFields, List.cons.injEq, and_true]
    at hread hread' hread''
  obtain ⟨-, -, -, hssrc⟩ := hread
  obtain ⟨hlost, hhighest, hjitter, hlast, hdelay⟩ := hread''
  obtain ⟨hfraction, hcumulative⟩ := r.lostWord_read
  rw [fromBytes, if_neg (by omega)]
  simp only [hssrc, hread', hlost, hhighest, hjitter, hlast, hdelay, hfraction, hcumulative]

end RTCPReceiverReport

end Rtp

end VirtualPhone
