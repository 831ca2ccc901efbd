import VirtualPhone.Runtime.Struct

/-! # RTP packets

`RTPPacket` of `ims/rtp.py` on the wire: a header of twelve octets, the contributing sources, and the
payload.  `from_bytes` reads also what this phone never writes, a header extension and padding.  The
jitter buffer has its own view of a packet, with the fields it reads. -/

namespace VirtualPhone

open Runtime

namespace Rtp

/-- `PT_AMR_WB`. -/
def ptAmrWb : ℤ := 96

/-- `PT_TELEPHONE_EVENT`. -/
def ptTelephoneEvent : ℤ := 101

/-- `RTPPacket`. -/
structure RTPPacket where
  version : ℕ := 2
  padding : Bool := false
  extension : Bool := false
  csrcCount : ℕ := 0
  marker : Bool := false
  payloadType : ℤ := ptAmrWb
  sequenceNumber : ℕ := 0
  timestamp : ℕ := 0
  ssrc : ℕ := 0
  csrcList : List ℕ := []
  payload : Bytes := []
deriving DecidableEq, Repr

namespace RTPPacket

/-! ### Writing -/

/-- V(2)|P(1)|X(1)|CC(4). -/
def byte0 (p : RTPPacket) : ℕ :=
  (p.version <<< 6) ||| (p.padding.toNat <<< 5) ||| (p.extension.toNat <<< 4) ||| (p.csrcCount &&& 0x0F)

/-- M(1)|PT(7); `payload_type & 0x7F` is the remainder also of a negative number. -/
def byte1 (p : RTPPacket) : ℕ := (p.marker.toNat <<< 7) ||| (p.payloadType % 0x80).toNat

/-- The contributing sources. -/
def csrcBytes (csrcs : List ℕ) : Bytes := csrcs.flatMap fun csrc => beBytes (csrc % 2 ^ 32) 4

/-- `to_bytes()`. -/
def toBytes (p : RTPPacket) : Except PyError Bytes := do
  let b0 ← packBE p.byte0 1
  let b1 ← packBE p.byte1 1
  let seq ← packBE (p.sequenceNumber % 2 ^ 16) 2
  let ts ← packBE (p.timestamp % 2 ^ 32) 4
  let ssrc ← packBE (p.ssrc % 2 ^ 32) 4
  let header := b0 ++ b1 ++ seq ++ ts ++ ssrc ++ csrcBytes (p.csrcList.take p.csrcCount)
  return header ++ p.payload

/-! ### Reading -/

/-- The sources that are there, at most `cc` of them, and the offset behind them. -/
def readCsrcs (data : Bytes) : ℕ → ℕ → List ℕ × ℕ
  | offset, 0 => ([], offset)
  | offset, cc + 1 =>
      if offset + 4 > data.length then ([], offset)
      else
        let (rest, behind) := readCsrcs data (offset + 4) cc
        (unpackBE data offset 4 :: rest, behind)

/-- `data[a:b]` for an end that may be negative, counted from the end of the octets. -/
def sliceTo (data : Bytes) (a : ℕ) (b : ℤ) : Bytes :=
  slice data a (if b < 0 then (b + data.length).toNat else b.toNat)

/-- `from_bytes(data)`. -/
def fromBytes (data : Bytes) : Except PyError RTPPacket :=
  if data.length < 12 then .error (.valueError "RTP packet too short".toList)
  else
    let byte0 := unpackBE data 0 1
    let byte1 := unpackBE data 1 1
    let version := (byte0 >>> 6) &&& 0x03
    if version ≠ 2 then .error (.valueError "Invalid RTP version".toList)
    else
      let padding : Bool := byte0 &&& 0x20 ≠ 0
      let extension : Bool := byte0 &&& 0x10 ≠ 0
      let cc := byte0 &&& 0x0F
      let (csrcs, offset) := readCsrcs data 12 cc
      let offset :=
        if extension ∧ offset + 4 ≤ data.length then offset + 4 + unpackBE data (offset + 2) 2 * 4 else offset
      let payloadEnd : ℤ :=
        if padding ∧ data.length > offset then data.length - unpackBE data (data.length - 1) 1 else data.length
      .ok
        { version := version
          padding := padding
          extension := extension
          csrcCount := cc
          marker := byte1 &&& 0x80 ≠ 0
          payloadType := (byte1 &&& 0x7F : ℕ)
          sequenceNumber := unpackBE data 2 2
          timestamp := unpackBE data 4 4
          ssrc := unpackBE data 8 4
          csrcList := csrcs
          payload := sliceTo data offset payloadEnd }

/-! ### Reading what was written -/

/-- What the fields of a packet are cut to. -/
def masked (p : RTPPacket) : RTPPacket :=
  { p with
    payloadType := p.payloadType % 128
    sequenceNumber := p.sequenceNumber % 2 ^ 16
    timestamp := p.timestamp % 2 ^ 32
    ssrc := p.ssrc % 2 ^ 32
    csrcList := p.csrcList.map (· % 2 ^ 32) }

/-- A packet of the kind this phone sends. -/
structure Plain (p : RTPPacket) : Prop where
  version : p.version = 2
  padding : p.padding = false
  extension : p.extension = false
  csrcCount : p.csrcCount = p.csrcList.length
  csrcs : p.csrcList.length < 16

theorem first_octet : ∀ cc < 16, ∀ b, b = (2 <<< 6) ||| (false.toNat <<< 5) ||| (false.toNat <<< 4) |||
    (cc &&& 0x0F) → b < 256 ∧ (b >>> 6) &&& 0x03 = 2 ∧ b &&& 0x20 = 0 ∧ b &&& 0x10 = 0 ∧ b &&& 0x0F = cc := by
  rintro cc hcc b rfl
  revert cc
  decide

theorem second_octet : ∀ (m : Bool) (pt : ℕ), pt < 128 → ∀ b, b = (m.toNat <<< 7) ||| pt →
    b < 256 ∧ (decide (b &&& 0x80 ≠ 0)) = m ∧ b &&& 0x7F = pt := by
  rintro m pt hpt b rfl
  revert pt
  cases m
  · decide +kernel
  · decide +kernel

theorem csrcBytes_length (csrcs : List ℕ) : (csrcBytes csrcs).length = 4 * csrcs.length := by
  induction csrcs with
  | nil => rfl
  | cons csrc csrcs ih =>
      rw [csrcBytes, List.flatMap_cons, List.length_append, beBytes_length]
      rw [csrcBytes] at ih
      rw [ih, List.length_cons]
      omega

theorem readCsrcs_of_eq {data head rest : Bytes} {csrcs : List ℕ} (hd : data = head ++ csrcBytes csrcs ++ rest)
    {offset : ℕ} (hoffset : offset = head.length) :
    readCsrcs data offset csrcs.length = (csrcs.map (· % 2 ^ 32), offset + 4 * csrcs.length) := by
  induction csrcs generalizing head offset with
  | nil => rfl
  | cons csrc csrcs ih =>
      have hcons : csrcBytes (csrc :: csrcs) = beBytes (csrc % 2 ^ 32) 4 ++ csrcBytes csrcs := rfl
      have hdata : data = head ++ beBytes (csrc % 2 ^ 32) 4 ++ (csrcBytes csrcs ++ rest) := by
        rw [hd, hcons]
        simp only [List.append_assoc]
      have hlength : offset + 4 ≤ data.length := by
        rw [hdata, List.length_append, List.length_append, beBytes_length]
        omega
      have hfield : unpackBE data offset 4 = csrc % 2 ^ 32 :=
        unpackBE_of_eq hdata hoffset (Nat.mod_lt _ (by decide))
      have hrest := @ih (head ++ beBytes (csrc % 2 ^ 32) 4) (by rw [hdata]; simp only [List.append_assoc])
        (offset + 4) (by rw [List.length_append, beBytes_length, hoffset])
      rw [List.length_cons, readCsrcs, if_neg (by omega), hrest, hfield]
      simp only [List.map_cons, Prod.mk.injEq, true_and]
      omega

/-- The octets of a plain packet. -/
def image (p : RTPPacket) : Bytes :=
  beBytes p.byte0 1 ++ beBytes p.byte1 1 ++ beBytes (p.sequenceNumber % 2 ^ 16) 2 ++
    beBytes (p.timestamp % 2 ^ 32) 4 ++ beBytes (p.ssrc % 2 ^ 32) 4 ++ csrcBytes p.csrcList ++ p.payload

theorem byte1_lt (p : RTPPacket) : p.byte1 < 256 ∧ (decide (p.byte1 &&& 0x80 ≠ 0)) = p.marker ∧
    ((p.byte1 &&& 0x7F : ℕ) : ℤ) = p.payloadType % 128 := by
  have hpos : 0 ≤ p.payloadType % 128 := Int.emod_nonneg _ (by decide)
  have hlt : p.payloadType % 128 < 128 := Int.emod_lt_of_pos _ (by decide)
  obtain ⟨hbyte, hmarker, hpt⟩ := second_octet p.marker (p.payloadType % 128).toNat (by omega) p.byte1 rfl
  refine ⟨hbyte, hmarker, ?_⟩
  rw [hpt]
  omega

namespace Plain

variable {p : RTPPacket}

theorem byte0 (h : p.Plain) : p.byte0 < 256 ∧ (p.byte0 >>> 6) &&& 0x03 = 2 ∧ p.byte0 &&& 0x20 = 0 ∧
    p.byte0 &&& 0x10 = 0 ∧ p.byte0 &&& 0x0F = p.csrcList.length := by
  refine first_octet _ h.csrcs p.byte0 ?_
  rw [RTPPacket.byte0, h.version, h.padding, h.extension, h.csrcCount]

theorem toBytes (h : p.Plain) : p.toBytes = .ok p.image := by
  unfold RTPPacket.toBytes
  have hseq : p.sequenceNumber % 2 ^ 16 < 256 ^ 2 := Nat.mod_lt _ (by decide)
  have hts : p.timestamp % 2 ^ 32 < 256 ^ 4 := Nat.mod_lt _ (by decide)
  have hssrc : p.ssrc % 2 ^ 32 < 256 ^ 4 := Nat.mod_lt _ (by decide)
  rw [packBE_of_lt h.byte0.1, packBE_of_lt p.byte1_lt.1, packBE_of_lt hseq, packBE_of_lt hts,
    packBE_of_lt hssrc, h.csrcCount, List.take_length]
  rfl

theorem image_length (p : RTPPacket) : p.image.length = 12 + 4 * p.csrcList.length + p.payload.length := by
  simp only [image, List.length_append, beBytes_length, csrcBytes_length]

end Plain

theorem image_fields (p : RTPPacket) (h0 : p.byte0 < 256) : unpackBE p.image 0 1 = p.byte0 ∧
    unpackBE p.image 1 1 = p.byte1 ∧ unpackBE p.image 2 2 = p.sequenceNumber % 2 ^ 16 ∧
    unpackBE p.image 4 4 = p.timestamp % 2 ^ 32 ∧ unpackBE p.image 8 4 = p.ssrc % 2 ^ 32 := by
  refine ⟨?_, ?_, ?_, ?_, ?_⟩
  · have hd : p.image = [] ++ beBytes p.byte0 1 ++ (beBytes p.byte1 1 ++
        (beBytes (p.sequenceNumber % 2 ^ 16) 2 ++ (beBytes (p.timestamp % 2 ^ 32) 4 ++
          (beBytes (p.ssrc % 2 ^ 32) 4 ++ (csrcBytes p.csrcList ++ p.payload))))) := by
      simp only [image, List.append_assoc, List.nil_append]
    exact unpackBE_of_eq hd rfl h0
  · have hd : p.image = beBytes p.byte0 1 ++ beBytes p.byte1 1 ++ (beBytes (p.sequenceNumber % 2 ^ 16) 2 ++
        (beBytes (p.timestamp % 2 ^ 32) 4 ++ (beBytes (p.ssrc % 2 ^ 32) 4 ++
          (csrcBytes p.csrcList ++ p.payload)))) := by
      simp only [image, List.append_assoc]
    exact unpackBE_of_eq hd (by simp) p.byte1_lt.1
  · have hd : p.image = beBytes p.byte0 1 ++ beBytes p.byte1 1 ++ beBytes (p.sequenceNumber % 2 ^ 16) 2 ++
        (beBytes (p.timestamp % 2 ^ 32) 4 ++ (beBytes (p.ssrc % 2 ^ 32) 4 ++
          (csrcBytes p.csrcList ++ p.payload))) := by
      simp only [image, List.append_assoc]
    exact unpackBE_of_eq hd (by simp) (Nat.mod_lt _ (by decide))
  · have hd : p.image = beBytes p.byte0 1 ++ beBytes p.byte1 1 ++ beBytes (p.sequenceNumber % 2 ^ 16) 2 ++
        beBytes (p.timestamp % 2 ^ 32) 4 ++ (beBytes (p.ssrc % 2 ^ 32) 4 ++
          (csrcBytes p.csrcList ++ p.payload)) := by
      simp only [image, List.append_assoc]
    exact unpackBE_of_eq hd (by simp) (Nat.mod_lt _ (by decide))
  · have hd : p.image = beBytes p.byte0 1 ++ beBytes p.byte1 1 ++ beBytes (p.sequenceNumber % 2 ^ 16) 2 ++
        beBytes (p.timestamp % 2 ^ 32) 4 ++ beBytes (p.ssrc % 2 ^ 32) 4 ++
          (csrcBytes p.csrcList ++ p.payload) := by
      simp only [image, List.append_assoc]
    exact unpackBE_of_eq hd (by simp) (Nat.mod_lt _ (by decide))

theorem image_payload (p : RTPPacket) :
    sliceTo p.image (12 + 4 * p.csrcList.length) p.image.length = p.payload := by
  have hlength := Plain.image_length p
  rw [sliceTo, if_neg (by omega), Int.toNat_natCast]
  refine slice_of_eq (List.append_nil _).symm ?_ (by omega)
  simp only [List.length_append, beBytes_length, csrcBytes_length]

/-- **A plain packet is read back**, with its fields cut to their widths. -/
theorem fromBytes_image {p : RTPPacket} (h : p.Plain) : fromBytes p.image = .ok p.masked := by
  obtain ⟨h0, hversion, hpadding, hextension, hcc⟩ := h.byte0
  obtain ⟨-, hmarker, hpt⟩ := p.byte1_lt
  obtain ⟨hf0, hf1, hseq, hts, hssrc⟩ := p.image_fields h0
  have hlength := Plain.image_length p
  have hcsrcs : readCsrcs p.image 12 p.csrcList.length =
      (p.csrcList.map (· % 2 ^ 32), 12 + 4 * p.csrcList.length) :=
    @readCsrcs_of_eq p.image (beBytes p.byte0 1 ++ beBytes p.byte1 1 ++
      beBytes (p.sequenceNumber % 2 ^ 16) 2 ++ beBytes (p.timestamp % 2 ^ 32) 4 ++
        beBytes (p.ssrc % 2 ^ 32) 4) p.payload _ rfl _ (by simp)
  unfold fromBytes
  rw [if_neg (by omega)]
  simp only [hf0, hf1, hversion, hpadding, hextension, hcc, hcsrcs, hseq, hts, hssrc, hmarker, hpt]
  simp only [ne_eq, not_true_eq_false, decide_false, Bool.false_eq_true, false_and, if_false,
    image_payload, masked, h.version, h.padding, h.extension, h.csrcCount]

end RTPPacket

end Rtp

end VirtualPhone
