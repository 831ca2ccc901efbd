import VirtualPhone.Rtcp
import VirtualPhone.RtpDiscipline

/-! # The media formats are read back (`ims/rtp.py`, `ims/codec.py`)

RTP packets, RTCP reports, telephone events and frames of the AMR codecs.  Each format is read back if its
fields are within their widths; a field that is not is cut, or refused. -/

namespace VirtualPhone

open Runtime

namespace Rtp

/-! ### RTP packets -/

/-- The fields of a packet are within their widths. -/
structure RTPPacket.InWidth (p : RTPPacket) : Prop where
  payloadType : 0 ≤ p.payloadType ∧ p.payloadType < 128
  sequenceNumber : p.sequenceNumber < 2 ^ 16
  timestamp : p.timestamp < 2 ^ 32
  ssrc : p.ssrc < 2 ^ 32
  csrcs : ∀ csrc ∈ p.csrcList, csrc < 2 ^ 32

namespace RTPPacket

/-- Nothing is cut from a packet whose fields are within their widths. -/
theorem InWidth.masked {p : RTPPacket} (h : p.InWidth) : p.masked = p := by
  have hcsrcs : p.csrcList.map (· % 2 ^ 32) = p.csrcList := by
    calc p.csrcList.map (· % 2 ^ 32) = p.csrcList.map id :=
          List.map_congr_left fun csrc hcsrc => Nat.mod_eq_of_lt (h.csrcs csrc hcsrc)
      _ = p.csrcList := List.map_id _
  rw [RTPPacket.masked, hcsrcs, Int.emod_eq_of_lt h.payloadType.1 h.payloadType.2,
    Nat.mod_eq_of_lt h.sequenceNumber, Nat.mod_eq_of_lt h.timestamp, Nat.mod_eq_of_lt h.ssrc]

theorem fromBytes_toBytes {p : RTPPacket} (hplain : p.Plain) (h : p.InWidth) :
    p.toBytes >>= fromBytes = .ok p := by
  rw [hplain.toBytes, ok_bind, fromBytes_image hplain, h.masked]

end RTPPacket

/-! ### Frames of the codec -/

namespace AMRFrame

/-- `from_rtp_payload(payload, is_wideband)`. -/
def fromRtpPayload (payload : Bytes) (isWideband : Bool) : Except PyError AMRFrame :=
  if payload.length < 2 then .error (.valueError "AMR payload too short".toList)
  else do
    let cmrByte ← byteAt payload 0
    let tocByte ← byteAt payload 1
    return {
      mode := ((tocByte.toNat >>> 3) &&& 0x0F : ℕ)
      quality := tocByte.toNat &&& 0x04 ≠ 0
      data := payload.drop 2
      cmr := ((cmrByte.toNat >>> 4) &&& 0x0F : ℕ)
      isWideband := isWideband }

theorem cmr_octet : ∀ cmr < 16, cmr <<< 4 < 256 ∧ ((cmr <<< 4) >>> 4) &&& 0x0F = cmr := by decide

theorem toc_octet : ∀ mode < 16, ∀ quality : Bool, ∀ n, n = (0 <<< 7) ||| (mode <<< 3) ||| (quality.toNat <<< 2) →
    n < 256 ∧ (n >>> 3) &&& 0x0F = mode ∧ decide (n &&& 0x04 ≠ 0) = quality := by
  rintro mode hmode quality n rfl
  revert mode
  cases quality
  · decide
  · decide

/-- The octets in front of the data of a frame. -/
def payloadHeader (f : AMRFrame) : Bytes :=
  [UInt8.ofNat ((f.cmr % 16).toNat <<< 4),
    UInt8.ofNat ((0 <<< 7) ||| ((f.mode % 16).toNat <<< 3) ||| (f.quality.toNat <<< 2))]

theorem toRtpPayload_eq (f : AMRFrame) : f.toRtpPayload = .ok (f.payloadHeader ++ f.data) := by
  have hcmr := (cmr_octet (f.cmr % 16).toNat (by omega)).1
  have htoc := (toc_octet (f.mode % 16).toNat (by omega) f.quality _ rfl).1
  unfold toRtpPayload
  rw [mkByte_of_lt hcmr, ok_bind, mkByte_of_lt htoc, ok_bind]
  rfl

/-- **A frame is read back**, with mode and mode request cut to four bits. -/
theorem fromRtpPayload_header (f : AMRFrame) (isWideband : Bool) :
    fromRtpPayload (f.payloadHeader ++ f.data) isWideband =
      .ok { f with mode := f.mode % 16, cmr := f.cmr % 16, isWideband := isWideband } := by
  have hmode : ((f.mode % 16).toNat : ℤ) = f.mode % 16 := Int.toNat_of_nonneg (Int.emod_nonneg _ (by decide))
  have hcmr : ((f.cmr % 16).toNat : ℤ) = f.cmr % 16 := Int.toNat_of_nonneg (Int.emod_nonneg _ (by decide))
  obtain ⟨hcmrByte, hcmrRead⟩ := cmr_octet (f.cmr % 16).toNat (by omega)
  obtain ⟨n, hn⟩ : ∃ n, n = (0 <<< 7) ||| ((f.mode % 16).toNat <<< 3) ||| (f.quality.toNat <<< 2) := ⟨_, rfl⟩
  obtain ⟨htocByte, hmodeRead, hquality⟩ := toc_octet (f.mode % 16).toNat (by omega) f.quality n hn
  unfold fromRtpPayload payloadHeader
  rw [← hn, if_neg (by simp)]
  show Except.ok _ = _
  simp only [toNat_ofNat_of_lt hcmrByte, toNat_ofNat_of_lt htocByte, hcmrRead, hmodeRead, hquality, hmode, hcmr]
  rfl

theorem fromRtpPayload_toRtpPayload {f : AMRFrame} (hmode : 0 ≤ f.mode ∧ f.mode < 16)
    (hcmr : 0 ≤ f.cmr ∧ f.cmr < 16) :
    (f.toRtpPayload >>= fun payload => fromRtpPayload payload f.isWideband) = .ok f := by
  rw [toRtpPayload_eq, ok_bind, fromRtpPayload_header, Int.emod_eq_of_lt hmode.1 hmode.2,
    Int.emod_eq_of_lt hcmr.1 hcmr.2]

end AMRFrame

/-! ### All of them -/

/-- **The media formats are read back**: RTP packets of this phone, sender and receiver reports, telephone
events and codec frames, whose fields are within their widths. -/
theorem media_formats_round_trip :
    (∀ p : RTPPacket, p.Plain → p.InWidth → p.toBytes >>= RTPPacket.fromBytes = .ok p) ∧
    (∀ r : RTCPSenderReport, r.Fits → r.toBytes >>= RTCPSenderReport.fromBytes = .ok r) ∧
    (∀ r : RTCPReceiverReport, r.Fits → r.fractionLost < 2 ^ 8 → r.cumulativeLost < 2 ^ 24 →
      r.toBytes >>= RTCPReceiverReport.fromBytes = .ok r) ∧
    (∀ e : DTMFEvent, e.event < 256 → e.volume < 64 → e.duration < 65536 →
      e.toRtpPayload >>= DTMFEvent.fromRtpPayload = .ok e) ∧
    ∀ f : AMRFrame, 0 ≤ f.mode ∧ f.mode < 16 → 0 ≤ f.cmr ∧ f.cmr < 16 →
      (f.toRtpPayload >>= fun payload => AMRFrame.fromRtpPayload payload f.isWideband) = .ok f := by
  refine ⟨fun p hplain h => RTPPacket.fromBytes_toBytes hplain h,
    fun r h => RTCPSenderReport.fromBytes_toBytes h, fun r h hfraction hcumulative => ?_,
    fun e hevent hvolume hduration => ?_, fun f hmode hcmr => AMRFrame.fromRtpPayload_toRtpPayload hmode hcmr⟩
  · rw [RTCPReceiverReport.fromBytes_toBytes h, Nat.mod_eq_of_lt hfraction, Nat.mod_eq_of_lt hcumulative]
  · obtain ⟨payload, hpayload, hread⟩ := DTMFEvent.fromRtpPayload_toRtpPayload hevent hvolume hduration
    rw [hpayload, ok_bind, hread]

/-- One of each, with fields that are not the defaults. -/
theorem media_formats_sample :
    (({ marker := true, payloadType := 127, sequenceNumber := 65535, csrcCount := 2, csrcList := [7, 4294967295],
        payload := [1, 2] } : RTPPacket).toBytes >>= RTPPacket.fromBytes =
      .ok { marker := true, payloadType := 127, sequenceNumber := 65535, csrcCount := 2,
            csrcList := [7, 4294967295], payload := [1, 2] }) ∧
    (({ ssrc := 1, ntpTimestampMsw := 4294967295 } : RTCPSenderReport).toBytes >>= RTCPSenderReport.fromBytes =
      .ok { ssrc := 1, ntpTimestampMsw := 4294967295 }) ∧
    (({ fractionLost := 255, cumulativeLost := 16777215 } : RTCPReceiverReport).toBytes >>=
      RTCPReceiverReport.fromBytes = .ok { fractionLost := 255, cumulativeLost := 16777215 }) ∧
    (({ event := 255, isEnd := true, volume := 63 } : DTMFEvent).toRtpPayload >>= DTMFEvent.fromRtpPayload =
      .ok { event := 255, isEnd := true, volume := 63 }) ∧
    (({ mode := 15, quality := false, data := [9], cmr := 3 } : AMRFrame).toRtpPayload >>=
      fun payload => AMRFrame.fromRtpPayload payload true) =
      .ok { mode := 15, quality := false, data := [9], cmr := 3 } :=
  ⟨media_formats_round_trip.1 _ ⟨rfl, rfl, rfl, rfl, by decide⟩
      ⟨by decide, by decide, by decide, by decide, by decide⟩,
    media_formats_round_trip.2.1 _ ⟨by decide, by decide, by decide, by decide, by decide, by decide⟩,
    media_formats_round_trip.2.2.1 _ ⟨by decide, by decide, by decide, by decide, by decide, by decide⟩
      (by decide) (by decide),
    media_formats_round_trip.2.2.2.1 _ (by decide) (by decide) (by decide),
    media_formats_round_trip.2.2.2.2 { mode := 15, quality := false, data := [9], cmr := 3 } (by decide)
      (by decide)⟩

end Rtp

end VirtualPhone
