import VirtualPhone.Rtp

/-! # What the RTP parser accepts (`ims/rtp.py`)

A packet announces its regions: the contributing sources by a count, the header extension by a flag and a
length, the padding by a flag and its last octet.  `from_bytes` looks for the twelve octets of the header
and the version only.  Sources that are not there are left out, an extension that is not there is stepped
over, and the end of a payload behind too much padding is counted from the end of the octets; so it is
exactly the packets whose regions fit that are read as they were written (`acceptsWellFormed_iff`). -/

namespace VirtualPhone

open Runtime

namespace Rtp

namespace RTPPacket

/-! ### What a packet announces -/

/-- The contributing sources announced. -/
def announcedCsrcs (d : Bytes) : ℕ := unpackBE d 0 1 &&& 0x0F

/-- The octets of the header extension announced behind the sources: its header and its data. -/
def announcedExtension (d : Bytes) : ℕ :=
  if unpackBE d 0 1 &&& 0x10 ≠ 0 then 4 + 4 * unpackBE d (12 + 4 * announcedCsrcs d + 2) 2 else 0

/-- The padding is announced. -/
def IsPadded (d : Bytes) : Prop := unpackBE d 0 1 &&& 0x20 ≠ 0

instance (d : Bytes) : Decidable (IsPadded d) := inferInstanceAs (Decidable (_ ≠ _))

/-- The octets of padding announced, by the last octet. -/
def announcedPadding (d : Bytes) : ℕ := if IsPadded d then unpackBE d (d.length - 1) 1 else 0

/-- The regions announced fit, and padding, where it is announced, counts its own last octet. -/
def Fits (d : Bytes) : Prop :=
  12 + 4 * announcedCsrcs d + announcedExtension d + announcedPadding d ≤ d.length ∧
    (IsPadded d → 1 ≤ announcedPadding d)

instance (d : Bytes) : Decidable (Fits d) := inferInstanceAs (Decidable (_ ∧ _))

/-- The packet that was read has its sources, and its regions make up the octets. -/
def WellFormed (d : Bytes) (p : RTPPacket) : Prop :=
  p.csrcList.length = p.csrcCount ∧
    12 + 4 * p.csrcCount + announcedExtension d + p.payload.length + announcedPadding d = d.length ∧
    (p.padding = true → 1 ≤ announcedPadding d)

instance (d : Bytes) (p : RTPPacket) : Decidable (WellFormed d p) := inferInstanceAs (Decidable (_ ∧ _ ∧ _))

/-- What is returned is well formed, and everything else is refused with a ValueError. -/
def AcceptsWellFormed (d : Bytes) : Prop :=
  match fromBytes d with
  | .ok p => WellFormed d p
  | .error e => ∃ msg, e = .valueError msg

/-! ### What is read -/

/-- The sources that are there are read, at most those that are announced. -/
theorem readCsrcs_length (data : Bytes) (offset cc : ℕ) (h : offset ≤ data.length) :
    (readCsrcs data offset cc).1.length = min cc ((data.length - offset) / 4) ∧
      (readCsrcs data offset cc).2 = offset + 4 * (readCsrcs data offset cc).1.length := by
  induction cc generalizing offset with
  | zero => exact ⟨(Nat.zero_min _).symm, rfl⟩
  | succ cc ih =>
      rw [readCsrcs]
      by_cases hend : offset + 4 > data.length
      · rw [if_pos hend]
        refine ⟨?_, rfl⟩
        show 0 = _
        omega
      · rw [if_neg hend]
        obtain ⟨hlength, hoffset⟩ := ih (offset + 4) (by omega)
        dsimp only
        rw [List.length_cons, hoffset]
        omega

theorem readCsrcs_all {data : Bytes} {cc : ℕ} (h : 12 + 4 * cc ≤ data.length) :
    (readCsrcs data 12 cc).1.length = cc ∧ (readCsrcs data 12 cc).2 = 12 + 4 * cc := by
  obtain ⟨hlength, hoffset⟩ := readCsrcs_length data 12 cc (by omega)
  omega

theorem sliceTo_length {data : Bytes} {a b : ℕ} (hb : b ≤ data.length) :
    (sliceTo data a (b : ℤ)).length = b - a := by
  rw [sliceTo, if_neg (by omega), Int.toNat_natCast, slice_length]
  omega

/-- Too few octets, or another version. -/
def Refused (d : Bytes) : Prop := d.length < 12 ∨ (unpackBE d 0 1 >>> 6) &&& 0x03 ≠ 2

instance (d : Bytes) : Decidable (Refused d) := inferInstanceAs (Decidable (_ ∨ _))

theorem fromBytes_refused {d : Bytes} (h : Refused d) : ∃ msg, fromBytes d = .error (.valueError msg) := by
  unfold fromBytes
  by_cases hshort : d.length < 12
  · rw [if_pos hshort]
    exact ⟨_, rfl⟩
  · rw [if_neg hshort]
    dsimp only
    rw [if_pos (h.resolve_left hshort)]
    exact ⟨_, rfl⟩

/-- Where the payload begins, behind the sources and the extension that are there. -/
def payloadStart (d : Bytes) : ℕ :=
  let offset := (readCsrcs d 12 (announcedCsrcs d)).2
  if unpackBE d 0 1 &&& 0x10 ≠ 0 ∧ offset + 4 ≤ d.length then offset + 4 + unpackBE d (offset + 2) 2 * 4
  else offset

/-- Where the payload ends. -/
def payloadEnd (d : Bytes) : ℤ :=
  if IsPadded d ∧ d.length > payloadStart d then d.length - unpackBE d (d.length - 1) 1 else d.length

theorem fromBytes_accepted {d : Bytes} (h : ¬Refused d) :
    ∃ p, fromBytes d = .ok p ∧ p.csrcCount = announcedCsrcs d ∧ (p.padding = true ↔ IsPadded d) ∧
      p.csrcList = (readCsrcs d 12 (announcedCsrcs d)).1 ∧
      p.payload = sliceTo d (payloadStart d) (payloadEnd d) := by
  obtain ⟨hlength, hversion⟩ := not_or.mp h
  obtain ⟨p, hp⟩ : ∃ p, fromBytes d = .ok p := by
    unfold fromBytes
    rw [if_neg hlength]
    dsimp only
    rw [if_neg hversion]
    exact ⟨_, rfl⟩
  refine ⟨p, hp, ?_⟩
  unfold fromBytes at hp
  rw [if_neg hlength] at hp
  dsimp only at hp
  rw [if_neg hversion] at hp
  obtain rfl := Except.ok.inj hp
  refine ⟨rfl, decide_eq_true_iff, rfl, ?_⟩
  simp only [decide_eq_true_eq]
  rfl

/-! ### What fits is read as it was written -/

/-- The payload lies between the regions in front of it and the padding, if these fit. -/
theorem payload_length {d : Bytes} (h : Fits d) :
    (sliceTo d (payloadStart d) (payloadEnd d)).length =
      d.length - announcedPadding d - (12 + 4 * announcedCsrcs d + announcedExtension d) := by
  obtain ⟨hfits, hpadding⟩ := h
  have hcsrcs : (readCsrcs d 12 (announcedCsrcs d)).2 = 12 + 4 * announcedCsrcs d :=
    (readCsrcs_all (by omega)).2
  have hstart : payloadStart d = 12 + 4 * announcedCsrcs d + announcedExtension d := by
    unfold payloadStart announcedExtension at *
    dsimp only
    rw [hcsrcs]
    by_cases hextension : unpackBE d 0 1 &&& 0x10 ≠ 0
    · rw [if_pos hextension] at hfits ⊢
      rw [if_pos ⟨hextension, by omega⟩]
      omega
    · rw [if_neg hextension, if_neg fun hx => hextension hx.1, Nat.add_zero]
  have hend : payloadEnd d = ((d.length - announcedPadding d : ℕ) : ℤ) := by
    unfold payloadEnd announcedPadding at *
    rw [hstart]
    by_cases hpadded : IsPadded d
    · rw [if_pos hpadded] at hfits hpadding ⊢
      have hone := hpadding hpadded
      rw [if_pos ⟨hpadded, by omega⟩]
      omega
    · rw [if_neg hpadded, if_neg fun hx => hpadded hx.1, Nat.sub_zero]
  rw [hend, sliceTo_length (Nat.sub_le _ _), hstart]

/-- **What the parser accepts.**  Every packet that is returned has its sources and its regions, and
everything else is refused with a ValueError, exactly for the octets that are too few, of another
version, or whose announced regions fit. -/
theorem acceptsWellFormed_iff (d : Bytes) : AcceptsWellFormed d ↔ Refused d ∨ Fits d := by
  unfold AcceptsWellFormed
  by_cases hrefused : Refused d
  · obtain ⟨msg, hmsg⟩ := fromBytes_refused hrefused
    rw [hmsg]
    exact iff_of_true ⟨msg, rfl⟩ (Or.inl hrefused)
  · obtain ⟨p, hp, hcount, hpadded, hcsrcs, hpayload⟩ := fromBytes_accepted hrefused
    rw [hp, or_iff_right hrefused]
    show WellFormed d p ↔ Fits d
    unfold WellFormed
    rw [hcount, hcsrcs, hpayload, hpadded]
    constructor
    · rintro ⟨-, hlength, hpadding⟩
      exact ⟨by omega, hpadding⟩
    · intro hfits
      have hlength := hfits.1
      refine ⟨(readCsrcs_all (by omega)).1, ?_, hfits.2⟩
      rw [payload_length hfits]
      omega

/-- A header of twelve octets that announces one source: the packet is returned without it. -/
theorem truncated_csrc : ∃ p, fromBytes [0x81, 96, 0, 1, 0, 0, 0, 0, 0, 0, 0, 9] = .ok p ∧
    p.csrcCount = 1 ∧ p.csrcList = [] ∧ ¬AcceptsWellFormed [0x81, 96, 0, 1, 0, 0, 0, 0, 0, 0, 0, 9] := by
  refine ⟨_, rfl, by decide, by decide, fun h => ?_⟩
  have hcsrcs : (0 : ℕ) = 1 := h.1
  cases hcsrcs

end RTPPacket

end Rtp

end VirtualPhone
