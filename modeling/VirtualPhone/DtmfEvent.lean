import VirtualPhone.Runtime.Struct

/-! # Telephone events

`DTMF_EVENTS`, `DTMFEvent` and `get_codec_info` of `ims/codec.py`. -/

namespace VirtualPhone

open Runtime

/-- `get_codec_info(codec_name)`: the clock rate and the samples in a frame; AMR-WB for an unknown name. -/
def getCodecInfo (codecName : Text) : ℕ × ℕ :=
  let codecUpper := (codecName.map Char.toUpper).filter fun c => c ≠ '-' ∧ c ≠ '_'
  if codecUpper = "AMR".toList then (8000, 160) else (16000, 320)

/-- `DTMF_EVENTS`. -/
def dtmfEvents : List (Text × ℕ) := [
    (['0'], 0), (['1'], 1), (['2'], 2), (['3'], 3), (['4'], 4),
    (['5'], 5), (['6'], 6), (['7'], 7), (['8'], 8), (['9'], 9),
    (['*'], 10), (['#'], 11),
    (['A'], 12), (['B'], 13), (['C'], 14), (['D'], 15)]

/-- The string is a digit of the table. -/
def IsDtmfDigit (digit : Text) : Prop := digit ∈ dtmfEvents.map Prod.fst

instance (digit : Text) : Decidable (IsDtmfDigit digit) := inferInstanceAs (Decidable (_ ∈ _))

/-- `DTMFEvent`. -/
structure DTMFEvent where
  event : ℕ := 0
  isEnd : Bool := false
  volume : ℕ := 10
  duration : ℕ := 1600
deriving DecidableEq, Repr

namespace DTMFEvent

/-- `to_rtp_payload()`. -/
def toRtpPayload (e : DTMFEvent) : Except PyError Bytes := do
  let byte1 := (e.isEnd.toNat <<< 7) ||| (e.volume &&& 0x3F)
  let b0 ← packBE (e.event &&& 0xFF) 1
  let b1 ← packBE byte1 1
  let duration ← packBE e.duration 2
  return b0 ++ b1 ++ duration

/-- `from_rtp_payload(payload)`. -/
def fromRtpPayload (payload : Bytes) : Except PyError DTMFEvent :=
  if payload.length < 4 then .error (.valueError "DTMF payload too short".toList)
  else
    let byte1 := unpackBE payload 1 1
    .ok
      { event := unpackBE payload 0 1
        isEnd := byte1 &&& 0x80 ≠ 0
        volume := byte1 &&& 0x3F
        duration := unpackBE payload 2 2 }

/-- `from_digit(digit, duration, end)`. -/
def fromDigit (digit : Text) (duration : ℕ) (isEnd : Bool) : DTMFEvent where
  event := (dtmfEvents.lookup (digit.map Char.toUpper)).getD 0
  isEnd := isEnd
  duration := duration

/-- `digit`: the first digit of the table with that event. -/
def digit (e : DTMFEvent) : Text :=
  ((dtmfEvents.find? fun entry => entry.2 = e.event).map Prod.fst).getD ['?']

/-! ### Reading what was written -/

theorem event_octet : ∀ (b : Bool) (volume : ℕ), volume < 64 → ∀ n, n = (b.toNat <<< 7) ||| (volume &&& 0x3F) →
    n < 256 ∧ (decide (n &&& 0x80 ≠ 0)) = b ∧ n &&& 0x3F = volume := by
  rintro b volume hvolume n rfl
  revert volume
  cases b
  · decide +kernel
  · decide +kernel

/-- An event of one octet with a duration of two is read back. -/
theorem fromRtpPayload_toRtpPayload {e : DTMFEvent} (hevent : e.event < 256) (hvolume : e.volume < 64)
    (hduration : e.duration < 65536) :
    ∃ payload, e.toRtpPayload = .ok payload ∧ fromRtpPayload payload = .ok e := by
  obtain ⟨n, hn⟩ : ∃ n, n = (e.isEnd.toNat <<< 7) ||| (e.volume &&& 0x3F) := ⟨_, rfl⟩
  obtain ⟨hbyte, hend, hvol⟩ := event_octet e.isEnd e.volume hvolume n hn
  have hmask : e.event &&& 0xFF = e.event := by
    have := Nat.and_two_pow_sub_one_eq_mod e.event 8
    rw [Nat.mod_eq_of_lt hevent] at this
    exact this
  refine ⟨beBytes e.event 1 ++ beBytes n 1 ++ beBytes e.duration 2, ?_, ?_⟩
  · unfold toRtpPayload
    simp only [← hn, hmask]
    rw [packBE_of_lt hevent, packBE_of_lt hbyte, packBE_of_lt hduration]
    rfl
  · have h0 : unpackBE (beBytes e.event 1 ++ beBytes n 1 ++ beBytes e.duration 2) 0 1 = e.event := by
      have hd : beBytes e.event 1 ++ beBytes n 1 ++ beBytes e.duration 2 =
          [] ++ beBytes e.event 1 ++ (beBytes n 1 ++ beBytes e.duration 2) := by
        rw [List.nil_append, List.append_assoc]
      exact unpackBE_of_eq hd rfl hevent
    have h1 : unpackBE (beBytes e.event 1 ++ beBytes n 1 ++ beBytes e.duration 2) 1 1 = n :=
      unpackBE_of_eq rfl (by simp) hbyte
    have h2 : unpackBE (beBytes e.event 1 ++ beBytes n 1 ++ beBytes e.duration 2) 2 2 = e.duration :=
      unpackBE_of_eq (List.append_nil _).symm (by simp) hduration
    unfold fromRtpPayload
    rw [if_neg (by simp)]
    simp only [h0, h1, h2, hend, hvol]

theorem digit_fromDigit {d : Text} (h : IsDtmfDigit d) (duration : ℕ) (isEnd : Bool) :
    (fromDigit d duration isEnd).event < 16 ∧ (fromDigit d duration isEnd).digit = d := by
  have hall : ∀ d ∈ dtmfEvents.map Prod.fst,
      (fromDigit d 0 false).event < 16 ∧ (fromDigit d 0 false).digit = d := by decide +kernel
  exact hall d h

end DTMFEvent

end VirtualPhone
