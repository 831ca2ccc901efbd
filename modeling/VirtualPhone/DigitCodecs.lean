import VirtualPhone.ApduHandler
import VirtualPhone.Gsm7

/-! # Digits in nibbles

Numbers travel as digits, two to an octet: `encode_bcd` of `ims/sms_pdu.py` and `_encode_bcd` of
`euicc/apdu/handler.py` put the first digit of a pair in the low nibble, `encode_eid` of
`rsp/asn1/rsp_definitions.py` in the high one.  An odd digit at the end comes with a nibble `F`.
`_encode_plmn` puts three digits of the country code and two or three of the network code into three
octets.

The two BCD encoders are one function (`packDigitPairs_eq_encodeBcd`), and the digits come back out of
all of them. -/

namespace VirtualPhone

open Runtime

/-! ### Nibbles -/

/-- The nibble of an octet that counts ones. -/
def lowNibble (b : UInt8) : ℕ := b.toNat &&& 0x0F

/-- The nibble of an octet that counts sixteens. -/
def highNibble (b : UInt8) : ℕ := b.toNat >>> 4 &&& 0x0F

/-- The nibbles of octets, the low one of each first. -/
def nibbles (data : Bytes) : List ℕ := data.flatMap fun b => [lowNibble b, highNibble b]

theorem lowNibble_pair {low high : ℕ} (hl : low < 16) (hh : high < 16) :
    lowNibble (UInt8.ofNat ((high <<< 4) ||| low)) = low := low_nibble hl hh

theorem highNibble_pair {low high : ℕ} (hl : low < 16) (hh : high < 16) :
    highNibble (UInt8.ofNat ((high <<< 4) ||| low)) = high := high_nibble hl hh

theorem nibbles_pair {low high : ℕ} (hl : low < 16) (hh : high < 16) (data : Bytes) :
    nibbles (UInt8.ofNat ((high <<< 4) ||| low) :: data) = low :: high :: nibbles data := by
  rw [nibbles, List.flatMap_cons, lowNibble_pair hl hh, highNibble_pair hl hh]
  rfl

/-- The values of digits. -/
def digitValues (digits : Text) : List ℕ := digits.map fun c => c.toNat - 48

theorem digitChar_digitValues {digits : Text} (h : ∀ c ∈ digits, IsDigit c) :
    (digitValues digits).map digitChar = digits := by
  rw [digitValues, List.map_map]
  refine (List.map_congr_left fun c hc => ?_).trans (List.map_id digits)
  exact digitChar_of_isDigit (h c hc)

/-! ### The first digit in the low nibble -/

/-- **The two BCD encoders are one function**, also on what they refuse. -/
theorem packDigitPairs_eq_encodeBcd (digits : Text) : packDigitPairs digits = encodeBcd digits := by
  fun_induction encodeBcd digits with
  | case1 => rfl
  | case2 c => simp only [packDigitPairs, Nat.or_comm]
  | case3 c d digits ih => simp only [packDigitPairs, ih, Nat.or_comm]

/-- The nibbles of encoded digits are the digits, and the filler behind an odd number of them. -/
theorem encodeBcd_nibbles {digits : Text} (h : ∀ c ∈ digits, IsDigit c) {bcd : Bytes}
    (hbcd : encodeBcd digits = .ok bcd) :
    nibbles bcd = digitValues digits ++ List.replicate (digits.length % 2) 0x0F := by
  fun_induction encodeBcd digits generalizing bcd with
  | case1 =>
      obtain rfl := Except.ok.inj hbcd
      rfl
  | case2 c =>
      have hc := h c (by simp)
      have hc' := hc.toNat
      rw [digitValue_of_isDigit hc] at hbcd
      obtain rfl := Except.ok.inj hbcd
      rw [nibbles_pair (by omega) (by omega)]
      rfl
  | case3 c d digits ih =>
      have hc := h c (by simp)
      have hd := h d (by simp)
      have hc' := hc.toNat
      have hd' := hd.toNat
      rw [digitValue_of_isDigit hc, digitValue_of_isDigit hd, ok_bind, ok_bind] at hbcd
      obtain ⟨rest, hrest, hbcd⟩ := bind_eq_ok hbcd
      obtain rfl := Except.ok.inj hbcd
      have hlength : (c :: d :: digits).length % 2 = digits.length % 2 := by
        simp only [List.length_cons]
        omega
      rw [nibbles_pair (by omega) (by omega), ih (fun x hx => h x (by simp [hx])) hrest, hlength]
      rfl

/-! ### The first digit in the high nibble -/

/-- `encode_eid(eid)`. -/
def encodeEid : Text → Except PyError Bytes
  | [] => .ok []
  | [c] => do
      let d1 ← digitValue c
      return [UInt8.ofNat ((d1 <<< 4) ||| 0xF)]
  | c :: d :: eid => do
      let d1 ← digitValue c
      let d2 ← digitValue d
      let rest ← encodeEid eid
      return UInt8.ofNat ((d1 <<< 4) ||| d2) :: rest

/-- One octet of `decode_eid`; a low nibble `F` is a filler. -/
def decodeEidStep (result : Text) (byte : UInt8) : Text :=
  let result := result ++ natText (highNibble byte)
  let low := lowNibble byte
  if low ≠ 0xF then result ++ natText low else result

/-- `decode_eid(data)`. -/
def decodeEid (data : Bytes) : Text := data.foldl decodeEidStep []

theorem natText_digitValue {c : Char} (h : IsDigit c) : natText (c.toNat - 48) = [c] := by
  have hone : ∀ d < 10, natText d = [digitChar d] := by decide
  have hc := h.toNat
  rw [hone _ (by omega), digitChar_of_isDigit h]

theorem encodeEid_spec {eid : Text} (h : ∀ c ∈ eid, IsDigit c) :
    ∃ data, encodeEid eid = .ok data ∧ ∀ pre, data.foldl decodeEidStep pre = pre ++ eid := by
  fun_induction encodeEid eid with
  | case1 => exact ⟨[], rfl, fun pre => (List.append_nil pre).symm⟩
  | case2 c =>
      have hc := h c (by simp)
      have hc' := hc.toNat
      refine ⟨[UInt8.ofNat (((c.toNat - 48) <<< 4) ||| 0xF)], ?_, fun pre => ?_⟩
      · rw [digitValue_of_isDigit hc]
        rfl
      · rw [List.foldl_cons, List.foldl_nil, decodeEidStep, lowNibble_pair (by omega) (by omega),
          highNibble_pair (by omega) (by omega), if_neg (by decide), natText_digitValue hc]
  | case3 c d eid ih =>
      have hc := h c (by simp)
      have hd := h d (by simp)
      have hc' := hc.toNat
      have hd' := hd.toNat
      obtain ⟨rest, hrest, hread⟩ := ih fun x hx => h x (by simp [hx])
      refine ⟨UInt8.ofNat (((c.toNat - 48) <<< 4) ||| (d.toNat - 48)) :: rest, ?_, fun pre => ?_⟩
      · rw [digitValue_of_isDigit hc, digitValue_of_isDigit hd, hrest]
        rfl
      · have hstep : decodeEidStep pre (UInt8.ofNat (((c.toNat - 48) <<< 4) ||| (d.toNat - 48))) =
            pre ++ [c, d] := by
          rw [decodeEidStep, lowNibble_pair (by omega) (by omega),
            highNibble_pair (by omega) (by omega), if_pos (by omega), natText_digitValue hc, natText_digitValue hd, List.append_assoc]
          rfl
        rw [List.foldl_cons, hstep, hread, List.append_assoc]
        rfl

/-! ### The network code -/

/-- The country code and the network code that TS 24.008 reads out of three octets; the third digit of
the network code may be a filler. -/
def readPlmn : Bytes → Option (Text × Text)
  | [a, b, c] =>
      let mcc := [lowNibble a, highNibble a, lowNibble b]
      let mnc := [lowNibble c, highNibble c] ++ if highNibble b = 0x0F then [] else [highNibble b]
      some (mcc.map digitChar, mnc.map digitChar)
  | _ => none

theorem plmnNibble_digit {c : Char} (h : IsDigit c) :
    plmnNibble c = .ok (c.toNat - 48) ∧ c.toNat - 48 < 10 := by
  have hc := h.toNat
  have hne : ¬(c = 'F' ∨ c = 'f') := by
    rintro (rfl | rfl)
    · exact absurd h (by decide)
    · exact absurd h (by decide)
  refine ⟨?_, by omega⟩
  rw [plmnNibble, if_neg hne, digitValue_of_isDigit h]

/-- Three digits of the country code and the nibbles of a network code. -/
theorem readPlmn_octets {a b c d e f : ℕ} (ha : a < 16) (hb : b < 16) (hc : c < 16) (hd : d < 16)
    (he : e < 16) (hf : f < 16) :
    readPlmn [UInt8.ofNat ((b <<< 4) ||| a), UInt8.ofNat ((f <<< 4) ||| c),
      UInt8.ofNat ((e <<< 4) ||| d)] =
      some ([a, b, c].map digitChar, ([d, e] ++ if f = 0x0F then [] else [f]).map digitChar) := by
  rw [readPlmn, lowNibble_pair ha hb, highNibble_pair ha hb, lowNibble_pair hc hf, highNibble_pair hc hf,
    lowNibble_pair hd he, highNibble_pair hd he]

theorem encodePlmn_eq {mcc mnc : Text} {a b c d e f : Char} (hmcc : ljust mcc 3 'F' = [a, b, c])
    (hmnc : ljust mnc 3 'F' = [d, e, f]) {u v w x y z : ℕ} (ha : plmnNibble a = .ok u)
    (hb : plmnNibble b = .ok v) (hc : plmnNibble c = .ok w) (hd : plmnNibble d = .ok x)
    (he : plmnNibble e = .ok y) (hf : plmnNibble f = .ok z) :
    encodePlmn mcc mnc = .ok [UInt8.ofNat ((v <<< 4) ||| u), UInt8.ofNat ((z <<< 4) ||| w),
      UInt8.ofNat ((y <<< 4) ||| x)] := by
  simp only [encodePlmn, hmcc, hmnc, List.getD_cons_zero, List.getD_cons_succ, ha, hb, hc, hd, he, hf,
    ok_bind]
  rfl

theorem readPlmn_encodePlmn {mcc mnc : Text} (hmcc : ∀ c ∈ mcc, IsDigit c) (hmnc : ∀ c ∈ mnc, IsDigit c)
    (hthree : mcc.length = 3) (hmncLength : mnc.length = 2 ∨ mnc.length = 3) :
    ∃ plmn, encodePlmn mcc mnc = .ok plmn ∧ readPlmn plmn = some (mcc, mnc) := by
  obtain ⟨a, b, c, rfl⟩ := List.length_eq_three.mp hthree
  have ha := hmcc a (by simp)
  have hb := hmcc b (by simp)
  have hc := hmcc c (by simp)
  obtain ⟨na, la⟩ := plmnNibble_digit ha
  obtain ⟨nb, lb⟩ := plmnNibble_digit hb
  obtain ⟨nc, lc⟩ := plmnNibble_digit hc
  rcases hmncLength with htwo | hthree'
  · obtain ⟨d, e, rfl⟩ := List.length_eq_two.mp htwo
    have hd := hmnc d (by simp)
    have he := hmnc e (by simp)
    obtain ⟨nd, ld⟩ := plmnNibble_digit hd
    obtain ⟨ne, le⟩ := plmnNibble_digit he
    have nf : plmnNibble 'F' = .ok 0xF := rfl
    refine ⟨_, @encodePlmn_eq [a, b, c] [d, e] _ _ _ _ _ _ rfl rfl _ _ _ _ _ _ na nb nc nd ne nf, ?_⟩
    rw [readPlmn_octets (by omega) (by omega) (by omega) (by omega) (by omega) (by omega)]
    simp [digitChar_of_isDigit, ha, hb, hc, hd, he]
  · obtain ⟨d, e, f, rfl⟩ := List.length_eq_three.mp hthree'
    have hd := hmnc d (by simp)
    have he := hmnc e (by simp)
    have hf := hmnc f (by simp)
    obtain ⟨nd, ld⟩ := plmnNibble_digit hd
    obtain ⟨ne, le⟩ := plmnNibble_digit he
    obtain ⟨nf, lf⟩ := plmnNibble_digit hf
    refine ⟨_, @encodePlmn_eq [a, b, c] [d, e, f] _ _ _ _ _ _ rfl rfl _ _ _ _ _ _ na nb nc nd ne nf, ?_⟩
    rw [readPlmn_octets (by omega) (by omega) (by omega) (by omega) (by omega) (by omega),
      if_neg (by omega)]
    simp [digitChar_of_isDigit, ha, hb, hc, hd, he, hf]

/-! ### All of them -/

/-- **The digits come back out of every codec**, and the two BCD encoders agree. -/
theorem digit_codecs {digits mcc mnc : Text} (hdigits : ∀ c ∈ digits, IsDigit c)
    (hmcc : ∀ c ∈ mcc, IsDigit c) (hmnc : ∀ c ∈ mnc, IsDigit c) (hthree : mcc.length = 3)
    (hmncLength : mnc.length = 2 ∨ mnc.length = 3) :
    (∃ bcd, encodeBcd digits = .ok bcd ∧ decodeBcd bcd digits.length = digits) ∧
      packDigitPairs digits = encodeBcd digits ∧
      (∃ data, encodeEid digits = .ok data ∧ decodeEid data = digits) ∧
      ∃ plmn, encodePlmn mcc mnc = .ok plmn ∧ readPlmn plmn = some (mcc, mnc) := by
  obtain ⟨bcd, hbcd, -, hdecode⟩ := decodeBcd_encodeBcd hdigits
  obtain ⟨data, hdata, hread⟩ := encodeEid_spec hdigits
  exact ⟨⟨bcd, hbcd, hdecode⟩, packDigitPairs_eq_encodeBcd digits, ⟨data, hdata, hread []⟩,
    readPlmn_encodePlmn hmcc hmnc hthree hmncLength⟩

/-- A number of five digits, in the network 001-01. -/
theorem digit_codecs_five :
    (∃ bcd, encodeBcd "12345".toList = .ok bcd ∧ decodeBcd bcd 5 = "12345".toList) ∧
      packDigitPairs "12345".toList = encodeBcd "12345".toList ∧
      (∃ data, encodeEid "12345".toList = .ok data ∧ decodeEid data = "12345".toList) ∧
      ∃ plmn, encodePlmn "001".toList "01".toList = .ok plmn ∧
        readPlmn plmn = some ("001".toList, "01".toList) :=
  digit_codecs (forall_mem_of_all (by decide)) (forall_mem_of_all (by decide)) (forall_mem_of_all (by decide))
    rfl (Or.inl rfl)

end VirtualPhone
