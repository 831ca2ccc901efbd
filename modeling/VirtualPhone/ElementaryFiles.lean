import VirtualPhone.DigitCodecs

/-! # EF_IMSI (`euicc/apdu/handler.py`)

A reader of EF_IMSI takes the number of octets from the first of them and the parity of the number of
digits from the second.  `_encode_imsi` counts an octet too many for an odd number of digits
(`encodeImsi_describes_iff`). -/

namespace VirtualPhone

open Runtime

/-- The digits that are read out of EF_IMSI, from the high nibble of the second octet on, without the
filler. -/
def digitsOfEfImsi (data : Bytes) : Text :=
  (((nibbles (data.drop 1)).drop 1).filter (· ≠ 0x0F)).map digitChar

/-- EF_IMSI as TS 31.102 has it. -/
structure DescribesItself (imsi : Text) (data : Bytes) : Prop where
  length : ∃ first rest, data = first :: rest ∧ first.toNat = rest.length
  parity : ∃ first second rest, data = first :: second :: rest ∧
    lowNibble second = if imsi.length % 2 = 1 then 0x09 else 0x01
  digits : digitsOfEfImsi data = imsi

/-- The octets of EF_IMSI, when the length octet can hold the length. -/
theorem encodeImsi_eq {c : Char} {digits : Text} (hc : IsDigit c) (hdigits : ∀ x ∈ digits, IsDigit x)
    (hlength : (digits.length + 2) / 2 + 1 < 256) :
    ∃ bcd, encodeImsi (c :: digits) = .ok (UInt8.ofNat ((digits.length + 2) / 2 + 1) ::
        UInt8.ofNat (((c.toNat - 48) <<< 4) ||| if (digits.length + 1) % 2 = 1 then 0x09 else 0x01) ::
        bcd) ∧
      encodeBcd digits = .ok bcd ∧ bcd.length = (digits.length + 1) / 2 := by
  obtain ⟨bcd, hbcd, hbcdLength, -⟩ := decodeBcd_encodeBcd hdigits
  refine ⟨bcd, ?_, hbcd, hbcdLength⟩
  have hc' := hc.toNat
  have hsecond : ∀ parity < 16, ∀ digit < 10, parity ||| (digit <<< 4) < 256 ∧
      parity ||| (digit <<< 4) = (digit <<< 4) ||| parity := by decide
  have hparity : ((c :: digits).length &&& 1 ≠ 0) ↔ (digits.length + 1) % 2 = 1 := by
    rw [List.length_cons, Nat.and_one_is_mod]
    omega
  have hnibble : (if (digits.length + 1) % 2 = 1 then 0x09 else 0x01) < 16 := by split <;> decide
  obtain ⟨hlt, hcomm⟩ := hsecond _ hnibble (c.toNat - 48) (by omega)
  simp only [encodeImsi, if_congr hparity rfl rfl, digitValue_of_isDigit hc, ok_bind, List.tail_cons,
    packDigitPairs_eq_encodeBcd, hbcd]
  rw [List.length_cons, show digits.length + 1 + 1 = digits.length + 2 from rfl, mkByte_of_lt hlength,
    ok_bind, mkByte_of_lt hlt, ok_bind, hcomm]
  rfl

theorem digitsOfEfImsi_octets {c : Char} {digits : Text} (hc : IsDigit c) (hdigits : ∀ x ∈ digits, IsDigit x)
    {bcd : Bytes} (hbcd : encodeBcd digits = .ok bcd) (first : UInt8) {parity : ℕ} (hparity : parity < 16) :
    digitsOfEfImsi (first :: UInt8.ofNat (((c.toNat - 48) <<< 4) ||| parity) :: bcd) = c :: digits := by
  have hc' := hc.toNat
  have hall : ∀ x ∈ c :: digits, IsDigit x := by
    simpa only [List.forall_mem_cons] using ⟨hc, hdigits⟩
  have hvalues : ∀ v ∈ digitValues (c :: digits), v ≠ 0x0F := by
    intro v hv
    obtain ⟨x, hx, rfl⟩ := List.mem_map.mp hv
    have hx' := (hall x hx).toNat
    omega
  have hnibbles : (nibbles (UInt8.ofNat (((c.toNat - 48) <<< 4) ||| parity) :: bcd)).drop 1 =
      digitValues (c :: digits) ++ List.replicate (digits.length % 2) 0x0F := by
    rw [nibbles_pair hparity (by omega), encodeBcd_nibbles hdigits hbcd]
    rfl
  rw [digitsOfEfImsi, List.drop_succ_cons, List.drop_zero, hnibbles, List.filter_append,
    List.filter_eq_self.mpr fun v hv => decide_eq_true (hvalues v hv), List.filter_replicate,
    if_neg (by decide), List.append_nil, digitChar_digitValues hall]

/-- **EF_IMSI describes itself exactly when the number of digits is even.** -/
theorem encodeImsi_describes_iff {imsi : Text} (hdigits : ∀ c ∈ imsi, IsDigit c) (hne : imsi ≠ [])
    (hlength : (imsi.length + 1) / 2 + 1 < 256) :
    ∃ data, encodeImsi imsi = .ok data ∧ (DescribesItself imsi data ↔ imsi.length % 2 = 0) := by
  obtain ⟨c, digits, rfl⟩ := List.exists_cons_of_ne_nil hne
  rw [List.length_cons] at hlength
  have hc := hdigits c (by simp)
  have hrest : ∀ x ∈ digits, IsDigit x := fun x hx => hdigits x (by simp [hx])
  obtain ⟨bcd, hdata, hbcd, hbcdLength⟩ := encodeImsi_eq hc hrest hlength
  refine ⟨_, hdata, ?_⟩
  have hfirst : (UInt8.ofNat ((digits.length + 2) / 2 + 1)).toNat = (digits.length + 2) / 2 + 1 := by
    rw [UInt8.toNat_ofNat']
    omega
  constructor
  · intro h
    obtain ⟨first, rest, hcons, hcount⟩ := h.length
    obtain ⟨rfl, rfl⟩ := List.cons_eq_cons.mp hcons
    rw [hfirst, List.length_cons, hbcdLength] at hcount
    rw [List.length_cons]
    omega
  · intro heven
    rw [List.length_cons] at heven
    have hc' := hc.toNat
    refine ⟨⟨_, _, rfl, ?_⟩, ⟨_, _, _, rfl, ?_⟩, ?_⟩
    · rw [hfirst, List.length_cons, hbcdLength]
      omega
    · rw [lowNibble_pair (by split <;> decide) (by omega), List.length_cons]
    · exact digitsOfEfImsi_octets hc hrest hbcd _ (by split <;> decide)

/-- An IMSI of two digits. -/
theorem encodeImsi_describes_iff_two :
    ∃ data, encodeImsi "42".toList = .ok data ∧
      (DescribesItself "42".toList data ↔ "42".toList.length % 2 = 0) :=
  encodeImsi_describes_iff (forall_mem_of_all (by decide)) (by decide) (by decide)

/-- The IMSI of fifteen digits of the tests: nine octets are announced and eight follow. -/
theorem encodeImsi_overcounts :
    ¬∀ imsi : Text, (∀ c ∈ imsi, IsDigit c) → imsi ≠ [] → (imsi.length + 1) / 2 + 1 < 256 →
      ∃ data, encodeImsi imsi = .ok data ∧ DescribesItself imsi data := by
  intro h
  obtain ⟨data, hdata, hself⟩ := h "001010123456789".toList (forall_mem_of_all (by decide)) (by decide)
    (by decide)
  have hencoded : encodeImsi "001010123456789".toList =
      .ok [0x09, 0x09, 0x10, 0x10, 0x10, 0x32, 0x54, 0x76, 0x98] := by decide +kernel
  obtain rfl := Except.ok.inj (hencoded.symm.trans hdata)
  obtain ⟨first, rest, hcons, hcount⟩ := hself.length
  obtain ⟨rfl, rfl⟩ := List.cons_eq_cons.mp hcons
  exact absurd hcount (by decide)

end VirtualPhone
