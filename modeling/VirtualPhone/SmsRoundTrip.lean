import VirtualPhone.SmsPdu
import Mathlib.Tactic.IntervalCases

/-! # Round trips of the SMS encodings

Each layer of `ims/sms_pdu.py` is read back from what it wrote.  A layer is read *in context*: the
encoding stands behind a prefix and in front of a rest, the reader starts at the end of the prefix
and stops at the end of the encoding.  The layers then compose by rewriting with these theorems;
none of them is unfolded above its own section.

The last section composes all of them into the path of a mobile-originated message: from the
text and the dialled number through the radio interface and the relay layer to the message the
service centre reads. -/

namespace VirtualPhone

open Runtime

/-! ### Addresses -/

namespace SMSAddress

/-- The addresses written as telephone digits: at most 255 of them, under any type of number but
the alphanumeric one. -/
structure Numeric (a : SMSAddress) : Prop where
  ton : a.typeOfNumber ≠ .alphanumeric
  digits : ∀ c ∈ a.number, IsDigit c
  short : a.number.length < 256
  plan : a.numberingPlan < 16

theorem typeOfNumber_value_lt (t : TypeOfNumber) : t.value < 7 := by cases t <;> decide

theorem typeOfNumber_ofValue (t : TypeOfNumber) : TypeOfNumber.ofValue t.value = .ok t := by
  cases t <;> rfl

theorem typeOfAddress_eq (a : SMSAddress) :
    a.typeOfAddress = 128 + 16 * a.typeOfNumber.value + a.numberingPlan % 16 := by
  have ht := typeOfNumber_value_lt a.typeOfNumber
  have hn : a.numberingPlan % 16 < 16 := Nat.mod_lt _ (by decide)
  have htab : ∀ t < 7, ∀ n < 16, 0x80 ||| (t <<< 4) ||| n = 128 + 16 * t + n := by decide
  rw [typeOfAddress, show (0x0F : ℕ) = 2 ^ 4 - 1 from rfl, and_mask]
  exact htab _ ht _ hn

theorem typeOfAddress_lt (a : SMSAddress) : a.typeOfAddress < 256 := by
  have := typeOfNumber_value_lt a.typeOfNumber
  rw [typeOfAddress_eq]
  omega

theorem typeOfAddress_fields (a : SMSAddress) :
    a.typeOfAddress >>> 4 &&& 0x07 = a.typeOfNumber.value ∧
      a.typeOfAddress &&& 0x0F = a.numberingPlan % 16 := by
  have := typeOfNumber_value_lt a.typeOfNumber
  rw [show (0x07 : ℕ) = 2 ^ 3 - 1 from rfl, show (0x0F : ℕ) = 2 ^ 4 - 1 from rfl, and_mask, and_mask,
    Nat.shiftRight_eq_div_pow, typeOfAddress_eq]
  omega

theorem filter_plus_of_digits {number : Text} (h : ∀ c ∈ number, IsDigit c) :
    number.filter (· ≠ '+') = number := by
  refine List.filter_eq_self.mpr ?_
  intro c hc
  simpa using ne_plus_of_isDigit (h c hc)

/-- The number in the octets of an address of `addrLen` semi-octets. -/
def readNumber (ton : TypeOfNumber) (addrLen : ℕ) (octets : Bytes) : Text :=
  if ton = .alphanumeric then decodeGsm7 octets (addrLen * 4 / 7) else decodeBcd octets addrLen

/-- What is read behind a length and the type of an address, in any context. -/
theorem fromBytes_field (a : SMSAddress) (len : UInt8) (pre rest : Bytes) :
    fromBytes (pre ++ len :: UInt8.ofNat a.typeOfAddress :: rest) pre.length =
      .ok (⟨readNumber a.typeOfNumber len.toNat (rest.take ((len.toNat + 1) / 2)), a.typeOfNumber,
        a.numberingPlan % 16⟩, pre.length + 2 + (len.toNat + 1) / 2) := by
  obtain ⟨hton, hnpi⟩ := a.typeOfAddress_fields
  have hlen : byteAt (pre ++ len :: UInt8.ofNat a.typeOfAddress :: rest) pre.length = .ok len :=
    byteAt_append_cons pre _ len
  have htoa : byteAt (pre ++ len :: UInt8.ofNat a.typeOfAddress :: rest) (pre.length + 1) =
      .ok (UInt8.ofNat a.typeOfAddress) := byteAt_append_right pre _ 1
  have hslice : slice (pre ++ len :: UInt8.ofNat a.typeOfAddress :: rest) (pre.length + 2)
      (pre.length + 2 + (len.toNat + 1) / 2) = rest.take ((len.toNat + 1) / 2) := by
    rw [slice, Nat.add_sub_cancel_left, List.drop_length_add_append]
    rfl
  simp only [fromBytes, hlen, htoa, hslice, ok_bind, toNat_ofNat_of_lt a.typeOfAddress_lt, hton, hnpi,
    typeOfNumber_ofValue]
  rfl

theorem toBytes_digits {a : SMSAddress} (hton : a.typeOfNumber ≠ .alphanumeric)
    (hdigits : ∀ c ∈ a.number, IsDigit c) (hshort : a.number.length < 256) {bcd : Bytes}
    (hbcd : encodeBcd a.number = .ok bcd) :
    a.toBytes = .ok (UInt8.ofNat a.number.length :: UInt8.ofNat a.typeOfAddress :: bcd) := by
  simp only [toBytes, if_neg hton, filter_plus_of_digits hdigits, hbcd, mkByte_of_lt hshort,
    mkByte_of_lt a.typeOfAddress_lt, ok_bind]
  rfl

/-- A numeric address is written in `2 + ⌈digits / 2⌉` octets, and read back in any context. -/
theorem fromBytes_toBytes {a : SMSAddress} (h : a.Numeric) :
    ∃ d, a.toBytes = .ok d ∧ d.length = 2 + (a.number.length + 1) / 2 ∧
      ∀ pre suf, fromBytes (pre ++ (d ++ suf)) pre.length = .ok (a, pre.length + d.length) := by
  obtain ⟨bcd, hbcd, hlen, hdec⟩ := decodeBcd_encodeBcd h.digits
  have hlength : (UInt8.ofNat a.number.length :: UInt8.ofNat a.typeOfAddress :: bcd).length =
      2 + (a.number.length + 1) / 2 := by
    simp only [List.length_cons, hlen]
    omega
  refine ⟨_, toBytes_digits h.ton h.digits h.short hbcd, hlength, fun pre suf => ?_⟩
  have hread := a.fromBytes_field (UInt8.ofNat a.number.length) pre (bcd ++ suf)
  rw [toNat_ofNat_of_lt h.short, ← hlen, List.take_left, readNumber, if_neg h.ton, hdec,
    Nat.mod_eq_of_lt h.plan, hlen, Nat.add_assoc, ← hlength] at hread
  exact hread

/-- The international address of a dialled number keeps its digits. -/
theorem international_eq {dest digits : Text} (hdest : dest = digits ∨ dest = '+' :: digits)
    (hd : ∀ c ∈ digits, IsDigit c) :
    international dest = ⟨digits, .international, 1⟩ := by
  have hdrop : digits.dropWhile (· = '+') = digits := by
    cases digits with
    | nil => rfl
    | cons c r =>
        have := ne_plus_of_isDigit (hd c (by simp))
        simp [this]
  rcases hdest with rfl | rfl
  · simp only [international, hdrop]
  · simp only [international, List.dropWhile_cons_of_pos, decide_true, hdrop]

end SMSAddress

/-! ### User data -/

/-- The contents the three codings can carry: text for the character codings, at most 255 units
long and not yet encoded, or octets for the 8-bit one. -/
def UserDataFits (dcs : DataCodingScheme) (text : Text) (userData : Bytes) : Prop :=
  match dcs with
  | .gsm7Bit => userData = [] ∧ (∀ c ∈ text, InGsm7 c) ∧ text.length < 256
  | .ucs2 => userData = [] ∧ (encodeUtf16 text).length < 256
  | .eightBit => text = [] ∧ userData.length < 256

theorem userDataLength_lt {dcs : DataCodingScheme} {text : Text} {userData : Bytes}
    (h : UserDataFits dcs text userData) :
    userDataLength dcs text (fillUserData dcs text userData) < 256 := by
  cases dcs with
  | gsm7Bit =>
      obtain ⟨rfl, _, hlen⟩ := h
      by_cases ht : text = []
      · simp [userDataLength, fillUserData, ht]
      · simpa [userDataLength, ht] using hlen
  | ucs2 =>
      obtain ⟨rfl, hlen⟩ := h
      by_cases ht : text = []
      · simp [userDataLength, fillUserData, ht]
      · simpa [userDataLength, fillUserData, ht] using hlen
  | eightBit =>
      obtain ⟨rfl, hlen⟩ := h
      simpa [userDataLength, fillUserData] using hlen

/-- Encoded user data and its length octet are read back as the same octets and text. -/
theorem readUserData_fillUserData {dcs : DataCodingScheme} {text : Text} {userData : Bytes}
    (h : UserDataFits dcs text userData) (pre : Bytes) :
    readUserData dcs (pre ++ fillUserData dcs text userData) pre.length
        (userDataLength dcs text (fillUserData dcs text userData)) =
      (fillUserData dcs text userData, text) := by
  have hslice : ∀ (d : Bytes) (n : ℕ), n = d.length →
      slice (pre ++ d) pre.length (pre.length + n) = d := by
    intro d n hn
    exact slice_of_eq (p := pre) (q := []) (by simp) rfl (by rw [hn])
  cases dcs with
  | gsm7Bit =>
      obtain ⟨rfl, halpha, -⟩ := h
      by_cases ht : text = []
      · subst ht
        simp [readUserData, userDataLength, fillUserData, slice, decodeGsm7]
      · have hfill : fillUserData .gsm7Bit text [] = encodeGsm7 text := by
          simp [fillUserData, ht]
        have hudl : userDataLength .gsm7Bit text (encodeGsm7 text) = text.length := by
          simp [userDataLength, ht]
        have hlen : (text.length * 7 + 7) / 8 = (encodeGsm7 text).length := by
          rw [encodeGsm7_length, Nat.mul_comm]
        simp only [hfill, hudl, readUserData, hslice _ _ hlen, decodeGsm7_encodeGsm7 halpha]
  | ucs2 =>
      obtain ⟨rfl, -⟩ := h
      have hfill : fillUserData .ucs2 text [] = encodeUtf16 text := by
        by_cases ht : text = []
        · subst ht; rfl
        · simp [fillUserData, ht]
      simp only [hfill, userDataLength, readUserData, hslice _ _ rfl, decodeUtf16_encodeUtf16]
  | eightBit =>
      obtain ⟨rfl, -⟩ := h
      simp only [userDataLength, readUserData, hslice _ _ rfl]

theorem readUserData_append (dcs : DataCodingScheme) (pre d : Bytes) (udl : ℕ) :
    readUserData dcs (pre ++ d) pre.length udl = readUserData dcs d 0 udl := by
  have hslice : ∀ n, slice (pre ++ d) pre.length (pre.length + n) = slice d 0 (0 + n) := by
    intro n
    simp [slice]
  cases dcs with
  | gsm7Bit => simp only [readUserData, hslice]
  | ucs2 => simp only [readUserData, hslice]
  | eightBit => simp only [readUserData, hslice]

/-! ### SMS-SUBMIT -/

theorem dataCodingScheme_ofValue (dcs : DataCodingScheme) :
    DataCodingScheme.ofValue (dcs.value &&& 0x0C) = .ok dcs := by cases dcs <;> rfl

theorem dataCodingScheme_value_lt (dcs : DataCodingScheme) : dcs.value < 256 := by
  cases dcs <;> decide

namespace SMSSubmit

/-- The messages `to_bytes` can write: numeric destination, octet-sized fields, and contents
that fit their coding. -/
structure WellFormed (m : SMSSubmit) : Prop where
  destination : m.destination.Numeric
  protocolId : m.protocolId < 256
  validityPeriod : ∀ v, m.validityPeriod = some v → v < 256
  userData : UserDataFits m.dcs m.text m.userData

/-- The messages `to_bytes` can write, whatever becomes of their text: numeric destination, and
octet-sized fields. -/
structure Writable (m : SMSSubmit) : Prop where
  destination : m.destination.Numeric
  protocolId : m.protocolId < 256
  validityPeriod : ∀ v, m.validityPeriod = some v → v < 256
  userData : userDataLength m.dcs m.text m.filled.userData < 256

theorem WellFormed.writable {m : SMSSubmit} (h : m.WellFormed) : m.Writable :=
  ⟨h.destination, h.protocolId, h.validityPeriod, userDataLength_lt h.userData⟩

/-- Every flag is read back from the first octet; a period is announced as a relative one. -/
theorem flags_fields (m : SMSSubmit) :
    m.flags < 256 ∧
      m.flags >>> 3 &&& 0x03 = (if m.validityPeriod.isSome then 0b10 else 0b00) ∧
      decide (m.flags &&& 0x04 ≠ 0) = m.rejectDuplicates ∧
      decide (m.flags &&& 0x20 ≠ 0) = m.statusReportRequest ∧
      decide (m.flags &&& 0x40 ≠ 0) = m.userDataHeader ∧
      decide (m.flags &&& 0x80 ≠ 0) = m.replyPath := by
  have hall : ∀ rd vp srr udh rp : Bool,
      let f := 0x01 ||| flagBit rd 0x04 ||| flagBit vp 0x10 ||| flagBit srr 0x20 |||
        flagBit udh 0x40 ||| flagBit rp 0x80
      f < 256 ∧ f >>> 3 &&& 0x03 = (if vp then 0b10 else 0b00) ∧
        decide (f &&& 0x04 ≠ 0) = rd ∧ decide (f &&& 0x20 ≠ 0) = srr ∧
        decide (f &&& 0x40 ≠ 0) = udh ∧ decide (f &&& 0x80 ≠ 0) = rp := by
    decide
  exact hall _ _ _ _ _

/-- The octets of the validity period. -/
def validityOctets (m : SMSSubmit) : Bytes := (m.validityPeriod.map UInt8.ofNat).toList

theorem mapM_mkByte_validityPeriod {m : SMSSubmit} (h : m.Writable) :
    m.validityPeriod.toList.mapM mkByte = .ok m.validityOctets := by
  cases hv : m.validityPeriod with
  | none => simp [validityOctets, hv, pure, Except.pure]
  | some v => simp [validityOctets, hv, mkByte_of_lt (h.validityPeriod v hv)]

theorem readValidityPeriod_validityOctets {m : SMSSubmit} (h : m.Writable) (pre suf : Bytes) :
    readValidityPeriod (if m.validityPeriod.isSome then 0b10 else 0b00)
        (pre ++ (m.validityOctets ++ suf)) pre.length =
      .ok (m.validityPeriod, pre.length + m.validityOctets.length) := by
  cases hv : m.validityPeriod with
  | none => simp [validityOctets, hv, readValidityPeriod, pure, Except.pure]
  | some v =>
      have hb : byteAt (pre ++ UInt8.ofNat v :: suf) pre.length = .ok (UInt8.ofNat v) :=
        byteAt_append_cons pre suf _
      simp [validityOctets, hv, readValidityPeriod, hb, toNat_ofNat_of_lt (h.validityPeriod v hv),
        pure, Except.pure]

/-- The length octet of the user data. -/
def lengthOctet (m : SMSSubmit) : UInt8 := UInt8.ofNat (userDataLength m.dcs m.text m.filled.userData)

/-- The octets of a message whose destination is written as `da`. -/
def octets (m : SMSSubmit) (da : Bytes) : Bytes :=
  [UInt8.ofNat m.flags, UInt8.ofNat (m.messageRef % 256)] ++ da ++
    [UInt8.ofNat m.protocolId, UInt8.ofNat m.dcs.value] ++ m.validityOctets ++ [m.lengthOctet] ++
    m.filled.userData

/-- The user data and the text that are read back. -/
def readBack (m : SMSSubmit) : Bytes × Text :=
  readUserData m.dcs m.filled.userData 0 (userDataLength m.dcs m.text m.filled.userData)

theorem toBytes_eq_octets {m : SMSSubmit} (h : m.Writable) {da : Bytes}
    (hda : m.destination.toBytes = .ok da) : m.toBytes = .ok (m.octets da) := by
  have href : m.messageRef &&& 0xFF = m.messageRef % 256 := and_mask m.messageRef 8
  have hrefLt : m.messageRef % 256 < 256 := Nat.mod_lt _ (by decide)
  have hudl := h.userData
  simp only [toBytes, href, mkByte_of_lt m.flags_fields.1, mkByte_of_lt hrefLt, hda,
    mkByte_of_lt h.protocolId, mkByte_of_lt (dataCodingScheme_value_lt _),
    mapM_mkByte_validityPeriod h, mkByte_of_lt hudl, ok_bind]
  rfl

theorem fromBytes_octets {m : SMSSubmit} (h : m.Writable) {da : Bytes}
    (hda : m.destination.toBytes = .ok da) :
    fromBytes (m.octets da) = .ok { m with
      messageRef := m.messageRef % 256, userData := m.readBack.1, text := m.readBack.2 } := by
  obtain ⟨da', hda', -, hdaRead⟩ := SMSAddress.fromBytes_toBytes h.destination
  obtain rfl : da = da' := Except.ok.inj (hda.symm.trans hda')
  obtain ⟨hf, hvpf, hrd, hsrr, hudh, hrp⟩ := m.flags_fields
  have hudl := h.userData
  have hflags : byteAt (m.octets da) 0 = .ok (UInt8.ofNat m.flags) := rfl
  have href : byteAt (m.octets da) 1 = .ok (UInt8.ofNat (m.messageRef % 256)) := rfl
  have haddr : SMSAddress.fromBytes (m.octets da) 2 = .ok (m.destination, 2 + da.length) := by
    simpa [octets] using hdaRead [UInt8.ofNat m.flags, UInt8.ofNat (m.messageRef % 256)]
      ([UInt8.ofNat m.protocolId, UInt8.ofNat m.dcs.value] ++
        (m.validityOctets ++ m.lengthOctet :: m.filled.userData))
  have hpid : byteAt (m.octets da) (2 + da.length) = .ok (UInt8.ofNat m.protocolId) :=
    byteAt_of_eq (p := [UInt8.ofNat m.flags, UInt8.ofNat (m.messageRef % 256)] ++ da)
      (q := UInt8.ofNat m.dcs.value :: (m.validityOctets ++ m.lengthOctet :: m.filled.userData))
      (by simp [octets]) (by simp; omega)
  have hdcs : byteAt (m.octets da) (2 + da.length + 1) = .ok (UInt8.ofNat m.dcs.value) :=
    byteAt_of_eq (p := [UInt8.ofNat m.flags, UInt8.ofNat (m.messageRef % 256)] ++ da ++
        [UInt8.ofNat m.protocolId])
      (q := m.validityOctets ++ m.lengthOctet :: m.filled.userData)
      (by simp [octets]) (by simp; omega)
  have hvp : readValidityPeriod (if m.validityPeriod.isSome then 0b10 else 0b00) (m.octets da)
      (2 + da.length + 2) = .ok (m.validityPeriod, 2 + da.length + 2 + m.validityOctets.length) := by
    have := readValidityPeriod_validityOctets h
      ([UInt8.ofNat m.flags, UInt8.ofNat (m.messageRef % 256)] ++ da ++
        [UInt8.ofNat m.protocolId, UInt8.ofNat m.dcs.value]) (m.lengthOctet :: m.filled.userData)
    simpa [octets, Nat.add_comm, Nat.add_left_comm] using this
  have hlen : byteAt (m.octets da) (2 + da.length + 2 + m.validityOctets.length) =
      .ok m.lengthOctet :=
    byteAt_of_eq (p := [UInt8.ofNat m.flags, UInt8.ofNat (m.messageRef % 256)] ++ da ++
        [UInt8.ofNat m.protocolId, UInt8.ofNat m.dcs.value] ++ m.validityOctets)
      (q := m.filled.userData) (by simp [octets]) (by simp; omega)
  have hud : readUserData m.dcs (m.octets da) (2 + da.length + 2 + m.validityOctets.length + 1)
      (userDataLength m.dcs m.text m.filled.userData) = m.readBack := by
    have := readUserData_append m.dcs
      ([UInt8.ofNat m.flags, UInt8.ofNat (m.messageRef % 256)] ++ da ++
        [UInt8.ofNat m.protocolId, UInt8.ofNat m.dcs.value] ++ m.validityOctets ++ [m.lengthOctet])
      m.filled.userData (userDataLength m.dcs m.text m.filled.userData)
    rw [show (2 + da.length + 2 + m.validityOctets.length + 1) = ([UInt8.ofNat m.flags,
      UInt8.ofNat (m.messageRef % 256)] ++ da ++ [UInt8.ofNat m.protocolId,
      UInt8.ofNat m.dcs.value] ++ m.validityOctets ++ [m.lengthOctet]).length by simp; omega]
    exact this
  have hudlOctet : m.lengthOctet.toNat = userDataLength m.dcs m.text m.filled.userData :=
    toNat_ofNat_of_lt hudl
  simp only [fromBytes, hflags, href, haddr, hpid, hdcs, hlen, ok_bind, toNat_ofNat_of_lt hf, hvpf,
    toNat_ofNat_of_lt (dataCodingScheme_value_lt _), dataCodingScheme_ofValue, hvp, hudlOctet, hud,
    hrd, hsrr, hudh, hrp, toNat_ofNat_of_lt h.protocolId,
    toNat_ofNat_of_lt (Nat.mod_lt m.messageRef (by decide : 0 < 256))]
  rfl

theorem readBack_of_fits {m : SMSSubmit} (h : UserDataFits m.dcs m.text m.userData) :
    m.readBack = (m.filled.userData, m.text) := readUserData_fillUserData h []

/-- A writable message is written and read, with its reference modulo 256. -/
theorem fromBytes_toBytes_writable {m : SMSSubmit} (h : m.Writable) :
    ∃ d, m.toBytes = .ok d ∧ fromBytes d = .ok { m with
      messageRef := m.messageRef % 256, userData := m.readBack.1, text := m.readBack.2 } := by
  obtain ⟨da, hda, -, -⟩ := SMSAddress.fromBytes_toBytes h.destination
  exact ⟨m.octets da, toBytes_eq_octets h hda, fromBytes_octets h hda⟩

/-- **The TPDU round trip.**  A well-formed message is written, with its reference modulo 256, and
read back with its user data filled in. -/
theorem fromBytes_toBytes {m : SMSSubmit} (h : m.WellFormed) :
    ∃ d, m.toBytes = .ok d ∧
      fromBytes d = .ok { m.filled with messageRef := m.messageRef % 256 } := by
  obtain ⟨d, hwrite, hread⟩ := fromBytes_toBytes_writable h.writable
  refine ⟨d, hwrite, ?_⟩
  rw [hread, readBack_of_fits h.userData]
  rfl

end SMSSubmit

/-! ### SMS-DELIVER -/

namespace SMSDeliver

/-- The messages `to_bytes` can write, whatever becomes of their text: numeric originator,
octet-sized fields. -/
structure Writable (m : SMSDeliver) : Prop where
  originator : m.originator.Numeric
  protocolId : m.protocolId < 256
  userData : userDataLength m.dcs m.text m.filled.userData < 256

theorem flags_fields (m : SMSDeliver) :
    m.flags < 256 ∧ decide (m.flags &&& 0x04 ≠ 0) = !m.moreMessages ∧
      decide (m.flags &&& 0x20 ≠ 0) = m.statusReportIndication ∧
      decide (m.flags &&& 0x40 ≠ 0) = m.userDataHeader ∧
      decide (m.flags &&& 0x80 ≠ 0) = m.replyPath := by
  have hall : ∀ mm sri udh rp : Bool,
      let f := 0x00 ||| flagBit (!mm) 0x04 ||| flagBit sri 0x20 ||| flagBit udh 0x40 |||
        flagBit rp 0x80
      f < 256 ∧ decide (f &&& 0x04 ≠ 0) = !mm ∧ decide (f &&& 0x20 ≠ 0) = sri ∧
        decide (f &&& 0x40 ≠ 0) = udh ∧ decide (f &&& 0x80 ≠ 0) = rp := by
    decide
  exact hall _ _ _ _

/-- The time stamp as it is written. -/
def scts (m : SMSDeliver) : Bytes := if m.timestamp.length = 7 then m.timestamp else List.replicate 7 0

theorem scts_length (m : SMSDeliver) : m.scts.length = 7 := by
  unfold scts
  split_ifs with h
  · exact h
  · exact List.length_replicate

/-- The length octet of the user data. -/
def lengthOctet (m : SMSDeliver) : UInt8 :=
  UInt8.ofNat (userDataLength m.dcs m.text m.filled.userData)

/-- The octets of a message whose originator is written as `oa`. -/
def octets (m : SMSDeliver) (oa : Bytes) : Bytes :=
  [UInt8.ofNat m.flags] ++ oa ++ [UInt8.ofNat m.protocolId, UInt8.ofNat m.dcs.value] ++ m.scts ++
    [m.lengthOctet] ++ m.filled.userData

/-- The user data of the octets, as the reader takes it. -/
def readBack (m : SMSDeliver) : Bytes × Text :=
  readUserData m.dcs m.filled.userData 0 (userDataLength m.dcs m.text m.filled.userData)

theorem toBytes_eq_octets {m : SMSDeliver} (h : m.Writable) {oa : Bytes}
    (hoa : m.originator.toBytes = .ok oa) : m.toBytes = .ok (m.octets oa) := by
  simp only [toBytes, mkByte_of_lt m.flags_fields.1, hoa, mkByte_of_lt h.protocolId,
    mkByte_of_lt (dataCodingScheme_value_lt _), mkByte_of_lt h.userData, ok_bind]
  rfl

theorem fromBytes_octets {m : SMSDeliver} (h : m.Writable) {oa : Bytes}
    (hoa : m.originator.toBytes = .ok oa) :
    fromBytes (m.octets oa) =
      .ok { m with timestamp := m.scts, userData := m.readBack.1, text := m.readBack.2 } := by
  obtain ⟨oa', hoa', -, hoaRead⟩ := SMSAddress.fromBytes_toBytes h.originator
  obtain rfl : oa = oa' := Except.ok.inj (hoa.symm.trans hoa')
  obtain ⟨hf, hmm, hsri, hudh, hrp⟩ := m.flags_fields
  have hflags : byteAt (m.octets oa) 0 = .ok (UInt8.ofNat m.flags) := rfl
  have haddr : SMSAddress.fromBytes (m.octets oa) 1 = .ok (m.originator, 1 + oa.length) := by
    simpa [octets] using hoaRead [UInt8.ofNat m.flags]
      ([UInt8.ofNat m.protocolId, UInt8.ofNat m.dcs.value] ++
        (m.scts ++ m.lengthOctet :: m.filled.userData))
  have hpid : byteAt (m.octets oa) (1 + oa.length) = .ok (UInt8.ofNat m.protocolId) :=
    byteAt_of_eq (p := [UInt8.ofNat m.flags] ++ oa)
      (q := UInt8.ofNat m.dcs.value :: (m.scts ++ m.lengthOctet :: m.filled.userData))
      (by simp [octets]) (by simp; omega)
  have hdcs : byteAt (m.octets oa) (1 + oa.length + 1) = .ok (UInt8.ofNat m.dcs.value) :=
    byteAt_of_eq (p := [UInt8.ofNat m.flags] ++ oa ++ [UInt8.ofNat m.protocolId])
      (q := m.scts ++ m.lengthOctet :: m.filled.userData) (by simp [octets]) (by simp; omega)
  have hscts : slice (m.octets oa) (1 + oa.length + 2) (1 + oa.length + 2 + 7) = m.scts :=
    slice_of_eq (p := [UInt8.ofNat m.flags] ++ oa ++ [UInt8.ofNat m.protocolId,
        UInt8.ofNat m.dcs.value]) (q := m.lengthOctet :: m.filled.userData)
      (by simp [octets]) (by simp; omega) (by rw [scts_length])
  have hlen : byteAt (m.octets oa) (1 + oa.length + 2 + 7) = .ok m.lengthOctet :=
    byteAt_of_eq (p := [UInt8.ofNat m.flags] ++ oa ++ [UInt8.ofNat m.protocolId,
        UInt8.ofNat m.dcs.value] ++ m.scts) (q := m.filled.userData)
      (by simp [octets]) (by simp [scts_length]; omega)
  have hud : readUserData m.dcs (m.octets oa) (1 + oa.length + 2 + 7 + 1)
      (userDataLength m.dcs m.text m.filled.userData) = m.readBack := by
    rw [readBack, ← readUserData_append _ ([UInt8.ofNat m.flags] ++ oa ++
      [UInt8.ofNat m.protocolId, UInt8.ofNat m.dcs.value] ++ m.scts ++ [m.lengthOctet])]
    congr 1
    simp [scts_length]
    omega
  have hudlOctet : m.lengthOctet.toNat = userDataLength m.dcs m.text m.filled.userData :=
    toNat_ofNat_of_lt h.userData
  simp only [fromBytes, hflags, haddr, hpid, hdcs, hscts, hlen, ok_bind, toNat_ofNat_of_lt hf,
    toNat_ofNat_of_lt (dataCodingScheme_value_lt _), dataCodingScheme_ofValue, hudlOctet, hud,
    hmm, hsri, hudh, hrp, toNat_ofNat_of_lt h.protocolId, Bool.not_not]
  rfl

/-- **The TPDU and its reader.**  What a writable message becomes on the way: the time stamp is
padded and the text is what its coding leaves of it. -/
theorem fromBytes_toBytes {m : SMSDeliver} (h : m.Writable) :
    ∃ d, m.toBytes = .ok d ∧
      fromBytes d =
        .ok { m with timestamp := m.scts, userData := m.readBack.1, text := m.readBack.2 } := by
  obtain ⟨oa, hoa, -, -⟩ := SMSAddress.fromBytes_toBytes h.originator
  exact ⟨m.octets oa, toBytes_eq_octets h hoa, fromBytes_octets h hoa⟩

end SMSDeliver

/-! ### Both TPDUs -/

/-- What a message carries: text of the 7-bit alphabet or of UCS2, as text alone or also as user data,
or octets. -/
def Carries (dcs : DataCodingScheme) (text : Text) (userData : Bytes) : Prop :=
  match dcs with
  | .gsm7Bit => (∀ c ∈ text, InGsm7 c) ∧ text.length ≤ 255 ∧ (userData = [] ∨ userData = encodeGsm7 text)
  | .ucs2 => (encodeUtf16 text).length ≤ 255 ∧ (userData = [] ∨ userData = encodeUtf16 text)
  | .eightBit => text = [] ∧ userData.length ≤ 255

/-- User data that is there already is what would be filled in. -/
theorem Carries.fill {dcs : DataCodingScheme} {text : Text} {userData : Bytes}
    (h : Carries dcs text userData) : ∃ raw, UserDataFits dcs text raw ∧
      fillUserData dcs text userData = fillUserData dcs text raw := by
  have hfilled : ∀ encoded : Bytes, (text ≠ [] → fillUserData dcs text [] = encoded) →
      (text = [] → encoded = []) → fillUserData dcs text encoded = fillUserData dcs text [] := by
    intro encoded hfill hnil
    by_cases ht : text = []
    · rw [hnil ht]
    · rw [hfill ht]
      by_cases he : encoded = []
      · rw [he] at hfill ⊢
        exact hfill ht
      · simp [fillUserData, he]
  cases dcs with
  | gsm7Bit =>
      obtain ⟨halpha, hlen, hdata⟩ := h
      refine ⟨[], ⟨rfl, halpha, Nat.lt_succ_of_le hlen⟩, ?_⟩
      rcases hdata with rfl | rfl
      · rfl
      · refine hfilled _ (fun ht => by simp [fillUserData, ht]) fun ht => ?_
        rw [ht]
        rfl
  | ucs2 =>
      obtain ⟨hlen, hdata⟩ := h
      refine ⟨[], ⟨rfl, Nat.lt_succ_of_le hlen⟩, ?_⟩
      rcases hdata with rfl | rfl
      · rfl
      · refine hfilled _ (fun ht => by simp [fillUserData, ht]) fun ht => ?_
        rw [ht]
        rfl
  | eightBit => exact ⟨userData, ⟨h.1, Nat.lt_succ_of_le h.2⟩, rfl⟩

/-- **The TPDU round trips.**  A message with a reference of one octet, an address of digits, a
protocol identifier and a validity period of one octet, any flags and contents that its coding can
carry is written and read back as `to_bytes` leaves it, with its user data filled in; and likewise a
delivered message with a time stamp of seven octets. -/
theorem tpdu_round_trips :
    (∀ m : SMSSubmit, m.messageRef < 256 → m.destination.Numeric → m.protocolId < 256 →
      (∀ v, m.validityPeriod = some v → v ≤ 255) → Carries m.dcs m.text m.userData →
      ∃ d, m.toBytes = .ok d ∧ SMSSubmit.fromBytes d = .ok m.filled) ∧
    ∀ m : SMSDeliver, m.originator.Numeric → m.protocolId < 256 → m.timestamp.length = 7 →
      Carries m.dcs m.text m.userData →
      ∃ d, m.toBytes = .ok d ∧ SMSDeliver.fromBytes d = .ok m.filled := by
  refine ⟨?_, ?_⟩
  · intro m href hdest hpid hvp hcarries
    obtain ⟨raw, hraw, hfill⟩ := hcarries.fill
    have hwf : ({ m with userData := raw } : SMSSubmit).WellFormed :=
      ⟨hdest, hpid, fun v hv => Nat.lt_succ_of_le (hvp v hv), hraw⟩
    have hfilled : ({ m with userData := raw } : SMSSubmit).filled = m.filled := by
      simp only [SMSSubmit.filled, hfill]
    obtain ⟨d, hwrite, hread⟩ := SMSSubmit.fromBytes_toBytes hwf
    rw [hfilled] at hread
    refine ⟨d, ?_, ?_⟩
    · rw [← hwrite]
      simp only [SMSSubmit.toBytes, hfilled, SMSSubmit.flags]
    · rw [hread]
      simp only [SMSSubmit.filled, Nat.mod_eq_of_lt href]
  · intro m horig hpid htime hcarries
    obtain ⟨raw, hraw, hfill⟩ := hcarries.fill
    have hfilled : m.filled.userData = fillUserData m.dcs m.text raw := hfill
    have hwritable : m.Writable := by
      refine ⟨horig, hpid, ?_⟩
      rw [hfilled]
      exact userDataLength_lt hraw
    have hback : m.readBack = (m.filled.userData, m.text) := by
      rw [SMSDeliver.readBack, hfilled]
      exact readUserData_fillUserData hraw []
    obtain ⟨d, hwrite, hread⟩ := SMSDeliver.fromBytes_toBytes hwritable
    refine ⟨d, hwrite, ?_⟩
    rw [hread, hback, SMSDeliver.scts, if_pos htime]
    rfl

/-- Nine septets to an odd number of digits, with a validity period. -/
def nineSeptets : SMSSubmit where
  messageRef := 9
  destination := ⟨"12345".toList, .national, 1⟩
  validityPeriod := some 167
  text := "Nine char".toList

/-- Octets from a short code. -/
def codedOctets : SMSDeliver where
  originator := ⟨"4567".toList, .abbreviated, 9⟩
  dcs := .eightBit
  userData := [1, 2, 255]

/-- Both are read back. -/
theorem tpdu_round_trips_nine :
    (∃ d, nineSeptets.toBytes = .ok d ∧ SMSSubmit.fromBytes d = .ok nineSeptets.filled) ∧
    ∃ d, codedOctets.toBytes = .ok d ∧ SMSDeliver.fromBytes d = .ok codedOctets.filled := by
  refine ⟨?_, ?_⟩
  · refine tpdu_round_trips.1 _ (by decide) ?_ (by decide) ?_ ?_
    · exact ⟨by decide, forall_mem_of_all (by decide), by decide, by decide⟩
    · rintro v ⟨⟩
      decide
    · exact ⟨forall_mem_of_all (by decide +kernel), by decide, Or.inl rfl⟩
  · refine tpdu_round_trips.2 _ ?_ (by decide) (by decide) ⟨rfl, by decide⟩
    exact ⟨by decide, forall_mem_of_all (by decide), by decide, by decide⟩

/-! ### RP-DATA -/

namespace RPData

/-- The relay messages `to_bytes` can write: three fields of at most 255 octets. -/
structure WellFormed (r : RPData) : Prop where
  originator : r.originator.length < 256
  destination : r.destination.length < 256
  tpdu : r.tpdu.length < 256

theorem msgType_ofValue (t : RPMessageType) : RPMessageType.ofValue t.value = .ok t := by
  cases t <;> rfl

theorem msgType_value_lt (t : RPMessageType) : t.value < 256 := by cases t <;> decide

/-- The octets of a relay message. -/
def octets (r : RPData) : Bytes :=
  [UInt8.ofNat r.msgType.value, UInt8.ofNat (r.reference % 256), UInt8.ofNat r.originator.length] ++
    r.originator ++ [UInt8.ofNat r.destination.length] ++ r.destination ++
    [UInt8.ofNat r.tpdu.length] ++ r.tpdu

/-- `to_bytes` is defined exactly on the well-formed messages. -/
theorem toBytes_eq_ok_iff (r : RPData) (d : Bytes) :
    r.toBytes = .ok d ↔ r.WellFormed ∧ d = r.octets := by
  have href : r.reference &&& 0xFF = r.reference % 256 := and_mask r.reference 8
  have hrefLt : r.reference % 256 < 256 := Nat.mod_lt _ (by decide)
  constructor
  · intro h
    simp only [toBytes, href, mkByte_of_lt (msgType_value_lt r.msgType), mkByte_of_lt hrefLt,
      ok_bind] at h
    obtain ⟨o, ho, h⟩ := bind_eq_ok h
    obtain ⟨e, he, h⟩ := bind_eq_ok h
    obtain ⟨t, ht, h⟩ := bind_eq_ok h
    obtain ⟨horig, rfl⟩ := mkByte_eq_ok ho
    obtain ⟨hdest, rfl⟩ := mkByte_eq_ok he
    obtain ⟨htpdu, rfl⟩ := mkByte_eq_ok ht
    exact ⟨⟨horig, hdest, htpdu⟩, (Except.ok.inj h).symm⟩
  · rintro ⟨h, rfl⟩
    simp only [toBytes, href, mkByte_of_lt (msgType_value_lt r.msgType), mkByte_of_lt hrefLt,
      mkByte_of_lt h.originator, mkByte_of_lt h.destination, mkByte_of_lt h.tpdu, ok_bind]
    rfl

/-- A field of announced length, which the reader takes only when the length is positive. -/
theorem field_of_eq {d p x q : Bytes} {a n : ℕ} (hd : d = p ++ x ++ q) (ha : a = p.length)
    (hn : n = x.length) : (if 0 < n then slice d a (a + n) else []) = x := by
  split_ifs with h
  · exact slice_of_eq hd ha (by rw [hn])
  · exact (List.eq_nil_of_length_eq_zero (by omega)).symm

theorem fromBytes_octets {r : RPData} (h : r.WellFormed) :
    fromBytes r.octets = .ok { r with reference := r.reference % 256 } := by
  have hrefLt : r.reference % 256 < 256 := Nat.mod_lt _ (by decide)
  have hmti : byteAt r.octets 0 = .ok (UInt8.ofNat r.msgType.value) := rfl
  have href : byteAt r.octets 1 = .ok (UInt8.ofNat (r.reference % 256)) := rfl
  have horigLen : byteAt r.octets 2 = .ok (UInt8.ofNat r.originator.length) := rfl
  have horig : (if 0 < r.originator.length then slice r.octets 3 (3 + r.originator.length) else []) =
      r.originator :=
    field_of_eq (p := [UInt8.ofNat r.msgType.value, UInt8.ofNat (r.reference % 256),
        UInt8.ofNat r.originator.length])
      (q := UInt8.ofNat r.destination.length :: (r.destination ++
        UInt8.ofNat r.tpdu.length :: r.tpdu)) (by simp [octets]) rfl rfl
  have hdestLen : byteAt r.octets (3 + r.originator.length) =
      .ok (UInt8.ofNat r.destination.length) :=
    byteAt_of_eq (p := [UInt8.ofNat r.msgType.value, UInt8.ofNat (r.reference % 256),
        UInt8.ofNat r.originator.length] ++ r.originator)
      (q := r.destination ++ UInt8.ofNat r.tpdu.length :: r.tpdu)
      (by simp [octets]) (by simp; omega)
  have hdest : (if 0 < r.destination.length then slice r.octets (3 + r.originator.length + 1)
      (3 + r.originator.length + 1 + r.destination.length) else []) = r.destination :=
    field_of_eq (p := [UInt8.ofNat r.msgType.value, UInt8.ofNat (r.reference % 256),
        UInt8.ofNat r.originator.length] ++ r.originator ++ [UInt8.ofNat r.destination.length])
      (q := UInt8.ofNat r.tpdu.length :: r.tpdu) (by simp [octets]) (by simp; omega) rfl
  have htpduLen : byteAt r.octets (3 + r.originator.length + 1 + r.destination.length) =
      .ok (UInt8.ofNat r.tpdu.length) :=
    byteAt_of_eq (p := [UInt8.ofNat r.msgType.value, UInt8.ofNat (r.reference % 256),
        UInt8.ofNat r.originator.length] ++ r.originator ++ [UInt8.ofNat r.destination.length] ++
        r.destination) (q := r.tpdu) (by simp [octets]) (by simp; omega)
  have htpdu : slice r.octets (3 + r.originator.length + 1 + r.destination.length + 1)
      (3 + r.originator.length + 1 + r.destination.length + 1 + r.tpdu.length) = r.tpdu :=
    slice_of_eq (p := [UInt8.ofNat r.msgType.value, UInt8.ofNat (r.reference % 256),
        UInt8.ofNat r.originator.length] ++ r.originator ++ [UInt8.ofNat r.destination.length] ++
        r.destination ++ [UInt8.ofNat r.tpdu.length]) (q := [])
      (by simp [octets]) (by simp; omega) rfl
  simp only [fromBytes, hmti, href, horigLen, ok_bind, msgType_ofValue,
    toNat_ofNat_of_lt (msgType_value_lt r.msgType), toNat_ofNat_of_lt hrefLt,
    toNat_ofNat_of_lt h.originator, horig, hdestLen, toNat_ofNat_of_lt h.destination, hdest,
    htpduLen, toNat_ofNat_of_lt h.tpdu, htpdu]
  rfl

/-- **The relay round trip.**  Whatever `to_bytes` writes, `from_bytes` reads back, with the
reference modulo 256. -/
theorem fromBytes_toBytes {r : RPData} {d : Bytes} (h : r.toBytes = .ok d) :
    fromBytes d = .ok { r with reference := r.reference % 256 } := by
  obtain ⟨hwf, rfl⟩ := (toBytes_eq_ok_iff r d).mp h
  exact fromBytes_octets hwf

end RPData

/-! ### The radio interface -/

/-- What `build_pdu_for_ril` writes, `parse_pdu_from_ril` takes apart. -/
theorem parsePduFromRil_buildPduForRil (tpdu : Bytes) {smsc : Bytes} (h : smsc.length < 256) :
    ∃ pdu, buildPduForRil tpdu smsc = .ok pdu ∧ parsePduFromRil pdu = .ok (smsc, tpdu) := by
  refine ⟨(hex ([UInt8.ofNat smsc.length] ++ smsc ++ tpdu)).map Char.toUpper, ?_, ?_⟩
  · rw [buildPduForRil, mkByte_of_lt h]
    rfl
  · have hsmsc : (if 0 < smsc.length then
        slice ([UInt8.ofNat smsc.length] ++ smsc ++ tpdu) 1 (1 + smsc.length) else []) = smsc :=
      RPData.field_of_eq (p := [UInt8.ofNat smsc.length]) rfl rfl rfl
    have htpdu : ([UInt8.ofNat smsc.length] ++ smsc ++ tpdu).drop (1 + smsc.length) = tpdu :=
      List.drop_left' (by simp; omega)
    have hlen : byteAt ([UInt8.ofNat smsc.length] ++ smsc ++ tpdu) 0 =
      .ok (UInt8.ofNat smsc.length) := rfl
    simp only [parsePduFromRil, fromHex_hex_upper, ok_bind, hlen, toNat_ofNat_of_lt h, hsmsc, htpdu]
    rfl

/-! ### The path of a mobile-originated message -/

/-- A message from the text to the service centre: `SMSSubmit.create`, its octets, the radio
interface with the SMSC octets `ril`, the relay layer with reference `rpRef` and SMSC number
`smsc`, and back. -/
def mobileOriginated (dest text : Text) (dcs : DataCodingScheme) (msgRef : ℕ) (ril : Bytes)
    (rpRef : ℕ) (smsc : Text) : Except PyError SMSSubmit := do
  let tpdu ← (SMSSubmit.create dest text dcs msgRef).toBytes
  let pdu ← buildPduForRil tpdu ril
  let (_, tpdu) ← parsePduFromRil pdu
  let rp ← RPData.wrapMo tpdu rpRef smsc
  let body ← rp.toBytes
  let received ← RPData.fromBytes body
  SMSSubmit.fromBytes received.tpdu

/-- The text a single message can carry: 160 septets of the 7-bit alphabet or 140 octets of UCS2. -/
def SingleText (dcs : DataCodingScheme) (text : Text) : Prop :=
  (dcs = .gsm7Bit ∧ (∀ c ∈ text, InGsm7 c) ∧ text.length ≤ 160) ∨
    (dcs = .ucs2 ∧ (encodeUtf16 text).length ≤ 140)

theorem SingleText.fits {dcs : DataCodingScheme} {text : Text} (h : SingleText dcs text) :
    UserDataFits dcs text [] := by
  rcases h with ⟨rfl, halpha, hlen⟩ | ⟨rfl, hlen⟩
  · exact ⟨rfl, halpha, by omega⟩
  · exact ⟨rfl, by omega⟩

theorem create_wellFormed {dest digits text : Text} {dcs : DataCodingScheme}
    (hdest : dest = digits ∨ dest = '+' :: digits) (hd : ∀ c ∈ digits, IsDigit c)
    (hshort : digits.length < 256) (htext : SingleText dcs text) (msgRef : ℕ) :
    (SMSSubmit.create dest text dcs msgRef).WellFormed := by
  have hda := SMSAddress.international_eq hdest hd
  refine ⟨?_, by simp [SMSSubmit.create], ?_, htext.fits⟩
  · simp only [SMSSubmit.create, hda]
    exact ⟨by simp, hd, hshort, by simp⟩
  · intro v hv
    cases hv

/-- `to_bytes` of a created message is defined exactly when the digits fit their length octet. -/
theorem create_toBytes_defined_iff {dest digits text : Text} {dcs : DataCodingScheme}
    (hdest : dest = digits ∨ dest = '+' :: digits) (hd : ∀ c ∈ digits, IsDigit c)
    (htext : SingleText dcs text) (msgRef : ℕ) :
    (∃ tpdu, (SMSSubmit.create dest text dcs msgRef).toBytes = .ok tpdu) ↔ digits.length ≤ 255 := by
  constructor
  · rintro ⟨tpdu, h⟩
    obtain ⟨_, _, h⟩ := bind_eq_ok h
    obtain ⟨_, _, h⟩ := bind_eq_ok h
    obtain ⟨da, hda, _⟩ := bind_eq_ok h
    simp only [SMSSubmit.create, SMSAddress.international_eq hdest hd, SMSAddress.toBytes,
      SMSAddress.filter_plus_of_digits hd] at hda
    obtain ⟨_, _, hda⟩ := bind_eq_ok hda
    obtain ⟨_, hlen, _⟩ := bind_eq_ok hda
    exact Nat.le_of_lt_succ (mkByte_eq_ok hlen).1
  · intro h
    obtain ⟨d, hd, -⟩ :=
      SMSSubmit.fromBytes_toBytes (create_wellFormed hdest hd (by omega) htext msgRef)
    exact ⟨d, hd⟩

theorem smscAddress_of_digits {smsc : Text} (h : ∀ c ∈ smsc, c = '+' ∨ IsDigit c)
    (hlen : smsc.length ≤ 500) : ∃ a, RPData.smscAddress smsc = .ok a ∧ a.length < 256 := by
  unfold RPData.smscAddress
  split_ifs with hs
  · exact ⟨[], rfl, by decide⟩
  · have hd : ∀ c ∈ smsc.filter (· ≠ '+'), IsDigit c := by
      intro c hc
      obtain ⟨hc, hne⟩ := List.mem_filter.mp hc
      exact (h c hc).resolve_left (by simpa using hne)
    have hle : (smsc.filter (· ≠ '+')).length ≤ 500 := (List.length_filter_le _ _).trans hlen
    obtain ⟨bcd, hbcd, hbl, -⟩ := encodeBcd_spec hd
    refine ⟨[UInt8.ofNat (bcd.length + 1), 0x91] ++ bcd, ?_, ?_⟩
    · simp only [hbcd, ok_bind, mkByte_of_lt (show bcd.length + 1 < 256 by omega)]
      rfl
    · simp only [List.length_append, List.length_cons, List.length_nil, hbl]
      omega

/-- **The mobile-originated path.**  For every number of digits with an optional leading plus and
every text of one message, the service centre reads the dialled digits as an international number,
the text, and the message reference modulo 256; the only failure before it is a number of more than
255 digits.  Below it the relay layer is a round trip on every message it can write. -/
theorem mobileOriginated_received :
    (∀ (dest digits text : Text) (dcs : DataCodingScheme) (msgRef : ℕ) (ril : Bytes) (rpRef : ℕ)
        (smsc : Text), (dest = digits ∨ dest = '+' :: digits) → (∀ c ∈ digits, IsDigit c) →
      SingleText dcs text → ril.length ≤ 255 → (∀ c ∈ smsc, c = '+' ∨ IsDigit c) →
      smsc.length ≤ 500 →
      ((∃ tpdu, (SMSSubmit.create dest text dcs msgRef).toBytes = .ok tpdu) ↔
        digits.length ≤ 255) ∧
      ∀ tpdu, (SMSSubmit.create dest text dcs msgRef).toBytes = .ok tpdu → tpdu.length ≤ 255 →
        ∃ m, mobileOriginated dest text dcs msgRef ril rpRef smsc = .ok m ∧
          m.destination = ⟨digits, .international, 1⟩ ∧ m.text = text ∧ m.dcs = dcs ∧
          m.messageRef = msgRef % 256) ∧
    ∀ r : RPData, r.reference < 256 → r.originator.length ≤ 255 → r.destination.length ≤ 255 →
      r.tpdu.length ≤ 255 → ∃ d, r.toBytes = .ok d ∧ RPData.fromBytes d = .ok r := by
  refine ⟨?_, ?_⟩
  · intro dest digits text dcs msgRef ril rpRef smsc hdest hd htext hril hsmsc hsmscLen
    have hdef := create_toBytes_defined_iff hdest hd htext msgRef
    refine ⟨hdef, ?_⟩
    intro tpdu htpdu hlen
    have hwf := create_wellFormed hdest hd (Nat.lt_succ_of_le (hdef.mp ⟨tpdu, htpdu⟩)) htext msgRef
    obtain ⟨d, hwrite, hread⟩ := SMSSubmit.fromBytes_toBytes hwf
    obtain rfl : tpdu = d := Except.ok.inj (htpdu.symm.trans hwrite)
    obtain ⟨pdu, hbuild, hparse⟩ :=
      parsePduFromRil_buildPduForRil tpdu (Nat.lt_succ_of_le hril)
    obtain ⟨addr, haddr, haddrLen⟩ := smscAddress_of_digits hsmsc hsmscLen
    have hwrap : RPData.wrapMo tpdu rpRef smsc =
        .ok { msgType := .rpDataMo, reference := rpRef, destination := addr, tpdu } := by
      rw [RPData.wrapMo, haddr]
      rfl
    have hbody := (RPData.toBytes_eq_ok_iff
      { msgType := .rpDataMo, reference := rpRef, destination := addr, tpdu } _).mpr
        ⟨⟨by simp, haddrLen, Nat.lt_succ_of_le hlen⟩, rfl⟩
    have hrp := RPData.fromBytes_toBytes hbody
    refine ⟨{ (SMSSubmit.create dest text dcs msgRef).filled with messageRef := msgRef % 256 }, ?_,
      SMSAddress.international_eq hdest hd, rfl, rfl, rfl⟩
    simp only [mobileOriginated, htpdu, hbuild, hparse, hwrap, hbody, hrp, ok_bind]
    exact hread
  · intro r href horig hdest htpdu
    have hbody := (RPData.toBytes_eq_ok_iff r r.octets).mpr
      ⟨⟨Nat.lt_succ_of_le horig, Nat.lt_succ_of_le hdest, Nat.lt_succ_of_le htpdu⟩, rfl⟩
    refine ⟨r.octets, hbody, ?_⟩
    rw [RPData.fromBytes_toBytes hbody, Nat.mod_eq_of_lt href]

/-- A seven-character message to an eleven-digit number, with message reference 300. -/
theorem mobileOriginated_received_hello :
    (∃ m, mobileOriginated "+15551234567".toList "Hello @".toList .gsm7Bit 300 [] 7 [] = .ok m ∧
      m.destination = ⟨"15551234567".toList, .international, 1⟩ ∧ m.text = "Hello @".toList ∧
      m.dcs = .gsm7Bit ∧ m.messageRef = 44) ∧
    ∃ d, RPData.toBytes { reference := 9, tpdu := [1, 2] } = .ok d ∧
      RPData.fromBytes d = .ok { reference := 9, tpdu := [1, 2] } := by
  have hmo := mobileOriginated_received.1 "+15551234567".toList "15551234567".toList
    "Hello @".toList .gsm7Bit 300 [] 7 [] (Or.inr (by decide))
    (forall_mem_of_all (by decide))
    (Or.inl ⟨rfl, forall_mem_of_all (by decide +kernel), by decide⟩) (by decide) (by simp) (by decide)
  obtain ⟨tpdu, htpdu⟩ := hmo.1.mpr (by decide)
  have hrp := mobileOriginated_received.2 { reference := 9, tpdu := [1, 2] } (by decide) (by decide)
    (by decide) (by decide)
  have hlen : ((SMSSubmit.create "+15551234567".toList "Hello @".toList .gsm7Bit 300).toBytes.map
      List.length) = .ok 20 := by
    decide +kernel
  rw [htpdu] at hlen
  have htpduLen : tpdu.length = 20 := Except.ok.inj hlen
  exact ⟨hmo.2 tpdu htpdu (by omega), hrp⟩

end VirtualPhone
