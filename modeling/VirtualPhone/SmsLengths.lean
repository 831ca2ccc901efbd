import VirtualPhone.SmsRoundTrip

/-! # The lengths in an SMS (`ims/sms_pdu.py`)

Every variable part of a PDU stands behind its length.  Two things depend on it:

* an address counts semi-octets, and a name in it counts septets.  `address_in_context` says which
  addresses are read back from the middle of an octet string: all telephone numbers, and the names of
  at most six characters.  Behind a longer name, `from_bytes` reads on into the octets that follow;
* a slice past the end is silently short.  `truncated_sms` says that of all the parts of a PDU only the
  last one can be cut without an error, and that a PDU in which it is cut is accepted. -/

namespace VirtualPhone

open Runtime

/-! ### Addresses in context -/

namespace SMSAddress

/-- What can be written: up to 255 digits, or a name of up to 127 characters of the alphabet. -/
def Written (a : SMSAddress) : Prop :=
  a.typeOfNumber ≠ .alphanumeric ∧ (∀ c ∈ a.number, IsDigit c) ∧ a.number.length ≤ 255 ∨
    a.typeOfNumber = .alphanumeric ∧ (∀ c ∈ a.number, InGsm7 c) ∧ a.number.length ≤ 127

/-- The address is read back from between `pre` and `suf`, and the reader stops at its end. -/
def ReadsBack (a : SMSAddress) (pre suf : Bytes) : Prop :=
  ∃ d, a.toBytes = .ok d ∧
    fromBytes (pre ++ (d ++ suf)) pre.length = .ok (a, pre.length + d.length)

theorem toBytes_name {a : SMSAddress} (hton : a.typeOfNumber = .alphanumeric)
    (hshort : a.number.length ≤ 127) :
    a.toBytes = .ok (UInt8.ofNat (a.number.length * 2) :: UInt8.ofNat a.typeOfAddress ::
      encodeGsm7 a.number) := by
  simp only [toBytes, if_pos hton, mkByte_of_lt (show a.number.length * 2 < 256 by omega),
    mkByte_of_lt a.typeOfAddress_lt, ok_bind]
  rfl

/-- What is read behind a name of `n` characters: `n` octets, and `⌊8n / 7⌋` characters from them. -/
theorem fromBytes_name {a : SMSAddress} (hton : a.typeOfNumber = .alphanumeric)
    (hshort : a.number.length ≤ 127) (pre suf : Bytes) :
    fromBytes (pre ++ (UInt8.ofNat (a.number.length * 2) :: UInt8.ofNat a.typeOfAddress ::
        encodeGsm7 a.number ++ suf)) pre.length =
      .ok (⟨decodeGsm7 ((encodeGsm7 a.number ++ suf).take a.number.length) (a.number.length * 8 / 7),
        .alphanumeric, a.numberingPlan % 16⟩, pre.length + 2 + a.number.length) := by
  have hlen := toNat_ofNat_of_lt (show a.number.length * 2 < 256 by omega)
  have hoctets : (a.number.length * 2 + 1) / 2 = a.number.length := by omega
  have hseptets : a.number.length * 2 * 4 / 7 = a.number.length * 8 / 7 := by
    rw [Nat.mul_assoc]
  have hread := a.fromBytes_field (UInt8.ofNat (a.number.length * 2)) pre (encodeGsm7 a.number ++ suf)
  rw [hlen, hton, hoctets, readNumber, if_pos rfl, hseptets] at hread
  exact hread

theorem decodeGsm7_length (data : Bytes) (n : ℕ) : (decodeGsm7 data n).length = n := by
  rw [decodeGsm7, List.length_map, List.length_range]

theorem readsBack_name {a : SMSAddress} (hton : a.typeOfNumber = .alphanumeric)
    (halphabet : ∀ c ∈ a.number, InGsm7 c) (hshort : a.number.length ≤ 127) (pre suf : Bytes) :
    a.ReadsBack pre suf ↔ a.numberingPlan < 16 ∧ a.number.length < 7 := by
  have hwrite := toBytes_name hton hshort
  have hread := fromBytes_name hton hshort pre suf
  have hlength := encodeGsm7_length a.number
  constructor
  · rintro ⟨d, hd, hback⟩
    obtain rfl := Except.ok.inj (hwrite.symm.trans hd)
    obtain ⟨hsame, hoffset⟩ := Prod.mk.inj (Except.ok.inj (hread.symm.trans hback))
    have hnumber := congrArg (fun b => b.number.length) hsame
    have hplan := congrArg SMSAddress.numberingPlan hsame
    simp only [decodeGsm7_length, List.length_cons] at hnumber hplan hoffset
    omega
  · rintro ⟨hplan, hlt⟩
    have hfits : a.number.length = (encodeGsm7 a.number).length := by omega
    have hseptets : a.number.length * 8 / 7 = a.number.length := by omega
    refine ⟨_, hwrite, hread.trans ?_⟩
    rw [hseptets, Nat.mod_eq_of_lt hplan,
      show (encodeGsm7 a.number ++ suf).take a.number.length = encodeGsm7 a.number by
        rw [hfits]; exact List.take_left,
      decodeGsm7_encodeGsm7 halphabet, ← hton]
    simp only [List.length_cons, ← hfits, Nat.add_assoc, Nat.add_comm 2]

/-- A telephone number is always read back; its numbering plan has four bits. -/
theorem readsBack_digits {a : SMSAddress} (hton : a.typeOfNumber ≠ .alphanumeric)
    (hdigits : ∀ c ∈ a.number, IsDigit c) (hshort : a.number.length ≤ 255) (pre suf : Bytes) :
    a.ReadsBack pre suf ↔ a.numberingPlan < 16 := by
  constructor
  · rintro ⟨d, hd, hback⟩
    obtain ⟨bcd, hbcd, -⟩ := decodeBcd_encodeBcd hdigits
    have hwrite := toBytes_digits hton hdigits (Nat.lt_succ_of_le hshort) hbcd
    obtain rfl := Except.ok.inj (hwrite.symm.trans hd)
    have hread := (a.fromBytes_field (UInt8.ofNat a.number.length) pre (bcd ++ suf)).symm.trans hback
    have hplan := congrArg (fun r => r.1.numberingPlan) (Except.ok.inj hread)
    dsimp only at hplan
    omega
  · intro hplan
    obtain ⟨d, hd, -, hread⟩ := fromBytes_toBytes ⟨hton, hdigits, Nat.lt_succ_of_le hshort, hplan⟩
    exact ⟨d, hd, hread pre suf⟩

end SMSAddress

open SMSAddress in
/-- **Addresses in context.**  An address is read back from between any two octet strings, up to its
own end, if and only if its numbering plan has four bits and, where it is a name, the name has at
most six characters. -/
theorem address_in_context {a : SMSAddress} (h : a.Written) (pre suf : Bytes) :
    a.ReadsBack pre suf ↔
      a.numberingPlan < 16 ∧ (a.typeOfNumber = .alphanumeric → a.number.length < 7) := by
  rcases h with ⟨hton, hdigits, hshort⟩ | ⟨hton, halphabet, hshort⟩
  · rw [readsBack_digits hton hdigits hshort]
    exact ⟨fun hplan => ⟨hplan, fun h => absurd h hton⟩, And.left⟩
  · rw [readsBack_name hton halphabet hshort]
    exact ⟨fun h => ⟨h.1, fun _ => h.2⟩, fun h => ⟨h.1, h.2 hton⟩⟩

/-- A telephone number. -/
theorem address_in_context_number :
    SMSAddress.ReadsBack ⟨"12345".toList, .international, 1⟩ [0x04] [0x00] :=
  (address_in_context (Or.inl ⟨by decide, forall_mem_of_all (by decide +kernel), by decide +kernel⟩)
    [0x04] [0x00]).mpr (by decide +kernel)

/-- Behind a name of eight characters one octet too many is read, and a ninth character in it. -/
theorem address_in_context_name :
    ¬SMSAddress.ReadsBack ⟨"Operator".toList, .alphanumeric, 1⟩ [] [0xFF] := fun h =>
  absurd ((SMSAddress.readsBack_name rfl (forall_mem_of_all (by decide +kernel)) (by decide) []
    [0xFF]).mp h).2 (by decide)

/-! ### Cut octet strings -/

/-- The octet at `i`, as a number. -/
def octetAt (d : Bytes) (i : ℕ) : ℕ := (d.getD i 0).toNat

theorem byteAt_inside {d : Bytes} {i : ℕ} {b : UInt8} (h : byteAt d i = .ok b) :
    i < d.length ∧ octetAt d i = b.toNat ∧ d.drop i = b :: d.drop (i + 1) := by
  unfold byteAt at h
  split at h
  · next c hc =>
      obtain rfl := Except.ok.inj h
      obtain ⟨hi, hget⟩ := List.getElem?_eq_some_iff.mp hc
      refine ⟨hi, ?_, ?_⟩
      · rw [octetAt, List.getD_eq_getElem?_getD, hc, Option.getD_some]
      · rw [List.drop_eq_getElem_cons hi, hget]
  · cases h

theorem drop_eq_slice_append (d : Bytes) {i j : ℕ} (h : i ≤ j) :
    d.drop i = slice d i j ++ d.drop j := by
  rw [slice, ← Nat.add_sub_cancel' h, ← List.drop_drop, Nat.add_sub_cancel_left]
  exact (List.take_append_drop _ _).symm

/-- The source tests a length before it slices; the slice would be empty anyway. -/
theorem ite_slice (d : Bytes) (i n : ℕ) : (if 0 < n then slice d i (i + n) else []) = slice d i (i + n) := by
  split_ifs with h
  · rfl
  · obtain rfl : n = 0 := by omega
    rw [slice, Nat.add_sub_cancel_left, List.take_zero]

theorem slice_length_of_le {d : Bytes} {i n : ℕ} (h : i + n ≤ d.length) :
    (slice d i (i + n)).length = n := by
  rw [slice_length]
  omega

/-! ### RP-DATA -/

namespace RPData

/-- The octets that an RP-DATA message announces, the last length in it included. -/
def announced (d : Bytes) : ℕ :=
  let origLen := octetAt d 2
  let destLen := octetAt d (3 + origLen)
  5 + origLen + destLen + octetAt d (4 + origLen + destLen)

theorem msgType_value {n : ℕ} {t : RPMessageType} (h : RPMessageType.ofValue n = .ok t) : t.value = n := by
  unfold RPMessageType.ofValue at h
  split at h <;> cases h <;> rfl

/-- What is read of an octet string that is accepted: only the TPDU can be cut. -/
theorem fromBytes_inv {d : Bytes} {r : RPData} (h : fromBytes d = .ok r) :
    ∃ (mti ref tpduLen : UInt8) (rest : Bytes), r.msgType.value = mti.toNat ∧ r.reference = ref.toNat ∧
      r.originator.length < 256 ∧ r.destination.length < 256 ∧ r.tpdu = rest.take tpduLen.toNat ∧
      announced d = d.length - rest.length + tpduLen.toNat ∧
      d = [mti, ref, UInt8.ofNat r.originator.length] ++ r.originator ++
        [UInt8.ofNat r.destination.length] ++ r.destination ++ tpduLen :: rest := by
  obtain ⟨mti, hmti, h⟩ := bind_eq_ok h
  obtain ⟨msgType, hmsgType, h⟩ := bind_eq_ok h
  obtain ⟨ref, href, h⟩ := bind_eq_ok h
  obtain ⟨origLen, horig, h⟩ := bind_eq_ok h
  obtain ⟨destLen, hdest, h⟩ := bind_eq_ok h
  obtain ⟨tpduLen, htpdu, h⟩ := bind_eq_ok h
  obtain rfl := Except.ok.inj h
  obtain ⟨-, -, hmtiOctet⟩ := byteAt_inside hmti
  obtain ⟨-, -, hrefOctet⟩ := byteAt_inside href
  obtain ⟨-, horigLen, horigOctet⟩ := byteAt_inside horig
  obtain ⟨hdestInside, hdestLen, hdestOctet⟩ := byteAt_inside hdest
  obtain ⟨htpduInside, htpduLen, htpduOctet⟩ := byteAt_inside htpdu
  simp only [ite_slice]
  -- a part whose length is followed by another octet is whole
  have hA : (slice d 3 (3 + origLen.toNat)).length = origLen.toNat :=
    slice_length_of_le (Nat.le_of_lt hdestInside)
  have hB : (slice d (3 + origLen.toNat + 1) (3 + origLen.toNat + 1 + destLen.toNat)).length =
      destLen.toNat := slice_length_of_le (Nat.le_of_lt htpduInside)
  refine ⟨mti, ref, tpduLen, d.drop (3 + origLen.toNat + 1 + destLen.toNat + 1),
    msgType_value hmsgType, rfl, ?_, ?_, ?_, ?_, ?_⟩
  · rw [hA]
    exact origLen.toNat_lt
  · rw [hB]
    exact destLen.toNat_lt
  · rw [slice, Nat.add_sub_cancel_left]
  · have hoffset : 4 + origLen.toNat + destLen.toNat = 3 + origLen.toNat + 1 + destLen.toNat := by omega
    simp only [announced, horigLen, hdestLen, hoffset, htpduLen, List.length_drop]
    omega
  · rw [hA, hB, UInt8.ofNat_toNat, UInt8.ofNat_toNat]
    calc d = mti :: ref :: origLen :: d.drop 3 := by
          rw [← horigOctet, ← hrefOctet, ← hmtiOctet, List.drop_zero]
      _ = mti :: ref :: origLen :: (slice d 3 (3 + origLen.toNat) ++
            destLen :: d.drop (3 + origLen.toNat + 1)) := by
          rw [← hdestOctet, ← drop_eq_slice_append d (Nat.le_add_right _ _)]
      _ = _ := by
          rw [drop_eq_slice_append d (Nat.le_add_right (3 + origLen.toNat + 1) destLen.toNat), htpduOctet]
          simp only [List.append_assoc, List.cons_append, List.nil_append]

/-- Writing back what was read gives the octet string again, as far as it goes, if and only if it is
as long as announced. -/
theorem toBytes_isPrefix_iff {d : Bytes} {r : RPData} (h : fromBytes d = .ok r) :
    (∃ e, r.toBytes = .ok e ∧ e <+: d) ↔ announced d ≤ d.length := by
  obtain ⟨mti, ref, tpduLen, rest, hmti, href, horig, hdest, htpdu, hannounced, hd⟩ := fromBytes_inv h
  have hshort : r.tpdu.length < 256 := by
    have := tpduLen.toNat_lt
    rw [htpdu, List.length_take]
    omega
  have hwrite : r.toBytes = .ok ([mti, ref, UInt8.ofNat r.originator.length] ++ r.originator ++
      [UInt8.ofNat r.destination.length] ++ r.destination ++ UInt8.ofNat r.tpdu.length :: r.tpdu) := by
    have href' : r.reference &&& 0xFF = ref.toNat := by
      rw [href, show (0xFF : ℕ) = 2 ^ 8 - 1 from rfl, and_mask]
      exact Nat.mod_eq_of_lt ref.toNat_lt
    simp only [toBytes, hmti, href', mkByte_of_lt mti.toNat_lt, mkByte_of_lt ref.toNat_lt,
      mkByte_of_lt horig, mkByte_of_lt hdest, mkByte_of_lt hshort, ok_bind, UInt8.ofNat_toNat]
    simp only [List.append_assoc, List.cons_append, List.nil_append]
    rfl
  have hlength : rest.length < d.length := by
    rw [hd]
    simp only [List.length_append, List.length_cons]
    omega
  have hwhole : (∃ e, r.toBytes = .ok e ∧ e <+: d) ↔ tpduLen.toNat ≤ rest.length := by
    constructor
    · rintro ⟨e, he, hprefix⟩
      obtain rfl := Except.ok.inj (hwrite.symm.trans he)
      rw [hd, List.prefix_append_right_inj, List.cons_prefix_cons] at hprefix
      have hlen : r.tpdu.length = tpduLen.toNat := by
        rw [← hprefix.1, toNat_ofNat_of_lt hshort]
      rw [htpdu, List.length_take] at hlen
      omega
    · intro hle
      refine ⟨_, hwrite, ?_⟩
      have hlen : r.tpdu.length = tpduLen.toNat := by
        rw [htpdu, List.length_take, Nat.min_eq_left hle]
      rw [hd, List.prefix_append_right_inj, List.cons_prefix_cons, hlen, UInt8.ofNat_toNat, htpdu]
      exact ⟨rfl, List.take_prefix _ _⟩
  rw [hwhole, hannounced]
  omega

end RPData

/-! ### User data and addresses of a TPDU -/

/-- The octets of user data of length `udl` under the coding octet `coding`: septets are packed. -/
def userDataOctets (coding udl : ℕ) : ℕ := if coding &&& 0x0C = 0 then (udl * 7 + 7) / 8 else udl

theorem readUserData_length {dcs : DataCodingScheme} {coding : ℕ}
    (hdcs : DataCodingScheme.ofValue (coding &&& 0x0C) = .ok dcs) (d : Bytes) (offset udl : ℕ) :
    (readUserData dcs d offset udl).1.length = min (userDataOctets coding udl) (d.length - offset) := by
  have hslice : ∀ n, (slice d offset (offset + n)).length = min n (d.length - offset) := by
    intro n
    rw [slice_length, Nat.add_sub_cancel_left]
  unfold DataCodingScheme.ofValue at hdcs
  unfold userDataOctets
  split_ifs at hdcs ⊢ <;> obtain rfl := Except.ok.inj hdcs <;> exact hslice _

/-- User data behind its length at `lengthAt`, under the coding at `codingAt`, is whole when the octets
reach to its end. -/
theorem readUserData_whole_iff {dcs : DataCodingScheme} {d : Bytes} {codingAt lengthAt coding udl : ℕ}
    (hcoding : octetAt d codingAt = coding) (hudl : octetAt d lengthAt = udl)
    (hdcs : DataCodingScheme.ofValue (coding &&& 0x0C) = .ok dcs) (hinside : lengthAt < d.length) :
    (readUserData dcs d (lengthAt + 1) udl).1.length =
        userDataOctets (octetAt d codingAt) (octetAt d lengthAt) ↔
      lengthAt + 1 + userDataOctets (octetAt d codingAt) (octetAt d lengthAt) ≤ d.length := by
  rw [hcoding, hudl, readUserData_length hdcs]
  omega

namespace SMSAddress

/-- The octets of the address field at `offset`. -/
def fieldLength (d : Bytes) (offset : ℕ) : ℕ := 2 + (octetAt d offset + 1) / 2

/-- The number is decoded from as many octets as the address field at `offset` announces. -/
def Whole (d : Bytes) (offset : ℕ) (a : SMSAddress) : Prop :=
  ∃ octets, octets.length = (octetAt d offset + 1) / 2 ∧ octets <+: d.drop (offset + 2) ∧
    a.number = readNumber a.typeOfNumber (octetAt d offset) octets

theorem fromBytes_whole {d : Bytes} {offset offset' : ℕ} {a : SMSAddress}
    (h : fromBytes d offset = .ok (a, offset')) :
    offset' = offset + fieldLength d offset ∧ (offset' < d.length → a.Whole d offset) := by
  obtain ⟨len, hlen, h⟩ := bind_eq_ok h
  obtain ⟨toa, -, h⟩ := bind_eq_ok h
  obtain ⟨ton, -, h⟩ := bind_eq_ok h
  obtain ⟨-, hoctetAt, -⟩ := byteAt_inside hlen
  obtain ⟨rfl, rfl⟩ := Prod.mk.inj (Except.ok.inj h)
  refine ⟨by rw [fieldLength, hoctetAt, Nat.add_assoc], fun hinside => ?_⟩
  refine ⟨slice d (offset + 2) (offset + 2 + (len.toNat + 1) / 2), ?_, ?_, ?_⟩
  · rw [hoctetAt]
    exact slice_length_of_le (Nat.le_of_lt hinside)
  · exact List.take_prefix _ _
  · rw [hoctetAt, readNumber]

end SMSAddress

/-! ### SMS-DELIVER -/

namespace SMSDeliver

/-- The offset of the user-data length. -/
def lengthOffset (d : Bytes) : ℕ := 1 + SMSAddress.fieldLength d 1 + 2 + 7

/-- The octets that an SMS-DELIVER announces. -/
def announced (d : Bytes) : ℕ :=
  lengthOffset d + 1 +
    userDataOctets (octetAt d (1 + SMSAddress.fieldLength d 1 + 1)) (octetAt d (lengthOffset d))

/-- The originator, the timestamp and the user data have the lengths that are announced. -/
structure Whole (d : Bytes) (m : SMSDeliver) : Prop where
  originator : m.originator.Whole d 1
  timestamp : m.timestamp.length = 7
  userData : m.userData.length =
    userDataOctets (octetAt d (1 + SMSAddress.fieldLength d 1 + 1)) (octetAt d (lengthOffset d))

theorem whole_iff {d : Bytes} {m : SMSDeliver} (h : fromBytes d = .ok m) :
    Whole d m ↔ announced d ≤ d.length := by
  obtain ⟨flags, -, h⟩ := bind_eq_ok h
  obtain ⟨⟨originator, offset⟩, horiginator, h⟩ := bind_eq_ok h
  obtain ⟨pid, hpid, h⟩ := bind_eq_ok h
  obtain ⟨coding, hcoding, h⟩ := bind_eq_ok h
  obtain ⟨dcs, hdcs, h⟩ := bind_eq_ok h
  obtain ⟨udl, hudl, h⟩ := bind_eq_ok h
  obtain rfl := Except.ok.inj h
  obtain ⟨rfl, horiginator⟩ := SMSAddress.fromBytes_whole horiginator
  obtain ⟨hpid, -, -⟩ := byteAt_inside hpid
  obtain ⟨-, hcoding, -⟩ := byteAt_inside hcoding
  obtain ⟨hinside, hudl, -⟩ := byteAt_inside hudl
  change lengthOffset d < d.length at hinside
  change octetAt d (lengthOffset d) = udl.toNat at hudl
  have huserData := readUserData_whole_iff hcoding hudl hdcs hinside
  constructor
  · intro hwhole
    exact huserData.mp hwhole.userData
  · intro hle
    exact ⟨horiginator hpid, slice_length_of_le (Nat.le_of_lt hinside), huserData.mpr hle⟩

end SMSDeliver

/-! ### SMS-SUBMIT -/

namespace SMSSubmit

/-- The octets of the validity period under the format bits `vpf`. -/
def periodLength (vpf : ℕ) : ℕ := if vpf = 0b10 then 1 else if vpf = 0b11 ∨ vpf = 0b01 then 7 else 0

/-- The offset of the user-data length. -/
def lengthOffset (d : Bytes) : ℕ :=
  2 + SMSAddress.fieldLength d 2 + 2 + periodLength ((octetAt d 0 >>> 3) &&& 0x03)

/-- The octets that an SMS-SUBMIT announces. -/
def announced (d : Bytes) : ℕ :=
  lengthOffset d + 1 +
    userDataOctets (octetAt d (2 + SMSAddress.fieldLength d 2 + 1)) (octetAt d (lengthOffset d))

/-- The destination and the user data have the lengths that are announced. -/
structure Whole (d : Bytes) (m : SMSSubmit) : Prop where
  destination : m.destination.Whole d 2
  userData : m.userData.length =
    userDataOctets (octetAt d (2 + SMSAddress.fieldLength d 2 + 1)) (octetAt d (lengthOffset d))

theorem readValidityPeriod_offset {vpf offset offset' : ℕ} {d : Bytes} {vp : Option ℕ}
    (h : readValidityPeriod vpf d offset = .ok (vp, offset')) : offset' = offset + periodLength vpf := by
  unfold readValidityPeriod at h
  unfold periodLength
  split_ifs at h ⊢ with hrelative habsolute henhanced
  · obtain ⟨octet, -, h⟩ := bind_eq_ok h
    exact (Prod.mk.inj (Except.ok.inj h)).2.symm
  all_goals first | exact (Prod.mk.inj (Except.ok.inj h)).2.symm | omega

theorem whole_iff {d : Bytes} {m : SMSSubmit} (h : fromBytes d = .ok m) :
    Whole d m ↔ announced d ≤ d.length := by
  obtain ⟨flags, hflags, h⟩ := bind_eq_ok h
  obtain ⟨ref, -, h⟩ := bind_eq_ok h
  obtain ⟨⟨destination, offset⟩, hdestination, h⟩ := bind_eq_ok h
  obtain ⟨pid, hpid, h⟩ := bind_eq_ok h
  obtain ⟨coding, hcoding, h⟩ := bind_eq_ok h
  obtain ⟨dcs, hdcs, h⟩ := bind_eq_ok h
  obtain ⟨⟨vp, offset'⟩, hvp, h⟩ := bind_eq_ok h
  obtain ⟨udl, hudl, h⟩ := bind_eq_ok h
  obtain rfl := Except.ok.inj h
  obtain ⟨rfl, hdestination⟩ := SMSAddress.fromBytes_whole hdestination
  obtain ⟨-, hflags, -⟩ := byteAt_inside hflags
  obtain ⟨hpid, -, -⟩ := byteAt_inside hpid
  obtain ⟨-, hcoding, -⟩ := byteAt_inside hcoding
  obtain rfl : offset' = lengthOffset d := by
    rw [readValidityPeriod_offset hvp, lengthOffset, hflags]
  obtain ⟨hinside, hudl, -⟩ := byteAt_inside hudl
  have huserData := readUserData_whole_iff hcoding hudl hdcs hinside
  constructor
  · intro hwhole
    exact huserData.mp hwhole.userData
  · intro hle
    exact ⟨hdestination hpid, huserData.mpr hle⟩

end SMSSubmit

/-- **Cut octet strings.**  What `from_bytes` reads from an accepted octet string has the lengths that
are announced in it (for RP-DATA: is written back as a prefix of it) if and only if the octet string
itself is as long as announced, that is, if it is not cut in its last part. -/
theorem truncated_sms (d : Bytes) :
    (∀ r, RPData.fromBytes d = .ok r →
      ((∃ e, r.toBytes = .ok e ∧ e <+: d) ↔ RPData.announced d ≤ d.length)) ∧
    (∀ m, SMSDeliver.fromBytes d = .ok m → (m.Whole d ↔ SMSDeliver.announced d ≤ d.length)) ∧
    ∀ m, SMSSubmit.fromBytes d = .ok m → (m.Whole d ↔ SMSSubmit.announced d ≤ d.length) :=
  ⟨fun _ h => RPData.toBytes_isPrefix_iff h, fun _ h => SMSDeliver.whole_iff h,
    fun _ h => SMSSubmit.whole_iff h⟩

/-- An RP-DATA message with a TPDU of two octets, and nothing missing. -/
theorem truncated_sms_complete : ∃ r, RPData.fromBytes [0x01, 0x07, 0, 0, 2, 0xAA, 0xBB] = .ok r ∧
    ∃ e, r.toBytes = .ok e ∧ e <+: [0x01, 0x07, 0, 0, 2, 0xAA, 0xBB] :=
  ⟨_, rfl, ((truncated_sms _).1 _ rfl).mpr (by decide)⟩

/-- Two PDUs that announce five octets, or five characters, and end there: the first is not written
back, and the text of the second is made up. -/
theorem truncated_sms_accepted :
    (∃ r, RPData.fromBytes [0, 0, 0, 0, 5] = .ok r ∧
      ¬∃ e, r.toBytes = .ok e ∧ e <+: [0, 0, 0, 0, 5]) ∧
    ∃ m, SMSDeliver.fromBytes [0x04, 0, 0x91, 0, 0, 0, 0, 0, 0, 0, 0, 0, 5] = .ok m ∧
      m.userData = [] ∧ m.text = "@@@@@".toList ∧
      ¬m.Whole [0x04, 0, 0x91, 0, 0, 0, 0, 0, 0, 0, 0, 0, 5] := by
  refine ⟨⟨_, rfl, fun h => ?_⟩, ⟨_, rfl, rfl, by decide +kernel, fun h => ?_⟩⟩
  · exact absurd ((RPData.toBytes_isPrefix_iff rfl).mp h) (by decide)
  · exact absurd ((SMSDeliver.whole_iff rfl).mp h) (by decide)

end VirtualPhone
