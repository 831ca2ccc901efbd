import VirtualPhone.SipMessage
import VirtualPhone.SmsRoundTrip

/-! # RP-DATA in the body of a SIP MESSAGE

`ims/sms.py` puts the octets of a relay message into the body of a SIP MESSAGE.  The receiver's
parser decodes the datagram as UTF-8 with replacement and encodes the body again, so only bodies
that are well-formed UTF-8 arrive.  `messageBody_received_iff` says exactly which relay messages
are received as they were sent, and that no relay message around a TPDU of this repository is among
them. -/

namespace VirtualPhone

open Runtime

/-- The receiver of the serialised message has the octets `d` as its body and reads `r` from them. -/
def BodyReceived (m : SIPMessage) (r : RPData) (d : Bytes) : Prop :=
  ∃ msg, SIPMessage.parse m.serialize = .ok msg ∧ msg.body = d ∧ RPData.fromBytes msg.body = .ok r

theorem RPData.octets_ne_nil (r : RPData) : r.octets ≠ [] := by
  simp [RPData.octets]

/-- A relay message is read back with its own reference only when that fits its octet. -/
theorem RPData.fromBytes_toBytes_eq_iff {r : RPData} {d : Bytes} (h : r.toBytes = .ok d) :
    RPData.fromBytes d = .ok r ↔ r.reference < 256 := by
  rw [RPData.fromBytes_toBytes h]
  constructor
  · intro heq
    have href := congrArg RPData.reference (Except.ok.inj heq)
    have hlt : r.reference % 256 < 256 := Nat.mod_lt _ (by decide)
    exact href ▸ hlt
  · intro hlt
    rw [Nat.mod_eq_of_lt hlt]

/-! ### The TPDUs of this repository -/

/-- The octets of an international address begin with the number of digits and 0x91. -/
theorem SMSAddress.international_octets {number digits : Text} {da : Bytes}
    (hnum : number = digits ∨ number = '+' :: digits) (hd : ∀ c ∈ digits, IsDigit c)
    (h : (SMSAddress.international number).toBytes = .ok da) :
    ∃ bcd, da = UInt8.ofNat digits.length :: 0x91 :: bcd := by
  rw [SMSAddress.international_eq hnum hd] at h
  simp only [SMSAddress.toBytes, SMSAddress.filter_plus_of_digits hd, reduceCtorEq, if_false] at h
  obtain ⟨bcd, -, h⟩ := bind_eq_ok h
  obtain ⟨len, hlen, h⟩ := bind_eq_ok h
  obtain ⟨toa, htoa, h⟩ := bind_eq_ok h
  obtain ⟨-, rfl⟩ := mkByte_eq_ok hlen
  have h91 : (⟨digits, .international, 1⟩ : SMSAddress).typeOfAddress = 0x91 := by
    rw [SMSAddress.typeOfAddress_eq]
    rfl
  rw [h91] at htoa
  obtain ⟨-, rfl⟩ := mkByte_eq_ok htoa
  exact ⟨bcd, (Except.ok.inj h).symm⟩

/-- A relay message around a TPDU with such an address is malformed text. -/
theorem rpData_malformed_of_address {r : RPData} {d : Bytes} {n : ℕ} (hn : n < 128)
    (hr : r.toBytes = .ok d) (htpdu : ∃ p q, r.tpdu = p ++ UInt8.ofNat n :: 0x91 :: q) :
    ¬ ValidUtf8 d := by
  obtain ⟨-, rfl⟩ := (RPData.toBytes_eq_ok_iff r d).mp hr
  obtain ⟨p, q, hpq⟩ := htpdu
  have hoctets : ∃ before, r.octets = before ++ r.tpdu := ⟨_, rfl⟩
  obtain ⟨before, hbefore⟩ := hoctets
  rw [hbefore, hpq, ← List.append_assoc]
  refine not_validUtf8_of_stray ?_ (by decide)
  rw [toNat_ofNat_of_lt (by omega)]
  exact hn

/-- A relay message around a created SMS-SUBMIT to a number of at most 127 digits is never well-formed
UTF-8, whatever its text. -/
theorem createdSubmit_malformed {dest digits text : Text} {dcs : DataCodingScheme} {msgRef : ℕ}
    {r : RPData} {d : Bytes} (hdest : dest = digits ∨ dest = '+' :: digits)
    (hd : ∀ c ∈ digits, IsDigit c) (hshort : digits.length < 128)
    (htpdu : (SMSSubmit.create dest text dcs msgRef).toBytes = .ok r.tpdu) (hr : r.toBytes = .ok d) :
    ¬ ValidUtf8 d := by
  obtain ⟨flags, -, h⟩ := bind_eq_ok htpdu
  obtain ⟨ref, -, h⟩ := bind_eq_ok h
  obtain ⟨da, hda, h⟩ := bind_eq_ok h
  obtain ⟨pid, -, h⟩ := bind_eq_ok h
  obtain ⟨code, -, h⟩ := bind_eq_ok h
  obtain ⟨vp, -, h⟩ := bind_eq_ok h
  obtain ⟨udl, -, h⟩ := bind_eq_ok h
  obtain ⟨bcd, rfl⟩ := SMSAddress.international_octets hdest hd hda
  exact rpData_malformed_of_address hshort hr ⟨[flags, ref], _, (Except.ok.inj h).symm.trans rfl⟩

theorem createdDeliver_malformed {orig digits text : Text} {dcs : DataCodingScheme} {scts : Bytes}
    {r : RPData} {d : Bytes} (horig : orig = digits ∨ orig = '+' :: digits)
    (hd : ∀ c ∈ digits, IsDigit c) (hshort : digits.length < 128)
    (htpdu : (SMSDeliver.create scts orig text dcs).toBytes = .ok r.tpdu) (hr : r.toBytes = .ok d) :
    ¬ ValidUtf8 d := by
  obtain ⟨flags, -, h⟩ := bind_eq_ok htpdu
  obtain ⟨oa, hoa, h⟩ := bind_eq_ok h
  obtain ⟨pid, -, h⟩ := bind_eq_ok h
  obtain ⟨code, -, h⟩ := bind_eq_ok h
  obtain ⟨udl, -, h⟩ := bind_eq_ok h
  obtain ⟨bcd, rfl⟩ := SMSAddress.international_octets horig hd hoa
  exact rpData_malformed_of_address hshort hr ⟨[flags], _, (Except.ok.inj h).symm.trans rfl⟩

/-- A message to or from a number of at most 127 digits, as `create` makes it. -/
def CreatedTpdu (tpdu : Bytes) : Prop :=
  ∃ number digits text dcs, (number = digits ∨ number = '+' :: digits) ∧ (∀ c ∈ digits, IsDigit c) ∧
    digits.length < 128 ∧
    ((∃ msgRef, (SMSSubmit.create number text dcs msgRef).toBytes = .ok tpdu) ∨
      ∃ scts, (SMSDeliver.create scts number text dcs).toBytes = .ok tpdu)

theorem CreatedTpdu.malformed {r : RPData} {d : Bytes} (h : CreatedTpdu r.tpdu) (hr : r.toBytes = .ok d) :
    ¬ValidUtf8 d := by
  obtain ⟨number, digits, text, dcs, hnumber, hdigits, hshort, ⟨msgRef, hsubmit⟩ | ⟨scts, hdeliver⟩⟩ := h
  · exact createdSubmit_malformed hnumber hdigits hshort hsubmit hr
  · exact createdDeliver_malformed hnumber hdigits hshort hdeliver hr

/-! ### The transport -/

/-- **Transport of a relay message.**  A SIP MESSAGE that carries the octets of `r` delivers them,
and `r` with them, exactly when its header block has no blank line of its own, the octets are
well-formed UTF-8, and the reference fits its octet.  A message made by `create` never arrives. -/
theorem messageBody_received_iff {m : SIPMessage} {r : RPData} {d : Bytes}
    (hmethod : m.method = some "MESSAGE".toList) (hr : r.toBytes = .ok d) (hbody : m.body = d) :
    (BodyReceived m r d ↔ m.NoBlankLine ∧ ValidUtf8 d ∧ r.reference < 256) ∧
      (CreatedTpdu r.tpdu → ¬BodyReceived m r d) := by
  have hne : m.body ≠ [] := by
    rw [hbody, ((RPData.toBytes_eq_ok_iff r d).mp hr).2]
    exact r.octets_ne_nil
  obtain ⟨msg, hparse, -, hclean, hblank⟩ :=
    SIPMessage.parse_serialize (hmethod.trans rfl) (by decide) (by decide) hne
  rw [hbody] at hclean hblank
  have hreceived : BodyReceived m r d → m.NoBlankLine ∧ ValidUtf8 d ∧ r.reference < 256 := by
    rintro ⟨msg', hparse', hmsg, hread⟩
    obtain rfl : msg = msg' := Except.ok.inj (hparse.symm.trans hparse')
    rw [hmsg] at hclean hblank hread
    have hno : m.NoBlankLine := by
      by_contra hno
      exact absurd (hblank hno) (Nat.lt_irrefl _)
    exact ⟨hno, (encodeUtf8_decodeUtf8_iff d).mp (hclean hno).symm,
      (RPData.fromBytes_toBytes_eq_iff hr).mp hread⟩
  refine ⟨⟨hreceived, ?_⟩, fun hcreated h => hcreated.malformed hr (hreceived h).2.1⟩
  · rintro ⟨hno, hvalid, href⟩
    have hmsg : msg.body = d := (hclean hno).trans ((encodeUtf8_decodeUtf8_iff d).mpr hvalid)
    refine ⟨msg, hparse, hmsg, ?_⟩
    rw [hmsg]
    exact (RPData.fromBytes_toBytes_eq_iff hr).mpr href

/-- An acknowledgement without addresses and user data is ASCII and arrives. -/
theorem messageBody_received_ack :
    BodyReceived
      { method := some "MESSAGE".toList
        requestUri := some "sip:smsc".toList
        body := [0x02, 0x07, 0x00, 0x00, 0x00] }
      { msgType := .rpAckMo, reference := 7 } [0x02, 0x07, 0x00, 0x00, 0x00] :=
  (messageBody_received_iff rfl rfl rfl).1.mpr ⟨by decide +kernel, by decide +kernel, by decide⟩

/-- The RP-DATA of the message "Hi" to +15551234567 is not received as it was sent. -/
theorem messageBody_not_received :
    ∃ (m : SIPMessage) (r : RPData) (d tpdu : Bytes),
      (SMSSubmit.create "+15551234567".toList "Hi".toList).toBytes = .ok tpdu ∧
      RPData.wrapMo tpdu 1 = .ok r ∧ r.toBytes = .ok d ∧
      m.method = some "MESSAGE".toList ∧ m.body = d ∧ ¬ BodyReceived m r d := by
  refine ⟨{
    method := some "MESSAGE".toList
    requestUri := some "sip:smsc".toList
    body := [0x00, 0x01, 0x00, 0x00, 0x0F, 0x01, 0x00, 0x0B, 0x91, 0x51, 0x55, 0x21, 0x43, 0x65,
      0xF7, 0x00, 0x00, 0x02, 0xC8, 0x34] },
    { reference := 1
      tpdu := [0x01, 0x00, 0x0B, 0x91, 0x51, 0x55, 0x21, 0x43, 0x65, 0xF7, 0x00, 0x00, 0x02, 0xC8,
        0x34] },
    [0x00, 0x01, 0x00, 0x00, 0x0F, 0x01, 0x00, 0x0B, 0x91, 0x51, 0x55, 0x21, 0x43, 0x65, 0xF7, 0x00,
      0x00, 0x02, 0xC8, 0x34],
    [0x01, 0x00, 0x0B, 0x91, 0x51, 0x55, 0x21, 0x43, 0x65, 0xF7, 0x00, 0x00, 0x02, 0xC8, 0x34],
    by decide +kernel, by decide +kernel, by decide +kernel, rfl, rfl, ?_⟩
  rintro ⟨msg, hparse, hbody, -⟩
  have hlen : (SIPMessage.parse (SIPMessage.serialize {
      method := some "MESSAGE".toList
      requestUri := some "sip:smsc".toList
      body := [0x00, 0x01, 0x00, 0x00, 0x0F, 0x01, 0x00, 0x0B, 0x91, 0x51, 0x55, 0x21, 0x43, 0x65,
        0xF7, 0x00, 0x00, 0x02, 0xC8, 0x34] })).map (·.body.length) = .ok 26 := by
    decide +kernel
  rw [hparse] at hlen
  have : msg.body.length = 26 := Except.ok.inj hlen
  rw [hbody] at this
  cases this

end VirtualPhone
