import Mathlib.Data.List.Infix
import VirtualPhone.Sdp
import VirtualPhone.SipMessage
import VirtualPhone.SmsRoundTrip
import VirtualPhone.Runtime.Py

/-! # Mobile-terminated messages

The way of an SMS from the network to Android.  `SMSoverIMS._handle_sip_message` reads the relay
message and the SMS-DELIVER in it and hands sender and text to its callback;
`RadioHAL.deliver_incoming_sms` writes a second SMS-DELIVER from the two and sends it as a NEW_SMS
indication.

The second message is always written in the 7-bit alphabet and from an international number,
whatever the first one was.  `mt_sms_intact_iff` says which messages come through unchanged. -/

namespace VirtualPhone

open Runtime

/-! ### The program -/

/-- Where the path leaves its traces: responses given to the SIP transport with their destination,
indications given to the callback of the radio with their number and PDU, and the counter
`_sms_state["messages_received"]`. -/
structure MtState where
  sent : List (SIPMessage × Text × ℕ) := []
  indications : List (ℕ × Text) := []
  messagesReceived : ℕ := 0
deriving DecidableEq

namespace MtState

def send (s : MtState) (msg : SIPMessage) (dest : Text × ℕ) : MtState :=
  { s with sent := s.sent ++ [(msg, dest)] }

def indicate (s : MtState) (number : ℕ) (pdu : Text) : MtState :=
  { s with indications := s.indications ++ [(number, pdu)] }

def count (s : MtState) : MtState := { s with messagesReceived := s.messagesReceived + 1 }

end MtState

/-- `RILUnsol.NEW_SMS`. -/
def newSms : ℕ := 1003

/-- `RadioHAL.deliver_incoming_sms(from_number, to_number, text)` at the time stamp `scts`. -/
def RadioHAL.deliverIncomingSms (scts : Bytes) (fromNumber _toNumber text : Text) :
    Py MtState Unit := do
  let tpdu ← Py.lift (SMSDeliver.create scts fromNumber text).toBytes
  let pdu ← Py.lift (buildPduForRil tpdu)
  Py.modify (·.indicate newSms pdu)

/-- `CONTENT_TYPE_3GPP_SMS`. -/
def contentType3gppSms : Text := "application/vnd.3gpp.sms".toList

/-- The 200 OK with the dialog headers of a request. -/
def okResponse (msg : SIPMessage) : SIPMessage where
  statusCode := some 200
  reasonPhrase := some "OK".toList
  headers := Dict.ofList (["Via", "From", "To", "Call-ID", "CSeq"].map fun name =>
    (name.toList, msg.header name))

/-- The sender as the service reports it: an international number gets its plus. -/
def SMSDeliver.fromNumber (m : SMSDeliver) : Text :=
  if m.originator.typeOfNumber.value = 1 then '+' :: m.originator.number else m.originator.number

/-- The fields of `SMSoverIMS` the handler reads. -/
structure SMSoverIMS where
  sipClient : Bool := true
  mtCallback : Option (Text → Text → Text → Py MtState Unit) := none

namespace SMSoverIMS

/-- The `try` block of `_handle_sip_message`. -/
def deliverRpData (sms : SMSoverIMS) (body : Bytes) : Py MtState Unit := do
  let rpData ← Py.lift (RPData.fromBytes body)
  if rpData.msgType = .rpDataMt ∨ rpData.msgType = .rpDataMo then
    let deliver ← Py.lift (SMSDeliver.fromBytes rpData.tpdu)
    match sms.mtCallback with
    | some callback =>
        callback deliver.fromNumber [] deliver.text
        Py.modify MtState.count
    | none => pure ()

/-- `_handle_sip_message(msg, addr)`. -/
def handleSipMessage (sms : SMSoverIMS) (msg : SIPMessage) (addr : Text × ℕ) : Py MtState Unit := do
  if sms.sipClient then
    Py.modify (·.send (okResponse msg) addr)
  if ¬ contentType3gppSms <:+: msg.header "Content-Type" then
    let text := if msg.body ≠ [] then decodeUtf8 msg.body else []
    let fromNumber := extractNumberFromUri (msg.header "From")
    match sms.mtCallback with
    | some callback =>
        if text ≠ [] then
          callback fromNumber [] text
          Py.modify MtState.count
    | none => pure ()
  else
    -- whatever the block raises is logged and dropped
    let _ ← Py.attempt (sms.deliverRpData msg.body)

/-- The service with the radio as its callback. -/
def deliveringTo (scts : Bytes) : SMSoverIMS where
  mtCallback := some (RadioHAL.deliverIncomingSms scts)

end SMSoverIMS

/-! ### What the decoders return -/

theorem isDigit_digitChar : ∀ d ≤ 9, IsDigit (digitChar d) := by decide

/-- The BCD decoder returns decimal digits, and no more than were asked for. -/
theorem decodeBcd_isDigit (data : Bytes) (n : ℕ) :
    (∀ c ∈ decodeBcd data n, IsDigit c) ∧ (decodeBcd data n).length ≤ n := by
  have hadd : ∀ (digits : Text) (d : ℕ) (p : Prop) [Decidable p], (∀ c ∈ digits, IsDigit c) →
      (p → d ≤ 9) → ∀ c ∈ (if p then digits ++ [digitChar d] else digits), IsDigit c := by
    intro digits d p _ hdigits hp c hc
    split_ifs at hc with h
    · rcases List.mem_append.mp hc with hc | hc
      · exact hdigits c hc
      · rw [List.mem_singleton.mp hc]
        exact isDigit_digitChar d (hp h)
    · exact hdigits c hc
  have hstep : ∀ (pre : Text) (b : UInt8), (∀ c ∈ pre, IsDigit c) →
      ∀ c ∈ decodeBcdStep n pre b, IsDigit c := by
    intro pre b hpre
    exact hadd _ _ _ (hadd pre _ _ hpre id) fun h => h.1
  have hfold : ∀ (data : Bytes) (pre : Text), (∀ c ∈ pre, IsDigit c) →
      ∀ c ∈ data.foldl (decodeBcdStep n) pre, IsDigit c := by
    intro data
    induction data with
    | nil => exact fun pre hpre => hpre
    | cons b data ih => exact fun pre hpre => ih _ (hstep pre b hpre)
  refine ⟨?_, List.length_take_le _ _⟩
  intro c hc
  exact hfold data [] (by simp) c (List.mem_of_mem_take hc)

theorem decodeUtf16_length (d : Bytes) : (decodeUtf16 d).length ≤ d.length := by
  fun_induction decodeUtf16 d <;> simp only [List.length_cons, List.length_nil] at * <;> omega

theorem SMSAddress.fromBytes_numeric {d : Bytes} {o o' : ℕ} {a : SMSAddress}
    (h : SMSAddress.fromBytes d o = .ok (a, o')) (hton : a.typeOfNumber ≠ .alphanumeric) :
    a.Numeric := by
  obtain ⟨len, -, h⟩ := bind_eq_ok h
  obtain ⟨toa, -, h⟩ := bind_eq_ok h
  obtain ⟨ton, -, h⟩ := bind_eq_ok h
  obtain ⟨rfl, -⟩ := Prod.mk.inj (Except.ok.inj h)
  have hlt : len.toNat < 256 := len.toNat_lt
  have hbcd := decodeBcd_isDigit (slice d (o + 2) (o + 2 + (len.toNat + 1) / 2)) len.toNat
  refine ⟨hton, ?_, ?_, Nat.lt_of_le_of_lt Nat.and_le_right (by decide)⟩
  · simp only [if_neg hton]
    exact hbcd.1
  · simp only [if_neg hton]
    exact Nat.lt_of_le_of_lt hbcd.2 hlt

theorem SMSDeliver.fromBytes_fields {d : Bytes} {m : SMSDeliver} (h : SMSDeliver.fromBytes d = .ok m)
    (hdcs : m.dcs ≠ .eightBit) :
    (m.originator.typeOfNumber ≠ .alphanumeric → m.originator.Numeric) ∧ m.text.length < 256 := by
  obtain ⟨flags, -, h⟩ := bind_eq_ok h
  obtain ⟨⟨oa, o⟩, hoa, h⟩ := bind_eq_ok h
  obtain ⟨pid, -, h⟩ := bind_eq_ok h
  obtain ⟨code, -, h⟩ := bind_eq_ok h
  obtain ⟨dcs, -, h⟩ := bind_eq_ok h
  obtain ⟨udl, -, h⟩ := bind_eq_ok h
  obtain rfl := Except.ok.inj h
  have hlt : udl.toNat < 256 := udl.toNat_lt
  refine ⟨fun hton => SMSAddress.fromBytes_numeric hoa hton, ?_⟩
  cases dcs with
  | gsm7Bit => simpa [readUserData, decodeGsm7] using hlt
  | ucs2 =>
      have hslice : (slice d (o + 2 + 7 + 1) (o + 2 + 7 + 1 + udl.toNat)).length ≤ udl.toNat := by
        rw [slice_length]
        omega
      exact Nat.lt_of_le_of_lt (decodeUtf16_length _) (by omega)
  | eightBit => exact absurd rfl hdcs

/-! ### The second message -/

/-- What the 7-bit alphabet leaves of a text. -/
def gsm7Shown (text : Text) : Text := text.map fun c => if InGsm7 c then c else '?'

theorem gsm7Shown_eq_iff (text : Text) : gsm7Shown text = text ↔ ∀ c ∈ text, InGsm7 c := by
  have hq : InGsm7 '?' := by decide +kernel
  constructor
  · intro h c hc
    have hmap : text.map (fun c => if InGsm7 c then c else '?') = text.map id := by
      rw [List.map_id]
      exact h
    have hc' := List.map_inj_left.mp hmap c hc
    by_contra hno
    rw [if_neg hno, id] at hc'
    exact hno (hc' ▸ hq)
  · intro h
    calc gsm7Shown text
        = text.map id := List.map_congr_left fun c hc => if_pos (h c hc)
      _ = text := List.map_id text

/-- The created message for an international number is written, and read as the same number with
what the alphabet leaves of the text. -/
theorem SMSDeliver.create_received (scts : Bytes) {number text : Text}
    (hnum : ∀ c ∈ number, IsDigit c) (hshort : number.length < 256) (htext : text.length < 256) :
    ∃ tpdu received, (SMSDeliver.create scts ('+' :: number) text).toBytes = .ok tpdu ∧
      SMSDeliver.fromBytes tpdu = .ok received ∧
      received.originator = ⟨number, .international, 1⟩ ∧ received.text = gsm7Shown text := by
  have horig : SMSAddress.international ('+' :: number) = ⟨number, .international, 1⟩ :=
    SMSAddress.international_eq (Or.inr rfl) hnum
  have hudl : userDataLength .gsm7Bit text (fillUserData .gsm7Bit text []) = text.length := by
    by_cases ht : text = []
    · simp [userDataLength, fillUserData, ht]
    · simp [userDataLength, ht]
  have hfill : fillUserData .gsm7Bit text [] = encodeGsm7 text := by
    by_cases ht : text = []
    · subst ht
      rfl
    · simp [fillUserData, ht]
  have hwf : (SMSDeliver.create scts ('+' :: number) text).Writable := by
    refine ⟨?_, by simp [SMSDeliver.create], ?_⟩
    · simp only [SMSDeliver.create, horig]
      exact ⟨by simp, hnum, hshort, by simp⟩
    · exact hudl.trans_lt htext
  have hread : (SMSDeliver.create scts ('+' :: number) text).readBack.2 = gsm7Shown text := by
    show (readUserData .gsm7Bit (fillUserData .gsm7Bit text []) 0
      (userDataLength .gsm7Bit text (fillUserData .gsm7Bit text []))).2 = _
    rw [hudl, hfill, gsm7Shown, ← decodeGsm7_encodeGsm7_map, readUserData]
    have hall : slice (encodeGsm7 text) 0 (0 + (text.length * 7 + 7) / 8) = encodeGsm7 text := by
      refine slice_of_eq (p := []) (q := []) (by simp) rfl ?_
      rw [encodeGsm7_length, Nat.mul_comm]
    simp only [hall]
  obtain ⟨tpdu, hwrite, hback⟩ := SMSDeliver.fromBytes_toBytes hwf
  exact ⟨tpdu, _, hwrite, hback, horig, hread⟩

/-- Whatever it is created from, a created message is read as coming from an international number. -/
theorem SMSDeliver.create_international {scts tpdu : Bytes} {fromNumber text : Text}
    {received : SMSDeliver} (hwrite : (SMSDeliver.create scts fromNumber text).toBytes = .ok tpdu)
    (hread : SMSDeliver.fromBytes tpdu = .ok received) :
    received.originator.typeOfNumber = .international := by
  obtain ⟨flags, -, h⟩ := bind_eq_ok hwrite
  obtain ⟨oa, hoa, h⟩ := bind_eq_ok h
  obtain ⟨pid, -, h⟩ := bind_eq_ok h
  obtain ⟨code, -, h⟩ := bind_eq_ok h
  obtain ⟨udl, -, h⟩ := bind_eq_ok h
  obtain rfl := Except.ok.inj h
  obtain ⟨bcd, -, hoa⟩ := bind_eq_ok hoa
  obtain ⟨len, -, hoa⟩ := bind_eq_ok hoa
  obtain ⟨toa, htoa, hoa⟩ := bind_eq_ok hoa
  obtain rfl := Except.ok.inj hoa
  have h91 : (SMSDeliver.create scts fromNumber text).originator.typeOfAddress = 0x91 := by
    rw [SMSAddress.typeOfAddress_eq]
    rfl
  rw [h91] at htoa
  obtain ⟨-, rfl⟩ := mkByte_eq_ok htoa
  -- the reader finds the type-of-address octet behind the flags and the length
  obtain ⟨flags', -, h⟩ := bind_eq_ok hread
  obtain ⟨⟨a, o⟩, haddr, h⟩ := bind_eq_ok h
  obtain ⟨pid', -, h⟩ := bind_eq_ok h
  obtain ⟨code', -, h⟩ := bind_eq_ok h
  obtain ⟨dcs, -, h⟩ := bind_eq_ok h
  obtain ⟨udl', -, h⟩ := bind_eq_ok h
  obtain rfl := Except.ok.inj h
  obtain ⟨len', -, haddr⟩ := bind_eq_ok haddr
  obtain ⟨toa', htoa', haddr⟩ := bind_eq_ok haddr
  obtain ⟨ton, hton, haddr⟩ := bind_eq_ok haddr
  obtain ⟨rfl, -⟩ := Prod.mk.inj (Except.ok.inj haddr)
  obtain rfl : toa' = UInt8.ofNat 0x91 := (Except.ok.inj htoa').symm
  exact (Except.ok.inj hton).symm

/-! ### The delivery -/

/-- The indication behind `before` is one NEW_SMS whose TPDU is read as the text and the sender, a
number and its type, of `deliver`. -/
def DeliveredIntact (deliver : SMSDeliver) (before after : MtState) : Prop :=
  ∃ pdu tpdu received, after.indications = before.indications ++ [(newSms, pdu)] ∧
    parsePduFromRil pdu = .ok ([], tpdu) ∧ SMSDeliver.fromBytes tpdu = .ok received ∧
    received.text = deliver.text ∧
    received.originator.number = deliver.originator.number ∧
    received.originator.typeOfNumber = deliver.originator.typeOfNumber

/-- The radio's part: nothing when the message cannot be written, otherwise its indication. -/
theorem deliverIncomingSms_run (scts : Bytes) (fromNumber toNumber text : Text) (s : MtState) :
    (∃ e, (SMSDeliver.create scts fromNumber text).toBytes = .error e ∧
      (RadioHAL.deliverIncomingSms scts fromNumber toNumber text).run s = (.error e, s)) ∨
    ∃ tpdu pdu, (SMSDeliver.create scts fromNumber text).toBytes = .ok tpdu ∧
      parsePduFromRil pdu = .ok ([], tpdu) ∧
      (RadioHAL.deliverIncomingSms scts fromNumber toNumber text).run s =
        (.ok (), s.indicate newSms pdu) := by
  unfold RadioHAL.deliverIncomingSms
  cases h : (SMSDeliver.create scts fromNumber text).toBytes with
  | error e => exact Or.inl ⟨e, rfl, Py.run_lift_error_bind e _ s⟩
  | ok tpdu =>
      obtain ⟨pdu, hbuild, hparse⟩ := parsePduFromRil_buildPduForRil tpdu (show ([] : Bytes).length < 256 by decide)
      refine Or.inr ⟨tpdu, pdu, rfl, hparse, ?_⟩
      rw [Py.run_lift_ok_bind, hbuild, Py.run_lift_ok_bind]
      rfl

/-- The handler on a relay message around an SMS-DELIVER: it returns, and the indications are those
of the radio. -/
theorem handleSipMessage_run (scts : Bytes) {msg : SIPMessage} {rp : RPData} {deliver : SMSDeliver}
    (htype : contentType3gppSms <:+: msg.header "Content-Type")
    (hrp : RPData.fromBytes msg.body = .ok rp)
    (hmt : rp.msgType = .rpDataMt ∨ rp.msgType = .rpDataMo)
    (hdeliver : SMSDeliver.fromBytes rp.tpdu = .ok deliver) (addr : Text × ℕ) (s : MtState) :
    ∃ after, ((SMSoverIMS.deliveringTo scts).handleSipMessage msg addr).run s = (.ok (), after) ∧
      after.indications = ((RadioHAL.deliverIncomingSms scts deliver.fromNumber [] deliver.text).run
        (s.send (okResponse msg) addr)).2.indications := by
  have htry : ∀ s', ((SMSoverIMS.deliveringTo scts).deliverRpData msg.body).run s' =
      ((RadioHAL.deliverIncomingSms scts deliver.fromNumber [] deliver.text) >>=
        fun _ => Py.modify MtState.count).run s' := by
    intro s'
    unfold SMSoverIMS.deliverRpData
    rw [hrp, Py.run_lift_ok_bind, if_pos hmt, hdeliver, Py.run_lift_ok_bind]
    rfl
  have hrun : ((SMSoverIMS.deliveringTo scts).handleSipMessage msg addr).run s =
      (.ok (), (((SMSoverIMS.deliveringTo scts).deliverRpData msg.body).run
        (s.send (okResponse msg) addr)).2) := by
    unfold SMSoverIMS.handleSipMessage
    rw [if_neg (not_not_intro htype)]
    rfl
  refine ⟨_, hrun, ?_⟩
  rw [htry]
  cases h : (RadioHAL.deliverIncomingSms scts deliver.fromNumber [] deliver.text).run
      (s.send (okResponse msg) addr) with
  | mk r s' =>
      cases r with
      | ok u =>
          rw [Py.run_bind_ok h]
          rfl
      | error e => rw [Py.run_bind_error h]

/-- **Mobile-terminated messages.**  The handler returns on every relay message around an accepted
SMS-DELIVER with a text.  The message reaches Android with its text and its sender exactly when the
text is written in the 7-bit alphabet, without its escape code, and the sender is an international
number. -/
theorem mt_sms_intact_iff (scts : Bytes) (msg : SIPMessage) (addr : Text × ℕ) (before : MtState)
    (rp : RPData) (deliver : SMSDeliver)
    (htype : contentType3gppSms <:+: msg.header "Content-Type")
    (hrp : RPData.fromBytes msg.body = .ok rp)
    (hmt : rp.msgType = .rpDataMt ∨ rp.msgType = .rpDataMo)
    (hdeliver : SMSDeliver.fromBytes rp.tpdu = .ok deliver) (hdcs : deliver.dcs ≠ .eightBit) :
    ∃ after, ((SMSoverIMS.deliveringTo scts).handleSipMessage msg addr).run before = (.ok (), after) ∧
      (DeliveredIntact deliver before after ↔
        (∀ c ∈ deliver.text, InGsm7 c) ∧ deliver.originator.typeOfNumber = .international) := by
  obtain ⟨after, hrun, hind⟩ := handleSipMessage_run scts htype hrp hmt hdeliver addr before
  obtain ⟨hnumeric, hlen⟩ := SMSDeliver.fromBytes_fields hdeliver hdcs
  refine ⟨after, hrun, ?_⟩
  have hfrom : deliver.originator.typeOfNumber = .international →
      deliver.fromNumber = '+' :: deliver.originator.number := by
    intro hton
    rw [SMSDeliver.fromNumber, hton]
    rfl
  have hwritten : ∀ tpdu received, deliver.originator.typeOfNumber = .international →
      (SMSDeliver.create scts deliver.fromNumber deliver.text).toBytes = .ok tpdu →
      SMSDeliver.fromBytes tpdu = .ok received →
      received.originator = ⟨deliver.originator.number, .international, 1⟩ ∧
        received.text = gsm7Shown deliver.text := by
    intro tpdu received hton hwrite hread
    have hnum := hnumeric (by rw [hton]; decide)
    obtain ⟨tpdu', received', hwrite', hread', hfields⟩ :=
      SMSDeliver.create_received scts hnum.digits hnum.short hlen
    rw [hfrom hton, hwrite'] at hwrite
    obtain rfl := Except.ok.inj hwrite
    rw [hread'] at hread
    obtain rfl := Except.ok.inj hread
    exact hfields
  rcases deliverIncomingSms_run scts deliver.fromNumber [] deliver.text
    (before.send (okResponse msg) addr) with ⟨e, hwrite, hradio⟩ | ⟨tpdu, pdu, hwrite, hparse, hradio⟩
  · rw [hradio] at hind
    constructor
    · rintro ⟨pdu, tpdu, received, hlast, -⟩
      rw [hlast] at hind
      exact absurd hind (by simp [MtState.send])
    · rintro ⟨-, hton⟩
      have hnum := hnumeric (by rw [hton]; decide)
      obtain ⟨tpdu', _, hwrite', -⟩ :=
        SMSDeliver.create_received scts hnum.digits hnum.short hlen
      rw [hfrom hton, hwrite'] at hwrite
      cases hwrite
  · rw [hradio] at hind
    have hindications : after.indications = before.indications ++ [(newSms, pdu)] := hind
    constructor
    · rintro ⟨pdu', tpdu', received, hlast, hparse', hread, htext, -, hton⟩
      obtain rfl : pdu = pdu' := by simpa using hindications.symm.trans hlast
      obtain rfl : tpdu = tpdu' := (Prod.mk.inj (Except.ok.inj (hparse.symm.trans hparse'))).2
      have hton' : deliver.originator.typeOfNumber = .international :=
        hton.symm.trans (SMSDeliver.create_international hwrite hread)
      have hshown := (hwritten tpdu received hton' hwrite hread).2
      exact ⟨(gsm7Shown_eq_iff _).mp (hshown.symm.trans htext), hton'⟩
    · rintro ⟨halpha, hton⟩
      have hnum := hnumeric (by rw [hton]; decide)
      obtain ⟨tpdu', received, hwrite', hread, horig, htext⟩ :=
        SMSDeliver.create_received scts hnum.digits hnum.short hlen
      rw [hfrom hton, hwrite'] at hwrite
      obtain rfl := Except.ok.inj hwrite
      refine ⟨pdu, tpdu', received, hindications, hparse, hread, ?_, ?_, ?_⟩
      · rw [htext]
        exact (gsm7Shown_eq_iff _).mpr halpha
      · rw [horig]
      · rw [horig, hton]

/-- A SIP MESSAGE around an SMS-DELIVER. -/
def mtMessage (tpdu : Bytes) : SIPMessage where
  method := some "MESSAGE".toList
  headers := Dict.ofList [("Content-Type".toList, contentType3gppSms)]
  body := [0x01, 0x05, 0x00, 0x00, UInt8.ofNat tpdu.length] ++ tpdu

/-- The text "Hi" from +15551234567. -/
theorem mt_sms_intact_hi :
    ∃ after, ((SMSoverIMS.deliveringTo []).handleSipMessage (mtMessage [0x00, 0x0B, 0x91, 0x51, 0x55,
        0x21, 0x43, 0x65, 0xF7, 0x00, 0x00, 0, 0, 0, 0, 0, 0, 0, 0x02, 0xC8, 0x34])
        ("pcscf".toList, 5060)).run {} = (.ok (), after) ∧
      (DeliveredIntact
        { originator := ⟨"15551234567".toList, .international, 1⟩
          userData := [0xC8, 0x34]
          text := "Hi".toList } {} after ↔
        (∀ c ∈ "Hi".toList, InGsm7 c) ∧
          TypeOfNumber.international = .international) :=
  mt_sms_intact_iff [] (mtMessage [0x00, 0x0B, 0x91, 0x51, 0x55, 0x21, 0x43, 0x65, 0xF7, 0x00, 0x00,
      0, 0, 0, 0, 0, 0, 0, 0x02, 0xC8, 0x34]) ("pcscf".toList, 5060) {}
    { msgType := .rpDataMt
      reference := 5
      tpdu := [0x00, 0x0B, 0x91, 0x51, 0x55, 0x21, 0x43, 0x65, 0xF7, 0x00, 0x00, 0, 0, 0, 0, 0, 0, 0,
        0x02, 0xC8, 0x34] }
    { originator := ⟨"15551234567".toList, .international, 1⟩
      userData := [0xC8, 0x34]
      text := "Hi".toList }
    (by decide +kernel) (by decide +kernel) (Or.inl rfl) (by decide +kernel) (by decide)

/-- The UCS-2 text "你好" from +15551234567 is shown as two question marks. -/
theorem mt_sms_altered :
    ∃ (msg : SIPMessage) (rp : RPData) (deliver : SMSDeliver),
      contentType3gppSms <:+: msg.header "Content-Type" ∧
      RPData.fromBytes msg.body = .ok rp ∧ rp.msgType = .rpDataMt ∧
      SMSDeliver.fromBytes rp.tpdu = .ok deliver ∧ deliver.dcs = .ucs2 ∧
      ¬ ∃ after, ((SMSoverIMS.deliveringTo []).handleSipMessage msg ("pcscf".toList, 5060)).run {} =
        (.ok (), after) ∧ DeliveredIntact deliver {} after := by
  refine ⟨mtMessage [0x00, 0x0B, 0x91, 0x51, 0x55, 0x21, 0x43, 0x65, 0xF7, 0x00, 0x08, 0, 0, 0, 0, 0,
      0, 0, 0x04, 0x4F, 0x60, 0x59, 0x7D],
    { msgType := .rpDataMt
      reference := 5
      tpdu := [0x00, 0x0B, 0x91, 0x51, 0x55, 0x21, 0x43, 0x65, 0xF7, 0x00, 0x08, 0, 0, 0, 0, 0, 0, 0,
        0x04, 0x4F, 0x60, 0x59, 0x7D] },
    { originator := ⟨"15551234567".toList, .international, 1⟩
      dcs := .ucs2
      userData := [0x4F, 0x60, 0x59, 0x7D]
      text := "你好".toList },
    by decide +kernel, by decide +kernel, rfl, by decide +kernel, rfl, ?_⟩
  rintro ⟨after, hrun, pdu, tpdu, received, hlast, hparse, hread, htext, -⟩
  have hshown : (((SMSoverIMS.deliveringTo []).handleSipMessage (mtMessage [0x00, 0x0B, 0x91, 0x51,
      0x55, 0x21, 0x43, 0x65, 0xF7, 0x00, 0x08, 0, 0, 0, 0, 0, 0, 0, 0x04, 0x4F, 0x60, 0x59, 0x7D])
      ("pcscf".toList, 5060)).run {}).2.indications.map (fun i =>
        (parsePduFromRil i.2 >>= fun p => SMSDeliver.fromBytes p.2).map (·.text)) =
      [.ok "??".toList] := by
    decide +kernel
  have hread' : (parsePduFromRil pdu >>= fun p => SMSDeliver.fromBytes p.2) = .ok received := by
    rw [hparse]
    exact hread
  rw [hrun, hlast, List.map_append, List.map_singleton, hread'] at hshown
  have hmarks : received.text = "??".toList := Except.ok.inj (List.cons.inj hshown).1
  exact absurd (hmarks.symm.trans htext) (by decide)

end VirtualPhone
