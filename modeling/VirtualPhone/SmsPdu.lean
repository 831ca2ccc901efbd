import VirtualPhone.Gsm7
import VirtualPhone.Runtime.Unicode

/-! # SMS PDUs (`ims/sms_pdu.py`)

The encoders and decoders of the SMS stack, one definition per function:

* `SMSAddress`: length in semi-octets, type-of-address octet, BCD digits or packed characters;
* `SMSSubmit` and `SMSDeliver`: the two TPDUs, with their user data in one of three codings;
* `RPData`: the relay-layer wrapper, three length-prefixed fields;
* `parsePduFromRil` and `buildPduForRil`: the hexadecimal form on the radio interface.

Decoders read at explicit offsets and fail with `IndexError` past the end, slices never fail, and
an octet above 255 cannot be appended, as in the source.  The results of this module are the
round trips of each layer in context: an encoding is read back from the middle of a larger
octet string, and the reader stops at its end. -/

namespace VirtualPhone

open Runtime

/-! ### Enumerations -/

/-- `DataCodingScheme`. -/
inductive DataCodingScheme
  | gsm7Bit
  | ucs2
  | eightBit
deriving DecidableEq, Repr

/-- The octet of a coding scheme. -/
def DataCodingScheme.value : DataCodingScheme → ℕ
  | gsm7Bit => 0x00
  | ucs2 => 0x08
  | eightBit => 0x04

/-- `DataCodingScheme(n)`. -/
def DataCodingScheme.ofValue (n : ℕ) : Except PyError DataCodingScheme :=
  if n = 0x00 then .ok gsm7Bit
  else if n = 0x08 then .ok ucs2
  else if n = 0x04 then .ok eightBit
  else .error (.valueError (natText n ++ " is not a valid DataCodingScheme".toList))

/-- `TypeOfNumber`. -/
inductive TypeOfNumber
  | unknown
  | international
  | national
  | networkSpecific
  | subscriber
  | alphanumeric
  | abbreviated
deriving DecidableEq, Repr

/-- The three-bit code of a type of number. -/
def TypeOfNumber.value : TypeOfNumber → ℕ
  | unknown => 0
  | international => 1
  | national => 2
  | networkSpecific => 3
  | subscriber => 4
  | alphanumeric => 5
  | abbreviated => 6

/-- `TypeOfNumber(n)`. -/
def TypeOfNumber.ofValue (n : ℕ) : Except PyError TypeOfNumber :=
  match n with
  | 0 => .ok unknown
  | 1 => .ok international
  | 2 => .ok national
  | 3 => .ok networkSpecific
  | 4 => .ok subscriber
  | 5 => .ok alphanumeric
  | 6 => .ok abbreviated
  | n => .error (.valueError (natText n ++ " is not a valid TypeOfNumber".toList))

/-- `RPMessageType`. -/
inductive RPMessageType
  | rpDataMo
  | rpDataMt
  | rpAckMo
  | rpAckMt
  | rpErrorMo
  | rpErrorMt
deriving DecidableEq, Repr

/-- The octet of a relay message type. -/
def RPMessageType.value : RPMessageType → ℕ
  | rpDataMo => 0x00
  | rpDataMt => 0x01
  | rpAckMo => 0x02
  | rpAckMt => 0x03
  | rpErrorMo => 0x04
  | rpErrorMt => 0x05

/-- `RPMessageType(n)`. -/
def RPMessageType.ofValue (n : ℕ) : Except PyError RPMessageType :=
  match n with
  | 0 => .ok rpDataMo
  | 1 => .ok rpDataMt
  | 2 => .ok rpAckMo
  | 3 => .ok rpAckMt
  | 4 => .ok rpErrorMo
  | 5 => .ok rpErrorMt
  | n => .error (.valueError (natText n ++ " is not a valid RPMessageType".toList))

/-! ### Addresses -/

/-- `SMSAddress`. -/
structure SMSAddress where
  number : Text := []
  typeOfNumber : TypeOfNumber := .unknown
  numberingPlan : ℕ := 1
deriving DecidableEq, Repr

namespace SMSAddress

/-- `type_of_address`: the octet `1 | TON(3) | NPI(4)`. -/
def typeOfAddress (a : SMSAddress) : ℕ :=
  0x80 ||| (a.typeOfNumber.value <<< 4) ||| (a.numberingPlan &&& 0x0F)

/-- `SMSAddress.from_bytes(data, offset)`: the address and the offset behind it. -/
def fromBytes (data : Bytes) (offset : ℕ) : Except PyError (SMSAddress × ℕ) := do
  let addrLen := (← byteAt data offset).toNat
  let toa := (← byteAt data (offset + 1)).toNat
  let ton ← TypeOfNumber.ofValue ((toa >>> 4) &&& 0x07)
  let npi := toa &&& 0x0F
  let numBytes := (addrLen + 1) / 2
  let bcdBytes := slice data (offset + 2) (offset + 2 + numBytes)
  let number :=
    if ton = .alphanumeric then decodeGsm7 bcdBytes (addrLen * 4 / 7)
    else decodeBcd bcdBytes addrLen
  return (⟨number, ton, npi⟩, offset + 2 + numBytes)

/-- `SMSAddress.to_bytes()`. -/
def toBytes (a : SMSAddress) : Except PyError Bytes := do
  if a.typeOfNumber = .alphanumeric then
    let encoded := encodeGsm7 a.number
    let addrLen ← mkByte (a.number.length * 2)
    let toa ← mkByte a.typeOfAddress
    return addrLen :: toa :: encoded
  else
    let digits := a.number.filter (· ≠ '+')
    let bcd ← encodeBcd digits
    let addrLen ← mkByte digits.length
    let toa ← mkByte a.typeOfAddress
    return addrLen :: toa :: bcd

/-- `SMSAddress.international(number)`. -/
def international (number : Text) : SMSAddress :=
  { number := number.dropWhile (· = '+'), typeOfNumber := .international }

end SMSAddress

/-! ### User data -/

/-- The user data and the text read from `data[offset:]` for a user-data length `udl`, which
counts septets in the 7-bit alphabet and octets otherwise. -/
def readUserData (dcs : DataCodingScheme) (data : Bytes) (offset udl : ℕ) : Bytes × Text :=
  match dcs with
  | .ucs2 =>
      let userData := slice data offset (offset + udl)
      (userData, decodeUtf16 userData)
  | .gsm7Bit =>
      let packedLen := (udl * 7 + 7) / 8
      let userData := slice data offset (offset + packedLen)
      (userData, decodeGsm7 userData udl)
  | .eightBit => (slice data offset (offset + udl), [])

/-- The user data after encoding: text is encoded when no user data is there yet. -/
def fillUserData (dcs : DataCodingScheme) (text : Text) (userData : Bytes) : Bytes :=
  if text ≠ [] ∧ userData = [] then
    match dcs with
    | .ucs2 => encodeUtf16 text
    | .gsm7Bit => encodeGsm7 text
    | .eightBit => userData
  else userData

/-- The user-data length octet for filled user data. -/
def userDataLength (dcs : DataCodingScheme) (text : Text) (userData : Bytes) : ℕ :=
  match dcs with
  | .gsm7Bit => if text ≠ [] then text.length else userData.length * 8 / 7
  | _ => userData.length

/-! ### SMS-SUBMIT -/

/-- `SMSSubmit`, the mobile-originated TPDU. -/
structure SMSSubmit where
  messageRef : ℕ := 0
  destination : SMSAddress := {}
  protocolId : ℕ := 0
  dcs : DataCodingScheme := .gsm7Bit
  validityPeriod : Option ℕ := none
  userData : Bytes := []
  text : Text := []
  rejectDuplicates : Bool := false
  statusReportRequest : Bool := false
  userDataHeader : Bool := false
  replyPath : Bool := false
deriving DecidableEq, Repr

/-- A flag bit of the first octet. -/
def flagBit (b : Bool) (mask : ℕ) : ℕ := if b then mask else 0

namespace SMSSubmit

/-- The first octet: message type and flags. -/
def flags (m : SMSSubmit) : ℕ :=
  0x01 ||| flagBit m.rejectDuplicates 0x04 ||| flagBit m.validityPeriod.isSome 0x10 |||
    flagBit m.statusReportRequest 0x20 ||| flagBit m.userDataHeader 0x40 |||
    flagBit m.replyPath 0x80

/-- The message after its user data has been encoded. -/
def filled (m : SMSSubmit) : SMSSubmit :=
  { m with userData := fillUserData m.dcs m.text m.userData }

/-- The validity period of `from_bytes` under the format bits `vpf`, and the offset behind it:
absolute and enhanced periods take seven octets, which are skipped. -/
def readValidityPeriod (vpf : ℕ) (data : Bytes) (offset : ℕ) : Except PyError (Option ℕ × ℕ) := do
  if vpf = 0b10 then
    let vp ← byteAt data offset
    return (some vp.toNat, offset + 1)
  else if vpf = 0b11 then return (none, offset + 7)
  else if vpf = 0b01 then return (none, offset + 7)
  else return (none, offset)

/-- `SMSSubmit.from_bytes(data)`. -/
def fromBytes (data : Bytes) : Except PyError SMSSubmit := do
  let flags := (← byteAt data 0).toNat
  let vpf := (flags >>> 3) &&& 0x03
  let messageRef := (← byteAt data 1).toNat
  let (destination, offset) ← SMSAddress.fromBytes data 2
  let protocolId := (← byteAt data offset).toNat
  let dcs ← DataCodingScheme.ofValue ((← byteAt data (offset + 1)).toNat &&& 0x0C)
  let (validityPeriod, offset) ← readValidityPeriod vpf data (offset + 2)
  let udl := (← byteAt data offset).toNat
  let ud := readUserData dcs data (offset + 1) udl
  return {
    messageRef, destination, protocolId, dcs, validityPeriod
    userData := ud.1
    text := ud.2
    rejectDuplicates := flags &&& 0x04 ≠ 0
    statusReportRequest := flags &&& 0x20 ≠ 0
    userDataHeader := flags &&& 0x40 ≠ 0
    replyPath := flags &&& 0x80 ≠ 0 }

/-- `SMSSubmit.to_bytes()`. -/
def toBytes (m : SMSSubmit) : Except PyError Bytes := do
  let flags ← mkByte m.flags
  let ref ← mkByte (m.messageRef &&& 0xFF)
  let da ← m.destination.toBytes
  let pid ← mkByte m.protocolId
  let dcs ← mkByte m.dcs.value
  let vp ← m.validityPeriod.toList.mapM mkByte
  let udl ← mkByte (userDataLength m.dcs m.text m.filled.userData)
  return [flags, ref] ++ da ++ [pid, dcs] ++ vp ++ [udl] ++ m.filled.userData

/-- `SMSSubmit.create(dest_number, text, dcs, msg_ref)`. -/
def create (destNumber text : Text) (dcs : DataCodingScheme := .gsm7Bit) (msgRef : ℕ := 0) :
    SMSSubmit :=
  { messageRef := msgRef
    destination := SMSAddress.international destNumber
    dcs := dcs
    text := text }

end SMSSubmit

/-! ### SMS-DELIVER -/

/-- `SMSDeliver`, the mobile-terminated TPDU. -/
structure SMSDeliver where
  originator : SMSAddress := {}
  protocolId : ℕ := 0
  dcs : DataCodingScheme := .gsm7Bit
  timestamp : Bytes := List.replicate 7 0
  userData : Bytes := []
  text : Text := []
  moreMessages : Bool := true
  statusReportIndication : Bool := false
  userDataHeader : Bool := false
  replyPath : Bool := false
deriving DecidableEq, Repr

namespace SMSDeliver

/-- The first octet: message type and flags. -/
def flags (m : SMSDeliver) : ℕ :=
  0x00 ||| flagBit (!m.moreMessages) 0x04 ||| flagBit m.statusReportIndication 0x20 |||
    flagBit m.userDataHeader 0x40 ||| flagBit m.replyPath 0x80

/-- The message after its user data has been encoded. -/
def filled (m : SMSDeliver) : SMSDeliver :=
  { m with userData := fillUserData m.dcs m.text m.userData }

/-- `SMSDeliver.from_bytes(data)`. -/
def fromBytes (data : Bytes) : Except PyError SMSDeliver := do
  let flags := (← byteAt data 0).toNat
  let (originator, offset) ← SMSAddress.fromBytes data 1
  let protocolId := (← byteAt data offset).toNat
  let dcs ← DataCodingScheme.ofValue ((← byteAt data (offset + 1)).toNat &&& 0x0C)
  let offset := offset + 2
  let timestamp := slice data offset (offset + 7)
  let offset := offset + 7
  let udl := (← byteAt data offset).toNat
  let ud := readUserData dcs data (offset + 1) udl
  return {
    originator, protocolId, dcs, timestamp
    userData := ud.1
    text := ud.2
    moreMessages := !(flags &&& 0x04 ≠ 0)
    statusReportIndication := flags &&& 0x20 ≠ 0
    userDataHeader := flags &&& 0x40 ≠ 0
    replyPath := flags &&& 0x80 ≠ 0 }

/-- `SMSDeliver.to_bytes()`. -/
def toBytes (m : SMSDeliver) : Except PyError Bytes := do
  let flags ← mkByte m.flags
  let oa ← m.originator.toBytes
  let pid ← mkByte m.protocolId
  let dcs ← mkByte m.dcs.value
  let scts := if m.timestamp.length = 7 then m.timestamp else List.replicate 7 0
  let udl ← mkByte (userDataLength m.dcs m.text m.filled.userData)
  return [flags] ++ oa ++ [pid, dcs] ++ scts ++ [udl] ++ m.filled.userData

/-- `SMSDeliver.create(from_number, text, dcs)` at the time whose encoding is `scts`. -/
def create (scts : Bytes) (fromNumber text : Text) (dcs : DataCodingScheme := .gsm7Bit) :
    SMSDeliver :=
  { originator := SMSAddress.international fromNumber
    dcs := dcs
    text := text
    timestamp := scts }

end SMSDeliver

/-! ### RP-DATA -/

/-- `RPData`. -/
structure RPData where
  msgType : RPMessageType := .rpDataMo
  reference : ℕ := 0
  originator : Bytes := []
  destination : Bytes := []
  tpdu : Bytes := []
deriving DecidableEq, Repr

namespace RPData

/-- An SMSC number as a relay address: length, international type, BCD digits. -/
def smscAddress (smsc : Text) : Except PyError Bytes :=
  if smsc = [] then .ok []
  else do
    let bcd ← encodeBcd (smsc.filter (· ≠ '+'))
    let len ← mkByte (bcd.length + 1)
    return [len, 0x91] ++ bcd

/-- `RPData.wrap_mo(tpdu, reference, smsc)`. -/
def wrapMo (tpdu : Bytes) (reference : ℕ := 0) (smsc : Text := []) : Except PyError RPData := do
  let dest ← smscAddress smsc
  return { msgType := .rpDataMo, reference, originator := [], destination := dest, tpdu }

/-- `RPData.wrap_mt(tpdu, reference, smsc)`. -/
def wrapMt (tpdu : Bytes) (reference : ℕ := 0) (smsc : Text := []) : Except PyError RPData := do
  let orig ← smscAddress smsc
  return { msgType := .rpDataMt, reference, originator := orig, destination := [], tpdu }

/-- `RPData.to_bytes()`. -/
def toBytes (r : RPData) : Except PyError Bytes := do
  let mti ← mkByte r.msgType.value
  let ref ← mkByte (r.reference &&& 0xFF)
  let origLen ← mkByte r.originator.length
  let destLen ← mkByte r.destination.length
  let tpduLen ← mkByte r.tpdu.length
  return [mti, ref, origLen] ++ r.originator ++ [destLen] ++ r.destination ++ [tpduLen] ++ r.tpdu

/-- `RPData.from_bytes(data)`. -/
def fromBytes (data : Bytes) : Except PyError RPData := do
  let msgType ← RPMessageType.ofValue (← byteAt data 0).toNat
  let reference := (← byteAt data 1).toNat
  let origLen := (← byteAt data 2).toNat
  let offset := 3
  let originator := if 0 < origLen then slice data offset (offset + origLen) else []
  let offset := offset + origLen
  let destLen := (← byteAt data offset).toNat
  let offset := offset + 1
  let destination := if 0 < destLen then slice data offset (offset + destLen) else []
  let offset := offset + destLen
  let tpduLen := (← byteAt data offset).toNat
  let offset := offset + 1
  let tpdu := slice data offset (offset + tpduLen)
  return { msgType, reference, originator, destination, tpdu }

end RPData

/-! ### The radio interface form -/

/-- `parse_pdu_from_ril(hex_pdu)`: the SMSC octets and the TPDU. -/
def parsePduFromRil (hexPdu : Text) : Except PyError (Bytes × Bytes) := do
  let raw ← fromHex hexPdu
  let smscLen := (← byteAt raw 0).toNat
  let smsc := if 0 < smscLen then slice raw 1 (1 + smscLen) else []
  return (smsc, raw.drop (1 + smscLen))

/-- `build_pdu_for_ril(tpdu, smsc)`. -/
def buildPduForRil (tpdu : Bytes) (smsc : Bytes := []) : Except PyError Text := do
  let len ← mkByte smsc.length
  return (hex ([len] ++ smsc ++ tpdu)).map Char.toUpper

end VirtualPhone
