import VirtualPhone.ApduHandler
import VirtualPhone.UntypedStore

/-! # The APDU handler over profiles of any values (`euicc/apdu/handler.py`)

The commands of `ApduHandler` on a profile whose fields may hold anything: `_read_ef` and
`_handle_authenticate` fail where an encoder, `int` or `bytes.fromhex` has no such value, and `process`
answers that with 6F00 like any other exception. -/

namespace VirtualPhone

namespace Untyped

open Runtime

variable {F : Type}

/-- The handler and the object it works on. -/
structure Card (F : Type) where
  handler : ApduHandler := {}
  euicc : Euicc F

section

variable (L : PyLibrary F)

/-! ### Elementary files -/

/-- The octets of digits in pairs, the second one `F` past the end. -/
def packDigitPairs : List (PyValue F) → Except PyError Bytes
  | [] => .ok []
  | [c] => do
      let d1 ← L.int c
      let octet ← byteOfInt (Int.lor d1 (0xF * 16))
      return [octet]
  | c :: d :: digits => do
      let d1 ← L.int c
      let d2 ← L.int d
      let octet ← byteOfInt (Int.lor d1 (d2 * 16))
      let rest ← packDigitPairs digits
      return octet :: rest

/-- The characters of a string, as what is picked out of it. -/
def characters (s : PyStr) : List (PyValue F) := s.map fun c => .scalar (.str [c])

/-- `_encode_imsi(imsi)`. -/
def encodeImsi (imsi : PyValue F) : Except PyError Bytes := do
  let digits ← imsi.sequence
  let length ← mkByte ((digits.length + 1) / 2 + 1)
  let parity := digits.length &&& 1
  let first ← match digits with
    | [] => .ok 0
    | c :: _ => L.int c
  let b ← byteOfInt (Int.lor (if parity ≠ 0 then 0x09 else 0x01) (first * 16))
  let rest ← packDigitPairs L digits.tail
  return [length, b] ++ rest

/-- `_encode_bcd(digits)`, of a key. -/
def encodeBcd (digits : PyScalar F) : Except PyError Bytes := do
  let digits ← PyValue.sequence (.scalar digits)
  packDigitPairs L digits

/-- `_nibble(ch)`. -/
def plmnNibble : CodePoint → Except PyError ℕ
  | .char c => VirtualPhone.plmnNibble c
  | .surrogate _ => .error intError

/-- `_encode_plmn(mcc, mnc)`. -/
def encodePlmn (mcc mnc : PyValue F) : Except PyError Bytes := do
  let mcc ← mcc.asStr
  let mnc ← mnc.asStr
  let mcc := ljust mcc 3 (.char 'F')
  let mnc := ljust mnc 3 (.char 'F')
  let mcc2 ← plmnNibble (mcc.getD 1 (.char 'F'))
  let mcc1 ← plmnNibble (mcc.getD 0 (.char 'F'))
  let mnc3 ← plmnNibble (mnc.getD 2 (.char 'F'))
  let mcc3 ← plmnNibble (mcc.getD 2 (.char 'F'))
  let mnc2 ← plmnNibble (mnc.getD 1 (.char 'F'))
  let mnc1 ← plmnNibble (mnc.getD 0 (.char 'F'))
  return [UInt8.ofNat ((mcc2 <<< 4) ||| mcc1), UInt8.ofNat ((mnc3 <<< 4) ||| mcc3),
    UInt8.ofNat ((mnc2 <<< 4) ||| mnc1)]

/-- `_encode_msisdn(msisdn)`. -/
def encodeMsisdn (msisdn : PyValue F) : Except PyError Bytes :=
  if L.truthy msisdn then do
    let msisdn ← msisdn.asStr
    let number := msisdn.dropWhile (· = .char '+')
    let tonNpi := if msisdn.head? = some (.char '+') then 0x91 else 0x81
    let bcd ← packDigitPairs L (characters number)
    let bcdLen ← mkByte (bcd.length + 1)
    return [bcdLen, tonNpi] ++ bcd
  else .ok (List.replicate 14 0xFF)

/-- `_read_ef(file_id, profile)`: every file is encoded before one is picked. -/
def readEf (fileId : ℕ) (profile : Isdp F) : Except PyError (Option Bytes) := do
  let imsi ← encodeImsi L profile.imsi
  let iccid ← encodeBcd L profile.iccid
  let spn ← profile.spn.encode
  let msisdn ← encodeMsisdn L profile.msisdn
  let hplmn ← encodePlmn profile.mcc profile.mnc
  -- by now it is a string
  let mnc ← profile.mnc.asStr
  let mncLen ← mkByte mnc.length
  let isim ← profile.getIsimData L
  let impi ← isim.impi.encode
  let impu ← isim.impu.encode
  let domain ← isim.homeDomain.encode
  return match fileId with
    | 0x6F07 => some imsi
    | 0x2FE2 => some iccid
    | 0x6F46 => some (ljust spn 16 0xFF)
    | 0x6F40 => some msisdn
    | 0x6F31 => some hplmn
    | 0x6FAD => some [0x00, 0x00, mncLen, 0x00]
    | 0x6F02 => some impi
    | 0x6F04 => some impu
    | 0x6F03 => some domain
    | _ => none

end

/-! ### Handlers -/

namespace ApduHandler

open ApduResponse

/-- Change the handler. -/
def update (f : VirtualPhone.ApduHandler → VirtualPhone.ApduHandler) : Py (Card F) Unit :=
  Py.modify fun c => { c with handler := f c.handler }

/-- `_handle_select(cmd)`. -/
def handleSelect (cmd : ApduCommand) : Py (Card F) ApduResponse :=
  if cmd.p1 = 0x04 then pure (swOk [])
  else if cmd.p1 = 0x00 then
    match cmd.data with
    | hi :: lo :: _ => do
        update fun h => { h with selectedEf := some ((hi.toNat <<< 8) ||| lo.toNat) }
        return swOk []
    | _ => pure swWrongP1P2
  else pure swWrongP1P2

/-- `_handle_get_response(cmd)`. -/
def handleGetResponse (_cmd : ApduCommand) : Py (Card F) ApduResponse := do
  let card ← Py.get
  match card.handler.pendingResponse with
  | none => return swConditionsNotSatisfied
  | some data => do
      update fun h => { h with pendingResponse := none }
      return swOk data

/-- `_handle_store_data(cmd)`. -/
def handleStoreData (_cmd : ApduCommand) : Py (Card F) ApduResponse := pure (swOk [])

/-- `Milenage(bytes.fromhex(ki), bytes.fromhex(opc))` of a profile. -/
def milenageOf (profile : Isdp F) : Except PyError Milenage := do
  let ki ← profile.ki.fromHex
  let opc ← profile.opc.fromHex
  Milenage.new ki opc

section

variable [DecidableEq F] (aes : Bytes → Block → Block) (L : PyLibrary F)

/-- `profile.increment_sqn()` on the active profile. -/
def incrementActive (e : Euicc F) : Euicc F :=
  { e with profiles := e.profiles.modify (L.key e.activeIccid) Isdp.incrementSqn }

/-- The selected file of the active profile, for the two reading commands. -/
def readSelected (answer : Bytes → ApduResponse) : Py (Card F) ApduResponse := do
  let card ← Py.get
  match card.handler.selectedEf with
  | none => return swConditionsNotSatisfied
  | some ef =>
      match card.euicc.getActiveProfile L with
      | none => return swConditionsNotSatisfied
      | some profile => do
          let data ← Py.lift (readEf L ef profile)
          match data with
          | none => return swNotFound
          | some data => return answer data

/-- `_handle_read_binary(cmd)`. -/
def handleReadBinary (cmd : ApduCommand) : Py (Card F) ApduResponse :=
  readSelected L fun data =>
    let data := data.drop ((cmd.p1 <<< 8) ||| cmd.p2)
    swOk (if 0 < cmd.le then data.take cmd.le else data)

/-- `_handle_read_record(cmd)`. -/
def handleReadRecord (_cmd : ApduCommand) : Py (Card F) ApduResponse := readSelected L swOk

/-- `_handle_status(cmd)`. -/
def handleStatus (cmd : ApduCommand) : Py (Card F) ApduResponse := do
  let card ← Py.get
  let info ← Py.lift (L.str (.dict card.euicc.getEuiccInfo))
  let data ← Py.lift info.encode
  return swOk (data.take (if cmd.le = 0 then 256 else cmd.le))

/-- The 3G branch of `_handle_authenticate`. -/
def authenticate3G (profile : Isdp F) (rand autn : Bytes) : Py (Card F) ApduResponse := do
  let mil ← Py.lift (milenageOf profile)
  let result ← Py.lift (mil.authenticate aes rand autn profile.sqn)
  match result with
  | none => do
      let auts ← Py.lift (mil.generateAuts aes rand profile.sqn)
      let auts ← Py.lift (VirtualPhone.ApduHandler.counted auts)
      return swOk ([0xDC] ++ auts)
  | some (res, ck, ik) => do
      Py.modify fun c => { c with euicc := incrementActive L c.euicc }
      let res ← Py.lift (VirtualPhone.ApduHandler.counted res)
      let ck ← Py.lift (VirtualPhone.ApduHandler.counted ck)
      let ik ← Py.lift (VirtualPhone.ApduHandler.counted ik)
      return swOk ([0xDB] ++ res ++ ck ++ ik)

/-- The 2G branch of `_handle_authenticate`. -/
def authenticate2G (profile : Isdp F) (rand : Bytes) : Py (Card F) ApduResponse := do
  let mil ← Py.lift (milenageOf profile)
  let result ← Py.lift (mil.gsmAuthenticate aes rand)
  let sres ← Py.lift (VirtualPhone.ApduHandler.counted result.1)
  let kc ← Py.lift (VirtualPhone.ApduHandler.counted result.2)
  return swOk (sres ++ kc)

/-- `_handle_authenticate(cmd)`. -/
def handleAuthenticate (cmd : ApduCommand) : Py (Card F) ApduResponse := do
  let card ← Py.get
  match card.euicc.getActiveProfile L with
  | none => return swConditionsNotSatisfied
  | some profile =>
      if cmd.data.length < 34 then return swWrongLength
      else
        match VirtualPhone.ApduHandler.challenge cmd.data with
        | some (rand, autn) => authenticate3G aes L profile rand autn
        | none => authenticate2G aes profile (slice cmd.data 2 (2 + (cmd.data.getD 1 0).toNat))

/-- `_dispatch(cmd)`. -/
def dispatch (cmd : ApduCommand) : Py (Card F) ApduResponse :=
  match cmd.ins with
  | 0xA4 => handleSelect cmd
  | 0xB0 => handleReadBinary L cmd
  | 0xB2 => handleReadRecord L cmd
  | 0xC0 => handleGetResponse cmd
  | 0xF2 => handleStatus L cmd
  | 0x88 => handleAuthenticate aes L cmd
  | 0xE2 => handleStoreData cmd
  | _ => pure swInsNotSupported

/-- `process(raw)`: the response, and the card after it. -/
def process (raw : Bytes) (card : Card F) : ApduResponse × Card F :=
  match ApduCommand.fromBytes raw with
  | .error _ => (swWrongLength, card)
  | .ok cmd =>
      match (dispatch aes L cmd).run card with
      | (.ok response, card') => (response, card')
      | (.error _, card') => (swInternalError, card')

end

end ApduHandler

end Untyped

end VirtualPhone
