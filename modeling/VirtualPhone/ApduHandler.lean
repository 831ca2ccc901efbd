import VirtualPhone.Milenage
import VirtualPhone.Euicc
import VirtualPhone.Runtime.Unicode

/-! # The APDU handler (`euicc/apdu/handler.py`)

Commands are parsed from octets, dispatched on their instruction byte and answered from the active
profile; any exception becomes the status word 6F00.  A handler is a program over `Card`: the
handler's own selection and pending response, and the object it reads the active profile from.
The block cipher and the `repr` of strings are the `Platform`.

`process_spec` is the one fact later modules need about the whole handler: whatever the command,
the object is left alone, except that an accepted challenge advances the sequence number of the
active profile by one. -/

namespace VirtualPhone

open Runtime

/-- What the handler takes from outside: AES-128 under a key, and `repr` of a string. -/
structure Platform where
  aes : Bytes → Block → Block
  repr : Text → Text

/-- `APDUCommand`. -/
structure ApduCommand where
  cla : ℕ
  ins : ℕ
  p1 : ℕ
  p2 : ℕ
  data : Bytes := []
  le : ℕ := 0
deriving DecidableEq, Repr

/-- `APDUResponse`. -/
structure ApduResponse where
  data : Bytes
  sw1 : ℕ
  sw2 : ℕ
deriving DecidableEq, Repr

namespace ApduCommand

/-- `b or 256` for a length octet. -/
def lengthOr256 (b : UInt8) : ℕ := if b.toNat = 0 then 256 else b.toNat

/-- `APDUCommand.from_bytes(raw)`. -/
def fromBytes (raw : Bytes) : Except PyError ApduCommand :=
  match raw with
  | cla :: ins :: p1 :: p2 :: rest =>
      let header : ApduCommand := ⟨cla.toNat, ins.toNat, p1.toNat, p2.toNat, [], 0⟩
      match rest with
      | [] => .ok header
      | [le] => .ok { header with le := lengthOr256 le }
      | lc :: body =>
          .ok { header with
            data := body.take lc.toNat
            le := match body[lc.toNat]? with
              | some le => lengthOr256 le
              | none => 0 }
  | _ => .error (.valueError "APDU too short".toList)

end ApduCommand

namespace ApduResponse

def swOk (data : Bytes) : ApduResponse := ⟨data, 0x90, 0x00⟩
def swNotFound : ApduResponse := ⟨[], 0x6A, 0x82⟩
def swWrongP1P2 : ApduResponse := ⟨[], 0x6A, 0x86⟩
def swWrongLength : ApduResponse := ⟨[], 0x67, 0x00⟩
def swConditionsNotSatisfied : ApduResponse := ⟨[], 0x69, 0x85⟩
def swInsNotSupported : ApduResponse := ⟨[], 0x6D, 0x00⟩
def swInternalError : ApduResponse := ⟨[], 0x6F, 0x00⟩

/-- `to_bytes()`. -/
def toBytes (r : ApduResponse) : Bytes := r.data ++ [UInt8.ofNat r.sw1, UInt8.ofNat r.sw2]

end ApduResponse

/-- `APDUHandler`: the selected file and the pending response. -/
structure ApduHandler where
  selectedEf : Option ℕ := none
  pendingResponse : Option Bytes := none
deriving DecidableEq, Repr

/-- The handler and the object it works on. -/
structure Card where
  handler : ApduHandler := {}
  euicc : Euicc
deriving DecidableEq

/-! ### Elementary files -/

/-- Two digits of a swapped-nibble octet, the second one `F` past the end. -/
def packDigitPairs : Text → Except PyError Bytes
  | [] => .ok []
  | [c] => do
      let d1 ← digitValue c
      return [UInt8.ofNat (d1 ||| (0xF <<< 4))]
  | c :: d :: digits => do
      let d1 ← digitValue c
      let d2 ← digitValue d
      let rest ← packDigitPairs digits
      return UInt8.ofNat (d1 ||| (d2 <<< 4)) :: rest

/-- `_encode_imsi(imsi)`. -/
def encodeImsi (imsi : Text) : Except PyError Bytes := do
  let length ← mkByte ((imsi.length + 1) / 2 + 1)
  let parity := imsi.length &&& 1
  let first ← match imsi with
    | [] => .ok 0
    | c :: _ => digitValue c
  let b ← mkByte ((if parity ≠ 0 then 0x09 else 0x01) ||| (first <<< 4))
  let rest ← packDigitPairs imsi.tail
  return [length, b] ++ rest

/-- `s.ljust(width, fill)`. -/
def ljust {α : Type} (s : List α) (width : ℕ) (fill : α) : List α :=
  s ++ List.replicate (width - s.length) fill

/-- The nibble of a PLMN digit; the filler is written `F`. -/
def plmnNibble (c : Char) : Except PyError ℕ :=
  if c = 'F' ∨ c = 'f' then .ok 0xF else digitValue c

/-- `_encode_plmn(mcc, mnc)`. -/
def encodePlmn (mcc mnc : Text) : Except PyError Bytes := do
  let mcc := ljust mcc 3 'F'
  let mnc := ljust mnc 3 'F'
  let mcc2 ← plmnNibble (mcc.getD 1 'F')
  let mcc1 ← plmnNibble (mcc.getD 0 'F')
  let mnc3 ← plmnNibble (mnc.getD 2 'F')
  let mcc3 ← plmnNibble (mcc.getD 2 'F')
  let mnc2 ← plmnNibble (mnc.getD 1 'F')
  let mnc1 ← plmnNibble (mnc.getD 0 'F')
  return [UInt8.ofNat ((mcc2 <<< 4) ||| mcc1), UInt8.ofNat ((mnc3 <<< 4) ||| mcc3),
    UInt8.ofNat ((mnc2 <<< 4) ||| mnc1)]

/-- `_encode_msisdn(msisdn)`. -/
def encodeMsisdn (msisdn : Option Text) : Except PyError Bytes :=
  match msisdn with
  | none | some [] => .ok (List.replicate 14 0xFF)
  | some (c :: digits) => do
      let number := (c :: digits).dropWhile (· = '+')
      let tonNpi := if c = '+' then 0x91 else 0x81
      let bcd ← packDigitPairs number
      let bcdLen ← mkByte (bcd.length + 1)
      return [bcdLen, tonNpi] ++ bcd

/-- `.encode()` of a field that may be `None`. -/
def encodeField : Option Text → Except PyError Bytes
  | some s => .ok (encodeUtf8 s)
  | none => .error .attributeError

/-- `_read_ef(file_id, profile)`: every file is encoded before one is picked. -/
def readEf (fileId : ℕ) (profile : Isdp) : Except PyError (Option Bytes) := do
  let imsi ← encodeImsi profile.imsi
  let iccid ← packDigitPairs profile.iccid
  let spn := ljust (encodeUtf8 profile.spn) 16 0xFF
  let msisdn ← encodeMsisdn profile.msisdn
  let hplmn ← encodePlmn profile.mcc profile.mnc
  let mncLen ← mkByte profile.mnc.length
  let isim := profile.getIsimData
  let impi ← encodeField isim.impi
  let impu ← encodeField isim.impu
  let domain ← encodeField isim.homeDomain
  return match fileId with
    | 0x6F07 => some imsi
    | 0x2FE2 => some iccid
    | 0x6F46 => some spn
    | 0x6F40 => some msisdn
    | 0x6F31 => some hplmn
    | 0x6FAD => some [0x00, 0x00, mncLen, 0x00]
    | 0x6F02 => some impi
    | 0x6F04 => some impu
    | 0x6F03 => some domain
    | _ => none

/-! ### Handlers -/

namespace ApduHandler

open ApduResponse

/-- Change the handler. -/
def update (f : ApduHandler → ApduHandler) : Py Card Unit :=
  Py.modify fun c => { c with handler := f c.handler }

/-- `profile.increment_sqn()` on the active profile. -/
def incrementActive (e : Euicc) : Euicc :=
  match e.activeIccid with
  | some iccid => { e with profiles := e.profiles.modify iccid Isdp.incrementSqn }
  | none => e

/-- `_handle_select(cmd)`. -/
def handleSelect (cmd : ApduCommand) : Py Card ApduResponse :=
  if cmd.p1 = 0x04 then pure (swOk [])
  else if cmd.p1 = 0x00 then
    match cmd.data with
    | hi :: lo :: _ => do
        update fun h => { h with selectedEf := some ((hi.toNat <<< 8) ||| lo.toNat) }
        return swOk []
    | _ => pure swWrongP1P2
  else pure swWrongP1P2

/-- The selected file of the active profile, for the two reading commands. -/
def readSelected (answer : Bytes → ApduResponse) : Py Card ApduResponse := do
  let card ← Py.get
  match card.handler.selectedEf with
  | none => return swConditionsNotSatisfied
  | some ef =>
      match card.euicc.getActiveProfile with
      | none => return swConditionsNotSatisfied
      | some profile => do
          let data ← Py.lift (readEf ef profile)
          match data with
          | none => return swNotFound
          | some data => return answer data

/-- `_handle_read_binary(cmd)`. -/
def handleReadBinary (cmd : ApduCommand) : Py Card ApduResponse :=
  readSelected fun data =>
    let data := data.drop ((cmd.p1 <<< 8) ||| cmd.p2)
    swOk (if 0 < cmd.le then data.take cmd.le else data)

/-- `_handle_read_record(cmd)`. -/
def handleReadRecord (_cmd : ApduCommand) : Py Card ApduResponse := readSelected swOk

/-- `_handle_get_response(cmd)`. -/
def handleGetResponse (_cmd : ApduCommand) : Py Card ApduResponse := do
  let card ← Py.get
  match card.handler.pendingResponse with
  | none => return swConditionsNotSatisfied
  | some data => do
      update fun h => { h with pendingResponse := none }
      return swOk data

section Platform

variable (P : Platform)

/-- `str(euicc.get_euicc_info())`. -/
def infoText (e : Euicc) : Text :=
  let entry (key : Text) (value : Text) : Text := P.repr key ++ ": ".toList ++ value
  let comma := ", ".toList
  "\x7b".toList ++ comma.intercalate [
    entry "eid".toList (P.repr e.info.eid),
    entry "sv".toList (P.repr e.info.sv),
    entry "firmware_version".toList (P.repr e.info.firmwareVersion),
    entry "uicc_capability".toList
      ("[".toList ++ comma.intercalate (e.info.uiccCapability.map P.repr) ++ "]".toList),
    entry "javacard_version".toList (P.repr e.info.javacardVersion),
    entry "globalplatform_version".toList (P.repr e.info.globalplatformVersion),
    entry "free_nvram".toList (intText e.info.freeNvram),
    entry "installed_profiles".toList (natText e.profiles.keys.length),
    entry "active_iccid".toList (match e.activeIccid with
      | some iccid => P.repr iccid
      | none => "None".toList),
    entry "state".toList (P.repr e.state.value)] ++ "\x7d".toList

/-- `_handle_status(cmd)`. -/
def handleStatus (cmd : ApduCommand) : Py Card ApduResponse := do
  let card ← Py.get
  let data := (encodeUtf8 (infoText P card.euicc)).take (if cmd.le = 0 then 256 else cmd.le)
  return swOk data

/-- RAND and AUTN of an authentication command in 3G context. -/
def challenge (data : Bytes) : Option (Bytes × Bytes) :=
  let randLen := (data.getD 1 0).toNat
  if 34 ≤ data.length ∧ data.getD 0 0 = 0x80 ∧ 2 + randLen + 2 ≤ data.length then
    let autnOffset := 2 + randLen
    let autnLen := (data.getD autnOffset 0).toNat
    some (slice data 2 (2 + randLen), slice data (autnOffset + 1) (autnOffset + 1 + autnLen))
  else none

/-- `Milenage(bytes.fromhex(ki), bytes.fromhex(opc))` of a profile. -/
def milenageOf (profile : Isdp) : Except PyError Milenage := do
  let ki ← fromHex profile.ki
  let opc ← fromHex profile.opc
  Milenage.new ki opc

/-- A length octet and the octets it counts. -/
def counted (d : Bytes) : Except PyError Bytes := do
  let len ← mkByte d.length
  return len :: d

/-- The 3G branch of `_handle_authenticate`. -/
def authenticate3G (profile : Isdp) (rand autn : Bytes) : Py Card ApduResponse := do
  let mil ← Py.lift (milenageOf profile)
  let result ← Py.lift (mil.authenticate P.aes rand autn profile.sqn)
  match result with
  | none => do
      -- synchronisation failure
      let auts ← Py.lift (mil.generateAuts P.aes rand profile.sqn)
      let auts ← Py.lift (counted auts)
      return swOk ([0xDC] ++ auts)
  | some (res, ck, ik) => do
      Py.modify fun c => { c with euicc := incrementActive c.euicc }
      let res ← Py.lift (counted res)
      let ck ← Py.lift (counted ck)
      let ik ← Py.lift (counted ik)
      return swOk ([0xDB] ++ res ++ ck ++ ik)

/-- The 2G branch of `_handle_authenticate`. -/
def authenticate2G (profile : Isdp) (rand : Bytes) : Py Card ApduResponse := do
  let mil ← Py.lift (milenageOf profile)
  let result ← Py.lift (mil.gsmAuthenticate P.aes rand)
  let sres ← Py.lift (counted result.1)
  let kc ← Py.lift (counted result.2)
  return swOk (sres ++ kc)

/-- `_handle_authenticate(cmd)`. -/
def handleAuthenticate (cmd : ApduCommand) : Py Card ApduResponse := do
  let card ← Py.get
  match card.euicc.getActiveProfile with
  | none => return swConditionsNotSatisfied
  | some profile =>
      if cmd.data.length < 34 then return swWrongLength
      else
        match challenge cmd.data with
        | some (rand, autn) => authenticate3G P profile rand autn
        | none => authenticate2G P profile (slice cmd.data 2 (2 + (cmd.data.getD 1 0).toNat))

/-- `_handle_store_data(cmd)`. -/
def handleStoreData (_cmd : ApduCommand) : Py Card ApduResponse := pure (swOk [])

/-- `_dispatch(cmd)`. -/
def dispatch (cmd : ApduCommand) : Py Card ApduResponse :=
  match cmd.ins with
  | 0xA4 => handleSelect cmd
  | 0xB0 => handleReadBinary cmd
  | 0xB2 => handleReadRecord cmd
  | 0xC0 => handleGetResponse cmd
  | 0xF2 => handleStatus P cmd
  | 0x88 => handleAuthenticate P cmd
  | 0xE2 => handleStoreData cmd
  | _ => pure swInsNotSupported

/-- `process(raw)`: the response, and the card after it. -/
def process (raw : Bytes) (card : Card) : ApduResponse × Card :=
  match ApduCommand.fromBytes raw with
  | .error _ => (swWrongLength, card)
  | .ok cmd =>
      match (dispatch P cmd).run card with
      | (.ok response, card') => (response, card')
      | (.error _, card') => (swInternalError, card')

/-! ### What a command does to the object -/

/-- A challenge the card has accepted, with its sequence number. -/
structure Challenge where
  rand : Bytes
  autn : Bytes
  sqn : ℕ
deriving DecidableEq, Repr

/-- The sequence number of the active profile. -/
def storedSqn (e : Euicc) : ℕ :=
  match e.getActiveProfile with
  | some profile => profile.sqn
  | none => 0

/-- The keys of the active profile. -/
def activeMilenage (e : Euicc) : Option Milenage :=
  match e.getActiveProfile with
  | some profile => (milenageOf profile).toOption
  | none => none

/-- The challenge `(rand, autn)` if the active profile accepts it. -/
def accepts (e : Euicc) (rand autn : Bytes) : Option Challenge :=
  match activeMilenage e with
  | some mil =>
      if (mil.verified P.aes rand autn).isSome ∧ storedSqn e ≤ mil.challengeSqn P.aes rand autn then
        some ⟨rand, autn, mil.challengeSqn P.aes rand autn⟩
      else none
  | none => none

/-- RAND and AUTN of a command, when it is AUTHENTICATE in 3G context. -/
def challenge3G (raw : Bytes) : Option (Bytes × Bytes) :=
  match ApduCommand.fromBytes raw with
  | .ok cmd => if cmd.ins = 0x88 then challenge cmd.data else none
  | .error _ => none

/-- The challenge accepted by the command `raw`, if it carries one. -/
def acceptedBy (e : Euicc) (raw : Bytes) : Option Challenge :=
  (challenge3G raw).bind fun v => accepts P e v.1 v.2

/-- A program that leaves the object alone. -/
abbrev KeepsEuicc (x : Py Card ApduResponse) : Prop :=
  Py.Respects (fun c c' => c'.euicc = c.euicc) x

theorem keepsEuicc_readSelected (answer : Bytes → ApduResponse) : KeepsEuicc (readSelected answer) := by
  intro card
  rw [readSelected, Py.run_get_bind]
  cases card.handler.selectedEf with
  | none => rfl
  | some ef =>
      cases card.euicc.getActiveProfile with
      | none => rfl
      | some profile =>
          cases hef : readEf ef profile with
          | error e =>
              simp only [hef, Py.run_lift_error_bind]
          | ok data =>
              simp only [hef, Py.run_lift_ok_bind]
              cases data <;> rfl

theorem keepsEuicc_handleSelect (cmd : ApduCommand) : KeepsEuicc (handleSelect cmd) := by
  intro card
  unfold handleSelect
  split_ifs
  · rfl
  · split <;> rfl
  · rfl

theorem keepsEuicc_handleGetResponse (cmd : ApduCommand) : KeepsEuicc (handleGetResponse cmd) := by
  intro card
  rw [handleGetResponse, Py.run_get_bind]
  cases card.handler.pendingResponse <;> rfl

theorem keepsEuicc_dispatch {cmd : ApduCommand} (h : cmd.ins ≠ 0x88) : KeepsEuicc (dispatch P cmd) := by
  unfold dispatch
  split
  · exact keepsEuicc_handleSelect cmd
  · exact keepsEuicc_readSelected _
  · exact keepsEuicc_readSelected _
  · exact keepsEuicc_handleGetResponse cmd
  · exact fun _ => rfl
  · exact absurd (by assumption) h
  · exact fun _ => rfl
  · exact fun _ => rfl

theorem counted_of_le {d : Bytes} (h : d.length ≤ 255) :
    counted d = .ok (UInt8.ofNat d.length :: d) := by
  rw [counted, mkByte_of_lt (by omega)]
  rfl

theorem run_authenticate2G (profile : Isdp) (rand : Bytes) (card : Card) :
    ((authenticate2G P profile rand).run card).2 = card := by
  have hlift : ∀ {α : Type} (x : Except PyError α), Py.Respects (σ := Card) Eq (Py.lift x) :=
    fun x => Py.Respects.lift Eq.refl x
  have hkeep : Py.Respects Eq (authenticate2G P profile rand) := by
    refine Py.Respects.bind (R := Eq) Eq.trans (hlift _) fun mil => ?_
    refine Py.Respects.bind (R := Eq) Eq.trans (hlift _) fun result => ?_
    refine Py.Respects.bind (R := Eq) Eq.trans (hlift _) fun sres => ?_
    refine Py.Respects.bind (R := Eq) Eq.trans (hlift _) fun kc => ?_
    exact Py.Respects.pure (R := Eq) Eq.refl _
  exact (hkeep card).symm

theorem run_authenticate3G_accepted {profile : Isdp} {mil : Milenage} {rand autn : Bytes}
    {r : Bytes × Bytes × Bytes} (hmil : milenageOf profile = .ok mil)
    (hr : mil.authenticate P.aes rand autn profile.sqn = .ok (some r)) (card : Card) :
    ∃ data, (authenticate3G P profile rand autn).run card =
      (.ok (swOk (0xDB :: data)), { card with euicc := incrementActive card.euicc }) := by
  obtain ⟨res, ck, ik⟩ := r
  have hver := ((mil.authenticate_some_iff P.aes rand autn _ _).mp hr).1
  obtain ⟨hres, hck, hik⟩ := Milenage.verified_lengths P.aes hver
  refine ⟨UInt8.ofNat res.length :: res ++ UInt8.ofNat ck.length :: ck ++
    UInt8.ofNat ik.length :: ik, ?_⟩
  rw [authenticate3G, hmil, Py.run_lift_ok_bind, hr, Py.run_lift_ok_bind, Py.run_modify_bind,
    counted_of_le (by omega), Py.run_lift_ok_bind, counted_of_le (by omega), Py.run_lift_ok_bind,
    counted_of_le (by omega), Py.run_lift_ok_bind]
  rfl

theorem run_authenticate3G_refused {profile : Isdp} {rand autn : Bytes}
    (h : ∀ mil r, milenageOf profile = .ok mil →
      mil.authenticate P.aes rand autn profile.sqn ≠ .ok (some r)) (card : Card) :
    ((authenticate3G P profile rand autn).run card).2 = card ∧
      ∀ r, ((authenticate3G P profile rand autn).run card).1 = .ok r → r.data.head? ≠ some 0xDB := by
  rw [authenticate3G]
  cases hmil : milenageOf profile with
  | error e => simp
  | ok mil =>
      rw [Py.run_lift_ok_bind]
      cases hauth : mil.authenticate P.aes rand autn profile.sqn with
      | error e => simp
      | ok result =>
          cases result with
          | some r => exact absurd hauth (h mil r hmil)
          | none =>
              rw [Py.run_lift_ok_bind]
              cases mil.generateAuts P.aes rand profile.sqn with
              | error e => simp
              | ok auts =>
                  rw [Py.run_lift_ok_bind]
                  cases counted auts with
                  | error e => simp
                  | ok auts => simp [swOk]

theorem accepts_eq_some_iff (e : Euicc) (rand autn : Bytes) (ch : Challenge) :
    accepts P e rand autn = some ch ↔
      ∃ profile mil r, e.getActiveProfile = some profile ∧ milenageOf profile = .ok mil ∧
        mil.authenticate P.aes rand autn profile.sqn = .ok (some r) ∧
        ch = ⟨rand, autn, mil.challengeSqn P.aes rand autn⟩ := by
  unfold accepts activeMilenage storedSqn
  cases e.getActiveProfile with
  | none => simp
  | some profile =>
      cases hmil : milenageOf profile with
      | error err => simp [hmil, Except.toOption]
      | ok mil =>
          simp only [hmil, Except.toOption, Milenage.authenticate_some_iff]
          split_ifs with hacc
          · obtain ⟨r, hr⟩ := Option.isSome_iff_exists.mp hacc.1
            constructor
            · intro h
              exact ⟨profile, mil, r, rfl, hmil, ⟨hr, hacc.2⟩, (Option.some.inj h).symm⟩
            · rintro ⟨profile', mil', r', hp, hm, -, rfl⟩
              obtain rfl := Option.some.inj hp
              obtain rfl : mil = mil' := Except.ok.inj (hmil.symm.trans hm)
              rfl
          · refine iff_of_false (by simp) ?_
            rintro ⟨profile', mil', r', hp, hm, hr, -⟩
            obtain rfl := Option.some.inj hp
            obtain rfl : mil = mil' := Except.ok.inj (hmil.symm.trans hm)
            exact hacc ⟨by rw [hr.1]; rfl, hr.2⟩

/-- **AUTHENTICATE.**  An accepted challenge is answered with DB and advances the sequence number;
anything else leaves the card as it was, and no other challenge is answered with DB. -/
theorem handleAuthenticate_spec (cmd : ApduCommand) (card : Card) :
    (∃ rand autn ch data, challenge cmd.data = some (rand, autn) ∧
        accepts P card.euicc rand autn = some ch ∧
        (handleAuthenticate P cmd).run card =
          (.ok (swOk (0xDB :: data)), { card with euicc := incrementActive card.euicc })) ∨
      ((∀ rand autn, challenge cmd.data = some (rand, autn) →
          accepts P card.euicc rand autn = none) ∧
        ((handleAuthenticate P cmd).run card).2 = card ∧
        ∀ r, challenge cmd.data ≠ none → ((handleAuthenticate P cmd).run card).1 = .ok r →
          r.data.head? ≠ some 0xDB) := by
  rw [handleAuthenticate, Py.run_get_bind]
  cases hactive : card.euicc.getActiveProfile with
  | none =>
      refine Or.inr ⟨?_, rfl, ?_⟩
      · intro rand autn _
        simp only [accepts, activeMilenage, hactive]
      · intro r _ hr
        obtain rfl := Except.ok.inj hr
        decide
  | some profile =>
      simp only
      by_cases hlen : cmd.data.length < 34
      · have hnone : challenge cmd.data = none := by
          unfold challenge
          rw [if_neg]
          omega
        rw [if_pos hlen, hnone]
        exact Or.inr ⟨by simp, rfl, by simp⟩
      · rw [if_neg hlen]
        cases hch : challenge cmd.data with
        | none => exact Or.inr ⟨by simp, run_authenticate2G P profile _ card, by simp⟩
        | some v =>
            obtain ⟨rand, autn⟩ := v
            simp only
            cases hacc : accepts P card.euicc rand autn with
            | some ch =>
                obtain ⟨profile', mil, r, hp, hmil, hr, -⟩ :=
                  (accepts_eq_some_iff P _ _ _ _).mp hacc
                obtain rfl : profile = profile' := Option.some.inj (hactive.symm.trans hp)
                obtain ⟨data, hrun⟩ := run_authenticate3G_accepted P hmil hr card
                exact Or.inl ⟨rand, autn, ch, data, rfl, hacc, hrun⟩
            | none =>
                have hno : ∀ mil r, milenageOf profile = .ok mil →
                    mil.authenticate P.aes rand autn profile.sqn ≠ .ok (some r) := by
                  intro mil r hmil hr
                  rw [(accepts_eq_some_iff P _ _ _ _).mpr ⟨profile, mil, r, hactive, hmil, hr, rfl⟩]
                    at hacc
                  cases hacc
                obtain ⟨hkeep, hdata⟩ := run_authenticate3G_refused P hno card
                refine Or.inr ⟨?_, hkeep, fun r _ hr => hdata r hr⟩
                rintro rand' autn' ⟨⟩
                exact hacc

theorem challenge3G_of_ok {raw : Bytes} {cmd : ApduCommand}
    (h : ApduCommand.fromBytes raw = .ok cmd) :
    challenge3G raw = if cmd.ins = 0x88 then challenge cmd.data else none := by
  rw [challenge3G, h]

theorem process_of_ok {raw : Bytes} {cmd : ApduCommand} (h : ApduCommand.fromBytes raw = .ok cmd)
    {card card' : Card} {r : ApduResponse} (hrun : (dispatch P cmd).run card = (.ok r, card')) :
    process P raw card = (r, card') := by
  simp only [process, h, hrun]

theorem process_of_error {raw : Bytes} {cmd : ApduCommand} (h : ApduCommand.fromBytes raw = .ok cmd)
    {card card' : Card} {e : PyError} (hrun : (dispatch P cmd).run card = (.error e, card')) :
    process P raw card = (swInternalError, card') := by
  simp only [process, h, hrun]

/-- **What a command does to the object.**  A command with a challenge the active profile accepts
advances the sequence number of that profile and is answered with DB; any other leaves the object
alone, and no other challenge is answered with DB. -/
theorem process_spec (raw : Bytes) (card : Card) :
    (∃ ch, acceptedBy P card.euicc raw = some ch ∧
        (process P raw card).2.euicc = incrementActive card.euicc ∧
        (process P raw card).1.data.head? = some 0xDB) ∨
      (acceptedBy P card.euicc raw = none ∧ (process P raw card).2.euicc = card.euicc ∧
        ((challenge3G raw).isSome → (process P raw card).1.data.head? ≠ some 0xDB)) := by
  cases hcmd : ApduCommand.fromBytes raw with
  | error e =>
      have hnone : challenge3G raw = none := by rw [challenge3G, hcmd]
      have hrun : process P raw card = (swWrongLength, card) := by simp only [process, hcmd]
      exact Or.inr ⟨by rw [acceptedBy, hnone]; rfl, by rw [hrun], by simp [hnone]⟩
  | ok cmd =>
      have hchallenge := challenge3G_of_ok hcmd
      by_cases hins : cmd.ins = 0x88
      · rw [if_pos hins] at hchallenge
        have hdispatch : dispatch P cmd = handleAuthenticate P cmd := by
          rw [dispatch, hins]
          rfl
        rcases handleAuthenticate_spec P cmd card with
          ⟨rand, autn, ch, data, hch, hacc, hrun⟩ | ⟨hno, hkeep, hdata⟩
        · rw [← hdispatch] at hrun
          refine Or.inl ⟨ch, ?_, ?_, ?_⟩
          · rw [acceptedBy, hchallenge, hch]
            exact hacc
          · rw [process_of_ok P hcmd hrun]
          · rw [process_of_ok P hcmd hrun]
            rfl
        · rw [← hdispatch] at hkeep hdata
          have hnone : acceptedBy P card.euicc raw = none := by
            rw [acceptedBy, hchallenge, Option.bind_eq_none_iff]
            exact fun v hv => hno v.1 v.2 hv
          cases hrun : (dispatch P cmd).run card with
          | mk result card' =>
              rw [hrun] at hkeep hdata
              obtain rfl : card' = card := hkeep
              cases result with
              | error e =>
                  rw [process_of_error P hcmd hrun]
                  exact Or.inr ⟨hnone, rfl, fun _ => by simp [swInternalError]⟩
              | ok r =>
                  rw [process_of_ok P hcmd hrun, hchallenge]
                  refine Or.inr ⟨hnone, rfl, fun hsome => ?_⟩
                  exact hdata r (Option.isSome_iff_ne_none.mp hsome) rfl
      · rw [if_neg hins] at hchallenge
        have hnone : acceptedBy P card.euicc raw = none := by
          rw [acceptedBy, hchallenge]
          rfl
        have hkeep := keepsEuicc_dispatch P hins card
        cases hrun : (dispatch P cmd).run card with
        | mk result card' =>
            rw [hrun] at hkeep
            cases result with
            | error e =>
                rw [process_of_error P hcmd hrun]
                exact Or.inr ⟨hnone, hkeep, by simp [hchallenge]⟩
            | ok r =>
                rw [process_of_ok P hcmd hrun]
                exact Or.inr ⟨hnone, hkeep, by simp [hchallenge]⟩

end Platform

end ApduHandler

end VirtualPhone
