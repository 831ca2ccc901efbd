import VirtualPhone.EapPacket
import VirtualPhone.Milenage
import VirtualPhone.Runtime.Py
import VirtualPhone.Runtime.Unicode

/-! # EAP-AKA sessions (`euicc/crypto/eap_aka.py`)

`EAPAKASession`: the answer of the UE to a challenge.  The challenge is authenticated with Milenage, the
keys of the session are derived, for EAP-AKA or EAP-AKA', and the response carries RES and a MAC over
its own octets.  The hash functions are a parameter with the lengths of their digests.

`serialize` puts two reserved octets behind the type and the length of every attribute, and
`_make_challenge_response` puts two more in front of the MAC, and the bit length in front of RES.
`layout_disagrees`: of no accepted challenge is the response read with the MAC and the RES where
`process_challenge`, reading a MAC itself, and a length of RES behind the header would have them. -/

namespace VirtualPhone

open Runtime

/-- `ATType`, the attribute types a session reads or writes. -/
inductive ATType
  | atRand
  | atAutn
  | atRes
  | atAuts
  | atMac
  | atClientErrorCode
deriving DecidableEq, Repr

/-- The octet of an attribute type. -/
def ATType.value : ATType → ℕ
  | atRand => 1
  | atAutn => 2
  | atRes => 3
  | atAuts => 4
  | atMac => 11
  | atClientErrorCode => 22

/-- The hash functions: SHA-1, and HMAC with SHA-1 and with SHA-256. -/
structure HashLibrary where
  sha1 : Bytes → { d : Bytes // d.length = 20 }
  hmacSha1 : Bytes → Bytes → { d : Bytes // d.length = 20 }
  hmacSha256 : Bytes → Bytes → { d : Bytes // d.length = 32 }

/-- `EAPAKASession`. -/
structure EAPAKASession where
  make ::
  milenage : Milenage
  imsi : Text
  sqn : ℕ := 0
  useAkaPrime : Bool := false
  networkName : Text := []
  mk : Option Bytes := none
  kAut : Option Bytes := none
  kEncr : Option Bytes := none
  msk : Option Bytes := none
  emsk : Option Bytes := none
  ck : Option Bytes := none
  ik : Option Bytes := none
  res : Option Bytes := none
deriving DecidableEq

namespace EAPAKASession

/-- `EAPAKASession(ki, opc, imsi, sqn, use_aka_prime, network_name)`. -/
def new (ki opc : Bytes) (imsi : Text) (sqn : ℕ := 0) (useAkaPrime : Bool := false)
    (networkName : Text := []) : Except PyError EAPAKASession := do
  let milenage ← Milenage.new ki opc
  return { milenage, imsi, sqn, useAkaPrime, networkName }

/-- An attribute of the session that may not be set yet. -/
def field (x : Option Bytes) : Except PyError Bytes :=
  match x with
  | some d => .ok d
  | none => .error .typeError

/-! ### Key derivation -/

/-- The loop of `_prf_plus` and `_prf_prime_plus`, for an HMAC `mac` under the key.  A turn adds at
least an octet, so `outputLen` turns are enough. -/
def prfLoop (mac : Bytes → Bytes) (outputLen : ℕ) : ℕ → Bytes → Bytes → ℕ → Except PyError Bytes
  | 0, result, _, _ => .ok result
  | turns + 1, result, prev, counter =>
      if result.length < outputLen then do
        let octet ← mkByte counter
        let prev := mac (prev ++ [octet])
        prfLoop mac outputLen turns (result ++ prev) prev (counter + 1)
      else .ok result

section Hashes

variable (h : HashLibrary)

/-- `_prf_plus(key, output_len)`. -/
def prfPlus (key : Bytes) (outputLen : ℕ) : Except PyError Bytes := do
  return (← prfLoop (fun d => (h.hmacSha1 key d).1) outputLen outputLen [] [] 1).take outputLen

/-- `_prf_prime_plus(key, output_len)`. -/
def prfPrimePlus (key : Bytes) (outputLen : ℕ) : Except PyError Bytes := do
  return (← prfLoop (fun d => (h.hmacSha256 key d).1) outputLen outputLen [] [] 1).take outputLen

/-- `_derive_keys_aka()`. -/
def deriveKeysAka (s : EAPAKASession) : Except PyError EAPAKASession := do
  let identity := encodeUtf8 ('0' :: s.imsi)
  let mkInput := identity ++ (← field s.ik) ++ (← field s.ck)
  let mk := (h.sha1 mkInput).1
  let prk ← prfPlus h mk 160
  return { s with
    mk := some mk
    kEncr := some (slice prk 0 16)
    kAut := some (slice prk 16 32)
    msk := some (slice prk 32 96)
    emsk := some (slice prk 96 160) }

/-- `_derive_keys_aka_prime(rand)`. -/
def deriveKeysAkaPrime (s : EAPAKASession) (rand : Bytes) : Except PyError EAPAKASession := do
  let kdfInput := (← field s.ck) ++ (← field s.ik)
  let networkName := if s.networkName ≠ [] then encodeUtf8 s.networkName else encodeUtf8 "WLAN".toList
  let kdfS := [0x20] ++ networkName ++ (← packBE networkName.length 2) ++ rand ++ (← packBE rand.length 2)
  let derived := (h.hmacSha256 kdfInput kdfS).1
  let ckPrime := slice derived 0 16
  let ikPrime := slice derived 16 32
  let identity := encodeUtf8 ('6' :: s.imsi)
  let mkInput := ikPrime ++ ckPrime
  let mkStr := encodeUtf8 "EAP-AKA'".toList ++ identity
  let mk := (h.hmacSha256 mkInput mkStr).1
  let prk ← prfPrimePlus h mk 208
  return { s with
    mk := some mk
    kEncr := some (slice prk 0 16)
    kAut := some (slice prk 16 48)
    msk := some (slice prk 64 128)
    emsk := some (slice prk 128 192) }

/-- `_compute_mac(data)`. -/
def computeMac (s : EAPAKASession) (data : Bytes) : Except PyError Bytes := do
  let kAut ← field s.kAut
  if s.useAkaPrime then return (h.hmacSha256 kAut data).1.take 16
  else return (h.hmacSha1 kAut data).1.take 16

/-! ### Responses -/

/-- The EAP type of the session. -/
def eapType (s : EAPAKASession) : EAPType := if s.useAkaPrime then .akaPrime else .aka

/-- The packet with the attributes of a challenge response, for a value of AT_MAC. -/
def challengePacket (s : EAPAKASession) (identifier : ℕ) (atResValue atMacValue : Bytes) : EAPPacket where
  code := .response
  identifier := identifier
  eapType := some s.eapType
  subtype := some .challenge
  attributes := Dict.ofList [(ATType.atRes.value, atResValue), (ATType.atMac.value, atMacValue)]

/-- `_make_challenge_response(identifier)`. -/
def makeChallengeResponse (s : EAPAKASession) (identifier : ℕ) : Except PyError EAPPacket := do
  let res ← field s.res
  let resBits := res.length * 8
  let atResValue := (← packBE resBits 2) ++ res
  -- the placeholder of the MAC: two reserved octets and sixteen
  let atMacValue := List.replicate 18 0
  let pkt := s.challengePacket identifier atResValue atMacValue
  if s.kAut.getD [] ≠ [] then do
    let raw ← pkt.serialize
    let mac ← s.computeMac h raw
    return { pkt with attributes := pkt.attributes.set ATType.atMac.value ([0, 0] ++ mac) }
  else return pkt

/-- `_make_sync_failure(identifier, auts)`. -/
def makeSyncFailure (s : EAPAKASession) (identifier : ℕ) (auts : Bytes) : EAPPacket where
  code := .response
  identifier := identifier
  eapType := some s.eapType
  subtype := some .synchronizationFailure
  attributes := Dict.ofList [(ATType.atAuts.value, auts)]

/-- `_make_client_error(identifier)`. -/
def makeClientError (s : EAPAKASession) (identifier : ℕ) : EAPPacket where
  code := .response
  identifier := identifier
  eapType := some s.eapType
  subtype := some .clientError
  attributes := Dict.ofList [(ATType.atClientErrorCode.value, [0, 0])]

/-- `process_challenge(packet)`.  The MAC of the challenge is computed and not compared. -/
def processChallenge (aes : Bytes → Block → Block) (packet : EAPPacket) : Py EAPAKASession EAPPacket := do
  let s ← Py.get
  match packet.attributes.get? ATType.atRand.value, packet.attributes.get? ATType.atAutn.value with
  | some rand, some autn => do
      let rand := rand.take 16
      let autn := autn.take 16
      match ← Py.lift (s.milenage.authenticate aes rand autn s.sqn) with
      | none => do
          let auts ← Py.lift (s.milenage.generateAuts aes rand s.sqn)
          return s.makeSyncFailure packet.identifier auts
      | some (res, ck, ik) => do
          Py.modify fun s => { s with res := some res, ck := some ck, ik := some ik }
          let s ← Py.get
          let s ← Py.lift (if s.useAkaPrime then s.deriveKeysAkaPrime h rand else s.deriveKeysAka h)
          Py.modify fun _ => s
          let macReceived := ((packet.attributes.get? ATType.atMac.value).getD []).take 16
          if s.kAut.getD [] ≠ [] ∧ macReceived ≠ [] then do
            let verifyData ← Py.lift packet.serialize
            let _ ← Py.lift (s.computeMac h verifyData)
          Py.lift (s.makeChallengeResponse h packet.identifier)
  | _, _ => return s.makeClientError packet.identifier

/-! ### The layout of a response -/

/-- The first 16 octets of the AT_MAC value that is read back are the MAC over the octets of the packet
with the AT_MAC value zeroed. -/
def MacAgrees (s : EAPAKASession) (pkt : EAPPacket) : Prop :=
  ∃ data q value raw, pkt.serialize = .ok data ∧ (∃ fuel, EAPPacket.parse fuel data = some (.ok q)) ∧
    q.attributes.get? ATType.atMac.value = some value ∧
    EAPPacket.serialize { q with
      attributes := q.attributes.set ATType.atMac.value (List.replicate value.length 0) } = .ok raw ∧
    s.computeMac h raw = .ok (value.take 16)

/-- Behind the type and length octets of AT_RES stand the length of RES in bits and RES. -/
def ResAgrees (res : Bytes) (pkt : EAPPacket) : Prop :=
  ∃ data p, pkt.serialize = .ok data ∧ EAPPacket.AttributeAt data p ∧
    (data.getD p 0).toNat = ATType.atRes.value ∧
    slice data (p + 2) (p + 2 + (2 + res.length)) = beBytes (res.length * 8) 2 ++ res

end Hashes

/-! ### RES -/

theorem res_length {aes : Bytes → Block → Block} {m : Milenage} (hopc : m.opc.length = 16)
    {rand autn res ck ik : Bytes} {sqn : ℕ} (h : m.authenticate aes rand autn sqn = .ok (some (res, ck, ik))) :
    res.length = 8 := by
  unfold Milenage.authenticate at h
  split_ifs at h with hlen
  obtain ⟨hrand, -⟩ := not_or.mp hlen
  obtain ⟨⟨res', ck', ik', ak⟩, hf, h⟩ := bind_eq_ok h
  obtain ⟨mac, -, h⟩ := bind_eq_ok h
  have hres : res' = res := by
    split_ifs at h
    · cases h
    · cases h
    · exact (Prod.mk.inj (Option.some.inj (Except.ok.inj h))).1
  obtain ⟨temp, htemp, hf⟩ := bind_eq_ok hf
  obtain ⟨out, hout, hf⟩ := bind_eq_ok hf
  obtain ⟨_, -, hf⟩ := bind_eq_ok hf
  obtain ⟨_, -, hf⟩ := bind_eq_ok hf
  have hslice : slice out 8 16 = res' := (Prod.mk.inj (Except.ok.inj hf)).1
  obtain ⟨temp', htemp', htempLen⟩ := Milenage.temp_block aes hopc (not_not.mp hrand)
  obtain rfl : temp = temp' := Except.ok.inj (htemp.symm.trans htemp')
  obtain ⟨out', hout', houtLen⟩ := Milenage.output_block aes hopc htempLen 1
  obtain rfl : out = out' := Except.ok.inj (hout.symm.trans hout')
  rw [← hres, ← hslice, slice_length, houtLen]
  rfl

/-- What is returned where there is a key for the MAC: RES with its bit length, and the MAC of the packet
with its place filled with zeros. -/
theorem makeChallengeResponse_eq {h : HashLibrary} {s : EAPAKASession} {identifier : ℕ} {res : Bytes}
    (hres : s.res = some res) (haut : s.kAut.getD [] ≠ []) {response : EAPPacket}
    (hmake : s.makeChallengeResponse h identifier = .ok response) :
    ∃ raw mac, (s.challengePacket identifier (beBytes (res.length * 8) 2 ++ res)
        (List.replicate 18 0)).serialize = .ok raw ∧
      s.computeMac h raw = .ok mac ∧ mac.length = 16 ∧
      response = s.challengePacket identifier (beBytes (res.length * 8) 2 ++ res) ([0, 0] ++ mac) := by
  unfold makeChallengeResponse at hmake
  obtain ⟨res', hfield, hmake⟩ := bind_eq_ok hmake
  rw [hres] at hfield
  obtain rfl := Except.ok.inj hfield
  obtain ⟨bits, hbits, hmake⟩ := bind_eq_ok hmake
  obtain ⟨-, rfl⟩ := packBE_eq_ok hbits
  rw [if_pos haut] at hmake
  obtain ⟨raw, hraw, hmake⟩ := bind_eq_ok hmake
  obtain ⟨mac, hmac, hmake⟩ := bind_eq_ok hmake
  have hlen : mac.length = 16 := by
    obtain ⟨kAut, -, hcompute⟩ := bind_eq_ok hmac
    split_ifs at hcompute
    · rw [← Except.ok.inj hcompute, List.length_take, (h.hmacSha256 kAut raw).2]
      rfl
    · rw [← Except.ok.inj hcompute, List.length_take, (h.hmacSha1 kAut raw).2]
      rfl
  exact ⟨raw, mac, hraw, hmac, hlen, (Except.ok.inj hmake).symm⟩

theorem identifier_lt {p : EAPPacket} (hcode : p.code = .response) {d : Bytes} (hd : p.serialize = .ok d) :
    p.identifier < 256 := by
  unfold EAPPacket.serialize at hd
  rw [hcode, if_neg (by decide)] at hd
  obtain ⟨_, -, hd⟩ := bind_eq_ok hd
  obtain ⟨_, -, hd⟩ := bind_eq_ok hd
  obtain ⟨_, hid, -⟩ := bind_eq_ok hd
  exact (packBE_eq_ok hid).1

theorem challengePacket_entries (s : EAPAKASession) (identifier : ℕ) (atResValue atMacValue : Bytes) :
    (s.challengePacket identifier atResValue atMacValue).attributes.entries =
      [(3, atResValue), (11, atMacValue)] := rfl

/-- A challenge response whose octets are asked for can be written. -/
theorem challengePacket_sendable {s : EAPAKASession} {identifier : ℕ} (hid : identifier < 256)
    {atResValue atMacValue : Bytes} (hres : atResValue.length ≤ 100) (hmac : atMacValue.length ≤ 100) :
    (s.challengePacket identifier atResValue atMacValue).Sendable where
  code := Or.inr rfl
  identifier := hid
  eapType := by simp [challengePacket]
  subtype := by simp [challengePacket]
  attributes := by
    rw [challengePacket_entries]
    intro e he
    rcases List.mem_pair.mp he with rfl | rfl
    · exact ⟨show 3 < 256 by decide, show atResValue.length ≤ 1016 by omega⟩
    · exact ⟨show 11 < 256 by decide, show atMacValue.length ≤ 1016 by omega⟩
  total := by
    have hresPad := EAPPacket.paddedLen_spec atResValue.length
    have hmacPad := EAPPacket.paddedLen_spec atMacValue.length
    rw [challengePacket_entries]
    simp only [List.map_cons, List.map_nil, List.sum_cons, List.sum_nil]
    omega

/-- **RES is two octets off**: between the header of AT_RES and the bit length stand the reserved octets
that `serialize` writes. -/
theorem not_resAgrees {s : EAPAKASession} {identifier : ℕ} {res atMacValue : Bytes}
    (hres : res.length = 8) (hmac : atMacValue.length = 18) :
    ¬ResAgrees res (s.challengePacket identifier (beBytes (res.length * 8) 2 ++ res) atMacValue) := by
  rintro ⟨data, p, hdata, hp, htype, hslice⟩
  have hid := identifier_lt rfl hdata
  have hlen : (beBytes (res.length * 8) 2 ++ res).length = 10 := by
    rw [List.length_append, beBytes_length, hres]
  have hsend : (s.challengePacket identifier (beBytes (res.length * 8) 2 ++ res) atMacValue).Sendable :=
    challengePacket_sendable hid (by omega) (by omega)
  obtain ⟨e, he, hread, hvalue⟩ := hp.octets hsend hdata
  rw [hread] at htype
  have hkey : e.2 = beBytes (res.length * 8) 2 ++ res := by
    rw [challengePacket_entries] at he
    rcases List.mem_pair.mp he with rfl | rfl
    · rfl
    · exact absurd (show 11 = 3 from htype) (by decide)
  have hget : ∀ {b : ℕ}, p + 4 ≤ b → (slice data (p + 2) b)[1]? = data[p + 3]? := by
    intro b hb
    rw [slice, List.getElem?_take, if_pos (by omega), List.getElem?_drop]
  -- one octet is the second reserved one, and the low one of the bit length
  have hreserved : data[p + 3]? = some 0 := by
    rw [← hget (show p + 4 ≤ p + EAPPacket.paddedLen e.2.length by
      have := (EAPPacket.paddedLen_spec e.2.length).2.1; omega), hvalue]
    rfl
  have hbits : data[p + 3]? = some 64 := by
    rw [← hget (show p + 4 ≤ p + 2 + (2 + res.length) by omega), hslice, hres]
    rfl
  rw [hreserved] at hbits
  exact absurd hbits (by decide)

/-! ### The MAC -/

/-- The loop of the key derivation ends with as many octets as asked for. -/
theorem prfLoop_length {mac : Bytes → Bytes} (hmac : ∀ d, 0 < (mac d).length) {outputLen turns : ℕ}
    {result prev r : Bytes} {counter : ℕ} (hroom : outputLen ≤ result.length + turns)
    (h : prfLoop mac outputLen turns result prev counter = .ok r) : outputLen ≤ r.length := by
  induction turns generalizing result prev counter with
  | zero =>
      rw [← Except.ok.inj h]
      omega
  | succ turns ih =>
      rw [prfLoop] at h
      split_ifs at h with hshort
      · obtain ⟨octet, -, h⟩ := bind_eq_ok h
        refine ih ?_ h
        have := hmac (prev ++ [octet])
        rw [List.length_append]
        omega
      · rw [← Except.ok.inj h]
        omega

theorem slice_ne_nil {d : Bytes} {a b : ℕ} (hab : a < b) (hd : a < d.length) : slice d a b ≠ [] := by
  have hlen := slice_length d a b
  intro h
  rw [h, List.length_nil] at hlen
  omega

/-- A session whose keys are derived has the key of the MAC, and keeps RES and its kind. -/
theorem deriveKeys_kAut {h : HashLibrary} {s s' : EAPAKASession} {rand : Bytes}
    (hkeys : (if s.useAkaPrime then s.deriveKeysAkaPrime h rand else s.deriveKeysAka h) = .ok s') :
    s'.kAut.getD [] ≠ [] ∧ s'.res = s.res := by
  split_ifs at hkeys with hprime
  · obtain ⟨_, -, hkeys⟩ := bind_eq_ok hkeys
    obtain ⟨_, -, hkeys⟩ := bind_eq_ok hkeys
    obtain ⟨_, -, hkeys⟩ := bind_eq_ok hkeys
    obtain ⟨_, -, hkeys⟩ := bind_eq_ok hkeys
    obtain ⟨prk, hprk, hkeys⟩ := bind_eq_ok hkeys
    obtain ⟨long, hloop, hprk⟩ := bind_eq_ok hprk
    have hlen := prfLoop_length (fun d => by rw [(h.hmacSha256 _ d).2]; decide) (Nat.le_add_left _ _) hloop
    rw [← Except.ok.inj hkeys, ← Except.ok.inj hprk]
    refine ⟨slice_ne_nil (by decide) ?_, rfl⟩
    rw [List.length_take]
    omega
  · obtain ⟨_, -, hkeys⟩ := bind_eq_ok hkeys
    obtain ⟨_, -, hkeys⟩ := bind_eq_ok hkeys
    obtain ⟨prk, hprk, hkeys⟩ := bind_eq_ok hkeys
    obtain ⟨long, hloop, hprk⟩ := bind_eq_ok hprk
    have hlen := prfLoop_length (fun d => by rw [(h.hmacSha1 _ d).2]; decide) (Nat.le_add_left _ _) hloop
    rw [← Except.ok.inj hkeys, ← Except.ok.inj hprk]
    refine ⟨slice_ne_nil (by decide) ?_, rfl⟩
    rw [List.length_take]
    omega

/-- A text that is the same after two zeros were put in front of it is all zeros. -/
theorem eq_zeros_of_shifted {mac : Bytes} (h : [0, 0] ++ mac.take (mac.length - 2) = mac) :
    mac = List.replicate mac.length 0 := by
  refine List.eq_replicate_iff.mpr ⟨rfl, fun b hb => ?_⟩
  obtain ⟨i, hi, rfl⟩ := List.getElem_of_mem hb
  induction i using Nat.strong_induction_on with
  | _ i ih =>
      have hget := congrArg (fun d : Bytes => d[i]?) h
      rw [List.getElem?_eq_getElem hi] at hget
      match i, hi, ih, hget with
      | 0, _, _, hget => exact (Option.some.inj hget).symm
      | 1, _, _, hget => exact (Option.some.inj hget).symm
      | i + 2, hi, ih, hget =>
          have hback : mac[i]? = some (mac[i + 2]) := by
            rw [← hget]
            change _ = (List.take _ mac)[i]?
            rw [List.getElem?_take, if_pos (by omega)]
          rw [List.getElem?_eq_getElem (show i < mac.length by omega)] at hback
          rw [← Option.some.inj hback]
          exact ih i (by omega) (by omega) (List.getElem_mem _)

theorem challengePacket_padded (s : EAPAKASession) (identifier : ℕ) (atResValue atMacValue : Bytes) :
    (s.challengePacket identifier atResValue atMacValue).padded =
      s.challengePacket identifier (EAPPacket.valuePadded atResValue) (EAPPacket.valuePadded atMacValue) :=
  rfl

/-- **The MAC is two octets off**: the value that is read back begins with the two octets that are put in
front of the MAC, and `[:16]` of it is the MAC only if the MAC is all zeros. -/
theorem macAgrees_iff {h : HashLibrary} {s : EAPAKASession} {identifier : ℕ} (hid : identifier < 256)
    {atResValue mac raw : Bytes} (hres : atResValue.length ≤ 100) (hlen : mac.length = 16)
    (hraw : (s.challengePacket identifier atResValue (List.replicate 18 0)).serialize = .ok raw)
    (hmac : s.computeMac h raw = .ok mac) :
    s.MacAgrees h (s.challengePacket identifier atResValue ([0, 0] ++ mac)) ↔
      mac = List.replicate 16 0 := by
  have hmacLen : ([0, 0] ++ mac).length = 18 := by simp [hlen]
  obtain ⟨data, hdata, fuel, hparse⟩ := EAPPacket.parse_serialize_padded
    (challengePacket_sendable (s := s) hid hres (show ([0, 0] ++ mac).length ≤ 100 by omega))
  rw [challengePacket_padded] at hparse
  have hvalue : EAPPacket.valuePadded ([0, 0] ++ mac) = [0, 0] ++ (mac ++ [0, 0]) := by
    rw [EAPPacket.valuePadded, hmacLen, List.append_assoc]
    rfl
  have htake : (EAPPacket.valuePadded ([0, 0] ++ mac)).take 16 = [0, 0] ++ mac.take (mac.length - 2) := by
    rw [hvalue, hlen, List.take_append, List.take_append_of_le_length (by simp; omega)]
    rfl
  have hzeroed : EAPPacket.serialize (s.challengePacket identifier (EAPPacket.valuePadded atResValue)
      (List.replicate (EAPPacket.valuePadded ([0, 0] ++ mac)).length 0)) = .ok raw := by
    have hzeros : List.replicate (EAPPacket.valuePadded ([0, 0] ++ mac)).length (0 : UInt8) =
        EAPPacket.valuePadded (List.replicate 18 0) := by
      rw [EAPPacket.valuePadded_length, hmacLen]
      rfl
    rw [hzeros, ← challengePacket_padded, EAPPacket.serialize_padded, hraw]
  constructor
  · rintro ⟨data', q, value, raw', hdata', ⟨fuel', hparse'⟩, hget, hraw', hread⟩
    obtain rfl : data = data' := Except.ok.inj (hdata.symm.trans hdata')
    obtain rfl := Except.ok.inj (EAPPacket.parse_unique hparse hparse')
    obtain rfl := Option.some.inj (hget.symm.trans (rfl : _ = some _))
    obtain rfl : raw = raw' := Except.ok.inj (hzeroed.symm.trans hraw')
    rw [htake] at hread
    have hshift := Except.ok.inj (hread.symm.trans hmac)
    rw [eq_zeros_of_shifted hshift, hlen]
  · intro hzero
    refine ⟨data, _, _, raw, hdata, ⟨fuel, hparse⟩, rfl, hzeroed, ?_⟩
    rw [htake, hmac, hzero]
    rfl

/-! ### Every accepted challenge -/

/-- The response to an accepted challenge is made by a session with RES and the keys. -/
theorem processChallenge_accepted {h : HashLibrary} {aes : Bytes → Block → Block} {s s' : EAPAKASession}
    {packet response : EAPPacket} {rand autn res ck ik : Bytes}
    (hrand : packet.attributes.get? ATType.atRand.value = some rand)
    (hautn : packet.attributes.get? ATType.atAutn.value = some autn)
    (haccept : s.milenage.authenticate aes (rand.take 16) (autn.take 16) s.sqn = .ok (some (res, ck, ik)))
    (hrun : (processChallenge h aes packet).run s = (.ok response, s')) :
    s'.res = some res ∧ s'.kAut.getD [] ≠ [] ∧
      s'.makeChallengeResponse h packet.identifier = .ok response := by
  unfold processChallenge at hrun
  rw [Py.run_get_bind, hrand, hautn] at hrun
  dsimp only at hrun
  rw [haccept, Py.run_lift_ok_bind] at hrun
  dsimp only at hrun
  rw [Py.run_modify_bind, Py.run_get_bind] at hrun
  generalize hs₁ : ({ s with res := some res, ck := some ck, ik := some ik } : EAPAKASession) = s₁ at hrun
  have hres₁ : s₁.res = some res := by rw [← hs₁]
  cases hkeys : (if s₁.useAkaPrime then s₁.deriveKeysAkaPrime h (rand.take 16) else s₁.deriveKeysAka h) with
  | error e =>
      rw [hkeys, Py.run_lift_error_bind] at hrun
      cases hrun
  | ok s₂ =>
      obtain ⟨haut, hres₂⟩ := deriveKeys_kAut hkeys
      rw [hkeys, Py.run_lift_ok_bind, Py.run_modify_bind] at hrun
      have hmake : (Py.lift (s₂.makeChallengeResponse h packet.identifier)).run s₂ = (.ok response, s') := by
        split_ifs at hrun with hverify
        · cases hserialize : packet.serialize with
          | error e =>
              rw [hserialize] at hrun
              cases hrun
          | ok verifyData =>
              rw [hserialize, Py.run_lift_ok_bind] at hrun
              cases hcompute : s₂.computeMac h verifyData with
              | error e =>
                  rw [hcompute] at hrun
                  cases hrun
              | ok mac =>
                  rw [hcompute] at hrun
                  exact hrun
        · exact hrun
      rw [Py.run_lift] at hmake
      obtain ⟨hresponse, rfl⟩ := Prod.mk.inj hmake
      exact ⟨hres₂.trans hres₁, haut, hresponse⟩

/-- **No response is laid out as it is read.**  For every accepted challenge, in EAP-AKA and EAP-AKA',
the response that comes back does not have the MAC and RES where they are looked for: RES never, and the
MAC only where it is all zeros. -/
theorem layout_disagrees {h : HashLibrary} {aes : Bytes → Block → Block} {s : EAPAKASession} {ki opc : Bytes}
    (hnew : Milenage.new ki opc = .ok s.milenage) {packet : EAPPacket} {rand autn res ck ik : Bytes}
    (hrand : packet.attributes.get? ATType.atRand.value = some rand)
    (hautn : packet.attributes.get? ATType.atAutn.value = some autn)
    (haccept : s.milenage.authenticate aes (rand.take 16) (autn.take 16) s.sqn = .ok (some (res, ck, ik))) :
    (¬∃ response s', (processChallenge h aes packet).run s = (.ok response, s') ∧
        s'.MacAgrees h response ∧ ResAgrees res response) ∧
      ∀ response s', (processChallenge h aes packet).run s = (.ok response, s') →
        ¬ResAgrees res response ∧ ∃ raw mac,
          (s'.challengePacket packet.identifier (beBytes (res.length * 8) 2 ++ res)
            (List.replicate 18 0)).serialize = .ok raw ∧
          s'.computeMac h raw = .ok mac ∧ (s'.MacAgrees h response ↔ mac = List.replicate 16 0) := by
  have hopc : s.milenage.opc.length = 16 := by
    unfold Milenage.new at hnew
    split_ifs at hnew with hki hopc
    rw [← Except.ok.inj hnew]
    exact not_not.mp hopc
  have hresponse : ∀ response s', (processChallenge h aes packet).run s = (.ok response, s') →
      ¬ResAgrees res response ∧ ∃ raw mac,
        (s'.challengePacket packet.identifier (beBytes (res.length * 8) 2 ++ res)
          (List.replicate 18 0)).serialize = .ok raw ∧
        s'.computeMac h raw = .ok mac ∧ (s'.MacAgrees h response ↔ mac = List.replicate 16 0) := by
    intro response s' hrun
    obtain ⟨hres, haut, hmake⟩ := processChallenge_accepted hrand hautn haccept hrun
    obtain ⟨raw, mac, hraw, hmac, hlen, rfl⟩ := makeChallengeResponse_eq hres haut hmake
    have height := res_length hopc haccept
    have hshort : (beBytes (res.length * 8) 2 ++ res).length ≤ 100 := by
      rw [List.length_append, beBytes_length]
      omega
    refine ⟨not_resAgrees height (by simp [hlen]), raw, mac, hraw, hmac, ?_⟩
    exact macAgrees_iff (identifier_lt rfl hraw) hshort hlen hraw hmac
  refine ⟨?_, hresponse⟩
  rintro ⟨response, s', hrun, -, hagrees⟩
  exact (hresponse response s' hrun).1 hagrees

/-- The blocks of AES under the key of test set 1 of TS 35.206, for its challenge. -/
def testCipher (_ : Bytes) (b : Block) : Block :=
  let blocks : List (ℕ × ℕ) := [
    (0xee36f7cf037d37d3692f7f0399e7949a, 0x9e2980c59739da67b136355e3cede6a2),
    (0x2917ad5b169e487183ce4aff1fa0c055, 0x87fc31b2c19530fd496a36d0f3485a46),
    (0x534a4bb402734529f993ac100b4dcd0c, 0x670b5715163a3350ede7889bd41a7b10),
    (0x02734529f993ac100b4dcd0d534a4bb6, 0x796862d250c1b54bf35540c985bbd364),
    (0xf993ac100b4dcd0d534a4bb40273452d, 0x3a0a77a6c44ed94a5ad3eb3f2bcd1fee),
    (0x0b4dcd0d534a4bb402734529f993ac18, 0x887d409d3171e7aeb1e55195635d0a6e)]
  ⟨beBytes ((blocks.find? fun e => b.1 = beBytes e.1 16).elim 0 Prod.snd) 16, beBytes_length _ _⟩

/-- Hash functions with constant digests. -/
def constantHashes : HashLibrary where
  sha1 _ := ⟨List.replicate 20 1, rfl⟩
  hmacSha1 _ _ := ⟨List.replicate 20 2, rfl⟩
  hmacSha256 _ _ := ⟨List.replicate 32 3, rfl⟩

/-- A session with the keys of test set 1. -/
def testSession : EAPAKASession where
  milenage := ⟨beBytes 0x465b5ce8b199b49faa5f0a2ee238a6bc 16, beBytes 0xcd63cb71954a9f4e48a5994e37a02baf 16⟩
  imsi := "001010123456789".toList

/-- The challenge of test set 1. -/
def testChallenge : EAPPacket where
  code := .request
  identifier := 1
  eapType := some .aka
  subtype := some .challenge
  attributes := Dict.ofList [
    (ATType.atRand.value, beBytes 0x23553cbe9637a89d218ae64dae47bf35 16),
    (ATType.atAutn.value, beBytes 0x55f328b43577b9b94a9ffac354dfafb3 16)]

theorem testChallenge_accepted : testSession.milenage.authenticate testCipher
    ((beBytes 0x23553cbe9637a89d218ae64dae47bf35 16).take 16)
    ((beBytes 0x55f328b43577b9b94a9ffac354dfafb3 16).take 16) testSession.sqn =
      .ok (some (beBytes 0xa54211d5e3ba50bf 8, beBytes 0xb40ba9a3c58b2a05bbf0d987b21bf8cb 16,
        beBytes 0xf769bcd751044604127672711c6d3441 16)) := by
  decide +kernel

/-- The challenge of test set 1 gets no response that is laid out as it is read. -/
theorem layout_disagrees_testChallenge :
    ¬∃ response s', (processChallenge constantHashes testCipher testChallenge).run testSession =
        (.ok response, s') ∧ s'.MacAgrees constantHashes response ∧
          ResAgrees (beBytes 0xa54211d5e3ba50bf 8) response :=
  (layout_disagrees (show Milenage.new testSession.milenage.ki testSession.milenage.opc =
    .ok testSession.milenage by decide +kernel) rfl rfl testChallenge_accepted).1

/-- The response to it does come, and its RES is not where it is looked for. -/
theorem res_misplaced :
    ∃ response s', (processChallenge constantHashes testCipher testChallenge).run testSession =
        (.ok response, s') ∧ ¬ResAgrees (beBytes 0xa54211d5e3ba50bf 8) response := by
  have hresponse : ((processChallenge constantHashes testCipher testChallenge).run testSession).1 =
      .ok (testSession.challengePacket 1 (beBytes (8 * 8) 2 ++ beBytes 0xa54211d5e3ba50bf 8)
        ([0, 0] ++ List.replicate 16 2)) := by
    decide +kernel
  cases hrun : (processChallenge constantHashes testCipher testChallenge).run testSession with
  | mk r s' =>
      rw [hrun] at hresponse
      have hres := beBytes_length 0xa54211d5e3ba50bf 8
      refine ⟨_, s', congrArg (·, s') hresponse, ?_⟩
      have hnot : ¬ResAgrees (beBytes 0xa54211d5e3ba50bf 8) (testSession.challengePacket 1
          (beBytes ((beBytes 0xa54211d5e3ba50bf 8).length * 8) 2 ++ beBytes 0xa54211d5e3ba50bf 8)
          ([0, 0] ++ List.replicate 16 2)) := not_resAgrees hres rfl
      rwa [hres] at hnot

end EAPAKASession

end VirtualPhone
