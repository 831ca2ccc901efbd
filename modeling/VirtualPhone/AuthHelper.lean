import VirtualPhone.AkaVector
import VirtualPhone.Runtime.Py
import VirtualPhone.Runtime.Base64
import VirtualPhone.Runtime.Unicode
import VirtualPhone.Runtime.Trace

/-! # The authentication helper of the S-CSCF (`scripts/scscf_auth_helper.py`)

`generateAuthVector` reads a subscriber's record, builds a vector from the stored sequence number,
stores that number plus 32 and keeps the vector for the verification of the answer.  The handler
serves it as the value of a WWW-Authenticate header and checks Digest responses against it.

The AES and MD5 functions are parameters.  The database is part of the state; `Reach` says whether
it answers the query and the update of one call. -/

namespace VirtualPhone

open Runtime

/-- The `security` part of a subscriber's record; every field may be missing. -/
structure Security where
  k : Option Text
  opType : Option ℤ
  opValue : Option Text
  amf : Option Text
  sqn : Option ℕ
deriving DecidableEq, Repr

/-- The values of a vector, as the helper returns and caches them. -/
structure AuthVector where
  rand : Text
  autn : Text
  xres : Text
  ck : Text
  ik : Text
  nonce : Text
  realm : Text
  algorithm : Text
deriving DecidableEq, Repr

/-- The subscribers of the database and `_vector_cache`. -/
structure AuthHelper where
  subscribers : Dict Text Security
  vectorCache : Dict Text AuthVector

/-- Whether the database answers the query and the update of a call. -/
structure Reach where
  query : Bool
  update : Bool
deriving DecidableEq, Repr

/-- `hashlib.md5(s.encode()).hexdigest()`. -/
def hexdigest (md5 : Bytes → Bytes) (s : Text) : Text := hex (md5 (encodeUtf8 s))

/-- `s.lower()`, as far as a comparison with hexadecimal text can tell. -/
def lower (s : Text) : Text := s.map Char.toLower

namespace Security

def kiHex (security : Security) : Text := security.k.getD []

def opHex (security : Security) : Text := security.opValue.getD []

def amfHex (security : Security) : Text := security.amf.getD "8000".toList

def sqnVal (security : Security) : ℕ := security.sqn.getD 32

/-- The keys: OPc is computed when the record holds OP (`op_type` 0). -/
def milenage (aes : Bytes → Block → Block) (security : Security) : Except PyError Milenage := do
  let ki ← fromHex security.kiHex
  let opc ← fromHex security.opHex
  let opc ←
    if security.opType.getD 0 = 0 then do
      let _ ← Milenage.new ki (List.replicate 16 0)
      let op ← fromHex security.opHex
      Milenage.computeOpc aes ki op
    else pure opc
  Milenage.new ki opc

end Security

namespace AuthHelper

section Vectors

variable (aes : Bytes → Block → Block)

/-- The realm of a subscriber. -/
def homeRealm (imsi : Text) : Text :=
  "ims.mnc".toList ++ zfill (slice imsi 3 5) 3 ++ ".mcc".toList ++ slice imsi 0 3 ++
    ".3gppnetwork.org".toList

/-- The cached form of a vector. -/
def authVector (imsi : Text) (rand : Block) (v : NetworkVector) : AuthVector where
  rand := hex rand.1
  autn := hex v.autn
  xres := hex v.xres
  ck := hex v.ck
  ik := hex v.ik
  nonce := b64encode (rand.1 ++ v.autn)
  realm := homeRealm imsi
  algorithm := "AKAv1-MD5".toList

/-- `update_one({"imsi": imsi}, {"$set": {"security.sqn": n}})`. -/
def setSqn (imsi : Text) (n : ℕ) (helper : AuthHelper) : AuthHelper :=
  { helper with subscribers := helper.subscribers.modify imsi fun s => { s with sqn := some n } }

/-- `_vector_cache[imsi] = vector`. -/
def cache (imsi : Text) (vector : AuthVector) (helper : AuthHelper) : AuthHelper :=
  { helper with vectorCache := helper.vectorCache.set imsi vector }

/-- `get_subscriber(imsi)`. -/
def getSubscriber (reach : Reach) (imsi : Text) (helper : AuthHelper) : Option Security :=
  if reach.query then helper.subscribers.get? imsi else none

/-- `generate_auth_vector(imsi)`; `rand` is `os.urandom(16)`. -/
def generateAuthVector (rand : Block) (reach : Reach) (imsi : Text) :
    Py AuthHelper (Option AuthVector) := do
  let helper ← Py.get
  match helper.getSubscriber reach imsi with
  | none => return none
  | some security =>
      if security.kiHex = [] ∨ security.opHex = [] then return none
      else do
        let mil ← Py.lift (security.milenage aes)
        let sqn ← Py.lift (toBE security.sqnVal 6)
        let amf ← Py.lift (fromHex security.amfHex)
        let v ← Py.lift (mil.networkVector aes rand.1 sqn amf)
        -- a failed update is logged and ignored
        if reach.update then Py.modify (setSqn imsi (security.sqnVal + 32)) else pure ()
        let vector := authVector imsi rand v
        Py.modify (cache imsi vector)
        return some vector

end Vectors

/-! ### The HTTP handler -/

/-- The parameters of `GET /auth/verify`. -/
structure VerifyParams where
  imsi : Option Text
  username : Option Text
  realm : Option Text
  uri : Option Text
  nc : Option Text
  cnonce : Option Text
  qop : Option Text
  response : Option Text
deriving DecidableEq, Repr

/-- A request with its query parameters, or its decoded body. -/
inductive Request
  | health
  | vector (imsi : Option Text)
  | challenge (imsi : Option Text)
  | verify (params : VerifyParams)
  | verifyPost (imsi res : Text)
  | verifyPostInvalid
  | other
deriving DecidableEq, Repr

/-- The body of a reply. -/
inductive Body
  | status (s : Text)
  | vector (v : AuthVector)
  | success (b : Bool)
  | error (msg : Text)
  | text (t : Text)
deriving DecidableEq, Repr

/-- A reply: its status code and body. -/
structure Reply where
  code : ℕ
  body : Body
deriving DecidableEq, Repr

/-- `verify_response(imsi, res_hex)`. -/
def verifyResponse (helper : AuthHelper) (imsi resHex : Text) : Bool :=
  match helper.vectorCache.get? imsi with
  | none => false
  | some cached => lower resHex = lower cached.xres

section Digest

variable (md5 : Bytes → Bytes)

/-- The response that `verify_digest_response` expects for a cached vector. -/
def expectedResponse (cached : AuthVector) (username realm uri nc cnonce qop : Text) : Text :=
  let password := cached.xres
  let nonce := cached.nonce
  let ha1 := hexdigest md5 (username ++ ':' :: realm ++ ':' :: password)
  let ha2 := hexdigest md5 ("REGISTER:".toList ++ uri)
  if qop ≠ [] then
    hexdigest md5 (ha1 ++ ':' :: nonce ++ ':' :: nc ++ ':' :: cnonce ++ ':' :: qop ++ ':' :: ha2)
  else hexdigest md5 (ha1 ++ ':' :: nonce ++ ':' :: ha2)

/-- `verify_digest_response(...)`. -/
def verifyDigestResponse (helper : AuthHelper)
    (imsi username realm uri nc cnonce qop response : Text) : Bool :=
  match helper.vectorCache.get? imsi with
  | none => false
  | some cached =>
      lower response = lower (expectedResponse md5 cached username realm uri nc cnonce qop)

/-- The parameters of the challenge header. -/
def challengeParams (vector : AuthVector) : List Param :=
  [⟨"realm".toList, vector.realm, true⟩, ⟨"nonce".toList, vector.nonce, true⟩,
    ⟨"algorithm".toList, vector.algorithm, false⟩, ⟨"qop".toList, "auth".toList, true⟩]

/-- `Digest realm="...", nonce="...", algorithm=..., qop="auth"`. -/
def wwwAuth (vector : AuthVector) : Text := "Digest ".toList ++ renderParams (challengeParams vector)

/-- `if not imsi` for a parameter that may be missing. -/
def given (param : Option Text) : Option Text := param.filter (· ≠ [])

/-- The error for an unknown subscriber. -/
def notFound (imsi : Text) : Text := "Subscriber ".toList ++ imsi ++ " not found".toList

/-- `do_GET` and `do_POST`. -/
def handle (aes : Bytes → Block → Block) (rand : Block) (reach : Reach) :
    Request → Py AuthHelper Reply
  | .health => return ⟨200, .status "ok".toList⟩
  | .vector imsi =>
      match given imsi with
      | none => return ⟨400, .error "Missing imsi parameter".toList⟩
      | some imsi => do
          match ← generateAuthVector aes rand reach imsi with
          | some vector => return ⟨200, .vector vector⟩
          | none => return ⟨404, .error (notFound imsi)⟩
  | .challenge imsi =>
      match given imsi with
      | none => return ⟨400, .text "Missing imsi parameter".toList⟩
      | some imsi => do
          match ← generateAuthVector aes rand reach imsi with
          | some vector => return ⟨200, .text (wwwAuth vector)⟩
          | none => return ⟨404, .text (notFound imsi)⟩
  | .verify params =>
      match given params.imsi, given params.username, given params.response with
      | some imsi, some username, some response => do
          let helper ← Py.get
          let success := helper.verifyDigestResponse md5 imsi username (params.realm.getD [])
            (params.uri.getD []) (params.nc.getD []) (params.cnonce.getD []) (params.qop.getD []) response
          return ⟨200, .text (if success then "OK".toList else "FAIL".toList)⟩
      | _, _, _ => return ⟨400, .text "Missing required parameters".toList⟩
  | .verifyPost imsi res =>
      if imsi = [] ∨ res = [] then return ⟨400, .error "Missing imsi or res".toList⟩
      else do
        let helper ← Py.get
        return ⟨200, .success (helper.verifyResponse imsi res)⟩
  | .verifyPostInvalid => return ⟨400, .error "Invalid JSON".toList⟩
  | .other => return ⟨404, .error "Not found".toList⟩

end Digest

end AuthHelper

/-! ### Vectors of a well-formed record -/

/-- The record holds the keys of `mil`, a two-octet AMF and a 48-bit sequence number. -/
structure Security.Holds (aes : Bytes → Block → Block) (security : Security) (mil : Milenage)
    (amf : Bytes) (sqn : ℕ) : Prop where
  ki_eq : fromHex security.kiHex = .ok mil.ki
  ki_length : mil.ki.length = 16
  op_eq : ∃ op, fromHex security.opHex = .ok op ∧ op.length = 16 ∧
    if security.opType.getD 0 = 0 then Milenage.computeOpc aes mil.ki op = .ok mil.opc else mil.opc = op
  amf_eq : fromHex security.amfHex = .ok amf
  amf_length : amf.length = 2
  sqn_eq : security.sqnVal = sqn
  sqn_lt : sqn < 2 ^ 48

namespace Security.Holds

variable {aes : Bytes → Block → Block} {security : Security} {mil : Milenage} {amf : Bytes} {sqn : ℕ}

theorem opc_length (h : security.Holds aes mil amf sqn) : mil.opc.length = 16 := by
  obtain ⟨op, -, hlen, hop⟩ := h.op_eq
  split_ifs at hop with htype
  · obtain ⟨opc, hopc, hopclen⟩ := Milenage.computeOpc_block aes mil.ki hlen
    rw [hopc] at hop
    rw [← Except.ok.inj hop]
    exact hopclen
  · rw [hop]
    exact hlen

theorem milenage_eq (h : security.Holds aes mil amf sqn) : security.milenage aes = .ok mil := by
  obtain ⟨op, hhex, -, hop⟩ := h.op_eq
  have hnew : Milenage.new mil.ki mil.opc = .ok mil :=
    Milenage.new_of_lengths h.ki_length h.opc_length
  unfold Security.milenage
  rw [h.ki_eq, ok_bind, hhex, ok_bind]
  split_ifs at hop with htype
  · rw [if_pos htype, Milenage.new_of_lengths h.ki_length List.length_replicate, ok_bind, ok_bind, hop]
    exact hnew
  · rw [if_neg htype, ← hop]
    exact hnew

theorem kiHex_ne_nil (h : security.Holds aes mil amf sqn) : security.kiHex ≠ [] := by
  intro hnil
  have hki := h.ki_eq
  rw [hnil] at hki
  have := h.ki_length
  rw [← Except.ok.inj hki] at this
  cases this

theorem opHex_ne_nil (h : security.Holds aes mil amf sqn) : security.opHex ≠ [] := by
  obtain ⟨op, hhex, hlen, -⟩ := h.op_eq
  intro hnil
  rw [hnil] at hhex
  rw [← Except.ok.inj hhex] at hlen
  cases hlen

end Security.Holds

namespace AuthHelper

variable {aes : Bytes → Block → Block}

/-- **The vector of a well-formed record.** -/
theorem generateAuthVector_run {helper : AuthHelper} {imsi : Text} {security : Security}
    (hsub : helper.subscribers.get? imsi = some security) {mil : Milenage} {amf : Bytes} {sqn : ℕ}
    (hholds : security.Holds aes mil amf sqn) (rand : Block) {reach : Reach} (hreach : reach.query = true) :
    ∃ v, mil.networkVector aes rand.1 (beBytes sqn 6) amf = .ok v ∧ v.autn.length = 16 ∧
      (generateAuthVector aes rand reach imsi).run helper =
        (.ok (some (authVector imsi rand v)), cache imsi (authVector imsi rand v)
          (if reach.update then setSqn imsi (sqn + 32) helper else helper)) := by
  obtain ⟨v, hv, hlen⟩ := Milenage.networkVector_block aes hholds.opc_length rand.2
    (beBytes_length sqn 6) hholds.amf_length
  have hsqn : toBE security.sqnVal 6 = .ok (beBytes sqn 6) := by
    rw [hholds.sqn_eq, toBE, if_pos (by have := hholds.sqn_lt; omega)]
  refine ⟨v, hv, hlen, ?_⟩
  unfold generateAuthVector
  rw [Py.run_get_bind]
  simp only [getSubscriber, hreach, if_true, hsub]
  rw [if_neg (by simp [hholds.kiHex_ne_nil, hholds.opHex_ne_nil]), hholds.milenage_eq, hsqn,
    hholds.amf_eq]
  simp only [Py.run_bind, Py.run_lift, hv, hholds.sqn_eq]
  cases reach.update <;> rfl

/-- **Completeness and resynchronisation.**  Whatever the network builds from its sequence number
is answered by the card of the same keys: with the vector's own RES, CK and IK when the stored
number is not above it, with nothing otherwise; and AUTS gives the stored number back. -/
theorem aka_complete (aes : Bytes → Block → Block) (mil : Milenage) (hki : mil.ki.length = 16)
    (hopc : mil.opc.length = 16) :
    (∀ (helper : AuthHelper) (imsi : Text) (security : Security) (amf : Bytes) (sqn : ℕ)
        (rand : Block) (reach : Reach), helper.subscribers.get? imsi = some security →
      security.Holds aes mil amf sqn → reach.query = true →
        ∃ (v : NetworkVector) (helper' : AuthHelper),
          (generateAuthVector aes rand reach imsi).run helper =
            (.ok (some (authVector imsi rand v)), helper') ∧
            mil.Answers aes rand.1 v sqn) ∧
    (∀ (imsi : Text) (count sqnStart : ℕ) (rand : ℕ → Block),
      (∀ i < count, sqnStart + i * 32 < 2 ^ 48) →
        ∃ rows, Milenage.generateQuintuplets aes mil.ki mil.opc imsi count sqnStart rand = .ok rows ∧
          rows.length = count ∧ ∀ (i : ℕ) (row : Quintuplet), rows[i]? = some row →
            row.rand = (rand i).1 ∧
              mil.Answers aes row.rand ⟨row.autn, row.res, row.ck, row.ik⟩ (sqnStart + i * 32)) ∧
    (∀ (rand : Block) (stored : ℕ), stored < 2 ^ 48 →
      ∃ auts akStar, mil.generateAuts aes rand.1 stored = .ok auts ∧ auts.length = 14 ∧
        mil.f5star aes rand.1 = .ok akStar ∧ fromBE (xorBytes (slice auts 0 6) akStar) = stored ∧
        mil.f1star aes rand.1 (beBytes stored 6) (List.replicate 2 0) = .ok (slice auts 6 14)) := by
  refine ⟨?_, ?_, ?_⟩
  · intro helper imsi security amf sqn rand reach hsub hholds hreach
    obtain ⟨v, hv, -, hrun⟩ := generateAuthVector_run hsub hholds rand hreach
    exact ⟨v, _, hrun, Milenage.authenticate_networkVector aes hopc rand.2 hholds.amf_length
      hholds.sqn_lt hv⟩
  · intro imsi count sqnStart rand hsqn
    have hamf : ([0x80, 0x00] : Bytes).length = 2 := rfl
    have hstart : ∀ j < count, sqnStart + (0 + j) * 32 < 2 ^ 48 := by
      intro j hj
      rw [Nat.zero_add]
      exact hsqn j hj
    obtain ⟨rows, hrows, hlen, hall⟩ := Milenage.quintuplets_rows aes hopc
      ('0' :: imsi ++ "@nai.epc.mnc".toList ++ zfill (slice imsi 3 5) 3 ++ ".mcc".toList ++
        slice imsi 0 3 ++ ".3gppnetwork.org".toList)
      hamf rand 0 count hstart
    refine ⟨rows, ?_, hlen, ?_⟩
    · rw [Milenage.generateQuintuplets, Milenage.new_of_lengths hki hopc, ok_bind]
      exact hrows
    · intro i row hrow
      have := hall i row hrow
      rwa [Nat.zero_add] at this
  · intro rand stored hstored
    exact Milenage.generateAuts_recovers aes hopc rand.2 hstored

/-- The record of the examples: OP and Ki are zero octets, the AMF and the sequence number are the
defaults. -/
def zeroSecurity : Security where
  k := some (List.replicate 32 '0')
  opType := some 0
  opValue := some (List.replicate 32 '0')
  amf := none
  sqn := none

/-- The keys of that record under a cipher that changes nothing. -/
def zeroKeys : Milenage := ⟨List.replicate 16 0, List.replicate 16 0⟩

theorem zeroSecurity_holds : zeroSecurity.Holds (fun _ b => b) zeroKeys [0x80, 0x00] 32 where
  ki_eq := by decide +kernel
  ki_length := rfl
  op_eq := ⟨List.replicate 16 0, by decide +kernel, rfl, by decide +kernel⟩
  amf_eq := by decide +kernel
  amf_length := rfl
  sqn_eq := rfl
  sqn_lt := by decide

/-- A helper with that subscriber only. -/
def zeroSubscriber : AuthHelper where
  subscribers := Dict.empty.set "001010123456789".toList zeroSecurity
  vectorCache := Dict.empty

/-- The first vector of the zero subscriber is answered up to number 32. -/
theorem aka_complete_zero :
    ∃ (v : NetworkVector) (helper' : AuthHelper),
      (generateAuthVector (fun _ b => b) ⟨List.replicate 16 7, rfl⟩ ⟨true, true⟩
          "001010123456789".toList).run zeroSubscriber =
        (.ok (some (authVector "001010123456789".toList ⟨List.replicate 16 7, rfl⟩ v)), helper') ∧
      zeroKeys.Answers (fun _ b => b) (List.replicate 16 7) v 32 :=
  (aka_complete (fun _ b => b) zeroKeys rfl rfl).1 zeroSubscriber _ _ [0x80, 0x00] 32 _ ⟨true, true⟩ rfl
    zeroSecurity_holds rfl

end AuthHelper

end VirtualPhone
