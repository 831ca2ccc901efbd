import VirtualPhone.AuthHelper

/-! # Answering a registration challenge (`ims/registration.py`, `ims/sip_client.py`)

`computeAkaResponse` reads the nonce of a WWW-Authenticate value, runs the card's side of AKA on it
and, when the challenge is accepted, advances the sequence number by one and has `buildAuthHeader`
write the Authorization value with RES as the password.

`computeAkaResponse_of_vector` says what it does with the nonce of a vector that the network built;
`readParams_wwwAuth` reads the challenge of the authentication helper, `readParams_authHeader` the
answer. -/

namespace VirtualPhone

open Runtime

/-- `IMSCredentials`, without the public identity, which is with the registration. -/
structure IMSCredentials where
  impi : Text
  homeDomain : Text
  ki : Bytes
  opc : Bytes
  sqn : ℕ
deriving DecidableEq, Repr

/-- The word in front of the parameters. -/
def digestWord : Text := "Digest ".toList

namespace SIPClient

/-- The parameters of a WWW-Authenticate value. -/
def challengeFields (wwwAuthenticate : Text) : Dict Text Text :=
  readParams (removeAll digestWord wwwAuthenticate)

/-- `f"{nc:08x}"`. -/
def ncText (nc : ℕ) : Text := zfill (Nat.toDigits 16 nc) 8

/-- The parameters of an Authorization value. -/
def authParams (username realm nonce uri response algorithm qop nc cnonce : Text) : List Param :=
  [⟨"username".toList, username, true⟩, ⟨"realm".toList, realm, true⟩, ⟨"nonce".toList, nonce, true⟩,
    ⟨"uri".toList, uri, true⟩, ⟨"response".toList, response, true⟩,
    ⟨"algorithm".toList, algorithm, false⟩] ++
  if qop = [] then []
  else [⟨"qop".toList, qop, false⟩, ⟨"nc".toList, nc, false⟩, ⟨"cnonce".toList, cnonce, true⟩]

/-- `build_auth_header(www_authenticate, method, uri, username, password, nc)`; `random` is
`os.urandom(8)`. -/
def buildAuthHeader (md5 : Bytes → Bytes) (random : Bytes)
    (wwwAuthenticate method uri username password : Text) (nc : ℕ) : Text :=
  let params := challengeFields wwwAuthenticate
  let realm := (params.get? "realm".toList).getD []
  let nonce := (params.get? "nonce".toList).getD []
  let qop := (params.get? "qop".toList).getD "auth".toList
  let algorithm := (params.get? "algorithm".toList).getD "MD5".toList
  let cnonce := hex random
  let ncStr := ncText nc
  -- the branches for AKAv1-MD5 and for other algorithms compute the same
  let ha1 := hexdigest md5 (username ++ ':' :: realm ++ ':' :: password)
  let ha2 := hexdigest md5 (method ++ ':' :: uri)
  let response :=
    if qop ≠ [] then
      hexdigest md5 (ha1 ++ ':' :: nonce ++ ':' :: ncStr ++ ':' :: cnonce ++ ':' :: qop ++ ':' :: ha2)
    else hexdigest md5 (ha1 ++ ':' :: nonce ++ ':' :: ha2)
  digestWord ++ renderParams (authParams username realm nonce uri response algorithm qop ncStr cnonce)

end SIPClient

/-! ### The challenge header -/

namespace AuthHelper

theorem isPlain_zfill {s : Text} (h : ∀ c ∈ s, IsPlain c) (width : ℕ) :
    ∀ c ∈ zfill s width, IsPlain c := by
  have hzeros : ∀ c ∈ List.replicate (width - s.length) '0', IsPlain c := by
    intro c hc
    rw [(List.mem_replicate.mp hc).2]
    decide
  unfold zfill
  split
  · rename_i r
    intro c hc
    rcases List.mem_append.mp hc with hc | hc
    · rcases List.mem_cons.mp hc with rfl | hc
      · decide
      · exact hzeros c hc
    · exact h c (List.mem_cons_of_mem _ hc)
  · rename_i r
    intro c hc
    rcases List.mem_append.mp hc with hc | hc
    · rcases List.mem_cons.mp hc with rfl | hc
      · decide
      · exact hzeros c hc
    · exact h c (List.mem_cons_of_mem _ hc)
  · intro c hc
    rcases List.mem_append.mp hc with hc | hc
    · exact hzeros c hc
    · exact h c hc

/-- The realm of a subscriber whose IMSI consists of digits. -/
theorem isPlain_homeRealm {imsi : Text} (h : ∀ c ∈ imsi, IsDigit c) :
    ∀ c ∈ homeRealm imsi, IsPlain c := by
  have hslice : ∀ a b, ∀ c ∈ slice imsi a b, IsPlain c := fun a b c hc =>
    IsPlain.of_isDigit (h c (List.mem_of_mem_drop (List.mem_of_mem_take hc)))
  have hims : ∀ c ∈ "ims.mnc".toList, IsPlain c := forall_mem_of_all (by decide)
  have hmcc : ∀ c ∈ ".mcc".toList, IsPlain c := forall_mem_of_all (by decide)
  have hnet : ∀ c ∈ ".3gppnetwork.org".toList, IsPlain c := forall_mem_of_all (by decide)
  intro c hc
  unfold homeRealm at hc
  rcases List.mem_append.mp hc with hc | hc
  · rcases List.mem_append.mp hc with hc | hc
    · rcases List.mem_append.mp hc with hc | hc
      · rcases List.mem_append.mp hc with hc | hc
        · exact hims c hc
        · exact isPlain_zfill (hslice 3 5) 3 c hc
      · exact hmcc c hc
    · exact hslice 0 3 c hc
  · exact hnet c hc

theorem isPlain_nonce (d : Bytes) : ∀ c ∈ b64encode d, IsPlain c :=
  forall_mem_b64encode (by decide) d

theorem challengeParams_keys (vector : AuthVector) : (challengeParams vector).map Param.key =
    ["realm".toList, "nonce".toList, "algorithm".toList, "qop".toList] := rfl

variable {imsi : Text} (himsi : ∀ c ∈ imsi, IsDigit c) (rand : Block) (v : NetworkVector)

include himsi

theorem isPlain_challengeParams :
    ∀ p ∈ challengeParams (authVector imsi rand v), ∀ c ∈ p.value, IsPlain c := by
  intro p hp
  simp only [challengeParams, List.mem_cons, List.not_mem_nil, or_false] at hp
  rcases hp with rfl | rfl | rfl | rfl
  · exact isPlain_homeRealm himsi
  · exact isPlain_nonce _
  · show ∀ c ∈ "AKAv1-MD5".toList, IsPlain c
    exact forall_mem_of_all (by decide)
  · show ∀ c ∈ "auth".toList, IsPlain c
    exact forall_mem_of_all (by decide)

/-- **The challenge is read as it was written.** -/
theorem challengeFields_wwwAuth {key value : Text} {quoted : Bool}
    (hp : ⟨key, value, quoted⟩ ∈ challengeParams (authVector imsi rand v)) :
    (SIPClient.challengeFields (wwwAuth (authVector imsi rand v))).get? key = some value := by
  have hplain := isPlain_challengeParams himsi rand v
  have hkeys : ∀ p ∈ challengeParams (authVector imsi rand v), ∀ c ∈ p.key, IsPlain c ∧ c ≠ '=' := by
    intro p hp
    have hkey := List.mem_map_of_mem (f := Param.key) hp
    rw [challengeParams_keys] at hkey
    have hall : ∀ key ∈ ["realm".toList, "nonce".toList, "algorithm".toList, "qop".toList],
        ∀ c ∈ key, IsPlain c ∧ c ≠ '=' := forall_mem_mem_of_all (by decide +kernel)
    exact hall _ hkey
  -- no blank follows anything but a comma, so "Digest " occurs at the front only
  have hchain : (renderParams (challengeParams (authVector imsi rand v))).IsChain BlankAfterComma :=
    isChain_renderParams fun p hp => ⟨blank_not_mem_of_plain fun c hc => (hkeys p hp c hc).1,
      blank_not_mem_of_plain (hplain p hp)⟩
  have hword : ¬ digestWord.IsChain BlankAfterComma := by decide +kernel
  unfold SIPClient.challengeFields wwwAuth
  show (readParams (removeAll digestWord (digestWord ++ _))).get? key = _
  rw [removeAll_append (by decide), removeAll_of_isChain hchain hword]
  refine readParams_get ?_ ?_ hp
  · exact fun p hp => Param.clean_plain p.quoted (hkeys p hp) (hplain p hp)
  · rw [challengeParams_keys]
    decide +kernel

end AuthHelper

namespace IMSRegistration

/-- The nonce of a WWW-Authenticate value. -/
def nonceOf (wwwAuthenticate : Text) : Text :=
  ((SIPClient.challengeFields wwwAuthenticate).get? "nonce".toList).getD []

section Response

variable (aes : Bytes → Block → Block) (md5 : Bytes → Bytes)

/-- The `try` block of `_compute_aka_response`. -/
def answerNonce (random : Bytes) (wwwAuthenticate : Text) : Py IMSCredentials (Option Text) := do
  let creds ← Py.get
  let nonceBytes ← Py.lift (b64decode (nonceOf wwwAuthenticate))
  if nonceBytes.length < 32 then return none
  else do
    let rand := slice nonceBytes 0 16
    let autn := slice nonceBytes 16 32
    let mil ← Py.lift (Milenage.new creds.ki creds.opc)
    match ← Py.lift (mil.authenticate aes rand autn creds.sqn) with
    | none => return none
    | some (res, _, _) => do
        Py.modify fun creds => { creds with sqn := creds.sqn + 1 }
        let password := hex res
        let uri := "sip:".toList ++ creds.homeDomain
        return some (SIPClient.buildAuthHeader md5 random wwwAuthenticate "REGISTER".toList uri
          creds.impi password 1)

/-- `_compute_aka_response(www_authenticate)`; `random` is `os.urandom(8)` of the header. -/
def computeAkaResponse (random : Bytes) (wwwAuthenticate : Text) : Py IMSCredentials (Option Text) := do
  if nonceOf wwwAuthenticate = [] then return none
  else
    match ← Py.attempt (answerNonce aes md5 random wwwAuthenticate) with
    | .ok header => return header
    | .error _ => return none

/-- **A challenge of the network.**  A card with the same keys answers it when its own number is not
above the vector's, and then moves on by one. -/
theorem computeAkaResponse_of_vector {creds : IMSCredentials} {rand : Bytes} {v : NetworkVector}
    {sqn : ℕ} (hki : creds.ki.length = 16) (hopc : creds.opc.length = 16) (hrand : rand.length = 16)
    (hautn : v.autn.length = 16)
    (hanswers : Milenage.Answers aes ⟨creds.ki, creds.opc⟩ rand v sqn) (hsqn : creds.sqn < 2 ^ 48)
    {www : Text} (hnonce : nonceOf www = b64encode (rand ++ v.autn)) (random : Bytes) :
    (computeAkaResponse aes md5 random www).run creds =
      if creds.sqn ≤ sqn then
        (.ok (some (SIPClient.buildAuthHeader md5 random www "REGISTER".toList
          ("sip:".toList ++ creds.homeDomain) creds.impi (hex v.xres) 1)),
          { creds with sqn := creds.sqn + 1 })
      else (.ok none, creds) := by
  have hne : nonceOf www ≠ [] := by
    rw [hnonce]
    apply b64encode_ne_nil
    intro hnil
    rw [(List.append_eq_nil_iff.mp hnil).1] at hrand
    cases hrand
  have hlen : ¬ (rand ++ v.autn).length < 32 := by
    rw [List.length_append, hrand, hautn]
    omega
  have hfirst : slice (rand ++ v.autn) 0 16 = rand :=
    slice_of_eq (p := []) (q := v.autn) (by simp) rfl (by rw [hrand])
  have hsecond : slice (rand ++ v.autn) 16 32 = v.autn :=
    slice_of_eq (p := rand) (q := []) (by simp) hrand.symm (by rw [hautn])
  have htry : (answerNonce aes md5 random www).run creds =
      if creds.sqn ≤ sqn then
        (.ok (some (SIPClient.buildAuthHeader md5 random www "REGISTER".toList
          ("sip:".toList ++ creds.homeDomain) creds.impi (hex v.xres) 1)),
          { creds with sqn := creds.sqn + 1 })
      else (.ok none, creds) := by
    unfold answerNonce
    rw [Py.run_get_bind, hnonce, b64decode_b64encode,
      Py.run_bind_ok (Py.run_lift _ _), if_neg hlen]
    simp only [hfirst, hsecond]
    rw [Milenage.new_of_lengths hki hopc, Py.run_bind_ok (Py.run_lift _ _), hanswers _ hsqn,
      Py.run_bind_ok (Py.run_lift _ _)]
    by_cases hle : creds.sqn ≤ sqn
    · rw [if_pos hle, if_pos hle]
      rfl
    · rw [if_neg hle, if_neg hle]
      rfl
  unfold computeAkaResponse
  rw [if_neg hne, Py.run_bind_ok (Py.run_attempt _ _), htry]
  split_ifs <;> rfl

end Response

end IMSRegistration

end VirtualPhone
