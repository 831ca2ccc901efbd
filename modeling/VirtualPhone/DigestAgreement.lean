import VirtualPhone.Registration

/-! # Digest agreement between the phone and the S-CSCF

The authentication helper serves a challenge, the phone answers it, and the S-CSCF passes the fields
of the answer back to the helper, which recomputes the digest from its cached vector.  The two
computations are written independently; `readParams_get` on the written header and
`challengeFields_wwwAuth` on the challenge make them meet.

In between the helper may serve any other requests (`serve`): it verifies the answer as long as it
caches no other vector for the subscriber. -/

namespace VirtualPhone

open Runtime

/-- A value that can stand between quotes: no comma, no quote, no blank around it. -/
structure Quotable (s : Text) : Prop where
  comma : ',' ∉ s
  quote : '"' ∉ s
  trimmed : Trimmed s

namespace AuthHelper

/-- A field of an Authorization value, as the S-CSCF passes it on. -/
def authField (name authorization : Text) : Text :=
  (((dropLiteral digestWord authorization).map readParams).bind fun params => params.get? name).getD []

/-- A request with the random octets and the reach of the database at that moment. -/
structure HelperEvent where
  rand : Block
  reach : Reach
  request : Request

variable (md5 : Bytes → Bytes) (aes : Bytes → Block → Block)

/-- The helper after a request; what it did before an exception stays done. -/
def serve (helper : AuthHelper) (e : HelperEvent) : Option AuthHelper :=
  some ((handle md5 aes e.rand e.reach e.request).run helper).2

/-- The request makes the helper cache a vector for `imsi`. -/
def Caches (imsi : Text) (helper : AuthHelper) (e : HelperEvent) : Prop :=
  (e.request = .vector (some imsi) ∨ e.request = .challenge (some imsi)) ∧
    ∃ vector, ((generateAuthVector aes e.rand e.reach imsi).run helper).1 = .ok (some vector)

/-! ### The cache -/

variable {md5}

theorem generateAuthVector_cache (rand : Block) (reach : Reach) (imsi : Text) (helper : AuthHelper) :
    (∃ vector, ((generateAuthVector aes rand reach imsi).run helper).1 = .ok (some vector) ∧
      ((generateAuthVector aes rand reach imsi).run helper).2.vectorCache =
        helper.vectorCache.set imsi vector) ∨
    ((∀ vector, ((generateAuthVector aes rand reach imsi).run helper).1 ≠ .ok (some vector)) ∧
      ((generateAuthVector aes rand reach imsi).run helper).2.vectorCache = helper.vectorCache) := by
  have hnone : ∀ {p : Except PyError (Option AuthVector) × AuthHelper},
      (p.1 = .ok none ∨ ∃ e, p.1 = .error e) → p.2 = helper →
        (∃ vector, p.1 = .ok (some vector) ∧ p.2.vectorCache = helper.vectorCache.set imsi vector) ∨
          ((∀ vector, p.1 ≠ .ok (some vector)) ∧ p.2.vectorCache = helper.vectorCache) := by
    rintro ⟨r, h⟩ hr rfl
    refine .inr ⟨?_, rfl⟩
    rintro vector rfl
    rcases hr with hr | ⟨e, hr⟩ <;> cases hr
  unfold generateAuthVector
  rw [Py.run_get_bind]
  cases helper.getSubscriber reach imsi with
  | none => exact hnone (.inl rfl) rfl
  | some security =>
      by_cases hmissing : security.kiHex = [] ∨ security.opHex = []
      · simp only [if_pos hmissing]
        exact hnone (.inl rfl) rfl
      simp only [if_neg hmissing]
      cases hmil : security.milenage aes with
      | error e => exact hnone (.inr ⟨e, rfl⟩) rfl
      | ok mil =>
          cases hsqn : toBE security.sqnVal 6 with
          | error e => exact hnone (.inr ⟨e, rfl⟩) rfl
          | ok sqn =>
              cases hamf : fromHex security.amfHex with
              | error e => exact hnone (.inr ⟨e, rfl⟩) rfl
              | ok amf =>
                  simp only [Py.run_lift_ok_bind]
                  cases hv : mil.networkVector aes rand.1 sqn amf with
                  | error e => exact hnone (.inr ⟨e, rfl⟩) rfl
                  | ok v =>
                      refine .inl ⟨authVector imsi rand v, ?_, ?_⟩ <;> cases reach.update <;> rfl

variable {aes}

/-- A request that caches nothing for a subscriber leaves its cached vector in place. -/
theorem serve_cached {imsi : Text} {helper helper' : AuthHelper} {e : HelperEvent}
    (hcaches : ¬ Caches aes imsi helper e) (hs : serve md5 aes helper e = some helper') :
    helper'.vectorCache.get? imsi = helper.vectorCache.get? imsi := by
  have hvector : ∀ imsi', (e.request = .vector (some imsi') ∨ e.request = .challenge (some imsi')) →
      ((generateAuthVector aes e.rand e.reach imsi').run helper).2.vectorCache.get? imsi =
        helper.vectorCache.get? imsi := by
    intro imsi' hreq
    rcases generateAuthVector_cache aes e.rand e.reach imsi' helper with
      ⟨vector, hret, hcache⟩ | ⟨-, hcache⟩
    · have hne : imsi ≠ imsi' := by
        rintro rfl
        exact hcaches ⟨hreq, vector, hret⟩
      rw [hcache, Dict.get?_set_ne _ _ hne]
    · rw [hcache]
  obtain rfl := Option.some.inj hs
  cases hreq : e.request with
  | vector param =>
      cases hg : given param with
      | none => simp only [handle, hg, Py.run_pure]
      | some imsi' =>
          simp only [handle, hg]
          rw [Py.state_bind (fun r h => by cases r <;> rfl)]
          exact hvector imsi' (.inl (by rw [hreq, (Option.filter_eq_some_iff.mp hg).1]))
  | challenge param =>
      cases hg : given param with
      | none => simp only [handle, hg, Py.run_pure]
      | some imsi' =>
          simp only [handle, hg]
          rw [Py.state_bind (fun r h => by cases r <;> rfl)]
          exact hvector imsi' (.inr (by rw [hreq, (Option.filter_eq_some_iff.mp hg).1]))
  | verify params =>
      simp only [handle]
      cases given params.imsi with
      | none => rfl
      | some i =>
          cases given params.username with
          | none => rfl
          | some username =>
              cases given params.response <;> rfl
  | verifyPost i res =>
      simp only [handle]
      split_ifs <;> rfl
  | health => rfl
  | verifyPostInvalid => rfl
  | other => rfl

/-! ### The answer header -/

/-- The parameters of an answer to the challenge of `vector`. -/
def answerParams (vector : AuthVector) (username uri response cnonce : Text) : List Param :=
  SIPClient.authParams username vector.realm vector.nonce uri response vector.algorithm "auth".toList
    "00000001".toList cnonce

theorem answerParams_keys (vector : AuthVector) (username uri response cnonce : Text) :
    (answerParams vector username uri response cnonce).map Param.key =
      ["username".toList, "realm".toList, "nonce".toList, "uri".toList, "response".toList,
        "algorithm".toList, "qop".toList, "nc".toList, "cnonce".toList] := rfl

section Answer

variable {imsi : Text} (himsi : ∀ c ∈ imsi, IsDigit c) (rand : Block) (v : NetworkVector)

include himsi

/-- What the phone writes when it answers a challenge of the helper. -/
theorem buildAuthHeader_wwwAuth (random : Bytes) (method uri username password : Text) :
    SIPClient.buildAuthHeader md5 random (wwwAuth (authVector imsi rand v)) method uri username password 1 =
      digestWord ++ renderParams (answerParams (authVector imsi rand v) username uri
        (hexdigest md5 (hexdigest md5 (username ++ ':' :: homeRealm imsi ++ ':' :: password) ++ ':' ::
          b64encode (rand.1 ++ v.autn) ++ ':' :: "00000001".toList ++ ':' :: hex random ++ ':' ::
          "auth".toList ++ ':' :: hexdigest md5 (method ++ ':' :: uri))) (hex random)) := by
  have hfield : ∀ key value quoted, (⟨key, value, quoted⟩ : Param) ∈ challengeParams (authVector imsi rand v) →
      (SIPClient.challengeFields (wwwAuth (authVector imsi rand v))).get? key = some value :=
    fun _ _ _ hp => challengeFields_wwwAuth himsi rand v hp
  have hrealm := hfield "realm".toList (homeRealm imsi) true (by simp [challengeParams, authVector])
  have hnonce := hfield "nonce".toList (b64encode (rand.1 ++ v.autn)) true
    (by simp [challengeParams, authVector])
  have halgorithm := hfield "algorithm".toList "AKAv1-MD5".toList false
    (by simp [challengeParams, authVector])
  have hqop := hfield "qop".toList "auth".toList true (by simp [challengeParams, authVector])
  have hnc : SIPClient.ncText 1 = "00000001".toList := by decide
  unfold SIPClient.buildAuthHeader
  simp only [hrealm, hnonce, halgorithm, hqop, hnc, Option.getD_some]
  rw [if_pos (by decide)]
  rfl

theorem authField_answer {username uri response : Text} (husername : Quotable username)
    (huri : ',' ∉ uri ∧ '"' ∉ uri) (hresponse : ∀ c ∈ response, IsPlain c) (random : Bytes)
    {key value : Text} {quoted : Bool}
    (hp : ⟨key, value, quoted⟩ ∈
      answerParams (authVector imsi rand v) username uri response (hex random)) :
    authField key (digestWord ++ renderParams
      (answerParams (authVector imsi rand v) username uri response (hex random))) = value := by
  have hkeys : ∀ key ∈ ["username".toList, "realm".toList, "nonce".toList, "uri".toList,
      "response".toList, "algorithm".toList, "qop".toList, "nc".toList, "cnonce".toList],
      ∀ c ∈ key, IsPlain c ∧ c ≠ '=' := forall_mem_mem_of_all (by decide +kernel)
  have hclean : ∀ p ∈ answerParams (authVector imsi rand v) username uri response (hex random),
      p.Clean := by
    intro p hp
    have hkey := List.mem_map_of_mem (f := Param.key) hp
    rw [answerParams_keys] at hkey
    have hplain := hkeys _ hkey
    unfold answerParams SIPClient.authParams at hp
    rw [if_neg (by decide)] at hp
    simp only [List.cons_append, List.nil_append, List.mem_cons, List.not_mem_nil, or_false] at hp
    rcases hp with rfl | rfl | rfl | rfl | rfl | rfl | rfl | rfl | rfl
    · exact Param.clean_quoted hplain husername.comma husername.quote
    · exact Param.clean_plain _ hplain (isPlain_homeRealm himsi)
    · exact Param.clean_plain _ hplain (isPlain_nonce _)
    · exact Param.clean_quoted hplain huri.1 huri.2
    · exact Param.clean_plain _ hplain hresponse
    · exact Param.clean_plain _ hplain (forall_mem_of_all (l := "AKAv1-MD5".toList) (by decide))
    · exact Param.clean_plain _ hplain (forall_mem_of_all (l := "auth".toList) (by decide))
    · exact Param.clean_plain _ hplain (forall_mem_of_all (l := "00000001".toList) (by decide))
    · exact Param.clean_plain _ hplain isPlain_of_mem_hex
  have hword : dropLiteral digestWord (digestWord ++ renderParams
      (answerParams (authVector imsi rand v) username uri response (hex random))) =
        some (renderParams (answerParams (authVector imsi rand v) username uri response (hex random))) := by
    rw [dropLiteral, if_pos (List.prefix_append ..), List.drop_left]
  rw [authField, hword, Option.map_some, Option.bind_some, readParams_get hclean _ hp, Option.getD_some]
  rw [answerParams_keys]
  decide +kernel

end Answer

/-- The helper verifies the fields of an Authorization value. -/
def verifies (md5 : Bytes → Bytes) (helper : AuthHelper) (imsi authorization : Text) : Bool :=
  helper.verifyDigestResponse md5 imsi (authField "username".toList authorization)
    (authField "realm".toList authorization) (authField "uri".toList authorization)
    (authField "nc".toList authorization) (authField "cnonce".toList authorization)
    (authField "qop".toList authorization) (authField "response".toList authorization)

/-- A helper that still caches the vector verifies the answer to its challenge. -/
theorem verifies_answer {imsi : Text} (himsi : ∀ c ∈ imsi, IsDigit c) {rand : Block}
    {v : NetworkVector} {helper : AuthHelper}
    (hcached : helper.vectorCache.get? imsi = some (authVector imsi rand v)) {impi homeDomain : Text}
    (himpi : Quotable impi) (hdomain : Quotable homeDomain) (random : Bytes) :
    verifies md5 helper imsi (SIPClient.buildAuthHeader md5 random (wwwAuth (authVector imsi rand v))
      "REGISTER".toList ("sip:".toList ++ homeDomain) impi (hex v.xres) 1) = true := by
  have huri : ',' ∉ "sip:".toList ++ homeDomain ∧ '"' ∉ "sip:".toList ++ homeDomain :=
    ⟨by simp [hdomain.comma], by simp [hdomain.quote]⟩
  have hqop : "auth".toList ≠ [] := by decide
  rw [buildAuthHeader_wwwAuth himsi]
  generalize hresponse : hexdigest md5 (_ ++ _) = response
  have hfield : ∀ key value quoted, (⟨key, value, quoted⟩ : Param) ∈
      answerParams (authVector imsi rand v) impi ("sip:".toList ++ homeDomain) response (hex random) →
        authField key (digestWord ++ renderParams (answerParams (authVector imsi rand v) impi
          ("sip:".toList ++ homeDomain) response (hex random))) = value := by
    intro key value quoted hp
    refine authField_answer himsi rand v himpi huri ?_ random hp
    rw [← hresponse]
    exact isPlain_of_mem_hex
  have husername := hfield "username".toList impi true
    (by simp [answerParams, SIPClient.authParams])
  have hrealm := hfield "realm".toList (homeRealm imsi) true
    (by simp [answerParams, SIPClient.authParams, authVector])
  have huri' := hfield "uri".toList ("sip:".toList ++ homeDomain) true
    (by simp [answerParams, SIPClient.authParams])
  have hnc := hfield "nc".toList "00000001".toList false
    (by simp [answerParams, SIPClient.authParams])
  have hcnonce := hfield "cnonce".toList (hex random) true
    (by simp [answerParams, SIPClient.authParams])
  have hqop' := hfield "qop".toList "auth".toList false
    (by simp [answerParams, SIPClient.authParams])
  have hresponse' := hfield "response".toList response true
    (by simp [answerParams, SIPClient.authParams])
  rw [verifies, verifyDigestResponse, hcached, husername, hrealm, huri', hnc, hcnonce, hqop',
    hresponse']
  simp only [decide_eq_true_eq]
  rw [← hresponse, expectedResponse]
  simp only [if_pos hqop]
  rfl

/-- **Digest agreement.**  For a digit IMSI, the answer of a phone with the subscriber's keys to a
served challenge is verified by the helper, whatever else the helper served in between, as long as it
cached no other vector for that IMSI. -/
theorem digest_agreement (md5 : Bytes → Bytes) (aes : Bytes → Block → Block) {imsi : Text}
    (himsi : ∀ c ∈ imsi, IsDigit c) (hne : imsi ≠ []) {helper : AuthHelper} {security : Security}
    (hsub : helper.subscribers.get? imsi = some security) {mil : Milenage} {amf : Bytes} {sqn : ℕ}
    (hholds : security.Holds aes mil amf sqn) {reach : Reach} (hreach : reach.query = true)
    {creds : IMSCredentials} (hki : creds.ki = mil.ki) (hopc : creds.opc = mil.opc)
    (hsqn : creds.sqn ≤ sqn) (himpi : Quotable creds.impi) (hdomain : Quotable creds.homeDomain)
    (rand : Block) (random : Bytes) :
    ∃ www helper₁ header creds',
      (handle md5 aes rand reach (.challenge (some imsi))).run helper = (.ok ⟨200, .text www⟩, helper₁) ∧
      (IMSRegistration.computeAkaResponse aes md5 random www).run creds = (.ok (some header), creds') ∧
      ∀ es helper₂, Along (serve md5 aes) (fun h e => ¬ Caches aes imsi h e) helper₁ es →
        runFrom (serve md5 aes) helper₁ es = some helper₂ → verifies md5 helper₂ imsi header = true := by
  obtain ⟨v, hv, hautn, hrun⟩ := generateAuthVector_run hsub hholds rand hreach
  have hgiven : given (some imsi) = some imsi := by simp [given, hne]
  have hanswers : Milenage.Answers aes ⟨creds.ki, creds.opc⟩ rand.1 v sqn := by
    rw [hki, hopc]
    exact Milenage.authenticate_networkVector aes hholds.opc_length rand.2 hholds.amf_length
      hholds.sqn_lt hv
  have hnonce : IMSRegistration.nonceOf (wwwAuth (authVector imsi rand v)) =
      b64encode (rand.1 ++ v.autn) := by
    have hp : (⟨"nonce".toList, b64encode (rand.1 ++ v.autn), true⟩ : Param) ∈
        challengeParams (authVector imsi rand v) := by simp [challengeParams, authVector]
    rw [IMSRegistration.nonceOf, challengeFields_wwwAuth himsi rand v hp, Option.getD_some]
  have hkilen : creds.ki.length = 16 := by rw [hki, hholds.ki_length]
  have hopclen : creds.opc.length = 16 := by rw [hopc, hholds.opc_length]
  have hphone := IMSRegistration.computeAkaResponse_of_vector aes md5 hkilen hopclen rand.2 hautn
    hanswers (lt_of_le_of_lt hsqn hholds.sqn_lt) hnonce random
  rw [if_pos hsqn] at hphone
  refine ⟨wwwAuth (authVector imsi rand v), cache imsi (authVector imsi rand v)
    (if reach.update then setSqn imsi (sqn + 32) helper else helper), _, _, ?_, hphone, ?_⟩
  · simp only [handle, hgiven]
    rw [Py.run_bind_ok hrun]
    rfl
  · intro es helper₂ hcaches hserve
    have hcached : helper₂.vectorCache.get? imsi = some (authVector imsi rand v) :=
      runFrom_invariant (serve md5 aes) (I := fun h => h.vectorCache.get? imsi = some (authVector imsi rand v))
        (fun h e h' hI hP hst => (serve_cached hP hst).trans hI)
        (by simp [cache]) hcaches hserve
    exact verifies_answer himsi hcached himpi hdomain random

/-- The zero subscriber's phone registers at a domain. -/
def zeroCredentials : IMSCredentials where
  impi := "001010123456789@ims.example".toList
  homeDomain := "ims.example".toList
  ki := List.replicate 16 0
  opc := List.replicate 16 0
  sqn := 0

/-- The zero subscriber's answer is verified after the helper has served a health check. -/
theorem digest_agreement_zero :
    ∃ www helper₁ header creds',
      (handle id (fun _ b => b) ⟨List.replicate 16 7, rfl⟩ ⟨true, true⟩
          (.challenge (some "001010123456789".toList))).run zeroSubscriber =
        (.ok ⟨200, .text www⟩, helper₁) ∧
      (IMSRegistration.computeAkaResponse (fun _ b => b) id [1, 2, 3, 4, 5, 6, 7, 8] www).run
        zeroCredentials = (.ok (some header), creds') ∧
      verifies id helper₁ "001010123456789".toList header = true := by
  have hdigits : ∀ c ∈ "001010123456789".toList, IsDigit c := forall_mem_of_all (by decide)
  have himpi : Quotable zeroCredentials.impi := ⟨by decide, by decide, by decide⟩
  have hdomain : Quotable zeroCredentials.homeDomain := ⟨by decide, by decide, by decide⟩
  have hsqn : zeroCredentials.sqn ≤ 32 := by decide
  have hsub : zeroSubscriber.subscribers.get? "001010123456789".toList = some zeroSecurity := rfl
  have hki : zeroCredentials.ki = zeroKeys.ki := rfl
  have hopc : zeroCredentials.opc = zeroKeys.opc := rfl
  obtain ⟨www, helper₁, header, creds', hserved, hanswer, hverified⟩ :=
    digest_agreement id (fun _ b => b) hdigits (by decide) hsub zeroSecurity_holds
      (rfl : Reach.query ⟨true, true⟩ = true) hki hopc hsqn
      himpi hdomain ⟨List.replicate 16 7, rfl⟩ [1, 2, 3, 4, 5, 6, 7, 8]
  have hcaches : ¬ Caches (fun _ b => b) "001010123456789".toList helper₁
      ⟨⟨List.replicate 16 7, rfl⟩, ⟨true, true⟩, .health⟩ := by
    rintro ⟨hreq | hreq, -⟩
    · cases hreq
    · cases hreq
  refine ⟨www, helper₁, header, creds', hserved, hanswer, ?_⟩
  exact hverified [⟨⟨List.replicate 16 7, rfl⟩, ⟨true, true⟩, .health⟩] helper₁
    ⟨hcaches, fun _ _ => trivial⟩ rfl

end AuthHelper

end VirtualPhone
