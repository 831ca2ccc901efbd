import VirtualPhone.Registration
import VirtualPhone.SipClient
import VirtualPhone.Runtime.Contract

/-! # The registration procedure (`ims/registration.py`)

`register` of `IMSRegistration` as a coroutine: it makes a SIP client and starts it, sends a REGISTER,
answers the challenge of a 401 with a second one, and schedules the next registration.  It is
suspended while the client's endpoint is made, while a TCP connection is, and while it waits for a
response; an environment does as it likes meanwhile (`Coro.against`).

All but the start of the client stands in a `try` block.  `register_settles_iff` says that, against
any environment, `register` returns True in state REGISTERED or False in state FAILED if and only if
the client starts, or there is no P-CSCF to register with. -/

namespace VirtualPhone

open Runtime
open Coro (get modify raise attempt)

/-! ### The state -/

/-- `IMSRegState`. -/
inductive IMSRegState
  | notRegistered
  | registering
  | registered
  | deregistering
  | failed
deriving DecidableEq, Repr

/-- `IMSConfig`, without the realm, which no method reads. -/
structure IMSConfig where
  pcscfAddress : Text := []
  pcscfPort : ℕ := 5060
  transport : Text := "UDP".toList
  registrationExpiry : ℤ := 3600
  useIpsec : Bool := false
deriving DecidableEq

/-- `IMSRegistration`; then the local addresses of the process's datagram endpoints, the error the
last connection met with, the messages sent, and the random octets to come. -/
structure IMSRegistration where
  creds : IMSCredentials
  /-- `creds.impu`. -/
  impu : Text
  config : IMSConfig
  state : IMSRegState := .notRegistered
  sipClient : Option Session := none
  /-- The delay of the task that registers again. -/
  registrationTimer : Option ℤ := none
  callId : Text
  serviceRoute : Option Text := none
  endpoints : List (Text × ℕ) := []
  connectionError : Option PyError := none
  sent : List (SIPMessage × (Text × ℕ)) := []
  random : ℕ → ℕ → Bytes
  drawn : ℕ := 0

/-- Where a method is suspended. -/
inductive RegistrationAwait
  | endpoint
  | connection
  | response (request : ℕ)
  | sleep (seconds : ℤ)
deriving DecidableEq

/-- The reading of an `async` method of the registration. -/
abbrev RegistrationAsync (α : Type) := Coro IMSRegistration RegistrationAwait α

namespace IMSRegistration

/-- `self.state = state`. -/
def setState (state : IMSRegState) (r : IMSRegistration) : IMSRegistration := { r with state := state }

/-- Change the SIP client. -/
def modifyClient (f : Session → Session) (r : IMSRegistration) : IMSRegistration :=
  { r with sipClient := r.sipClient.map f }

/-- A message goes out. -/
def send (msg : SIPMessage) (dest : Text × ℕ) (r : IMSRegistration) : IMSRegistration :=
  { r with sent := r.sent ++ [(msg, dest)] }

/-- `os.urandom(n)`. -/
def urandom (n : ℕ) : RegistrationAsync Bytes := do
  let r ← get
  modify fun r => { r with drawn := r.drawn + 1 }
  return r.random r.drawn n

/-! ### The client -/

/-- `SIPClient(transport=...)`: the transport is written in capitals. -/
def newClient (transport : Text) : Session := { client := { transport := transport.map Char.toUpper } }

/-- `self._sip_client.start()`: over UDP the local address is bound, which fails where it is in use. -/
def startClient : RegistrationAsync Unit := do
  let r ← get
  match r.sipClient with
  | none => raise .attributeError
  | some client =>
      if client.client.transport = "UDP".toList then
        Coro.await .endpoint
        let r ← get
        let addr := (client.client.localIp, client.client.localPort)
        if addr ∈ r.endpoints then raise .osError
        else modify fun r => { r with endpoints := r.endpoints ++ [addr] }
      else return

/-- `transport.send(msg, dest)`; over TLS nothing is sent. -/
def transportSend (transport : Text) (msg : SIPMessage) (dest : Text × ℕ) : RegistrationAsync Unit := do
  if transport = "UDP".toList then modify (send msg dest)
  else if transport = "TCP".toList then
    Coro.await .connection
    let r ← get
    match r.connectionError with
    | some e => raise e
    | none => modify (send msg dest)
  else return

/-- `call_id or generate_call_id()`. -/
def callIdOr (callId : Text) : RegistrationAsync Text := do
  if callId = [] then
    let octets ← urandom 8
    return hex octets ++ "@virtualphone".toList
  else return callId

/-- `send_request(...)`. -/
def sendRequest (args : RequestArgs) : RegistrationAsync SIPMessage := do
  let callId ← callIdOr (args.callId.getD [])
  let branch ← urandom 8
  let tag ← urandom 6
  let ids : RandomIds := { callId := callId, branch := "z9hG4bK".toList ++ hex branch, tag := hex tag }
  let r ← get
  match r.sipClient with
  | none => raise .attributeError
  | some client =>
      let i := client.calls.length
      modify (modifyClient (Session.perform (.request args ids)))
      transportSend client.client.transport (client.client.request args ids) args.dest
      modify (modifyClient (Session.perform (.sent i)))
      Coro.await (.response i)
      let r ← get
      match r.sipClient.bind (·.response? i) with
      | some response =>
          modify (modifyClient (Session.perform (.resume i)))
          return response
      | none =>
          modify (modifyClient (Session.perform (.timeOut i)))
          let r ← get
          match (r.sipClient.bind (·.calls[i]?)).map Call.phase with
          | some (.raised e) => raise e
          | _ => raise .attributeError

/-! ### REGISTER -/

/-- The Security-Client header of a REGISTER over IPsec, with the SPIs drawn for it. -/
def securityHeaders (useIpsec : Bool) : RegistrationAsync (List (Text × Text)) := do
  if useIpsec then
    let spiC ← urandom 4
    let spiS ← urandom 4
    return [("Security-Client".toList, "ipsec-3gpp; alg=hmac-sha-1-96; spi-c=".toList ++
      natText (fromBE spiC) ++ "; spi-s=".toList ++ natText (fromBE spiS) ++
      "; port-c=5060; port-s=5060".toList)]
  else return []

/-- `_send_register(extra_headers)`. -/
def sendRegister (extraHeaders : List (Text × Text)) : RegistrationAsync SIPMessage := do
  let r ← get
  let security ← securityHeaders r.config.useIpsec
  sendRequest
    { method := "REGISTER".toList
      requestUri := "sip:".toList ++ r.creds.homeDomain
      toUri := r.impu
      fromUri := r.impu
      dest := (r.config.pcscfAddress, r.config.pcscfPort)
      extraHeaders := [
        ("Contact".toList, "<sip:".toList ++ r.creds.impi ++ ">".toList),
        ("Expires".toList, intText r.config.registrationExpiry),
        ("Allow".toList, "INVITE, ACK, BYE, CANCEL, OPTIONS, NOTIFY, SUBSCRIBE, MESSAGE".toList),
        ("Supported".toList, "path, outbound, gruu, sec-agree".toList)] ++ security ++ extraHeaders
      callId := some r.callId }

/-- `_compute_aka_response(www_authenticate)`. -/
def akaResponse (aes : Bytes → Block → Block) (md5 : Bytes → Bytes) (wwwAuthenticate : Text) :
    RegistrationAsync (Option Text) := do
  let cnonce ← urandom 8
  let r ← get
  let answer := (computeAkaResponse aes md5 cnonce wwwAuthenticate).run r.creds
  modify fun r => { r with creds := answer.2 }
  Coro.done answer.1

/-! ### The next registration -/

/-- The binary floating-point number with 53 significant digits that is nearest to `n`, a tie going to
the even one. -/
def roundDouble (n : ℕ) : ℕ :=
  let k := n.log2 - 52
  let q := n / 2 ^ k
  let rest := n % 2 ^ k
  (if 2 ^ k < 2 * rest ∨ (2 ^ k = 2 * rest ∧ q % 2 = 1) then q + 1 else q) * 2 ^ k

/-- `int(n * 0.9)`, where 0.9 stands for 8106479329266893 / 2⁵³. -/
def nineTenths (n : ℤ) : Except PyError ℤ :=
  let x := roundDouble n.natAbs
  if 2 ^ 1024 ≤ x then .error .overflowError
  else .ok (n.sign * (roundDouble (x * 8106479329266893) / 2 ^ 53 : ℕ))

/-- The text in front of the first occurrence of `lit`. -/
def upTo (lit : Text) : Text → Text
  | [] => []
  | c :: r => if lit <+: c :: r then [] else c :: upTo lit r

/-- What a Contact header says about its expiry. -/
def contactExpiry (contact : Text) : Option Text :=
  (search (dropLiteral "expires=".toList) contact).map fun rest =>
    ((upTo "expires=".toList rest).takeWhile (· ≠ ';')).takeWhile (· ≠ ',')

/-- The expiry after a 200 OK: that of the Contact header, if it is an integer. -/
def expiryOf (config : IMSConfig) (response : SIPMessage) : ℤ :=
  ((contactExpiry (response.header "Contact")).bind fun text => (pyInt text).toOption).getD
    config.registrationExpiry

/-- `_process_200ok(response)`. -/
def process200ok (response : SIPMessage) (r : IMSRegistration) : IMSRegistration :=
  match response.headers.get? "Service-Route".toList with
  | some route => if route = [] then r else { r with serviceRoute := some route }
  | none => r

/-- `_schedule_reregistration(expiry)`. -/
def scheduleReregistration (expiry : ℤ) : RegistrationAsync Unit := do
  let delay ← Coro.done (nineTenths expiry)
  modify fun r => { r with registrationTimer := some (max 60 delay) }

/-! ### The procedure -/

/-- What follows the last response. -/
def finishRegister (response : SIPMessage) : RegistrationAsync Bool := do
  if response.statusCode = some 200 then
    modify (setState .registered)
    modify (process200ok response)
    let r ← get
    scheduleReregistration (expiryOf r.config response)
    return true
  else
    modify (setState .failed)
    return false

section Procedure

variable (aes : Bytes → Block → Block) (md5 : Bytes → Bytes)

/-- The `try` block of `register`. -/
def registerSteps : RegistrationAsync Bool := do
  let response ← sendRegister []
  if response.statusCode = some 401 then
    match ← akaResponse aes md5 (response.header "WWW-Authenticate") with
    | none =>
        modify (setState .failed)
        return false
    | some authHeader =>
        let response ← sendRegister [("Authorization".toList, authHeader)]
        finishRegister response
  else finishRegister response

/-- The state in which `register` starts its client. -/
def beginRegister (r : IMSRegistration) : IMSRegistration :=
  { r with state := .registering, sipClient := some (newClient r.config.transport) }

/-- `register()`. -/
def register : RegistrationAsync Bool := do
  let r ← get
  if r.config.pcscfAddress = [] then
    modify (setState .failed)
    return false
  else
    modify beginRegister
    startClient
    match ← attempt (registerSteps aes md5) with
    | .ok b => return b
    | .error _ =>
        modify (setState .failed)
        return false

/-- The task of `_schedule_reregistration`. -/
def reregister (delay : ℤ) : RegistrationAsync Unit := do
  Coro.await (.sleep delay)
  let r ← get
  if r.state = .registered then
    let _ ← register aes md5
  else return

end Procedure

/-! ### How a registration ends -/

/-- The procedure has settled: it returned True in state REGISTERED, or False in state FAILED. -/
def Settled (result : Except PyError Bool) (r : IMSRegistration) : Prop :=
  result = .ok true ∧ r.state = .registered ∨ result = .ok false ∧ r.state = .failed

/-- The procedure has settled, or an exception is on its way. -/
def SettledOrRaised (result : Except PyError Bool) (r : IMSRegistration) : Prop :=
  Settled result r ∨ ∃ e, result = .error e

section

variable {env : RegistrationAwait → IMSRegistration → IMSRegistration}

theorem fail_ends : Coro.Ends env SettledOrRaised
    ((modify (setState .failed) : RegistrationAsync Unit) >>= fun _ => pure false) :=
  fun _ => Or.inl (Or.inr ⟨rfl, rfl⟩)

/-- After a 200 OK the state is REGISTERED, and what is left may raise. -/
theorem scheduleReregistration_against (expiry : ℤ) {r : IMSRegistration} (h : r.state = .registered) :
    SettledOrRaised ((scheduleReregistration expiry >>= fun _ => pure true).against env r).1
      ((scheduleReregistration expiry >>= fun _ => pure true).against env r).2 := by
  unfold scheduleReregistration
  cases nineTenths expiry with
  | ok delay => exact Or.inl (Or.inl ⟨rfl, h⟩)
  | error e => exact Or.inr ⟨e, rfl⟩

theorem process200ok_state (response : SIPMessage) (r : IMSRegistration) :
    (process200ok response r).state = r.state := by
  unfold process200ok
  split
  · split_ifs
    · rfl
    · rfl
  · rfl

theorem finishRegister_ends (response : SIPMessage) :
    Coro.Ends env SettledOrRaised (finishRegister response) := by
  unfold finishRegister
  split_ifs
  · intro r
    rw [Coro.against_modify_bind, Coro.against_modify_bind, Coro.against_get_bind]
    exact scheduleReregistration_against _ (process200ok_state response _)
  · exact fail_ends

theorem registerSteps_ends (env : RegistrationAwait → IMSRegistration → IMSRegistration)
    (aes : Bytes → Block → Block) (md5 : Bytes → Bytes) :
    Coro.Ends env SettledOrRaised (registerSteps aes md5) := by
  have hraised : ∀ (e : PyError) (r : IMSRegistration), SettledOrRaised (.error e) r :=
    fun e _ => Or.inr ⟨e, rfl⟩
  unfold registerSteps
  refine Coro.Ends.bind (fun response => ?_) hraised _
  split_ifs
  · refine Coro.Ends.bind (fun header => ?_) hraised _
    cases header with
    | none => exact fail_ends
    | some authHeader => exact Coro.Ends.bind finishRegister_ends hraised _
  · exact finishRegister_ends response

/-- The client starts: its transport is not UDP, or its local address is free when the endpoint is
made. -/
def Starts (env : RegistrationAwait → IMSRegistration → IMSRegistration) (r : IMSRegistration) : Prop :=
  r.config.transport.map Char.toUpper ≠ "UDP".toList ∨
    ("0.0.0.0".toList, 5060) ∉ (env .endpoint r.beginRegister).endpoints

theorem startClient_against (env : RegistrationAwait → IMSRegistration → IMSRegistration)
    {r : IMSRegistration} {client : Session} (h : r.sipClient = some client) :
    startClient.against env r =
      if client.client.transport = "UDP".toList then
        if (client.client.localIp, client.client.localPort) ∈ (env .endpoint r).endpoints then
          (.error .osError, env .endpoint r)
        else
          (.ok (), { env .endpoint r with
            endpoints := (env .endpoint r).endpoints ++
              [(client.client.localIp, client.client.localPort)] })
      else (.ok (), r) := by
  unfold startClient
  rw [Coro.against_get_bind]
  simp only [h]
  by_cases hudp : client.client.transport = "UDP".toList
  · rw [if_pos hudp, if_pos hudp, Coro.against_await_bind, Coro.against_get_bind]
    split_ifs
    · rfl
    · rfl
  · rw [if_neg hudp, if_neg hudp]
    rfl

theorem startClient_starts (env : RegistrationAwait → IMSRegistration → IMSRegistration)
    (r : IMSRegistration) :
    (Starts env r → ∃ r', startClient.against env r.beginRegister = (.ok (), r')) ∧
      (¬Starts env r →
        startClient.against env r.beginRegister = (.error .osError, env .endpoint r.beginRegister)) := by
  have hrun := startClient_against env (r := r.beginRegister) rfl
  by_cases hudp : r.config.transport.map Char.toUpper = "UDP".toList
  · replace hrun := hrun.trans (if_pos hudp)
    by_cases hbound : ("0.0.0.0".toList, 5060) ∈ (env .endpoint r.beginRegister).endpoints
    · refine ⟨fun h => absurd hbound (h.resolve_left (not_not.mpr hudp)), fun _ => ?_⟩
      exact hrun.trans (if_pos hbound)
    · exact ⟨fun _ => ⟨_, hrun.trans (if_neg hbound)⟩, fun h => absurd (Or.inr hbound) h⟩
  · exact ⟨fun _ => ⟨_, hrun.trans (if_neg hudp)⟩, fun h => absurd (Or.inl hudp) h⟩

/-- **Registration settles.**  `register` returns True in state REGISTERED or False in state FAILED if
and only if no P-CSCF is configured or the client starts. -/
theorem register_settles_iff (aes : Bytes → Block → Block) (md5 : Bytes → Bytes)
    (env : RegistrationAwait → IMSRegistration → IMSRegistration) (r : IMSRegistration) :
    Settled ((register aes md5).against env r).1 ((register aes md5).against env r).2 ↔
      r.config.pcscfAddress = [] ∨ Starts env r := by
  unfold register
  rw [Coro.against_get_bind]
  by_cases hpcscf : r.config.pcscfAddress = []
  · rw [if_pos hpcscf]
    exact ⟨fun _ => Or.inl hpcscf, fun _ => Or.inr ⟨rfl, rfl⟩⟩
  · rw [if_neg hpcscf, Coro.against_modify_bind]
    obtain ⟨hstarts, hfails⟩ := startClient_starts env r
    by_cases hstart : Starts env r
    · refine ⟨fun _ => Or.inr hstart, fun _ => ?_⟩
      obtain ⟨r₁, h₁⟩ := hstarts hstart
      rw [Coro.against_bind_ok h₁]
      have hsteps := registerSteps_ends env aes md5 r₁
      generalize hrun : (registerSteps aes md5).against env r₁ = ended at hsteps
      obtain ⟨result, r₂⟩ := ended
      rw [Coro.against_bind_ok (Coro.against_attempt hrun)]
      rcases hsteps with (⟨rfl, hstate⟩ | ⟨rfl, hstate⟩) | ⟨e, rfl⟩
      · exact Or.inl ⟨rfl, hstate⟩
      · exact Or.inr ⟨rfl, hstate⟩
      · exact Or.inr ⟨rfl, rfl⟩
    · rw [Coro.against_bind_error (hfails hstart)]
      refine ⟨fun hsettled => ?_, fun h => ?_⟩
      · rcases hsettled with h | h <;> cases h.1
      · rcases h with h | h
        · exact absurd h hpcscf
        · exact absurd h hstart

end

/-- A network that answers every REGISTER with a 200 OK, and nothing else happens. -/
def granting : RegistrationAwait → IMSRegistration → IMSRegistration
  | .response _, r => r.modifyClient (Session.perform (.receive
      { statusCode := some 200
        headers := Dict.ofList [("Call-ID".toList, r.callId)] }))
  | _, r => r

/-- A subscriber that is not registered yet. -/
def subscriber : IMSRegistration where
  creds := { impi := "a@ims".toList, homeDomain := "ims".toList, ki := [], opc := [], sqn := 0 }
  impu := "sip:a@ims".toList
  config := { pcscfAddress := "pcscf".toList }
  callId := "c".toList
  random := fun k n => List.replicate n (UInt8.ofNat k)

/-- The subscriber after a registration, with the result. -/
def registeredOnce : Except PyError Bool × IMSRegistration :=
  (register (fun _ b => b) id).against granting subscriber

/-- The subscriber after the task that registers again, with its result. -/
def registeredTwice : Except PyError Unit × IMSRegistration :=
  (reregister (fun _ b => b) id 3240).against granting registeredOnce.2

/-- A second registration over UDP: the port is bound by the first client, the task ends with an
OSError, and the state stays REGISTERING. -/
theorem reregistration_raises : Settled registeredOnce.1 registeredOnce.2 ∧
    registeredOnce.2.registrationTimer = some 3240 ∧
    registeredTwice.1 = .error .osError ∧ registeredTwice.2.state = .registering ∧
    ¬Settled ((register (fun _ b => b) id).against granting registeredOnce.2).1
      ((register (fun _ b => b) id).against granting registeredOnce.2).2 := by
  have hfirst : registeredOnce.1 = .ok true ∧ registeredOnce.2.state = .registered ∧
      registeredOnce.2.registrationTimer = some 3240 := by decide +kernel
  have hsecond : registeredTwice.1 = .error .osError ∧ registeredTwice.2.state = .registering ∧
      ((register (fun _ b => b) id).against granting registeredOnce.2).1 = .error .osError := by
    decide +kernel
  refine ⟨Or.inl ⟨hfirst.1, hfirst.2.1⟩, hfirst.2.2, hsecond.1, hsecond.2.1, fun hsettled => ?_⟩
  rcases hsettled with h | h
  · rw [hsecond.2.2] at h
    cases h.1
  · rw [hsecond.2.2] at h
    cases h.1

end IMSRegistration

end VirtualPhone
