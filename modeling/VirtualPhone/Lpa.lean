import VirtualPhone.DaemonRequests
import VirtualPhone.Runtime.Base64
import VirtualPhone.Runtime.Contract

/-! # The local profile assistant (`rsp/`)

`LPA.download_profile` of `rsp/lpa.py` carries a profile from an SM-DP+ to the eUICC: it asks the
SM-DP+ over HTTPS (`rsp/es9plus.py`) and the eUICC daemon over its socket (`rsp/es10.py`), one after
the other.  `rsp/service.py` serves the methods of the LPA to any number of clients on one event loop.

Every request to one of the two other parties is an `LpaOperation`.  It is begun, the method is
suspended, and what comes back is its outcome; so the state of the system is the daemon, the operations so far,
and the fields of the LPA.  An operation carries, as history, the number of the command that began it
and the daemon that processed it.

The objects that `json.dumps` writes on one side are the ones that `json.loads` reads on the other.
The HTTP library, the SM-DP+ and the text of an exception are not part of the repository. -/

namespace VirtualPhone

open Runtime
open Coro (get modify raise attempt)

/-! ### Activation codes -/

/-- `ActivationCode`. -/
structure ActivationCode where
  smdpAddress : Text
  matchingId : Text := []
  oid : Text := []
deriving DecidableEq, Repr

/-- `ActivationCode.parse(code)`. -/
def ActivationCode.parse (code : Text) : Except PyError ActivationCode :=
  match (strip code).splitOn '$' with
  | format :: address :: rest =>
      if format = "1".toList then
        .ok { smdpAddress := address, matchingId := rest.getD 0 [], oid := rest.getD 1 [] }
      else .error (.valueError ("Invalid activation code format: ".toList ++ code))
  | _ => .error (.valueError ("Invalid activation code format: ".toList ++ code))

/-! ### JSON values -/

/-- What the programs take from their libraries: JSON, whether a floating-point number is zero, and
`str(e)` of an exception. -/
structure RspLibrary where
  json : JsonLibrary
  isZero : Text → Bool
  strError : PyError → Text

namespace Json

/-- `bool(value)`. -/
def truthy (L : RspLibrary) : Json → Bool
  | null => false
  | bool b => b
  | int n => n ≠ 0
  | float text => !L.isZero text
  | str s => s ≠ []
  | arr items => !items.isEmpty
  | obj fields => !fields.isEmpty

/-- `value.get(key, default)`; only an object has the method. -/
def getOr (value : Json) (key : String) (default : Json) : Except PyError Json :=
  match value with
  | obj fields => .ok ((get? fields key).getD default)
  | _ => .error .attributeError

/-- `base64.b64decode(value)`. -/
def b64 : Json → Except PyError Bytes
  | str s => b64decode s
  | _ => .error .typeError

/-- A value that may be absent. -/
def ofOption : Option Text → Json
  | some s => str s
  | none => null

end Json

/-- `ISDP.to_summary()`, as an object. -/
def ProfileSummary.json (p : ProfileSummary) : Json :=
  .obj [("iccid".toList, .str p.iccid), ("imsi".toList, .str p.imsi), ("mcc".toList, .str p.mcc),
    ("mnc".toList, .str p.mnc), ("spn".toList, .str p.spn), ("msisdn".toList, .ofOption p.msisdn),
    ("state".toList, .str p.state), ("profile_class".toList, .str p.profileClass)]

/-- `get_euicc_info()`. -/
def EuiccInfo.json (info : EuiccInfo) (installedProfiles : ℕ) (activeIccid : Option Text)
    (state : Text) : Json :=
  .obj [("eid".toList, .str info.eid), ("sv".toList, .str info.sv),
    ("firmware_version".toList, .str info.firmwareVersion),
    ("uicc_capability".toList, .arr (info.uiccCapability.map .str)),
    ("javacard_version".toList, .str info.javacardVersion),
    ("globalplatform_version".toList, .str info.globalplatformVersion),
    ("free_nvram".toList, .int info.freeNvram), ("installed_profiles".toList, .int installedProfiles),
    ("active_iccid".toList, .ofOption activeIccid), ("state".toList, .str state)]

/-- The object that `_process_message` of the daemon returns. -/
def DaemonResponse.fields : DaemonResponse → List (Text × Json)
  | apduResponse data sw =>
      [("type".toList, .str "apdu_response".toList), ("data".toList, .str data), ("sw".toList, .str sw)]
  | info i installedProfiles activeIccid state =>
      [("type".toList, .str "info".toList), ("data".toList, i.json installedProfiles activeIccid state)]
  | profiles data =>
      [("type".toList, .str "profiles".toList), ("data".toList, .arr (data.map ProfileSummary.json))]
  | result success none =>
      [("type".toList, .str "result".toList), ("success".toList, .bool success)]
  | result success (some iccid) =>
      [("type".toList, .str "result".toList), ("success".toList, .bool success),
        ("iccid".toList, .str iccid)]
  | credentials usim isim =>
      [("type".toList, .str "credentials".toList),
        ("data".toList, .obj [("imsi".toList, .str usim.imsi), ("ki".toList, .str usim.ki),
          ("opc".toList, .str usim.opc), ("sqn".toList, .int usim.sqn), ("mcc".toList, .str usim.mcc),
          ("mnc".toList, .str usim.mnc), ("impi".toList, .ofOption isim.impi),
          ("impu".toList, .ofOption isim.impu), ("home_domain".toList, .ofOption isim.homeDomain)])]
  | error message =>
      [("type".toList, .str "error".toList), ("message".toList, .str message)]

/-! ### The data of the two interfaces -/

/-- `ResultCode`. -/
inductive ResultCode
  | ok
  | subjectUnknown
  | insufficientMemory
  | alreadyInstalled
  | notFound
  | refused
  | confirmationCodeRequired
  | wrongConfirmationCode
  | installFailed
  | internalError
deriving DecidableEq, Repr

/-- `ResultCode.value`. -/
def ResultCode.value : ResultCode → ℤ
  | ok => 0
  | subjectUnknown => 1
  | insufficientMemory => 2
  | alreadyInstalled => 3
  | notFound => 4
  | refused => 5
  | confirmationCodeRequired => 6
  | wrongConfirmationCode => 7
  | installFailed => 8
  | internalError => 127

/-- `EUICCInfo1`, of which `svn` is sent. -/
structure EuiccInfo1 where
  svn : Bytes := [2, 5, 0]
deriving DecidableEq, Repr

/-- `ServerSigned1`. -/
structure ServerSigned1 where
  transactionId : Json
  euiccChallenge : Bytes
  serverAddress : Text
  serverChallenge : Bytes

/-- `AuthenticateServerResponse`. -/
structure AuthenticateServerResponse where
  transactionId : Json
  serverSigned1 : ServerSigned1
  serverSignature1 : Bytes
  euiccCiPkId : Bytes
  serverCertificate : Bytes

/-- `PrepareDownloadResponse`. -/
structure PrepareDownloadResponse where
  transactionId : Json
  hashCc : Option Bytes := none
  smdpSigned2 : Bytes := []
  smdpSignature2 : Bytes := []

/-- `BoundProfilePackage`, with the sequences that are read from a response. -/
structure BoundProfilePackage where
  initialiseSecureChannel : Bytes := []
  firstSequence87 : Bytes := []
  sequence88 : Bytes := []
  profileMetadata : Json := .null

/-- `ProfileInstallResult`. -/
structure ProfileInstallResult where
  transactionId : Json
  iccid : Json := .null
  resultCode : ResultCode := .ok
  errorReason : Json := .null

/-- What `handle_notification` is given: the object whose JSON text is sent. -/
structure PendingNotification where
  transactionId : Json
  result : ℤ
  iccid : Json

/-- A request of ES9+. -/
inductive Es9Request
  | initiateAuthentication (euiccChallenge svn : Bytes) (smdpAddress : Text)
  | authenticateClient (transactionId : Json) (authenticateServerResponse : Bytes)
  | getBoundProfilePackage (transactionId : Json) (prepareDownloadResponse : Bytes)
  | handleNotification (pending : PendingNotification)

namespace Es9Request

/-- The endpoint of a request. -/
def endpoint : Es9Request → Text
  | initiateAuthentication _ _ _ => "/gsma/rsp2/es9plus/initiateAuthentication".toList
  | authenticateClient _ _ => "/gsma/rsp2/es9plus/authenticateClient".toList
  | getBoundProfilePackage _ _ => "/gsma/rsp2/es9plus/getBoundProfilePackage".toList
  | handleNotification _ => "/gsma/rsp2/es9plus/handleNotification".toList

/-- The URL of a request. -/
def url (address : Text) (request : Es9Request) : Text :=
  "https://".toList ++ address ++ request.endpoint

/-- The JSON body of a request; `dumps` is `json.dumps`. -/
def payload (dumps : Json → Text) : Es9Request → Json
  | initiateAuthentication euiccChallenge svn smdpAddress =>
      .obj [("euiccChallenge".toList, .str (b64encode euiccChallenge)),
        ("euiccInfo1".toList, .obj [("svn".toList, .str (b64encode svn))]),
        ("smdpAddress".toList, .str smdpAddress)]
  | authenticateClient transactionId authenticateServerResponse =>
      .obj [("transactionId".toList, transactionId),
        ("authenticateServerResponse".toList, .str (b64encode authenticateServerResponse))]
  | getBoundProfilePackage transactionId prepareDownloadResponse =>
      .obj [("transactionId".toList, transactionId),
        ("prepareDownloadResponse".toList, .str (b64encode prepareDownloadResponse))]
  | handleNotification pending =>
      .obj [("pendingNotification".toList, .str (b64encode (encodeUtf8 (dumps (.obj
        [("transaction_id".toList, pending.transactionId), ("result".toList, .int pending.result),
          ("iccid".toList, pending.iccid)])))))]

end Es9Request

/-- A response of the SM-DP+: its status, the text of the exception for a bad one, and what
`resp.json()` returns or raises. -/
structure HttpResponse where
  statusCode : ℕ
  statusError : Text := []
  json : Except PyError Json

namespace HttpResponse

/-- `resp.raise_for_status()`. -/
def raiseForStatus (resp : HttpResponse) : Except PyError Unit :=
  if 200 ≤ resp.statusCode ∧ resp.statusCode ≤ 299 then .ok ()
  else .error (.exception "HTTPStatusError".toList resp.statusError)

/-- The JSON value of a good response. -/
def data (resp : HttpResponse) : Except PyError Json := do
  resp.raiseForStatus
  resp.json

end HttpResponse

/-! ### The system -/

/-- `LPAState`. -/
inductive LpaState
  | idle
  | authenticating
  | downloading
  | installing
  | error
deriving DecidableEq, Repr

/-- A request to another party: a message to the eUICC daemon, or a POST to an SM-DP+. -/
inductive LpaRequest
  | euicc (message : List (Text × Json))
  | smdp (address : Text) (request : Es9Request)

/-- What another party answers. -/
inductive LpaAnswer
  | reply (fields : List (Text × Json))
  | http (response : HttpResponse)

/-- A request and its outcome, with the command that began it and the daemon that processed it. -/
structure LpaOperation where
  command : ℕ
  request : LpaRequest
  outcome : Option (Except PyError LpaAnswer) := none
  processedBy : Option Daemon := none

/-- `LPA`, the commands begun so far, those with an open HTTP client, the operations, the random
octets to come, and the eUICC daemon. -/
structure Lpa where
  daemon : Daemon
  state : LpaState := .idle
  currentTransaction : Json := .null
  commands : ℕ := 0
  http : List ℕ := []
  operations : List LpaOperation := []
  random : ℕ → ℕ → Bytes
  drawn : ℕ := 0

/-- Where a method is suspended. -/
inductive LpaAwait
  | answer (operation : ℕ)
  | closing
deriving DecidableEq

/-- The reading of an `async` method of the LPA. -/
abbrev LpaAsync (α : Type) := Coro Lpa LpaAwait α

namespace Lpa

/-- `self.state = state`. -/
def setState (state : LpaState) (s : Lpa) : Lpa := { s with state := state }

/-- `self._current_transaction = transaction`. -/
def setTransaction (transaction : Json) (s : Lpa) : Lpa := { s with currentTransaction := transaction }

/-- A command begins. -/
def beginCommand (s : Lpa) : Lpa := { s with commands := s.commands + 1 }

/-- A request goes out. -/
def send (command : ℕ) (request : LpaRequest) (s : Lpa) : Lpa :=
  { s with operations := s.operations ++ [{ command := command, request := request }] }

/-- The HTTP client of a command is open. -/
def openHttp (command : ℕ) (s : Lpa) : Lpa :=
  { s with http := if command ∈ s.http then s.http else s.http ++ [command] }

/-- The HTTP client of a command is closed. -/
def closeHttp (command : ℕ) (s : Lpa) : Lpa := { s with http := s.http.filter (· ≠ command) }

/-- `os.urandom(n)`. -/
def urandom (n : ℕ) : LpaAsync Bytes := do
  let s ← get
  modify fun s => { s with drawn := s.drawn + 1 }
  return s.random s.drawn n

/-- A request, and its outcome. -/
def ask (command : ℕ) (request : LpaRequest) : LpaAsync LpaAnswer := do
  let s ← get
  modify (send command request)
  Coro.await (.answer s.operations.length)
  let s' ← get
  match s'.operations[s.operations.length]?.bind LpaOperation.outcome with
  | some outcome => Coro.done outcome
  | none => raise .attributeError

/-! ### ES10 -/

section Es10

variable (command : ℕ)

/-- `_send_message(msg)`. -/
def sendMessage (message : List (Text × Json)) : LpaAsync (List (Text × Json)) := do
  match ← ask command (.euicc message) with
  | .reply fields => return fields
  | .http _ => raise .attributeError

/-- A message without data. -/
def plainMessage (msgType : String) : List (Text × Json) := [("type".toList, .str msgType.toList)]

/-- A message about the profile with an ICCID. -/
def iccidMessage (msgType : String) (iccid : Json) : List (Text × Json) :=
  [("type".toList, .str msgType.toList), ("iccid".toList, iccid)]

/-- The message that installs a profile. -/
def installMessage (profile : Json) : List (Text × Json) :=
  [("type".toList, .str "install_profile".toList), ("profile".toList, profile)]

/-- The STORE DATA command of `prepare_download`. -/
def storeDataMessage : List (Text × Json) :=
  [("type".toList, .str "apdu".toList), ("data".toList, .str "00E2000000".toList)]

/-- `get_euicc_info1()`. -/
def getEuiccInfo1 : LpaAsync EuiccInfo1 := do
  let _ ← sendMessage command (plainMessage "get_info")
  return { svn := [2, 5, 0] }

/-- `get_euicc_info2()`. -/
def getEuiccInfo2 : LpaAsync Json := do
  let resp ← sendMessage command (plainMessage "get_info")
  return (Json.get? resp "data").getD (.obj [])

/-- `get_eid()`. -/
def getEid : LpaAsync Json := do
  let resp ← sendMessage command (plainMessage "get_info")
  Coro.done (((Json.get? resp "data").getD (.obj [])).getOr "eid" (.str []))

/-- `prepare_download(...)`. -/
def prepareDownload (transactionId : Json) (hashCc : Option Bytes) (smdpSigned2 smdpSignature2 : Bytes)
    (_smdpCertificate : Bytes) : LpaAsync PrepareDownloadResponse := do
  let _ ← sendMessage command storeDataMessage
  return { transactionId, hashCc, smdpSigned2, smdpSignature2 }

/-- `load_bound_profile_package(bpp)`. -/
def loadBoundProfilePackage (L : RspLibrary) (bpp : BoundProfilePackage) :
    LpaAsync ProfileInstallResult := do
  if bpp.profileMetadata.truthy L then
    let resp ← sendMessage command (installMessage bpp.profileMetadata)
    if ((Json.get? resp "success").getD .null).truthy L then
      let transactionId ← Coro.done (bpp.profileMetadata.getOr "transaction_id" (.str []))
      return { transactionId, iccid := (Json.get? resp "iccid").getD .null, resultCode := .ok }
    else
      return { transactionId := .str [], resultCode := .installFailed
               errorReason := (Json.get? resp "error").getD (.str "Unknown error".toList) }
  else
    return { transactionId := .str [], resultCode := .internalError
             errorReason := .str "No profile metadata in BPP".toList }

/-- `get_profiles_info()`. -/
def getProfilesInfo : LpaAsync Json := do
  let resp ← sendMessage command (plainMessage "list_profiles")
  return (Json.get? resp "data").getD (.arr [])

/-- `enable_profile(iccid)`, `disable_profile(iccid)` and `delete_profile(iccid)`. -/
def changeProfile (msgType : String) (iccid : Json) : LpaAsync Json := do
  let resp ← sendMessage command (iccidMessage msgType iccid)
  return (Json.get? resp "success").getD (.bool false)

/-- `enable_profile(iccid)`. -/
def enableProfile (iccid : Json) : LpaAsync Json := changeProfile command "enable_profile" iccid

/-- `disable_profile(iccid)`. -/
def disableProfile (iccid : Json) : LpaAsync Json := changeProfile command "disable_profile" iccid

/-- `delete_profile(iccid)`. -/
def deleteProfile (iccid : Json) : LpaAsync Json := changeProfile command "delete_profile" iccid

end Es10

/-! ### ES9+ -/

section Es9

variable (command : ℕ)

/-- `client.post(url, json=payload)`, with the client of `_get_client`. -/
def post (address : Text) (request : Es9Request) : LpaAsync HttpResponse := do
  modify (openHttp command)
  match ← ask command (.smdp address request) with
  | .http response => return response
  | .reply _ => raise .attributeError

/-- What `initiate_authentication` makes of a response. -/
def readAuthentication (L : RspLibrary) (euiccChallenge : Bytes) (address : Text) (data : Json) :
    Except PyError AuthenticateServerResponse := do
  let header ← data.getOr "header" (.obj [])
  let status ← header.getOr "functionExecutionStatus" (.obj [])
  let status ← status.getOr "status" (.obj [])
  let transactionId ← data.getOr "transactionId" (.str [])
  let _ ← status.getOr "subjectCode" transactionId
  let serverSig1 ← data.getOr "serverSignature1" (.str [])
  let serverCert ← data.getOr "serverCertificate" (.str [])
  let serverChallenge ← (← data.getOr "serverChallenge" (.str [])).b64
  let serverSignature1 ← if serverSig1.truthy L then serverSig1.b64 else .ok []
  let pkId ← data.getOr "euiccCiPKIdToBeUsed" .null
  let euiccCiPkId ← if pkId.truthy L then pkId.b64 else .ok []
  let serverCertificate ← if serverCert.truthy L then serverCert.b64 else .ok []
  return {
    transactionId
    serverSigned1 := { transactionId, euiccChallenge, serverAddress := address, serverChallenge }
    serverSignature1, euiccCiPkId, serverCertificate }

/-- `initiate_authentication(...)`. -/
def initiateAuthentication (L : RspLibrary) (euiccChallenge : Bytes) (euiccInfo1 : EuiccInfo1)
    (address : Text) : LpaAsync AuthenticateServerResponse := do
  if address = [] then raise (.valueError "SM-DP+ address not configured".toList)
  else
    let resp ← post command address (.initiateAuthentication euiccChallenge euiccInfo1.svn address)
    let data ← Coro.done resp.data
    Coro.done (readAuthentication L euiccChallenge address data)

/-- `authenticate_client(...)`. -/
def authenticateClient (transactionId : Json) (authenticateServerResponse : Bytes) (address : Text) :
    LpaAsync Json := do
  let resp ← post command address (.authenticateClient transactionId authenticateServerResponse)
  Coro.done resp.data

/-- What `get_bound_profile_package` makes of a response. -/
def readPackage (data : Json) : Except PyError BoundProfilePackage := do
  let initialiseSecureChannel ← (← data.getOr "initialiseSecureChannelRequest" (.str [])).b64
  let firstSequence87 ← (← data.getOr "firstSequenceOf87" (.str [])).b64
  let sequence88 ← (← data.getOr "sequenceOf88" (.str [])).b64
  let profileMetadata ← data.getOr "profileMetadata" .null
  return { initialiseSecureChannel, firstSequence87, sequence88, profileMetadata }

/-- `get_bound_profile_package(...)`. -/
def getBoundProfilePackage (transactionId : Json) (prepareDownloadResponse : Bytes) (address : Text) :
    LpaAsync BoundProfilePackage := do
  let resp ← post command address (.getBoundProfilePackage transactionId prepareDownloadResponse)
  let data ← Coro.done resp.data
  Coro.done (readPackage data)

/-- `handle_notification(...)`. -/
def handleNotification (pending : PendingNotification) (address : Text) : LpaAsync Unit := do
  let resp ← post command address (.handleNotification pending)
  Coro.done resp.raiseForStatus

/-- `close()`. -/
def closeClient : LpaAsync Unit := do
  let s ← get
  if command ∈ s.http then
    Coro.await .closing
    modify (closeHttp command)
  else return

end Es9

/-! ### The methods of the LPA -/

/-- What `download_profile` and `install_profile_direct` return. -/
inductive DownloadResult
  | finished (success : Bool) (iccid : Json) (resultCode : ℤ)
  | failed (error : Text)

/-- The object that is returned. -/
def DownloadResult.json : DownloadResult → Json
  | finished success iccid resultCode =>
      .obj [("success".toList, .bool success), ("iccid".toList, iccid),
        ("result_code".toList, .int resultCode)]
  | failed error => .obj [("success".toList, .bool false), ("error".toList, .str error)]

section Methods

variable (L : RspLibrary) (command : ℕ)

/-- The steps of `download_profile`, with the ES9+ client for an address. -/
def downloadSteps (address : Text) : LpaAsync DownloadResult := do
  let euiccChallenge ← urandom 16
  let euiccInfo1 ← getEuiccInfo1 command
  let authResp ← initiateAuthentication command L euiccChallenge euiccInfo1 address
  modify (setTransaction authResp.transactionId)
  modify (setState .downloading)
  let _ ← authenticateClient command authResp.transactionId euiccChallenge address
  let _ ← prepareDownload command authResp.transactionId none [] [] authResp.serverCertificate
  let bpp ← getBoundProfilePackage command authResp.transactionId [] address
  modify (setState .installing)
  let installResult ← loadBoundProfilePackage command L bpp
  handleNotification command
    { transactionId := authResp.transactionId, result := installResult.resultCode.value
      iccid := installResult.iccid } address
  modify (setState .idle)
  modify (setTransaction .null)
  return .finished (installResult.resultCode = .ok) installResult.iccid installResult.resultCode.value

/-- The `try` block of `download_profile`; the client is closed in any case. -/
def downloadBody (activationCode : Json) : LpaAsync DownloadResult := do
  modify (setState .authenticating)
  match activationCode with
  | .str code =>
      let ac ← Coro.done (ActivationCode.parse code)
      let result ← attempt (downloadSteps L command ac.smdpAddress)
      closeClient command
      Coro.done result
  | _ => raise .attributeError

/-- `download_profile(activation_code, confirmation_code)`. -/
def downloadProfile (activationCode _confirmationCode : Json) : LpaAsync DownloadResult := do
  match ← attempt (downloadBody L command activationCode) with
  | .ok result => return result
  | .error e =>
      modify (setState .error)
      return .failed (L.strError e)

/-- `install_profile_direct(profile_data)`; only an object has the ICCID that is logged. -/
def installProfileDirect (profileData : Json) : LpaAsync DownloadResult := do
  let _ ← Coro.done (profileData.getOr "iccid" .null)
  let result ← loadBoundProfilePackage command L { profileMetadata := profileData }
  return .finished (result.resultCode.value = 0) result.iccid result.resultCode.value

end Methods

end Lpa

/-! ### The service -/

/-- A command of a client of the service. -/
inductive RspCommand
  | download (activationCode confirmationCode : Json)
  | installDirect (profile : Json)
  | list
  | enable (iccid : Json)
  | disable (iccid : Json)
  | delete (iccid : Json)
  | info
  | eid
  | unknown (cmd : Text)

/-- The command in a message, as `handle_client` of `rsp/service.py` takes it. -/
def RspCommand.ofMessage (L : RspLibrary) (msg : List (Text × Json)) : RspCommand :=
  match Json.get? msg "command" with
  | some (.str cmd) =>
      if cmd = "download".toList then
        .download ((Json.get? msg "activation_code").getD (.str []))
          ((Json.get? msg "confirmation_code").getD .null)
      else if cmd = "install_direct".toList then
        .installDirect ((Json.get? msg "profile").getD (.obj []))
      else if cmd = "list".toList then .list
      else if cmd = "enable".toList then .enable ((Json.get? msg "iccid").getD (.str []))
      else if cmd = "disable".toList then .disable ((Json.get? msg "iccid").getD (.str []))
      else if cmd = "delete".toList then .delete ((Json.get? msg "iccid").getD (.str []))
      else if cmd = "info".toList then .info
      else if cmd = "eid".toList then .eid
      else .unknown cmd
  | some cmd => .unknown (L.json.str cmd)
  | none => .unknown "None".toList

namespace Lpa

/-- What `handle_client` does for a command. -/
def serve (L : RspLibrary) (command : ℕ) : RspCommand → LpaAsync Json
  | .download activationCode confirmationCode => do
      let result ← downloadProfile L command activationCode confirmationCode
      return result.json
  | .installDirect profile => do
      let result ← installProfileDirect L command profile
      return result.json
  | .list => do
      let profiles ← getProfilesInfo command
      return .obj [("profiles".toList, profiles)]
  | .enable iccid => do
      let ok ← enableProfile command iccid
      return .obj [("success".toList, ok)]
  | .disable iccid => do
      let ok ← disableProfile command iccid
      return .obj [("success".toList, ok)]
  | .delete iccid => do
      let ok ← deleteProfile command iccid
      return .obj [("success".toList, ok)]
  | .info => getEuiccInfo2 command
  | .eid => do
      let eid ← getEid command
      return .obj [("eid".toList, eid)]
  | .unknown cmd => return .obj [("error".toList, .str ("Unknown command: ".toList ++ cmd))]

/-- One round of `handle_client`: a message, under a number of its own. -/
def handleCommand (L : RspLibrary) (msg : List (Text × Json)) : LpaAsync Json := do
  let s ← get
  modify beginCommand
  serve L s.commands (RspCommand.ofMessage L msg)

/-! ### What the other parties do -/

/-- `readexactly` on a connection that the daemon has closed. -/
def incompleteRead : PyError :=
  .exception "IncompleteReadError".toList "0 bytes read on a total of 4 expected bytes".toList

/-- What happens outside of the service: the daemon processes a message, whose response arrives or is
lost; a message does not reach it, or is too large for it; a message is answered in any way, by a daemon
that is not the one modelled; the SM-DP+ answers a POST, or the POST fails; the daemon processes a
message of somebody else, or starts again. -/
inductive Outside
  | process (operation : ℕ) (uuid : Text) (lost : Option PyError)
  | answer (operation : ℕ) (fields : List (Text × Json))
  | refuse (operation : ℕ) (e : PyError)
  | respond (operation : ℕ) (response : HttpResponse)
  | daemon (e : Daemon.Event)

/-- A daemon that answers is the one of the model. -/
def Outside.Modelled : Outside → Prop
  | .answer _ _ => False
  | _ => True

instance : DecidablePred Outside.Modelled := fun x => by
  unfold Outside.Modelled
  split <;> infer_instance

/-- The state with an operation answered. -/
def settle (i : ℕ) (outcome : Except PyError LpaAnswer) (s : Lpa) : Lpa :=
  { s with operations := s.operations.modify i fun op => { op with outcome := some outcome } }

/-- The state with an operation answered by the daemon. -/
def settleProcessed (i : ℕ) (before after : Daemon) (outcome : Except PyError LpaAnswer) (s : Lpa) :
    Lpa :=
  { s with
    daemon := after
    operations := s.operations.modify i fun op =>
      { op with outcome := some outcome, processedBy := some before } }

/-- The ICCID that a request installs names a file. -/
def SafeRequest : DaemonRequest → Prop
  | .message msg => Daemon.Safe msg
  | _ => True

instance : DecidablePred SafeRequest := fun request => by
  unfold SafeRequest
  split <;> infer_instance

/-- What the client of a connection reads after its message was processed. -/
def readReply (result : Except PyError DaemonResponse) (lost : Option PyError) :
    Except PyError LpaAnswer :=
  match result, lost with
  | _, some e => .error e
  | .ok response, none => .ok (.reply response.fields)
  | .error _, none => .error incompleteRead

section

variable (P : Platform) (L : RspLibrary)

/-- Something outside happens.  The daemon of the model processes packages that have fields of the types
of those of an `ISDP`, with an ICCID that names a file. -/
def outside (s : Lpa) : Outside → Option Lpa
  | .process i uuid lost =>
      match s.operations[i]? with
      | some { request := .euicc message, outcome := none, .. } =>
          match DaemonRequest.ofFields L.json uuid message with
          | some request =>
              if SafeRequest request then
                let (result, after) := (request.process P).run s.daemon
                some (s.settleProcessed i s.daemon after (readReply result lost))
              else none
          | none => none
      | _ => none
  | .answer i fields =>
      match s.operations[i]? with
      | some { request := .euicc _, outcome := none, .. } => some (s.settle i (.ok (.reply fields)))
      | _ => none
  | .refuse i e =>
      match s.operations[i]? with
      | some { outcome := none, .. } => some (s.settle i (.error e))
      | _ => none
  | .respond i response =>
      match s.operations[i]? with
      | some { request := .smdp _ _, outcome := none, .. } => some (s.settle i (.ok (.http response)))
      | _ => none
  | .daemon e => (Daemon.step P s.daemon e).map fun d => { s with daemon := d }

/-- The service: commands of any clients, on one event loop. -/
def loop : EventLoop Lpa LpaAwait Json (List (Text × Json)) Outside where
  main := handleCommand L
  ready w s := match w with
    | .answer i => (s.operations[i]?.bind LpaOperation.outcome).isSome
    | .closing => true
  outside := outside P L

end

end Lpa

end VirtualPhone
