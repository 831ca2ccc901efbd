import VirtualPhone.Daemon

/-! # SIM input and output (`hal/radio_hal.py`)

`sim_io` builds an APDU from the parameters of the request and sends it to the eUICC daemon on a
connection of its own, so that its result is settled at the moment the daemon processes it, among
the messages of all clients.

The file identifier does not get into the APDU: what is read is the file that whoever came last
has selected.  And the octets the daemon returns have the status word behind them.  So READ BINARY
gives the octets of the requested file only where these happen to be the octets of another, selected
file with 90 00 behind them; `simIo_reads_iff` says so for every run. -/

namespace VirtualPhone

open Runtime

/-! ### Texts -/

/-- `f"{n:02x}"`. -/
def formatHex2 (n : ℕ) : Text := (Nat.toDigits 16 n).leftpad 2 '0'

/-- `int(s, 16)`, of a text of hexadecimal digits. -/
def intBase16 (s : Text) : Except PyError ℕ :=
  if s = [] then .error (.valueError "invalid literal for int() with base 16".toList)
  else s.foldlM (fun n c => match hexVal c with
    | some v => .ok (16 * n + v)
    | none => .error (.valueError "invalid literal for int() with base 16".toList)) 0

/-- How many octets `json.dumps` writes for a character of a string. -/
def jsonCharSize (c : Char) : ℕ :=
  if c = '"' ∨ c = '\\' then 2
  else if 0x20 ≤ c.toNat ∧ c.toNat ≤ 0x7E then 1
  else if c.toNat ∈ [0x08, 0x09, 0x0A, 0x0C, 0x0D] then 2
  else if c.toNat < 0x10000 then 6
  else 12

/-- The octets of `json.dumps({"type": "apdu", "data": data})`. -/
def apduMessageSize (data : Text) : ℕ := 28 + (data.map jsonCharSize).sum

theorem formatHex2_byte (b : UInt8) : formatHex2 b.toNat = hex [b] :=
  forall_byte (P := fun b => formatHex2 b.toNat = hex [b]) (by decide +kernel) b

theorem formatHex2_of_lt {n : ℕ} (h : n < 256) : formatHex2 n = hex [UInt8.ofNat n] := by
  rw [← formatHex2_byte, toNat_ofNat_of_lt h]

theorem intBase16_of_lt {n : ℕ} (h : n < 256) :
    intBase16 ((hex [UInt8.ofNat n]).map Char.toUpper) = .ok n := by
  have hbyte := forall_byte (P := fun b => intBase16 ((hex [b]).map Char.toUpper) = .ok b.toNat)
    (by decide +kernel) (UInt8.ofNat n)
  rwa [toNat_ofNat_of_lt h] at hbyte

/-! ### The request -/

/-- The parameters of a `SIM_IO` request, with the defaults of `_handle_sim_io`. -/
structure SimIoRequest where
  command : ℕ := 0
  fileId : ℕ := 0
  path : Text := []
  p1 : ℕ := 0
  p2 : ℕ := 0
  p3 : ℕ := 0
  data : Text := []
  pin2 : Text := []
  aid : Text := []
deriving DecidableEq, Repr

/-- What `sim_io` returns. -/
structure SimIoResult where
  sw1 : ℕ
  sw2 : ℕ
  simResponse : Text
deriving DecidableEq, Repr

/-- The APDU of a request. -/
def SimIoRequest.apdu (r : SimIoRequest) : Text :=
  "00".toList ++ formatHex2 r.command ++ formatHex2 r.p1 ++ formatHex2 r.p2 ++
    (if 0 < r.p3 then formatHex2 r.p3 else []) ++ r.data

section Platform

variable (P : Platform)

/-- `_send_euicc_message({"type": "apdu", "data": apdu})`: no response when the daemon drops the
message or raises. -/
def sendApdu (apdu : Text) : Py Daemon (Option DaemonResponse) :=
  if 65536 < apduMessageSize apdu then return none
  else do
    let response ← Py.attempt (Daemon.processMessage P (.apdu apdu))
    return response.toOption

/-- `sim_io(command, file_id, path, p1, p2, p3, data, pin2, aid)`. -/
def simIo (r : SimIoRequest) : Py Daemon SimIoResult := do
  let resp ← sendApdu P r.apdu
  let (data, sw) := match resp with
    | some (.apduResponse data sw) => (data, sw)
    | _ => ([], "9000".toList)
  let sw1 ← Py.lift (intBase16 (sw.take 2))
  let sw2 ← Py.lift (intBase16 (slice sw 2 4))
  return { sw1, sw2, simResponse := data }

/-! ### What a request is answered with -/

theorem run_processApdu_ok {data : Text} {raw : Bytes} (hraw : fromHex data = .ok raw) (d : Daemon) :
    (Daemon.processApdu P data).run d =
      (.ok (.apduResponse (hex (ApduHandler.process P raw d.card).1.toBytes)
        ((hex [UInt8.ofNat (ApduHandler.process P raw d.card).1.sw1,
          UInt8.ofNat (ApduHandler.process P raw d.card).1.sw2]).map Char.toUpper)),
        d.withCard (ApduHandler.process P raw d.card).2) := by
  unfold Daemon.processApdu
  rw [hraw]
  rfl

theorem run_sendApdu {apdu : Text} {raw : Bytes} (hsize : apduMessageSize apdu ≤ 65536)
    (hraw : fromHex apdu = .ok raw) (d : Daemon) :
    (sendApdu P apdu).run d = (.ok (some (.apduResponse (hex (ApduHandler.process P raw d.card).1.toBytes)
      ((hex [UInt8.ofNat (ApduHandler.process P raw d.card).1.sw1,
        UInt8.ofNat (ApduHandler.process P raw d.card).1.sw2]).map Char.toUpper))),
      d.withCard (ApduHandler.process P raw d.card).2) := by
  unfold sendApdu
  rw [if_neg (by omega), Py.run_bind, Py.run_attempt, Daemon.processMessage, run_processApdu_ok P hraw]
  rfl

theorem intBase16_status {sw1 sw2 : ℕ} (h1 : sw1 < 256) (h2 : sw2 < 256) :
    intBase16 (((hex [UInt8.ofNat sw1, UInt8.ofNat sw2]).map Char.toUpper).take 2) = .ok sw1 ∧
      intBase16 (slice ((hex [UInt8.ofNat sw1, UInt8.ofNat sw2]).map Char.toUpper) 2 4) = .ok sw2 :=
  ⟨intBase16_of_lt h1, intBase16_of_lt h2⟩

/-- A request with a small, well-formed APDU gets the response of the handler, its status word
behind its data. -/
theorem run_simIo {r : SimIoRequest} {raw : Bytes} (hsize : apduMessageSize r.apdu ≤ 65536)
    (hraw : fromHex r.apdu = .ok raw) (d : Daemon)
    (hsw : (ApduHandler.process P raw d.card).1.sw1 < 256 ∧
      (ApduHandler.process P raw d.card).1.sw2 < 256) :
    ((simIo P r).run d).1 =
      .ok ⟨(ApduHandler.process P raw d.card).1.sw1, (ApduHandler.process P raw d.card).1.sw2,
        hex (ApduHandler.process P raw d.card).1.toBytes⟩ := by
  obtain ⟨hone, htwo⟩ := intBase16_status hsw.1 hsw.2
  unfold simIo
  rw [Py.run_bind_ok (run_sendApdu P hsize hraw d)]
  simp only [hone, htwo, Py.run_lift_ok_bind]
  rfl

/-! ### Reading a file -/

/-- The contents of a transparent file of the active profile. -/
def Daemon.fileOf (d : Daemon) (fileId : ℕ) : Option Bytes :=
  match d.storage.euicc.getActiveProfile with
  | none => none
  | some profile =>
      match readEf fileId profile with
      | .ok file => file
      | .error _ => none

/-- The contents of the selected file. -/
def Daemon.selectedFile (d : Daemon) : Option Bytes := d.handler.selectedEf.bind d.fileOf

/-- The octets of a file from an offset, at most so many. -/
def addressed (file : Bytes) (offset length : ℕ) : Bytes := (file.drop offset).take length

/-- A READ BINARY request: its parameters are octets, and there is no data. -/
structure SimIoRequest.IsReadBinary (r : SimIoRequest) : Prop where
  command : r.command = 0xB0
  p1 : r.p1 < 256
  p2 : r.p2 < 256
  p3 : r.p3 < 256
  data : r.data = []

/-- The offset `p1p2` of a request. -/
def SimIoRequest.offset (r : SimIoRequest) : ℕ := r.p1 <<< 8 ||| r.p2

/-- The octets of the APDU. -/
def SimIoRequest.raw (r : SimIoRequest) : Bytes :=
  [0x00, 0xB0, UInt8.ofNat r.p1, UInt8.ofNat r.p2] ++
    if 0 < r.p3 then [UInt8.ofNat r.p3] else []

theorem SimIoRequest.IsReadBinary.apdu_eq {r : SimIoRequest} (h : r.IsReadBinary) :
    r.apdu = hex r.raw := by
  have hcommand : formatHex2 0xB0 = hex [0xB0] := by decide +kernel
  unfold SimIoRequest.apdu SimIoRequest.raw
  rw [h.command, h.data, hcommand, formatHex2_of_lt h.p1, formatHex2_of_lt h.p2,
    formatHex2_of_lt h.p3]
  split_ifs with h3
  · rfl
  · rfl

theorem jsonCharSize_hexDigit {n : ℕ} (h : n < 16) : jsonCharSize (hexDigit n) = 1 := by
  revert n
  decide

theorem apduMessageSize_hex (raw : Bytes) : apduMessageSize (hex raw) = 28 + 2 * raw.length := by
  have hsum : ((hex raw).map jsonCharSize).sum = 2 * raw.length := by
    induction raw with
    | nil => rfl
    | cons b raw ih =>
        have hb := b.toNat_lt
        have hcons : hex (b :: raw) = hexDigit (b.toNat / 16) :: hexDigit (b.toNat % 16) :: hex raw :=
          rfl
        rw [hcons, List.map_cons, List.map_cons, List.sum_cons, List.sum_cons, ih,
          jsonCharSize_hexDigit (by omega), jsonCharSize_hexDigit (by omega), List.length_cons]
        omega
  rw [apduMessageSize, hsum]

theorem SimIoRequest.IsReadBinary.fromBytes_raw {r : SimIoRequest} (h : r.IsReadBinary) :
    ApduCommand.fromBytes r.raw = .ok ⟨0x00, 0xB0, r.p1, r.p2, [], r.p3⟩ := by
  have hp1 := toNat_ofNat_of_lt h.p1
  have hp2 := toNat_ofNat_of_lt h.p2
  have hp3 := toNat_ofNat_of_lt h.p3
  unfold SimIoRequest.raw
  split_ifs with h3
  · have hle : ApduCommand.lengthOr256 (UInt8.ofNat r.p3) = r.p3 := by
      rw [ApduCommand.lengthOr256, hp3, if_neg (by omega)]
    simp only [List.cons_append, List.nil_append, ApduCommand.fromBytes, hp1, hp2, hle]
    rfl
  · obtain h0 : r.p3 = 0 := by omega
    simp only [List.append_nil, ApduCommand.fromBytes, hp1, hp2, h0]
    rfl

/-- READ BINARY on the card: the octets of the selected file, or an error. -/
theorem process_readBinary {r : SimIoRequest} (h : r.IsReadBinary) (d : Daemon) :
    (∃ file, d.selectedFile = some file ∧ (ApduHandler.process P r.raw d.card).1 =
        .swOk (if 0 < r.p3 then addressed file r.offset r.p3 else file.drop r.offset)) ∨
      (d.selectedFile = none ∧ (ApduHandler.process P r.raw d.card).1 ∈
        [ApduResponse.swConditionsNotSatisfied, .swNotFound, .swInternalError]) := by
  have hdispatch : ApduHandler.dispatch P ⟨0x00, 0xB0, r.p1, r.p2, [], r.p3⟩ =
      ApduHandler.handleReadBinary ⟨0x00, 0xB0, r.p1, r.p2, [], r.p3⟩ := rfl
  rw [ApduHandler.process, h.fromBytes_raw]
  dsimp only
  rw [hdispatch, ApduHandler.handleReadBinary, ApduHandler.readSelected, Py.run_get_bind, Daemon.card]
  unfold Daemon.selectedFile Daemon.fileOf
  cases d.handler.selectedEf with
  | none => exact .inr ⟨rfl, by simp⟩
  | some ef =>
      simp only [Option.bind_some]
      cases d.storage.euicc.getActiveProfile with
      | none => exact .inr ⟨rfl, by simp⟩
      | some profile =>
          cases hef : readEf ef profile with
          | error e => exact .inr ⟨by simp [hef], by simp [hef]⟩
          | ok data =>
              cases data with
              | none => exact .inr ⟨by simp [hef], by simp [hef]⟩
              | some file =>
                  refine .inl ⟨file, by simp [hef], ?_⟩
                  simp [hef, addressed, SimIoRequest.offset]

/-- What a READ BINARY request is answered with: never less than the status word. -/
theorem run_simIo_readBinary {r : SimIoRequest} (h : r.IsReadBinary) (d : Daemon) :
    ((simIo P r).run d).1 =
      .ok ⟨(ApduHandler.process P r.raw d.card).1.sw1, (ApduHandler.process P r.raw d.card).1.sw2,
        hex (ApduHandler.process P r.raw d.card).1.toBytes⟩ := by
  have hlen : r.raw.length ≤ 5 := by
    unfold SimIoRequest.raw
    split_ifs with h3
    · exact le_rfl
    · exact Nat.le_succ 4
  refine run_simIo P ?_ ?_ d ?_
  · rw [h.apdu_eq, apduMessageSize_hex]
    omega
  · rw [h.apdu_eq, fromHex_hex]
  · rcases process_readBinary P h d with ⟨file, -, hresponse⟩ | ⟨-, hmem⟩
    · rw [hresponse]
      simp [ApduResponse.swOk]
    · exact (by decide : ∀ response ∈ [ApduResponse.swConditionsNotSatisfied, .swNotFound,
        .swInternalError], response.sw1 < 256 ∧ response.sw2 < 256) _ hmem

theorem hex_injective : Function.Injective hex := by
  intro a b h
  have := congrArg fromHex h
  rw [fromHex_hex, fromHex_hex] at this
  exact Except.ok.inj this

/-- **One request.**  READ BINARY gives the octets of a file exactly when they are those of the
selected file with the status word behind them. -/
theorem simIo_readBinary_iff {r : SimIoRequest} (h : r.IsReadBinary) (d : Daemon) (file : Bytes) :
    ((simIo P r).run d).1 = .ok ⟨0x90, 0x00, hex (addressed file r.offset r.p3)⟩ ↔
      ∃ other, d.selectedFile = some other ∧
        addressed file r.offset r.p3 = addressed other r.offset r.p3 ++ [0x90, 0x00] := by
  rw [run_simIo_readBinary P h]
  rcases process_readBinary P h d with ⟨other, hsel, hresponse⟩ | ⟨hsel, hmem⟩
  · rw [hresponse, hsel]
    have hbytes : hex (ApduResponse.swOk (if 0 < r.p3 then addressed other r.offset r.p3
        else other.drop r.offset)).toBytes = hex (addressed file r.offset r.p3) ↔
          addressed file r.offset r.p3 = addressed other r.offset r.p3 ++ [0x90, 0x00] := by
      rw [hex_injective.eq_iff, ApduResponse.toBytes, ApduResponse.swOk]
      split_ifs with h3
      · exact eq_comm
      · -- a read of no octets is right for no file
        obtain h0 : r.p3 = 0 := by omega
        simp [h0, addressed]
    constructor
    · intro hok
      injection Except.ok.inj hok with _ _ hdata
      exact ⟨other, rfl, hbytes.mp hdata⟩
    · rintro ⟨other', hother, heq⟩
      obtain rfl := Option.some.inj hother
      rw [hbytes.mpr heq]
      rfl
  · rw [hsel]
    constructor
    · intro hok
      injection Except.ok.inj hok with hsw
      exact absurd hsw ((by decide : ∀ response ∈ [ApduResponse.swConditionsNotSatisfied,
        .swNotFound, .swInternalError], response.sw1 ≠ 0x90) _ hmem)
    · rintro ⟨_, hother, -⟩
      cases hother

/-! ### Runs -/

/-- What happens at the daemon: a message of any client or a restart, or a `SIM_IO` request of the
radio. -/
inductive SimEvent
  | daemon (e : Daemon.Event)
  | simIo (r : SimIoRequest)
deriving DecidableEq, Repr

/-- One event. -/
def simStep (d : Daemon) : SimEvent → Option Daemon
  | .daemon e => Daemon.step P d e
  | .simIo r => some ((simIo P r).run d).2

/-- A READ BINARY request for a transparent file of the active profile gets 90 00 and the octets of
the file it addresses. -/
def ReadsFile (d : Daemon) : SimEvent → Prop
  | .daemon _ => True
  | .simIo r => r.IsReadBinary → ∀ file, d.fileOf r.fileId = some file →
      ((simIo P r).run d).1 = .ok ⟨0x90, 0x00, hex (addressed file r.offset r.p3)⟩

/-- The octets it addresses are those of the selected file, at the same place, with 90 00 behind
them. -/
def Coincides (d : Daemon) : SimEvent → Prop
  | .daemon _ => True
  | .simIo r => r.IsReadBinary → ∀ file, d.fileOf r.fileId = some file →
      ∃ other, d.selectedFile = some other ∧
        addressed file r.offset r.p3 = addressed other r.offset r.p3 ++ [0x90, 0x00]

/-- **SIM input and output reads the requested file, by coincidence.**  For every state of the
daemon and every sequence of messages, APDUs and `SIM_IO` requests of any clients: every READ BINARY
of the run gets the octets of its file if and only if, at each of them, these are the octets of the
selected file with 90 00 behind them. -/
theorem simIo_reads_iff (d : Daemon) (events : List SimEvent) :
    Along (simStep P) (ReadsFile P) d events ↔ Along (simStep P) Coincides d events := by
  have hevent : ∀ d e, ReadsFile P d e ↔ Coincides d e := by
    intro d e
    cases e with
    | daemon e => exact Iff.rfl
    | simIo r =>
        refine forall_congr' fun h => forall_congr' fun file => forall_congr' fun _ => ?_
        exact simIo_readBinary_iff P h d file
  exact ⟨Along.mono (simStep P) fun d e => (hevent d e).mp,
    Along.mono (simStep P) fun d e => (hevent d e).mpr⟩

end Platform

/-- A profile is installed and enabled, and a client selects its service provider name. -/
def selectedRun : List SimEvent :=
  [.daemon (.message (.installProfile
      { iccid := some ['1'], imsi := some "001010123456789".toList, ki := some [], opc := some [],
        spn := some "vphone".toList } [])),
    .daemon (.message (.enableProfile ['1'])),
    .daemon (.message (.apdu "00a40000026f46".toList))]

/-- The read of the IMSI. -/
def readImsi : SimIoRequest := { command := 0xB0, fileId := 0x6F07, p3 := 9 }

/-- The IMSI is read as the name of the provider and a status word. -/
theorem wrong_file_read :
    ∃ d, runFrom (simStep ApduHandler.zeroPlatform) (Daemon.start ['8']) selectedRun = some d ∧
      ((simIo ApduHandler.zeroPlatform readImsi).run d).1 =
        .ok ⟨0x90, 0x00, hex (encodeUtf8 "vphone".toList ++ [0xFF, 0xFF, 0xFF, 0x90, 0x00])⟩ ∧
      ¬Along (simStep ApduHandler.zeroPlatform) (ReadsFile ApduHandler.zeroPlatform) d
        [.simIo readImsi] := by
  have hrun : (runFrom (simStep ApduHandler.zeroPlatform) (Daemon.start ['8']) selectedRun).map
      (fun d => (d.fileOf 0x6F07, ((simIo ApduHandler.zeroPlatform readImsi).run d).1)) =
        some (some [9, 9, 0x10, 0x10, 0x10, 0x32, 0x54, 0x76, 0x98], .ok ⟨0x90, 0x00,
          hex (encodeUtf8 "vphone".toList ++ [0xFF, 0xFF, 0xFF, 0x90, 0x00])⟩) := by
    decide +kernel
  obtain ⟨d, hd, hread⟩ := Option.map_eq_some_iff.mp hrun
  obtain ⟨hfile, hanswer⟩ := Prod.mk.inj hread
  refine ⟨d, hd, hanswer, fun h => ?_⟩
  have hright := h.1 ⟨rfl, by decide, by decide, by decide, rfl⟩ _ hfile
  rw [hanswer] at hright
  exact absurd hright (by decide +kernel)

end VirtualPhone
