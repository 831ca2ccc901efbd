import VirtualPhone.SimIo
import VirtualPhone.ApduCodec

/-! # SIM authentication (`hal/radio_hal.py`)

`sim_authentication` puts the authentication data of the request behind the four octets of an AUTHENTICATE
command.  The length octet of the data is missing; on the other side the first octet of the data is taken
for it, or, if there is only one, for the expected length.  So the command that the card gets never has
the data of the request. -/

namespace VirtualPhone

open Runtime

/-- The APDU of a request for authentication. -/
def simAuthenticationApdu (authContext : ℕ) (authData : Text) : Text :=
  "0088".toList ++ formatHex2 authContext ++ "00".toList ++ authData

/-- What the card gets is an AUTHENTICATE command with these octets as its data. -/
def ReachesCard (authContext : ℕ) (authData : Text) (octets : Bytes) : Prop :=
  ∃ raw cmd, fromHex (simAuthenticationApdu authContext authData) = .ok raw ∧
    ApduCommand.fromBytes raw = .ok cmd ∧ cmd.ins = 0x88 ∧ cmd.data = octets

section Platform

variable (P : Platform)

/-- `sim_authentication(auth_context, auth_data)`. -/
def simAuthentication (authContext : ℕ) (authData : Text) : Py Daemon SimIoResult := do
  let resp ← sendApdu P (simAuthenticationApdu authContext authData)
  let (data, sw) := match resp with
    | some (.apduResponse data sw) => (data, sw)
    | _ => ([], "0000".toList)
  let sw1 ← Py.lift (intBase16 (sw.take 2))
  let sw2 ← Py.lift (intBase16 (slice sw 2 4))
  return { sw1, sw2, simResponse := data }

variable {authContext : ℕ} {authData : Text} {octets : Bytes}

theorem fromHex_simAuthenticationApdu (hcontext : authContext < 256) (hdata : fromHex authData = .ok octets) :
    fromHex (simAuthenticationApdu authContext authData) =
      .ok (0x00 :: 0x88 :: UInt8.ofNat authContext :: 0x00 :: octets) := by
  have hapdu : simAuthenticationApdu authContext authData =
      hex [0x00, 0x88, UInt8.ofNat authContext, 0x00] ++ authData := by
    rw [simAuthenticationApdu, formatHex2_of_lt hcontext]
    rfl
  rw [hapdu, fromHex_hex_append, hdata]
  rfl

/-- The command that is parsed: the first octet of the data is taken for their length. -/
theorem fromBytes_authenticate (context first : UInt8) (rest : Bytes) :
    ∃ cmd, ApduCommand.fromBytes (0x00 :: 0x88 :: context :: 0x00 :: first :: rest) = .ok cmd ∧
      cmd.ins = 0x88 ∧ cmd.p1 = context.toNat ∧ cmd.data = rest.take first.toNat := by
  cases rest with
  | nil => exact ⟨_, rfl, rfl, rfl, List.take_nil.symm⟩
  | cons b rest => exact ⟨_, rfl, rfl, rfl, rfl⟩

theorem run_simAuthentication (hcontext : authContext < 256) (hdata : fromHex authData = .ok octets)
    (hsize : apduMessageSize (simAuthenticationApdu authContext authData) ≤ 65536) (d : Daemon) {raw : Bytes}
    (hraw : raw = 0x00 :: 0x88 :: UInt8.ofNat authContext :: 0x00 :: octets)
    (hsw : (ApduHandler.process P raw d.card).1.sw1 < 256 ∧ (ApduHandler.process P raw d.card).1.sw2 < 256) :
    ((simAuthentication P authContext authData).run d).1 =
      .ok ⟨(ApduHandler.process P raw d.card).1.sw1, (ApduHandler.process P raw d.card).1.sw2,
        hex (ApduHandler.process P raw d.card).1.toBytes⟩ := by
  have hread := fromHex_simAuthenticationApdu hcontext hdata
  rw [← hraw] at hread
  obtain ⟨hone, htwo⟩ := intBase16_status hsw.1 hsw.2
  unfold simAuthentication
  rw [Py.run_bind_ok (run_sendApdu P hsize hread d)]
  simp only [hone, htwo, Py.run_lift_ok_bind]
  rfl

end Platform

section

variable {authContext : ℕ} {authData : Text} {first : UInt8} {rest : Bytes}

/-- The data that reaches the card are shorter than those of the request. -/
theorem not_reachesCard_of_read (hcontext : authContext < 256) (hdata : fromHex authData = .ok (first :: rest)) :
    ¬ReachesCard authContext authData (first :: rest) := by
  rintro ⟨raw, cmd, hraw, hcmd, -, hsame⟩
  obtain rfl := Except.ok.inj ((fromHex_simAuthenticationApdu hcontext hdata).symm.trans hraw)
  obtain ⟨cmd', hcmd', -, -, hread⟩ := fromBytes_authenticate (UInt8.ofNat authContext) first rest
  obtain rfl := Except.ok.inj (hcmd'.symm.trans hcmd)
  have hlength := congrArg List.length (hread.symm.trans hsame)
  rw [List.length_take, List.length_cons] at hlength
  omega

/-- **What reaches the card.**  For every context octet and all authentication data of at least one octet the
card gets an AUTHENTICATE command, whose data are the octets behind the first one, as many as that
announces; they are never the data of the request.  `sim_authentication` returns the card's answer to
that command, where the message fits the daemon's buffer. -/
theorem sim_authentication_data (hcontext : authContext < 256) (hdata : fromHex authData = .ok (first :: rest)) :
    (∃ raw cmd, fromHex (simAuthenticationApdu authContext authData) = .ok raw ∧
        ApduCommand.fromBytes raw = .ok cmd ∧ cmd.ins = 0x88 ∧ cmd.p1 = authContext ∧
        cmd.data = rest.take first.toNat ∧
        (apduMessageSize (simAuthenticationApdu authContext authData) ≤ 65536 →
          ∀ (P : Platform) (d : Daemon) (resp : ApduResponse) (card : Card),
            ApduHandler.process P raw d.card = (resp, card) → resp.sw1 < 256 ∧ resp.sw2 < 256 →
              ((simAuthentication P authContext authData).run d).1 =
                .ok ⟨resp.sw1, resp.sw2, hex resp.toBytes⟩)) ∧
      ¬ReachesCard authContext authData (first :: rest) := by
  obtain ⟨cmd, hcmd, hins, hp1, hread⟩ := fromBytes_authenticate (UInt8.ofNat authContext) first rest
  rw [toNat_ofNat_of_lt hcontext] at hp1
  have hraw := fromHex_simAuthenticationApdu hcontext hdata
  refine ⟨⟨_, cmd, hraw, hcmd, hins, hp1, hread, fun hsize P d resp card hprocess hsw => ?_⟩,
    not_reachesCard_of_read hcontext hdata⟩
  have hrun := run_simAuthentication P hcontext hdata hsize d rfl
  rw [hprocess] at hrun
  exact hrun hsw

/-- Data of two octets. -/
theorem sim_authentication_data_two : ¬ReachesCard 0x81 "0102".toList [0x01, 0x02] :=
  (sim_authentication_data (by decide) (by decide)).2

/-- A 3G challenge in the form the card reads, with RAND and AUTN of zeros: what reaches the card has lost the
octet 80, so that the card takes it for 2G. -/
theorem challenge_without_context :
    let octets : Bytes := 0x80 :: 0x10 :: (List.replicate 16 0 ++ 0x10 :: List.replicate 16 0)
    (∃ cmd, ApduCommand.fromBytes (0x00 :: 0x88 :: 0x81 :: 0x00 :: octets) = .ok cmd ∧ cmd.data = octets.tail) ∧
      ¬ReachesCard 0x81 (hex octets) octets := by
  intro octets
  exact ⟨⟨_, rfl, by decide⟩, not_reachesCard_of_read (by decide) (fromHex_hex octets)⟩

end

end VirtualPhone
