import VirtualPhone.AkaReplay
import VirtualPhone.EuiccStore

/-! # The eUICC daemon (`euicc/daemon.py`)

`_process_message` routes a decoded message to the store or to the APDU handler.  A message that
raises ends its connection and nothing else, so a run of the daemon goes on from the state the
exception left behind.

The question for whole runs is whether memory and files stay equal in every persisted field
(`Durable`).  The store saves what it changes; the handler advances a sequence number and does
not.  `durable_iff` turns this into an exact condition on the messages. -/

namespace VirtualPhone

open Runtime

/-- A decoded message; an installation carries the identifier it may draw. -/
inductive DaemonMessage
  | apdu (data : Text)
  | getInfo
  | listProfiles
  | enableProfile (iccid : Text)
  | disableProfile (iccid : Text)
  | installProfile (profile : ProfileData) (uuid : Text)
  | deleteProfile (iccid : Text)
  | getProfileCredentials (iccid : Text)
  | unknown (msgType : Text)
deriving DecidableEq, Repr

/-- `ISDP.to_summary()`. -/
structure ProfileSummary where
  iccid : Text
  imsi : Text
  mcc : Text
  mnc : Text
  spn : Text
  msisdn : Option Text
  state : Text
  profileClass : Text
deriving DecidableEq, Repr

/-- `ISDP.to_summary()`. -/
def Isdp.toSummary (p : Isdp) : ProfileSummary where
  iccid := p.iccid
  imsi := p.imsi
  mcc := p.mcc
  mnc := p.mnc
  spn := p.spn
  msisdn := p.msisdn
  state := p.state.value
  profileClass := p.profileClass.value

/-- `ISDP.get_usim_data()`. -/
structure UsimData where
  imsi : Text
  ki : Text
  opc : Text
  sqn : ℕ
  mcc : Text
  mnc : Text
deriving DecidableEq, Repr

/-- `ISDP.get_usim_data()`. -/
def Isdp.getUsimData (p : Isdp) : UsimData := ⟨p.imsi, p.ki, p.opc, p.sqn, p.mcc, p.mnc⟩

/-- What `_process_message` returns. -/
inductive DaemonResponse
  | apduResponse (data sw : Text)
  | info (info : EuiccInfo) (installedProfiles : ℕ) (activeIccid : Option Text) (state : Text)
  | profiles (data : List ProfileSummary)
  | result (success : Bool) (iccid : Option Text)
  | credentials (usim : UsimData) (isim : Isdp.IsimData)
  | error (message : Text)
deriving DecidableEq, Repr

/-- `EUICCDaemon`: the store and the APDU handler over it. -/
structure Daemon where
  storage : Storage
  handler : ApduHandler := {}
deriving DecidableEq

namespace Daemon

/-- A method of the store. -/
def onStorage {α : Type} (x : Py Storage α) : Py Daemon α :=
  Py.zoom Daemon.storage (fun s d => { d with storage := s }) x

/-- The card the handler works on. -/
def card (d : Daemon) : Card := { handler := d.handler, euicc := d.storage.euicc }

/-- The daemon with the card written back. -/
def withCard (d : Daemon) (c : Card) : Daemon :=
  { storage := d.storage.withEuicc c.euicc, handler := c.handler }

section Platform

variable (P : Platform)

/-- The APDU branch of `_process_message`. -/
def processApdu (data : Text) : Py Daemon DaemonResponse := do
  let raw ← Py.lift (fromHex data)
  let d ← Py.get
  let (response, card) := ApduHandler.process P raw d.card
  Py.modify fun d => d.withCard card
  return .apduResponse (hex response.toBytes)
    ((hex [UInt8.ofNat response.sw1, UInt8.ofNat response.sw2]).map Char.toUpper)

/-- `_process_message(msg)`. -/
def processMessage : DaemonMessage → Py Daemon DaemonResponse
  | .apdu data => processApdu P data
  | .getInfo => do
      let d ← Py.get
      let e := d.storage.euicc
      return .info e.info e.profiles.keys.length e.activeIccid e.state.value
  | .listProfiles => do
      onStorage Euicc.requireReady
      let d ← Py.get
      return .profiles (d.storage.euicc.profiles.values.map Isdp.toSummary)
  | .enableProfile iccid => do
      let ok ← onStorage (Euicc.enableProfile iccid)
      return .result ok none
  | .disableProfile iccid => do
      let ok ← onStorage (Euicc.disableProfile iccid)
      return .result ok none
  | .installProfile profile uuid => do
      let isdp ← onStorage (Euicc.installProfile profile uuid)
      return .result true (some isdp.iccid)
  | .deleteProfile iccid => do
      let ok ← onStorage (Euicc.deleteProfile iccid)
      return .result ok none
  | .getProfileCredentials iccid => do
      let d ← Py.get
      match d.storage.euicc.profiles.get? iccid with
      | none => return .error ("Profile ".toList ++ iccid ++ " not found".toList)
      | some profile => return .credentials profile.getUsimData profile.getIsimData
  | .unknown msgType => return .error ("Unknown message type: ".toList ++ msgType)

/-! ### Runs -/

/-- What happens to the daemon: a message it processes, or a restart of the process that lists the
storage directory in the order `listing`. -/
inductive Event
  | message (msg : DaemonMessage)
  | restart (listing : List Text)
deriving DecidableEq, Repr

/-- The ICCID a message installs is file-safe. -/
def Safe : DaemonMessage → Prop
  | .installProfile profile uuid => EuiccOp.Safe (.install profile uuid)
  | _ => True

instance : DecidablePred Safe := fun msg => by
  unfold Safe
  split <;> infer_instance

/-- The daemon on an empty storage directory. -/
def start (eid : Text) : Daemon := { storage := Storage.start eid }

/-- One event; a message that raises leaves what it has done so far. -/
def step (d : Daemon) : Event → Option Daemon
  | .message msg => if Safe msg then some ((processMessage P msg).run d).2 else none
  | .restart listing =>
      if listing.Perm d.storage.files.keys then some { storage := d.storage.reboot listing } else none

/-- Loading the file of an installed profile gives that profile, in every field. -/
def Durable (d : Daemon) : Prop :=
  ∀ e ∈ d.storage.euicc.profiles.entries,
    (d.storage.files.get? (fileName e.1)).map Isdp.fromDict = some (.ok e.2)

instance : DecidablePred Durable := fun d =>
  inferInstanceAs (Decidable (∀ e ∈ d.storage.euicc.profiles.entries, _))

/-- The message is not an AUTHENTICATE command with a challenge that the active profile accepts. -/
def NoChallenge (d : Daemon) : Event → Prop
  | .message (.apdu data) =>
      ∀ raw, fromHex data = .ok raw → ApduHandler.acceptedBy P d.storage.euicc raw = none
  | _ => True

/-! ### One event -/

/-- What the daemon has in memory is what the store has on file. -/
def InStep (d : Daemon) : Prop := ∃ c, Consistent d.storage c

theorem InStep.durable {d : Daemon} (h : d.InStep) : d.Durable := by
  obtain ⟨c, hc⟩ := h
  rintro ⟨i, p⟩ he
  have hp : c i = some p := by
    rw [← hc.holds.profiles]
    exact (Dict.get?_eq_some_iff _ _ _).mpr he
  rw [hc.mirrors.contents i, hp]
  exact congrArg some (Isdp.fromDict_toDict p)

/-- A message that only calls the store does to the storage what the call does. -/
theorem run_onStorage {α : Type} (x : Py Storage α) (f : α → DaemonResponse) (d : Daemon) :
    ((do let a ← onStorage x; return f a : Py Daemon DaemonResponse).run d).2.storage =
      (x.run d.storage).2 := by
  rw [Py.run_bind, onStorage, Py.run_zoom]
  cases (x.run d.storage).1 <;> rfl

theorem prog_state {α : Type} (x : Py Storage α) (s : Storage) :
    ((do let _ ← x : Py Storage Unit).run s).2 = (x.run s).2 := by
  rw [Py.run_bind]
  rcases x.run s with ⟨_ | _, _⟩ <;> rfl

theorem inStep_call {d : Daemon} {s : Storage} (h : d.InStep) (op : EuiccOp) (hsafe : op.Safe)
    (hs : s = (op.prog.run d.storage).2) : ∃ c, Consistent s c := by
  obtain ⟨c, hc⟩ := h
  have hstep : d.storage.step (.call op) = some s := by
    rw [Storage.step, if_pos hsafe, hs]
  obtain ⟨c', hc', -⟩ := step_call hc hstep
  exact ⟨c', hc'⟩

/-- An APDU changes the storage only through the sequence number of an accepted challenge. -/
theorem run_processApdu (data : Text) (d : Daemon) :
    ((processApdu P data).run d).2.storage =
      match fromHex data with
      | .ok raw => d.storage.withEuicc (ApduHandler.process P raw d.card).2.euicc
      | .error _ => d.storage := by
  rw [processApdu]
  cases fromHex data <;> rfl

/-- **Step lemma.**  Without an accepted challenge an event keeps memory and files in step. -/
theorem step_inStep {d d' : Daemon} {e : Event} (h : d.InStep) (hno : NoChallenge P d e)
    (hs : step P d e = some d') : d'.InStep := by
  cases e with
  | restart listing =>
      rw [step] at hs
      split_ifs at hs with hl
      obtain rfl := Option.some.inj hs
      obtain ⟨c, hc⟩ := h
      exact ⟨c, step_restart hc (if_pos hl)⟩
  | message msg =>
      rw [step] at hs
      split_ifs at hs with hsafe
      obtain rfl := Option.some.inj hs
      cases msg with
      | apdu data =>
          have hrun := run_processApdu P data d
          have hsame : ((processApdu P data).run d).2.storage = d.storage := by
            rw [hrun]
            cases hraw : fromHex data with
            | error e => rfl
            | ok raw =>
                rcases ApduHandler.process_spec P raw d.card with ⟨ch, hacc, -⟩ | ⟨-, he, -⟩
                · rw [card, hno raw hraw] at hacc
                  cases hacc
                · simp only [he]
                  rfl
          obtain ⟨c, hc⟩ := h
          exact ⟨c, by rw [processMessage, hsame]; exact hc⟩
      | getInfo => exact h
      | unknown msgType => exact h
      | listProfiles =>
          obtain ⟨c, hc⟩ := h
          refine ⟨c, ?_⟩
          have hready : (onStorage Euicc.requireReady).run d = (.ok (), d) := by
            rw [onStorage, Py.run_zoom, Euicc.run_requireReady hc.holds.ready]
          rw [processMessage, Py.run_bind_ok hready]
          exact hc
      | getProfileCredentials iccid =>
          refine h.imp fun c hc => ?_
          rw [processMessage, Py.run_get_bind]
          cases d.storage.euicc.profiles.get? iccid <;> exact hc
      | enableProfile iccid =>
          refine inStep_call h (.enable iccid) trivial ?_
          rw [processMessage, run_onStorage, EuiccOp.prog, prog_state]
      | disableProfile iccid =>
          refine inStep_call h (.disable iccid) trivial ?_
          rw [processMessage, run_onStorage, EuiccOp.prog, prog_state]
      | installProfile profile uuid =>
          refine inStep_call h (.install profile uuid) hsafe ?_
          rw [processMessage, run_onStorage, EuiccOp.prog, prog_state]
      | deleteProfile iccid =>
          refine inStep_call h (.delete iccid) trivial ?_
          rw [processMessage, run_onStorage, EuiccOp.prog, prog_state]

theorem not_durable_of_accepted {d : Daemon} (h : d.Durable) {data : Text} {raw : Bytes}
    {ch : ApduHandler.Challenge} (hraw : fromHex data = .ok raw)
    (hacc : ApduHandler.acceptedBy P d.storage.euicc raw = some ch) :
    ¬ ((processApdu P data).run d).2.Durable := by
  intro hafter
  have hrun := run_processApdu P data d
  rw [hraw] at hrun
  have he : (ApduHandler.process P raw d.card).2.euicc =
      ApduHandler.incrementActive d.storage.euicc := by
    rcases ApduHandler.process_spec P raw d.card with ⟨_, -, he, -⟩ | ⟨hnone, -⟩
    · exact he
    · rw [card, hacc] at hnone
      cases hnone
  obtain ⟨v, -, hacc'⟩ := Option.bind_eq_some_iff.mp hacc
  obtain ⟨p, mil, r, hactive, -⟩ := (ApduHandler.accepts_eq_some_iff P _ _ _ _).mp hacc'
  obtain ⟨iccid, hiccid, hp⟩ := Euicc.getActiveProfile_eq_some hactive
  have hp' : (ApduHandler.incrementActive d.storage.euicc).profiles.get? iccid =
      some p.incrementSqn := by
    rw [ApduHandler.incrementActive, hiccid]
    simp only [Dict.get?_modify, hp, if_true, Option.map_some]
  have hbefore := h (iccid, p) ((Dict.get?_eq_some_iff _ _ _).mp hp)
  have hmem : (iccid, p.incrementSqn) ∈
      ((processApdu P data).run d).2.storage.euicc.profiles.entries := by
    rw [hrun]
    simp only [he, Storage.withEuicc_euicc]
    exact (Dict.get?_eq_some_iff _ _ _).mp hp'
  have hsame := hafter _ hmem
  rw [hrun] at hsame
  simp only [Storage.withEuicc_files] at hsame
  rw [hbefore] at hsame
  have heq : p = p.incrementSqn := Except.ok.inj (Option.some.inj hsame)
  have hsqn := congrArg Isdp.sqn heq
  simp only [Isdp.incrementSqn] at hsqn
  omega

/-! ### Runs -/

theorem start_inStep (eid : Text) : (start eid).InStep := ⟨_, start_consistent eid⟩

/-- **Durable profile state, and where it ends.**  Along a run of the daemon from an empty storage
directory, with restarts anywhere, every state reached has each installed profile on file in every
field if and only if no message of the run is an AUTHENTICATE command whose challenge the active
profile accepts; and while that is so, a restart changes neither the profiles nor the active one. -/
theorem durable_iff (eid : Text) (events : List Event) :
    ((∀ pre d, pre <+: events → runFrom (step P) (start eid) pre = some d → d.Durable) ↔
      Along (step P) (NoChallenge P) (start eid) events) ∧
    ∀ d listing d', Along (step P) (NoChallenge P) (start eid) events →
      runFrom (step P) (start eid) events = some d → step P d (.restart listing) = some d' →
      d'.storage.euicc.catalogue = d.storage.euicc.catalogue ∧
        d'.storage.euicc.activeIccid = d.storage.euicc.activeIccid := by
  have hinStep : ∀ pre d, Along (step P) (NoChallenge P) (start eid) pre →
      runFrom (step P) (start eid) pre = some d → d.InStep :=
    fun pre d hno hrun => runFrom_invariant (step P)
      (fun _ _ _ hd hn hs => step_inStep P hd hn hs) (start_inStep eid) hno hrun
  refine ⟨⟨?_, ?_⟩, ?_⟩
  · intro hdurable
    refine (along_iff_split (step P)).mpr ?_
    rintro pre e post d rfl hrun
    cases e with
    | restart listing => trivial
    | message msg =>
        cases msg with
        | apdu data =>
            intro raw hraw
            by_contra hne
            obtain ⟨ch, hacc⟩ := Option.ne_none_iff_exists'.mp hne
            have hd := hdurable pre d ⟨_, rfl⟩ hrun
            refine not_durable_of_accepted P hd hraw hacc ?_
            refine hdurable (pre ++ [.message (.apdu data)]) _ ⟨post, by simp⟩ ?_
            rw [runFrom_append, hrun]
            rfl
        | _ => trivial
  · intro hno pre d hpre hrun
    exact (hinStep pre d (hno.beginning _ hpre) hrun).durable
  · intro d listing d' hno hrun hs
    obtain ⟨c, hc⟩ := hinStep events d hno hrun
    rw [step] at hs
    split_ifs at hs with hl
    obtain rfl := Option.some.inj hs
    have hc' : Consistent (d.storage.reboot listing) c := step_restart hc (if_pos hl)
    refine ⟨hc'.holds.catalogue_eq.trans hc.holds.catalogue_eq.symm, Option.ext fun i => ?_⟩
    exact (hc'.holds.active i).trans (hc.holds.active i).symm

end Platform

/-- A subscriber with zero keys is installed and enabled, and authenticates once. -/
def zeroRun : List Event :=
  [.message (.installProfile
      { iccid := some ['1'], imsi := some [], ki := some (List.replicate 32 '0'),
        opc := some (List.replicate 32 '0') } []),
    .message (.enableProfile ['1']),
    .message (.apdu (hex (ApduHandler.zeroChallenge 0)))]

/-- The two messages before the authentication, and a restart. -/
theorem durable_iff_zero :
    ∃ d, runFrom (step ApduHandler.zeroPlatform) (start ['8']) (zeroRun.take 2) = some d ∧
      d.Durable ∧ ∀ d', step ApduHandler.zeroPlatform d (.restart ["1.json".toList]) = some d' →
        d'.storage.euicc.catalogue = d.storage.euicc.catalogue := by
  have hrun : (runFrom (step ApduHandler.zeroPlatform) (start ['8']) (zeroRun.take 2)).isSome := by
    decide +kernel
  obtain ⟨d, hd⟩ := Option.isSome_iff_exists.mp hrun
  have hno : Along (step ApduHandler.zeroPlatform) (NoChallenge ApduHandler.zeroPlatform) (start ['8'])
      (zeroRun.take 2) := ⟨trivial, fun _ _ => ⟨trivial, fun _ _ => trivial⟩⟩
  have h := durable_iff ApduHandler.zeroPlatform ['8'] (zeroRun.take 2)
  exact ⟨d, hd, h.1.mpr hno _ d (List.prefix_refl _) hd, fun d' hs => (h.2 d _ d' hno hd hs).1⟩

/-- After the authentication the sequence number in memory is not the one on file. -/
theorem authenticate_not_durable :
    ¬ ∀ (P : Platform) (eid : Text) (events : List Event) (d : Daemon),
      runFrom (step P) (start eid) events = some d → d.Durable := by
  intro h
  have hrun : (runFrom (step ApduHandler.zeroPlatform) (start ['8']) zeroRun).any
      (fun d => !decide d.Durable) = true := by
    decide +kernel
  obtain ⟨d, hd, hnot⟩ := Option.any_eq_true _ _ |>.mp hrun
  have := h ApduHandler.zeroPlatform ['8'] zeroRun d hd
  simp [this] at hnot

end Daemon

end VirtualPhone
