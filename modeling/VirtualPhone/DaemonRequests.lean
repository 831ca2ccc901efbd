import VirtualPhone.Daemon
import VirtualPhone.EuiccMemory
import VirtualPhone.Json

/-! # Requests to the daemon (`euicc/daemon.py`)

A message whose fields have the types that `_process_message` expects of them, as the parties of a
download send them: `DaemonRequest.ofFields` reads it from the fields of a JSON object, `Daemon.answer`
is what it is answered with, where it is answered.

What the language writes of a value is a parameter. -/

namespace VirtualPhone

open Runtime

/-! ### Messages in JSON -/

/-- What `str(value)` returns. -/
structure JsonLibrary where
  str : Json → Text

namespace Json

/-- Whether the value can be the key of a dictionary. -/
def hashable : Json → Bool
  | arr _ => false
  | obj _ => false
  | _ => true

/-- A field of a package that is a string, where it is there; `none` for a value of another type. -/
def text? : Option Json → Option (Option Text)
  | none => some none
  | some (str s) => some (some s)
  | some _ => none

/-- A field of a package that is a string or null. -/
def optionalText? : Option Json → Option (Option Text)
  | some null => some none
  | v => text? v

/-- A field of a package that is an integer. -/
def int? : Option Json → Option (Option ℤ)
  | none => some none
  | some (int n) => some (some n)
  | some _ => none

end Json

/-- The package of an installation, if its fields have the types of the fields of an `ISDP`. -/
def ProfileData.ofFields (fields : List (Text × Json)) : Option ProfileData := do
  let iccid ← Json.text? (Json.get? fields "iccid")
  let imsi ← Json.text? (Json.get? fields "imsi")
  let ki ← Json.text? (Json.get? fields "ki")
  let opc ← Json.text? (Json.get? fields "opc")
  let mcc ← Json.text? (Json.get? fields "mcc")
  let mnc ← Json.text? (Json.get? fields "mnc")
  let spn ← Json.text? (Json.get? fields "spn")
  let msisdn ← Json.optionalText? (Json.get? fields "msisdn")
  let impi ← Json.optionalText? (Json.get? fields "impi")
  let impu ← Json.optionalText? (Json.get? fields "impu")
  let homeDomain ← Json.optionalText? (Json.get? fields "home_domain")
  let aid ← Json.text? (Json.get? fields "aid")
  let profileSize ← Json.int? (Json.get? fields "profile_size")
  return { iccid, imsi, ki, opc, mcc, mnc, spn, msisdn, impi, impu, homeDomain, aid, profileSize }

/-- A message as `_process_message` takes it: with fields of the types it expects, or with one that is
looked up among the keys of the profiles and cannot be there, or with one that makes it raise. -/
inductive DaemonRequest
  | message (msg : DaemonMessage)
  | noProfile (iccid : Text)
  | invalid (checked : Bool) (e : PyError)
deriving DecidableEq, Repr

namespace DaemonRequest

/-- A message about the profile with a key: of the keys only strings are ICCIDs. -/
def keyed (J : JsonLibrary) (msg : Text → DaemonMessage) : Option Json → DaemonRequest
  | none => .message (msg [])
  | some (.str iccid) => .message (msg iccid)
  | some v => .invalid true (if v.hashable then .keyError
      ("Profile ".toList ++ J.str v ++ " not found".toList) else .typeError)

/-- The message that an object stands for; `uuid` is the identifier that an installation may draw.
There is none for a package whose fields have other types than those of an `ISDP`. -/
def ofFields (J : JsonLibrary) (uuid : Text) (fields : List (Text × Json)) : Option DaemonRequest :=
  match Json.get? fields "type" with
  | some (.str msgType) =>
      if msgType = "apdu".toList then
        match Json.get? fields "data" with
        | none => some (.message (.apdu []))
        | some (.str data) => some (.message (.apdu data))
        | some _ => some (.invalid false .typeError)
      else if msgType = "get_info".toList then some (.message .getInfo)
      else if msgType = "list_profiles".toList then some (.message .listProfiles)
      else if msgType = "enable_profile".toList then
        some (keyed J .enableProfile (Json.get? fields "iccid"))
      else if msgType = "disable_profile".toList then
        some (keyed J .disableProfile (Json.get? fields "iccid"))
      else if msgType = "install_profile".toList then
        match Json.get? fields "profile" with
        | none => some (.message (.installProfile {} uuid))
        | some (.obj package) =>
            (ProfileData.ofFields package).map fun data => .message (.installProfile data uuid)
        | some _ => some (.invalid true .typeError)
      else if msgType = "delete_profile".toList then
        some (keyed J .deleteProfile (Json.get? fields "iccid"))
      else if msgType = "get_profile_credentials".toList then
        match Json.get? fields "iccid" with
        | none => some (.message (.getProfileCredentials []))
        | some (.str iccid) => some (.message (.getProfileCredentials iccid))
        | some v => some (if v.hashable then .noProfile (J.str v) else .invalid false .typeError)
      else some (.message (.unknown msgType))
  | some v => some (.message (.unknown (J.str v)))
  | none => some (.message (.unknown "None".toList))

/-- `_process_message(msg)`. -/
def process (P : Platform) : DaemonRequest → Py Daemon DaemonResponse
  | .message msg => Daemon.processMessage P msg
  | .noProfile iccid => return .error ("Profile ".toList ++ iccid ++ " not found".toList)
  | .invalid true e => do
      Daemon.onStorage Euicc.requireReady
      Py.raise e
  | .invalid false e => Py.raise e

end DaemonRequest

/-! ### Answers -/

/-- The next `k` operations on files succeed. -/
def Storage.Allows (s : Storage) (k : ℕ) : Prop := ∀ n ∈ s.failAfter, k ≤ n

instance (s : Storage) (k : ℕ) : Decidable (s.Allows k) := inferInstanceAs (Decidable (∀ _ ∈ _, _))

@[simp] theorem Storage.allows_withEuicc (s : Storage) (e : Euicc) (k : ℕ) :
    (s.withEuicc e).Allows k ↔ s.Allows k := Iff.rfl

/-- How many files a switch of the profile writes. -/
def Euicc.switchWrites (e : Euicc) : ℕ := if e.getActiveProfile.isSome then 2 else 1

/-- An installation goes through: the package is complete, new, and fits, and its file is written. -/
def Storage.Installs (s : Storage) (data : ProfileData) (iccid : Text) : Prop :=
  s.euicc.state = .ready ∧ data.Complete iccid ∧ iccid ∉ s.euicc.profiles.keys ∧
    data.size ≤ s.euicc.info.freeNvram ∧ s.Allows 1

instance (s : Storage) (data : ProfileData) (iccid : Text) : Decidable (s.Installs data iccid) :=
  inferInstanceAs (Decidable (_ ∧ (_ ∧ _) ∧ _))

/-- A switch goes through: the profile is installed, and enabled or its files can be written. -/
def Storage.Enables (s : Storage) (iccid : Text) : Prop :=
  s.euicc.state = .ready ∧
    ∃ p ∈ s.euicc.profiles.get? iccid, p.state = .enabled ∨ s.Allows s.euicc.switchWrites

instance (s : Storage) (iccid : Text) : Decidable (s.Enables iccid) :=
  inferInstanceAs (Decidable (_ ∧ ∃ _ ∈ _, _))

/-- A disabling goes through. -/
def Storage.Disables (s : Storage) (iccid : Text) : Prop :=
  s.euicc.state = .ready ∧ ∃ p ∈ s.euicc.profiles.get? iccid, p.state = .disabled ∨ s.Allows 1

instance (s : Storage) (iccid : Text) : Decidable (s.Disables iccid) :=
  inferInstanceAs (Decidable (_ ∧ ∃ _ ∈ _, _))

/-- A deletion goes through. -/
def Storage.Deletes (s : Storage) (iccid : Text) : Prop :=
  s.euicc.state = .ready ∧ iccid ∈ s.euicc.profiles.keys ∧ s.Allows 1

instance (s : Storage) (iccid : Text) : Decidable (s.Deletes iccid) :=
  inferInstanceAs (Decidable (_ ∧ _))

namespace Daemon

variable (P : Platform)

/-- The answer to a message, if it has one. -/
def answer (d : Daemon) : DaemonMessage → Option DaemonResponse
  | .apdu data =>
      (fromHex data).toOption.map fun raw =>
        let response := (ApduHandler.process P raw d.card).1
        .apduResponse (hex response.toBytes)
          ((hex [UInt8.ofNat response.sw1, UInt8.ofNat response.sw2]).map Char.toUpper)
  | .getInfo =>
      let e := d.storage.euicc
      some (.info e.info e.profiles.keys.length e.activeIccid e.state.value)
  | .listProfiles =>
      if d.storage.euicc.state = .ready then
        some (.profiles (d.storage.euicc.profiles.values.map Isdp.toSummary))
      else none
  | .enableProfile iccid => if d.storage.Enables iccid then some (.result true none) else none
  | .disableProfile iccid => if d.storage.Disables iccid then some (.result true none) else none
  | .installProfile data _ =>
      data.iccid.bind fun iccid =>
        if d.storage.Installs data iccid then some (.result true (some iccid)) else none
  | .deleteProfile iccid => if d.storage.Deletes iccid then some (.result true none) else none
  | .getProfileCredentials iccid =>
      match d.storage.euicc.profiles.get? iccid with
      | none => some (.error ("Profile ".toList ++ iccid ++ " not found".toList))
      | some profile => some (.credentials profile.getUsimData profile.getIsimData)
  | .unknown msgType => some (.error ("Unknown message type: ".toList ++ msgType))

end Daemon

/-! ### Which calls go through -/

theorem fileOperation_allowed (f : Files → Files) {s : Storage} (h : s.Allows 1) :
    ∃ s', (fileOperation f).run s = (.ok (), s') ∧ s'.euicc = s.euicc ∧
      ∀ k, s'.Allows k ↔ s.Allows (k + 1) := by
  unfold Storage.Allows at h ⊢
  cases hfail : s.failAfter with
  | none => exact ⟨_, fileOperation_unlimited f hfail, rfl, fun k => by simp [hfail]⟩
  | some n =>
      obtain ⟨m, rfl⟩ := Nat.exists_eq_add_of_le' (h n hfail)
      exact ⟨_, fileOperation_counted f hfail, rfl, fun k => by simp⟩

theorem fileOperation_denied (f : Files → Files) {s : Storage} (h : ¬s.Allows 1) :
    (fileOperation f).run s = (.error .osError, s) := by
  have hfail : s.failAfter = some 0 := by
    obtain ⟨n, hn⟩ := not_forall.mp h
    obtain ⟨hn, hlt⟩ := Classical.not_imp.mp hn
    rw [hn, Nat.lt_one_iff.mp (Nat.lt_of_not_le hlt)]
  exact fileOperation_failing f hfail

namespace Euicc

variable {s : Storage} {i : Text}

theorem requireReady_bind {α : Type} (f : Unit → Py Storage α) (s : Storage) :
    (requireReady >>= f).result? s = if s.euicc.state = .ready then (f ()).result? s else none := by
  split_ifs with h
  · exact Py.result?_bind_run (run_requireReady h) f
  · have hraise : ∃ e, requireReady.run s = (.error e, s) := by
      rw [requireReady, Py.run_get_bind, if_pos h]
      exact ⟨_, rfl⟩
    obtain ⟨e, he⟩ := hraise
    exact Py.result?_bind_error he f

theorem saveProfile_result (p : Isdp) (s : Storage) :
    (saveProfile p).result? s = if s.Allows 1 then some () else none := by
  unfold saveProfile Py.result?
  split_ifs with h
  · obtain ⟨s', hrun, -⟩ := fileOperation_allowed (fun files => files.set (fileName p.iccid) p.toDict) h
    rw [hrun]
    rfl
  · rw [fileOperation_denied _ h]
    rfl

theorem saveProfile_bind {α : Type} (p : Isdp) (a : α) (s : Storage) :
    (do saveProfile p; return a : Py Storage α).result? s = if s.Allows 1 then some a else none := by
  rw [Py.result?_bind, saveProfile_result]
  split_ifs with h
  · rfl
  · rfl

theorem releaseActive_writes (s : Storage) :
    (∃ s₁, releaseActive.run s = (.ok (), s₁) ∧ (s₁.Allows 1 ↔ s.Allows s.euicc.switchWrites)) ∨
      ∃ s₁ e, releaseActive.run s = (.error e, s₁) ∧ ¬s.Allows s.euicc.switchWrites := by
  unfold releaseActive switchWrites
  rw [Py.run_get_bind]
  cases hactive : s.euicc.getActiveProfile with
  | none =>
      refine Or.inl ⟨s, ?_, Iff.rfl⟩
      cases s.euicc.activeIccid with
      | none => rfl
      | some active => rfl
  | some current =>
      obtain ⟨active, hiccid, -⟩ := getActiveProfile_eq_some hactive
      simp only [hiccid, Option.isSome_some, if_true]
      rw [Py.run_bind_ok (run_update _ s)]
      unfold saveProfile
      by_cases h : (s.withEuicc (s.euicc.withState active .disabled)).Allows 1
      · obtain ⟨s₁, hrun, -, hallows⟩ := fileOperation_allowed (fun files =>
          files.set (fileName current.iccid) (current.withState .disabled).toDict) h
        exact Or.inl ⟨s₁, hrun, hallows 1⟩
      · refine Or.inr ⟨_, _, fileOperation_denied _ h, fun htwo => h fun n hn => ?_⟩
        exact (Nat.le_succ 1).trans (htwo n hn)

theorem enableProfile_result (s : Storage) (i : Text) :
    (enableProfile i).result? s = if s.Enables i then some true else none := by
  unfold enableProfile
  rw [requireReady_bind]
  by_cases hready : s.euicc.state = .ready
  · rw [if_pos hready]
    cases hi : s.euicc.profiles.get? i with
    | none =>
        have hno : ¬s.Enables i := by
          rintro ⟨-, p, hp, -⟩
          rw [hi] at hp
          cases hp
        rw [Py.result?_bind_error (find_none hi), if_neg hno]
    | some target =>
        rw [Py.result?_bind_run (find_some hi)]
        by_cases hstate : target.state = .enabled
        · rw [if_pos hstate, if_pos ⟨hready, target, hi, Or.inl hstate⟩]
          rfl
        · rw [if_neg hstate]
          have hiff : s.Enables i ↔ s.Allows s.euicc.switchWrites := by
            refine ⟨?_, fun h => ⟨hready, target, hi, Or.inr h⟩⟩
            rintro ⟨-, p, hp, h⟩
            obtain rfl := Option.some.inj (hi.symm.trans hp)
            exact h.resolve_left hstate
          rcases releaseActive_writes s with ⟨s₁, hrun, hallows⟩ | ⟨s₁, e, hrun, hdenied⟩
          · rw [Py.result?_bind_run hrun, Py.result?_bind_run (run_update _ _),
              Py.result?_bind_run (run_update _ _), saveProfile_bind]
            exact if_congr (hallows.trans hiff.symm) rfl rfl
          · rw [Py.result?_bind_error hrun, if_neg fun h => hdenied (hiff.mp h)]
  · rw [if_neg hready, if_neg fun h => hready h.1]

theorem disableProfile_result (s : Storage) (i : Text) :
    (disableProfile i).result? s = if s.Disables i then some true else none := by
  unfold disableProfile
  rw [requireReady_bind]
  by_cases hready : s.euicc.state = .ready
  · rw [if_pos hready]
    cases hi : s.euicc.profiles.get? i with
    | none =>
        have hno : ¬s.Disables i := by
          rintro ⟨-, p, hp, -⟩
          rw [hi] at hp
          cases hp
        rw [Py.result?_bind_error (find_none hi), if_neg hno]
    | some target =>
        rw [Py.result?_bind_run (find_some hi)]
        by_cases hstate : target.state = .disabled
        · rw [if_pos hstate, if_pos ⟨hready, target, hi, Or.inl hstate⟩]
          rfl
        · rw [if_neg hstate, Py.result?_bind_run (run_update _ _), Py.result?_bind, saveProfile_result]
          change (if s.Allows 1 then some () else none).bind _ = _
          by_cases h : s.Allows 1
          · rw [if_pos h, if_pos ⟨hready, target, hi, Or.inr h⟩]
            rfl
          · have hno : ¬s.Disables i := by
              rintro ⟨-, p, hp, hd⟩
              obtain rfl := Option.some.inj (hi.symm.trans hp)
              exact hd.elim hstate h
            rw [if_neg h, if_neg hno]
            rfl
  · rw [if_neg hready, if_neg fun h => hready h.1]

theorem deleteProfile_result (s : Storage) (i : Text) :
    (deleteProfile i).result? s = if s.Deletes i then some true else none := by
  unfold deleteProfile
  rw [requireReady_bind]
  by_cases hready : s.euicc.state = .ready
  · rw [if_pos hready]
    cases hi : s.euicc.profiles.get? i with
    | none =>
        have hno : ¬s.Deletes i := fun h => (Dict.get?_eq_none_iff _ _).mp hi h.2.1
        rw [Py.result?_bind_error (find_none hi), if_neg hno]
    | some target =>
        have hmem : i ∈ s.euicc.profiles.keys := Dict.mem_keys_of_get? hi
        rw [Py.result?_bind_run (find_some hi), Py.result?_bind_run (run_update _ _),
          Py.result?_bind_run (run_update _ _)]
        obtain ⟨s₁, hs₁, hallows⟩ : ∃ s₁, (s.withEuicc (s.euicc.dropActive i)).withEuicc
            ((s.withEuicc (s.euicc.dropActive i)).euicc.withoutProfile i) = s₁ ∧
              (s₁.Allows 1 ↔ s.Allows 1) := ⟨_, rfl, Iff.rfl⟩
        rw [hs₁]
        unfold deleteProfileFile
        by_cases h : s₁.Allows 1
        · obtain ⟨s', hrun, -⟩ := fileOperation_allowed (fun files => files.erase (fileName i)) h
          rw [if_pos ⟨hready, hmem, hallows.mp h⟩]
          exact Py.result?_bind_run hrun _
        · rw [if_neg fun hd => h (hallows.mpr hd.2.2)]
          exact Py.result?_bind_error (fileOperation_denied _ h) _
  · rw [if_neg hready, if_neg fun h => hready h.1]

theorem required_bind {α : Type} (key : Text) (v : Option Text) (f : Text → Py Storage α)
    (s : Storage) :
    (required key v >>= f).result? s = v.bind fun a => (f a).result? s := by
  cases v with
  | none => rfl
  | some a => rfl

theorem installProfile_result (s : Storage) (data : ProfileData) (uuid : Text) :
    ((installProfile data uuid).result? s).map Isdp.iccid =
      data.iccid.bind fun iccid => if s.Installs data iccid then some iccid else none := by
  unfold installProfile
  rw [requireReady_bind]
  by_cases hready : s.euicc.state = .ready
  · rw [if_pos hready, required_bind]
    cases hiccid : data.iccid with
    | none => rfl
    | some iccid =>
        rw [Option.bind_some, Option.bind_some]
        change Option.map _ (Py.result? (if iccid ∈ s.euicc.profiles.keys then _ else _) s) = _
        by_cases hmem : iccid ∈ s.euicc.profiles.keys
        · rw [if_pos hmem, if_neg fun h => h.2.2.1 hmem]
          rfl
        · rw [if_neg hmem]
          by_cases hsize : data.size > s.euicc.info.freeNvram
          · have hno : ¬s.Installs data iccid := fun h => absurd h.2.2.2.1 (not_le.mpr hsize)
            rw [if_neg hno]
            change Option.map _ (Py.result? (if data.size > s.euicc.info.freeNvram then _ else _) s) = _
            rw [if_pos hsize]
            rfl
          · change Option.map _ (Py.result? (if data.size > s.euicc.info.freeNvram then _ else _) s) = _
            rw [if_neg hsize, required_bind]
            cases himsi : data.imsi with
            | none => exact (if_neg fun h => by simpa [himsi] using h.2.1.2.1).symm
            | some imsi =>
                rw [Option.bind_some, required_bind]
                cases hki : data.ki with
                | none => exact (if_neg fun h => by simpa [hki] using h.2.1.2.2.1).symm
                | some ki =>
                    rw [Option.bind_some, required_bind]
                    cases hopc : data.opc with
                    | none => exact (if_neg fun h => by simpa [hopc] using h.2.1.2.2.2).symm
                    | some opc =>
                        rw [Option.bind_some, Py.result?_bind_run (run_update _ _), saveProfile_bind]
                        have hcomplete : data.Complete iccid :=
                          ⟨hiccid, himsi ▸ rfl, hki ▸ rfl, hopc ▸ rfl⟩
                        simp only [Storage.allows_withEuicc]
                        by_cases h : s.Allows 1
                        · rw [if_pos h, if_pos ⟨hready, hcomplete, hmem, not_lt.mp hsize, h⟩]
                          rfl
                        · rw [if_neg h, if_neg fun hi => h hi.2.2.2.2]
                          rfl
  · rw [if_neg hready]
    cases data.iccid with
    | none => rfl
    | some iccid => exact (if_neg fun h => hready h.1).symm

end Euicc

namespace Daemon

/-- A message that only calls the store returns what the call returns. -/
theorem onStorage_result {α : Type} (x : Py Storage α) (f : α → DaemonResponse) (d : Daemon) :
    (do let a ← onStorage x; return f a : Py Daemon DaemonResponse).result? d =
      (x.result? d.storage).map f := by
  rw [Py.result?_bind]
  change (x.result? d.storage).bind _ = _
  cases x.result? d.storage with
  | none => rfl
  | some a => rfl

theorem requireReady_none {α : Type} {d : Daemon} (h : d.storage.euicc.state ≠ .ready)
    (f : Unit → Py Daemon α) :
    (onStorage Euicc.requireReady >>= f).result? d = none := by
  have hnone := Euicc.requireReady_bind (pure : Unit → Py Storage Unit) d.storage
  rw [if_neg h, Py.result?_bind] at hnone
  rw [Py.result?_bind]
  change (Euicc.requireReady.result? d.storage).bind _ = none
  cases hr : Euicc.requireReady.result? d.storage with
  | none => rfl
  | some a =>
      rw [hr] at hnone
      cases hnone

/-- **One message.**  `_process_message` returns the answer to a message, and raises where there is
none. -/
theorem processMessage_result (P : Platform) (d : Daemon) (msg : DaemonMessage) :
    (processMessage P msg).result? d = d.answer P msg := by
  cases msg with
  | apdu data =>
      change (processApdu P data).result? d = (fromHex data).toOption.map _
      unfold processApdu
      cases fromHex data with
      | error e => rfl
      | ok raw => rfl
  | getInfo => rfl
  | listProfiles =>
      by_cases hready : d.storage.euicc.state = .ready
      · have hrun : (onStorage Euicc.requireReady).run d = (.ok (), d) := by
          rw [onStorage, Py.run_zoom, Euicc.run_requireReady hready]
        simp only [processMessage, answer, if_pos hready]
        exact Py.result?_bind_run hrun _
      · simp only [processMessage, answer, if_neg hready]
        exact requireReady_none hready _
  | enableProfile iccid =>
      refine (onStorage_result _ _ d).trans ?_
      rw [Euicc.enableProfile_result]
      change _ = if d.storage.Enables iccid then _ else _
      split_ifs <;> rfl
  | disableProfile iccid =>
      refine (onStorage_result _ _ d).trans ?_
      rw [Euicc.disableProfile_result]
      change _ = if d.storage.Disables iccid then _ else _
      split_ifs <;> rfl
  | deleteProfile iccid =>
      refine (onStorage_result _ _ d).trans ?_
      rw [Euicc.deleteProfile_result]
      change _ = if d.storage.Deletes iccid then _ else _
      split_ifs <;> rfl
  | installProfile data uuid =>
      have hinstall := congrArg (Option.map fun iccid => DaemonResponse.result true (some iccid))
        (Euicc.installProfile_result d.storage data uuid)
      refine (onStorage_result _ _ d).trans ?_
      rw [Option.map_map] at hinstall
      refine hinstall.trans ?_
      change _ = data.iccid.bind _
      cases data.iccid with
      | none => rfl
      | some iccid =>
          rw [Option.bind_some, Option.bind_some]
          split_ifs <;> rfl
  | getProfileCredentials iccid =>
      cases hp : d.storage.euicc.profiles.get? iccid with
      | none =>
          simp only [processMessage, answer, Py.result?, Py.run_get_bind, hp]
          rfl
      | some profile =>
          simp only [processMessage, answer, Py.result?, Py.run_get_bind, hp]
          rfl
  | unknown msgType => rfl

end Daemon

/-! ### The connection -/

/-- The answer to a message as `_process_message` takes it. -/
def DaemonRequest.answer (P : Platform) (d : Daemon) : DaemonRequest → Option DaemonResponse
  | .message msg => d.answer P msg
  | .noProfile iccid => some (.error ("Profile ".toList ++ iccid ++ " not found".toList))
  | .invalid _ _ => none

theorem DaemonRequest.process_result (P : Platform) (d : Daemon) (request : DaemonRequest) :
    (request.process P).result? d = request.answer P d := by
  cases request with
  | message msg => exact Daemon.processMessage_result P d msg
  | noProfile iccid => rfl
  | invalid checked e =>
      cases checked with
      | false => rfl
      | true =>
          change (Daemon.onStorage Euicc.requireReady >>= fun _ => Py.raise e).result? d = none
          rw [Py.result?_bind]
          cases (Daemon.onStorage Euicc.requireReady).result? d with
          | none => rfl
          | some a => rfl

end VirtualPhone
