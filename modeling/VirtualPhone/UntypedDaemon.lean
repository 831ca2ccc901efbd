import VirtualPhone.UntypedFiles

/-! # The daemon on messages of any values (`euicc/daemon.py`)

`_process_message` takes the fields of a JSON object as they come.  `Answers` is the table of what is
answered: for each type of message the condition on its fields, on the daemon and on the files under
which there is a response, and the response.  `processMessage_answers` says that the method returns
exactly what the table has, and raises otherwise. -/

namespace VirtualPhone

namespace Untyped

open Runtime

variable {F φ : Type}

/-- The types of messages that `_process_message` knows. -/
inductive MessageType
  | apdu
  | getInfo
  | listProfiles
  | enableProfile
  | disableProfile
  | installProfile
  | deleteProfile
  | getProfileCredentials
deriving DecidableEq, Repr

namespace MessageType

def name : MessageType → String
  | apdu => "apdu"
  | getInfo => "get_info"
  | listProfiles => "list_profiles"
  | enableProfile => "enable_profile"
  | disableProfile => "disable_profile"
  | installProfile => "install_profile"
  | deleteProfile => "delete_profile"
  | getProfileCredentials => "get_profile_credentials"

/-- `msg_type == name`. -/
def named (msgType : PyValue F) (t : MessageType) : Bool :=
  match msgType with
  | .scalar (.str s) => decide (s = .ofText t.name.toList)
  | _ => false

/-- The branch that a message takes. -/
def ofValue (msgType : PyValue F) : Option MessageType :=
  [apdu, getInfo, listProfiles, enableProfile, disableProfile, installProfile, deleteProfile,
    getProfileCredentials].find? (named msgType)

end MessageType

/-- `EUICCDaemon`: the store and the APDU handler over it. -/
structure Daemon (F φ : Type) where
  storage : Storage F φ
  handler : VirtualPhone.ApduHandler := {}

namespace Daemon

/-- A method of the store. -/
def onStorage {α : Type} (x : Py (Storage F φ) α) : Py (Daemon F φ) α :=
  Py.zoom Daemon.storage (fun s d => { d with storage := s }) x

/-- The card the handler works on. -/
def card (d : Daemon F φ) : Card F := { handler := d.handler, euicc := d.storage.euicc }

/-- The daemon with the card written back. -/
def withCard (d : Daemon F φ) (c : Card F) : Daemon F φ :=
  { storage := d.storage.withEuicc c.euicc, handler := c.handler }

/-! ### Responses -/

def apduResponse (response : ApduResponse) : Entries F := entries [
  ("type", .text "apdu_response".toList),
  ("data", .text (hex response.toBytes)),
  ("sw", .text ((hex [UInt8.ofNat response.sw1, UInt8.ofNat response.sw2]).map Char.toUpper))]

def infoResponse (e : Euicc F) : Entries F := entries [
  ("type", .text "info".toList),
  ("data", .dict e.getEuiccInfo)]

def profilesResponse (e : Euicc F) : Entries F := entries [
  ("type", .text "profiles".toList),
  ("data", .list (e.profiles.values.map fun p => .dict p.toSummary))]

def resultResponse (success : Bool) : Entries F := entries [
  ("type", .text "result".toList),
  ("success", .scalar (.bool success))]

def installedResponse (isdp : Isdp F) : Entries F := entries [
  ("type", .text "result".toList),
  ("success", .scalar (.bool true)),
  ("iccid", .scalar isdp.iccid)]

def credentialsResponse (profile : Isdp F) (isim : Isdp.IsimData F) : Entries F := entries [
  ("type", .text "credentials".toList),
  ("data", .dict (profile.getUsimData ++ entries [
    ("impi", isim.impi),
    ("impu", isim.impu),
    ("home_domain", isim.homeDomain)]))]

def errorResponse (message : PyStr) : Entries F := entries [
  ("type", .text "error".toList),
  ("message", .scalar (.str message))]

/-! ### Messages -/

section

variable [DecidableEq F] (aes : Bytes → Block → Block) (L : PyLibrary F) (fs : FileSystem F φ)

/-- The APDU branch of `_process_message`. -/
def processApdu (data : PyValue F) : Py (Daemon F φ) (Entries F) := do
  let raw ← Py.lift data.fromHex
  let d ← Py.get
  let (response, card) := ApduHandler.process aes L raw d.card
  Py.modify fun d => d.withCard card
  return apduResponse response

/-- The credentials branch of `_process_message`. -/
def processCredentials (iccid : PyValue F) : Py (Daemon F φ) (Entries F) := do
  let iccid ← Py.lift iccid.hash
  let d ← Py.get
  match d.storage.euicc.profiles.get? (L.key iccid) with
  | none => do
      let text ← Py.lift (L.str (.scalar iccid))
      return errorResponse (.ofText "Profile ".toList ++ text ++ .ofText " not found".toList)
  | some profile => do
      let isim ← Py.lift (profile.getIsimData L)
      return credentialsResponse profile isim

/-- `_process_message(msg)`; `uuid` is the identifier that an installation may draw. -/
def processMessage (uuid : Text) (msg : Entries F) : Py (Daemon F φ) (Entries F) :=
  let msgType := PyValue.getD msg "type" .null
  let iccid := PyValue.getD msg "iccid" (.text [])
  match MessageType.ofValue msgType with
  | some .apdu => processApdu aes L (PyValue.getD msg "data" (.text []))
  | some .getInfo => do
      let d ← Py.get
      return infoResponse d.storage.euicc
  | some .listProfiles => do
      onStorage Euicc.requireReady
      let d ← Py.get
      return profilesResponse d.storage.euicc
  | some .enableProfile => do
      let ok ← onStorage (Euicc.enableProfile L fs iccid)
      return resultResponse ok
  | some .disableProfile => do
      let ok ← onStorage (Euicc.disableProfile L fs iccid)
      return resultResponse ok
  | some .installProfile => do
      let isdp ← onStorage (Euicc.installProfile L fs (PyValue.getD msg "profile" (.dict [])) uuid)
      return installedResponse isdp
  | some .deleteProfile => do
      let ok ← onStorage (Euicc.deleteProfile L fs iccid)
      return resultResponse ok
  | some .getProfileCredentials => processCredentials L iccid
  | none => do
      let text ← Py.lift (L.str msgType)
      return errorResponse (.ofText "Unknown message type: ".toList ++ text)

end

end Daemon

/-! ### The table of answers -/

section

variable [DecidableEq F] (aes : Bytes → Block → Block) (L : PyLibrary F) (fs : FileSystem F φ)

/-- The files with a profile saved, where they can be. -/
def FileSystem.saved (p : Isdp F) (files : φ) : Option φ :=
  match L.str (.scalar p.iccid) with
  | .error _ => none
  | .ok iccid =>
      match fs.save (fileName iccid) p.toDict files with
      | (.error _, _) => none
      | (.ok _, files) => some files

namespace Storage

/-- The value is the ICCID of an installed profile. -/
def Has (s : Storage F φ) (iccid : PyValue F) (key : PyScalar F) (target : Isdp F) : Prop :=
  iccid.hash = .ok key ∧ s.euicc.profiles.get? (L.key key) = some target

/-- The files after the active profile, if there is one, has been disabled and saved. -/
def released (s : Storage F φ) : Option φ :=
  match s.euicc.getActiveProfile L with
  | some current => fs.saved L (current.withState .disabled) s.files
  | none => some s.files

/-- A switch goes through: the profile is installed, and enabled or its files can be written. -/
def Enables (s : Storage F φ) (iccid : PyValue F) : Prop :=
  s.euicc.state = .ready ∧ ∃ key target, s.Has L iccid key target ∧
    (target.state = .enabled ∨
      ∃ files ∈ s.released L fs, (fs.saved L (target.withState .enabled) files).isSome = true)

/-- A disabling goes through. -/
def Disables (s : Storage F φ) (iccid : PyValue F) : Prop :=
  s.euicc.state = .ready ∧ ∃ key target, s.Has L iccid key target ∧
    (target.state = .disabled ∨ (fs.saved L (target.withState .disabled) s.files).isSome = true)

/-- A deletion goes through: the profile is installed, and its file can be removed. -/
def Deletes (s : Storage F φ) (iccid : PyValue F) : Prop :=
  s.euicc.state = .ready ∧ ∃ key target, s.Has L iccid key target ∧
    ∃ name, L.str (.scalar key) = .ok name ∧ (fs.unlink (fileName name) s.files).1 = .ok ()

/-- An installation goes through, and makes the profile: the package is a dictionary with the four
required fields, its ICCID can be hashed and is new, its size is a number that the free memory has room
for and can be taken from it, and the file is written. -/
def Installs (s : Storage F φ) (profileData : PyValue F) (uuid : Text) (isdp : Isdp F) : Prop :=
  s.euicc.state = .ready ∧ ∃ package, profileData = .dict package ∧
    ∃ iccid imsi ki opc key, PyValue.get? package "iccid" = some iccid ∧
      PyValue.get? package "imsi" = some imsi ∧ PyValue.get? package "ki" = some ki ∧
      PyValue.get? package "opc" = some opc ∧ iccid.hash = .ok key ∧
      L.key key ∉ s.euicc.profiles.keys ∧
      (∃ size, (Euicc.requiredSize package).number = .ok size ∧ L.gt size s.euicc.info.freeNvram = false ∧
        ∃ free, L.sub s.euicc.info.freeNvram size = .ok free) ∧
      isdp = Euicc.newProfile package uuid key imsi ki opc ∧ (fs.saved L isdp s.files).isSome = true

end Storage

namespace Daemon

/-- The answer to a question for credentials. -/
def AnswersCredentials (d : Daemon F φ) (iccid : PyValue F) (response : Entries F) : Prop :=
  ∃ key, iccid.hash = .ok key ∧
    match d.storage.euicc.profiles.get? (L.key key) with
    | none => ∃ text, L.str (.scalar key) = .ok text ∧
        response = errorResponse (.ofText "Profile ".toList ++ text ++ .ofText " not found".toList)
    | some profile => ∃ isim, profile.getIsimData L = .ok isim ∧ response = credentialsResponse profile isim

/-- The response to a message, where there is one. -/
def Answers (uuid : Text) (d : Daemon F φ) (msg : Entries F) (response : Entries F) : Prop :=
  let msgType := PyValue.getD msg "type" .null
  let iccid := PyValue.getD msg "iccid" (.text [])
  match MessageType.ofValue msgType with
  | some .apdu => ∃ raw, (PyValue.getD msg "data" (.text [])).fromHex = .ok raw ∧
      response = apduResponse (ApduHandler.process aes L raw d.card).1
  | some .getInfo => response = infoResponse d.storage.euicc
  | some .listProfiles => d.storage.euicc.state = .ready ∧ response = profilesResponse d.storage.euicc
  | some .enableProfile => d.storage.Enables L fs iccid ∧ response = resultResponse true
  | some .disableProfile => d.storage.Disables L fs iccid ∧ response = resultResponse true
  | some .installProfile => ∃ isdp,
      d.storage.Installs L fs (PyValue.getD msg "profile" (.dict [])) uuid isdp ∧
        response = installedResponse isdp
  | some .deleteProfile => d.storage.Deletes L fs iccid ∧ response = resultResponse true
  | some .getProfileCredentials => d.AnswersCredentials L iccid response
  | none => ∃ text, L.str msgType = .ok text ∧
      response = errorResponse (.ofText "Unknown message type: ".toList ++ text)

end Daemon

/-! ### Which calls go through -/

namespace Euicc

variable {L fs} {α : Type} {s : Storage F φ}

omit [DecidableEq F] in
theorem requireReady_result {f : Unit → Py (Storage F φ) α} {a : α} :
    (requireReady >>= f).result? s = some a ↔ s.euicc.state = .ready ∧ (f ()).result? s = some a := by
  unfold requireReady Py.result?
  rw [Py.run_bind, Py.run_get_bind]
  by_cases h : s.euicc.state = .ready
  · rw [if_neg (not_not.mpr h)]
    exact (and_iff_right h).symm
  · rw [if_pos h]
    exact iff_of_false (fun hr => by cases hr) fun hr => h hr.1

omit [DecidableEq F] in
theorem update_result {g : Euicc F → Euicc F} {f : Unit → Py (Storage F φ) α} :
    (update g >>= f).result? s = (f ()).result? (s.withEuicc (g s.euicc)) := rfl

omit [DecidableEq F] in
theorem fileOperation_result {x : φ → Except PyError Unit × φ} {f : Unit → Py (Storage F φ) α} {a : α} :
    (fileOperation x >>= f).result? s = some a ↔
      (x s.files).1 = .ok () ∧ (f ()).result? { s with files := (x s.files).2 } = some a := by
  rw [Py.result?_bind_eq_some_iff]
  constructor
  · rintro ⟨u, hu, h⟩
    exact ⟨Py.result?_eq_some_iff.mp hu, h⟩
  · rintro ⟨hu, h⟩
    exact ⟨(), Py.result?_eq_some_iff.mpr hu, h⟩

omit [DecidableEq F] in
theorem saveProfile_result {p : Isdp F} {f : Unit → Py (Storage F φ) α} {a : α} :
    (saveProfile L fs p >>= f).result? s = some a ↔
      ∃ files ∈ fs.saved L p s.files, (f ()).result? { s with files := files } = some a := by
  unfold saveProfile FileSystem.saved
  rw [Py.result?_bind_assoc, Py.result?_lift_bind_eq_some_iff]
  simp only [fileOperation_result]
  cases L.str (.scalar p.iccid) with
  | error e => simp
  | ok iccid => rcases hsave : fs.save (fileName iccid) p.toDict s.files with ⟨e | u, files⟩ <;> simp [hsave]

theorem find_result {iccid : PyValue F} {f : PyScalar F × Isdp F → Py (Storage F φ) α} {a : α} :
    (find L iccid >>= f).result? s = some a ↔
      ∃ key target, s.Has L iccid key target ∧ (f (key, target)).result? s = some a := by
  unfold find Storage.Has
  rw [Py.result?_bind_assoc, Py.result?_lift_bind_eq_some_iff]
  refine exists_congr fun key => ?_
  rw [Py.result?_bind_assoc, Py.result?_get_bind]
  cases s.euicc.profiles.get? (L.key key) with
  | some target =>
      constructor
      · rintro ⟨hkey, h⟩
        exact ⟨target, ⟨hkey, rfl⟩, h⟩
      · rintro ⟨target', ⟨hkey, htarget⟩, h⟩
        obtain rfl := Option.some.inj htarget
        exact ⟨hkey, h⟩
  | none =>
      simp only [Py.result?_bind_assoc, Py.result?_lift_bind_eq_some_iff]
      refine iff_of_false ?_ ?_
      · rintro ⟨-, text, -, h⟩
        cases h
      · rintro ⟨target, ⟨-, htarget⟩, -⟩
        cases htarget

theorem saved_returns_iff {files? : Option φ} {b : Bool} :
    (∃ _files ∈ files?, some true = some b) ↔ files?.isSome = true ∧ b = true := by
  cases files? with
  | none => simp
  | some files => simp [eq_comm]

theorem releaseActive_result {f : Unit → Py (Storage F φ) α} {a : α} :
    (releaseActive L fs >>= f).result? s = some a ↔ ∃ files ∈ s.released L fs,
      (f ()).result? ⟨if (s.euicc.getActiveProfile L).isSome then
        s.euicc.withState (L.key s.euicc.activeIccid) .disabled else s.euicc, files⟩ = some a := by
  unfold Storage.released
  cases hactive : s.euicc.getActiveProfile L with
  | none =>
      have hrun : (releaseActive L fs).run s = (.ok (), s) := by
        rw [releaseActive, Py.run_get_bind]
        simp only [hactive]
        rfl
      simp [Py.result?_bind_run hrun]
  | some current =>
      have hrun : (releaseActive L fs).run s = ((update
          (withState (L.key s.euicc.activeIccid) .disabled) : Py (Storage F φ) Unit) >>= fun _ =>
            saveProfile L fs (current.withState .disabled)).run s := by
        rw [releaseActive, Py.run_get_bind]
        simp only [hactive]
      have hprog : (releaseActive L fs >>= f).result? s = ((update
          (withState (L.key s.euicc.activeIccid) .disabled) : Py (Storage F φ) Unit) >>= fun _ =>
            saveProfile L fs (current.withState .disabled) >>= f).result? s := by
        rw [← Py.result?_bind_assoc, Py.result?, Py.result?, Py.run_bind, Py.run_bind _ f, hrun]
      rw [hprog, update_result, saveProfile_result]
      rfl

theorem enableProfile_result (iccid : PyValue F) (b : Bool) :
    (enableProfile L fs iccid).result? s = some b ↔ s.Enables L fs iccid ∧ b = true := by
  unfold enableProfile Storage.Enables
  rw [requireReady_result, find_result, and_assoc, ← exists_and_right]
  refine and_congr_right' (exists_congr fun key => ?_)
  rw [← exists_and_right]
  refine exists_congr fun target => ?_
  rw [and_assoc]
  refine and_congr_right' ?_
  simp only
  by_cases hstate : target.state = .enabled
  · rw [if_pos hstate, Py.result?_pure, Option.some_inj]
    exact ⟨fun h => ⟨Or.inl hstate, h.symm⟩, fun h => h.2.symm⟩
  · rw [if_neg hstate, releaseActive_result]
    simp only [update_result, saveProfile_result, Storage.withEuicc_files, Py.result?_pure]
    simp only [saved_returns_iff, hstate, false_or]
    constructor
    · rintro ⟨files, hfiles, hsaved, hb⟩
      exact ⟨⟨files, hfiles, hsaved⟩, hb⟩
    · rintro ⟨⟨files, hfiles, hsaved⟩, hb⟩
      exact ⟨files, hfiles, hsaved, hb⟩

theorem disableProfile_result (iccid : PyValue F) (b : Bool) :
    (disableProfile L fs iccid).result? s = some b ↔ s.Disables L fs iccid ∧ b = true := by
  unfold disableProfile Storage.Disables
  rw [requireReady_result, find_result, and_assoc, ← exists_and_right]
  refine and_congr_right' (exists_congr fun key => ?_)
  rw [← exists_and_right]
  refine exists_congr fun target => ?_
  rw [and_assoc]
  refine and_congr_right' ?_
  simp only
  by_cases hstate : target.state = .disabled
  · rw [if_pos hstate, Py.result?_pure, Option.some_inj]
    exact ⟨fun h => ⟨Or.inl hstate, h.symm⟩, fun h => h.2.symm⟩
  · rw [if_neg hstate]
    simp only [update_result, saveProfile_result, Storage.withEuicc_files, Py.result?_pure,
      saved_returns_iff, hstate, false_or]

theorem deleteProfile_result (iccid : PyValue F) (b : Bool) :
    (deleteProfile L fs iccid).result? s = some b ↔ s.Deletes L fs iccid ∧ b = true := by
  unfold deleteProfile Storage.Deletes
  rw [requireReady_result, find_result, and_assoc, ← exists_and_right]
  refine and_congr_right' (exists_congr fun key => ?_)
  rw [← exists_and_right]
  refine exists_congr fun target => ?_
  rw [and_assoc]
  refine and_congr_right' ?_
  simp only [update_result, deleteProfileFile]
  rw [Py.result?_bind_assoc, Py.result?_lift_bind_eq_some_iff, ← exists_and_right]
  refine exists_congr fun name => ?_
  rw [fileOperation_result, Py.result?_pure, Option.some_inj, and_assoc, eq_comm (a := b)]
  rfl

theorem installProfile_result (profileData : PyValue F) (uuid : Text) (isdp : Isdp F) :
    (installProfile L fs profileData uuid).result? s = some isdp ↔
      s.Installs L fs profileData uuid isdp := by
  unfold installProfile Storage.Installs
  rw [requireReady_result]
  refine and_congr_right' ?_
  cases profileData with
  | scalar v =>
      refine iff_of_false (fun h => by cases h) ?_
      rintro ⟨package, hpackage, -⟩
      cases hpackage
  | list items =>
      refine iff_of_false (fun h => by cases h) ?_
      rintro ⟨package, hpackage, -⟩
      cases hpackage
  | dict package =>
      simp only [Py.result?_lift_bind_eq_some_iff, PyValue.item_eq_ok_iff, Py.result?_get_bind]
      constructor
      · rintro ⟨iccid, hiccid, key, hkey, h⟩
        by_cases hmem : L.key key ∈ s.euicc.profiles.keys
        · rw [if_pos hmem] at h
          obtain ⟨text, -, h⟩ := Py.result?_lift_bind_eq_some_iff.mp h
          cases h
        · rw [if_neg hmem] at h
          obtain ⟨size, hsize, h⟩ := Py.result?_lift_bind_eq_some_iff.mp h
          by_cases hgt : L.gt size s.euicc.info.freeNvram = true
          · rw [if_pos hgt] at h
            obtain ⟨e, -, h⟩ := Py.result?_lift_bind_eq_some_iff.mp h
            cases h
          · rw [if_neg hgt] at h
            simp only [Py.result?_lift_bind_eq_some_iff, PyValue.item_eq_ok_iff, update_result,
              saveProfile_result, Storage.withEuicc_files, Py.result?_pure, Option.some_inj] at h
            obtain ⟨imsi, himsi, ki, hki, opc, hopc, free, hfree, files, hfiles, rfl⟩ := h
            exact ⟨package, rfl, iccid, imsi, ki, opc, key, hiccid, himsi, hki, hopc, hkey, hmem,
              ⟨size, hsize, Bool.not_eq_true _ ▸ hgt, free, hfree⟩, rfl,
              Option.isSome_iff_exists.mpr ⟨files, hfiles⟩⟩
      · rintro ⟨package', hpackage, iccid, imsi, ki, opc, key, hiccid, himsi, hki, hopc, hkey, hmem,
          ⟨size, hsize, hgt, free, hfree⟩, rfl, hsaved⟩
        obtain rfl := PyValue.dict.inj hpackage
        obtain ⟨files, hfiles⟩ := Option.isSome_iff_exists.mp hsaved
        refine ⟨iccid, hiccid, key, hkey, ?_⟩
        rw [if_neg hmem, Py.result?_lift_bind_eq_some_iff]
        refine ⟨size, hsize, ?_⟩
        rw [if_neg (by rw [hgt]; decide)]
        simp only [Py.result?_lift_bind_eq_some_iff, PyValue.item_eq_ok_iff, update_result,
          saveProfile_result, Storage.withEuicc_files, Py.result?_pure, Option.some_inj]
        exact ⟨imsi, himsi, ki, hki, opc, hopc, free, hfree, files, hfiles, rfl⟩

end Euicc

namespace Daemon

variable {L fs}

omit [DecidableEq F] in
/-- A message that only calls the store returns what the call returns. -/
theorem onStorage_result {α : Type} {x : Py (Storage F φ) α} {f : α → Entries F} {d : Daemon F φ}
    {response : Entries F} :
    (do let a ← onStorage x; return f a : Py (Daemon F φ) (Entries F)).result? d = some response ↔
      ∃ a, x.result? d.storage = some a ∧ response = f a := by
  rw [Py.result?_bind_eq_some_iff]
  refine exists_congr fun a => ?_
  rw [Py.result?_pure, Option.some_inj, eq_comm (a := f a)]
  rfl

omit [DecidableEq F] in
theorem lift_result {α : Type} {x : Except PyError α} {f : α → Entries F} {d : Daemon F φ}
    {response : Entries F} :
    (do let a ← Py.lift x; return f a : Py (Daemon F φ) (Entries F)).result? d = some response ↔
      ∃ a, x = .ok a ∧ response = f a := by
  rw [Py.result?_lift_bind_eq_some_iff]
  refine exists_congr fun a => and_congr_right' ?_
  exact Option.some_inj.trans eq_comm

omit [DecidableEq F] in
theorem requireReady_result {f : Unit → Py (Daemon F φ) (Entries F)} {d : Daemon F φ} {response : Entries F} :
    (onStorage Euicc.requireReady >>= f).result? d = some response ↔
      d.storage.euicc.state = .ready ∧ (f ()).result? d = some response := by
  unfold Py.result? onStorage Euicc.requireReady
  rw [Py.run_bind, Py.run_zoom, Py.run_get_bind]
  by_cases h : d.storage.euicc.state = .ready
  · rw [if_neg (not_not.mpr h)]
    exact (and_iff_right h).symm
  · rw [if_pos h]
    exact iff_of_false (fun hr => by cases hr) fun hr => h hr.1

/-- **One message.**  `_process_message` returns what the table has for a message, and raises where it
has nothing. -/
theorem processMessage_answers (uuid : Text) (d : Daemon F φ) (msg response : Entries F) :
    (processMessage aes L fs uuid msg).result? d = some response ↔
      d.Answers aes L fs uuid msg response := by
  have htrue : ∀ p : Prop, (∃ b, (p ∧ b = true) ∧ response = resultResponse b) ↔
      p ∧ response = resultResponse true := by simp
  unfold processMessage Answers
  simp only
  cases MessageType.ofValue (PyValue.getD msg "type" .null) with
  | none => exact lift_result
  | some t =>
      cases t with
      | apdu =>
          simp only [processApdu, Py.result?_lift_bind_eq_some_iff, Py.result?_get_bind]
          refine exists_congr fun raw => and_congr_right' ?_
          exact Option.some_inj.trans eq_comm
      | getInfo => exact Option.some_inj.trans eq_comm
      | listProfiles =>
          simp only [requireReady_result, Py.result?_get_bind]
          exact and_congr_right' (Option.some_inj.trans eq_comm)
      | enableProfile => simp only [onStorage_result, Euicc.enableProfile_result, htrue]
      | disableProfile => simp only [onStorage_result, Euicc.disableProfile_result, htrue]
      | installProfile => simp only [onStorage_result, Euicc.installProfile_result]
      | deleteProfile => simp only [onStorage_result, Euicc.deleteProfile_result, htrue]
      | getProfileCredentials =>
          simp only [processCredentials, AnswersCredentials, Py.result?_lift_bind_eq_some_iff,
            Py.result?_get_bind]
          refine exists_congr fun key => and_congr_right' ?_
          cases d.storage.euicc.profiles.get? (L.key key) with
          | none => exact lift_result
          | some profile => exact lift_result

end Daemon

end

end Untyped

end VirtualPhone
