import VirtualPhone.Euicc
import VirtualPhone.Runtime.PyValue

/-! # Profiles of any values (`euicc/isdp.py`, `euicc/euicc.py`)

The annotations of `ISDP` check nothing: `install_profile` takes the fields of a profile from the
message as they come.  Here they are any values of a JSON document, and a method raises where an
operation of it has no such value; `VirtualPhone.Euicc` is the store on fields of the annotated types.
Only the ICCID has to be hashable, to be the key of a profile.

The file system is a parameter, with a state of its own: `save` opens a file and writes a dictionary
into it, `unlink` removes a file, and either of them may raise. -/

namespace VirtualPhone

namespace Untyped

open Runtime

variable {F φ : Type}

/-- The entries of a dictionary. -/
abbrev Entries (F : Type) := List (PyStr × PyValue F)

/-- The entries under names of the program. -/
def entries (fields : List (String × PyValue F)) : Entries F :=
  fields.map fun e => (.ofText e.1.toList, e.2)

/-! ### Profiles -/

/-- `ISDP`. -/
structure Isdp (F : Type) where
  iccid : PyScalar F
  imsi : PyValue F
  aid : PyValue F
  ki : PyValue F
  opc : PyValue F
  mcc : PyValue F := .text "001".toList
  mnc : PyValue F := .text "01".toList
  spn : PyValue F := .text "Virtual".toList
  msisdn : PyValue F := .null
  gid1 : PyValue F := .null
  gid2 : PyValue F := .null
  impi : PyValue F := .null
  impu : PyValue F := .null
  homeDomain : PyValue F := .null
  state : ProfileState := .disabled
  profileClass : ProfileClass := .operational
  sqn : ℕ := 0

namespace Isdp

/-- The profile with its lifecycle state changed. -/
def withState (p : Isdp F) (st : ProfileState) : Isdp F := { p with state := st }

@[simp] theorem withState_iccid (p : Isdp F) (st : ProfileState) : (p.withState st).iccid = p.iccid := rfl

/-- `increment_sqn()`, as the profile after it. -/
def incrementSqn (p : Isdp F) : Isdp F := { p with sqn := p.sqn + 1 }

/-- `get_usim_data()`. -/
def getUsimData (p : Isdp F) : Entries F := entries [
  ("imsi", p.imsi),
  ("ki", p.ki),
  ("opc", p.opc),
  ("sqn", .int p.sqn),
  ("mcc", p.mcc),
  ("mnc", p.mnc)]

/-- The dictionary `get_isim_data()` returns. -/
structure IsimData (F : Type) where
  impi : PyValue F
  impu : PyValue F
  homeDomain : PyValue F

/-- `to_dict()`. -/
def toDict (p : Isdp F) : Entries F := entries [
  ("iccid", .scalar p.iccid),
  ("imsi", p.imsi),
  ("aid", p.aid),
  ("ki", p.ki),
  ("opc", p.opc),
  ("mcc", p.mcc),
  ("mnc", p.mnc),
  ("spn", p.spn),
  ("msisdn", p.msisdn),
  ("gid1", p.gid1),
  ("gid2", p.gid2),
  ("impi", p.impi),
  ("impu", p.impu),
  ("home_domain", p.homeDomain),
  ("state", .text p.state.value),
  ("profile_class", .text p.profileClass.value),
  ("sqn", .int p.sqn)]

/-- `to_summary()`. -/
def toSummary (p : Isdp F) : Entries F := entries [
  ("iccid", .scalar p.iccid),
  ("imsi", p.imsi),
  ("mcc", p.mcc),
  ("mnc", p.mnc),
  ("spn", p.spn),
  ("msisdn", p.msisdn),
  ("state", .text p.state.value),
  ("profile_class", .text p.profileClass.value)]

end Isdp

/-! ### The object and its directory -/

/-- `EUICCInfo`. -/
structure EuiccInfo (F : Type) where
  eid : PyStr
  sv : Text := "2.5.0".toList
  firmwareVersion : Text := "1.0.0".toList
  uiccCapability : List Text :=
    ["contactless".toList, "usim".toList, "isim".toList, "csim".toList]
  javacardVersion : Text := "3.0.5".toList
  globalplatformVersion : Text := "2.3".toList
  freeNvram : PyNumber F := .int (512 * 1024)

/-- `VirtualEUICC`; the keys of its profiles are those of `PyLibrary.key`. -/
structure Euicc (F : Type) where
  info : EuiccInfo F
  state : EuiccState := .initialized
  profiles : Dict (PyScalar F) (Isdp F) := Dict.empty
  activeIccid : PyScalar F := .none

/-- The storage directory, with the files in a state of type `φ`: `json.dump` into a file that is opened
for writing, and `unlink` of a path. -/
structure FileSystem (F φ : Type) where
  save : PyStr → Entries F → φ → Except PyError Unit × φ
  unlink : PyStr → φ → Except PyError Unit × φ

/-- The object and its storage directory. -/
structure Storage (F φ : Type) where
  euicc : Euicc F
  files : φ

/-- The storage with the object changed. -/
def Storage.withEuicc (s : Storage F φ) (e : Euicc F) : Storage F φ := { s with euicc := e }

@[simp] theorem Storage.withEuicc_euicc (s : Storage F φ) (e : Euicc F) : (s.withEuicc e).euicc = e := rfl

@[simp] theorem Storage.withEuicc_files (s : Storage F φ) (e : Euicc F) :
    (s.withEuicc e).files = s.files := rfl

/-- An operation on files. -/
def fileOperation (x : φ → Except PyError Unit × φ) : Py (Storage F φ) Unit :=
  Py.zoom Storage.files (fun files s => { s with files := files }) ⟨x⟩

/-- The name of a profile's file. -/
def fileName (iccid : PyStr) : PyStr := iccid ++ .ofText ".json".toList

/-- The error of a profile there is not. -/
def notFound (iccid : PyStr) : Text := "Profile ".toList ++ iccid.shown ++ " not found".toList

/-- `f"ims.mnc{self.mnc}.mcc{self.mcc}.3gppnetwork.org"`. -/
def Isdp.derivedDomain (L : PyLibrary F) (p : Isdp F) : Except PyError (PyValue F) := do
  let mnc ← L.str p.mnc
  let mcc ← L.str p.mcc
  return .scalar (.str (.ofText "ims.mnc".toList ++ mnc ++ .ofText ".mcc".toList ++ mcc ++
    .ofText ".3gppnetwork.org".toList))

/-- `get_isim_data()`: an IMPI that is absent or empty is derived from the IMSI. -/
def Isdp.getIsimData (L : PyLibrary F) (p : Isdp F) : Except PyError (IsimData F) :=
  if L.truthy p.impi then .ok { impi := p.impi, impu := p.impu, homeDomain := p.homeDomain }
  else do
    let domain ← if L.truthy p.homeDomain then .ok p.homeDomain else p.derivedDomain L
    let imsi ← L.str p.imsi
    let host ← L.str domain
    return {
      impi := .scalar (.str (imsi ++ .ofText "@".toList ++ host))
      impu := .scalar (.str (.ofText "sip:".toList ++ imsi ++ .ofText "@".toList ++ host))
      homeDomain := domain }

namespace Euicc

variable [DecidableEq F] (L : PyLibrary F) (fs : FileSystem F φ)

/-- `_save_profile(isdp)`. -/
def saveProfile (isdp : Isdp F) : Py (Storage F φ) Unit := do
  let iccid ← Py.lift (L.str (.scalar isdp.iccid))
  fileOperation (fs.save (fileName iccid) isdp.toDict)

/-- `_delete_profile_file(iccid)`. -/
def deleteProfileFile (iccid : PyScalar F) : Py (Storage F φ) Unit := do
  let iccid ← Py.lift (L.str (.scalar iccid))
  fileOperation (fs.unlink (fileName iccid))

/-- `_require_ready()`. -/
def requireReady : Py (Storage F φ) Unit := do
  let s ← Py.get
  if s.euicc.state ≠ .ready then
    Py.raise (.runtimeError ("eUICC not ready (state=".toList ++ s.euicc.state.value ++ ")".toList))
  else pure ()

/-- Change the object. -/
def update (f : Euicc F → Euicc F) : Py (Storage F φ) Unit := Py.modify fun s => s.withEuicc (f s.euicc)

/-- The object with a profile added. -/
def withProfile (isdp : Isdp F) (e : Euicc F) : Euicc F :=
  { e with profiles := e.profiles.set (L.key isdp.iccid) isdp }

/-- The object with the free memory written. -/
def withFreeNvram (n : PyNumber F) (e : Euicc F) : Euicc F := { e with info := { e.info with freeNvram := n } }

/-- The object with the state of the profile under a key written. -/
def withState (key : PyScalar F) (state : ProfileState) (e : Euicc F) : Euicc F :=
  { e with profiles := e.profiles.modify key fun p => p.withState state }

/-- The object with the pointer written. -/
def withActive (iccid : PyScalar F) (e : Euicc F) : Euicc F := { e with activeIccid := iccid }

/-- The object with the pointer cleared if it is equal to `iccid`. -/
def dropActive (iccid : PyScalar F) (e : Euicc F) : Euicc F :=
  if L.eq e.activeIccid iccid then e.withActive .none else e

/-- The object without the profile under a key. -/
def withoutProfile (key : PyScalar F) (e : Euicc F) : Euicc F :=
  { e with profiles := e.profiles.erase key }

/-- The profile that the package becomes. -/
def newProfile (profileData : Entries F) (uuid : Text) (iccid : PyScalar F) (imsi ki opc : PyValue F) :
    Isdp F where
  iccid := iccid
  imsi := imsi
  ki := ki
  opc := opc
  mcc := PyValue.getD profileData "mcc" (.text "001".toList)
  mnc := PyValue.getD profileData "mnc" (.text "01".toList)
  spn := PyValue.getD profileData "spn" (.text "Virtual Operator".toList)
  msisdn := PyValue.getD profileData "msisdn" .null
  impi := PyValue.getD profileData "impi" .null
  impu := PyValue.getD profileData "impu" .null
  homeDomain := PyValue.getD profileData "home_domain" .null
  state := .disabled
  aid := PyValue.getD profileData "aid" (.text (uuid.take 32))

/-- `profile_data.get("profile_size", 64 * 1024)`. -/
def requiredSize (profileData : Entries F) : PyValue F :=
  PyValue.getD profileData "profile_size" (.int (64 * 1024))

/-- The error of a package that does not fit. -/
def insufficient (size free : PyValue F) : Except PyError PyError := do
  let size ← L.str size
  let free ← L.str free
  return .memoryError ("Insufficient eUICC memory: need ".toList ++ size.shown ++ ", have ".toList ++
    free.shown)

/-- `install_profile(profile_data)`; `uuid` is the identifier drawn for a package without one. -/
def installProfile (profileData : PyValue F) (uuid : Text) : Py (Storage F φ) (Isdp F) := do
  requireReady
  match profileData with
  | .dict package => do
      let iccid ← Py.lift (PyValue.item package "iccid")
      let iccid ← Py.lift iccid.hash
      let s ← Py.get
      if L.key iccid ∈ s.euicc.profiles.keys then do
        let text ← Py.lift (L.str (.scalar iccid))
        Py.raise (.valueError ("Profile with ICCID ".toList ++ text.shown ++ " already installed".toList))
      else do
        let size ← Py.lift (requiredSize package).number
        if L.gt size s.euicc.info.freeNvram then do
          let e ← Py.lift (insufficient L (requiredSize package) s.euicc.info.freeNvram.value)
          Py.raise e
        else do
          let imsi ← Py.lift (PyValue.item package "imsi")
          let ki ← Py.lift (PyValue.item package "ki")
          let opc ← Py.lift (PyValue.item package "opc")
          let isdp := newProfile package uuid iccid imsi ki opc
          update (withProfile L isdp)
          let free ← Py.lift (L.sub s.euicc.info.freeNvram size)
          update (withFreeNvram free)
          saveProfile L fs isdp
          return isdp
  | _ => Py.raise .typeError

/-- The ICCID as it is hashed, with the profile under it, or the `KeyError` of the operations. -/
def find (iccid : PyValue F) : Py (Storage F φ) (PyScalar F × Isdp F) := do
  let iccid ← Py.lift iccid.hash
  let s ← Py.get
  match s.euicc.profiles.get? (L.key iccid) with
  | some p => pure (iccid, p)
  | none => do
      let text ← Py.lift (L.str (.scalar iccid))
      Py.raise (.keyError (notFound text))

/-- `get_active_profile()`. -/
def getActiveProfile (e : Euicc F) : Option (Isdp F) :=
  if L.truthy (.scalar e.activeIccid) then e.profiles.get? (L.key e.activeIccid) else none

/-- The part of `enable_profile` that disables the active profile, if there is one. -/
def releaseActive : Py (Storage F φ) Unit := do
  let s ← Py.get
  match s.euicc.getActiveProfile L with
  | some current => do
      update (withState (L.key s.euicc.activeIccid) .disabled)
      saveProfile L fs (current.withState .disabled)
  | none => pure ()

/-- `enable_profile(iccid)`. -/
def enableProfile (iccid : PyValue F) : Py (Storage F φ) Bool := do
  requireReady
  let target ← find L iccid
  if target.2.state = .enabled then return true
  else do
    releaseActive L fs
    update (withState (L.key target.1) .enabled)
    update (withActive target.1)
    saveProfile L fs (target.2.withState .enabled)
    return true

/-- `disable_profile(iccid)`. -/
def disableProfile (iccid : PyValue F) : Py (Storage F φ) Bool := do
  requireReady
  let target ← find L iccid
  if target.2.state = .disabled then return true
  else do
    update (withState (L.key target.1) .disabled)
    saveProfile L fs (target.2.withState .disabled)
    update (dropActive L target.1)
    return true

/-- `delete_profile(iccid)`. -/
def deleteProfile (iccid : PyValue F) : Py (Storage F φ) Bool := do
  requireReady
  let target ← find L iccid
  update (dropActive L target.1)
  update (withoutProfile (L.key target.1))
  deleteProfileFile L fs target.1
  return true

/-- `get_euicc_info()`. -/
def getEuiccInfo (e : Euicc F) : Entries F := entries [
  ("eid", .scalar (.str e.info.eid)),
  ("sv", .text e.info.sv),
  ("firmware_version", .text e.info.firmwareVersion),
  ("uicc_capability", .list (e.info.uiccCapability.map .text)),
  ("javacard_version", .text e.info.javacardVersion),
  ("globalplatform_version", .text e.info.globalplatformVersion),
  ("free_nvram", e.info.freeNvram.value),
  ("installed_profiles", .int e.profiles.keys.length),
  ("active_iccid", .scalar e.activeIccid),
  ("state", .text e.state.value)]

end Euicc

/-- The language without floats, lists and dictionaries. -/
def noFloats : PyLibrary Empty where
  integral _ := none
  isNan _ := false
  truncate _ := .error .typeError
  greater _ _ := false
  minus _ _ := .error .typeError
  repr _ := .error .typeError

/-- A storage directory that takes every file. -/
def willing : FileSystem Empty Unit where
  save _ _ _ := (.ok (), ())
  unlink _ _ := (.ok (), ())

/-- An object without profiles, ready for messages. -/
def Storage.start (eid : Text) (files : φ) : Storage F φ :=
  { euicc := { info := { eid := .ofText eid }, state := .ready }, files := files }

end Untyped

end VirtualPhone
