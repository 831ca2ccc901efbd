import VirtualPhone.Isdp
import VirtualPhone.Runtime.Py
import VirtualPhone.Runtime.Trace

/-! # The profile store (`euicc/euicc.py`)

`VirtualEUICC` keeps the installed profiles in memory, a pointer to the enabled one, and one file
for each profile in its storage directory.  Its methods are programs over `Storage`: the object,
the files, and how many file operations still succeed before one raises (`failAfter`), which is
how a full disk or a crash in the middle of a method enters the model.

The last section is the store as a system: calls, restarts of the process, and crashes inside a
call followed by a restart. -/

namespace VirtualPhone

open Runtime

/-- `EUICCState`. -/
inductive EuiccState
  | initialized
  | ready
  | locked
  | error
deriving DecidableEq, Repr

/-- `EUICCState.value`. -/
def EuiccState.value : EuiccState → Text
  | initialized => "initialized".toList
  | ready => "ready".toList
  | locked => "locked".toList
  | error => "error".toList

/-- `EUICCInfo`. -/
structure EuiccInfo where
  eid : Text
  sv : Text := "2.5.0".toList
  firmwareVersion : Text := "1.0.0".toList
  uiccCapability : List Text :=
    ["contactless".toList, "usim".toList, "isim".toList, "csim".toList]
  javacardVersion : Text := "3.0.5".toList
  globalplatformVersion : Text := "2.3".toList
  freeNvram : ℤ := 512 * 1024
deriving DecidableEq, Repr

/-- `VirtualEUICC`. -/
structure Euicc where
  info : EuiccInfo
  state : EuiccState := .initialized
  profiles : Dict Text Isdp := Dict.empty
  activeIccid : Option Text := none
deriving DecidableEq

/-- The files of the storage directory, by name. -/
abbrev Files := Dict Text JsonDict

/-- The object, its storage directory, and the number of file operations that still succeed
(`none`: all of them). -/
structure Storage where
  euicc : Euicc
  files : Files := Dict.empty
  failAfter : Option ℕ := none
deriving DecidableEq

/-- The decoded profile package given to `install_profile`; an absent key is `none`. -/
structure ProfileData where
  iccid : Option Text := none
  imsi : Option Text := none
  ki : Option Text := none
  opc : Option Text := none
  mcc : Option Text := none
  mnc : Option Text := none
  spn : Option Text := none
  msisdn : Option Text := none
  impi : Option Text := none
  impu : Option Text := none
  homeDomain : Option Text := none
  aid : Option Text := none
  profileSize : Option ℤ := none
deriving DecidableEq, Repr

/-- The storage with the object changed. -/
def Storage.withEuicc (s : Storage) (e : Euicc) : Storage := { s with euicc := e }

@[simp] theorem Storage.withEuicc_euicc (s : Storage) (e : Euicc) : (s.withEuicc e).euicc = e := rfl

@[simp] theorem Storage.withEuicc_files (s : Storage) (e : Euicc) :
    (s.withEuicc e).files = s.files := rfl

@[simp] theorem Storage.withEuicc_failAfter (s : Storage) (e : Euicc) :
    (s.withEuicc e).failAfter = s.failAfter := rfl

@[simp] theorem Storage.withEuicc_withEuicc (s : Storage) (e e' : Euicc) :
    (s.withEuicc e).withEuicc e' = s.withEuicc e' := rfl

/-! ### Files -/

/-- The name of a profile's file. -/
def fileName (iccid : Text) : Text := iccid ++ ".json".toList

/-- An operation on the storage directory: done at once, or not done and an error. -/
def fileOperation (f : Files → Files) : Py Storage Unit := ⟨fun s =>
  match s.failAfter with
  | none => (.ok (), { s with files := f s.files })
  | some 0 => (.error .osError, s)
  | some (n + 1) => (.ok (), { s with files := f s.files, failAfter := some n })⟩

namespace Euicc

/-- `_save_profile(isdp)`. -/
def saveProfile (isdp : Isdp) : Py Storage Unit :=
  fileOperation fun files => files.set (fileName isdp.iccid) isdp.toDict

/-- `_delete_profile_file(iccid)`. -/
def deleteProfileFile (iccid : Text) : Py Storage Unit :=
  fileOperation fun files => files.erase (fileName iccid)

/-- One file of `_load_profiles`; a file that cannot be loaded is skipped. -/
def loadProfile (files : Files) (e : Euicc) (name : Text) : Euicc :=
  match files.get? name with
  | none => e
  | some data =>
      match Isdp.fromDict data with
      | .error _ => e
      | .ok isdp =>
          { e with
            profiles := e.profiles.set isdp.iccid isdp
            activeIccid := if isdp.state = .enabled then some isdp.iccid else e.activeIccid }

/-- `_load_profiles()` for a directory listed in the order `listing`. -/
def loadProfiles (files : Files) (listing : List Text) (e : Euicc) : Euicc :=
  (listing.filter fun name => ".json".toList.isSuffixOf name).foldl (loadProfile files) e

/-- `VirtualEUICC(eid)` followed by `initialize()`. -/
def boot (eid : Text) (files : Files) (listing : List Text) : Euicc :=
  { loadProfiles files listing { info := { eid := eid } } with state := .ready }

/-! ### Operations -/

/-- `_require_ready()`. -/
def requireReady : Py Storage Unit := do
  let s ← Py.get
  if s.euicc.state ≠ .ready then
    Py.raise (.runtimeError ("eUICC not ready (state=".toList ++ s.euicc.state.value ++ ")".toList))
  else pure ()

/-- `profile_data[key]`. -/
def required (key : Text) (value : Option Text) : Py Storage Text :=
  match value with
  | some v => pure v
  | none => Py.raise (.keyError key)

/-- Change the object. -/
def update (f : Euicc → Euicc) : Py Storage Unit := Py.modify fun s => s.withEuicc (f s.euicc)

/-- The object with a profile added and its size taken from the free memory. -/
def withProfile (isdp : Isdp) (size : ℤ) (e : Euicc) : Euicc :=
  { e with
    profiles := e.profiles.set isdp.iccid isdp
    info := { e.info with freeNvram := e.info.freeNvram - size } }

/-- The object with the state of an installed profile written. -/
def withState (iccid : Text) (state : ProfileState) (e : Euicc) : Euicc :=
  { e with profiles := e.profiles.modify iccid fun p => p.withState state }

/-- The object with the pointer written. -/
def withActive (iccid : Option Text) (e : Euicc) : Euicc := { e with activeIccid := iccid }

/-- The object with the pointer cleared if it names `iccid`. -/
def dropActive (iccid : Text) (e : Euicc) : Euicc :=
  if e.activeIccid = some iccid then e.withActive none else e

/-- The object without a profile. -/
def withoutProfile (iccid : Text) (e : Euicc) : Euicc :=
  { e with profiles := e.profiles.erase iccid }

/-- The profile `install_profile` builds from a package with the given required fields. -/
def newProfile (data : ProfileData) (uuid iccid imsi ki opc : Text) : Isdp where
  iccid := iccid
  imsi := imsi
  ki := ki
  opc := opc
  mcc := data.mcc.getD "001".toList
  mnc := data.mnc.getD "01".toList
  spn := data.spn.getD "Virtual Operator".toList
  msisdn := data.msisdn
  impi := data.impi
  impu := data.impu
  homeDomain := data.homeDomain
  state := .disabled
  aid := data.aid.getD (uuid.take 32)

/-- `install_profile(profile_data)`; `uuid` is the identifier drawn for a package without one. -/
def installProfile (data : ProfileData) (uuid : Text) : Py Storage Isdp := do
  requireReady
  let iccid ← required "iccid".toList data.iccid
  let s ← Py.get
  if iccid ∈ s.euicc.profiles.keys then
    Py.raise (.valueError ("Profile with ICCID ".toList ++ iccid ++ " already installed".toList))
  else do
    let requiredSize := data.profileSize.getD (64 * 1024)
    if requiredSize > s.euicc.info.freeNvram then
      Py.raise (.memoryError ("Insufficient eUICC memory: need ".toList ++ intText requiredSize ++
        ", have ".toList ++ intText s.euicc.info.freeNvram))
    else do
      let imsi ← required "imsi".toList data.imsi
      let ki ← required "ki".toList data.ki
      let opc ← required "opc".toList data.opc
      let isdp := newProfile data uuid iccid imsi ki opc
      update (withProfile isdp requiredSize)
      saveProfile isdp
      return isdp

/-- The profile under an ICCID, or the `KeyError` of the operations. -/
def find (iccid : Text) : Py Storage Isdp := do
  let s ← Py.get
  match s.euicc.profiles.get? iccid with
  | some p => pure p
  | none => Py.raise (.keyError ("Profile ".toList ++ iccid ++ " not found".toList))

/-- `get_active_profile()`: the profile the pointer names, unless it is empty or dangling. -/
def getActiveProfile (e : Euicc) : Option Isdp :=
  match e.activeIccid with
  | some (c :: iccid) => e.profiles.get? (c :: iccid)
  | _ => none

theorem getActiveProfile_eq_some {e : Euicc} {p : Isdp} (h : e.getActiveProfile = some p) :
    ∃ iccid, e.activeIccid = some iccid ∧ e.profiles.get? iccid = some p := by
  unfold getActiveProfile at h
  split at h
  · rename_i c iccid hactive
    exact ⟨c :: iccid, hactive, h⟩
  · cases h

/-- The part of `enable_profile` that disables the active profile, if there is one. -/
def releaseActive : Py Storage Unit := do
  let s ← Py.get
  match s.euicc.activeIccid, s.euicc.getActiveProfile with
  | some active, some current => do
      update (withState active .disabled)
      saveProfile (current.withState .disabled)
  | _, _ => pure ()

/-- `enable_profile(iccid)`. -/
def enableProfile (iccid : Text) : Py Storage Bool := do
  requireReady
  let target ← find iccid
  if target.state = .enabled then return true
  else do
    releaseActive
    update (withState iccid .enabled)
    update (withActive (some iccid))
    saveProfile (target.withState .enabled)
    return true

/-- `disable_profile(iccid)`. -/
def disableProfile (iccid : Text) : Py Storage Bool := do
  requireReady
  let target ← find iccid
  if target.state = .disabled then return true
  else do
    update (withState iccid .disabled)
    saveProfile (target.withState .disabled)
    update (dropActive iccid)
    return true

/-- `delete_profile(iccid)`. -/
def deleteProfile (iccid : Text) : Py Storage Bool := do
  requireReady
  let _ ← find iccid
  update (dropActive iccid)
  update (withoutProfile iccid)
  deleteProfileFile iccid
  return true

end Euicc

/-! ### The store as a system -/

/-- The ICCIDs that can name a file of the storage directory. -/
def FileSafe (iccid : Text) : Prop := iccid ≠ [] ∧ '/' ∉ iccid ∧ '\x00' ∉ iccid

instance (iccid : Text) : Decidable (FileSafe iccid) := inferInstanceAs (Decidable (_ ∧ _ ∧ _))

/-- A call of the store; an installation carries the identifier it may draw. -/
inductive EuiccOp
  | install (data : ProfileData) (uuid : Text)
  | enable (iccid : Text)
  | disable (iccid : Text)
  | delete (iccid : Text)
deriving DecidableEq, Repr

namespace EuiccOp

/-- The call as a program, without its return value. -/
def prog : EuiccOp → Py Storage Unit
  | install data uuid => do let _ ← Euicc.installProfile data uuid
  | enable iccid => do let _ ← Euicc.enableProfile iccid
  | disable iccid => do let _ ← Euicc.disableProfile iccid
  | delete iccid => do let _ ← Euicc.deleteProfile iccid

/-- The ICCID a call installs is file-safe. -/
def Safe : EuiccOp → Prop
  | install data _ => ∀ iccid ∈ data.iccid, FileSafe iccid
  | _ => True

instance : DecidablePred Safe
  | install _ _ => inferInstanceAs (Decidable (∀ iccid ∈ _, FileSafe iccid))
  | enable _ => inferInstanceAs (Decidable True)
  | disable _ => inferInstanceAs (Decidable True)
  | delete _ => inferInstanceAs (Decidable True)

end EuiccOp

/-- What happens to the store: a call that runs to its end, a restart of the process, or a call
that is cut off after `writes` file operations by a crash and the restart after it.  A restart
reads the directory in the order `listing`. -/
inductive EuiccEvent
  | call (op : EuiccOp)
  | restart (listing : List Text)
  | crash (op : EuiccOp) (writes : ℕ) (listing : List Text)
deriving DecidableEq, Repr

namespace Storage

/-- An empty storage directory after the first start. -/
def start (eid : Text) : Storage := { euicc := Euicc.boot eid Dict.empty [] }

/-- A fresh object over the files of `s`. -/
def reboot (s : Storage) (listing : List Text) : Storage :=
  { s with euicc := Euicc.boot s.euicc.info.eid s.files listing, failAfter := none }

/-- The call `op` stopped at its file operation number `writes`. -/
def cutOff (s : Storage) (op : EuiccOp) (writes : ℕ) : Storage :=
  (op.prog.run { s with failAfter := some writes }).2

/-- One event; a directory listing names exactly the files. -/
def step (s : Storage) : EuiccEvent → Option Storage
  | .call op => if op.Safe then some (op.prog.run s).2 else none
  | .restart listing => if listing.Perm s.files.keys then some (s.reboot listing) else none
  | .crash op writes listing =>
      if op.Safe ∧ listing.Perm (s.cutOff op writes).files.keys then
        some ((s.cutOff op writes).reboot listing)
      else none

end Storage

end VirtualPhone
