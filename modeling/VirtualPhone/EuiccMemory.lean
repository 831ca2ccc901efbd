import VirtualPhone.EuiccStore
import Mathlib.Algebra.BigOperators.Group.List.Basic

/-! # The memory account of the eUICC

`install_profile` takes a profile's size from `free_nvram`, `delete_profile` gives nothing back and
a restart starts again from the full memory.  To compare the counter with the profiles, an `Account`
carries beside the store the size with which each profile was installed: of those in memory and of
those in the files, which differ when a file operation has failed.

Every call may have its file operations fail.  `step_account` says what one event does to the
counter and to the sum of the sizes; the account stays right in exactly the runs in which no profile
with a size is deleted and no restart finds profiles with a size (`memory_accounted_iff`). -/

namespace VirtualPhone

open Runtime

/-- The memory of a fresh eUICC. -/
def totalNvram : ℤ := 512 * 1024

/-- `profile_data.get("profile_size", 64 * 1024)`. -/
def ProfileData.size (data : ProfileData) : ℤ := data.profileSize.getD (64 * 1024)

/-- The package has every key that `install_profile` reads without a default. -/
def ProfileData.Complete (data : ProfileData) (iccid : Text) : Prop :=
  data.iccid = some iccid ∧ data.imsi.isSome ∧ data.ki.isSome ∧ data.opc.isSome

/-- The ICCID can be part of a file name. -/
def NamesFile (iccid : Text) : Prop := '/' ∉ iccid ∧ '\x00' ∉ iccid

instance (iccid : Text) : Decidable (NamesFile iccid) := inferInstanceAs (Decidable (_ ∧ _))

/-- The store with the size of each profile: in memory by ICCID, on disk by file name. -/
structure Account where
  storage : Storage
  inMemory : Text → ℤ
  onDisk : Text → ℤ

/-- A call with the number of its file operations that succeed (`none`: all), or a restart. -/
inductive MemoryEvent
  | install (data : ProfileData) (uuid : Text) (writes : Option ℕ)
  | delete (iccid : Text) (writes : Option ℕ)
  | restart (listing : List Text)
deriving DecidableEq, Repr

/-! ### What the calls do -/

namespace Euicc

/-- An installation raises and changes nothing, or adds the profile, takes its size from the free
memory and then writes the file or fails to. -/
theorem installProfile_effect {s : Storage} (hready : s.euicc.state = .ready) (data : ProfileData)
    (uuid : Text) :
    (∃ e, (installProfile data uuid).run s = (.error e, s) ∧ e ≠ .osError ∧
      ∀ iccid, data.Complete iccid →
        iccid ∈ s.euicc.profiles.keys ∨ s.euicc.info.freeNvram < data.size) ∨
    ∃ p : Isdp, data.iccid = some p.iccid ∧ p.iccid ∉ s.euicc.profiles.keys ∧
      data.size ≤ s.euicc.info.freeNvram ∧
        ((∃ s', (installProfile data uuid).run s = (.ok p, s') ∧
            s'.euicc = s.euicc.withProfile p data.size ∧
            s'.files = s.files.set (fileName p.iccid) p.toDict) ∨
          ((installProfile data uuid).run s =
              (.error .osError, s.withEuicc (s.euicc.withProfile p data.size)) ∧
            s.failAfter ≠ none)) := by
  unfold installProfile
  rw [Py.run_bind_ok (run_requireReady hready)]
  cases hiccid : data.iccid with
  | none =>
      refine .inl ⟨.keyError "iccid".toList, rfl, nofun, ?_⟩
      rintro iccid ⟨h, -⟩
      rw [hiccid] at h
      cases h
  | some iccid =>
      rw [Py.run_bind_ok (rfl : (required _ (some iccid)).run s = (.ok iccid, s)), Py.run_get_bind]
      by_cases hmem : iccid ∈ s.euicc.profiles.keys
      · rw [if_pos hmem]
        refine .inl ⟨_, rfl, nofun, ?_⟩
        rintro i ⟨h, -⟩
        obtain rfl := Option.some.inj (hiccid.symm.trans h)
        exact .inl hmem
      rw [if_neg hmem]
      by_cases hsize : data.profileSize.getD (64 * 1024) > s.euicc.info.freeNvram
      · rw [if_pos hsize]
        exact .inl ⟨_, rfl, nofun, fun _ _ => .inr hsize⟩
      rw [if_neg hsize]
      cases himsi : data.imsi with
      | none =>
          refine .inl ⟨.keyError "imsi".toList, rfl, nofun, ?_⟩
          rintro i ⟨-, h, -⟩
          simp [himsi] at h
      | some imsi =>
          rw [Py.run_bind_ok (rfl : (required _ (some imsi)).run s = (.ok imsi, s))]
          cases hki : data.ki with
          | none =>
              refine .inl ⟨.keyError "ki".toList, rfl, nofun, ?_⟩
              rintro i ⟨-, -, h, -⟩
              simp [hki] at h
          | some ki =>
              rw [Py.run_bind_ok (rfl : (required _ (some ki)).run s = (.ok ki, s))]
              cases hopc : data.opc with
              | none =>
                  refine .inl ⟨.keyError "opc".toList, rfl, nofun, ?_⟩
                  rintro i ⟨-, -, -, h⟩
                  simp [hopc] at h
              | some opc =>
                  rw [Py.run_bind_ok (rfl : (required _ (some opc)).run s = (.ok opc, s)),
                    Py.run_bind_ok (run_update _ _)]
                  let p := newProfile data uuid iccid imsi ki opc
                  refine .inr ⟨p, rfl, hmem, not_lt.mp hsize, ?_⟩
                  rcases fileOperation_cases (fun files => files.set (fileName p.iccid) p.toDict)
                    (s.withEuicc (s.euicc.withProfile p data.size)) with
                    ⟨s', hsave, he, hf, -⟩ | ⟨hsave, hfail⟩
                  · refine .inl ⟨s', ?_, he, hf⟩
                    exact Py.run_bind_ok hsave _
                  · refine .inr ⟨?_, hfail⟩
                    exact Py.run_bind_error hsave _

/-- A deletion of a profile that is not there raises; any other removes it from the memory and then
its file, or fails to. -/
theorem deleteProfile_effect {s : Storage} (hready : s.euicc.state = .ready) (iccid : Text) :
    (iccid ∉ s.euicc.profiles.keys ∧ ∃ e, (deleteProfile iccid).run s = (.error e, s)) ∨
    iccid ∈ s.euicc.profiles.keys ∧
      ((∃ s', (deleteProfile iccid).run s = (.ok true, s') ∧
          s'.euicc = (s.euicc.dropActive iccid).withoutProfile iccid ∧
          s'.files = s.files.erase (fileName iccid)) ∨
        ((deleteProfile iccid).run s = (.error .osError,
            s.withEuicc ((s.euicc.dropActive iccid).withoutProfile iccid)) ∧
          s.failAfter ≠ none)) := by
  rw [deleteProfile, Py.run_bind_ok (run_requireReady hready)]
  cases hget : s.euicc.profiles.get? iccid with
  | none =>
      rw [Py.run_bind_error (find_none hget)]
      exact .inl ⟨(Dict.get?_eq_none_iff _ _).mp hget, _, rfl⟩
  | some p =>
      rw [Py.run_bind_ok (find_some hget), Py.run_bind_ok (run_update _ _),
        Py.run_bind_ok (run_update _ _), Storage.withEuicc_euicc, Storage.withEuicc_withEuicc]
      refine .inr ⟨Dict.mem_keys_of_get? hget, ?_⟩
      rcases fileOperation_cases (fun files => files.erase (fileName iccid))
        (s.withEuicc ((s.euicc.dropActive iccid).withoutProfile iccid)) with
        ⟨s', hunlink, he, hf, -⟩ | ⟨hunlink, hfail⟩
      · exact .inl ⟨s', Py.run_bind_ok hunlink _, he, hf⟩
      · exact .inr ⟨Py.run_bind_error hunlink _, hfail⟩

theorem dropActive_info (e : Euicc) (i : Text) : (e.dropActive i).info = e.info := by
  unfold dropActive
  split_ifs <;> rfl

/-! ### What a restart does -/

/-- Every file holds a profile and bears its name. -/
def Filed (files : Files) : Prop :=
  ∀ name data, files.get? name = some data → ∃ p : Isdp, data = p.toDict ∧ name = fileName p.iccid

/-- Loading the named files adds their profiles and leaves the free memory. -/
theorem loadProfiles_effect {files : Files} (hfiled : Filed files) {names : List Text}
    (hnames : ∀ name ∈ names, name ∈ files.keys) (e : Euicc) :
    (names.foldl (loadProfile files) e).info = e.info ∧
      ∀ i, i ∈ (names.foldl (loadProfile files) e).profiles.keys ↔
        i ∈ e.profiles.keys ∨ fileName i ∈ names := by
  induction names generalizing e with
  | nil => exact ⟨rfl, fun i => by simp⟩
  | cons name names ih =>
      obtain ⟨data, hdata⟩ := (Dict.mem_keys_iff _ _).mp (hnames name (List.mem_cons_self ..))
      obtain ⟨p, hp, hn⟩ := hfiled name data hdata
      rw [hp, hn] at hdata
      rw [hn]
      obtain ⟨hinfo, hkeys⟩ := ih (fun n hn => hnames n (List.mem_cons_of_mem _ hn))
        (loadProfile files e (fileName p.iccid))
      rw [List.foldl_cons]
      refine ⟨hinfo.trans (by rw [loadProfile_of_get hdata]), fun i => ?_⟩
      rw [hkeys i, loadProfile_of_get hdata]
      simp only [Dict.mem_keys_set, List.mem_cons]
      have hname : fileName i = fileName p.iccid ↔ i = p.iccid :=
        ⟨fileName_injective, fun h => by rw [h]⟩
      rw [hname]
      tauto

/-- A restarted eUICC has the full memory and the profiles of the files. -/
theorem boot_effect {files : Files} (hfiled : Filed files) (eid : Text) {listing : List Text}
    (hl : listing.Perm files.keys) :
    (boot eid files listing).info.freeNvram = totalNvram ∧
      ∀ i, i ∈ (boot eid files listing).profiles.keys ↔ fileName i ∈ files.keys := by
  have hfilter : listing.filter (fun name => ".json".toList.isSuffixOf name) = listing := by
    refine List.filter_eq_self.mpr ?_
    intro name hname
    obtain ⟨data, hdata⟩ := (Dict.mem_keys_iff _ _).mp (hl.mem_iff.mp hname)
    obtain ⟨p, -, rfl⟩ := hfiled name data hdata
    rw [List.isSuffixOf_iff_suffix]
    exact List.suffix_append p.iccid _
  obtain ⟨hinfo, hkeys⟩ := loadProfiles_effect hfiled (fun n hn => hl.mem_iff.mp (hn : n ∈ listing))
    { info := { eid := eid } }
  refine ⟨?_, fun i => ?_⟩
  · simp only [boot, loadProfiles, hfilter, hinfo]
    rfl
  · simp only [boot, loadProfiles, hfilter]
    rw [hkeys i, hl.mem_iff]
    simp

end Euicc

/-! ### The account -/

namespace Account

/-- `free_nvram`. -/
def free (a : Account) : ℤ := a.storage.euicc.info.freeNvram

/-- The sizes of the installed profiles together. -/
def installed (a : Account) : ℤ := (a.storage.euicc.profiles.keys.map a.inMemory).sum

/-- The sizes of the profiles in the files together. -/
def stored (a : Account) : ℤ := (a.storage.files.keys.map a.onDisk).sum

/-- The counter and the sizes make up the memory of a fresh eUICC. -/
def Accounted (a : Account) : Prop := a.free + a.installed = totalNvram ∧ 0 ≤ a.free

instance (a : Account) : Decidable a.Accounted := inferInstanceAs (Decidable (_ ∧ _))

/-- An empty storage directory after the first start. -/
def start (eid : Text) : Account where
  storage := Storage.start eid
  inMemory := fun _ => 0
  onDisk := fun _ => 0

/-- The sizes after a call that may have added the profile `iccid`. -/
def noteSize (a : Account) (iccid : Option Text) (size : ℤ) (after : Storage) : Text → ℤ :=
  match iccid with
  | some i =>
      if i ∉ a.storage.euicc.profiles.keys ∧ i ∈ after.euicc.profiles.keys then
        Function.update a.inMemory i size
      else a.inMemory
  | none => a.inMemory

/-- The sizes on disk after a call that may have written the file of `iccid`. -/
def noteFile (a : Account) (iccid : Option Text) (size : ℤ) (written : Bool) : Text → ℤ :=
  match iccid with
  | some i => if written then Function.update a.onDisk (fileName i) size else a.onDisk
  | none => a.onDisk

/-- The store set to let `writes` more file operations succeed. -/
def failing (a : Account) (writes : Option ℕ) : Storage := { a.storage with failAfter := writes }

/-- The result of a call is a value. -/
def returned {α : Type} : Except PyError α → Bool
  | .ok _ => true
  | .error _ => false

/-- One event.  An ICCID that cannot name a file makes the file operation fail; a directory listing
names exactly the files. -/
def step (a : Account) : MemoryEvent → Option Account
  | .install data uuid writes =>
      let run := (Euicc.installProfile data uuid).run (a.failing writes)
      if ∀ iccid ∈ data.iccid, NamesFile iccid ∨ writes = some 0 then
        some
          { storage := { run.2 with failAfter := none }
            inMemory := a.noteSize data.iccid data.size run.2
            onDisk := a.noteFile data.iccid data.size (returned run.1) }
      else none
  | .delete iccid writes =>
      let run := (Euicc.deleteProfile iccid).run (a.failing writes)
      some { a with storage := { run.2 with failAfter := none } }
  | .restart listing =>
      if listing.Perm a.storage.files.keys then
        some
          { storage := a.storage.reboot listing
            inMemory := fun i => a.onDisk (fileName i)
            onDisk := a.onDisk }
      else none

/-- What the event may not do: delete an installed profile that has a size, or restart over
profiles that have a size together. -/
def Balanced (a : Account) : MemoryEvent → Prop
  | .install _ _ _ => True
  | .delete iccid _ => iccid ∈ a.storage.euicc.profiles.keys → a.inMemory iccid = 0
  | .restart _ => a.stored = 0

instance : ∀ (a : Account) (e : MemoryEvent), Decidable (a.Balanced e)
  | _, .install _ _ _ => inferInstanceAs (Decidable True)
  | _, .delete _ _ => inferInstanceAs (Decidable (_ → _))
  | _, .restart _ => inferInstanceAs (Decidable (_ = _))

/-- What the counter and the sizes differ from the memory of a fresh eUICC. -/
def drift (a : Account) : ℤ := a.free + a.installed - totalNvram

/-- The drift an event leaves behind. -/
def driftAfter (a : Account) : MemoryEvent → ℤ
  | .install _ _ _ => a.drift
  | .delete iccid _ =>
      a.drift - if iccid ∈ a.storage.euicc.profiles.keys then a.inMemory iccid else 0
  | .restart _ => a.stored

/-- **The invariant of every run**: the object is ready, the files are profiles under their names,
and the free memory is not negative. -/
structure Sound (a : Account) : Prop where
  ready : a.storage.euicc.state = .ready
  filed : Euicc.Filed a.storage.files
  nonneg : 0 ≤ a.free

/-! ### One event -/

theorem sum_set {d : Dict Text Isdp} {i : Text} (hi : i ∉ d.keys) (p : Isdp) (f : Text → ℤ) (z : ℤ) :
    ((d.set i p).keys.map (Function.update f i z)).sum = (d.keys.map f).sum + z := by
  have hsame : d.keys.map (Function.update f i z) = d.keys.map f := by
    refine List.map_congr_left fun k hk => Function.update_of_ne ?_ _ _
    rintro rfl
    exact hi hk
  rw [Dict.keys_set, if_neg hi, List.map_append, hsame]
  simp

theorem sum_erase (d : Dict Text Isdp) (i : Text) (f : Text → ℤ) :
    ((d.erase i).keys.map f).sum = (d.keys.map f).sum - if i ∈ d.keys then f i else 0 := by
  have hkeys : (d.erase i).keys = d.keys.erase i := by
    have hnodup : d.keys.Nodup := d.nodup
    rw [hnodup.erase_eq_filter]
    simp only [Dict.keys, Dict.erase, List.filter_map, Function.comp_def]
    congr 1
    exact List.filter_congr fun x _ => Bool.eq_iff_iff.mpr (by simp)
  split_ifs with hi
  · have := (List.perm_cons_erase hi).map f
    rw [hkeys, this.sum_eq]
    simp
  · rw [hkeys, List.erase_of_not_mem hi, sub_zero]

theorem accounted_iff (a : Account) : a.Accounted ↔ a.drift = 0 ∧ 0 ≤ a.free := by
  unfold Accounted drift
  constructor
  · rintro ⟨h, hfree⟩
    exact ⟨by omega, hfree⟩
  · rintro ⟨h, hfree⟩
    exact ⟨by omega, hfree⟩

theorem filed_set {files : Files} (h : Euicc.Filed files) (p : Isdp) :
    Euicc.Filed (files.set (fileName p.iccid) p.toDict) := by
  intro name data hdata
  rw [Dict.get?_set] at hdata
  split_ifs at hdata with hname
  · exact ⟨p, (Option.some.inj hdata).symm, hname⟩
  · exact h name data hdata

theorem filed_erase {files : Files} (h : Euicc.Filed files) (name : Text) :
    Euicc.Filed (files.erase name) := by
  intro n data hdata
  rw [Dict.get?_erase] at hdata
  split_ifs at hdata
  exact h n data hdata

/-- Adding a profile moves its size from the counter to the profiles, whatever becomes of its
file. -/
theorem account_added {a : Account} (h : a.Sound) {p : Isdp} {size : ℤ}
    (hnew : p.iccid ∉ a.storage.euicc.profiles.keys) (hroom : size ≤ a.free) {s : Storage}
    (he : s.euicc = a.storage.euicc.withProfile p size) (hfiled : Euicc.Filed s.files)
    (onDisk : Text → ℤ) :
    Sound ⟨{ s with failAfter := none }, a.noteSize (some p.iccid) size s, onDisk⟩ ∧
      drift ⟨{ s with failAfter := none }, a.noteSize (some p.iccid) size s, onDisk⟩ = a.drift := by
  have hkeys : s.euicc.profiles = a.storage.euicc.profiles.set p.iccid p := by rw [he]; rfl
  have hfree : s.euicc.info.freeNvram = a.free - size := by rw [he]; rfl
  have hsizes : a.noteSize (some p.iccid) size s = Function.update a.inMemory p.iccid size := by
    refine if_pos ⟨hnew, ?_⟩
    rw [hkeys, Dict.mem_keys_set]
    exact .inl rfl
  refine ⟨⟨?_, hfiled, ?_⟩, ?_⟩
  · show s.euicc.state = .ready
    rw [he]
    exact h.ready
  · show 0 ≤ s.euicc.info.freeNvram
    rw [hfree]
    omega
  · show s.euicc.info.freeNvram + (s.euicc.profiles.keys.map (a.noteSize (some p.iccid) size s)).sum -
      totalNvram = a.drift
    rw [hfree, hkeys, hsizes, sum_set hnew, drift, installed]
    omega

theorem step_install {a a' : Account} (h : a.Sound) {data : ProfileData} {uuid : Text}
    {writes : Option ℕ} (hs : a.step (.install data uuid writes) = some a') :
    a'.Sound ∧ a'.drift = a.drift := by
  have hready : (a.failing writes).euicc.state = .ready := h.ready
  simp only [step] at hs
  split_ifs at hs
  obtain rfl := Option.some.inj hs
  rcases Euicc.installProfile_effect hready data uuid with
    ⟨e, hrun, -⟩ | ⟨p, hiccid, hnew, hroom, ⟨s', hrun, he, hf⟩ | ⟨hrun, -⟩⟩
  · have hsame : a.noteSize data.iccid data.size (a.failing writes) = a.inMemory := by
      unfold noteSize
      split
      · exact if_neg fun hi => hi.1 hi.2
      · rfl
    rw [hrun]
    refine ⟨⟨h.ready, h.filed, h.nonneg⟩, ?_⟩
    show (a.failing writes).euicc.info.freeNvram +
      ((a.failing writes).euicc.profiles.keys.map (a.noteSize data.iccid data.size (a.failing writes))).sum -
        totalNvram = a.drift
    rw [hsame]
    rfl
  · rw [hrun, hiccid]
    refine account_added h hnew hroom he ?_ _
    rw [hf]
    exact filed_set h.filed p
  · rw [hrun, hiccid]
    exact account_added (s := (a.failing writes).withEuicc _) h hnew hroom rfl h.filed _

/-- Removing a profile takes its size out of the account, whatever becomes of its file. -/
theorem account_removed {a : Account} (h : a.Sound) {iccid : Text}
    (hin : iccid ∈ a.storage.euicc.profiles.keys) {s : Storage}
    (he : s.euicc = (a.storage.euicc.dropActive iccid).withoutProfile iccid)
    (hfiled : Euicc.Filed s.files) :
    Sound { a with storage := { s with failAfter := none } } ∧
      drift { a with storage := { s with failAfter := none } } = a.drift - a.inMemory iccid := by
  have hkeys : s.euicc.profiles = a.storage.euicc.profiles.erase iccid := by
    rw [he, Euicc.withoutProfile, Euicc.dropActive_profiles]
  have hinfo : s.euicc.info = a.storage.euicc.info := by
    rw [he]
    exact Euicc.dropActive_info _ _
  refine ⟨⟨?_, hfiled, ?_⟩, ?_⟩
  · show s.euicc.state = .ready
    rw [he]
    exact (Euicc.dropActive_state _ _).trans h.ready
  · show 0 ≤ s.euicc.info.freeNvram
    rw [hinfo]
    exact h.nonneg
  · show s.euicc.info.freeNvram + (s.euicc.profiles.keys.map a.inMemory).sum - totalNvram = _
    rw [hkeys, hinfo, sum_erase, if_pos hin, drift, installed, free]
    omega

theorem step_delete {a a' : Account} (h : a.Sound) {iccid : Text} {writes : Option ℕ}
    (hs : a.step (.delete iccid writes) = some a') :
    a'.Sound ∧ a'.drift = a.driftAfter (.delete iccid writes) := by
  have hready : (a.failing writes).euicc.state = .ready := h.ready
  obtain rfl := Option.some.inj hs
  rcases Euicc.deleteProfile_effect hready iccid with
    ⟨hout, e, hrun⟩ | ⟨hin, ⟨s', hrun, he, hf⟩ | ⟨hrun, -⟩⟩
  · have hout' : iccid ∉ a.storage.euicc.profiles.keys := hout
    rw [hrun, driftAfter, if_neg hout', sub_zero]
    exact ⟨⟨h.ready, h.filed, h.nonneg⟩, rfl⟩
  · have hin' : iccid ∈ a.storage.euicc.profiles.keys := hin
    rw [hrun, driftAfter, if_pos hin']
    refine account_removed h hin' he ?_
    rw [hf]
    exact filed_erase h.filed _
  · have hin' : iccid ∈ a.storage.euicc.profiles.keys := hin
    rw [hrun, driftAfter, if_pos hin']
    exact account_removed (s := (a.failing writes).withEuicc _) h hin' rfl h.filed

/-- A restart leaves the sizes of the stored profiles unaccounted for. -/
theorem step_restart {a a' : Account} (h : a.Sound) {listing : List Text}
    (hs : a.step (.restart listing) = some a') : a'.Sound ∧ a'.drift = a.stored := by
  simp only [step] at hs
  split_ifs at hs with hl
  obtain rfl := Option.some.inj hs
  obtain ⟨hfree, hkeys⟩ := Euicc.boot_effect h.filed a.storage.euicc.info.eid hl
  refine ⟨⟨rfl, h.filed, ?_⟩, ?_⟩
  · show 0 ≤ (Euicc.boot _ _ _).info.freeNvram
    rw [hfree]
    decide
  · -- the ICCIDs of the loaded profiles name exactly the files
    have hperm : ((Euicc.boot a.storage.euicc.info.eid a.storage.files listing).profiles.keys.map
        fileName).Perm a.storage.files.keys := by
      refine (List.perm_ext_iff_of_nodup ?_ a.storage.files.nodup).mpr fun name => ?_
      · exact (Dict.nodup _).map fun i j hij => fileName_injective hij
      · rw [List.mem_map]
        constructor
        · rintro ⟨i, hi, rfl⟩
          exact (hkeys i).mp hi
        · intro hname
          obtain ⟨data, hdata⟩ := (Dict.mem_keys_iff _ _).mp hname
          obtain ⟨p, -, rfl⟩ := h.filed name data hdata
          exact ⟨p.iccid, (hkeys p.iccid).mpr hname, rfl⟩
    show (Euicc.boot _ _ _).info.freeNvram + ((Euicc.boot _ _ _).profiles.keys.map _).sum - _ = _
    have hsum := (hperm.map a.onDisk).sum_eq
    rw [List.map_map] at hsum
    rw [hfree]
    show totalNvram + (List.map (a.onDisk ∘ fileName) _).sum - totalNvram = _
    rw [hsum, stored]
    omega

/-- **Step lemma.**  The invariant is kept, and the drift after an event is known before it. -/
theorem step_account {a a' : Account} (h : a.Sound) {e : MemoryEvent} (hs : a.step e = some a') :
    a'.Sound ∧ a'.drift = a.driftAfter e := by
  cases e with
  | install data uuid writes => exact step_install h hs
  | delete iccid writes => exact step_delete h hs
  | restart listing => exact step_restart h hs

theorem start_sound (eid : Text) : (start eid).Sound where
  ready := rfl
  filed := by
    intro name data h
    cases h
  nonneg := by
    show 0 ≤ (512 * 1024 : ℤ)
    decide

theorem start_drift (eid : Text) : (start eid).drift = 0 := rfl

/-- From a right account, an event leads to a right account exactly when it is balanced. -/
theorem balanced_iff {a : Account} (h : a.drift = 0) (e : MemoryEvent) :
    a.Balanced e ↔ a.driftAfter e = 0 := by
  cases e with
  | install data uuid writes => exact iff_of_true trivial h
  | delete iccid writes =>
      rw [Balanced, driftAfter, h, zero_sub, neg_eq_zero]
      split_ifs with hin
      · exact ⟨fun hb => hb hin, fun hz _ => hz⟩
      · exact iff_of_true (fun hb => absurd hb hin) rfl
  | restart listing => exact Iff.rfl

/-! ### Installing and deleting the same profile -/

/-- `n` times: install the package, delete its profile. -/
def rounds (data : ProfileData) (uuid iccid : Text) : ℕ → List MemoryEvent
  | 0 => []
  | n + 1 => rounds data uuid iccid n ++ [.install data uuid none, .delete iccid none]

/-- One round takes the size out of the free memory, if there was room. -/
theorem round_effect {a : Account} (h : a.Sound) {data : ProfileData} {iccid : Text}
    (hdata : data.Complete iccid) (hname : NamesFile iccid)
    (hout : iccid ∉ a.storage.euicc.profiles.keys) (hroom : data.size ≤ a.free) (uuid : Text) :
    ∃ b, runFrom step a [.install data uuid none, .delete iccid none] = some b ∧ b.Sound ∧
      iccid ∉ b.storage.euicc.profiles.keys ∧ b.free = a.free - data.size := by
  have hready : (a.failing none).euicc.state = .ready := h.ready
  have hsafe : ∀ i ∈ data.iccid, NamesFile i ∨ (none : Option ℕ) = some 0 := by
    intro i hi
    rw [hdata.1] at hi
    obtain rfl := Option.some.inj hi
    exact .inl hname
  rcases Euicc.installProfile_effect hready data uuid with
    ⟨e, -, -, hno⟩ | ⟨p, hiccid, -, -, ⟨s₁, hrun, he, -⟩ | ⟨-, hfail⟩⟩
  · rcases hno iccid hdata with hin | hlt
    · exact absurd hin hout
    · exact absurd hroom (not_le.mpr hlt)
  · obtain rfl : iccid = p.iccid := Option.some.inj (hdata.1.symm.trans hiccid)
    obtain ⟨a₁, ha₁⟩ : ∃ a₁, a.step (.install data uuid none) = some a₁ := ⟨_, if_pos hsafe⟩
    have hstore : a₁.storage.euicc = a.storage.euicc.withProfile p data.size := by
      simp only [step, if_pos hsafe, hrun, Option.some.injEq] at ha₁
      rw [← ha₁]
      exact he
    have hin : p.iccid ∈ a₁.storage.euicc.profiles.keys := by
      rw [hstore]
      exact (Dict.mem_keys_set _ _ _ _).mpr (.inl rfl)
    have hsound₁ := (step_account h ha₁).1
    have hready₁ : (a₁.failing none).euicc.state = .ready := hsound₁.ready
    rcases Euicc.deleteProfile_effect hready₁ p.iccid with
      ⟨hnot, -⟩ | ⟨-, ⟨s₂, hrun₂, he₂, -⟩ | ⟨-, hfail⟩⟩
    · exact absurd hin hnot
    · have ha₂ : a₁.step (.delete p.iccid none) =
          some { a₁ with storage := { s₂ with failAfter := none } } := by
        simp only [step, hrun₂]
      refine ⟨_, ?_, (step_account hsound₁ ha₂).1, ?_, ?_⟩
      · rw [runFrom_cons, ha₁, Option.bind_some, runFrom_cons, ha₂]
        rfl
      · show p.iccid ∉ s₂.euicc.profiles.keys
        rw [he₂]
        exact fun hk => ((Dict.mem_keys_erase _ _ _).mp hk).1 rfl
      · show s₂.euicc.info.freeNvram = _
        rw [he₂]
        show (a₁.storage.euicc.dropActive p.iccid).info.freeNvram = _
        rw [Euicc.dropActive_info, hstore]
        rfl
    · exact absurd rfl hfail
  · exact absurd rfl hfail

theorem rounds_effect {a : Account} (h : a.Sound) {data : ProfileData} {uuid iccid : Text}
    (hdata : data.Complete iccid) (hname : NamesFile iccid)
    (hout : iccid ∉ a.storage.euicc.profiles.keys)
    (hroom : ∀ n b, runFrom step a (rounds data uuid iccid n) = some b → data.size ≤ b.free) (n : ℕ) :
    ∃ b, runFrom step a (rounds data uuid iccid n) = some b ∧ b.Sound ∧
      iccid ∉ b.storage.euicc.profiles.keys ∧ b.free = a.free - n * data.size := by
  induction n with
  | zero => exact ⟨a, rfl, h, hout, by simp⟩
  | succ n ih =>
      obtain ⟨b, hb, hsound, hnot, hfree⟩ := ih
      obtain ⟨c, hc, hsound', hnot', hfree'⟩ :=
        round_effect hsound hdata hname hnot (hroom n b hb) uuid
      refine ⟨c, ?_, hsound', hnot', ?_⟩
      · rw [rounds, runFrom_append, hb]
        exact hc
      · rw [hfree', hfree]
        push_cast
        ring

/-! ### Runs -/

theorem run_sound (eid : Text) {es : List MemoryEvent} {a : Account}
    (hrun : runFrom step (start eid) es = some a) : a.Sound :=
  runFrom_invariant step (P := fun _ _ => True) (fun _ _ _ h _ hs => (step_account h hs).1)
    (start_sound eid) (Along.of_forall step (fun _ _ => trivial) _ _) hrun

/-- **Memory accounting.**  In a run from an empty directory the free memory is never negative; with
the sizes of the installed profiles it makes up the whole memory in every state reached if and only
if no installed profile with a size was deleted and no restart found profiles with a size.  And a
profile that fits can be installed and deleted any number of times if and only if it has no size. -/
theorem memory_accounted_iff (eid : Text) (es : List MemoryEvent) (a : Account)
    (hrun : runFrom step (start eid) es = some a) :
    0 ≤ a.free ∧
    ((∀ pre b, pre <+: es → runFrom step (start eid) pre = some b → b.Accounted) ↔
      Along step Balanced (start eid) es) ∧
    ∀ (data : ProfileData) (uuid iccid : Text), data.Complete iccid → NamesFile iccid →
      iccid ∉ a.storage.euicc.profiles.keys → data.size ≤ a.free →
        ((∀ n b, runFrom step a (rounds data uuid iccid n) = some b → data.size ≤ b.free) ↔
          data.size ≤ 0) := by
  refine ⟨(run_sound eid hrun).nonneg, ⟨?_, ?_⟩, ?_⟩
  · intro hall
    refine (along_iff_split step).mpr ?_
    rintro pre e post b rfl hpre
    have hb := (accounted_iff b).mp (hall pre b (List.prefix_append ..) hpre)
    obtain ⟨c, hc⟩ : ∃ c, b.step e = some c := by
      rw [runFrom_append, hpre] at hrun
      obtain ⟨c, hc, -⟩ := runFrom_cons_some step hrun
      exact ⟨c, hc⟩
    have hc' : runFrom step (start eid) (pre ++ [e]) = some c := by
      rw [runFrom_append, hpre, Option.bind_some, runFrom_cons, hc]
      rfl
    have hacc := (accounted_iff c).mp (hall (pre ++ [e]) c ⟨post, by simp⟩ hc')
    rw [balanced_iff hb.1, ← (step_account (run_sound eid hpre) hc).2]
    exact hacc.1
  · intro hbalanced pre b hpre hb
    have hinv : b.Sound ∧ b.drift = 0 :=
      runFrom_invariant step (I := fun a => a.Sound ∧ a.drift = 0)
        (fun x e y hx he hs => by
          obtain ⟨hsound, hdrift⟩ := step_account hx.1 hs
          exact ⟨hsound, hdrift.trans ((balanced_iff hx.2 e).mp he)⟩)
        ⟨start_sound eid, start_drift eid⟩ (hbalanced.beginning step hpre) hb
    exact (accounted_iff b).mpr ⟨hinv.2, hinv.1.nonneg⟩
  · intro data uuid iccid hdata hname hout hroom
    have hsound := run_sound eid hrun
    constructor
    · intro hall
      by_contra hpos
      -- after as many rounds as there are octets free, nothing is left
      obtain ⟨b, hb, -, -, hfree⟩ := rounds_effect hsound hdata hname hout hall a.free.toNat
      have hfit := hall _ b hb
      have hnat : (a.free.toNat : ℤ) = a.free := Int.toNat_of_nonneg hsound.nonneg
      rw [hfree, hnat] at hfit
      nlinarith [hsound.nonneg]
    · intro hsize n b hb
      have hb' : runFrom step (start eid) (es ++ rounds data uuid iccid n) = some b := by
        rw [runFrom_append, hrun]
        exact hb
      exact hsize.trans (run_sound eid hb').nonneg

/-- The package of the examples. -/
def testProfile (size : ℤ) : ProfileData :=
  { iccid := some ['1'], imsi := some [], ki := some [], opc := some [], profileSize := some size }

/-- A profile without a size is installed, found again by a restart and deleted. -/
theorem memory_accounted_zero :
    ∃ a, runFrom step (start ['8']) [.install (testProfile 0) [] none, .restart ["1.json".toList],
        .delete ['1'] none] = some a ∧ a.Accounted ∧
      ∀ n b, runFrom step a (rounds (testProfile 0) [] ['1'] n) = some b → 0 ≤ b.free := by
  have hrun : (runFrom step (start ['8']) [.install (testProfile 0) [] none,
      .restart ["1.json".toList], .delete ['1'] none]).any
        (fun a => decide (['1'] ∉ a.storage.euicc.profiles.keys)) = true := by decide +kernel
  obtain ⟨a, ha, hout⟩ := Option.any_eq_true _ _ |>.mp hrun
  obtain ⟨hfree, haccount, hrounds⟩ := memory_accounted_iff ['8'] _ a ha
  refine ⟨a, ha, ?_, ?_⟩
  · exact haccount.mpr (by decide +kernel) _ a (List.prefix_refl _) ha
  · exact (hrounds (testProfile 0) [] ['1'] ⟨rfl, rfl, rfl, rfl⟩ (by decide) (of_decide_eq_true hout)
      hfree).mpr le_rfl

/-- Installing and deleting one profile that fills the memory leaves no memory and no profile. -/
theorem memory_leaked :
    ¬ ∀ (eid : Text) (es : List MemoryEvent) (a : Account),
      runFrom step (start eid) es = some a → a.Accounted := by
  intro h
  have hrun : (runFrom step (start ['8']) [.install (testProfile totalNvram) [] none,
      .delete ['1'] none]).any (fun a => !decide a.Accounted) = true := by decide +kernel
  obtain ⟨a, ha, hnot⟩ := Option.any_eq_true _ _ |>.mp hrun
  have := h ['8'] _ a ha
  simp [this] at hnot

end Account

end VirtualPhone
