import VirtualPhone.Catalogue

/-! # The profile store over whole runs

The two representations of a catalogue in the program are the object in memory (`Holds`) and the
files (`Mirrors`).  One theorem for each call says which step the files and the memory take, whether
the call ends, raises or is cut off (`Outcome`); reloading the files gives the catalogue back
(`boot_holds`).  The run of the store then keeps `Consistent`: memory and files represent the same
catalogue. -/

namespace VirtualPhone

open Runtime

/-! ### The two representations -/

/-- The object in memory represents the catalogue `c`. -/
structure Holds (e : Euicc) (c : Catalogue) : Prop where
  ready : e.state = .ready
  profiles : ∀ i, e.profiles.get? i = c i
  active : ∀ i, e.activeIccid = some i ↔ c.Enabled i

/-- The files represent the catalogue `c`. -/
structure Mirrors (files : Files) (c : Catalogue) : Prop where
  contents : ∀ i, files.get? (fileName i) = (c i).map Isdp.toDict
  names : ∀ name ∈ files.keys, ∃ i, name = fileName i

theorem fileName_injective {i j : Text} (h : fileName i = fileName j) : i = j :=
  List.append_cancel_right h

theorem Mirrors.set {files : Files} {c : Catalogue} (h : Mirrors files c) (i : Text) (p : Isdp) :
    Mirrors (files.set (fileName i) p.toDict) (c.put i (some p)) := by
  refine ⟨?_, ?_⟩
  · intro j
    by_cases hj : j = i
    · subst hj
      rw [Dict.get?_set_self, Catalogue.put_self]
      rfl
    · rw [Dict.get?_set_ne _ _ (fun he => hj (fileName_injective he)), Catalogue.put_ne c _ hj]
      exact h.contents j
  · intro name hname
    rcases (Dict.mem_keys_set _ _ _ _).mp hname with rfl | hname
    · exact ⟨i, rfl⟩
    · exact h.names name hname

theorem Mirrors.erase {files : Files} {c : Catalogue} (h : Mirrors files c) (i : Text) :
    Mirrors (files.erase (fileName i)) (c.put i none) := by
  refine ⟨?_, ?_⟩
  · intro j
    by_cases hj : j = i
    · subst hj
      rw [Dict.get?_erase_self, Catalogue.put_self]
      rfl
    · rw [Dict.get?_erase_ne _ (fun he => hj (fileName_injective he)), Catalogue.put_ne c _ hj]
      exact h.contents j
  · intro name hname
    exact h.names name ((Dict.mem_keys_erase _ _ _).mp hname).2

theorem Catalogue.switch_eq_put {c : Catalogue} {i : Text} {p : Isdp} (hp : c i = some p)
    (st : ProfileState) : c.switch i st = c.put i (some (p.withState st)) := by
  rw [Catalogue.switch, hp]
  rfl

/-! ### Reloading -/

theorem loadProfile_of_get {files : Files} {e : Euicc} {name : Text} {p : Isdp}
    (h : files.get? name = some p.toDict) :
    Euicc.loadProfile files e name =
      { e with
        profiles := e.profiles.set p.iccid p
        activeIccid := if p.state = .enabled then some p.iccid else e.activeIccid } := by
  simp only [Euicc.loadProfile, h, Isdp.fromDict_toDict]

/-- What a reload has read after some of the files: their profiles, and a pointer to an enabled
one among them if there is one. -/
structure Loaded (c : Catalogue) (e : Euicc) (names : List Text) : Prop where
  profiles : ∀ i, e.profiles.get? i = if fileName i ∈ names then c i else none
  sound : ∀ i, e.activeIccid = some i → c.Enabled i
  complete : ∀ i, fileName i ∈ names → c.Enabled i → e.activeIccid ≠ none

theorem Loaded.step {files : Files} {c : Catalogue} (hc : c.WellFormed) (hm : Mirrors files c)
    {e : Euicc} {names : List Text} (h : Loaded c e names) {name : Text} (hname : name ∈ files.keys) :
    Loaded c (Euicc.loadProfile files e name) (names ++ [name]) := by
  obtain ⟨i, rfl⟩ := hm.names name hname
  obtain ⟨d, hd⟩ := (Dict.mem_keys_iff _ _).mp hname
  obtain ⟨p, hp, rfl⟩ := Option.map_eq_some_iff.mp ((hm.contents i).symm.trans hd)
  obtain rfl : p.iccid = i := hc.keyed i p hp
  rw [loadProfile_of_get hd]
  refine ⟨?_, ?_, ?_⟩
  · intro j
    by_cases hj : j = p.iccid
    · subst hj
      simp [hp]
    · have hmem : fileName j ∈ names ++ [fileName p.iccid] ↔ fileName j ∈ names := by
        rw [List.mem_append, List.mem_singleton]
        exact or_iff_left fun he => hj (fileName_injective he)
      simp only [Dict.get?_set_ne _ _ hj, h.profiles j, hmem]
  · intro j hj
    by_cases hst : p.state = .enabled
    · rw [if_pos hst] at hj
      obtain rfl := Option.some.inj hj
      exact ⟨p, hp, hst⟩
    · rw [if_neg hst] at hj
      exact h.sound j hj
  · intro j hj hen
    by_cases hst : p.state = .enabled
    · simp [hst]
    · simp only [if_neg hst]
      rcases List.mem_append.mp hj with hj | hj
      · exact h.complete j hj hen
      · obtain rfl := fileName_injective (List.mem_singleton.mp hj)
        obtain ⟨q, hq, hqe⟩ := hen
        rw [hp] at hq
        obtain rfl := Option.some.inj hq
        exact absurd hqe hst

theorem Loaded.foldl {files : Files} {c : Catalogue} (hc : c.WellFormed) (hm : Mirrors files c)
    {listing : List Text} (hl : ∀ name ∈ listing, name ∈ files.keys) {e : Euicc}
    {names : List Text} (h : Loaded c e names) :
    Loaded c (listing.foldl (Euicc.loadProfile files) e) (names ++ listing) := by
  induction listing generalizing e names with
  | nil => simpa using h
  | cons name listing ih =>
      have hstep := h.step hc hm (hl name (by simp))
      have := ih (fun n hn => hl n (by simp [hn])) hstep
      simpa using this

/-- **A restart gives the catalogue of the files back**, in whatever order they are listed. -/
theorem boot_holds {files : Files} {c : Catalogue} (hc : c.WellFormed) (hm : Mirrors files c)
    (eid : Text) {listing : List Text} (hl : listing.Perm files.keys) :
    Holds (Euicc.boot eid files listing) c := by
  have hfilter : listing.filter (fun name => ".json".toList.isSuffixOf name) = listing := by
    refine List.filter_eq_self.mpr ?_
    intro name hname
    obtain ⟨i, rfl⟩ := hm.names name (hl.mem_iff.mp hname)
    rw [List.isSuffixOf_iff_suffix]
    exact List.suffix_append i _
  have hempty : Loaded c ({ info := { eid := eid } } : Euicc) [] := by
    refine ⟨?_, ?_, ?_⟩
    · simp
    · intro i hi
      cases hi
    · intro i hi
      cases hi
  have hload := hempty.foldl hc hm fun n hn => hl.mem_iff.mp (hn : n ∈ listing)
  refine ⟨rfl, ?_, ?_⟩
  · intro i
    have hi := hload.profiles i
    simp only [Euicc.boot, Euicc.loadProfiles, hfilter]
    rw [hi, List.nil_append]
    split_ifs with hmem
    · rfl
    · have hkeys : fileName i ∉ files.keys := fun hk => hmem (hl.mem_iff.mpr hk)
      have hnone := (Dict.get?_eq_none_iff _ _).mpr hkeys
      rw [hm.contents i, Option.map_eq_none_iff] at hnone
      exact hnone.symm
  · intro i
    simp only [Euicc.boot, Euicc.loadProfiles, hfilter]
    constructor
    · exact hload.sound i
    · intro hen
      have hmem : fileName i ∈ listing := by
        obtain ⟨p, hp, -⟩ := hen
        have := hm.contents i
        rw [hp] at this
        exact hl.mem_iff.mpr (Dict.mem_keys_of_get? this)
      obtain ⟨j, hj⟩ := Option.ne_none_iff_exists'.mp (hload.complete i (by simpa using hmem) hen)
      rw [hj, hc.unique j i (hload.sound j hj) hen]

/-! ### Calls -/

/-- What a call has done when it ends, normally or not: the files took one step of the catalogue,
and if no file operation failed the memory took the same step, which is none if the call raised. -/
def Outcome {α : Type} (s : Storage) (c : Catalogue) (op : EuiccOp) (r : Except PyError α × Storage) :
    Prop :=
  ∃ c', Mirrors r.2.files c' ∧ c.Step op c' ∧
    (s.failAfter = none → r.2.failAfter = none ∧ Holds r.2.euicc c' ∧ ∀ e, r.1 = .error e → c' = c)

theorem Outcome.stay {α : Type} {s : Storage} {c : Catalogue} {op : EuiccOp} (hm : Mirrors s.files c)
    (hh : Holds s.euicc c) (r : Except PyError α) : Outcome s c op (r, s) :=
  ⟨c, hm, .stay op, fun hf => ⟨hf, hh, fun _ _ => rfl⟩⟩

theorem fileOperation_unlimited (f : Files → Files) {s : Storage} (h : s.failAfter = none) :
    (fileOperation f).run s = (.ok (), { s with files := f s.files }) := by
  unfold fileOperation
  simp only [h]

theorem fileOperation_failing (f : Files → Files) {s : Storage} (h : s.failAfter = some 0) :
    (fileOperation f).run s = (.error .osError, s) := by
  unfold fileOperation
  simp only [h]

theorem fileOperation_counted (f : Files → Files) {s : Storage} {n : ℕ} (h : s.failAfter = some (n + 1)) :
    (fileOperation f).run s = (.ok (), { s with files := f s.files, failAfter := some n }) := by
  unfold fileOperation
  simp only [h]

/-- A file operation succeeds, or raises and changes nothing. -/
theorem fileOperation_cases (f : Files → Files) (s : Storage) :
    (∃ s', (fileOperation f).run s = (.ok (), s') ∧ s'.euicc = s.euicc ∧ s'.files = f s.files ∧
        (s.failAfter = none → s'.failAfter = none)) ∨
      ((fileOperation f).run s = (.error .osError, s) ∧ s.failAfter ≠ none) := by
  cases h : s.failAfter with
  | none => exact Or.inl ⟨_, fileOperation_unlimited f h, rfl, rfl, fun _ => h⟩
  | some n =>
      cases n with
      | zero => exact Or.inr ⟨fileOperation_failing f h, by simp⟩
      | succ n => exact Or.inl ⟨_, fileOperation_counted f h, rfl, rfl, fun he => absurd he (by simp)⟩

namespace Euicc

theorem saveProfile_spec {s : Storage} {c : Catalogue} (hm : Mirrors s.files c) (p : Isdp) :
    (∃ s', (saveProfile p).run s = (.ok (), s') ∧ s'.euicc = s.euicc ∧
        Mirrors s'.files (c.put p.iccid (some p)) ∧ (s.failAfter = none → s'.failAfter = none)) ∨
      ((saveProfile p).run s = (.error .osError, s) ∧ s.failAfter ≠ none) := by
  rcases fileOperation_cases (fun files => files.set (fileName p.iccid) p.toDict) s with
    ⟨s', hrun, he, hf, hfail⟩ | hfail
  · exact Or.inl ⟨s', hrun, he, hf ▸ hm.set p.iccid p, hfail⟩
  · exact Or.inr hfail

theorem deleteProfileFile_spec {s : Storage} {c : Catalogue} (hm : Mirrors s.files c) (i : Text) :
    (∃ s', (deleteProfileFile i).run s = (.ok (), s') ∧ s'.euicc = s.euicc ∧
        Mirrors s'.files (c.put i none) ∧ (s.failAfter = none → s'.failAfter = none)) ∨
      ((deleteProfileFile i).run s = (.error .osError, s) ∧ s.failAfter ≠ none) := by
  rcases fileOperation_cases (fun files => files.erase (fileName i)) s with
    ⟨s', hrun, he, hf, hfail⟩ | hfail
  · exact Or.inl ⟨s', hrun, he, hf ▸ hm.erase i, hfail⟩
  · exact Or.inr hfail

theorem run_requireReady {s : Storage} (h : s.euicc.state = .ready) :
    requireReady.run s = (.ok (), s) := by
  rw [requireReady, Py.run_get_bind, if_neg (not_not.mpr h)]
  rfl

theorem find_some {s : Storage} {i : Text} {p : Isdp} (h : s.euicc.profiles.get? i = some p) :
    (find i).run s = (.ok p, s) := by
  rw [find, Py.run_get_bind, h]
  rfl

theorem find_none {s : Storage} {i : Text} (h : s.euicc.profiles.get? i = none) :
    (find i).run s = (.error (.keyError ("Profile ".toList ++ i ++ " not found".toList)), s) := by
  rw [find, Py.run_get_bind, h]
  rfl

@[simp] theorem run_update (f : Euicc → Euicc) (s : Storage) :
    (update f).run s = (.ok (), s.withEuicc (f s.euicc)) := rfl

theorem withState_profiles {e : Euicc} {c : Catalogue} (h : ∀ k, e.profiles.get? k = c k) (i : Text)
    (st : ProfileState) (k : Text) : (e.withState i st).profiles.get? k = c.switch i st k := by
  rw [withState, Dict.get?_modify, Catalogue.switch_apply, h k]
  split_ifs with hk
  · rw [hk]
  · rfl

/-- The pointer names the enabled profile, if there is one. -/
theorem active_cases {e : Euicc} {c : Catalogue} (hc : c.WellFormed) (hh : Holds e c) :
    (∃ j p, c.Enabled j ∧ c j = some p ∧ e.activeIccid = some j ∧ e.getActiveProfile = some p) ∨
      ((∀ j, ¬ c.Enabled j) ∧ e.activeIccid = none) := by
  cases ha : e.activeIccid with
  | none =>
      refine Or.inr ⟨fun j hj => ?_, rfl⟩
      rw [(hh.active j).mpr hj] at ha
      cases ha
  | some j =>
      have hen := (hh.active j).mp ha
      obtain ⟨p, hp, hst⟩ := hen
      refine Or.inl ⟨j, p, ⟨p, hp, hst⟩, hp, rfl, ?_⟩
      cases j with
      | nil => rw [hc.nonempty] at hp; cases hp
      | cons x j => simp only [getActiveProfile, ha, hh.profiles, hp]

theorem releaseActive_spec {s : Storage} {c : Catalogue} (hc : c.WellFormed) (hm : Mirrors s.files c)
    (hh : Holds s.euicc c) :
    (∃ c₁ s₁, releaseActive.run s = (.ok (), s₁) ∧ c.Released c₁ ∧ Mirrors s₁.files c₁ ∧
        s₁.euicc.state = .ready ∧ (∀ k, s₁.euicc.profiles.get? k = c₁ k) ∧
        (s.failAfter = none → s₁.failAfter = none)) ∨
      (∃ s₁, releaseActive.run s = (.error .osError, s₁) ∧ Mirrors s₁.files c ∧ s.failAfter ≠ none) := by
  rcases active_cases hc hh with ⟨j, p, hen, hp, hact, hget⟩ | ⟨hnone, hact⟩
  · obtain rfl : p.iccid = j := hc.keyed j p hp
    have hrun : releaseActive.run s = (saveProfile (p.withState .disabled)).run
        (s.withEuicc (s.euicc.withState p.iccid .disabled)) := by
      simp only [releaseActive, Py.run_get_bind, hact, hget]
      exact Py.run_bind_ok (run_update _ s) _
    have hm' : Mirrors (s.withEuicc (s.euicc.withState p.iccid .disabled)).files c := hm
    rw [hrun]
    rcases saveProfile_spec hm' (p.withState .disabled) with ⟨s₁, hs₁, he, hm₁, hfail⟩ | ⟨hs₁, hfail⟩
    · refine Or.inl ⟨c.switch p.iccid .disabled, s₁, hs₁, Or.inl ⟨_, hen, rfl⟩, ?_, ?_, ?_, hfail⟩
      · rw [Catalogue.switch_eq_put hp]
        exact hm₁
      · rw [he]
        exact hh.ready
      · rw [he]
        exact withState_profiles hh.profiles _ _
    · exact Or.inr ⟨_, hs₁, hm, hfail⟩
  · have hrun : releaseActive.run s = (.ok (), s) := by
      simp only [releaseActive, Py.run_get_bind, hact]
      rfl
    exact Or.inl ⟨c, s, hrun, Or.inr ⟨hnone, rfl⟩, hm, hh.ready, hh.profiles, id⟩

theorem holds_switched {e : Euicc} {c c₁ : Catalogue} (hc : c.WellFormed) (hrel : c.Released c₁)
    (hready : e.state = .ready) (hprofiles : ∀ k, e.profiles.get? k = c₁ k) {i : Text}
    (hi : (c i).isSome) :
    Holds ((e.withState i .enabled).withActive (some i)) (c₁.switch i .enabled) := by
  refine ⟨hready, withState_profiles hprofiles i .enabled, ?_⟩
  intro k
  rw [Catalogue.switch_enabled]
  split_ifs with hk
  · subst hk
    exact iff_of_true rfl ⟨rfl, (hrel.isSome k).trans hi⟩
  · exact iff_of_false (fun he => hk (Option.some.inj he).symm) (hrel.not_enabled hc k)

theorem dropActive_state (e : Euicc) (i : Text) : (e.dropActive i).state = e.state := by
  unfold dropActive
  split_ifs <;> rfl

theorem dropActive_profiles (e : Euicc) (i : Text) : (e.dropActive i).profiles = e.profiles := by
  unfold dropActive
  split_ifs <;> rfl

theorem dropActive_activeIccid (e : Euicc) (i k : Text) :
    (e.dropActive i).activeIccid = some k ↔ e.activeIccid = some k ∧ k ≠ i := by
  unfold dropActive
  split_ifs with hi
  · simp [withActive, hi, eq_comm]
  · refine ⟨fun hk => ⟨hk, ?_⟩, fun hk => hk.1⟩
    rintro rfl
    exact hi hk

theorem holds_disabled {e : Euicc} {c : Catalogue} (hh : Holds e c) (i : Text) :
    Holds ((e.withState i .disabled).dropActive i) (c.switch i .disabled) := by
  refine ⟨(dropActive_state _ i).trans hh.ready, ?_, ?_⟩
  · rw [dropActive_profiles]
    exact withState_profiles hh.profiles i .disabled
  · intro k
    have hk : (e.withState i .disabled).activeIccid = some k ↔ c.Enabled k := hh.active k
    rw [dropActive_activeIccid, Catalogue.switch_enabled, hk]
    split_ifs with hki
    · simp [hki]
    · simp [hki]

theorem holds_deleted {e : Euicc} {c : Catalogue} (hh : Holds e c) (i : Text) :
    Holds ((e.dropActive i).withoutProfile i) (c.put i none) := by
  refine ⟨(dropActive_state e i).trans hh.ready, ?_, ?_⟩
  · intro k
    simp only [withoutProfile, dropActive_profiles, Dict.get?_erase, hh.profiles k]
    rfl
  · intro k
    change (e.dropActive i).activeIccid = some k ↔ _
    rw [dropActive_activeIccid, Catalogue.put_enabled, hh.active k]
    split_ifs with hki
    · simp [hki]
    · simp [hki]

theorem holds_installed {e : Euicc} {c : Catalogue} (hh : Holds e c) {p : Isdp}
    (hnone : c p.iccid = none) (hst : p.state = .disabled) (size : ℤ) :
    Holds (e.withProfile p size) (c.put p.iccid (some p)) := by
  refine ⟨hh.ready, ?_, ?_⟩
  · intro k
    change (e.profiles.set p.iccid p).get? k = _
    rw [Dict.get?_set, hh.profiles k]
    rfl
  · intro k
    change e.activeIccid = some k ↔ _
    rw [Catalogue.put_enabled, hh.active k]
    split_ifs with hk
    · subst hk
      refine iff_of_false ?_ ?_
      · rintro ⟨q, hq, -⟩
        rw [hnone] at hq
        cases hq
      · rintro ⟨q, hq, hqe⟩
        obtain rfl := Option.some.inj hq
        rw [hst] at hqe
        cases hqe
    · rfl

theorem enableProfile_outcome {s : Storage} {c : Catalogue} (hc : c.WellFormed)
    (hm : Mirrors s.files c) (hh : Holds s.euicc c) (i : Text) :
    Outcome s c (.enable i) ((enableProfile i).run s) := by
  rw [enableProfile, Py.run_bind_ok (run_requireReady hh.ready)]
  cases hci : c i with
  | none =>
      rw [Py.run_bind_error (find_none ((hh.profiles i).trans hci))]
      exact Outcome.stay hm hh _
  | some target =>
      rw [Py.run_bind_ok (find_some ((hh.profiles i).trans hci))]
      by_cases hst : target.state = .enabled
      · rw [if_pos hst]
        exact Outcome.stay hm hh _
      · rw [if_neg hst]
        have hsome : (c i).isSome := by rw [hci]; rfl
        have hnot : ¬ c.Enabled i := by
          rintro ⟨p, hp, hpe⟩
          obtain rfl : target = p := Option.some.inj (hci.symm.trans hp)
          exact hst hpe
        rcases releaseActive_spec hc hm hh with
          ⟨c₁, s₁, hrun, hrel, hm₁, hready, hprofiles, hfail⟩ | ⟨s₁, hrun, hm₁, hfail⟩
        · have hc₁ : c₁ i = some target := by
            rcases hrel.frame i with he | ⟨hen, -⟩
            · rw [he, hci]
            · exact absurd hen hnot
          have hheld := holds_switched hc hrel hready hprofiles hsome
          obtain rfl : target.iccid = i := hc.keyed i target hci
          let e' := (s₁.euicc.withState target.iccid .enabled).withActive (some target.iccid)
          have hm' : Mirrors (s₁.withEuicc e').files c₁ := hm₁
          rw [Py.run_bind_ok hrun, Py.run_bind_ok (run_update _ _), Py.run_bind_ok (run_update _ _),
            Storage.withEuicc_euicc, Storage.withEuicc_withEuicc]
          rcases saveProfile_spec hm' (target.withState .enabled) with
            ⟨s₂, hs₂, he, hm₂, hfail₂⟩ | ⟨hs₂, hfail₂⟩
          · rw [Py.run_bind_ok hs₂]
            refine ⟨c₁.switch target.iccid .enabled, ?_, .enable _ c₁ hsome hnot hrel, ?_⟩
            · rw [Catalogue.switch_eq_put hc₁]
              exact hm₂
            · intro hf
              refine ⟨hfail₂ (hfail hf), ?_, ?_⟩
              · change Holds s₂.euicc _
                rw [he]
                exact hheld
              · intro e he'
                cases he'
          · rw [Py.run_bind_error hs₂]
            exact ⟨c₁, hm₁, .release _ c₁ hsome hnot hrel, fun hf => absurd (hfail hf) hfail₂⟩
        · rw [Py.run_bind_error hrun]
          exact ⟨c, hm₁, .stay _, fun hf => absurd hf hfail⟩

theorem disableProfile_outcome {s : Storage} {c : Catalogue} (hc : c.WellFormed)
    (hm : Mirrors s.files c) (hh : Holds s.euicc c) (i : Text) :
    Outcome s c (.disable i) ((disableProfile i).run s) := by
  rw [disableProfile, Py.run_bind_ok (run_requireReady hh.ready)]
  cases hci : c i with
  | none =>
      rw [Py.run_bind_error (find_none ((hh.profiles i).trans hci))]
      exact Outcome.stay hm hh _
  | some target =>
      rw [Py.run_bind_ok (find_some ((hh.profiles i).trans hci))]
      by_cases hst : target.state = .disabled
      · rw [if_pos hst]
        exact Outcome.stay hm hh _
      · rw [if_neg hst]
        obtain rfl : target.iccid = i := hc.keyed i target hci
        have hm' : Mirrors (s.withEuicc (s.euicc.withState target.iccid .disabled)).files c := hm
        rw [Py.run_bind_ok (run_update _ _)]
        rcases saveProfile_spec hm' (target.withState .disabled) with
          ⟨s₁, hs₁, he, hm₁, hfail⟩ | ⟨hs₁, hfail⟩
        · rw [Py.run_bind_ok hs₁, Py.run_bind_ok (run_update _ _)]
          refine ⟨c.switch target.iccid .disabled, ?_, .disable _, ?_⟩
          · rw [Catalogue.switch_eq_put hci]
            exact hm₁
          · intro hf
            refine ⟨hfail hf, ?_, ?_⟩
            · change Holds (s₁.euicc.dropActive target.iccid) _
              rw [he]
              exact holds_disabled hh target.iccid
            · intro e he'
              cases he'
        · rw [Py.run_bind_error hs₁]
          exact ⟨c, hm, .stay _, fun hf => absurd hf hfail⟩

theorem deleteProfile_outcome {s : Storage} {c : Catalogue} (hm : Mirrors s.files c)
    (hh : Holds s.euicc c) (i : Text) : Outcome s c (.delete i) ((deleteProfile i).run s) := by
  rw [deleteProfile, Py.run_bind_ok (run_requireReady hh.ready)]
  cases hci : c i with
  | none =>
      rw [Py.run_bind_error (find_none ((hh.profiles i).trans hci))]
      exact Outcome.stay hm hh _
  | some target =>
      let e' := (s.euicc.dropActive i).withoutProfile i
      have hm' : Mirrors (s.withEuicc e').files c := hm
      rw [Py.run_bind_ok (find_some ((hh.profiles i).trans hci)), Py.run_bind_ok (run_update _ _),
        Py.run_bind_ok (run_update _ _), Storage.withEuicc_euicc, Storage.withEuicc_withEuicc]
      rcases deleteProfileFile_spec hm' i with ⟨s₁, hs₁, he, hm₁, hfail⟩ | ⟨hs₁, hfail⟩
      · rw [Py.run_bind_ok hs₁]
        refine ⟨c.put i none, hm₁, .delete i, ?_⟩
        intro hf
        refine ⟨hfail hf, ?_, ?_⟩
        · change Holds s₁.euicc _
          rw [he]
          exact holds_deleted hh i
        · intro e he'
          cases he'
      · rw [Py.run_bind_error hs₁]
        exact ⟨c, hm, .stay _, fun hf => absurd hf hfail⟩

theorem required_cases (key : Text) (value : Option Text) (s : Storage) :
    (∃ v, value = some v ∧ (required key value).run s = (.ok v, s)) ∨
      (required key value).run s = (.error (.keyError key), s) := by
  cases value with
  | none => exact Or.inr rfl
  | some v => exact Or.inl ⟨v, rfl, rfl⟩

theorem installProfile_outcome {s : Storage} {c : Catalogue} (hm : Mirrors s.files c)
    (hh : Holds s.euicc c) (data : ProfileData) (uuid : Text) :
    Outcome s c (.install data uuid) ((installProfile data uuid).run s) := by
  rw [installProfile, Py.run_bind_ok (run_requireReady hh.ready)]
  rcases required_cases "iccid".toList data.iccid s with ⟨iccid, hiccid, hrun⟩ | hrun
  swap
  · rw [Py.run_bind_error hrun]
    exact Outcome.stay hm hh _
  rw [Py.run_bind_ok hrun, Py.run_get_bind]
  by_cases hmem : iccid ∈ s.euicc.profiles.keys
  · rw [if_pos hmem]
    exact Outcome.stay hm hh _
  rw [if_neg hmem]
  have hnone : c iccid = none := by
    rw [← hh.profiles]
    exact (Dict.get?_eq_none_iff _ _).mpr hmem
  by_cases hsize : data.profileSize.getD (64 * 1024) > s.euicc.info.freeNvram
  · rw [if_pos hsize]
    exact Outcome.stay hm hh _
  rw [if_neg hsize]
  rcases required_cases "imsi".toList data.imsi s with ⟨imsi, -, hrun⟩ | hrun
  swap
  · rw [Py.run_bind_error hrun]
    exact Outcome.stay hm hh _
  rw [Py.run_bind_ok hrun]
  rcases required_cases "ki".toList data.ki s with ⟨ki, -, hrun⟩ | hrun
  swap
  · rw [Py.run_bind_error hrun]
    exact Outcome.stay hm hh _
  rw [Py.run_bind_ok hrun]
  rcases required_cases "opc".toList data.opc s with ⟨opc, -, hrun⟩ | hrun
  swap
  · rw [Py.run_bind_error hrun]
    exact Outcome.stay hm hh _
  rw [Py.run_bind_ok hrun]
  let p := newProfile data uuid iccid imsi ki opc
  let size := data.profileSize.getD (64 * 1024)
  have hm' : Mirrors (s.withEuicc (s.euicc.withProfile p size)).files c := hm
  rw [Py.run_bind_ok (run_update _ _)]
  rcases saveProfile_spec hm' p with ⟨s₁, hs₁, he, hm₁, hfail⟩ | ⟨hs₁, hfail⟩
  · rw [Py.run_bind_ok hs₁]
    refine ⟨c.put iccid (some p), hm₁, .install data uuid p hiccid hnone rfl, ?_⟩
    intro hf
    refine ⟨hfail hf, ?_, ?_⟩
    · change Holds s₁.euicc _
      rw [he]
      exact holds_installed hh (p := p) hnone rfl size
    · intro e he'
      cases he'
  · rw [Py.run_bind_error hs₁]
    exact ⟨c, hm, .stay _, fun hf => absurd hf hfail⟩

end Euicc

/-! ### Runs -/

/-- Memory and files represent one and the same catalogue, and no file operation is set to fail. -/
structure Consistent (s : Storage) (c : Catalogue) : Prop where
  wellFormed : c.WellFormed
  holds : Holds s.euicc c
  mirrors : Mirrors s.files c
  noFailure : s.failAfter = none

theorem start_consistent (eid : Text) : Consistent (Storage.start eid) fun _ => none := by
  have hwf : Catalogue.WellFormed fun _ => none := ⟨by simp, rfl, by simp [Catalogue.Enabled]⟩
  have hm : Mirrors Dict.empty fun _ => none := ⟨by simp, by simp⟩
  exact ⟨hwf, boot_holds hwf hm eid (List.Perm.refl _), hm, rfl⟩

theorem prog_outcome {s : Storage} {c : Catalogue} (hc : c.WellFormed) (hm : Mirrors s.files c)
    (hh : Holds s.euicc c) (op : EuiccOp) : Outcome s c op (op.prog.run s) := by
  have hdrop : ∀ {α : Type} (x : Py Storage α), Outcome s c op (x.run s) →
      Outcome s c op ((do let _ ← x : Py Storage Unit).run s) := by
    rintro α x ⟨c', hm', hstep, hend⟩
    cases hx : x.run s with
    | mk r s' =>
        rw [hx] at hm' hend
        cases r with
        | ok a =>
            rw [Py.run_bind_ok hx]
            exact ⟨c', hm', hstep, fun hf => ⟨(hend hf).1, (hend hf).2.1, fun _ he => by cases he⟩⟩
        | error e =>
            rw [Py.run_bind_error hx]
            exact ⟨c', hm', hstep, fun hf => ⟨(hend hf).1, (hend hf).2.1, fun _ _ =>
              (hend hf).2.2 e rfl⟩⟩
  cases op with
  | install data uuid => exact hdrop _ (Euicc.installProfile_outcome hm hh data uuid)
  | enable i => exact hdrop _ (Euicc.enableProfile_outcome hc hm hh i)
  | disable i => exact hdrop _ (Euicc.disableProfile_outcome hc hm hh i)
  | delete i => exact hdrop _ (Euicc.deleteProfile_outcome hm hh i)

theorem step_call {s s' : Storage} {c : Catalogue} (h : Consistent s c) {op : EuiccOp}
    (hs : s.step (.call op) = some s') :
    ∃ c', Consistent s' c' ∧ c.Step op c' ∧ ∀ e, (op.prog.run s).1 = .error e → c' = c := by
  rw [Storage.step] at hs
  split_ifs at hs with hsafe
  obtain rfl := Option.some.inj hs
  obtain ⟨c', hm, hstep, hend⟩ := prog_outcome h.wellFormed h.mirrors h.holds op
  obtain ⟨hfail, hheld, herr⟩ := hend h.noFailure
  exact ⟨c', ⟨hstep.wellFormed h.wellFormed hsafe, hheld, hm, hfail⟩, hstep, herr⟩

theorem step_restart {s s' : Storage} {c : Catalogue} (h : Consistent s c) {listing : List Text}
    (hs : s.step (.restart listing) = some s') : Consistent s' c := by
  rw [Storage.step] at hs
  split_ifs at hs with hl
  obtain rfl := Option.some.inj hs
  exact ⟨h.wellFormed, boot_holds h.wellFormed h.mirrors _ hl, h.mirrors, rfl⟩

theorem step_crash {s s' : Storage} {c : Catalogue} (h : Consistent s c) {op : EuiccOp} {writes : ℕ}
    {listing : List Text} (hs : s.step (.crash op writes listing) = some s') :
    ∃ c', Consistent s' c' ∧ c.Step op c' := by
  rw [Storage.step] at hs
  split_ifs at hs with hl
  obtain rfl := Option.some.inj hs
  obtain ⟨c', hm, hstep, -⟩ := prog_outcome (s := { s with failAfter := some writes })
    h.wellFormed h.mirrors h.holds op
  have hwf := hstep.wellFormed h.wellFormed hl.1
  exact ⟨c', ⟨hwf, boot_holds hwf hm _ hl.2, hm, rfl⟩, hstep⟩

/-- **Run lemma.**  Memory and files agree in every state the store reaches. -/
theorem run_consistent {eid : Text} {events : List EuiccEvent} {s : Storage}
    (h : runFrom Storage.step (Storage.start eid) events = some s) : ∃ c, Consistent s c := by
  refine runFrom_invariant Storage.step (P := fun _ _ => True) (I := fun s => ∃ c, Consistent s c)
    ?_ ⟨_, start_consistent eid⟩ ?_ h
  · rintro s e s' ⟨c, hc⟩ - hs
    cases e with
    | call op =>
        obtain ⟨c', hc', -⟩ := step_call hc hs
        exact ⟨c', hc'⟩
    | restart listing => exact ⟨c, step_restart hc hs⟩
    | crash op writes listing =>
        obtain ⟨c', hc', -⟩ := step_crash hc hs
        exact ⟨c', hc'⟩
  · exact (along_iff_split Storage.step).mpr fun _ _ _ _ _ _ => trivial

/-- The catalogue in memory. -/
def Euicc.catalogue (e : Euicc) : Catalogue := e.profiles.get?

/-- What a step may not touch: a profile that stays installed keeps every field but its state, the
state changes only as the call is meant to change it, only an installation adds a profile and only
a deletion removes one. -/
def Framed (c : Catalogue) (op : EuiccOp) (c' : Catalogue) : Prop :=
  (∀ i p q, c i = some p → c' i = some q →
      q = p.withState q.state ∧ (q.state = p.state ∨ c.Switches op i q.state)) ∧
    (∀ i, c i = none → (c' i).isSome → ∃ data uuid, op = .install data uuid ∧ data.iccid = some i) ∧
    ∀ i, (c i).isSome → c' i = none → op = .delete i

theorem Catalogue.Step.framed {c c' : Catalogue} {op : EuiccOp} (h : c.Step op c') :
    Framed c op c' :=
  ⟨fun _ _ _ hp hq => h.frame hp hq, fun _ hi hi' => h.added hi hi', fun _ hi hi' => h.removed hi hi'⟩

theorem Holds.catalogue_eq {e : Euicc} {c : Catalogue} (h : Holds e c) : e.catalogue = c :=
  funext h.profiles

/-- **The profile store.**  In every state that calls, failed calls, restarts and crashes inside a
call reach from an empty directory: at most one profile is enabled, and the pointer names it; a call
touches nothing but what it is meant to switch, and nothing at all when it raises; a restart changes
neither the profiles nor the enabled one; and a crash inside `enable_profile` leaves the installed
set alone and nothing enabled but the old or the new profile. -/
theorem store_invariant (eid : Text) (events : List EuiccEvent) (s : Storage)
    (h : runFrom Storage.step (Storage.start eid) events = some s) :
    (∀ i j, s.euicc.catalogue.Enabled i → s.euicc.catalogue.Enabled j → i = j) ∧
    (∀ i, s.euicc.activeIccid = some i ↔ s.euicc.catalogue.Enabled i) ∧
    (∀ op s', s.step (.call op) = some s' →
      Framed s.euicc.catalogue op s'.euicc.catalogue ∧
        ∀ e, (op.prog.run s).1 = .error e → s'.euicc.catalogue = s.euicc.catalogue) ∧
    (∀ listing s', s.step (.restart listing) = some s' →
      s'.euicc.catalogue = s.euicc.catalogue ∧ s'.euicc.activeIccid = s.euicc.activeIccid) ∧
    (∀ op writes listing s', s.step (.crash op writes listing) = some s' →
      Framed s.euicc.catalogue op s'.euicc.catalogue) ∧
    ∀ i writes listing s', s.step (.crash (.enable i) writes listing) = some s' →
      (∀ j, (s'.euicc.catalogue j).isSome = (s.euicc.catalogue j).isSome) ∧
        ∀ j, s'.euicc.catalogue.Enabled j → s.euicc.catalogue.Enabled j ∨ j = i := by
  obtain ⟨c, hc⟩ := run_consistent h
  rw [hc.holds.catalogue_eq]
  refine ⟨hc.wellFormed.unique, hc.holds.active, ?_, ?_, ?_, ?_⟩
  · intro op s' hs
    obtain ⟨c', hc', hstep, herr⟩ := step_call hc hs
    rw [hc'.holds.catalogue_eq]
    exact ⟨hstep.framed, herr⟩
  · intro listing s' hs
    have hc' := step_restart hc hs
    refine ⟨hc'.holds.catalogue_eq, Option.ext fun i => ?_⟩
    exact (hc'.holds.active i).trans (hc.holds.active i).symm
  · intro op writes listing s' hs
    obtain ⟨c', hc', hstep⟩ := step_crash hc hs
    rw [hc'.holds.catalogue_eq]
    exact hstep.framed
  · intro i writes listing s' hs
    obtain ⟨c', hc', hstep⟩ := step_crash hc hs
    rw [hc'.holds.catalogue_eq]
    exact ⟨hstep.isSome_enable, fun j hj => hstep.enabled_enable hc.wellFormed hj⟩

/-- Two profiles, a switch between them, a crash in the middle of the switch back. -/
theorem store_invariant_switch :
    ∃ s, runFrom Storage.step (Storage.start "89001".toList)
        [.call (.install { iccid := some ['1'], imsi := some [], ki := some [], opc := some [] } []),
          .call (.install { iccid := some ['2'], imsi := some [], ki := some [], opc := some [] } []),
          .call (.enable ['1']), .call (.enable ['2']),
          .crash (.enable ['1']) 1 ["2.json".toList, "1.json".toList]] = some s ∧
      (∀ i j, s.euicc.catalogue.Enabled i → s.euicc.catalogue.Enabled j → i = j) ∧
      ∀ i, s.euicc.activeIccid = some i ↔ s.euicc.catalogue.Enabled i := by
  have hrun : (runFrom Storage.step (Storage.start "89001".toList)
      [.call (.install { iccid := some ['1'], imsi := some [], ki := some [], opc := some [] } []),
        .call (.install { iccid := some ['2'], imsi := some [], ki := some [], opc := some [] } []),
        .call (.enable ['1']), .call (.enable ['2']),
        .crash (.enable ['1']) 1 ["2.json".toList, "1.json".toList]]).isSome := by
    decide +kernel
  obtain ⟨s, hs⟩ := Option.isSome_iff_exists.mp hrun
  have hstore := store_invariant _ _ s hs
  exact ⟨s, hs, hstore.1, hstore.2.1⟩

end VirtualPhone
