import VirtualPhone.EuiccMemory

/-! # What a failed save leaves behind

`install_profile`, `enable_profile` and `disable_profile` change the object in memory before they
write the file of a profile, and nothing takes the change back when the write raises.  So whichever
write fails, the object is left changed (`save_failure_changes`): with a profile that has no file, or
with a profile in another state than its file says. -/

namespace VirtualPhone

open Runtime

/-- The profiles with their states, the pointer and the free memory are the same. -/
structure SameMemory (e e' : Euicc) : Prop where
  profiles : ∀ i, e'.profiles.get? i = e.profiles.get? i
  active : e'.activeIccid = e.activeIccid
  freeNvram : e'.info.freeNvram = e.info.freeNvram

/-- The calls that save profiles. -/
def EuiccOp.Saves : EuiccOp → Prop
  | .delete _ => False
  | _ => True

instance : DecidablePred EuiccOp.Saves
  | .install _ _ => inferInstanceAs (Decidable True)
  | .enable _ => inferInstanceAs (Decidable True)
  | .disable _ => inferInstanceAs (Decidable True)
  | .delete _ => inferInstanceAs (Decidable False)

/-- The storage whose file operations fail after `writes` more. -/
def Storage.failing (s : Storage) (writes : ℕ) : Storage := { s with failAfter := some writes }

/-- The call raises and leaves the memory as it was. -/
def Storage.RaisesCleanly (s : Storage) (op : EuiccOp) : Prop :=
  (∃ e, (op.prog.run s).1 = .error e) ∧ SameMemory s.euicc (op.prog.run s).2.euicc

namespace Euicc

/-- An installed profile got another state. -/
def Restated (e e' : Euicc) : Prop :=
  ∃ i p st, e.profiles.get? i = some p ∧ p.state ≠ st ∧ e'.profiles.get? i = some (p.withState st)

theorem Restated.changed {e e' : Euicc} (h : Restated e e') : ¬SameMemory e e' := by
  obtain ⟨i, p, st, hp, hst, hp'⟩ := h
  intro hsame
  have hget := hsame.profiles i
  rw [hp, hp'] at hget
  exact hst (congrArg Isdp.state (Option.some.inj hget)).symm

theorem restated_withState {e e' : Euicc} {i : Text} {p : Isdp} {st : ProfileState}
    (hp : e.profiles.get? i = some p) (hst : p.state ≠ st)
    (he : e'.profiles = (e.withState i st).profiles) : Restated e e' := by
  refine ⟨i, p, st, hp, hst, ?_⟩
  rw [he, withState, Dict.get?_modify, if_pos rfl, hp]
  rfl

theorem saveProfile_cases (p : Isdp) (s : Storage) :
    (∃ s', (saveProfile p).run s = (.ok (), s') ∧ s'.euicc = s.euicc) ∨
      (saveProfile p).run s = (.error .osError, s) := by
  rcases fileOperation_cases (fun files => files.set (fileName p.iccid) p.toDict) s with
    ⟨s', hrun, he, -⟩ | ⟨hrun, -⟩
  · exact Or.inl ⟨s', hrun, he⟩
  · exact Or.inr hrun

/-- A failed installation leaves the profile in memory and its size taken. -/
theorem installProfile_failed {s : Storage} (hready : s.euicc.state = .ready) {data : ProfileData}
    {uuid : Text} (h : ((installProfile data uuid).run s).1 = .error .osError) :
    ∃ p : Isdp, p.iccid ∉ s.euicc.profiles.keys ∧
      ((installProfile data uuid).run s).2.euicc = s.euicc.withProfile p data.size := by
  rcases installProfile_effect hready data uuid with
    ⟨e, hrun, hne, -⟩ | ⟨p, -, hnew, -, ⟨s', hrun, -, -⟩ | ⟨hrun, -⟩⟩
  · rw [hrun] at h
    exact absurd (Except.error.inj h) hne
  · rw [hrun] at h
    cases h
  · rw [hrun]
    exact ⟨p, hnew, rfl⟩

/-- Where the active profile cannot be written, it is left disabled in memory. -/
theorem releaseActive_cases {s : Storage} {c : Catalogue} (hc : c.WellFormed) (hh : Holds s.euicc c) :
    (∃ s₁, releaseActive.run s = (.ok (), s₁) ∧
        ∀ i, ¬c.Enabled i → s₁.euicc.profiles.get? i = s.euicc.profiles.get? i) ∨
      ∃ s₁, releaseActive.run s = (.error .osError, s₁) ∧ Restated s.euicc s₁.euicc := by
  rcases active_cases hc hh with ⟨j, p, hen, hp, hact, hget⟩ | ⟨hnone, hact⟩
  · have hrun : releaseActive.run s = (saveProfile (p.withState .disabled)).run
        (s.withEuicc (s.euicc.withState j .disabled)) := by
      simp only [releaseActive, Py.run_get_bind, hact, hget]
      exact Py.run_bind_ok (run_update _ s) _
    have hstate : p.state ≠ .disabled := by
      obtain ⟨q, hq, hqe⟩ := hen
      obtain rfl := Option.some.inj (hp.symm.trans hq)
      rw [hqe]
      decide
    rw [hrun]
    rcases saveProfile_cases (p.withState .disabled) (s.withEuicc (s.euicc.withState j .disabled)) with
      ⟨s₁, hs₁, he⟩ | hs₁
    · refine Or.inl ⟨s₁, hs₁, fun i hi => ?_⟩
      have hij : i ≠ j := by
        rintro rfl
        exact hi hen
      rw [he, Storage.withEuicc_euicc, withState, Dict.get?_modify, if_neg hij]
    · exact Or.inr ⟨_, hs₁, restated_withState ((hh.profiles j).trans hp) hstate rfl⟩
  · refine Or.inl ⟨s, ?_, fun _ _ => rfl⟩
    simp only [releaseActive, Py.run_get_bind, hact]
    rfl

/-- A failed switch leaves the old profile disabled or the new one enabled. -/
theorem enableProfile_failed {s : Storage} {c : Catalogue} (hc : c.WellFormed) (hh : Holds s.euicc c)
    {i : Text} (h : ((enableProfile i).run s).1 = .error .osError) :
    Restated s.euicc ((enableProfile i).run s).2.euicc := by
  unfold enableProfile at h ⊢
  rw [Py.run_bind_ok (run_requireReady hh.ready)] at h ⊢
  cases hi : s.euicc.profiles.get? i with
  | none =>
      rw [Py.run_bind_error (find_none hi)] at h
      cases h
  | some target =>
      rw [Py.run_bind_ok (find_some hi)] at h ⊢
      by_cases hst : target.state = .enabled
      · rw [if_pos hst] at h
        cases h
      · rw [if_neg hst] at h ⊢
        have hnot : ¬c.Enabled i := by
          rintro ⟨p, hp, hpe⟩
          obtain rfl := Option.some.inj (hi.symm.trans ((hh.profiles i).trans hp))
          exact hst hpe
        rcases releaseActive_cases hc hh with ⟨s₁, hs₁, hkept⟩ | ⟨s₁, hs₁, hrestated⟩
        · let e' := (s₁.euicc.withState i .enabled).withActive (some i)
          have hrun : (do
              releaseActive
              update (withState i .enabled)
              update (withActive (some i))
              saveProfile (target.withState .enabled)
              return true : Py Storage Bool).run s =
                ((saveProfile (target.withState .enabled)) >>= fun _ => pure true).run
                  (s₁.withEuicc e') := by
            rw [Py.run_bind_ok hs₁, Py.run_bind_ok (run_update _ _), Py.run_bind_ok (run_update _ _),
              Storage.withEuicc_euicc, Storage.withEuicc_withEuicc]
          rw [hrun] at h ⊢
          rcases saveProfile_cases (target.withState .enabled) (s₁.withEuicc e') with
            ⟨s₂, hs₂, -⟩ | hs₂
          · rw [Py.run_bind_ok hs₂] at h
            cases h
          · rw [Py.run_bind_error hs₂]
            refine ⟨i, target, .enabled, hi, hst, ?_⟩
            change (s₁.euicc.withState i .enabled).profiles.get? i = _
            rw [withState, Dict.get?_modify, if_pos rfl, hkept i hnot, hi]
            rfl
        · rw [Py.run_bind_error hs₁]
          exact hrestated

theorem disableProfile_failed {s : Storage} (hready : s.euicc.state = .ready) {i : Text}
    (h : ((disableProfile i).run s).1 = .error .osError) :
    Restated s.euicc ((disableProfile i).run s).2.euicc := by
  unfold disableProfile at h ⊢
  rw [Py.run_bind_ok (run_requireReady hready)] at h ⊢
  cases hi : s.euicc.profiles.get? i with
  | none =>
      rw [Py.run_bind_error (find_none hi)] at h
      cases h
  | some target =>
      rw [Py.run_bind_ok (find_some hi)] at h ⊢
      by_cases hst : target.state = .disabled
      · rw [if_pos hst] at h
        cases h
      · rw [if_neg hst, Py.run_bind_ok (run_update _ _)] at h
        rw [if_neg hst, Py.run_bind_ok (run_update _ _)]
        rcases saveProfile_cases (target.withState .disabled)
          (s.withEuicc (s.euicc.withState i .disabled)) with ⟨s₁, hs₁, -⟩ | hs₁
        · rw [Py.run_bind_ok hs₁] at h
          cases h
        · rw [Py.run_bind_error hs₁]
          exact restated_withState hi hst rfl

end Euicc

/-- **No save fails cleanly.**  From every consistent state, an installation, a switch or a disabling
in which a save raises leaves the memory changed. -/
theorem save_failure_changes {s : Storage} {c : Catalogue} (hs : Consistent s c) {op : EuiccOp}
    (hop : op.Saves) (writes : ℕ)
    (hfail : (op.prog.run (s.failing writes)).1 = .error .osError) :
    ¬(s.failing writes).RaisesCleanly op := by
  rintro ⟨-, hsame⟩
  have hready : (s.failing writes).euicc.state = .ready := hs.holds.ready
  have hh : Holds (s.failing writes).euicc c := hs.holds
  have hend : ∀ {α : Type} {x : Py Storage α},
      ((do let _ ← x : Py Storage Unit).run (s.failing writes)).1 = .error .osError →
        (x.run (s.failing writes)).1 = .error .osError := by
    intro α x h
    cases hx : x.run (s.failing writes) with
    | mk r s' =>
        cases r with
        | ok a =>
            rw [Py.run_bind_ok hx] at h
            cases h
        | error e =>
            rw [Py.run_bind_error hx] at h
            rw [Except.error.inj h]
  have hstate : ∀ {α : Type} (x : Py Storage α),
      ((do let _ ← x : Py Storage Unit).run (s.failing writes)).2 = (x.run (s.failing writes)).2 :=
    fun x => Py.state_bind (fun _ _ => rfl) _
  cases op with
  | install data uuid =>
      obtain ⟨p, hnew, he⟩ := Euicc.installProfile_failed hready (hend hfail)
      have hget := hsame.profiles p.iccid
      unfold EuiccOp.prog at hget
      rw [hstate, he, (Dict.get?_eq_none_iff _ _).mpr hnew] at hget
      change ((s.failing writes).euicc.profiles.set p.iccid p).get? p.iccid = none at hget
      rw [Dict.get?_set_self] at hget
      cases hget
  | enable i =>
      have hrestated := Euicc.enableProfile_failed hs.wellFormed hh (hend hfail)
      unfold EuiccOp.prog at hsame
      rw [hstate] at hsame
      exact hrestated.changed hsame
  | disable i =>
      have hrestated := Euicc.disableProfile_failed hready (hend hfail)
      unfold EuiccOp.prog at hsame
      rw [hstate] at hsame
      exact hrestated.changed hsame
  | delete i => exact hop.elim

/-- An installation on an empty eUICC cannot write its file. -/
theorem save_failure_changes_install :
    ¬((Storage.start ['8']).failing 0).RaisesCleanly (.install (Account.testProfile 0) []) :=
  have hsaves : (EuiccOp.install (Account.testProfile 0) []).Saves := by decide
  save_failure_changes (start_consistent ['8']) hsaves 0 (by decide +kernel)

/-- Two profiles, and the first is enabled. -/
def twoProfiles : Storage :=
  (runFrom Storage.step (Storage.start ['8'])
    [.call (.install { Account.testProfile 0 with iccid := some ['1'] } []),
      .call (.install { Account.testProfile 0 with iccid := some ['2'] } []), .call (.enable ['1'])]).getD
    (Storage.start ['8'])

/-- The second write of a switch fails: the switch raises, and the second profile is enabled in
memory. -/
theorem switch_half_done : (∃ c, Consistent twoProfiles c) ∧
    ((EuiccOp.enable ['2']).prog.run (twoProfiles.failing 1)).1 = .error .osError ∧
      ((EuiccOp.enable ['2']).prog.run (twoProfiles.failing 1)).2.euicc.activeIccid = some ['2'] ∧
      ¬(twoProfiles.failing 1).RaisesCleanly (.enable ['2']) := by
  have hrun : runFrom Storage.step (Storage.start ['8'])
      [.call (.install { Account.testProfile 0 with iccid := some ['1'] } []),
        .call (.install { Account.testProfile 0 with iccid := some ['2'] } []),
        .call (.enable ['1'])] = some twoProfiles :=
    (Option.getD_of_ne_none (Option.isSome_iff_ne_none.mp (by decide +kernel)) _).symm
  have hactive : ((EuiccOp.enable ['2']).prog.run (twoProfiles.failing 1)).2.euicc.activeIccid =
      some ['2'] := by
    decide +kernel
  refine ⟨run_consistent hrun, by decide +kernel, hactive, ?_⟩
  rintro ⟨-, hsame⟩
  have hbefore : (twoProfiles.failing 1).euicc.activeIccid = some ['1'] := by decide +kernel
  have hsame := hsame.active
  rw [hactive, hbefore] at hsame
  exact absurd hsame (by decide)

end VirtualPhone
