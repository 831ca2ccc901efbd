import VirtualPhone.DaemonRefinement

/-! # What an answer of the daemon says

The daemon answers a message about profiles after it has done what it was asked, or it raises.  `Tells`
says what each answer means for the catalogue of profiles, as it is right after the message.
`answer_tells` proves it in every state that the daemon reaches. -/

namespace VirtualPhone

open Runtime

/-! ### Calls of the store that return -/

namespace Euicc

variable {s s' : Storage} {i : Text} {ok : Bool}

theorem update_ok {f : Euicc → Euicc} {u : Unit} (h : (update f).run s = (.ok u, s')) :
    s'.euicc = f s.euicc := by
  rw [run_update] at h
  obtain ⟨-, rfl⟩ := Prod.mk.inj h
  rfl

theorem fileOperation_ok {f : Files → Files} {u : Unit} (h : (fileOperation f).run s = (.ok u, s')) :
    s'.euicc = s.euicc := by
  rcases fileOperation_cases f s with ⟨s₁, hrun, he, -⟩ | ⟨hrun, -⟩
  · rw [hrun] at h
    obtain ⟨-, rfl⟩ := Prod.mk.inj h
    exact he
  · rw [hrun] at h
    cases h

theorem find_ok {p : Isdp} (h : (find i).run s = (.ok p, s')) :
    s' = s ∧ s.euicc.profiles.get? i = some p := by
  cases hi : s.euicc.profiles.get? i with
  | none =>
      rw [find_none hi] at h
      cases h
  | some q =>
      rw [find_some hi] at h
      cases h
      exact ⟨rfl, rfl⟩

theorem requireReady_ok {u : Unit} (h : requireReady.run s = (.ok u, s')) : s' = s := by
  unfold requireReady at h
  rw [Py.run_get_bind] at h
  split_ifs at h <;> cases h
  rfl

theorem required_ok {key v : Text} {value : Option Text}
    (h : (required key value).run s = (.ok v, s')) :
    s' = s ∧ value = some v := by
  rcases required_cases key value s with ⟨w, hw, hrun⟩ | hrun
  · rw [hrun] at h
    cases h
    exact ⟨rfl, hw⟩
  · rw [hrun] at h
    cases h

theorem get?_withState {e : Euicc} {p : Isdp} (h : e.profiles.get? i = some p) (st : ProfileState) :
    (e.withState i st).profiles.get? i = some (p.withState st) := by
  rw [withState, Dict.get?_modify, if_pos rfl, h]
  rfl

theorem releaseActive_ok {u : Unit} {p : Isdp} (h : releaseActive.run s = (.ok u, s'))
    (hp : s.euicc.profiles.get? i = some p) : ∃ q, s'.euicc.profiles.get? i = some q := by
  unfold releaseActive at h
  rw [Py.run_get_bind] at h
  split at h
  · obtain ⟨_, s₁, hupdate, hsave⟩ := Py.run_bind_eq_ok h
    rw [fileOperation_ok hsave, update_ok hupdate]
    refine (Dict.mem_keys_iff _ _).mp ?_
    rw [withState, Dict.keys_modify]
    exact Dict.mem_keys_of_get? hp
  · cases h
    exact ⟨p, hp⟩

theorem enableProfile_ok (h : (enableProfile i).run s = (.ok ok, s')) :
    ok = true ∧ ∃ p, s'.euicc.profiles.get? i = some p ∧ p.state = .enabled := by
  obtain ⟨_, s₁, hready, h₁⟩ := Py.run_bind_eq_ok h
  obtain rfl := requireReady_ok hready
  obtain ⟨target, s₂, hfind, h₂⟩ := Py.run_bind_eq_ok h₁
  obtain ⟨rfl, htarget⟩ := find_ok hfind
  split_ifs at h₂ with hstate
  · cases h₂
    exact ⟨rfl, target, htarget, hstate⟩
  obtain ⟨_, s₃, hrelease, h₃⟩ := Py.run_bind_eq_ok h₂
  obtain ⟨q, hq⟩ := releaseActive_ok hrelease htarget
  obtain ⟨_, s₄, hstate, h₄⟩ := Py.run_bind_eq_ok h₃
  obtain ⟨_, s₅, hactive, h₅⟩ := Py.run_bind_eq_ok h₄
  obtain ⟨_, s₆, hsave, h₆⟩ := Py.run_bind_eq_ok h₅
  cases h₆
  refine ⟨rfl, q.withState .enabled, ?_, rfl⟩
  rw [fileOperation_ok hsave, update_ok hactive, update_ok hstate]
  exact get?_withState hq .enabled

theorem disableProfile_ok (h : (disableProfile i).run s = (.ok ok, s')) :
    ok = true ∧ ∃ p, s'.euicc.profiles.get? i = some p ∧ p.state = .disabled := by
  obtain ⟨_, s₁, hready, h₁⟩ := Py.run_bind_eq_ok h
  obtain rfl := requireReady_ok hready
  obtain ⟨target, s₂, hfind, h₂⟩ := Py.run_bind_eq_ok h₁
  obtain ⟨rfl, htarget⟩ := find_ok hfind
  split_ifs at h₂ with hstate
  · cases h₂
    exact ⟨rfl, target, htarget, hstate⟩
  obtain ⟨_, s₃, hstate, h₃⟩ := Py.run_bind_eq_ok h₂
  obtain ⟨_, s₄, hsave, h₄⟩ := Py.run_bind_eq_ok h₃
  obtain ⟨_, s₅, hdrop, h₅⟩ := Py.run_bind_eq_ok h₄
  cases h₅
  refine ⟨rfl, target.withState .disabled, ?_, rfl⟩
  rw [update_ok hdrop, dropActive_profiles, fileOperation_ok hsave, update_ok hstate]
  exact get?_withState htarget .disabled

theorem deleteProfile_ok (h : (deleteProfile i).run s = (.ok ok, s')) :
    ok = true ∧ s'.euicc.profiles.get? i = none := by
  obtain ⟨_, s₁, hready, h₁⟩ := Py.run_bind_eq_ok h
  obtain rfl := requireReady_ok hready
  obtain ⟨target, s₂, hfind, h₂⟩ := Py.run_bind_eq_ok h₁
  obtain ⟨rfl, -⟩ := find_ok hfind
  obtain ⟨_, s₃, hdrop, h₃⟩ := Py.run_bind_eq_ok h₂
  obtain ⟨_, s₄, hremove, h₄⟩ := Py.run_bind_eq_ok h₃
  obtain ⟨_, s₅, hunlink, h₅⟩ := Py.run_bind_eq_ok h₄
  cases h₅
  refine ⟨rfl, ?_⟩
  rw [fileOperation_ok hunlink, update_ok hremove]
  exact Dict.get?_erase_self _ _

/-- An installation that returns has installed a disabled profile under the ICCID of the package. -/
theorem installProfile_ok {data : ProfileData} {uuid : Text} {p : Isdp}
    (h : (installProfile data uuid).run s = (.ok p, s')) :
    data.iccid = some p.iccid ∧ p.state = .disabled ∧ s'.euicc.profiles.get? p.iccid = some p := by
  obtain ⟨_, s₁, hready, h₁⟩ := Py.run_bind_eq_ok h
  obtain rfl := requireReady_ok hready
  obtain ⟨iccid, s₂, hrequired, h₂⟩ := Py.run_bind_eq_ok h₁
  obtain ⟨rfl, hiccid⟩ := required_ok hrequired
  rw [Py.run_get_bind] at h₂
  split_ifs at h₂
  · cases h₂
  dsimp only at h₂
  split_ifs at h₂
  · cases h₂
  obtain ⟨imsi, s₃, himsi, h₃⟩ := Py.run_bind_eq_ok h₂
  obtain ⟨rfl, -⟩ := required_ok himsi
  obtain ⟨ki, s₄, hki, h₄⟩ := Py.run_bind_eq_ok h₃
  obtain ⟨rfl, -⟩ := required_ok hki
  obtain ⟨opc, s₅, hopc, h₅⟩ := Py.run_bind_eq_ok h₄
  obtain ⟨rfl, -⟩ := required_ok hopc
  obtain ⟨_, s₆, hupdate, h₆⟩ := Py.run_bind_eq_ok h₅
  obtain ⟨_, s₇, hsave, h₇⟩ := Py.run_bind_eq_ok h₆
  cases h₇
  refine ⟨hiccid, rfl, ?_⟩
  rw [fileOperation_ok hsave, update_ok hupdate]
  exact Dict.get?_set_self _ _ _

end Euicc

/-! ### What an answer means -/

namespace Daemon

/-- The profiles of a catalogue, each once, with any sequence numbers. -/
structure Lists (c : Catalogue) (profiles : List Isdp) : Prop where
  nodup : (profiles.map Isdp.iccid).Nodup
  sound : ∀ p ∈ profiles, ∃ q, c p.iccid = some q ∧ p.Alike q
  complete : ∀ i q, c i = some q → ∃ p ∈ profiles, p.Alike q

/-- What the answer to a message says of the catalogue right after the message. -/
def Tells (c : Catalogue) : DaemonMessage → DaemonResponse → Prop
  | .getInfo, r => ∃ info installedProfiles activeIccid state,
      r = .info info installedProfiles activeIccid state ∧ ∀ i, activeIccid = some i ↔ c.Enabled i
  | .listProfiles, r => ∃ profiles, r = .profiles (profiles.map Isdp.toSummary) ∧ Lists c profiles
  | .enableProfile iccid, r => r = .result true none ∧ c.Enabled iccid
  | .disableProfile iccid, r => r = .result true none ∧ ∃ p, c iccid = some p ∧ p.state = .disabled
  | .installProfile data _, r => ∃ iccid p, data.iccid = some iccid ∧ r = .result true (some iccid) ∧
      c iccid = some p ∧ p.state = .disabled
  | .deleteProfile iccid, r => r = .result true none ∧ c iccid = none
  | .getProfileCredentials iccid, r =>
      (c iccid = none ∧ r = .error ("Profile ".toList ++ iccid ++ " not found".toList)) ∨
        ∃ p q : Isdp, c iccid = some q ∧ p.Alike q ∧ r = .credentials p.getUsimData p.getIsimData
  | _, _ => True

variable {P : Platform} {d d' : Daemon} {c : Catalogue}

theorem Represents.get? (h : d.Represents c) {i : Text} {p : Isdp}
    (hp : d.storage.euicc.profiles.get? i = some p) : ∃ q, c i = some q ∧ p.Alike q := by
  have hrel := h.memory i
  rw [hp] at hrel
  generalize c i = x at hrel
  cases hrel with
  | some hpq => exact ⟨_, rfl, hpq⟩

theorem Represents.of_catalogue (h : d.Represents c) {i : Text} {q : Isdp} (hq : c i = some q) :
    ∃ p, d.storage.euicc.profiles.get? i = some p ∧ p.Alike q := by
  have hrel := h.memory i
  rw [hq] at hrel
  generalize d.storage.euicc.profiles.get? i = x at hrel
  cases hrel with
  | some hpq => exact ⟨_, rfl, hpq⟩

theorem Represents.get?_none (h : d.Represents c) {i : Text}
    (hp : d.storage.euicc.profiles.get? i = none) : c i = none := by
  cases hq : c i with
  | none => rfl
  | some q =>
      obtain ⟨p, hp', -⟩ := h.of_catalogue hq
      rw [hp] at hp'
      cases hp'

theorem Represents.keyed (h : d.Represents c) {i : Text} {p : Isdp}
    (hp : d.storage.euicc.profiles.get? i = some p) : p.iccid = i := by
  obtain ⟨q, hq, hpq⟩ := h.get? hp
  rw [← hpq.iccid]
  exact h.wellFormed.keyed i q hq

theorem Represents.lists (h : d.Represents c) : Lists c d.storage.euicc.profiles.values where
  nodup := by
    have hkeys : d.storage.euicc.profiles.values.map Isdp.iccid = d.storage.euicc.profiles.keys := by
      unfold Dict.values Dict.keys
      rw [List.map_map]
      exact List.map_congr_left fun e he => h.keyed ((Dict.get?_eq_some_iff _ e.1 e.2).mpr he)
    rw [hkeys]
    exact d.storage.euicc.profiles.nodup
  sound p hp := by
    obtain ⟨i, hi⟩ := (Dict.mem_values_iff _ _).mp hp
    rw [h.keyed hi]
    exact h.get? hi
  complete i q hq := by
    obtain ⟨p, hp, hpq⟩ := h.of_catalogue hq
    exact ⟨p, (Dict.mem_values_iff _ _).mpr ⟨i, hp⟩, hpq⟩

theorem onStorage_ok {α : Type} {x : Py Storage α} {f : α → DaemonResponse} {r : DaemonResponse}
    (h : (do let a ← onStorage x; return f a : Py Daemon DaemonResponse).run d = (.ok r, d')) :
    ∃ a, x.run d.storage = (.ok a, d'.storage) ∧ r = f a := by
  obtain ⟨a, d₁, hx, hr⟩ := Py.run_bind_eq_ok h
  cases hr
  rw [onStorage, Py.run_zoom] at hx
  rcases hrun : x.run d.storage with ⟨out, s⟩
  rw [hrun] at hx
  cases hx
  exact ⟨a, rfl, rfl⟩

/-- **One message.**  An answer says what the catalogue is after the message. -/
theorem tells_of_run {msg : DaemonMessage} {r : DaemonResponse}
    (h : (processMessage P msg).run d = (.ok r, d')) (hd : d'.Represents c) : Tells c msg r := by
  cases msg with
  | apdu data => trivial
  | unknown msgType => trivial
  | getInfo =>
      cases h
      exact ⟨_, _, _, _, rfl, hd.active⟩
  | listProfiles =>
      obtain ⟨_, d₁, -, hr⟩ := Py.run_bind_eq_ok h
      cases hr
      exact ⟨_, rfl, hd.lists⟩
  | enableProfile iccid =>
      obtain ⟨_, hrun, rfl⟩ := onStorage_ok h
      obtain ⟨rfl, p, hp, hstate⟩ := Euicc.enableProfile_ok hrun
      obtain ⟨q, hq, hpq⟩ := hd.get? hp
      exact ⟨rfl, q, hq, hpq.state.trans hstate⟩
  | disableProfile iccid =>
      obtain ⟨_, hrun, rfl⟩ := onStorage_ok h
      obtain ⟨rfl, p, hp, hstate⟩ := Euicc.disableProfile_ok hrun
      obtain ⟨q, hq, hpq⟩ := hd.get? hp
      exact ⟨rfl, q, hq, hpq.state.trans hstate⟩
  | installProfile data uuid =>
      obtain ⟨p, hrun, rfl⟩ := onStorage_ok h
      obtain ⟨hiccid, hstate, hp⟩ := Euicc.installProfile_ok hrun
      obtain ⟨q, hq, hpq⟩ := hd.get? hp
      exact ⟨p.iccid, q, hiccid, rfl, hq, hpq.state.trans hstate⟩
  | deleteProfile iccid =>
      obtain ⟨_, hrun, rfl⟩ := onStorage_ok h
      obtain ⟨rfl, hnone⟩ := Euicc.deleteProfile_ok hrun
      exact ⟨rfl, hd.get?_none hnone⟩
  | getProfileCredentials iccid =>
      rw [processMessage, Py.run_get_bind] at h
      cases hp : d.storage.euicc.profiles.get? iccid with
      | none =>
          rw [hp] at h
          cases h
          exact .inl ⟨hd.get?_none hp, rfl⟩
      | some p =>
          rw [hp] at h
          cases h
          obtain ⟨q, hq, hpq⟩ := hd.get? hp
          exact .inr ⟨p, q, hq, hpq, rfl⟩

/-- **What the daemon answers is true.**  In every state that a run of the daemon reaches, with restarts
and authentications anywhere, a message takes the catalogue one step further and its answer says what
the catalogue is then; and where there is no answer, the catalogue is as it was. -/
theorem answers_true (eid : Text) (events : List Event) (d : Daemon)
    (h : runFrom (step P) (start eid) events = some d) (msg : DaemonMessage) (hsafe : Safe msg) :
    ∃ c c', d.Represents c ∧ ((processMessage P msg).run d).2.Represents c' ∧
      CatalogueStep c (.message msg) c' ∧
      (∀ r, ((processMessage P msg).run d).1 = .ok r → Tells c' msg r) ∧
      ∀ e, ((processMessage P msg).run d).1 = .error e → c' = c := by
  obtain ⟨c, hc, hnext⟩ := Reachable.represents ⟨events, h⟩
  obtain ⟨c', hc', hstep, hraise⟩ := hnext (.message msg) _ (if_pos hsafe)
  exact ⟨c, c', hc, hc', hstep, fun r hr => tells_of_run (Prod.ext hr rfl) hc',
    fun e he => hraise ⟨e, he⟩⟩

/-- The list of the profiles after an authentication. -/
theorem answers_true_zero :
    ∃ d, runFrom (step ApduHandler.zeroPlatform) (start ['8']) zeroRun = some d ∧
      ∃ c, d.Represents c ∧
        ∀ r, ((processMessage ApduHandler.zeroPlatform .listProfiles).run d).1 = .ok r →
          Tells c .listProfiles r := by
  have hrun : (runFrom (step ApduHandler.zeroPlatform) (start ['8']) zeroRun).isSome := by
    decide +kernel
  obtain ⟨d, hd⟩ := Option.isSome_iff_exists.mp hrun
  obtain ⟨c, c', hc, -, hstep, htells, -⟩ := answers_true ['8'] zeroRun d hd .listProfiles trivial
  obtain rfl : c' = c := hstep
  exact ⟨d, hd, c', hc, htells⟩

end Daemon

end VirtualPhone
