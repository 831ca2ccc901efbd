import VirtualPhone.Runtime.Text
import VirtualPhone.Runtime.Trace

/-! # The power of the radio

`power_on`, `power_off` and `_simulate_registration` of `RadioHAL` (`hal/radio_hal.py`).  Every
`power_on` that finds a SIM starts a task that registers with the network step by step, and keeps the
handle of the last one; `power_off` resets the radio and cancels the task it has the handle of.

The methods run on one event loop.  `power_on` suspends at the query of the SIM and at an indication,
a registration task at its pauses and its indications; `power_off` does not suspend.

A task is lost when another one takes its place, and one may be started when the radio is off again.
`radio_off_iff` says when the radio stays off: when each `power_off` finds no call in progress and
holds the handle of every task that still has something to do. -/

namespace VirtualPhone

open Runtime

/-! ### Data -/

/-- `RadioState`. -/
inductive RadioState
  | off
  | unavailable
  | on
deriving DecidableEq, Repr

/-- `RegState`. -/
inductive RegState
  | notRegNotSearching
  | regHome
  | notRegSearching
  | regDenied
  | unknown
  | regRoaming
  | regHomeSmsOnly
  | regRoamingSmsOnly
  | regEmergencyOnly
  | regHomeCsfbNotPref
  | regRoamingCsfbNotPref
deriving DecidableEq, Repr

/-- `NetworkType`. -/
inductive NetworkType
  | unknown
  | gprs
  | edge
  | umts
  | hsdpa
  | hsupa
  | hspa
  | lte
  | lteCa
  | nr
deriving DecidableEq, Repr

/-- `NetworkRegistration`. -/
structure NetworkRegistration where
  regState : RegState := .notRegNotSearching
  rat : NetworkType := .unknown
  mcc : Text := []
  mnc : Text := []
  lac : ℕ := 0
  cid : ℕ := 0
deriving DecidableEq, Repr

/-- `DataCall`. -/
structure DataCall where
  cid : ℕ := 1
  active : ℕ := 2
  callType : Text := "IP".toList
  ifname : Text := "rmnet0".toList
  addresses : List Text := ["10.45.0.2".toList]
  dnses : List Text := ["172.28.0.50".toList]
  gateways : List Text := ["10.45.0.1".toList]
deriving DecidableEq, Repr

/-- What `power_on` reads of the active profile. -/
structure SimProfile where
  mcc : Option Text := none
  mnc : Option Text := none
deriving DecidableEq, Repr

/-- Where a `power_on` is suspended. -/
inductive PowerOn
  | querySim
  | indicateSim
  | ended
deriving DecidableEq, Repr

/-- Where a registration task is suspended: a pause or an indication; a cancelled task has ended. -/
inductive RegistrationTask
  | starting
  | searching
  | attaching
  | registered
  | connecting
  | timeSync
  | ended
deriving DecidableEq, Repr

/-- The task is going to change the registration or the data calls. -/
def RegistrationTask.Writes (task : RegistrationTask) : Prop := task ≠ .timeSync ∧ task ≠ .ended

instance (task : RegistrationTask) : Decidable task.Writes := inferInstanceAs (Decidable (_ ∧ _))

/-- The part of `RadioHAL` that deals with power, the calls of `power_on` and the tasks so far; the
handle is the number of a task. -/
structure RadioPower where
  radioState : RadioState := .off
  cardState : ℕ := 1
  registration : NetworkRegistration := {}
  dataCalls : List DataCall := []
  registrationTask : Option ℕ := none
  powerOns : List PowerOn := []
  tasks : List RegistrationTask := []
  indications : List ℕ := []
deriving DecidableEq, Repr

namespace RadioPower

/-! ### The methods -/

/-- `_send_indication(indication_id, data)`, up to its suspension. -/
def sendIndication (indication : ℕ) (s : RadioPower) : RadioPower :=
  { s with indications := s.indications ++ [indication] }

/-- `power_on()` up to the query of the SIM. -/
def powerOn (s : RadioPower) : RadioPower :=
  { s with radioState := .on, powerOns := s.powerOns ++ [.querySim] }

/-- `power_on()` with the answer of the SIM. -/
def simQueried (call : ℕ) (profile : Option SimProfile) (s : RadioPower) : RadioPower :=
  match profile with
  | some p =>
      { s with
        cardState := 1
        registration := { s.registration with mcc := p.mcc.getD [], mnc := p.mnc.getD [] }
        powerOns := s.powerOns.set call .indicateSim }.sendIndication 1019
  | none => { s with cardState := 0, powerOns := s.powerOns.set call .ended }

/-- The end of `power_on()`: a registration task starts. -/
def startRegistration (call : ℕ) (s : RadioPower) : RadioPower :=
  { s with
    registrationTask := some s.tasks.length
    tasks := s.tasks ++ [.starting]
    powerOns := s.powerOns.set call .ended }

/-- `power_off()`. -/
def powerOff (s : RadioPower) : RadioPower :=
  { s with
    radioState := .off
    registration := {}
    dataCalls := []
    registrationTask := none
    tasks := match s.registrationTask with
      | some task => s.tasks.set task .ended
      | none => s.tasks }

/-- `_simulate_registration()` goes on from where it is suspended. -/
def simulateRegistration (task : ℕ) (s : RadioPower) : RegistrationTask → Option RadioPower
  | .starting => some ({ s with
      registration := { s.registration with regState := .notRegSearching }
      tasks := s.tasks.set task .searching }.sendIndication 1001)
  | .searching => some { s with tasks := s.tasks.set task .attaching }
  | .attaching => some ({ s with
      registration := { s.registration with regState := .regHome, rat := .lte, lac := 1, cid := 0x101 }
      tasks := s.tasks.set task .registered }.sendIndication 1001)
  | .registered => some { s with tasks := s.tasks.set task .connecting }
  | .connecting => some ({ s with
      dataCalls := [{}]
      tasks := s.tasks.set task .timeSync }.sendIndication 1008)
  | .timeSync => some { s with tasks := s.tasks.set task .ended }
  | .ended => none

end RadioPower

/-! ### Runs -/

/-- A call of `set_radio_power`, or something that is suspended goes on. -/
inductive PowerEvent
  | setRadioPower (on : Bool)
  | simQueried (call : ℕ) (profile : Option SimProfile)
  | simIndicated (call : ℕ)
  | resume (task : ℕ)
deriving DecidableEq, Repr

namespace RadioPower

/-- One event. -/
def step (s : RadioPower) : PowerEvent → Option RadioPower
  | .setRadioPower true => some s.powerOn
  | .setRadioPower false => some s.powerOff
  | .simQueried call profile =>
      if s.powerOns[call]? = some .querySim then some (s.simQueried call profile) else none
  | .simIndicated call =>
      if s.powerOns[call]? = some .indicateSim then some (s.startRegistration call) else none
  | .resume task => s.tasks[task]?.bind (s.simulateRegistration task)

/-- No call of `set_radio_power` is in progress. -/
def Idle (s : RadioPower) : Prop := ∀ call ∈ s.powerOns, call = .ended

/-- Not registered, not searching, and without data calls. -/
def Silent (s : RadioPower) : Prop := s.registration.regState = .notRegNotSearching ∧ s.dataCalls = []

instance (s : RadioPower) : Decidable s.Idle := inferInstanceAs (Decidable (∀ _ ∈ _, _))

instance (s : RadioPower) : Decidable s.Silent := inferInstanceAs (Decidable (_ ∧ _))

/-- In a run, wherever no call is in progress and the radio is off, it is silent from there on until the
next `set_radio_power(True)`. -/
def OffMeansOff (s : RadioPower) (es : List PowerEvent) : Prop :=
  ∀ before after s₁ s₂, before ++ after <+: es → runFrom step s before = some s₁ → s₁.Idle →
    s₁.radioState = .off → (∀ e ∈ after, e ≠ .setRadioPower true) → runFrom step s₁ after = some s₂ →
      s₂.Silent

/-- A `power_off` finds no call in progress, and has the handle of every task that is going to write. -/
def Unshared (s : RadioPower) (e : PowerEvent) : Prop :=
  e = .setRadioPower false → s.Idle ∧
    ∀ i task, s.tasks[i]? = some task → task.Writes → s.registrationTask = some i

/-! ### Runs in which the radio stays off -/

/-- While the radio is off, nothing is left that could change it. -/
structure Dormant (s : RadioPower) : Prop where
  idle : s.Idle
  tasks : ∀ task ∈ s.tasks, ¬task.Writes
  silent : s.Silent

theorem powerOff_tasks (s : RadioPower) (i : ℕ) :
    s.powerOff.tasks[i]? =
      if s.registrationTask = some i then s.tasks[i]?.map fun _ => .ended else s.tasks[i]? := by
  unfold powerOff
  cases hhandle : s.registrationTask with
  | none => rfl
  | some task =>
      simp only [List.getElem?_set, Option.some.injEq]
      split_ifs with htask hlt
      · rw [← htask, List.getElem?_eq_getElem hlt]
        rfl
      · rw [← htask, List.getElem?_eq_none (Nat.le_of_not_lt hlt)]
        rfl
      · rfl

theorem Idle.not_suspended {s : RadioPower} (h : s.Idle) {call : ℕ} {p : PowerOn} (hp : p ≠ .ended) :
    s.powerOns[call]? ≠ some p :=
  fun hcall => hp (h p (List.mem_of_getElem? hcall))

/-- **Step lemma.** -/
theorem step_dormant {s s' : RadioPower} {e : PowerEvent} (hs : s.radioState = .off → s.Dormant)
    (he : Unshared s e) (h : s.step e = some s') : s'.radioState = .off → s'.Dormant := by
  intro hoff
  cases e with
  | setRadioPower on =>
      cases on with
      | true =>
          obtain rfl := Option.some.inj h
          cases hoff
      | false =>
          obtain rfl := Option.some.inj h
          obtain ⟨hidle, hhandle⟩ := he rfl
          refine ⟨hidle, fun task htask hwrites => ?_, rfl, rfl⟩
          obtain ⟨i, hi⟩ := List.mem_iff_getElem?.mp htask
          rw [powerOff_tasks] at hi
          split_ifs at hi with hown
          · obtain ⟨_, -, rfl⟩ := Option.map_eq_some_iff.mp hi
            exact hwrites.2 rfl
          · exact hown (hhandle i task hi hwrites)
  | simQueried call profile =>
      simp only [step] at h
      split_ifs at h with hcall
      obtain rfl := Option.some.inj h
      have hold : s.radioState = .off := by
        cases profile with
        | none => exact hoff
        | some p => exact hoff
      exact absurd hcall ((hs hold).idle.not_suspended (by decide))
  | simIndicated call =>
      simp only [step] at h
      split_ifs at h with hcall
      obtain rfl := Option.some.inj h
      exact absurd hcall ((hs hoff).idle.not_suspended (by decide))
  | resume task =>
      obtain ⟨phase, hphase, h⟩ := Option.bind_eq_some_iff.mp h
      have hmem : phase ∈ s.tasks := List.mem_of_getElem? hphase
      have hrest : ∀ s₁ : RadioPower, s.radioState = .off → phase.Writes → s₁.Dormant :=
        fun s₁ hold hwrites => absurd hwrites ((hs hold).tasks phase hmem)
      cases phase with
      | ended => cases h
      | timeSync =>
          obtain rfl := Option.some.inj h
          obtain ⟨hidle, htasks, hsilent⟩ := hs hoff
          refine ⟨hidle, fun t ht => ?_, hsilent⟩
          rcases List.mem_or_eq_of_mem_set ht with ht | rfl
          · exact htasks t ht
          · decide
      | _ =>
          obtain rfl := Option.some.inj h
          exact hrest _ hoff (by decide)

theorem dormant_start : ({} : RadioPower).Dormant :=
  ⟨nofun, nofun, rfl, rfl⟩

/-- Off and idle stays off and idle until the next `set_radio_power(True)`. -/
theorem step_off {s s' : RadioPower} {e : PowerEvent} (hidle : s.Idle) (hoff : s.radioState = .off)
    (he : e ≠ .setRadioPower true) (h : s.step e = some s') : s'.Idle ∧ s'.radioState = .off := by
  cases e with
  | setRadioPower on =>
      cases on with
      | true => exact absurd rfl he
      | false =>
          obtain rfl := Option.some.inj h
          exact ⟨hidle, rfl⟩
  | simQueried call profile =>
      simp only [step] at h
      split_ifs at h with hcall
      exact absurd hcall (hidle.not_suspended (by decide))
  | simIndicated call =>
      simp only [step] at h
      split_ifs at h with hcall
      exact absurd hcall (hidle.not_suspended (by decide))
  | resume task =>
      obtain ⟨phase, -, h⟩ := Option.bind_eq_some_iff.mp h
      cases phase with
      | ended => cases h
      | _ =>
          obtain rfl := Option.some.inj h
          exact ⟨hidle, hoff⟩

/-- Where the radio is silent whenever it is off and idle, off means off. -/
theorem offMeansOff_of_unshared {s : RadioPower} {es : List PowerEvent}
    (hs : s.radioState = .off → s.Dormant) (h : Along step Unshared s es) : OffMeansOff s es := by
  intro before after s₁ s₂ hpre h₁ hidle hoff hafter h₂
  have hend : s₂.Idle ∧ s₂.radioState = .off :=
    runFrom_invariant step (I := fun s => s.Idle ∧ s.radioState = .off)
      (P := fun _ e => e ≠ .setRadioPower true) (fun s e s' hs he hstep => step_off hs.1 hs.2 he hstep)
      ⟨hidle, hoff⟩ (Along.of_mem step hafter _) h₂
  have hrun : runFrom step s (before ++ after) = some s₂ := by
    rw [runFrom_append, h₁]
    exact h₂
  have hdormant := runFrom_invariant step (fun _ _ _ hs he hstep => step_dormant hs he hstep) hs
    (h.beginning step hpre) hrun
  exact (hdormant hend.2).silent

/-! ### Runs in which it does not -/

/-- `s'` comes after `s`, without a call of `set_radio_power`. -/
def GoesOn (s s' : RadioPower) : Prop :=
  ∃ es, (∀ e ∈ es, ∀ on, e ≠ .setRadioPower on) ∧ runFrom step s es = some s'

theorem GoesOn.refl (s : RadioPower) : GoesOn s s := ⟨[], nofun, rfl⟩

theorem GoesOn.step {s s₁ s₂ : RadioPower} {e : PowerEvent} (he : ∀ on, e ≠ .setRadioPower on)
    (h : s.step e = some s₁) (h' : GoesOn s₁ s₂) : GoesOn s s₂ := by
  obtain ⟨es, hes, hrun⟩ := h'
  refine ⟨e :: es, fun f hf => ?_, ?_⟩
  · rcases List.mem_cons.mp hf with rfl | hf
    · exact he
    · exact hes f hf
  · rw [runFrom_cons, h]
    exact hrun

theorem GoesOn.trans {a b c : RadioPower} (h : GoesOn a b) (h' : GoesOn b c) : GoesOn a c := by
  obtain ⟨es, hes, hrun⟩ := h
  obtain ⟨fs, hfs, hrun'⟩ := h'
  refine ⟨es ++ fs, fun e he => (List.mem_append.mp he).elim (hes e) (hfs e), ?_⟩
  rw [runFrom_append, hrun]
  exact hrun'

theorem exists_idle (s : RadioPower) : ∃ s', GoesOn s s' ∧ s'.Idle ∧ s'.radioState = s.radioState ∧
    ∀ (i : ℕ) (task : RegistrationTask), s.tasks[i]? = some task → s'.tasks[i]? = some task := by
  induction hn : s.powerOns.countP (· ≠ .ended) using Nat.strong_induction_on generalizing s with
  | _ n ih =>
      by_cases hidle : s.Idle
      · exact ⟨s, .refl s, hidle, rfl, fun _ _ h => h⟩
      · unfold Idle at hidle
        push Not at hidle
        obtain ⟨call, hmem, hcall⟩ := hidle
        obtain ⟨k, hk⟩ := List.mem_iff_getElem?.mp hmem
        obtain ⟨hlt, hget⟩ := List.getElem?_eq_some_iff.mp hk
        have hfewer : (s.powerOns.set k .ended).countP (· ≠ .ended) < n := by
          have hone : 0 < s.powerOns.countP (· ≠ .ended) :=
            List.countP_pos_iff.mpr ⟨call, hmem, decide_eq_true hcall⟩
          rw [List.countP_set hlt, hget, if_pos (decide_eq_true hcall), if_neg (by decide)]
          omega
        cases call with
        | ended => exact absurd rfl hcall
        | querySim =>
            obtain ⟨s', hgoes, hidle, hradio, htasks⟩ := ih _ hfewer (s.simQueried k none) rfl
            refine ⟨s', .step (e := .simQueried k none) nofun (if_pos hk) hgoes, hidle, hradio, htasks⟩
        | indicateSim =>
            obtain ⟨s', hgoes, hidle, hradio, htasks⟩ := ih _ hfewer (s.startRegistration k) rfl
            refine ⟨s', .step (e := .simIndicated k) nofun (if_pos hk) hgoes, hidle, hradio, ?_⟩
            intro i task h
            refine htasks i task ?_
            exact (List.getElem?_append_left (List.getElem?_eq_some_iff.mp h).1).trans h

/-- A task that is going to write, does, and the radio is not silent any more. -/
theorem task_writes {s : RadioPower} {i : ℕ} {task : RegistrationTask} (htask : s.tasks[i]? = some task)
    (hwrites : task.Writes) (hidle : s.Idle) (hoff : s.radioState = .off) :
    ∃ s', GoesOn s s' ∧ s'.Idle ∧ s'.radioState = .off ∧ ¬s'.Silent := by
  have hlt := (List.getElem?_eq_some_iff.mp htask).1
  have hnow : ∀ {s₁ s₂ : RadioPower} {phase : RegistrationTask}, s₁.tasks[i]? = some phase →
      s₁.simulateRegistration i phase = some s₂ → GoesOn s₁ s₂ := by
    intro s₁ s₂ phase hphase h
    refine .step (e := .resume i) nofun ?_ (.refl s₂)
    rw [RadioPower.step, hphase]
    exact h
  cases task with
  | starting => exact ⟨_, hnow htask rfl, hidle, hoff, fun h => by cases h.1⟩
  | attaching => exact ⟨_, hnow htask rfl, hidle, hoff, fun h => by cases h.1⟩
  | connecting => exact ⟨_, hnow htask rfl, hidle, hoff, fun h => by cases h.2⟩
  | searching =>
      refine ⟨_, (hnow htask rfl).trans (hnow (List.getElem?_set_self hlt) rfl), hidle, hoff, ?_⟩
      exact fun h => by cases h.1
  | registered =>
      refine ⟨_, (hnow htask rfl).trans (hnow (List.getElem?_set_self hlt) rfl), hidle, hoff, ?_⟩
      exact fun h => by cases h.2
  | timeSync => exact absurd rfl hwrites.1
  | ended => exact absurd rfl hwrites.2

theorem exists_task {s : RadioPower} (h : ¬s.Idle) : ∃ s', GoesOn s s' ∧ s'.radioState = s.radioState ∧
    ∃ i : ℕ, s'.tasks[i]? = some .starting := by
  unfold Idle at h
  push Not at h
  obtain ⟨call, hmem, hcall⟩ := h
  obtain ⟨k, hk⟩ := List.mem_iff_getElem?.mp hmem
  have hlt := (List.getElem?_eq_some_iff.mp hk).1
  cases call with
  | ended => exact absurd rfl hcall
  | indicateSim =>
      refine ⟨s.startRegistration k, .step (e := .simIndicated k) nofun (if_pos hk) (.refl _), rfl, ?_⟩
      exact ⟨s.tasks.length, List.getElem?_concat_length⟩
  | querySim =>
      obtain ⟨s₁, hs₁⟩ : ∃ s₁, s₁ = s.simQueried k (some {}) := ⟨_, rfl⟩
      have hk₁ : s₁.powerOns[k]? = some .indicateSim := hs₁ ▸ List.getElem?_set_self hlt
      have hquery : s.step (.simQueried k (some {})) = some s₁ :=
        (if_pos hk).trans (congrArg some hs₁.symm)
      have hstart : GoesOn s₁ (s₁.startRegistration k) :=
        .step (e := .simIndicated k) nofun (if_pos hk₁) (.refl _)
      refine ⟨s₁.startRegistration k, .step ?_ hquery hstart, hs₁ ▸ rfl, s₁.tasks.length, ?_⟩
      · nofun
      · exact List.getElem?_concat_length

/-- After a `power_off` that finds a call in progress or does not have the handle of a task, the radio
can come alive by itself. -/
theorem exists_not_silent {s : RadioPower} (h : ¬Unshared s (.setRadioPower false)) :
    ∃ s', GoesOn s.powerOff s' ∧ s'.Idle ∧ s'.radioState = .off ∧ ¬s'.Silent := by
  obtain ⟨s₁, hgoes, hoff, i, task, htask, hwrites⟩ : ∃ s₁, GoesOn s.powerOff s₁ ∧
      s₁.radioState = .off ∧ ∃ (i : ℕ) (task : RegistrationTask),
        s₁.tasks[i]? = some task ∧ task.Writes := by
    by_cases hidle : s.Idle
    · have hlost : ∃ (i : ℕ) (task : RegistrationTask),
          s.tasks[i]? = some task ∧ task.Writes ∧ s.registrationTask ≠ some i := by
        by_contra hnone
        push Not at hnone
        exact h fun _ => ⟨hidle, hnone⟩
      obtain ⟨i, task, htask, hwrites, hhandle⟩ := hlost
      refine ⟨s.powerOff, .refl _, rfl, i, task, ?_, hwrites⟩
      rw [powerOff_tasks, if_neg hhandle, htask]
    · obtain ⟨s₁, hgoes, hoff, i, htask⟩ := exists_task (s := s.powerOff) hidle
      exact ⟨s₁, hgoes, hoff, i, .starting, htask, by decide⟩
  obtain ⟨s₂, hgoes', hidle, hradio, hkept⟩ := exists_idle s₁
  obtain ⟨s₃, hgoes'', hidle', hoff', hloud⟩ :=
    task_writes (hkept i task htask) hwrites hidle (hradio.trans hoff)
  exact ⟨s₃, (hgoes.trans hgoes').trans hgoes'', hidle', hoff', hloud⟩

/-- **Radio off means off.**  Along a run each `power_off` finds no call in progress, and the handle of
every task that is going to write, if and only if, wherever the run stops and whatever is suspended
goes on from there: the radio is silent while it is off and no call is in progress. -/
theorem radio_off_iff (es : List PowerEvent) :
    (∀ pre after, pre <+: es → (∀ e ∈ after, ∀ on, e ≠ .setRadioPower on) →
        OffMeansOff {} (pre ++ after)) ↔
      Along step Unshared {} es := by
  constructor
  · intro h
    refine (along_iff_split step).mpr ?_
    rintro pre e post s rfl hrun
    by_contra hshared
    obtain rfl : e = .setRadioPower false := by
      by_contra he
      exact hshared fun h' => absurd h' he
    obtain ⟨s', ⟨after, hafter, hrun'⟩, hidle, hoff, hloud⟩ := exists_not_silent hshared
    have hend : runFrom step {} (pre ++ [.setRadioPower false] ++ after) = some s' := by
      rw [runFrom_append, runFrom_append, hrun]
      exact hrun'
    refine hloud (h (pre ++ [.setRadioPower false]) after ⟨post, by simp⟩ hafter
      (pre ++ [.setRadioPower false] ++ after) [] s' s' (by simp) hend hidle hoff nofun rfl)
  · intro h pre after hpre hafter
    refine offMeansOff_of_unshared (fun _ => dormant_start) ((h.beginning step hpre).append step ?_)
    exact fun s _ => (Along.of_mem step hafter s).mono step fun _ e he hoff => absurd hoff (he false)

/-- The bridge powers the radio on, and so does Android; then it is powered off. -/
def twiceOn : List PowerEvent :=
  [.setRadioPower true, .simQueried 0 (some {}), .simIndicated 0, .setRadioPower true,
    .simQueried 1 (some {}), .simIndicated 1, .setRadioPower false]

/-- The first registration task goes on, and the radio searches while it is off. -/
theorem searches_while_off : ¬OffMeansOff {} (twiceOn ++ [.resume 0]) := by
  intro h
  obtain ⟨s₁, h₁, hidle, hoff, s₂, h₂, hloud⟩ : ∃ s₁, runFrom step {} twiceOn = some s₁ ∧ s₁.Idle ∧
      s₁.radioState = .off ∧ ∃ s₂ ∈ runFrom step s₁ [.resume 0], ¬s₂.Silent :=
    exists_run step (by decide +kernel)
  exact hloud (h twiceOn [.resume 0] s₁ s₂ (List.prefix_refl _) h₁ hidle hoff (by decide) h₂)

end RadioPower

end VirtualPhone
