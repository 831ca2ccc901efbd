import VirtualPhone.DaemonRequests
import VirtualPhone.Runtime.Simulation

/-! # The daemon and the profile store

The daemon is a profile store that also authenticates its subscriber, and an authentication advances
the sequence number of the active profile in memory.  `daemon_refines_store` says that it does nothing
else: a run of the daemon is a run of the store with the messages that manage profiles, and the two end
with the same profiles and files, but for sequence numbers.

So what holds of every run of the store holds of every run of the daemon: at most one profile is
enabled, the pointer names it, and a restart finds the same profiles in the same states. -/

namespace VirtualPhone

open Runtime
open Py (Simulates)

/-! ### The same but for sequence numbers -/

/-- The profile with sequence number zero. -/
def Isdp.withoutSqn (p : Isdp) : Isdp := { p with sqn := 0 }

/-- The same profile, but for its sequence number. -/
def Isdp.Alike (p q : Isdp) : Prop := p.withoutSqn = q.withoutSqn

namespace Isdp

variable {p q r : Isdp}

theorem Alike.refl (p : Isdp) : p.Alike p := rfl

theorem Alike.trans (h : p.Alike q) (h' : q.Alike r) : p.Alike r := Eq.trans h h'

theorem Alike.symm (h : p.Alike q) : q.Alike p := Eq.symm h

theorem Alike.eq_withSqn (h : p.Alike q) : q = { p with sqn := q.sqn } := by
  unfold Alike withoutSqn at h
  cases p
  cases q
  simp_all

theorem Alike.iccid (h : p.Alike q) : q.iccid = p.iccid := by rw [h.eq_withSqn]

theorem Alike.state (h : p.Alike q) : q.state = p.state := by rw [h.eq_withSqn]

theorem Alike.withState (h : p.Alike q) (st : ProfileState) :
    (p.withState st).Alike (q.withState st) := by
  rw [h.eq_withSqn]
  rfl

theorem alike_incrementSqn (p : Isdp) : p.Alike p.incrementSqn := rfl

end Isdp

/-- Two files with the same profile, but for its sequence number. -/
def JsonDict.Alike (data data' : JsonDict) : Prop :=
  ∃ p q : Isdp, data = p.toDict ∧ data' = q.toDict ∧ p.Alike q

/-- The same object, but for sequence numbers. -/
structure Euicc.Alike (e f : Euicc) : Prop where
  info : e.info = f.info
  state : e.state = f.state
  activeIccid : e.activeIccid = f.activeIccid
  profiles : Dict.Alike Isdp.Alike e.profiles f.profiles

/-- The same store, but for sequence numbers. -/
structure Storage.Alike (s t : Storage) : Prop where
  euicc : s.euicc.Alike t.euicc
  files : Dict.Alike JsonDict.Alike s.files t.files
  failAfter : s.failAfter = t.failAfter

/-! ### The methods of the store -/

namespace Euicc

theorem simulates_update {f g : Euicc → Euicc} (h : ∀ e e', Alike e e' → Alike (f e) (g e')) :
    Simulates Storage.Alike (fun _ _ => True) (update f) (update g) :=
  .modify fun _ _ hst => ⟨h _ _ hst.euicc, hst.files, hst.failAfter⟩

theorem simulates_fileOperation {f g : Files → Files}
    (h : ∀ d e, Dict.Alike JsonDict.Alike d e → Dict.Alike JsonDict.Alike (f d) (g e)) :
    Simulates Storage.Alike (fun _ _ => True) (fileOperation f) (fileOperation g) := by
  intro s t hst
  obtain ⟨euicc, files, fail⟩ := s
  obtain ⟨euicc', files', fail'⟩ := t
  obtain ⟨heuicc, hfiles, hfail⟩ := hst
  obtain rfl : fail = fail' := hfail
  rcases fail with _ | _ | n
  · exact ⟨.ok trivial, heuicc, h _ _ hfiles, rfl⟩
  · exact ⟨.error .osError, heuicc, hfiles, rfl⟩
  · exact ⟨.ok trivial, heuicc, h _ _ hfiles, rfl⟩

theorem simulates_saveProfile {p q : Isdp} (h : p.Alike q) :
    Simulates Storage.Alike (fun _ _ => True) (saveProfile p) (saveProfile q) := by
  refine simulates_fileOperation fun d e hde => ?_
  rw [h.iccid]
  exact hde.set _ ⟨p, q, rfl, rfl, h⟩

theorem simulates_requireReady :
    Simulates Storage.Alike (fun _ _ => True) requireReady requireReady := by
  refine .bind .get fun s t hst => ?_
  rw [hst.euicc.state]
  split_ifs
  · exact .raise _
  · exact .pure trivial

theorem simulates_required (key : Text) (value : Option Text) :
    Simulates Storage.Alike Eq (required key value) (required key value) := by
  cases value with
  | none => exact .raise _
  | some v => exact .pure rfl

theorem simulates_find (i : Text) : Simulates Storage.Alike Isdp.Alike (find i) (find i) := by
  refine .bind .get fun s t hst => ?_
  rcases hst.euicc.profiles.get? i with ⟨hs, ht⟩ | ⟨p, q, hs, ht, hpq⟩
  · rw [hs, ht]
    exact .raise _
  · rw [hs, ht]
    exact .pure hpq

theorem Alike.withState {e f : Euicc} (h : Alike e f) (i : Text) (st : ProfileState) :
    Alike (e.withState i st) (f.withState i st) :=
  ⟨h.info, h.state, h.activeIccid, h.profiles.modify i fun _ _ hpq => hpq.withState st⟩

theorem Alike.withActive {e f : Euicc} (h : Alike e f) (i : Option Text) :
    Alike (e.withActive i) (f.withActive i) := ⟨h.info, h.state, rfl, h.profiles⟩

theorem Alike.dropActive {e f : Euicc} (h : Alike e f) (i : Text) :
    Alike (e.dropActive i) (f.dropActive i) := by
  unfold Euicc.dropActive
  rw [h.activeIccid]
  split_ifs
  · exact h.withActive none
  · exact h

theorem Alike.withoutProfile {e f : Euicc} (h : Alike e f) (i : Text) :
    Alike (e.withoutProfile i) (f.withoutProfile i) :=
  ⟨h.info, h.state, h.activeIccid, h.profiles.erase i⟩

theorem Alike.withProfile {e f : Euicc} (h : Alike e f) (p : Isdp) (size : ℤ) :
    Alike (e.withProfile p size) (f.withProfile p size) :=
  ⟨by rw [Euicc.withProfile, Euicc.withProfile, h.info], h.state, h.activeIccid, h.profiles.set _ rfl⟩

theorem Alike.getActiveProfile {e f : Euicc} (h : Alike e f) :
    (e.getActiveProfile = none ∧ f.getActiveProfile = none) ∨
      ∃ p q, e.getActiveProfile = some p ∧ f.getActiveProfile = some q ∧ p.Alike q := by
  unfold Euicc.getActiveProfile
  rw [← h.activeIccid]
  rcases e.activeIccid with _ | _ | ⟨c, i⟩
  · exact .inl ⟨rfl, rfl⟩
  · exact .inl ⟨rfl, rfl⟩
  · exact h.profiles.get? _

theorem simulates_releaseActive :
    Simulates Storage.Alike (fun _ _ => True) releaseActive releaseActive := by
  refine .bind .get fun s t hst => ?_
  rw [← hst.euicc.activeIccid]
  cases s.euicc.activeIccid with
  | none => exact .pure trivial
  | some active =>
      rcases hst.euicc.getActiveProfile with ⟨hs, ht⟩ | ⟨p, q, hs, ht, hpq⟩
      · rw [hs, ht]
        exact .pure trivial
      · rw [hs, ht]
        exact .bind (simulates_update fun _ _ h => h.withState _ _) fun _ _ _ =>
          simulates_saveProfile (hpq.withState _)

/-! ### The calls -/

theorem simulates_enableProfile (i : Text) :
    Simulates Storage.Alike Eq (enableProfile i) (enableProfile i) := by
  refine .bind simulates_requireReady fun _ _ _ => .bind (simulates_find i) fun p q hpq => ?_
  rw [hpq.state]
  split_ifs
  · exact .pure rfl
  · exact .bind simulates_releaseActive fun _ _ _ =>
      .bind (simulates_update fun _ _ h => h.withState _ _) fun _ _ _ =>
      .bind (simulates_update fun _ _ h => h.withActive _) fun _ _ _ =>
      .bind (simulates_saveProfile (hpq.withState _)) fun _ _ _ => .pure rfl

theorem simulates_disableProfile (i : Text) :
    Simulates Storage.Alike Eq (disableProfile i) (disableProfile i) := by
  refine .bind simulates_requireReady fun _ _ _ => .bind (simulates_find i) fun p q hpq => ?_
  rw [hpq.state]
  split_ifs
  · exact .pure rfl
  · exact .bind (simulates_update fun _ _ h => h.withState _ _) fun _ _ _ =>
      .bind (simulates_saveProfile (hpq.withState _)) fun _ _ _ =>
      .bind (simulates_update fun _ _ h => h.dropActive _) fun _ _ _ => .pure rfl

theorem simulates_deleteProfile (i : Text) :
    Simulates Storage.Alike Eq (deleteProfile i) (deleteProfile i) :=
  .bind simulates_requireReady fun _ _ _ => .bind (simulates_find i) fun _ _ _ =>
    .bind (simulates_update fun _ _ h => h.dropActive _) fun _ _ _ =>
    .bind (simulates_update fun _ _ h => h.withoutProfile _) fun _ _ _ =>
    .bind (simulates_fileOperation fun _ _ h => h.erase _) fun _ _ _ => .pure rfl

theorem simulates_installProfile (data : ProfileData) (uuid : Text) :
    Simulates Storage.Alike Eq (installProfile data uuid) (installProfile data uuid) := by
  refine .bind simulates_requireReady fun _ _ _ => .bind (simulates_required _ _) fun iccid _ hi => ?_
  obtain rfl := hi
  refine .bind .get fun s t hst => ?_
  rw [hst.euicc.profiles.keys, hst.euicc.info]
  split_ifs
  · exact .raise _
  dsimp only
  split_ifs
  · exact .raise _
  · refine .bind (simulates_required _ _) fun imsi _ h => ?_
    obtain rfl := h
    refine .bind (simulates_required _ _) fun ki _ h => ?_
    obtain rfl := h
    refine .bind (simulates_required _ _) fun opc _ h => ?_
    obtain rfl := h
    exact .bind (simulates_update fun _ _ h => h.withProfile _ _) fun _ _ _ =>
      .bind (simulates_saveProfile (.refl _)) fun _ _ _ => .pure rfl

theorem simulates_prog (op : EuiccOp) : Simulates Storage.Alike (fun _ _ => True) op.prog op.prog := by
  cases op with
  | install data uuid => exact .bind (simulates_installProfile data uuid) fun _ _ _ => .pure trivial
  | enable i => exact .bind (simulates_enableProfile i) fun _ _ _ => .pure trivial
  | disable i => exact .bind (simulates_disableProfile i) fun _ _ _ => .pure trivial
  | delete i => exact .bind (simulates_deleteProfile i) fun _ _ _ => .pure trivial

/-! ### Restarts -/

theorem Alike.loadProfile {files files' : Files} (hfiles : Dict.Alike JsonDict.Alike files files')
    {e f : Euicc} (h : Alike e f) (name : Text) :
    Alike (Euicc.loadProfile files e name) (Euicc.loadProfile files' f name) := by
  rcases hfiles.get? name with ⟨hd, hd'⟩ | ⟨data, data', hd, hd', p, q, hp, hq, hpq⟩
  · unfold Euicc.loadProfile
    rw [hd, hd']
    exact h
  · rw [hp] at hd
    rw [hq] at hd'
    rw [loadProfile_of_get hd, loadProfile_of_get hd', hpq.iccid, hpq.state, h.activeIccid]
    exact ⟨h.info, h.state, rfl, h.profiles.set _ hpq⟩

theorem Alike.loadProfiles {files files' : Files} (hfiles : Dict.Alike JsonDict.Alike files files')
    (names : List Text) {e f : Euicc} (h : Alike e f) :
    Alike (names.foldl (Euicc.loadProfile files) e) (names.foldl (Euicc.loadProfile files') f) := by
  induction names generalizing e f with
  | nil => exact h
  | cons name names ih => exact ih (h.loadProfile hfiles name)

end Euicc

theorem Storage.Alike.reboot {s t : Storage} (h : s.Alike t) (listing : List Text) :
    (s.reboot listing).Alike (t.reboot listing) := by
  have hloaded := Euicc.Alike.loadProfiles h.files
    (listing.filter fun name => ".json".toList.isSuffixOf name)
    (e := { info := { eid := s.euicc.info.eid } }) (f := { info := { eid := t.euicc.info.eid } })
    ⟨by rw [h.euicc.info], rfl, rfl, .empty⟩
  exact ⟨⟨hloaded.info, rfl, hloaded.activeIccid, hloaded.profiles⟩, h.files, rfl⟩

/-! ### The daemon -/

namespace Daemon

/-- What an event of the daemon is to its store. -/
def storeEvent : Event → Option EuiccEvent
  | .message (.installProfile profile uuid) => some (.call (.install profile uuid))
  | .message (.enableProfile iccid) => some (.call (.enable iccid))
  | .message (.disableProfile iccid) => some (.call (.disable iccid))
  | .message (.deleteProfile iccid) => some (.call (.delete iccid))
  | .message _ => none
  | .restart listing => some (.restart listing)

/-- The events of a run that manage profiles. -/
def storeEvents (events : List Event) : List EuiccEvent := events.filterMap storeEvent

theorem alike_incrementActive {e f : Euicc} (h : e.Alike f) :
    (ApduHandler.incrementActive e).Alike f := by
  unfold ApduHandler.incrementActive
  cases hactive : e.activeIccid with
  | none => exact h
  | some iccid =>
      refine ⟨h.info, h.state, hactive.symm.trans h.activeIccid, ?_, fun k v w hv hw => ?_⟩
      · rw [Dict.keys_modify]
        exact h.profiles.keys
      · rw [Dict.get?_modify] at hv
        split_ifs at hv
        · obtain ⟨p, hp, rfl⟩ := Option.map_eq_some_iff.mp hv
          exact (Isdp.alike_incrementSqn p).symm.trans (h.profiles.values k p w hp hw)
        · exact h.profiles.values k v w hv hw

variable {P : Platform} {d d' : Daemon} {s : Storage}

theorem run_requireReady (d : Daemon) : ((onStorage Euicc.requireReady).run d).2 = d := by
  rw [onStorage, Py.run_zoom]
  have hsame : (Euicc.requireReady.run d.storage).2 = d.storage := by
    rw [Euicc.requireReady, Py.run_get_bind]
    split_ifs <;> rfl
  rw [hsame]

theorem alike_processApdu (h : d.storage.Alike s) (data : Text) :
    ((processApdu P data).run d).2.storage.Alike s := by
  rw [run_processApdu]
  cases fromHex data with
  | error e => exact h
  | ok raw =>
      refine ⟨?_, h.files, h.failAfter⟩
      change (ApduHandler.process P raw d.card).2.euicc.Alike s.euicc
      rcases ApduHandler.process_spec P raw d.card with ⟨ch, -, he, -⟩ | ⟨-, he, -⟩
      · rw [he]
        exact alike_incrementActive h.euicc
      · rw [he]
        exact h.euicc

/-- A message that only calls the store raises where the call does. -/
theorem onStorage_raises {α : Type} {x : Py Storage α} {f : α → DaemonResponse} {e : PyError}
    (h : ((do let a ← onStorage x; return f a : Py Daemon DaemonResponse).run d).1 = .error e) :
    ((do let _ ← x : Py Storage Unit).run d.storage).1 = .error e := by
  rcases hrun : x.run d.storage with ⟨x' | a, s'⟩
  · have hx : (onStorage x).run d = (.error x', { d with storage := s' }) := by
      rw [onStorage, Py.run_zoom, hrun]
    rw [Py.run_bind_error hx] at h
    rw [Py.run_bind_error hrun]
    obtain rfl := Except.error.inj h
    rfl
  · have hx : (onStorage x).run d = (.ok a, { d with storage := s' }) := by
      rw [onStorage, Py.run_zoom, hrun]
    rw [Py.run_bind_ok hx] at h
    cases h

/-- A message that only calls the store, in the daemon and in the store. -/
theorem alike_call (h : d.storage.Alike s) (op : EuiccOp) (hsafe : op.Safe) {α : Type}
    {x : Py Storage α} {f : α → DaemonResponse} (hop : op.prog = do let _ ← x) :
    ∃ t, s.step (.call op) = some t ∧
      ((do let a ← onStorage x; return f a : Py Daemon DaemonResponse).run d).2.storage.Alike t ∧
      ((∃ e, ((do let a ← onStorage x; return f a : Py Daemon DaemonResponse).run d).1 = .error e) →
        ∃ e, (op.prog.run s).1 = .error e) := by
  obtain ⟨hout, halike⟩ := Euicc.simulates_prog op d.storage s h
  refine ⟨(op.prog.run s).2, if_pos hsafe, ?_, ?_⟩
  · rw [run_onStorage, ← prog_state, ← hop]
    exact halike
  · rintro ⟨e, he⟩
    refine ⟨e, ?_⟩
    rw [hop, onStorage_raises he, ← hop] at hout
    generalize (op.prog.run s).1 = r at hout
    cases hout
    rfl

/-- The message raises. -/
def Raises (P : Platform) (d : Daemon) : Event → Prop
  | .message msg => ∃ e, ((processMessage P msg).run d).1 = .error e
  | .restart _ => False

/-- **Step lemma.**  An event of the daemon is one of the store, or leaves the store as it is. -/
theorem alike_step (h : d.storage.Alike s) {e : Event} (hs : step P d e = some d') :
    (storeEvent e = none ∧ d'.storage.Alike s) ∨
      ∃ e' t, storeEvent e = some e' ∧ s.step e' = some t ∧ d'.storage.Alike t ∧
        (Raises P d e → ∃ op, e' = .call op ∧ ∃ x, (op.prog.run s).1 = .error x) := by
  cases e with
  | restart listing =>
      rw [step] at hs
      split_ifs at hs with hl
      obtain rfl := Option.some.inj hs
      rw [h.files.keys] at hl
      exact .inr ⟨_, _, rfl, if_pos hl, h.reboot listing, False.elim⟩
  | message msg =>
      rw [step] at hs
      split_ifs at hs with hsafe
      obtain rfl := Option.some.inj hs
      cases msg with
      | apdu data => exact .inl ⟨rfl, alike_processApdu h data⟩
      | getInfo => exact .inl ⟨rfl, h⟩
      | unknown msgType => exact .inl ⟨rfl, h⟩
      | listProfiles =>
          refine .inl ⟨rfl, ?_⟩
          rw [processMessage, Py.state_bind fun _ _ => rfl, run_requireReady]
          exact h
      | getProfileCredentials iccid =>
          refine .inl ⟨rfl, ?_⟩
          rw [processMessage, Py.run_get_bind]
          cases d.storage.euicc.profiles.get? iccid <;> exact h
      | enableProfile iccid =>
          obtain ⟨t, ht, halike, hraise⟩ := alike_call h (.enable iccid) trivial rfl
          exact .inr ⟨_, t, rfl, ht, halike, fun hr => ⟨_, rfl, hraise hr⟩⟩
      | disableProfile iccid =>
          obtain ⟨t, ht, halike, hraise⟩ := alike_call h (.disable iccid) trivial rfl
          exact .inr ⟨_, t, rfl, ht, halike, fun hr => ⟨_, rfl, hraise hr⟩⟩
      | installProfile profile uuid =>
          obtain ⟨t, ht, halike, hraise⟩ := alike_call h (.install profile uuid) hsafe rfl
          exact .inr ⟨_, t, rfl, ht, halike, fun hr => ⟨_, rfl, hraise hr⟩⟩
      | deleteProfile iccid =>
          obtain ⟨t, ht, halike, hraise⟩ := alike_call h (.delete iccid) trivial rfl
          exact .inr ⟨_, t, rfl, ht, halike, fun hr => ⟨_, rfl, hraise hr⟩⟩

/-- **Run lemma.** -/
theorem alike_run {events : List Event} (h : d.storage.Alike s)
    (hrun : runFrom (step P) d events = some d') :
    ∃ t, runFrom Storage.step s (storeEvents events) = some t ∧ d'.storage.Alike t := by
  induction events generalizing d s with
  | nil =>
      obtain rfl := Option.some.inj hrun
      exact ⟨s, rfl, h⟩
  | cons e events ih =>
      obtain ⟨d₁, hstep, hrest⟩ := runFrom_cons_some _ hrun
      rcases alike_step h hstep with ⟨hnone, halike⟩ | ⟨e', s₁, hsome, hs₁, halike, -⟩
      · obtain ⟨t, ht, htalike⟩ := ih halike hrest
        refine ⟨t, ?_, htalike⟩
        rwa [storeEvents, List.filterMap_cons_none hnone]
      · obtain ⟨t, ht, htalike⟩ := ih halike hrest
        refine ⟨t, ?_, htalike⟩
        rw [storeEvents, List.filterMap_cons_some hsome, runFrom_cons, hs₁]
        exact ht

theorem start_alike (eid : Text) : (start eid).storage.Alike (Storage.start eid) :=
  ⟨⟨rfl, rfl, rfl, .empty⟩, .empty, rfl⟩

/-! ### What holds of the store -/

/-- The profiles and the files of the daemon are a catalogue, but for sequence numbers. -/
structure Represents (d : Daemon) (c : Catalogue) : Prop where
  wellFormed : c.WellFormed
  ready : d.storage.euicc.state = .ready
  memory : ∀ i, Option.Rel Isdp.Alike (d.storage.euicc.profiles.get? i) (c i)
  active : ∀ i, d.storage.euicc.activeIccid = some i ↔ c.Enabled i
  files : ∀ i, Option.Rel JsonDict.Alike (d.storage.files.get? (fileName i)) ((c i).map Isdp.toDict)
  names : ∀ name ∈ d.storage.files.keys, ∃ i, name = fileName i

theorem represents {c : Catalogue} (h : d.storage.Alike s) (hc : Consistent s c) : d.Represents c where
  wellFormed := hc.wellFormed
  ready := h.euicc.state.trans hc.holds.ready
  memory i := by
    rw [← hc.holds.profiles i]
    rcases h.euicc.profiles.get? i with ⟨hd, hs⟩ | ⟨p, q, hd, hs, hpq⟩
    · rw [hd, hs]
      exact .none
    · rw [hd, hs]
      exact .some hpq
  active i := by
    rw [h.euicc.activeIccid]
    exact hc.holds.active i
  files i := by
    rw [← hc.mirrors.contents i]
    rcases h.files.get? (fileName i) with ⟨hd, hs⟩ | ⟨p, q, hd, hs, hpq⟩
    · rw [hd, hs]
      exact .none
    · rw [hd, hs]
      exact .some hpq
  names name hname := by
    rw [h.files.keys] at hname
    exact hc.mirrors.names name hname

/-- What an event of the daemon does to the catalogue. -/
def CatalogueStep (c : Catalogue) (e : Event) (c' : Catalogue) : Prop :=
  match storeEvent e with
  | some (.call op) => c.Step op c'
  | _ => c' = c

/-- The daemon is in a state of a run from `d₀`. -/
def Reachable (P : Platform) (d₀ d : Daemon) : Prop := ∃ events, runFrom (step P) d₀ events = some d

theorem Reachable.refl (d : Daemon) : d.Reachable P d := ⟨[], rfl⟩

theorem Reachable.step {d₀ : Daemon} {e : Event} (h : d₀.Reachable P d)
    (hs : Daemon.step P d e = some d') : d₀.Reachable P d' := by
  obtain ⟨events, hrun⟩ := h
  refine ⟨events ++ [e], ?_⟩
  rw [runFrom_append, hrun, Option.bind_some, runFrom_cons, hs]
  rfl

/-- In every state that is reached from the start, the daemon represents a catalogue, and so it does
after every further event. -/
theorem Reachable.represents {eid : Text} (h : (start eid).Reachable P d) :
    ∃ c, d.Represents c ∧ ∀ e d', Daemon.step P d e = some d' →
      ∃ c', d'.Represents c' ∧ CatalogueStep c e c' ∧ (Raises P d e → c' = c) := by
  obtain ⟨events, hrun⟩ := h
  obtain ⟨s, hs, halike⟩ := alike_run (start_alike eid) hrun
  obtain ⟨c, hc⟩ := run_consistent hs
  refine ⟨c, Daemon.represents halike hc, fun e d' hstep => ?_⟩
  unfold CatalogueStep
  rcases alike_step halike hstep with ⟨hnone, halike'⟩ | ⟨e', t, hsome, ht, halike', hraise⟩
  · rw [hnone]
    exact ⟨c, Daemon.represents halike' hc, rfl, fun _ => rfl⟩
  · rw [hsome]
    cases e' with
    | call op =>
        obtain ⟨c', hc', hstep', hsame⟩ := step_call hc ht
        refine ⟨c', Daemon.represents halike' hc', hstep', fun hr => ?_⟩
        obtain ⟨_, hop, x, hx⟩ := hraise hr
        obtain rfl := EuiccEvent.call.inj hop
        exact hsame x hx
    | restart listing =>
        exact ⟨c, Daemon.represents halike' (step_restart hc ht), rfl, fun _ => rfl⟩
    | crash op writes listing =>
        exfalso
        cases e with
        | restart listing => cases hsome
        | message msg => cases msg <;> cases hsome

/-- **The daemon is the profile store.**  A run of the daemon, with authentications anywhere, ends with
the profiles and files of the run of the store with the same calls and restarts, but for sequence
numbers.  These are a catalogue in which at most one profile is enabled, the one that the pointer
names; every further event does to it what the call of the store may do, any other event nothing, and
so does a message that raises. -/
theorem daemon_refines_store (eid : Text) (events : List Event) (d : Daemon)
    (h : runFrom (step P) (start eid) events = some d) :
    (∃ s, runFrom Storage.step (Storage.start eid) (storeEvents events) = some s ∧ d.storage.Alike s) ∧
      ∃ c, d.Represents c ∧ ∀ e d', step P d e = some d' →
        ∃ c', d'.Represents c' ∧ CatalogueStep c e c' ∧ (Raises P d e → c' = c) :=
  ⟨alike_run (start_alike eid) h, Reachable.represents ⟨events, h⟩⟩

/-- The authentication of the subscriber that the run above enables. -/
theorem daemon_refines_store_zero :
    ∃ d, runFrom (step ApduHandler.zeroPlatform) (start ['8']) zeroRun = some d ∧
      ∃ c, d.Represents c := by
  have hrun : (runFrom (step ApduHandler.zeroPlatform) (start ['8']) zeroRun).isSome := by
    decide +kernel
  obtain ⟨d, hd⟩ := Option.isSome_iff_exists.mp hrun
  obtain ⟨c, hc, -⟩ := (daemon_refines_store ['8'] zeroRun d hd).2
  exact ⟨d, hd, c, hc⟩

end Daemon

end VirtualPhone
