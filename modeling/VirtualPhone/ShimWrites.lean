import VirtualPhone.Parcel
import VirtualPhone.Runtime.Framing

/-! # Two threads on one socket

The client thread of `ril_shim.c` (two indications when a client connects, then the responses of
`handle_request`) and the thread that forwards the bridge's indications both write to the socket of
the Android client.  Each writes a Parcel in two calls of `write`, the length and then the octets,
and nothing keeps the other thread from writing in between.

A step is one call of `write`.  `framed_iff` says exactly which schedules leave a stream of whole
frames: those in which no thread begins a Parcel while the other is between its two calls. -/

namespace VirtualPhone

open Runtime

/-- The threads that write to the client socket. -/
inductive ShimThread
  | client
  | forwarder
deriving DecidableEq

/-- The other thread. -/
def ShimThread.other : ShimThread → ShimThread
  | client => forwarder
  | forwarder => client

/-- The client socket: how many of the first indications the client thread has begun, the Parcel each
thread has announced and not written, the Parcels built, and what was written. -/
structure ShimSocket where
  greeted : ℕ := 0
  client : Option Bytes := none
  forwarder : Option Bytes := none
  built : List Bytes := []
  stream : Bytes := []
deriving DecidableEq

/-- The calls of `write`. -/
inductive ShimWrite
  /-- The client thread writes the length of its next first indication. -/
  | greet
  /-- `handle_request` writes the length of the response to a request Parcel. -/
  | respond (payload : Bytes) (respJson : Option Text)
  /-- The forwarder writes the length of the indication made from a message of the bridge. -/
  | forward (json : Text)
  /-- A thread writes the octets of its Parcel. -/
  | body (t : ShimThread)
deriving DecidableEq

/-- The indications the client thread sends first. -/
def greetings : List (List ParcelItem) :=
  [unsolicitedParcel 1000 "\x7b\"radioState\":10\x7d".toList, unsolicitedParcel 1019 "\x7b\x7d".toList]

/-- The longest message taken from the bridge. -/
def maxMsgSize : ℕ := 256 * 1024

namespace ShimSocket

/-- The Parcel whose length a thread has written last, until it is written itself. -/
def pending (s : ShimSocket) : ShimThread → Option Bytes
  | .client => s.client
  | .forwarder => s.forwarder

/-- The state with another pending Parcel of a thread. -/
def setPending (s : ShimSocket) (p : Option Bytes) : ShimThread → ShimSocket
  | .client => { s with client := p }
  | .forwarder => { s with forwarder := p }

/-- `write(client_fd, &net_len, 4)`. -/
def writeLength (s : ShimSocket) (t : ShimThread) (items : List ParcelItem) : ShimSocket :=
  { s.setPending (some (parcelBytes items)) t with
    built := s.built ++ [parcelBytes items]
    stream := s.stream ++ beBytes (parcelBytes items).length 4 }

/-- `write(client_fd, resp.buf, resp.len)`. -/
def writeBody (s : ShimSocket) (t : ShimThread) (p : Bytes) : ShimSocket :=
  { s.setPending none t with stream := s.stream ++ p }

/-- One call of `write`, by a thread that is where it makes this call. -/
def step (s : ShimSocket) : ShimWrite → Option ShimSocket
  | .greet =>
      match greetings[s.greeted]?, s.client with
      | some items, none =>
          some (({ s with greeted := s.greeted + 1 } : ShimSocket).writeLength .client items)
      | _, _ => none
  | .respond payload respJson =>
      if s.client = none ∧ greetings.length ≤ s.greeted ∧
          ∀ json ∈ respJson, json.length ≤ maxMsgSize then
        some (s.writeLength .client (responseParcel (readRequest payload) respJson))
      else none
  | .forward json =>
      if s.forwarder = none ∧ json.length ≤ maxMsgSize ∧
          jsonGetInt json "type".toList 0 = unsolicited then
        some (s.writeLength .forwarder
          (unsolicitedParcel (jsonGetInt json "id".toList 0) (jsonFindData json)))
      else none
  | .body t =>
      match s.pending t with
      | some p => some (s.writeBody t p)
      | none => none

/-- No thread is between its two calls. -/
def Idle (s : ShimSocket) : Prop := s.client = none ∧ s.forwarder = none

instance (s : ShimSocket) : Decidable s.Idle := inferInstanceAs (Decidable (_ ∧ _))

/-- The stream consists of whole frames, each with a Parcel that was built. -/
def Framed (s : ShimSocket) : Prop :=
  ∃ parcels : List Bytes, (∀ p ∈ parcels, p ∈ s.built ∧ p.length < 256 ^ 4) ∧
    s.stream = frames 4 parcels

end ShimSocket

/-- The thread that begins a Parcel. -/
def ShimWrite.begins : ShimWrite → Option ShimThread
  | greet => some .client
  | respond _ _ => some .client
  | forward _ => some .forwarder
  | body _ => none

/-- A Parcel is begun only when the other thread is not inside one. -/
def ShimSocket.Apart (s : ShimSocket) (e : ShimWrite) : Prop :=
  ∀ t ∈ e.begins, s.pending t.other = none

instance (s : ShimSocket) (e : ShimWrite) : Decidable (s.Apart e) :=
  inferInstanceAs (Decidable (∀ t ∈ e.begins, _))

/-! ### The Parcels -/

/-- How every Parcel of the shim looks: its type in front, and a length far below `2 ^ 24`. -/
structure ShimParcel (p : Bytes) : Prop where
  kind : le32 solicited <+: p ∨ le32 unsolicited <+: p
  long : 8 ≤ p.length
  short : p.length < 2 ^ 24

theorem responseParcel_size (r : AndroidRequest) {respJson : Option Text}
    (h : ∀ json ∈ respJson, json.length ≤ maxMsgSize) :
    parcelSize (responseParcel r respJson) < 2 ^ 24 := by
  unfold responseParcel
  rw [parcelSize_append, parcelSize_cons, parcelSize_cons, parcelSize_nil, ParcelItem.size_i32,
    ParcelItem.size_i32]
  cases respJson with
  | none =>
      have hfail : parcelSize [.i32 RILError.genericFailure.code] = 4 := rfl
      rw [hfail]
      decide
  | some json =>
      have hlen : json.length ≤ 256 * 1024 := h json rfl
      have hdata := jsonFindData_length json
      have hresp := responseData_size (jsonFindData json) r.requestId
      dsimp only
      split_ifs
      · rw [parcelSize_cons, parcelSize_nil, ParcelItem.size_i32]
        decide
      · rw [parcelSize_cons, ParcelItem.size_i32]
        omega

theorem unsolicitedParcel_size (indicationId : ℤ) {data : Text} (h : data.length ≤ maxMsgSize + 2) :
    parcelSize (unsolicitedParcel indicationId data) < 2 ^ 24 := by
  have hlen : data.length ≤ 256 * 1024 + 2 := h
  have hdata := indicationData_size data indicationId
  rw [unsolicitedParcel, parcelSize_append, parcelSize_cons, parcelSize_cons, parcelSize_nil]
  simp only [ParcelItem.size_i32]
  omega

theorem responseParcel_shim (r : AndroidRequest) {respJson : Option Text}
    (h : ∀ json ∈ respJson, json.length ≤ maxMsgSize) :
    ShimParcel (parcelBytes (responseParcel r respJson)) where
  kind := Or.inl (parcelBytes_header solicited _)
  long := by
    have := (parcelBytes_length (responseParcel r respJson)).1
    simp only [responseParcel, List.length_append, List.length_cons, List.length_nil] at this
    simp only [responseParcel]
    omega
  short := lt_of_le_of_lt (parcelBytes_length _).2 (responseParcel_size r h)

theorem unsolicitedParcel_shim (indicationId : ℤ) {data : Text} (h : data.length ≤ maxMsgSize + 2) :
    ShimParcel (parcelBytes (unsolicitedParcel indicationId data)) where
  kind := Or.inr (parcelBytes_header unsolicited _)
  long := by
    have := (parcelBytes_length (unsolicitedParcel indicationId data)).1
    simp only [unsolicitedParcel, List.length_append, List.length_cons, List.length_nil] at this
    simp only [unsolicitedParcel]
    omega
  short := lt_of_le_of_lt (parcelBytes_length _).2 (unsolicitedParcel_size indicationId h)

theorem greetings_shim {items : List ParcelItem} (h : items ∈ greetings) :
    ShimParcel (parcelBytes items) := by
  rcases List.mem_cons.mp h with rfl | h
  · exact unsolicitedParcel_shim 1000 (by decide)
  · obtain rfl := List.mem_singleton.mp h
    exact unsolicitedParcel_shim 1019 (by decide)

theorem ShimParcel.length_ne_kind {p q x y : Bytes} (hp : ShimParcel p) (hq : ShimParcel q) :
    p ++ x ≠ beBytes q.length 4 ++ y := by
  intro heq
  have hread (n : ℕ) (hle : le32 n <+: p) : q.length = fromBE (le32 n) := by
    have htake := congrArg (List.take 4) heq
    obtain ⟨rest, rfl⟩ := hle
    rw [List.append_assoc, List.take_left' (by simp), List.take_left' (by simp)] at htake
    have hlen : q.length < 256 ^ 4 := lt_trans hq.short (by decide)
    rw [htake, fromBE_beBytes, Nat.mod_eq_of_lt hlen]
  have hlong := hq.long
  have hshort := hq.short
  rcases hp.kind with hkind | hkind
  · have := hread 0 hkind
    rw [show fromBE (le32 ((0 : ℕ) : ℤ)) = 0 by decide] at this
    omega
  · have := hread 1 hkind
    rw [show fromBE (le32 ((1 : ℕ) : ℤ)) = 2 ^ 24 by decide] at this
    omega

namespace ShimSocket

/-! ### What a call of `write` does -/

@[simp] theorem pending_setPending (s : ShimSocket) (p : Option Bytes) (t : ShimThread) :
    (s.setPending p t).pending t = p := by
  cases t <;> rfl

@[simp] theorem pending_setPending_other (s : ShimSocket) (p : Option Bytes) (t : ShimThread) :
    (s.setPending p t).pending t.other = s.pending t.other := by
  cases t <;> rfl

/-- The two kinds of steps: a thread writes the length of a Parcel it has built, or the octets of the
one whose length it has written. -/
inductive Step (s : ShimSocket) : ShimWrite → ShimSocket → Prop
  | length {e : ShimWrite} {t : ShimThread} {items : List ParcelItem} (n : ℕ) (hbegins : e.begins = some t)
      (hfree : s.pending t = none) (hparcel : ShimParcel (parcelBytes items)) :
      Step s e (({ s with greeted := n } : ShimSocket).writeLength t items)
  | body {t : ShimThread} {p : Bytes} (hpending : s.pending t = some p) :
      Step s (.body t) (s.writeBody t p)

theorem step_spec {s s' : ShimSocket} {e : ShimWrite} (h : s.step e = some s') : Step s e s' := by
  cases e with
  | greet =>
      simp only [step] at h
      split at h
      · next items hitems hclient =>
        obtain rfl := Option.some.inj h
        exact Step.length _ rfl hclient (greetings_shim (List.mem_of_getElem? hitems))
      · cases h
  | respond payload respJson =>
      simp only [step] at h
      split at h
      · next hready =>
        obtain rfl := Option.some.inj h
        exact Step.length s.greeted rfl hready.1 (responseParcel_shim _ hready.2.2)
      · cases h
  | forward json =>
      simp only [step] at h
      split at h
      · next hready =>
        obtain rfl := Option.some.inj h
        have hdata := jsonFindData_length json
        exact Step.length s.greeted rfl hready.1
          (unsolicitedParcel_shim _ (hdata.trans (Nat.add_le_add_right hready.2.1 2)))
      · cases h
  | body t =>
      simp only [step] at h
      split at h
      · next p hp =>
        obtain rfl := Option.some.inj h
        exact Step.body hp
      · cases h

/-! ### The invariants -/

/-- Every Parcel built is one of the shim, and the pending ones were built. -/
structure Built (s : ShimSocket) : Prop where
  parcels : ∀ p ∈ s.built, ShimParcel p
  pending : ∀ t p, s.pending t = some p → p ∈ s.built

theorem Built.start : Built {} where
  parcels := by intro p hp; cases hp
  pending := by intro t p hp; cases t <;> cases hp

theorem Built.step {s s' : ShimSocket} {e : ShimWrite} (h : s.Built) (hs : Step s e s') : s'.Built := by
  cases hs with
  | @length _ t items n hbegins hfree hparcel =>
      refine ⟨?_, ?_⟩
      · intro p hp
        rcases List.mem_append.mp hp with hold | hnew
        · exact h.parcels p hold
        · exact (List.mem_singleton.mp hnew) ▸ hparcel
      · intro u p hp
        refine List.mem_append.mpr ?_
        cases t <;> cases u
        · exact Or.inr (List.mem_singleton.mpr (Option.some.inj hp).symm)
        · exact Or.inl (h.pending .forwarder p hp)
        · exact Or.inl (h.pending .client p hp)
        · exact Or.inr (List.mem_singleton.mpr (Option.some.inj hp).symm)
  | @body t p hpending =>
      have hbuilt : (s.writeBody t p).built = s.built := by cases t <;> rfl
      refine ⟨hbuilt ▸ h.parcels, fun u q hq => hbuilt ▸ ?_⟩
      cases t <;> cases u
      · cases hq
      · exact h.pending .forwarder q hq
      · exact h.pending .client q hq
      · cases hq

/-- What is written stays, and what is built stays. -/
def Extends (s s' : ShimSocket) : Prop := s.stream <+: s'.stream ∧ s.built ⊆ s'.built

theorem Extends.refl (s : ShimSocket) : Extends s s := ⟨List.prefix_refl _, List.Subset.refl _⟩

theorem Extends.trans {a b c : ShimSocket} (h : Extends a b) (h' : Extends b c) : Extends a c :=
  ⟨h.1.trans h'.1, List.Subset.trans h.2 h'.2⟩

theorem Extends.step {s s' : ShimSocket} {e : ShimWrite} (h : s.step e = some s') : Extends s s' := by
  cases step_spec h with
  | length n hbegins hfree hparcel =>
      exact ⟨List.prefix_append _ _, List.subset_append_left _ _⟩
  | @body t p hpending =>
      refine ⟨List.prefix_append _ _, ?_⟩
      cases t <;> exact List.Subset.refl _

/-- **The invariant of schedules without overlap**: whole frames, and behind them at most one length,
of the Parcel one thread has pending while the other has none. -/
def Whole (s : ShimSocket) : Prop :=
  ∃ parcels : List Bytes, (∀ p ∈ parcels, p ∈ s.built) ∧
    ((s.Idle ∧ s.stream = frames 4 parcels) ∨
      ∃ t p, s.pending t = some p ∧ s.pending t.other = none ∧
        s.stream = frames 4 parcels ++ beBytes p.length 4)

theorem Whole.start : Whole {} :=
  ⟨[], List.forall_mem_nil _, Or.inl ⟨⟨rfl, rfl⟩, rfl⟩⟩

theorem idle_of_pending {s : ShimSocket} (t : ShimThread) (h : s.pending t = none)
    (h' : s.pending t.other = none) : s.Idle := by
  cases t
  · exact ⟨h, h'⟩
  · exact ⟨h', h⟩

/-- While one thread has a Parcel pending and the other has none, every pending Parcel is that of the
one. -/
theorem eq_of_pending {s : ShimSocket} {t u : ShimThread} {p : Bytes} (hother : s.pending u.other = none)
    (ht : s.pending t = some p) : u = t := by
  cases t <;> cases u
  · rfl
  · exact absurd (hother.symm.trans ht) (by simp)
  · exact absurd (hother.symm.trans ht) (by simp)
  · rfl

theorem Whole.step {s s' : ShimSocket} {e : ShimWrite} (h : s.Whole) (hb : s.Built)
    (hapart : s.Apart e) (hs : Step s e s') : s'.Whole := by
  obtain ⟨parcels, hbuilt, hwhole⟩ := h
  cases hs with
  | @length _ t items n hbegins hfree hparcel =>
      have hother : s.pending t.other = none := hapart t hbegins
      have hstream : s.stream = frames 4 parcels := by
        rcases hwhole with ⟨-, hstream⟩ | ⟨u, p, hpending, hnone, -⟩
        · exact hstream
        · cases t <;> cases u
          · exact absurd (hfree.symm.trans hpending) (by simp)
          · exact absurd (hother.symm.trans hpending) (by simp)
          · exact absurd (hother.symm.trans hpending) (by simp)
          · exact absurd (hfree.symm.trans hpending) (by simp)
      refine ⟨parcels, fun p hp => List.mem_append_left _ (hbuilt p hp),
        Or.inr ⟨t, parcelBytes items, ?_, ?_, ?_⟩⟩
      · cases t <;> rfl
      · cases t <;> exact hother
      · exact congrArg (· ++ beBytes (parcelBytes items).length 4) hstream
  | @body t p hpending =>
      rcases hwhole with ⟨⟨hclient, hforwarder⟩, -⟩ | ⟨u, q, hu, hother, hstream⟩
      · cases t
        · exact absurd (hclient.symm.trans hpending) (by simp)
        · exact absurd (hforwarder.symm.trans hpending) (by simp)
      obtain rfl := eq_of_pending hother hpending
      obtain rfl : q = p := Option.some.inj (hu.symm.trans hpending)
      have hbuilt' : (s.writeBody u q).built = s.built := by cases u <;> rfl
      refine ⟨parcels ++ [q], ?_, Or.inl ⟨?_, ?_⟩⟩
      · intro p hp
        rw [hbuilt']
        rcases List.mem_append.mp hp with hp | hp
        · exact hbuilt p hp
        · obtain rfl := List.mem_singleton.mp hp
          exact hb.pending u p hu
      · refine idle_of_pending u ?_ ?_
        · cases u <;> rfl
        · cases u <;> exact hother
      · show s.stream ++ q = _
        rw [hstream, frames_append]
        simp

theorem Whole.framed {s : ShimSocket} (h : s.Whole) (hb : s.Built) (hidle : s.Idle) : s.Framed := by
  obtain ⟨parcels, hbuilt, ⟨-, hstream⟩ | ⟨t, p, hpending, -, -⟩⟩ := h
  · exact ⟨parcels, fun p hp => ⟨hbuilt p hp,
      lt_trans (hb.parcels p (hbuilt p hp)).short (by decide)⟩, hstream⟩
  · cases t
    · exact absurd (hidle.1.symm.trans hpending) (by simp)
    · exact absurd (hidle.2.symm.trans hpending) (by simp)

/-- **Overlap breaks the stream for good**: a length written behind a length is read as the beginning
of a Parcel, and it never is one. -/
theorem Whole.not_framed {s s₁ s' : ShimSocket} {e : ShimWrite} (h : s.Whole) (hb : s.Built)
    (hnot : ¬s.Apart e) (hs : Step s e s₁) (hext : Extends s₁ s') (hb' : s'.Built) : ¬s'.Framed := by
  rintro ⟨parcels', hbuilt', hstream'⟩
  obtain ⟨parcels, hbuilt, hwhole⟩ := h
  cases hs with
  | body hpending => exact hnot fun u hu => nomatch hu
  | @length _ t items n hbegins hfree hparcel =>
      have hother : s.pending t.other ≠ none := by
        intro hnone
        refine hnot fun u hu => ?_
        obtain rfl : t = u := Option.some.inj (hbegins.symm.trans hu)
        exact hnone
      rcases hwhole with ⟨hidle, -⟩ | ⟨u, q, hu, hnone, hstream⟩
      · exact hother (by cases t <;> [exact hidle.2; exact hidle.1])
      obtain ⟨rest, hrest⟩ := hext.1
      have heq : frames 4 parcels ++
          (beBytes q.length 4 ++ (beBytes (parcelBytes items).length 4 ++ rest)) = frames 4 parcels' := by
        rw [← hstream', ← hrest]
        show _ = (s.stream ++ beBytes (parcelBytes items).length 4) ++ rest
        rw [hstream, List.append_assoc, List.append_assoc]
      have hshort : ∀ p ∈ parcels, p.length < 256 ^ 4 := fun p hp =>
        lt_trans (hb.parcels p (hbuilt p hp)).short (by decide)
      obtain ⟨more, rfl, hmore⟩ := frames_append_eq (by decide) hshort (fun p hp => (hbuilt' p hp).2) heq
      cases more with
      | nil =>
          have hlen := congrArg List.length hmore
          simp at hlen
      | cons r more =>
          have hr := hbuilt' r (List.mem_append_right _ (List.mem_cons_self ..))
          rw [frames_cons] at hmore
          obtain ⟨-, htail⟩ := List.append_inj hmore (by simp)
          exact (hb'.parcels r hr.1).length_ne_kind hparcel htail.symm

/-! ### Framing -/

theorem built_of_run {es : List ShimWrite} {s : ShimSocket} (hrun : runFrom step {} es = some s) :
    s.Built :=
  runFrom_invariant step (P := fun _ _ => True) (fun _ _ _ hb _ hs => hb.step (step_spec hs))
    Built.start (Along.of_forall step (fun _ _ => trivial) _ _) hrun

theorem whole_of_run {es : List ShimWrite} {s : ShimSocket} (hrun : runFrom step {} es = some s)
    (halong : Along step Apart {} es) : s.Whole := by
  have hstep (s : ShimSocket) (e : ShimWrite) (s' : ShimSocket) (hI : s.Built ∧ s.Whole)
      (hapart : s.Apart e) (hs : s.step e = some s') : s'.Built ∧ s'.Whole :=
    ⟨hI.1.step (step_spec hs), hI.2.step hI.1 hapart (step_spec hs)⟩
  exact (runFrom_invariant step hstep ⟨Built.start, Whole.start⟩ halong hrun).2

/-- A run with an overlap leaves a stream that is not made of frames. -/
theorem not_framed_of_run {es : List ShimWrite} {s : ShimSocket} (hrun : runFrom step {} es = some s)
    (hnot : ¬Along step Apart {} es) : ¬s.Framed := by
  rcases along_or_first step {} es with halong | ⟨pre, e, post, s₁, rfl, hpre, halong, hoverlap⟩
  · exact absurd halong hnot
  have hb := built_of_run hrun
  rw [runFrom_append, hpre, Option.bind_some] at hrun
  obtain ⟨s₂, hstep, hpost⟩ := runFrom_cons_some step hrun
  have hext : Extends s₂ s :=
    runFrom_rel step Extends.refl Extends.trans (fun _ _ _ h => Extends.step h) hpost
  exact (whole_of_run hpre halong).not_framed (built_of_run hpre) hoverlap (step_spec hstep) hext hb

/-- **Framing towards Android.**  A run that leaves no Parcel half sent leaves a stream of whole
frames, each with a Parcel that was built, if and only if no thread began a Parcel while the other was
between the two writes of its own. -/
theorem framed_iff {es : List ShimWrite} {s : ShimSocket} (hrun : runFrom step {} es = some s)
    (hidle : s.Idle) : s.Framed ↔ Along step Apart {} es := by
  constructor
  · intro hframed
    by_contra hnot
    exact not_framed_of_run hrun hnot hframed
  · intro halong
    exact (whole_of_run hrun halong).framed (built_of_run hrun) hidle

/-- The first message of the bridge on the connection of the forwarder. -/
def firstMessage : Text := (radioStateChanged 10).message.payload

/-- The client thread sends its first indications, then the forwarder one. -/
theorem framed_in_turn : ∃ s : ShimSocket,
    s.Idle ∧ (s.Framed ↔ Along step Apart {}
      [.greet, .body .client, .greet, .body .client, .forward firstMessage, .body .forwarder]) := by
  obtain ⟨s, hrun, hidle⟩ : ∃ s, runFrom step {} [.greet, .body .client, .greet, .body .client,
      .forward firstMessage, .body .forwarder] = some s ∧ s.Idle := exists_run step (by decide +kernel)
  exact ⟨s, hidle, framed_iff hrun hidle⟩

/-- The forwarder writes a length between the two writes of the first indication. -/
theorem broken_frames : ∃ (es : List ShimWrite) (s : ShimSocket),
    runFrom step {} es = some s ∧ s.Idle ∧ ¬s.Framed := by
  obtain ⟨s, hrun, hidle⟩ : ∃ s, runFrom step {} [.greet, .forward firstMessage, .body .client,
      .body .forwarder] = some s ∧ s.Idle := exists_run step (by decide +kernel)
  exact ⟨_, s, hrun, hidle, not_framed_of_run hrun (by decide +kernel)⟩

end ShimSocket

end VirtualPhone
