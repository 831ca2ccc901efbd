import VirtualPhone.Runtime.Py
import Mathlib.Data.List.Perm.Subperm

/-! # The jitter buffer

`JitterBuffer` of `ims/media.py`: a deque of entries sorted by their raw sequence number, at most
`2 * max_depth` of them, and the sequence number `_next_seq` of the next frame to play.  `get` looks
at the front entry only: an entry up to half a turn behind `_next_seq` is dropped, one ahead of it
counts as the loss of the expected frame, and the expected one is played.

`_next_seq` moves by one with every frame handed out and by nothing else, so the frames are numbered
by it through any loss, overflow and wrap-around (`faithful_stream`).  Each entry carries, as history,
which call of `put` it came with; the entries of the buffer and the ones played are always of
different calls. -/

namespace VirtualPhone

open Runtime

/-- The fields of `RTPPacket` the buffer reads. -/
structure RTPPacket where
  sequenceNumber : ℕ
  timestamp : ℕ
  payload : Bytes
  valid : sequenceNumber < 65536

/-- `JitterBufferEntry`; `reception` counts the packets received before it. -/
structure JitterBufferEntry where
  sequenceNumber : ℕ
  timestamp : ℕ
  payload : Bytes
  reception : ℕ
deriving DecidableEq

/-- `JitterBuffer`, without the estimate of the jitter, which nothing but a statistic reads. -/
structure JitterBuffer where
  minDepth : ℤ := 2
  maxDepth : ℕ := 10
  targetDepth : ℤ := 4
  buffer : List JitterBufferEntry := []
  nextSeq : Option ℕ := none
  packetsReceived : ℕ := 0
  packetsPlayed : ℕ := 0
  packetsLost : ℕ := 0
  packetsLate : ℕ := 0
  packetsDuplicate : ℕ := 0
deriving DecidableEq

/-! ### Bounded deques -/

section Deque

variable {α : Type}

/-- `deque.append(x)` with a bound: an entry too many goes from the left. -/
def dequeAppend (maxlen : ℕ) (d : List α) (x : α) : List α :=
  (d ++ [x]).drop (d.length + 1 - maxlen)

/-- `deque.insert(i, x)` with a bound. -/
def dequeInsert (maxlen : ℕ) (d : List α) (i : ℕ) (x : α) : Except PyError (List α) :=
  if d.length < maxlen then .ok (d.insertIdx i x) else .error .indexError

theorem dequeAppend_subperm (maxlen : ℕ) (d : List α) (x : α) :
    (dequeAppend maxlen d x).Subperm (x :: d) := by
  have hdrop : (dequeAppend maxlen d x).Sublist (d ++ [x]) := List.drop_sublist _ _
  exact hdrop.subperm.trans (List.perm_append_singleton x d).subperm

theorem dequeInsert_subperm {maxlen i : ℕ} {d d' : List α} {x : α} (hi : i ≤ d.length)
    (h : dequeInsert maxlen d i x = .ok d') : d'.Subperm (x :: d) := by
  unfold dequeInsert at h
  split_ifs at h
  obtain rfl : d.insertIdx i x = d' := Except.ok.inj h
  exact (List.perm_insertIdx x d hi).subperm

end Deque

namespace JitterBuffer

/-! ### Putting a packet in -/

/-- `deque(maxlen=max_depth * 2)`. -/
def maxlen (b : JitterBuffer) : ℕ := b.maxDepth * 2

/-- The entry of a packet, made when the packet has been counted. -/
def entryOf (b : JitterBuffer) (packet : RTPPacket) : JitterBufferEntry :=
  { sequenceNumber := packet.sequenceNumber
    timestamp := packet.timestamp
    payload := packet.payload
    reception := b.packetsReceived - 1 }

/-- The insertion before the first entry with a greater sequence number, or at the end. -/
def insertSorted (b : JitterBuffer) (entry : JitterBufferEntry) :
    Except PyError (List JitterBufferEntry) :=
  match b.buffer.findIdx? (entry.sequenceNumber < ·.sequenceNumber) with
  | some i => dequeInsert b.maxlen b.buffer i entry
  | none => .ok (dequeAppend b.maxlen b.buffer entry)

/-- The packet is counted, and the first one starts the sequence. -/
def receive (packet : RTPPacket) (b : JitterBuffer) : JitterBuffer :=
  { b with
    packetsReceived := b.packetsReceived + 1
    nextSeq := some (b.nextSeq.getD packet.sequenceNumber) }

/-- `put(packet)`. -/
def put (packet : RTPPacket) : Py JitterBuffer Unit := do
  Py.modify (receive packet)
  let b ← Py.get
  if b.buffer.any (·.sequenceNumber = packet.sequenceNumber) then
    Py.modify fun b => { b with packetsDuplicate := b.packetsDuplicate + 1 }
  else
    let buffer ← Py.lift (b.insertSorted (b.entryOf packet))
    Py.modify fun b => { b with buffer := buffer }

end JitterBuffer

/-! ### Getting a frame out -/

/-- A frame `get` returns: the empty one that signals a loss, or the payload of an entry. -/
inductive Frameout
  | lost
  | entry (e : JitterBufferEntry)
deriving DecidableEq

namespace Frameout

/-- The octets returned. -/
def payload : Frameout → Bytes
  | lost => []
  | entry e => e.payload

/-- The call of `put` a played frame came with. -/
def reception : Frameout → Option ℕ
  | lost => none
  | entry e => some e.reception

end Frameout

namespace JitterBuffer

/-- `get()` on the entries `es`, with the frame that is returned. -/
def getFrom (b : JitterBuffer) : List JitterBufferEntry → Option Frameout × JitterBuffer
  | [] => (none, { b with buffer := [] })
  | front :: rest =>
      if ((front :: rest).length : ℤ) < b.targetDepth then
        (none, { b with buffer := front :: rest })
      else
        match b.nextSeq with
        | none =>
            (some (.entry front),
              { b with
                buffer := rest
                nextSeq := some ((front.sequenceNumber + 1) % 65536)
                packetsPlayed := b.packetsPlayed + 1 })
        | some next =>
            let diff := ((front.sequenceNumber : ℤ) - next) % 65536
            if diff > 0x8000 then getFrom { b with packetsLate := b.packetsLate + 1 } rest
            else if diff > 0 then
              (some .lost,
                { b with
                  buffer := front :: rest
                  packetsLost := b.packetsLost + 1
                  nextSeq := some ((next + 1) % 65536) })
            else
              (some (.entry front),
                { b with
                  buffer := rest
                  nextSeq := some ((front.sequenceNumber + 1) % 65536)
                  packetsPlayed := b.packetsPlayed + 1 })

/-- The frame `get()` returns. -/
def getFrame (b : JitterBuffer) : Option Frameout × JitterBuffer := b.getFrom b.buffer

/-- `get()`. -/
def get (b : JitterBuffer) : Option Bytes × JitterBuffer :=
  (b.getFrame.1.map Frameout.payload, b.getFrame.2)

/-- `reset()`. -/
def reset (b : JitterBuffer) : JitterBuffer := { b with buffer := [], nextSeq := none }

end JitterBuffer

/-! ### Runs -/

/-- A call on the buffer. -/
inductive JitterCall
  | put (packet : RTPPacket)
  | get

namespace JitterBuffer

/-- The packets of the `put` calls, in order. -/
def received : List JitterCall → List RTPPacket
  | [] => []
  | .put packet :: calls => packet :: received calls
  | .get :: calls => received calls

/-- The frames that the `get` calls of a run return, in order. -/
def frames : JitterBuffer → List JitterCall → List Frameout
  | _, [] => []
  | b, .put packet :: calls => frames ((put packet).run b).2 calls
  | b, .get :: calls => b.getFrame.1.toList ++ frames b.getFrame.2 calls

/-- What the `get` calls of a run return, without the `None`s. -/
def results : JitterBuffer → List JitterCall → List Bytes
  | _, [] => []
  | b, .put packet :: calls => results ((put packet).run b).2 calls
  | b, .get :: calls => b.get.1.toList ++ results b.get.2 calls

theorem results_eq (b : JitterBuffer) (calls : List JitterCall) :
    b.results calls = (b.frames calls).map Frameout.payload := by
  induction calls generalizing b with
  | nil => rfl
  | cons call calls ih =>
      cases call with
      | put packet => exact ih _
      | get =>
          have htail : b.get.2.results calls = (b.getFrame.2.frames calls).map Frameout.payload := ih _
          simp only [results, frames, List.map_append, htail]
          congr 1
          cases hframe : b.getFrame.1 <;> simp [get, hframe]

/-! ### The invariant -/

end JitterBuffer

/-- The entry is the packet of `rs` it says it came with. -/
def JitterBufferEntry.Of (rs : List RTPPacket) (e : JitterBufferEntry) : Prop :=
  ∃ packet, rs[e.reception]? = some packet ∧ packet.sequenceNumber = e.sequenceNumber ∧
    packet.payload = e.payload

/-- A frame with number `n`: a loss, or a packet of `rs` with this number. -/
def Frameout.Numbered (rs : List RTPPacket) (n : ℕ) : Frameout → Prop
  | .lost => True
  | .entry e => e.Of rs ∧ e.sequenceNumber = n

theorem JitterBufferEntry.Of.mono {rs : List RTPPacket} {e : JitterBufferEntry} (h : e.Of rs)
    (more : List RTPPacket) : e.Of (rs ++ more) := by
  obtain ⟨packet, hget, hseq⟩ := h
  have hlt := (List.getElem?_eq_some_iff.mp hget).1
  exact ⟨packet, by rw [List.getElem?_append_left hlt, hget], hseq⟩

theorem JitterBufferEntry.Of.lt {rs : List RTPPacket} {e : JitterBufferEntry} (h : e.Of rs) :
    e.reception < rs.length := by
  obtain ⟨packet, hget, -⟩ := h
  exact (List.getElem?_eq_some_iff.mp hget).1

theorem Frameout.Numbered.mono {rs : List RTPPacket} {n : ℕ} {f : Frameout} (h : f.Numbered rs n)
    (more : List RTPPacket) : f.Numbered (rs ++ more) n := by
  cases f with
  | lost => trivial
  | entry e => exact ⟨h.1.mono more, h.2⟩

namespace JitterBuffer

/-- **The invariant** after the packets `rs` have come in and the frames `fs` have gone out:
`nextSeq` is the number of the first packet plus the number of frames, every entry is a received
packet, and no reception is twice in the buffer or among the frames. -/
structure Faithful (b : JitterBuffer) (rs : List RTPPacket) (fs : List Frameout) : Prop where
  counted : b.packetsReceived = rs.length
  next : b.nextSeq = rs.head?.map fun first => (first.sequenceNumber + fs.length) % 65536
  entries : ∀ e ∈ b.buffer, e.Of rs
  numbered : ∀ (k : ℕ) (f : Frameout), fs[k]? = some f → ∃ first ∈ rs.head?,
    f.Numbered rs ((first.sequenceNumber + k) % 65536)
  distinct : (b.buffer.map JitterBufferEntry.reception ++ fs.filterMap Frameout.reception).Nodup

namespace Faithful

variable {b : JitterBuffer} {rs : List RTPPacket} {fs : List Frameout}

theorem start (minDepth : ℤ) (maxDepth : ℕ) (targetDepth : ℤ) :
    Faithful { minDepth, maxDepth, targetDepth } [] [] where
  counted := rfl
  next := rfl
  entries := by intro e he; cases he
  numbered := by intro k f hf; cases hf
  distinct := List.nodup_nil

theorem no_frames (h : b.Faithful [] fs) : fs = [] := by
  cases fs with
  | nil => rfl
  | cons f fs =>
      obtain ⟨first, hfirst, -⟩ := h.numbered 0 f rfl
      cases hfirst

theorem played_lt (h : b.Faithful rs fs) {i : ℕ} (hi : i ∈ fs.filterMap Frameout.reception) :
    i < rs.length := by
  obtain ⟨f, hf, hrec⟩ := List.mem_filterMap.mp hi
  obtain ⟨k, hk⟩ := List.mem_iff_getElem?.mp hf
  obtain ⟨first, -, hnum⟩ := h.numbered k f hk
  cases f with
  | lost => cases hrec
  | entry e =>
      obtain rfl : e.reception = i := Option.some.inj hrec
      exact hnum.1.lt

/-- Dropping entries, and counting anything but received packets, keeps the invariant. -/
theorem sublist {b' : JitterBuffer} (h : b.Faithful rs fs) (hsub : b'.buffer.Sublist b.buffer)
    (hnext : b'.nextSeq = b.nextSeq) (hcount : b'.packetsReceived = b.packetsReceived) :
    b'.Faithful rs fs where
  counted := hcount.trans h.counted
  next := hnext.trans h.next
  entries := fun e he => h.entries e (hsub.subset he)
  numbered := h.numbered
  distinct := h.distinct.sublist ((hsub.map _).append_right _)

theorem receive (h : b.Faithful rs fs) (packet : RTPPacket) :
    (b.receive packet).Faithful (rs ++ [packet]) fs where
  counted := by simp [JitterBuffer.receive, h.counted]
  next := by
    cases rs with
    | nil =>
        have hnone : b.nextSeq = none := h.next
        simp [JitterBuffer.receive, hnone, h.no_frames, Nat.mod_eq_of_lt packet.valid]
    | cons first rest => simp [JitterBuffer.receive, h.next]
  entries := fun e he => (h.entries e he).mono [packet]
  numbered := by
    intro k f hf
    obtain ⟨first, hfirst, hnum⟩ := h.numbered k f hf
    refine ⟨first, ?_, hnum.mono [packet]⟩
    cases rs with
    | nil => cases hfirst
    | cons r rs => exact hfirst
  distinct := h.distinct

end Faithful

/-- Insertion keeps the old entries and adds the new one, less what it evicts. -/
theorem insertSorted_subperm {b : JitterBuffer} {entry : JitterBufferEntry}
    {buffer : List JitterBufferEntry} (h : b.insertSorted entry = .ok buffer) :
    buffer.Subperm (entry :: b.buffer) := by
  unfold insertSorted at h
  split at h
  · next i hi =>
    have hlt : i < b.buffer.length := (List.findIdx?_eq_some_iff_findIdx_eq.mp hi).1
    exact dequeInsert_subperm hlt.le h
  · obtain rfl := Except.ok.inj h
    exact dequeAppend_subperm _ _ _

theorem Faithful.insert {b : JitterBuffer} {rs : List RTPPacket} {fs : List Frameout}
    (h : b.Faithful rs fs) (packet : RTPPacket) {buffer : List JitterBufferEntry}
    (hins : (b.receive packet).insertSorted ((b.receive packet).entryOf packet) = .ok buffer) :
    ({ b.receive packet with buffer := buffer } : JitterBuffer).Faithful (rs ++ [packet]) fs := by
  have hnew := h.receive packet
  have hrec : ((b.receive packet).entryOf packet).reception = rs.length := by
    simp [entryOf, JitterBuffer.receive, h.counted]
  have hsub := insertSorted_subperm hins
  refine ⟨hnew.counted, hnew.next, ?_, hnew.numbered, ?_⟩
  · intro e he
    rcases List.mem_cons.mp (hsub.subset he) with rfl | hold
    · exact ⟨packet, by rw [hrec]; simp, rfl, rfl⟩
    · exact hnew.entries e hold
  · have hcons : (((b.receive packet).entryOf packet :: b.buffer).map JitterBufferEntry.reception ++
        fs.filterMap Frameout.reception).Nodup := by
      refine List.nodup_cons.mpr ⟨?_, h.distinct⟩
      rw [hrec]
      intro hmem
      rcases List.mem_append.mp hmem with hold | hplayed
      · obtain ⟨e, he, heq⟩ := List.mem_map.mp hold
        exact absurd (h.entries e he).lt (by omega)
      · exact absurd (h.played_lt hplayed) (by omega)
    obtain ⟨kept, hperm, hkept⟩ := hsub
    have hkeep := hcons.sublist ((hkept.map JitterBufferEntry.reception).append_right _)
    exact ((hperm.map _).append_right _).nodup_iff.mp hkeep

/-- What `put` does to the buffer, whether it returns or raises. -/
theorem Faithful.put {b : JitterBuffer} {rs : List RTPPacket} {fs : List Frameout}
    (h : b.Faithful rs fs) (packet : RTPPacket) :
    ((JitterBuffer.put packet).run b).2.Faithful (rs ++ [packet]) fs := by
  unfold JitterBuffer.put
  rw [Py.run_modify_bind, Py.run_get_bind]
  split
  · exact (h.receive packet).sublist (List.Sublist.refl _) rfl rfl
  · cases hins : (b.receive packet).insertSorted ((b.receive packet).entryOf packet) with
    | error e => exact h.receive packet
    | ok buffer => exact h.insert packet hins

/-- A frame goes out with the number `nextSeq`, and `nextSeq` moves on by one. -/
theorem Faithful.emit {b b' : JitterBuffer} {rs : List RTPPacket} {fs : List Frameout}
    (h : b.Faithful rs fs) {next : ℕ} (hnext : b.nextSeq = some next) {f : Frameout}
    (hnum : f.Numbered rs next) (hnext' : b'.nextSeq = some ((next + 1) % 65536))
    (hcount : b'.packetsReceived = b.packetsReceived)
    (hentries : (b'.buffer.map JitterBufferEntry.reception ++ f.reception.toList).Perm
      (b.buffer.map JitterBufferEntry.reception))
    (hsub : b'.buffer.Sublist b.buffer) : b'.Faithful rs (fs ++ [f]) := by
  obtain ⟨first, hfirst, hval⟩ := Option.map_eq_some_iff.mp (h.next.symm.trans hnext)
  refine ⟨hcount.trans h.counted, ?_, fun e he => h.entries e (hsub.subset he), ?_, ?_⟩
  · rw [hnext', hfirst]
    simp only [Option.map_some, List.length_append, List.length_singleton, Option.some.injEq]
    omega
  · intro k g hg
    rw [List.getElem?_append] at hg
    split at hg
    · exact h.numbered k g hg
    · next hk =>
      obtain ⟨hlt, rfl⟩ := List.getElem?_eq_some_iff.mp hg
      have hk' : k = fs.length := by
        have : k - fs.length < 1 := hlt
        omega
      subst hk'
      refine ⟨first, hfirst, ?_⟩
      rw [hval]
      simpa using hnum
  · have hperm : (b'.buffer.map JitterBufferEntry.reception ++
        (fs ++ [f]).filterMap Frameout.reception).Perm
        (b.buffer.map JitterBufferEntry.reception ++ fs.filterMap Frameout.reception) := by
      have hlast : (fs ++ [f]).filterMap Frameout.reception =
          fs.filterMap Frameout.reception ++ f.reception.toList := by
        cases hf : f.reception <;> simp [List.filterMap_append, hf]
      rw [hlast]
      refine (List.perm_append_comm.append_left _).trans ?_
      rw [← List.append_assoc]
      exact hentries.append_right _
    exact hperm.nodup_iff.mpr h.distinct

/-- What `get` does on the entries `es`: late ones go, then a frame goes out or none. -/
theorem Faithful.getFrom {rs : List RTPPacket} {fs : List Frameout} (es : List JitterBufferEntry)
    {b : JitterBuffer} (h : ({ b with buffer := es } : JitterBuffer).Faithful rs fs) :
    (b.getFrom es).2.Faithful rs (fs ++ (b.getFrom es).1.toList) := by
  induction es generalizing b with
  | nil => simpa [JitterBuffer.getFrom] using h
  | cons front rest ih =>
      unfold JitterBuffer.getFrom
      split
      · simpa using h
      cases hnext : b.nextSeq with
      | none =>
          obtain ⟨packet, hget, -⟩ := h.entries front (List.mem_cons_self ..)
          have hrs : rs.head? = none := Option.map_eq_none_iff.mp (h.next.symm.trans hnext)
          rw [List.head?_eq_none_iff.mp hrs] at hget
          cases hget
      | some next =>
          have hlt : next < 65536 := by
            obtain ⟨first, -, hval⟩ := Option.map_eq_some_iff.mp (h.next.symm.trans hnext)
            omega
          obtain ⟨packet, hget, hseq, hpayload⟩ := h.entries front (List.mem_cons_self ..)
          have hfront : front.sequenceNumber < 65536 := hseq ▸ packet.valid
          dsimp only
          split
          · exact ih (h.sublist (List.sublist_cons_self front rest) hnext.symm rfl)
          split
          · exact h.emit hnext trivial rfl rfl (by simp [Frameout.reception])
              (List.Sublist.refl _)
          · have heq : front.sequenceNumber = next := by omega
            refine h.emit hnext ⟨⟨packet, hget, hseq, hpayload⟩, heq⟩ (by rw [← heq]) rfl ?_
              (List.sublist_cons_self front rest)
            simp [Frameout.reception]

theorem Faithful.getFrame {b : JitterBuffer} {rs : List RTPPacket} {fs : List Frameout}
    (h : b.Faithful rs fs) : b.getFrame.2.Faithful rs (fs ++ b.getFrame.1.toList) :=
  Faithful.getFrom b.buffer h

/-- The state after a run. -/
def after : JitterBuffer → List JitterCall → JitterBuffer
  | b, [] => b
  | b, .put packet :: calls => after ((put packet).run b).2 calls
  | b, .get :: calls => after b.getFrame.2 calls

theorem Faithful.run {b : JitterBuffer} {rs : List RTPPacket} {fs : List Frameout}
    (h : b.Faithful rs fs) (calls : List JitterCall) :
    (b.after calls).Faithful (rs ++ received calls) (fs ++ b.frames calls) := by
  induction calls generalizing b rs fs with
  | nil => simpa [after, received, frames] using h
  | cons call calls ih =>
      cases call with
      | put packet => simpa [after, received, frames] using ih (h.put packet)
      | get => simpa [after, received, frames] using ih h.getFrame

/-- **The jitter buffer plays a faithful stream.**  In every run of `put` and `get` calls on a new
buffer, the `k`-th result that is not `None` is the empty frame or the payload of a received packet
whose number is that of the first packet plus `k`, and no reception is played twice. -/
theorem faithful_stream (minDepth : ℤ) (maxDepth : ℕ) (targetDepth : ℤ) (calls : List JitterCall) :
    (∀ (k : ℕ) (r : Bytes),
      (results { minDepth, maxDepth, targetDepth } calls)[k]? = some r →
        ∃ first ∈ (received calls).head?, r = [] ∨ ∃ packet ∈ received calls,
          packet.sequenceNumber = (first.sequenceNumber + k) % 65536 ∧ r = packet.payload) ∧
      (∀ (k : ℕ) (e : JitterBufferEntry),
        (frames { minDepth, maxDepth, targetDepth } calls)[k]? = some (.entry e) →
          e.Of (received calls)) ∧
      ((frames { minDepth, maxDepth, targetDepth } calls).filterMap Frameout.reception).Nodup := by
  have h := (Faithful.start minDepth maxDepth targetDepth).run calls
  rw [List.nil_append, List.nil_append] at h
  refine ⟨?_, ?_, (List.nodup_append.mp h.distinct).2.1⟩
  · intro k r hr
    rw [results_eq, List.getElem?_map] at hr
    obtain ⟨f, hf, rfl⟩ := Option.map_eq_some_iff.mp hr
    obtain ⟨first, hfirst, hnum⟩ := h.numbered k f hf
    refine ⟨first, hfirst, ?_⟩
    cases f with
    | lost => exact Or.inl rfl
    | entry e =>
        obtain ⟨⟨packet, hget, hseq, hpayload⟩, hnum⟩ := hnum
        exact Or.inr ⟨packet, List.mem_of_getElem? hget, hseq.trans hnum, hpayload.symm⟩
  · intro k e hf
    obtain ⟨first, -, hnum⟩ := h.numbered k _ hf
    exact hnum.1

end JitterBuffer

end VirtualPhone
