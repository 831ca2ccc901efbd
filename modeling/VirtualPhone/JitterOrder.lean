import VirtualPhone.JitterAccount
import Mathlib.Data.List.Sort

/-! # The order of the jitter buffer

The entries of `JitterBuffer` are sorted by their plain sequence numbers, and consumed in the order of
these numbers modulo `2 ^ 16`.

`no_false_loss_iff` is about every state that calls can lead to.  The two orders agree except where the
buffer reaches over the wrap-around: there the front entry is ahead of the expected one, which waits
behind it and is reported as lost.  Nothing is dropped as late that is not behind.

`reordering_harmless` is about packets that arrive in two different orders: the buffers, and all that is
taken out of them, are the same. -/

namespace VirtualPhone

open Runtime

/-! ### Insertion by a key -/

section Keys

variable {α : Type} (key : α → ℕ)

/-- Inserted before the first entry with a greater key, a new key keeps the order. -/
theorem pairwise_insertIdx {l : List α} {x : α} {i : ℕ} (hsorted : l.Pairwise fun a b => key a < key b)
    (hnew : ∀ a ∈ l, key a ≠ key x) (hfind : l.findIdx? (fun a => decide (key x < key a)) = some i) :
    (l.insertIdx i x).Pairwise fun a b => key a < key b := by
  induction l generalizing i with
  | nil => cases hfind
  | cons y l ih =>
      obtain ⟨hy, hl⟩ := List.pairwise_cons.mp hsorted
      rw [List.findIdx?_cons] at hfind
      split at hfind
      · next hlt =>
          obtain rfl := Option.some.inj hfind
          have hxy : key x < key y := of_decide_eq_true hlt
          refine List.pairwise_cons.mpr ⟨fun a ha => ?_, hsorted⟩
          rcases List.mem_cons.mp ha with rfl | ha
          · exact hxy
          · exact hxy.trans (hy a ha)
      · next hlt =>
          obtain ⟨j, hj, rfl⟩ := Option.map_eq_some_iff.mp hfind
          have hyx : key y < key x := by
            have hne := hnew y List.mem_cons_self
            have hle : ¬key x < key y := fun h => hlt (decide_eq_true h)
            omega
          have hlen : j ≤ l.length := (List.findIdx?_eq_some_iff_findIdx_eq.mp hj).1.le
          rw [List.insertIdx_succ_cons]
          refine List.pairwise_cons.mpr ⟨fun a ha => ?_, ih hl (fun a ha => hnew a (.tail _ ha)) hj⟩
          rcases List.mem_cons.mp ((List.perm_insertIdx x l hlen).mem_iff.mp ha) with rfl | ha
          · exact hyx
          · exact hy a ha

theorem pairwise_append_new {l : List α} {x : α} (hsorted : l.Pairwise fun a b => key a < key b)
    (hnew : ∀ a ∈ l, key a ≠ key x) (hfind : l.findIdx? (fun a => decide (key x < key a)) = none) :
    (l ++ [x]).Pairwise fun a b => key a < key b := by
  refine List.pairwise_append.mpr ⟨hsorted, List.pairwise_singleton _ _, fun a ha b hb => ?_⟩
  obtain rfl := List.mem_singleton.mp hb
  have hne := hnew a ha
  have hle : ¬key b < key a := by simpa using List.findIdx?_eq_none_iff.mp hfind a ha
  omega

end Keys

namespace JitterBuffer

/-! ### States that can be reached -/

/-- What `put`, `get` and `reset` make of a new buffer. -/
inductive Reachable : JitterBuffer → Prop
  | new (minDepth : ℤ) (maxDepth : ℕ) (targetDepth : ℤ) : Reachable (new minDepth maxDepth targetDepth)
  | put {b : JitterBuffer} (packet : RTPPacket) (h : Reachable b) : Reachable ((put packet).run b).2
  | get {b : JitterBuffer} (h : Reachable b) : Reachable b.get.2
  | reset {b : JitterBuffer} (h : Reachable b) : Reachable b.reset

/-- **The invariant**: the entries are sorted by their numbers, all numbers have sixteen bits, and a
buffer with an entry expects a number. -/
structure Ordered (b : JitterBuffer) : Prop where
  sorted : b.buffer.Pairwise fun e f => e.sequenceNumber < f.sequenceNumber
  bound : ∀ e ∈ b.buffer, e.sequenceNumber < 65536
  next : ∀ n ∈ b.nextSeq, n < 65536
  started : b.nextSeq = none → b.buffer = []

theorem Ordered.sublist {b b' : JitterBuffer} (h : b.Ordered) (hsub : b'.buffer.Sublist b.buffer)
    (hnext : ∀ n ∈ b'.nextSeq, n < 65536) (hstarted : b'.nextSeq = none → b'.buffer = []) : b'.Ordered :=
  ⟨h.sorted.sublist hsub, fun e he => h.bound e (hsub.subset he), hnext, hstarted⟩

theorem insertSorted_pairwise {b : JitterBuffer} {entry : JitterBufferEntry}
    {buffer : List JitterBufferEntry}
    (hsorted : b.buffer.Pairwise fun e f => e.sequenceNumber < f.sequenceNumber)
    (hnew : ∀ e ∈ b.buffer, e.sequenceNumber ≠ entry.sequenceNumber)
    (h : b.insertSorted entry = .ok buffer) :
    buffer.Pairwise fun e f => e.sequenceNumber < f.sequenceNumber := by
  unfold insertSorted at h
  split at h
  · next i hi =>
      unfold dequeInsert at h
      split_ifs at h
      obtain rfl := Except.ok.inj h
      exact pairwise_insertIdx _ hsorted hnew hi
  · next hnone =>
      obtain rfl := Except.ok.inj h
      exact (pairwise_append_new _ hsorted hnew hnone).sublist (List.drop_sublist _ _)

theorem Ordered.receive {b : JitterBuffer} (h : b.Ordered) (packet : RTPPacket) :
    (b.receive packet).Ordered := by
  refine ⟨h.sorted, h.bound, fun n hn => ?_, nofun⟩
  obtain rfl := Option.some.inj hn
  cases hnext : b.nextSeq with
  | none => exact packet.valid
  | some next => exact h.next next hnext

theorem Ordered.put {b : JitterBuffer} (h : b.Ordered) (packet : RTPPacket) :
    ((put packet).run b).2.Ordered := by
  have hreceived := h.receive packet
  unfold JitterBuffer.put
  rw [Py.run_modify_bind, Py.run_get_bind]
  split
  · exact hreceived.sublist (List.Sublist.refl _) hreceived.next hreceived.started
  · next hholds =>
      cases hins : (b.receive packet).insertSorted ((b.receive packet).entryOf packet) with
      | error e => exact hreceived
      | ok buffer =>
          rw [holds_iff] at hholds
          refine ⟨insertSorted_pairwise h.sorted (fun e he heq => hholds ⟨e, he, heq⟩) hins, ?_,
            hreceived.next, nofun⟩
          intro e he
          rcases List.mem_cons.mp ((insertSorted_subperm hins).subset he) with rfl | hold
          · exact packet.valid
          · exact h.bound e hold

/-! ### What `get` does -/

/-- The distance of an entry from the expected number, modulo `2 ^ 16`. -/
def ahead (next : ℕ) (e : JitterBufferEntry) : ℤ := ((e.sequenceNumber : ℤ) - next) % 65536

/-- The end of `get`: too few entries are left, or the first of them is not the expected one, or is. -/
inductive GetEnds (target : ℤ) (next : ℕ) (rest : List JitterBufferEntry) :
    Option Frameout → List JitterBufferEntry → ℕ → Prop
  | none (h : (rest.length : ℤ) < target ∨ rest = []) : GetEnds target next rest none rest next
  | lost {front : JitterBufferEntry} {tail : List JitterBufferEntry} (hrest : rest = front :: tail)
      (htarget : target ≤ (rest.length : ℤ)) (hahead : 0 < ahead next front)
      (hlate : ¬0x8000 < ahead next front) :
      GetEnds target next rest (some .lost) rest ((next + 1) % 65536)
  | played {front : JitterBufferEntry} {tail : List JitterBufferEntry} (hrest : rest = front :: tail)
      (hexpected : ahead next front = 0) :
      GetEnds target next rest (some (.entry front)) tail ((front.sequenceNumber + 1) % 65536)

/-- **What `get` does**: it drops entries that are late, and counts them, until it comes to its end. -/
theorem getFrom_spec (es : List JitterBufferEntry) {b : JitterBuffer} {next : ℕ}
    (hnext : b.nextSeq = some next) :
    ∃ dropped rest next', es = dropped ++ rest ∧ (∀ e ∈ dropped, 0x8000 < ahead next e) ∧
      (b.getFrom es).2.packetsLate = b.packetsLate + dropped.length ∧
      (b.getFrom es).2.nextSeq = some next' ∧
      GetEnds b.targetDepth next rest (b.getFrom es).1 (b.getFrom es).2.buffer next' := by
  induction es generalizing b with
  | nil => exact ⟨[], [], next, rfl, nofun, rfl, hnext, .none (Or.inr rfl)⟩
  | cons front tail ih =>
      obtain ⟨minDepth, maxDepth, target, buffer, nextSeq, received, played, lost, late, duplicate⟩ := b
      obtain rfl : nextSeq = some next := hnext
      unfold getFrom
      split
      · next hshort => exact ⟨[], front :: tail, next, rfl, nofun, rfl, rfl, .none (Or.inl hshort)⟩
      · next htarget =>
          dsimp only
          split
          · next hlate =>
              obtain ⟨dropped, rest, next', rfl, hdropped, hcount, hnext', hends⟩ := ih
                (b := ⟨minDepth, maxDepth, target, buffer, some next, received, played, lost, late + 1,
                  duplicate⟩) rfl
              refine ⟨front :: dropped, rest, next', rfl, ?_, ?_, hnext', hends⟩
              · intro e he
                rcases List.mem_cons.mp he with rfl | he
                · exact hlate
                · exact hdropped e he
              · rw [hcount, List.length_cons]
                dsimp only
                omega
          · next hlate =>
              split
              · next hahead =>
                  exact ⟨[], front :: tail, _, rfl, nofun, rfl, rfl,
                    .lost rfl (not_lt.mp htarget) hahead hlate⟩
              · next hahead =>
                  refine ⟨[], front :: tail, _, rfl, nofun, rfl, rfl, .played rfl ?_⟩
                  have := Int.emod_nonneg ((front.sequenceNumber : ℤ) - next) (by decide : (65536 : ℤ) ≠ 0)
                  unfold ahead
                  omega

/-- What `get` does to the buffer, with what it returns and what it leaves. -/
theorem getFrame_spec {b : JitterBuffer} {next : ℕ} (hnext : b.nextSeq = some next) :
    ∃ dropped rest frame buffer next', b.buffer = dropped ++ rest ∧
      (∀ e ∈ dropped, 0x8000 < ahead next e) ∧
      b.getFrame.2.packetsLate = b.packetsLate + dropped.length ∧ b.getFrame.1 = frame ∧
      b.getFrame.2.buffer = buffer ∧ b.getFrame.2.nextSeq = some next' ∧
      GetEnds b.targetDepth next rest frame buffer next' := by
  obtain ⟨dropped, rest, next', hbuffer, hlate, hcount, hnext', hends⟩ := getFrom_spec b.buffer hnext
  exact ⟨dropped, rest, _, _, next', hbuffer, hlate, hcount, rfl, rfl, hnext', hends⟩

/-- A buffer that expects no number is empty, and `get` returns nothing. -/
theorem Ordered.get_empty {b : JitterBuffer} (h : b.Ordered) (hnext : b.nextSeq = none) :
    b.getFrame = (none, b) := by
  have hempty := h.started hnext
  rw [getFrame, hempty, getFrom, ← hempty]

theorem Ordered.get {b : JitterBuffer} (h : b.Ordered) : b.get.2.Ordered := by
  show b.getFrame.2.Ordered
  cases hnext : b.nextSeq with
  | none =>
      rw [h.get_empty hnext]
      exact h
  | some next =>
      obtain ⟨dropped, rest, frame, buffer, next', hbuffer, -, -, -, hleft, hnext', hends⟩ :=
        getFrame_spec hnext
      have hrest : rest.Sublist b.buffer := hbuffer ▸ List.sublist_append_right _ _
      have hgone : b.getFrame.2.nextSeq = none → b.getFrame.2.buffer = [] := fun hnone => by
        cases hnext'.symm.trans hnone
      refine h.sublist ?_ (fun n hn => ?_) hgone
      · rw [hleft]
        cases hends with
        | none => exact hrest
        | lost => exact hrest
        | played hfront => exact (List.sublist_cons_self _ _).trans (hfront ▸ hrest)
      · obtain rfl : next' = n := Option.some.inj (hnext'.symm.trans hn)
        cases hends with
        | none => exact h.next next hnext
        | lost => exact Nat.mod_lt _ (by decide)
        | played => exact Nat.mod_lt _ (by decide)

theorem Reachable.ordered {b : JitterBuffer} (h : Reachable b) : b.Ordered := by
  induction h with
  | new => exact ⟨List.Pairwise.nil, nofun, nofun, fun _ => rfl⟩
  | put packet _ ih => exact ih.put packet
  | get _ ih => exact ih.get
  | reset _ ih => exact ⟨List.Pairwise.nil, nofun, nofun, fun _ => rfl⟩

/-! ### Losses -/

/-- The entry is behind the expected number, modulo `2 ^ 16`. -/
def Behind (next : ℕ) (e : JitterBufferEntry) : Prop :=
  0 < ((next : ℤ) - e.sequenceNumber) % 65536 ∧ ((next : ℤ) - e.sequenceNumber) % 65536 < 0x8000

/-- What `get` does to the buffer `b`: it reports a loss only if no entry has the expected number, and
what it drops from the front as late is behind. -/
structure NoFalseLoss (b : JitterBuffer) : Prop where
  loss : b.getFrame.1 = some .lost → ∀ e ∈ b.buffer, b.nextSeq ≠ some e.sequenceNumber
  late : ∃ dropped rest, b.buffer = dropped ++ rest ∧
    b.get.2.packetsLate = b.packetsLate + dropped.length ∧
    (b.get.2.buffer = rest ∨ ∃ e, b.getFrame.1 = some (.entry e) ∧ rest = e :: b.get.2.buffer) ∧
    ∀ e ∈ dropped, ∀ next ∈ b.nextSeq, Behind next e

/-- The buffer reaches over the wrap-around: it is deep enough, the expected number is in it, and the
number of its front entry is at least half a turn lower. -/
def Wrapped (b : JitterBuffer) : Prop :=
  ∃ next ∈ b.nextSeq, ∃ front tail, b.buffer = front :: tail ∧
    b.targetDepth ≤ (b.buffer.length : ℤ) ∧ front.sequenceNumber + 0x8000 ≤ next ∧
    ∃ e ∈ tail, e.sequenceNumber = next

theorem behind_of_late {next : ℕ} {e : JitterBufferEntry} (h : 0x8000 < ahead next e) :
    Behind next e := by
  unfold ahead at h
  unfold Behind
  omega

/-- An entry with a smaller number that is not late is on the other side of the wrap-around. -/
theorem not_late_iff {next : ℕ} {e : JitterBufferEntry} (hnext : next < 65536)
    (hlt : e.sequenceNumber < next) : ¬0x8000 < ahead next e ↔ e.sequenceNumber + 0x8000 ≤ next := by
  have hahead : ahead next e = e.sequenceNumber - next + 65536 := by
    rw [ahead, ← Int.add_emod_right]
    exact Int.emod_eq_of_lt (by omega) (by omega)
  rw [hahead]
  omega

theorem Ordered.drops_late {b : JitterBuffer} (h : b.Ordered) :
    ∃ dropped rest, b.buffer = dropped ++ rest ∧
      b.get.2.packetsLate = b.packetsLate + dropped.length ∧
      (b.get.2.buffer = rest ∨ ∃ e, b.getFrame.1 = some (.entry e) ∧ rest = e :: b.get.2.buffer) ∧
      ∀ e ∈ dropped, ∀ next ∈ b.nextSeq, Behind next e := by
  show ∃ dropped rest, b.buffer = dropped ++ rest ∧
    b.getFrame.2.packetsLate = b.packetsLate + dropped.length ∧
    (b.getFrame.2.buffer = rest ∨ ∃ e, b.getFrame.1 = some (.entry e) ∧ rest = e :: b.getFrame.2.buffer) ∧
    ∀ e ∈ dropped, ∀ next ∈ b.nextSeq, Behind next e
  cases hnext : b.nextSeq with
  | none =>
      rw [h.get_empty hnext]
      exact ⟨[], b.buffer, rfl, rfl, Or.inl rfl, nofun⟩
  | some next =>
      obtain ⟨dropped, rest, frame, buffer, next', hbuffer, hlate, hcount, hframe, hleft, -, hends⟩ :=
        getFrame_spec hnext
      refine ⟨dropped, rest, hbuffer, hcount, ?_, fun e he n hn => ?_⟩
      · rw [hframe, hleft]
        cases hends with
        | none => exact Or.inl rfl
        | lost => exact Or.inl rfl
        | played hrest => exact Or.inr ⟨_, rfl, hrest⟩
      · obtain rfl := Option.some.inj hn
        exact behind_of_late (hlate e he)

/-- **A false loss**: `get` reports one for an entry that is in the buffer exactly when the buffer
reaches over the wrap-around. -/
theorem Ordered.false_loss_iff {b : JitterBuffer} (h : b.Ordered) :
    (b.getFrame.1 = some .lost ∧ ∃ e ∈ b.buffer, b.nextSeq = some e.sequenceNumber) ↔ b.Wrapped := by
  constructor
  · rintro ⟨hlost, e, he, hnext⟩
    have hlt := h.next _ hnext
    obtain ⟨dropped, rest, frame, buffer, next', hbuffer, hlate, -, hframe, -, -, hends⟩ :=
      getFrame_spec hnext
    obtain rfl := hlost.symm.trans hframe
    have hself : ahead e.sequenceNumber e = 0 := by simp [ahead]
    cases hends with
    | @lost front tail hrest htarget hahead hearly =>
        subst hrest
        have hsorted := h.sorted
        rw [hbuffer] at he hsorted
        obtain ⟨-, htail, hdropped⟩ := List.pairwise_append.mp hsorted
        have hin : e ∈ tail := by
          rcases List.mem_append.mp he with he | he
          · have := hlate e he
            omega
          rcases List.mem_cons.mp he with rfl | he
          · omega
          · exact he
        have hfront : front.sequenceNumber < e.sequenceNumber := (List.pairwise_cons.mp htail).1 e hin
        have hfar := (not_late_iff hlt hfront).mp hearly
        have hnone : dropped = [] := by
          refine List.eq_nil_iff_forall_not_mem.mpr fun d hd => ?_
          have hd' : d.sequenceNumber < front.sequenceNumber := hdropped d hd front List.mem_cons_self
          exact (not_late_iff hlt (hd'.trans hfront)).mpr (by omega) (hlate d hd)
        subst hnone
        exact ⟨_, hnext, front, tail, hbuffer, by rwa [hbuffer], hfar, e, hin, rfl⟩
  · rintro ⟨next, hnext, front, tail, hbuffer, htarget, hfar, e, he, rfl⟩
    have hlt := h.next _ hnext
    have hnext' : b.nextSeq = some e.sequenceNumber := hnext
    have hfront : front.sequenceNumber < e.sequenceNumber := by omega
    have hearly : ¬0x8000 < ahead e.sequenceNumber front := (not_late_iff hlt hfront).mpr hfar
    have hahead : 0 < ahead e.sequenceNumber front := by
      unfold ahead
      omega
    rw [hbuffer] at htarget
    refine ⟨?_, e, hbuffer ▸ List.mem_cons_of_mem _ he, hnext⟩
    rw [getFrame, hbuffer, getFrom, if_neg (not_lt.mpr htarget), hnext']
    exact congrArg Prod.fst ((if_neg hearly).trans (if_pos hahead))

/-- **No false loss.**  In every state that calls lead to, `get` reports a loss only if the expected
number is not in the buffer, and drops as late only what is behind, if and only if the buffer does not
reach over the wrap-around. -/
theorem no_false_loss_iff {b : JitterBuffer} (h : b.Reachable) : b.NoFalseLoss ↔ ¬b.Wrapped := by
  have hordered := h.ordered
  rw [← hordered.false_loss_iff]
  constructor
  · rintro hgood ⟨hlost, e, he, hnext⟩
    exact hgood.loss hlost e he hnext
  · intro hno
    exact ⟨fun hlost e he hnext => hno ⟨hlost, e, he, hnext⟩, hordered.drops_late⟩

/-- Packets of a stream that reaches the wrap-around. -/
def testPacket (n : ℕ) : RTPPacket :=
  { sequenceNumber := n % 65536, timestamp := 160 * n, payload := [UInt8.ofNat n]
    valid := sequence_lt n }

/-- Two packets in order, before the wrap-around. -/
theorem no_false_loss_iff_plain :
    ((new 2 10 2).after [.put (testPacket 65534), .put (testPacket 65535)]).NoFalseLoss := by
  refine (no_false_loss_iff ((Reachable.new 2 10 2).put (testPacket 65534) |>.put
    (testPacket 65535))).mpr ?_
  rintro ⟨next, hnext, front, tail, hbuffer, -, hfar, -⟩
  obtain rfl : 65534 = next := Option.some.inj hnext
  obtain ⟨rfl, -⟩ := List.cons.inj (Eq.trans (by rfl) hbuffer)
  exact absurd hfar (by decide)

/-- The expected packet 65535 is in the buffer behind packet 0, and reported as lost. -/
theorem false_loss_at_wrap : ∃ b : JitterBuffer, b.Reachable ∧ b.nextSeq = some 65535 ∧
    b.buffer.map JitterBufferEntry.sequenceNumber = [0, 65535] ∧ b.get.1 = some [] ∧ ¬b.NoFalseLoss := by
  refine ⟨_, (Reachable.new 2 10 2).put (testPacket 65535) |>.put (testPacket 65536), by decide,
    by decide, by decide, fun h => ?_⟩
  exact h.loss (by decide) _ (List.mem_cons_of_mem _ List.mem_cons_self) rfl

/-! ### Two orders of arrival -/

/-- What an entry is, without the call it came with. -/
def view (e : JitterBufferEntry) : ℕ × ℕ × Bytes := (e.sequenceNumber, e.timestamp, e.payload)

/-- The entry of a packet, seen in the same way. -/
def packetView (packet : RTPPacket) : ℕ × ℕ × Bytes :=
  (packet.sequenceNumber, packet.timestamp, packet.payload)

/-- What `k` calls of `get` return, and the buffer after them. -/
def gets : ℕ → JitterBuffer → List (Option Bytes) × JitterBuffer
  | 0, b => ([], b)
  | k + 1, b => (b.get.1 :: (gets k b.get.2).1, (gets k b.get.2).2)

/-- Two buffers that differ in nothing that `get` reads or counts. -/
structure Alike (b b' : JitterBuffer) : Prop where
  target : b.targetDepth = b'.targetDepth
  buffer : b.buffer.map view = b'.buffer.map view
  next : b.nextSeq = b'.nextSeq
  played : b.packetsPlayed = b'.packetsPlayed
  lost : b.packetsLost = b'.packetsLost
  late : b.packetsLate = b'.packetsLate

theorem put_new {b : JitterBuffer} {packet : RTPPacket}
    (hsorted : b.buffer.Pairwise fun e f => e.sequenceNumber < f.sequenceNumber)
    (hnew : ¬b.Holds packet) (hroom : b.depth < b.maxlen) :
    ∃ buffer, ((put packet).run b).2 = { b.receive packet with buffer := buffer } ∧
      (buffer.map view).Perm (packetView packet :: b.buffer.map view) ∧
      buffer.Pairwise fun e f => e.sequenceNumber < f.sequenceNumber := by
  obtain ⟨buffer, hins, hlength⟩ := insertSorted_fits (b := b.receive packet) hroom
    ((b.receive packet).entryOf packet)
  refine ⟨buffer, ?_, ?_, ?_⟩
  · unfold put
    rw [Py.run_modify_bind, Py.run_get_bind,
      if_neg fun hany => hnew ((holds_iff (b.receive packet) packet).mp hany), hins]
    rfl
  · have hperm : buffer.Perm ((b.receive packet).entryOf packet :: b.buffer) :=
      (insertSorted_subperm hins).perm_of_length_le (by rw [hlength, List.length_cons]; exact le_refl _)
    exact hperm.map view
  · exact insertSorted_pairwise hsorted (fun e he heq => hnew ⟨e, he, heq⟩) hins

/-- **Packets that are put one after the other**; the induction is on the packets. -/
theorem after_puts (packets : List RTPPacket) {b : JitterBuffer}
    (hsorted : b.buffer.Pairwise fun e f => e.sequenceNumber < f.sequenceNumber)
    (hdistinct : (b.buffer.map JitterBufferEntry.sequenceNumber ++
      packets.map RTPPacket.sequenceNumber).Nodup)
    (hroom : b.depth + packets.length ≤ b.maxlen) :
    let b' := b.after (packets.map JitterCall.put)
    (b'.buffer.map view).Perm (packets.map packetView ++ b.buffer.map view) ∧
      (b'.buffer.Pairwise fun e f => e.sequenceNumber < f.sequenceNumber) ∧
      b'.targetDepth = b.targetDepth ∧
      b'.nextSeq = b.nextSeq.or (packets.head?.map RTPPacket.sequenceNumber) ∧
      b'.packetsPlayed = b.packetsPlayed ∧ b'.packetsLost = b.packetsLost ∧
      b'.packetsLate = b.packetsLate := by
  induction packets generalizing b with
  | nil => exact ⟨List.Perm.refl _, hsorted, rfl, (Option.or_none).symm, rfl, rfl, rfl⟩
  | cons packet packets ih =>
      rw [List.length_cons] at hroom
      have hnew : ¬b.Holds packet := by
        rintro ⟨e, he, heq⟩
        exact (List.nodup_append.mp hdistinct).2.2 _ (List.mem_map_of_mem he) _ List.mem_cons_self heq
      obtain ⟨buffer, hput, hperm, hpairwise⟩ := put_new hsorted hnew (by omega)
      have hnumbers : (buffer.map JitterBufferEntry.sequenceNumber).Perm
          (packet.sequenceNumber :: b.buffer.map JitterBufferEntry.sequenceNumber) := by
        have := hperm.map Prod.fst
        rwa [List.map_cons, List.map_map, List.map_map] at this
      have hdistinct' : (buffer.map JitterBufferEntry.sequenceNumber ++
          packets.map RTPPacket.sequenceNumber).Nodup := by
        refine ((hnumbers.append_right _).trans ?_).nodup_iff.mpr hdistinct
        exact (List.perm_middle (a := packet.sequenceNumber)).symm
      have hlength : buffer.length = b.buffer.length + 1 := by
        have := hnumbers.length_eq
        rwa [List.length_map, List.length_cons, List.length_map] at this
      obtain ⟨hviews, hpairwise', htarget, hnext, hplayed, hlost, hlate⟩ :=
        ih (b := { b.receive packet with buffer := buffer }) hpairwise hdistinct'
          (by simp only [depth, hlength] at hroom ⊢; exact le_trans (by omega) hroom)
      intro b'
      have hb' : b' = ({ b.receive packet with buffer := buffer } : JitterBuffer).after
          (packets.map JitterCall.put) := by
        show after ((put packet).run b).2 (packets.map JitterCall.put) = _
        rw [hput]
      rw [hb']
      refine ⟨?_, hpairwise', htarget, hnext.trans ?_, hplayed, hlost, hlate⟩
      · refine hviews.trans ((hperm.append_left _).trans ?_)
        exact List.perm_middle
      · show (some (b.nextSeq.getD packet.sequenceNumber)).or _ = _
        cases b.nextSeq <;> rfl

/-- **`get` on buffers that are alike**: it returns the same, and leaves buffers that are alike. -/
theorem getFrom_alike (es es' : List JitterBufferEntry) {b b' : JitterBuffer}
    (h : Alike { b with buffer := es } { b' with buffer := es' }) :
    (b.getFrom es).1.map Frameout.payload = (b'.getFrom es').1.map Frameout.payload ∧
      Alike (b.getFrom es).2 (b'.getFrom es').2 := by
  induction es generalizing b b' es' with
  | nil =>
      have hbuffer : [] = es'.map view := h.buffer
      obtain rfl := List.map_eq_nil_iff.mp hbuffer.symm
      exact ⟨rfl, h⟩
  | cons front rest ih =>
      cases es' with
      | nil => cases h.buffer
      | cons front' rest' =>
          obtain ⟨minDepth, maxDepth, target, buffer, next, received, played, lost, late, duplicate⟩ := b
          obtain ⟨minDepth', maxDepth', target', buffer', next', received', played', lost', late',
            duplicate'⟩ := b'
          obtain ⟨htarget, hbuffer, hnext, hplayed, hlost, hlate⟩ := h
          dsimp only at htarget hnext hplayed hlost hlate
          subst htarget hnext hplayed hlost hlate
          obtain ⟨hfront, hrest⟩ := List.cons.inj hbuffer
          have hseq : front.sequenceNumber = front'.sequenceNumber := congrArg Prod.fst hfront
          have hpayload : front.payload = front'.payload := congrArg (fun v => v.2.2) hfront
          have hlength : (front :: rest).length = (front' :: rest').length := by
            have := congrArg List.length hbuffer
            rwa [List.length_map, List.length_map] at this
          unfold getFrom
          rw [hlength]
          split
          · exact ⟨rfl, rfl, hbuffer, rfl, rfl, rfl, rfl⟩
          cases next with
          | none =>
              dsimp only
              exact ⟨congrArg some hpayload, rfl, hrest, by rw [hseq], rfl, rfl, rfl⟩
          | some next =>
              dsimp only
              rw [hseq]
              split
              · exact ih rest' ⟨rfl, hrest, rfl, rfl, rfl, rfl⟩
              split
              · exact ⟨rfl, rfl, hbuffer, rfl, rfl, rfl, rfl⟩
              · exact ⟨congrArg some hpayload, rfl, hrest, rfl, rfl, rfl, rfl⟩

theorem gets_alike (k : ℕ) {b b' : JitterBuffer} (h : Alike b b') :
    (gets k b).1 = (gets k b').1 ∧ Alike (gets k b).2 (gets k b').2 := by
  induction k generalizing b b' with
  | zero => exact ⟨rfl, h⟩
  | succ k ih =>
      obtain ⟨hframe, halike⟩ := getFrom_alike b.buffer b'.buffer h
      obtain ⟨hframes, hlast⟩ := @ih b.get.2 b'.get.2 halike
      exact ⟨congrArg₂ List.cons hframe hframes, hlast⟩

theorem views_eq {es es' : List JitterBufferEntry}
    (hsorted : es.Pairwise fun e f => e.sequenceNumber < f.sequenceNumber)
    (hsorted' : es'.Pairwise fun e f => e.sequenceNumber < f.sequenceNumber)
    (hperm : (es.map view).Perm (es'.map view)) : es.map view = es'.map view := by
  have hviews : ∀ l : List JitterBufferEntry,
      (l.Pairwise fun e f => e.sequenceNumber < f.sequenceNumber) →
      (l.map view).Pairwise fun v w => v.1 < w.1 := fun l hl => List.pairwise_map.mpr hl
  exact hperm.eq_of_pairwise (fun _ _ _ _ hlt hgt => absurd hgt (Nat.lt_asymm hlt))
    (hviews es hsorted) (hviews es' hsorted')

/-- **Reordering.**  At most `2 * max_depth` packets with different numbers, put into new buffers in two
orders that begin with the same packet, make the same buffer, and any number of `get` calls then return
the same and leave the same counts of played, lost and late packets. -/
theorem reordering_harmless (minDepth : ℤ) (maxDepth : ℕ) (targetDepth : ℤ)
    {packets packets' : List RTPPacket} (hperm : packets.Perm packets')
    (hfirst : packets.head? = packets'.head?) (hcount : packets.length ≤ 2 * maxDepth)
    (hdistinct : (packets.map RTPPacket.sequenceNumber).Nodup) (k : ℕ) :
    let b := (new minDepth maxDepth targetDepth).after (packets.map JitterCall.put)
    let b' := (new minDepth maxDepth targetDepth).after (packets'.map JitterCall.put)
    b.buffer.map view = b'.buffer.map view ∧ (gets k b).1 = (gets k b').1 ∧
      (gets k b).2.packetsPlayed = (gets k b').2.packetsPlayed ∧
      (gets k b).2.packetsLost = (gets k b').2.packetsLost ∧
      (gets k b).2.packetsLate = (gets k b').2.packetsLate := by
  have hroom : ∀ l : List RTPPacket, l.length = packets.length →
      (new minDepth maxDepth targetDepth).depth + l.length ≤ (new minDepth maxDepth targetDepth).maxlen := by
    intro l hl
    show 0 + l.length ≤ maxDepth * 2
    omega
  obtain ⟨hviews, hsorted, htarget, hnext, hplayed, hlost, hlate⟩ := after_puts packets
    (b := new minDepth maxDepth targetDepth) List.Pairwise.nil hdistinct (hroom packets rfl)
  obtain ⟨hviews', hsorted', htarget', hnext', hplayed', hlost', hlate'⟩ := after_puts packets'
    (b := new minDepth maxDepth targetDepth) List.Pairwise.nil
    ((hperm.map RTPPacket.sequenceNumber).nodup_iff.mp hdistinct) (hroom packets' hperm.length_eq.symm)
  intro b b'
  have hbuffer : b.buffer.map view = b'.buffer.map view := by
    refine views_eq hsorted hsorted' (hviews.trans (List.Perm.trans ?_ hviews'.symm))
    exact (hperm.map packetView).append_right _
  have halike : Alike b b' :=
    ⟨htarget.trans htarget'.symm, hbuffer, by rw [hnext, hnext', hfirst], hplayed.trans hplayed'.symm,
      hlost.trans hlost'.symm, hlate.trans hlate'.symm⟩
  obtain ⟨hframes, hlast⟩ := gets_alike k halike
  exact ⟨hbuffer, hframes, hlast.played, hlast.lost, hlast.late⟩

/-- Three packets, the last two in either order. -/
theorem reordering_harmless_three :
    (gets 3 ((new 2 10 1).after ([testPacket 7, testPacket 9, testPacket 8].map JitterCall.put))).1 =
      (gets 3 ((new 2 10 1).after ([testPacket 7, testPacket 8, testPacket 9].map JitterCall.put))).1 :=
  (@reordering_harmless 2 10 1 [testPacket 7, testPacket 9, testPacket 8]
    [testPacket 7, testPacket 8, testPacket 9] (.cons _ (.swap ..)) rfl (by decide) (by decide) 3).2.1

end JitterBuffer

end VirtualPhone
