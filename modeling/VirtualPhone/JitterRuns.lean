import VirtualPhone.JitterOrder

/-! # Runs of the jitter buffer

Any order of `put`, `get` and `reset`, where a `put` may raise an exception half way.  In every state
the entries are in the order of their numbers, the deque keeps its bound, and the two counters of what
has gone out say how many frames were returned.

`get` calls itself again for every entry that is late.  `getWithin` is the method with the number of
calls it may take; one more than there are entries is enough. -/

namespace VirtualPhone

open Runtime

/-- A call on the buffer. -/
inductive BufferCall
  | put (packet : RTPPacket)
  | get
  | reset

namespace JitterBuffer

/-! ### The calls of one `get` -/

/-- `get()` in at most `calls` calls. -/
def getWithin : ℕ → JitterBuffer → Option (Option Bytes × JitterBuffer)
  | 0, _ => none
  | calls + 1, b =>
      if (b.buffer.length : ℤ) < b.targetDepth then some (none, b)
      else
        match b.buffer with
        | [] => some (none, b)
        | front :: rest =>
            let diff (next : ℕ) : ℤ := ((front.sequenceNumber : ℤ) - next) % 65536
            let played : Option Bytes × JitterBuffer :=
              (some front.payload,
                { b with
                  buffer := rest
                  nextSeq := some ((front.sequenceNumber + 1) % 65536)
                  packetsPlayed := b.packetsPlayed + 1 })
            match b.nextSeq with
            | none => some played
            | some next =>
                if diff next > 0x8000 then
                  getWithin calls { b with buffer := rest, packetsLate := b.packetsLate + 1 }
                else if diff next > 0 then
                  some (some [],
                    { b with
                      packetsLost := b.packetsLost + 1
                      nextSeq := some ((next + 1) % 65536) })
                else some played

theorem getFrom_buffer (es other : List JitterBufferEntry) (b : JitterBuffer) :
    ({ b with buffer := other } : JitterBuffer).getFrom es = b.getFrom es := by
  induction es generalizing b with
  | nil => rfl
  | cons front rest ih =>
      obtain ⟨minDepth, maxDepth, target, buffer, nextSeq, received, played, lost, late, duplicate⟩ := b
      unfold getFrom
      dsimp only
      split
      · rfl
      cases nextSeq with
      | none => rfl
      | some next =>
          dsimp only
          split
          · exact ih ⟨minDepth, maxDepth, target, buffer, some next, received, played, lost, late + 1,
              duplicate⟩
          split <;> rfl

theorem getWithin_eq {calls : ℕ} {b : JitterBuffer} (h : b.buffer.length < calls) :
    getWithin calls b = some b.get := by
  obtain ⟨minDepth, maxDepth, target, buffer, nextSeq, received, played, lost, late, duplicate⟩ := b
  induction buffer generalizing calls late with
  | nil =>
      obtain ⟨calls, rfl⟩ : ∃ n, calls = n + 1 := ⟨calls - 1, by omega⟩
      rw [getWithin]
      split <;> rfl
  | cons front rest ih =>
      obtain ⟨calls, rfl⟩ : ∃ n, calls = n + 1 := ⟨calls - 1, by omega⟩
      have hrest : rest.length < calls := by
        simp only [List.length_cons] at h
        omega
      unfold getWithin get getFrame getFrom
      dsimp only
      split
      · rfl
      cases nextSeq with
      | none => rfl
      | some next =>
          dsimp only
          split
          · rw [ih _ hrest, get, getFrame, ← getFrom_buffer rest (front :: rest)]
          split <;> rfl

/-! ### What one call keeps -/

/-- **The invariant** after `count` frames were returned by a buffer made with `maxDepth`. -/
structure Represents (maxDepth count : ℕ) (b : JitterBuffer) : Prop where
  sorted : b.buffer.Pairwise fun e f => e.sequenceNumber < f.sequenceNumber
  made : b.maxDepth = maxDepth
  bounded : b.buffer.length ≤ 2 * maxDepth
  counted : b.packetsPlayed + b.packetsLost = count

theorem insertSorted_bounded {b : JitterBuffer} (h : b.depth ≤ b.maxlen) {entry : JitterBufferEntry}
    {buffer : List JitterBufferEntry} (hins : b.insertSorted entry = .ok buffer) :
    buffer.length ≤ b.maxlen := by
  by_cases hfull : b.maxlen ≤ b.depth
  · exact (insertSorted_full hfull hins).trans h
  · obtain ⟨buffer', hins', hlength⟩ := insertSorted_fits (Nat.lt_of_not_le hfull) entry
    obtain rfl := Except.ok.inj (hins.symm.trans hins')
    omega

/-- What `put` does to the deque and the counters, whether it returns or raises. -/
theorem put_keeps {b : JitterBuffer} (h : b.depth ≤ b.maxlen) (packet : RTPPacket) :
    ((put packet).run b).2.maxDepth = b.maxDepth ∧ ((put packet).run b).2.depth ≤ b.maxlen ∧
      ((put packet).run b).2.packetsPlayed = b.packetsPlayed ∧
      ((put packet).run b).2.packetsLost = b.packetsLost := by
  unfold put
  rw [Py.run_modify_bind, Py.run_get_bind]
  split
  · exact ⟨rfl, h, rfl, rfl⟩
  · cases hins : (b.receive packet).insertSorted ((b.receive packet).entryOf packet) with
    | error e => exact ⟨rfl, h, rfl, rfl⟩
    | ok buffer => exact ⟨rfl, insertSorted_bounded (b := b.receive packet) h hins, rfl, rfl⟩

/-- `get` drops entries from the front, and counts what it returns. -/
theorem getFrom_keeps (es : List JitterBufferEntry) (b : JitterBuffer) :
    (b.getFrom es).2.maxDepth = b.maxDepth ∧ (b.getFrom es).2.buffer.length ≤ es.length ∧
      (b.getFrom es).2.packetsPlayed + (b.getFrom es).2.packetsLost =
        b.packetsPlayed + b.packetsLost + (b.getFrom es).1.toList.length := by
  induction es generalizing b with
  | nil => exact ⟨rfl, le_rfl, rfl⟩
  | cons front rest ih =>
      unfold getFrom
      split
      · exact ⟨rfl, le_rfl, rfl⟩
      cases b.nextSeq with
      | none =>
          refine ⟨rfl, Nat.le_succ _, ?_⟩
          simp only [Option.toList_some, List.length_singleton]
          omega
      | some next =>
          dsimp only
          split
          · obtain ⟨hdepth, hlength, hcount⟩ := ih
              { b with packetsLate := b.packetsLate + 1, nextSeq := some next }
            exact ⟨hdepth, hlength.trans (Nat.le_succ _), hcount⟩
          split
          · refine ⟨rfl, le_rfl, ?_⟩
            simp only [Option.toList_some, List.length_singleton]
            omega
          · refine ⟨rfl, Nat.le_succ _, ?_⟩
            simp only [Option.toList_some, List.length_singleton]
            omega

/-! ### Runs -/

/-- The call on the buffer: the frame a `get` returns, if it is not `None`, and the buffer after it. -/
def call (b : JitterBuffer) : BufferCall → List Bytes × JitterBuffer
  | .put packet => ([], ((put packet).run b).2)
  | .get => (b.get.1.toList, b.get.2)
  | .reset => ([], b.reset)

/-- The frames that the calls return, and the buffer after them. -/
def run (b : JitterBuffer) : List BufferCall → List Bytes × JitterBuffer
  | [] => ([], b)
  | c :: calls => ((b.call c).1 ++ ((b.call c).2.run calls).1, ((b.call c).2.run calls).2)

theorem Reachable.call {b : JitterBuffer} (h : b.Reachable) (c : BufferCall) :
    (b.call c).2.Reachable := by
  cases c with
  | put packet => exact h.put packet
  | get => exact h.get
  | reset => exact h.reset

theorem Represents.call {maxDepth count : ℕ} {b : JitterBuffer} (hreachable : b.Reachable)
    (h : b.Represents maxDepth count) (c : BufferCall) :
    (b.call c).2.Represents maxDepth (count + (b.call c).1.length) := by
  have hsorted := (hreachable.call c).ordered.sorted
  have hbound : b.depth ≤ b.maxlen := by
    have := h.bounded
    rw [maxlen, h.made, depth]
    omega
  cases c with
  | put packet =>
      obtain ⟨hdepth, hlength, hplayed, hlost⟩ := put_keeps hbound packet
      refine ⟨hsorted, hdepth.trans h.made, ?_, ?_⟩
      · rw [maxlen, h.made] at hlength
        exact hlength.trans_eq (Nat.mul_comm _ _)
      · exact (congrArg₂ (· + ·) hplayed hlost).trans h.counted
  | get =>
      obtain ⟨hdepth, hlength, hcount⟩ := getFrom_keeps b.buffer b
      refine ⟨hsorted, hdepth.trans h.made, hlength.trans h.bounded, ?_⟩
      have hreturned : (b.call .get).1.length = (b.getFrom b.buffer).1.toList.length := by
        show (Option.map Frameout.payload b.getFrame.1).toList.length = _
        rw [getFrame]
        cases (b.getFrom b.buffer).1 <;> rfl
      rw [hreturned, ← h.counted]
      exact hcount
  | reset => exact ⟨hsorted, h.made, Nat.zero_le _, h.counted⟩

theorem Represents.run {maxDepth count : ℕ} {b : JitterBuffer} (hreachable : b.Reachable)
    (h : b.Represents maxDepth count) (calls : List BufferCall) :
    (b.run calls).2.Represents maxDepth (count + (b.run calls).1.length) := by
  induction calls generalizing b count with
  | nil => exact h
  | cons c calls ih =>
      have hrest := ih (hreachable.call c) (h.call hreachable c)
      rw [Nat.add_assoc, ← List.length_append] at hrest
      exact hrest

/-- **The representation invariant.**  After any calls on a new buffer the entries are in the order of
their numbers, at most twice `max_depth` of them, the counters say how many frames were returned, and
the next `get` takes at most one call more than there are entries. -/
theorem representation_invariant (minDepth : ℤ) (maxDepth : ℕ) (targetDepth : ℤ)
    (calls : List BufferCall) :
    let frames := ((new minDepth maxDepth targetDepth).run calls).1
    let b := ((new minDepth maxDepth targetDepth).run calls).2
    (b.buffer.Pairwise fun e f => e.sequenceNumber < f.sequenceNumber) ∧
      b.buffer.length ≤ 2 * maxDepth ∧ b.packetsPlayed + b.packetsLost = frames.length ∧
      b.getWithin (b.buffer.length + 1) = some b.get := by
  intro frames b
  have hstart : (new minDepth maxDepth targetDepth).Represents maxDepth 0 :=
    ⟨List.Pairwise.nil, rfl, Nat.zero_le _, rfl⟩
  have h := hstart.run (.new minDepth maxDepth targetDepth) calls
  rw [Nat.zero_add] at h
  exact ⟨h.sorted, h.bounded, h.counted, getWithin_eq (Nat.lt_succ_self _)⟩

end JitterBuffer

end VirtualPhone
