import VirtualPhone.JitterBuffer
import VirtualPhone.Runtime.Trace

/-! # The account of the jitter buffer

The statistics of `JitterBuffer` say what has become of every packet: it was played, it came late, it
was a duplicate, or it waits.  The entry of a new packet has no place in a full deque: `insert` raises
an exception, after the packet has been counted, and `append` drops the front entry, which nothing
counts. -/

namespace VirtualPhone

open Runtime

namespace JitterBuffer

/-- `JitterBuffer(min_depth, max_depth, target_depth)`. -/
def new (minDepth : ℤ) (maxDepth : ℕ) (targetDepth : ℤ) : JitterBuffer :=
  { minDepth, maxDepth, targetDepth }

/-- `depth`. -/
def depth (b : JitterBuffer) : ℕ := b.buffer.length

/-- What a call returns or raises, and the buffer after it. -/
def perform (b : JitterBuffer) : JitterCall → Except PyError (Option Bytes) × JitterBuffer
  | .put packet => (((put packet).run b).1.map fun _ => none, ((put packet).run b).2)
  | .get => (.ok b.get.1, b.get.2)

/-- One call of a run. -/
def step (b : JitterBuffer) (call : JitterCall) : Option JitterBuffer := some (b.perform call).2

/-- Every packet received is accounted for. -/
def Accounts (b : JitterBuffer) : Prop :=
  b.packetsReceived = b.packetsPlayed + b.packetsLate + b.packetsDuplicate + b.depth

/-- The call returns. -/
def Returns (b : JitterBuffer) (call : JitterCall) : Prop := (b.perform call).1.toBool = true

/-- There is an entry with the sequence number of the packet. -/
def Holds (b : JitterBuffer) (packet : RTPPacket) : Prop :=
  ∃ e ∈ b.buffer, e.sequenceNumber = packet.sequenceNumber

/-- A packet that is put has its place: its sequence number is there already, or one more entry fits. -/
def Fits (b : JitterBuffer) : JitterCall → Prop
  | .put packet => b.Holds packet ∨ b.depth < b.maxlen
  | .get => True

instance (b : JitterBuffer) : Decidable b.Accounts := inferInstanceAs (Decidable (_ = _))

instance (b : JitterBuffer) (call : JitterCall) : Decidable (b.Returns call) :=
  inferInstanceAs (Decidable (_ = _))

/-- **Nothing is lost silently**: no call of the run raises, and the account is right after each. -/
def LosesNothing (b : JitterBuffer) (calls : List JitterCall) : Prop :=
  Along step Returns b calls ∧ Always step Accounts b calls

/-! ### One call -/

theorem insertSorted_fits {b : JitterBuffer} (h : b.depth < b.maxlen) (entry : JitterBufferEntry) :
    ∃ buffer, b.insertSorted entry = .ok buffer ∧ buffer.length = b.depth + 1 := by
  have hlt : b.buffer.length < b.maxlen := h
  unfold insertSorted
  cases hfind : b.buffer.findIdx? (entry.sequenceNumber < ·.sequenceNumber) with
  | none =>
      refine ⟨_, rfl, ?_⟩
      rw [dequeAppend, List.length_drop, List.length_append, List.length_singleton, depth]
      omega
  | some i =>
      have hi : i < b.buffer.length := (List.findIdx?_eq_some_iff_findIdx_eq.mp hfind).1
      refine ⟨b.buffer.insertIdx i entry, ?_, List.length_insertIdx_of_le_length hi.le _⟩
      dsimp only
      rw [dequeInsert, if_pos hlt]

theorem insertSorted_full {b : JitterBuffer} (h : b.maxlen ≤ b.depth) {entry : JitterBufferEntry}
    {buffer : List JitterBufferEntry} (hins : b.insertSorted entry = .ok buffer) :
    buffer.length ≤ b.depth := by
  have hge : b.maxlen ≤ b.buffer.length := h
  unfold insertSorted at hins
  split at hins
  · rw [dequeInsert, if_neg (by omega)] at hins
    cases hins
  · obtain rfl := Except.ok.inj hins
    rw [dequeAppend, List.length_drop, List.length_append, List.length_singleton, depth]
    omega

theorem holds_iff (b : JitterBuffer) (packet : RTPPacket) :
    (b.buffer.any (·.sequenceNumber = packet.sequenceNumber)) = true ↔ b.Holds packet := by
  simp [Holds]

/-- A packet that has its place is put there, or counted as a duplicate. -/
theorem put_fits {b : JitterBuffer} {packet : RTPPacket} (hfits : b.Fits (.put packet)) :
    ((put packet).run b).1 = .ok () ∧ (b.Accounts → ((put packet).run b).2.Accounts) := by
  unfold put
  rw [Py.run_modify_bind, Py.run_get_bind]
  by_cases hholds : b.Holds packet
  · rw [if_pos ((holds_iff (b.receive packet) packet).mpr hholds)]
    refine ⟨rfl, fun hcount => ?_⟩
    simp only [Accounts, receive, depth, Py.run_modify] at hcount ⊢
    omega
  · rw [if_neg fun hany => hholds ((holds_iff (b.receive packet) packet).mp hany)]
    obtain ⟨buffer, hins, hlength⟩ := insertSorted_fits (b := b.receive packet)
      (hfits.resolve_left hholds) ((b.receive packet).entryOf packet)
    rw [hins]
    refine ⟨rfl, fun hcount => ?_⟩
    simp only [Accounts, receive, depth, Py.run_lift_ok_bind, Py.run_modify] at hcount hlength ⊢
    omega

/-- A packet without a place is counted as received and as nothing else. -/
theorem put_full {b : JitterBuffer} {packet : RTPPacket} (h : b.Accounts)
    (hfull : ¬b.Fits (.put packet)) : ¬((put packet).run b).2.Accounts := by
  have hcount : b.packetsReceived = b.packetsPlayed + b.packetsLate + b.packetsDuplicate + b.depth := h
  obtain ⟨hholds, hge⟩ := not_or.mp hfull
  unfold put
  rw [Py.run_modify_bind, Py.run_get_bind,
    if_neg fun hany => hholds ((holds_iff (b.receive packet) packet).mp hany)]
  cases hins : (b.receive packet).insertSorted ((b.receive packet).entryOf packet) with
  | error e =>
      simp only [Accounts, receive, depth, Py.run_lift_error_bind] at hcount ⊢
      omega
  | ok buffer =>
      have hlength : buffer.length ≤ b.depth := insertSorted_full (b := b.receive packet)
        (Nat.le_of_not_lt hge) hins
      simp only [Accounts, receive, depth, Py.run_lift_ok_bind, Py.run_modify] at hcount hlength ⊢
      omega

/-- What `get` drops it counts as late, and what it returns as played. -/
theorem getFrom_accounts (es : List JitterBufferEntry) {b : JitterBuffer}
    (h : ({ b with buffer := es } : JitterBuffer).Accounts) : (b.getFrom es).2.Accounts := by
  induction es generalizing b with
  | nil => exact h
  | cons front rest ih =>
      unfold getFrom
      split
      · exact h
      simp only [Accounts, depth, List.length_cons] at h
      cases b.nextSeq with
      | none =>
          simp only [Accounts, depth]
          omega
      | some next =>
          dsimp only
          split
          · refine ih ?_
            simp only [Accounts, depth]
            omega
          split
          · simp only [Accounts, depth, List.length_cons]
            omega
          · simp only [Accounts, depth]
            omega

/-! ### Runs -/

theorem runFrom_step (b : JitterBuffer) (calls : List JitterCall) :
    ∃ b', runFrom step b calls = some b' := by
  induction calls generalizing b with
  | nil => exact ⟨b, rfl⟩
  | cons call calls ih => exact ih (b.perform call).2

/-- **Nothing is lost exactly where every packet has its place.**  A run of calls on a new buffer loses
nothing iff every packet is put while its sequence number is in the buffer or the deque is not full. -/
theorem losesNothing_iff (minDepth : ℤ) (maxDepth : ℕ) (targetDepth : ℤ) (calls : List JitterCall) :
    (new minDepth maxDepth targetDepth).LosesNothing calls ↔
      Along step Fits (new minDepth maxDepth targetDepth) calls := by
  have hkeep : ∀ b call b', Accounts b → Fits b call → step b call = some b' → Accounts b' := by
    rintro b call _ hb hfits ⟨⟩
    cases call with
    | put packet => exact (put_fits hfits).2 hb
    | get => exact getFrom_accounts b.buffer hb
  have hbreak : ∀ b call b', Accounts b → ¬Fits b call → step b call = some b' → ¬Accounts b' := by
    rintro b call _ hb hfits ⟨⟩
    cases call with
    | put packet => exact put_full hb hfits
    | get => exact absurd trivial hfits
  have hreturns : ∀ b call, Fits b call → Returns b call := by
    intro b call hfits
    cases call with
    | put packet =>
        unfold Returns
        simp only [perform, (put_fits hfits).1]
        rfl
    | get => rfl
  obtain ⟨b', hb'⟩ := runFrom_step (new minDepth maxDepth targetDepth) calls
  have hstart : (new minDepth maxDepth targetDepth).Accounts := rfl
  have hiff := always_iff_along step (fun _ h => h) hkeep hbreak hstart hb'
  exact ⟨fun h => hiff.mp h.2, fun h => ⟨h.mono step hreturns, hiff.mpr h⟩⟩

theorem sequence_lt (n : ℕ) : n % 65536 < 65536 := Nat.mod_lt _ (by decide)

/-- The first packets of a stream. -/
def testStream (count : ℕ) : List JitterCall :=
  (List.range count).map fun n => .put
    { sequenceNumber := n % 65536, timestamp := 160 * n, payload := [], valid := sequence_lt n }

/-- Of twenty-one packets with no frame taken out the first is lost; in the reverse order the last one
raises an exception. -/
theorem packet_lost : ¬(new 2 10 4).LosesNothing (testStream 21) ∧
    ¬Along step Returns (new 2 10 4) (testStream 21).reverse := by
  refine ⟨fun h => ?_, by decide +kernel⟩
  obtain ⟨b, hrun, hb⟩ : ∃ b, runFrom step (new 2 10 4) (testStream 21) = some b ∧ ¬b.Accounts :=
    exists_run step (by decide +kernel)
  exact hb (h.2 _ b (List.prefix_refl _) hrun)

end JitterBuffer

end VirtualPhone
