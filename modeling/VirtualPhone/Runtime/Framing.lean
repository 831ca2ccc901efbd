import VirtualPhone.Runtime.Bytes

/-! # Length-prefixed frames

A frame is a body behind its length, written big-endian in `k` octets; a stream is a concatenation of
frames.  Bodies shorter than `256 ^ k` octets can be read back, so the beginning of a stream that is
made of whole frames determines them (`frames_append_eq`). -/

namespace Runtime

/-- A body behind its length in `k` octets. -/
def frame (k : ℕ) (body : Bytes) : Bytes := beBytes body.length k ++ body

/-- The stream of some bodies. -/
def frames (k : ℕ) (bodies : List Bytes) : Bytes := bodies.flatMap (frame k)

variable {k : ℕ}

@[simp] theorem frames_nil : frames k [] = [] := rfl

@[simp] theorem frames_cons (body : Bytes) (bodies : List Bytes) :
    frames k (body :: bodies) = beBytes body.length k ++ (body ++ frames k bodies) := by
  simp [frames, frame]

@[simp] theorem frames_append (bodies bodies' : List Bytes) :
    frames k (bodies ++ bodies') = frames k bodies ++ frames k bodies' :=
  List.flatMap_append

theorem beBytes_inj {m n : ℕ} (hm : m < 256 ^ k) (hn : n < 256 ^ k) (h : beBytes m k = beBytes n k) :
    m = n := by
  have hread := congrArg fromBE h
  rwa [fromBE_beBytes, fromBE_beBytes, Nat.mod_eq_of_lt hm, Nat.mod_eq_of_lt hn] at hread

/-- Two streams that begin with a frame each begin with the same one. -/
theorem frame_append_inj {body body' x y : Bytes} (hbody : body.length < 256 ^ k)
    (hbody' : body'.length < 256 ^ k)
    (h : beBytes body.length k ++ (body ++ x) = beBytes body'.length k ++ (body' ++ y)) :
    body = body' ∧ x = y := by
  obtain ⟨hlen, hrest⟩ := List.append_inj h (by simp)
  exact List.append_inj hrest (beBytes_inj hbody hbody' hlen)

/-- **Reading back.**  Whole frames at the beginning of a stream are its first frames. -/
theorem frames_append_eq {bodies bodies' : List Bytes} {x : Bytes} (hk : 0 < k)
    (hbodies : ∀ b ∈ bodies, b.length < 256 ^ k) (hbodies' : ∀ b ∈ bodies', b.length < 256 ^ k)
    (h : frames k bodies ++ x = frames k bodies') :
    ∃ more, bodies' = bodies ++ more ∧ x = frames k more := by
  induction bodies generalizing bodies' with
  | nil => exact ⟨bodies', rfl, h⟩
  | cons body bodies ih =>
      cases bodies' with
      | nil =>
          have hlen := congrArg List.length h
          simp at hlen
          omega
      | cons body' rest =>
          rw [frames_cons, frames_cons, List.append_assoc, List.append_assoc] at h
          obtain ⟨rfl, hrest⟩ := frame_append_inj (hbodies body (List.mem_cons_self ..))
            (hbodies' body' (List.mem_cons_self ..)) h
          obtain ⟨more, rfl, hx⟩ := ih (fun b hb => hbodies b (List.mem_cons_of_mem body hb))
            (fun b hb => hbodies' b (List.mem_cons_of_mem body hb)) hrest
          exact ⟨more, rfl, hx⟩

end Runtime
