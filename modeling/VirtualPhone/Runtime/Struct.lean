import VirtualPhone.Runtime.Bytes

/-! # Packed big-endian fields

The fields of `struct.pack` and `struct.unpack` in network order: an unsigned integer of `k` octets,
refused when it is too large, and the one read at an offset; then several of them in a row. -/

namespace Runtime

/-- One unsigned field of `struct.pack`. -/
def packBE (n k : ℕ) : Except PyError Bytes :=
  if n < 256 ^ k then .ok (beBytes n k)
  else .error (.exception "struct.error".toList "argument out of range".toList)

/-- The unsigned field of `k` octets at offset `i`. -/
def unpackBE (d : Bytes) (i k : ℕ) : ℕ := fromBE (slice d i (i + k))

theorem packBE_of_lt {n k : ℕ} (h : n < 256 ^ k) : packBE n k = .ok (beBytes n k) := if_pos h

theorem packBE_eq_ok {n k : ℕ} {d : Bytes} (h : packBE n k = .ok d) : n < 256 ^ k ∧ d = beBytes n k := by
  unfold packBE at h
  split_ifs at h with hn
  exact ⟨hn, (Except.ok.inj h).symm⟩

/-- A field is read back where it was written. -/
theorem unpackBE_of_eq {d p q : Bytes} {n i k : ℕ} (hd : d = p ++ beBytes n k ++ q) (hi : i = p.length)
    (hn : n < 256 ^ k) : unpackBE d i k = n := by
  have hslice : slice d i (i + k) = beBytes n k := slice_of_eq hd hi (by rw [beBytes_length])
  rw [unpackBE, hslice, fromBE_beBytes, Nat.mod_eq_of_lt hn]

/-! ### Fields in a row -/

/-- The octets of fields, each a number with its width. -/
def packed (fields : List (ℕ × ℕ)) : Bytes := fields.flatMap fun f => beBytes f.1 f.2

/-- `struct.pack` of several unsigned fields. -/
def packFields (fields : List (ℕ × ℕ)) : Except PyError Bytes :=
  if ∀ f ∈ fields, f.1 < 256 ^ f.2 then .ok (packed fields)
  else .error (.exception "struct.error".toList "argument out of range".toList)

/-- `struct.unpack` of unsigned fields of these widths, from an offset on. -/
def unpackFields (d : Bytes) : ℕ → List ℕ → List ℕ
  | _, [] => []
  | i, k :: ks => unpackBE d i k :: unpackFields d (i + k) ks

/-- What is made of packed fields is made only if they fit. -/
theorem packFields_bind_eq_ok_iff {α : Type} {fields : List (ℕ × ℕ)} {f : Bytes → Except PyError α} {a : α} :
    packFields fields >>= f = .ok a ↔ (∀ x ∈ fields, x.1 < 256 ^ x.2) ∧ f (packed fields) = .ok a := by
  unfold packFields
  by_cases hfit : ∀ x ∈ fields, x.1 < 256 ^ x.2
  · rw [if_pos hfit, ok_bind, and_iff_right hfit]
  · rw [if_neg hfit, error_bind]
    exact ⟨nofun, fun h => absurd h.1 hfit⟩

theorem packed_cons (f : ℕ × ℕ) (fields : List (ℕ × ℕ)) : packed (f :: fields) = beBytes f.1 f.2 ++ packed fields :=
  List.flatMap_cons

theorem packed_length (fields : List (ℕ × ℕ)) : (packed fields).length = (fields.map Prod.snd).sum := by
  induction fields with
  | nil => rfl
  | cons f fields ih => rw [packed_cons, List.length_append, beBytes_length, ih, List.map_cons, List.sum_cons]

/-- **Fields are read back where they were written**; the induction is on the fields. -/
theorem unpackFields_of_eq {d p q : Bytes} {fields : List (ℕ × ℕ)} {i : ℕ} (hd : d = p ++ packed fields ++ q)
    (hi : i = p.length) (hfit : ∀ f ∈ fields, f.1 < 256 ^ f.2) :
    unpackFields d i (fields.map Prod.snd) = fields.map Prod.fst := by
  induction fields generalizing p i with
  | nil => rfl
  | cons f fields ih =>
      have hcons : d = p ++ beBytes f.1 f.2 ++ (packed fields ++ q) := by
        rw [hd, packed_cons]
        simp only [List.append_assoc]
      have hhead : unpackBE d i f.2 = f.1 := unpackBE_of_eq hcons hi (hfit f List.mem_cons_self)
      have htail := @ih (p ++ beBytes f.1 f.2) (i + f.2) (by rw [hcons]; simp only [List.append_assoc])
        (by rw [List.length_append, beBytes_length, hi]) fun x hx => hfit x (List.mem_cons_of_mem _ hx)
      rw [List.map_cons, List.map_cons, unpackFields, hhead, htail]

end Runtime
