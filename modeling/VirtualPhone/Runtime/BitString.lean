import Mathlib.Data.List.GetD
import VirtualPhone.Runtime.Bytes

/-! # Octet strings as bit vectors

An octet string of length `n` is a vector of `8 * n` bits, the first octet being the most significant
one.  Bit `8 * i + j` from the left is bit `j` from the left of octet `i`; so what works octet by
octet can be compared with what works on all bits. -/

namespace Runtime

/-- The bits of an octet string of length `n`. -/
def ofBytes (n : ℕ) (d : Bytes) : BitVec (8 * n) := BitVec.ofNat (8 * n) (fromBE d)

/-- The octets of `8 * n` bits. -/
def octets {n : ℕ} (x : BitVec (8 * n)) : Bytes := beBytes x.toNat n

theorem pow_eight (n : ℕ) : 256 ^ n = 2 ^ (8 * n) := by
  rw [Nat.pow_mul]

theorem fromBE_inj {a b : Bytes} (hlength : a.length = b.length) (h : fromBE a = fromBE b) : a = b := by
  induction a generalizing b with
  | nil => exact (List.length_eq_zero_iff.mp hlength.symm).symm
  | cons x a ih =>
      cases b with
      | nil => cases hlength
      | cons y b =>
          have hlength : a.length = b.length := Nat.succ.inj hlength
          rw [fromBE_cons, fromBE_cons, hlength] at h
          have ha : fromBE a < 256 ^ b.length := hlength ▸ fromBE_lt a
          have hb := fromBE_lt b
          have hpos : 0 < 256 ^ b.length := Nat.pow_pos (by decide)
          have hx := congrArg (· / 256 ^ b.length) h
          have hr := congrArg (· % 256 ^ b.length) h
          simp only [Nat.add_comm (_ * _), Nat.add_mul_div_right _ _ hpos, Nat.div_eq_of_lt ha,
            Nat.div_eq_of_lt hb, Nat.zero_add] at hx
          simp only [Nat.add_comm (_ * _), Nat.add_mul_mod_self_right, Nat.mod_eq_of_lt ha,
            Nat.mod_eq_of_lt hb] at hr
          rw [UInt8.toNat_inj.mp hx, ih hlength hr]

theorem beBytes_fromBE (d : Bytes) : beBytes (fromBE d) d.length = d := by
  refine fromBE_inj (beBytes_length _ _) ?_
  rw [fromBE_beBytes, Nat.mod_eq_of_lt (fromBE_lt d)]

theorem toNat_ofBytes {n : ℕ} {d : Bytes} (h : d.length = n) : (ofBytes n d).toNat = fromBE d := by
  rw [ofBytes, BitVec.toNat_ofNat, Nat.mod_eq_of_lt]
  rw [← pow_eight, ← h]
  exact fromBE_lt d

@[simp] theorem octets_length {n : ℕ} (x : BitVec (8 * n)) : (octets x).length = n :=
  beBytes_length _ _

/-- The octets of the bits of an octet string. -/
theorem octets_ofBytes {n : ℕ} {d : Bytes} (h : d.length = n) : octets (ofBytes n d) = d := by
  rw [octets, toNat_ofBytes h, ← h, beBytes_fromBE]

/-- The bits of the octets of some bits. -/
theorem ofBytes_octets {n : ℕ} (x : BitVec (8 * n)) : ofBytes n (octets x) = x := by
  refine BitVec.eq_of_toNat_eq ?_
  rw [toNat_ofBytes (octets_length x), octets, fromBE_beBytes, pow_eight, Nat.mod_eq_of_lt x.isLt]

theorem testBit_fromBE (d : Bytes) {i j : ℕ} (hi : i < d.length) (hj : j < 8) :
    (fromBE d).testBit (8 * (d.length - 1 - i) + (7 - j)) = (d.getD i 0).toNat.testBit (7 - j) := by
  induction d generalizing i with
  | nil => cases hi
  | cons b d ih =>
      have hvalue : fromBE (b :: d) = 2 ^ (8 * d.length) * b.toNat + fromBE d := by
        rw [fromBE_cons, pow_eight, Nat.mul_comm]
      have hd : fromBE d < 2 ^ (8 * d.length) := by
        rw [← pow_eight]
        exact fromBE_lt d
      rw [hvalue, Nat.testBit_two_pow_mul_add _ hd]
      cases i with
      | zero =>
          rw [List.length_cons, if_neg (by omega), List.getD_cons_zero]
          congr 1
          omega
      | succ i =>
          rw [List.length_cons] at hi ⊢
          rw [if_pos (by omega), List.getD_cons_succ, ← ih (Nat.lt_of_succ_lt_succ hi)]
          congr 2
          omega

/-- **The bits from the left.** -/
theorem getMsbD_ofBytes {n : ℕ} {d : Bytes} (h : d.length = n) {i j : ℕ} (hi : i < n) (hj : j < 8) :
    (ofBytes n d).getMsbD (8 * i + j) = (d.getD i 0).toNat.testBit (7 - j) := by
  have hlt : 8 * i + j < 8 * n := by omega
  subst h
  rw [BitVec.getMsbD_eq_getLsbD, decide_eq_true hlt, Bool.true_and, BitVec.getLsbD,
    toNat_ofBytes rfl, ← testBit_fromBE d hi hj]
  congr 1
  omega

/-- Two vectors of whole octets with the same bits from the left are equal. -/
theorem eq_of_octet_bits {n : ℕ} {x y : BitVec (8 * n)}
    (h : ∀ i < n, ∀ j < 8, x.getMsbD (8 * i + j) = y.getMsbD (8 * i + j)) : x = y := by
  refine BitVec.eq_of_getMsbD_eq fun p hp => ?_
  have hsplit := h (p / 8) (by omega) (p % 8) (by omega)
  rwa [Nat.div_add_mod] at hsplit

/-- The exclusive or of octet strings is that of their bits. -/
theorem ofBytes_xor {n : ℕ} {a b : Bytes} (ha : a.length = n) (hb : b.length = n) :
    ofBytes n (xorBytes a b) = ofBytes n a ^^^ ofBytes n b := by
  have hlength : (xorBytes a b).length = n := by rw [xorBytes_length, ha, hb, Nat.min_self]
  refine eq_of_octet_bits fun i hi j hj => ?_
  have hoctet : (xorBytes a b).getD i 0 = a.getD i 0 ^^^ b.getD i 0 := by
    rw [List.getD_eq_getElem _ _ (hlength ▸ hi), List.getD_eq_getElem _ _ (ha ▸ hi),
      List.getD_eq_getElem _ _ (hb ▸ hi)]
    exact List.getElem_zipWith
  rw [getMsbD_ofBytes hlength hi hj, BitVec.getMsbD_xor, getMsbD_ofBytes ha hi hj,
    getMsbD_ofBytes hb hi hj, hoctet, UInt8.toNat_xor, Nat.testBit_xor]

end Runtime
