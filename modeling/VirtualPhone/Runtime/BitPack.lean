import VirtualPhone.Runtime.Bytes
import Mathlib.Tactic.Ring

/-! # Packing fixed-width digits into octets

A list of `w`-bit digits is written as octets, least significant bit first, through a bit
accumulator: `packDigits w` shifts each digit in above the bits not yet written and drains whole
octets; `bitsOf` reads octets back into one number and `digitAt w` cuts a digit out of it.

Numerically both lists are the little-endian digits of one number, in base `2 ^ w` and in base
256.  `ofDigits_packLoop` is the loop invariant that says so, and `digitAt_packDigits` the round
trip that follows. -/

namespace Runtime

open Nat (ofDigits)

/-- Emit octets while the accumulator holds at least eight bits. -/
def drain (bits : ℕ) : ℕ → Bytes × ℕ × ℕ
  | count + 8 =>
      let r := drain (bits >>> 8) count
      (UInt8.ofNat (bits &&& 0xFF) :: r.1, r.2)
  | count => ([], bits, count)

/-- The packing loop, from an accumulator of `count` bits. -/
def packLoop (w : ℕ) : List ℕ → ℕ → ℕ → Bytes
  | [], bits, count => if 0 < count then [UInt8.ofNat (bits &&& 0xFF)] else []
  | d :: ds, bits, count =>
      let r := drain (bits ||| (d &&& (2 ^ w - 1)) <<< count) (count + w)
      r.1 ++ packLoop w ds r.2.1 r.2.2

/-- The octets of a list of `w`-bit digits. -/
def packDigits (w : ℕ) (ds : List ℕ) : Bytes := packLoop w ds 0 0

/-- Octets read into one bit accumulator, the first octet lowest. -/
def bitsLoop : Bytes → ℕ → ℕ → ℕ
  | [], bits, _ => bits
  | b :: d, bits, count => bitsLoop d (bits ||| b.toNat <<< count) (count + 8)

/-- The number an octet string accumulates to. -/
def bitsOf (d : Bytes) : ℕ := bitsLoop d 0 0

/-- The `i`-th `w`-bit digit of an accumulator. -/
def digitAt (w bits i : ℕ) : ℕ := (bits >>> (i * w)) &&& (2 ^ w - 1)

/-- The number whose base-256 digits are the octets. -/
abbrev octetValue (d : Bytes) : ℕ := ofDigits 256 (d.map UInt8.toNat)

theorem octetValue_cons (b : UInt8) (d : Bytes) : octetValue (b :: d) = b.toNat + 256 * octetValue d := by
  simp [octetValue, Nat.ofDigits_cons]

/-- Bits below `2 ^ c` and bits shifted above them add up. -/
theorem or_shiftLeft_eq_add {a c : ℕ} (h : a < 2 ^ c) (b : ℕ) : a ||| b <<< c = a + 2 ^ c * b := by
  rw [Nat.or_comm, ← Nat.shiftLeft_add_eq_or_of_lt h, Nat.shiftLeft_eq]
  ring

theorem and_mask (a w : ℕ) : a &&& (2 ^ w - 1) = a % 2 ^ w := Nat.and_two_pow_sub_one_eq_mod a w

theorem toNat_ofNat_and_mask (a : ℕ) : (UInt8.ofNat (a &&& 0xFF)).toNat = a % 256 := by
  rw [show (0xFF : ℕ) = 2 ^ 8 - 1 from rfl, and_mask]
  exact toNat_ofNat_of_lt (Nat.mod_lt _ (by norm_num))

/-- What draining keeps: the number, and fewer than eight bits are left. -/
theorem drain_spec (bits count : ℕ) (h : bits < 2 ^ count) :
    octetValue (drain bits count).1 + 256 ^ (drain bits count).1.length * (drain bits count).2.1
        = bits ∧
      (drain bits count).2.1 < 2 ^ (drain bits count).2.2 ∧
      8 * (drain bits count).1.length + (drain bits count).2.2 = count ∧
      (drain bits count).2.2 < 8 := by
  fun_induction drain bits count with
  | case1 bits count r ih =>
      have hs : bits >>> 8 = bits / 256 := Nat.shiftRight_eq_div_pow bits 8
      have hlt : bits >>> 8 < 2 ^ count := by
        rw [hs]
        refine Nat.div_lt_of_lt_mul ?_
        calc bits < 2 ^ (count + 8) := h
          _ = 256 * 2 ^ count := by rw [Nat.pow_add, Nat.mul_comm]
      obtain ⟨hv, hb, hc, h8⟩ := ih hlt
      refine ⟨?_, hb, ?_, h8⟩
      · calc octetValue (UInt8.ofNat (bits &&& 0xFF) :: r.1) +
              256 ^ (UInt8.ofNat (bits &&& 0xFF) :: r.1).length * r.2.1
            = bits % 256 + 256 * (octetValue r.1 + 256 ^ r.1.length * r.2.1) := by
              rw [octetValue_cons, toNat_ofNat_and_mask, List.length_cons, Nat.pow_succ]
              ring
          _ = bits % 256 + 256 * (bits / 256) := by rw [hv, hs]
          _ = bits := Nat.mod_add_div bits 256
      · change 8 * ((drain (bits >>> 8) count).1.length + 1) + (drain (bits >>> 8) count).2.2 = count + 8
        omega
  | case2 bits count hc =>
      refine ⟨by simp [octetValue], h, by simp, ?_⟩
      by_contra h8
      have h8' : 8 ≤ count := Nat.le_of_not_lt h8
      exact hc (count - 8) (by omega)

/-- **The packing loop keeps the number.** -/
theorem ofDigits_packLoop (w : ℕ) (ds : List ℕ) (hds : ∀ d ∈ ds, d < 2 ^ w) (bits count : ℕ)
    (hb : bits < 2 ^ count) (hc : count < 8) :
    octetValue (packLoop w ds bits count) = bits + 2 ^ count * ofDigits (2 ^ w) ds := by
  induction ds generalizing bits count with
  | nil =>
      simp only [packLoop, Nat.ofDigits_nil, Nat.mul_zero, Nat.add_zero]
      split_ifs with h0
      · have : (2 : ℕ) ^ count ≤ 2 ^ 8 := Nat.pow_le_pow_right (by norm_num) (by omega)
        rw [octetValue_cons, toNat_ofNat_and_mask, Nat.mod_eq_of_lt (by omega)]
        simp [octetValue]
      · obtain rfl : count = 0 := by omega
        simp [octetValue] at hb ⊢
        omega
  | cons d ds ih =>
      have hd : d < 2 ^ w := hds d (by simp)
      rw [packLoop, and_mask, Nat.mod_eq_of_lt hd, or_shiftLeft_eq_add hb]
      have hlt : bits + 2 ^ count * d < 2 ^ (count + w) := by
        rw [Nat.pow_add]
        have := Nat.mul_le_mul_left (2 ^ count) hd
        rw [Nat.succ_eq_add_one, Nat.mul_add] at this
        omega
      obtain ⟨hv, hb', hcount, hc'⟩ := drain_spec _ _ hlt
      set r := drain (bits + 2 ^ count * d) (count + w) with hr
      have hrest := ih (fun x hx => hds x (by simp [hx])) r.2.1 r.2.2 hb' hc'
      have hpow : 256 ^ r.1.length * 2 ^ r.2.2 = 2 ^ count * 2 ^ w := by
        rw [show (256 : ℕ) = 2 ^ 8 from rfl, ← Nat.pow_mul, ← Nat.pow_add, hcount, Nat.pow_add]
      calc octetValue (r.1 ++ packLoop w ds r.2.1 r.2.2)
          = octetValue r.1 + 256 ^ r.1.length * octetValue (packLoop w ds r.2.1 r.2.2) := by
            simp [octetValue, Nat.ofDigits_append]
        _ = (octetValue r.1 + 256 ^ r.1.length * r.2.1) +
              256 ^ r.1.length * 2 ^ r.2.2 * ofDigits (2 ^ w) ds := by rw [hrest]; ring
        _ = bits + 2 ^ count * ofDigits (2 ^ w) (d :: ds) := by
            rw [hv, hpow, Nat.ofDigits_cons]; ring

theorem packLoop_length (w : ℕ) (ds : List ℕ) (hds : ∀ d ∈ ds, d < 2 ^ w) (bits count : ℕ)
    (hb : bits < 2 ^ count) (hc : count < 8) :
    (packLoop w ds bits count).length = (count + w * ds.length + 7) / 8 := by
  induction ds generalizing bits count with
  | nil =>
      simp only [packLoop, List.length_nil, Nat.mul_zero, Nat.add_zero]
      split_ifs with h0 <;> simp <;> omega
  | cons d ds ih =>
      have hd : d < 2 ^ w := hds d (by simp)
      rw [packLoop, and_mask, Nat.mod_eq_of_lt hd, or_shiftLeft_eq_add hb]
      have hlt : bits + 2 ^ count * d < 2 ^ (count + w) := by
        rw [Nat.pow_add]
        have := Nat.mul_le_mul_left (2 ^ count) hd
        rw [Nat.succ_eq_add_one, Nat.mul_add] at this
        omega
      obtain ⟨-, hb', hcount, hc'⟩ := drain_spec _ _ hlt
      rw [List.length_append, ih (fun x hx => hds x (by simp [hx])) _ _ hb' hc', List.length_cons,
        Nat.mul_succ]
      omega

theorem packDigits_length {w : ℕ} {ds : List ℕ} (hds : ∀ d ∈ ds, d < 2 ^ w) :
    (packDigits w ds).length = (w * ds.length + 7) / 8 := by
  have := packLoop_length w ds hds 0 0 (by norm_num) (by norm_num)
  rwa [Nat.zero_add] at this

theorem octetValue_packDigits {w : ℕ} {ds : List ℕ} (hds : ∀ d ∈ ds, d < 2 ^ w) :
    octetValue (packDigits w ds) = ofDigits (2 ^ w) ds := by
  have := ofDigits_packLoop w ds hds 0 0 (by norm_num) (by norm_num)
  simpa [packDigits] using this

theorem bitsLoop_eq (d : Bytes) (bits count : ℕ) (hb : bits < 2 ^ count) :
    bitsLoop d bits count = bits + 2 ^ count * octetValue d := by
  induction d generalizing bits count with
  | nil => simp [bitsLoop, octetValue]
  | cons b d ih =>
      have hb8 : b.toNat < 2 ^ 8 := b.toNat_lt
      rw [bitsLoop, or_shiftLeft_eq_add hb, ih, octetValue_cons, Nat.pow_add]
      · ring
      · rw [Nat.pow_add]
        have := Nat.mul_le_mul_left (2 ^ count) hb8
        rw [Nat.succ_eq_add_one, Nat.mul_add] at this
        omega

/-- Reading octets into an accumulator gives the number they spell. -/
theorem bitsOf_eq (d : Bytes) : bitsOf d = octetValue d := by
  have := bitsLoop_eq d 0 0 (by norm_num)
  simpa [bitsOf] using this

theorem digitAt_eq (w bits i : ℕ) : digitAt w bits i = bits / (2 ^ w) ^ i % 2 ^ w := by
  rw [digitAt, and_mask, Nat.shiftRight_eq_div_pow, Nat.mul_comm, Nat.pow_mul]

theorem digitAt_ofDigits {w : ℕ} {ds : List ℕ} (hds : ∀ d ∈ ds, d < 2 ^ w) {i : ℕ}
    (hi : i < ds.length) : digitAt w (ofDigits (2 ^ w) ds) i = ds[i] := by
  rw [digitAt_eq]
  induction ds generalizing i with
  | nil => simp at hi
  | cons d ds ih =>
      have hd : d < 2 ^ w := hds d (by simp)
      rw [Nat.ofDigits_cons]
      cases i with
      | zero => simp [Nat.mod_eq_of_lt hd]
      | succ i =>
          have hdiv : (d + 2 ^ w * ofDigits (2 ^ w) ds) / 2 ^ w = ofDigits (2 ^ w) ds := by
            rw [Nat.add_mul_div_left _ _ (Nat.two_pow_pos w), Nat.div_eq_of_lt hd, Nat.zero_add]
          rw [Nat.pow_succ', ← Nat.div_div_eq_div_mul]
          rw [hdiv]
          exact ih (fun x hx => hds x (by simp [hx])) (by simpa using hi)

/-- **Round trip.**  Every packed digit is read back. -/
theorem digitAt_packDigits {w : ℕ} {ds : List ℕ} (hds : ∀ d ∈ ds, d < 2 ^ w) :
    (List.range ds.length).map (digitAt w (bitsOf (packDigits w ds))) = ds := by
  rw [bitsOf_eq, octetValue_packDigits hds]
  apply List.ext_getElem
  · simp
  · intro i h1 h2
    rw [List.getElem_map, List.getElem_range, digitAt_ofDigits hds h2]

theorem digitAt_lt (w bits i : ℕ) : digitAt w bits i < 2 ^ w := by
  rw [digitAt_eq]
  exact Nat.mod_lt _ (Nat.two_pow_pos w)

theorem ofDigits_digitAt (w n : ℕ) {v : ℕ} (h : v < 2 ^ (w * n)) :
    ofDigits (2 ^ w) ((List.range n).map (digitAt w v)) = v := by
  induction n generalizing v with
  | zero => simpa [eq_comm] using h
  | succ n ih =>
      have hdigit : (digitAt w v ∘ Nat.succ) = digitAt w (v / 2 ^ w) := by
        funext i
        rw [Function.comp_apply, digitAt_eq, digitAt_eq, Nat.pow_succ', Nat.div_div_eq_div_mul]
      have hrest : v / 2 ^ w < 2 ^ (w * n) := by
        refine Nat.div_lt_of_lt_mul ?_
        rwa [← Nat.pow_add, Nat.add_comm, ← Nat.mul_succ]
      rw [List.range_succ_eq_map, List.map_cons, List.map_map, Nat.ofDigits_cons, hdigit, ih hrest,
        digitAt_eq, Nat.pow_zero, Nat.div_one]
      exact Nat.mod_add_div v (2 ^ w)

/-- Octet strings of one length that spell the same number are equal. -/
theorem octetValue_inj {d d' : Bytes} (hlength : d.length = d'.length)
    (h : octetValue d = octetValue d') : d = d' := by
  have hlt : ∀ d : Bytes, ∀ x ∈ d.map UInt8.toNat, x < 256 := by
    intro d x hx
    obtain ⟨b, -, rfl⟩ := List.mem_map.mp hx
    exact b.toNat_lt
  have hmap : d.map UInt8.toNat = d'.map UInt8.toNat :=
    Nat.ofDigits_inj_of_len_eq (by norm_num) (by simpa using hlength) (hlt d) (hlt d') h
  exact (List.map_inj_right fun _ _ => UInt8.toNat_inj.mp).mp hmap

/-- **The other round trip.**  Octets that hold exactly `n` digits, with no bit set above them, are
the packing of these digits. -/
theorem packDigits_digitAt {w n : ℕ} {d : Bytes} (hlength : d.length = (w * n + 7) / 8)
    (hunused : bitsOf d < 2 ^ (w * n)) :
    packDigits w ((List.range n).map (digitAt w (bitsOf d))) = d := by
  have hlt : ∀ x ∈ (List.range n).map (digitAt w (bitsOf d)), x < 2 ^ w := by
    intro x hx
    obtain ⟨i, -, rfl⟩ := List.mem_map.mp hx
    exact digitAt_lt w _ i
  refine octetValue_inj ?_ ?_
  · rw [packDigits_length hlt, List.length_map, List.length_range, hlength]
  · rw [octetValue_packDigits hlt, ofDigits_digitAt w n hunused, bitsOf_eq]

end Runtime
