import VirtualPhone.Runtime.BitString
import VirtualPhone.Milenage

/-! # Milenage as TS 35.206 has it

The functions of TS 35.206 on blocks of 128 bits: `TEMP`, `OUT1` to `OUT5`, the rotations and the
constants.  `milenage_refines` says that the octet-wise functions of `euicc/crypto/milenage.py` return
the octets of these outputs, for every block function in place of the cipher.

The rotation is one of octets with carries in the code.  It is the rotation of all bits, for strings of
every length and every number of bits (`ofBytes_rotate`). -/

namespace VirtualPhone

open Runtime

/-! ### The specification -/

namespace Ts35206

section Cipher

variable (E : BitVec 128 → BitVec 128) (opc rand in1 : BitVec 128)

/-- The rotations r1 to r5. -/
def rotation (k : ℕ) : ℕ := if k = 1 then 64 else 32 * (k - 2)

/-- The constants c1 to c5. -/
def constant (k : ℕ) : BitVec 128 := if k = 1 then 0 else BitVec.ofNat 128 (2 ^ (k - 2))

/-- `TEMP`. -/
def temp : BitVec 128 := E (rand ^^^ opc)

/-- `OUT1`. -/
def out1 : BitVec 128 :=
  E (temp E opc rand ^^^ (in1 ^^^ opc).rotateLeft (rotation 1) ^^^ constant 1) ^^^ opc

/-- `OUT2` to `OUT5`. -/
def out (k : ℕ) : BitVec 128 :=
  E ((temp E opc rand ^^^ opc).rotateLeft (rotation k) ^^^ constant k) ^^^ opc

end Cipher

end Ts35206

namespace Milenage

/-! ### The rotation -/

theorem add_mod_octets (a n t : ℕ) (ht : t < 8) : (8 * a + t) % (8 * n) = 8 * (a % n) + t := by
  rw [Nat.mod_mul, Nat.mul_add_mod, Nat.mod_eq_of_lt ht, Nat.mul_add_div (by decide),
    Nat.div_eq_of_lt ht, Nat.add_zero, Nat.add_comm]

theorem testBit_carry (x y : UInt8) {s j : ℕ} (hs : s < 8) (hj : j < 8) :
    (UInt8.ofNat (((x.toNat <<< s) ||| (y.toNat >>> (8 - s))) &&& 0xFF)).toNat.testBit (7 - j) =
      if j + s < 8 then x.toNat.testBit (7 - (j + s)) else y.toNat.testBit (7 - (j + s - 8)) := by
  have hmask : ∀ m : ℕ, (UInt8.ofNat (m &&& 0xFF)).toNat.testBit (7 - j) = m.testBit (7 - j) := by
    intro m
    rw [UInt8.toNat_ofNat', Nat.testBit_mod_two_pow, Nat.testBit_and,
      show (0xFF : ℕ) = 2 ^ 8 - 1 from rfl, Nat.testBit_two_pow_sub_one]
    simp only [decide_eq_true (show 7 - j < 8 by omega), Bool.true_and, Bool.and_true]
  rw [hmask, Nat.testBit_or, Nat.testBit_shiftLeft, Nat.testBit_shiftRight]
  split_ifs with hcarry
  · have hy : y.toNat.testBit (8 - s + (7 - j)) = false := by
      refine Nat.testBit_lt_two_pow (lt_of_lt_of_le y.toNat_lt ?_)
      exact Nat.pow_le_pow_right (by decide) (by omega)
    rw [hy, Bool.or_false, decide_eq_true (show 7 - j ≥ s by omega), Bool.true_and]
    congr 1
    omega
  · rw [decide_eq_false (show ¬7 - j ≥ s by omega), Bool.false_and, Bool.false_or]
    congr 1
    omega

/-- **The rotation.**  `_rotate(data, bits)` rotates the bits of any string to the left. -/
theorem ofBytes_rotate (data : Bytes) (bits : ℕ) :
    ofBytes data.length (rotate data bits) = (ofBytes data.length data).rotateLeft bits := by
  refine eq_of_octet_bits fun i hi j hj => ?_
  rw [getMsbD_ofBytes (rotate_length data bits) hi hj, BitVec.getMsbD_rotateLeft,
    decide_eq_true (show 8 * i + j < 8 * data.length by omega), Bool.true_and]
  by_cases hbits : bits = 0
  · rw [hbits, rotate, if_pos rfl, Nat.zero_add, Nat.mod_eq_of_lt (by omega), getMsbD_ofBytes rfl hi hj]
  · have hoctet : (rotate data bits).getD i 0 = UInt8.ofNat
        ((((data.getD ((i + bits / 8) % data.length) 0).toNat <<< (bits % 8)) |||
          ((data.getD ((i + bits / 8 + 1) % data.length) 0).toNat >>> (8 - bits % 8))) &&& 0xFF) := by
      rw [rotate, if_neg hbits, List.getD_eq_getElem _ _ (by simpa using hi), List.getElem_map,
        List.getElem_range]
    have hpos : 0 < data.length := by omega
    rw [hoctet, testBit_carry _ _ (Nat.mod_lt _ (by decide)) hj]
    split_ifs with hcarry
    · rw [show bits + (8 * i + j) = 8 * (i + bits / 8) + (j + bits % 8) by omega,
        add_mod_octets _ _ _ hcarry, getMsbD_ofBytes rfl (Nat.mod_lt _ hpos) hcarry]
    · rw [show bits + (8 * i + j) = 8 * (i + bits / 8 + 1) + (j + bits % 8 - 8) by omega,
        add_mod_octets _ _ _ (by omega), getMsbD_ofBytes rfl (Nat.mod_lt _ hpos) (by omega)]

/-! ### Blocks -/

/-- The bits of a block. -/
def bits (d : Bytes) : BitVec 128 := ofBytes 16 d

/-- The octets of 128 bits. -/
def blockOctets (x : BitVec 128) : Bytes := octets (n := 16) x

theorem blockOctets_length (x : BitVec 128) : (blockOctets x).length = 16 := octets_length _

theorem bits_blockOctets (x : BitVec 128) : bits (blockOctets x) = x := ofBytes_octets (n := 16) x

theorem blockOctets_bits {d : Bytes} (h : d.length = 16) : blockOctets (bits d) = d := octets_ofBytes h

theorem bits_xor {a b : Bytes} (ha : a.length = 16) (hb : b.length = 16) :
    bits (xorBytes a b) = bits a ^^^ bits b := ofBytes_xor ha hb

theorem bits_rotate {d : Bytes} (h : d.length = 16) (r : ℕ) :
    bits (rotate d r) = (bits d).rotateLeft r := by
  have hrotate := ofBytes_rotate d r
  rw [h] at hrotate
  exact hrotate

theorem xorBytes_blockOctets (x : BitVec 128) {b : Bytes} (hb : b.length = 16) :
    xorBytes (blockOctets x) b = blockOctets (x ^^^ bits b) := by
  have hlength : (xorBytes (blockOctets x) b).length = 16 := by
    rw [xorBytes_length, blockOctets_length, hb]
    rfl
  rw [← blockOctets_bits hlength, bits_xor (blockOctets_length x) hb, bits_blockOctets]

theorem bits_constants {k : ℕ} (hk : k < 5) : bits (constants k) = Ts35206.constant (k + 1) := by
  match k, hk with
  | 0, _ => rfl
  | 1, _ => rfl
  | 2, _ => rfl
  | 3, _ => rfl
  | 4, _ => rfl

theorem rotations_eq {k : ℕ} (hk : k < 5) : rotations k = Ts35206.rotation (k + 1) := by
  match k, hk with
  | 0, _ => rfl
  | 1, _ => rfl
  | 2, _ => rfl
  | 3, _ => rfl
  | 4, _ => rfl

/-! ### The functions -/

section Cipher

variable (aes : Bytes → Block → Block)

/-- The cipher under a key, on 128 bits. -/
def cipher (ki : Bytes) (x : BitVec 128) : BitVec 128 :=
  bits (aes ki ⟨blockOctets x, blockOctets_length x⟩).1

variable {m : Milenage}

theorem encrypt_eq (m : Milenage) {data : Bytes} (h : data.length = 16) :
    m.encrypt aes data = .ok (blockOctets (cipher aes m.ki (bits data))) := by
  have hblock : (⟨blockOctets (bits data), blockOctets_length _⟩ : Block) = ⟨data, h⟩ :=
    Subtype.ext (blockOctets_bits h)
  rw [encrypt, dif_pos h, cipher, hblock, blockOctets_bits (aes m.ki ⟨data, h⟩).2]

section Blocks

variable (hopc : m.opc.length = 16)

include hopc

theorem xorOpc_length {b : Bytes} (hb : b.length = 16) : (xorBytes b m.opc).length = 16 := by
  rw [xorBytes_length, hb, hopc]
  rfl

theorem temp_eq {rand : Bytes} (hrand : rand.length = 16) :
    m.encrypt aes (xorBytes rand m.opc) =
      .ok (blockOctets (Ts35206.temp (cipher aes m.ki) (bits m.opc) (bits rand))) := by
  rw [encrypt_eq aes m (xorOpc_length hopc hrand), bits_xor hrand hopc]
  rfl

theorem f1Core_eq {rand in1 sqn amf : Bytes} (hrand : rand.length = 16)
    (hin1 : in1 = sqn ++ amf ++ sqn ++ amf) (hlength : in1.length = 16) :
    m.f1Core aes rand sqn amf = .ok (blockOctets
      (Ts35206.out1 (cipher aes m.ki) (bits m.opc) (bits rand) (bits in1))) := by
  have hrotated : (rotate (xorBytes in1 m.opc) (rotations 0)).length = 16 := by
    rw [rotate_length, xorOpc_length hopc hlength]
  have htemp : ∀ x,
      (xorBytes (blockOctets x) (rotate (xorBytes in1 m.opc) (rotations 0))).length = 16 := by
    intro x
    rw [xorBytes_length, blockOctets_length, hrotated]
    rfl
  have hinput : ∀ x, (xorBytes (xorBytes (blockOctets x) (rotate (xorBytes in1 m.opc) (rotations 0)))
      (constants 0)).length = 16 := by
    intro x
    rw [xorBytes_length, htemp, constants_length]
    rfl
  rw [f1Core, temp_eq aes hopc hrand, ok_bind, ← hin1]
  simp only
  rw [encrypt_eq aes m (hinput _), ok_bind, xorBytes_blockOctets _ hopc,
    bits_xor (htemp _) (constants_length 0), bits_xor (blockOctets_length _) hrotated,
    bits_blockOctets, bits_rotate (xorOpc_length hopc hlength), bits_xor hlength hopc,
    bits_constants (by decide), rotations_eq (by decide)]
  rfl

theorem output_eq {rand : Bytes} {k : ℕ} (hk : k < 5) :
    m.output aes (blockOctets (Ts35206.temp (cipher aes m.ki) (bits m.opc) (bits rand))) k =
      .ok (blockOctets (Ts35206.out (cipher aes m.ki) (bits m.opc) (bits rand) (k + 1))) := by
  have hxor := xorOpc_length hopc
    (blockOctets_length (Ts35206.temp (cipher aes m.ki) (bits m.opc) (bits rand)))
  have hrotated : (rotate (xorBytes (blockOctets
      (Ts35206.temp (cipher aes m.ki) (bits m.opc) (bits rand))) m.opc) (rotations k)).length = 16 := by
    rw [rotate_length, hxor]
  have hinput : (xorBytes (rotate (xorBytes (blockOctets
      (Ts35206.temp (cipher aes m.ki) (bits m.opc) (bits rand))) m.opc) (rotations k))
      (constants k)).length = 16 := by
    rw [xorBytes_length, hrotated, constants_length]
    rfl
  rw [output, encrypt_eq aes m hinput, ok_bind, xorBytes_blockOctets _ hopc,
    bits_xor hrotated (constants_length k), bits_rotate hxor, bits_xor (blockOctets_length _) hopc,
    bits_blockOctets, bits_constants hk, rotations_eq hk]
  rfl

end Blocks

/-- **Milenage refines TS 35.206.**  For every block function, OPc, RAND, SQN and AMF the functions
return the octets of the outputs that the specification prescribes, and `_rotate` is the rotation of the
bits for all strings and numbers of bits. -/
theorem milenage_refines {m : Milenage} (hopc : m.opc.length = 16) {rand sqn amf : Bytes}
    (hrand : rand.length = 16) (hsqn : sqn.length = 6) (hamf : amf.length = 2) :
    m.f1 aes rand sqn amf = .ok (slice (blockOctets (Ts35206.out1 (cipher aes m.ki) (bits m.opc)
      (bits rand) (bits (sqn ++ amf ++ sqn ++ amf)))) 0 8) ∧
    m.f1star aes rand sqn amf = .ok (slice (blockOctets (Ts35206.out1 (cipher aes m.ki) (bits m.opc)
      (bits rand) (bits (sqn ++ amf ++ sqn ++ amf)))) 8 16) ∧
    m.f2345 aes rand = .ok
      (slice (blockOctets (Ts35206.out (cipher aes m.ki) (bits m.opc) (bits rand) 2)) 8 16,
        blockOctets (Ts35206.out (cipher aes m.ki) (bits m.opc) (bits rand) 3),
        blockOctets (Ts35206.out (cipher aes m.ki) (bits m.opc) (bits rand) 4),
        slice (blockOctets (Ts35206.out (cipher aes m.ki) (bits m.opc) (bits rand) 2)) 0 6) ∧
    m.f5star aes rand = .ok
      (slice (blockOctets (Ts35206.out (cipher aes m.ki) (bits m.opc) (bits rand) 5)) 0 6) ∧
    ∀ (data : Bytes) (b : ℕ), (rotate data b).length = data.length ∧
      ofBytes data.length (rotate data b) = (ofBytes data.length data).rotateLeft b := by
  have hin1 : (sqn ++ amf ++ sqn ++ amf).length = 16 := by
    simp only [List.length_append, hsqn, hamf]
  have hcore := f1Core_eq aes hopc hrand rfl hin1
  have htemp := temp_eq aes hopc hrand
  refine ⟨?_, ?_, ?_, ?_, fun data b => ⟨rotate_length data b, ofBytes_rotate data b⟩⟩
  · rw [f1, hcore]
    rfl
  · rw [f1star, hcore]
    rfl
  · rw [f2345, htemp, ok_bind, output_eq aes hopc (k := 1) (by decide), ok_bind,
      output_eq aes hopc (k := 2) (by decide), ok_bind, output_eq aes hopc (k := 3) (by decide)]
    rfl
  · rw [f5star, htemp, ok_bind, output_eq aes hopc (k := 4) (by decide)]
    rfl

end Cipher

/-- The block function that changes nothing, OPc 01 01 .., RAND 02 02 .., SQN 03 03 .. and AMF 80 00. -/
theorem milenage_refines_plain :
    (⟨List.replicate 16 0, List.replicate 16 1⟩ : Milenage).f1 (fun _ b => b) (List.replicate 16 2)
        (List.replicate 6 3) [0x80, 0] = .ok (slice (blockOctets (Ts35206.out1
      (cipher (fun _ b => b) (List.replicate 16 0)) (bits (List.replicate 16 1))
      (bits (List.replicate 16 2)) (bits (List.replicate 6 3 ++ [0x80, 0] ++ List.replicate 6 3 ++
        [0x80, 0])))) 0 8) :=
  (milenage_refines (fun _ b => b) (m := ⟨List.replicate 16 0, List.replicate 16 1⟩) rfl rfl rfl rfl).1

end Milenage

end VirtualPhone
