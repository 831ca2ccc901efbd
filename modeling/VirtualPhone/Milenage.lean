import VirtualPhone.Runtime.Bytes

/-! # Milenage (`euicc/crypto/milenage.py`)

The AKA functions f1 to f5 and f5* over a block cipher `aes`, which is a parameter: an arbitrary
function of a key on 16-octet blocks.  `authenticate` recovers the sequence number of a challenge
and accepts it when the MAC is right and the number is not below the stored one.

`authenticate_some_iff` separates the two conditions: a challenge with the right MAC is accepted
under every stored number up to its own. -/

namespace VirtualPhone

open Runtime

/-- A 128-bit block. -/
abbrev Block := { b : Bytes // b.length = 16 }

/-- `Milenage`: the subscriber key and the operator variant. -/
structure Milenage where
  ki : Bytes
  opc : Bytes
deriving DecidableEq, Repr

namespace Milenage

/-- `Milenage(ki, opc)`. -/
def new (ki opc : Bytes) : Except PyError Milenage :=
  if ki.length ≠ 16 then .error (.valueError "Ki must be 16 bytes".toList)
  else if opc.length ≠ 16 then .error (.valueError "OPc must be 16 bytes".toList)
  else .ok ⟨ki, opc⟩

theorem lengths_of_new {ki opc : Bytes} {m : Milenage} (h : new ki opc = .ok m) :
    m = ⟨ki, opc⟩ ∧ ki.length = 16 ∧ opc.length = 16 := by
  unfold new at h
  split_ifs at h with hki hopc
  exact ⟨(Except.ok.inj h).symm, not_not.mp hki, not_not.mp hopc⟩

/-- `_C`, the constants c1 to c5. -/
def constants : ℕ → Bytes
  | 0 => List.replicate 16 0
  | 1 => List.replicate 15 0 ++ [1]
  | 2 => List.replicate 15 0 ++ [2]
  | 3 => List.replicate 15 0 ++ [4]
  | _ => List.replicate 15 0 ++ [8]

/-- `_R`, the rotations r1 to r5. -/
def rotations : ℕ → ℕ
  | 0 => 64
  | 1 => 0
  | 2 => 32
  | 3 => 64
  | _ => 96

/-- `_rotate(data, bits)`. -/
def rotate (data : Bytes) (bits : ℕ) : Bytes :=
  if bits = 0 then data
  else
    let byteShift := bits / 8
    let bitShift := bits % 8
    let n := data.length
    (List.range n).map fun i =>
      let src1 := (data.getD ((i + byteShift) % n) 0).toNat
      let src2 := (data.getD ((i + byteShift + 1) % n) 0).toNat
      UInt8.ofNat (((src1 <<< bitShift) ||| (src2 >>> (8 - bitShift))) &&& 0xFF)

section Cipher

variable (aes : Bytes → Block → Block)

/-- `_encrypt(data)`: one block.  No caller passes more than one; a cut block is refused, nothing
is encrypted to nothing. -/
def encrypt (m : Milenage) (data : Bytes) : Except PyError Bytes :=
  if h : data.length = 16 then .ok (aes m.ki ⟨data, h⟩).1
  else if data = [] then .ok []
  else .error (.valueError "Data must be aligned to block boundary in ECB mode".toList)

/-- `AES.new(ki, MODE_ECB).encrypt(data)` for a number of whole blocks. -/
def ecb (ki : Bytes) : ℕ → Bytes → Bytes
  | 0, _ => []
  | blocks + 1, data =>
      if h : (data.take 16).length = 16 then
        (aes ki ⟨data.take 16, h⟩).1 ++ ecb ki blocks (data.drop 16)
      else []

/-- `compute_opc(ki, op)`: `OP xor E(OP)`. -/
def computeOpc (ki op : Bytes) : Except PyError Bytes :=
  if op.length % 16 = 0 then .ok (xorBytes op (ecb aes ki (op.length / 16) op))
  else .error (.valueError "Data must be aligned to block boundary in ECB mode".toList)

/-- `_f1_core(rand, sqn, amf)`. -/
def f1Core (m : Milenage) (rand sqn amf : Bytes) : Except PyError Bytes := do
  let temp ← m.encrypt aes (xorBytes rand m.opc)
  let in1 := sqn ++ amf ++ sqn ++ amf
  let rotated := rotate (xorBytes in1 m.opc) (rotations 0)
  let encInput := xorBytes (xorBytes temp rotated) (constants 0)
  let out ← m.encrypt aes encInput
  return xorBytes out m.opc

/-- `f1(rand, sqn, amf)`: MAC-A. -/
def f1 (m : Milenage) (rand sqn amf : Bytes) : Except PyError Bytes := do
  return slice (← m.f1Core aes rand sqn amf) 0 8

/-- `f1star(rand, sqn, amf)`: MAC-S. -/
def f1star (m : Milenage) (rand sqn amf : Bytes) : Except PyError Bytes := do
  return slice (← m.f1Core aes rand sqn amf) 8 16

/-- `E(rotate(TEMP xor OPc, r) xor c) xor OPc` for the constants with index `k`: the common shape of
f2 to f5 and f5*. -/
def output (m : Milenage) (temp : Bytes) (k : ℕ) : Except PyError Bytes := do
  let out ← m.encrypt aes
    (xorBytes (rotate (xorBytes temp m.opc) (rotations k)) (constants k))
  return xorBytes out m.opc

/-- `f2345(rand)`: RES, CK, IK and AK. -/
def f2345 (m : Milenage) (rand : Bytes) : Except PyError (Bytes × Bytes × Bytes × Bytes) := do
  let temp ← m.encrypt aes (xorBytes rand m.opc)
  let out2 ← m.output aes temp 1
  let res := slice out2 8 16
  let ak := slice out2 0 6
  let ck ← m.output aes temp 2
  let ik ← m.output aes temp 3
  return (res, ck, ik, ak)

/-- `f5star(rand)`. -/
def f5star (m : Milenage) (rand : Bytes) : Except PyError Bytes := do
  let temp ← m.encrypt aes (xorBytes rand m.opc)
  return slice (← m.output aes temp 4) 0 6

/-- `authenticate(rand, autn, sqn_stored)`: RES, CK and IK, or nothing when the MAC or the sequence
number is refused. -/
def authenticate (m : Milenage) (rand autn : Bytes) (sqnStored : ℕ) :
    Except PyError (Option (Bytes × Bytes × Bytes)) := do
  if rand.length ≠ 16 ∨ autn.length ≠ 16 then
    .error (.valueError "RAND and AUTN must be 16 bytes".toList)
  else do
    let (res, ck, ik, ak) ← m.f2345 aes rand
    let sqnAk := slice autn 0 6
    let amf := slice autn 6 8
    let macAReceived := slice autn 8 16
    let sqn := xorBytes sqnAk ak
    let macAComputed ← m.f1 aes rand sqn amf
    if macAComputed ≠ macAReceived then return none
    else if fromBE sqn < sqnStored then return none
    else return some (res, ck, ik)

/-- `generate_auts(rand, sqn_stored)`. -/
def generateAuts (m : Milenage) (rand : Bytes) (sqnStored : ℕ) : Except PyError Bytes := do
  let sqnBytes ← toBE sqnStored 6
  let akStar ← m.f5star aes rand
  let concealedSqn := xorBytes sqnBytes akStar
  let amf := List.replicate 2 0
  let macS ← m.f1star aes rand sqnBytes amf
  return concealedSqn ++ macS

/-- `gsm_authenticate(rand)`: SRES and Kc. -/
def gsmAuthenticate (m : Milenage) (rand : Bytes) : Except PyError (Bytes × Bytes) := do
  let (res, ck, ik, _) ← m.f2345 aes rand
  let sres := slice res 0 4
  let kc := xorBytes (xorBytes (slice ck 0 8) (ck.drop 8)) (xorBytes (slice ik 0 8) (ik.drop 8))
  return (sres, kc)

/-! ### The two conditions of an accepted challenge -/

/-- The sequence number `AUTN[0..6] xor AK` of a challenge. -/
def challengeSqn (m : Milenage) (rand autn : Bytes) : ℕ :=
  match m.f2345 aes rand with
  | .ok (_, _, _, ak) => fromBE (xorBytes (slice autn 0 6) ak)
  | .error _ => 0

/-- RES, CK and IK of a challenge whose MAC is right. -/
def verified (m : Milenage) (rand autn : Bytes) : Option (Bytes × Bytes × Bytes) :=
  if rand.length = 16 ∧ autn.length = 16 then
    match m.f2345 aes rand with
    | .ok (res, ck, ik, ak) =>
        if m.f1 aes rand (xorBytes (slice autn 0 6) ak) (slice autn 6 8) = .ok (slice autn 8 16) then
          some (res, ck, ik)
        else none
    | .error _ => none
  else none

/-- A challenge is accepted when its MAC is right and its number is not below the stored one. -/
theorem authenticate_some_iff (m : Milenage) (rand autn : Bytes) (sqnStored : ℕ)
    (r : Bytes × Bytes × Bytes) :
    m.authenticate aes rand autn sqnStored = .ok (some r) ↔
      m.verified aes rand autn = some r ∧ sqnStored ≤ m.challengeSqn aes rand autn := by
  unfold authenticate verified challengeSqn
  by_cases hlen : rand.length = 16 ∧ autn.length = 16
  · rw [if_neg (by omega), if_pos hlen]
    cases hf : m.f2345 aes rand with
    | error e => simp [error_bind]
    | ok v =>
        obtain ⟨res, ck, ik, ak⟩ := v
        rw [ok_bind]
        cases hm : m.f1 aes rand (xorBytes (slice autn 0 6) ak) (slice autn 6 8) with
        | error e => simp [hm, error_bind]
        | ok mac =>
            simp only [hm, ok_bind]
            by_cases hmac : mac = slice autn 8 16
            · subst hmac
              simp only [ne_eq, not_true_eq_false, if_false, if_true]
              by_cases hs : fromBE (xorBytes (slice autn 0 6) ak) < sqnStored
              · rw [if_pos hs]
                refine iff_of_false ?_ (fun h => absurd h.2 (by omega))
                intro h
                cases h
              · rw [if_neg hs]
                constructor
                · intro h
                  exact ⟨Except.ok.inj h, by omega⟩
                · rintro ⟨h, -⟩
                  rw [← h]
                  rfl
            · rw [if_pos hmac, if_neg (fun h => hmac (Except.ok.inj h))]
              refine iff_of_false ?_ (fun h => by cases h.1)
              intro h
              cases h
  · rw [if_pos (by omega), if_neg hlen]
    refine iff_of_false ?_ (fun h => by cases h.1)
    intro h
    cases h

/-! ### Lengths -/

theorem encrypt_length {m : Milenage} {data b : Bytes} (h : m.encrypt aes data = .ok b) :
    b.length ≤ 16 := by
  unfold encrypt at h
  split_ifs at h with hlen hnil
  · obtain rfl := Except.ok.inj h
    exact le_of_eq (aes m.ki ⟨data, hlen⟩).2
  · obtain rfl := Except.ok.inj h
    exact Nat.zero_le _

theorem output_length {m : Milenage} {temp b : Bytes} {k : ℕ} (h : m.output aes temp k = .ok b) :
    b.length ≤ 16 := by
  obtain ⟨out, hout, h⟩ := bind_eq_ok h
  obtain rfl := Except.ok.inj h
  rw [xorBytes_length]
  exact (Nat.min_le_left _ _).trans (encrypt_length aes hout)

theorem f2345_lengths {m : Milenage} {rand res ck ik ak : Bytes}
    (h : m.f2345 aes rand = .ok (res, ck, ik, ak)) :
    res.length ≤ 8 ∧ ck.length ≤ 16 ∧ ik.length ≤ 16 := by
  obtain ⟨temp, -, h⟩ := bind_eq_ok h
  obtain ⟨out2, hout2, h⟩ := bind_eq_ok h
  obtain ⟨out3, hck, h⟩ := bind_eq_ok h
  obtain ⟨out4, hik, h⟩ := bind_eq_ok h
  obtain ⟨rfl, rfl, rfl, -⟩ : slice out2 8 16 = res ∧ out3 = ck ∧ out4 = ik ∧ slice out2 0 6 = ak := by
    simpa using Except.ok.inj h
  refine ⟨?_, output_length aes hck, output_length aes hik⟩
  have := output_length aes hout2
  rw [slice_length]
  omega

theorem verified_lengths {m : Milenage} {rand autn res ck ik : Bytes}
    (h : m.verified aes rand autn = some (res, ck, ik)) :
    res.length ≤ 8 ∧ ck.length ≤ 16 ∧ ik.length ≤ 16 := by
  unfold verified at h
  split_ifs at h with hlen
  cases hf : m.f2345 aes rand with
  | error e =>
      rw [hf] at h
      cases h
  | ok v =>
      obtain ⟨res', ck', ik', ak⟩ := v
      rw [hf] at h
      simp only at h
      split_ifs at h with hmac
      obtain ⟨rfl, rfl, rfl⟩ : res' = res ∧ ck' = ck ∧ ik' = ik := by simpa using h
      exact f2345_lengths aes hf

/-! ### Whole blocks

On 16-octet keys and challenges nothing fails, and every output has its full length. -/

@[simp] theorem rotate_length (data : Bytes) (bits : ℕ) : (rotate data bits).length = data.length := by
  unfold rotate
  split_ifs <;> simp

theorem constants_length (k : ℕ) : (constants k).length = 16 := by
  unfold constants
  split <;> rfl

theorem encrypt_block (m : Milenage) (data : Bytes) (h : data.length = 16) :
    ∃ b, m.encrypt aes data = .ok b ∧ b.length = 16 :=
  ⟨(aes m.ki ⟨data, h⟩).1, dif_pos h, (aes m.ki ⟨data, h⟩).2⟩

section Blocks

variable {m : Milenage} (hopc : m.opc.length = 16)

include hopc

theorem output_block {temp : Bytes} (ht : temp.length = 16) (k : ℕ) :
    ∃ b, m.output aes temp k = .ok b ∧ b.length = 16 := by
  obtain ⟨out, hout, hlen⟩ := encrypt_block aes m
    (xorBytes (rotate (xorBytes temp m.opc) (rotations k)) (constants k))
    (by simp [ht, hopc, constants_length])
  refine ⟨xorBytes out m.opc, ?_, by simp [hlen, hopc]⟩
  rw [output, hout]
  rfl

theorem temp_block {rand : Bytes} (hrand : rand.length = 16) :
    ∃ b, m.encrypt aes (xorBytes rand m.opc) = .ok b ∧ b.length = 16 :=
  encrypt_block aes m _ (by simp [hrand, hopc])

theorem f1Core_block {rand sqn amf : Bytes} (hrand : rand.length = 16) (hsqn : sqn.length = 6)
    (hamf : amf.length = 2) : ∃ b, m.f1Core aes rand sqn amf = .ok b ∧ b.length = 16 := by
  obtain ⟨temp, htemp, hlen⟩ := temp_block aes hopc hrand
  obtain ⟨out, hout, hlen'⟩ := encrypt_block aes m
    (xorBytes (xorBytes temp (rotate (xorBytes (sqn ++ amf ++ sqn ++ amf) m.opc) (rotations 0)))
      (constants 0)) (by simp [hlen, hsqn, hamf, hopc, constants_length])
  refine ⟨xorBytes out m.opc, ?_, by simp [hlen', hopc]⟩
  rw [f1Core, htemp, ok_bind]
  show m.encrypt aes _ >>= _ = _
  rw [hout]
  rfl

theorem f1_block {rand sqn amf : Bytes} (hrand : rand.length = 16) (hsqn : sqn.length = 6)
    (hamf : amf.length = 2) : ∃ mac, m.f1 aes rand sqn amf = .ok mac ∧ mac.length = 8 := by
  obtain ⟨b, hb, hlen⟩ := f1Core_block aes hopc hrand hsqn hamf
  refine ⟨slice b 0 8, ?_, by simp [slice_length, hlen]⟩
  rw [f1, hb]
  rfl

theorem f1star_block {rand sqn amf : Bytes} (hrand : rand.length = 16) (hsqn : sqn.length = 6)
    (hamf : amf.length = 2) : ∃ mac, m.f1star aes rand sqn amf = .ok mac ∧ mac.length = 8 := by
  obtain ⟨b, hb, hlen⟩ := f1Core_block aes hopc hrand hsqn hamf
  refine ⟨slice b 8 16, ?_, by simp [slice_length, hlen]⟩
  rw [f1star, hb]
  rfl

theorem f2345_whole {rand : Bytes} (hrand : rand.length = 16) :
    ∃ res ck ik ak, m.f2345 aes rand = .ok (res, ck, ik, ak) ∧ res.length = 8 ∧ ck.length = 16 ∧
      ik.length = 16 ∧ ak.length = 6 := by
  obtain ⟨temp, htemp, hlen⟩ := temp_block aes hopc hrand
  obtain ⟨out2, hout2, hlen2⟩ := output_block aes hopc hlen 1
  obtain ⟨ck, hck, hlenCk⟩ := output_block aes hopc hlen 2
  obtain ⟨ik, hik, hlenIk⟩ := output_block aes hopc hlen 3
  refine ⟨slice out2 8 16, ck, ik, slice out2 0 6, ?_, by simp [slice_length, hlen2], hlenCk, hlenIk,
    by simp [slice_length, hlen2]⟩
  rw [f2345, htemp, ok_bind, hout2, ok_bind, hck, ok_bind, hik]
  rfl

theorem f2345_block {rand : Bytes} (hrand : rand.length = 16) :
    ∃ res ck ik ak, m.f2345 aes rand = .ok (res, ck, ik, ak) ∧ ak.length = 6 := by
  obtain ⟨res, ck, ik, ak, hf, -, -, -, hak⟩ := f2345_whole aes hopc hrand
  exact ⟨res, ck, ik, ak, hf, hak⟩

theorem f5star_block {rand : Bytes} (hrand : rand.length = 16) :
    ∃ ak, m.f5star aes rand = .ok ak ∧ ak.length = 6 := by
  obtain ⟨temp, htemp, hlen⟩ := temp_block aes hopc hrand
  obtain ⟨out, hout, hlen'⟩ := output_block aes hopc hlen 4
  refine ⟨slice out 0 6, ?_, by simp [slice_length, hlen']⟩
  rw [f5star, htemp, ok_bind, hout]
  rfl

end Blocks

theorem computeOpc_block (ki : Bytes) {op : Bytes} (h : op.length = 16) :
    ∃ opc, computeOpc aes ki op = .ok opc ∧ opc.length = 16 := by
  refine ⟨xorBytes op (ecb aes ki 1 op), ?_, ?_⟩
  · rw [computeOpc, if_pos (by rw [h]), h]
  · have htake : (op.take 16).length = 16 := by simp [h]
    have hecb : ecb aes ki 1 op = (aes ki ⟨op.take 16, htake⟩).1 := by
      rw [ecb, dif_pos htake, ecb, List.append_nil]
    rw [hecb, xorBytes_length, h, (aes ki ⟨op.take 16, htake⟩).2, Nat.min_self]

end Cipher

end Milenage

end VirtualPhone
