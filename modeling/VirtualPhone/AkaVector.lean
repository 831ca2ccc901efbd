import VirtualPhone.Milenage
import VirtualPhone.Runtime.Params

/-! # Authentication vectors (`scripts/provision_epdg.py`)

The network side of AKA.  Both builders of the repository compute MAC-A, the outputs of f2 to f5 and
the token `(SQN xor AK) || AMF || MAC-A` from a fresh RAND; `networkVector` is that computation.
`generateQuintuplets` fills the table of the ePDG with it.

`authenticate_networkVector` is what the card says to such a token: it returns the vector's RES, CK
and IK up to its own sequence number, and nothing below.  `generateAuts_recovers` is the way back. -/

namespace VirtualPhone

open Runtime

/-- AUTN, XRES, CK and IK of one vector. -/
structure NetworkVector where
  autn : Bytes
  xres : Bytes
  ck : Bytes
  ik : Bytes
deriving DecidableEq, Repr

/-- One row of the `quintuplets` table. -/
structure Quintuplet where
  permanent : Text
  rand : Bytes
  autn : Bytes
  ik : Bytes
  ck : Bytes
  res : Bytes
deriving DecidableEq, Repr

namespace Milenage

theorem new_of_lengths {ki opc : Bytes} (hki : ki.length = 16) (hopc : opc.length = 16) :
    Milenage.new ki opc = .ok ⟨ki, opc⟩ := by
  rw [Milenage.new, if_neg (not_not.mpr hki), if_neg (not_not.mpr hopc)]

variable (aes : Bytes → Block → Block)

/-- `mac_a = mil.f1(rand, sqn, amf)`, `mil.f2345(rand)` and the token built from them. -/
def networkVector (m : Milenage) (rand sqn amf : Bytes) : Except PyError NetworkVector := do
  let macA ← m.f1 aes rand sqn amf
  let (res, ck, ik, ak) ← m.f2345 aes rand
  let sqnXorAk := xorBytes sqn ak
  return ⟨sqnXorAk ++ amf ++ macA, res, ck, ik⟩

/-- What the card returns for a challenge with this vector: its outputs, or nothing when the stored
number is above `sqn`. -/
def Answers (m : Milenage) (rand : Bytes) (v : NetworkVector) (sqn : ℕ) : Prop :=
  ∀ stored < 2 ^ 48,
    m.authenticate aes rand v.autn stored = .ok (if stored ≤ sqn then some (v.xres, v.ck, v.ik) else none)

/-- A vector of whole blocks is built without an error, and its token has 16 octets. -/
theorem networkVector_block {m : Milenage} (hopc : m.opc.length = 16) {rand sqn amf : Bytes}
    (hrand : rand.length = 16) (hsqn : sqn.length = 6) (hamf : amf.length = 2) :
    ∃ v, m.networkVector aes rand sqn amf = .ok v ∧ v.autn.length = 16 := by
  obtain ⟨mac, hmac, hmaclen⟩ := f1_block aes hopc hrand hsqn hamf
  obtain ⟨res, ck, ik, ak, hf, hak⟩ := f2345_block aes hopc hrand
  refine ⟨⟨xorBytes sqn ak ++ amf ++ mac, res, ck, ik⟩, ?_, by simp [hsqn, hak, hamf, hmaclen]⟩
  rw [networkVector, hmac, ok_bind, hf]
  rfl

/-- **The card and the network agree** on every vector the network builds. -/
theorem authenticate_networkVector {m : Milenage} (hopc : m.opc.length = 16) {rand amf : Bytes}
    (hrand : rand.length = 16) (hamf : amf.length = 2) {sqn : ℕ} (hsqn : sqn < 2 ^ 48)
    {v : NetworkVector} (hv : m.networkVector aes rand (beBytes sqn 6) amf = .ok v) :
    m.Answers aes rand v sqn := by
  obtain ⟨mac, hmac, hmaclen⟩ := f1_block aes hopc hrand (beBytes_length sqn 6) hamf
  obtain ⟨res, ck, ik, ak, hf, hak⟩ := f2345_block aes hopc hrand
  rw [networkVector, hmac, ok_bind, hf, ok_bind] at hv
  obtain rfl := Except.ok.inj hv
  have hhead : (xorBytes (beBytes sqn 6) ak).length = 6 := by simp [hak]
  have hlen : (xorBytes (beBytes sqn 6) ak ++ amf ++ mac).length = 16 := by
    simp [hak, hamf, hmaclen]
  have hsizes : ¬ (rand.length ≠ 16 ∨ (xorBytes (beBytes sqn 6) ak ++ amf ++ mac).length ≠ 16) := by
    rw [hlen, hrand]
    simp
  have hsqnAk : slice (xorBytes (beBytes sqn 6) ak ++ amf ++ mac) 0 6 = xorBytes (beBytes sqn 6) ak :=
    slice_of_eq (p := []) (q := amf ++ mac) (by simp) rfl (by rw [hhead])
  have hfield : slice (xorBytes (beBytes sqn 6) ak ++ amf ++ mac) 6 8 = amf :=
    slice_of_eq (p := xorBytes (beBytes sqn 6) ak) (q := mac) rfl hhead.symm (by rw [hamf])
  have hmacA : slice (xorBytes (beBytes sqn 6) ak ++ amf ++ mac) 8 16 = mac :=
    slice_of_eq (p := xorBytes (beBytes sqn 6) ak ++ amf) (q := []) (by simp)
      (by rw [List.length_append, hhead, hamf]) (by rw [hmaclen])
  have hback : xorBytes (xorBytes (beBytes sqn 6) ak) ak = beBytes sqn 6 :=
    xorBytes_cancel _ _ (by simp [hak])
  have hvalue : fromBE (beBytes sqn 6) = sqn := by
    rw [fromBE_beBytes, Nat.mod_eq_of_lt (by omega)]
  intro stored _
  rw [authenticate, if_neg hsizes, hf, ok_bind]
  simp only [hsqnAk, hfield, hmacA, hback, hmac, ok_bind, ne_eq, not_true_eq_false, if_false, hvalue]
  by_cases hs : stored ≤ sqn
  · rw [if_neg (by omega), if_pos hs]
    rfl
  · rw [if_pos (by omega), if_neg hs]
    rfl

/-- **Resynchronisation.**  AUTS conceals the stored number under f5* and carries its MAC-S. -/
theorem generateAuts_recovers {m : Milenage} (hopc : m.opc.length = 16) {rand : Bytes}
    (hrand : rand.length = 16) {stored : ℕ} (hstored : stored < 2 ^ 48) :
    ∃ auts akStar, m.generateAuts aes rand stored = .ok auts ∧ auts.length = 14 ∧
      m.f5star aes rand = .ok akStar ∧ fromBE (xorBytes (slice auts 0 6) akStar) = stored ∧
      m.f1star aes rand (beBytes stored 6) (List.replicate 2 0) = .ok (slice auts 6 14) := by
  obtain ⟨ak, hf5, hak⟩ := f5star_block aes hopc hrand
  have hzero : (List.replicate 2 (0 : UInt8)).length = 2 := rfl
  obtain ⟨mac, hmac, hmaclen⟩ := f1star_block aes hopc hrand (beBytes_length stored 6) hzero
  have hhead : (xorBytes (beBytes stored 6) ak).length = 6 := by simp [hak]
  have hconcealed : slice (xorBytes (beBytes stored 6) ak ++ mac) 0 6 = xorBytes (beBytes stored 6) ak :=
    slice_of_eq (p := []) (q := mac) (by simp) rfl (by rw [hhead])
  have hmacS : slice (xorBytes (beBytes stored 6) ak ++ mac) 6 14 = mac :=
    slice_of_eq (p := xorBytes (beBytes stored 6) ak) (q := []) (by simp) hhead.symm (by rw [hmaclen])
  refine ⟨xorBytes (beBytes stored 6) ak ++ mac, ak, ?_, by simp [hak, hmaclen], hf5, ?_, ?_⟩
  · rw [generateAuts, toBE, if_pos (by omega), ok_bind, hf5, ok_bind]
    show m.f1star aes rand (beBytes stored 6) (List.replicate 2 0) >>= _ = _
    rw [hmac]
    rfl
  · rw [hconcealed, xorBytes_cancel _ _ (by simp [hak]), fromBE_beBytes, Nat.mod_eq_of_lt (by omega)]
  · rw [hmacS, hmac]

/-! ### The table of the ePDG -/

/-- The loop of `generate_quintuplets` from round `i` on; `rand i` is `os.urandom(16)` of a round. -/
def quintuplets (m : Milenage) (permanent : Text) (amf : Bytes) (sqnStart : ℕ) (rand : ℕ → Block) :
    ℕ → ℕ → Except PyError (List Quintuplet)
  | _, 0 => return []
  | i, count + 1 => do
      let sqnVal := sqnStart + i * 32
      let sqn ← toBE sqnVal 6
      let v ← m.networkVector aes (rand i).1 sqn amf
      let rest ← quintuplets m permanent amf sqnStart rand (i + 1) count
      return ⟨permanent, (rand i).1, v.autn, v.ik, v.ck, v.xres⟩ :: rest

/-- `generate_quintuplets(ki, opc, imsi, count, sqn_start)`. -/
def generateQuintuplets (ki opc : Bytes) (imsi : Text) (count sqnStart : ℕ) (rand : ℕ → Block) :
    Except PyError (List Quintuplet) := do
  let mil ← Milenage.new ki opc
  let mcc := slice imsi 0 3
  let mnc := zfill (slice imsi 3 5) 3
  let permanent := '0' :: imsi ++ "@nai.epc.mnc".toList ++ mnc ++ ".mcc".toList ++ mcc ++
    ".3gppnetwork.org".toList
  let amf := [0x80, 0x00]
  mil.quintuplets aes permanent amf sqnStart rand 0 count

/-- The rows from round `i` on: one for each round, with the vector of its sequence number. -/
theorem quintuplets_rows {m : Milenage} (hopc : m.opc.length = 16) (permanent : Text) {amf : Bytes}
    (hamf : amf.length = 2) {sqnStart : ℕ} (rand : ℕ → Block) (i count : ℕ)
    (hsqn : ∀ j < count, sqnStart + (i + j) * 32 < 2 ^ 48) :
    ∃ rows, m.quintuplets aes permanent amf sqnStart rand i count = .ok rows ∧ rows.length = count ∧
      ∀ j row, rows[j]? = some row →
        row.rand = (rand (i + j)).1 ∧
          m.Answers aes row.rand ⟨row.autn, row.res, row.ck, row.ik⟩ (sqnStart + (i + j) * 32) := by
  induction count generalizing i with
  | zero => exact ⟨[], rfl, rfl, fun j row h => by cases h⟩
  | succ count ih =>
      have hlt : sqnStart + i * 32 < 2 ^ 48 := hsqn 0 (Nat.succ_pos _)
      have hnext : ∀ j < count, sqnStart + (i + 1 + j) * 32 < 2 ^ 48 := by
        intro j hj
        have := hsqn (j + 1) (by omega)
        rwa [show i + 1 + j = i + (j + 1) by omega]
      obtain ⟨v, hv, -⟩ := networkVector_block aes hopc (rand i).2 (beBytes_length (sqnStart + i * 32) 6)
        hamf
      obtain ⟨rows, hrows, hlen, hall⟩ := ih (i + 1) hnext
      refine ⟨⟨permanent, (rand i).1, v.autn, v.ik, v.ck, v.xres⟩ :: rows, ?_, by simp [hlen], ?_⟩
      · rw [quintuplets]
        simp only [toBE]
        rw [if_pos (by omega), ok_bind, hv, ok_bind, hrows]
        rfl
      · intro j row hj
        cases j with
        | zero =>
            obtain rfl := Option.some.inj hj
            exact ⟨rfl, authenticate_networkVector aes hopc (rand i).2 hamf hlt hv⟩
        | succ j =>
            have := hall j row hj
            rwa [show i + 1 + j = i + (j + 1) by omega] at this

end Milenage

end VirtualPhone
