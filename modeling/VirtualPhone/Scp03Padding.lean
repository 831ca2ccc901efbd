import VirtualPhone.Scp03Responses
import Mathlib.Data.List.Induction
import Mathlib.Order.Bounds.Basic

/-! # The padding of SCP03 (`euicc/crypto/scp03.py`)

`_pad` and `_unpad` are two loops: one puts zeros behind the marker 80 until the data is whole blocks,
the other goes back over zeros to the marker.  The session model uses what they come to, `pad` and
`unpad`; here are the loops, and that they come to it.

Only the last marker counts, so data that ends in 80, or in 80 and zeros, loses nothing. -/

namespace VirtualPhone

open Runtime

namespace Scp03

/-! ### The loop of `_pad` -/

/-- `while len(padded) % 16: padded += b"\x00"`. -/
def padLoop (padded : Bytes) : Bytes :=
  if padded.length % 16 = 0 then padded else padLoop (padded ++ [0])
termination_by (16 - padded.length % 16) % 16
decreasing_by
  rw [List.length_append, List.length_singleton]
  omega

theorem padLoop_eq (padded : Bytes) :
    padLoop padded = padded ++ List.replicate ((16 - padded.length % 16) % 16) 0 := by
  fun_induction padLoop padded with
  | case1 padded hwhole => simp [hwhole]
  | case2 padded hcut ih =>
      have hone : (16 - padded.length % 16) % 16 = (16 - (padded ++ [0]).length % 16) % 16 + 1 := by
        rw [List.length_append, List.length_singleton]
        omega
      rw [ih, hone, List.replicate_succ, List.append_assoc]
      rfl

theorem pad_eq_padLoop (data : Bytes) : pad data = padLoop (data ++ [0x80]) := by
  rw [padLoop_eq, pad, List.length_append, List.length_singleton, List.append_assoc]
  rfl

/-! ### The loop of `_unpad` -/

/-- `while i >= 0 and data[i] == 0x00: i -= 1`, from `i` on, where `0` stands for `-1`. -/
def scanZeros (data : Bytes) : ℕ → ℕ
  | 0 => 0
  | i + 1 => if data[i]? = some 0 then scanZeros data i else i + 1

/-- `_unpad(data)` with its loop. -/
def unpadLoop (data : Bytes) : Bytes :=
  match scanZeros data data.length with
  | 0 => data
  | i + 1 => if data[i]? = some 0x80 then data.take i else data

theorem scanZeros_append (data more : Bytes) {i : ℕ} (h : i ≤ data.length) :
    scanZeros (data ++ more) i = scanZeros data i := by
  induction i with
  | zero => rfl
  | succ i ih =>
      rw [scanZeros, scanZeros, List.getElem?_append_left (by omega), ih (by omega)]

theorem scanZeros_length (data : Bytes) :
    scanZeros data data.length = (data.reverse.dropWhile (· = 0)).length := by
  induction data using List.reverseRecOn with
  | nil => rfl
  | append_singleton data b ih =>
      rw [List.length_append, List.length_singleton, scanZeros, List.getElem?_concat_length,
        List.reverse_concat]
      by_cases hb : b = 0
      · rw [if_pos (congrArg some hb), scanZeros_append data [b] le_rfl, ih,
          List.dropWhile_cons, if_pos (decide_eq_true hb)]
      · rw [if_neg fun heq => hb (Option.some.inj heq), List.dropWhile_cons,
          if_neg (by simpa using hb), List.length_cons, List.length_reverse]

theorem unpad_eq_unpadLoop (data : Bytes) : unpad data = unpadLoop data := by
  obtain ⟨kept, hkept⟩ : ∃ kept, kept = data.reverse.dropWhile (· = 0) := ⟨_, rfl⟩
  have hfront : data = kept.reverse ++ (data.reverse.takeWhile (· = 0)).reverse := by
    rw [hkept, ← List.reverse_append, List.takeWhile_append_dropWhile, List.reverse_reverse]
  unfold unpad unpadLoop
  rw [scanZeros_length, ← hkept]
  cases kept with
  | nil => rfl
  | cons b rest =>
      have hlast : data[rest.length]? = some b := by
        rw [hfront, List.reverse_cons, List.append_assoc, List.getElem?_append_right (by simp)]
        simp
      have htake : data.take rest.length = rest.reverse := by
        rw [hfront, List.reverse_cons, List.append_assoc, ← List.length_reverse, List.take_left]
      rw [List.length_cons]
      dsimp only
      rw [hlast, htake]
      by_cases hb : b = 0x80
      · subst hb
        rfl
      · rw [if_neg fun heq => hb (Option.some.inj heq)]
        split
        · next heq => exact absurd (List.cons.inj heq).1 hb
        · rfl

/-! ### Both loops -/

/-- Padded data is the shortest number of whole blocks that the data does not fill. -/
theorem pad_isLeast (data : Bytes) : IsLeast {n | 16 ∣ n ∧ data.length < n} (pad data).length := by
  have hwhole := pad_length data
  have hlength : (pad data).length = data.length + 1 + (16 - (data.length + 1) % 16) % 16 := by
    rw [pad, List.length_append, List.length_cons, List.length_replicate]
    omega
  refine ⟨⟨Nat.dvd_of_mod_eq_zero hwhole, by omega⟩, ?_⟩
  rintro n ⟨⟨blocks, rfl⟩, hlt⟩
  omega

/-- **The padding comes off as it was put on**, and makes the data as little longer as whole blocks
allow. -/
theorem padding_inverse (data : Bytes) :
    unpadLoop (padLoop (data ++ [0x80])) = data ∧
      IsLeast {n | 16 ∣ n ∧ data.length < n} (padLoop (data ++ [0x80])).length := by
  rw [← pad_eq_padLoop, ← unpad_eq_unpadLoop]
  exact ⟨unpad_pad data, pad_isLeast data⟩

/-- Data that looks like padding. -/
example : unpadLoop (padLoop ([1, 0x80, 0, 0] ++ [0x80])) = [1, 0x80, 0, 0] := by
  rw [padLoop_eq]
  decide

end Scp03

end VirtualPhone
