import Mathlib.Tactic.Common
import Mathlib.Data.Nat.Digits.Defs

/-! # Octet strings

Octet strings (`Bytes`), character strings (`Text`) and the operations on them that the
modelled programs take from their language: slices that never fail, indexing and octet
construction that may, big-endian integers and hexadecimal text.  Fallible operations return
`Except PyError`. -/

namespace Runtime

/-- An octet string. -/
abbrev Bytes := List UInt8

/-- A character string; every character is a Unicode scalar value. -/
abbrev Text := List Char

instance : LawfulBEq Text := inferInstance

/-- The exceptions the modelled operations raise, with the text they carry. -/
inductive PyError
  | indexError
  | keyError (key : Text)
  | valueError (msg : Text)
  | typeError
  | attributeError
  | overflowError
  | memoryError (msg : Text)
  | runtimeError (msg : Text)
  | timeoutError (msg : Text)
  | osError
  /-- An exception class of the program itself. -/
  | exception (name msg : Text)
deriving DecidableEq, Repr

/-! ### Slices and indexing -/

/-- The slice `d[a:b]`: positions past the end are dropped silently. -/
def slice {α : Type} (d : List α) (a b : ℕ) : List α := (d.drop a).take (b - a)

/-- The octet `d[i]`. -/
def byteAt (d : Bytes) (i : ℕ) : Except PyError UInt8 :=
  match d[i]? with
  | some b => .ok b
  | none => .error .indexError

/-- The octet with value `n`; integers above 255 are refused. -/
def mkByte (n : ℕ) : Except PyError UInt8 :=
  if n < 256 then .ok (UInt8.ofNat n) else .error (.valueError "byte must be in range(0, 256)".toList)

theorem slice_append_mid {α : Type} (p x q : List α) :
    slice (p ++ x ++ q) p.length (p.length + x.length) = x := by
  simp [slice]

theorem slice_length {α : Type} (d : List α) (a b : ℕ) :
    (slice d a b).length = min (b - a) (d.length - a) := by
  simp [slice]

@[simp] theorem byteAt_append_right (p q : Bytes) (i : ℕ) :
    byteAt (p ++ q) (p.length + i) = byteAt q i := by
  unfold byteAt
  rw [List.getElem?_append_right (Nat.le_add_right _ _), Nat.add_sub_cancel_left]

@[simp] theorem byteAt_cons_zero (b : UInt8) (q : Bytes) : byteAt (b :: q) 0 = .ok b := rfl

@[simp] theorem byteAt_cons_succ (b : UInt8) (q : Bytes) (i : ℕ) :
    byteAt (b :: q) (i + 1) = byteAt q i := rfl

/-- A computation that has succeeded passes its value on. -/
@[simp] theorem ok_bind {ε α β : Type} (a : α) (f : α → Except ε β) : (Except.ok a >>= f) = f a := rfl

theorem error_bind {ε α β : Type} (e : ε) (f : α → Except ε β) :
    (Except.error e >>= f) = Except.error e := rfl

/-- A chain that succeeded had a successful first step. -/
theorem bind_eq_ok {ε α β : Type} {x : Except ε α} {f : α → Except ε β} {b : β}
    (h : x >>= f = .ok b) : ∃ a, x = .ok a ∧ f a = .ok b := by
  cases x with
  | error e => cases h
  | ok a => exact ⟨a, rfl, h⟩

theorem byteAt_append_cons (p q : Bytes) (b : UInt8) : byteAt (p ++ b :: q) p.length = .ok b :=
  byteAt_append_right p (b :: q) 0

/-- The octet behind a known prefix. -/
theorem byteAt_of_eq {d p q : Bytes} {b : UInt8} {i : ℕ} (hd : d = p ++ b :: q) (hi : i = p.length) :
    byteAt d i = .ok b := by
  rw [hd, hi, byteAt_append_cons]

/-- The slice between a known prefix and a known rest. -/
theorem slice_of_eq {α : Type} {d p x q : List α} {a b : ℕ} (hd : d = p ++ x ++ q)
    (ha : a = p.length) (hb : b = a + x.length) : slice d a b = x := by
  rw [hd, hb, ha, slice_append_mid]

theorem mkByte_of_lt {n : ℕ} (h : n < 256) : mkByte n = .ok (UInt8.ofNat n) := if_pos h

theorem mkByte_eq_ok {n : ℕ} {b : UInt8} (h : mkByte n = .ok b) :
    n < 256 ∧ b = UInt8.ofNat n := by
  unfold mkByte at h
  split_ifs at h with hn
  exact ⟨hn, (Except.ok.inj h).symm⟩

theorem toNat_ofNat_of_lt {n : ℕ} (h : n < 256) : (UInt8.ofNat n).toNat = n :=
  UInt8.toNat_ofNat_of_lt' h

/-- A property of octets that holds of all 256 values. -/
theorem forall_byte {P : UInt8 → Prop} (h : ∀ n : Fin 256, P (UInt8.ofNat n.1)) (b : UInt8) : P b := by
  have := h ⟨b.toNat, b.toNat_lt⟩
  simpa using this

/-- A property checked on every element of a list. -/
theorem forall_mem_of_all {α : Type} {P : α → Prop} [DecidablePred P] {l : List α}
    (h : (l.all fun x => decide (P x)) = true) : ∀ x ∈ l, P x := by
  simpa using h

/-- A property checked on every element of every list of a list. -/
theorem forall_mem_mem_of_all {α : Type} {P : α → Prop} [DecidablePred P] {l : List (List α)}
    (h : (l.flatten.all fun x => decide (P x)) = true) : ∀ s ∈ l, ∀ x ∈ s, P x := by
  intro s hs x hx
  exact forall_mem_of_all h x (List.mem_flatten.mpr ⟨s, hs, hx⟩)

/-! ### Big-endian integers -/

/-- `int.from_bytes(d, "big")`. -/
def fromBE (d : Bytes) : ℕ := Nat.ofDigits 256 (d.reverse.map UInt8.toNat)

/-- The `k` octets of `n mod 256^k`, most significant first. -/
def beBytes (n : ℕ) : ℕ → Bytes
  | 0 => []
  | k + 1 => UInt8.ofNat (n / 256 ^ k) :: beBytes n k

/-- `n.to_bytes(k, "big")`. -/
def toBE (n k : ℕ) : Except PyError Bytes :=
  if n < 256 ^ k then .ok (beBytes n k) else .error .overflowError

@[simp] theorem beBytes_length (n k : ℕ) : (beBytes n k).length = k := by
  induction k with
  | zero => rfl
  | succ k ih => simp [beBytes, ih]

theorem fromBE_cons (b : UInt8) (d : Bytes) : fromBE (b :: d) = b.toNat * 256 ^ d.length + fromBE d := by
  unfold fromBE
  rw [List.reverse_cons, List.map_append, Nat.ofDigits_append]
  simp [Nat.ofDigits_singleton, mul_comm, add_comm]

theorem fromBE_lt (d : Bytes) : fromBE d < 256 ^ d.length := by
  induction d with
  | nil => simp [fromBE]
  | cons b d ih =>
      rw [fromBE_cons, List.length_cons, Nat.pow_succ]
      have hb : b.toNat + 1 ≤ 256 := b.toNat_lt
      have := Nat.mul_le_mul_right (256 ^ d.length) hb
      rw [Nat.add_mul] at this
      omega

/-- Reading back the octets of an integer. -/
theorem fromBE_beBytes (n k : ℕ) : fromBE (beBytes n k) = n % 256 ^ k := by
  induction k with
  | zero => simp [beBytes, fromBE, Nat.mod_one]
  | succ k ih =>
      have hb : (UInt8.ofNat (n / 256 ^ k)).toNat = n / 256 ^ k % 256 := UInt8.toNat_ofNat'
      rw [beBytes, fromBE_cons, ih, beBytes_length, hb, Nat.pow_succ, Nat.mod_mul,
        Nat.mul_comm, Nat.add_comm]

/-- The exclusive or of two octet strings, cut to the shorter one. -/
def xorBytes (a b : Bytes) : Bytes := List.zipWith (· ^^^ ·) a b

@[simp] theorem xorBytes_length (a b : Bytes) :
    (xorBytes a b).length = min a.length b.length := by
  simp [xorBytes]

theorem xorBytes_cancel (a b : Bytes) (h : a.length ≤ b.length) :
    xorBytes (xorBytes a b) b = a := by
  induction a generalizing b with
  | nil => rfl
  | cons x a ih =>
      cases b with
      | nil => simp at h
      | cons y b =>
          have := ih b (by simpa using h)
          simp only [xorBytes, List.zipWith_cons_cons] at this ⊢
          rw [this, UInt8.xor_assoc, UInt8.xor_self, UInt8.xor_zero]

/-! ### Hexadecimal text -/

/-- The lower-case digit of a value below 16. -/
def hexDigit (n : ℕ) : Char := ("0123456789abcdef".toList).getD n '0'

/-- `d.hex()`. -/
def hex (d : Bytes) : Text := d.flatMap fun b => [hexDigit (b.toNat / 16), hexDigit (b.toNat % 16)]

/-- The value of a hexadecimal digit, in either case. -/
def hexVal (c : Char) : Option ℕ :=
  if '0' ≤ c ∧ c ≤ '9' then some (c.toNat - 48)
  else if 'a' ≤ c ∧ c ≤ 'f' then some (c.toNat - 87)
  else if 'A' ≤ c ∧ c ≤ 'F' then some (c.toNat - 55)
  else none

/-- The blanks skipped between two hexadecimal octets. -/
def isAsciiSpace (c : Char) : Bool :=
  c = ' ' || c = '\t' || c = '\n' || c = '\r' || c = '\x0b' || c = '\x0c'

/-- The error of `bytes.fromhex`. -/
def fromHexError : PyError := .valueError "non-hexadecimal number found in fromhex() arg".toList

/-- `bytes.fromhex(s)`: pairs of digits, with blanks allowed between the pairs. -/
def fromHex : Text → Except PyError Bytes
  | [] => .ok []
  | c :: cs =>
      if isAsciiSpace c then fromHex cs
      else match hexVal c, cs with
        | some h, l :: rest =>
            match hexVal l with
            | some v => (fromHex rest).map (UInt8.ofNat (16 * h + v) :: ·)
            | none => .error fromHexError
        | _, _ => .error fromHexError

theorem hexVal_hexDigit : ∀ n < 16, hexVal (hexDigit n) = some n := by decide

theorem hexVal_upper_hexDigit : ∀ n < 16, hexVal (hexDigit n).toUpper = some n := by decide

theorem isAsciiSpace_of_hexVal {c : Char} {n : ℕ} (h : hexVal c = some n) :
    isAsciiSpace c = false := by
  by_contra hs
  rw [Bool.not_eq_false] at hs
  simp only [isAsciiSpace, Bool.or_eq_true, decide_eq_true_eq] at hs
  have hnone : hexVal c = none := by
    rcases hs with (((((rfl | rfl) | rfl) | rfl) | rfl) | rfl) <;> decide
  rw [h] at hnone
  cases hnone

theorem fromHex_pair {c l : Char} {h v : ℕ} (hc : hexVal c = some h) (hl : hexVal l = some v)
    (rest : Text) :
    fromHex (c :: l :: rest) = (fromHex rest).map (UInt8.ofNat (16 * h + v) :: ·) := by
  conv_lhs => unfold fromHex
  simp only [isAsciiSpace_of_hexVal hc, hc, hl, Bool.false_eq_true, if_false]

/-- Any spelling of the digits that `hexVal` reads back gives back the octets. -/
theorem fromHex_spelling (f : Char → Char) (hf : ∀ n < 16, hexVal (f (hexDigit n)) = some n)
    (d : Bytes) : fromHex ((hex d).map f) = .ok d := by
  induction d with
  | nil => rfl
  | cons b d ih =>
      have hb : b.toNat < 256 := b.toNat_lt
      have hhi := hf (b.toNat / 16) (by omega)
      have hlo := hf (b.toNat % 16) (by omega)
      have e : (hex (b :: d)).map f =
          f (hexDigit (b.toNat / 16)) :: f (hexDigit (b.toNat % 16)) :: (hex d).map f := by
        simp [hex]
      rw [e, fromHex_pair hhi hlo, ih, Nat.div_add_mod, UInt8.ofNat_toNat]
      rfl

theorem fromHex_hex (d : Bytes) : fromHex (hex d) = .ok d := by
  simpa using fromHex_spelling id hexVal_hexDigit d

/-- The octets in front of a text are read first. -/
theorem fromHex_hex_append (d : Bytes) (s : Text) : fromHex (hex d ++ s) = (fromHex s).map (d ++ ·) := by
  induction d with
  | nil =>
      show fromHex s = (fromHex s).map id
      cases fromHex s with
      | error e => rfl
      | ok x => rfl
  | cons b d ih =>
      have hb : b.toNat < 256 := b.toNat_lt
      have hcons : hex (b :: d) ++ s = hexDigit (b.toNat / 16) :: hexDigit (b.toNat % 16) :: (hex d ++ s) := rfl
      rw [hcons, fromHex_pair (hexVal_hexDigit _ (by omega)) (hexVal_hexDigit _ (by omega)), ih, Nat.div_add_mod,
        UInt8.ofNat_toNat]
      cases fromHex s with
      | error e => rfl
      | ok x => rfl

theorem fromHex_hex_upper (d : Bytes) : fromHex ((hex d).map Char.toUpper) = .ok d :=
  fromHex_spelling Char.toUpper hexVal_upper_hexDigit d

end Runtime
