import VirtualPhone.Runtime.BitPack
import VirtualPhone.Runtime.Text

/-! # The GSM 7-bit alphabet and BCD digits (`ims/sms_pdu.py`)

`encodeGsm7` maps every character to a septet of the default alphabet (the escape code is never
written, unmappable characters become `?`) and packs the septets with a bit accumulator;
`decodeGsm7` unpacks as many septets as it is told.  `encodeBcd` and `decodeBcd` write and read
telephone digits as swapped nibbles with a filler in the last octet.

`decodeGsm7_encodeGsm7` and `decodeBcd_encodeBcd` are the round trips the PDU decoders rest on. -/

namespace VirtualPhone

open Runtime

/-! ### The default alphabet -/

/-- The escape code, which has a place in the table and is never written. -/
def escape : Char := '\x1b'

/-- `GSM7_BASIC`, the characters of the 128 septet values. -/
def gsm7Basic : Text :=
  "@£$¥èéùìòÇ\nØø\rÅå".toList ++
    "Δ_ΦΓΛΩΠΨΣΘΞ\x1bÆæßÉ".toList ++
    " !\"#¤%&'()*+,-./".toList ++
    "0123456789:;<=>?".toList ++
    "¡ABCDEFGHIJKLMNO".toList ++
    "PQRSTUVWXYZÄÖÑÜÀ".toList ++
    "¿abcdefghijklmno".toList ++
    "pqrstuvwxyzäöñüà".toList

/-- `GSM7_ENCODE.get(c)`. -/
def gsm7Encode (c : Char) : Option ℕ :=
  if c ∈ gsm7Basic ∧ c ≠ escape then some (gsm7Basic.idxOf c) else none

/-- The septet of a character; `?` stands for unmappable ones. -/
def gsm7Septet (c : Char) : ℕ :=
  match gsm7Encode c with
  | some code => code
  | none => (gsm7Encode '?').getD 0x3F

/-- `encode_gsm7(text)`. -/
def encodeGsm7 (text : Text) : Bytes := packDigits 7 (text.map gsm7Septet)

/-- The character of a septet. -/
def gsm7Char (septet : ℕ) : Char :=
  if septet < gsm7Basic.length then gsm7Basic.getD septet '?' else '?'

/-- `decode_gsm7(data, num_septets)`. -/
def decodeGsm7 (data : Bytes) (numSeptets : ℕ) : Text :=
  (List.range numSeptets).map fun i => gsm7Char (digitAt 7 (bitsOf data) i)

/-- The characters that survive the alphabet: those of the table, without the escape code. -/
def InGsm7 (c : Char) : Prop := c ∈ gsm7Basic ∧ c ≠ escape

instance (c : Char) : Decidable (InGsm7 c) := inferInstanceAs (Decidable (_ ∧ _))

theorem gsm7Basic_length : gsm7Basic.length = 128 := by decide +kernel

theorem gsm7Basic_nodup : gsm7Basic.Nodup := by decide +kernel

theorem idxOf_escape : gsm7Basic.idxOf escape = 0x1B := by decide +kernel

-- the table is looked up, never unfolded, in what follows
attribute [irreducible] gsm7Basic

theorem gsm7Encode_of_inGsm7 {c : Char} (h : InGsm7 c) :
    gsm7Encode c = some (gsm7Basic.idxOf c) := by
  unfold gsm7Encode
  exact if_pos h

theorem gsm7Septet_of_inGsm7 {c : Char} (h : InGsm7 c) : gsm7Septet c = gsm7Basic.idxOf c := by
  rw [gsm7Septet, gsm7Encode_of_inGsm7 h]

theorem inGsm7_question : InGsm7 '?' := by decide +kernel

theorem gsm7Septet_of_not {c : Char} (h : ¬ InGsm7 c) : gsm7Septet c = gsm7Septet '?' := by
  have hc : gsm7Encode c = none := by
    unfold gsm7Encode
    exact if_neg h
  have hq : gsm7Encode '?' = some (gsm7Basic.idxOf '?') := gsm7Encode_of_inGsm7 inGsm7_question
  rw [gsm7Septet_of_inGsm7 inGsm7_question, gsm7Septet, hc]
  show (gsm7Encode '?').getD 0x3F = _
  rw [hq, Option.getD_some]

theorem gsm7Septet_lt (c : Char) : gsm7Septet c < 2 ^ 7 := by
  have hlt : ∀ c, InGsm7 c → gsm7Septet c < 2 ^ 7 := by
    intro c h
    rw [gsm7Septet_of_inGsm7 h]
    have := List.idxOf_lt_length_iff.mpr h.1
    rw [gsm7Basic_length] at this
    omega
  by_cases h : InGsm7 c
  · exact hlt c h
  · rw [gsm7Septet_of_not h]
    exact hlt '?' inGsm7_question

theorem gsm7Char_septet {c : Char} (h : InGsm7 c) : gsm7Char (gsm7Septet c) = c := by
  have hlt : gsm7Basic.idxOf c < gsm7Basic.length := List.idxOf_lt_length_iff.mpr h.1
  rw [gsm7Septet_of_inGsm7 h, gsm7Char, if_pos hlt, List.getD_eq_getElem?_getD,
    List.getElem?_eq_getElem hlt, Option.getD_some]
  exact List.getElem_idxOf hlt

theorem gsm7Char_gsm7Septet (c : Char) :
    gsm7Char (gsm7Septet c) = if InGsm7 c then c else '?' := by
  split_ifs with h
  · exact gsm7Char_septet h
  · rw [gsm7Septet_of_not h, gsm7Char_septet inGsm7_question]

theorem encodeGsm7_length (text : Text) : (encodeGsm7 text).length = (7 * text.length + 7) / 8 := by
  have hlt : ∀ d ∈ text.map gsm7Septet, d < 2 ^ 7 := by
    simpa using fun c _ => gsm7Septet_lt c
  rw [encodeGsm7, packDigits_length hlt, List.length_map]

theorem decodeGsm7_encodeGsm7_map (text : Text) :
    decodeGsm7 (encodeGsm7 text) text.length = text.map fun c => if InGsm7 c then c else '?' := by
  have hlt : ∀ d ∈ text.map gsm7Septet, d < 2 ^ 7 := by
    simpa using fun c _ => gsm7Septet_lt c
  have hdigits := digitAt_packDigits hlt
  rw [List.length_map] at hdigits
  calc decodeGsm7 (encodeGsm7 text) text.length
      = ((List.range text.length).map (digitAt 7 (bitsOf (encodeGsm7 text)))).map gsm7Char := by
        rw [decodeGsm7, List.map_map]; rfl
    _ = (text.map gsm7Septet).map gsm7Char := by rw [encodeGsm7, hdigits]
    _ = text.map fun c => if InGsm7 c then c else '?' := by
        rw [List.map_map]
        refine List.map_congr_left ?_
        intro c _
        exact gsm7Char_gsm7Septet c

theorem decodeGsm7_encodeGsm7 {text : Text} (h : ∀ c ∈ text, InGsm7 c) :
    decodeGsm7 (encodeGsm7 text) text.length = text := by
  rw [decodeGsm7_encodeGsm7_map]
  calc text.map (fun c => if InGsm7 c then c else '?')
      = text.map id := by
        refine List.map_congr_left ?_
        intro c hc
        rw [if_pos (h c hc), id]
    _ = text := List.map_id text

/-- A septet is the septet of its character, unless it is the escape code. -/
theorem gsm7Septet_gsm7Char {septet : ℕ} (h : septet < 2 ^ 7) (hescape : septet ≠ 0x1B) :
    gsm7Septet (gsm7Char septet) = septet := by
  have hlt : septet < gsm7Basic.length := by rwa [gsm7Basic_length]
  have hchar : gsm7Char septet = gsm7Basic[septet] := by
    rw [gsm7Char, if_pos hlt, List.getD_eq_getElem?_getD, List.getElem?_eq_getElem hlt, Option.getD_some]
  have hidx : gsm7Basic.idxOf gsm7Basic[septet] = septet := gsm7Basic_nodup.idxOf_getElem septet hlt
  have hin : InGsm7 (gsm7Char septet) := by
    refine ⟨hchar ▸ List.getElem_mem hlt, fun heq => hescape ?_⟩
    rw [← hidx, ← hchar, heq, idxOf_escape]
  rw [gsm7Septet_of_inGsm7 hin, hchar, hidx]

/-- Octets that are `n` septets without an escape code, and no bit above them, are the packing of the
text they decode to. -/
theorem encodeGsm7_decodeGsm7 {data : Bytes} {n : ℕ} (hlength : data.length = (7 * n + 7) / 8)
    (hescape : ∀ i < n, digitAt 7 (bitsOf data) i ≠ 0x1B) (hunused : bitsOf data < 2 ^ (7 * n)) :
    encodeGsm7 (decodeGsm7 data n) = data := by
  have hseptets : (decodeGsm7 data n).map gsm7Septet = (List.range n).map (digitAt 7 (bitsOf data)) := by
    rw [decodeGsm7, List.map_map]
    refine List.map_congr_left ?_
    intro i hi
    exact gsm7Septet_gsm7Char (digitAt_lt 7 _ i) (hescape i (List.mem_range.mp hi))
  rw [encodeGsm7, hseptets]
  exact packDigits_digitAt hlength hunused

/-- **GSM 7-bit packing.**  A text of `n` characters takes `⌈7n / 8⌉` octets, and is read back with `?`
for every character that the alphabet does not have; octets that are `n` septets without an escape
code, and whose unused bits are zero, are read and written back as they are. -/
theorem gsm7_packing :
    (∀ text : Text, (encodeGsm7 text).length = (7 * text.length + 7) / 8 ∧
      decodeGsm7 (encodeGsm7 text) text.length = text.map fun c => if InGsm7 c then c else '?') ∧
    ∀ (n : ℕ) (data : Bytes), data.length = (7 * n + 7) / 8 →
      (∀ i < n, digitAt 7 (bitsOf data) i ≠ 0x1B) → bitsOf data < 2 ^ (7 * n) →
      encodeGsm7 (decodeGsm7 data n) = data :=
  ⟨fun text => ⟨encodeGsm7_length text, decodeGsm7_encodeGsm7_map text⟩,
    fun _ _ hlength hescape hunused => encodeGsm7_decodeGsm7 hlength hescape hunused⟩

/-- The octets of `hello`. -/
theorem gsm7_packing_hello :
    encodeGsm7 (decodeGsm7 [0xE8, 0x32, 0x9B, 0xFD, 0x06] 5) = [0xE8, 0x32, 0x9B, 0xFD, 0x06] :=
  gsm7_packing.2 5 [0xE8, 0x32, 0x9B, 0xFD, 0x06] (by decide) (by decide) (by decide)

/-! ### BCD digits -/

/-- `encode_bcd(digits)`: two digits an octet, the first in the low nibble. -/
def encodeBcd : Text → Except PyError Bytes
  | [] => .ok []
  | [c] => do
      let low ← digitValue c
      return [UInt8.ofNat ((0x0F <<< 4) ||| low)]
  | c :: d :: digits => do
      let low ← digitValue c
      let high ← digitValue d
      let rest ← encodeBcd digits
      return UInt8.ofNat ((high <<< 4) ||| low) :: rest

/-- One octet of `decode_bcd`: its nibbles below ten, the high one only while digits are wanted. -/
def decodeBcdStep (numDigits : ℕ) (digits : Text) (byte : UInt8) : Text :=
  let low := byte.toNat &&& 0x0F
  let high := (byte.toNat >>> 4) &&& 0x0F
  let digits := if low ≤ 9 then digits ++ [digitChar low] else digits
  if high ≤ 9 ∧ digits.length < numDigits then digits ++ [digitChar high] else digits

/-- `decode_bcd(data, num_digits)`. -/
def decodeBcd (data : Bytes) (numDigits : ℕ) : Text :=
  (data.foldl (decodeBcdStep numDigits) []).take numDigits

theorem nibbles_lt {low high : ℕ} (hl : low < 16) (hh : high < 16) : (high <<< 4) ||| low < 256 := by
  rw [Nat.or_comm, or_shiftLeft_eq_add (c := 4) (by omega)]
  omega

theorem nibbles_toNat {low high : ℕ} (hl : low < 16) (hh : high < 16) :
    (UInt8.ofNat ((high <<< 4) ||| low)).toNat = low + 16 * high := by
  rw [toNat_ofNat_of_lt (nibbles_lt hl hh), Nat.or_comm, or_shiftLeft_eq_add (c := 4) (by omega)]
  norm_num

theorem low_nibble {low high : ℕ} (hl : low < 16) (hh : high < 16) :
    (UInt8.ofNat ((high <<< 4) ||| low)).toNat &&& 0x0F = low := by
  rw [nibbles_toNat hl hh, show (0x0F : ℕ) = 2 ^ 4 - 1 from rfl, and_mask]
  omega

theorem high_nibble {low high : ℕ} (hl : low < 16) (hh : high < 16) :
    (UInt8.ofNat ((high <<< 4) ||| low)).toNat >>> 4 &&& 0x0F = high := by
  rw [nibbles_toNat hl hh, show (0x0F : ℕ) = 2 ^ 4 - 1 from rfl, and_mask,
    Nat.shiftRight_eq_div_pow]
  omega

theorem decodeBcdStep_nibbles {low high : ℕ} (hl : low ≤ 9) (hh : high < 16) (n : ℕ) (pre : Text) :
    decodeBcdStep n pre (UInt8.ofNat ((high <<< 4) ||| low)) =
      if high ≤ 9 ∧ pre.length + 1 < n then pre ++ [digitChar low, digitChar high]
      else pre ++ [digitChar low] := by
  simp only [decodeBcdStep]
  rw [low_nibble (by omega) hh, high_nibble (by omega) hh, if_pos hl, List.length_append,
    List.length_singleton, List.append_assoc]
  rfl

/-- The octets of a digit string, and what the decoding loop reads from them. -/
theorem encodeBcd_spec {digits : Text} (h : ∀ c ∈ digits, IsDigit c) :
    ∃ bcd, encodeBcd digits = .ok bcd ∧ bcd.length = (digits.length + 1) / 2 ∧
      ∀ pre n, pre.length + digits.length ≤ n →
        bcd.foldl (decodeBcdStep n) pre = pre ++ digits := by
  fun_induction encodeBcd digits with
  | case1 => exact ⟨[], rfl, rfl, fun pre n _ => by simp⟩
  | case2 c =>
      have hc := h c (by simp)
      have hc' := hc.toNat
      refine ⟨[UInt8.ofNat ((0x0F <<< 4) ||| (c.toNat - 48))], ?_, by simp, ?_⟩
      · rw [digitValue_of_isDigit hc]; rfl
      · intro pre n _
        rw [List.foldl_cons, List.foldl_nil, decodeBcdStep_nibbles (by omega) (by omega),
          if_neg (by omega), digitChar_of_isDigit hc]
  | case3 c d digits ih =>
      have hc := h c (by simp)
      have hd := h d (by simp)
      have hc' := hc.toNat
      have hd' := hd.toNat
      obtain ⟨bcd, he, hlen, hdec⟩ := ih fun x hx => h x (by simp [hx])
      refine ⟨UInt8.ofNat (((d.toNat - 48) <<< 4) ||| (c.toNat - 48)) :: bcd, ?_, ?_, ?_⟩
      · rw [digitValue_of_isDigit hc, digitValue_of_isDigit hd, he]; rfl
      · simp only [List.length_cons, hlen]
        omega
      · intro pre n hn
        simp only [List.length_cons] at hn
        rw [List.foldl_cons]
        have hstep : decodeBcdStep n pre
            (UInt8.ofNat (((d.toNat - 48) <<< 4) ||| (c.toNat - 48))) = pre ++ [c, d] := by
          rw [decodeBcdStep_nibbles (by omega) (by omega), if_pos (by omega),
            digitChar_of_isDigit hc, digitChar_of_isDigit hd]
        rw [hstep, hdec _ _ (by simp; omega), List.append_assoc]
        rfl

theorem decodeBcd_encodeBcd {digits : Text} (h : ∀ c ∈ digits, IsDigit c) :
    ∃ bcd, encodeBcd digits = .ok bcd ∧ bcd.length = (digits.length + 1) / 2 ∧
      decodeBcd bcd digits.length = digits := by
  obtain ⟨bcd, he, hlen, hdec⟩ := encodeBcd_spec h
  refine ⟨bcd, he, hlen, ?_⟩
  rw [decodeBcd, hdec [] digits.length (by simp), List.nil_append, List.take_length]

end VirtualPhone
