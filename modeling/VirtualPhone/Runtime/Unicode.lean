import VirtualPhone.Runtime.Bytes
import Mathlib.Data.List.Chain

/-! # UTF-8 and UTF-16BE with replacement of malformed input

The two text codecs the modelled programs decode with `errors="replace"`.  A decoder never
fails: each maximal malformed stretch becomes one replacement character U+FFFD, and decoding
goes on after it.  `decodeUtf8_encodeUtf8` and `decodeUtf16_encodeUtf16` say that nothing is
replaced in what the encoders wrote, and `encodeUtf8_decodeUtf8_iff` that the octets which
survive decoding and encoding again are exactly the well-formed ones.  A continuation octet
behind an ASCII octet never is (`not_validUtf8_of_stray`). -/

namespace Runtime

/-- U+FFFD, written for malformed input. -/
def replacement : Char := Char.ofNat 0xFFFD

/-! ### UTF-8 -/

/-- `s.encode()`. -/
def encodeUtf8 (s : Text) : Bytes := s.flatMap String.utf8EncodeChar

/-- How many continuation octets a leading octet asks for, and the range of the first one. -/
def utf8Lead (b : ℕ) : Option (ℕ × ℕ × ℕ) :=
  if b < 0xC2 then none
  else if b < 0xE0 then some (1, 0x80, 0xBF)
  else if b = 0xE0 then some (2, 0xA0, 0xBF)
  else if b = 0xED then some (2, 0x80, 0x9F)
  else if b < 0xF0 then some (2, 0x80, 0xBF)
  else if b = 0xF0 then some (3, 0x90, 0xBF)
  else if b < 0xF4 then some (3, 0x80, 0xBF)
  else if b = 0xF4 then some (3, 0x80, 0x8F)
  else none

/-- A continuation octet. -/
def isCont (b : UInt8) : Bool := 0x80 ≤ b.toNat && b.toNat ≤ 0xBF

/-- `d.decode("utf-8", errors="replace")`. -/
def decodeUtf8 : Bytes → Text
  | [] => []
  | b₀ :: r₀ =>
      if b₀.toNat < 0x80 then Char.ofNat b₀.toNat :: decodeUtf8 r₀
      else match utf8Lead b₀.toNat with
        | none => replacement :: decodeUtf8 r₀
        | some (k, lo, hi) =>
            match r₀ with
            | [] => [replacement]
            | b₁ :: r₁ =>
                -- the valid prefix of a broken sequence is replaced as one unit
                if b₁.toNat < lo ∨ hi < b₁.toNat then replacement :: decodeUtf8 (b₁ :: r₁)
                else if k = 1 then
                  Char.ofNat ((b₀.toNat - 0xC0) * 64 + (b₁.toNat - 0x80)) :: decodeUtf8 r₁
                else match r₁ with
                  | [] => [replacement]
                  | b₂ :: r₂ =>
                      if !isCont b₂ then replacement :: decodeUtf8 (b₂ :: r₂)
                      else if k = 2 then
                        Char.ofNat ((b₀.toNat - 0xE0) * 4096 + (b₁.toNat - 0x80) * 64 +
                          (b₂.toNat - 0x80)) :: decodeUtf8 r₂
                      else match r₂ with
                        | [] => [replacement]
                        | b₃ :: r₃ =>
                            if !isCont b₃ then replacement :: decodeUtf8 (b₃ :: r₃)
                            else
                              Char.ofNat ((b₀.toNat - 0xF0) * 262144 + (b₁.toNat - 0x80) * 4096 +
                                (b₂.toNat - 0x80) * 64 + (b₃.toNat - 0x80)) :: decodeUtf8 r₃

/-- The octets are the encoding of some character string. -/
def ValidUtf8 (d : Bytes) : Prop := ∃ s : Text, encodeUtf8 s = d

@[simp] theorem encodeUtf8_nil : encodeUtf8 [] = [] := rfl

theorem encodeUtf8_cons (c : Char) (s : Text) :
    encodeUtf8 (c :: s) = String.utf8EncodeChar c ++ encodeUtf8 s := List.flatMap_cons

theorem encodeUtf8_append (s t : Text) : encodeUtf8 (s ++ t) = encodeUtf8 s ++ encodeUtf8 t :=
  List.flatMap_append

/-- A scalar value lies outside the surrogates. -/
theorem char_toNat_range (c : Char) : c.toNat < 0xD800 ∨ 0xDFFF < c.toNat ∧ c.toNat < 0x110000 :=
  c.valid

theorem decodeUtf8_char (c : Char) (d : Bytes) :
    decodeUtf8 (String.utf8EncodeChar c ++ d) = c :: decodeUtf8 d := by
  have hr := char_toNat_range c
  have hc : ∀ n, n = c.toNat → Char.ofNat n = c := fun n h => by rw [h, Char.ofNat_toNat]
  have enc : String.utf8EncodeChar c =
      if c.toNat ≤ 0x7f then [UInt8.ofNat c.toNat]
      else if c.toNat ≤ 0x7ff then
        [UInt8.ofNat (c.toNat / 64 % 0x20 + 0xc0), UInt8.ofNat (c.toNat % 0x40 + 0x80)]
      else if c.toNat ≤ 0xffff then
        [UInt8.ofNat (c.toNat / 4096 % 0x10 + 0xe0), UInt8.ofNat (c.toNat / 64 % 0x40 + 0x80),
          UInt8.ofNat (c.toNat % 0x40 + 0x80)]
      else
        [UInt8.ofNat (c.toNat / 262144 % 0x08 + 0xf0), UInt8.ofNat (c.toNat / 4096 % 0x40 + 0x80),
          UInt8.ofNat (c.toNat / 64 % 0x40 + 0x80), UInt8.ofNat (c.toNat % 0x40 + 0x80)] := rfl
  rw [enc]
  generalize hn : c.toNat = n at *
  split_ifs with h1 h2 h3
  · rw [List.singleton_append, decodeUtf8, toNat_ofNat_of_lt (by omega), if_pos (by omega),
      hc n rfl]
  · have e0 := toNat_ofNat_of_lt (n := n / 64 % 0x20 + 0xc0) (by omega)
    have e1 := toNat_ofNat_of_lt (n := n % 0x40 + 0x80) (by omega)
    have hl : utf8Lead (n / 64 % 0x20 + 0xc0) = some (1, 0x80, 0xBF) := by
      unfold utf8Lead
      rw [if_neg (by omega), if_pos (by omega)]
    simp only [List.cons_append, List.nil_append]
    rw [decodeUtf8, e0, if_neg (by omega), hl]
    simp only [e1]
    rw [if_neg (by omega), if_pos trivial, hc _ (by omega)]
  · have e0 := toNat_ofNat_of_lt (n := n / 4096 % 0x10 + 0xe0) (by omega)
    have e1 := toNat_ofNat_of_lt (n := n / 64 % 0x40 + 0x80) (by omega)
    have e2 := toNat_ofNat_of_lt (n := n % 0x40 + 0x80) (by omega)
    have hcont : isCont (UInt8.ofNat (n % 0x40 + 0x80)) = true := by
      simp only [isCont, e2, Bool.and_eq_true, decide_eq_true_eq]
      omega
    obtain ⟨lo, hi, hl, hlo, hhi⟩ : ∃ lo hi, utf8Lead (n / 4096 % 0x10 + 0xe0) = some (2, lo, hi) ∧
        lo ≤ n / 64 % 0x40 + 0x80 ∧ n / 64 % 0x40 + 0x80 ≤ hi := by
      unfold utf8Lead
      rw [if_neg (by omega), if_neg (by omega)]
      split_ifs with g1 g2 g3
      · exact ⟨_, _, rfl, by omega, by omega⟩
      · exact ⟨_, _, rfl, by omega, by omega⟩
      · exact ⟨_, _, rfl, by omega, by omega⟩
      all_goals omega
    simp only [List.cons_append, List.nil_append]
    rw [decodeUtf8, e0, if_neg (by omega), hl]
    simp only [e1, e2, hcont]
    rw [if_neg (by omega), if_neg (by omega), if_neg (by simp), if_pos trivial, hc _ (by omega)]
  · have e0 := toNat_ofNat_of_lt (n := n / 262144 % 0x08 + 0xf0) (by omega)
    have e1 := toNat_ofNat_of_lt (n := n / 4096 % 0x40 + 0x80) (by omega)
    have e2 := toNat_ofNat_of_lt (n := n / 64 % 0x40 + 0x80) (by omega)
    have e3 := toNat_ofNat_of_lt (n := n % 0x40 + 0x80) (by omega)
    have hcont2 : isCont (UInt8.ofNat (n / 64 % 0x40 + 0x80)) = true := by
      simp only [isCont, e2, Bool.and_eq_true, decide_eq_true_eq]
      omega
    have hcont3 : isCont (UInt8.ofNat (n % 0x40 + 0x80)) = true := by
      simp only [isCont, e3, Bool.and_eq_true, decide_eq_true_eq]
      omega
    obtain ⟨lo, hi, hl, hlo, hhi⟩ : ∃ lo hi, utf8Lead (n / 262144 % 0x08 + 0xf0) = some (3, lo, hi) ∧
        lo ≤ n / 4096 % 0x40 + 0x80 ∧ n / 4096 % 0x40 + 0x80 ≤ hi := by
      unfold utf8Lead
      rw [if_neg (by omega), if_neg (by omega), if_neg (by omega), if_neg (by omega),
        if_neg (by omega)]
      split_ifs with g1 g2 g3
      · exact ⟨_, _, rfl, by omega, by omega⟩
      · exact ⟨_, _, rfl, by omega, by omega⟩
      · exact ⟨_, _, rfl, by omega, by omega⟩
      all_goals omega
    simp only [List.cons_append, List.nil_append]
    rw [decodeUtf8, e0, if_neg (by omega), hl]
    simp only [e1, e2, e3, hcont2, hcont3]
    rw [if_neg (by omega), if_neg (by omega), if_neg (by simp), if_neg (by omega),
      if_neg (by simp), hc _ (by omega)]

/-- An encoded string in front of any octets is decoded as itself. -/
theorem decodeUtf8_append (s : Text) (d : Bytes) :
    decodeUtf8 (encodeUtf8 s ++ d) = s ++ decodeUtf8 d := by
  induction s with
  | nil => rfl
  | cons c s ih => rw [encodeUtf8_cons, List.append_assoc, decodeUtf8_char, ih]; rfl

theorem decodeUtf8_encodeUtf8 (s : Text) : decodeUtf8 (encodeUtf8 s) = s := by
  have := decodeUtf8_append s []
  simpa [decodeUtf8] using this

/-- The octets that survive decoding and encoding are the well-formed ones. -/
theorem encodeUtf8_decodeUtf8_iff (d : Bytes) :
    encodeUtf8 (decodeUtf8 d) = d ↔ ValidUtf8 d := by
  constructor
  · exact fun h => ⟨_, h⟩
  · rintro ⟨s, rfl⟩
    rw [decodeUtf8_encodeUtf8]

instance (d : Bytes) : Decidable (ValidUtf8 d) :=
  decidable_of_iff _ (encodeUtf8_decodeUtf8_iff d)

/-! ### Malformed UTF-8 -/

theorem length_encodeUtf8_cons (c : Char) (s : Text) :
    (encodeUtf8 (c :: s)).length = c.utf8Size + (encodeUtf8 s).length := by
  rw [encodeUtf8_cons, List.length_append, String.length_utf8EncodeChar]

theorem utf8Size_eq (c : Char) :
    c.utf8Size = if c.toNat ≤ 0x7F then 1 else if c.toNat ≤ 0x7FF then 2
      else if c.toNat ≤ 0xFFFF then 3 else 4 := rfl

theorem utf8Size_ofNat {n : ℕ} (h : n < 0xD800 ∨ 0xDFFF < n ∧ n < 0x110000) :
    (Char.ofNat n).utf8Size =
      if n ≤ 0x7F then 1 else if n ≤ 0x7FF then 2 else if n ≤ 0xFFFF then 3 else 4 := by
  have hn : (Char.ofNat n).toNat = n := by
    rw [Char.ofNat, dif_pos h]
    exact UInt32.toNat_ofNatLT
  rw [utf8Size_eq, hn]

theorem utf8Lead_range {b k lo hi : ℕ} (h : utf8Lead b = some (k, lo, hi)) :
    (k = 1 ∧ 0xC2 ≤ b ∧ b < 0xE0 ∧ 0x80 ≤ lo ∧ hi ≤ 0xBF) ∨
      (k = 2 ∧ 0xE0 ≤ b ∧ b < 0xF0 ∧ 0x80 ≤ lo ∧ hi ≤ 0xBF ∧ (b = 0xE0 → 0xA0 ≤ lo) ∧
        (b = 0xED → hi ≤ 0x9F)) ∨
      (k = 3 ∧ 0xF0 ≤ b ∧ b ≤ 0xF4 ∧ 0x80 ≤ lo ∧ hi ≤ 0xBF ∧ (b = 0xF0 → 0x90 ≤ lo) ∧
        (b = 0xF4 → hi ≤ 0x8F)) := by
  unfold utf8Lead at h
  split_ifs at h <;> cases h <;> omega

/-- Replacement may lengthen an octet string but never shortens it. -/
theorem length_le_encodeUtf8_decodeUtf8 (d : Bytes) :
    d.length ≤ (encodeUtf8 (decodeUtf8 d)).length := by
  have hrep : replacement.utf8Size = 3 := rfl
  have hlow : ∀ n < 0x80, (Char.ofNat n).utf8Size = 1 := by
    intro n hn
    rw [utf8Size_ofNat (by omega), if_pos (by omega)]
  fun_induction decodeUtf8 d with
  | case1 => simp
  | case2 b₀ r₀ hb ih =>
      rw [length_encodeUtf8_cons, hlow _ hb]
      simp only [List.length_cons]
      omega
  | case3 b₀ r₀ hb hlead ih =>
      rw [length_encodeUtf8_cons, hrep]
      simp only [List.length_cons]
      omega
  | case4 b₀ hb k lo hi hlead => exact Nat.le_add_left 1 2
  | case5 b₀ hb k lo hi hlead b₁ r₁ hout ih =>
      rw [length_encodeUtf8_cons, hrep]
      simp only [List.length_cons] at ih ⊢
      omega
  | case6 b₀ hb lo hi b₁ r₁ hin hlead ih =>
      have hr := utf8Lead_range hlead
      have hsize : 2 ≤ (Char.ofNat ((b₀.toNat - 0xC0) * 64 + (b₁.toNat - 0x80))).utf8Size := by
        rw [utf8Size_ofNat (by omega), if_neg (by omega)]
        split_ifs <;> omega
      rw [length_encodeUtf8_cons]
      simp only [List.length_cons]
      omega
  | case7 b₀ hb k lo hi hlead b₁ hin hk => exact Nat.le_add_left 2 1
  | case8 b₀ hb k lo hi hlead b₁ hin hk b₂ r₂ hout ih =>
      rw [length_encodeUtf8_cons, hrep]
      simp only [List.length_cons] at ih ⊢
      omega
  | case9 b₀ hb lo hi b₁ hin b₂ r₂ hcont hlead hk ih =>
      have hr := utf8Lead_range hlead
      simp only [isCont, Bool.not_eq_true', Bool.not_eq_false, Bool.and_eq_true,
        decide_eq_true_eq] at hcont
      have hsize : 3 ≤ (Char.ofNat ((b₀.toNat - 0xE0) * 4096 + (b₁.toNat - 0x80) * 64 +
          (b₂.toNat - 0x80))).utf8Size := by
        rw [utf8Size_ofNat (by omega), if_neg (by omega), if_neg (by omega)]
        split_ifs <;> omega
      rw [length_encodeUtf8_cons]
      simp only [List.length_cons]
      omega
  | case10 b₀ hb k lo hi hlead b₁ hin hk b₂ hcont hk' => exact Nat.le_refl 3
  | case11 b₀ hb k lo hi hlead b₁ hin hk b₂ hcont hk' b₃ r₃ hout ih =>
      rw [length_encodeUtf8_cons, hrep]
      simp only [List.length_cons] at ih ⊢
      omega
  | case12 b₀ hb k lo hi hlead b₁ hin hk b₂ hcont hk' b₃ r₃ hcont' ih =>
      have hr := utf8Lead_range hlead
      simp only [isCont, Bool.not_eq_true', Bool.not_eq_false, Bool.and_eq_true,
        decide_eq_true_eq] at hcont hcont'
      have hsize : 4 ≤ (Char.ofNat ((b₀.toNat - 0xF0) * 262144 + (b₁.toNat - 0x80) * 4096 +
          (b₂.toNat - 0x80) * 64 + (b₃.toNat - 0x80))).utf8Size := by
        rw [utf8Size_ofNat (by omega), if_neg (by omega), if_neg (by omega), if_neg (by omega)]
      rw [length_encodeUtf8_cons]
      simp only [List.length_cons]
      omega

/-- A character is one ASCII octet, or a leading octet and continuation octets. -/
theorem utf8EncodeChar_shape (c : Char) :
    (∃ b : UInt8, String.utf8EncodeChar c = [b] ∧ b.toNat < 0x80) ∨
      ∃ (b : UInt8) (r : Bytes), String.utf8EncodeChar c = b :: r ∧ 0xC0 ≤ b.toNat ∧
        ∀ x ∈ r, 0x80 ≤ x.toNat := by
  have hr := char_toNat_range c
  have hbyte : ∀ {n m : ℕ}, n < 256 → m ≤ n → m ≤ (UInt8.ofNat n).toNat := by
    intro n m hn hm
    rw [toNat_ofNat_of_lt hn]
    exact hm
  by_cases h1 : c.toNat ≤ 0x7F
  · refine .inl ⟨UInt8.ofNat c.toNat, if_pos h1, ?_⟩
    rw [toNat_ofNat_of_lt (by omega)]
    omega
  by_cases h2 : c.toNat ≤ 0x7FF
  · refine .inr ⟨_, _, (if_neg h1).trans (if_pos h2), hbyte (by omega) (by omega), ?_⟩
    simp only [List.forall_mem_cons]
    exact ⟨hbyte (by omega) (by omega), by simp⟩
  by_cases h3 : c.toNat ≤ 0xFFFF
  · refine .inr ⟨_, _, (if_neg h1).trans ((if_neg h2).trans (if_pos h3)),
      hbyte (by omega) (by omega), ?_⟩
    simp only [List.forall_mem_cons]
    exact ⟨hbyte (by omega) (by omega), hbyte (by omega) (by omega), by simp⟩
  · refine .inr ⟨_, _, (if_neg h1).trans ((if_neg h2).trans (if_neg h3)),
      hbyte (by omega) (by omega), ?_⟩
    simp only [List.forall_mem_cons]
    exact ⟨hbyte (by omega) (by omega), hbyte (by omega) (by omega),
      hbyte (by omega) (by omega), by simp⟩

/-- In an encoded text a continuation octet never follows an ASCII octet. -/
theorem isChain_encodeUtf8 (s : Text) :
    (encodeUtf8 s).IsChain fun a b => isCont b = true → 0x80 ≤ a.toNat := by
  have hfirst : ∀ (s : Text) (b : UInt8), b ∈ (encodeUtf8 s).head? → isCont b = false := by
    intro s b hb
    cases s with
    | nil => cases hb
    | cons c s =>
        rw [encodeUtf8_cons] at hb
        rcases utf8EncodeChar_shape c with ⟨x, hx, hlt⟩ | ⟨x, r, hx, hge, -⟩
        · rw [hx] at hb
          obtain rfl : x = b := by simpa using hb
          simp only [isCont, Bool.and_eq_false_iff, decide_eq_false_iff_not]
          omega
        · rw [hx] at hb
          obtain rfl : x = b := by simpa using hb
          simp only [isCont, Bool.and_eq_false_iff, decide_eq_false_iff_not]
          omega
  induction s with
  | nil => exact List.isChain_nil
  | cons c s ih =>
      rw [encodeUtf8_cons]
      refine List.isChain_append.mpr ⟨?_, ih, ?_⟩
      · rcases utf8EncodeChar_shape c with ⟨x, hx, -⟩ | ⟨x, r, hx, hge, hr⟩
        · rw [hx]
          exact List.isChain_singleton x
        · rw [hx]
          refine (List.Pairwise.isChain ?_)
          refine List.pairwise_of_forall_mem_list ?_
          intro a ha b _ _
          rcases List.mem_cons.mp ha with rfl | ha
          · omega
          · exact hr a ha
      · intro a _ b hb hcont
        rw [hfirst s b hb] at hcont
        cases hcont

/-- A continuation octet behind an ASCII octet is malformed. -/
theorem not_validUtf8_of_stray {p q : Bytes} {a b : UInt8} (ha : a.toNat < 0x80)
    (hb : isCont b = true) : ¬ ValidUtf8 (p ++ a :: b :: q) := by
  rintro ⟨s, hs⟩
  have hchain := isChain_encodeUtf8 s
  rw [hs] at hchain
  have := (List.isChain_append_cons_cons.mp hchain).2.1 hb
  omega

/-! ### UTF-16, big-endian -/

/-- One 16-bit code unit, most significant octet first. -/
def utf16Unit (n : ℕ) : Bytes := [UInt8.ofNat (n / 256), UInt8.ofNat (n % 256)]

/-- The code units of a character: itself, or a surrogate pair. -/
def utf16Char (c : Char) : Bytes :=
  if c.toNat < 0x10000 then utf16Unit c.toNat
  else utf16Unit (0xD800 + (c.toNat - 0x10000) / 1024) ++
    utf16Unit (0xDC00 + (c.toNat - 0x10000) % 1024)

/-- `s.encode("utf-16-be")`. -/
def encodeUtf16 (s : Text) : Bytes := s.flatMap utf16Char

/-- `d.decode("utf-16-be", errors="replace")`. -/
def decodeUtf16 : Bytes → Text
  | [] => []
  | [_] => [replacement]
  | a :: b :: r =>
      let u := a.toNat * 256 + b.toNat
      if u < 0xD800 ∨ 0xDFFF < u then Char.ofNat u :: decodeUtf16 r
      else if 0xDC00 ≤ u then replacement :: decodeUtf16 r
      else match r with
        | a' :: b' :: r' =>
            let v := a'.toNat * 256 + b'.toNat
            if 0xDC00 ≤ v ∧ v ≤ 0xDFFF then
              Char.ofNat (0x10000 + (u - 0xD800) * 1024 + (v - 0xDC00)) :: decodeUtf16 r'
            else replacement :: decodeUtf16 (a' :: b' :: r')
        -- a high surrogate with less than a unit behind it ends the text
        | _ => [replacement]

theorem encodeUtf16_cons (c : Char) (s : Text) :
    encodeUtf16 (c :: s) = utf16Char c ++ encodeUtf16 s := List.flatMap_cons

theorem utf16_unit_value {n : ℕ} (h : n < 65536) :
    (UInt8.ofNat (n / 256)).toNat * 256 + (UInt8.ofNat (n % 256)).toNat = n := by
  rw [toNat_ofNat_of_lt (by omega), toNat_ofNat_of_lt (by omega)]
  omega

theorem decodeUtf16_char (c : Char) (d : Bytes) :
    decodeUtf16 (utf16Char c ++ d) = c :: decodeUtf16 d := by
  have hr := char_toNat_range c
  have hc : ∀ n, n = c.toNat → Char.ofNat n = c := fun n h => by rw [h, Char.ofNat_toNat]
  unfold utf16Char
  split_ifs with h
  · simp only [utf16Unit, List.cons_append, List.nil_append]
    conv_lhs => unfold decodeUtf16
    simp only
    rw [utf16_unit_value (by omega), if_pos (by omega), hc _ rfl]
  · simp only [utf16Unit, List.cons_append, List.nil_append]
    conv_lhs => unfold decodeUtf16
    simp only
    rw [utf16_unit_value (by omega), utf16_unit_value (by omega), if_neg (by omega),
      if_neg (by omega), if_pos (by omega), hc _ (by omega)]

theorem decodeUtf16_encodeUtf16 (s : Text) : decodeUtf16 (encodeUtf16 s) = s := by
  induction s with
  | nil => rfl
  | cons c s ih => rw [encodeUtf16_cons, decodeUtf16_char, ih]

end Runtime
