import VirtualPhone.Runtime.Text

/-! # Base64

`b64encode` writes three octets as four characters and pads the last group.  `b64decode` is the
lenient reader of the language: a state machine over the characters that skips everything outside
the alphabet and stops at a closing pad sequence.  `b64decode_b64encode` says that it reads back
what was written. -/

namespace Runtime

/-- The 64 digits. -/
def base64Alphabet : Text :=
  "ABCDEFGHIJKLMNOPQRSTUVWXYZabcdefghijklmnopqrstuvwxyz0123456789+/".toList

/-- The digit with value `n`. -/
def base64Digit (n : ℕ) : Char := base64Alphabet.getD n 'A'

/-- The value of a digit. -/
def base64Value (c : Char) : Option ℕ :=
  if 'A' ≤ c ∧ c ≤ 'Z' then some (c.toNat - 65)
  else if 'a' ≤ c ∧ c ≤ 'z' then some (c.toNat - 71)
  else if '0' ≤ c ∧ c ≤ '9' then some (c.toNat + 4)
  else if c = '+' then some 62
  else if c = '/' then some 63
  else none

/-- `base64.b64encode(d)`. -/
def b64encode : Bytes → Text
  | [] => []
  | [a] => [base64Digit (a.toNat / 4), base64Digit (a.toNat % 4 * 16), '=', '=']
  | [a, b] =>
      [base64Digit (a.toNat / 4), base64Digit (a.toNat % 4 * 16 + b.toNat / 16),
        base64Digit (b.toNat % 16 * 4), '=']
  | a :: b :: c :: r =>
      base64Digit (a.toNat / 4) :: base64Digit (a.toNat % 4 * 16 + b.toNat / 16) ::
        base64Digit (b.toNat % 16 * 4 + c.toNat / 64) :: base64Digit (c.toNat % 64) :: b64encode r

/-- The error for a text that ends inside a group, with `n` octets read. -/
def base64Error (quadPos n : ℕ) : PyError :=
  if quadPos = 1 then
    .valueError ("Invalid base64-encoded string: number of data characters (".toList ++
      natText (n / 3 * 4 + 1) ++ ") cannot be 1 more than a multiple of 4".toList)
  else .valueError "Incorrect padding".toList

/-- The reader: `out` is what has been written, `quadPos` the place in the group of four,
`leftchar` the bits not written yet and `pads` the pad characters since the last digit. -/
def a2bBase64 (out : Bytes) (quadPos leftchar pads : ℕ) : Text → Except PyError Bytes
  | [] => if quadPos = 0 then .ok out else .error (base64Error quadPos out.length)
  | c :: cs =>
      if c = '=' then
        if 2 ≤ quadPos then
          if 4 ≤ quadPos + (pads + 1) then .ok out
          else a2bBase64 out quadPos leftchar (pads + 1) cs
        else a2bBase64 out quadPos leftchar pads cs
      else
        match base64Value c with
        | none => a2bBase64 out quadPos leftchar pads cs
        | some v =>
            match quadPos with
            | 0 => a2bBase64 out 1 v 0 cs
            | 1 => a2bBase64 (out ++ [UInt8.ofNat (leftchar * 4 + v / 16)]) 2 (v % 16) 0 cs
            | 2 => a2bBase64 (out ++ [UInt8.ofNat (leftchar * 16 + v / 4)]) 3 (v % 4) 0 cs
            | _ => a2bBase64 (out ++ [UInt8.ofNat (leftchar * 64 + v)]) 0 0 0 cs

/-- `base64.b64decode(s)` of a character string. -/
def b64decode (s : Text) : Except PyError Bytes :=
  if s.all (fun c => c.toNat < 128) then a2bBase64 [] 0 0 0 s
  else .error (.valueError "string argument should contain only ASCII characters".toList)

/-! ### The alphabet -/

theorem base64Value_base64Digit : ∀ n < 64, base64Value (base64Digit n) = some n := by decide +kernel

theorem base64Digit_mem (n : ℕ) : base64Digit n ∈ base64Alphabet := by
  rw [base64Digit, List.getD_eq_getElem?_getD]
  cases h : base64Alphabet[n]? with
  | none => exact List.mem_cons_self ..
  | some c => exact List.mem_of_getElem? h

theorem base64Digit_ne_pad {n : ℕ} (h : n < 64) : base64Digit n ≠ '=' := by
  intro heq
  have := base64Value_base64Digit n h
  rw [heq] at this
  cases this

theorem mem_b64encode {d : Bytes} {c : Char} (h : c ∈ b64encode d) :
    c ∈ base64Alphabet ∨ c = '=' := by
  fun_induction b64encode d with
  | case1 => cases h
  | case2 a =>
      rcases List.mem_cons.mp h with rfl | h
      · exact .inl (base64Digit_mem _)
      rcases List.mem_cons.mp h with rfl | h
      · exact .inl (base64Digit_mem _)
      · exact .inr (by simpa using h)
  | case3 a b =>
      rcases List.mem_cons.mp h with rfl | h
      · exact .inl (base64Digit_mem _)
      rcases List.mem_cons.mp h with rfl | h
      · exact .inl (base64Digit_mem _)
      rcases List.mem_cons.mp h with rfl | h
      · exact .inl (base64Digit_mem _)
      · exact .inr (by simpa using h)
  | case4 a b c r ih =>
      rcases List.mem_cons.mp h with rfl | h
      · exact .inl (base64Digit_mem _)
      rcases List.mem_cons.mp h with rfl | h
      · exact .inl (base64Digit_mem _)
      rcases List.mem_cons.mp h with rfl | h
      · exact .inl (base64Digit_mem _)
      rcases List.mem_cons.mp h with rfl | h
      · exact .inl (base64Digit_mem _)
      · exact ih h

/-- What the digits and the pad have in common, an encoding has. -/
theorem forall_mem_b64encode {P : Char → Prop} [DecidablePred P]
    (h : ((('=' :: base64Alphabet).all fun c => decide (P c))) = true) (d : Bytes) :
    ∀ c ∈ b64encode d, P c := by
  intro c hc
  apply forall_mem_of_all h
  rcases mem_b64encode hc with hc | rfl
  · exact List.mem_cons_of_mem _ hc
  · exact List.mem_cons_self ..

theorem b64encode_ne_nil {d : Bytes} (h : d ≠ []) : b64encode d ≠ [] := by
  fun_cases b64encode d <;> simp_all

/-! ### The round trip -/

theorem a2bBase64_digit (out : Bytes) (quadPos leftchar pads : ℕ) {v : ℕ} (h : v < 64) (cs : Text) :
    a2bBase64 out quadPos leftchar pads (base64Digit v :: cs) =
      match quadPos with
      | 0 => a2bBase64 out 1 v 0 cs
      | 1 => a2bBase64 (out ++ [UInt8.ofNat (leftchar * 4 + v / 16)]) 2 (v % 16) 0 cs
      | 2 => a2bBase64 (out ++ [UInt8.ofNat (leftchar * 16 + v / 4)]) 3 (v % 4) 0 cs
      | _ => a2bBase64 (out ++ [UInt8.ofNat (leftchar * 64 + v)]) 0 0 0 cs := by
  conv_lhs => unfold a2bBase64
  rw [if_neg (base64Digit_ne_pad h)]
  simp only [base64Value_base64Digit v h]

/-- **The reader takes the groups of an encoding one by one.** -/
theorem a2bBase64_b64encode (d out : Bytes) :
    a2bBase64 out 0 0 0 (b64encode d) = .ok (out ++ d) := by
  fun_induction b64encode d generalizing out with
  | case1 => simp [a2bBase64]
  | case2 a =>
      have ha := a.toNat_lt
      rw [a2bBase64_digit _ _ _ _ (by omega)]
      simp only
      rw [a2bBase64_digit _ _ _ _ (by omega)]
      have h1 : a.toNat / 4 * 4 + a.toNat % 4 * 16 / 16 = a.toNat := by omega
      rw [h1, UInt8.ofNat_toNat]
      rfl
  | case3 a b =>
      have ha := a.toNat_lt
      have hb := b.toNat_lt
      rw [a2bBase64_digit _ _ _ _ (by omega)]
      simp only
      rw [a2bBase64_digit _ _ _ _ (by omega)]
      simp only
      rw [a2bBase64_digit _ _ _ _ (by omega)]
      have h1 : a.toNat / 4 * 4 + (a.toNat % 4 * 16 + b.toNat / 16) / 16 = a.toNat := by omega
      have h2 : (a.toNat % 4 * 16 + b.toNat / 16) % 16 * 16 + b.toNat % 16 * 4 / 4 = b.toNat := by
        omega
      simp only [h1, h2, UInt8.ofNat_toNat, List.append_assoc]
      rfl
  | case4 a b c r ih =>
      have ha := a.toNat_lt
      have hb := b.toNat_lt
      have hc := c.toNat_lt
      rw [a2bBase64_digit _ _ _ _ (by omega)]
      simp only
      rw [a2bBase64_digit _ _ _ _ (by omega)]
      simp only
      rw [a2bBase64_digit _ _ _ _ (by omega)]
      simp only
      rw [a2bBase64_digit _ _ _ _ (by omega)]
      simp only
      have h1 : a.toNat / 4 * 4 + (a.toNat % 4 * 16 + b.toNat / 16) / 16 = a.toNat := by omega
      have h2 : (a.toNat % 4 * 16 + b.toNat / 16) % 16 * 16 +
          (b.toNat % 16 * 4 + c.toNat / 64) / 4 = b.toNat := by omega
      have h3 : (b.toNat % 16 * 4 + c.toNat / 64) % 4 * 64 + c.toNat % 64 = c.toNat := by omega
      rw [h1, h2, h3, UInt8.ofNat_toNat, UInt8.ofNat_toNat, UInt8.ofNat_toNat, ih]
      simp

/-- **Round trip.**  Decoding an encoding gives the octets back. -/
theorem b64decode_b64encode (d : Bytes) : b64decode (b64encode d) = .ok d := by
  have hascii : (b64encode d).all (fun c => c.toNat < 128) = true := by
    rw [List.all_eq_true]
    intro c hc
    rw [decide_eq_true_eq]
    exact forall_mem_b64encode (P := fun c => c.toNat < 128) (by decide) d c hc
  rw [b64decode, if_pos hascii, a2bBase64_b64encode, List.nil_append]

end Runtime
