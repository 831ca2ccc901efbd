import VirtualPhone.UntypedHandler

/-! # One elementary file and the others (`euicc/apdu/handler.py`)

`_read_ef` encodes every file of the profile and then picks one, so a field that one file cannot encode
takes all files with it.  `Isdp.Readable` says which profiles have no such field, whatever values the
fields hold, and `reads_alike_iff` when the answers for two profiles are the same. -/

namespace VirtualPhone

namespace Untyped

open Runtime

variable {F : Type}

/-! ### What the encoders accept -/

/-- The value is an octet. -/
def IsOctet (n : ℤ) : Prop := 0 ≤ n ∧ n < 256

/-- Digits that can be packed into octets, two and two. -/
def Packs : List ℤ → Prop
  | [] => True
  | [d] => IsOctet (Int.lor d (0xF * 16))
  | d :: e :: digits => IsOctet (Int.lor d (e * 16)) ∧ Packs digits

/-- A string without lone surrogates. -/
def IsText (v : PyValue F) : Prop := ∃ s : PyStr, v = .scalar (.str s) ∧ s.toText?.isSome = true

/-- The value as a string has no lone surrogates. -/
def Prints (L : PyLibrary F) (v : PyValue F) : Prop := ∃ s : PyStr, L.str v = .ok s ∧ s.toText?.isSome = true

/-- An IMSI for EF_IMSI: a string of digits, or a list of values that `int` takes to nibbles. -/
def ImsiFits (L : PyLibrary F) : PyValue F → Prop
  | .scalar (.str s) => (∀ c ∈ s, c.IsDecimal) ∧ (s.length + 1) / 2 + 1 < 256
  | .list items => (∃ digits, items.mapM L.int = .ok digits ∧ (∀ d ∈ digits.head?, 0 ≤ d ∧ d < 16) ∧
      Packs digits.tail) ∧ (items.length + 1) / 2 + 1 < 256
  | _ => False

/-- A number for EF_MSISDN: nothing, or a string of digits behind plus signs. -/
def MsisdnFits (L : PyLibrary F) (msisdn : PyValue F) : Prop :=
  L.truthy msisdn = true → ∃ s : PyStr, msisdn = .scalar (.str s) ∧
    (∀ c ∈ s.dropWhile (· = .char '+'), c.IsDecimal) ∧
    ((s.dropWhile (· = .char '+')).length + 1) / 2 + 1 < 256

/-- A digit of a PLMN, or the filler. -/
def IsPlmnDigit (c : CodePoint) : Prop := c = .char 'F' ∨ c = .char 'f' ∨ c.IsDecimal

/-- The names for the three files of the ISIM, given or derived. -/
def Isdp.IsimFits (L : PyLibrary F) (p : Isdp F) : Prop :=
  if L.truthy p.impi then IsText p.impi ∧ IsText p.impu ∧ IsText p.homeDomain
  else Prints L p.imsi ∧
    if L.truthy p.homeDomain then IsText p.homeDomain else Prints L p.mnc ∧ Prints L p.mcc

/-- No field of the profile stops a file from being encoded. -/
structure Isdp.Readable (L : PyLibrary F) (p : Isdp F) : Prop where
  imsi : ImsiFits L p.imsi
  iccid : ∃ s, p.iccid = .str s ∧ ∀ c ∈ s, c.IsDecimal
  spn : IsText p.spn
  msisdn : MsisdnFits L p.msisdn
  plmn : ∃ mcc mnc : PyStr, p.mcc = .scalar (.str mcc) ∧ p.mnc = .scalar (.str mnc) ∧
    (∀ c ∈ mcc.take 3 ++ mnc.take 3, IsPlmnDigit c) ∧ mnc.length < 256
  isim : p.IsimFits L

/-- The profiles agree on what the file holds. -/
def AgreeOn (L : PyLibrary F) (fileId : ℕ) (p q : Isdp F) : Prop :=
  match fileId with
  | 0x6F07 => p.imsi = q.imsi
  | 0x2FE2 => p.iccid = q.iccid
  | 0x6F46 => p.spn = q.spn
  | 0x6F40 => p.msisdn = q.msisdn
  | 0x6F31 => p.mcc = q.mcc ∧ p.mnc = q.mnc
  | 0x6FAD => p.mnc.asStr.map List.length = q.mnc.asStr.map List.length
  | 0x6F02 => (p.getIsimData L).toOption.map (·.impi) = (q.getIsimData L).toOption.map (·.impi)
  | 0x6F04 => (p.getIsimData L).toOption.map (·.impu) = (q.getIsimData L).toOption.map (·.impu)
  | 0x6F03 =>
      (p.getIsimData L).toOption.map (·.homeDomain) = (q.getIsimData L).toOption.map (·.homeDomain)
  | _ => True

theorem bind_isOk_iff {α β : Type} (x : Except PyError α) (f : α → Except PyError β) :
    (∃ b, (x >>= f) = .ok b) ↔ ∃ a, x = .ok a ∧ ∃ b, f a = .ok b := by
  constructor
  · rintro ⟨b, hb⟩
    obtain ⟨a, ha, hb⟩ := bind_eq_ok hb
    exact ⟨a, ha, b, hb⟩
  · rintro ⟨a, rfl, b, hb⟩
    exact ⟨b, hb⟩

theorem pure_isOk_iff {α : Type} (a : α) : (∃ b, (pure a : Except PyError α) = .ok b) ↔ True :=
  iff_true_intro ⟨a, rfl⟩

theorem mkByte_isOk_iff (n : ℕ) : (∃ b, mkByte n = .ok b) ↔ n < 256 := by
  constructor
  · rintro ⟨b, hb⟩
    exact (mkByte_eq_ok hb).1
  · exact fun h => ⟨_, mkByte_of_lt h⟩

theorem digitValue_isOk_iff (c : Char) : (∃ d, digitValue c = .ok d) ↔ isDecimal c = true := by
  rw [digitValue, isDecimal]
  cases decimalValue c with
  | none => simp
  | some d => simp

theorem asStr_eq_ok_iff {v : PyValue F} {s : PyStr} : v.asStr = .ok s ↔ v = .scalar (.str s) := by
  cases v with
  | scalar v => cases v <;> simp [PyValue.asStr]
  | list items => simp [PyValue.asStr]
  | dict entries => simp [PyValue.asStr]

theorem encode_isOk_iff (v : PyValue F) : (∃ data, v.encode = .ok data) ↔ IsText v := by
  cases v with
  | scalar v =>
      cases v with
      | str s =>
          refine (PyStr.encode_isOk_iff s).trans ⟨fun h => ⟨s, rfl, h⟩, ?_⟩
          rintro ⟨s', hs', h⟩
          obtain rfl := PyScalar.str.inj (PyValue.scalar.inj hs')
          exact h
      | _ => simp [PyValue.encode, IsText]
  | list items => simp [PyValue.encode, IsText]
  | dict entries => simp [PyValue.encode, IsText]

/-! Digits. -/

theorem mapM_isOk {α β : Type} {f : α → Except PyError β} {l : List α} (h : ∀ a ∈ l, ∃ b, f a = .ok b) :
    ∃ bs, l.mapM f = .ok bs := by
  induction l with
  | nil => exact ⟨[], rfl⟩
  | cons a l ih =>
      obtain ⟨b, hb⟩ := h a List.mem_cons_self
      obtain ⟨bs, hbs⟩ := ih fun a ha => h a (List.mem_cons_of_mem _ ha)
      exact ⟨b :: bs, by rw [List.mapM_cons, hb, ok_bind, hbs]; rfl⟩

theorem mapM_cons_eq_ok {α β : Type} {f : α → Except PyError β} {a : α} {l : List α} {bs : List β}
    (h : (a :: l).mapM f = .ok bs) : ∃ b rest, f a = .ok b ∧ l.mapM f = .ok rest ∧ bs = b :: rest := by
  rw [List.mapM_cons] at h
  obtain ⟨b, hb, h⟩ := bind_eq_ok h
  obtain ⟨rest, hrest, h⟩ := bind_eq_ok h
  exact ⟨b, rest, hb, hrest, (Except.ok.inj h).symm⟩

variable (L : PyLibrary F)

theorem packDigitPairs_isOk_iff (items : List (PyValue F)) :
    (∃ bcd, packDigitPairs L items = .ok bcd) ↔ ∃ digits, items.mapM L.int = .ok digits ∧ Packs digits := by
  induction items using packDigitPairs.induct with
  | case1 => exact ⟨fun _ => ⟨[], rfl, trivial⟩, fun _ => ⟨[], rfl⟩⟩
  | case2 c =>
      simp only [packDigitPairs, bind_isOk_iff, pure_isOk_iff, and_true, byteOfInt_isOk_iff]
      constructor
      · rintro ⟨d, hd, h⟩
        exact ⟨[d], by rw [List.mapM_cons, hd]; rfl, h⟩
      · rintro ⟨digits, hdigits, h⟩
        obtain ⟨d, rest, hd, hrest, rfl⟩ := mapM_cons_eq_ok hdigits
        obtain rfl := Except.ok.inj hrest
        exact ⟨d, hd, h⟩
  | case3 c d digits ih =>
      simp only [packDigitPairs, bind_isOk_iff, pure_isOk_iff, and_true, exists_and_right,
        byteOfInt_isOk_iff, ih]
      constructor
      · rintro ⟨d1, hd1, d2, hd2, hoctet, rest, hrest, hpacks⟩
        refine ⟨d1 :: d2 :: rest, ?_, hoctet, hpacks⟩
        rw [List.mapM_cons, hd1, ok_bind, List.mapM_cons, hd2, ok_bind, hrest]
        rfl
      · rintro ⟨values, hvalues, hpacks⟩
        obtain ⟨d1, rest, hd1, hrest, rfl⟩ := mapM_cons_eq_ok hvalues
        obtain ⟨d2, rest', hd2, hrest', rfl⟩ := mapM_cons_eq_ok hrest
        exact ⟨d1, hd1, d2, hd2, hpacks.1, rest', hrest', hpacks.2⟩

theorem int_character (c : CodePoint) :
    L.int (.scalar (.str [c])) = match c with
      | .char c => (digitValue c).map Int.ofNat
      | .surrogate _ => .error intError := by
  cases c with
  | char c => exact pyInt_singleton c
  | surrogate n => rfl

theorem int_character_range {c : CodePoint} {d : ℤ} (h : L.int (.scalar (.str [c])) = .ok d) :
    c.IsDecimal ∧ 0 ≤ d ∧ d < 10 := by
  rw [int_character] at h
  cases c with
  | surrogate n => cases h
  | char c =>
      cases hc : decimalValue c with
      | none => simp [digitValue, hc, Except.map] at h
      | some v =>
          have hv : (v : ℤ) = d := by
            simpa [digitValue, hc, Except.map] using h
          have hlt := decimalValue_lt hc
          exact ⟨⟨c, rfl, by rw [isDecimal, hc]; rfl⟩, by omega, by omega⟩

theorem int_character_isOk {c : CodePoint} (h : c.IsDecimal) : ∃ d, L.int (.scalar (.str [c])) = .ok d := by
  obtain ⟨a, rfl, ha⟩ := h
  obtain ⟨v, hv⟩ := (digitValue_isOk_iff a).mpr ha
  refine ⟨v, (int_character L _).trans ?_⟩
  simp only [hv]
  rfl

theorem isOctet_of_nibbles {d e : ℤ} (hd : 0 ≤ d ∧ d < 16) (he : 0 ≤ e ∧ e < 16) :
    IsOctet (Int.lor d (e * 16)) := by
  obtain ⟨m, rfl⟩ := Int.eq_ofNat_of_zero_le hd.1
  obtain ⟨n, rfl⟩ := Int.eq_ofNat_of_zero_le he.1
  have hall : ∀ m < 16, ∀ n < 16, m ||| n * 16 < 256 := by decide
  have hlt := hall m (by omega) n (by omega)
  have hlor : Int.lor m ((n : ℤ) * 16) = ((m ||| n * 16 : ℕ) : ℤ) := rfl
  rw [hlor]
  exact ⟨by omega, by omega⟩

theorem packs_of_digits {digits : List ℤ} (h : ∀ d ∈ digits, 0 ≤ d ∧ d < 16) : Packs digits := by
  induction digits using Packs.induct with
  | case1 => trivial
  | case2 d => exact isOctet_of_nibbles (h d List.mem_cons_self) (by decide)
  | case3 d e digits ih =>
      have hd := h d List.mem_cons_self
      have he := h e (List.mem_cons_of_mem _ List.mem_cons_self)
      have hrest : ∀ d ∈ digits, 0 ≤ d ∧ d < 16 := fun d hd =>
        h d (List.mem_cons_of_mem _ (List.mem_cons_of_mem _ hd))
      exact ⟨isOctet_of_nibbles hd he, ih hrest⟩

theorem mapM_characters_isOk_iff (s : PyStr) :
    (∃ digits, (characters s).mapM L.int = .ok digits) ↔ ∀ c ∈ s, c.IsDecimal := by
  constructor
  · rintro ⟨digits, h⟩ c hc
    induction s generalizing digits with
    | nil => cases hc
    | cons a s ih =>
        obtain ⟨d, rest, hd, hrest, rfl⟩ := mapM_cons_eq_ok h
        rcases List.mem_cons.mp hc with rfl | hc
        · exact (int_character_range L hd).1
        · exact ih rest hrest hc
  · intro h
    refine mapM_isOk fun v hv => ?_
    obtain ⟨c, hc, rfl⟩ := List.mem_map.mp hv
    exact int_character_isOk L (h c hc)

theorem mapM_characters_range {s : PyStr} {digits : List ℤ} (h : (characters s).mapM L.int = .ok digits) :
    digits.length = s.length ∧ ∀ d ∈ digits, 0 ≤ d ∧ d < 16 := by
  induction s generalizing digits with
  | nil =>
      obtain rfl := Except.ok.inj h
      exact ⟨rfl, fun d hd => by cases hd⟩
  | cons c s ih =>
      obtain ⟨d, rest, hd, hrest, rfl⟩ := mapM_cons_eq_ok h
      obtain ⟨hlength, hrange⟩ := ih hrest
      obtain ⟨-, hlo, hhi⟩ := int_character_range L hd
      refine ⟨congrArg (· + 1) hlength, ?_⟩
      rw [List.forall_mem_cons]
      exact ⟨⟨hlo, by omega⟩, hrange⟩

theorem packDigitPairs_characters_isOk_iff (s : PyStr) :
    (∃ bcd, packDigitPairs L (characters s) = .ok bcd) ↔ ∀ c ∈ s, c.IsDecimal := by
  rw [packDigitPairs_isOk_iff, ← mapM_characters_isOk_iff L]
  constructor
  · rintro ⟨digits, h, -⟩
    exact ⟨digits, h⟩
  · rintro ⟨digits, h⟩
    exact ⟨digits, h, packs_of_digits (mapM_characters_range L h).2⟩

theorem packDigitPairs_length {items : List (PyValue F)} {bcd : Bytes}
    (h : packDigitPairs L items = .ok bcd) : bcd.length = (items.length + 1) / 2 := by
  induction items using packDigitPairs.induct generalizing bcd with
  | case1 =>
      obtain rfl := Except.ok.inj h
      simp
  | case2 c =>
      obtain ⟨d, -, h⟩ := bind_eq_ok h
      obtain ⟨octet, -, h⟩ := bind_eq_ok h
      obtain rfl := Except.ok.inj h
      simp
  | case3 c d digits ih =>
      obtain ⟨d1, -, h⟩ := bind_eq_ok h
      obtain ⟨d2, -, h⟩ := bind_eq_ok h
      obtain ⟨octet, -, h⟩ := bind_eq_ok h
      obtain ⟨rest, hrest, h⟩ := bind_eq_ok h
      obtain rfl := Except.ok.inj h
      have hlength := ih hrest
      simp only [List.length_cons]
      omega

theorem isOctet_lor_iff {p d : ℤ} (hp : 0 ≤ p ∧ p < 16) : IsOctet (Int.lor p (d * 16)) ↔ 0 ≤ d ∧ d < 16 := by
  refine ⟨fun h => ?_, fun h => isOctet_of_nibbles hp h⟩
  obtain ⟨m, rfl⟩ := Int.eq_ofNat_of_zero_le hp.1
  cases d with
  | ofNat n =>
      have hlor : Int.lor m (Int.ofNat n * 16) = ((m ||| n * 16 : ℕ) : ℤ) := rfl
      have hle : n * 16 ≤ m ||| n * 16 := Nat.right_le_or
      have hlt := h.2
      rw [hlor] at hlt
      exact ⟨Int.natCast_nonneg n, by rw [Int.ofNat_eq_natCast]; omega⟩
  | negSucc n =>
      have hshift : Int.negSucc n * 16 = Int.negSucc (n * 16 + 15) := by omega
      rw [hshift] at h
      exact absurd h.1 (not_le.mpr (Int.negSucc_lt_zero _))

theorem encodeImsi_items_isOk_iff {imsi : PyValue F} {items : List (PyValue F)}
    (h : imsi.sequence = .ok items) :
    (∃ data, encodeImsi L imsi = .ok data) ↔
      (∃ digits, items.mapM L.int = .ok digits ∧ (∀ d ∈ digits.head?, 0 ≤ d ∧ d < 16) ∧
        Packs digits.tail) ∧ (items.length + 1) / 2 + 1 < 256 := by
  rw [encodeImsi, h, ok_bind]
  cases items with
  | nil =>
      have hlength : (([] : List (PyValue F)).length + 1) / 2 + 1 = 1 := by simp
      rw [hlength, List.length_nil, Nat.zero_and]
      exact iff_of_true ⟨[1, 1], rfl⟩ ⟨⟨[], rfl, by simp, trivial⟩, by decide⟩
  | cons c items =>
      have hparity : (0 : ℤ) ≤ (if (c :: items).length &&& 1 ≠ 0 then 0x09 else 0x01) ∧
          (if (c :: items).length &&& 1 ≠ 0 then 0x09 else 0x01 : ℤ) < 16 := by split <;> decide
      have hoctet : ∀ d : ℤ, (∃ b, byteOfInt
          (Int.lor (if (c :: items).length &&& 1 ≠ 0 then 0x09 else 0x01) (d * 16)) = .ok b) ↔
            0 ≤ d ∧ d < 16 :=
        fun d => (byteOfInt_isOk_iff _).trans (isOctet_lor_iff hparity)
      simp only [bind_isOk_iff, pure_isOk_iff, and_true, exists_and_right, mkByte_isOk_iff, hoctet,
        packDigitPairs_isOk_iff, List.tail_cons]
      rw [and_comm]
      refine and_congr_left' ⟨?_, ?_⟩
      · rintro ⟨d, hd, hrange, digits, hdigits, hpacks⟩
        refine ⟨d :: digits, by rw [List.mapM_cons, hd, ok_bind, hdigits]; rfl, ?_, hpacks⟩
        rintro e ⟨⟩
        exact hrange
      · rintro ⟨values, hvalues, hhead, hpacks⟩
        obtain ⟨d, rest, hd, hrest, rfl⟩ := mapM_cons_eq_ok hvalues
        exact ⟨d, hd, hhead d rfl, rest, hrest, hpacks⟩

theorem encodeImsi_isOk_iff (imsi : PyValue F) :
    (∃ data, encodeImsi L imsi = .ok data) ↔ ImsiFits L imsi := by
  cases imsi with
  | list items => exact encodeImsi_items_isOk_iff L rfl
  | dict entries => cases entries <;> simp [encodeImsi, PyValue.sequence, ImsiFits, error_bind]
  | scalar v =>
      cases v with
      | str s =>
          have hsequence : PyValue.sequence (F := F) (.scalar (.str s)) = .ok (characters s) := rfl
          rw [encodeImsi_items_isOk_iff L hsequence, ImsiFits,
            ← mapM_characters_isOk_iff L, characters, List.length_map]
          refine and_congr_left' ⟨?_, ?_⟩
          · rintro ⟨digits, h, -⟩
            exact ⟨digits, h⟩
          · rintro ⟨digits, h⟩
            have hrange := (mapM_characters_range L h).2
            refine ⟨digits, h, fun d hd => hrange d (List.mem_of_mem_head? hd), ?_⟩
            exact packs_of_digits fun d hd => hrange d (List.mem_of_mem_tail hd)
      | _ => simp [encodeImsi, PyValue.sequence, ImsiFits, error_bind]

theorem encodeBcd_isOk_iff (iccid : PyScalar F) :
    (∃ data, encodeBcd L iccid = .ok data) ↔ ∃ s, iccid = .str s ∧ ∀ c ∈ s, c.IsDecimal := by
  cases iccid with
  | str s =>
      rw [encodeBcd, PyValue.sequence, ok_bind]
      refine (packDigitPairs_characters_isOk_iff L s).trans ⟨fun h => ⟨s, rfl, h⟩, ?_⟩
      rintro ⟨s', hs', h⟩
      obtain rfl := PyScalar.str.inj hs'
      exact h
  | _ => simp [encodeBcd, PyValue.sequence, error_bind]

theorem encodeMsisdn_isOk_iff (msisdn : PyValue F) :
    (∃ data, encodeMsisdn L msisdn = .ok data) ↔ MsisdnFits L msisdn := by
  unfold encodeMsisdn MsisdnFits
  by_cases htruthy : L.truthy msisdn = true
  · rw [if_pos htruthy]
    simp only [htruthy, true_implies, bind_isOk_iff, pure_isOk_iff, and_true, mkByte_isOk_iff,
      asStr_eq_ok_iff]
    refine exists_congr fun s => and_congr_right' ?_
    rw [← packDigitPairs_characters_isOk_iff L]
    constructor
    · rintro ⟨bcd, hbcd, hlength⟩
      have hhalf := packDigitPairs_length L hbcd
      rw [characters, List.length_map] at hhalf
      exact ⟨⟨bcd, hbcd⟩, hhalf ▸ hlength⟩
    · rintro ⟨⟨bcd, hbcd⟩, hlength⟩
      have hhalf := packDigitPairs_length L hbcd
      rw [characters, List.length_map] at hhalf
      exact ⟨bcd, hbcd, hhalf ▸ hlength⟩
  · rw [if_neg htruthy]
    exact ⟨fun _ h => absurd h htruthy, fun _ => ⟨_, rfl⟩⟩

theorem plmnNibble_isOk_iff (c : CodePoint) : (∃ d, plmnNibble c = .ok d) ↔ IsPlmnDigit c := by
  cases c with
  | surrogate n => simp [plmnNibble, IsPlmnDigit, CodePoint.IsDecimal]
  | char c =>
      simp only [plmnNibble, VirtualPhone.plmnNibble, IsPlmnDigit, CodePoint.char.injEq,
        CodePoint.IsDecimal, exists_eq_left']
      rw [← or_assoc]
      split
      · rename_i h
        exact ⟨fun _ => Or.inl h, fun _ => ⟨_, rfl⟩⟩
      · rename_i h
        rw [digitValue_isOk_iff, or_iff_right h]

/-- The first three characters, with the filler for what is missing. -/
theorem forall_take_three {α : Type} {P : α → Prop} {fill : α} (hfill : P fill) (s : List α) :
    (∀ c ∈ s.take 3, P c) ↔ P ((ljust s 3 fill).getD 0 fill) ∧ P ((ljust s 3 fill).getD 1 fill) ∧
      P ((ljust s 3 fill).getD 2 fill) := by
  match s with
  | [] => simp [ljust, hfill]
  | [a] => simp [ljust, hfill]
  | [a, b] => simp [ljust, hfill]
  | a :: b :: c :: s => simp [ljust]

theorem encodePlmn_isOk_iff (mcc mnc : PyValue F) :
    (∃ data, encodePlmn mcc mnc = .ok data) ↔
      ∃ m n : PyStr, mcc = .scalar (.str m) ∧ mnc = .scalar (.str n) ∧
        ∀ c ∈ m.take 3 ++ n.take 3, IsPlmnDigit c := by
  simp only [encodePlmn, bind_isOk_iff, pure_isOk_iff, and_true, exists_and_right, plmnNibble_isOk_iff,
    asStr_eq_ok_iff, List.forall_mem_append]
  have hfill : IsPlmnDigit (.char 'F') := Or.inl rfl
  constructor
  · rintro ⟨m, rfl, n, rfl, hmcc2, hmcc1, hmnc3, hmcc3, hmnc2, hmnc1⟩
    refine ⟨m, n, rfl, rfl, ?_, ?_⟩
    · exact (forall_take_three hfill m).mpr ⟨hmcc1, hmcc2, hmcc3⟩
    · exact (forall_take_three hfill n).mpr ⟨hmnc1, hmnc2, hmnc3⟩
  · rintro ⟨m, n, rfl, rfl, hm, hn⟩
    obtain ⟨hmcc1, hmcc2, hmcc3⟩ := (forall_take_three hfill m).mp hm
    obtain ⟨hmnc1, hmnc2, hmnc3⟩ := (forall_take_three hfill n).mp hn
    exact ⟨m, rfl, n, rfl, hmcc2, hmcc1, hmnc3, hmcc3, hmnc2, hmnc1⟩

/-! Names of the ISIM. -/

theorem toText?_append (s t : PyStr) :
    (PyStr.toText? (s ++ t)).isSome = true ↔ s.toText?.isSome = true ∧ t.toText?.isSome = true := by
  simp only [PyStr.toText?_isSome_iff, List.forall_mem_append]

theorem toText?_ofText_isSome (s : Text) : (PyStr.ofText s).toText?.isSome = true := by
  rw [PyStr.toText?_ofText]
  rfl

theorem isText_str_iff (s : PyStr) : IsText (.scalar (.str s) : PyValue F) ↔ s.toText?.isSome = true := by
  refine ⟨?_, fun h => ⟨s, rfl, h⟩⟩
  rintro ⟨s', hs', h⟩
  obtain rfl := PyScalar.str.inj (PyValue.scalar.inj hs')
  exact h

theorem derived_isText_iff (imsi domain : PyValue F) :
    (∃ user, L.str imsi = .ok user ∧ ∃ host, L.str domain = .ok host ∧
      IsText (.scalar (.str (user ++ .ofText "@".toList ++ host)) : PyValue F) ∧
      IsText (.scalar (.str (.ofText "sip:".toList ++ user ++ .ofText "@".toList ++ host)) : PyValue F) ∧
      IsText domain) ↔ Prints L imsi ∧ IsText domain := by
  simp only [isText_str_iff, toText?_append, toText?_ofText_isSome, true_and, and_true]
  constructor
  · rintro ⟨user, huser, host, -, ⟨htext, -⟩, -, hdomain⟩
    exact ⟨⟨user, huser, htext⟩, hdomain⟩
  · rintro ⟨⟨user, huser, htext⟩, host, rfl, hhost⟩
    exact ⟨user, huser, host, rfl, ⟨htext, hhost⟩, ⟨htext, hhost⟩, host, rfl, hhost⟩

theorem derivedDomain_isText_iff (p : Isdp F) :
    (∃ domain, p.derivedDomain L = .ok domain ∧ IsText domain) ↔ Prints L p.mnc ∧ Prints L p.mcc := by
  unfold Isdp.derivedDomain
  constructor
  · rintro ⟨domain, hdomain, htext⟩
    obtain ⟨mnc, hmnc, hdomain⟩ := bind_eq_ok hdomain
    obtain ⟨mcc, hmcc, hdomain⟩ := bind_eq_ok hdomain
    obtain rfl := Except.ok.inj hdomain
    simp only [isText_str_iff, toText?_append] at htext
    exact ⟨⟨mnc, hmnc, htext.1.1.1.2⟩, mcc, hmcc, htext.1.2⟩
  · rintro ⟨⟨mnc, hmnc, htext⟩, mcc, hmcc, htext'⟩
    rw [hmnc, ok_bind, hmcc, ok_bind]
    refine ⟨_, rfl, ?_⟩
    simp only [isText_str_iff, toText?_append, toText?_ofText_isSome, htext, htext', and_self]

theorem isimFits_iff (p : Isdp F) :
    (∃ isim, p.getIsimData L = .ok isim ∧ IsText isim.impi ∧ IsText isim.impu ∧ IsText isim.homeDomain) ↔
      p.IsimFits L := by
  unfold Isdp.getIsimData Isdp.IsimFits
  by_cases himpi : L.truthy p.impi = true
  · rw [if_pos himpi, if_pos himpi]
    refine ⟨?_, fun h => ⟨_, rfl, h⟩⟩
    rintro ⟨isim, hisim, h⟩
    obtain rfl := Except.ok.inj hisim
    exact h
  · rw [if_neg himpi, if_neg himpi]
    have hdomain : ∀ domain, (∃ isim : Isdp.IsimData F, (do
        let imsi ← L.str p.imsi
        let host ← L.str domain
        return {
          impi := .scalar (.str (imsi ++ .ofText "@".toList ++ host))
          impu := .scalar (.str (.ofText "sip:".toList ++ imsi ++ .ofText "@".toList ++ host))
          homeDomain := domain }) = Except.ok isim ∧
        IsText isim.impi ∧ IsText isim.impu ∧ IsText isim.homeDomain) ↔ Prints L p.imsi ∧ IsText domain := by
      intro domain
      rw [← derived_isText_iff L]
      constructor
      · rintro ⟨isim, hisim, h⟩
        obtain ⟨user, huser, hisim⟩ := bind_eq_ok hisim
        obtain ⟨host, hhost, hisim⟩ := bind_eq_ok hisim
        obtain rfl := Except.ok.inj hisim
        exact ⟨user, huser, host, hhost, h⟩
      · rintro ⟨user, huser, host, hhost, h⟩
        rw [huser, ok_bind, hhost, ok_bind]
        exact ⟨_, rfl, h⟩
    by_cases hhome : L.truthy p.homeDomain = true
    · rw [if_pos hhome, if_pos hhome]
      exact hdomain p.homeDomain
    · rw [if_neg hhome, if_neg hhome, ← derivedDomain_isText_iff]
      constructor
      · rintro ⟨isim, hisim, h⟩
        obtain ⟨domain, hderived, hisim⟩ := bind_eq_ok hisim
        obtain ⟨himsi, htext⟩ := (hdomain domain).mp ⟨isim, hisim, h⟩
        exact ⟨himsi, domain, hderived, htext⟩
      · rintro ⟨himsi, domain, hderived, htext⟩
        rw [hderived]
        exact (hdomain domain).mpr ⟨himsi, htext⟩

/-- **Reading succeeds exactly for the readable profiles, whichever file is read.** -/
theorem readEf_isOk_iff (fileId : ℕ) (p : Isdp F) :
    (∃ data, readEf L fileId p = .ok data) ↔ p.Readable L := by
  simp only [readEf, bind_isOk_iff, pure_isOk_iff, and_true, exists_and_right, exists_and_left,
    encodeImsi_isOk_iff, encodeBcd_isOk_iff, encode_isOk_iff, encodeMsisdn_isOk_iff, encodePlmn_isOk_iff,
    mkByte_isOk_iff, asStr_eq_ok_iff, isimFits_iff]
  constructor
  · rintro ⟨himsi, hiccid, hspn, hmsisdn, ⟨mcc, hmcc, mnc, hmnc, hplmn⟩, mnc', hmnc', hlength, hisim⟩
    rw [hmnc] at hmnc'
    obtain rfl := PyScalar.str.inj (PyValue.scalar.inj hmnc')
    exact ⟨himsi, hiccid, hspn, hmsisdn, ⟨mcc, mnc, hmcc, hmnc, hplmn, hlength⟩, hisim⟩
  · rintro ⟨himsi, hiccid, hspn, hmsisdn, ⟨mcc, mnc, hmcc, hmnc, hplmn, hlength⟩, hisim⟩
    exact ⟨himsi, hiccid, hspn, hmsisdn, ⟨mcc, hmcc, mnc, hmnc, hplmn⟩, mnc, hmnc, hlength, hisim⟩

/-! ### What is read -/

/-- `ef_map`, from what the files hold. -/
def efMap (imsi iccid spn msisdn hplmn : Bytes) (mncLen : UInt8) (impi impu domain : Bytes)
    (fileId : ℕ) : Option Bytes :=
  match fileId with
  | 0x6F07 => some imsi
  | 0x2FE2 => some iccid
  | 0x6F46 => some (ljust spn 16 0xFF)
  | 0x6F40 => some msisdn
  | 0x6F31 => some hplmn
  | 0x6FAD => some [0x00, 0x00, mncLen, 0x00]
  | 0x6F02 => some impi
  | 0x6F04 => some impu
  | 0x6F03 => some domain
  | _ => none

/-- What a read that succeeds has encoded, and which of it is the answer. -/
theorem readEf_eq_ok {fileId : ℕ} {p : Isdp F} {data : Option Bytes} (h : readEf L fileId p = .ok data) :
    ∃ imsi iccid spn msisdn hplmn mnc mncLen isim impi impu domain, encodeImsi L p.imsi = .ok imsi ∧
      encodeBcd L p.iccid = .ok iccid ∧ p.spn.encode = .ok spn ∧ encodeMsisdn L p.msisdn = .ok msisdn ∧
      encodePlmn p.mcc p.mnc = .ok hplmn ∧ p.mnc.asStr = .ok mnc ∧ mkByte mnc.length = .ok mncLen ∧
      p.getIsimData L = .ok isim ∧ isim.impi.encode = .ok impi ∧ isim.impu.encode = .ok impu ∧
      isim.homeDomain.encode = .ok domain ∧
      data = efMap imsi iccid spn msisdn hplmn mncLen impi impu domain fileId := by
  obtain ⟨imsi, himsi, h⟩ := bind_eq_ok h
  obtain ⟨iccid, hiccid, h⟩ := bind_eq_ok h
  obtain ⟨spn, hspn, h⟩ := bind_eq_ok h
  obtain ⟨msisdn, hmsisdn, h⟩ := bind_eq_ok h
  obtain ⟨hplmn, hhplmn, h⟩ := bind_eq_ok h
  obtain ⟨mnc, hmnc, h⟩ := bind_eq_ok h
  obtain ⟨mncLen, hmncLen, h⟩ := bind_eq_ok h
  obtain ⟨isim, hisim, h⟩ := bind_eq_ok h
  obtain ⟨impi, himpi, h⟩ := bind_eq_ok h
  obtain ⟨impu, himpu, h⟩ := bind_eq_ok h
  obtain ⟨domain, hdomain, h⟩ := bind_eq_ok h
  obtain rfl := Except.ok.inj h
  exact ⟨imsi, iccid, spn, msisdn, hplmn, mnc, mncLen, isim, impi, impu, domain, himsi, hiccid, hspn,
    hmsisdn, hhplmn, hmnc, hmncLen, hisim, himpi, himpu, hdomain, rfl⟩

theorem encoded_alike {α β : Type} {f : α → Except PyError β} {a a' : α} {b b' : β} (h : a = a')
    (ha : f a = .ok b) (ha' : f a' = .ok b') : b = b' :=
  Except.ok.inj (ha.symm.trans ((congrArg f h).trans ha'))

theorem readEf_agree {fileId : ℕ} {p q : Isdp F} (hagree : AgreeOn L fileId p q)
    {data data' : Option Bytes} (hp : readEf L fileId p = .ok data) (hq : readEf L fileId q = .ok data') :
    data = data' := by
  obtain ⟨imsi, iccid, spn, msisdn, hplmn, mnc, mncLen, isim, impi, impu, domain, himsi, hiccid, hspn,
    hmsisdn, hhplmn, hmnc, hmncLen, hisim, himpi, himpu, hdomain, rfl⟩ := readEf_eq_ok L hp
  obtain ⟨imsi', iccid', spn', msisdn', hplmn', mnc', mncLen', isim', impi', impu', domain', himsi',
    hiccid', hspn', hmsisdn', hhplmn', hmnc', hmncLen', hisim', himpi', himpu', hdomain', rfl⟩ :=
      readEf_eq_ok L hq
  unfold AgreeOn at hagree
  unfold efMap
  rw [hmnc, hmnc', hisim, hisim'] at hagree
  split at hagree
  · exact congrArg some (encoded_alike hagree himsi himsi')
  · exact congrArg some (encoded_alike hagree hiccid hiccid')
  · exact congrArg (fun spn => some (ljust spn 16 0xFF)) (encoded_alike hagree hspn hspn')
  · exact congrArg some (encoded_alike hagree hmsisdn hmsisdn')
  · rw [hagree.1, hagree.2] at hhplmn
    exact congrArg some (Except.ok.inj (hhplmn.symm.trans hhplmn'))
  · have hlength : mnc.length = mnc'.length := Except.ok.inj hagree
    rw [encoded_alike hlength hmncLen hmncLen']
  · exact congrArg some (encoded_alike (Option.some.inj hagree) himpi himpi')
  · exact congrArg some (encoded_alike (Option.some.inj hagree) himpu himpu')
  · exact congrArg some (encoded_alike (Option.some.inj hagree) hdomain hdomain')
  · simp_all

/-! ### Two profiles -/

theorem truthy_of_key_eq {a b : PyScalar F} (h : L.key a = L.key b) :
    L.truthy (.scalar a) = L.truthy (.scalar b) := by
  have hkey : ∀ v : PyScalar F, L.truthy (.scalar v) = L.truthy (.scalar (L.key v)) := by
    intro v
    cases v with
    | bool b => cases b <;> rfl
    | float x =>
        simp only [PyLibrary.truthy, PyLibrary.key]
        cases hx : L.integral x with
        | none => simp [hx]
        | some n => simp
    | _ => rfl
  rw [hkey a, hkey b, h]

/-- The enabled profile of a card, under its ICCID. -/
def Card.Enabled [DecidableEq F] (card : Card F) (p : Isdp F) : Prop :=
  card.euicc.profiles.get? (L.key card.euicc.activeIccid) = some p ∧
    L.key p.iccid = L.key card.euicc.activeIccid

/-- The ICCID is not empty: `get_active_profile` takes it for one. -/
def Isdp.Named (p : Isdp F) : Prop := L.truthy (.scalar p.iccid) = true

namespace ApduHandler

variable [DecidableEq F] (aes : Bytes → Block → Block)

/-- The answer of a reading command for what the file holds. -/
def readAnswer (cmd : ApduCommand) (data : Option Bytes) : ApduResponse :=
  match data with
  | none => ApduResponse.swNotFound
  | some data =>
      if cmd.ins = 0xB0 then
        let data := data.drop ((cmd.p1 <<< 8) ||| cmd.p2)
        ApduResponse.swOk (if 0 < cmd.le then data.take cmd.le else data)
      else ApduResponse.swOk data

theorem readAnswer_sw1 (cmd : ApduCommand) (data : Option Bytes) :
    (readAnswer cmd data).sw1 = 0x6A ∨ (readAnswer cmd data).sw1 = 0x90 := by
  unfold readAnswer
  split
  · exact Or.inl rfl
  · split <;> exact Or.inr rfl

theorem readAnswer_ne_internalError (cmd : ApduCommand) (data : Option Bytes) :
    readAnswer cmd data ≠ ApduResponse.swInternalError := by
  intro h
  have hsw := readAnswer_sw1 cmd data
  rw [h] at hsw
  revert hsw
  decide

theorem readAnswer_ne_conditions (cmd : ApduCommand) (data : Option Bytes) :
    readAnswer cmd data ≠ ApduResponse.swConditionsNotSatisfied := by
  intro h
  have hsw := readAnswer_sw1 cmd data
  rw [h] at hsw
  revert hsw
  decide

/-- What the two reading commands do on a card with an enabled profile. -/
theorem run_readSelected (answer : Bytes → ApduResponse) {card : Card F} {fileId : ℕ} {p : Isdp F}
    (hselected : card.handler.selectedEf = some fileId) (henabled : card.Enabled L p) :
    (readSelected L answer).run card = if L.truthy (.scalar p.iccid) then
        match readEf L fileId p with
        | .error e => (.error e, card)
        | .ok none => (.ok ApduResponse.swNotFound, card)
        | .ok (some data) => (.ok (answer data), card)
      else (.ok ApduResponse.swConditionsNotSatisfied, card) := by
  have hactive : card.euicc.getActiveProfile L = if L.truthy (.scalar p.iccid) then some p else none := by
    rw [Euicc.getActiveProfile, henabled.1, truthy_of_key_eq L henabled.2]
  simp only [readSelected, Py.run_get_bind, hselected, hactive]
  by_cases hnamed : L.truthy (.scalar p.iccid) = true
  · rw [if_pos hnamed, if_pos hnamed]
    simp only
    rcases readEf L fileId p with e | _ | data
    · rfl
    · rfl
    · rfl
  · rw [if_neg hnamed, if_neg hnamed]
    rfl

/-- What a reading command answers for the selected file of the enabled profile. -/
theorem process_reading {raw : Bytes} {cmd : ApduCommand} (hcmd : ApduCommand.fromBytes raw = .ok cmd)
    (hread : cmd.ins = 0xB0 ∨ cmd.ins = 0xB2) {card : Card F} {fileId : ℕ} {p : Isdp F}
    (hselected : card.handler.selectedEf = some fileId) (henabled : card.Enabled L p) :
    (process aes L raw card).1 = if L.truthy (.scalar p.iccid) then
        match readEf L fileId p with
        | .error _ => ApduResponse.swInternalError
        | .ok data => readAnswer cmd data
      else ApduResponse.swConditionsNotSatisfied := by
  have hdispatch : ∃ answer : Bytes → ApduResponse, dispatch aes L cmd = readSelected L answer ∧
      ∀ data, answer data = readAnswer cmd (some data) := by
    rcases hread with hins | hins
    · refine ⟨_, by rw [dispatch, hins]; rfl, fun data => ?_⟩
      simp only [readAnswer, if_pos hins]
    · have hne : cmd.ins ≠ 0xB0 := by omega
      refine ⟨_, by rw [dispatch, hins]; rfl, fun data => ?_⟩
      simp only [readAnswer, if_neg hne]
  obtain ⟨answer, hdispatch, hanswer⟩ := hdispatch
  rw [process, hcmd]
  simp only [hdispatch, run_readSelected L answer hselected henabled]
  by_cases hnamed : L.truthy (.scalar p.iccid) = true
  · rw [if_pos hnamed, if_pos hnamed]
    rcases readEf L fileId p with e | _ | data
    · rfl
    · rfl
    · exact hanswer data
  · rw [if_neg hnamed, if_neg hnamed]

/-- **A file reads the same for two profiles that agree on it exactly when the ICCIDs of both are empty,
or neither's is and both profiles are readable or neither is.** -/
theorem reads_alike_iff {raw : Bytes} {cmd : ApduCommand} (hcmd : ApduCommand.fromBytes raw = .ok cmd)
    (hread : cmd.ins = 0xB0 ∨ cmd.ins = 0xB2) {fileId : ℕ} {card card' : Card F} {p q : Isdp F}
    (hselected : card.handler.selectedEf = some fileId)
    (hselected' : card'.handler.selectedEf = some fileId)
    (henabled : card.Enabled L p) (henabled' : card'.Enabled L q) (hagree : AgreeOn L fileId p q) :
    (process aes L raw card).1 = (process aes L raw card').1 ↔
      (p.Named L ↔ q.Named L) ∧ (p.Named L → (p.Readable L ↔ q.Readable L)) := by
  rw [process_reading L aes hcmd hread hselected henabled,
    process_reading L aes hcmd hread hselected' henabled', ← readEf_isOk_iff L fileId,
    ← readEf_isOk_iff L fileId]
  unfold Isdp.Named
  have hconditions : ApduResponse.swInternalError ≠ ApduResponse.swConditionsNotSatisfied := by decide
  by_cases hp : L.truthy (.scalar p.iccid) = true
  · by_cases hq : L.truthy (.scalar q.iccid) = true
    · rw [if_pos hp, if_pos hq]
      simp only [hp, hq, true_and, true_implies]
      cases hreadp : readEf L fileId p with
      | error e =>
          cases hreadq : readEf L fileId q with
          | error e' => simp
          | ok data' => simp [(readAnswer_ne_internalError cmd data').symm]
      | ok data =>
          cases hreadq : readEf L fileId q with
          | error e' => simp [readAnswer_ne_internalError]
          | ok data' => simp [readEf_agree L hagree hreadp hreadq]
    · rw [if_pos hp, if_neg hq]
      refine iff_of_false ?_ fun h => hq (h.1.mp hp)
      cases readEf L fileId p with
      | error e => exact hconditions
      | ok data => exact readAnswer_ne_conditions cmd data
  · by_cases hq : L.truthy (.scalar q.iccid) = true
    · rw [if_neg hp, if_pos hq]
      refine iff_of_false ?_ fun h => hp (h.1.mpr hq)
      cases readEf L fileId q with
      | error e => exact hconditions.symm
      | ok data => exact (readAnswer_ne_conditions cmd data).symm
    · rw [if_neg hp, if_neg hq]
      exact iff_of_true rfl ⟨iff_of_false hp hq, fun h => absurd h hp⟩

/-- A cipher for cards that authenticate nobody. -/
def plainCipher : Bytes → Block → Block := fun _ block => block

/-- A card on which a package has been installed and its profile enabled, with EF_ICCID selected. -/
def provisioned (package : Entries Empty) : Card Empty where
  handler := { selectedEf := some 0x2FE2 }
  euicc := ((do
    let isdp ← Euicc.installProfile noFloats willing (.dict package) "0".toList
    Euicc.enableProfile noFloats willing (.scalar isdp.iccid) : Py (Storage Empty Unit) Bool).run
      (Storage.start "8904".toList ())).2.euicc

/-- A key of zeros. -/
def zeroKey : PyValue Empty := .text (List.replicate 32 '0')

/-- A package with the required fields, and one more. -/
def packageWith (field : String) (value : PyValue Empty) : Entries Empty := entries [
  ("iccid", .text "8910".toList),
  ("imsi", .text "001010123456789".toList),
  ("ki", zeroKey),
  ("opc", zeroKey),
  (field, value)]

/-- The profile that such a package becomes. -/
def enabledProfile (package : Entries Empty) : Isdp Empty :=
  (Euicc.newProfile package "0".toList (.str (.ofText "8910".toList)) (.text "001010123456789".toList) zeroKey
    zeroKey).withState .enabled

/-- READ BINARY. -/
def readBinary : Bytes := [0x00, 0xB0, 0x00, 0x00, 0x00]

/-- Another name of the operator changes nothing, no name takes the ICCID away. -/
theorem reads_alike_iff_spn :
    let named := packageWith "spn" (.text "Other".toList)
    let renamed := packageWith "spn" (.text "Third".toList)
    let nameless := packageWith "spn" .null
    (process plainCipher noFloats readBinary (provisioned named)).1 =
        (process plainCipher noFloats readBinary (provisioned renamed)).1 ∧
      (process plainCipher noFloats readBinary (provisioned named)).1 ≠
        (process plainCipher noFloats readBinary (provisioned nameless)).1 := by
  intro named renamed nameless
  have hreadable : ∀ package, (readEf noFloats 0x2FE2 (enabledProfile package)).toOption.isSome = true →
      (enabledProfile package).Readable noFloats := by
    intro package h
    refine (readEf_isOk_iff noFloats 0x2FE2 _).mp ?_
    cases hread : readEf noFloats 0x2FE2 (enabledProfile package) with
    | error e =>
        rw [hread] at h
        cases h
    | ok data => exact ⟨data, rfl⟩
  have hnamed : (enabledProfile named).Readable noFloats := hreadable named (by decide +kernel)
  have hrenamed : (enabledProfile renamed).Readable noFloats := hreadable renamed (by decide +kernel)
  have hnameless : ¬(enabledProfile nameless).Readable noFloats := by
    intro h
    obtain ⟨s, hs, -⟩ := h.spn
    cases hs
  have hiff : ∀ package package', (provisioned package).Enabled noFloats (enabledProfile package) →
      (provisioned package').Enabled noFloats (enabledProfile package') →
      AgreeOn noFloats 0x2FE2 (enabledProfile package) (enabledProfile package') →
      ((process plainCipher noFloats readBinary (provisioned package)).1 =
          (process plainCipher noFloats readBinary (provisioned package')).1 ↔
        ((enabledProfile package).Named noFloats ↔ (enabledProfile package').Named noFloats) ∧
          ((enabledProfile package).Named noFloats →
            ((enabledProfile package).Readable noFloats ↔ (enabledProfile package').Readable noFloats))) :=
    fun package package' h h' hagree =>
      reads_alike_iff noFloats plainCipher rfl (Or.inl rfl) rfl rfl h h' hagree
  have halike := hiff named renamed ⟨rfl, rfl⟩ ⟨rfl, rfl⟩ rfl
  have hdiffer := hiff named nameless ⟨rfl, rfl⟩ ⟨rfl, rfl⟩ rfl
  refine ⟨halike.mpr ⟨Iff.rfl, fun _ => iff_of_true hnamed hrenamed⟩, fun heq => ?_⟩
  exact hnameless (((hdiffer.mp heq).2 rfl).mp hnamed)

/-- The ICCID is read from the plain package, and an internal error from the one with an IMPI only. -/
theorem reads_not_alike :
    ¬∀ (aes : Bytes → Block → Block) (package package' : Entries Empty) (p q : Isdp Empty),
      (provisioned package).Enabled noFloats p → (provisioned package').Enabled noFloats q →
      AgreeOn noFloats 0x2FE2 p q →
      (process aes noFloats readBinary (provisioned package)).1 =
        (process aes noFloats readBinary (provisioned package')).1 := by
  intro h
  have hsame := h plainCipher (packageWith "spn" (.text "Other".toList))
    (packageWith "impi" (.text "user@ims".toList)) (enabledProfile _) (enabledProfile _) ⟨rfl, rfl⟩
    ⟨rfl, rfl⟩ rfl
  have hne : (process plainCipher noFloats readBinary
      (provisioned (packageWith "spn" (.text "Other".toList)))).1 ≠
    (process plainCipher noFloats readBinary
      (provisioned (packageWith "impi" (.text "user@ims".toList)))).1 := by
    decide +kernel
  exact hne hsame

end ApduHandler

end Untyped

end VirtualPhone
