import VirtualPhone.Json
import Mathlib.Tactic.Ring

/-! # The size of JSON texts

No text is shorter than the compact one: what `json.loads` reads takes at least the characters of its
compact form (`scanOnce_size`), where a character that has to be escaped counts twice.  So of a text
whose length is known, one can say what cannot have been read from it. -/

namespace VirtualPhone

open Runtime

/-! ### Sizes -/

/-- How many characters of a text a character takes at least. -/
def charSize (c : Char) : ℕ := if c = '"' ∨ c = '\\' ∨ c.toNat < 0x20 then 2 else 1

/-- How many characters the text of a string takes at least, between its quotes. -/
def textSize (s : Text) : ℕ := (s.map charSize).sum

/-- How many characters of a text a value takes at least, counted down to a depth. -/
def Json.sizeAt : ℕ → Json → ℕ
  | 0, _ => 0
  | _ + 1, .str s => textSize s + 2
  | _ + 1, .int n => (intText n).length
  | d + 1, .obj fields => 1 + (fields.map fun f => textSize f.1 + sizeAt d f.2 + 4).sum
  | _ + 1, _ => 0

/-- A member with its quotes, its colon, and the comma or brace behind it. -/
def memberSize (d : ℕ) (f : Text × Json) : ℕ := textSize f.1 + f.2.sizeAt d + 4

theorem charSize_le (c : Char) : charSize c ≤ 2 := by
  unfold charSize
  split_ifs <;> omega

theorem hex4_length {s rest : Text} {n : ℕ} (h : hex4 s = some (n, rest)) :
    rest.length + 4 = s.length := by
  unfold hex4 at h
  split at h
  · next a b c d r =>
    simp only [Option.bind_eq_bind, Option.bind_eq_some_iff] at h
    obtain ⟨_, _, _, _, _, _, _, _, h⟩ := h
    obtain ⟨-, rfl⟩ := Prod.mk.inj (Option.some.inj h)
    rfl
  · cases h

theorem scanPair_length {high : ℕ} {s rest : Text} {c : Char} (h : scanPair high s = some (c, rest)) :
    rest.length ≤ s.length := by
  unfold scanPair at h
  split at h
  · next r =>
    obtain ⟨⟨low, r'⟩, hlow, h⟩ := Option.bind_eq_some_iff.mp h
    have := hex4_length hlow
    simp only at h
    split_ifs at h
    · obtain ⟨-, rfl⟩ := Prod.mk.inj (Option.some.inj h)
      simp only [List.length_cons]
      omega
    · obtain ⟨-, rfl⟩ := Prod.mk.inj (Option.some.inj h)
      exact le_rfl
  · obtain ⟨-, rfl⟩ := Prod.mk.inj (Option.some.inj h)
    exact le_rfl

theorem scanEscape_length {s rest : Text} {c : Char} (h : scanEscape s = some (c, rest)) :
    rest.length + 1 ≤ s.length := by
  cases s with
  | nil => cases h
  | cons e s =>
      rw [List.length_cons, Nat.add_le_add_iff_right]
      unfold scanEscape at h
      simp only at h
      by_cases hu : e = 'u'
      · rw [if_pos hu] at h
        obtain ⟨⟨n, r⟩, hn, h⟩ := Option.bind_eq_some_iff.mp h
        have := hex4_length hn
        simp only at h
        split_ifs at h
        · have := scanPair_length h
          omega
        · obtain ⟨-, rfl⟩ := Prod.mk.inj (Option.some.inj h)
          omega
      · rw [if_neg hu] at h
        split_ifs at h
        all_goals
          obtain ⟨-, rfl⟩ := Prod.mk.inj (Option.some.inj h)
          exact le_rfl

theorem scanChar_length {s rest : Text} {c : Option Char} (h : scanChar s = some (c, rest)) :
    rest.length + (match c with | some c => charSize c | none => 1) ≤ s.length := by
  cases s with
  | nil => cases h
  | cons a s =>
      rw [List.length_cons]
      unfold scanChar at h
      simp only at h
      by_cases hq : a = '"'
      · rw [if_pos hq] at h
        obtain ⟨rfl, rfl⟩ := Prod.mk.inj (Option.some.inj h)
        exact le_rfl
      by_cases hb : a = '\\'
      · rw [if_neg hq, if_pos hb] at h
        obtain ⟨⟨e, r⟩, he, h⟩ := Option.map_eq_some_iff.mp h
        obtain ⟨rfl, rfl⟩ := Prod.mk.inj h
        have := scanEscape_length he
        have := charSize_le e
        simp only
        omega
      by_cases hc : a.toNat < 0x20
      · rw [if_neg hq, if_neg hb, if_pos hc] at h
        cases h
      · rw [if_neg hq, if_neg hb, if_neg hc] at h
        obtain ⟨rfl, rfl⟩ := Prod.mk.inj (Option.some.inj h)
        have hone : charSize a = 1 := by
          rw [charSize, if_neg]
          rintro (h | h | h)
          · exact hq h
          · exact hb h
          · exact hc h
        simp only [hone]
        exact le_rfl

theorem scanString_size {n : ℕ} {s t rest : Text} (h : scanString n s = some (t, rest)) :
    rest.length + (textSize t + 1) ≤ s.length := by
  induction n generalizing s t with
  | zero => cases h
  | succ n ih =>
      unfold scanString at h
      obtain ⟨⟨c, r⟩, hc, h⟩ := Option.bind_eq_some_iff.mp h
      have hlen := scanChar_length hc
      cases c with
      | none =>
          obtain ⟨rfl, rfl⟩ := Prod.mk.inj (Option.some.inj h)
          exact hlen
      | some c =>
          obtain ⟨⟨t', r'⟩, ht, h⟩ := Option.bind_eq_some_iff.mp h
          obtain ⟨rfl, rfl⟩ := Prod.mk.inj (Option.some.inj h)
          have := ih ht
          simp only [textSize, List.map_cons, List.sum_cons] at this hlen ⊢
          omega

theorem spanDigits_append (s : Text) : (spanDigits s).1 ++ (spanDigits s).2 = s :=
  List.takeWhile_append_dropWhile

theorem isDigit_of_mem_spanDigits {s : Text} {c : Char} (h : c ∈ (spanDigits s).1) : IsDigit c := by
  simpa using List.all_eq_true.mp List.all_takeWhile c h

theorem scanInteger_append (s : Text) : (scanInteger s).1 ++ (scanInteger s).2 = s := by
  unfold scanInteger
  split
  · rfl
  · exact spanDigits_append s

theorem isDigit_of_mem_scanInteger {s : Text} {c : Char} (h : c ∈ (scanInteger s).1) : IsDigit c := by
  unfold scanInteger at h
  split at h
  · obtain rfl := List.mem_singleton.mp h
    decide
  · exact isDigit_of_mem_spanDigits h

theorem ofDigitChars_lt {digits : Text} (h : ∀ c ∈ digits, IsDigit c) (n : ℕ) :
    Nat.ofDigitChars 10 digits n < (n + 1) * 10 ^ digits.length := by
  induction digits generalizing n with
  | nil => simp
  | cons c digits ih =>
      have hc := (h c List.mem_cons_self).toNat
      have hzero : '0'.toNat = 48 := rfl
      rw [Nat.ofDigitChars_cons]
      calc Nat.ofDigitChars 10 digits (10 * n + (c.toNat - '0'.toNat))
          < (10 * n + (c.toNat - '0'.toNat) + 1) * 10 ^ digits.length :=
            ih (fun d hd => h d (List.mem_cons_of_mem c hd)) _
        _ ≤ (10 * (n + 1)) * 10 ^ digits.length := by
            refine Nat.mul_le_mul_right _ ?_
            omega
        _ = (n + 1) * 10 ^ (c :: digits).length := by
            rw [List.length_cons, Nat.pow_succ]
            ring

theorem natText_ofDigitChars_length {digits : Text} (h : ∀ c ∈ digits, IsDigit c)
    (hne : digits ≠ []) : (natText (Nat.ofDigitChars 10 digits 0)).length ≤ digits.length := by
  have hlt := ofDigitChars_lt h 0
  rw [Nat.zero_add, Nat.one_mul] at hlt
  exact (Nat.length_toDigits_le_iff (by decide) (List.length_pos_of_ne_nil hne)).mpr hlt

theorem scanFraction_length (s : Text) :
    (scanFraction s).1.length + (scanFraction s).2.length = s.length := by
  unfold scanFraction
  split
  · next r =>
    have := congrArg List.length (spanDigits_append r)
    rw [List.length_append] at this
    split_ifs
    · exact Nat.zero_add _
    · simp only [List.length_cons]
      omega
  · exact Nat.zero_add _

theorem scanSign_length (s : Text) : (scanSign s).2.length ≤ s.length := by
  unfold scanSign
  cases s with
  | nil => exact le_rfl
  | cons c s =>
      simp only
      split_ifs
      · exact Nat.le_succ _
      · exact le_rfl

theorem scanExponent_length (s : Text) : (scanExponent s).2.length ≤ s.length := by
  unfold scanExponent
  cases s with
  | nil => exact le_rfl
  | cons e r =>
      simp only
      have hsign := scanSign_length r
      have := congrArg List.length (spanDigits_append (scanSign r).2)
      rw [List.length_append] at this
      split_ifs
      · exact le_rfl
      · simp only [List.length_cons]
        omega
      · exact le_rfl

theorem scanNumber_size {negative : Bool} {s rest : Text} {v : Json}
    (h : scanNumber negative s = some (v, rest)) (d : ℕ) :
    rest.length + v.sizeAt d ≤ s.length + if negative then 1 else 0 := by
  have hinteger := congrArg List.length (scanInteger_append s)
  rw [List.length_append] at hinteger
  have hfraction := scanFraction_length (scanInteger s).2
  have hexponent := scanExponent_length (scanFraction (scanInteger s).2).2
  unfold scanNumber at h
  simp only at h
  split at h
  · cases h
  · next hne =>
    have hdigits := natText_ofDigitChars_length (fun c hc => isDigit_of_mem_scanInteger hc) hne
    split at h
    · split at h
      · cases h
      · obtain ⟨rfl, rfl⟩ := Prod.mk.inj (Option.some.inj h)
        have hsize : ∀ i : ℤ, (Json.int i).sizeAt d ≤ (intText i).length := by
          intro i
          cases d with
          | zero => exact Nat.zero_le _
          | succ d => exact le_rfl
        refine le_trans (Nat.add_le_add_left (hsize _) _) ?_
        cases negative with
        | false =>
            have hpos : ∀ n : ℕ, (intText n).length = (natText n).length := fun n => rfl
            simp only [Bool.false_eq_true, if_false, hpos]
            omega
        | true =>
            have hneg : ∀ n : ℕ, (intText (-(n : ℤ))).length ≤ (natText n).length + 1 := by
              intro n
              cases n with
              | zero => exact Nat.le_succ _
              | succ n => exact le_rfl
            have := hneg (Nat.ofDigitChars 10 (scanInteger s).1 0)
            simp only [if_true]
            omega
    · obtain ⟨rfl, rfl⟩ := Prod.mk.inj (Option.some.inj h)
      have hzero : ∀ t, (Json.float t).sizeAt d = 0 := by
        intro t
        cases d with
        | zero => rfl
        | succ d => rfl
      rw [hzero]
      omega

theorem scanScalar_size {s rest : Text} {v : Json} (h : scanScalar s = some (v, rest)) (d : ℕ) :
    rest.length + v.sizeAt d ≤ s.length := by
  have hword : ∀ (w : String) (u : Json), (∀ d, u.sizeAt d = 0) →
      (if w.toList <+: s then some (u, s.drop w.length) else none) = some (v, rest) →
        rest.length + v.sizeAt d ≤ s.length := by
    intro w u hu hw
    split_ifs at hw
    obtain ⟨rfl, rfl⟩ := Prod.mk.inj (Option.some.inj hw)
    rw [hu, List.length_drop]
    omega
  have hconst : ∀ u ∈ [Json.null, .bool true, .bool false, .float "NaN".toList,
      .float "Infinity".toList, .float "-Infinity".toList], ∀ d, u.sizeAt d = 0 := by
    intro u hu d
    cases d with
    | zero => cases u <;> rfl
    | succ d =>
        simp only [List.mem_cons, List.not_mem_nil, or_false] at hu
        rcases hu with rfl | rfl | rfl | rfl | rfl | rfl <;> rfl
  unfold scanScalar at h
  simp only [Option.or_eq_some_iff] at h
  rcases h with h | ⟨-, h | ⟨-, h | ⟨-, h | ⟨-, h | ⟨-, h | ⟨-, h⟩⟩⟩⟩⟩⟩
  · exact hword _ _ (hconst _ (by simp)) h
  · exact hword _ _ (hconst _ (by simp)) h
  · exact hword _ _ (hconst _ (by simp)) h
  · exact hword _ _ (hconst _ (by simp)) h
  · exact hword _ _ (hconst _ (by simp)) h
  · exact hword _ _ (hconst _ (by simp)) h
  · split at h
    · have := scanNumber_size h d
      simpa using this
    · have := scanNumber_size h d
      simpa using this

theorem skipBlanks_length (s : Text) : (skipBlanks s).length ≤ s.length :=
  (List.dropWhile_sublist isJsonBlank).length_le

/-- Different elements of a list weigh no more than the list. -/
theorem sum_map_le_of_subset {α : Type} {l l' : List α} (w : α → ℕ) (hl : l.Nodup) (h : l ⊆ l') :
    (l.map w).sum ≤ (l'.map w).sum := by
  induction l generalizing l' with
  | nil => exact Nat.zero_le _
  | cons a l ih =>
      obtain ⟨ha, hl⟩ := List.nodup_cons.mp hl
      obtain ⟨p, q, rfl⟩ := List.append_of_mem (h List.mem_cons_self)
      have hrest : l ⊆ p ++ q := by
        intro x hx
        have hmem := h (List.mem_cons_of_mem a hx)
        simp only [List.mem_append, List.mem_cons] at hmem ⊢
        rcases hmem with hmem | rfl | hmem
        · exact Or.inl hmem
        · exact absurd hx ha
        · exact Or.inr hmem
      have := ih hl hrest
      simp only [List.map_append, List.map_cons, List.sum_append, List.sum_cons] at this ⊢
      omega

theorem ofMembers_size (members : List (Text × Json)) (d : ℕ) :
    (Json.ofMembers members).sizeAt (d + 1) ≤ 1 + (members.map (memberSize d)).sum := by
  refine Nat.add_le_add_left (sum_map_le_of_subset (memberSize d) ?_ ?_) 1
  · exact List.Nodup.of_map Prod.fst (Dict.ofList members).nodup
  · intro e he
    exact Dict.mem_of_mem_ofList ((Dict.get?_eq_some_iff _ e.1 e.2).mpr he)

theorem Json.sizeAt_zero (v : Json) : v.sizeAt 0 = 0 := by cases v <;> rfl

/-! ### What is read takes its text -/

/-- A value that is read takes at least the characters it counts. -/
def OnceSized (n : ℕ) : Prop :=
  ∀ s v rest d, scanOnce n s = some (v, rest) → rest.length + v.sizeAt d ≤ s.length

/-- The members of an object take at least the characters they count. -/
def MembersSized (n : ℕ) : Prop :=
  ∀ s members rest d, scanMembers n s = some (members, rest) →
    rest.length + (members.map (memberSize d)).sum ≤ s.length

/-- The items of an array, which count nothing, do not lengthen the text. -/
def ItemsSized (n : ℕ) : Prop :=
  ∀ s items rest, scanItems n s = some (items, rest) → rest.length ≤ s.length

section

variable {n : ℕ}

theorem onceSized_succ (hmembers : MembersSized n) (hitems : ItemsSized n) : OnceSized (n + 1) := by
  intro s v rest d h
  unfold scanOnce at h
  split at h
  · next r =>
    obtain ⟨⟨t, r'⟩, ht, h⟩ := Option.bind_eq_some_iff.mp h
    obtain ⟨rfl, rfl⟩ := Prod.mk.inj (Option.some.inj h)
    have := scanString_size ht
    cases d with
    | zero =>
        rw [Json.sizeAt_zero, List.length_cons]
        omega
    | succ d =>
        simp only [Json.sizeAt, List.length_cons]
        omega
  · next r =>
    have hskip := skipBlanks_length r
    split at h
    · next r' hr' =>
      obtain ⟨rfl, rfl⟩ := Prod.mk.inj (Option.some.inj h)
      rw [hr', List.length_cons] at hskip
      rw [List.length_cons]
      cases d with
      | zero =>
          rw [Json.sizeAt_zero]
          omega
      | succ d =>
          have hone : (Json.obj []).sizeAt (d + 1) = 1 := rfl
          omega
    · obtain ⟨⟨members, r'⟩, hm, h⟩ := Option.bind_eq_some_iff.mp h
      obtain ⟨rfl, rfl⟩ := Prod.mk.inj (Option.some.inj h)
      rw [List.length_cons]
      cases d with
      | zero =>
          have := hmembers _ _ _ 0 hm
          rw [Json.sizeAt_zero]
          omega
      | succ d =>
          have := hmembers _ _ _ d hm
          have := ofMembers_size members d
          omega
  · next r =>
    have hskip := skipBlanks_length r
    have harr : ∀ items, (Json.arr items).sizeAt d = 0 := by
      intro items
      cases d <;> rfl
    split at h
    · next r' hr' =>
      obtain ⟨rfl, rfl⟩ := Prod.mk.inj (Option.some.inj h)
      rw [hr', List.length_cons] at hskip
      rw [List.length_cons, harr]
      omega
    · obtain ⟨⟨items, r'⟩, hm, h⟩ := Option.bind_eq_some_iff.mp h
      obtain ⟨rfl, rfl⟩ := Prod.mk.inj (Option.some.inj h)
      have := hitems _ _ _ hm
      rw [List.length_cons, harr]
      omega
  · exact scanScalar_size h d

theorem membersSized_succ (honce : OnceSized n) (hmembers : MembersSized n) : MembersSized (n + 1) := by
  intro s members rest d h
  unfold scanMembers at h
  split at h
  · next r =>
    obtain ⟨⟨key, r₁⟩, hkey, h⟩ := Option.bind_eq_some_iff.mp h
    have hkeySize := scanString_size hkey
    have hskip₁ := skipBlanks_length r₁
    simp only at h
    split at h
    · next r₂ hr₂ =>
      rw [hr₂, List.length_cons] at hskip₁
      obtain ⟨⟨value, r₃⟩, hvalue, h⟩ := Option.bind_eq_some_iff.mp h
      have hvalueSize := honce _ _ _ d hvalue
      have hskip₂ := skipBlanks_length r₂
      have hskip₃ := skipBlanks_length r₃
      simp only at h
      split at h
      · next r₄ hr₄ =>
        rw [hr₄, List.length_cons] at hskip₃
        obtain ⟨⟨more, r₅⟩, hmore, h⟩ := Option.bind_eq_some_iff.mp h
        obtain ⟨rfl, rfl⟩ := Prod.mk.inj (Option.some.inj h)
        have hmoreSize := hmembers _ _ _ d hmore
        have hskip₄ := skipBlanks_length r₄
        simp only [List.map_cons, List.sum_cons, List.length_cons]
        unfold memberSize
        simp only
        unfold memberSize at hmoreSize
        omega
      · next r₄ hr₄ =>
        rw [hr₄, List.length_cons] at hskip₃
        obtain ⟨rfl, rfl⟩ := Prod.mk.inj (Option.some.inj h)
        simp only [List.map_cons, List.map_nil, List.sum_cons, List.sum_nil, List.length_cons]
        unfold memberSize
        simp only
        omega
      · cases h
    · cases h
  · cases h

theorem itemsSized_succ (honce : OnceSized n) (hitems : ItemsSized n) : ItemsSized (n + 1) := by
  intro s items rest h
  unfold scanItems at h
  obtain ⟨⟨value, r₁⟩, hvalue, h⟩ := Option.bind_eq_some_iff.mp h
  have hvalueSize := honce _ _ _ 0 hvalue
  rw [Json.sizeAt_zero] at hvalueSize
  have hskip₁ := skipBlanks_length r₁
  simp only at h
  split at h
  · next r₂ hr₂ =>
    rw [hr₂, List.length_cons] at hskip₁
    obtain ⟨⟨more, r₃⟩, hmore, h⟩ := Option.bind_eq_some_iff.mp h
    obtain ⟨rfl, rfl⟩ := Prod.mk.inj (Option.some.inj h)
    have := hitems _ _ _ hmore
    have := skipBlanks_length r₂
    simp only
    omega
  · next r₂ hr₂ =>
    rw [hr₂, List.length_cons] at hskip₁
    obtain ⟨rfl, rfl⟩ := Prod.mk.inj (Option.some.inj h)
    omega
  · cases h

end

/-- **No text is shorter than the compact one.**  A value that is read, and the members of an object,
take at least the characters they count. -/
theorem scanOnce_size (n : ℕ) : OnceSized n ∧ MembersSized n ∧ ItemsSized n := by
  induction n with
  | zero =>
      refine ⟨?_, ?_, ?_⟩
      · intro s v rest d h
        cases h
      · intro s members rest d h
        cases h
      · intro s items rest h
        cases h
  | succ n ih =>
      obtain ⟨honce, hmembers, hitems⟩ := ih
      exact ⟨onceSized_succ hmembers hitems, membersSized_succ honce hmembers, itemsSized_succ honce hitems⟩

end VirtualPhone
