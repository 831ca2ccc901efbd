import Mathlib.Data.List.Chain
import VirtualPhone.Runtime.Bytes
import VirtualPhone.Runtime.CaseFold

/-! # Character strings

The string operations the modelled programs take from their language: decimal digits in every
script, blanks, `strip`, `split` and `join`, and the integer parser `int(s)`.  The lines of a
text are cut and joined at CRLF; `joinCrlf_splitCrlf` and `splitCrlf_joinCrlf` say what cutting
after joining, and joining after cutting, give back. -/

namespace Runtime

/-! ### Digits and blanks -/

/-- The code points of the digit zero in every script (Unicode category Nd). -/
def decimalZeros : List ℕ :=
  [0x30, 0x660, 0x6F0, 0x7C0, 0x966, 0x9E6, 0xA66, 0xAE6, 0xB66, 0xBE6, 0xC66, 0xCE6, 0xD66,
    0xDE6, 0xE50, 0xED0, 0xF20, 0x1040, 0x1090, 0x17E0, 0x1810, 0x1946, 0x19D0, 0x1A80, 0x1A90,
    0x1B50, 0x1BB0, 0x1C40, 0x1C50, 0xA620, 0xA8D0, 0xA900, 0xA9D0, 0xA9F0, 0xAA50, 0xABF0,
    0xFF10, 0x104A0, 0x10D30, 0x11066, 0x110F0, 0x11136, 0x111D0, 0x112F0, 0x11450, 0x114D0,
    0x11650, 0x116C0, 0x11730, 0x118E0, 0x11950, 0x11C50, 0x11D50, 0x11DA0, 0x16A60, 0x16AC0,
    0x16B50, 0x1D7CE, 0x1D7D8, 0x1D7E2, 0x1D7EC, 0x1D7F6, 0x1E140, 0x1E2F0, 0x1E950, 0x1FBF0]

/-- The value of a decimal digit. -/
def decimalValue (c : Char) : Option ℕ :=
  (decimalZeros.find? fun z => z ≤ c.toNat ∧ c.toNat < z + 10).map (c.toNat - ·)

/-- The error of `int(s)`. -/
def intError : PyError := .valueError "invalid literal for int() with base 10".toList

/-- `int(c)` for one character. -/
def digitValue (c : Char) : Except PyError ℕ :=
  match decimalValue c with
  | some d => .ok d
  | none => .error intError

/-- `str(n)`. -/
def natText (n : ℕ) : Text := Nat.toDigits 10 n

/-- The decimal numeral of an integer. -/
def intText : ℤ → Text
  | .ofNat n => natText n
  | .negSucc n => '-' :: natText (n + 1)

/-- An ASCII decimal digit. -/
def IsDigit (c : Char) : Prop := '0' ≤ c ∧ c ≤ '9'

instance (c : Char) : Decidable (IsDigit c) := inferInstanceAs (Decidable (_ ∧ _))

/-- The character `'0' + d`. -/
def digitChar (d : ℕ) : Char := Char.ofNat (48 + d)

theorem IsDigit.toNat {c : Char} (h : IsDigit c) : 48 ≤ c.toNat ∧ c.toNat ≤ 57 :=
  ⟨h.1, h.2⟩

theorem decimalValue_of_isDigit {c : Char} (h : IsDigit c) : decimalValue c = some (c.toNat - 48) := by
  have := h.toNat
  unfold decimalValue decimalZeros
  rw [List.find?_cons_of_pos (by simp; omega)]
  rfl

theorem digitValue_of_isDigit {c : Char} (h : IsDigit c) : digitValue c = .ok (c.toNat - 48) := by
  rw [digitValue, decimalValue_of_isDigit h]

theorem decimalValue_lt {c : Char} {d : ℕ} (h : decimalValue c = some d) : d < 10 := by
  obtain ⟨z, hz, rfl⟩ := Option.map_eq_some_iff.mp h
  have := List.find?_some hz
  simp only [decide_eq_true_eq] at this
  omega

theorem digitChar_of_isDigit {c : Char} (h : IsDigit c) : digitChar (c.toNat - 48) = c := by
  have := h.toNat
  rw [digitChar, show 48 + (c.toNat - 48) = c.toNat by omega, Char.ofNat_toNat]

theorem ne_plus_of_isDigit {c : Char} (h : IsDigit c) : c ≠ '+' := by
  rintro rfl
  exact absurd h (by decide)

/-- The characters of `str.isspace`. -/
def isSpace (c : Char) : Bool :=
  let n := c.toNat
  (9 ≤ n && n ≤ 13) || (0x1C ≤ n && n ≤ 0x20) || n == 0x85 || n == 0xA0 || n == 0x1680 ||
    (0x2000 ≤ n && n ≤ 0x200A) || n == 0x2028 || n == 0x2029 || n == 0x202F || n == 0x205F ||
    n == 0x3000

/-- `s.lstrip()`. -/
def lstrip (s : Text) : Text := s.dropWhile isSpace

/-- `s.strip()`. -/
def strip (s : Text) : Text := ((lstrip s).reverse.dropWhile isSpace).reverse

/-! ### The integer parser -/

/-- Digits with single underscores between them, after a first digit. -/
def intDigits (acc count : ℕ) : Text → Option (ℕ × ℕ)
  | [] => some (acc, count)
  | [c] => (decimalValue c).map fun d => (10 * acc + d, count + 1)
  | '_' :: c :: r => (decimalValue c).bind fun d => intDigits (10 * acc + d) (count + 1) r
  | c :: r => (decimalValue c).bind fun d => intDigits (10 * acc + d) (count + 1) r

/-- The unsigned part of an integer literal; more than 4300 digits are refused. -/
def intBody : Text → Except PyError ℕ
  | [] => .error intError
  | c :: r =>
      match (decimalValue c).bind fun d => intDigits d 1 r with
      | some (n, count) => if count ≤ 4300 then .ok n else .error intError
      | none => .error intError

/-- The blanks `int` ignores around its literal: those of `strip` without U+001C to U+001F. -/
def isIntSpace (c : Char) : Bool := isSpace c && !(0x1C ≤ c.toNat && c.toNat ≤ 0x1F)

/-- `int(s)`. -/
def pyInt (s : Text) : Except PyError ℤ :=
  match ((s.dropWhile isIntSpace).reverse.dropWhile isIntSpace).reverse with
  | '+' :: r => (intBody r).map Int.ofNat
  | '-' :: r => (intBody r).map fun n => -(n : ℤ)
  | r => (intBody r).map Int.ofNat

theorem intBody_cases (s : Text) : (∃ n, intBody s = .ok n) ∨ intBody s = .error intError := by
  unfold intBody
  split
  · exact Or.inr rfl
  · split
    · split_ifs
      · exact Or.inl ⟨_, rfl⟩
      · exact Or.inr rfl
    · exact Or.inr rfl

/-- `int` raises one error only. -/
theorem pyInt_error {s : Text} {e : PyError} (h : pyInt s = .error e) : e = intError := by
  have hpos : ∀ r, (intBody r).map Int.ofNat = .error e → e = intError := by
    intro r hr
    rcases intBody_cases r with ⟨n, hn⟩ | hn
    · rw [hn] at hr
      cases hr
    · rw [hn] at hr
      exact (Except.error.inj hr).symm
  unfold pyInt at h
  generalize ((s.dropWhile isIntSpace).reverse.dropWhile isIntSpace).reverse = t at h
  split at h
  · next r => exact hpos r h
  · next r =>
      rcases intBody_cases r with ⟨n, hn⟩ | hn
      · rw [hn] at h
        cases h
      · rw [hn] at h
        exact (Except.error.inj h).symm
  · exact hpos t h

/-! ### Numerals that are read back -/

theorem isDigit_of_mem_natText {n : ℕ} {c : Char} (h : c ∈ natText n) : IsDigit c := by
  have hdigit := Nat.isDigit_of_mem_toDigits (by decide) (by decide) h
  rw [Char.isDigit, Bool.and_eq_true, decide_eq_true_eq, decide_eq_true_eq] at hdigit
  exact hdigit

theorem intDigits_of_isDigit {s : Text} (h : ∀ c ∈ s, IsDigit c) (acc count : ℕ) :
    intDigits acc count s = some (Nat.ofDigitChars 10 s acc, count + s.length) := by
  induction s generalizing acc count with
  | nil => rfl
  | cons c s ih =>
      have hc := h c List.mem_cons_self
      have hstep : intDigits acc count (c :: s) =
          (decimalValue c).bind fun d => intDigits (10 * acc + d) (count + 1) s := by
        cases s with
        | nil => 
          rw [intDigits]
          rw [decimalValue_of_isDigit hc]
          rfl
        | cons d s =>
          rw [intDigits]
          · rintro ⟨⟩
          · intro d' r hunderscore
            rw [hunderscore] at hc
            exact absurd hc (by decide)
      rw [hstep, decimalValue_of_isDigit hc, Option.bind_some, ih fun d hd => h d (List.mem_cons_of_mem _ hd),
        Nat.ofDigitChars_cons, List.length_cons]
      congr 2
      omega

theorem isIntSpace_of_isDigit {c : Char} (h : IsDigit c) : isIntSpace c = false := by
  have hc := h.toNat
  unfold isIntSpace isSpace
  simp only [Bool.and_eq_false_iff, Bool.or_eq_false_iff, Bool.and_eq_false_iff, decide_eq_false_iff_not,
    beq_eq_false_iff_ne]
  omega

theorem dropWhile_isIntSpace {s : Text} (h : ∀ c ∈ s, IsDigit c) : s.dropWhile isIntSpace = s := by
  cases s with
  | nil => rfl
  | cons c s => rw [List.dropWhile_cons, isIntSpace_of_isDigit (h c List.mem_cons_self), if_neg (by decide)]

/-- **A numeral is read back**, if it has no more digits than `int` accepts. -/
theorem pyInt_natText {n : ℕ} (h : (natText n).length ≤ 4300) : pyInt (natText n) = .ok n := by
  have hdigits : ∀ c ∈ natText n, IsDigit c := fun c hc => isDigit_of_mem_natText hc
  have hvalue : Nat.ofDigitChars 10 (natText n) 0 = n := Nat.ofDigitChars_ten_toDigits
  have hne : natText n ≠ [] := Nat.toDigits_ne_nil
  revert h hdigits hvalue hne
  generalize natText n = s
  intro h hdigits hvalue hne
  obtain ⟨c, r, rfl⟩ := List.exists_cons_of_ne_nil hne
  have hstrip : (((c :: r).dropWhile isIntSpace).reverse.dropWhile isIntSpace).reverse = c :: r := by
    rw [dropWhile_isIntSpace hdigits,
      dropWhile_isIntSpace fun d hd => hdigits d (List.mem_reverse.mp hd), List.reverse_reverse]
  have hbody : intBody (c :: r) = .ok n := by
    have hrest := intDigits_of_isDigit (fun d hd => hdigits d (List.mem_cons_of_mem c hd)) (c.toNat - 48) 1
    rw [intBody, decimalValue_of_isDigit (hdigits c List.mem_cons_self), Option.bind_some, hrest]
    dsimp only
    rw [if_pos (by rw [List.length_cons] at h; omega)]
    rw [Nat.ofDigitChars_cons, Nat.mul_zero, Nat.zero_add] at hvalue
    exact congrArg Except.ok hvalue
  unfold pyInt
  rw [hstrip]
  split
  · next heq => exact absurd (hdigits '+' (heq ▸ List.mem_cons_self)) (by decide)
  · next heq => exact absurd (hdigits '-' (heq ▸ List.mem_cons_self)) (by decide)
  · rw [hbody]
    rfl
/-! ### Lines -/

/-- The line separator. -/
def crlf : Text := ['\r', '\n']

/-- Put a character in front of the first line. -/
def consLine (c : Char) : List Text → List Text
  | [] => [[c]]
  | l :: ls => (c :: l) :: ls

/-- `s.split("\r\n")`. -/
def splitCrlf : Text → List Text
  | [] => [[]]
  | '\r' :: '\n' :: r => [] :: splitCrlf r
  | c :: r => consLine c (splitCrlf r)

/-- `"\r\n".join(lines)`. -/
def joinCrlf : List Text → Text
  | [] => []
  | [l] => l
  | l :: ls => l ++ crlf ++ joinCrlf ls

theorem joinCrlf_cons (l : Text) {ls : List Text} (h : ls ≠ []) :
    joinCrlf (l :: ls) = l ++ crlf ++ joinCrlf ls := by
  cases ls with
  | nil => exact absurd rfl h
  | cons m ls => rfl

/-- Lines that all end in CRLF. -/
theorem joinCrlf_crlf {ls : List Text} (h : ls ≠ []) : joinCrlf ls ++ crlf = ls.flatMap (· ++ crlf) := by
  induction ls with
  | nil => exact absurd rfl h
  | cons l ls ih =>
      cases ls with
      | nil => simp [joinCrlf]
      | cons m ls =>
          rw [joinCrlf_cons l (List.cons_ne_nil _ _), List.flatMap_cons, ← ih (List.cons_ne_nil _ _),
            List.append_assoc]

theorem splitCrlf_ne_nil (s : Text) : splitCrlf s ≠ [] := by
  fun_cases splitCrlf s with
  | case1 => simp
  | case2 => simp
  | case3 c r h =>
      cases splitCrlf r with
      | nil => simp [consLine]
      | cons l ls => simp [consLine]

theorem joinCrlf_consLine (c : Char) {ls : List Text} (h : ls ≠ []) :
    joinCrlf (consLine c ls) = c :: joinCrlf ls := by
  cases ls with
  | nil => exact absurd rfl h
  | cons l ls =>
      cases ls with
      | nil => rfl
      | cons m ls => rfl

/-- Joining the lines of a text gives the text back. -/
theorem joinCrlf_splitCrlf (s : Text) : joinCrlf (splitCrlf s) = s := by
  fun_induction splitCrlf s with
  | case1 => rfl
  | case2 r ih => rw [joinCrlf_cons _ (splitCrlf_ne_nil r), ih]; rfl
  | case3 c r h ih => rw [joinCrlf_consLine c (splitCrlf_ne_nil r), ih]

theorem splitCrlf_cons_of_ne {c : Char} {r : Text} (h : ∀ t, c :: r ≠ '\r' :: '\n' :: t) :
    splitCrlf (c :: r) = consLine c (splitCrlf r) := by
  rw [splitCrlf]
  intro t hc hr
  exact h t (by rw [hc, hr])

theorem consLine_append (c : Char) {ls : List Text} (h : ls ≠ []) (ms : List Text) :
    consLine c (ls ++ ms) = consLine c ls ++ ms := by
  cases ls with
  | nil => exact absurd rfl h
  | cons l ls => rfl

/-- A separator always cuts: the two sides are split on their own. -/
theorem splitCrlf_append (p q : Text) :
    splitCrlf (p ++ crlf ++ q) = splitCrlf p ++ splitCrlf q := by
  fun_induction splitCrlf p with
  | case1 => rfl
  | case2 r ih => exact congrArg ([] :: ·) ih
  | case3 c r h ih =>
      have hne : ∀ t, c :: (r ++ crlf ++ q) ≠ '\r' :: '\n' :: t := by
        intro t heq
        obtain ⟨rfl, hrest⟩ := List.cons_eq_cons.mp heq
        cases r with
        | nil =>
            -- the separator behind the text begins with '\r', not '\n'
            exact absurd (List.cons_eq_cons.mp hrest).1 (by decide)
        | cons d r =>
            obtain ⟨rfl, -⟩ := List.cons_eq_cons.mp hrest
            exact h r rfl rfl
      rw [List.cons_append, List.cons_append, splitCrlf_cons_of_ne hne, ih,
        consLine_append c (splitCrlf_ne_nil r)]

/-- The lines of joined texts are the lines of each text. -/
theorem splitCrlf_joinCrlf {lines : List Text} (h : lines ≠ []) :
    splitCrlf (joinCrlf lines) = lines.flatMap splitCrlf := by
  induction lines with
  | nil => exact absurd rfl h
  | cons l ls ih =>
      cases ls with
      | nil => simp [joinCrlf]
      | cons m ls =>
          rw [joinCrlf_cons l (by simp), splitCrlf_append, ih (by simp)]
          rfl

/-- No line separator in the text. -/
def OneLine (s : Text) : Prop := s.IsChain fun a b => ¬(a = '\r' ∧ b = '\n')

instance (s : Text) : Decidable (OneLine s) := inferInstanceAs (Decidable (List.IsChain _ s))

theorem OneLine.splitCrlf {s : Text} (h : OneLine s) : splitCrlf s = [s] := by
  fun_induction Runtime.splitCrlf s with
  | case1 => rfl
  | case2 r => exact absurd ⟨rfl, rfl⟩ (List.isChain_cons_cons.mp h).1
  | case3 c r _ ih => rw [ih h.tail, consLine]

theorem oneLine_of_mem_splitCrlf {s line : Text} (h : line ∈ splitCrlf s) : OneLine line := by
  fun_induction Runtime.splitCrlf s generalizing line with
  | case1 =>
      rw [List.mem_singleton.mp h]
      exact List.isChain_nil
  | case2 r ih =>
      rcases List.mem_cons.mp h with rfl | h
      · exact List.isChain_nil
      · exact ih h
  | case3 c r hc ih =>
      cases hr : splitCrlf r with
      | nil => exact absurd hr (splitCrlf_ne_nil r)
      | cons l ls =>
          rw [hr, consLine] at h
          rw [hr] at ih
          rcases List.mem_cons.mp h with rfl | h
          · refine List.isChain_cons.mpr ⟨fun b hb => ?_, ih (List.mem_cons_self ..)⟩
            rintro ⟨rfl, rfl⟩
            obtain ⟨l, rfl⟩ : ∃ l', l = '\n' :: l' := by
              cases l with
              | nil => cases hb
              | cons d l => exact ⟨l, by rw [Option.some.inj hb]⟩
            have hjoin := joinCrlf_splitCrlf r
            rw [hr] at hjoin
            cases ls with
            | nil => exact hc l rfl hjoin.symm
            | cons m ls => exact hc _ rfl hjoin.symm
          · exact ih (List.mem_cons_of_mem _ h)

/-- A separator is inside one of the two texts, or across their border. -/
theorem OneLine.append {s t : Text} (hs : OneLine s) (ht : OneLine t) (hend : s.getLast? ≠ some '\r') :
    OneLine (s ++ t) := by
  refine List.isChain_append.mpr ⟨hs, ht, fun a ha b _ hab => hend ?_⟩
  rw [Option.mem_def.mp ha, hab.1]

/-- The border of two texts is no separator either if the second one does not begin with a line feed. -/
theorem OneLine.append_of_head {s t : Text} (hs : OneLine s) (ht : OneLine t)
    (hbegin : t.head? ≠ some '\n') : OneLine (s ++ t) := by
  refine List.isChain_append.mpr ⟨hs, ht, fun a _ b hb hab => hbegin ?_⟩
  rw [Option.mem_def.mp hb, hab.2]

theorem OneLine.of_not_mem {s : Text} (h : '\r' ∉ s) : OneLine s := by
  induction s with
  | nil => exact List.isChain_nil
  | cons c s ih =>
      obtain ⟨hc, hs⟩ := List.ne_and_not_mem_of_not_mem_cons h
      exact List.isChain_cons.mpr ⟨fun _ _ hcr => hc hcr.1.symm, ih hs⟩

theorem OneLine.of_isInfix {s t : Text} (ht : OneLine t) (h : s <:+: t) : OneLine s := by
  obtain ⟨front, back, rfl⟩ := h
  exact ht.left_of_append.right_of_append

theorem OneLine.strip {s : Text} (h : OneLine s) : OneLine (strip s) := by
  refine h.of_isInfix ?_
  unfold Runtime.strip lstrip
  have hfront : s.dropWhile isSpace <:+ s := List.dropWhile_suffix _
  have hback := List.reverse_prefix.mpr (List.dropWhile_suffix (l := (s.dropWhile isSpace).reverse) isSpace)
  rw [List.reverse_reverse] at hback
  exact hback.isInfix.trans hfront.isInfix

theorem natText_no_cr (n : ℕ) : '\r' ∉ natText n := by
  intro h
  exact absurd (Nat.isDigit_of_mem_toDigits (by decide) (by decide) h) (by decide)

theorem intText_no_cr (i : ℤ) : '\r' ∉ intText i := by
  cases i with
  | ofNat n => exact natText_no_cr n
  | negSucc n =>
      refine List.not_mem_cons_of_ne_of_not_mem (by decide) (natText_no_cr _)

/-- Lines of one line each are read back from their text, with what is behind the last separator. -/
theorem splitCrlf_flatMap_crlf {lines : List Text} (h : ∀ line ∈ lines, OneLine line) (rest : Text) :
    splitCrlf (lines.flatMap (· ++ crlf) ++ rest) = lines ++ splitCrlf rest := by
  induction lines with
  | nil => rfl
  | cons line lines ih =>
      rw [List.flatMap_cons, List.append_assoc, splitCrlf_append,
        (h line List.mem_cons_self).splitCrlf, ih fun l hl => h l (List.mem_cons_of_mem line hl)]
      rfl

theorem joinCrlf_blank (ls : List Text) : joinCrlf (ls ++ [[]]) = ls.flatMap (· ++ crlf) := by
  have h := joinCrlf_crlf (show ls ++ [[]] ≠ [] by simp)
  rw [List.flatMap_append] at h
  exact List.append_cancel_right h

/-! ### Fields -/

/-- `s.split(c, k)`: at most `k` cuts, each at the next `c`. -/
def splitChar (c : Char) : ℕ → Text → List Text
  | 0, s => [s]
  | k + 1, s =>
      match s.dropWhile (· ≠ c) with
      | [] => [s]
      | _ :: r => s.takeWhile (· ≠ c) :: splitChar c k r

/-- One cut, at the first `c`. -/
theorem splitChar_append {c : Char} {s : Text} (h : c ∉ s) (k : ℕ) (r : Text) :
    splitChar c (k + 1) (s ++ c :: r) = s :: splitChar c k r := by
  have hne : ∀ a ∈ s, decide (a ≠ c) = true := fun a ha => decide_eq_true fun heq => h (heq ▸ ha)
  have hdrop : (s ++ c :: r).dropWhile (· ≠ c) = c :: r := by
    rw [List.dropWhile_append_of_pos hne]
    exact List.dropWhile_cons_of_neg (by simp)
  have htake : (s ++ c :: r).takeWhile (· ≠ c) = s := by
    rw [List.takeWhile_append_of_pos hne, List.takeWhile_cons_of_neg (by simp), List.append_nil]
  rw [splitChar, hdrop, htake]

/-- A prefix of a text with a blank ends before the blank, or has a blank. -/
theorem prefix_of_prefix_blank {w s r : Text} (hw : ' ' ∉ w) (h : w <+: s ++ ' ' :: r) : w <+: s := by
  rcases le_total w.length s.length with hle | hle
  · exact List.prefix_of_prefix_length_le h (List.prefix_append s _) hle
  · have hs : s <+: w := List.prefix_of_prefix_length_le (List.prefix_append s _) h hle
    obtain ⟨t, rfl⟩ := hs
    rw [List.prefix_append_right_inj] at h
    cases t with
    | nil => simp
    | cons c t =>
        obtain ⟨rfl, -⟩ := List.cons_prefix_cons.mp h
        exact absurd (by simp) hw

/-! ### Searching -/

/-- The first place of a text where `p` succeeds, and what it finds there. -/
def search {α : Type} (p : Text → Option α) : Text → Option α
  | [] => p []
  | c :: r => (p (c :: r)).or (search p r)

/-- A stretch at whose characters `p` fails is skipped. -/
theorem search_append {α : Type} {p : Text → Option α} {t r : Text}
    (h : ∀ u c v, t = u ++ c :: v → p (c :: (v ++ r)) = none) : search p (t ++ r) = search p r := by
  induction t with
  | nil => rfl
  | cons c t ih =>
      rw [List.cons_append, search, h [] c t rfl, Option.none_or]
      exact ih fun u d v hv => h (c :: u) d v (congrArg (c :: ·) hv)

/-- The text behind a literal. -/
def dropLiteral (lit : Text) (s : Text) : Option Text :=
  if lit <+: s then some (s.drop lit.length) else none

/-- The text behind a literal, whose letters may be of the other case. -/
def dropIgnoringCase (lit s : Text) : Option Text :=
  if lit.map foldCase <+: s.map foldCase then some (s.drop lit.length) else none

/-- One or more characters of a class, as many as there are, and the text behind them. -/
def spanClass (p : Char → Bool) (s : Text) : Option (Text × Text) :=
  if s.takeWhile p = [] then none else some (s.takeWhile p, s.dropWhile p)

/-- `\d` of a regular expression. -/
def isDecimal (c : Char) : Bool := (decimalValue c).isSome

/-- A stretch of the class, before what is not of it. -/
theorem spanClass_append {p : Char → Bool} {s r : Text} (hs : ∀ c ∈ s, p c = true) (hne : s ≠ [])
    (hr : ∀ c ∈ r.head?, p c = false) : spanClass p (s ++ r) = some (s, r) := by
  have hrest : r.takeWhile p = [] ∧ r.dropWhile p = r := by
    cases r with
    | nil => exact ⟨rfl, rfl⟩
    | cons c r =>
        have hc := hr c rfl
        exact ⟨List.takeWhile_cons_of_neg (by simp [hc]), List.dropWhile_cons_of_neg (by simp [hc])⟩
  rw [spanClass, List.takeWhile_append_of_pos hs, List.dropWhile_append_of_pos hs, hrest.1, hrest.2,
    List.append_nil, if_neg hne]

theorem spanClass_eq_some_iff {p : Char → Bool} {s d r : Text} : spanClass p s = some (d, r) ↔
    s = d ++ r ∧ d ≠ [] ∧ (∀ c ∈ d, p c = true) ∧ ∀ c ∈ r.head?, p c = false := by
  constructor
  · intro h
    unfold spanClass at h
    split_ifs at h with hnil
    obtain ⟨rfl, rfl⟩ := Prod.mk.inj (Option.some.inj h)
    refine ⟨List.takeWhile_append_dropWhile.symm, hnil, List.all_eq_true.mp List.all_takeWhile, fun c hc => ?_⟩
    have hhead := List.head?_dropWhile_not p s
    rwa [Option.mem_def.mp hc] at hhead
  · rintro ⟨rfl, hne, hd, hr⟩
    exact spanClass_append hd hne hr

theorem dropLiteral_eq_some_iff {lit s r : Text} : dropLiteral lit s = some r ↔ s = lit ++ r := by
  unfold dropLiteral
  constructor
  · intro h
    split_ifs at h with hpre
    obtain ⟨t, rfl⟩ := hpre
    rw [← Option.some.inj h, List.drop_left]
  · rintro rfl
    rw [if_pos (List.prefix_append _ _), List.drop_left]

theorem dropIgnoringCase_eq_some_iff {lit s r : Text} : dropIgnoringCase lit s = some r ↔
    ∃ t, s = t ++ r ∧ t.map foldCase = lit.map foldCase := by
  unfold dropIgnoringCase
  constructor
  · intro h
    split_ifs at h with hpre
    obtain rfl := Option.some.inj h
    refine ⟨s.take lit.length, (List.take_append_drop _ _).symm, ?_⟩
    rw [List.map_take, List.prefix_iff_eq_take.mp hpre, List.length_map]
  · rintro ⟨t, rfl, ht⟩
    have hlength : t.length = lit.length := by
      rw [← List.length_map foldCase, ht, List.length_map]
    rw [List.map_append, ht, if_pos (List.prefix_append _ _), ← hlength, List.drop_left]

/-- What a search finds is the first there is. -/
theorem search_eq_some_iff {α : Type} {p : Text → Option α} {t : Text} {a : α} :
    search p t = some a ↔ ∃ u s, t = u ++ s ∧ p s = some a ∧ ∀ v w, u = v ++ w → w ≠ [] → p (w ++ s) = none := by
  induction t with
  | nil =>
      rw [search]
      constructor
      · exact fun h => ⟨[], [], rfl, h, fun v w hvw hw => absurd (List.nil_eq_append_iff.mp hvw).2 hw⟩
      · rintro ⟨u, s, hus, h, -⟩
        obtain ⟨rfl, rfl⟩ := List.nil_eq_append_iff.mp hus
        exact h
  | cons c t ih =>
      rw [search]
      constructor
      · intro h
        cases hp : p (c :: t) with
        | some b =>
            rw [hp, Option.some_or] at h
            refine ⟨[], c :: t, rfl, hp.trans h, fun v w hvw hw => ?_⟩
            exact absurd (List.nil_eq_append_iff.mp hvw).2 hw
        | none =>
            rw [hp, Option.none_or] at h
            obtain ⟨u, s, rfl, hs, hfirst⟩ := ih.mp h
            refine ⟨c :: u, s, rfl, hs, fun v w hvw hw => ?_⟩
            cases v with
            | nil =>
                obtain rfl : c :: u = w := hvw
                exact hp
            | cons d v => exact hfirst v w (List.cons.inj hvw).2 hw
      · rintro ⟨u, s, hus, hs, hfirst⟩
        cases u with
        | nil =>
            obtain rfl : c :: t = s := hus
            rw [hs, Option.some_or]
        | cons d u =>
            obtain ⟨rfl, ht⟩ := List.cons.inj hus
            obtain rfl : t = u ++ s := ht
            rw [show p (c :: (u ++ s)) = none from hfirst [] (c :: u) rfl (List.cons_ne_nil _ _), Option.none_or]
            exact ih.mpr ⟨u, s, rfl, hs, fun v w hvw hw => hfirst (c :: v) w (by rw [hvw]; rfl) hw⟩

/-- A search finds something where there is something to be found. -/
theorem search_isSome {α : Type} {p : Text → Option α} (u : Text) {s : Text} (h : (p s).isSome) :
    (search p (u ++ s)).isSome := by
  induction u with
  | nil =>
      cases s with
      | nil => exact h
      | cons c s =>
          rw [List.nil_append, search, Option.isSome_or, h]
          rfl
  | cons c u ih => rw [List.cons_append, search, Option.isSome_or, ih, Bool.or_true]

/-- A literal is in a text where a search finds it. -/
theorem isInfix_iff_search {w t : Text} : w <:+: t ↔ (search (dropLiteral w) t).isSome = true := by
  induction t with
  | nil =>
      rw [search, dropLiteral]
      split
      · next h => exact iff_of_true h.isInfix rfl
      · next h => exact iff_of_false (fun hw => h (List.infix_nil.mp hw ▸ List.nil_prefix)) (by decide)
  | cons c t ih =>
      rw [List.infix_cons_iff, ih, search, dropLiteral]
      split
      · next h => exact iff_of_true (Or.inl h) rfl
      · next h => rw [Option.none_or, or_iff_right h]

end Runtime
