import VirtualPhone.JsonSize

/-! # Compact JSON texts

A text written with as little as possible, without blanks and without escapes, is read back as it was
meant (`loads_objectText`).  Of a text that begins like one, the members at the beginning are read,
and nothing that would not fit into the rest (`loads_prefix`). -/

namespace VirtualPhone

open Runtime

/-! ### The compact text is read back -/

/-- The characters that may stand for themselves in a string. -/
def JsonPlain (c : Char) : Prop := c ≠ '"' ∧ c ≠ '\\' ∧ 0x20 ≤ c.toNat

instance (c : Char) : Decidable (JsonPlain c) := inferInstanceAs (Decidable (_ ∧ _))

theorem charSize_eq_one_iff (c : Char) : charSize c = 1 ↔ JsonPlain c := by
  unfold charSize JsonPlain
  split_ifs with h
  · refine iff_of_false (by decide) ?_
    rintro ⟨hq, hb, hc⟩
    rcases h with h | h | h
    · exact hq h
    · exact hb h
    · omega
  · refine iff_of_true rfl ⟨fun hq => h (.inl hq), fun hb => h (.inr (.inl hb)), ?_⟩
    by_contra hc
    exact h (.inr (.inr (Nat.lt_of_not_le hc)))

theorem length_le_textSize (s : Text) : s.length ≤ textSize s := by
  induction s with
  | nil => exact le_rfl
  | cons c s ih =>
      have hc : 1 ≤ charSize c := by
        unfold charSize
        split_ifs <;> omega
      simp only [textSize, List.map_cons, List.sum_cons, List.length_cons] at ih ⊢
      omega

/-- A text takes no more than its own length exactly when all of it may stand for itself. -/
theorem textSize_le_iff (s : Text) : textSize s ≤ s.length ↔ ∀ c ∈ s, JsonPlain c := by
  induction s with
  | nil => exact iff_of_true le_rfl fun c hc => absurd hc List.not_mem_nil
  | cons c s ih =>
      have hlen := length_le_textSize s
      have hc : 1 ≤ charSize c := by
        unfold charSize
        split_ifs <;> omega
      rw [List.forall_mem_cons, ← ih, ← charSize_eq_one_iff]
      simp only [textSize, List.map_cons, List.sum_cons, List.length_cons] at hlen ⊢
      constructor
      · intro h
        exact ⟨by omega, by omega⟩
      · rintro ⟨h1, h2⟩
        omega

theorem scanString_plain {s : Text} (h : ∀ c ∈ s, JsonPlain c) (rest : Text) {n : ℕ}
    (hn : s.length < n) : scanString n (s ++ '"' :: rest) = some (s, rest) := by
  induction s generalizing n with
  | nil =>
      obtain ⟨n, rfl⟩ := Nat.exists_eq_add_of_lt hn
      rfl
  | cons c s ih =>
      obtain ⟨n, rfl⟩ : ∃ m, n = m + 1 := ⟨n - 1, by omega⟩
      obtain ⟨hq, hb, hc⟩ := h c List.mem_cons_self
      have hstep : scanChar (c :: (s ++ '"' :: rest)) = some (some c, s ++ '"' :: rest) := by
        unfold scanChar
        simp only
        rw [if_neg hq, if_neg hb, if_neg (by omega)]
      rw [List.length_cons] at hn
      have hmore := ih (fun d hd => h d (List.mem_cons_of_mem c hd)) (n := n) (by omega)
      rw [List.cons_append, scanString, hstep]
      change (scanString n (s ++ '"' :: rest)).bind _ = _
      rw [hmore]
      rfl

/-- A text that is read as a value in `n` steps or more, where a comma or a brace follows. -/
structure ReadsAs (n : ℕ) (text : Text) (v : Json) : Prop where
  starts : ∃ c t, text = c :: t ∧ isJsonBlank c = false
  read : ∀ m, n ≤ m → ∀ c rest, c = ',' ∨ c = '\x7d' →
    scanOnce m (text ++ c :: rest) = some (v, c :: rest)

theorem skipBlanks_of_starts {text : Text} (h : ∃ c t, text = c :: t ∧ isJsonBlank c = false)
    (rest : Text) : skipBlanks (text ++ rest) = text ++ rest := by
  obtain ⟨c, t, rfl, hc⟩ := h
  exact List.dropWhile_cons_of_neg (by rw [hc]; decide)

theorem readsAs_str {s : Text} (h : ∀ c ∈ s, JsonPlain c) :
    ReadsAs 1 ('"' :: s ++ ['"']) (.str s) where
  starts := ⟨'"', s ++ ['"'], rfl, rfl⟩
  read := by
    intro m hm c rest hc
    obtain ⟨m, rfl⟩ : ∃ k, m = k + 1 := ⟨m - 1, by omega⟩
    have happ : '"' :: s ++ ['"'] ++ c :: rest = '"' :: (s ++ '"' :: (c :: rest)) := by simp
    rw [happ]
    unfold scanOnce
    simp only
    rw [scanString_plain h (c :: rest) (by simp)]
    rfl

theorem natText_leading_zero {n : ℕ} {t : Text} (h : natText n = '0' :: t) : t = [] := by
  by_contra hne
  have hdigits : ∀ c ∈ t, IsDigit c := by
    intro c hc
    exact isDigit_of_mem_natText (h ▸ List.mem_cons_of_mem '0' hc)
  have hvalue : Nat.ofDigitChars 10 (natText n) 0 = n := Nat.ofDigitChars_ten_toDigits
  have hlt := ofDigitChars_lt hdigits 0
  rw [h, Nat.ofDigitChars_cons] at hvalue
  change Nat.ofDigitChars 10 t 0 = n at hvalue
  rw [hvalue, Nat.zero_add, Nat.one_mul] at hlt
  have hlen := (Nat.length_toDigits_le_iff (by decide) (List.length_pos_of_ne_nil hne)).mpr hlt
  change (natText n).length ≤ t.length at hlen
  rw [h, List.length_cons] at hlen
  omega

theorem scanNumber_natText {n : ℕ} (h : (natText n).length ≤ 4300) (negative : Bool) {c : Char}
    (hc : c = ',' ∨ c = '\x7d') (rest : Text) :
    scanNumber negative (natText n ++ c :: rest) =
      some (.int (if negative then -(n : ℤ) else n), c :: rest) := by
  have hstop : ¬IsDigit c := by rcases hc with rfl | rfl <;> decide
  have hdigits : ∀ d ∈ natText n, decide (IsDigit d) = true :=
    fun d hd => decide_eq_true (isDigit_of_mem_natText hd)
  have hspan : spanDigits (natText n ++ c :: rest) = (natText n, c :: rest) := by
    refine Prod.ext ?_ ?_
    · exact List.takeWhile_append_of_pos hdigits |>.trans (by simp [hstop])
    · exact List.dropWhile_append_of_pos hdigits |>.trans (by simp [hstop])
  have hinteger : scanInteger (natText n ++ c :: rest) = (natText n, c :: rest) := by
    unfold scanInteger
    split
    · next r hr =>
      cases hn : natText n with
      | nil => exact absurd hn Nat.toDigits_ne_nil
      | cons d t =>
          rw [hn] at hr
          obtain ⟨rfl, htail⟩ := List.cons.inj hr
          obtain rfl := natText_leading_zero hn
          exact congrArg (fun r => (['0'], r)) htail.symm
    · exact hspan
  have hfraction : scanFraction (c :: rest) = ([], c :: rest) := by
    rcases hc with rfl | rfl <;> rfl
  have hexponent : scanExponent (c :: rest) = ([], c :: rest) := by
    rcases hc with rfl | rfl <;> rfl
  have hvalue : Nat.ofDigitChars 10 (natText n) 0 = n := Nat.ofDigitChars_ten_toDigits
  unfold scanNumber
  simp only [hinteger, hfraction, hexponent, hvalue]
  have hne : natText n ≠ [] := Nat.toDigits_ne_nil
  rw [if_neg hne, if_pos ⟨trivial, trivial⟩, if_neg (by omega)]

theorem scanOnce_scalar {c : Char} (h : c ≠ '"' ∧ c ≠ '\x7b' ∧ c ≠ '[') (t : Text) (m : ℕ) :
    scanOnce (m + 1) (c :: t) = scanScalar (c :: t) := by
  unfold scanOnce
  split
  · next heq => exact absurd (List.cons.inj heq).1 h.1
  · next heq => exact absurd (List.cons.inj heq).1 h.2.1
  · next heq => exact absurd (List.cons.inj heq).1 h.2.2
  · rfl

/-- A text whose first character starts none of the words is a number. -/
theorem scanScalar_number {c : Char} (hc : c ∉ ['n', 't', 'f', 'N', 'I']) {t : Text}
    (ht : ¬"-Infinity".toList <+: c :: t) :
    scanScalar (c :: t) = match c :: t with
      | '-' :: rest => scanNumber true rest
      | _ => scanNumber false (c :: t) := by
  have hno : ∀ word ∈ ["null".toList, "true".toList, "false".toList, "NaN".toList, "Infinity".toList],
      ¬word <+: c :: t := by
    have hfirst : ∀ word ∈ ["null".toList, "true".toList, "false".toList, "NaN".toList,
        "Infinity".toList], ∃ a w, word = a :: w ∧ a ∈ ['n', 't', 'f', 'N', 'I'] := by
      simp
    intro word hword hpre
    obtain ⟨a, w, rfl, ha⟩ := hfirst word hword
    exact hc ((List.cons_prefix_cons.mp hpre).1 ▸ ha)
  unfold scanScalar
  simp only
  rw [if_neg (hno _ (by simp)), if_neg (hno _ (by simp)), if_neg (hno _ (by simp)),
    if_neg (hno _ (by simp)), if_neg (hno _ (by simp)), if_neg ht]
  rfl

theorem readsAs_int {i : ℤ} (h : (intText i).length ≤ 4300) : ReadsAs 1 (intText i) (.int i) := by
  have hdigit : ∀ c, IsDigit c → isJsonBlank c = false ∧ (c ≠ '"' ∧ c ≠ '\x7b' ∧ c ≠ '[') ∧
      c ∉ ['n', 't', 'f', 'N', 'I'] ∧ c ≠ '-' := by
    intro c hc
    have hval := hc.toNat
    have hne : ∀ d : Char, d.toNat < 48 ∨ 57 < d.toNat → c ≠ d := by
      rintro d hd rfl
      omega
    refine ⟨?_, ⟨hne _ (by decide), hne _ (by decide), hne _ (by decide)⟩, ?_, hne _ (by decide)⟩
    · have hblank : c ≠ ' ' ∧ c ≠ '\t' ∧ c ≠ '\n' ∧ c ≠ '\r' :=
        ⟨hne _ (by decide), hne _ (by decide), hne _ (by decide), hne _ (by decide)⟩
      simp [isJsonBlank, hblank]
    · intro hmem
      simp only [List.mem_cons, List.not_mem_nil, or_false] at hmem
      rcases hmem with hmem | hmem | hmem | hmem | hmem
      all_goals exact hne _ (by decide) hmem
  cases i with
  | ofNat n =>
      change (natText n).length ≤ 4300 at h
      change ReadsAs 1 (natText n) (.int n)
      cases hn : natText n with
      | nil => exact absurd hn Nat.toDigits_ne_nil
      | cons d t =>
          obtain ⟨hblank, hopen, hword, hsign⟩ :=
            hdigit d (isDigit_of_mem_natText (hn ▸ List.mem_cons_self))
          refine ⟨⟨d, t, rfl, hblank⟩, ?_⟩
          intro m hm c rest hc
          obtain ⟨m, rfl⟩ : ∃ k, m = k + 1 := ⟨m - 1, by omega⟩
          have hnumber := scanNumber_natText h false hc rest
          rw [hn] at hnumber
          rw [List.cons_append, scanOnce_scalar hopen, scanScalar_number hword]
          · split
            · next heq => exact absurd (List.cons.inj heq).1 hsign
            · exact hnumber
          · exact fun hpre => hsign (List.cons_prefix_cons.mp hpre).1.symm
  | negSucc n =>
      change ('-' :: natText (n + 1)).length ≤ 4300 at h
      rw [List.length_cons] at h
      refine ⟨⟨'-', natText (n + 1), rfl, rfl⟩, ?_⟩
      intro m hm c rest hc
      obtain ⟨m, rfl⟩ : ∃ k, m = k + 1 := ⟨m - 1, by omega⟩
      change scanOnce (m + 1) ('-' :: (natText (n + 1) ++ c :: rest)) = _
      rw [scanOnce_scalar (by decide), scanScalar_number (by decide)]
      · exact scanNumber_natText (by omega) true hc rest
      · intro hpre
        cases hn : natText (n + 1) with
        | nil => exact absurd hn Nat.toDigits_ne_nil
        | cons d t =>
            have hd := isDigit_of_mem_natText (hn ▸ List.mem_cons_self : d ∈ natText (n + 1))
            rw [hn] at hpre
            have heq := (List.cons_prefix_cons.mp (List.cons_prefix_cons.mp hpre).2).1
            exact (hdigit d hd).2.2.1 (heq ▸ by decide)

/-! ### Compact objects -/

/-- A member as it is written, `"key":value`. -/
def memberText (m : Text × Text) : Text := '"' :: (m.1 ++ '"' :: ':' :: m.2)

/-- The members of an object with commas between them. -/
def membersText : List (Text × Text) → Text
  | [] => []
  | [m] => memberText m
  | m :: ms => memberText m ++ ',' :: membersText ms

/-- An object written without blanks; the members come with the texts of their values. -/
def objectText (ms : List (Text × Text)) : Text := '\x7b' :: (membersText ms ++ ['\x7d'])

theorem membersText_cons (m m' : Text × Text) (ms : List (Text × Text)) :
    membersText (m :: m' :: ms) = memberText m ++ ',' :: membersText (m' :: ms) := rfl

theorem memberText_length (m : Text × Text) : (memberText m).length = m.1.length + m.2.length + 3 := by
  simp only [memberText, List.length_cons, List.length_append]
  omega

theorem membersText_length {ms : List (Text × Text)} (h : ms ≠ []) :
    (membersText ms).length + 1 = (ms.map fun m => m.1.length + m.2.length + 4).sum := by
  induction ms with
  | nil => exact absurd rfl h
  | cons m ms ih =>
      cases ms with
      | nil =>
          simp only [membersText, memberText_length, List.map_cons, List.map_nil, List.sum_cons,
            List.sum_nil]
          omega
      | cons m' ms =>
          have := ih (by simp)
          rw [membersText_cons, List.length_append, List.length_cons, memberText_length, List.map_cons,
            List.sum_cons]
          omega

theorem objectText_length {ms : List (Text × Text)} (h : ms ≠ []) :
    (objectText ms).length = 1 + (ms.map fun m => m.1.length + m.2.length + 4).sum := by
  have := membersText_length h
  simp only [objectText, List.length_cons, List.length_append, List.length_nil]
  omega

theorem objectText_length_le (ms : List (Text × Text)) :
    1 + 4 * ms.length ≤ (objectText ms).length := by
  have hsum : 4 * ms.length ≤ (ms.map fun m => m.1.length + m.2.length + 4).sum := by
    induction ms with
    | nil => exact le_rfl
    | cons m ms ih =>
        rw [List.length_cons, List.map_cons, List.sum_cons]
        omega
  cases ms with
  | nil => exact Nat.le_succ 1
  | cons m ms =>
      rw [objectText_length (by simp)]
      omega

theorem scanMembers_cons {key text : Text} {v : Json} {n m : ℕ} (hkey : ∀ c ∈ key, JsonPlain c)
    (h : ReadsAs n text v) (hm : n ≤ m) (rest : Text) :
    scanMembers (m + 1) (memberText (key, text) ++ ',' :: rest) =
      (scanMembers m (skipBlanks rest)).map fun r => ((key, v) :: r.1, r.2) := by
  have happ : memberText (key, text) ++ ',' :: rest =
      '"' :: (key ++ '"' :: (':' :: (text ++ ',' :: rest))) := by
    simp [memberText]
  rw [happ]
  conv_lhs => unfold scanMembers
  simp only
  rw [scanString_plain hkey _ (by simp)]
  change (scanOnce m (skipBlanks (text ++ ',' :: rest))).bind _ = _
  rw [skipBlanks_of_starts h.starts, h.read m hm ',' rest (Or.inl rfl)]
  change (scanMembers m (skipBlanks rest)).bind _ = _
  cases scanMembers m (skipBlanks rest) <;> rfl

theorem scanMembers_last {key text : Text} {v : Json} {n m : ℕ} (hkey : ∀ c ∈ key, JsonPlain c)
    (h : ReadsAs n text v) (hm : n ≤ m) (rest : Text) :
    scanMembers (m + 1) (memberText (key, text) ++ '\x7d' :: rest) = some ([(key, v)], rest) := by
  have happ : memberText (key, text) ++ '\x7d' :: rest =
      '"' :: (key ++ '"' :: (':' :: (text ++ '\x7d' :: rest))) := by
    simp [memberText]
  rw [happ]
  unfold scanMembers
  simp only
  rw [scanString_plain hkey _ (by simp)]
  change (scanOnce m (skipBlanks (text ++ '\x7d' :: rest))).bind _ = _
  rw [skipBlanks_of_starts h.starts, h.read m hm '\x7d' rest (Or.inr rfl)]
  rfl

/-- A member with the text and the value of its value. -/
abbrev ReadMember := Text × Text × Json

/-- Members whose keys are plain and whose texts are read. -/
def MembersRead (n : ℕ) (ms : List ReadMember) : Prop :=
  ∀ m ∈ ms, (∀ c ∈ m.1, JsonPlain c) ∧ ReadsAs n m.2.1 m.2.2

theorem scanMembers_membersText {n : ℕ} {ms : List ReadMember} (hne : ms ≠ [])
    (h : MembersRead n ms) {m : ℕ} (hm : n + ms.length ≤ m) (rest : Text) :
    scanMembers m (membersText (ms.map fun x => (x.1, x.2.1)) ++ '\x7d' :: rest) =
      some (ms.map fun x => (x.1, x.2.2), rest) := by
  induction ms generalizing m with
  | nil => exact absurd rfl hne
  | cons x ms ih =>
      rw [List.length_cons] at hm
      obtain ⟨m, rfl⟩ : ∃ k, m = k + 1 := ⟨m - 1, by omega⟩
      obtain ⟨⟨hkey, hread⟩, hrest⟩ := List.forall_mem_cons.mp h
      cases ms with
      | nil => exact scanMembers_last hkey hread (by omega) rest
      | cons y ms =>
          have hstart : ∀ t, skipBlanks (membersText ((y :: ms).map fun x => (x.1, x.2.1)) ++ t) =
              membersText ((y :: ms).map fun x => (x.1, x.2.1)) ++ t := by
            intro t
            refine skipBlanks_of_starts ?_ t
            cases ms <;> exact ⟨'"', _, rfl, rfl⟩
          have hcons : membersText ((x :: y :: ms).map fun x => (x.1, x.2.1)) =
              memberText (x.1, x.2.1) ++ ',' :: membersText ((y :: ms).map fun x => (x.1, x.2.1)) := rfl
          rw [hcons, List.append_assoc, List.cons_append, scanMembers_cons hkey hread (by omega),
            hstart, ih (by simp) hrest (by omega)]
          rfl

theorem mem_of_get? {fields : List (Text × Json)} {key : String} {v : Json}
    (h : Json.get? fields key = some v) : (key.toList, v) ∈ fields := by
  obtain ⟨f, hf, rfl⟩ := Option.map_eq_some_iff.mp h
  have hkey : f.1 = key.toList := by simpa using List.find?_some hf
  rw [← hkey]
  exact List.mem_of_find?_eq_some hf

theorem mem_of_get?_ofMembers {members fields : List (Text × Json)} {key : String} {v : Json}
    (hfields : Json.ofMembers members = .obj fields) (h : Json.get? fields key = some v) :
    (key.toList, v) ∈ members := by
  obtain rfl : (Dict.ofList members).entries = fields := by
    injection hfields
  exact Dict.mem_of_mem_ofList h

theorem scanMembers_prefix {n : ℕ} {ms : List ReadMember} (h : MembersRead n ms) {m : ℕ} (hm : n ≤ m)
    {rest : Text} (hrest : skipBlanks rest = rest) :
    scanMembers (m + ms.length) ((ms.flatMap fun x => memberText (x.1, x.2.1) ++ [',']) ++ rest) =
      (scanMembers m rest).map fun r => (ms.map (fun x => (x.1, x.2.2)) ++ r.1, r.2) := by
  induction ms with
  | nil =>
      rw [List.flatMap_nil, List.nil_append, List.length_nil, Nat.add_zero]
      cases scanMembers m rest <;> rfl
  | cons x ms ih =>
      obtain ⟨⟨hkey, hread⟩, hmore⟩ := List.forall_mem_cons.mp h
      have hstart : skipBlanks ((ms.flatMap fun x => memberText (x.1, x.2.1) ++ [',']) ++ rest) =
          (ms.flatMap fun x => memberText (x.1, x.2.1) ++ [',']) ++ rest := by
        cases ms with
        | nil => exact hrest
        | cons y ms => rfl
      rw [List.flatMap_cons, List.append_assoc, List.append_assoc, List.singleton_append,
        List.length_cons, ← Nat.add_assoc, scanMembers_cons hkey hread (by omega), hstart, ih hmore]
      cases scanMembers m rest <;> rfl

/-- What is read of an object whose first members are known, and what it takes at least. -/
theorem loads_prefix {n : ℕ} {ms : List ReadMember} (hne : ms ≠ []) (h : MembersRead n ms)
    {rest : Text} (hrest : skipBlanks rest = rest) {v : Json}
    (hn : n + ms.length ≤ ('\x7b' :: ((ms.flatMap fun x => memberText (x.1, x.2.1) ++ [',']) ++
      rest)).length)
    (hv : loads ('\x7b' :: ((ms.flatMap fun x => memberText (x.1, x.2.1) ++ [',']) ++ rest)) = .ok v) :
    ∃ more, v = Json.ofMembers (ms.map (fun x => (x.1, x.2.2)) ++ more) ∧ ∀ d,
      1 + ((ms.map (fun x => (x.1, x.2.2)) ++ more).map (memberSize d)).sum ≤
        ('\x7b' :: ((ms.flatMap fun x => memberText (x.1, x.2.1) ++ [',']) ++ rest)).length := by
  obtain ⟨t, ht⟩ : ∃ t, (ms.flatMap fun x => memberText (x.1, x.2.1) ++ [',']) ++ rest = '"' :: t := by
    cases ms with
    | nil => exact absurd rfl hne
    | cons x ms => exact ⟨_, rfl⟩
  have hprefix := fun m (hm : n ≤ m) => scanMembers_prefix h hm hrest
  rw [ht] at hn hv hprefix ⊢
  obtain ⟨k, hk⟩ : ∃ k, ('\x7b' :: '"' :: t).length = k + ms.length ∧ n ≤ k :=
    ⟨('\x7b' :: '"' :: t).length - ms.length, by omega, by omega⟩
  have hscan : scanOnce (('\x7b' :: '"' :: t).length + 1) ('\x7b' :: '"' :: t) =
      (scanMembers ('\x7b' :: '"' :: t).length ('"' :: t)).bind fun r =>
        some (Json.ofMembers r.1, r.2) := by
    conv_lhs => unfold scanOnce
    rfl
  have hskip : skipBlanks ('\x7b' :: '"' :: t) = '\x7b' :: '"' :: t := rfl
  have hwhole : scanMembers ('\x7b' :: '"' :: t).length ('"' :: t) =
      (scanMembers k rest).map fun r => (ms.map (fun x => (x.1, x.2.2)) ++ r.1, r.2) := by
    rw [hk.1]
    exact hprefix k hk.2
  unfold loads at hv
  rw [hskip, hscan] at hv
  cases hmore : scanMembers k rest with
  | none =>
      rw [hwhole, hmore] at hv
      cases hv
  | some r =>
      rw [hmore, Option.map_some] at hwhole
      rw [hwhole] at hv
      change (if skipBlanks r.2 = [] then _ else _) = _ at hv
      split_ifs at hv
      refine ⟨r.1, (Except.ok.inj hv).symm, fun d => ?_⟩
      have := (scanOnce_size _).2.1 _ _ _ d hwhole
      rw [List.length_cons]
      omega

theorem scanOnce_objectText {n : ℕ} {ms : List ReadMember} (hne : ms ≠ []) (h : MembersRead n ms)
    (hkeys : (ms.map Prod.fst).Nodup) {m : ℕ} (hm : n + ms.length ≤ m) (rest : Text) :
    scanOnce (m + 1) (objectText (ms.map fun x => (x.1, x.2.1)) ++ rest) =
      some (.obj (ms.map fun x => (x.1, x.2.2)), rest) := by
  obtain ⟨t, ht⟩ : ∃ t, membersText (ms.map fun x => (x.1, x.2.1)) = '"' :: t := by
    cases ms with
    | nil => exact absurd rfl hne
    | cons x ms => cases ms <;> exact ⟨_, rfl⟩
  have hscan := scanMembers_membersText hne h hm rest
  have hfields : (Dict.ofList (ms.map fun x => (x.1, x.2.2))).entries =
      ms.map fun x => (x.1, x.2.2) := by
    refine Dict.ofList_entries ?_
    rwa [List.map_map]
  have happ : objectText (ms.map fun x => (x.1, x.2.1)) ++ rest =
      '\x7b' :: '"' :: (t ++ '\x7d' :: rest) := by
    simp [objectText, ht]
  rw [ht, List.cons_append] at hscan
  have hskip : skipBlanks ('"' :: (t ++ '\x7d' :: rest)) = '"' :: (t ++ '\x7d' :: rest) := rfl
  rw [happ]
  conv_lhs => unfold scanOnce
  simp only [hskip]
  change (scanMembers m ('"' :: (t ++ '\x7d' :: rest))).bind _ = _
  rw [hscan]
  change some (Json.ofMembers _, rest) = _
  rw [Json.ofMembers, hfields]

theorem readsAs_object {n : ℕ} {ms : List ReadMember} (hne : ms ≠ []) (h : MembersRead n ms)
    (hkeys : (ms.map Prod.fst).Nodup) :
    ReadsAs (n + ms.length + 1) (objectText (ms.map fun x => (x.1, x.2.1)))
      (.obj (ms.map fun x => (x.1, x.2.2))) where
  starts := ⟨'\x7b', _, rfl, rfl⟩
  read := by
    intro m hm c rest _
    obtain ⟨m, rfl⟩ : ∃ k, m = k + 1 := ⟨m - 1, by omega⟩
    exact scanOnce_objectText hne h hkeys (by omega) (c :: rest)

/-- **The compact text is read back.** -/
theorem loads_objectText {n : ℕ} {ms : List ReadMember} (hne : ms ≠ []) (h : MembersRead n ms)
    (hkeys : (ms.map Prod.fst).Nodup)
    (hn : n + ms.length ≤ (objectText (ms.map fun x => (x.1, x.2.1))).length) :
    loads (objectText (ms.map fun x => (x.1, x.2.1))) = .ok (.obj (ms.map fun x => (x.1, x.2.2))) := by
  have hscan := scanOnce_objectText hne h hkeys hn []
  have hskip : skipBlanks (objectText (ms.map fun x => (x.1, x.2.1))) =
      objectText (ms.map fun x => (x.1, x.2.1)) := rfl
  rw [List.append_nil] at hscan
  unfold loads
  rw [hskip, hscan]
  rfl

end VirtualPhone
