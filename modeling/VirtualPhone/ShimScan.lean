import VirtualPhone.Json
import VirtualPhone.ShimJson

/-! # What the scanner of the shim makes of written JSON

`json_find_key`, `json_get_str` and `json_skip_object` walk over a text with the same rule for the end
of a string: a quote that does not follow a backslash.  A text without such a quote is `Unquoted`; the
escaped form of every string is one (`unquoted_jsonEscape`).  So a string that `json.dumps` wrote is
never ended too early, but when it ends in a backslash its own closing quote does not end it.

Where a text is walked over, each function goes on behind it as if it had begun there, with the last
character of the text before it. -/

namespace VirtualPhone

open Runtime

/-! ### Texts that do not end a string -/

/-- The last character of a text, or the one before the text when it is empty. -/
def lastOr (prev : Option Char) : Text → Option Char
  | [] => prev
  | c :: t => lastOr (some c) t

/-- No quote of the text ends a string, when `prev` stands before it. -/
def Unquoted : Option Char → Text → Prop
  | _, [] => True
  | prev, c :: t => ¬(c = '"' ∧ prev ≠ some '\\') ∧ Unquoted (some c) t

/-- A text with neither quotes nor backslashes. -/
def NoQuotes (t : Text) : Prop := ∀ c ∈ t, c ≠ '"' ∧ c ≠ '\\'

instance (t : Text) : Decidable (NoQuotes t) := List.decidableBAll _ t

theorem unquoted_append {prev : Option Char} {t u : Text} :
    Unquoted prev (t ++ u) ↔ Unquoted prev t ∧ Unquoted (lastOr prev t) u := by
  induction t generalizing prev with
  | nil => simp [Unquoted, lastOr]
  | cons c t ih =>
      simp only [List.cons_append, Unquoted, lastOr]
      rw [ih, and_assoc]

theorem NoQuotes.unquoted {t : Text} (h : NoQuotes t) (prev : Option Char) : Unquoted prev t := by
  induction t generalizing prev with
  | nil => trivial
  | cons c t ih =>
      obtain ⟨hc, ht⟩ := List.forall_mem_cons.mp h
      exact ⟨fun hquote => hc.1 hquote.1, ih ht (some c)⟩

/-- The last character of a text without backslashes is none. -/
theorem NoQuotes.lastOr_ne {t : Text} (h : NoQuotes t) {prev : Option Char} (hprev : prev ≠ some '\\') :
    lastOr prev t ≠ some '\\' := by
  induction t generalizing prev with
  | nil => exact hprev
  | cons c t ih =>
      obtain ⟨hc, ht⟩ := List.forall_mem_cons.mp h
      exact ih ht fun heq => hc.2 (Option.some.inj heq)

/-! ### Escaped strings -/

/-- The characters that `json.dumps` writes as they are. -/
def DumpsPlain (c : Char) : Prop := c ≠ '"' ∧ c ≠ '\\' ∧ 0x20 ≤ c.toNat ∧ c.toNat ≤ 0x7E

instance (c : Char) : Decidable (DumpsPlain c) := inferInstanceAs (Decidable (_ ∧ _))

theorem hex_noQuotes (b : Bytes) : NoQuotes (hex b) := by
  have hdigit : ∀ n < 16, hexDigit n ≠ '"' ∧ hexDigit n ≠ '\\' := by decide
  intro c hc
  obtain ⟨o, -, ho⟩ := List.mem_flatMap.mp hc
  have hlt := o.toNat_lt
  simp only [List.mem_cons, List.not_mem_nil, or_false] at ho
  rcases ho with rfl | rfl
  · exact hdigit _ (by omega)
  · exact hdigit _ (by omega)

theorem unicodeEscape_unquoted (n : ℕ) (prev : Option Char) : Unquoted prev (unicodeEscape n) := by
  change Unquoted prev ('\\' :: 'u' :: hex (beBytes n 2))
  exact ⟨by simp, by simp, (hex_noQuotes _).unquoted _⟩

theorem jsonEscapeChar_spec (c : Char) :
    (∀ prev, Unquoted prev (jsonEscapeChar c)) ∧
      (if DumpsPlain c then jsonEscapeChar c = [c] else 2 ≤ (jsonEscapeChar c).length) := by
  have hpair : ∀ a, (∀ prev, Unquoted prev ['\\', a]) ∧ 2 ≤ ['\\', a].length :=
    fun a => ⟨fun prev => ⟨by simp, by simp, trivial⟩, le_rfl⟩
  by_cases hplain : DumpsPlain c
  · obtain ⟨hq, hb, hlow, hhigh⟩ := hplain
    have hchar : jsonEscapeChar c = [c] := by
      unfold jsonEscapeChar
      rw [if_neg hq, if_neg hb, if_pos ⟨hlow, hhigh⟩]
    rw [hchar, if_pos ⟨hq, hb, hlow, hhigh⟩]
    exact ⟨fun prev => ⟨fun hquote => hq hquote.1, trivial⟩, rfl⟩
  · rw [if_neg hplain]
    unfold jsonEscapeChar
    have hite : ∀ {p : Prop} [Decidable p] {t u : Text},
        (∀ prev, Unquoted prev t) ∧ 2 ≤ t.length → (∀ prev, Unquoted prev u) ∧ 2 ≤ u.length →
        (∀ prev, Unquoted prev (if p then t else u)) ∧ 2 ≤ (if p then t else u).length := by
      intro p _ t u ht hu
      by_cases hp : p
      · rw [if_pos hp]
        exact ht
      · rw [if_neg hp]
        exact hu
    by_cases hq : c = '"'
    · rw [if_pos hq]
      exact hpair '"'
    by_cases hb : c = '\\'
    · rw [if_neg hq, if_pos hb]
      exact hpair '\\'
    rw [if_neg hq, if_neg hb, if_neg fun hrange => hplain ⟨hq, hb, hrange⟩]
    refine hite (hpair 'n') (hite (hpair 'r') (hite (hpair 't') (hite (hpair 'f') (hite (hpair 'b')
      (hite ⟨unicodeEscape_unquoted _, Nat.le_add_left 2 _⟩ ⟨fun prev => ?_, Nat.le_add_left 2 _⟩)))))
    exact unquoted_append.mpr ⟨unicodeEscape_unquoted _ _, unicodeEscape_unquoted _ _⟩

theorem unquoted_jsonEscape (s : Text) (prev : Option Char) : Unquoted prev (jsonEscape s) := by
  induction s generalizing prev with
  | nil => trivial
  | cons c s ih =>
      rw [jsonEscape, List.flatMap_cons, unquoted_append]
      exact ⟨(jsonEscapeChar_spec c).1 prev, ih _⟩

theorem jsonEscape_plain {s : Text} (h : ∀ c ∈ s, DumpsPlain c) : jsonEscape s = s := by
  induction s with
  | nil => rfl
  | cons c s ih =>
      obtain ⟨hc, hs⟩ := List.forall_mem_cons.mp h
      have hchar := (jsonEscapeChar_spec c).2
      rw [if_pos hc] at hchar
      rw [jsonEscape, List.flatMap_cons, hchar]
      exact congrArg (c :: ·) (ih hs)

/-- The escaped form of a string is longer than the string, unless nothing is escaped. -/
theorem jsonEscape_length (s : Text) :
    s.length ≤ (jsonEscape s).length ∧
      ((∀ c ∈ s, DumpsPlain c) ∨ s.length < (jsonEscape s).length) := by
  induction s with
  | nil => exact ⟨le_rfl, Or.inl fun c hc => absurd hc List.not_mem_nil⟩
  | cons c s ih =>
      have hchar := (jsonEscapeChar_spec c).2
      rw [jsonEscape, List.flatMap_cons, List.length_append, List.length_cons]
      change _ ≤ _ + (jsonEscape s).length ∧ (_ ∨ _ < _ + (jsonEscape s).length)
      split_ifs at hchar with hplain
      · rw [hchar, List.length_singleton]
        refine ⟨by omega, ih.2.imp (fun hs => List.forall_mem_cons.mpr ⟨hplain, hs⟩) (by omega)⟩
      · exact ⟨by omega, Or.inr (by omega)⟩

/-! ### Inside a string -/

theorem jsonUntilQuote_unquoted {prev : Char} {t : Text} (h : Unquoted (some prev) t) (rest : Text) :
    ∃ last, lastOr (some prev) t = some last ∧
      jsonUntilQuote prev (t ++ rest) = (jsonUntilQuote last rest).map (t ++ ·) := by
  induction t generalizing prev with
  | nil => exact ⟨prev, rfl, by simp⟩
  | cons c t ih =>
      obtain ⟨last, hlast, heq⟩ := ih h.2
      refine ⟨last, hlast, ?_⟩
      rw [List.cons_append, jsonUntilQuote, if_neg (by simpa using h.1), heq, Option.map_map]
      rfl

theorem jsonFindKeyFrom_inside {key : Text} {prev : Option Char} {t : Text} (h : Unquoted prev t)
    (depth : ℤ) (rest : Text) :
    jsonFindKeyFrom key prev depth true (t ++ rest) =
      jsonFindKeyFrom key (lastOr prev t) depth true rest := by
  induction t generalizing prev with
  | nil => rfl
  | cons c t ih =>
      rw [List.cons_append, jsonFindKeyFrom, if_neg h.1, if_pos rfl]
      exact ih h.2

theorem jsonSkipObjectFrom_inside {prev : Option Char} {t : Text} (h : Unquoted prev t) (depth : ℤ)
    (rest : Text) :
    jsonSkipObjectFrom prev depth true (t ++ rest) =
      (jsonSkipObjectFrom (lastOr prev t) depth true rest).map fun r => (t ++ r.1, r.2) := by
  induction t generalizing prev with
  | nil => simp [lastOr]
  | cons c t ih =>
      rw [List.cons_append, jsonSkipObjectFrom, if_neg h.1, if_pos rfl, ih h.2, Option.map_map]
      rfl

/-! ### Outside strings -/

/-- A text with neither quotes nor brackets. -/
def Neutral (t : Text) : Prop := ∀ c ∈ t, c ≠ '"' ∧ c ≠ '\x7b' ∧ c ≠ '\x7d' ∧ c ≠ '[' ∧ c ≠ ']'

instance (t : Text) : Decidable (Neutral t) := List.decidableBAll _ t

theorem jsonFindKeyFrom_neutral {key t : Text} (h : Neutral t) (prev : Option Char) (depth : ℤ)
    (rest : Text) :
    jsonFindKeyFrom key prev depth false (t ++ rest) =
      jsonFindKeyFrom key (lastOr prev t) depth false rest := by
  induction t generalizing prev with
  | nil => rfl
  | cons c t ih =>
      obtain ⟨⟨hq, ho, hc, hl, hr⟩, ht⟩ := List.forall_mem_cons.mp h
      rw [List.cons_append, jsonFindKeyFrom, if_neg (fun hquote => hq hquote.1), if_neg (by decide),
        if_neg (by simp [ho, hl]), if_neg (by simp [hc, hr])]
      exact ih ht (some c)

theorem jsonSkipObjectFrom_neutral {t : Text} (h : Neutral t) (prev : Option Char) (depth : ℤ)
    (rest : Text) :
    jsonSkipObjectFrom prev depth false (t ++ rest) =
      (jsonSkipObjectFrom (lastOr prev t) depth false rest).map fun r => (t ++ r.1, r.2) := by
  induction t generalizing prev with
  | nil => simp [lastOr]
  | cons c t ih =>
      obtain ⟨⟨hq, ho, hc, -, -⟩, ht⟩ := List.forall_mem_cons.mp h
      rw [List.cons_append, jsonSkipObjectFrom, if_neg (fun hquote => hq hquote.1), if_neg (by decide),
        if_neg ho, if_neg hc, ih ht (some c), Option.map_map]
      rfl

/-! ### Whole strings -/

/-- A quoted string. -/
def quoted (s : Text) : Text := '"' :: (s ++ ['"'])

theorem jsonUntilQuote_plain {s : Text} (h : NoQuotes s) (rest : Text) :
    jsonUntilQuote '"' (s ++ '"' :: rest) = some s := by
  obtain ⟨last, hlast, heq⟩ := jsonUntilQuote_unquoted (h.unquoted (some '"')) ('"' :: rest)
  have hne : last ≠ '\\' := fun hback => h.lastOr_ne (by decide) (hlast.trans (congrArg some hback))
  rw [heq, jsonUntilQuote, if_pos ⟨rfl, hne⟩]
  simp

theorem jsonSkipObjectFrom_quoted {s : Text} (h : NoQuotes s) {prev : Option Char}
    (hprev : prev ≠ some '\\') (depth : ℤ) (rest : Text) :
    jsonSkipObjectFrom prev depth false (quoted s ++ rest) =
      (jsonSkipObjectFrom (some '"') depth false rest).map fun r => (quoted s ++ r.1, r.2) := by
  have hlast : lastOr (some '"') s ≠ some '\\' := h.lastOr_ne (by decide)
  have happ : quoted s ++ rest = '"' :: (s ++ '"' :: rest) := by simp [quoted]
  rw [happ, jsonSkipObjectFrom, if_pos ⟨rfl, hprev⟩]
  change Option.map _ (jsonSkipObjectFrom (some '"') depth true (s ++ '"' :: rest)) = _
  rw [jsonSkipObjectFrom_inside (h.unquoted _), jsonSkipObjectFrom, if_pos ⟨rfl, hlast⟩]
  change Option.map _ (Option.map _ (Option.map _ (jsonSkipObjectFrom (some '"') depth false rest))) = _
  cases jsonSkipObjectFrom (some '"') depth false rest with
  | none => rfl
  | some r => simp [quoted]

/-- A string that is not a key at the outermost level, or not the one that is looked for, is walked
over. -/
theorem jsonFindKeyFrom_quoted {key s : Text} (h : NoQuotes s) {prev : Option Char}
    (hprev : prev ≠ some '\\') {depth : ℤ} {rest : Text}
    (hkey : depth = 1 → jsonKeyValue key (s ++ '"' :: rest) = none) :
    jsonFindKeyFrom key prev depth false (quoted s ++ rest) =
      jsonFindKeyFrom key (some '"') depth false rest := by
  have hlast : lastOr (some '"') s ≠ some '\\' := h.lastOr_ne (by decide)
  have happ : quoted s ++ rest = '"' :: (s ++ '"' :: rest) := by simp [quoted]
  have hnone : (if depth = 1 then jsonKeyValue key (s ++ '"' :: rest) else none) = none := by
    split
    · next hdepth => exact hkey hdepth
    · rfl
  rw [happ, jsonFindKeyFrom, if_pos ⟨rfl, hprev⟩, if_neg (by decide), hnone]
  change jsonFindKeyFrom key (some '"') depth true (s ++ '"' :: rest) = _
  rw [jsonFindKeyFrom_inside (h.unquoted _), jsonFindKeyFrom, if_pos ⟨rfl, hlast⟩, if_pos rfl]

theorem prefix_quote_iff {key s : Text} (hkey : '"' ∉ key) (hs : '"' ∉ s) (rest : Text) :
    key ++ ['"'] <+: s ++ '"' :: rest ↔ key = s := by
  induction key generalizing s with
  | nil =>
      cases s with
      | nil => simp
      | cons c s =>
          have hc : '"' ≠ c := fun heq => hs (heq ▸ List.mem_cons_self)
          simp [hc]
  | cons a key ih =>
      have ha : a ≠ '"' := fun heq => hkey (heq ▸ List.mem_cons_self)
      cases s with
      | nil => simp [ha]
      | cons c s =>
          rw [List.cons_append, List.cons_append, List.cons_prefix_cons, List.cons.injEq]
          exact and_congr_right fun _ => ih (fun hq => hkey (List.mem_cons_of_mem a hq))
            fun hq => hs (List.mem_cons_of_mem c hq)

theorem jsonKeyValue_other {key s : Text} (hkey : '"' ∉ key) (hs : '"' ∉ s) (hne : key ≠ s)
    (rest : Text) : jsonKeyValue key (s ++ '"' :: rest) = none :=
  if_neg fun hpre => hne ((prefix_quote_iff hkey hs rest).mp hpre)

/-- No colon follows the blanks. -/
def NoColon (rest : Text) : Prop := (rest.dropWhile isJsonSpace).head? ≠ some ':'

theorem dropWhile_spaces {t : Text} (ht : ∀ d ∈ t, isJsonSpace d = true) {c : Char}
    (hc : isJsonSpace c = false) (rest : Text) : (t ++ c :: rest).dropWhile isJsonSpace = c :: rest := by
  rw [List.dropWhile_append_of_pos ht, List.dropWhile_cons_of_neg (by rw [hc]; decide)]

theorem noColon_spaces {t : Text} (ht : ∀ d ∈ t, isJsonSpace d = true) {c : Char}
    (hc : isJsonSpace c = false ∧ c ≠ ':') (rest : Text) : NoColon (t ++ c :: rest) := by
  rw [NoColon, dropWhile_spaces ht hc.1]
  exact fun h => hc.2 (Option.some.inj h)

theorem jsonKeyValue_noColon {key s : Text} (hkey : '"' ∉ key) (hs : '"' ∉ s) {rest : Text}
    (hrest : NoColon rest) : jsonKeyValue key (s ++ '"' :: rest) = none := by
  unfold jsonKeyValue
  split_ifs with hpre
  · obtain rfl := (prefix_quote_iff hkey hs _).mp hpre
    have hdrop : (key ++ '"' :: rest).drop (key.length + 1) = rest := by
      rw [List.drop_append]
      simp
    rw [hdrop]
    split
    · next heq => exact absurd (congrArg List.head? heq) hrest
    · rfl
  · rfl

/-- A string with another thing than a colon behind it is no key. -/
theorem jsonKeyValue_value {key s : Text} (hkey : '"' ∉ key) (hs : '"' ∉ s) {c : Char}
    (hc : isJsonSpace c = false ∧ c ≠ ':') (rest : Text) :
    jsonKeyValue key (s ++ '"' :: c :: rest) = none :=
  jsonKeyValue_noColon hkey hs (noColon_spaces (List.forall_mem_nil _) hc rest)

/-- A key with a colon behind it leads to what follows the blanks. -/
theorem jsonKeyValue_gaps (key : Text) {gap colonGap : Text} (hgap : ∀ d ∈ gap, isJsonSpace d = true)
    (hcolonGap : ∀ d ∈ colonGap, isJsonSpace d = true) {c : Char} (hc : isJsonSpace c = false) (rest : Text) :
    jsonKeyValue key (key ++ '"' :: (gap ++ ':' :: (colonGap ++ c :: rest))) = some (c :: rest) := by
  have hpre : key ++ ['"'] <+: key ++ '"' :: (gap ++ ':' :: (colonGap ++ c :: rest)) :=
    ⟨gap ++ ':' :: (colonGap ++ c :: rest), by simp⟩
  have hdrop : (key ++ '"' :: (gap ++ ':' :: (colonGap ++ c :: rest))).drop (key.length + 1) =
      gap ++ ':' :: (colonGap ++ c :: rest) := by
    rw [List.drop_append]
    simp
  unfold jsonKeyValue
  rw [if_pos hpre, hdrop, dropWhile_spaces hgap (by decide)]
  exact congrArg some (dropWhile_spaces hcolonGap hc rest)

theorem jsonKeyValue_self (key : Text) {c : Char} (hc : isJsonSpace c = false) (rest : Text) :
    jsonKeyValue key (key ++ '"' :: ':' :: ' ' :: c :: rest) = some (c :: rest) :=
  @jsonKeyValue_gaps key [] [' '] (List.forall_mem_nil _) (List.forall_mem_singleton.mpr rfl) c hc rest

/-- The key that is looked for, at the outermost level of an object. -/
theorem jsonFindKeyFrom_found (key : Text) {prev : Option Char} (hprev : prev ≠ some '\\') {c : Char}
    (hc : isJsonSpace c = false) (rest : Text) :
    jsonFindKeyFrom key prev 1 false (quoted key ++ ':' :: ' ' :: c :: rest) = some (c :: rest) := by
  have happ : quoted key ++ ':' :: ' ' :: c :: rest =
      '"' :: (key ++ '"' :: ':' :: ' ' :: c :: rest) := by
    simp [quoted]
  rw [happ, jsonFindKeyFrom, if_pos ⟨rfl, hprev⟩, if_neg (by decide), if_pos rfl,
    jsonKeyValue_self key hc]

/-! ### Texts that are walked over -/

theorem jsonFindKeyFrom_prev {prev : Option Char} (h : prev ≠ some '\\') (key : Text) (depth : ℤ)
    (inString : Bool) (p : Text) :
    jsonFindKeyFrom key prev depth inString p = jsonFindKeyFrom key none depth inString p := by
  cases p with
  | nil => rfl
  | cons c p => simp only [jsonFindKeyFrom, ne_eq, h, not_false_eq_true, reduceCtorEq]

theorem jsonSkipObjectFrom_prev {prev : Option Char} (h : prev ≠ some '\\') (depth : ℤ) (inStr : Bool)
    (p : Text) : jsonSkipObjectFrom prev depth inStr p = jsonSkipObjectFrom none depth inStr p := by
  cases p with
  | nil => rfl
  | cons c p => simp only [jsonSkipObjectFrom, ne_eq, h, not_false_eq_true, reduceCtorEq]

/-- A text at the outermost level of an object that is walked over in search of the key. -/
structure Walks (key t : Text) : Prop where
  find : ∀ rest, jsonFindKeyFrom key none 1 false (t ++ rest) = jsonFindKeyFrom key none 1 false rest
  skip : ∀ rest, jsonSkipObjectFrom none 1 false (t ++ rest) =
    (jsonSkipObjectFrom none 1 false rest).map fun r => (t ++ r.1, r.2)

theorem Walks.nil (key : Text) : Walks key [] := ⟨fun rest => rfl, fun rest => by simp⟩

theorem Walks.append {key t u : Text} (ht : Walks key t) (hu : Walks key u) : Walks key (t ++ u) where
  find := fun rest => by rw [List.append_assoc, ht.find, hu.find]
  skip := fun rest => by
    rw [List.append_assoc, ht.skip, hu.skip, Option.map_map]
    simp [Function.comp_def]

theorem Walks.neutral {t : Text} (h : Neutral t) (hq : NoQuotes t) (key : Text) : Walks key t where
  find := fun rest => by
    rw [jsonFindKeyFrom_neutral h, jsonFindKeyFrom_prev (hq.lastOr_ne (by decide))]
  skip := fun rest => by
    rw [jsonSkipObjectFrom_neutral h, jsonSkipObjectFrom_prev (hq.lastOr_ne (by decide))]

theorem walks_quoted {key s u : Text} (h : NoQuotes s) (hu : Walks key u)
    (hkey : ∀ rest, jsonKeyValue key (s ++ '"' :: (u ++ rest)) = none) : Walks key (quoted s ++ u) where
  find := fun rest => by
    rw [List.append_assoc, jsonFindKeyFrom_quoted h (by decide) (fun _ => hkey rest),
      jsonFindKeyFrom_prev (by decide), hu.find]
  skip := fun rest => by
    rw [List.append_assoc, jsonSkipObjectFrom_quoted h (by decide), jsonSkipObjectFrom_prev (by decide),
      hu.skip, Option.map_map]
    simp [Function.comp_def]

/-! ### A string of an object -/

/-- The key of a member, with what follows it. -/
def keyed (key rest : Text) : Text := quoted key ++ ':' :: ' ' :: rest

theorem jsonGetStr_keyed {key t : Text} (h : Walks key t) (rest : Text) :
    jsonGetStr ('\x7b' :: (t ++ keyed key ('"' :: rest))) key = jsonUntilQuote '"' rest := by
  have hfind : jsonFindKey ('\x7b' :: (t ++ keyed key ('"' :: rest))) key = some ('"' :: rest) := by
    change jsonFindKeyFrom key (some '\x7b') 1 false (t ++ keyed key ('"' :: rest)) = _
    rw [jsonFindKeyFrom_prev (by decide), h.find]
    exact jsonFindKeyFrom_found key (by decide) (by decide) rest
  unfold jsonGetStr
  rw [hfind]
  rfl

theorem jsonGetStr_plain {key t s : Text} (h : Walks key t) (hs : NoQuotes s) (rest : Text) :
    jsonGetStr ('\x7b' :: (t ++ keyed key (quoted s ++ rest))) key = some s := by
  have happ : quoted s ++ rest = '"' :: (s ++ '"' :: rest) := by simp [quoted]
  rw [happ, jsonGetStr_keyed h, jsonUntilQuote_plain hs]

theorem jsonGetStr_escaped {key t s rest v : Text} (h : Walks key t)
    (hv : jsonGetStr ('\x7b' :: (t ++ keyed key ('"' :: (jsonEscape s ++ rest)))) key = some v) :
    (jsonEscape s).length ≤ v.length := by
  rw [jsonGetStr_keyed h] at hv
  obtain ⟨last, -, heq⟩ := jsonUntilQuote_unquoted (unquoted_jsonEscape s (some '"')) rest
  rw [heq] at hv
  obtain ⟨more, -, rfl⟩ := Option.map_eq_some_iff.mp hv
  exact (List.prefix_append _ more).length_le

/-- An object without brackets outside its strings is taken whole. -/
theorem jsonSkipObject_closed {key t : Text} (h : Walks key t) (rest : Text) :
    jsonSkipObject ('\x7b' :: (t ++ '\x7d' :: rest)) = some ('\x7b' :: (t ++ ['\x7d']), rest) := by
  change Option.map _ (jsonSkipObjectFrom (some '\x7b') 1 false (t ++ '\x7d' :: rest)) = _
  rw [jsonSkipObjectFrom_prev (by decide), h.skip]
  rfl

/-- An object contains the strings that were opened in it. -/
theorem jsonSkipObject_opened {key t s rest object behind : Text} (h : Walks key t)
    (hkey : NoQuotes key) (hskip : jsonSkipObject ('\x7b' :: (t ++ keyed key ('"' :: (jsonEscape s ++ rest)))) =
      some (object, behind)) :
    ∃ more, object = '\x7b' :: (t ++ keyed key ('"' :: (jsonEscape s ++ more))) := by
  have hcolon : Neutral [':', ' '] := by decide
  have hstep : jsonSkipObject ('\x7b' :: (t ++ keyed key ('"' :: (jsonEscape s ++ rest)))) =
      (jsonSkipObjectFrom none 1 false (t ++ (quoted key ++ ([':', ' '] ++
        ('"' :: (jsonEscape s ++ rest)))))).map fun r => ('\x7b' :: r.1, r.2) := by
    change Option.map _ (jsonSkipObjectFrom (some '\x7b') 1 false _) = _
    rw [jsonSkipObjectFrom_prev (by decide)]
    rfl
  have hopen : ∀ u, jsonSkipObjectFrom (lastOr (some '"') [':', ' ']) 1 false ('"' :: u) =
      (jsonSkipObjectFrom (some '"') 1 true u).map fun r => ('"' :: r.1, r.2) := fun u => rfl
  rw [hstep, h.skip, jsonSkipObjectFrom_quoted hkey (by decide), jsonSkipObjectFrom_neutral hcolon,
    hopen, jsonSkipObjectFrom_inside (unquoted_jsonEscape s _)] at hskip
  simp only [Option.map_map, Option.map_eq_some_iff, Function.comp_apply] at hskip
  obtain ⟨r, -, heq⟩ := hskip
  refine ⟨r.1, ?_⟩
  rw [← (Prod.mk.inj heq).1]
  rfl

end VirtualPhone
