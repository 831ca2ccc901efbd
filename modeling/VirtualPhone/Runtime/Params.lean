import VirtualPhone.Runtime.Text
import VirtualPhone.Runtime.Dict
import Mathlib.Data.List.Chain

/-! # Parameter lists

Header values such as `name="value", other=value`: `renderParams` writes the list and `readParams`
is the usual hand-written reader, which cuts at every comma, cuts each part at its first `=` and
strips blanks and quotes.  `readParams_renderParams` says when the reader gives back what was
written: names and values without commas and quotes, unquoted values without surrounding blanks.
`removeAll_of_isChain` says when deleting a literal changes nothing. -/

namespace Runtime

/-! ### Pieces of texts -/

/-- `s.split(c)`. -/
def splitOn (c : Char) : Text → List Text
  | [] => [[]]
  | x :: r => if x = c then [] :: splitOn c r else consLine x (splitOn c r)

/-- `s.strip(c)` for one character. -/
def stripChar (c : Char) (s : Text) : Text :=
  ((s.dropWhile (· = c)).reverse.dropWhile (· = c)).reverse

/-- `s.replace(lit, "")`; `skip` characters of an occurrence are left. -/
def removeFrom (lit : Text) : ℕ → Text → Text
  | _, [] => []
  | skip + 1, _ :: r => removeFrom lit skip r
  | 0, c :: r =>
      if lit <+: c :: r then removeFrom lit (lit.length - 1) r else c :: removeFrom lit 0 r

/-- `s.replace(lit, "")` for a literal that is not empty. -/
def removeAll (lit s : Text) : Text := removeFrom lit 0 s

/-- `s.zfill(width)`: the zeros go behind a sign. -/
def zfill (s : Text) (width : ℕ) : Text :=
  let zeros := List.replicate (width - s.length) '0'
  match s with
  | '+' :: r => '+' :: zeros ++ r
  | '-' :: r => '-' :: zeros ++ r
  | _ => zeros ++ s

theorem splitOn_append {c : Char} {p : Text} (h : c ∉ p) (q : Text) :
    splitOn c (p ++ c :: q) = p :: splitOn c q := by
  induction p with
  | nil => exact if_pos rfl
  | cons x p ih =>
      obtain ⟨hx, hp⟩ := List.ne_and_not_mem_of_not_mem_cons h
      rw [List.cons_append, splitOn, if_neg (Ne.symm hx), ih hp]
      rfl

theorem splitOn_of_not_mem {c : Char} {p : Text} (h : c ∉ p) : splitOn c p = [p] := by
  induction p with
  | nil => rfl
  | cons x p ih =>
      obtain ⟨hx, hp⟩ := List.ne_and_not_mem_of_not_mem_cons h
      rw [splitOn, if_neg (Ne.symm hx), ih hp]
      rfl

theorem dropWhile_of_head {p : Char → Bool} {s : Text} (h : ∀ c, s.head? = some c → p c = false) :
    s.dropWhile p = s := by
  cases s with
  | nil => rfl
  | cons c s => exact List.dropWhile_cons_of_neg (by rw [h c rfl]; decide)

/-- No blank at either end. -/
def Trimmed (s : Text) : Prop :=
  (∀ c, s.head? = some c → isSpace c = false) ∧ ∀ c, s.getLast? = some c → isSpace c = false

instance (s : Text) : Decidable (Trimmed s) :=
  decidable_of_iff (((s.head?.all fun c => !isSpace c) && s.getLast?.all fun c => !isSpace c) = true) (by
    rw [Bool.and_eq_true]
    unfold Trimmed
    cases s.head? <;> cases s.getLast? <;> simp)

theorem strip_of_trimmed {s : Text} (h : Trimmed s) : strip s = s := by
  unfold strip lstrip
  rw [dropWhile_of_head h.1, dropWhile_of_head, List.reverse_reverse]
  intro c hc
  exact h.2 c (by rwa [List.head?_reverse] at hc)

theorem trimmed_strip (s : Text) : Trimmed (strip s) := by
  have hhead : ∀ (l : Text) (c : Char), (l.dropWhile isSpace).head? = some c → isSpace c = false := by
    intro l c hc
    have hnot := List.head?_dropWhile_not isSpace l
    rw [hc] at hnot
    simpa using hnot
  refine ⟨fun c hc => ?_, fun c hc => ?_⟩
  · -- what is left begins like the text without its leading blanks
    have hprefix : strip s <+: lstrip s := by
      have hback := List.reverse_prefix.mpr (List.dropWhile_suffix (l := (lstrip s).reverse) isSpace)
      rw [List.reverse_reverse] at hback
      exact hback
    obtain ⟨rest, hrest⟩ := hprefix
    refine hhead s c ?_
    change (lstrip s).head? = some c
    rw [← hrest, List.head?_append, hc]
    rfl
  · refine hhead (lstrip s).reverse c ?_
    rw [← hc]
    unfold strip
    rw [List.getLast?_reverse]

theorem strip_cons_space (s : Text) : strip (' ' :: s) = strip s := rfl

theorem stripChar_of_not_mem {c : Char} {s : Text} (h : c ∉ s) : stripChar c s = s := by
  have hne : ∀ t : Text, c ∉ t → t.dropWhile (· = c) = t := by
    intro t ht
    apply dropWhile_of_head
    intro x hx
    rw [decide_eq_false_iff_not]
    rintro rfl
    exact ht (List.mem_of_mem_head? hx)
  unfold stripChar
  rw [hne s h, hne _ (by rwa [List.mem_reverse]), List.reverse_reverse]

theorem stripChar_enclosed {c : Char} {s : Text} (h : c ∉ s) : stripChar c (c :: s ++ [c]) = s := by
  have hfront : (c :: s ++ [c]).dropWhile (· = c) = (s ++ [c]).dropWhile (· = c) := by
    rw [List.cons_append, List.dropWhile_cons_of_pos (by simp)]
  unfold stripChar
  rw [hfront]
  cases s with
  | nil => simp
  | cons x s =>
      obtain ⟨hx, hs⟩ := List.ne_and_not_mem_of_not_mem_cons h
      rw [List.cons_append, List.dropWhile_cons_of_neg (by simpa using Ne.symm hx),
        ← List.cons_append, List.reverse_append, List.reverse_singleton, List.singleton_append,
        List.dropWhile_cons_of_pos (by simp), dropWhile_of_head, List.reverse_reverse]
      intro y hy
      rw [decide_eq_false_iff_not]
      rintro rfl
      have := List.mem_of_mem_head? hy
      rw [List.mem_reverse] at this
      exact h this

/-! ### Deleting a literal -/

theorem removeFrom_occurrence (lit s : Text) (k : ℕ) :
    removeFrom lit k s = removeFrom lit 0 (s.drop k) := by
  induction k generalizing s with
  | zero => rfl
  | succ k ih =>
      cases s with
      | nil => rfl
      | cons c s => exact ih s

/-- An occurrence at the front is deleted. -/
theorem removeAll_append {lit : Text} (h : lit ≠ []) (s : Text) :
    removeAll lit (lit ++ s) = removeAll lit s := by
  cases lit with
  | nil => exact absurd rfl h
  | cons c lit =>
      show removeFrom (c :: lit) 0 (c :: (lit ++ s)) = _
      have hfront : c :: lit <+: c :: (lit ++ s) := List.prefix_append (c :: lit) s
      rw [removeFrom, if_pos hfront, removeFrom_occurrence]
      simp [removeAll]

/-- A literal that breaks a rule about neighbours does not occur in a text that keeps it. -/
theorem removeAll_of_isChain {R : Char → Char → Prop} {lit s : Text} (hs : s.IsChain R)
    (hlit : ¬ lit.IsChain R) : removeAll lit s = s := by
  unfold removeAll
  induction s with
  | nil => rfl
  | cons c s ih =>
      have hno : ¬ lit <+: c :: s := by
        rintro ⟨rest, hrest⟩
        rw [← hrest] at hs
        exact hlit hs.left_of_append
      rw [removeFrom, if_neg hno, ih hs.tail]

/-! ### Writing and reading parameters -/

/-- A parameter: its value stands between quotes or bare. -/
structure Param where
  key : Text
  value : Text
  quoted : Bool

namespace Param

/-- `key="value"` or `key=value`. -/
def render (p : Param) : Text :=
  p.key ++ '=' :: if p.quoted then '"' :: p.value ++ ['"'] else p.value

/-- Nothing in the name or the value that the reader takes for its own. -/
structure Clean (p : Param) : Prop where
  key_comma : ',' ∉ p.key
  key_equals : '=' ∉ p.key
  key_trimmed : Trimmed p.key
  value_comma : ',' ∉ p.value
  value_quote : '"' ∉ p.value
  value_trimmed : p.quoted = false → Trimmed p.value

end Param

/-- The parameters of a header value, separated by a comma and a blank. -/
def renderParams : List Param → Text
  | [] => []
  | [p] => p.render
  | p :: ps => p.render ++ ',' :: ' ' :: renderParams ps

/-- One part of a header value; a part without `=` is skipped. -/
def readParam (part : Text) : Option (Text × Text) :=
  let part := strip part
  if '=' ∈ part then
    match splitChar '=' 1 part with
    | [key, val] => some (strip key, stripChar '"' (strip val))
    | _ => none
  else none

/-- The parameters of a header value; the last of a repeated name counts. -/
def readParams (s : Text) : Dict Text Text :=
  (splitOn ',' s).foldl (fun params part =>
    match readParam part with
    | some (key, val) => params.set key val
    | none => params) Dict.empty

namespace Param

variable {p : Param}

theorem Clean.comma_not_mem (h : p.Clean) : ',' ∉ p.render := by
  have := h.key_comma
  have := h.value_comma
  unfold render
  cases p.quoted <;> simp_all

/-- No blank surrounds a written parameter. -/
theorem Clean.trimmed (h : p.Clean) : Trimmed p.render := by
  unfold render
  constructor
  · intro c hc
    cases hk : p.key with
    | nil =>
        rw [hk] at hc
        obtain rfl : '=' = c := by simpa using hc
        rfl
    | cons x k =>
        rw [hk] at hc
        obtain rfl : x = c := by simpa using hc
        exact h.key_trimmed.1 x (by rw [hk]; rfl)
  · intro c hc
    rw [List.getLast?_append_of_ne_nil _ (by simp)] at hc
    cases hq : p.quoted with
    | true =>
        have hlast : ('=' :: ('"' :: p.value ++ ['"'])).getLast? = some '"' := by
          rw [← List.cons_append, List.getLast?_concat]
        rw [hq, if_pos rfl, hlast] at hc
        obtain rfl := Option.some.inj hc
        rfl
    | false =>
        rw [hq] at hc
        cases hv : p.value with
        | nil =>
            rw [hv] at hc
            obtain rfl : '=' = c := by simpa using hc
            rfl
        | cons x v =>
            apply (h.value_trimmed hq).2
            rw [hv] at hc ⊢
            simpa using hc

/-- The reader on one written parameter. -/
theorem Clean.read (h : p.Clean) : readParam p.render = some (p.key, p.value) := by
  have hcut : splitChar '=' 1 p.render =
      [p.key, if p.quoted then '"' :: p.value ++ ['"'] else p.value] := by
    have hkey : ∀ x ∈ p.key, decide (x ≠ '=') = true := by
      intro x hx
      rw [decide_eq_true_eq]
      rintro rfl
      exact h.key_equals hx
    unfold splitChar render
    rw [List.dropWhile_append_of_pos hkey, List.takeWhile_append_of_pos hkey]
    simp [splitChar]
  have hmem : '=' ∈ p.render := by simp [render]
  unfold readParam
  simp only [strip_of_trimmed h.trimmed, if_pos hmem, hcut, strip_of_trimmed h.key_trimmed,
    Option.some.injEq, Prod.mk.injEq, true_and]
  cases hq : p.quoted with
  | true =>
      have htrim : Trimmed ('"' :: p.value ++ ['"']) := by
        constructor
        · intro c hc
          obtain rfl : '"' = c := by simpa using hc
          rfl
        · intro c hc
          rw [List.getLast?_concat] at hc
          obtain rfl := Option.some.inj hc
          rfl
      rw [if_pos rfl, strip_of_trimmed htrim, stripChar_enclosed h.value_quote]
  | false =>
      rw [if_neg (by simp), strip_of_trimmed (h.value_trimmed hq),
        stripChar_of_not_mem h.value_quote]

end Param

/-! ### Plain characters -/

/-- Neither a blank nor a comma nor a quote. -/
def IsPlain (c : Char) : Prop := isSpace c = false ∧ c ≠ ',' ∧ c ≠ '"'

instance (c : Char) : Decidable (IsPlain c) := inferInstanceAs (Decidable (_ ∧ _))

theorem IsPlain.of_isDigit {c : Char} (h : IsDigit c) : IsPlain c := by
  have hrange := h.toNat
  refine ⟨?_, ?_, ?_⟩
  · simp only [isSpace, Bool.or_eq_false_iff, Bool.and_eq_false_iff, decide_eq_false_iff_not,
      beq_eq_false_iff_ne]
    omega
  · rintro rfl
    exact absurd hrange (by decide)
  · rintro rfl
    exact absurd hrange (by decide)

section Plain

variable {s : Text} (h : ∀ c ∈ s, IsPlain c)

include h

theorem trimmed_of_plain : Trimmed s :=
  ⟨fun c hc => (h c (List.mem_of_mem_head? hc)).1, fun c hc => (h c (List.mem_of_getLast? hc)).1⟩

theorem comma_not_mem_of_plain : ',' ∉ s := fun hc => (h _ hc).2.1 rfl

theorem quote_not_mem_of_plain : '"' ∉ s := fun hc => (h _ hc).2.2 rfl

theorem blank_not_mem_of_plain : ' ' ∉ s := fun hc => absurd (h _ hc).1 (by decide)

end Plain

/-- A hexadecimal text is plain. -/
theorem isPlain_of_mem_hex {d : Bytes} : ∀ c ∈ hex d, IsPlain c := by
  have hdigit : ∀ n < 16, IsPlain (hexDigit n) := by decide
  intro c hc
  obtain ⟨b, -, hb⟩ := List.mem_flatMap.mp hc
  have hlt := b.toNat_lt
  rcases List.mem_cons.mp hb with rfl | hb
  · exact hdigit _ (by omega)
  · obtain rfl := List.mem_singleton.mp hb
    exact hdigit _ (by omega)

namespace Param

/-- A quoted value is clean without commas and quotes. -/
theorem clean_quoted {key value : Text} (hkey : ∀ c ∈ key, IsPlain c ∧ c ≠ '=')
    (hcomma : ',' ∉ value) (hquote : '"' ∉ value) : Clean ⟨key, value, true⟩ where
  key_comma := comma_not_mem_of_plain fun c hc => (hkey c hc).1
  key_equals := fun hc => (hkey _ hc).2 rfl
  key_trimmed := trimmed_of_plain fun c hc => (hkey c hc).1
  value_comma := hcomma
  value_quote := hquote
  value_trimmed := by
    intro hq
    cases hq

/-- A plain value is clean, between quotes or bare. -/
theorem clean_plain {key value : Text} (quoted : Bool) (hkey : ∀ c ∈ key, IsPlain c ∧ c ≠ '=')
    (hvalue : ∀ c ∈ value, IsPlain c) : Clean ⟨key, value, quoted⟩ where
  key_comma := comma_not_mem_of_plain fun c hc => (hkey c hc).1
  key_equals := fun hc => (hkey _ hc).2 rfl
  key_trimmed := trimmed_of_plain fun c hc => (hkey c hc).1
  value_comma := comma_not_mem_of_plain hvalue
  value_quote := quote_not_mem_of_plain hvalue
  value_trimmed := fun _ => trimmed_of_plain hvalue

end Param

/-! ### The round trip -/

theorem readParam_cons_space (s : Text) : readParam (' ' :: s) = readParam s := rfl

/-- The parts of a written list, each but the first with a blank in front. -/
theorem splitOn_renderParams {p : Param} {ps : List Param} (h : ∀ q ∈ p :: ps, q.Clean) :
    splitOn ',' (renderParams (p :: ps)) = p.render :: ps.map fun q => ' ' :: q.render := by
  induction ps generalizing p with
  | nil => exact splitOn_of_not_mem (h p (List.mem_singleton.mpr rfl)).comma_not_mem
  | cons q ps ih =>
      have hp := (h p (List.mem_cons_self ..)).comma_not_mem
      have hrest := ih (p := q) fun r hr => h r (List.mem_cons_of_mem _ hr)
      have hspace : splitOn ',' (' ' :: renderParams (q :: ps)) =
          consLine ' ' (splitOn ',' (renderParams (q :: ps))) := rfl
      rw [renderParams, splitOn_append hp, hspace, hrest]
      rfl
      simp

/-- **Round trip.**  The reader gives back the names and values of a written list. -/
theorem readParams_renderParams {ps : List Param} (h : ∀ p ∈ ps, p.Clean) :
    readParams (renderParams ps) = Dict.ofList (ps.map fun p => (p.key, p.value)) := by
  have hfold : ∀ (qs : List Param) (d : Dict Text Text), (∀ q ∈ qs, q.Clean) →
      (qs.map fun q => ' ' :: q.render).foldl (fun params part =>
        match readParam part with
        | some (key, val) => params.set key val
        | none => params) d = (qs.map fun q => (q.key, q.value)).foldl (fun d e => d.set e.1 e.2) d := by
    intro qs
    induction qs with
    | nil => exact fun _ _ => rfl
    | cons q qs ih =>
        intro d hq
        rw [List.map_cons, List.foldl_cons, readParam_cons_space, (hq q (List.mem_cons_self ..)).read]
        exact ih _ fun r hr => hq r (List.mem_cons_of_mem _ hr)
  cases ps with
  | nil => rfl
  | cons p ps =>
      unfold readParams
      rw [splitOn_renderParams h, List.foldl_cons, (h p (List.mem_cons_self ..)).read]
      exact hfold ps _ fun q hq => h q (List.mem_cons_of_mem _ hq)

/-- The value of a written parameter, when no name is written twice. -/
theorem readParams_get {ps : List Param} (h : ∀ p ∈ ps, p.Clean) (hkeys : (ps.map Param.key).Nodup)
    {key value : Text} {quoted : Bool} (hp : ⟨key, value, quoted⟩ ∈ ps) :
    (readParams (renderParams ps)).get? key = some value := by
  have hnodup : ((ps.map fun p => (p.key, p.value)).map Prod.fst).Nodup := by
    rw [List.map_map]
    exact hkeys
  rw [readParams_renderParams h, Dict.get?_ofList hnodup]
  exact List.mem_map.mpr ⟨_, hp, rfl⟩

/-! ### Blanks of a written list -/

/-- A blank stands behind a comma only. -/
def BlankAfterComma (a b : Char) : Prop := b = ' ' → a = ','

instance (a b : Char) : Decidable (BlankAfterComma a b) := inferInstanceAs (Decidable (_ → _))

theorem isChain_of_no_blank {s : Text} (h : ' ' ∉ s) : s.IsChain BlankAfterComma := by
  induction s with
  | nil => exact .nil
  | cons a s ih =>
      obtain ⟨-, hs⟩ := List.ne_and_not_mem_of_not_mem_cons h
      cases s with
      | nil => exact .singleton a
      | cons b s =>
          refine .cons_cons ?_ (ih hs)
          rintro rfl
          exact absurd (List.mem_cons_self ..) hs

/-- Without blanks in names and values, the written list has blanks behind its commas only. -/
theorem isChain_renderParams {ps : List Param} (h : ∀ p ∈ ps, ' ' ∉ p.key ∧ ' ' ∉ p.value) :
    (renderParams ps).IsChain BlankAfterComma := by
  have hone : ∀ p ∈ ps, ' ' ∉ p.render := by
    intro p hp
    obtain ⟨hk, hv⟩ := h p hp
    unfold Param.render
    cases p.quoted <;> simp_all
  fun_induction renderParams ps with
  | case1 => exact .nil
  | case2 p => exact isChain_of_no_blank (hone p (List.mem_singleton.mpr rfl))
  | case3 p ps hne ih =>
      have hrest := ih (fun q hq => h q (List.mem_cons_of_mem _ hq))
        fun q hq => hone q (List.mem_cons_of_mem _ hq)
      have hp := hone p (List.mem_cons_self ..)
      refine List.isChain_append.mpr ⟨isChain_of_no_blank hp, ?_, ?_⟩
      · refine .cons_cons (fun _ => rfl) ?_
        rw [List.isChain_cons]
        refine ⟨?_, hrest⟩
        intro c hc hblank
        subst hblank
        cases ps with
        | nil => cases hc
        | cons q ps =>
            have hq := hone q (List.mem_cons_of_mem _ (List.mem_cons_self ..))
            refine absurd ?_ hq
            have hr : ∃ r, renderParams (q :: ps) = q.render ++ r := by
              cases ps with
              | nil => exact ⟨[], (List.append_nil _).symm⟩
              | cons q' ps => exact ⟨_, rfl⟩
            obtain ⟨r, hr⟩ := hr
            rw [hr] at hc
            cases hqr : q.render with
            | nil => simp [Param.render] at hqr
            | cons x t =>
                rw [hqr] at hc
                obtain rfl : x = ' ' := by simpa using hc
                exact List.mem_cons_self ..
      · intro a ha b hb hblank
        obtain rfl : ',' = b := by simpa using hb
        cases hblank

end Runtime
