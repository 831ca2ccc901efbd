import VirtualPhone.RadioHal
import VirtualPhone.ShimReplies

/-! # The list of calls in a Parcel (`response_current_calls`)

The shim goes over the array of calls twice: it counts the objects and writes how many there are, and
then takes them out one after the other.  Both passes see the same objects (`currentCallsPasses_eq`).

What `json.dumps` makes of the calls becomes one record for each of them, in their order
(`currentCallsPasses_dumpsCalls`).  The numbers of a record are 32 bits long, so it has those of the call
exactly when they fit. -/

namespace VirtualPhone

open Runtime

/-! ### The two passes -/

/-- The first pass: the objects at the start of the array are counted. -/
def countCalls : ℕ → Text → ℕ
  | 0, _ => 0
  | fuel + 1, scan =>
      match scan.dropWhile isArraySpace with
      | '\x7b' :: p =>
          match jsonSkipObject ('\x7b' :: p) with
          | some (_, scan) => countCalls fuel scan + 1
          | none => 0
      | _ => 0

/-- The second pass: `numCalls` objects are taken out, the first of them with number `i`. -/
def writeCalls : ℕ → ℕ → Text → List ParcelItem
  | 0, _, _ => []
  | numCalls + 1, i, scan =>
      match scan.dropWhile isArraySpace with
      | '\x7b' :: p =>
          match jsonSkipObject ('\x7b' :: p) with
          | some (callJson, scan) => callItems callJson i ++ writeCalls numCalls (i + 1) scan
          | none => []
      | _ => []

/-- `response_current_calls(resp, data)`, pass by pass. -/
def currentCallsPasses (data : Text) : List ParcelItem :=
  match strstr data ['['] with
  | none => [.i32 0]
  | some array =>
      let numCalls := countCalls array.length (array.drop 1)
      .i32 numCalls :: if numCalls = 0 then [] else writeCalls numCalls 0 (array.drop 1)

theorem jsonSkipObject_of_ne_brace {p : Text} (h : ∀ q, p ≠ '\x7b' :: q) : jsonSkipObject p = none := by
  unfold jsonSkipObject
  split
  · next q => exact absurd rfl (h q)
  · rfl

theorem countCalls_eq (fuel : ℕ) (scan : Text) : countCalls fuel scan = (jsonObjectsFrom fuel scan).length := by
  induction fuel generalizing scan with
  | zero => rfl
  | succ fuel ih =>
      rw [countCalls, jsonObjectsFrom]
      split
      · next p heq =>
          rw [heq]
          cases jsonSkipObject ('\x7b' :: p) with
          | none => rfl
          | some r => exact congrArg (· + 1) (ih r.2)
      · next hne =>
          rw [jsonSkipObject_of_ne_brace hne]
          rfl

theorem writeCalls_eq (fuel i : ℕ) (scan : Text) :
    writeCalls (jsonObjectsFrom fuel scan).length i scan =
      ((jsonObjectsFrom fuel scan).zipIdx i).flatMap fun call => callItems call.1 call.2 := by
  induction fuel generalizing i scan with
  | zero => rfl
  | succ fuel ih =>
      rw [jsonObjectsFrom]
      cases hskip : jsonSkipObject (scan.dropWhile isArraySpace) with
      | none => rfl
      | some r =>
          obtain ⟨object, rest⟩ := r
          dsimp only
          rw [List.length_cons, List.zipIdx_cons, List.flatMap_cons, ← ih, writeCalls]
          split
          · next p heq =>
              rw [heq] at hskip
              rw [hskip]
          · next hne =>
              rw [jsonSkipObject_of_ne_brace hne] at hskip
              cases hskip

/-- **The passes see the same objects**: as many records are written as were announced. -/
theorem currentCallsPasses_eq (data : Text) : currentCallsPasses data = responseCurrentCalls data := by
  unfold currentCallsPasses responseCurrentCalls jsonObjects
  cases strstr data ['['] with
  | none => rfl
  | some array =>
      dsimp only
      rw [countCalls_eq]
      split
      · next hzero =>
          rw [List.length_eq_zero_iff.mp hzero]
          rfl
      · rw [writeCalls_eq]

/-! ### The values of a call -/

theorem atoiDigits_append {s : Text} (h : ∀ c ∈ s, IsDigit c) {rest : Text}
    (hrest : ∀ c ∈ rest.head?, ¬IsDigit c) (acc : ℕ) :
    atoiDigits acc (s ++ rest) = Nat.ofDigitChars 10 s acc := by
  induction s generalizing acc with
  | nil =>
      cases rest with
      | nil => rfl
      | cons c rest => exact if_neg (hrest c rfl)
  | cons c s ih =>
      rw [List.cons_append, atoiDigits, if_pos (h c List.mem_cons_self),
        ih (fun d hd => h d (List.mem_cons_of_mem c hd)), Nat.ofDigitChars_cons]
      rfl

theorem atoi_digits {c : Char} (hc : IsDigit c) (s : Text) :
    atoi (c :: s) = asInt (atoiDigits 0 (c :: s)) := by
  have hc' := hc.toNat
  have hblank : isCSpace c = false := by
    have hne : c ≠ ' ' := by
      rintro rfl
      exact absurd hc (by decide)
    simp only [isCSpace, hne, decide_false, Bool.false_or, Bool.and_eq_false_iff, decide_eq_false_iff_not]
    omega
  rw [atoi, List.dropWhile_cons_of_neg (by rw [hblank]; decide)]
  split
  · next heq =>
      rw [(List.cons.inj heq).1] at hc
      exact absurd hc (by decide)
  · next heq =>
      rw [(List.cons.inj heq).1] at hc
      exact absurd hc (by decide)
  · rfl

theorem atoi_intText (i : ℤ) {rest : Text} (hrest : ∀ c ∈ rest.head?, ¬IsDigit c) :
    atoi (intText i ++ rest) = asInt i := by
  have hvalue : ∀ n, atoiDigits 0 (natText n ++ rest) = n := fun n => by
    rw [atoiDigits_append (fun c hc => isDigit_of_mem_natText hc) hrest]
    exact Nat.ofDigitChars_ten_toDigits
  cases i with
  | ofNat n =>
      obtain ⟨c, s, hs⟩ := List.exists_cons_of_ne_nil (Nat.toDigits_ne_nil (b := 10) (n := n))
      rw [← natText] at hs
      have hc : IsDigit c := isDigit_of_mem_natText (hs ▸ List.mem_cons_self)
      have happ : natText n ++ rest = c :: (s ++ rest) := by rw [hs, List.cons_append]
      rw [intText, happ, atoi_digits hc, ← happ, hvalue]
      rfl
  | negSucc n =>
      have hneg : atoi ('-' :: (natText (n + 1) ++ rest)) =
          asInt (-(atoiDigits 0 (natText (n + 1) ++ rest) : ℤ)) := by
        rw [atoi, List.dropWhile_cons_of_neg (by decide)]
        rfl
      rw [intText, List.cons_append, hneg, hvalue, Int.negSucc_eq]
      rfl

theorem not_isDigit_head {d : Char} (hd : ¬IsDigit d) (more : Text) : ∀ x ∈ (d :: more).head?, ¬IsDigit x := by
  rintro x hx
  obtain rfl := Option.some.inj hx
  exact hd

theorem jsonFindKey_keyed {key t : Text} (h : Walks key t) {c : Char} (hc : isJsonSpace c = false)
    (rest : Text) : jsonFindKey ('\x7b' :: (t ++ keyed key (c :: rest))) key = some (c :: rest) := by
  change jsonFindKeyFrom key (some '\x7b') 1 false (t ++ keyed key (c :: rest)) = _
  rw [jsonFindKeyFrom_prev (by decide), h.find]
  exact jsonFindKeyFrom_found key (by decide) hc rest

theorem jsonGetInt_keyed {key t : Text} (h : Walks key t) (i : ℤ) {rest : Text}
    (hrest : ∀ c ∈ rest.head?, ¬IsDigit c) (default : ℤ) :
    jsonGetInt ('\x7b' :: (t ++ keyed key (intText i ++ rest))) key default = asInt i := by
  obtain ⟨c, s, hs⟩ : ∃ c s, intText i = c :: s := by
    cases i with
    | ofNat n => exact List.exists_cons_of_ne_nil Nat.toDigits_ne_nil
    | negSucc n => exact ⟨_, _, rfl⟩
  have hc : isJsonSpace c = false := by
    have hblank : ∀ d, isJsonSpace d = true → ¬(d = '-' ∨ IsDigit d) := by
      intro d hd
      simp only [isJsonSpace, Bool.or_eq_true, decide_eq_true_eq] at hd
      rcases hd with ((rfl | rfl) | rfl) | rfl <;> decide
    by_contra hspace
    exact hblank c (by simpa using hspace) (intText_noQuote i c (hs ▸ List.mem_cons_self))
  have hfind := jsonFindKey_keyed h hc (s ++ rest)
  have happ : intText i ++ rest = c :: (s ++ rest) := by rw [hs, List.cons_append]
  rw [← happ] at hfind
  rw [jsonGetInt, hfind]
  exact atoi_intText i hrest

theorem jsonGetBool_keyed {key t : Text} (h : Walks key t) (b : Bool) (rest : Text) (default : ℤ) :
    jsonGetBool ('\x7b' :: (t ++ keyed key (dumpsBool b ++ rest))) key default = if b then 1 else 0 := by
  cases b with
  | true =>
      have hfind := jsonFindKey_keyed h (c := 't') (by decide) ("rue".toList ++ rest)
      have happ : dumpsBool true ++ rest = 't' :: ("rue".toList ++ rest) := rfl
      rw [happ, jsonGetBool, hfind]
      exact if_pos ⟨rest, rfl⟩
  | false =>
      have hfind := jsonFindKey_keyed h (c := 'f') (by decide) ("alse".toList ++ rest)
      have happ : dumpsBool false ++ rest = 'f' :: ("alse".toList ++ rest) := rfl
      rw [happ, jsonGetBool, hfind]
      have htrue : ¬"true".toList <+: 'f' :: ("alse".toList ++ rest) :=
        fun hpre => absurd (@List.cons_prefix_cons _ 't' "rue".toList 'f' _ |>.mp hpre).1 (by decide)
      dsimp only
      rw [if_neg htrue, if_pos ⟨rest, rfl⟩]
      rfl

/-! ### The record of a call -/

/-- The record of a call in a Parcel. -/
def RilCall.record (c : RilCall) : List ParcelItem :=
  [.i32 c.state, .i32 c.index, .i32 145, .i32 (if c.isMpty then 1 else 0), .i32 (if c.isMt then 1 else 0),
    .i32 0, .i32 1, .i32 0, .str16 (some c.number), .i32 c.numberPresentation, .str16 (some c.name),
    .i32 0, .i32 0]

/-- The call with its numbers cut to 32 bits. -/
def RilCall.cut (c : RilCall) : RilCall :=
  { c with
    state := asInt c.state
    index := asInt c.index
    numberPresentation := asInt c.numberPresentation }

/-- The numbers of the call are in the range of `int32_t`. -/
def RilCall.Fits (c : RilCall) : Prop :=
  ∀ v ∈ [c.state, c.index, c.numberPresentation], -2 ^ 31 ≤ v ∧ v < 2 ^ 31

namespace RilCall

variable (c : RilCall)

/-- The members before `index`, before `isMT` and before `isMpty`. -/
def beforeIndex : Text := keyed "state".toList (intText c.state) ++ ", ".toList

def beforeIsMt : Text := c.beforeIndex ++ (keyed "index".toList (intText c.index) ++ ", ".toList)

def beforeIsMpty : Text := c.beforeIsMt ++ (keyed "isMT".toList (dumpsBool c.isMt) ++ ", ".toList)

/-- The members before `numberPresentation`. -/
def beforePresentation : Text :=
  c.front ++ keyed "number".toList (dumpsStr c.number ++ ", ".toList) ++
    keyed "name".toList (dumpsStr c.name ++ ", ".toList)

/-- The text of a call at the members with numbers and truth values. -/
theorem dumps_members :
    (∃ more, c.dumps = '\x7b' :: ([] ++ keyed "state".toList (intText c.state ++ ',' :: more))) ∧
    (∃ more, c.dumps =
      '\x7b' :: (c.beforeIndex ++ keyed "index".toList (intText c.index ++ ',' :: more))) ∧
    (∃ more, c.dumps =
      '\x7b' :: (c.beforeIsMt ++ keyed "isMT".toList (dumpsBool c.isMt ++ ',' :: more))) ∧
    (∃ more, c.dumps =
      '\x7b' :: (c.beforeIsMpty ++ keyed "isMpty".toList (dumpsBool c.isMpty ++ ',' :: more))) ∧
    ∃ more, c.dumps = '\x7b' :: (c.beforePresentation ++
      keyed "numberPresentation".toList (intText c.numberPresentation ++ '\x7d' :: more)) := by
  rw [c.dumps_eq]
  simp only [front, back, beforeIndex, beforeIsMt, beforeIsMpty, beforePresentation, keyed,
    List.append_assoc, List.cons_append, List.nil_append]
  exact ⟨⟨_, rfl⟩, ⟨_, rfl⟩, ⟨_, rfl⟩, ⟨_, rfl⟩, ⟨_, rfl⟩⟩

theorem walks_beforeIndex {key : Text} (hkey : '"' ∉ key) (hne : key ≠ "state".toList) :
    Walks key c.beforeIndex := walks_member_comma hkey (by decide) hne (neutral_intText c.state)

theorem walks_beforeIsMt {key : Text} (hkey : '"' ∉ key)
    (hne : ∀ k ∈ ["state".toList, "index".toList], key ≠ k) : Walks key c.beforeIsMt :=
  (c.walks_beforeIndex hkey (hne _ (by simp))).append
    (walks_member_comma hkey (by decide) (hne _ (by simp)) (neutral_intText c.index))

theorem walks_beforeIsMpty {key : Text} (hkey : '"' ∉ key)
    (hne : ∀ k ∈ ["state".toList, "index".toList, "isMT".toList], key ≠ k) : Walks key c.beforeIsMpty :=
  (c.walks_beforeIsMt hkey fun k hk => hne k (List.mem_append_left ["isMT".toList] hk)).append
    (walks_member_comma hkey (by decide) (hne _ (by simp)) (neutral_dumpsBool c.isMt))

theorem getInt_state (default : ℤ) : jsonGetInt c.dumps "state".toList default = asInt c.state := by
  obtain ⟨more, htext⟩ := c.dumps_members.1
  rw [htext]
  exact jsonGetInt_keyed (Walks.nil _) c.state (not_isDigit_head (by decide) more) default

theorem getInt_index (default : ℤ) : jsonGetInt c.dumps "index".toList default = asInt c.index := by
  obtain ⟨more, htext⟩ := c.dumps_members.2.1
  rw [htext]
  exact jsonGetInt_keyed (c.walks_beforeIndex (by decide) (by decide)) c.index
    (not_isDigit_head (by decide) more) default

theorem getBool_isMt (default : ℤ) :
    jsonGetBool c.dumps "isMT".toList default = if c.isMt then 1 else 0 := by
  obtain ⟨more, htext⟩ := c.dumps_members.2.2.1
  rw [htext]
  exact jsonGetBool_keyed (c.walks_beforeIsMt (by decide) (by simp)) c.isMt _ default

theorem getBool_isMpty (default : ℤ) :
    jsonGetBool c.dumps "isMpty".toList default = if c.isMpty then 1 else 0 := by
  obtain ⟨more, htext⟩ := c.dumps_members.2.2.2.1
  rw [htext]
  exact jsonGetBool_keyed (c.walks_beforeIsMpty (by decide) (by simp)) c.isMpty _ default

variable {c}

theorem getInt_numberPresentation (h : c.Plain) (default : ℤ) :
    jsonGetInt c.dumps "numberPresentation".toList default = asInt c.numberPresentation := by
  obtain ⟨more, htext⟩ := c.dumps_members.2.2.2.2
  have hname : Walks "numberPresentation".toList (keyed "name".toList (dumpsStr c.name ++ ", ".toList)) := by
    rw [dumpsStr, jsonEscape_plain h.2]
    exact walks_string (by decide) (by decide) (by decide) (DumpsPlain.noQuotes h.2)
  rw [htext]
  exact jsonGetInt_keyed ((c.walks_number (by decide) (by simp) h.1).append hname) c.numberPresentation
    (not_isDigit_head (by decide) more) default

theorem getStr_number (h : c.Plain) : jsonGetStr c.dumps "number".toList = some c.number := by
  rw [c.dumps_eq, dumpsStr, jsonEscape_plain h.1]
  exact jsonGetStr_plain (c.walks_front (by decide) (by simp)) (DumpsPlain.noQuotes h.1) _

theorem getStr_name (h : c.Plain) : jsonGetStr c.dumps "name".toList = some c.name := by
  have hstr : dumpsStr c.name = quoted c.name := by rw [dumpsStr, jsonEscape_plain h.2]
  rw [c.dumps_at_name, hstr]
  exact jsonGetStr_plain (c.walks_number (by decide) (by simp) h.1) (DumpsPlain.noQuotes h.2) _

end RilCall

theorem callItems_dumps {c : RilCall} (h : c.Plain) (i : ℕ) : callItems c.dumps i = c.cut.record := by
  rw [callItems, c.getInt_state, c.getInt_index, c.getBool_isMpty, c.getBool_isMt,
    RilCall.getInt_numberPresentation h, strItem, RilCall.getStr_number h, strItem, RilCall.getStr_name h]
  rfl

/-! ### The list of the calls -/

/-- `CallState` as a number. -/
def CallState.value : CallState → ℤ
  | active => 0
  | holding => 1
  | dialing => 2
  | alerting => 3
  | incoming => 4
  | waiting => 5

/-- `to_ril_dict()`; the radio makes calls without a name and with presentation 0. -/
def VoiceCall.toRilDict (vc : VoiceCall) : RilCall where
  state := vc.state.value
  index := vc.index
  isMt := vc.isMt
  isMpty := vc.isMpty
  number := vc.number
  name := []
  numberPresentation := 0

/-- `get_current_calls()`. -/
def RadioHAL.getCurrentCalls (r : RadioHAL) : List RilCall := r.voiceCalls.map fun v => (r.voice v).toRilDict

/-- The objects of the array are the calls, when none of them needs escapes. -/
theorem jsonObjectsFrom_calls {cs : List RilCall} (h : ∀ c ∈ cs, c.Plain) {fuel : ℕ}
    (hfuel : cs.length < fuel) {sep : Text} (hsep : ∀ d ∈ sep, isArraySpace d = true) (rest : Text) :
    jsonObjectsFrom fuel (sep ++ (callsText cs ++ ']' :: rest)) = cs.map RilCall.dumps := by
  induction cs generalizing fuel sep with
  | nil =>
      obtain ⟨fuel, rfl⟩ : ∃ n, fuel = n + 1 := ⟨fuel - 1, by omega⟩
      rw [jsonObjectsFrom, dropWhile_calls_nil hsep]
      rfl
  | cons c cs ih =>
      rw [List.length_cons] at hfuel
      obtain ⟨fuel, rfl⟩ : ∃ n, fuel = n + 1 := ⟨fuel - 1, by omega⟩
      obtain ⟨sep', hsep', hskip⟩ := dropWhile_calls_cons hsep c cs (']' :: rest)
      rw [jsonObjectsFrom, hskip, jsonSkipObject_call (h c List.mem_cons_self), List.map_cons]
      exact congrArg (c.dumps :: ·)
        (ih (fun d hd => h d (List.mem_cons_of_mem c hd)) (by omega) hsep')

theorem flatMap_callItems_dumps {cs : List RilCall} (h : ∀ c ∈ cs, c.Plain) (n : ℕ) :
    (((cs.map RilCall.dumps).zipIdx n).flatMap fun call => callItems call.1 call.2) =
      cs.flatMap fun c => c.cut.record := by
  induction cs generalizing n with
  | nil => rfl
  | cons c cs ih =>
      rw [List.map_cons, List.zipIdx_cons, List.flatMap_cons, List.flatMap_cons,
        callItems_dumps (h c List.mem_cons_self), ih fun d hd => h d (List.mem_cons_of_mem c hd)]

/-- The Parcel for the text of calls that need no escapes: their number and a record for each, with its
numbers cut to 32 bits. -/
theorem currentCallsPasses_dumpsCalls {cs : List RilCall} (h : ∀ c ∈ cs, c.Plain) (rest : Text) :
    currentCallsPasses (dumpsCalls cs ++ rest) =
      .i32 cs.length :: cs.flatMap fun c => c.cut.record := by
  obtain ⟨fuel, hfuel, hobjects⟩ := jsonObjects_dumpsCalls cs rest
  have hcalls := jsonObjectsFrom_calls h hfuel (List.forall_mem_nil _) ('\x7d' :: rest)
  rw [List.nil_append] at hcalls
  rw [currentCallsPasses_eq, responseCurrentCalls, hobjects, hcalls, flatMap_callItems_dumps h,
    List.length_map]

theorem asInt_eq_self_iff (v : ℤ) : asInt v = v ↔ -2 ^ 31 ≤ v ∧ v < 2 ^ 31 := by
  unfold asInt
  constructor
  · intro h
    generalize max (-2 ^ 63) (min v (2 ^ 63 - 1)) = w at h
    have hlow := Int.le_bmod (x := w) (m := 2 ^ 32) (by decide)
    have hhigh := Int.bmod_lt (x := w) (m := 2 ^ 32) (by decide)
    omega
  · rintro ⟨hlow, hhigh⟩
    have hlong : max (-2 ^ 63) (min v (2 ^ 63 - 1)) = v := by omega
    rw [hlong]
    exact Int.bmod_eq_of_le (by omega) (by omega)

theorem RilCall.cut_record_iff (c : RilCall) : c.cut.record = c.record ↔ c.Fits := by
  unfold record cut Fits
  simp only [List.cons.injEq, ParcelItem.i32.injEq, asInt_eq_self_iff, List.forall_mem_cons,
    List.not_mem_nil, false_implies, implies_true, and_true, true_and]

theorem VoiceCall.toRilDict_fits_iff (vc : VoiceCall) : vc.toRilDict.Fits ↔ vc.index < 2 ^ 31 := by
  have hstate : 0 ≤ vc.state.value ∧ vc.state.value ≤ 5 := by cases vc.state <;> decide
  unfold RilCall.Fits toRilDict
  simp only [List.forall_mem_cons, List.not_mem_nil, false_implies, implies_true, and_true]
  omega

/-- **The list of calls in the Parcel is that of the radio** exactly when the numbers of the calls fit
into 32 bits: as many complete records as are announced, in the order of the calls.  Of a call of the
radio only the index can be too large. -/
theorem currentCalls_translated_iff {cs : List RilCall} (h : ∀ c ∈ cs, c.Plain) (rest : Text) :
    (currentCallsPasses (dumpsCalls cs ++ rest) = .i32 cs.length :: cs.flatMap RilCall.record ↔
      ∀ c ∈ cs, c.Fits) ∧ ∀ vc : VoiceCall, vc.toRilDict.Fits ↔ vc.index < 2 ^ 31 := by
  refine ⟨?_, VoiceCall.toRilDict_fits_iff⟩
  rw [currentCallsPasses_dumpsCalls h, List.cons.injEq, and_iff_right rfl,
    flatMap_blocks (k := 13) (by decide) (fun _ => rfl) (fun _ => rfl), List.map_inj_left]
  exact forall₂_congr fun c _ => c.cut_record_iff

/-- Two calls, one of them with brackets and a comma in its name. -/
theorem currentCalls_translated_iff_two :
    let cs : List RilCall := [
      { state := 0, index := 1, isMt := true, isMpty := false, number := "+4912".toList,
        name := "\x7b[A], B\x7d".toList, numberPresentation := 0 },
      { state := 1, index := 2, isMt := false, isMpty := true, number := "110".toList, name := [],
        numberPresentation := 2 }]
    currentCallsPasses (dumpsCalls cs ++ ['\x7d']) = .i32 cs.length :: cs.flatMap RilCall.record ↔
      ∀ c ∈ cs, c.Fits := by
  intro cs
  refine (@currentCalls_translated_iff cs ?_ ['\x7d']).1
  simp only [cs, List.forall_mem_cons]
  exact ⟨⟨forall_mem_of_all (by decide), forall_mem_of_all (by decide)⟩,
    ⟨forall_mem_of_all (by decide), List.forall_mem_nil _⟩, List.forall_mem_nil _⟩

/-- A call with an index that 32 bits do not hold. -/
theorem currentCalls_cut :
    ¬∀ r : RadioHAL, (∀ c ∈ r.getCurrentCalls, c.Plain) →
      currentCallsPasses (dumpsCalls r.getCurrentCalls ++ ['\x7d']) =
        .i32 r.getCurrentCalls.length :: r.getCurrentCalls.flatMap RilCall.record := by
  intro h
  have hparcel := h { voices := [{ index := 2147483648 }], voiceCalls := [0], nextCallIndex := 2147483649 }
    (List.forall_mem_singleton.mpr ⟨List.forall_mem_nil _, List.forall_mem_nil _⟩)
  exact absurd hparcel (by decide +kernel)

end VirtualPhone
