import VirtualPhone.Runtime.Unicode
import VirtualPhone.ShimRequests
import VirtualPhone.ShimScan
import VirtualPhone.ShimWrites

/-! # Strings from the bridge to the Android client

The replies of `hal/ril_bridge.py` to OPERATOR and GET_CURRENT_CALLS, as `RILMessage.serialize` writes
them with `json.dumps`, and the strings that `ril_shim.c` writes into the response Parcel for them.

The shim copies the text between the quotes, so a character that `json.dumps` escapes arrives as its
escape.  `operator_iff` and `calls_iff` say that nothing else goes wrong: the client reads the strings
of the bridge exactly when none of them has to be escaped, as long as the reply fits into the buffer of
the shim and does not look like a refusal. -/

namespace VirtualPhone

open Runtime

/-! ### The replies of the bridge -/

/-- A string as `json.dumps` writes it. -/
def dumpsStr (s : Text) : Text := quoted (jsonEscape s)

/-- A truth value as `json.dumps` writes it. -/
def dumpsBool (b : Bool) : Text := if b then "true".toList else "false".toList

/-- Texts with the separator of `json.dumps` between them. -/
def dumpsJoin : List Text → Text
  | [] => []
  | [t] => t
  | t :: ts => t ++ ", ".toList ++ dumpsJoin ts

/-- A dictionary as `json.dumps` writes it; the members come with the texts of their values. -/
def dumpsObject (members : List (String × Text)) : Text :=
  '\x7b' :: (dumpsJoin (members.map fun m => keyed m.1.toList m.2) ++ ['\x7d'])

/-- A list as `json.dumps` writes it. -/
def dumpsArray (items : List Text) : Text := '[' :: (dumpsJoin items ++ [']'])

/-- What `get_operator` returns. -/
structure OperatorInfo where
  longName : Text
  shortName : Text
  numeric : Text
deriving DecidableEq

/-- The data of the reply to OPERATOR. -/
def OperatorInfo.dumps (o : OperatorInfo) : Text :=
  dumpsObject [("longName", dumpsStr o.longName), ("shortName", dumpsStr o.shortName),
    ("numeric", dumpsStr o.numeric)]

/-- A voice call, with what `to_ril_dict` reads of it. -/
structure RilCall where
  state : ℤ
  index : ℤ
  isMt : Bool
  isMpty : Bool
  number : Text
  name : Text
  numberPresentation : ℤ
deriving DecidableEq

/-- `to_ril_dict()`, as `json.dumps` writes it. -/
def RilCall.dumps (c : RilCall) : Text :=
  dumpsObject [("state", intText c.state), ("index", intText c.index), ("isMT", dumpsBool c.isMt),
    ("isMpty", dumpsBool c.isMpty), ("number", dumpsStr c.number), ("name", dumpsStr c.name),
    ("numberPresentation", intText c.numberPresentation)]

/-- The data of the reply to GET_CURRENT_CALLS. -/
def dumpsCalls (calls : List RilCall) : Text :=
  dumpsObject [("calls", dumpsArray (calls.map RilCall.dumps))]

/-- The reply to a request, as `serialize()` writes it. -/
def AndroidRequest.reply (r : AndroidRequest) (data : Text) : Text :=
  RILMessage.payload { msgType := solicited, serial := r.token, requestId := r.requestId, data := data }

/-! ### What the client reads -/

/-- `bridge_recv`: a message that is too long is not received. -/
def bridgeRecv (json : Text) : Option Text := if json.length ≤ maxMsgSize then some json else none

/-- The octets of 16-bit units in the other order. -/
def swapUnits : Bytes → Bytes
  | a :: b :: rest => b :: a :: swapUnits rest
  | rest => rest

/-- `d.decode("utf-16-le")`. -/
def decodeUtf16Le (d : Bytes) : Text := decodeUtf16 (swapUnits d)

/-- The strings of a Parcel, as the client decodes them. -/
def parcelStrings (items : List ParcelItem) : List (Option Text) :=
  items.filterMap fun
    | .i32 _ => none
    | .str16 s => some (s.map fun s => decodeUtf16Le (units16 s))

/-- The strings of the response to a reply with this data, when the response says success. -/
def AndroidRequest.clientStrings (r : AndroidRequest) (data : Text) : Option (List (Option Text)) :=
  match responseParcel r (bridgeRecv (r.reply data)) with
  | .i32 _ :: .i32 _ :: .i32 error :: items =>
      if error = RILError.success.code then some (parcelStrings items) else none
  | _ => none

/-- The reply fits into the buffer of the shim and does not look like a refusal. -/
structure AndroidRequest.Arrives (r : AndroidRequest) (data : Text) : Prop where
  short : (r.reply data).length ≤ maxMsgSize
  accepted : strstr (jsonFindData (r.reply data)) "REQUEST_NOT_SUPPORTED".toList = none

/-! ### Decoding -/

theorem decodeUtf16Le_units16_cons (c : Char) (s : Text) :
    decodeUtf16Le (units16 (c :: s)) = Char.ofNat (c.toNat % 256) :: decodeUtf16Le (units16 s) := by
  have hunits : swapUnits (units16 (c :: s)) = 0 :: UInt8.ofNat c.toNat :: swapUnits (units16 s) := rfl
  have hlow : (UInt8.ofNat c.toNat).toNat = c.toNat % 256 := rfl
  rw [decodeUtf16Le, hunits]
  conv_lhs => unfold decodeUtf16
  simp only [hlow, UInt8.toNat_zero, Nat.zero_mul, Nat.zero_add]
  rw [if_pos (Or.inl (by omega))]
  rfl

theorem decodeUtf16Le_length (s : Text) : (decodeUtf16Le (units16 s)).length = s.length := by
  induction s with
  | nil => rfl
  | cons c s ih => rw [decodeUtf16Le_units16_cons, List.length_cons, List.length_cons, ih]

theorem decodeUtf16Le_plain {s : Text} (h : ∀ c ∈ s, DumpsPlain c) : decodeUtf16Le (units16 s) = s := by
  induction s with
  | nil => rfl
  | cons c s ih =>
      obtain ⟨⟨-, -, -, hc⟩, hs⟩ := List.forall_mem_cons.mp h
      rw [decodeUtf16Le_units16_cons, ih hs, Nat.mod_eq_of_lt (by omega), Char.ofNat_toNat]

theorem DumpsPlain.noQuotes {s : Text} (h : ∀ c ∈ s, DumpsPlain c) : NoQuotes s :=
  fun c hc => ⟨(h c hc).1, (h c hc).2.1⟩

/-! ### One string of an object -/

/-- The string the client reads where the shim looks up a key. -/
def clientString (object key : Text) (default : Text) : Text :=
  decodeUtf16Le (units16 (((jsonGetStr object key).or (some default)).getD []))

theorem clientString_plain {key t s : Text} (h : Walks key t) (hs : ∀ c ∈ s, DumpsPlain c)
    (default rest : Text) :
    clientString ('\x7b' :: (t ++ keyed key (dumpsStr s ++ rest))) key default = s := by
  rw [clientString, dumpsStr, jsonEscape_plain hs, jsonGetStr_plain h (DumpsPlain.noQuotes hs)]
  exact decodeUtf16Le_plain hs

theorem clientString_escaped {key t s default : Text} (h : Walks key t) (hs : ¬∀ c ∈ s, DumpsPlain c)
    (hdefault : ∀ c ∈ default, DumpsPlain c) (rest : Text) :
    clientString ('\x7b' :: (t ++ keyed key ('"' :: (jsonEscape s ++ rest)))) key default ≠ s := by
  intro heq
  unfold clientString at heq
  cases hv : jsonGetStr ('\x7b' :: (t ++ keyed key ('"' :: (jsonEscape s ++ rest)))) key with
  | none =>
      -- the default stands for itself, so it is another string
      rw [hv, Option.none_or, Option.getD_some, decodeUtf16Le_plain hdefault] at heq
      exact hs (heq ▸ hdefault)
  | some v =>
      have hlong := jsonGetStr_escaped h hv
      have hmore := (jsonEscape_length s).2.resolve_left hs
      rw [hv, Option.some_or, Option.getD_some] at heq
      have hlen := decodeUtf16Le_length v
      rw [heq] at hlen
      omega

@[simp] theorem parcelStrings_nil : parcelStrings [] = [] := rfl

@[simp] theorem parcelStrings_i32 (v : ℤ) (items : List ParcelItem) :
    parcelStrings (.i32 v :: items) = parcelStrings items := rfl

theorem parcelStrings_append (items items' : List ParcelItem) :
    parcelStrings (items ++ items') = parcelStrings items ++ parcelStrings items' :=
  List.filterMap_append

@[simp] theorem parcelStrings_strItem (data key default : Text) (items : List ParcelItem) :
    parcelStrings (strItem data key (some default) :: items) =
      some (clientString data key default) :: parcelStrings items := by
  unfold strItem clientString
  cases jsonGetStr data key <;> rfl

/-! ### The data of a reply -/

theorem strstr_cons (c : Char) (t p : Text) :
    strstr (c :: t) p = if p <+: c :: t then some (c :: t) else strstr t p := by
  unfold strstr
  rw [List.tails_cons, List.find?_cons]
  by_cases hp : p <+: c :: t <;> simp [hp]

/-- A text without the first character of the pattern is passed over. -/
theorem strstr_append {t : Text} {c : Char} (h : c ∉ t) (p rest : Text) :
    strstr (t ++ rest) (c :: p) = strstr rest (c :: p) := by
  induction t with
  | nil => rfl
  | cons a t ih =>
      have hne : c ≠ a := fun heq => h (heq ▸ List.mem_cons_self)
      rw [List.cons_append, strstr_cons, if_neg fun hpre => hne (List.cons_prefix_cons.mp hpre).1]
      exact ih fun hmem => h (List.mem_cons_of_mem a hmem)

/-- A member is passed over in search of a key with another first letter. -/
theorem strstr_keyed {a d : Char} (h : a ≠ d) (hd : d ≠ ':') {key v : Text} (hkey : '"' ∉ a :: key)
    (hv : '"' ∉ v) (p rest : Text) :
    strstr (keyed (a :: key) (v ++ rest)) ('"' :: d :: p) = strstr rest ('"' :: d :: p) := by
  have happ : keyed (a :: key) (v ++ rest) =
      '"' :: (a :: key ++ ('"' :: ((':' :: ' ' :: v) ++ rest))) := by
    simp [keyed, quoted]
  have hopen : ¬ '"' :: d :: p <+: '"' :: (a :: key ++ ('"' :: ((':' :: ' ' :: v) ++ rest))) := by
    intro hpre
    exact h (List.cons_prefix_cons.mp (List.cons_prefix_cons.mp hpre).2).1.symm
  have hclose : ¬ '"' :: d :: p <+: '"' :: ((':' :: ' ' :: v) ++ rest) := by
    intro hpre
    exact hd (List.cons_prefix_cons.mp (List.cons_prefix_cons.mp hpre).2).1
  have hvalue : '"' ∉ ':' :: ' ' :: v := by simp [hv]
  rw [happ, strstr_cons, if_neg hopen, strstr_append hkey, strstr_cons, if_neg hclose,
    strstr_append hvalue]

theorem intText_noQuote (i : ℤ) : ∀ c ∈ intText i, c = '-' ∨ IsDigit c := by
  cases i with
  | ofNat n => exact fun c hc => Or.inr (isDigit_of_mem_natText hc)
  | negSucc n =>
      intro c hc
      exact (List.mem_cons.mp hc).imp id isDigit_of_mem_natText

theorem not_mem_intText {c : Char} (h : ¬(c = '-' ∨ IsDigit c)) (i : ℤ) : c ∉ intText i :=
  fun hc => h (intText_noQuote i c hc)

theorem payload_eq (type serial id t : Text) :
    "\x7b\"type\": ".toList ++ type ++ ", \"serial\": ".toList ++ serial ++ ", \"id\": ".toList ++ id ++
        ", \"data\": ".toList ++ ('\x7b' :: t) ++ "\x7d".toList =
      '\x7b' :: keyed "type".toList ((type ++ ", ".toList) ++
        keyed "serial".toList ((serial ++ ", ".toList) ++ keyed "id".toList ((id ++ ", ".toList) ++
          keyed "data".toList ('\x7b' :: (t ++ ['\x7d']))))) := by
  simp [keyed, quoted]

theorem jsonFindData_reply (r : AndroidRequest) (t : Text) :
    jsonFindData (r.reply ('\x7b' :: t)) = '\x7b' :: (t ++ ['\x7d']) := by
  have hint : ∀ i, '"' ∉ intText i ++ ", ".toList := by
    intro i hmem
    refine not_mem_intText (c := '"') (by decide) i ((List.mem_append.mp hmem).resolve_right ?_)
    decide
  have hreply : r.reply ('\x7b' :: t) = '\x7b' ::
      keyed "type".toList ((intText solicited ++ ", ".toList) ++ keyed "serial".toList ((intText r.token ++ ", ".toList) ++
        keyed "id".toList ((intText r.requestId ++ ", ".toList) ++
          keyed "data".toList ('\x7b' :: (t ++ ['\x7d']))))) := payload_eq _ _ _ t
  have hfind : strstr (r.reply ('\x7b' :: t)) ('"' :: 'd' :: "ata\":".toList) =
      some (keyed "data".toList ('\x7b' :: (t ++ ['\x7d']))) := by
    have hbrace : ¬ '"' :: 'd' :: "ata\":".toList <+: r.reply ('\x7b' :: t) := by
      rw [hreply]
      exact fun hpre => absurd (List.cons_prefix_cons.mp hpre).1 (by decide)
    have htype : '"' ∉ 't' :: "ype".toList := by decide
    have hserial : '"' ∉ 's' :: "erial".toList := by decide
    have hid : '"' ∉ 'i' :: "d".toList := by decide
    rw [hreply] at hbrace ⊢
    rw [strstr_cons, if_neg hbrace]
    refine (strstr_keyed (by decide) (by decide) htype (hint solicited) _ _).trans ?_
    refine (strstr_keyed (by decide) (by decide) hserial (hint r.token) _ _).trans ?_
    refine (strstr_keyed (by decide) (by decide) hid (hint r.requestId) _ _).trans ?_
    have hdata : '"' :: 'd' :: "ata\":".toList <+: keyed "data".toList ('\x7b' :: (t ++ ['\x7d'])) :=
      ⟨' ' :: '\x7b' :: (t ++ ['\x7d']), by simp [keyed, quoted]⟩
    change strstr ('"' :: ("data".toList ++ ['"'] ++ ':' :: ' ' :: '\x7b' :: (t ++ ['\x7d']))) _ = _
    rw [strstr_cons]
    exact if_pos hdata
  have hkey : strstr (r.reply ('\x7b' :: t)) "\"data\":".toList =
      some (keyed "data".toList ('\x7b' :: (t ++ ['\x7d']))) := hfind
  unfold jsonFindData
  rw [hkey]
  rfl

theorem clientStrings_eq (r : AndroidRequest) (t : Text) :
    (r.Arrives ('\x7b' :: t) → r.clientStrings ('\x7b' :: t) =
      some (parcelStrings (responseData ('\x7b' :: (t ++ ['\x7d'])) r.requestId))) ∧
    (¬r.Arrives ('\x7b' :: t) → r.clientStrings ('\x7b' :: t) = none) := by
  have hparcel : r.Arrives ('\x7b' :: t) → responseParcel r (bridgeRecv (r.reply ('\x7b' :: t))) =
      .i32 solicited :: .i32 r.token :: .i32 RILError.success.code ::
        responseData ('\x7b' :: (t ++ ['\x7d'])) r.requestId := by
    rintro ⟨hshort, haccepted⟩
    rw [bridgeRecv, if_pos hshort, responseParcel]
    simp only [haccepted, Option.isSome_none, Bool.false_eq_true, if_false]
    rw [jsonFindData_reply]
    rfl
  refine ⟨fun h => ?_, fun h => ?_⟩
  · unfold AndroidRequest.clientStrings
    rw [hparcel h]
    exact if_pos rfl
  · have herror : ∃ error : RILError, error ≠ .success ∧
        responseParcel r (bridgeRecv (r.reply ('\x7b' :: t))) =
          [.i32 solicited, .i32 r.token, .i32 error.code] := by
      by_cases hshort : (r.reply ('\x7b' :: t)).length ≤ maxMsgSize
      · have hrefused : (strstr (jsonFindData (r.reply ('\x7b' :: t)))
            "REQUEST_NOT_SUPPORTED".toList).isSome = true := by
          rw [Option.isSome_iff_ne_none]
          exact fun hnone => h ⟨hshort, hnone⟩
        refine ⟨.requestNotSupported, by decide, ?_⟩
        rw [bridgeRecv, if_pos hshort, responseParcel]
        simp only [hrefused, if_true]
        rfl
      · refine ⟨.genericFailure, by decide, ?_⟩
        rw [bridgeRecv, if_neg hshort]
        rfl
    obtain ⟨error, hne, heq⟩ := herror
    unfold AndroidRequest.clientStrings
    rw [heq]
    refine if_neg fun hcode => hne ?_
    cases error
    · rfl
    · exact absurd hcode (by decide)
    · exact absurd hcode (by decide)

/-! ### The name of the operator -/

/-- **The client reads the long name exactly when nothing of it has to be escaped.** -/
theorem operator_iff {r : AndroidRequest} (hr : r.requestId = 22) (o : OperatorInfo) :
    (r.clientStrings o.dumps).bind List.head? = some (some o.longName) ↔
      (∀ c ∈ o.longName, DumpsPlain c) ∧ r.Arrives o.dumps := by
  obtain ⟨t, ht⟩ : ∃ t, o.dumps = '\x7b' :: (keyed "longName".toList (dumpsStr o.longName ++ t)) := by
    refine ⟨", ".toList ++ keyed "shortName".toList (dumpsStr o.shortName ++ ", ".toList ++
      keyed "numeric".toList (dumpsStr o.numeric ++ ['\x7d'])), ?_⟩
    simp [OperatorInfo.dumps, dumpsObject, dumpsJoin, keyed]
  by_cases harrives : r.Arrives o.dumps
  · have hstrings : (r.clientStrings o.dumps).bind List.head? = some (some
        (clientString (o.dumps ++ ['\x7d']) "longName".toList "Virtual Operator".toList)) := by
      have heq := harrives
      rw [ht] at heq ⊢
      rw [(clientStrings_eq r _).1 heq, hr]
      simp [responseData, responseOperator]
    have hplain : ∀ c ∈ "Virtual Operator".toList, DumpsPlain c := forall_mem_of_all (by decide)
    rw [hstrings, Option.some.injEq, Option.some.injEq]
    constructor
    · refine fun h => ⟨?_, harrives⟩
      by_contra hs
      have htext : o.dumps ++ ['\x7d'] = '\x7b' :: ([] ++ keyed "longName".toList
          ('"' :: (jsonEscape o.longName ++ ('"' :: (t ++ ['\x7d']))))) := by
        rw [ht]
        simp [dumpsStr, quoted, keyed]
      rw [htext] at h
      exact clientString_escaped (Walks.nil _) hs hplain _ h
    · rintro ⟨hs, -⟩
      have htext : o.dumps ++ ['\x7d'] = '\x7b' :: ([] ++ keyed "longName".toList
          (dumpsStr o.longName ++ (t ++ ['\x7d']))) := by
        rw [ht]
        simp [keyed]
      rw [htext]
      exact clientString_plain (Walks.nil _) hs _ _
  · refine iff_of_false ?_ fun h => harrives h.2
    rw [ht] at harrives ⊢
    rw [(clientStrings_eq r _).2 harrives]
    rintro ⟨⟩

/-! ### The calls -/

/-- The members of a call before its number. -/
def RilCall.front (c : RilCall) : Text :=
  (keyed "state".toList (intText c.state) ++ ", ".toList) ++
    ((keyed "index".toList (intText c.index) ++ ", ".toList) ++
      ((keyed "isMT".toList (dumpsBool c.isMt) ++ ", ".toList) ++
        (keyed "isMpty".toList (dumpsBool c.isMpty) ++ ", ".toList)))

/-- The text behind the name of a call. -/
def RilCall.back (c : RilCall) : Text :=
  ", ".toList ++ keyed "numberPresentation".toList (intText c.numberPresentation)

theorem RilCall.dumps_eq (c : RilCall) :
    c.dumps = '\x7b' :: (c.front ++ keyed "number".toList (dumpsStr c.number ++ (", ".toList ++
      keyed "name".toList (dumpsStr c.name ++ (c.back ++ ['\x7d']))))) := by
  have hjoin : ∀ a b c d e f g : Text,
      dumpsJoin [a, b, c, d, e, f, g] = a ++ ", ".toList ++ (b ++ ", ".toList ++ (c ++ ", ".toList ++
        (d ++ ", ".toList ++ (e ++ ", ".toList ++ (f ++ ", ".toList ++ g))))) :=
    fun _ _ _ _ _ _ _ => rfl
  unfold RilCall.dumps dumpsObject
  simp only [List.map_cons, List.map_nil, hjoin]
  simp only [RilCall.front, RilCall.back, keyed, List.append_assoc, List.cons_append]

theorem RilCall.dumps_at_name (c : RilCall) :
    c.dumps = '\x7b' :: ((c.front ++ keyed "number".toList (dumpsStr c.number ++ ", ".toList)) ++
      keyed "name".toList (dumpsStr c.name ++ (c.back ++ ['\x7d']))) := by
  rw [c.dumps_eq]
  simp only [keyed, List.append_assoc, List.cons_append]

/-- Nothing of the number and the name of a call has to be escaped. -/
def RilCall.Plain (c : RilCall) : Prop := (∀ d ∈ c.number, DumpsPlain d) ∧ ∀ d ∈ c.name, DumpsPlain d

/-- The strings of a call. -/
def RilCall.strings (c : RilCall) : List (Option Text) := [some c.number, some c.name]

/-- The strings the shim writes for an object. -/
def callStrings (object : Text) : List (Option Text) :=
  [some (clientString object "number".toList []), some (clientString object "name".toList [])]

theorem walks_member {key k v : Text} (hkey : '"' ∉ key) (hk : NoQuotes k) (hne : key ≠ k)
    (hv : Neutral v) (hvq : NoQuotes v) : Walks key (keyed k v) := by
  have hneutral : Walks key (':' :: ' ' :: v) := by
    refine Walks.neutral ?_ ?_ key
    · exact List.forall_mem_cons.mpr ⟨by decide, List.forall_mem_cons.mpr ⟨by decide, hv⟩⟩
    · exact List.forall_mem_cons.mpr ⟨by decide, List.forall_mem_cons.mpr ⟨by decide, hvq⟩⟩
  exact walks_quoted hk hneutral fun rest => jsonKeyValue_other hkey (fun hq => (hk _ hq).1 rfl) hne _

theorem walks_comma (key : Text) : Walks key ", ".toList := Walks.neutral (by decide) (by decide) key

/-- A member without a string, and the comma behind it. -/
theorem walks_member_comma {key k v : Text} (hkey : '"' ∉ key) (hk : NoQuotes k) (hne : key ≠ k)
    (hv : Neutral v ∧ NoQuotes v) : Walks key (keyed k v ++ ", ".toList) :=
  (walks_member hkey hk hne hv.1 hv.2).append (walks_comma key)

theorem walks_string {key k s : Text} (hkey : '"' ∉ key) (hk : NoQuotes k) (hne : key ≠ k)
    (hs : NoQuotes s) : Walks key (keyed k (quoted s ++ ", ".toList)) := by
  have hvalue : Walks key (quoted s ++ ", ".toList) := by
    refine walks_quoted hs (walks_comma key) fun rest => ?_
    exact jsonKeyValue_value hkey (fun hq => (hs _ hq).1 rfl) (by decide) _
  have hcolon : Walks key [':', ' '] := Walks.neutral (by decide) (by decide) key
  exact walks_quoted hk (hcolon.append hvalue)
    fun rest => jsonKeyValue_other hkey (fun hq => (hk _ hq).1 rfl) hne _

theorem neutral_intText (i : ℤ) : Neutral (intText i) ∧ NoQuotes (intText i) := by
  have hchar : ∀ c, c = '-' ∨ IsDigit c → ∀ d, ¬(d = '-' ∨ IsDigit d) → c ≠ d := by
    rintro c hc d hd rfl
    exact hd hc
  refine ⟨fun c hc => ?_, fun c hc => ?_⟩
  · have h := hchar c (intText_noQuote i c hc)
    exact ⟨h _ (by decide), h _ (by decide), h _ (by decide), h _ (by decide), h _ (by decide)⟩
  · have h := hchar c (intText_noQuote i c hc)
    exact ⟨h _ (by decide), h _ (by decide)⟩

theorem neutral_dumpsBool (b : Bool) : Neutral (dumpsBool b) ∧ NoQuotes (dumpsBool b) := by
  cases b <;> decide

theorem RilCall.walks_front (c : RilCall) {key : Text} (hkey : '"' ∉ key)
    (hne : ∀ k ∈ ["state".toList, "index".toList, "isMT".toList, "isMpty".toList], key ≠ k) :
    Walks key c.front := by
  have hstate := walks_member_comma hkey (k := "state".toList) (by decide) (hne _ (by simp))
    (neutral_intText c.state)
  have hindex := walks_member_comma hkey (k := "index".toList) (by decide) (hne _ (by simp))
    (neutral_intText c.index)
  have hmt := walks_member_comma hkey (k := "isMT".toList) (by decide) (hne _ (by simp))
    (neutral_dumpsBool c.isMt)
  have hmpty := walks_member_comma hkey (k := "isMpty".toList) (by decide) (hne _ (by simp))
    (neutral_dumpsBool c.isMpty)
  exact hstate.append (hindex.append (hmt.append hmpty))

/-- The text of a call whose number needs no escapes, up to its name. -/
theorem RilCall.walks_number (c : RilCall) {key : Text} (hkey : '"' ∉ key)
    (hne : ∀ k ∈ ["state".toList, "index".toList, "isMT".toList, "isMpty".toList, "number".toList],
      key ≠ k)
    (hnumber : ∀ d ∈ c.number, DumpsPlain d) :
    Walks key (c.front ++ keyed "number".toList (dumpsStr c.number ++ ", ".toList)) := by
  have hfront := c.walks_front hkey fun k hk => hne k (List.mem_append_left ["number".toList] hk)
  rw [dumpsStr, jsonEscape_plain hnumber]
  exact hfront.append (walks_string hkey (by decide) (hne _ (by simp)) (DumpsPlain.noQuotes hnumber))

theorem jsonSkipObject_call {c : RilCall} (h : c.Plain) (rest : Text) :
    jsonSkipObject (c.dumps ++ rest) = some (c.dumps, rest) := by
  have hnumber := c.walks_number (List.not_mem_nil (a := '"')) (by simp) h.1
  have hname : Walks [] (keyed "name".toList (quoted c.name ++ ", ".toList)) :=
    walks_string (by decide) (by decide) (by decide) (DumpsPlain.noQuotes h.2)
  have hback := neutral_intText c.numberPresentation
  have hlast : Walks [] (keyed "numberPresentation".toList (intText c.numberPresentation)) :=
    walks_member (by decide) (by decide) (by decide) hback.1 hback.2
  have hclosed := jsonSkipObject_closed (hnumber.append (hname.append hlast)) rest
  have htext : c.dumps = '\x7b' ::
      ((c.front ++ keyed "number".toList (dumpsStr c.number ++ ", ".toList)) ++ (keyed "name".toList (quoted c.name ++ ", ".toList) ++
        keyed "numberPresentation".toList (intText c.numberPresentation)) ++ ['\x7d']) := by
    have hstr : dumpsStr c.name = quoted c.name := by rw [dumpsStr, jsonEscape_plain h.2]
    rw [c.dumps_eq, RilCall.back, hstr]
    simp only [keyed, List.append_assoc, List.cons_append]
  rw [htext, ← hclosed]
  simp only [List.append_assoc, List.cons_append, List.nil_append]

theorem RilCall.dumps_number (c : RilCall) (rest : Text) :
    ∃ more, c.dumps ++ rest =
      '\x7b' :: (c.front ++ keyed "number".toList ('"' :: (jsonEscape c.number ++ more))) := by
  refine ⟨'"' :: (", ".toList ++ keyed "name".toList (dumpsStr c.name ++ (c.back ++ ['\x7d']))) ++
    rest, ?_⟩
  rw [c.dumps_eq]
  simp only [dumpsStr, keyed, quoted, List.append_assoc, List.cons_append, List.nil_append]

theorem RilCall.dumps_name (c : RilCall) (rest : Text) :
    ∃ more, c.dumps ++ rest =
      '\x7b' :: ((c.front ++ keyed "number".toList (dumpsStr c.number ++ ", ".toList)) ++
        keyed "name".toList ('"' :: (jsonEscape c.name ++ more))) := by
  refine ⟨'"' :: (c.back ++ ['\x7d']) ++ rest, ?_⟩
  rw [c.dumps_at_name]
  simp only [dumpsStr, keyed, quoted, List.append_assoc, List.cons_append, List.nil_append]

/-- An object that begins like a call has the strings of the call only if they need no escapes. -/
theorem callStrings_opened {c : RilCall} {rest object behind : Text}
    (hskip : jsonSkipObject (c.dumps ++ rest) = some (object, behind))
    (h : callStrings object = c.strings) : c.Plain := by
  have hempty : ∀ d ∈ ([] : Text), DumpsPlain d := fun d hd => absurd hd List.not_mem_nil
  simp only [callStrings, RilCall.strings, List.cons.injEq, Option.some.injEq, and_true] at h
  have hnumber : ∀ d ∈ c.number, DumpsPlain d := by
    by_contra hescape
    have hfront : Walks "number".toList c.front := c.walks_front (by decide) (by simp)
    obtain ⟨more, htext⟩ := c.dumps_number rest
    rw [htext] at hskip
    obtain ⟨more', hobject⟩ := jsonSkipObject_opened hfront (by decide) hskip
    rw [hobject] at h
    exact clientString_escaped hfront hescape hempty more' h.1
  refine ⟨hnumber, ?_⟩
  by_contra hescape
  have hfront : Walks "name".toList _ := c.walks_number (by decide) (by simp) hnumber
  obtain ⟨more, htext⟩ := c.dumps_name rest
  rw [htext] at hskip
  obtain ⟨more', hobject⟩ := jsonSkipObject_opened hfront (by decide) hskip
  rw [hobject] at h
  exact clientString_escaped hfront hescape hempty more' h.2

theorem callStrings_dumps {c : RilCall} (h : c.Plain) : callStrings c.dumps = c.strings := by
  have hnumber : clientString c.dumps "number".toList [] = c.number := by
    rw [c.dumps_eq]
    exact clientString_plain (c.walks_front (by decide) (by simp)) h.1 [] _
  have hname : clientString c.dumps "name".toList [] = c.name := by
    rw [c.dumps_at_name]
    exact clientString_plain (c.walks_number (by decide) (by simp) h.1) h.2 [] _
  rw [callStrings, hnumber, hname, RilCall.strings]

/-! ### The list of the calls -/

/-- The text of the calls, from one of them on. -/
def callsText (cs : List RilCall) : Text := dumpsJoin (cs.map RilCall.dumps)

theorem callsText_cons (c : RilCall) (cs : List RilCall) :
    ∃ sep, (∀ d ∈ sep, isArraySpace d = true) ∧
      callsText (c :: cs) = c.dumps ++ (sep ++ callsText cs) := by
  cases cs with
  | nil => exact ⟨[], fun d hd => absurd hd List.not_mem_nil, by simp [callsText, dumpsJoin]⟩
  | cons c' cs =>
      refine ⟨", ".toList, forall_mem_of_all (by decide), ?_⟩
      simp only [callsText, List.map_cons, dumpsJoin, List.append_assoc]

/-- What the separators of an array stand before: its end. -/
theorem dropWhile_calls_nil {sep : Text} (hsep : ∀ d ∈ sep, isArraySpace d = true) (rest : Text) :
    (sep ++ (callsText [] ++ ']' :: rest)).dropWhile isArraySpace = ']' :: rest := by
  rw [List.dropWhile_append_of_pos hsep]
  rfl

/-- What the separators of an array stand before: a call. -/
theorem dropWhile_calls_cons {sep : Text} (hsep : ∀ d ∈ sep, isArraySpace d = true) (c : RilCall)
    (cs : List RilCall) (rest : Text) :
    ∃ sep', (∀ d ∈ sep', isArraySpace d = true) ∧
      (sep ++ (callsText (c :: cs) ++ rest)).dropWhile isArraySpace =
        c.dumps ++ (sep' ++ (callsText cs ++ rest)) := by
  obtain ⟨sep', hsep', htext⟩ := callsText_cons c cs
  refine ⟨sep', hsep', ?_⟩
  rw [List.dropWhile_append_of_pos hsep, htext, c.dumps_eq]
  simp only [List.append_assoc, List.cons_append]
  exact List.dropWhile_cons_of_neg (by decide)

/-- The shim finds the calls in the array exactly when none of their strings has to be escaped. -/
theorem objects_iff (cs : List RilCall) {fuel : ℕ} (hfuel : cs.length < fuel) {sep : Text}
    (hsep : ∀ d ∈ sep, isArraySpace d = true) (rest : Text) :
    (jsonObjectsFrom fuel (sep ++ (callsText cs ++ ']' :: rest))).map callStrings =
      cs.map RilCall.strings ↔ ∀ c ∈ cs, c.Plain := by
  induction cs generalizing fuel sep with
  | nil =>
      obtain ⟨fuel, rfl⟩ : ∃ n, fuel = n + 1 := ⟨fuel - 1, by omega⟩
      refine iff_of_true ?_ fun c hc => absurd hc List.not_mem_nil
      rw [jsonObjectsFrom, dropWhile_calls_nil hsep]
      rfl
  | cons c cs ih =>
      obtain ⟨fuel, rfl⟩ : ∃ n, fuel = n + 1 := ⟨fuel - 1, by omega⟩
      obtain ⟨sep', hsep', hskip⟩ := dropWhile_calls_cons hsep c cs (']' :: rest)
      have hlt : cs.length < fuel := by
        rw [List.length_cons] at hfuel
        omega
      rw [jsonObjectsFrom, hskip, List.map_cons]
      by_cases hplain : c.Plain
      · rw [jsonSkipObject_call hplain]
        have hiff := ih hlt hsep'
        simp only [List.map_cons, callStrings_dumps hplain, List.cons.injEq, true_and, hiff,
          List.forall_mem_cons, hplain]
      · refine iff_of_false ?_ fun h => hplain (h c List.mem_cons_self)
        cases hobject : jsonSkipObject (c.dumps ++ (sep' ++ (callsText cs ++ ']' :: rest))) with
        | none => exact fun h => absurd h (List.cons_ne_nil _ _).symm
        | some r =>
            intro h
            exact hplain (callStrings_opened hobject (List.cons.inj h).1)

theorem callsText_length (cs : List RilCall) : cs.length ≤ (callsText cs).length := by
  induction cs with
  | nil => exact Nat.zero_le _
  | cons c cs ih =>
      obtain ⟨sep, -, htext⟩ := callsText_cons c cs
      have hdumps : 1 ≤ c.dumps.length := by
        rw [c.dumps_eq]
        exact Nat.le_add_left 1 _
      rw [htext, List.length_append, List.length_append, List.length_cons]
      omega

theorem dumpsCalls_eq (cs : List RilCall) :
    dumpsCalls cs = '\x7b' :: (keyed "calls".toList ('[' :: (callsText cs ++ [']'])) ++ ['\x7d']) := rfl

theorem jsonObjects_dumpsCalls (cs : List RilCall) (rest : Text) :
    ∃ fuel, cs.length < fuel ∧ jsonObjects (dumpsCalls cs ++ rest) =
      jsonObjectsFrom fuel (callsText cs ++ ']' :: '\x7d' :: rest) := by
  have hfront : '[' ∉ '\x7b' :: (quoted "calls".toList ++ [':', ' ']) := by decide
  have happ : dumpsCalls cs ++ rest = '\x7b' :: (quoted "calls".toList ++ [':', ' ']) ++
      ('[' :: (callsText cs ++ ']' :: '\x7d' :: rest)) := by
    rw [dumpsCalls_eq]
    simp [keyed]
  have hfind : strstr (dumpsCalls cs ++ rest) ['['] =
      some ('[' :: (callsText cs ++ ']' :: '\x7d' :: rest)) := by
    rw [happ, strstr_append hfront, strstr_cons]
    exact if_pos (List.cons_prefix_cons.mpr ⟨rfl, List.nil_prefix⟩)
  refine ⟨('[' :: (callsText cs ++ ']' :: '\x7d' :: rest)).length, ?_, ?_⟩
  · have := callsText_length cs
    rw [List.length_cons, List.length_append]
    omega
  · unfold jsonObjects
    rw [hfind]
    rfl

theorem parcelStrings_callItems (object : Text) (i : ℕ) :
    parcelStrings (callItems object i) = callStrings object := by
  simp [callItems, callStrings]

theorem parcelStrings_currentCalls (data : Text) :
    parcelStrings (responseCurrentCalls data) = (jsonObjects data).flatMap callStrings := by
  rw [responseCurrentCalls, parcelStrings_i32]
  generalize jsonObjects data = objects
  suffices h : ∀ n, parcelStrings ((objects.zipIdx n).flatMap fun call => callItems call.1 call.2) =
      objects.flatMap callStrings from h 0
  induction objects with
  | nil => exact fun n => rfl
  | cons o objects ih =>
      intro n
      rw [List.zipIdx_cons, List.flatMap_cons, parcelStrings_append, parcelStrings_callItems, ih,
        List.flatMap_cons]

/-- Lists of blocks of one length are equal when they are equal as one list. -/
theorem flatMap_blocks {α β γ : Type} {f : α → List γ} {g : β → List γ} {k : ℕ} (hk : 0 < k)
    (hf : ∀ a, (f a).length = k) (hg : ∀ b, (g b).length = k) (as : List α) (bs : List β) :
    as.flatMap f = bs.flatMap g ↔ as.map f = bs.map g := by
  refine ⟨fun h => ?_, fun h => by rw [List.flatMap_def, h, ← List.flatMap_def]⟩
  induction as generalizing bs with
  | nil =>
      cases bs with
      | nil => rfl
      | cons b bs =>
          have hlen := congrArg List.length h
          rw [List.flatMap_nil, List.flatMap_cons, List.length_append, hg, List.length_nil] at hlen
          omega
  | cons a as ih =>
      cases bs with
      | nil =>
          have hlen := congrArg List.length h
          rw [List.flatMap_nil, List.flatMap_cons, List.length_append, hf, List.length_nil] at hlen
          omega
      | cons b bs =>
          rw [List.flatMap_cons, List.flatMap_cons] at h
          obtain ⟨hhead, htail⟩ := List.append_inj h ((hf a).trans (hg b).symm)
          rw [List.map_cons, List.map_cons, hhead, ih bs htail]

/-- **The client reads the numbers and names of the calls exactly when nothing of them has to be
escaped.** -/
theorem calls_iff {r : AndroidRequest} (hr : r.requestId = 9) (cs : List RilCall) :
    r.clientStrings (dumpsCalls cs) = some (cs.flatMap RilCall.strings) ↔
      (∀ c ∈ cs, c.Plain) ∧ r.Arrives (dumpsCalls cs) := by
  have hstrings := clientStrings_eq r
    (keyed "calls".toList ('[' :: (callsText cs ++ [']'])) ++ ['\x7d'])
  rw [← dumpsCalls_eq, ← List.cons_append, ← dumpsCalls_eq] at hstrings
  by_cases harrives : r.Arrives (dumpsCalls cs)
  · obtain ⟨fuel, hfuel, hobjects⟩ := jsonObjects_dumpsCalls cs ['\x7d']
    have hresponse : parcelStrings (responseData (dumpsCalls cs ++ ['\x7d']) r.requestId) =
        (jsonObjectsFrom fuel (callsText cs ++ ']' :: ['\x7d', '\x7d'])).flatMap callStrings := by
      rw [hr, ← hobjects, ← parcelStrings_currentCalls]
      rfl
    rw [hstrings.1 harrives, hresponse, Option.some.injEq,
      flatMap_blocks Nat.two_pos (fun _ => rfl) (fun _ => rfl)]
    have hiff := objects_iff cs hfuel (List.forall_mem_nil _) ['\x7d', '\x7d']
    rw [List.nil_append] at hiff
    rw [hiff]
    exact ⟨fun h => ⟨h, harrives⟩, fun h => h.1⟩
  · refine iff_of_false ?_ fun h => harrives h.2
    rw [hstrings.2 harrives]
    exact nofun

end VirtualPhone
