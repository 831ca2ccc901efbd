import VirtualPhone.RilShim
import Mathlib.Data.List.Infix

/-! # The JSON scanner of the shim

The C strings of `ril_shim.c` and the functions that take values out of the bridge's replies:
`json_find_key`, which looks for a key at the outermost level of an object, `json_get_int`,
`json_get_str`, `json_get_bool` and `json_skip_object`.  None of them decodes an escape: a string
value is the text between two quotes, where a quote after a backslash does not count.

A C string is a text of one-byte characters.  A pointer into a text is the rest of the text from it
on, with the character before it where the code reads `*(p - 1)`. -/

namespace VirtualPhone

open Runtime

/-! ### C strings -/

/-- What `%s` prints of a buffer: the characters before the first null. -/
def cstr (s : Text) : Text := s.takeWhile (· ≠ '\x00')

/-- What `snprintf(buf, cap, ..)` leaves in the buffer. -/
def snprintf (cap : ℕ) (s : Text) : Text := s.take (cap - 1)

/-- The digits `atoi` reads. -/
def atoiDigits (acc : ℕ) : Text → ℕ
  | [] => acc
  | c :: rest => if IsDigit c then atoiDigits (10 * acc + (c.toNat - 48)) rest else acc

/-- The blanks of `isspace` in the C locale. -/
def isCSpace (c : Char) : Bool := c = ' ' || (9 ≤ c.toNat && c.toNat ≤ 13)

/-- What `atoi` makes of a number: glibc converts it to `long`, which ends at its last value, and cuts
that to 32 bits. -/
def asInt (v : ℤ) : ℤ := (max (-2 ^ 63) (min v (2 ^ 63 - 1))).bmod (2 ^ 32)

/-- `atoi(s)`. -/
def atoi (s : Text) : ℤ :=
  match s.dropWhile isCSpace with
  | '-' :: rest => asInt (-(atoiDigits 0 rest : ℤ))
  | '+' :: rest => asInt (atoiDigits 0 rest)
  | rest => asInt (atoiDigits 0 rest)

/-! ### Keys and values -/

/-- The blanks the scanner skips. -/
def isJsonSpace (c : Char) : Bool := c = ' ' || c = '\t' || c = '\n' || c = '\r'

/-- What follows `"key"` and a colon, when `p` points behind the opening quote of the key. -/
def jsonKeyValue (key p : Text) : Option Text :=
  if key ++ ['"'] <+: p then
    match (p.drop (key.length + 1)).dropWhile isJsonSpace with
    | ':' :: after => some (after.dropWhile isJsonSpace)
    | _ => none
  else none

/-- The loop of `json_find_key`, with the character before `p` and the depth. -/
def jsonFindKeyFrom (key : Text) : Option Char → ℤ → Bool → Text → Option Text
  | _, _, _, [] => none
  | prev, depth, inString, c :: p =>
      if c = '"' ∧ prev ≠ some '\\' then
        if inString then jsonFindKeyFrom key (some c) depth false p
        else
          match (if depth = 1 then jsonKeyValue key p else none) with
          | some value => some value
          | none => jsonFindKeyFrom key (some c) depth true p
      else if inString then jsonFindKeyFrom key (some c) depth true p
      else if c = '\x7b' ∨ c = '[' then jsonFindKeyFrom key (some c) (depth + 1) false p
      else if c = '\x7d' ∨ c = ']' then jsonFindKeyFrom key (some c) (depth - 1) false p
      else jsonFindKeyFrom key (some c) depth false p

/-- `json_find_key(json, key)`. -/
def jsonFindKey (json key : Text) : Option Text := jsonFindKeyFrom key none 0 false json

/-- `json_get_int(json, key, def)`. -/
def jsonGetInt (json key : Text) (default : ℤ) : ℤ :=
  match jsonFindKey json key with
  | none => default
  | some value => atoi value

/-- The text before the next quote that does not follow a backslash. -/
def jsonUntilQuote : Char → Text → Option Text
  | _, [] => none
  | prev, c :: p =>
      if c = '"' ∧ prev ≠ '\\' then some []
      else (jsonUntilQuote c p).map (c :: ·)

/-- `json_get_str(json, key)`. -/
def jsonGetStr (json key : Text) : Option Text :=
  match jsonFindKey json key with
  | some ('"' :: value) => jsonUntilQuote '"' value
  | _ => none

/-- `json_get_bool(json, key, def)`. -/
def jsonGetBool (json key : Text) (default : ℤ) : ℤ :=
  match jsonFindKey json key with
  | none => default
  | some value =>
      if "true".toList <+: value then 1
      else if "false".toList <+: value then 0
      else atoi value

/-! ### Arrays of objects -/

/-- The loop of `json_skip_object`: the text up to the closing brace and what follows it. -/
def jsonSkipObjectFrom : Option Char → ℤ → Bool → Text → Option (Text × Text)
  | _, _, _, [] => none
  | prev, depth, inStr, c :: p =>
      let found :=
        if c = '"' ∧ prev ≠ some '\\' then jsonSkipObjectFrom (some c) depth (!inStr) p
        else if inStr then jsonSkipObjectFrom (some c) depth true p
        else if c = '\x7b' then jsonSkipObjectFrom (some c) (depth + 1) false p
        else if c = '\x7d' then
          if depth - 1 = 0 then some ([], p) else jsonSkipObjectFrom (some c) (depth - 1) false p
        else jsonSkipObjectFrom (some c) depth false p
      found.map fun (object, rest) => (c :: object, rest)

/-- `json_skip_object(p)`. -/
def jsonSkipObject : Text → Option (Text × Text)
  | '\x7b' :: p => jsonSkipObjectFrom none 0 false ('\x7b' :: p)
  | _ => none

/-- The separators between the objects of an array. -/
def isArraySpace (c : Char) : Bool := isJsonSpace c || c = ','

/-- The objects at the start of an array, up to the first other thing. -/
def jsonObjectsFrom : ℕ → Text → List Text
  | 0, _ => []
  | fuel + 1, scan =>
      match jsonSkipObject (scan.dropWhile isArraySpace) with
      | some (object, rest) => object :: jsonObjectsFrom fuel rest
      | none => []

/-- The objects of the first array in a text. -/
def jsonObjects (data : Text) : List Text :=
  match strstr data ['['] with
  | none => []
  | some array => jsonObjectsFrom array.length (array.drop 1)

/-! ### Lengths -/

theorem length_of_find?_tails {p : Text → Bool} {text t : Text} (h : text.tails.find? p = some t) :
    t.length ≤ text.length :=
  ((List.mem_tails ..).mp (List.mem_of_find?_eq_some h)).length_le

theorem strstr_length {text pattern t : Text} (h : strstr text pattern = some t) :
    t.length ≤ text.length :=
  length_of_find?_tails h

theorem dropWhile_length_le (p : Char → Bool) (t : Text) : (t.dropWhile p).length ≤ t.length :=
  (List.dropWhile_sublist p).length_le

/-- The data part of a reply is no longer than the reply, or is `{}`. -/
theorem jsonFindData_length (json : Text) : (jsonFindData json).length ≤ json.length + 2 := by
  unfold jsonFindData
  split
  · simp
  · next p hp =>
    have hdrop : ((p.drop 7).dropWhile (· = ' ')).length ≤ (p.drop 7).length :=
      dropWhile_length_le _ _
    rw [List.length_drop] at hdrop
    have := strstr_length hp
    omega

theorem jsonKeyValue_length {key p value : Text} (h : jsonKeyValue key p = some value) :
    value.length ≤ p.length := by
  unfold jsonKeyValue at h
  split_ifs at h
  split at h
  · next after hafter =>
    obtain rfl := Option.some.inj h
    have hskip := dropWhile_length_le isJsonSpace (p.drop (key.length + 1))
    rw [hafter, List.length_cons, List.length_drop] at hskip
    have := dropWhile_length_le isJsonSpace after
    omega
  · cases h

theorem jsonFindKeyFrom_length {key : Text} {prev : Option Char} {depth : ℤ} {inString : Bool}
    {p value : Text} (h : jsonFindKeyFrom key prev depth inString p = some value) :
    value.length ≤ p.length := by
  induction p generalizing prev depth inString with
  | nil => cases h
  | cons c p ih =>
      rw [List.length_cons]
      unfold jsonFindKeyFrom at h
      split_ifs at h
      · exact (ih h).trans (Nat.le_succ _)
      · split at h
        · next v hv =>
          obtain rfl := Option.some.inj h
          exact (jsonKeyValue_length hv).trans (Nat.le_succ _)
        · exact (ih h).trans (Nat.le_succ _)
      all_goals exact (ih h).trans (Nat.le_succ _)

theorem jsonUntilQuote_length {prev : Char} {p value : Text} (h : jsonUntilQuote prev p = some value) :
    value.length ≤ p.length := by
  induction p generalizing prev value with
  | nil => cases h
  | cons c p ih =>
      unfold jsonUntilQuote at h
      split_ifs at h
      · obtain rfl := Option.some.inj h
        exact Nat.zero_le _
      · obtain ⟨rest, hrest, rfl⟩ := Option.map_eq_some_iff.mp h
        exact Nat.succ_le_succ (ih hrest)

/-- A string value is no longer than the text it is taken from. -/
theorem jsonGetStr_length {json key value : Text} (h : jsonGetStr json key = some value) :
    value.length ≤ json.length := by
  unfold jsonGetStr at h
  split at h
  · next v hv =>
    have hkey := jsonFindKeyFrom_length hv
    have := jsonUntilQuote_length h
    rw [List.length_cons] at hkey
    omega
  · cases h

theorem jsonSkipObjectFrom_eq {prev : Option Char} {depth : ℤ} {inStr : Bool} {p object rest : Text}
    (h : jsonSkipObjectFrom prev depth inStr p = some (object, rest)) :
    p = object ++ rest ∧ object ≠ [] := by
  induction p generalizing prev depth inStr object with
  | nil => cases h
  | cons c p ih =>
      unfold jsonSkipObjectFrom at h
      obtain ⟨⟨object', rest'⟩, hfound, heq⟩ := Option.map_eq_some_iff.mp h
      obtain ⟨rfl, rfl⟩ := Prod.mk.inj heq
      refine ⟨?_, List.cons_ne_nil _ _⟩
      rw [List.cons_append]
      congr 1
      split_ifs at hfound
      · exact (ih hfound).1
      · exact (ih hfound).1
      · exact (ih hfound).1
      · obtain ⟨rfl, rfl⟩ := Prod.mk.inj (Option.some.inj hfound)
        rfl
      · exact (ih hfound).1
      · exact (ih hfound).1

theorem jsonSkipObject_eq {p object rest : Text} (h : jsonSkipObject p = some (object, rest)) :
    p = object ++ rest ∧ 2 ≤ object.length := by
  unfold jsonSkipObject at h
  split at h
  · next p =>
    refine ⟨(jsonSkipObjectFrom_eq h).1, ?_⟩
    obtain ⟨⟨object', rest'⟩, hfound, heq⟩ := Option.map_eq_some_iff.mp h
    obtain ⟨rfl, rfl⟩ := Prod.mk.inj heq
    have htail : jsonSkipObjectFrom (some '\x7b') 1 false p = some (object', rest') := hfound
    have := List.length_pos_iff.mpr (jsonSkipObjectFrom_eq htail).2
    rw [List.length_cons]
    omega
  · cases h

/-- The objects of an array are disjoint parts of the text, each with its two braces. -/
theorem jsonObjectsFrom_length (fuel : ℕ) (scan : Text) :
    ((jsonObjectsFrom fuel scan).map List.length).sum ≤ scan.length ∧
      ∀ o ∈ jsonObjectsFrom fuel scan, 2 ≤ o.length := by
  induction fuel generalizing scan with
  | zero => exact ⟨Nat.zero_le _, fun o ho => nomatch ho⟩
  | succ fuel ih =>
      unfold jsonObjectsFrom
      split
      · next object rest h =>
        obtain ⟨heq, htwo⟩ := jsonSkipObject_eq h
        have hskip := dropWhile_length_le isArraySpace scan
        rw [heq, List.length_append] at hskip
        obtain ⟨hsum, hpos⟩ := ih rest
        refine ⟨?_, ?_⟩
        · rw [List.map_cons, List.sum_cons]
          omega
        · intro o ho
          rcases List.mem_cons.mp ho with rfl | ho
          · exact htwo
          · exact hpos o ho
      · exact ⟨Nat.zero_le _, fun o ho => nomatch ho⟩

theorem jsonObjects_length (data : Text) :
    ((jsonObjects data).map List.length).sum ≤ data.length ∧ ∀ o ∈ jsonObjects data, 2 ≤ o.length := by
  unfold jsonObjects
  split
  · exact ⟨Nat.zero_le _, fun o ho => nomatch ho⟩
  · next array h =>
    obtain ⟨hsum, hpos⟩ := jsonObjectsFrom_length array.length (array.drop 1)
    rw [List.length_drop] at hsum
    have := strstr_length h
    exact ⟨by omega, hpos⟩

end VirtualPhone
