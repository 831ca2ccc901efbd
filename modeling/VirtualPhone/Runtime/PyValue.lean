import Mathlib.Data.Int.Bitwise
import VirtualPhone.Runtime.Text
import VirtualPhone.Runtime.Unicode

/-! # Values without types

What a JSON document is to a program that checks no type of it: `PyValue`, over any type of floats.
Each operation of the language has the value it takes as it comes and raises where there is none of
its type, so a program over `PyValue` fails where the modelled one does.

A string is a list of code points, lone surrogates included.  The arithmetic of floats and the `repr`
of floats, lists and dictionaries are a `PyLibrary`; nothing is assumed about it. -/

namespace Runtime

/-! ### Strings with lone surrogates -/

/-- A code point of a string: a character, or the surrogate U+D800 + `n` on its own. -/
inductive CodePoint
  | char (c : Char)
  | surrogate (n : Fin 2048)
deriving DecidableEq, Repr

/-- The characters of a `str`. -/
abbrev PyStr := List CodePoint

/-- The character of a code point. -/
def CodePoint.char? : CodePoint → Option Char
  | char c => some c
  | surrogate _ => none

/-- A code point that `int` reads as a digit. -/
def CodePoint.IsDecimal (c : CodePoint) : Prop := ∃ d, c = char d ∧ isDecimal d = true

instance : DecidablePred CodePoint.IsDecimal
  | .char d => decidable_of_iff (isDecimal d = true) (by simp [CodePoint.IsDecimal])
  | .surrogate _ => isFalse (by simp [CodePoint.IsDecimal])

namespace PyStr

def ofText (s : Text) : PyStr := s.map .char

/-- The text, if there is no surrogate in it. -/
def toText? (s : PyStr) : Option Text := s.mapM CodePoint.char?

/-- `s.encode()`. -/
def encode (s : PyStr) : Except PyError Bytes :=
  match s.toText? with
  | some t => .ok (encodeUtf8 t)
  | none => .error (.valueError "surrogates not allowed".toList)

/-- The string as an error message shows it, with surrogates escaped. -/
def shown (s : PyStr) : Text := s.flatMap fun
  | .char c => [c]
  | .surrogate n => "\\u".toList ++ hex (beBytes (0xD800 + n.1) 2)

theorem toText?_ofText (s : Text) : (ofText s).toText? = some s := by
  induction s with
  | nil => rfl
  | cons c s ih =>
      rw [toText?, ofText, List.map_cons, List.mapM_cons]
      change Option.bind (some c) (fun c => (((ofText s).toText?).bind fun s => some (c :: s))) = _
      rw [ih]
      rfl

theorem toText?_isSome_iff (s : PyStr) : s.toText?.isSome = true ↔ ∀ c ∈ s, c.char?.isSome = true := by
  induction s with
  | nil => simp [toText?]
  | cons c s ih =>
      rw [List.forall_mem_cons, ← ih]
      unfold toText?
      rw [List.mapM_cons]
      cases c.char? with
      | none => simp
      | some d => cases s.mapM CodePoint.char? <;> simp

/-- A string that is encoded is a text. -/
theorem encode_isOk_iff (s : PyStr) : (∃ data, s.encode = .ok data) ↔ s.toText?.isSome = true := by
  cases h : s.toText? with
  | none => simp [encode, h]
  | some t => simp [encode, h]

end PyStr

/-! ### Values -/

/-- A value that can be hashed. -/
inductive PyScalar (F : Type)
  | none
  | bool (b : Bool)
  | int (n : ℤ)
  | float (x : F)
  | str (s : PyStr)
deriving DecidableEq, Repr

/-- A value that `json.loads` returns; the keys of a dictionary are different from each other. -/
inductive PyValue (F : Type)
  | scalar (v : PyScalar F)
  | list (items : List (PyValue F))
  | dict (entries : List (PyStr × PyValue F))

/-- A number that arithmetic is done with. -/
inductive PyNumber (F : Type)
  | int (n : ℤ)
  | float (x : F)
deriving DecidableEq, Repr

/-- The number as a value. -/
def PyNumber.value {F : Type} : PyNumber F → PyValue F
  | int n => .scalar (.int n)
  | float x => .scalar (.float x)

/-- What the language computes with floats, and what it writes of floats, lists and dictionaries. -/
structure PyLibrary (F : Type) where
  /-- The integer that a float is equal to. -/
  integral : F → Option ℤ
  isNan : F → Bool
  /-- `int(x)`. -/
  truncate : F → Except PyError ℤ
  /-- `a > b`, where one of them is a float. -/
  greater : PyNumber F → PyNumber F → Bool
  /-- `a - b`, where one of them is a float. -/
  minus : PyNumber F → PyNumber F → Except PyError (PyNumber F)
  /-- `repr(v)`, for a float, a list or a dictionary. -/
  repr : PyValue F → Except PyError PyStr

namespace PyValue

variable {F : Type}

/-- A string of the program. -/
def text (s : Text) : PyValue F := .scalar (.str (.ofText s))

/-- An integer. -/
def int (n : ℤ) : PyValue F := .scalar (.int n)

/-- `None`. -/
def null : PyValue F := .scalar .none

/-- `entries.get(key)`, for the entries of a dictionary. -/
def get? (entries : List (PyStr × PyValue F)) (key : String) : Option (PyValue F) :=
  (entries.find? fun e => decide (e.1 = .ofText key.toList)).map Prod.snd

/-- `entries.get(key, default)`. -/
def getD (entries : List (PyStr × PyValue F)) (key : String) (default : PyValue F) : PyValue F :=
  (get? entries key).getD default

/-- `entries[key]`. -/
def item (entries : List (PyStr × PyValue F)) (key : String) : Except PyError (PyValue F) :=
  match get? entries key with
  | some v => .ok v
  | none => .error (.keyError key.toList)

theorem item_eq_ok_iff {entries : List (PyStr × PyValue F)} {key : String} {v : PyValue F} :
    item entries key = .ok v ↔ get? entries key = some v := by
  unfold item
  cases get? entries key with
  | none => simp
  | some w => simp

/-- `hash(v)`: a list and a dictionary have none. -/
def hash : PyValue F → Except PyError (PyScalar F)
  | scalar v => .ok v
  | _ => .error .typeError

/-- `v.encode()`. -/
def encode : PyValue F → Except PyError Bytes
  | scalar (.str s) => s.encode
  | _ => .error .attributeError

/-- `bytes.fromhex(v)`. -/
def fromHex : PyValue F → Except PyError Bytes
  | scalar (.str s) =>
      match s.toText? with
      | some t => Runtime.fromHex t
      | none => .error fromHexError
  | _ => .error .typeError

/-- What `len(v)`, `v[0]` and `v[1:]` work on: the characters of a string or the items of a list. -/
def sequence : PyValue F → Except PyError (List (PyValue F))
  | scalar (.str s) => .ok (s.map fun c => .scalar (.str [c]))
  | list items => .ok items
  | dict (_ :: _) => .error (.keyError "0".toList)
  | _ => .error .typeError

/-- The string, for an operation that only strings have. -/
def asStr : PyValue F → Except PyError PyStr
  | scalar (.str s) => .ok s
  | _ => .error .attributeError

/-- The number that a value is compared as. -/
def number : PyValue F → Except PyError (PyNumber F)
  | scalar (.bool b) => .ok (.int (if b then 1 else 0))
  | scalar (.int n) => .ok (.int n)
  | scalar (.float x) => .ok (.float x)
  | _ => .error .typeError

end PyValue

namespace PyLibrary

variable {F : Type} (L : PyLibrary F)

/-- `bool(v)`. -/
def truthy : PyValue F → Bool
  | .scalar .none => false
  | .scalar (.bool b) => b
  | .scalar (.int n) => decide (n ≠ 0)
  | .scalar (.float x) => decide (L.integral x ≠ some 0)
  | .scalar (.str s) => !s.isEmpty
  | .list items => !items.isEmpty
  | .dict entries => !entries.isEmpty

/-- `str(v)`; an integer of more than 4300 digits has no decimal form. -/
def str : PyValue F → Except PyError PyStr
  | .scalar .none => .ok (.ofText "None".toList)
  | .scalar (.bool b) => .ok (.ofText (if b then "True".toList else "False".toList))
  | .scalar (.int n) =>
      if (natText n.natAbs).length ≤ 4300 then .ok (.ofText (intText n))
      else .error (.valueError "Exceeds the limit (4300 digits) for integer string conversion".toList)
  | .scalar (.str s) => .ok s
  | v => L.repr v

/-- `int(v)`. -/
def int : PyValue F → Except PyError ℤ
  | .scalar (.bool b) => .ok (if b then 1 else 0)
  | .scalar (.int n) => .ok n
  | .scalar (.float x) => L.truncate x
  | .scalar (.str s) =>
      match s.toText? with
      | some t => pyInt t
      | none => .error intError
  | _ => .error .typeError

/-- The form under which a value is found in a dictionary: numbers that are equal have the same.  The
one NaN of `json.loads` is found by its identity. -/
def key : PyScalar F → PyScalar F
  | .bool b => .int (if b then 1 else 0)
  | .float x =>
      match L.integral x with
      | some n => .int n
      | none => .float x
  | v => v

/-- `a == b`. -/
def eq [DecidableEq F] (a b : PyScalar F) : Bool :=
  decide (L.key a = L.key b) && (match a with
    | .float x => !L.isNan x
    | _ => true)

/-- `a > b`. -/
def gt : PyNumber F → PyNumber F → Bool
  | .int a, .int b => decide (a > b)
  | a, b => L.greater a b

/-- `a - b`. -/
def sub : PyNumber F → PyNumber F → Except PyError (PyNumber F)
  | .int a, .int b => .ok (.int (a - b))
  | a, b => L.minus a b

end PyLibrary

/-! ### Octets of integers -/

/-- `bytes([n])`. -/
def byteOfInt : ℤ → Except PyError UInt8
  | .ofNat n => mkByte n
  | .negSucc _ => .error (.valueError "byte must be in range(0, 256)".toList)

theorem byteOfInt_isOk_iff (n : ℤ) : (∃ b, byteOfInt n = .ok b) ↔ 0 ≤ n ∧ n < 256 := by
  cases n with
  | ofNat n =>
      by_cases h : n < 256
      · simp [byteOfInt, mkByte, h]
      · simp [byteOfInt, mkByte, h]
  | negSucc n => simp [byteOfInt]

/-! ### Digits -/

theorem isIntSpace_of_decimalValue {c : Char} {d : ℕ} (h : decimalValue c = some d) :
    isIntSpace c = false := by
  obtain ⟨z, hz, -⟩ := Option.map_eq_some_iff.mp h
  have hfound := List.find?_some hz
  have hrange : z ≤ c.toNat ∧ c.toNat < z + 10 := of_decide_eq_true hfound
  have hgap : ∀ z ∈ decimalZeros, (0x20 < z ∧ z + 10 ≤ 0x85) ∨ (0xA0 < z ∧ z + 10 ≤ 0x1680) ∨
      (0x1680 < z ∧ z + 10 ≤ 0x2000) ∨ 0x3000 < z := by decide
  have hz := hgap z (List.mem_of_find?_eq_some hz)
  simp only [isIntSpace, isSpace, Bool.and_eq_false_iff, Bool.or_eq_false_iff, decide_eq_false_iff_not,
    beq_eq_false_iff_ne]
  omega

/-- One character is read as a digit. -/
theorem pyInt_singleton (c : Char) : pyInt [c] = (digitValue c).map Int.ofNat := by
  cases hc : decimalValue c with
  | some d =>
      have hstrip : ([c].dropWhile isIntSpace) = [c] := by
        rw [List.dropWhile_cons, isIntSpace_of_decimalValue hc, if_neg (by decide)]
      have hbody : intBody [c] = .ok d := by
        rw [intBody, hc]
        rfl
      have hplus : c ≠ '+' := by
        rintro rfl
        cases hc
      have hminus : c ≠ '-' := by
        rintro rfl
        cases hc
      simp [pyInt, hstrip, hbody, digitValue, hc, hplus, hminus]
  | none =>
      have hbody : intBody [c] = .error intError := by
        rw [intBody, hc]
        rfl
      have hnil : intBody [] = .error intError := rfl
      have hdigit : digitValue c = .error intError := by rw [digitValue, hc]
      rw [hdigit, pyInt, List.dropWhile_cons]
      by_cases hspace : isIntSpace c = true
      · rw [if_pos hspace]
        rfl
      · have hstrip : ([c].reverse.dropWhile isIntSpace).reverse = [c] := by
          rw [List.reverse_singleton, List.dropWhile_cons, if_neg hspace]
          rfl
        rw [if_neg hspace, hstrip]
        split
        · next heq =>
            obtain ⟨-, rfl⟩ := List.cons_eq_cons.mp heq
            rw [hnil]
        · next heq =>
            obtain ⟨-, rfl⟩ := List.cons_eq_cons.mp heq
            rw [hnil]
            rfl
        · rw [hbody]

end Runtime
