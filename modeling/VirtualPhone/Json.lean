import VirtualPhone.Runtime.Dict
import VirtualPhone.Runtime.Text

/-! # JSON texts

The two halves of the JSON library of the modelled programs: `jsonEscape` is what `json.dumps` writes
between the quotes of a string, in ASCII, and `loads` is `json.loads`.

A text here has no lone surrogates; an escape that stands for one is read as U+FFFD.  The reader is
bounded in its depth by the length of the text only. -/

namespace VirtualPhone

open Runtime

/-- A value that `json.loads` returns. -/
inductive Json
  | null
  | bool (b : Bool)
  | int (n : ℤ)
  | float (text : Text)
  | str (s : Text)
  | arr (items : List Json)
  | obj (fields : List (Text × Json))

/-- `fields.get(key)`, for an object; its keys are different from each other. -/
def Json.get? (fields : List (Text × Json)) (key : String) : Option Json :=
  (fields.find? (·.1 = key.toList)).map Prod.snd

/-! ### Writing strings -/

/-- `\uXXXX`. -/
def unicodeEscape (n : ℕ) : Text := "\\u".toList ++ hex (beBytes n 2)

/-- What `json.dumps` writes for a character. -/
def jsonEscapeChar (c : Char) : Text :=
  if c = '"' then "\\\"".toList
  else if c = '\\' then "\\\\".toList
  else if 0x20 ≤ c.toNat ∧ c.toNat ≤ 0x7E then [c]
  else if c.toNat = 0x0A then "\\n".toList
  else if c.toNat = 0x0D then "\\r".toList
  else if c.toNat = 0x09 then "\\t".toList
  else if c.toNat = 0x0C then "\\f".toList
  else if c.toNat = 0x08 then "\\b".toList
  else if c.toNat < 0x10000 then unicodeEscape c.toNat
  else unicodeEscape (0xD800 + (c.toNat - 0x10000) / 1024) ++
    unicodeEscape (0xDC00 + (c.toNat - 0x10000) % 1024)

/-- What `json.dumps` writes for the characters of a string. -/
def jsonEscape (s : Text) : Text := s.flatMap jsonEscapeChar

/-! ### Reading strings -/

/-- Four hexadecimal digits. -/
def hex4 : Text → Option (ℕ × Text)
  | a :: b :: c :: d :: rest => do
      let a ← hexVal a
      let b ← hexVal b
      let c ← hexVal c
      let d ← hexVal d
      return (((a * 16 + b) * 16 + c) * 16 + d, rest)
  | _ => none

/-- The character of a code point; a surrogate on its own is none. -/
def charOfCode (n : ℕ) : Char := if 0xD800 ≤ n ∧ n ≤ 0xDFFF then '\uFFFD' else Char.ofNat n

/-- A high surrogate with what follows it: the two halves of a pair make one character. -/
def scanPair (high : ℕ) (s : Text) : Option (Char × Text) :=
  match s with
  | '\\' :: 'u' :: rest => do
      let (low, rest') ← hex4 rest
      if 0xDC00 ≤ low ∧ low ≤ 0xDFFF then
        return (Char.ofNat (0x10000 + (high - 0xD800) * 1024 + (low - 0xDC00)), rest')
      else return ('\uFFFD', s)
  | _ => some ('\uFFFD', s)

/-- The character of an escape, behind its backslash. -/
def scanEscape : Text → Option (Char × Text)
  | [] => none
  | c :: rest =>
      if c = 'u' then do
        let (n, rest) ← hex4 rest
        if 0xD800 ≤ n ∧ n ≤ 0xDBFF then scanPair n rest else return (charOfCode n, rest)
      else if c = '"' ∨ c = '\\' ∨ c = '/' then some (c, rest)
      else if c = 'b' then some ('\x08', rest)
      else if c = 'f' then some ('\x0c', rest)
      else if c = 'n' then some ('\n', rest)
      else if c = 'r' then some ('\r', rest)
      else if c = 't' then some ('\t', rest)
      else none

/-- One character of a string, or `none` at its closing quote. -/
def scanChar : Text → Option (Option Char × Text)
  | [] => none
  | c :: rest =>
      if c = '"' then some (none, rest)
      else if c = '\\' then (scanEscape rest).map fun (c, rest) => (some c, rest)
      else if c.toNat < 0x20 then none
      else some (some c, rest)

/-- The characters of a string up to its closing quote; the first argument bounds their number. -/
def scanString : ℕ → Text → Option (Text × Text)
  | 0, _ => none
  | n + 1, s => do
      match ← scanChar s with
      | (none, rest) => return ([], rest)
      | (some c, rest) =>
          let (t, rest) ← scanString n rest
          return (c :: t, rest)

/-! ### Reading numbers and words -/

/-- The digits at the start of a text, and what follows them. -/
def spanDigits (s : Text) : Text × Text :=
  (s.takeWhile fun c => decide (IsDigit c), s.dropWhile fun c => decide (IsDigit c))

/-- The fraction of a number, `\.\d+`. -/
def scanFraction (s : Text) : Text × Text :=
  match s with
  | '.' :: rest =>
      if (spanDigits rest).1 = [] then ([], s) else ('.' :: (spanDigits rest).1, (spanDigits rest).2)
  | _ => ([], s)

/-- The sign of an exponent, `[-+]?`. -/
def scanSign (s : Text) : Text × Text :=
  match s with
  | c :: rest => if c = '-' ∨ c = '+' then ([c], rest) else ([], s)
  | [] => ([], [])

/-- The exponent of a number, `[eE][-+]?\d+`. -/
def scanExponent (s : Text) : Text × Text :=
  match s with
  | e :: rest =>
      if e = 'e' ∨ e = 'E' then
        let (sign, digits) := scanSign rest
        if (spanDigits digits).1 = [] then ([], s)
        else (e :: sign ++ (spanDigits digits).1, (spanDigits digits).2)
      else ([], s)
  | [] => ([], s)

/-- The integer part of a number, `0|[1-9]\d*`. -/
def scanInteger (s : Text) : Text × Text :=
  match s with
  | '0' :: rest => (['0'], rest)
  | _ => spanDigits s

/-- A number without its sign; more than 4300 digits are refused. -/
def scanNumber (negative : Bool) (s : Text) : Option (Json × Text) :=
  let (digits, rest) := scanInteger s
  let (fraction, rest) := scanFraction rest
  let (exponent, rest) := scanExponent rest
  let sign := if negative then ['-'] else []
  if digits = [] then none
  else if fraction = [] ∧ exponent = [] then
    if 4300 < digits.length then none
    else
      let n : ℕ := Nat.ofDigitChars 10 digits 0
      some (.int (if negative then -n else n), rest)
  else some (.float (sign ++ digits ++ fraction ++ exponent), rest)

/-- The words and the numbers. -/
def scanScalar (s : Text) : Option (Json × Text) :=
  let word (w : String) (v : Json) : Option (Json × Text) :=
    if w.toList <+: s then some (v, s.drop w.length) else none
  (word "null" .null).or <| (word "true" (.bool true)).or <| (word "false" (.bool false)).or <|
    (word "NaN" (.float "NaN".toList)).or <| (word "Infinity" (.float "Infinity".toList)).or <|
    (word "-Infinity" (.float "-Infinity".toList)).or <|
    match s with
    | '-' :: rest => scanNumber true rest
    | _ => scanNumber false s

/-! ### Reading values -/

/-- The blanks of JSON. -/
def isJsonBlank (c : Char) : Bool := c = ' ' || c = '\t' || c = '\n' || c = '\r'

/-- The text behind blanks. -/
def skipBlanks (s : Text) : Text := s.dropWhile isJsonBlank

/-- The object with these members; of two with one key the later counts. -/
def Json.ofMembers (members : List (Text × Json)) : Json := .obj (Dict.ofList members).entries

mutual

/-- A value; the first argument bounds the number of steps. -/
def scanOnce : ℕ → Text → Option (Json × Text)
  | 0, _ => none
  | n + 1, s =>
      match s with
      | '"' :: rest => do
          let (t, rest) ← scanString rest.length rest
          return (.str t, rest)
      | '\x7b' :: rest =>
          match skipBlanks rest with
          | '\x7d' :: rest => some (.obj [], rest)
          | rest => do
              let (members, rest) ← scanMembers n rest
              return (Json.ofMembers members, rest)
      | '[' :: rest =>
          match skipBlanks rest with
          | ']' :: rest => some (.arr [], rest)
          | rest => do
              let (items, rest) ← scanItems n rest
              return (.arr items, rest)
      | s => scanScalar s

/-- The members of an object, from its first key on. -/
def scanMembers : ℕ → Text → Option (List (Text × Json) × Text)
  | 0, _ => none
  | n + 1, s =>
      match s with
      | '"' :: rest => do
          let (key, rest) ← scanString rest.length rest
          match skipBlanks rest with
          | ':' :: rest => do
              let (value, rest) ← scanOnce n (skipBlanks rest)
              match skipBlanks rest with
              | ',' :: rest => do
                  let (members, rest) ← scanMembers n (skipBlanks rest)
                  return ((key, value) :: members, rest)
              | '\x7d' :: rest => return ([(key, value)], rest)
              | _ => none
          | _ => none
      | _ => none

/-- The items of an array, from the first one on. -/
def scanItems : ℕ → Text → Option (List Json × Text)
  | 0, _ => none
  | n + 1, s => do
      let (value, rest) ← scanOnce n s
      match skipBlanks rest with
      | ',' :: rest => do
          let (items, rest) ← scanItems n (skipBlanks rest)
          return (value :: items, rest)
      | ']' :: rest => return ([value], rest)
      | _ => none

end

/-- `json.loads(s)`. -/
def loads (s : Text) : Except PyError Json :=
  match scanOnce (s.length + 1) (skipBlanks s) with
  | some (v, rest) => if skipBlanks rest = [] then .ok v else .error (.valueError "Extra data".toList)
  | none => .error (.valueError "Expecting value".toList)

end VirtualPhone
