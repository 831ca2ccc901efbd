import VirtualPhone.Runtime.Text

/-! # The syntax of JSON texts

`JsonValue.Written t` says that the characters `t` are a value: a scalar, a string without escapes, an
array or an object, nested to any depth and with white space wherever it is allowed.  A scalar is any run
of characters that mean nothing else, which all numbers and names are.

`JsonObject` is an object with what is written around it; its members come with their own texts, so that
`valueOf` can say where the value of a member begins. -/

namespace Runtime

namespace JsonSyntax

/-! ### Characters -/

/-- White space. -/
def isBlank (c : Char) : Bool := c = ' ' || c = '\t' || c = '\n' || c = '\r'

/-- The characters with a meaning of their own. -/
def isSpecial (c : Char) : Bool := ['"', '\\', '\x7b', '\x7d', '[', ']', ':', ','].contains c

/-- A text of white space. -/
def Blank (t : Text) : Prop := ∀ c ∈ t, isBlank c = true

/-- A number or a name. -/
def Scalar (t : Text) : Prop := t ≠ [] ∧ ∀ c ∈ t, isBlank c = false ∧ isSpecial c = false

/-- The inside of a string without escapes. -/
def Plain (s : Text) : Prop := ∀ c ∈ s, c ≠ '"' ∧ c ≠ '\\'

instance (t : Text) : Decidable (Blank t) := decidable_of_iff (t.all isBlank = true) List.all_eq_true

instance (t : Text) : Decidable (Scalar t) :=
  decidable_of_iff (t ≠ [] ∧ (t.all fun c => !isBlank c && !isSpecial c) = true) (by simp [Scalar])

instance (s : Text) : Decidable (Plain s) :=
  decidable_of_iff ((s.all fun c => c != '"' && c != '\\') = true) (by simp [Plain])

/-! ### Values -/

/-- A string. -/
def string (s : Text) : Text := '"' :: (s ++ ['"'])

/-- An element of an array, between the commas. -/
structure Element where
  before : Text
  value : Text
  after : Text

/-- A member of an object, between the commas. -/
structure Member where
  before : Text
  name : Text
  gap : Text
  colonGap : Text
  value : Text
  after : Text

def Element.text (e : Element) : Text := e.before ++ (e.value ++ e.after)

def Member.text (m : Member) : Text :=
  m.before ++ (string m.name ++ (m.gap ++ ':' :: (m.colonGap ++ (m.value ++ m.after))))

/-- What stands between brackets: the items with commas between them, or white space. -/
def listed (blank : Text) : List Text → Text
  | [] => blank
  | t :: ts => t ++ ts.flatMap (',' :: ·)

/-- The white space around an element. -/
def Element.Spaced (e : Element) : Prop := Blank e.before ∧ Blank e.after

/-- The name of a member is a string, and the rest around its value is white space. -/
structure Member.Spaced (m : Member) : Prop where
  before : Blank m.before
  name : Plain m.name
  gap : Blank m.gap
  colonGap : Blank m.colonGap
  after : Blank m.after

instance (e : Element) : Decidable e.Spaced := inferInstanceAs (Decidable (_ ∧ _))

instance (m : Member) : Decidable m.Spaced :=
  decidable_of_iff (Blank m.before ∧ Plain m.name ∧ Blank m.gap ∧ Blank m.colonGap ∧ Blank m.after)
    ⟨fun ⟨hb, hn, hg, hc, ha⟩ => ⟨hb, hn, hg, hc, ha⟩, fun h => ⟨h.before, h.name, h.gap, h.colonGap, h.after⟩⟩

/-- The texts that are values. -/
inductive Value : Text → Prop
  | scalar {t : Text} (h : Scalar t) : Value t
  | string {s : Text} (h : Plain s) : Value (string s)
  | array {blank : Text} {es : List Element} (hblank : Blank blank) (hes : ∀ e ∈ es, e.Spaced)
      (hvalue : ∀ e ∈ es, Value e.value) :
      Value ('[' :: (listed blank (es.map Element.text) ++ [']']))
  | object {blank : Text} {ms : List Member} (hblank : Blank blank) (hms : ∀ m ∈ ms, m.Spaced)
      (hvalue : ∀ m ∈ ms, Value m.value) :
      Value ('\x7b' :: (listed blank (ms.map Member.text) ++ ['\x7d']))

/-- A value begins with a character that is no white space. -/
theorem Value.head {t : Text} (h : Value t) : ∃ c rest, t = c :: rest ∧ isBlank c = false := by
  cases h with
  | scalar h =>
      obtain ⟨c, rest, rfl⟩ := List.exists_cons_of_ne_nil h.1
      exact ⟨c, rest, rfl, (h.2 c List.mem_cons_self).1⟩
  | string _ => exact ⟨_, _, rfl, by decide⟩
  | array _ _ _ => exact ⟨_, _, rfl, by decide⟩
  | object _ _ _ => exact ⟨_, _, rfl, by decide⟩

/-- A value that begins with a quote is a string. -/
theorem Value.eq_string {t : Text} (h : Value t) (hhead : t.head? = some '"') :
    ∃ s, Plain s ∧ t = JsonSyntax.string s := by
  cases h with
  | scalar h =>
      have hmem : '"' ∈ t := List.mem_of_head? hhead
      exact absurd (h.2 _ hmem).2 (by decide)
  | string h => exact ⟨_, h, rfl⟩
  | array _ _ _ => exact absurd (Option.some.inj hhead) (by decide)
  | object _ _ _ => exact absurd (Option.some.inj hhead) (by decide)

/-! ### Objects -/

/-- An object, with the white space before and behind it. -/
structure Object where
  lead : Text
  blank : Text
  members : List Member
  trail : Text
  lead_blank : Blank lead
  blank_blank : Blank blank
  trail_blank : Blank trail
  spaced : ∀ m ∈ members, m.Spaced
  values : ∀ m ∈ members, Value m.value

namespace Object

def text (o : Object) : Text :=
  o.lead ++ '\x7b' :: (listed o.blank (o.members.map Member.text) ++ '\x7d' :: o.trail)

end Object

/-- The text from the value of the first member with this name on, when `rest` follows the members. -/
def valueFrom (name rest : Text) : List Member → Option Text
  | [] => none
  | m :: ms =>
      if m.name = name then
        some (m.value ++ (m.after ++ ((ms.map Member.text).flatMap (',' :: ·) ++ rest)))
      else valueFrom name rest ms

/-- The text from the value of the first member with this name on, when `rest` follows the object. -/
def Object.valueOf (o : Object) (name rest : Text) : Option Text :=
  valueFrom name ('\x7d' :: (o.trail ++ rest)) o.members

theorem valueFrom_eq_none_iff (name rest : Text) (ms : List Member) :
    valueFrom name rest ms = none ↔ ∀ m ∈ ms, m.name ≠ name := by
  induction ms with
  | nil => simp [valueFrom]
  | cons m ms ih =>
      rw [valueFrom, List.forall_mem_cons]
      split
      · next heq => simp [heq]
      · next hne => rw [ih, and_iff_right hne]

theorem Member.value_suffix (m : Member) (behind : Text) :
    m.value ++ (m.after ++ behind) <:+ m.text ++ behind := by
  refine ⟨m.before ++ (JsonSyntax.string m.name ++ (m.gap ++ ':' :: m.colonGap)), ?_⟩
  simp [text]

theorem valueFrom_suffix {name rest value : Text} {ms : List Member}
    (h : valueFrom name rest ms = some value) :
    value <:+ (ms.map Member.text).flatMap (',' :: ·) ++ rest := by
  induction ms with
  | nil => cases h
  | cons m ms ih =>
      rw [valueFrom] at h
      rw [List.map_cons, List.flatMap_cons, List.append_assoc]
      split at h
      · obtain rfl := Option.some.inj h
        exact (m.value_suffix _).trans (List.suffix_cons _ _)
      · exact (ih h).trans (List.suffix_append _ _)

namespace Object

variable (o : Object) (name rest : Text)

/-- There is no value exactly when there is no member with the name. -/
theorem valueOf_eq_none_iff : o.valueOf name rest = none ↔ ∀ m ∈ o.members, m.name ≠ name :=
  valueFrom_eq_none_iff _ _ _

/-- Where a value begins is a place in the text. -/
theorem valueOf_suffix {value : Text} (h : o.valueOf name rest = some value) : value <:+ o.text ++ rest := by
  have hlisted : value <:+ listed o.blank (o.members.map Member.text) ++ '\x7d' :: (o.trail ++ rest) := by
    unfold valueOf at h
    cases hms : o.members with
    | nil =>
        rw [hms] at h
        cases h
    | cons m ms =>
        rw [hms, valueFrom] at h
        rw [List.map_cons, listed, List.append_assoc]
        split at h
        · obtain rfl := Option.some.inj h
          exact m.value_suffix _
        · exact (valueFrom_suffix h).trans (List.suffix_append _ _)
  refine hlisted.trans ⟨o.lead ++ ['\x7b'], ?_⟩
  simp [text]

end Object

end JsonSyntax

end Runtime
