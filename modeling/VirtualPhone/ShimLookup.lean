import VirtualPhone.Runtime.JsonSyntax
import VirtualPhone.ShimScan

/-! # Looking up a member (`json_find_key`)

`json_find_key` goes once over a text and keeps a depth and whether it is inside a string.  A string at
depth 1 is taken for the key when the name fits and a colon follows.

On the text of an object this finds the first member with the name, and nothing else
(`jsonFindKey_object`): below the outermost level the depth is not 1, and no colon follows the string
that is the value of a member. -/

namespace VirtualPhone

open Runtime Runtime.JsonSyntax

/-! ### Texts that are passed over -/

/-- A text without bearing on the search at this depth. -/
def PassesAt (key : Text) (depth : ℤ) (t : Text) : Prop :=
  ∀ rest, jsonFindKeyFrom key none depth false (t ++ rest) = jsonFindKeyFrom key none depth false rest

namespace PassesAt

variable {key : Text} {depth : ℤ}

theorem nil : PassesAt key depth [] := fun _ => rfl

theorem append {t u : Text} (ht : PassesAt key depth t) (hu : PassesAt key depth u) :
    PassesAt key depth (t ++ u) := fun rest => by
  rw [List.append_assoc, ht, hu]

theorem neutral {t : Text} (h : ∀ c ∈ t, c ∉ ['"', '\\', '\x7b', '\x7d', '[', ']']) : PassesAt key depth t := by
  intro rest
  have hneutral : Neutral t := fun c hc => by
    have := h c hc
    simp only [List.mem_cons, List.not_mem_nil, or_false, not_or] at this
    tauto
  have hquotes : NoQuotes t := fun c hc => by
    have := h c hc
    simp only [List.mem_cons, List.not_mem_nil, or_false, not_or] at this
    tauto
  rw [jsonFindKeyFrom_neutral hneutral, jsonFindKeyFrom_prev (hquotes.lastOr_ne (by decide))]

theorem blank {t : Text} (h : Blank t) : PassesAt key depth t := by
  refine neutral fun c hc hmem => ?_
  have hnone : ∀ d ∈ ['"', '\\', '\x7b', '\x7d', '[', ']'], isBlank d = false :=
    forall_mem_of_all (by decide)
  exact absurd (hnone c hmem) (by simp [h c hc])

theorem scalar {t : Text} (h : Scalar t) : PassesAt key depth t := by
  refine neutral fun c hc hmem => ?_
  have hall : ∀ d ∈ ['"', '\\', '\x7b', '\x7d', '[', ']'], isSpecial d = true :=
    forall_mem_of_all (by decide)
  exact absurd (hall c hmem) (by simp [(h.2 c hc).2])

theorem comma : PassesAt key depth [','] := neutral (forall_mem_of_all (by decide))

theorem colon : PassesAt key depth [':'] := neutral (forall_mem_of_all (by decide))

/-- A string below the outermost level is passed over, whatever follows it. -/
theorem string {s : Text} (h : Plain s) (hdepth : depth ≠ 1) : PassesAt key depth (JsonSyntax.string s) := by
  intro rest
  have hquoted : JsonSyntax.string s = quoted s := rfl
  rw [hquoted, jsonFindKeyFrom_quoted h (by decide) fun hone => absurd hone hdepth,
    jsonFindKeyFrom_prev (by decide)]

theorem brackets {t : Text} (h : PassesAt key (depth + 1) t) : PassesAt key depth ('[' :: (t ++ [']'])) := by
  intro rest
  have hopen : jsonFindKeyFrom key none depth false ('[' :: (t ++ [']']) ++ rest) =
      jsonFindKeyFrom key (some '[') (depth + 1) false (t ++ (']' :: rest)) := by
    simp [jsonFindKeyFrom]
  have hclose : jsonFindKeyFrom key none (depth + 1) false (']' :: rest) =
      jsonFindKeyFrom key (some ']') (depth + 1 - 1) false rest := by
    simp [jsonFindKeyFrom]
  rw [hopen, jsonFindKeyFrom_prev (by decide), h, hclose, jsonFindKeyFrom_prev (by decide),
    Int.add_sub_cancel]

theorem braces {t : Text} (h : PassesAt key (depth + 1) t) :
    PassesAt key depth ('\x7b' :: (t ++ ['\x7d'])) := by
  intro rest
  have hopen : jsonFindKeyFrom key none depth false ('\x7b' :: (t ++ ['\x7d']) ++ rest) =
      jsonFindKeyFrom key (some '\x7b') (depth + 1) false (t ++ ('\x7d' :: rest)) := by
    simp [jsonFindKeyFrom]
  have hclose : jsonFindKeyFrom key none (depth + 1) false ('\x7d' :: rest) =
      jsonFindKeyFrom key (some '\x7d') (depth + 1 - 1) false rest := by
    simp [jsonFindKeyFrom]
  rw [hopen, jsonFindKeyFrom_prev (by decide), h, hclose, jsonFindKeyFrom_prev (by decide),
    Int.add_sub_cancel]

theorem listed {b : Text} (hb : Blank b) {items : List Text} (h : ∀ t ∈ items, PassesAt key depth t) :
    PassesAt key depth (JsonSyntax.listed b items) := by
  have hmore : ∀ ts : List Text, (∀ t ∈ ts, PassesAt key depth t) →
      PassesAt key depth (ts.flatMap (',' :: ·)) := by
    intro ts hts
    induction ts with
    | nil => exact nil
    | cons t ts ih =>
        rw [List.flatMap_cons]
        exact (comma.append (hts t List.mem_cons_self)).append
          (ih fun u hu => hts u (List.mem_cons_of_mem t hu))
  cases items with
  | nil => exact blank hb
  | cons t ts => exact (h t List.mem_cons_self).append (hmore ts fun u hu => h u (List.mem_cons_of_mem t hu))

theorem member {m : Member} (h : m.Spaced) (hdepth : depth ≠ 1) (hvalue : PassesAt key depth m.value) :
    PassesAt key depth m.text :=
  (blank h.before).append ((string h.name hdepth).append ((blank h.gap).append
    (colon.append ((blank h.colonGap).append (hvalue.append (blank h.after))))))

/-- **A value is passed over**, at the outermost level of an object unless it is a string. -/
theorem value {t : Text} (h : Value t) (hdepth : 1 ≤ depth)
    (hstring : depth = 1 → t.head? ≠ some '"') : PassesAt key depth t := by
  induction h generalizing depth with
  | scalar h => exact scalar h
  | string h => exact string h fun hone => hstring hone rfl
  | array hblank hes _ ih =>
      refine brackets (listed hblank fun t ht => ?_)
      obtain ⟨e, he, rfl⟩ := List.mem_map.mp ht
      exact (blank (hes e he).1).append
        ((ih e he (by omega) fun hone => absurd hone (by omega)).append (blank (hes e he).2))
  | object hblank hms _ ih =>
      refine braces (listed hblank fun t ht => ?_)
      obtain ⟨m, hm, rfl⟩ := List.mem_map.mp ht
      exact member (hms m hm) (by omega) (ih m hm (by omega) fun hone => absurd hone (by omega))

end PassesAt

/-! ### The members of an object -/

theorem noColon_blank {b : Text} (hb : Blank b) {c : Char} (hc : isBlank c = false ∧ c ≠ ':') (rest : Text) :
    NoColon (b ++ c :: rest) := noColon_spaces hb hc rest

theorem jsonFindKeyFrom_value {key t : Text} (hkey : '"' ∉ key) (h : Value t) {rest : Text}
    (hrest : NoColon rest) :
    jsonFindKeyFrom key none 1 false (t ++ rest) = jsonFindKeyFrom key none 1 false rest := by
  by_cases hhead : t.head? = some '"'
  · obtain ⟨s, hs, rfl⟩ := h.eq_string hhead
    have hquoted : JsonSyntax.string s = quoted s := rfl
    rw [hquoted, jsonFindKeyFrom_quoted hs (by decide)
      fun _ => jsonKeyValue_noColon hkey (fun hq => (hs _ hq).1 rfl) hrest, jsonFindKeyFrom_prev (by decide)]
  · exact PassesAt.value h (by omega) (fun _ => hhead) rest

/-- **One member**: its value when it has the name, and otherwise what the rest says. -/
theorem jsonFindKeyFrom_member {key : Text} (hkey : '"' ∉ key) {m : Member} (hm : m.Spaced)
    (hvalue : Value m.value) {c : Char} (hc : isBlank c = false ∧ c ≠ ':') (rest : Text) :
    jsonFindKeyFrom key none 1 false (m.text ++ c :: rest) =
      if m.name = key then some (m.value ++ (m.after ++ c :: rest))
      else jsonFindKeyFrom key none 1 false (c :: rest) := by
  have hname : '"' ∉ m.name := fun hq => (hm.name _ hq).1 rfl
  have htext : m.text ++ c :: rest = m.before ++ (quoted m.name ++ (m.gap ++ ':' :: (m.colonGap ++
      (m.value ++ (m.after ++ c :: rest))))) := by
    simp [Member.text, JsonSyntax.string, quoted]
  rw [htext, PassesAt.blank hm.before]
  split
  · next heq =>
      obtain ⟨d, t, hd, hblank⟩ := hvalue.head
      have hopen : quoted m.name ++ (m.gap ++ ':' :: (m.colonGap ++ (m.value ++ (m.after ++ c :: rest)))) =
          '"' :: (m.name ++ '"' :: (m.gap ++ ':' :: (m.colonGap ++ d :: (t ++ (m.after ++ c :: rest))))) := by
        simp [quoted, hd]
      rw [hopen, jsonFindKeyFrom, if_pos ⟨rfl, by decide⟩, if_neg (by decide), if_pos rfl, ← heq,
        jsonKeyValue_gaps m.name hm.gap hm.colonGap hblank, hd]
      rfl
  · next hne =>
      rw [jsonFindKeyFrom_quoted hm.name (by decide)
        fun _ => jsonKeyValue_other hkey hname (fun heq => hne heq.symm) _, jsonFindKeyFrom_prev (by decide),
        PassesAt.blank hm.gap, ← List.singleton_append, PassesAt.colon, PassesAt.blank hm.colonGap,
        jsonFindKeyFrom_value hkey hvalue (noColon_blank hm.after hc rest), PassesAt.blank hm.after]

theorem jsonFindKeyFrom_members {key : Text} (hkey : '"' ∉ key) {ms : List Member}
    (hms : ∀ m ∈ ms, m.Spaced) (hvalues : ∀ m ∈ ms, Value m.value) (rest : Text) :
    jsonFindKeyFrom key none 1 false ((ms.map Member.text).flatMap (',' :: ·) ++ '\x7d' :: rest) =
      (valueFrom key ('\x7d' :: rest) ms).or (jsonFindKeyFrom key none 1 false ('\x7d' :: rest)) := by
  induction ms with
  | nil => rfl
  | cons m ms ih =>
      have ih := ih (fun n hn => hms n (List.mem_cons_of_mem m hn))
        fun n hn => hvalues n (List.mem_cons_of_mem m hn)
      obtain ⟨c, behind, hbehind, hc⟩ : ∃ c behind,
          (ms.map Member.text).flatMap (',' :: ·) ++ '\x7d' :: rest = c :: behind ∧
            (isBlank c = false ∧ c ≠ ':') := by
        cases ms with
        | nil => exact ⟨_, _, rfl, by decide⟩
        | cons n ms => exact ⟨_, _, rfl, by decide⟩
      have htext : ((m :: ms).map Member.text).flatMap (',' :: ·) ++ '\x7d' :: rest =
          [','] ++ (m.text ++ c :: behind) := by
        rw [← hbehind]
        simp
      rw [htext, PassesAt.comma, jsonFindKeyFrom_member hkey (hms m List.mem_cons_self)
        (hvalues m List.mem_cons_self) hc, valueFrom, ← hbehind]
      split
      · rfl
      · exact ih

theorem jsonFindKeyFrom_unquoted {t : Text} (h : '"' ∉ t) (key : Text) (prev : Option Char) (depth : ℤ) :
    jsonFindKeyFrom key prev depth false t = none := by
  induction t generalizing prev depth with
  | nil => rfl
  | cons c t ih =>
      rw [List.mem_cons, not_or] at h
      rw [jsonFindKeyFrom, if_neg fun hquote => h.1 hquote.1.symm, if_neg (by decide), ih h.2, ih h.2, ih h.2,
        ite_self, ite_self]

/-! ### Objects -/

theorem jsonFindKeyFrom_object {key : Text} (hkey : '"' ∉ key) (o : Object) (rest : Text) :
    jsonFindKeyFrom key none 1 false (listed o.blank (o.members.map Member.text) ++ '\x7d' :: rest) =
      (valueFrom key ('\x7d' :: rest) o.members).or
        (jsonFindKeyFrom key none 1 false ('\x7d' :: rest)) := by
  have hspaced := o.spaced
  have hvalues := o.values
  cases hms : o.members with
  | nil => exact PassesAt.blank o.blank_blank _
  | cons m ms =>
      rw [hms] at hspaced hvalues
      have hmembers := jsonFindKeyFrom_members hkey hspaced hvalues rest
      -- the first member has no comma before it
      have hcomma := @PassesAt.comma key 1
        (listed o.blank ((m :: ms).map Member.text) ++ '\x7d' :: rest)
      rw [← hcomma]
      exact hmembers

theorem jsonFindKey_eq_valueOf (o : Object) (n : ℕ) {key : Text} (hkey : '"' ∉ key) :
    jsonFindKey (o.text ++ List.replicate n '\x7d') key = o.valueOf key (List.replicate n '\x7d') := by
  have hquotes : '"' ∉ o.trail ++ List.replicate n '\x7d' := by
    intro hmem
    rcases List.mem_append.mp hmem with htrail | hbraces
    · exact absurd (o.trail_blank _ htrail) (by decide)
    · exact absurd (List.eq_of_mem_replicate hbraces) (by decide)
  have hlead : jsonFindKeyFrom key none 0 false (o.text ++ List.replicate n '\x7d') =
      jsonFindKeyFrom key (some '\x7b') 1 false (listed o.blank (o.members.map Member.text) ++
        '\x7d' :: (o.trail ++ List.replicate n '\x7d')) := by
    have happ : o.text ++ List.replicate n '\x7d' = o.lead ++ '\x7b' :: (listed o.blank
        (o.members.map Member.text) ++ '\x7d' :: (o.trail ++ List.replicate n '\x7d')) := by
      simp [Object.text]
    rw [happ, PassesAt.blank o.lead_blank]
    simp [jsonFindKeyFrom]
  have hclose : jsonFindKeyFrom key none 1 false ('\x7d' :: (o.trail ++ List.replicate n '\x7d')) = none :=
    jsonFindKeyFrom_unquoted (by simpa using hquotes) key none 1
  rw [jsonFindKey, hlead, jsonFindKeyFrom_prev (by decide), jsonFindKeyFrom_object hkey, hclose,
    Option.or_none]
  rfl

/-- **The value of the first member with the name is found, and nothing else**: a place in the text,
unless no member has the name. -/
theorem jsonFindKey_object (o : Object) (n : ℕ) {key : Text} (hkey : '"' ∉ key) :
    jsonFindKey (o.text ++ List.replicate n '\x7d') key = o.valueOf key (List.replicate n '\x7d') ∧
      (o.valueOf key (List.replicate n '\x7d') = none ↔ ∀ m ∈ o.members, m.name ≠ key) ∧
      ∀ value, o.valueOf key (List.replicate n '\x7d') = some value →
        value <:+ o.text ++ List.replicate n '\x7d' :=
  ⟨jsonFindKey_eq_valueOf o n hkey, o.valueOf_eq_none_iff key _, fun _ h => o.valueOf_suffix key _ h⟩

/-- The member of an object in an object. -/
def nestedMember : Member := ⟨[], "key".toList, [], [], "1".toList, []⟩

/-- A member with an object that has the name, a member with the name for its value, and two members
with the name. -/
def nestedObject : Object where
  lead := [' ']
  blank := []
  trail := ['\n']
  members := [
    ⟨[' '], "a".toList, [], [' '], '\x7b' :: (listed [] ([nestedMember].map Member.text) ++ ['\x7d']), []⟩,
    ⟨[' '], "b".toList, [], [], JsonSyntax.string "key".toList, [' ']⟩,
    ⟨[], "key".toList, [' '], [], "2".toList, []⟩,
    ⟨[], "key".toList, [], [], "3".toList, []⟩]
  lead_blank := by decide
  blank_blank := by decide
  trail_blank := by decide
  spaced := forall_mem_of_all (by decide)
  values := by
    have hnested : ∀ m ∈ [nestedMember], Value m.value := by
      rw [List.forall_mem_singleton]
      exact Value.scalar (by decide)
    simp only [List.forall_mem_cons]
    exact ⟨Value.object (by decide) (forall_mem_of_all (by decide)) hnested, Value.string (by decide), Value.scalar (by decide),
      Value.scalar (by decide), List.forall_mem_nil _⟩

/-- The value of the third member is found. -/
theorem jsonFindKey_object_nested :
    let json := nestedObject.text ++ "\x7d\x7d".toList
    jsonFindKey json "key".toList = nestedObject.valueOf "key".toList "\x7d\x7d".toList ∧
      (nestedObject.valueOf "key".toList "\x7d\x7d".toList = none ↔
        ∀ m ∈ nestedObject.members, m.name ≠ "key".toList) ∧
      ∀ value, nestedObject.valueOf "key".toList "\x7d\x7d".toList = some value → value <:+ json :=
  jsonFindKey_object nestedObject 2 (by decide)

end VirtualPhone
