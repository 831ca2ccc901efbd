import VirtualPhone.MultipartSms
import Mathlib.Data.List.Sort
import Mathlib.Data.List.Nodup

/-! # Reassembling multipart messages (`ims/sms_pdu.py`)

`reassembleMultipart` sorts the parts of a message by their numbers, compares how many there are with
the total that the first of them carries, and joins their texts.

`reassembleMultipart_eq_some_iff` says what it accepts: the parts `1` to `n`, each once, if part `1`
carries the total `n`.  Two results follow:

* `split_reassembled`: what `splitMultipart` made of a text is put together again, in whatever order the
  parts arrive;
* `reassembles_iff`: complete and consistent sets are all that is accepted, and are accepted, but for
  two kinds of lists.  A part that arrives twice stands in the way of the message it belongs to, and a
  part of another message is taken for one of this if its number fits. -/

namespace VirtualPhone

open Runtime

/-- A part: its number, the number of parts, and its text. -/
abbrev SmsPart := ℤ × ℤ × Text

/-- `reassemble_multipart(parts)`. -/
def reassembleMultipart (parts : List SmsPart) : Option Text :=
  let sortedParts := parts.insertionSort fun p q => p.1 ≤ q.1
  match sortedParts with
  | [] => none
  | (_, total, _) :: _ =>
      if (sortedParts.length : ℤ) ≠ total then none
      else if (sortedParts.zipIdx 1).any fun x => decide (x.1.1 ≠ x.2) then none
      else some (sortedParts.flatMap fun p => p.2.2)

/-! ### Part numbers and texts -/

/-- The numbers of `n` parts. -/
def partNumbers (n : ℕ) : List ℤ := (List.range' 1 n).map Nat.cast

/-- The text of the part with number `i`. -/
def textOf (parts : List SmsPart) (i : ℤ) : Text :=
  ((parts.find? fun p => decide (p.1 = i)).map fun p => p.2.2).getD []

/-- The texts of the parts `1` to `n`, in this order. -/
def joined (parts : List SmsPart) (n : ℕ) : Text := (partNumbers n).flatMap (textOf parts)

theorem mem_partNumbers {n : ℕ} {i : ℤ} : i ∈ partNumbers n ↔ 1 ≤ i ∧ i ≤ n := by
  rw [partNumbers, List.mem_map]
  constructor
  · rintro ⟨k, hk, rfl⟩
    have := List.mem_range'_1.mp hk
    omega
  · rintro ⟨h₁, hn⟩
    exact ⟨i.toNat, List.mem_range'_1.mpr (by omega), by omega⟩

theorem partNumbers_pairwise (n : ℕ) : (partNumbers n).Pairwise (· < ·) := by
  have hlt : (List.range' 1 n).Pairwise (· < ·) := List.pairwise_lt_range'
  refine List.pairwise_map.mpr ?_
  exact hlt.imp fun h => by exact_mod_cast h

theorem partNumbers_length (n : ℕ) : (partNumbers n).length = n := by
  rw [partNumbers, List.length_map, List.length_range']

theorem zipIdx_any_iff (l : List SmsPart) (k : ℕ) :
    (l.zipIdx k).any (fun x => decide (x.1.1 ≠ x.2)) = false ↔
      l.map Prod.fst = (List.range' k l.length).map Nat.cast := by
  induction l generalizing k with
  | nil => simp
  | cons p l ih =>
      rw [List.zipIdx_cons, List.any_cons, Bool.or_eq_false_iff, ih, decide_eq_false_iff_not, not_not,
        List.length_cons, List.range'_succ, List.map_cons, List.map_cons, List.cons.injEq]

/-- No two parts disagree on the text of a part. -/
def TextsAgree (parts : List SmsPart) : Prop :=
  ∀ p ∈ parts, ∀ q ∈ parts, p.1 = q.1 → p.2.2 = q.2.2

theorem textOf_of_mem {parts : List SmsPart} (h : TextsAgree parts) {p : SmsPart} (hp : p ∈ parts) :
    textOf parts p.1 = p.2.2 := by
  obtain ⟨q, hq⟩ : ∃ q, (parts.find? fun q => decide (q.1 = p.1)) = some q := by
    refine Option.isSome_iff_exists.mp (List.find?_isSome.mpr ⟨p, hp, decide_eq_true rfl⟩)
  have hnumber : q.1 = p.1 := by simpa using List.find?_some hq
  rw [textOf, hq, Option.map_some, Option.getD_some]
  exact h q (List.mem_of_find?_eq_some hq) p hp hnumber

theorem textsAgree_of_nodup {parts : List SmsPart} (h : (parts.map Prod.fst).Nodup) :
    TextsAgree parts := fun p hp q hq heq => by
  rw [List.inj_on_of_nodup_map h hp hq heq]

/-! ### What is accepted -/

section

variable {parts : List SmsPart} {text : Text}

theorem sorted_eq_iff (n : ℕ) :
    (parts.insertionSort fun p q => p.1 ≤ q.1).map Prod.fst = partNumbers n ↔
      (parts.map Prod.fst).Perm (partNumbers n) := by
  have hsorted : (parts.insertionSort fun p q => p.1 ≤ q.1).map Prod.fst =
      (parts.map Prod.fst).insertionSort (· ≤ ·) :=
    List.map_insertionSort _ _ _ _ fun _ _ _ _ => Iff.rfl
  rw [hsorted]
  constructor
  · intro h
    exact h ▸ (List.perm_insertionSort _ _).symm
  · intro h
    exact ((List.perm_insertionSort _ _).trans h).eq_of_sortedLE List.sortedLE_insertionSort
      (partNumbers_pairwise n).sortedLT.sortedLE

theorem flatMap_eq_joined {sorted : List SmsPart} {n : ℕ} (hperm : sorted.Perm parts)
    (hnumbers : sorted.map Prod.fst = partNumbers n) :
    sorted.flatMap (fun p => p.2.2) = joined parts n := by
  have hnodup : (parts.map Prod.fst).Nodup := by
    rw [← (hperm.map Prod.fst).nodup_iff, hnumbers]
    exact (partNumbers_pairwise n).nodup
  rw [joined, ← hnumbers, List.flatMap_map]
  refine List.flatMap_congr fun p hp => ?_
  exact (textOf_of_mem (textsAgree_of_nodup hnodup) (hperm.mem_iff.mp hp)).symm

/-- **What is accepted**: the parts `1` to `n`, each once, with the total `n` in part `1`. -/
theorem reassembleMultipart_eq_some_iff :
    reassembleMultipart parts = some text ↔ ∃ n : ℕ, (parts.map Prod.fst).Perm (partNumbers n) ∧
      (∃ p ∈ parts, p.1 = 1 ∧ p.2.1 = n) ∧ text = joined parts n := by
  have hperm : (parts.insertionSort fun p q => p.1 ≤ q.1).Perm parts := List.perm_insertionSort _ _
  have hsorted := @sorted_eq_iff parts
  unfold reassembleMultipart
  revert hperm hsorted
  generalize (parts.insertionSort fun p q => p.1 ≤ q.1) = sorted
  intro hperm hsorted
  match sorted with
  | [] =>
      refine ⟨nofun, ?_⟩
      rintro ⟨n, -, ⟨p, hp, -⟩, -⟩
      cases hperm.mem_iff.mpr hp
  | (number, total, body) :: rest =>
      have hmem : (number, total, body) ∈ parts := hperm.mem_iff.mp List.mem_cons_self
      constructor
      · intro h
        dsimp only at h
        split_ifs at h with hlength hnumbers
        rw [Bool.not_eq_true, zipIdx_any_iff] at hnumbers
        obtain rfl := Option.some.inj h
        have hfirst : number = 1 := by
          rw [List.length_cons, List.range'_succ] at hnumbers
          exact (List.cons.inj hnumbers).1
        exact ⟨_, (hsorted _).mp hnumbers, ⟨_, hmem, hfirst, (not_not.mp hlength).symm⟩,
          flatMap_eq_joined hperm hnumbers⟩
      · rintro ⟨n, hparts, ⟨p, hp, hone, htotal⟩, rfl⟩
        have hnumbers := (hsorted n).mpr hparts
        have hn : ((number, total, body) :: rest).length = n := by
          rw [← List.length_map Prod.fst, hnumbers, partNumbers_length]
        obtain ⟨m, rfl⟩ : ∃ m, n = m + 1 := ⟨rest.length, by rw [← hn, List.length_cons]⟩
        have hfirst : number = 1 := by
          rw [partNumbers, List.range'_succ] at hnumbers
          exact (List.cons.inj hnumbers).1
        have hnodup : (parts.map Prod.fst).Nodup :=
          hparts.nodup_iff.mpr (partNumbers_pairwise _).nodup
        obtain rfl : p = (number, total, body) :=
          List.inj_on_of_nodup_map hnodup hp hmem (hone.trans hfirst.symm)
        dsimp only at htotal ⊢
        rw [if_neg (by rw [hn, htotal, not_not]), if_neg, flatMap_eq_joined hperm hnumbers]
        rw [Bool.not_eq_true, zipIdx_any_iff, hn]
        exact hnumbers

end

/-! ### Complete messages -/

/-- All parts of a message with `total` parts, some perhaps more than once: they carry the same total,
every number up to it occurs, no other does, and no two disagree on a text. -/
structure CompleteParts (parts : List SmsPart) (total : ℤ) : Prop where
  nonempty : parts ≠ []
  totals : ∀ p ∈ parts, p.2.1 = total
  present : ∀ i, 1 ≤ i → i ≤ total → ∃ p ∈ parts, p.1 = i
  range : ∀ p ∈ parts, 1 ≤ p.1 ∧ p.1 ≤ total
  consistent : TextsAgree parts

/-- What is reassembled is a complete message, and its text. -/
def ReassembledRight (parts : List SmsPart) : Prop :=
  ∀ text, reassembleMultipart parts = some text ↔
    ∃ total, CompleteParts parts total ∧ text = joined parts total.toNat

/-- A complete message with a part that arrived twice. -/
def Retransmitted (parts : List SmsPart) : Prop :=
  (∃ total, CompleteParts parts total) ∧ ¬(parts.map Prod.fst).Nodup

/-- The parts `1` to `n`, each once, where part `1` carries the total `n` and another part a different
one. -/
def MixedUp (parts : List SmsPart) : Prop :=
  ∃ n : ℕ, (parts.map Prod.fst).Perm (partNumbers n) ∧ (∃ p ∈ parts, p.1 = 1 ∧ p.2.1 = n) ∧
    ∃ p ∈ parts, p.2.1 ≠ n

section

variable {parts : List SmsPart} {total : ℤ} {n : ℕ}

theorem CompleteParts.perm (h : CompleteParts parts total) (hnodup : (parts.map Prod.fst).Nodup) :
    (parts.map Prod.fst).Perm (partNumbers total.toNat) ∧
      ∃ p ∈ parts, p.1 = 1 ∧ p.2.1 = (total.toNat : ℤ) := by
  obtain ⟨q, hq⟩ := List.exists_mem_of_ne_nil _ h.nonempty
  have hpos := h.range q hq
  constructor
  · refine (List.perm_ext_iff_of_nodup hnodup (partNumbers_pairwise _).nodup).mpr fun i => ?_
    rw [mem_partNumbers, List.mem_map]
    constructor
    · rintro ⟨p, hp, rfl⟩
      have := h.range p hp
      omega
    · rintro ⟨h₁, hn⟩
      obtain ⟨p, hp, rfl⟩ := h.present i h₁ (by omega)
      exact ⟨p, hp, rfl⟩
  · obtain ⟨p, hp, hone⟩ := h.present 1 (le_refl _) (by omega)
    exact ⟨p, hp, hone, by rw [h.totals p hp]; omega⟩

theorem completeParts_of_perm (hperm : (parts.map Prod.fst).Perm (partNumbers n)) (hpos : parts ≠ [])
    (htotals : ∀ p ∈ parts, p.2.1 = (n : ℤ)) : CompleteParts parts n := by
  have hmem : ∀ i : ℤ, (∃ p ∈ parts, p.1 = i) ↔ 1 ≤ i ∧ i ≤ n := by
    intro i
    rw [← mem_partNumbers, ← hperm.mem_iff, List.mem_map]
  refine ⟨hpos, htotals, fun i h₁ hn => (hmem i).mpr ⟨h₁, hn⟩, fun p hp => (hmem p.1).mp ⟨p, hp, rfl⟩, ?_⟩
  exact textsAgree_of_nodup (hperm.nodup_iff.mpr (partNumbers_pairwise n).nodup)

end

/-- **Complete messages.**  Lists of parts, in any order and with any repetitions, are reassembled exactly
when they are complete and consistent, and then to the texts of the parts in order, if and only if no
part of a complete message arrived twice and the numbers are not completed by a part that carries
another total. -/
theorem reassembles_iff (parts : List SmsPart) :
    ReassembledRight parts ↔ ¬Retransmitted parts ∧ ¬MixedUp parts := by
  constructor
  · intro h
    refine ⟨?_, ?_⟩
    · rintro ⟨⟨total, hcomplete⟩, hrepeated⟩
      obtain ⟨n, hperm, -⟩ := reassembleMultipart_eq_some_iff.mp ((h _).mpr ⟨total, hcomplete, rfl⟩)
      exact hrepeated (hperm.nodup_iff.mpr (partNumbers_pairwise n).nodup)
    · rintro ⟨n, hperm, ⟨p, hp, hone, htotal⟩, q, hq, hother⟩
      obtain ⟨total, hcomplete, -⟩ :=
        (h _).mp (reassembleMultipart_eq_some_iff.mpr ⟨n, hperm, ⟨p, hp, hone, htotal⟩, rfl⟩)
      exact hother ((hcomplete.totals q hq).trans ((hcomplete.totals p hp).symm.trans htotal))
  · rintro ⟨honce, hunmixed⟩ text
    rw [reassembleMultipart_eq_some_iff]
    constructor
    · rintro ⟨n, hperm, ⟨p, hp, hone, htotal⟩, rfl⟩
      have htotals : ∀ q ∈ parts, q.2.1 = (n : ℤ) := by
        intro q hq
        by_contra hother
        exact hunmixed ⟨n, hperm, ⟨p, hp, hone, htotal⟩, q, hq, hother⟩
      exact ⟨n, completeParts_of_perm hperm (List.ne_nil_of_mem hp) htotals, rfl⟩
    · rintro ⟨total, hcomplete, rfl⟩
      have hnodup : (parts.map Prod.fst).Nodup := by
        by_contra hrepeated
        exact honce ⟨⟨total, hcomplete⟩, hrepeated⟩
      obtain ⟨hperm, hfirst⟩ := hcomplete.perm hnodup
      exact ⟨total.toNat, hperm, hfirst, rfl⟩

/-- Part two of two arrives twice, and part one between: nothing is reassembled. -/
theorem retransmission_lost :
    ¬ReassembledRight [(2, 2, "b".toList), (1, 2, "a".toList), (2, 2, "b".toList)] := by
  intro h
  have hcomplete : CompleteParts [(2, 2, "b".toList), (1, 2, "a".toList), (2, 2, "b".toList)] 2 := by
    refine ⟨by decide, by decide, fun i h₁ h₂ => ?_, by decide, by unfold TextsAgree; decide⟩
    obtain rfl | rfl : i = 1 ∨ i = 2 := by omega
    · exact ⟨_, List.mem_cons_of_mem _ List.mem_cons_self, rfl⟩
    · exact ⟨_, List.mem_cons_self, rfl⟩
  have hnone : reassembleMultipart [(2, 2, "b".toList), (1, 2, "a".toList), (2, 2, "b".toList)] = none := by
    decide
  have hsome := (h _).mpr ⟨2, hcomplete, rfl⟩
  rw [hnone] at hsome
  cases hsome

/-! ### What was split -/

theorem length_le_of_mem_partTexts {limit passes : ℕ} {text part : Text}
    (h : part ∈ partTexts limit passes text) : part.length ≤ limit := by
  fun_induction partTexts limit passes text with
  | case1 => simp at h
  | case2 => simp at h
  | case3 passes text hne ih =>
      rcases List.mem_cons.mp h with rfl | h
      · exact List.length_take_le _ _
      · exact ih h

/-- The parts of a message, numbered. -/
def numberedParts (texts : List Text) : List SmsPart :=
  texts.mapIdx fun i text => ((i : ℤ) + 1, (texts.length : ℤ), text)

theorem numberedParts_fst (texts : List Text) :
    (numberedParts texts).map Prod.fst = partNumbers texts.length := by
  refine List.ext_getElem (by simp [numberedParts, partNumbers]) fun i h₁ h₂ => ?_
  simp [numberedParts, partNumbers, add_comm]

theorem reassembleMultipart_numbered {texts : List Text} (hne : texts ≠ []) {parts : List SmsPart}
    (hperm : parts.Perm (numberedParts texts)) : reassembleMultipart parts = some texts.flatten := by
  have hnumbers : (parts.map Prod.fst).Perm (partNumbers texts.length) :=
    numberedParts_fst texts ▸ hperm.map Prod.fst
  have hnodup : (parts.map Prod.fst).Nodup := hnumbers.nodup_iff.mpr (partNumbers_pairwise _).nodup
  have hget : ∀ {i : ℕ} (hi : i < texts.length),
      ((i : ℤ) + 1, (texts.length : ℤ), texts[i]) ∈ parts := by
    intro i hi
    refine hperm.mem_iff.mpr (List.mem_iff_getElem.mpr ⟨i, by simpa [numberedParts] using hi, ?_⟩)
    simp [numberedParts]
  refine reassembleMultipart_eq_some_iff.mpr ⟨texts.length, hnumbers, ?_, ?_⟩
  · exact ⟨_, hget (List.length_pos_iff.mpr hne), rfl, rfl⟩
  · have htexts : texts = (partNumbers texts.length).map (textOf parts) := by
      refine List.ext_getElem (by rw [List.length_map, partNumbers_length]) fun i h₁ h₂ => ?_
      have hlt : i < (partNumbers texts.length).length := by rwa [partNumbers_length]
      have hnumber : (partNumbers texts.length)[i] = (i : ℤ) + 1 := by
        simp [partNumbers, add_comm]
      rw [List.getElem_map, hnumber]
      exact (textOf_of_mem (textsAgree_of_nodup hnodup) (hget h₁)).symm
    rw [joined, List.flatMap_def, ← htexts]

/-- **Splitting and reassembling.**  Of a text that is cut into 2 to 255 parts, no part is empty or longer
than the limit, the parts in order are the text, each part carries one reference, the number of parts
and its own number, and the parts are put together to the text again in whatever order they arrive. -/
theorem split_reassembled (concatRef : UInt8) (dest text : Text) (dcs : DataCodingScheme) (msgRef : ℕ)
    (hmany : 2 ≤ (splitMultipart concatRef dest text dcs msgRef).1.length)
    (hparts : (splitMultipart concatRef dest text dcs msgRef).1.length ≤ 255) :
    (∀ p ∈ (splitMultipart concatRef dest text dcs msgRef).1,
      p.text ≠ [] ∧ p.text.length ≤ concatLimit dcs) ∧
    (splitMultipart concatRef dest text dcs msgRef).1.flatMap SMSSubmit.text = text ∧
    (∃ ref, ∀ i p, (splitMultipart concatRef dest text dcs msgRef).1[i]? = some p →
      decodeUdhConcat p.userData =
        some (ref, (splitMultipart concatRef dest text dcs msgRef).1.length, i + 1)) ∧
    ∀ parts : List SmsPart,
      parts.Perm ((splitMultipart concatRef dest text dcs msgRef).1.mapIdx fun i p =>
        ((i : ℤ) + 1, ((splitMultipart concatRef dest text dcs msgRef).1.length : ℤ), p.text)) →
      reassembleMultipart parts = some text := by
  have hlong : ¬text.length ≤ singleLimit dcs := by
    intro hshort
    rw [splitMultipart, if_pos hshort, List.length_singleton] at hmany
    omega
  rw [splitMultipart, if_neg hlong] at hmany hparts ⊢
  dsimp only at hmany hparts ⊢
  have hflatten := flatten_partTexts (concatLimit_pos dcs) (Nat.le_refl text.length)
  have hmem : ∀ part ∈ partTexts (concatLimit dcs) text.length text,
      part ≠ [] ∧ part.length ≤ concatLimit dcs := fun part hpart =>
    ⟨ne_nil_of_mem_partTexts (concatLimit_pos dcs) hpart, length_le_of_mem_partTexts hpart⟩
  generalize partTexts (concatLimit dcs) text.length text = texts at *
  rw [List.length_mapIdx] at hmany hparts ⊢
  have htexts : ∀ f : ℕ → Text → SMSSubmit, (∀ i part, (f i part).text = part) →
      (texts.mapIdx f).map SMSSubmit.text = texts := by
    intro f hf
    refine List.ext_getElem (by simp) fun i h₁ h₂ => ?_
    simp [hf]
  refine ⟨?_, ?_, ⟨concatRef.toNat, ?_⟩, ?_⟩
  · intro p hp
    obtain ⟨i, hi, rfl⟩ := List.mem_mapIdx.mp hp
    exact hmem _ (List.getElem_mem hi)
  · rw [List.flatMap_def, htexts _ fun _ _ => rfl, hflatten]
  · intro i p hp
    rw [List.getElem?_mapIdx] at hp
    obtain ⟨part, hpart, rfl⟩ := Option.map_eq_some_iff.mp hp
    have hi := (List.getElem?_eq_some_iff.mp hpart).1
    exact decodeUdhConcat_encode concatRef.toNat_lt (by omega) (by omega) _
  · intro parts hperm
    rw [List.mapIdx_mapIdx] at hperm
    have hne : texts ≠ [] := by
      rintro rfl
      cases hmany
    rw [← hflatten]
    exact reassembleMultipart_numbered hne hperm

/-- A text of 71 characters in UCS2, whose second part arrives first. -/
theorem split_reassembled_ucs2 :
    reassembleMultipart [(2, 2, List.replicate 4 'A'), (1, 2, List.replicate 67 'A')] =
      some (List.replicate 71 'A') := by
  obtain ⟨-, -, -, h⟩ := split_reassembled 7 "+4917".toList (List.replicate 71 'A') .ucs2 0
    (by decide +kernel) (by decide +kernel)
  exact h _ (by decide +kernel)

end VirtualPhone
