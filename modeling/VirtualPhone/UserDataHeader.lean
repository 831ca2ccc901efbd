import VirtualPhone.MultipartSms
import VirtualPhone.SmsLengths
import Mathlib.Logic.Relation

/-! # The elements of a user-data header (`ims/sms_pdu.py`)

A user-data header is its length and a list of information elements, each an identifier, a length and
data.  `decodeUdhConcat` walks over them until it finds the numbering of a multipart message.

`udh_elements` is about headers that are well formed: the first element with a numbering counts, the
others are skipped, and the text behind the header plays no part.  `udh_confined_iff` is about all
headers: the text behind them plays a part if and only if the walk comes to an element that is a
numbering, starts in the header, and ends in the text. -/

namespace VirtualPhone

open Runtime

/-! ### One element -/

/-- The numbering in an information element, if it is one with an 8-bit or a 16-bit reference. -/
def concatElement (iei : ℕ) (data : List ℕ) : Option (ℕ × ℕ × ℕ) :=
  match iei, data with
  | 0x00, [ref, total, part] => some (ref, total, part)
  | 0x08, [high, low, total, part] => some (256 * high + low, total, part)
  | _, _ => none

/-- The octets of an information element. -/
def elementOctets (e : UInt8 × Bytes) : Bytes := e.1 :: UInt8.ofNat e.2.length :: e.2

/-- The octets from `i` on, `n` of them. -/
def octetsAt (udh : Bytes) (i n : ℕ) : List ℕ := (List.range n).map fun k => octetAt udh (i + k)

/-- The numbering in the element at `offset`. -/
def concatAt (udh : Bytes) (offset : ℕ) : Option (ℕ × ℕ × ℕ) :=
  concatElement (octetAt udh offset) (octetsAt udh (offset + 2) (octetAt udh (offset + 1)))

/-- The end of the element at `offset`. -/
def elementEnd (udh : Bytes) (offset : ℕ) : ℕ := offset + 2 + octetAt udh (offset + 1)

theorem octetAt_lt (d : Bytes) (i : ℕ) : octetAt d i < 256 := UInt8.toNat_lt _

theorem concatElement_eq_none {iei : ℕ} {data : List ℕ} (h8 : ¬(iei = 0x00 ∧ data.length = 3))
    (h16 : ¬(iei = 0x08 ∧ data.length = 4)) : concatElement iei data = none := by
  unfold concatElement
  split
  · exact absurd ⟨rfl, rfl⟩ h8
  · exact absurd ⟨rfl, rfl⟩ h16
  · rfl

theorem decodeUdhLoop_end {udh : Bytes} {stop offset : ℕ} (h : stop ≤ offset) :
    decodeUdhLoop udh stop offset = none := by
  rw [decodeUdhLoop, if_neg (Nat.not_lt.mpr h)]

/-- **One pass of the loop.** -/
theorem decodeUdhLoop_pass {udh : Bytes} {stop offset : ℕ} (h : offset < stop) :
    decodeUdhLoop udh stop offset =
      if udh.length < elementEnd udh offset then none
      else (concatAt udh offset).or (decodeUdhLoop udh stop (elementEnd udh offset)) := by
  conv_lhs => rw [decodeUdhLoop, if_pos h]
  have hend : elementEnd udh offset = offset + 2 + (udh.getD (offset + 1) 0).toNat := rfl
  have hlength : ∀ n, (octetsAt udh (offset + 2) n).length = n := fun n => by
    rw [octetsAt, List.length_map, List.length_range]
  dsimp only
  rw [← hend]
  by_cases hshort : udh.length < elementEnd udh offset
  · rw [if_pos hshort, if_pos hshort, ite_self]
  · rw [if_neg hshort, if_neg hshort, if_neg (by omega)]
    split_ifs with h8 h16
    · have hconcat : concatAt udh offset = concatElement 0x00 (octetsAt udh (offset + 2) 3) := by
        rw [concatAt, show octetAt udh offset = 0x00 from h8.1, show octetAt udh (offset + 1) = 3 from h8.2]
      rw [hconcat]
      rfl
    · have hconcat : concatAt udh offset = concatElement 0x08 (octetsAt udh (offset + 2) 4) := by
        rw [concatAt, show octetAt udh offset = 0x08 from h16.1,
          show octetAt udh (offset + 1) = 4 from h16.2]
      have href : octetAt udh (offset + 2) <<< 8 ||| octetAt udh (offset + 3) =
          256 * octetAt udh (offset + 2) + octetAt udh (offset + 3) := by
        rw [Nat.or_comm, or_shiftLeft_eq_add (c := 8) (octetAt_lt udh (offset + 3))]
        exact Nat.add_comm _ _
      change some (octetAt udh (offset + 2) <<< 8 ||| octetAt udh (offset + 3), _, _) = _
      rw [hconcat, href]
      rfl
    · have hconcat : concatAt udh offset = none :=
        concatElement_eq_none (by rwa [hlength]) (by rwa [hlength])
      rw [hconcat, Option.none_or]

/-! ### Well-formed headers -/

/-- What the elements say in order: the first numbering. -/
def firstConcat (elements : List (UInt8 × Bytes)) : Option (ℕ × ℕ × ℕ) :=
  elements.findSome? fun e => concatElement e.1.toNat (e.2.map UInt8.toNat)

/-- The octets of all elements. -/
def elementsOctets (elements : List (UInt8 × Bytes)) : Bytes := elements.flatMap elementOctets

theorem octetAt_append (pre d : Bytes) (i : ℕ) : octetAt (pre ++ d) (pre.length + i) = octetAt d i := by
  rw [octetAt, octetAt, List.getD_eq_getElem?_getD, List.getD_eq_getElem?_getD,
    List.getElem?_append_right (Nat.le_add_right _ _), Nat.add_sub_cancel_left]

theorem octetsAt_append (pre data rest : Bytes) :
    octetsAt (pre ++ (data ++ rest)) pre.length data.length = data.map UInt8.toNat := by
  refine List.ext_getElem (by rw [octetsAt, List.length_map, List.length_range, List.length_map]) ?_
  intro k h₁ h₂
  have hk : k < data.length := by rwa [List.length_map] at h₂
  have hget : (octetsAt (pre ++ (data ++ rest)) pre.length data.length)[k] =
      octetAt (pre ++ (data ++ rest)) (pre.length + k) := by
    simp only [octetsAt, List.getElem_map, List.getElem_range]
  rw [hget, octetAt_append, octetAt, List.getD_eq_getElem?_getD, List.getElem?_append_left hk,
    List.getElem?_eq_getElem hk, Option.getD_some, List.getElem_map]

theorem element_at (pre rest : Bytes) {e : UInt8 × Bytes} (h : e.2.length < 256) :
    elementEnd (pre ++ (elementOctets e ++ rest)) pre.length = pre.length + (elementOctets e).length ∧
      concatAt (pre ++ (elementOctets e ++ rest)) pre.length =
        concatElement e.1.toNat (e.2.map UInt8.toNat) := by
  have hid : octetAt (pre ++ (elementOctets e ++ rest)) pre.length = e.1.toNat :=
    octetAt_append pre _ 0
  have hlen : octetAt (pre ++ (elementOctets e ++ rest)) (pre.length + 1) = e.2.length :=
    (octetAt_append pre _ 1).trans (toNat_ofNat_of_lt h)
  have hdata : octetsAt (pre ++ (elementOctets e ++ rest)) (pre.length + 2) e.2.length =
      e.2.map UInt8.toNat := by
    have := octetsAt_append (pre ++ [e.1, UInt8.ofNat e.2.length]) e.2 rest
    rw [List.length_append, List.append_assoc] at this
    exact this
  constructor
  · rw [elementEnd, hlen, elementOctets]
    simp only [List.length_cons]
    omega
  · rw [concatAt, hid, hlen, hdata]

/-- **The loop over well-formed elements.**  The induction is on the elements that are left. -/
theorem decodeUdhLoop_elements (elements : List (UInt8 × Bytes)) (pre rest : Bytes)
    (h : ∀ e ∈ elements, e.2.length < 256) :
    decodeUdhLoop (pre ++ (elementsOctets elements ++ rest))
      (pre.length + (elementsOctets elements).length) pre.length = firstConcat elements := by
  induction elements generalizing pre with
  | nil =>
      exact decodeUdhLoop_end (Nat.le_refl _)
  | cons e elements ih =>
      have hsplit : elementsOctets (e :: elements) = elementOctets e ++ elementsOctets elements := rfl
      have hpos : 0 < (elementOctets e).length := Nat.succ_pos _
      obtain ⟨hend, hconcat⟩ := element_at pre (elementsOctets elements ++ rest)
        (h e List.mem_cons_self)
      have hrest := ih (pre ++ elementOctets e) fun x hx => h x (List.mem_cons_of_mem _ hx)
      rw [List.append_assoc, List.length_append, Nat.add_assoc] at hrest
      rw [hsplit, List.append_assoc, List.length_append, decodeUdhLoop_pass (by omega), hend, hconcat,
        hrest, if_neg (by simp only [List.length_append]; omega), firstConcat, firstConcat,
        List.findSome?_cons]
      cases concatElement e.1.toNat (e.2.map UInt8.toNat) <;> rfl

/-- **Well-formed headers.**  Of a header of at most 255 octets the first element with a numbering
counts, whatever the other elements are and whatever text follows. -/
theorem udh_elements {elements : List (UInt8 × Bytes)} (h : (elementsOctets elements).length ≤ 255)
    (rest : Bytes) :
    decodeUdhConcat (UInt8.ofNat (elementsOctets elements).length :: (elementsOctets elements ++ rest)) =
      firstConcat elements := by
  have hshort : ∀ e ∈ elements, e.2.length < 256 := by
    intro e he
    have hle : (elementOctets e).length ≤ (elementsOctets elements).length :=
      (List.sublist_flatten_of_mem (List.mem_map_of_mem he)).length_le
    have hlength : (elementOctets e).length = e.2.length + 2 := rfl
    omega
  have hloop := decodeUdhLoop_elements elements [UInt8.ofNat (elementsOctets elements).length] rest hshort
  have hudhl : (UInt8.ofNat (elementsOctets elements).length).toNat = (elementsOctets elements).length :=
    toNat_ofNat_of_lt (by omega)
  unfold decodeUdhConcat
  simp only [List.getD_cons_zero, hudhl, List.length_cons, List.length_append]
  rw [if_neg (by omega), if_neg (by omega)]
  exact hloop

/-- An element of another kind, then a numbering with a 16-bit reference. -/
theorem udh_elements_skipped :
    decodeUdhConcat (10 :: [0x25, 2, 9, 9, 0x08, 4, 1, 2, 3, 1] ++ [0x41]) = some (258, 3, 1) :=
  @udh_elements [(0x25, [9, 9]), (0x08, [1, 2, 3, 1])] (by decide) [0x41]

/-! ### The header and the text behind it -/

section

variable {udh : Bytes} {stop offset : ℕ}

/-- The walk goes on from `o` to `o'`: the element at `o` ends in the header and is no numbering. -/
def WalksOn (udh : Bytes) (stop o o' : ℕ) : Prop :=
  o < stop ∧ o' = elementEnd udh o ∧ o' ≤ stop ∧ concatAt udh o = none

/-- The element at `o` is a numbering that starts in the header and ends in the text. -/
def Straddles (udh : Bytes) (stop o : ℕ) : Prop :=
  o < stop ∧ stop < elementEnd udh o ∧ elementEnd udh o ≤ udh.length ∧ (concatAt udh o).isSome

/-- The walk from `offset` comes to an element that straddles the end of the header. -/
def ComesToStraddling (udh : Bytes) (stop offset : ℕ) : Prop :=
  ∃ o, Relation.ReflTransGen (WalksOn udh stop) offset o ∧ Straddles udh stop o

theorem octetAt_take {i : ℕ} (h : i < stop) : octetAt (udh.take stop) i = octetAt udh i := by
  rw [octetAt, octetAt, List.getD_eq_getElem?_getD, List.getD_eq_getElem?_getD, List.getElem?_take,
    if_pos h]

theorem element_take (h : elementEnd udh offset ≤ stop) :
    elementEnd (udh.take stop) offset = elementEnd udh offset ∧
      concatAt (udh.take stop) offset = concatAt udh offset := by
  have hle : offset + 2 + octetAt udh (offset + 1) ≤ stop := h
  have hlen : octetAt (udh.take stop) (offset + 1) = octetAt udh (offset + 1) := octetAt_take (by omega)
  refine ⟨by rw [elementEnd, elementEnd, hlen], ?_⟩
  rw [concatAt, concatAt, hlen, octetAt_take (show offset < stop by omega)]
  refine congrArg _ (List.map_congr_left fun k hk => octetAt_take ?_)
  have := List.mem_range.mp hk
  omega

theorem lt_elementEnd_take (h : stop < elementEnd udh offset) :
    stop < elementEnd (udh.take stop) offset := by
  by_cases hlt : offset + 1 < stop
  · rwa [elementEnd, octetAt_take hlt]
  · rw [elementEnd]
    omega

theorem comesToStraddling_iff :
    ComesToStraddling udh stop offset ↔ Straddles udh stop offset ∨
      WalksOn udh stop offset (elementEnd udh offset) ∧
        ComesToStraddling udh stop (elementEnd udh offset) := by
  constructor
  · rintro ⟨o, hwalk, hstraddles⟩
    rcases Relation.ReflTransGen.cases_head hwalk with rfl | ⟨o', hstep, hwalk⟩
    · exact Or.inl hstraddles
    · obtain rfl := hstep.2.1
      exact Or.inr ⟨hstep, o, hwalk, hstraddles⟩
  · rintro (hstraddles | ⟨hstep, o, hwalk, hstraddles⟩)
    · exact ⟨offset, .refl, hstraddles⟩
    · exact ⟨o, .head hstep hwalk, hstraddles⟩

theorem not_comesToStraddling_of_le (h : stop ≤ offset) : ¬ComesToStraddling udh stop offset := by
  rw [comesToStraddling_iff]
  rintro (hstraddles | ⟨hstep, -⟩)
  · exact Nat.not_lt.mpr h hstraddles.1
  · exact Nat.not_lt.mpr h hstep.1

/-- An element in the header ends the walk if it is a numbering, and is passed otherwise. -/
theorem comesToStraddling_of_inside (hinside : offset < stop) (hend : elementEnd udh offset ≤ stop) :
    ComesToStraddling udh stop offset ↔
      concatAt udh offset = none ∧ ComesToStraddling udh stop (elementEnd udh offset) := by
  rw [comesToStraddling_iff]
  constructor
  · rintro (hstraddles | ⟨hstep, hrest⟩)
    · exact absurd hstraddles.2.1 (Nat.not_lt.mpr hend)
    · exact ⟨hstep.2.2.2, hrest⟩
  · rintro ⟨hnone, hrest⟩
    exact Or.inr ⟨⟨hinside, rfl, hend, hnone⟩, hrest⟩

/-- An element that ends in the text is straddling if it is a numbering and not cut. -/
theorem comesToStraddling_of_outside (hinside : offset < stop) (hend : stop < elementEnd udh offset) :
    ComesToStraddling udh stop offset ↔
      elementEnd udh offset ≤ udh.length ∧ concatAt udh offset ≠ none := by
  rw [comesToStraddling_iff]
  constructor
  · rintro (⟨-, -, hfits, hsome⟩ | ⟨⟨-, -, hle, -⟩, -⟩)
    · exact ⟨hfits, Option.isSome_iff_ne_none.mp hsome⟩
    · exact absurd hend (Nat.not_lt.mpr hle)
  · rintro ⟨hfits, hsome⟩
    exact Or.inl ⟨hinside, hend, hfits, Option.isSome_iff_ne_none.mpr hsome⟩

/-- **The two runs of the loop**, with the text and without it; the induction is on what is left of
the header. -/
theorem decodeUdhLoop_take_iff (hstop : stop ≤ udh.length) (offset : ℕ) :
    decodeUdhLoop udh stop offset = decodeUdhLoop (udh.take stop) stop offset ↔
      ¬ComesToStraddling udh stop offset := by
  have hlength : (udh.take stop).length = stop := by rw [List.length_take, Nat.min_eq_left hstop]
  induction hleft : stop - offset using Nat.strong_induction_on generalizing offset with
  | _ left ih =>
      by_cases hinside : offset < stop
      · have hnext : offset + 2 ≤ elementEnd udh offset := Nat.le_add_right _ _
        have htake := @decodeUdhLoop_pass (udh.take stop) _ _ hinside
        rw [decodeUdhLoop_pass hinside, htake, hlength]
        by_cases hend : elementEnd udh offset ≤ stop
        · -- the element is in the header: both runs see the same
          obtain ⟨hend', hconcat⟩ := element_take hend
          rw [hend', hconcat, if_neg (by omega), if_neg (by omega), comesToStraddling_of_inside hinside hend]
          cases concatAt udh offset with
          | some numbering =>
              rw [Option.some_or, Option.some_or]
              exact ⟨fun _ h => Option.some_ne_none _ h.1, fun _ => rfl⟩
          | none =>
              have hrest := ih _ (by omega) (elementEnd udh offset) rfl
              rw [Option.none_or, Option.none_or]
              exact hrest.trans (not_congr ⟨fun h => ⟨rfl, h⟩, And.right⟩)
        · -- the element ends behind the header: only the run with the text can see it
          have hlt : stop < elementEnd udh offset := Nat.lt_of_not_le hend
          rw [if_pos (lt_elementEnd_take hlt), decodeUdhLoop_end (Nat.le_of_lt hlt), Option.or_none,
            comesToStraddling_of_outside hinside hlt]
          by_cases hshort : udh.length < elementEnd udh offset
          · rw [if_pos hshort]
            exact ⟨fun _ hfits => absurd hshort (Nat.not_lt.mpr hfits.1), fun _ => rfl⟩
          · rw [if_neg hshort]
            exact ⟨fun hnone hfits => hfits.2 hnone, fun hno => not_not.mp fun hsome =>
              hno ⟨Nat.le_of_not_lt hshort, hsome⟩⟩
      · have hle := Nat.le_of_not_lt hinside
        rw [decodeUdhLoop_end hle, decodeUdhLoop_end hle]
        exact ⟨fun _ => not_comesToStraddling_of_le hle, fun _ => rfl⟩

end

/-- **The header and the text.**  Of an octet string that is as long as its first octet announces, the
text behind the header influences the result if and only if the walk over the elements comes to one
that is a numbering, starts in the header and ends in the text. -/
theorem udh_confined_iff {udhl : UInt8} {rest : Bytes} (h : udhl.toNat ≤ rest.length) :
    decodeUdhConcat (udhl :: rest) = decodeUdhConcat ((udhl :: rest).take (1 + udhl.toNat)) ↔
      ¬ComesToStraddling (udhl :: rest) (1 + udhl.toNat) 1 := by
  have hrun : ∀ text : Bytes, udhl.toNat ≤ text.length →
      decodeUdhConcat (udhl :: text) = decodeUdhLoop (udhl :: text) (1 + udhl.toNat) 1 := by
    intro text htext
    unfold decodeUdhConcat
    simp only [List.getD_cons_zero, List.length_cons]
    rw [if_neg (by omega), if_neg (by omega)]
  have htake : (udhl :: rest).take (1 + udhl.toNat) = udhl :: rest.take udhl.toNat := by
    rw [Nat.add_comm, List.take_succ_cons]
  rw [htake, hrun rest h, hrun (rest.take udhl.toNat) (by rw [List.length_take]; omega), ← htake]
  exact decodeUdhLoop_take_iff (by rw [List.length_cons]; omega) 1

/-- A header with nothing but an element that is skipped. -/
theorem udh_confined_skipped :
    decodeUdhConcat [2, 0x25, 0, 0x00, 3, 1] = decodeUdhConcat [2, 0x25, 0] := by
  refine (@udh_confined_iff 2 [0x25, 0, 0x00, 3, 1] (by decide)).mpr ?_
  rw [comesToStraddling_of_inside (by decide) (by decide)]
  exact fun h => not_comesToStraddling_of_le (by decide) h.2

/-- A header of one octet, and the text `\x03\x07\x02\x01`: the text is read as a numbering. -/
theorem udh_not_confined : decodeUdhConcat [1, 0x00, 3, 7, 2, 1] = some (7, 2, 1) ∧
    decodeUdhConcat ([1, 0x00, 3, 7, 2, 1].take (1 + 1)) = none := by
  decide +kernel

end VirtualPhone
