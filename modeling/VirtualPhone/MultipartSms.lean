import VirtualPhone.SmsRoundTrip

/-! # Multipart messages on the wire (`ims/sms_pdu.py`)

`splitMultipart` cuts a long text into parts, puts a six-octet user-data header in front of the
encoded text of each, and sets the header flag.  What the receiver reads of a part is another
matter, because `SMSSubmit.toBytes` and `SMSSubmit.fromBytes` do not know of the header:

* in the 7-bit alphabet the length octet counts the septets of the text alone, so the reader
  takes as many octets as the text would need without a header and drops the last six;
* in UCS2 the length octet counts all the octets, and the reader decodes the header as three
  characters in front of the text.

`multipart_survives_iff` puts both together for every part of every long text: no part is read
back as it was built, and its octets alone are exactly in UCS2, up to the 249 octets of text that
the length octet still counts. -/

namespace VirtualPhone

open Runtime

/-! ### The user-data header -/

/-- `encode_udh_concat(ref, total_parts, part_num)`. -/
def encodeUdhConcat (ref totalParts partNum : ℕ) : Bytes :=
  [0x05, 0x00, 0x03, UInt8.ofNat (ref &&& 0xFF), UInt8.ofNat (totalParts &&& 0xFF),
    UInt8.ofNat (partNum &&& 0xFF)]

/-- The loop of `decode_udh_concat` over the information elements before `stop`. -/
def decodeUdhLoop (udh : Bytes) (stop offset : ℕ) : Option (ℕ × ℕ × ℕ) :=
  if offset < stop then
    if udh.length ≤ offset + 1 then none
    else
      let octet := fun i => (udh.getD i 0).toNat
      let iei := octet offset
      let ieLen := octet (offset + 1)
      if udh.length < offset + 2 + ieLen then none
      else if iei = 0x00 ∧ ieLen = 3 then
        some (octet (offset + 2), octet (offset + 3), octet (offset + 4))
      else if iei = 0x08 ∧ ieLen = 4 then
        some (octet (offset + 2) <<< 8 ||| octet (offset + 3), octet (offset + 4),
          octet (offset + 5))
      else decodeUdhLoop udh stop (offset + 2 + ieLen)
  else none
termination_by stop - offset

/-- `decode_udh_concat(udh)`: reference, number of parts and number of this part. -/
def decodeUdhConcat (udh : Bytes) : Option (ℕ × ℕ × ℕ) :=
  if udh.length < 1 then none
  else
    let udhl := (udh.getD 0 0).toNat
    if udh.length < 1 + udhl then none
    else decodeUdhLoop udh (1 + udhl) 1

theorem encodeUdhConcat_length (ref total part : ℕ) :
    (encodeUdhConcat ref total part).length = 6 := rfl

theorem decodeUdhConcat_encode {ref total part : ℕ} (hr : ref < 256) (ht : total < 256)
    (hp : part < 256) (rest : Bytes) :
    decodeUdhConcat (encodeUdhConcat ref total part ++ rest) = some (ref, total, part) := by
  have hmask : ∀ n < 256, (UInt8.ofNat (n &&& 0xFF)).toNat = n := by
    intro n hn
    rw [toNat_ofNat_and_mask, Nat.mod_eq_of_lt hn]
  have hlen : (encodeUdhConcat ref total part ++ rest).length = rest.length + 6 := by
    simp [encodeUdhConcat]
  unfold decodeUdhConcat
  rw [if_neg (by omega)]
  simp only [encodeUdhConcat, List.cons_append, List.nil_append, List.getD_cons_zero] at hlen ⊢
  rw [if_neg (by rw [hlen]; simp), decodeUdhLoop, if_pos (by decide), if_neg (by rw [hlen]; omega)]
  simp only [List.getD_cons_succ, List.getD_cons_zero]
  rw [if_neg (by rw [hlen]; simp), if_pos (by decide), hmask ref hr, hmask total ht, hmask part hp]

/-! ### Cutting a text into parts -/

/-- The number of characters a single message carries. -/
def singleLimit (dcs : DataCodingScheme) : ℕ := if dcs = .ucs2 then 70 else 160

/-- The number of characters a part carries. -/
def concatLimit (dcs : DataCodingScheme) : ℕ := if dcs = .ucs2 then 67 else 153

/-- `while remaining: …`, the texts of the parts; every pass takes at least one character, and
the first argument bounds the passes. -/
def partTexts (limit : ℕ) : ℕ → Text → List Text
  | _, [] => []
  | 0, _ => []
  | passes + 1, remaining => remaining.take limit :: partTexts limit passes (remaining.drop limit)

/-- `encoded_text` of a part. -/
def encodePart (dcs : DataCodingScheme) (partText : Text) : Bytes :=
  if dcs = .ucs2 then encodeUtf16 partText else encodeGsm7 partText

/-- The message built for the `i`-th part. -/
def multipartMessage (concatRef totalParts i : ℕ) (destNumber : Text) (dcs : DataCodingScheme)
    (msgRef : ℕ) (partText : Text) : SMSSubmit :=
  { messageRef := (msgRef + i - 1) &&& 0xFF
    destination := SMSAddress.international destNumber
    dcs := dcs
    userDataHeader := true
    text := partText
    userData := encodeUdhConcat concatRef totalParts i ++ encodePart dcs partText }

/-- `split_multipart(dest_number, text, dcs, msg_ref)`, with the reference counter of the module
before and after. -/
def splitMultipart (concatRef : UInt8) (destNumber text : Text) (dcs : DataCodingScheme)
    (msgRef : ℕ) : List SMSSubmit × UInt8 :=
  if text.length ≤ singleLimit dcs then ([SMSSubmit.create destNumber text dcs msgRef], concatRef)
  else
    let partsText := partTexts (concatLimit dcs) text.length text
    (partsText.mapIdx fun i partText =>
      multipartMessage concatRef.toNat partsText.length (i + 1) destNumber dcs msgRef partText,
      concatRef + 1)

theorem concatLimit_pos (dcs : DataCodingScheme) : 0 < concatLimit dcs := by
  cases dcs <;> decide

/-- The passes suffice: the parts put together are the text. -/
theorem flatten_partTexts {limit passes : ℕ} {text : Text} (hlimit : 0 < limit)
    (h : text.length ≤ passes) : (partTexts limit passes text).flatten = text := by
  fun_induction partTexts limit passes text with
  | case1 => rfl
  | case2 text hne =>
      cases text with
      | nil => rfl
      | cons c text => simp at h
  | case3 passes text hne ih =>
      have hrest : (text.drop limit).length ≤ passes := by
        rw [List.length_drop]
        omega
      rw [List.flatten_cons, ih hrest, List.take_append_drop]

theorem ne_nil_of_mem_partTexts {limit passes : ℕ} {text part : Text} (hlimit : 0 < limit)
    (h : part ∈ partTexts limit passes text) : part ≠ [] := by
  fun_induction partTexts limit passes text with
  | case1 => simp at h
  | case2 => simp at h
  | case3 passes text hne ih =>
      rcases List.mem_cons.mp h with rfl | h
      · intro hnil
        rcases List.take_eq_nil_iff.mp hnil with h0 | h0
        · omega
        · exact hne h0
      · exact ih h

theorem mem_splitMultipart {concatRef : UInt8} {dest text : Text} {dcs : DataCodingScheme}
    {msgRef i : ℕ} {p : SMSSubmit} (hlong : singleLimit dcs < text.length)
    (hp : (splitMultipart concatRef dest text dcs msgRef).1[i]? = some p) :
    ∃ part, part ≠ [] ∧ i < (splitMultipart concatRef dest text dcs msgRef).1.length ∧
      p = multipartMessage concatRef.toNat (splitMultipart concatRef dest text dcs msgRef).1.length
        (i + 1) dest dcs msgRef part := by
  have hi := (List.getElem?_eq_some_iff.mp hp).1
  unfold splitMultipart at hp hi ⊢
  rw [if_neg (by omega)] at hp hi ⊢
  simp only [List.getElem?_mapIdx, List.length_mapIdx] at hp hi ⊢
  obtain ⟨part, hpart, rfl⟩ := Option.map_eq_some_iff.mp hp
  exact ⟨part, ne_nil_of_mem_partTexts (concatLimit_pos dcs) (List.mem_of_getElem? hpart), hi, rfl⟩

/-! ### What a writable message needs -/

/-- The numbers `encode_bcd` writes: decimal digits of any script, at most 255 of them, and
plus signs, which are dropped. -/
def Dialable (dest : Text) : Prop :=
  (∀ c ∈ dest, c ≠ '+' → isDecimal c = true) ∧ (dest.filter (· ≠ '+')).length ≤ 255

/-- Digits of any script are written as the ASCII digits of the same values. -/
theorem encodeBcd_ascii {digits : Text} (h : ∀ c ∈ digits, isDecimal c = true) :
    ∃ ascii : Text, (∀ c ∈ ascii, IsDigit c) ∧ ascii.length = digits.length ∧
      encodeBcd ascii = encodeBcd digits := by
  have hone : ∀ c, isDecimal c = true → ∃ a, IsDigit a ∧ digitValue a = digitValue c := by
    intro c hc
    obtain ⟨d, hd⟩ := Option.isSome_iff_exists.mp hc
    have hlt := decimalValue_lt hd
    have hdigit : ∀ d < 10, IsDigit (digitChar d) ∧ (digitChar d).toNat - 48 = d := by decide
    obtain ⟨hdigit, hval⟩ := hdigit d hlt
    refine ⟨digitChar d, hdigit, ?_⟩
    rw [digitValue_of_isDigit hdigit, hval, digitValue, hd]
  fun_induction encodeBcd digits with
  | case1 => exact ⟨[], by simp, rfl, rfl⟩
  | case2 c =>
      obtain ⟨a, ha, hval⟩ := hone c (h c (by simp))
      refine ⟨[a], by simpa using ha, rfl, ?_⟩
      rw [encodeBcd, hval]
  | case3 c d digits ih =>
      obtain ⟨a, ha, hvala⟩ := hone c (h c (by simp))
      obtain ⟨b, hb, hvalb⟩ := hone d (h d (by simp))
      obtain ⟨ascii, hascii, hlen, henc⟩ := ih fun x hx => h x (by simp [hx])
      refine ⟨a :: b :: ascii, ?_, by simp [hlen], ?_⟩
      · simpa only [List.forall_mem_cons] using ⟨ha, hb, hascii⟩
      · rw [encodeBcd, hvala, hvalb, henc]

theorem isDecimal_of_encodeBcd {digits : Text} {bcd : Bytes} (h : encodeBcd digits = .ok bcd) :
    ∀ c ∈ digits, isDecimal c = true := by
  have hone : ∀ {c : Char} {v : ℕ}, digitValue c = .ok v → isDecimal c = true := by
    intro c v hv
    unfold digitValue at hv
    cases hc : decimalValue c with
    | none =>
        rw [hc] at hv
        cases hv
    | some d => rw [isDecimal, hc, Option.isSome_some]
  fun_induction encodeBcd digits generalizing bcd with
  | case1 => simp
  | case2 c =>
      obtain ⟨low, hlow, -⟩ := bind_eq_ok h
      simpa using hone hlow
  | case3 c d digits ih =>
      obtain ⟨low, hlow, h⟩ := bind_eq_ok h
      obtain ⟨high, hhigh, h⟩ := bind_eq_ok h
      obtain ⟨rest, hrest, -⟩ := bind_eq_ok h
      simpa only [List.forall_mem_cons] using ⟨hone hlow, hone hhigh, ih hrest⟩

/-- Leading plus signs make no difference to the digits that are written. -/
theorem filter_dropWhile_plus (dest : Text) :
    (dest.dropWhile (· = '+')).filter (· ≠ '+') = dest.filter (· ≠ '+') := by
  induction dest with
  | nil => rfl
  | cons c dest ih =>
      by_cases hc : c = '+'
      · simpa [hc] using ih
      · simp [hc]

/-- A number that is written is dialable, and then stands for a numeric address with the same
octets. -/
theorem international_toBytes {dest : Text} :
    ((∃ da, (SMSAddress.international dest).toBytes = .ok da) → Dialable dest) ∧
      (Dialable dest → ∃ a : SMSAddress, a.Numeric ∧
        a.toBytes = (SMSAddress.international dest).toBytes) := by
  have hfilter := filter_dropWhile_plus dest
  constructor
  · rintro ⟨da, hda⟩
    simp only [SMSAddress.international, SMSAddress.toBytes, hfilter] at hda
    rw [if_neg (by decide)] at hda
    obtain ⟨bcd, hbcd, hda⟩ := bind_eq_ok hda
    obtain ⟨len, hlen, -⟩ := bind_eq_ok hda
    refine ⟨?_, Nat.le_of_lt_succ (mkByte_eq_ok hlen).1⟩
    intro c hc hne
    exact isDecimal_of_encodeBcd hbcd c (List.mem_filter.mpr ⟨hc, by simpa using hne⟩)
  · rintro ⟨hdec, hlen⟩
    obtain ⟨ascii, hascii, hal, henc⟩ := @encodeBcd_ascii (dest.filter (· ≠ '+')) <| by
      intro c hc
      obtain ⟨hc, hne⟩ := List.mem_filter.mp hc
      exact hdec c hc (by simpa using hne)
    refine ⟨⟨ascii, .international, 1⟩, ⟨by simp, hascii, by simp only; omega, by simp⟩, ?_⟩
    simp only [SMSAddress.toBytes, SMSAddress.international, hfilter,
      SMSAddress.filter_plus_of_digits hascii, henc, hal]
    rfl

/-! ### What is read back of a part -/

/-- The part `p` is read back as it was built: header flag, octets, numbering and text. -/
def Survives (p : SMSSubmit) (ref total index : ℕ) : Prop :=
  ∃ d m, p.toBytes = .ok d ∧ SMSSubmit.fromBytes d = .ok m ∧ m.userDataHeader = true ∧
    m.userData = p.userData ∧ decodeUdhConcat m.userData = some (ref, total, index) ∧
    m.text = p.text

/-- The part `p` is read back with its octets and its numbering, and its text stands behind the
three characters the header was decoded to. -/
def SurvivesBehindHeader (p : SMSSubmit) (ref total index : ℕ) : Prop :=
  ∃ d m, p.toBytes = .ok d ∧ SMSSubmit.fromBytes d = .ok m ∧ m.userDataHeader = true ∧
    m.userData = p.userData ∧ decodeUdhConcat m.userData = some (ref, total, index) ∧
    ∃ header : Text, header.length = 3 ∧ m.text = header ++ p.text

section

variable {ref total i msgRef : ℕ} {dest part : Text} {dcs : DataCodingScheme}

theorem multipartMessage_filled :
    (multipartMessage ref total i dest dcs msgRef part).filled =
      multipartMessage ref total i dest dcs msgRef part := by
  simp [SMSSubmit.filled, fillUserData, multipartMessage, encodeUdhConcat]

theorem multipartMessage_written {p : SMSSubmit}
    (hp : p = multipartMessage ref total i dest dcs msgRef part) :
    ((∃ d, p.toBytes = .ok d) ↔ Dialable dest ∧ userDataLength dcs part p.userData < 256) ∧
      ∀ d, p.toBytes = .ok d → ∃ m, SMSSubmit.fromBytes d = .ok m ∧ m.userDataHeader = true ∧
        m.userData = p.readBack.1 ∧ m.text = p.readBack.2 := by
  have hfilled : p.filled = p := by rw [hp, multipartMessage_filled]
  have hdest : p.destination = SMSAddress.international dest := by rw [hp]; rfl
  have hdcs : p.dcs = dcs := by rw [hp]; rfl
  have htext : p.text = part := by rw [hp]; rfl
  have hnecessary : ∀ d, p.toBytes = .ok d →
      Dialable dest ∧ userDataLength dcs part p.userData < 256 := by
    intro d h
    obtain ⟨_, _, h⟩ := bind_eq_ok h
    obtain ⟨_, _, h⟩ := bind_eq_ok h
    obtain ⟨da, hda, h⟩ := bind_eq_ok h
    obtain ⟨_, _, h⟩ := bind_eq_ok h
    obtain ⟨_, _, h⟩ := bind_eq_ok h
    obtain ⟨_, _, h⟩ := bind_eq_ok h
    obtain ⟨_, hudl, _⟩ := bind_eq_ok h
    rw [hfilled, hdcs, htext] at hudl
    rw [hdest] at hda
    exact ⟨international_toBytes.1 ⟨da, hda⟩, (mkByte_eq_ok hudl).1⟩
  have hread : Dialable dest → userDataLength dcs part p.userData < 256 →
      ∃ d m, p.toBytes = .ok d ∧ SMSSubmit.fromBytes d = .ok m ∧ m.userDataHeader = true ∧
        m.userData = p.readBack.1 ∧ m.text = p.readBack.2 := by
    intro hdial hudl
    obtain ⟨a, ha, hbytes⟩ := international_toBytes.2 hdial
    have hw : ({ p with destination := a } : SMSSubmit).Writable := by
      refine ⟨ha, ?_, ?_, ?_⟩
      · simp [hp, multipartMessage]
      · simp [hp, multipartMessage]
      · change userDataLength p.dcs p.text p.filled.userData < 256
        rwa [hfilled, hdcs, htext]
    obtain ⟨d, hd, hm⟩ := SMSSubmit.fromBytes_toBytes_writable hw
    refine ⟨d, _, ?_, hm, ?_, rfl, rfl⟩
    · rw [← hd]
      unfold SMSSubmit.toBytes
      simp only [hbytes, hdest]
      rfl
    · rw [hp]
      rfl
  refine ⟨⟨?_, ?_⟩, ?_⟩
  · rintro ⟨d, hd⟩
    exact hnecessary d hd
  · rintro ⟨hdial, hudl⟩
    obtain ⟨d, _, hd, _⟩ := hread hdial hudl
    exact ⟨d, hd⟩
  · intro d hd
    obtain ⟨hdial, hudl⟩ := hnecessary d hd
    obtain ⟨d', m, hd', hm⟩ := hread hdial hudl
    obtain rfl : d = d' := Except.ok.inj (hd.symm.trans hd')
    exact ⟨m, hm⟩

/-- The octets read of a 7-bit part are six fewer than those written. -/
theorem readBack_gsm7_length (hpart : part ≠ []) :
    (multipartMessage ref total i dest .gsm7Bit msgRef part).readBack.1.length + 6 =
      (multipartMessage ref total i dest .gsm7Bit msgRef part).userData.length := by
  obtain ⟨p, hp⟩ : ∃ p, multipartMessage ref total i dest .gsm7Bit msgRef part = p := ⟨_, rfl⟩
  have hlen : p.userData.length = 6 + (7 * part.length + 7) / 8 := by
    rw [← hp, multipartMessage, List.length_append, encodeUdhConcat_length, encodePart,
      if_neg (by decide), encodeGsm7_length]
  have hudl : userDataLength .gsm7Bit part p.userData = part.length := if_pos hpart
  have hread : p.readBack.1 =
      slice p.userData 0 (0 + (userDataLength .gsm7Bit part p.userData * 7 + 7) / 8) := by
    rw [← hp, SMSSubmit.readBack, multipartMessage_filled]
    rfl
  rw [hp, hread, slice_length, hudl, hlen]
  omega

/-- A UCS2 part is read back with all its octets, and its header decoded in front of its text. -/
theorem readBack_ucs2 :
    (multipartMessage ref total i dest .ucs2 msgRef part).readBack =
      ((multipartMessage ref total i dest .ucs2 msgRef part).userData,
        decodeUtf16 (encodeUdhConcat ref total i ++ encodeUtf16 part)) := by
  have hall : ∀ d : Bytes, slice d 0 (0 + d.length) = d := by
    intro d
    simp [slice]
  unfold SMSSubmit.readBack
  rw [multipartMessage_filled]
  simp only [readUserData, userDataLength, multipartMessage, hall]
  rfl

end

/-- Any two octets in front of a text are decoded to one character, and the text behind it is
kept: a first code unit is never the second half of a surrogate pair. -/
theorem decodeUtf16_unit_append (a b : UInt8) (t : Text) :
    ∃ c, decodeUtf16 (a :: b :: encodeUtf16 t) = c :: t := by
  conv in decodeUtf16 _ => unfold decodeUtf16
  simp only
  split_ifs with h1 h2
  · exact ⟨_, by rw [decodeUtf16_encodeUtf16]⟩
  · exact ⟨_, by rw [decodeUtf16_encodeUtf16]⟩
  · cases t with
    | nil => exact ⟨replacement, rfl⟩
    | cons c t =>
        have hr := char_toNat_range c
        obtain ⟨v, rest, hv, hunit⟩ : ∃ v rest, (v < 0xDC00 ∨ 0xDFFF < v ∧ v < 0x10000) ∧
            encodeUtf16 (c :: t) = utf16Unit v ++ rest := by
          rw [encodeUtf16_cons, utf16Char]
          split_ifs with h
          · exact ⟨_, _, by omega, rfl⟩
          · exact ⟨_, _, by omega, List.append_assoc ..⟩
        refine ⟨replacement, ?_⟩
        have hdec := decodeUtf16_encodeUtf16 (c :: t)
        rw [hunit] at hdec ⊢
        simp only [utf16Unit, List.cons_append, List.nil_append] at hdec ⊢
        rw [utf16_unit_value (by omega), if_neg (by omega), hdec]

theorem decodeUtf16_header (ref total part : ℕ) (t : Text) :
    ∃ header : Text, header.length = 3 ∧
      decodeUtf16 (encodeUdhConcat ref total part ++ encodeUtf16 t) = header ++ t := by
  obtain ⟨c, hc⟩ := decodeUtf16_unit_append (UInt8.ofNat (total &&& 0xFF))
    (UInt8.ofNat (part &&& 0xFF)) t
  have hr := (UInt8.ofNat (ref &&& 0xFF)).toNat_lt
  refine ⟨[Char.ofNat 0x500, Char.ofNat (3 * 256 + (UInt8.ofNat (ref &&& 0xFF)).toNat), c], rfl, ?_⟩
  simp only [encodeUdhConcat, List.cons_append, List.nil_append]
  rw [decodeUtf16, if_pos (by decide), decodeUtf16, if_pos (by simp only [UInt8.reduceToNat]; omega),
    hc]
  rfl

/-- **Multipart messages on the wire.**  A part of a long text in the 7-bit alphabet or in UCS2 is
never read back as it was built.  Its octets and its numbering are read back, with the header
decoded in front of the text, exactly when the number can be dialled and the part is in UCS2 and
takes at most 249 octets of text. -/
theorem multipart_survives_iff (concatRef : UInt8) (dest text : Text) (dcs : DataCodingScheme)
    (msgRef : ℕ) (hcoding : dcs = .gsm7Bit ∨ dcs = .ucs2) (hlong : singleLimit dcs < text.length)
    (hparts : (splitMultipart concatRef dest text dcs msgRef).1.length ≤ 255) (i : ℕ)
    (p : SMSSubmit) (hp : (splitMultipart concatRef dest text dcs msgRef).1[i]? = some p) :
    ¬ Survives p concatRef.toNat (splitMultipart concatRef dest text dcs msgRef).1.length (i + 1) ∧
      (SurvivesBehindHeader p concatRef.toNat
          (splitMultipart concatRef dest text dcs msgRef).1.length (i + 1) ↔
        Dialable dest ∧ dcs = .ucs2 ∧ (encodeUtf16 p.text).length ≤ 249) := by
  obtain ⟨part, hpart, hi, hmsg⟩ := mem_splitMultipart hlong hp
  generalize (splitMultipart concatRef dest text dcs msgRef).1.length = total at *
  obtain ⟨hdef, hread⟩ := multipartMessage_written hmsg
  have htext : p.text = part := by rw [hmsg]; rfl
  have hback : ∀ {d m}, p.toBytes = .ok d → SMSSubmit.fromBytes d = .ok m →
      m.userData = p.readBack.1 ∧ m.text = p.readBack.2 := by
    intro d m hd hm
    obtain ⟨m', hm', -, hud, htx⟩ := hread d hd
    obtain rfl : m = m' := Except.ok.inj (hm.symm.trans hm')
    exact ⟨hud, htx⟩
  rcases hcoding with rfl | rfl
  · -- the 7-bit alphabet: six octets are missing
    have hcut : p.readBack.1 ≠ p.userData := by
      intro h
      have := @readBack_gsm7_length concatRef.toNat total (i + 1) msgRef dest part hpart
      rw [← hmsg, h] at this
      omega
    refine ⟨?_, ?_, ?_⟩
    · rintro ⟨d, m, hd, hm, -, hud, -⟩
      exact hcut ((hback hd hm).1.symm.trans hud)
    · rintro ⟨d, m, hd, hm, -, hud, -⟩
      exact absurd ((hback hd hm).1.symm.trans hud) hcut
    · rintro ⟨-, h, -⟩
      cases h
  · -- UCS2: the header is read as text
    obtain ⟨header, hheader, hdecode⟩ := decodeUtf16_header concatRef.toNat total (i + 1) part
    have hrb : p.readBack = (p.userData, header ++ part) := by
      rw [hmsg, readBack_ucs2, hdecode]
    have hlen : userDataLength .ucs2 part p.userData = 6 + (encodeUtf16 part).length := by
      rw [hmsg]
      exact List.length_append
    rw [hlen] at hdef
    have hudh : decodeUdhConcat p.userData = some (concatRef.toNat, total, i + 1) := by
      rw [hmsg]
      exact decodeUdhConcat_encode concatRef.toNat_lt (by omega) (by omega) _
    refine ⟨?_, ?_, ?_⟩
    · rintro ⟨d, m, hd, hm, -, -, -, htx⟩
      have := congrArg List.length ((hback hd hm).2.symm.trans htx)
      rw [hrb, htext, List.length_append] at this
      omega
    · rintro ⟨d, m, hd, -⟩
      obtain ⟨hdial, hlt⟩ := hdef.mp ⟨d, hd⟩
      exact ⟨hdial, rfl, by rw [htext]; omega⟩
    · rintro ⟨hdial, -, hle⟩
      rw [htext] at hle
      obtain ⟨d, hd⟩ := hdef.mpr ⟨hdial, by omega⟩
      obtain ⟨m, hm, hflag, hud, htx⟩ := hread d hd
      rw [hrb] at hud htx
      refine ⟨d, m, hd, hm, hflag, hud, by rw [hud, hudh], header, hheader, ?_⟩
      rw [htx, htext]

/-- The first part of a text of 71 characters in UCS2: octets and numbering arrive, the text does
not. -/
theorem multipart_survives_iff_ucs2 :
    ∃ p, (splitMultipart 7 "+4917".toList (List.replicate 71 'A') .ucs2 0).1[0]? = some p ∧
      ¬ Survives p 7 2 1 ∧ SurvivesBehindHeader p 7 2 1 := by
  have hp : (splitMultipart 7 "+4917".toList (List.replicate 71 'A') .ucs2 0).1[0]? =
      some (multipartMessage 7 2 1 "+4917".toList .ucs2 0 (List.replicate 67 'A')) := by
    decide +kernel
  obtain ⟨hno, hyes⟩ := multipart_survives_iff 7 "+4917".toList (List.replicate 71 'A') .ucs2 0
    (Or.inr rfl) (by decide) (by decide +kernel) 0 _ hp
  have htotal :
      (splitMultipart 7 "+4917".toList (List.replicate 71 'A') .ucs2 0).1.length = 2 := by
    decide +kernel
  rw [htotal] at hno hyes
  refine ⟨_, hp, hno, hyes.mpr ⟨⟨?_, by decide⟩, rfl, by decide +kernel⟩⟩
  exact forall_mem_of_all (by decide +kernel)

/-- **A part that is cut.**  The first part of 161 letters in the 7-bit alphabet is written with
140 octets of user data and read back with 134. -/
theorem multipart_part_cut :
    ∃ p, (splitMultipart 0 "+1234".toList (List.replicate 161 'A') .gsm7Bit 0).1[0]? = some p ∧
      ¬ Survives p 0 2 1 := by
  refine ⟨multipartMessage 0 2 1 "+1234".toList .gsm7Bit 0 (List.replicate 153 'A'),
    by decide +kernel, ?_⟩
  rintro ⟨d, m, hd, hm, -, hud, -⟩
  have hwritten : (multipartMessage 0 2 1 "+1234".toList .gsm7Bit 0
      (List.replicate 153 'A')).userData.length = 140 := by
    decide +kernel
  have hrun : ((multipartMessage 0 2 1 "+1234".toList .gsm7Bit 0 (List.replicate 153 'A')).toBytes
      >>= SMSSubmit.fromBytes).map (·.userData.length) = .ok 134 := by
    decide +kernel
  rw [hd, ok_bind, hm] at hrun
  have hread : m.userData.length = 134 := Except.ok.inj hrun
  rw [hud, hwritten] at hread
  omega

end VirtualPhone
