import Mathlib.Data.List.Chain
import VirtualPhone.VolteCall

/-! # What the other side reads in an offer

`build_sdp_offer` lists the codecs it knows in the order of the configuration, and the DTMF events
behind them.  `_extract_codec_from_sdp` and `parse_payload_type` look for the first `rtpmap` line:
they find the first of these, whatever else is on the list. -/

namespace VirtualPhone

open Runtime

/-- A codec of `codec_map`. -/
def IsKnown (codec : Text) : Prop := (codecMap.lookup codec).isSome = true

instance (codec : Text) : Decidable (IsKnown codec) := inferInstanceAs (Decidable (_ = _))

/-- The name of an entry in an `rtpmap` line, up to the clock rate. -/
def codecName (entry : ℕ × Text) : Text := entry.2.takeWhile (· ≠ '/')

theorem codecMap_entry {codec : Text} {entry : ℕ × Text} (h : (codec, entry) ∈ codecMap) :
    entry = (96, "AMR-WB/16000/1".toList) ∨ entry = (97, "AMR/8000/1".toList) ∨
      entry = (98, "EVS/16000/1".toList) ∨ entry = (101, "telephone-event/8000".toList) := by
  simp only [codecMap, List.mem_cons, Prod.mk.injEq, List.not_mem_nil, or_false] at h
  rcases h with h | h | h | h
  · exact Or.inl h.2
  · exact Or.inr (Or.inl h.2)
  · exact Or.inr (Or.inr (Or.inl h.2))
  · exact Or.inr (Or.inr (Or.inr h.2))

/-- The entry an offer lists first. -/
def firstOffered (codecPriority : List Text) : ℕ × Text :=
  ((codecPriority.find? fun codec => IsKnown codec).bind fun codec => codecMap.lookup codec).getD
    (101, "telephone-event/8000".toList)

theorem offeredCodecs_eq (codecPriority : List Text) :
    ∃ more, offeredCodecs codecPriority = firstOffered codecPriority :: more := by
  induction codecPriority with
  | nil => exact ⟨[], rfl⟩
  | cons codec rest ih =>
      unfold offeredCodecs firstOffered at *
      rw [List.cons_append, List.filterMap_cons]
      cases hlookup : codecMap.lookup codec with
      | some entry =>
          refine ⟨_, congrArg (· :: _) ?_⟩
          have hknown : IsKnown codec := by rw [IsKnown, hlookup]; rfl
          rw [List.find?_cons_of_pos (by simpa using hknown), Option.bind_some, hlookup,
            Option.getD_some]
      | none =>
          have hunknown : ¬IsKnown codec := by rw [IsKnown, hlookup]; simp
          rw [List.find?_cons_of_neg (by simpa using hunknown)]
          exact ih

theorem lookup_mem {codec : Text} {entry : ℕ × Text} (h : codecMap.lookup codec = some entry) :
    (codec, entry) ∈ codecMap := by
  obtain ⟨before, after, heq, -⟩ := List.lookup_eq_some_iff.mp h
  rw [heq]
  simp

theorem firstOffered_mem (codecPriority : List Text) :
    ∃ codec, (codec, firstOffered codecPriority) ∈ codecMap := by
  unfold firstOffered
  cases hfind : codecPriority.find? fun codec => IsKnown codec with
  | none => exact ⟨"telephone-event".toList, by decide⟩
  | some codec =>
      have hknown : IsKnown codec := by simpa using List.find?_some hfind
      obtain ⟨entry, hentry⟩ := Option.isSome_iff_exists.mp hknown
      rw [Option.bind_some, hentry, Option.getD_some]
      exact ⟨codec, lookup_mem hentry⟩

/-! ### Where attributes begin -/

/-- `y` does not follow `x` as the equals sign of an attribute `a=...`. -/
def NoAttribute (x y : Char) : Prop := y = '=' → x.toLower ≠ 'a'

instance (x y : Char) : Decidable (NoAttribute x y) := inferInstanceAs (Decidable (_ → _))

/-- What fails on every two characters of a stretch is looked for behind it. -/
theorem search_chain {α : Type} {R : Char → Char → Prop} {p : Text → Option α}
    (hp : ∀ x y s, R x y → p (x :: y :: s) = none) {t r : Text} {y : Char}
    (h : List.IsChain R (t ++ [y])) : search p (t ++ y :: r) = search p (y :: r) := by
  refine search_append fun u c v ht => ?_
  rw [ht, List.append_assoc] at h
  have hcv := h.right_of_append
  cases v with
  | nil => exact hp c y r (List.isChain_cons_cons.mp hcv).1
  | cons d v => exact hp c d _ (List.isChain_cons_cons.mp hcv).1

theorem rtpmap_chars : "a=rtpmap:".toList = ['a', '=', 'r', 't', 'p', 'm', 'a', 'p', ':'] := rfl

theorem dropLiteral_attribute {x y : Char} (h : NoAttribute x y) (s : Text) :
    dropLiteral "a=rtpmap:".toList (x :: y :: s) = none := by
  rw [rtpmap_chars]
  refine if_neg fun hpre => ?_
  obtain ⟨hx, hpre⟩ := List.cons_prefix_cons.mp hpre
  obtain ⟨hy, -⟩ := List.cons_prefix_cons.mp hpre
  rw [← hx, ← hy] at h
  exact h rfl (by decide)

theorem dropIgnoringCase_attribute {x y : Char} (h : NoAttribute x y) (s : Text) :
    dropIgnoringCase "a=rtpmap:".toList (x :: y :: s) = none := by
  rw [rtpmap_chars]
  refine if_neg fun hpre => ?_
  obtain ⟨hx, hpre⟩ := List.cons_prefix_cons.mp hpre
  obtain ⟨hy, -⟩ := List.cons_prefix_cons.mp hpre
  exact h (eq_of_foldCase (by decide) hy.symm) (toLower_of_foldCase hx.symm)

section

variable {R : Char → Char → Prop} (hR : ∀ x y, y ≠ '=' → R x y)

include hR

theorem isChain_of_not_mem {t : Text} (h : '=' ∉ t) : List.IsChain R t := by
  induction t with
  | nil => exact .nil
  | cons c t ih =>
      rw [List.mem_cons, not_or] at h
      refine (ih h.2).cons fun y hy => hR c y fun heq => ?_
      rw [heq] at hy
      exact absurd (List.mem_of_mem_head? hy) h.2

theorem isChain_append_of_head {t u : Text} (ht : List.IsChain R t) (hu : List.IsChain R u)
    (hhead : u.head? ≠ some '=') : List.IsChain R (t ++ u) := by
  refine ht.append hu fun x _ y hy => hR x y fun heq => ?_
  rw [heq] at hy
  exact absurd hy hhead

end

theorem noAttribute_of_ne (x y : Char) (h : y ≠ '=') : NoAttribute x y := fun heq => absurd heq h

theorem natText_plain (n : ℕ) : '=' ∉ natText n := by
  intro h
  have := Nat.isDigit_of_mem_toDigits (by decide) (by decide) h
  simp at this

theorem joinSpaces_plain {ts : List Text} (h : ∀ t ∈ ts, '=' ∉ t) : '=' ∉ joinSpaces ts := by
  induction ts with
  | nil => exact List.not_mem_nil
  | cons t ts ih =>
      cases ts with
      | nil => exact h t List.mem_cons_self
      | cons u ts =>
          intro hmem
          have hcons : joinSpaces (t :: u :: ts) = t ++ ' ' :: joinSpaces (u :: ts) := rfl
          rw [hcons, List.mem_append, List.mem_cons] at hmem
          rcases hmem with hmem | hmem | hmem
          · exact h t List.mem_cons_self hmem
          · exact absurd hmem (by decide)
          · exact ih (fun t ht => h t (List.mem_cons_of_mem _ ht)) hmem

/-! ### The parts of an offer -/

/-- The offer up to its first attribute. -/
def offerHead (localIp : Text) (localPort : ℕ) (codecs : List (ℕ × Text)) : Text :=
  "v=0\r\no=VirtualPhone 1 1 IN IP4 ".toList ++ localIp ++ ("\r\ns=VoLTE Call\r\nc=IN IP4 ".toList ++
    localIp ++ ("\r\nt=0 0\r\nm=audio ".toList ++ (natText localPort ++ (" RTP/AVP ".toList ++
      (joinSpaces (codecs.map fun c => natText c.1) ++ crlf)))))

theorem buildSdpOffer_eq (localIp : Text) (localPort : ℕ) (codecPriority : List Text)
    (direction : MediaDirection) : ∃ rest, buildSdpOffer localIp localPort codecPriority direction =
      offerHead localIp localPort (offeredCodecs codecPriority) ++ ("a=rtpmap:".toList ++
        (natText (firstOffered codecPriority).1 ++
          (' ' :: (firstOffered codecPriority).2 ++ '\r' :: rest))) := by
  obtain ⟨more, hmore⟩ := offeredCodecs_eq codecPriority
  obtain ⟨first, hfirst⟩ : ∃ first, first = "a=rtpmap:".toList ++
    natText (firstOffered codecPriority).1 ++ " ".toList ++ (firstOffered codecPriority).2 := ⟨_, rfl⟩
  obtain ⟨lines, hlines⟩ : ∃ lines, lines = more.map (fun c => "a=rtpmap:".toList ++ natText c.1 ++
    " ".toList ++ c.2) ++ ["a=ptime:20".toList, "a=maxptime:240".toList, "a=".toList ++ direction.text] :=
    ⟨_, rfl⟩
  have hjoin : joinCrlf (first :: lines) = first ++ crlf ++ joinCrlf lines :=
    joinCrlf_cons first (by rw [hlines]; simp)
  refine ⟨'\n' :: joinCrlf lines ++ crlf, ?_⟩
  have hoffer : buildSdpOffer localIp localPort codecPriority direction =
      offerHead localIp localPort (offeredCodecs codecPriority) ++ (joinCrlf (first :: lines) ++ crlf) := by
    have hcut : buildSdpOffer localIp localPort codecPriority direction =
        joinCrlf (["v=0".toList, "o=VirtualPhone 1 1 IN IP4 ".toList ++ localIp, "s=VoLTE Call".toList,
          "c=IN IP4 ".toList ++ localIp, "t=0 0".toList,
          "m=audio ".toList ++ natText localPort ++ " RTP/AVP ".toList ++
            joinSpaces ((offeredCodecs codecPriority).map fun c => natText c.1)] ++ (first :: lines)) ++
          crlf := by
      unfold buildSdpOffer
      rw [hfirst, hlines]
      simp only [hmore, List.map_cons]
      rfl
    rw [hcut]
    unfold offerHead
    simp only [List.cons_append, List.nil_append, joinCrlf, List.append_assoc]
    rfl
  rw [hoffer, hjoin, hfirst]
  simp only [List.append_assoc]
  rfl

theorem offerHead_noAttribute {localIp : Text} (h : '=' ∉ localIp) (localPort : ℕ)
    (codecs : List (ℕ × Text)) :
    List.IsChain NoAttribute (offerHead localIp localPort codecs ++ ['a']) := by
  have hcodecs : '=' ∉ joinSpaces (codecs.map fun c => natText c.1) := by
    refine joinSpaces_plain fun t ht => ?_
    obtain ⟨c, -, rfl⟩ := List.mem_map.mp ht
    exact natText_plain c.1
  have hend : '=' ∉ natText localPort ++ (" RTP/AVP ".toList ++
      (joinSpaces (codecs.map fun c => natText c.1) ++ (crlf ++ ['a']))) := by
    simp only [List.mem_append, not_or]
    exact ⟨natText_plain localPort, by decide, hcodecs, by decide, by decide⟩
  have hhead : ∀ {t : Text}, '=' ∉ t → ∀ u : Text, u.head? ≠ some '=' →
      (t ++ u).head? ≠ some '=' := by
    intro t ht u hu
    cases t with
    | nil => exact hu
    | cons c t =>
        intro heq
        exact ht (List.mem_cons.mpr (Or.inl (Option.some.inj heq).symm))
  have hline : ∀ t u : Text, t.head? = some '\r' → (t ++ u).head? ≠ some '=' := by
    intro t u ht
    rw [List.head?_append, ht, Option.some_or]
    decide
  have hR := noAttribute_of_ne
  have hlast := isChain_append_of_head hR (t := "\r\nt=0 0\r\nm=audio ".toList) (by decide)
    (isChain_of_not_mem hR hend) fun heq => hend (List.mem_of_mem_head? heq)
  have hmiddle := isChain_append_of_head hR (isChain_of_not_mem hR h) hlast (hline _ _ rfl)
  have hmiddle := isChain_append_of_head hR (t := "\r\ns=VoLTE Call\r\nc=IN IP4 ".toList) (by decide)
    hmiddle (hhead h _ (hline _ _ rfl))
  have hfirst := isChain_append_of_head hR (isChain_of_not_mem hR h) hmiddle (hline _ _ rfl)
  have hfirst := isChain_append_of_head hR (t := "v=0\r\no=VirtualPhone 1 1 IN IP4 ".toList) (by decide)
    hfirst (hhead h _ (hline _ _ rfl))
  unfold offerHead
  simp only [List.append_assoc] at hfirst ⊢
  exact hfirst

/-! ### The readers -/

theorem search_of_found {α : Type} {p : Text → Option α} {c : Char} {r : Text} {found : α}
    (h : p (c :: r) = some found) : search p (c :: r) = some found := by
  rw [search, h, Option.some_or]

variable {localIp : Text} (h : '=' ∉ localIp) (localPort : ℕ) (codecPriority : List Text)
  (direction : MediaDirection)

include h

/-- A reader of attributes finds the first entry of the offer first. -/
theorem search_offer {α : Type} {p : Text → Option α} (found : α)
    (hp : ∀ x y s, NoAttribute x y → p (x :: y :: s) = none)
    (hfound : ∀ codec entry rest, (codec, entry) ∈ codecMap → entry = firstOffered codecPriority →
      p ("a=rtpmap:".toList ++ (natText entry.1 ++ (' ' :: entry.2 ++ '\r' :: rest))) = some found) :
    search p (buildSdpOffer localIp localPort codecPriority direction) = some found := by
  obtain ⟨rest, hrest⟩ := buildSdpOffer_eq localIp localPort codecPriority direction
  obtain ⟨codec, hcodec⟩ := firstOffered_mem codecPriority
  rw [hrest]
  refine (search_chain hp (offerHead_noAttribute h localPort (offeredCodecs codecPriority))).trans ?_
  exact search_of_found (hfound codec _ rest hcodec rfl)

/-- The codec that is read is the first one of the offer. -/
theorem extractCodecFromSdp_offer :
    extractCodecFromSdp (buildSdpOffer localIp localPort codecPriority direction) =
      codecName (firstOffered codecPriority) := by
  unfold extractCodecFromSdp
  rw [search_offer h localPort codecPriority direction (firstOffered codecPriority).2]
  · rfl
  · intro x y s hxy
    rw [dropLiteral_attribute hxy]
    rfl
  · intro codec entry rest hmem heq
    rw [← heq]
    rcases codecMap_entry hmem with rfl | rfl | rfl | rfl
    · rfl
    · rfl
    · rfl
    · rfl

/-- The payload type that is read for that codec is the one it is listed with. -/
theorem parsePayloadType_offer :
    parsePayloadType (buildSdpOffer localIp localPort codecPriority direction)
      (codecName (firstOffered codecPriority)) = .ok (firstOffered codecPriority).1 := by
  unfold parsePayloadType
  rw [search_offer h localPort codecPriority direction (natText (firstOffered codecPriority).1)]
  · obtain ⟨codec, hcodec⟩ := firstOffered_mem codecPriority
    rcases codecMap_entry hcodec with heq | heq | heq | heq <;> rw [heq] <;> rfl
  · intro x y s hxy
    rw [dropIgnoringCase_attribute hxy]
    rfl
  · intro codec entry rest hmem heq
    rw [← heq]
    rcases codecMap_entry hmem with rfl | rfl | rfl | rfl
    · rfl
    · rfl
    · rfl
    · rfl

end VirtualPhone
