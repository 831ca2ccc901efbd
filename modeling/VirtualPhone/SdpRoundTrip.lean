import VirtualPhone.SdpOffer
import VirtualPhone.VolteManager
import VirtualPhone.Runtime.Contract

/-! # An offer and its reader

What the other phone makes of `build_sdp_offer`: the media address and the port, the codec and its
payload type, and the state of the call a re-INVITE with the offer comes in.  Every reader searches the
whole text for an unanchored pattern that begins with a letter and an equals sign, so it finds the line
it is meant for when no line before it has these two characters. -/

namespace VirtualPhone

open Runtime
open Coro (get modify Passes)
open Async (when)
open VoLTECallManager (handleReinvite)

/-! ### The lines of an offer -/

/-- The line of a codec. -/
def rtpmapLine (c : ℕ × Text) : Text := "a=rtpmap:".toList ++ natText c.1 ++ " ".toList ++ c.2 ++ crlf

/-- The lines behind the codecs. -/
def offerTail (direction : MediaDirection) : Text :=
  "a=ptime:20\r\na=maxptime:240\r\na=".toList ++ direction.text ++ crlf

theorem buildSdpOffer_lines (localIp : Text) (localPort : ℕ) (codecPriority : List Text)
    (direction : MediaDirection) : buildSdpOffer localIp localPort codecPriority direction =
      offerHead localIp localPort (offeredCodecs codecPriority) ++
        ((offeredCodecs codecPriority).flatMap rtpmapLine ++ offerTail direction) := by
  have hline : rtpmapLine = fun c => "a=rtpmap:".toList ++ (natText c.1 ++ (" ".toList ++ (c.2 ++ crlf))) := by
    funext c
    unfold rtpmapLine
    simp only [List.append_assoc]
  unfold buildSdpOffer
  dsimp only
  rw [joinCrlf_crlf (by simp), hline]
  unfold offerHead offerTail
  simp only [List.flatMap_append, List.flatMap_map, List.flatMap_cons, List.flatMap_nil, List.append_nil,
    List.append_assoc]
  rfl

/-- The characters before the address. -/
def beforeAddress (localIp : Text) : Text :=
  "v=0\r\no=VirtualPhone 1 1 IN IP4 ".toList ++ (localIp ++ "\r\ns=VoLTE Call\r\n".toList)

/-- The characters before the port. -/
def beforePort (localIp : Text) : Text :=
  beforeAddress localIp ++ ("c=IN IP4 ".toList ++ (localIp ++ "\r\nt=0 0\r\n".toList))

theorem offer_address (localIp : Text) (localPort : ℕ) (codecPriority : List Text)
    (direction : MediaDirection) : ∃ rest, buildSdpOffer localIp localPort codecPriority direction =
      beforeAddress localIp ++ 'c' :: ("=IN IP4 ".toList ++ (localIp ++ '\r' :: rest)) := by
  refine ⟨'\n' :: ("t=0 0\r\nm=audio ".toList ++ (natText localPort ++ (" RTP/AVP ".toList ++
    (joinSpaces ((offeredCodecs codecPriority).map fun c => natText c.1) ++ (crlf ++
      ((offeredCodecs codecPriority).flatMap rtpmapLine ++ offerTail direction)))))), ?_⟩
  rw [buildSdpOffer_lines]
  unfold offerHead beforeAddress
  simp only [List.append_assoc]
  rfl

theorem offer_port (localIp : Text) (localPort : ℕ) (codecPriority : List Text)
    (direction : MediaDirection) : ∃ rest, buildSdpOffer localIp localPort codecPriority direction =
      beforePort localIp ++ 'm' :: ("=audio ".toList ++ (natText localPort ++ ' ' :: rest)) := by
  refine ⟨"RTP/AVP ".toList ++ (joinSpaces ((offeredCodecs codecPriority).map fun c => natText c.1) ++
    (crlf ++ ((offeredCodecs codecPriority).flatMap rtpmapLine ++ offerTail direction))), ?_⟩
  rw [buildSdpOffer_lines]
  unfold offerHead beforePort beforeAddress
  simp only [List.append_assoc]
  rfl

/-! ### The address -/

/-- `y` does not follow `x` as the equals sign of a field `k=...`. -/
def NotField (k x y : Char) : Prop := y = '=' → x ≠ k

instance (k x y : Char) : Decidable (NotField k x y) := inferInstanceAs (Decidable (_ → _))

theorem dropLiteral_field {k x y : Char} (h : NotField k x y) (w s : Text) :
    dropLiteral (k :: '=' :: w) (x :: y :: s) = none := by
  refine if_neg fun hpre => ?_
  obtain ⟨hx, hpre⟩ := List.cons_prefix_cons.mp hpre
  obtain ⟨hy, -⟩ := List.cons_prefix_cons.mp hpre
  exact h hy.symm hx.symm

theorem dropLiteral_append (w s : Text) : dropLiteral w (w ++ s) = some s := by
  rw [dropLiteral, if_pos (List.prefix_append w s), List.drop_left]

/-- What an address in an SDP is made of. -/
structure IsAddress (ip : Text) : Prop where
  ne_nil : ip ≠ []
  plain : '=' ∉ ip
  noSpace : ∀ c ∈ ip, isSpace c = false

/-- Four numbers in decimal, with dots between them. -/
def IsDottedQuad (ip : Text) : Prop :=
  ∃ a b c d : Text, ip = a ++ '.' :: b ++ '.' :: c ++ '.' :: d ∧ (a ≠ [] ∧ b ≠ [] ∧ c ≠ [] ∧ d ≠ []) ∧
    ∀ x ∈ a ++ b ++ c ++ d, IsDigit x

theorem IsDottedQuad.isAddress {ip : Text} (h : IsDottedQuad ip) : IsAddress ip := by
  obtain ⟨a, b, c, d, rfl, -, hdigits⟩ := h
  have hchars : ∀ x ∈ a ++ '.' :: b ++ '.' :: c ++ '.' :: d, IsDigit x ∨ x = '.' := by
    intro x hx
    simp only [List.mem_append, List.mem_cons] at hx hdigits
    by_cases hdot : x = '.'
    · exact Or.inr hdot
    · exact Or.inl (hdigits x (by tauto))
  refine ⟨by simp, fun heq => ?_, fun x hx => ?_⟩
  · rcases hchars '=' heq with h | h
    · exact absurd h (by decide)
    · cases h
  · rcases hchars x hx with h | rfl
    · have hx := h.toNat
      unfold isSpace
      simp only [Bool.or_eq_false_iff, Bool.and_eq_false_iff, decide_eq_false_iff_not, beq_eq_false_iff_ne]
      omega
    · rfl

section

variable {localIp : Text} (h : IsAddress localIp) (localPort : ℕ) (codecPriority : List Text)
  (direction : MediaDirection)

include h

theorem chain_address {k : Char} {t u : Text} (ht : List.IsChain (NotField k) t)
    (hu : List.IsChain (NotField k) u) (hhead : u.head? = some '\r') :
    List.IsChain (NotField k) (t ++ (localIp ++ u)) := by
  have hR : ∀ x y, y ≠ '=' → NotField k x y := fun x y hy heq => absurd heq hy
  have hrest : List.IsChain (NotField k) (localIp ++ u) :=
    isChain_append_of_head hR (isChain_of_not_mem hR h.plain) hu (by rw [hhead]; decide)
  refine isChain_append_of_head hR ht hrest fun heq => ?_
  obtain ⟨c, ip, hip⟩ := List.exists_cons_of_ne_nil h.ne_nil
  have hplain := h.plain
  rw [hip, List.cons_append, List.head?_cons, Option.some_inj] at heq
  rw [hip, heq] at hplain
  exact hplain List.mem_cons_self

omit h in
/-- A field is found where its letter first stands before an equals sign. -/
theorem search_field {α : Type} {k : Char} {p : Text → Option α} {offer t r : Text} {found : α}
    (hp : ∀ x y s, NotField k x y → p (x :: y :: s) = none)
    (ht : List.IsChain (NotField k) (t ++ [k])) (hoffer : offer = t ++ k :: r)
    (hfound : p (k :: r) = some found) : search p offer = some found := by
  rw [hoffer, search_chain hp ht]
  exact search_of_found hfound

/-- **The address and the port are read back.** -/
theorem parseRemoteRtpAddress_offer (hport : (natText localPort).length ≤ 4300) :
    parseRemoteRtpAddress (buildSdpOffer localIp localPort codecPriority direction) =
      .ok (localIp, (localPort : ℤ)) := by
  obtain ⟨rest, hrest⟩ := offer_address localIp localPort codecPriority direction
  obtain ⟨rest', hrest'⟩ := offer_port localIp localPort codecPriority direction
  have haddress : List.IsChain (NotField 'c') (beforeAddress localIp ++ ['c']) := by
    unfold beforeAddress
    rw [List.append_assoc, List.append_assoc]
    exact chain_address h (by decide) (by decide) rfl
  have hbefore : List.IsChain (NotField 'm') (beforePort localIp ++ ['m']) := by
    have hline := @chain_address _ h 'm' ("\r\ns=VoLTE Call\r\n".toList ++ "c=IN IP4 ".toList)
      ("\r\nt=0 0\r\n".toList ++ ['m']) (by decide) (by decide) rfl
    have hfirst := @chain_address _ h 'm' "v=0\r\no=VirtualPhone 1 1 IN IP4 ".toList _ (by decide) hline rfl
    unfold beforePort beforeAddress
    simp only [List.append_assoc] at hfirst ⊢
    exact hfirst
  have hdigits : ∀ c ∈ natText localPort, isDecimal c = true := by
    intro c hc
    rw [isDecimal, decimalValue_of_isDigit (isDigit_of_mem_natText hc)]
    rfl
  unfold parseRemoteRtpAddress
  dsimp only
  rw [@search_field _ 'm' _ _ _ _ (natText localPort) ?_ hbefore hrest' ?_,
    @search_field _ 'c' _ _ _ _ localIp ?_ haddress hrest ?_]
  · rw [Option.getD_some]
    dsimp only
    rw [pyInt_natText hport]
    rfl
  · intro x y s hxy
    rw [show "c=IN IP".toList = 'c' :: '=' :: "IN IP".toList from rfl, dropLiteral_field hxy]
    rfl
  · show (dropLiteral "c=IN IP".toList ("c=IN IP".toList ++ ("4 ".toList ++ (localIp ++ '\r' :: rest)))).bind _ = _
    rw [dropLiteral_append, Option.bind_some, dropLiteral_append, Option.some_or]
    show (spanClass (!isSpace ·) (localIp ++ '\r' :: rest)).bind _ = _
    rw [spanClass_append (fun c hc => by rw [h.noSpace c hc]; rfl) h.ne_nil (by rintro _ ⟨⟩; rfl)]
    rfl
  · intro x y s hxy
    rw [show "m=audio ".toList = 'm' :: '=' :: "audio ".toList from rfl, dropLiteral_field hxy]
    rfl
  · show (dropLiteral "m=audio ".toList ("m=audio ".toList ++ (natText localPort ++ ' ' :: rest'))).bind _ = _
    rw [dropLiteral_append, Option.bind_some, spanClass_append hdigits Nat.toDigits_ne_nil
      (by rintro _ ⟨⟩; rfl)]
    rfl

end

/-! ### The direction -/

/-- A line without another equals sign is skipped by a search that fails at its beginning. -/
theorem search_line {p : Text → Option α} (hp : ∀ x y s, NoAttribute x y → p (x :: y :: s) = none)
    {body r : Text} (hbody : '=' ∉ body) (hfirst : p ('a' :: '=' :: body ++ 'a' :: r) = none) :
    search p ('a' :: '=' :: body ++ 'a' :: r) = search p ('a' :: r) := by
  have hchain : List.IsChain NoAttribute ('=' :: body ++ ['a']) := by
    have hplain : '=' ∉ body ++ ['a'] := by
      rw [List.mem_append, not_or]
      exact ⟨hbody, by decide⟩
    refine (isChain_of_not_mem noAttribute_of_ne hplain).cons fun y hy heq => ?_
    rw [heq] at hy
    exact absurd (List.mem_of_mem_head? hy) hplain
  show (p ('a' :: '=' :: body ++ 'a' :: r)).or (search p ('=' :: body ++ 'a' :: r)) = _
  rw [hfirst, Option.none_or]
  exact search_chain hp hchain

theorem rtpmapLine_eq {codec : Text} {entry : ℕ × Text} (h : (codec, entry) ∈ codecMap) :
    ∃ body, rtpmapLine entry = 'a' :: '=' :: 'r' :: body ∧ '=' ∉ body := by
  rcases codecMap_entry h with rfl | rfl | rfl | rfl
  · exact ⟨"tpmap:96 AMR-WB/16000/1\r\n".toList, rfl, by decide⟩
  · exact ⟨"tpmap:97 AMR/8000/1\r\n".toList, rfl, by decide⟩
  · exact ⟨"tpmap:98 EVS/16000/1\r\n".toList, rfl, by decide⟩
  · exact ⟨"tpmap:101 telephone-event/8000\r\n".toList, rfl, by decide⟩

theorem search_rtpmaps {p : Text → Option α} (hp : ∀ x y s, NoAttribute x y → p (x :: y :: s) = none)
    (hline : ∀ s, p ('a' :: '=' :: 'r' :: s) = none) {codecs : List (ℕ × Text)}
    (hcodecs : ∀ c ∈ codecs, ∃ codec, (codec, c) ∈ codecMap) (r : Text) :
    search p (codecs.flatMap rtpmapLine ++ 'a' :: r) = search p ('a' :: r) := by
  induction codecs with
  | nil => rfl
  | cons c codecs ih =>
      obtain ⟨codec, hcodec⟩ := hcodecs c List.mem_cons_self
      obtain ⟨body, hbody, hplain⟩ := rtpmapLine_eq hcodec
      have hrest := ih fun d hd => hcodecs d (List.mem_cons_of_mem c hd)
      obtain ⟨r', hr'⟩ : ∃ r', codecs.flatMap rtpmapLine ++ 'a' :: r = 'a' :: r' := by
        cases codecs with
        | nil => exact ⟨r, rfl⟩
        | cons d codecs =>
            obtain ⟨codec', hcodec'⟩ := hcodecs d (List.mem_cons_of_mem c List.mem_cons_self)
            obtain ⟨body', hbody', -⟩ := rtpmapLine_eq hcodec'
            rw [List.flatMap_cons, hbody']
            exact ⟨_, rfl⟩
      rw [List.flatMap_cons, List.append_assoc, hr', hbody]
      rw [hr'] at hrest
      refine (search_line hp ?_ ?_).trans hrest
      · rw [List.mem_cons, not_or]
        exact ⟨by decide, hplain⟩
      · exact hline _

theorem offeredCodecs_known {codecPriority : List Text} :
    ∀ c ∈ offeredCodecs codecPriority, ∃ codec, (codec, c) ∈ codecMap := by
  intro c hc
  obtain ⟨codec, -, hlookup⟩ := List.mem_filterMap.mp hc
  exact ⟨codec, lookup_mem hlookup⟩

/-- An attribute that is no `rtpmap` is in an offer where it is in its last lines. -/
theorem isInfix_offer {localIp : Text} (h : '=' ∉ localIp) (localPort : ℕ) (codecPriority : List Text)
    (direction : MediaDirection) {c : Char} (hc : c ≠ 'r') (w : Text) :
    ('a' :: '=' :: c :: w) <:+: buildSdpOffer localIp localPort codecPriority direction ↔
      ('a' :: '=' :: c :: w) <:+: offerTail direction := by
  have hp : ∀ x y s, NoAttribute x y → dropLiteral ('a' :: '=' :: c :: w) (x :: y :: s) = none := by
    intro x y s hxy
    refine dropLiteral_field (fun heq hx => ?_) _ _
    exact hxy heq (by rw [hx]; decide)
  have hline : ∀ s, dropLiteral ('a' :: '=' :: c :: w) ('a' :: '=' :: 'r' :: s) = none := by
    intro s
    refine if_neg fun hpre => hc ?_
    exact (List.cons_prefix_cons.mp (List.cons_prefix_cons.mp (List.cons_prefix_cons.mp hpre).2).2).1
  obtain ⟨r, hr⟩ : ∃ r, offerTail direction = 'a' :: r := ⟨_, rfl⟩
  have hskip := search_rtpmaps hp hline (@offeredCodecs_known codecPriority) r
  obtain ⟨r', hr'⟩ : ∃ r', (offeredCodecs codecPriority).flatMap rtpmapLine ++ 'a' :: r = 'a' :: r' := by
    obtain ⟨more, hmore⟩ := offeredCodecs_eq codecPriority
    rw [hmore, List.flatMap_cons]
    exact ⟨_, rfl⟩
  rw [isInfix_iff_search, isInfix_iff_search, buildSdpOffer_lines, hr, hr',
    search_chain hp (offerHead_noAttribute h localPort _), ← hr', hskip]

/-- **The direction is read back.** -/
theorem holdsRemotely_offer {localIp : Text} (h : '=' ∉ localIp) (localPort : ℕ) (codecPriority : List Text)
    (direction : MediaDirection) :
    (HoldsRemotely (buildSdpOffer localIp localPort codecPriority direction) ↔
      direction = .sendonly ∨ direction = .inactive) ∧
    (ResumesRemotely (buildSdpOffer localIp localPort codecPriority direction) ↔ direction = .sendrecv) := by
  have hin : ∀ {c : Char}, c ≠ 'r' → ∀ w : Text, _ := fun {c} hc w =>
    isInfix_offer h localPort codecPriority direction (c := c) hc w
  unfold ResumesRemotely HoldsRemotely
  rw [show "a=sendonly".toList = 'a' :: '=' :: 's' :: "endonly".toList from rfl,
    show "a=inactive".toList = 'a' :: '=' :: 'i' :: "nactive".toList from rfl,
    show "a=sendrecv".toList = 'a' :: '=' :: 's' :: "endrecv".toList from rfl,
    hin (by decide), hin (by decide), hin (by decide)]
  cases direction with
  | sendrecv => decide +kernel
  | sendonly => decide +kernel
  | recvonly => decide +kernel
  | inactive => decide +kernel

/-! ### The re-INVITE -/

/-- The state of the call is as it was. -/
def CallStateKept (ref : ℕ) (s s' : Phone) : Prop := (s'.call ref).state = (s.call ref).state

theorem updateRadio_keepsState {env : Await → Phone → Phone} {ref : ℕ}
    (henv : ∀ w s, CallStateKept ref s (env w s)) (c : Prop) [Decidable c] (state : CallState) :
    Passes env (CallStateKept ref) (when c (updateRadio ref state)) := by
  unfold when
  split
  · intro s
    unfold updateRadio
    rw [Coro.against_get_bind]
    unfold when
    split
    · unfold RadioHAL.updateCallState
      rw [Coro.against_get_bind]
      cases s.radio.find? (·.index = (s.call ref).radioCallIndex) with
      | none => exact rfl
      | some v => exact henv _ _
    · exact rfl
  · exact fun s => rfl

theorem sendInviteOk_keepsState {env : Await → Phone → Phone} {ref : ℕ} (msg : SIPMessage) (callId : Text)
    (addr : Text × ℕ) : Passes env (CallStateKept ref) (sendInviteOk ref msg callId addr) := by
  intro s
  show CallStateKept ref s (if s.sipClient.isSome then _ else s)
  split
  · unfold CallStateKept
    rw [Phone.call_modifyCall]
    split
    · rfl
    · rfl
  · rfl

/-- The call is in the state the SDP asks for when the re-INVITE has been handled, if nothing else
changes the state in the meantime. -/
theorem handleReinvite_state {env : Await → Phone → Phone} {ref : ℕ}
    (henv : ∀ w s, CallStateKept ref s (env w s)) (msg : SIPMessage) (addr : Text × ℕ) {s : Phone}
    (href : ref < s.callHeap.length) :
    ((((handleReinvite msg addr ref).against env s).2).call ref).state =
      ((s.call ref).reinvite (decodeUtf8 msg.body)).state := by
  have hrest : Passes env (CallStateKept ref) (do
      when (HoldsRemotely (decodeUtf8 msg.body)) (updateRadio ref .holding)
      when (ResumesRemotely (decodeUtf8 msg.body)) (updateRadio ref .active)
      sendInviteOk ref msg msg.callId addr) := by
    refine Passes.bind (fun hab hbc => hbc.trans hab) (updateRadio_keepsState henv _ _) fun _ => ?_
    refine Passes.bind (fun hab hbc => hbc.trans hab) (updateRadio_keepsState henv _ _) fun _ => ?_
    exact sendInviteOk_keepsState msg msg.callId addr
  refine (hrest (s.modifyCall ref (VoLTECall.reinvite (decodeUtf8 msg.body)))).trans ?_
  rw [Phone.call_modifyCall, if_pos ⟨rfl, href⟩]

theorem VoLTECall.reinvite_state (sdp : Text) (c : VoLTECall) : (c.reinvite sdp).state =
    if HoldsRemotely sdp then .held else if ResumesRemotely sdp then .active else c.state := by
  have hmedia : ∀ (f : MediaSession → MediaSession) (c : VoLTECall), (c.onMedia f).state = c.state := by
    intro f c
    unfold VoLTECall.onMedia
    split
    · rfl
    · rfl
  unfold VoLTECall.reinvite
  dsimp only
  split
  · exact hmedia _ _
  split
  · exact hmedia _ _
  · rfl

/-- **An offer is understood.**  The other phone reads the address, the port, the first known codec with
its payload type, and the direction; with anything between the steps of `_handle_reinvite` that leaves
the state of the call alone. -/
theorem sdp_round_trip (localIp : Text) (localPort : ℕ) (codecPriority : List Text)
    (direction : MediaDirection) (hip : IsDottedQuad localIp) (hport : (natText localPort).length ≤ 4300)
    (hdirection : direction ≠ .recvonly) :
    parseRemoteRtpAddress (buildSdpOffer localIp localPort codecPriority direction) =
        .ok (localIp, (localPort : ℤ)) ∧
      extractCodecFromSdp (buildSdpOffer localIp localPort codecPriority direction) =
        codecName (firstOffered codecPriority) ∧
      parsePayloadType (buildSdpOffer localIp localPort codecPriority direction)
        (extractCodecFromSdp (buildSdpOffer localIp localPort codecPriority direction)) =
          .ok (firstOffered codecPriority).1 ∧
      ∀ (s : Phone) (msg : SIPMessage) (addr : Text × ℕ) (ref : ℕ) (env : Await → Phone → Phone),
        msg.body = encodeUtf8 (buildSdpOffer localIp localPort codecPriority direction) →
          ref < s.callHeap.length → (∀ w s, CallStateKept ref s (env w s)) →
            ((((handleReinvite msg addr ref).against env s).2).call ref).state =
              if direction = .sendrecv then .active else .held := by
  have haddress := hip.isAddress
  have hcodec := extractCodecFromSdp_offer haddress.plain localPort codecPriority direction
  refine ⟨parseRemoteRtpAddress_offer haddress localPort codecPriority direction hport, hcodec, ?_, ?_⟩
  · rw [hcodec]
    exact parsePayloadType_offer haddress.plain localPort codecPriority direction
  · intro s msg addr ref env hbody href henv
    obtain ⟨hholds, hresumes⟩ := holdsRemotely_offer haddress.plain localPort codecPriority direction
    rw [handleReinvite_state henv msg addr href, VoLTECall.reinvite_state, hbody, decodeUtf8_encodeUtf8]
    cases direction with
    | sendrecv =>
        rw [if_neg (by rw [hholds]; decide), if_pos (hresumes.mpr rfl)]
        rfl
    | sendonly => rw [if_pos (hholds.mpr (Or.inl rfl)), if_neg (by decide)]
    | recvonly => exact absurd rfl hdirection
    | inactive => rw [if_pos (hholds.mpr (Or.inr rfl)), if_neg (by decide)]

/-- A hold offer with an unknown codec before AMR, from 10.45.0.2. -/
def holdOffer : Text := buildSdpOffer "10.45.0.2".toList 50000 ["OPUS".toList, "AMR-NB".toList] .sendonly

/-- A phone in one active call. -/
def phoneInCall : Phone := (Phone.create {} true {} fun n => natText n).newCall { state := .active }

/-- The other phone reads 10.45.0.2, port 50000, AMR with 97, and is on hold. -/
theorem sdp_round_trip_hold :
    parseRemoteRtpAddress holdOffer = .ok ("10.45.0.2".toList, 50000) ∧
      extractCodecFromSdp holdOffer = "AMR".toList ∧ parsePayloadType holdOffer "AMR".toList = .ok 97 ∧
      ((((handleReinvite { body := encodeUtf8 holdOffer } ([], 5060) 0).against (fun _ s => s)
        phoneInCall).2).call 0).state = .held := by
  obtain ⟨haddress, hcodec, hpt, hstate⟩ := sdp_round_trip "10.45.0.2".toList 50000
    ["OPUS".toList, "AMR-NB".toList] .sendonly
    ⟨"10".toList, "45".toList, "0".toList, "2".toList, rfl, by decide, forall_mem_of_all (by decide)⟩
    (by decide +kernel) (by decide)
  refine ⟨haddress, hcodec, ?_, ?_⟩
  · rw [hcodec] at hpt
    exact hpt
  · have hheld := hstate phoneInCall { body := encodeUtf8 holdOffer } ([], 5060) 0 (fun _ s => s) rfl
      (Nat.lt_add_one 0) fun _ _ => rfl
    rw [if_neg (by decide)] at hheld
    exact hheld

end VirtualPhone
