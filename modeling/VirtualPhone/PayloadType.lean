import VirtualPhone.RtpHold
import VirtualPhone.VolteChanges
import VirtualPhone.Runtime.Contract

/-! # The payload type of a call's session (`ims/volte.py`, `ims/media.py`)

`_start_media` looks for the payload type of the codec it has read from the remote SDP, and starts the
session with it.  `parse_payload_type` finds the first place that looks like an `rtpmap` of the codec, in
any case and with any continuation of the name; and `start` takes 96 for no choice at all, and puts the
number that this phone gives the codec in its place.

`negotiated_type_iff` says which SDPs these two leave with the payload type they assign to the codec. -/

namespace VirtualPhone

open Runtime

/-! ### What an SDP assigns -/

/-- The number and the encoding name of an `a=rtpmap` line. -/
def readRtpmap (line : Text) : Option (Text × Text) := do
  let s ← dropLiteral "a=rtpmap:".toList line
  let (digits, s) ← spanClass isDecimal s
  let s ← dropLiteral " ".toList s
  return (digits, s.takeWhile fun c => c ≠ '/' && !isSpace c)

/-- A line of the SDP maps exactly this codec name to the payload type. -/
def Assigns (sdp codec : Text) (payloadType : ℤ) : Prop :=
  ∃ line ∈ sdp.splitOn '\n', ∃ m ∈ readRtpmap line, m.2 = codec ∧ pyInt m.1 = .ok payloadType

instance (sdp codec : Text) (payloadType : ℤ) : Decidable (Assigns sdp codec payloadType) :=
  inferInstanceAs (Decidable (∃ _ ∈ _, ∃ _ ∈ _, _))

/-- `a=rtpmap:`, a number, and the name of the codec or a longer one, in any case. -/
def Mentions (codec digits s : Text) : Prop :=
  ∃ attr name rest, s = attr ++ (digits ++ ' ' :: (name ++ rest)) ∧
    attr.map foldCase = "a=rtpmap:".toList.map foldCase ∧ name.map foldCase = codec.map foldCase ∧
    digits ≠ [] ∧ ∀ c ∈ digits, isDecimal c = true

/-- The first mention of the codec in the SDP has this number. -/
def FirstMention (sdp codec digits : Text) : Prop :=
  ∃ u s, sdp = u ++ s ∧ Mentions codec digits s ∧
    ∀ v w, u = v ++ w → w ≠ [] → ∀ digits', ¬Mentions codec digits' (w ++ s)

/-- What the regular expression of `parse_payload_type` matches at a place, and its group. -/
def mentionOf (codec s : Text) : Option Text := do
  let s ← dropIgnoringCase "a=rtpmap:".toList s
  let (digits, s) ← spanClass isDecimal s
  let _ ← dropIgnoringCase (' ' :: codec) s
  return digits

theorem mentionOf_eq_some_iff {codec digits s : Text} : mentionOf codec s = some digits ↔ Mentions codec digits s := by
  unfold mentionOf Mentions
  constructor
  · intro h
    obtain ⟨s₁, h₁, h⟩ := Option.bind_eq_some_iff.mp h
    obtain ⟨⟨d, s₂⟩, h₂, h⟩ := Option.bind_eq_some_iff.mp h
    obtain ⟨s₃, h₃, h⟩ := Option.bind_eq_some_iff.mp h
    obtain rfl : d = digits := Option.some.inj h
    obtain ⟨attr, rfl, hattr⟩ := dropIgnoringCase_eq_some_iff.mp h₁
    obtain ⟨rfl, hne, hdigits, -⟩ := spanClass_eq_some_iff.mp h₂
    obtain ⟨blankName, rfl, hname⟩ := dropIgnoringCase_eq_some_iff.mp h₃
    cases blankName with
    | nil => cases hname
    | cons b name =>
        obtain ⟨hb, hrest⟩ := List.cons.inj hname
        obtain rfl := eq_of_foldCase (by decide) hb
        exact ⟨attr, name, s₃, rfl, hattr, hrest, hne, hdigits⟩
  · rintro ⟨attr, name, rest, rfl, hattr, hname, hne, hdigits⟩
    refine Option.bind_eq_some_iff.mpr ⟨_, dropIgnoringCase_eq_some_iff.mpr ⟨_, rfl, hattr⟩, ?_⟩
    refine Option.bind_eq_some_iff.mpr ⟨(digits, ' ' :: (name ++ rest)), ?_, ?_⟩
    · refine spanClass_eq_some_iff.mpr ⟨rfl, hne, hdigits, fun c hc => ?_⟩
      obtain rfl := Option.some.inj hc
      decide
    · refine Option.bind_eq_some_iff.mpr ⟨rest, dropIgnoringCase_eq_some_iff.mpr ⟨' ' :: name, rfl, ?_⟩, rfl⟩
      rw [List.map_cons, List.map_cons, hname]

theorem search_mention_iff {sdp codec digits : Text} :
    search (mentionOf codec) sdp = some digits ↔ FirstMention sdp codec digits := by
  rw [search_eq_some_iff]
  refine exists_congr fun u => exists_congr fun s => and_congr_right fun _ => ?_
  refine and_congr mentionOf_eq_some_iff ?_
  refine forall_congr' fun v => forall_congr' fun w => imp_congr_right fun _ => imp_congr_right fun _ => ?_
  rw [Option.eq_none_iff_forall_not_mem]
  exact forall_congr' fun digits' => not_congr mentionOf_eq_some_iff

theorem parsePayloadType_of_mention {sdp codec digits : Text} (h : FirstMention sdp codec digits) :
    parsePayloadType sdp codec = pyInt digits := by
  have hsearch := search_mention_iff.mpr h
  unfold mentionOf at hsearch
  unfold parsePayloadType
  simp only [hsearch]

theorem infix_of_mem_splitOn {c : Char} {line s : Text} (h : line ∈ s.splitOn c) :
    ∃ u v, s = u ++ (line ++ v) := by
  have hjoin : ∀ lines : List Text, line ∈ lines → ∃ u v, [c].intercalate lines = u ++ (line ++ v) := by
    intro lines hline
    induction lines with
    | nil => cases hline
    | cons l lines ih =>
        cases lines with
        | nil =>
            obtain rfl := List.mem_singleton.mp hline
            exact ⟨[], [], by simp⟩
        | cons l' lines =>
            rw [List.intercalate_cons_cons]
            rcases List.mem_cons.mp hline with rfl | hmem
            · exact ⟨[], _, List.append_assoc _ _ _⟩
            · obtain ⟨u, v, hrest⟩ := ih hmem
              exact ⟨l ++ [c] ++ u, v, by simp only [hrest, List.append_assoc]⟩
  have hsplit := hjoin _ h
  rwa [List.intercalate_splitOn] at hsplit

theorem Assigns.mentioned {sdp codec : Text} {n : ℤ} (h : Assigns sdp codec n) :
    ∃ digits, FirstMention sdp codec digits := by
  obtain ⟨line, hline, ⟨digits, name⟩, hm, rfl, -⟩ := h
  obtain ⟨u, v, rfl⟩ := infix_of_mem_splitOn hline
  obtain ⟨s₁, h₁, hm⟩ := Option.bind_eq_some_iff.mp hm
  obtain ⟨⟨d, s₂⟩, h₂, hm⟩ := Option.bind_eq_some_iff.mp hm
  obtain ⟨s₃, h₃, hm⟩ := Option.bind_eq_some_iff.mp hm
  obtain ⟨rfl, rfl⟩ := Prod.mk.inj (Option.some.inj hm)
  obtain rfl := dropLiteral_eq_some_iff.mp h₁
  obtain ⟨rfl, hne, hdigits, -⟩ := spanClass_eq_some_iff.mp h₂
  obtain rfl := dropLiteral_eq_some_iff.mp h₃
  obtain ⟨rest, hrest⟩ := List.takeWhile_prefix (fun c => c ≠ '/' && !isSpace c) (l := s₃)
  have hmention : Mentions (s₃.takeWhile fun c => c ≠ '/' && !isSpace c) d
      ("a=rtpmap:".toList ++ (d ++ (" ".toList ++ s₃)) ++ v) := by
    refine ⟨"a=rtpmap:".toList, _, rest ++ v, ?_, rfl, rfl, hne, hdigits⟩
    conv_lhs => rw [← hrest]
    simp only [List.append_assoc]
    rfl
  have hfound := search_isSome u (Option.isSome_of_mem (mentionOf_eq_some_iff.mpr hmention))
  obtain ⟨digits, hdigits⟩ := Option.isSome_iff_exists.mp hfound
  exact ⟨digits, search_mention_iff.mp hdigits⟩

namespace Rtp

/-! ### The session of a call -/

/-- `_start_media(call)` for a call with this remote SDP, codec and RTP port: the session it is left
with. -/
def startMedia (sdp codec : Text) (rtpPort : ℕ) (free : Bool) (ssrc : ℕ) :
    Except PyError (Option Sender) := do
  if sdp = [] ∨ rtpPort = 0 then return none
  else
    let remoteAddr ← parseRemoteRtpAddress sdp
    if remoteAddr.2 = 0 then return none
    else
      let payloadType ← parsePayloadType sdp codec
      let session : Sender := { session := { ssrc := ssrc }, codec := "AMR-WB".toList }
      match (Sender.start rtpPort codec payloadType free).run session with
      | (.ok _, w) => return some w
      | (.error _, _) => return none

/-- A session was started: the SDP has an address and a payload type, and both ports are ports. -/
theorem startMedia_some {sdp codec : Text} {rtpPort ssrc : ℕ} {free : Bool} {w : Sender}
    (h : startMedia sdp codec rtpPort free ssrc = .ok (some w)) :
    ∃ remoteAddr n, ¬(sdp = [] ∨ rtpPort = 0) ∧ parseRemoteRtpAddress sdp = .ok remoteAddr ∧
      remoteAddr.2 ≠ 0 ∧ parsePayloadType sdp codec = .ok n ∧ rtpPort < 65535 ∧
      w = { codec := codec, session := MediaSession.start codec n free { ssrc := ssrc } } := by
  unfold startMedia at h
  split_ifs at h with hnone
  · cases h
  · cases haddr : parseRemoteRtpAddress sdp with
    | error e =>
        rw [haddr] at h
        cases h
    | ok remoteAddr =>
        rw [haddr, ok_bind] at h
        split_ifs at h with hzero
        · cases h
        · cases hparse : parsePayloadType sdp codec with
          | error e =>
              rw [hparse] at h
              cases h
          | ok n =>
              rw [hparse, ok_bind] at h
              unfold Sender.start at h
              dsimp only at h
              rw [Py.run_modify_bind] at h
              split_ifs at h with hport hrtcp
              · cases h
              · cases h
              · obtain rfl := Option.some.inj (Except.ok.inj h)
                exact ⟨remoteAddr, n, hnone, rfl, hzero, rfl, by omega, rfl⟩

theorem modify_concat {α : Type} (f : α → α) (l : List α) (x : α) :
    (l ++ [x]).modify l.length f = l ++ [f x] := by
  induction l with
  | nil => rfl
  | cons y l ih => exact congrArg (y :: ·) ih

/-- What is left when `_start_media` runs while nothing else does: the call has a media session of the
payload type. -/
theorem startMedia_agrees {s : Phone} {ref : ℕ} {c : VoLTECall} {free : Bool} {ssrc : ℕ} {w : Sender}
    (hc : s.callHeap[ref]? = some c)
    (h : startMedia c.remoteSdp c.codec c.rtpPort free ssrc = .ok (some w)) :
    ∃ c' m session, ((VirtualPhone.startMedia ref).against (fun _ s => s) s).2.callHeap[ref]? = some c' ∧
      c'.mediaSession = some m ∧ c'.sessions[m]? = some session ∧ session.active = true ∧
      session.payloadType = w.session.payloadType := by
  obtain ⟨remoteAddr, n, hnone, haddr, hzero, hparse, hport, rfl⟩ := startMedia_some h
  have hcall : s.call ref = c := Phone.call_eq hc
  have hbind : ∀ {β : Type} (b : β) (f : β → Async Unit), (Async.lift (.ok b) >>= f) = f b :=
    fun _ _ => rfl
  have hmedia : ∀ (m : ℕ) (t : Phone), (VirtualPhone.MediaSession.start ref m c.rtpPort remoteAddr c.codec n).against
      (fun _ s => s) t = (.ok (), (t.modifyCall ref (VoLTECall.modifySession m
        (VirtualPhone.MediaSession.configure c.rtpPort remoteAddr c.codec n))).modifyCall ref
          (VoLTECall.modifySession m (VirtualPhone.MediaSession.setActive true))) := by
    intro m t
    unfold VirtualPhone.MediaSession.start
    rw [if_neg (by omega), if_neg (by omega)]
    rfl
  have hadd : (modifyCall ref VoLTECall.addSession).against (fun _ s => s) s =
      (.ok (), s.modifyCall ref VoLTECall.addSession) := rfl
  unfold VirtualPhone.startMedia
  rw [Coro.against_get_bind, hcall, if_neg hnone, haddr, hbind, if_neg hzero, hparse, hbind]
  dsimp only
  rw [Coro.against_bind_ok hadd, Coro.against_bind_ok (Coro.against_attempt (hmedia _ _))]
  let session : VirtualPhone.MediaSession := (VirtualPhone.MediaSession.configure c.rtpPort remoteAddr c.codec
    n {}).setActive true
  refine ⟨VoLTECall.setMediaSession (some c.sessions.length) { c with sessions := c.sessions ++ [session] },
    c.sessions.length, session, ?_, rfl, List.getElem?_concat_length, rfl, rfl⟩
  change ((((s.callHeap.modify ref _).modify ref _).modify ref _).modify ref _)[ref]? = _
  simp only [List.getElem?_modify_eq, hc, Option.map_eq_map, Option.map_some]
  simp only [VoLTECall.addSession, VoLTECall.modifySession, modify_concat]
  rfl

/-! ### The packets of a session -/

/-- The packet carries the payload type, cut to its seven bits. -/
def OfType (payloadType : ℤ) (raw : Bytes) : Prop :=
  ∃ p, RTPPacket.fromBytes raw = .ok p ∧ p.payloadType = payloadType % 128

/-- A method keeps the payload type, and what it hands to the transport is of that type. -/
def Typed (m m' : MediaSession) : Prop :=
  m'.payloadType = m.payloadType ∧ ∀ raw ∈ m'.sent, raw ∈ m.sent ∨ OfType m.payloadType raw

theorem sendFrame_typed (m : MediaSession) (data : Bytes) (marker : Bool) :
    Typed m ((MediaSession.sendFrame data marker).run m).2 := by
  by_cases hopen : m.active = true ∧ m.held = false
  · obtain ⟨raw, hraw, hrun⟩ := sendFrame_open hopen.1 hopen.2 data marker
    rw [hrun]
    refine ⟨rfl, fun raw' hraw' => ?_⟩
    change raw' ∈ (if m.transport then m.sent ++ [raw] else m.sent) at hraw'
    split_ifs at hraw'
    · rcases List.mem_append.mp hraw' with hold | hnew
      · exact Or.inl hold
      · rw [List.mem_singleton.mp hnew]
        exact Or.inr ⟨_, hraw, rfl⟩
    · exact Or.inl hraw'
  · rw [sendFrame_closed hopen]
    exact ⟨rfl, fun raw hraw => Or.inl hraw⟩

theorem sendAmrFrame_typed (sine : Sine) (w : Sender) (mode : ℤ) (silence : Bool) :
    Typed w.session ((Sender.sendAmrFrame sine mode silence).run w).2.session := by
  obtain ⟨payload, hpayload⟩ := (w.nextFrame sine mode silence).1.toRtpPayload_ok
  rw [sendAmrFrame_run sine hpayload]
  exact sendFrame_typed w.session payload (w.session.seq = 0)

theorem run_payloadType (sine : Sine) (a : MediaAction) (w : Sender) :
    ((a.run sine).run w).2.session.payloadType = w.session.payloadType := by
  cases a with
  | frame data marker => exact (sendFrame_typed w.session data marker).1
  | amrFrame mode silence => exact (sendAmrFrame_typed sine w mode silence).1
  | dtmf digit durationMs =>
      show ((MediaSession.sendDtmf digit durationMs).run w.session).2.payloadType = w.session.payloadType
      by_cases hdigit : IsDtmfDigit digit
      · obtain ⟨raws, r, hrun, -⟩ := sendEvents_run
          (fun e he => ⟨(dtmfPlan_fields hdigit _ e he).1, (dtmfPlan_fields hdigit _ e he).2.1⟩) w.session
        rw [sendDtmf_run hdigit, hrun]
        rfl
      · unfold MediaSession.sendDtmf
        rw [Py.run_get_bind, if_pos hdigit]
        rfl
  | hold =>
      show w.session.hold.payloadType = w.session.payloadType
      unfold MediaSession.hold
      split <;> rfl
  | resume =>
      show w.session.resume.payloadType = w.session.payloadType
      unfold MediaSession.resume
      split <;> rfl

theorem emittedBy_type {sine : Sine} {a : MediaAction} {w : Sender} {raw : Bytes}
    (h : (true, raw) ∈ emittedBy sine a w) : OfType w.session.payloadType raw := by
  obtain ⟨raw', hsent, heq⟩ := List.mem_map.mp h
  obtain ⟨haudio, rfl⟩ := Prod.mk.inj heq
  have htyped : Typed (w.over true []).session ((a.run sine).run (w.over true [])).2.session := by
    cases a with
    | frame data marker => exact sendFrame_typed _ data marker
    | amrFrame mode silence => exact sendAmrFrame_typed sine _ mode silence
    | dtmf digit durationMs => cases haudio
    | hold => cases haudio
    | resume => cases haudio
  rcases htyped.2 raw' hsent with hnone | htype
  · cases hnone
  · exact htype

/-- The audio packets of a run are of the type of the session; the induction is on the calls. -/
theorem emitted_type {sine : Sine} {actions : List MediaAction} {w : Sender} {raw : Bytes}
    (h : (true, raw) ∈ emitted sine w actions) : OfType w.session.payloadType raw := by
  induction actions generalizing w with
  | nil => cases h
  | cons a actions ih =>
      rcases List.mem_append.mp h with h | h
      · exact emittedBy_type h
      · rw [← run_payloadType sine a w]
        exact ih h

/-! ### Which payload type is used -/

/-- In every run of the session, with any audio source, every audio packet carries a payload type that
the SDP assigns to the codec. -/
def CarriesAssigned (sine : Sine) (sdp codec : Text) (w : Sender) : Prop :=
  ∀ (source : VirtualAudioSource) (actions : List MediaAction) (raw : Bytes),
    (true, raw) ∈ emitted sine { w with source := source } actions →
      ∃ p, RTPPacket.fromBytes raw = .ok p ∧ Assigns sdp codec p.payloadType

theorem carriesAssigned_iff (sine : Sine) (sdp codec : Text) {w : Sender} (hactive : w.session.active = true)
    (hheld : w.session.held = false) :
    CarriesAssigned sine sdp codec w ↔ Assigns sdp codec (w.session.payloadType % 128) := by
  constructor
  · intro h
    obtain ⟨raw, hp, hrun⟩ :=
      @sendFrame_open (w.session.over true []) hactive hheld [] false
    have hemitted : (true, raw) ∈ emitted sine { w with source := w.source } [.frame [] false] := by
      refine List.mem_append_left _ (List.mem_map.mpr ⟨raw, ?_, rfl⟩)
      show raw ∈ ((MediaSession.sendFrame [] false).run (w.session.over true [])).2.sent
      rw [hrun]
      exact List.mem_singleton_self raw
    obtain ⟨p', hp', hassigns⟩ := h w.source _ raw hemitted
    obtain rfl := Except.ok.inj (hp.symm.trans hp')
    exact hassigns
  · intro h source actions raw hraw
    obtain ⟨p, hp, htype⟩ := emitted_type hraw
    exact ⟨p, hp, htype ▸ h⟩

/-- What an SDP needs for its payload type to be used: the first mention of the codec has a number that
the SDP assigns to it; for AMR and EVS at 96, it has to assign the number of this phone as well. -/
def SurvivesStart (sdp codec : Text) : Prop :=
  ∃ digits n, FirstMention sdp codec digits ∧ pyInt digits = .ok n ∧
    Assigns sdp codec (if n = 96 ∧ codec = "AMR".toList then 97
      else if n = 96 ∧ codec = "EVS".toList then 98 else n % 128)

theorem codecPayloadType_mod (codec : Text) (n : ℤ) :
    VirtualPhone.MediaSession.codecPayloadType codec n % 128 =
      if n = 96 ∧ codec = "AMR".toList then 97 else if n = 96 ∧ codec = "EVS".toList then 98 else n % 128 := by
  unfold VirtualPhone.MediaSession.codecPayloadType
  by_cases hn : n = 96
  · subst hn
    simp only [if_true, true_and]
    split_ifs <;> rfl
  · simp only [hn, false_and, if_false]

/-- **The negotiated payload type.**  Where the selected codec is mapped to a dynamic payload type and a
session is started, its audio packets carry a payload type the SDP assigns to the codec exactly if the
first mention of the codec survives.  A call with this SDP whose media start while nothing else runs has
a session of that payload type. -/
theorem negotiated_type_iff (sine : Sine) {sdp : Text} {rtpPort ssrc : ℕ} {free : Bool} {w : Sender}
    (hassigned : ∃ n, 96 ≤ n ∧ n ≤ 127 ∧ Assigns sdp (extractCodecFromSdp sdp) n)
    (hstart : startMedia sdp (extractCodecFromSdp sdp) rtpPort free ssrc = .ok (some w)) :
    (CarriesAssigned sine sdp (extractCodecFromSdp sdp) w ↔ SurvivesStart sdp (extractCodecFromSdp sdp)) ∧
      ∀ (s : Phone) (ref : ℕ) (c : VoLTECall), s.callHeap[ref]? = some c → c.remoteSdp = sdp →
        c.codec = extractCodecFromSdp sdp → c.rtpPort = rtpPort →
        ∃ c' m session, ((VirtualPhone.startMedia ref).against (fun _ s => s) s).2.callHeap[ref]? = some c' ∧
          c'.mediaSession = some m ∧ c'.sessions[m]? = some session ∧ session.active = true ∧
          session.payloadType = w.session.payloadType := by
  refine ⟨?_, fun s ref c hc hsdp hcodec hport => ?_⟩
  rotate_left
  · have hcall : startMedia c.remoteSdp c.codec c.rtpPort free ssrc = .ok (some w) := by
      rw [hsdp, hcodec, hport]
      exact hstart
    exact startMedia_agrees hc hcall
  obtain ⟨_, n, -, -, -, hparse, -, rfl⟩ := startMedia_some hstart
  obtain ⟨_, -, -, hmapped⟩ := hassigned
  obtain ⟨digits, hfirst⟩ := hmapped.mentioned
  have hn : pyInt digits = .ok n := (parsePayloadType_of_mention hfirst).symm.trans hparse
  rw [carriesAssigned_iff sine sdp _ rfl rfl, MediaSession.start, codecPayloadType_mod]
  constructor
  · exact fun h => ⟨digits, n, hfirst, hn, h⟩
  · rintro ⟨digits', n', hfirst', hn', h⟩
    have hsame := (search_mention_iff.mpr hfirst).symm.trans (search_mention_iff.mpr hfirst')
    obtain rfl := Option.some.inj hsame
    obtain rfl := Except.ok.inj (hn.symm.trans hn')
    exact h

/-- An answer with one codec. -/
def answerWith (codec : String) : Text :=
  "c=IN IP4 10.0.0.9\r\nm=audio 4000 RTP/AVP 96\r\na=rtpmap:96 ".toList ++ codec.toList ++
    "/8000\r\n".toList

theorem negotiated_type_iff_wideband : ∃ w, startMedia (answerWith "AMR-WB")
    (extractCodecFromSdp (answerWith "AMR-WB")) 50000 true 1 = .ok (some w) ∧
      (CarriesAssigned (fun _ _ _ => 0) (answerWith "AMR-WB") (extractCodecFromSdp (answerWith "AMR-WB")) w ↔
        SurvivesStart (answerWith "AMR-WB") (extractCodecFromSdp (answerWith "AMR-WB"))) := by
  have hassigned : Assigns (answerWith "AMR-WB") (extractCodecFromSdp (answerWith "AMR-WB")) 96 := by
    decide +kernel
  obtain ⟨w, hw⟩ : ∃ w, startMedia (answerWith "AMR-WB")
      (extractCodecFromSdp (answerWith "AMR-WB")) 50000 true 1 = .ok (some w) := ⟨_, rfl⟩
  exact ⟨w, hw, (negotiated_type_iff _ ⟨96, by decide, by decide, hassigned⟩ hw).1⟩

/-- AMR at 96: the packets carry 97, which the answer does not have. -/
theorem amr_at_96 : ∃ w, extractCodecFromSdp (answerWith "AMR") = "AMR".toList ∧
    startMedia (answerWith "AMR") "AMR".toList 50000 true 1 = .ok (some w) ∧
    Assigns (answerWith "AMR") "AMR".toList 96 ∧
    ¬CarriesAssigned (fun _ _ _ => 0) (answerWith "AMR") "AMR".toList w := by
  have hstart : ∃ w, startMedia (answerWith "AMR") "AMR".toList 50000 true 1 = .ok (some w) ∧
      w.session.payloadType = 97 ∧ w.session.active = true ∧ w.session.held = false := ⟨_, rfl, rfl, rfl, rfl⟩
  obtain ⟨w, hw, htype, hactive, hheld⟩ := hstart
  refine ⟨w, by decide +kernel, hw, by decide +kernel, ?_⟩
  rw [carriesAssigned_iff _ _ _ hactive hheld, htype]
  decide +kernel

end Rtp

end VirtualPhone
