import VirtualPhone.SdpOffer
import VirtualPhone.VolteInvite

/-! # Which codec the two sides of a call select

The caller's offer and the callee's answer are both what `build_sdp_offer` makes of the own
configuration, and each side selects the first codec of what it receives.  So each side selects the
other's preference, and nobody looks for a codec that both have.

`codecs_agree_iff`: the two sides of a call that is connected select one codec and payload type, and
one of both lists, exactly if both lists have the same first known codec. -/

namespace VirtualPhone

open Runtime

namespace VoLTEConfig

/-- The first codec of the list that `codec_map` knows. -/
def preferred (cfg : VoLTEConfig) : Option Text := cfg.codecPriority.find? fun codec => IsKnown codec

/-- A codec of the list has this name in an `rtpmap` line. -/
def Supports (cfg : VoLTEConfig) (name : Text) : Prop :=
  ∃ codec ∈ cfg.codecPriority, ∃ entry ∈ codecMap.lookup codec, codecName entry = name

/-- The local address has no equals sign: no address has one. -/
def HasAddress (cfg : VoLTEConfig) : Prop := '=' ∉ cfg.localIp

instance (cfg : VoLTEConfig) : Decidable cfg.HasAddress := inferInstanceAs (Decidable (¬_))

theorem HasAddress.mediaIp {cfg : VoLTEConfig} (h : cfg.HasAddress) : '=' ∉ cfg.mediaIp := by
  unfold VoLTEConfig.mediaIp
  split_ifs
  · decide
  · exact h

theorem lookup_of_preferred {cfg : VoLTEConfig} {codec : Text} (h : cfg.preferred = some codec) :
    codecMap.lookup codec = some (firstOffered cfg.codecPriority) := by
  have hknown : IsKnown codec := by simpa using List.find?_some h
  obtain ⟨entry, hentry⟩ := Option.isSome_iff_exists.mp hknown
  unfold preferred at h
  rw [firstOffered, h, Option.bind_some, hentry, Option.getD_some]

/-- What a configuration supports at all, it supports by a preferred codec. -/
theorem Supports.preferred {cfg : VoLTEConfig} {name : Text} (h : cfg.Supports name) :
    ∃ codec, cfg.preferred = some codec := by
  obtain ⟨codec, hcodec, entry, hentry, -⟩ := h
  have hknown : IsKnown codec := by
    rw [IsKnown, hentry]
    rfl
  refine Option.isSome_iff_exists.mp (List.find?_isSome.mpr ⟨codec, hcodec, ?_⟩)
  simpa using hknown

theorem supports_preferred {cfg : VoLTEConfig} {codec : Text} (h : cfg.preferred = some codec) :
    cfg.Supports (codecName (firstOffered cfg.codecPriority)) :=
  ⟨codec, List.mem_of_find?_eq_some h, _, lookup_of_preferred h, rfl⟩

end VoLTEConfig

theorem codecMap_unique : ∀ x ∈ codecMap, ∀ y ∈ codecMap, codecName x.2 = codecName y.2 →
    x.1 = y.1 := by decide

/-! ### The codec of a call -/

/-- The payload type that `_start_media` starts the session of a call with. -/
def VoLTECall.payloadType (c : VoLTECall) : Except PyError ℤ :=
  (parsePayloadType c.remoteSdp c.codec).map (MediaSession.codecPayloadType c.codec)

/-- The local SDP of a call is the offer of its phone, and the codec of a call that was connected is
the first one of the remote SDP, as long as no re-INVITE replaced that. -/
structure Negotiated (cfg : VoLTEConfig) (c : VoLTECall) : Prop where
  offer : ∃ port, c.localSdp = buildSdpOffer cfg.mediaIp port cfg.codecPriority .sendrecv
  connected : c.history.reinvited = false →
    c.state = .active ∨ c.state = .held ∨ c.history.transferRequested = true →
      c.history.wasActive = true
  codec : c.history.reinvited = false → c.history.wasActive = true →
    c.codec = extractCodecFromSdp c.remoteSdp

theorem IsNew.negotiated {cfg : VoLTEConfig} {c : VoLTECall} (h : IsNew c) (hoffers : c.Offers cfg) :
    Negotiated cfg c := by
  refine ⟨⟨c.rtpPort, hoffers.1⟩, fun _ hstate => ?_, fun _ hactive => ?_⟩
  · rw [h.history] at hstate
    rcases h.state with ⟨hs, -⟩ | ⟨hs, -⟩
    · rw [hs] at hstate
      rcases hstate with h | h | h <;> cases h
    · rw [hs] at hstate
      rcases hstate with h | h | h <;> cases h
  · rw [h.history] at hactive
    cases hactive

theorem Negotiated.setState {cfg : VoLTEConfig} {c : VoLTECall} (hc : Negotiated cfg c)
    (state : VoLTECallState) (h : c.history.reinvited = false → state = .active ∨ state = .held →
      c.history.wasActive = true) : Negotiated cfg (c.setState state) := by
  refine ⟨hc.offer, fun hre hstate => ?_, fun hre hactive => hc.codec hre ?_⟩
  · refine Bool.or_eq_true_iff.mpr (Or.inl ?_)
    rcases hstate with hstate | hstate | hrequested
    · exact h hre (Or.inl hstate)
    · exact h hre (Or.inr hstate)
    · exact hc.connected hre (Or.inr (Or.inr hrequested))
  · rcases Bool.or_eq_true_iff.mp hactive with hactive | hactive
    · exact hactive
    · exact h hre (Or.inl (of_decide_eq_true hactive))

theorem Negotiated.onMedia {cfg : VoLTEConfig} {c : VoLTECall} (hc : Negotiated cfg c)
    (f : MediaSession → MediaSession) : Negotiated cfg (c.onMedia f) := by
  unfold VoLTECall.onMedia
  split
  · exact ⟨hc.offer, hc.connected, hc.codec⟩
  · exact hc

theorem CallChange.negotiated {cfg : VoLTEConfig} {C : VoLTECall → Prop} {c c' : VoLTECall}
    (h : CallChange C c c') (hc : Negotiated cfg c) : Negotiated cfg c' := by
  cases h with
  | detail hsame =>
      obtain ⟨hlocal, hremote, hcodec⟩ := hsame.sdp
      have hh := hsame.history
      refine ⟨?_, ?_, ?_⟩
      · rw [hlocal]
        exact hc.offer
      · rw [hh, hsame.state]
        exact hc.connected
      · rw [hh, hcodec, hremote]
        exact hc.codec
  | connected body _ _ =>
      exact ⟨hc.offer, fun _ _ => Bool.or_eq_true_iff.mpr (Or.inr rfl), fun _ _ => rfl⟩
  | answerInvoked => exact ⟨hc.offer, hc.connected, hc.codec⟩
  | answered _ _ =>
      exact ⟨hc.offer, fun _ _ => Bool.or_eq_true_iff.mpr (Or.inr rfl), fun _ _ => rfl⟩
  | okSent _ => exact ⟨hc.offer, hc.connected, hc.codec⟩
  | held hactive =>
      have hheld := (hc.setState .held fun hre _ => hc.connected hre (Or.inl hactive)).onMedia MediaSession.hold
      exact ⟨hheld.offer, hheld.connected, hheld.codec⟩
  | holdReturned _ => exact ⟨hc.offer, hc.connected, hc.codec⟩
  | released hheld =>
      have hactive := (hc.setState .active fun hre _ => hc.connected hre (Or.inr (Or.inl hheld))).onMedia
        MediaSession.resume
      exact ⟨hactive.offer, hactive.connected, hactive.codec⟩
  | transferRequested hstate =>
      refine ⟨hc.offer, fun hre _ => hc.connected hre ?_, hc.codec⟩
      rcases hstate with hstate | hstate
      · exact Or.inl hstate
      · exact Or.inr (Or.inl hstate)
  | transferred target hrequested =>
      have hactive := hc.setState .active fun hre _ => hc.connected hre (Or.inr (Or.inr hrequested))
      exact ⟨hactive.offer, hactive.connected, hactive.codec⟩
  | terminated _ => exact hc.setState _ fun _ hstate => by rcases hstate with h | h <;> cases h

theorem Negotiated.reinvite {cfg : VoLTEConfig} (sdp : Text) {c : VoLTECall} (hc : Negotiated cfg c) :
    Negotiated cfg (c.reinvite sdp) := by
  have hre := c.reinvite_reinvited sdp
  refine ⟨?_, fun h => ?_, fun h => ?_⟩
  · have hlocal : (c.reinvite sdp).localSdp = c.localSdp := by
      unfold VoLTECall.reinvite VoLTECall.hold VoLTECall.resume VoLTECall.onMedia
      simp only
      split_ifs
      · split <;> rfl
      · split <;> rfl
      · rfl
    rw [hlocal]
    exact hc.offer
  · rw [hre] at h
    cases h
  · rw [hre] at h
    cases h

theorem negotiated {config : VoLTEConfig} {radioHal : Bool} {radio : RadioHAL} {random : ℕ → Text}
    {es : List PhoneEvent} {p : PhonePool}
    (hr : runFrom PhonePool.step (PhonePool.initial config radioHal radio random) es = some p) :
    ∀ c ∈ p.state.callHeap, Negotiated config c :=
  PhonePool.run_calls (fun _ => IsNew.negotiated) CallChange.negotiated
    (fun _ hc => ⟨hc.offer, hc.connected, hc.codec⟩) (fun sdp _ => Negotiated.reinvite sdp)
    (fun _ _ hc => hc.setState _ fun _ hstate => by rcases hstate with h | h <;> cases h) hr

/-! ### Both sides -/

/-- One call, set up between two phones: the INVITE of the caller reached the callee, its answer the
caller, and both are connected. -/
structure SetUp (p q : Phone) (a b : VoLTECall) : Prop where
  caller : a ∈ p.callHeap ∧ a.direction = .mo
  callee : b ∈ q.callHeap ∧ b.direction = .mt
  active : a.state = .active ∧ b.state = .active
  initial : a.history.reinvited = false ∧ b.history.reinvited = false
  offer : b.remoteSdp = a.localSdp
  answer : a.remoteSdp = b.localSdp

/-- The two sides selected one codec and payload type, and both configurations list the codec. -/
def CodecsAgree (cfg cfg' : VoLTEConfig) (a b : VoLTECall) : Prop :=
  a.codec = b.codec ∧
    (∃ payloadType, a.payloadType = .ok payloadType ∧ b.payloadType = .ok payloadType) ∧
    cfg.Supports a.codec ∧ cfg'.Supports a.codec

/-- The codec and the payload type of a side are those the other side prefers. -/
theorem Negotiated.selects {cfg cfg' : VoLTEConfig} {c : VoLTECall} {port : ℕ} (hc : Negotiated cfg c)
    (haddress : cfg'.HasAddress) (hinitial : c.history.reinvited = false) (hactive : c.state = .active)
    (hremote : c.remoteSdp = buildSdpOffer cfg'.mediaIp port cfg'.codecPriority .sendrecv) :
    c.codec = codecName (firstOffered cfg'.codecPriority) ∧
      c.payloadType = .ok ((firstOffered cfg'.codecPriority).1 : ℤ) := by
  have hcodec : c.codec = codecName (firstOffered cfg'.codecPriority) := by
    rw [hc.codec hinitial (hc.connected hinitial (Or.inl hactive)), hremote]
    exact extractCodecFromSdp_offer haddress.mediaIp port cfg'.codecPriority .sendrecv
  refine ⟨hcodec, ?_⟩
  unfold VoLTECall.payloadType
  rw [hcodec, hremote, parsePayloadType_offer haddress.mediaIp port cfg'.codecPriority .sendrecv]
  obtain ⟨codec, hentry⟩ := firstOffered_mem cfg'.codecPriority
  rcases codecMap_entry hentry with heq | heq | heq | heq
  · rw [heq]
    rfl
  · rw [heq]
    rfl
  · rw [heq]
    rfl
  · rw [heq]
    rfl

/-- **When the two sides agree.**  The caller and the callee of a connected call select one codec and
payload type, which both list, exactly if their lists have the same first known codec. -/
theorem codecs_agree_iff {cfg cfg' : VoLTEConfig} {radioHal radioHal' : Bool} {radio radio' : RadioHAL}
    {random random' : ℕ → Text} {es fs : List PhoneEvent} {p q : PhonePool} {a b : VoLTECall}
    (haddress : cfg.HasAddress) (haddress' : cfg'.HasAddress)
    (hp : runFrom PhonePool.step (PhonePool.initial cfg radioHal radio random) es = some p)
    (hq : runFrom PhonePool.step (PhonePool.initial cfg' radioHal' radio' random') fs = some q)
    (h : SetUp p.state q.state a b) :
    CodecsAgree cfg cfg' a b ↔ cfg.preferred = cfg'.preferred ∧ cfg.preferred.isSome = true := by
  have ha := negotiated hp a h.caller.1
  have hb := negotiated hq b h.callee.1
  obtain ⟨port, hoffer⟩ := ha.offer
  obtain ⟨port', hanswer⟩ := hb.offer
  obtain ⟨hcodec, htype⟩ := ha.selects haddress' h.initial.1 h.active.1 (h.answer.trans hanswer)
  obtain ⟨hcodec', htype'⟩ := hb.selects haddress h.initial.2 h.active.2 (h.offer.trans hoffer)
  constructor
  · rintro ⟨hsame, -, hsupports, hsupports'⟩
    obtain ⟨codec, hpreferred⟩ := hsupports.preferred
    obtain ⟨codec', hpreferred'⟩ := hsupports'.preferred
    have hnames : codec = codec' := by
      refine codecMap_unique _ (lookup_mem (VoLTEConfig.lookup_of_preferred hpreferred)) _
        (lookup_mem (VoLTEConfig.lookup_of_preferred hpreferred')) ?_
      exact hcodec'.symm.trans (hsame.symm.trans hcodec)
    rw [hpreferred, hpreferred', hnames]
    exact ⟨rfl, rfl⟩
  · rintro ⟨hpreferred, hsome⟩
    obtain ⟨codec, hcfg⟩ := Option.isSome_iff_exists.mp hsome
    have hcfg' := hpreferred.symm.trans hcfg
    have hentry : firstOffered cfg.codecPriority = firstOffered cfg'.codecPriority :=
      Option.some.inj ((VoLTEConfig.lookup_of_preferred hcfg).symm.trans
        (VoLTEConfig.lookup_of_preferred hcfg'))
    refine ⟨?_, ⟨_, htype, ?_⟩, ?_, ?_⟩
    · rw [hcodec, hcodec', hentry]
    · rw [htype', hentry]
    · rw [hcodec, ← hentry]
      exact VoLTEConfig.supports_preferred hcfg
    · rw [hcodec]
      exact VoLTEConfig.supports_preferred hcfg'

/-! ### Two phones -/

/-- A configuration with a list of codecs. -/
def codecConfig (codecPriority : List Text) : VoLTEConfig :=
  { pcscfAddress := "pcscf".toList, codecPriority := codecPriority }

/-- A phone with that configuration. -/
def codecPhone (codecPriority : List Text) : PhonePool :=
  PhonePool.initial (codecConfig codecPriority) true {} fun n => natText n

/-- The first offer of that phone. -/
def codecOffer (codecPriority : List Text) : Text :=
  buildSdpOffer "10.45.0.2".toList 50000 codecPriority .sendrecv

/-- The phone makes a call, and a 200 OK answers it. -/
def callerRun (answer : Text) : List PhoneEvent :=
  [.spawn .start, .spawn (.initiateCall "1".toList 1),
    .spawn (.incoming
      { statusCode := some 200
        reasonPhrase := some "OK".toList
        headers := Dict.ofList [("Call-ID".toList, "0".toList)]
        body := encodeUtf8 answer } ("pcscf".toList, 5060)),
    .resume 1, .resume 1, .resume 1]

/-- An INVITE comes in, and the call is answered. -/
def calleeRun (offer : Text) : List PhoneEvent :=
  [.spawn .start,
    .spawn (.incoming
      { method := some "INVITE".toList
        requestUri := some "sip:a".toList
        headers := Dict.ofList [("Call-ID".toList, "0".toList)]
        body := encodeUtf8 offer } ("pcscf".toList, 5060)),
    .resume 1, .resume 1, .spawn (.answerCall "0".toList), .resume 2, .resume 2]

/-- What is seen of a call that was set up. -/
structure SetUpView where
  direction : CallDirection
  state : VoLTECallState
  reinvited : Bool
  localSdp : Text
  remoteSdp : Text
  codec : Text
deriving DecidableEq

/-- The view of a call. -/
def setUpView (c : VoLTECall) : SetUpView :=
  { direction := c.direction
    state := c.state
    reinvited := c.history.reinvited
    localSdp := c.localSdp
    remoteSdp := c.remoteSdp
    codec := c.codec }

theorem setUp_of_view (p₀ q₀ : PhonePool) (es fs : List PhoneEvent)
    (offer answer codec codec' : Text)
    (hp : p₀.observe es 0 setUpView = some ⟨.mo, .active, false, offer, answer, codec⟩)
    (hq : q₀.observe fs 0 setUpView = some ⟨.mt, .active, false, answer, offer, codec'⟩) :
    ∃ p q a b, runFrom PhonePool.step p₀ es = some p ∧ runFrom PhonePool.step q₀ fs = some q ∧
      SetUp p.state q.state a b ∧ a.codec = codec ∧ b.codec = codec' := by
  obtain ⟨p, a, hp, ha, hviewa⟩ := PhonePool.of_observe hp
  obtain ⟨q, b, hq, hb, hviewb⟩ := PhonePool.of_observe hq
  simp only [setUpView, SetUpView.mk.injEq] at hviewa hviewb
  obtain ⟨hdirection, hactive, hinitial, hlocal, hremote, hcodec⟩ := hviewa
  obtain ⟨hdirection', hactive', hinitial', hlocal', hremote', hcodec'⟩ := hviewb
  exact ⟨p, q, a, b, hp, hq,
    ⟨⟨List.mem_of_getElem? ha, hdirection⟩, ⟨List.mem_of_getElem? hb, hdirection'⟩,
      ⟨hactive, hactive'⟩, ⟨hinitial, hinitial'⟩, hremote'.trans hlocal.symm,
      hremote.trans hlocal'.symm⟩, hcodec, hcodec'⟩

/-- The lists differ, but the first codec of both that is known is AMR-WB. -/
theorem codecs_agree_wide :
    let wide := ["AMR-WB".toList, "AMR-NB".toList]
    let other := ["OPUS".toList, "AMR-WB".toList, "EVS".toList]
    ∃ p q a b, runFrom PhonePool.step (codecPhone wide) (callerRun (codecOffer other)) = some p ∧
      runFrom PhonePool.step (codecPhone other) (calleeRun (codecOffer wide)) = some q ∧
      SetUp p.state q.state a b ∧ CodecsAgree (codecConfig wide) (codecConfig other) a b := by
  intro wide other
  obtain ⟨p, q, a, b, hp, hq, hsetup, -⟩ := setUp_of_view (codecPhone wide)
    (codecPhone other) (callerRun (codecOffer other)) (calleeRun (codecOffer wide)) (codecOffer wide)
    (codecOffer other) "AMR-WB".toList "AMR-WB".toList (by decide +kernel) (by decide +kernel)
  have haddress : (codecConfig wide).HasAddress := by decide
  have haddress' : (codecConfig other).HasAddress := by decide
  have hagree := (codecs_agree_iff haddress haddress' hp hq hsetup).mpr (by decide)
  exact ⟨p, q, a, b, hp, hq, hsetup, hagree⟩

/-- **Each side takes what the other prefers.**  Both phones know both codecs, and the caller sends
AMR where the callee sends AMR-WB. -/
theorem codecs_disagree :
    let wide := ["AMR-WB".toList, "AMR-NB".toList]
    let narrow := ["AMR-NB".toList, "AMR-WB".toList]
    ∃ p q a b, runFrom PhonePool.step (codecPhone wide) (callerRun (codecOffer narrow)) = some p ∧
      runFrom PhonePool.step (codecPhone narrow) (calleeRun (codecOffer wide)) = some q ∧
      SetUp p.state q.state a b ∧ a.codec = "AMR".toList ∧ b.codec = "AMR-WB".toList ∧
      ¬CodecsAgree (codecConfig wide) (codecConfig narrow) a b := by
  intro wide narrow
  obtain ⟨p, q, a, b, hp, hq, hsetup, hcodec, hcodec'⟩ := setUp_of_view (codecPhone wide)
    (codecPhone narrow) (callerRun (codecOffer narrow)) (calleeRun (codecOffer wide)) (codecOffer wide)
    (codecOffer narrow) "AMR".toList "AMR-WB".toList (by decide +kernel) (by decide +kernel)
  refine ⟨p, q, a, b, hp, hq, hsetup, hcodec, hcodec', fun hagree => ?_⟩
  have hsame := hagree.1
  rw [hcodec, hcodec'] at hsame
  exact absurd hsame (by decide)

end VirtualPhone
