import VirtualPhone.VolteReferral

/-! # Explicit call transfer

`explicit_call_transfer` connects the two parties of the phone with each other and is to disconnect
the phone from both.  It transfers the held call, takes both voice calls off the list, and leaves the
held call to the NOTIFY that reports on the transfer.

Nothing ends the call of the active leg.  `explicit_transfer_iff` says so for every phone with two
legs, and every answer of the network. -/

namespace VirtualPhone

open Runtime
open Coro (get modify raise attempt Passes)
open Async (when whenSome ignore onTimeout)

/-! ### The two legs -/

/-- There is exactly one active voice call and exactly one that is on hold, and both are bound to calls
of the table. -/
structure TwoLegs (s : Phone) (active held : ℕ) : Prop where
  onlyActive : s.radio.voiceCalls.filter (fun v => (s.radio.voice v).state = .active) = [active]
  onlyHeld : s.radio.voiceCalls.filter (fun v => (s.radio.voice v).state = .holding) = [held]
  activeBound : (s.radio.voice active).sipCallId ∈ s.calls.keys
  heldBound : (s.radio.voice held).sipCallId ∈ s.calls.keys

/-- Media session `m` of call `ref` runs. -/
def Phone.SessionActive (s : Phone) (ref m : ℕ) : Prop :=
  ∃ session ∈ (s.call ref).sessions[m]?, session.active = true

instance (s : Phone) (ref m : ℕ) : Decidable (s.SessionActive ref m) :=
  inferInstanceAs (Decidable (∃ _ ∈ _, _))

/-- The call that `s` had under this Call-ID is not in the table of `s'`, and its media session does
not run there. -/
def LegEnded (callId : Text) (s s' : Phone) : Prop :=
  s'.calls.get? callId = none ∧
    ∀ ref ∈ s.calls.get? callId, ∀ m ∈ (s.call ref).mediaSession, ¬s'.SessionActive ref m

theorem RadioHAL.findLast?_of_filter {r : RadioHAL} {p : VoiceCall → Bool} {v : ℕ}
    (h : r.voiceCalls.filter (fun v => p (r.voice v)) = [v]) : r.findLast? p = some v := by
  unfold findLast?
  rw [← List.head?_filter, List.filter_reverse, h]
  rfl

/-! ### The transfer -/

/-- Table and calls are the same. -/
structure SameCalls (s s' : Phone) : Prop where
  calls : s'.calls = s.calls
  callHeap : s'.callHeap = s.callHeap

theorem SameCalls.call {s s' : Phone} (h : SameCalls s s') (ref : ℕ) : s'.call ref = s.call ref := by
  rw [Phone.call, Phone.call, h.callHeap]

theorem SameCalls.modifyCall {s s' : Phone} (h : SameCalls s s') (ref : ℕ) (f : VoLTECall → VoLTECall) :
    SameCalls (s.modifyCall ref f) (s'.modifyCall ref f) :=
  ⟨h.calls, congrArg (List.modify · ref f) h.callHeap⟩

theorem SameCalls.trans {a b c : Phone} (h : SameCalls a b) (h' : SameCalls b c) : SameCalls a c :=
  ⟨h'.calls.trans h.calls, h'.callHeap.trans h.callHeap⟩

namespace VoLTECallManager

/-- Where a REFER is accepted, its call is marked, and nothing else becomes of the calls. -/
theorem sendRefer_against (outcome : ℕ → RequestOutcome) {ref : ℕ} {referTo : Text}
    {accept : VoLTECall → VoLTECall} {s s' : Phone}
    (h : (sendRefer ref referTo accept).against (network outcome) s = (.ok true, s')) :
    SameCalls ((s.modifyCall ref
      (VoLTECall.record fun h => { h with transferRequested := true })).modifyCall ref accept) s' := by
  unfold sendRefer at h
  rw [Coro.against_get_bind] at h
  split at h
  · split at h
    · next hup =>
        obtain ⟨client, hclient⟩ := Option.isSome_iff_exists.mp hup.1
        obtain ⟨s₁, hs₁⟩ : ∃ s₁, s₁ = s.modifyCall ref
          (VoLTECall.record fun h => { h with transferRequested := true }) := ⟨_, rfl⟩
        unfold VirtualPhone.modifyCall at h
        rw [Coro.against_modify_bind, ← hs₁] at h
        have hclient₁ : s₁.sipClient = some client := hs₁ ▸ hclient
        obtain ⟨args, hargs⟩ : ∃ args, (sendDialogRequest ref "REFER"
            [("Refer-To".toList, "<".toList ++ referTo ++ ">".toList),
              ("Referred-By".toList, "<".toList ++ s.config.fromUri ++ ">".toList)] []).against
              (network outcome) s₁ = (sendRequest args).against (network outcome) s₁ := ⟨_, rfl⟩
        obtain ⟨r, s₂, hsend, hasked, hgives⟩ := sendRequest_against outcome args hclient₁
        rw [← hargs] at hsend
        cases houtcome : outcome client.calls.length with
        | timeout =>
            rw [houtcome] at hgives
            obtain ⟨m, rfl⟩ := hgives
            rw [onTimeout_against_timeout (Coro.against_bind_error hsend _)] at h
            cases h
        | final code hcode headers body =>
            rw [houtcome] at hgives
            obtain ⟨msg, rfl, -⟩ := hgives
            have hneither : ∀ (b : Bool) (m : Text),
                (.ok b : Except PyError Bool) ≠ .error (.timeoutError m) := fun _ _ h => by cases h
            by_cases haccept : msg.statusCode = some 200 ∨ msg.statusCode = some 202
            · have hrest : (if msg.statusCode = some 200 ∨ msg.statusCode = some 202 then
                  Coro.modify (Phone.modifyCall ref accept) >>= fun _ => (pure true : Async Bool)
                  else pure false).against (network outcome) s₂ =
                    (.ok true, s₂.modifyCall ref accept) := by
                rw [if_pos haccept]
                rfl
              rw [onTimeout_against ((Coro.against_bind_ok hsend _).trans hrest) (hneither true)] at h
              obtain ⟨-, rfl⟩ := Prod.mk.inj h
              rw [← hs₁]
              exact SameCalls.modifyCall ⟨hasked.calls, hasked.callHeap⟩ ref accept
            · have hrest : (if msg.statusCode = some 200 ∨ msg.statusCode = some 202 then
                  Coro.modify (Phone.modifyCall ref accept) >>= fun _ => (pure true : Async Bool)
                  else pure false).against (network outcome) s₂ = (.ok false, s₂) := by
                rw [if_neg haccept]
                rfl
              rw [onTimeout_against ((Coro.against_bind_ok hsend _).trans hrest) (hneither false)] at h
              cases h
    · cases h
  · cases h

/-- Where `transfer_call` succeeds, the transfer is pending, and the media session is as before. -/
theorem transferCall_against (outcome : ℕ → RequestOutcome) {callId number : Text} {ref : ℕ}
    {s s' : Phone} (href : s.calls.get? callId = some ref)
    (h : (transferCall callId number).against (network outcome) s = (.ok true, s')) :
    s'.calls = s.calls ∧ (s'.call ref).transferPending = true ∧
      (s'.call ref).mediaSession = (s.call ref).mediaSession := by
  unfold transferCall at h
  rw [Coro.against_get_bind] at h
  simp only [href] at h
  have hsame := sendRefer_against outcome h
  refine ⟨hsame.calls, ?_⟩
  have hvalid : ref < s.callHeap.length := s.valid callId ref href
  rw [hsame.call, Phone.call_modifyCall, if_pos ⟨rfl, (List.length_modify _ _ _).symm ▸ hvalid⟩,
    Phone.call_modifyCall, if_pos ⟨rfl, hvalid⟩]
  exact ⟨rfl, rfl⟩

end VoLTECallManager

theorem RadioHAL.removeVoice_same (env : Await → Phone → Phone) (v : ℕ) :
    Passes env SameCalls (RadioHAL.removeVoice v) := by
  intro s
  unfold RadioHAL.removeVoice
  rw [Coro.against_get_bind]
  cases s.radio.remove v with
  | error e => exact ⟨rfl, rfl⟩
  | ok r => exact ⟨rfl, rfl⟩

namespace RadioHAL

open VoLTECallManager

/-- Where `explicit_call_transfer` succeeds, the table is as it was, and the transfer of the held leg is
pending. -/
theorem explicitCallTransfer_against (outcome : ℕ → RequestOutcome) {s s' : Phone} {active held ref : ℕ}
    {result : Result} (hlegs : TwoLegs s active held)
    (href : s.calls.get? (s.radio.voice held).sipCallId = some ref)
    (h : explicitCallTransfer.against (network outcome) s = (.ok result, s'))
    (hresult : result.success = true) :
    s'.calls = s.calls ∧ (s'.call ref).transferPending = true ∧
      (s'.call ref).mediaSession = (s.call ref).mediaSession := by
  have hactive := findLast?_of_filter (p := (·.state = .active)) hlegs.onlyActive
  have hheld := findLast?_of_filter (p := (·.state = .holding)) hlegs.onlyHeld
  unfold explicitCallTransfer at h
  rw [Coro.against_get_bind] at h
  simp only [hactive, hheld] at h
  split at h
  · obtain ⟨r, s₁, hr⟩ : ∃ r s₁, (transferCall (s.radio.voice held).sipCallId
        (s.radio.voice active).number).against (network outcome) s = (r, s₁) := ⟨_, _, rfl⟩
    match r, hr with
    | .error e, hr =>
        rw [Coro.against_bind_error hr] at h
        cases h
    | .ok false, hr =>
        rw [Coro.against_bind_ok hr] at h
        obtain ⟨hr, -⟩ := Prod.mk.inj h
        obtain rfl := Except.ok.inj hr
        cases hresult
    | .ok true, hr =>
        obtain ⟨hcalls, hpending, hmedia⟩ := transferCall_against outcome href hr
        have hkept : SameCalls s₁ s' := by
          rw [Coro.against_bind_ok hr, if_pos rfl] at h
          have hindicate : Passes (network outcome) SameCalls (do
              sendIndication 1001
              return ({ success := true } : Result)) := fun _ => ⟨rfl, rfl⟩
          have hpasses : Passes (network outcome) SameCalls (do
              removeVoice active
              removeVoice held
              sendIndication 1001
              return ({ success := true } : Result)) := by
            refine Passes.bind (fun h h' => h.trans h') (removeVoice_same _ _) fun _ => ?_
            exact Passes.bind (fun h h' => h.trans h') (removeVoice_same _ _) fun _ => hindicate
          have hs' := hpasses s₁
          rw [h] at hs'
          exact hs'
        rw [hkept.calls, hkept.call]
        exact ⟨hcalls, hpending, hmedia⟩
  · obtain ⟨hr, -⟩ := Prod.mk.inj h
    obtain rfl := Except.ok.inj hr
    cases hresult

end RadioHAL

/-! ### The report -/

theorem stopMedia_ends (outcome : ℕ → RequestOutcome) {ref : ℕ} {s : Phone}
    (href : ref < s.callHeap.length) :
    ∃ s', (stopMedia ref).against (network outcome) s = (.ok (), s') ∧ s'.calls = s.calls ∧
      s'.sipClient = s.sipClient ∧
      ∀ m ∈ (s.call ref).mediaSession, ¬s'.SessionActive ref m := by
  unfold stopMedia MediaSession.stop
  rw [Coro.against_get_bind]
  cases hmedia : (s.call ref).mediaSession with
  | none => exact ⟨s, rfl, rfl, rfl, fun m hm => by cases hm⟩
  | some m =>
      refine ⟨_, rfl, rfl, rfl, fun m' hm' => ?_⟩
      obtain rfl := Option.some.inj hm'
      rintro ⟨session, hsession, hactive⟩
      change session ∈ (((s.modifyCall ref
        (VoLTECall.modifySession m (MediaSession.setActive false))).modifyCall ref
          (VoLTECall.setMediaSession none)).call ref).sessions[m]? at hsession
      rw [Phone.call_modifyCall, if_pos ⟨rfl, (List.length_modify _ _ _).symm ▸ href⟩,
        Phone.call_modifyCall, if_pos ⟨rfl, href⟩] at hsession
      simp only [VoLTECall.setMediaSession, VoLTECall.modifySession,
        List.getElem?_modify_eq] at hsession
      obtain ⟨session', -, rfl⟩ := Option.map_eq_some_iff.mp hsession
      cases hactive

namespace VoLTECallManager

theorem hangupCall_ends (outcome : ℕ → RequestOutcome) {callId : Text} {ref : ℕ} {s : Phone}
    (href : s.calls.get? callId = some ref) :
    ∃ b s', (hangupCall callId).against (network outcome) s = (.ok b, s') ∧
      s'.calls = s.calls.erase callId ∧ ∀ m ∈ (s.call ref).mediaSession, ¬s'.SessionActive ref m := by
  have hvalid : ref < s.callHeap.length := s.valid callId ref href
  have hmedia : ((s.popCall callId ref).call ref).mediaSession = (s.call ref).mediaSession := by
    rw [Phone.popCall, Phone.call_modifyCall, if_pos ⟨rfl, hvalid⟩]
    rfl
  have hpopped : ref < (s.popCall callId ref).callHeap.length :=
    (List.length_modify _ _ _).symm ▸ hvalid
  obtain ⟨s₁, hstop, hcalls, hclient, hended⟩ := stopMedia_ends outcome hpopped
  rw [hmedia] at hended
  unfold hangupCall
  rw [Coro.against_get_bind]
  simp only [href]
  rw [Coro.against_modify_bind, Coro.against_bind_ok hstop, Coro.against_get_bind]
  split
  · next hup =>
      obtain ⟨client, hclient⟩ := Option.isSome_iff_exists.mp hup.1
      obtain ⟨s₂, hs₂⟩ : ∃ s₂, s₂ = s₁.modifyCall ref (VoLTECall.setState .terminating) := ⟨_, rfl⟩
      obtain ⟨args, hargs⟩ : ∃ args,
          (onTimeout (ignore (sendDialogRequest ref "BYE" [] [])) (return)).against (network outcome) s₂ =
            (onTimeout (ignore (sendRequest args)) (return)).against (network outcome) s₂ := ⟨_, rfl⟩
      obtain ⟨s₃, hbye, hasked⟩ := ignoredRequest_against outcome args (s := s₂)
        (by rw [hs₂]; exact hclient)
      refine ⟨true, s₃.countActive, ?_, ?_, fun m hm hactive => hended m hm ?_⟩
      · unfold VirtualPhone.modifyCall
        rw [Coro.against_modify_bind, ← hs₂, Coro.against_bind_ok (hargs.trans hbye)]
        rfl
      · show s₃.calls = _
        rw [hasked.calls, hs₂]
        exact hcalls
      · have hsessions : (s₃.call ref).sessions = (s₁.call ref).sessions := by
          rw [Phone.call, hasked.callHeap, hs₂]
          show ((s₁.modifyCall ref _).call ref).sessions = _
          rw [Phone.call_modifyCall]
          split_ifs
          · rfl
          · rfl
        unfold Phone.SessionActive at hactive ⊢
        rw [← hsessions]
        exact hactive
  · exact ⟨false, s₁, rfl, hcalls, hended⟩

/-- The NOTIFY that reports success ends the leg whose transfer is pending. -/
theorem handleIncomingNotify_ends (outcome : ℕ → RequestOutcome) {msg : SIPMessage} (addr : Text × ℕ)
    {ref : ℕ} {s : Phone} (hsuccess : msg.ReadAsSuccess) (href : s.calls.get? msg.callId = some ref)
    (hpending : (s.call ref).transferPending = true) :
    ∃ s', (handleIncomingNotify msg addr).against (network outcome) s = (.ok (), s') ∧
      s'.calls = s.calls.erase msg.callId ∧
      ∀ m ∈ (s.call ref).mediaSession, ¬s'.SessionActive ref m := by
  obtain ⟨hevent, code, hcode, hlow, hhigh⟩ := hsuccess
  have hnotFinal : ¬∃ code ∈ sipfragStatus (decodeUtf8 msg.body), 400 ≤ code := by
    rintro ⟨code', hcode', hle⟩
    obtain rfl := Option.some.inj (hcode.symm.trans hcode')
    omega
  obtain ⟨s₁, hs₁, hcalls, hcall⟩ : ∃ s₁, s₁ = (if s.sipClient.isSome then
      s.send (response msg 200 "OK" msg.callId [] []) addr else s) ∧ s₁.calls = s.calls ∧
        ∀ r, s₁.call r = s.call r := by
    refine ⟨_, rfl, ?_, fun r => ?_⟩
    · split_ifs <;> rfl
    · split_ifs <;> rfl
  obtain ⟨b, s', hrun, hcalls', hended⟩ := hangupCall_ends outcome (hcalls ▸ href)
  refine ⟨s', ?_, hcalls' ▸ hcalls ▸ rfl, hcall ref ▸ hended⟩
  unfold handleIncomingNotify sendIfClient
  rw [Coro.against_get_bind, Coro.against_modify_bind, ← hs₁]
  simp only [href]
  rw [if_neg (not_not.mpr hevent), if_neg hnotFinal]
  unfold Async.when
  rw [if_pos ⟨Or.inl ⟨code, hcode, hlow, hhigh⟩, hpending⟩]
  exact ignore_against hrun

end VoLTECallManager

/-! ### Both legs -/

open VoLTECallManager

/-- **Explicit call transfer.**  For every phone with two legs, every answer of the network and every
NOTIFY that reports success on the transferred leg: where `explicit_call_transfer` succeeds, the
transferred leg is ended, and the active leg is not, unless the two are one call. -/
theorem explicit_transfer_iff (outcome : ℕ → RequestOutcome) {s s₁ s₂ : Phone} {active held : ℕ}
    {result : RadioHAL.Result} {msg : SIPMessage} {addr : Text × ℕ} {r : Except PyError Unit}
    (hlegs : TwoLegs s active held)
    (h₁ : RadioHAL.explicitCallTransfer.against (network outcome) s = (.ok result, s₁))
    (hresult : result.success = true) (hmsg : msg.IsNotify)
    (hcallId : msg.callId = (s.radio.voice held).sipCallId) (hsuccess : msg.ReadAsSuccess)
    (h₂ : (handleIncomingSip msg addr).against (network outcome) s₁ = (r, s₂)) :
    LegEnded (s.radio.voice held).sipCallId s s₂ ∧
      (LegEnded (s.radio.voice active).sipCallId s s₂ ↔
        (s.radio.voice active).sipCallId = (s.radio.voice held).sipCallId) := by
  obtain ⟨ref, href⟩ := (Dict.mem_keys_iff _ _).mp hlegs.heldBound
  obtain ⟨hcalls₁, hpending, hmedia⟩ :=
    RadioHAL.explicitCallTransfer_against outcome hlegs href h₁ hresult
  obtain ⟨s', hrun, hcalls₂, hended⟩ := handleIncomingNotify_ends outcome addr hsuccess
    (hcallId ▸ hcalls₁ ▸ href) hpending
  rw [handleIncomingSip_notify hmsg, hrun] at h₂
  obtain ⟨-, rfl⟩ := Prod.mk.inj h₂
  rw [hcalls₁, hcallId] at hcalls₂
  rw [hmedia] at hended
  have hheld : LegEnded (s.radio.voice held).sipCallId s s' := by
    refine ⟨?_, fun ref' href' => ?_⟩
    · rw [hcalls₂, Dict.get?_erase_self]
    · obtain rfl := Option.some.inj (href.symm.trans href')
      exact hended
  refine ⟨hheld, fun hactive => ?_, fun heq => heq ▸ hheld⟩
  by_contra hne
  obtain ⟨refA, hrefA⟩ := (Dict.mem_keys_iff _ _).mp hlegs.activeBound
  have hgone := hactive.1
  rw [hcalls₂, Dict.get?_erase, if_neg hne, hrefA] at hgone
  cases hgone

/-- The other side takes every request, and offers media in its responses. -/
def acceptAll (_ : ℕ) : RequestOutcome :=
  .final 200 final_ok Dict.empty (encodeUtf8 "c=IN IP4 10.0.0.1\r\nm=audio 4000 RTP/AVP 96".toList)

/-- A phone that has called "1", put the call on hold and called "2". -/
def twoLegsPhone : Phone :=
  ((RadioHAL.dial "1".toList >>= fun _ => RadioHAL.switchWaitingOrHoldingAndActive 2 >>= fun _ =>
    RadioHAL.dial "2".toList).against (network acceptAll) startedPhone.state).2

/-- The phone after its explicit call transfer, with the result of it. -/
def transferredPhone : Except PyError RadioHAL.Result × Phone :=
  RadioHAL.explicitCallTransfer.against (network acceptAll) twoLegsPhone

/-- The transfer of the first call has succeeded. -/
def successNotify : SIPMessage :=
  { method := some "NOTIFY".toList
    headers := Dict.ofList [("Call-ID".toList, "0".toList), ("Event".toList, "refer".toList)]
    body := encodeUtf8 "SIP/2.0 200 OK".toList }

/-- The phone after the NOTIFY. -/
def notifiedPhone : Except PyError Unit × Phone :=
  (handleIncomingSip successNotify ("pcscf".toList, 5060)).against (network acceptAll) transferredPhone.2

theorem twoLegsPhone_legs : TwoLegs twoLegsPhone 1 0 :=
  ⟨by decide +kernel, by decide +kernel, by decide +kernel, by decide +kernel⟩

theorem transferredPhone_success :
    RadioHAL.explicitCallTransfer.against (network acceptAll) twoLegsPhone =
      (.ok { success := true }, transferredPhone.2) := by
  have hresult : transferredPhone.1 = .ok { success := true } := by decide +kernel
  rw [← hresult]
  unfold transferredPhone
  exact (Prod.eta _).symm

theorem notifiedPhone_eq :
    (handleIncomingSip successNotify ("pcscf".toList, 5060)).against (network acceptAll)
      transferredPhone.2 = (notifiedPhone.1, notifiedPhone.2) := by
  unfold notifiedPhone
  exact (Prod.eta _).symm

/-- The transferred leg is ended, and the other one goes on. -/
theorem explicit_transfer_success :
    LegEnded (twoLegsPhone.radio.voice 0).sipCallId twoLegsPhone notifiedPhone.2 ∧
      ¬LegEnded (twoLegsPhone.radio.voice 1).sipCallId twoLegsPhone notifiedPhone.2 := by
  obtain ⟨hmsg, hsuccess, hcallId, hne⟩ : successNotify.IsNotify ∧ successNotify.ReadAsSuccess ∧
      successNotify.callId = (twoLegsPhone.radio.voice 0).sipCallId ∧
      (twoLegsPhone.radio.voice 1).sipCallId ≠ (twoLegsPhone.radio.voice 0).sipCallId := by
    decide +kernel
  have htransfer := explicit_transfer_iff acceptAll twoLegsPhone_legs transferredPhone_success rfl hmsg
    hcallId hsuccess notifiedPhone_eq
  exact ⟨htransfer.1, fun hended => hne (htransfer.2.mp hended)⟩

/-- After the transfer and its NOTIFY the active leg is in the table, and its media run. -/
theorem active_leg_left : TwoLegs twoLegsPhone 1 0 ∧ transferredPhone.1 = .ok { success := true } ∧
    successNotify.IsNotify ∧ successNotify.ReadAsSuccess ∧
    successNotify.callId = (twoLegsPhone.radio.voice 0).sipCallId ∧
    notifiedPhone.2.SessionActive 1 0 ∧
    ¬LegEnded (twoLegsPhone.radio.voice 1).sipCallId twoLegsPhone notifiedPhone.2 := by
  obtain ⟨hresult, hmsg, hsuccess, hcallId, htable, hactive⟩ :
      transferredPhone.1 = .ok { success := true } ∧ successNotify.IsNotify ∧
      successNotify.ReadAsSuccess ∧ successNotify.callId = (twoLegsPhone.radio.voice 0).sipCallId ∧
      notifiedPhone.2.calls.get? (twoLegsPhone.radio.voice 1).sipCallId = some 1 ∧
      notifiedPhone.2.SessionActive 1 0 := by decide +kernel
  refine ⟨twoLegsPhone_legs, hresult, hmsg, hsuccess, hcallId, hactive, fun hended => ?_⟩
  rw [hended.1] at htable
  cases htable

end VirtualPhone
