import VirtualPhone.SipClient

/-! # The handler of a SIP transport

`SIPTransport` of `ims/sip_client.py` over UDP, and the two services that install a handler on it.
`start` creates a datagram endpoint whose protocol object keeps the handler the transport has at
that moment; `set_handler` writes a field of the transport that no endpoint reads again.

The transport is modelled over an arbitrary type of handlers.  `delivered_iff` says for every run of
`set_handler`, `start` and arriving datagrams when an accepted datagram reaches the handler installed
last, and what becomes of the datagrams of the two services. -/

namespace VirtualPhone

open Runtime

/-! ### The transport -/

/-- `SIPTransport`; an endpoint is the handler its protocol object keeps. -/
structure SIPTransport (H : Type) where
  localIp : Text := "0.0.0.0".toList
  localPort : ℕ := 5060
  transport : Text := "UDP".toList
  endpoints : List (Option H) := []
  messageHandler : Option H := none
deriving DecidableEq

namespace SIPTransport

variable {H : Type}

/-- `SIPTransport(local_ip, local_port, transport)`. -/
def create (transport : Text) : SIPTransport H := { transport := transport.map Char.toUpper }

/-- `set_handler(handler)`. -/
def setHandler (t : SIPTransport H) (h : H) : SIPTransport H := { t with messageHandler := some h }

/-- `start()`: over UDP, a new endpoint with the present handler. -/
def start (t : SIPTransport H) : SIPTransport H :=
  if t.transport = "UDP".toList then { t with endpoints := t.endpoints ++ [t.messageHandler] } else t

/-- `datagram_received(data, addr)` of the `k`-th endpoint: the handler that is called, and with
what.  A datagram the parser refuses is logged. -/
def datagramReceived (t : SIPTransport H) (k : ℕ) (data : Bytes) (addr : Text × ℕ) :
    Option (H × SIPMessage × (Text × ℕ)) :=
  match SIPMessage.parse data with
  | .error _ => none
  | .ok msg => ((t.endpoints[k]?).join).map (·, msg, addr)

/-- What happens to a transport. -/
inductive Event (H : Type)
  | setHandler (h : H)
  | start
  | datagram (k : ℕ) (data : Bytes) (addr : Text × ℕ)

/-- One step; a datagram arrives at an endpoint there is, and changes nothing. -/
def step (t : SIPTransport H) : Event H → Option (SIPTransport H)
  | .setHandler h => some (t.setHandler h)
  | .start => some t.start
  | .datagram k _ _ => if k < t.endpoints.length then some t else none

/-- The handler of the most recent `set_handler`. -/
def installed : List (Event H) → Option H
  | [] => none
  | .setHandler h :: es => (installed es).or (some h)
  | .start :: es => installed es
  | .datagram _ _ _ :: es => installed es

/-! ### What a run does to the handler and to the endpoints -/

theorem start_eq {t : SIPTransport H} (h : t.transport = "UDP".toList) :
    t.start = { t with endpoints := t.endpoints ++ [t.messageHandler] } := if_pos h

theorem step_transport {t t' : SIPTransport H} {e : Event H} (h : step t e = some t') :
    t'.transport = t.transport := by
  cases e with
  | setHandler g => obtain rfl := Option.some.inj h; rfl
  | start =>
      obtain rfl := Option.some.inj h
      unfold start
      split_ifs <;> rfl
  | datagram k d a =>
      simp only [step] at h
      split_ifs at h
      obtain rfl := Option.some.inj h
      rfl

theorem step_endpoints {t t' : SIPTransport H} {e : Event H} (h : step t e = some t') :
    t.endpoints <+: t'.endpoints := by
  cases e with
  | setHandler g => obtain rfl := Option.some.inj h; exact List.prefix_rfl
  | start =>
      obtain rfl := Option.some.inj h
      unfold start
      split_ifs
      · exact List.prefix_append _ _
      · exact List.prefix_rfl
  | datagram k d a =>
      simp only [step] at h
      split_ifs at h
      obtain rfl := Option.some.inj h
      exact List.prefix_rfl

theorem run_messageHandler {t t' : SIPTransport H} {es : List (Event H)}
    (h : runFrom step t es = some t') :
    t'.messageHandler = (installed es).or t.messageHandler := by
  induction es generalizing t with
  | nil =>
      obtain rfl : t = t' := Option.some.inj h
      rfl
  | cons e es ih =>
      obtain ⟨t₁, h₁, h₂⟩ := runFrom_cons_some step h
      rw [ih h₂]
      cases e with
      | setHandler g =>
          obtain rfl := Option.some.inj h₁
          rw [installed, Option.or_assoc]
          rfl
      | start =>
          obtain rfl := Option.some.inj h₁
          unfold start
          split_ifs <;> rfl
      | datagram k d a =>
          simp only [step] at h₁
          split_ifs at h₁
          obtain rfl := Option.some.inj h₁
          rfl

theorem run_transport {t t' : SIPTransport H} {es : List (Event H)} (h : runFrom step t es = some t') :
    t'.transport = t.transport :=
  runFrom_rel step (R := fun a b => b.transport = a.transport) (fun _ => rfl)
    (fun hab hbc => hbc.trans hab) (fun _ _ _ => step_transport) h

theorem run_endpoints {t t' : SIPTransport H} {es : List (Event H)} (h : runFrom step t es = some t') :
    t.endpoints <+: t'.endpoints :=
  runFrom_rel step (R := fun a b => a.endpoints <+: b.endpoints) (fun _ => List.prefix_rfl)
    (fun hab hbc => hab.trans hbc) (fun _ _ _ => step_endpoints) h

theorem installed_append (es fs : List (Event H)) :
    installed (es ++ fs) = (installed fs).or (installed es) := by
  induction es with
  | nil => simp [installed]
  | cons e es ih =>
      cases e with
      | setHandler h => rw [List.cons_append, installed, installed, ih, Option.or_assoc]
      | start => exact ih
      | datagram k d a => exact ih

/-- An endpoint keeps the handler that was installed when it was created. -/
theorem run_endpoint {t t₀ s : SIPTransport H} {before after : List (Event H)}
    (hudp : t.transport = "UDP".toList) (hnone : t.messageHandler = none)
    (hbefore : runFrom step t before = some t₀)
    (hrun : runFrom step t (before ++ .start :: after) = some s) :
    s.endpoints[t₀.endpoints.length]? = some (installed before) := by
  rw [runFrom_append, hbefore, Option.bind_some] at hrun
  obtain ⟨t₁, h₁, h₂⟩ := runFrom_cons_some step hrun
  obtain rfl := Option.some.inj h₁
  have hnew : t₀.start.endpoints = t₀.endpoints ++ [installed before] := by
    rw [start_eq ((run_transport hbefore).trans hudp), run_messageHandler hbefore, hnone, Option.or_none]
  obtain ⟨rest, hrest⟩ := run_endpoints h₂
  rw [← hrest, hnew, List.append_assoc, List.getElem?_append_right (Nat.le_refl _), Nat.sub_self]
  rfl

end SIPTransport

/-! ### The services -/

/-- The handlers the client and the services install. -/
inductive SIPHandler
  /-- `SIPClient._handle_message`. -/
  | client
  /-- `VoLTECallManager._handle_incoming_sip`. -/
  | volte
  /-- `SMSoverIMS._handle_incoming_sip`. -/
  | sms
deriving DecidableEq

/-- `SIPClient.start()`, on the transport of the client. -/
def SIPClient.start (t : SIPTransport SIPHandler) : SIPTransport SIPHandler :=
  (t.setHandler .client).start

/-- `VoLTECallManager.start()`: the transport of its client, when a P-CSCF address is set. -/
def VoLTECallManager.start (pcscfAddress transport : Text) : Option (SIPTransport SIPHandler) :=
  if pcscfAddress = [] then none
  else some ((SIPClient.start (SIPTransport.create transport)).setHandler .volte)

/-- `SMSoverIMS.start()`: the transport of its client, when a P-CSCF address is set. -/
def SMSoverIMS.start (pcscfAddress transport : Text) : Option (SIPTransport SIPHandler) :=
  if pcscfAddress = [] then none
  else some ((SIPClient.start (SIPTransport.create transport)).setHandler .sms)

/-- The message reaches `SIPClient._handle_message` only, which does nothing with it. -/
def Dropped (t : SIPTransport SIPHandler) (data : Bytes) (addr : Text × ℕ) : Prop :=
  ∃ msg, t.datagramReceived 0 data addr = some (.client, msg, addr) ∧
    ∀ s : Session, s.handleMessage msg = s

theorem SIPMessage.parse_isResponse {data : Bytes} {msg : SIPMessage} (h : parse data = .ok msg) :
    msg.isResponse = !msg.isRequest := by
  have hstart : ∀ {line : Text} {m : SIPMessage}, parseStartLine line = .ok m →
      m.isResponse = !m.isRequest := by
    intro line m hm
    unfold parseStartLine at hm
    simp only at hm
    split_ifs at hm with hpre
    · split at hm
      · obtain ⟨code, -, hm⟩ := bind_eq_ok hm
        obtain rfl := Except.ok.inj hm
        rfl
      · cases hm
    · obtain rfl := Except.ok.inj hm
      rfl
  unfold parse at h
  split at h
  · cases h
  · obtain ⟨m, hm, h⟩ := bind_eq_ok h
    obtain rfl := Except.ok.inj h
    have hm' := hstart hm
    exact hm'

/-- A started service whose handler came after the endpoint drops every request. -/
theorem dropped_of_client_endpoint {t : SIPTransport SIPHandler} {es : List (SIPTransport.Event SIPHandler)}
    {s : SIPTransport SIPHandler} (hend : t.endpoints[0]? = some (some .client))
    (hrun : runFrom SIPTransport.step t es = some s) {data : Bytes} {msg : SIPMessage}
    (hparse : SIPMessage.parse data = .ok msg) (hreq : msg.isRequest = true) (addr : Text × ℕ) :
    Dropped s data addr := by
  obtain ⟨rest, hrest⟩ := SIPTransport.run_endpoints hrun
  have hend' : s.endpoints[0]? = some (some .client) := by
    rw [← hrest, List.getElem?_append_left (List.getElem?_eq_some_iff.mp hend).1, hend]
  refine ⟨msg, ?_, ?_⟩
  · unfold SIPTransport.datagramReceived
    simp only [hparse, hend']
    rfl
  · intro s
    refine s.handleMessage_of_not_isResponse ?_
    rw [SIPMessage.parse_isResponse hparse, hreq]
    rfl

/-- **Dispatch.**  Over any run of a UDP transport, an accepted datagram at an endpoint reaches the
handler installed last exactly when no other handler than the one of the endpoint's creation was
installed since.  Both services install theirs after their endpoint has been created, so from then
on every request that arrives there is dropped. -/
theorem delivered_iff {H : Type} {t t₀ s : SIPTransport H} (before after : List (SIPTransport.Event H))
    {data : Bytes} {msg : SIPMessage} (addr : Text × ℕ) (hudp : t.transport = "UDP".toList)
    (hnone : t.messageHandler = none) (hbefore : runFrom SIPTransport.step t before = some t₀)
    (hrun : runFrom SIPTransport.step t (before ++ .start :: after) = some s)
    (hparse : SIPMessage.parse data = .ok msg) :
    ((∀ h, SIPTransport.installed (before ++ .start :: after) = some h →
        s.datagramReceived t₀.endpoints.length data addr = some (h, msg, addr)) ↔
      ∀ h, SIPTransport.installed after = some h → SIPTransport.installed before = some h) ∧
    ∀ (pcscfAddress transport : Text) (started s : SIPTransport SIPHandler)
        (es : List (SIPTransport.Event SIPHandler)),
      transport.map Char.toUpper = "UDP".toList →
      VoLTECallManager.start pcscfAddress transport = some started ∨
        SMSoverIMS.start pcscfAddress transport = some started →
      runFrom SIPTransport.step started es = some s → msg.isRequest = true →
      Dropped s data addr := by
  refine ⟨?_, ?_⟩
  · have hend := SIPTransport.run_endpoint hudp hnone hbefore hrun
    have hdelivered : s.datagramReceived t₀.endpoints.length data addr =
        (SIPTransport.installed before).map (·, msg, addr) := by
      unfold SIPTransport.datagramReceived
      simp only [hparse, hend]
      rfl
    have hstart : SIPTransport.installed (.start :: after) = SIPTransport.installed after := rfl
    rw [hdelivered, SIPTransport.installed_append, hstart]
    constructor
    · intro h g hg
      have := h g (by rw [hg]; rfl)
      obtain ⟨g', hg', heq⟩ := Option.map_eq_some_iff.mp this
      rw [hg', (Prod.mk.inj heq).1]
    · intro h g hg
      cases hafter : SIPTransport.installed after with
      | none =>
          rw [hafter, Option.none_or] at hg
          rw [hg]
          rfl
      | some g' =>
          rw [hafter] at hg
          obtain rfl : g' = g := Option.some.inj hg
          rw [h g' hafter]
          rfl
  · intro pcscfAddress transport started s es hudp hstart hrun hreq
    have hclient : (SIPClient.start (SIPTransport.create transport)).endpoints[0]? =
        some (some .client) := by
      rw [SIPClient.start, SIPTransport.start_eq hudp]
      rfl
    refine dropped_of_client_endpoint ?_ hrun hparse hreq addr
    rcases hstart with hstart | hstart
    · unfold VoLTECallManager.start at hstart
      split_ifs at hstart
      obtain rfl := Option.some.inj hstart
      exact hclient
    · unfold SMSoverIMS.start at hstart
      split_ifs at hstart
      obtain rfl := Option.some.inj hstart
      exact hclient

/-- An incoming call. -/
def inviteData : Bytes := encodeUtf8 "INVITE sip:a SIP/2.0\r\n\r\n".toList

/-- The one order that works, and the one both services use. -/
theorem delivered_iff_invite :
    (∃ msg, (SIPTransport.start ((SIPTransport.create "UDP".toList).setHandler SIPHandler.volte)
        ).datagramReceived 0 inviteData ("pcscf".toList, 5060) =
          some (.volte, msg, ("pcscf".toList, 5060))) ∧
      ∃ t, VoLTECallManager.start "pcscf".toList "UDP".toList = some t ∧
        Dropped t inviteData ("pcscf".toList, 5060) := by
  have hparse : ∃ msg, SIPMessage.parse inviteData = .ok msg ∧ msg.isRequest = true := by
    refine ⟨{ method := some "INVITE".toList, requestUri := some "sip:a".toList }, ?_, rfl⟩
    decide +kernel
  obtain ⟨msg, hparse, hreq⟩ := hparse
  have h := delivered_iff (H := SIPHandler) (t := SIPTransport.create "UDP".toList)
    [.setHandler .volte] [] ("pcscf".toList, 5060) (by decide) rfl rfl rfl hparse
  exact ⟨⟨msg, h.1.mpr (fun h hh => by cases hh) .volte rfl⟩, _, rfl,
    h.2 "pcscf".toList "UDP".toList _ _ [] (by decide) (Or.inl rfl) rfl hreq⟩

/-- After `VoLTECallManager.start` its handler is the one installed last, and an INVITE does not
reach it. -/
theorem invite_not_delivered :
    ∃ t msg, VoLTECallManager.start "pcscf".toList "UDP".toList = some t ∧
      t.messageHandler = some .volte ∧ SIPMessage.parse inviteData = .ok msg ∧
      t.datagramReceived 0 inviteData ("pcscf".toList, 5060) =
        some (.client, msg, ("pcscf".toList, 5060)) := by
  have hparse : SIPMessage.parse inviteData =
      .ok { method := some "INVITE".toList, requestUri := some "sip:a".toList } := by
    decide +kernel
  refine ⟨_, _, rfl, rfl, hparse, ?_⟩
  unfold SIPTransport.datagramReceived
  rw [hparse]
  rfl

end VirtualPhone
