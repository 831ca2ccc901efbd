import VirtualPhone.SmsSessions

/-! # The commands of the SMS service keep their contracts

`serve_serves`: every call of a method of the service keeps the contract of its number, whatever state
it is resumed in, and returns what its record says. -/

namespace VirtualPhone

open Runtime
open Coro (get modify raise attempt)

namespace SmsService

/-- A command in a segment that began in `s₀`, where `d` accepted messages have yet to be counted. -/
structure Underway (k : ℕ) (cmd : SmsCommand) (d : ℕ) (s₀ s : SmsService) : Prop where
  does : Does k cmd s₀ s
  coherent : Coherent d s
  keeps : cmd.Keeps s.config (s.record k)

/-- The contract of command `k`. -/
def contract (k : ℕ) (cmd : SmsCommand) : Contract SmsService SmsAwait where
  rely := Relies k
  guar := Underway k cmd 0
  resumes w s := isReady w s = true ∧ Coherent 0 s
  rely_trans := Shift.trans

section

variable {k d : ℕ} {cmd : SmsCommand} {s₀ s : SmsService}

theorem Underway.change {d' : ℕ} {s' : SmsService} (h : Underway k cmd d s₀ s)
    (hdoes : Does k cmd s s') (hrecord : s'.record k = s.record k) (hcoherent : Coherent d' s') :
    Underway k cmd d' s₀ s' :=
  ⟨h.does.trans hdoes, hcoherent, by rw [hdoes.shift.config, hrecord]; exact h.keeps⟩

theorem Underway.iff_of_nil (hrecord : s.record k = ⟨[], [], []⟩) :
    Underway k cmd d s₀ s ↔ Does k cmd s₀ s ∧ Coherent d s := by
  refine ⟨fun h => ⟨h.does, h.coherent⟩, fun h => ⟨h.1, h.2, ?_⟩⟩
  rw [hrecord]
  exact SmsCommand.keeps_nil _ _

/-! ### Transmissions -/

theorem record_beginTransmission (hnone : (s.record k).transmissions = []) (message : SIPMessage)
    (dest : Text × ℕ) : ((s.beginTransmission k message dest).record k).transmissions =
      [{ command := k, message, dest, outcome := if s.overTcp then none else some s.socket }] := by
  change transmissionJournal.of k (s.transmissions ++ [_]) = _
  rw [Journal.of_append, Journal.of_singleton (J := transmissionJournal) (k := k) rfl]
  change (s.record k).transmissions ++ _ = _
  rw [hnone]
  rfl

/-- **A transmission.**  After it, the transmission is the only one of its command, and has the outcome
of the whole. -/
theorem transmit_meets {message : SIPMessage} {dest : Text × ℕ}
    {post : SmsService → Except PyError Unit → SmsService → Prop} (hdoes : Does k cmd s₀ s)
    (hcoherent : Coherent 0 s) (hnone : (s.record k).transmissions = [])
    (hkeeps : cmd.Keeps s.config ((s.beginTransmission k message dest).record k))
    (hpost : ∀ s₁ s' t outcome, Does k cmd s₁ s' → Coherent 0 s' →
      Relies k (s.beginTransmission k message dest) s' → (s'.record k).transmissions = [t] →
      t.packet = (message, dest) → t.outcome = some outcome → post s₁ outcome s') :
    (transmit k message dest).Meets (contract k cmd) post s₀ s := by
  have hdoes' := hdoes.trans (does_beginTransmission k cmd message dest s)
  have hcoherent' := hcoherent.beginTransmission (k := k) message dest
  have hplace : (s.beginTransmission k message dest).transmissions[s.transmissions.length]? =
      some { command := k, message, dest, outcome := if s.overTcp then none else some s.socket } :=
    List.getElem?_concat_length
  have honly := record_beginTransmission hnone message dest
  refine Coro.meets_get_bind.mpr (Coro.meets_modify_bind.mpr ?_)
  by_cases htcp : s.overTcp = true
  · rw [if_pos htcp]
    refine Coro.meets_await_bind.mpr ⟨⟨hdoes', hcoherent', hkeeps⟩, fun s' hrely hresumes => ?_⟩
    obtain ⟨t, ht, hlater⟩ := hrely.transmissions.getElem? hplace rfl
    obtain ⟨outcome, houtcome⟩ : ∃ outcome, t.outcome = some outcome := by
      have hready : (s'.transmissions[s.transmissions.length]?.bind Transmission.outcome).isSome :=
        hresumes.1
      rw [ht] at hready
      exact Option.isSome_iff_exists.mp hready
    refine Coro.meets_get_bind.mpr ?_
    rw [ht, Option.bind_some, houtcome]
    refine hpost s' s' t outcome (.refl _ _ _) hresumes.2 hrely ?_ hlater.2.1 houtcome
    have hrecord := (hrely.record rfl).transmissions
    rw [honly] at hrecord
    obtain ⟨t', ht', -⟩ := Journal.AllLater.singleton hrecord
    rw [ht', ← Journal.eq_of_getElem? ht' ht hlater.1]
  · rw [if_neg htcp]
    refine hpost s₀ _ _ s.socket hdoes' hcoherent' (.refl _) honly rfl ?_
    rw [if_neg htcp]

/-! ### Requests -/

/-- A request at its place, the only one of its command. -/
structure At (k i : ℕ) (q : Posting) (t : Call) (s : SmsService) : Prop where
  place : s.requests[i]? = some (q, t)
  command : q.command = k
  only : (s.record k).requests = [(q, t)]

namespace At

variable {i : ℕ} {q : Posting} {t : Call}

theorem relies (h : At k i q t s) {s' : SmsService} (hrely : Relies k s s') :
    ∃ t', At k i q t' s' ∧ t.Later t' := by
  obtain ⟨⟨q', t'⟩, hplace, hq, hlater⟩ := hrely.requests.getElem? h.place h.command
  obtain rfl : q' = q := hq
  have hrecord := (hrely.record rfl).requests
  rw [h.only] at hrecord
  obtain ⟨x, hx, -⟩ := Journal.AllLater.singleton hrecord
  refine ⟨t', ⟨hplace, h.command, ?_⟩, hlater⟩
  rw [hx, ← Journal.eq_of_getElem? hx hplace h.command]

theorem call (h : At k i q t s) {c : Session} (hc : s.sipClient = some c) : c.calls[i]? = some t := by
  have hplace := h.place
  rw [requests, calls_eq hc, List.getElem?_zip_eq_some] at hplace
  exact hplace.2

theorem change (h : At k i q t s) {c c' : Session} (hc : s.sipClient = some c) {f : Call → Call}
    (hcalls : c'.calls = c.calls.modify i f) : At k i q (f t) { s with sipClient := some c' } := by
  have hrequests : ({ s with sipClient := some c' } : SmsService).requests =
      s.requests.modify i (Prod.map id f) := by
    change s.postings.zip c'.calls = _
    rw [hcalls, Journal.zip_modify, requests, calls_eq hc]
  refine ⟨?_, h.command, ?_⟩
  · rw [hrequests, List.getElem?_modify_eq, h.place]
    rfl
  · change requestJournal.of k _ = _
    rw [hrequests, Journal.of_modify (f := Prod.map id f) h.only h.place h.command h.command]
    rfl

end At

/-- How a request ends. -/
inductive RequestEnd (t : Call) : Except PyError SIPMessage → Prop
  | returned {m : SIPMessage} : t.phase = .returned m → RequestEnd t (.ok m)
  | timedOut : t.phase = .raised t.timeoutError → RequestEnd t (.error t.timeoutError)
  | late : t.phase = .raised (.keyError t.cid) → RequestEnd t (.error (.keyError t.cid))
  | unsent {e : PyError} : t.phase = .sending → RequestEnd t (.error e)

/-- The accepted messages that a request leaves to be counted. -/
def uncounted : Except PyError SIPMessage → ℕ
  | .ok m => m.acceptsMessage.toNat
  | .error _ => 0

theorem Coherent.beginRequest {c : Session} {attempt : ℕ} {tpdu : Bytes} {args : RequestArgs}
    (h : Coherent d s) (hc : s.sipClient = some c) (hcid : args.callId = none)
    (hfresh : ∀ q ∈ s.postings, q.attempt < attempt) (hattempt : attempt < s.attempts)
    (hcarries : ({ command := k, attempt, tpdu } : Posting).CarriedBy s.config
      { cid := args.cid (s.random c.calls.length)
        request := c.client.request args (s.random c.calls.length) }) :
    Coherent d (s.beginRequest k attempt tpdu args c) ∧
      (s.beginRequest k attempt tpdu args c).requests = s.requests ++
        [({ command := k, attempt, tpdu }, { cid := args.cid (s.random c.calls.length)
                                             request := c.client.request args
                                               (s.random c.calls.length) })] := by
  obtain ⟨c', hc', hexchanges⟩ := h.client
  obtain rfl := Option.some.inj (hc.symm.trans hc')
  have hlength := hexchanges.length
  have hrequests : (s.beginRequest k attempt tpdu args c).requests = s.requests ++
      [({ command := k, attempt, tpdu }, { cid := args.cid (s.random c.calls.length)
                                           request := c.client.request args
                                             (s.random c.calls.length) })] := by
    change (s.postings ++ [_]).zip (c.calls ++ [_]) = _
    rw [List.zip_append hlength.symm, requests, calls_eq hc]
    rfl
  refine ⟨⟨⟨_, rfl, ?_⟩, h.rpRef, ?_, fun q hq => ?_, fun x hx => ?_, ?_, h.received⟩, hrequests⟩
  · have hnew := hexchanges.sendRequest hcid
    rw [← hlength] at hnew
    change Exchanges (s.postings ++ [_]).length s.random s.arrived _
    rw [List.length_append, List.length_singleton, ← hlength]
    exact hnew
  · refine List.pairwise_append.mpr ⟨h.increasing, List.pairwise_singleton .., fun q hq q' hq' => ?_⟩
    rw [List.mem_singleton.mp hq']
    exact hfresh q hq
  · rcases List.mem_append.mp hq with hq | hq
    · exact h.bounded q hq
    · rw [List.mem_singleton.mp hq]
      exact hattempt
  · rw [hrequests] at hx
    rcases List.mem_append.mp hx with hx | hx
    · exact h.carries x hx
    · rw [List.mem_singleton.mp hx]
      exact hcarries
  · have hsent := h.sent
    rw [calls_eq hc] at hsent
    change s.state.messagesSent + d = (c.calls ++ [_]).countP Call.accepted
    rw [List.countP_append, hsent]
    rfl

/-- The only request of a command, which was sent to the P-CSCF, and nothing else. -/
structure Posted (k i : ℕ) (q : Posting) (t : Call) (cfg : SMSConfig) (s : SmsService) : Prop
    extends At k i q t s where
  transmitted : ∃ x, (s.record k).transmissions = [x] ∧ x.packet = (t.request, cfg.dest)
  quiet : (s.record k).mtCalls = []
  config : s.config = cfg

namespace Posted

variable {i : ℕ} {q : Posting} {t : Call} {cfg : SMSConfig}

theorem keeps (h : Posted k i q t cfg s)
    (hreads : ∃ smscPdu pdu smsc, cmd = .sendSms smscPdu pdu ∧
      parsePduFromRil pdu = .ok (smsc, q.tpdu)) : cmd.Keeps s.config (s.record k) := by
  obtain ⟨x, hx, hpacket⟩ := h.transmitted
  refine ⟨fun y hy => ?_, ?_, ?_, ?_, fun hne => absurd h.quiet hne⟩
  · rw [h.only] at hy
    rw [List.mem_singleton.mp hy]
    exact hreads
  · rw [h.only]
    exact le_rfl
  · rw [h.only, hx, List.map_singleton, List.map_singleton, hpacket, h.config]
    exact List.prefix_append _ _
  · rw [h.quiet]
    exact List.nil_prefix

theorem relies (h : Posted k i q t cfg s) {s' : SmsService} (hrely : Relies k s s') :
    ∃ t', Posted k i q t' cfg s' ∧ t.Later t' := by
  obtain ⟨t', hat, hlater⟩ := h.toAt.relies hrely
  obtain ⟨x, hx, hpacket⟩ := h.transmitted
  have hrecord := hrely.record rfl
  have htransmissions := hrecord.transmissions
  rw [hx] at htransmissions
  obtain ⟨x', hx', hlater'⟩ := Journal.AllLater.singleton htransmissions
  have hquiet := hrecord.mtCalls
  rw [h.quiet] at hquiet
  refine ⟨t', ⟨hat, ⟨x', hx', ?_⟩, Journal.AllLater.eq_nil hquiet, hrely.config.trans h.config⟩, hlater⟩
  rw [hlater'.2.1, hpacket, hlater.2.1]

theorem change (h : Posted k i q t cfg s) {c c' : Session} (hc : s.sipClient = some c)
    {f : Call → Call} (hcalls : c'.calls = c.calls.modify i f) (hf : (f t).request = t.request) :
    Posted k i q (f t) cfg { s with sipClient := some c' } :=
  ⟨h.toAt.change hc hcalls, by rw [hf]; exact h.transmitted, h.quiet, h.config⟩

end Posted

/-- The end of a request whose response is there or whose time is up. -/
theorem receiveResponse_meets {i : ℕ} {q : Posting} {t : Call} {cfg : SMSConfig}
    {post : SmsService → Except PyError SIPMessage → SmsService → Prop}
    (hreads : ∃ smscPdu pdu smsc, cmd = .sendSms smscPdu pdu ∧
      parsePduFromRil pdu = .ok (smsc, q.tpdu)) (hposted : Posted k i q t cfg s)
    (hready : isReady (.response i) s = true) (hcoherent : Coherent 0 s)
    (hpost : ∀ s' t r, Underway k cmd (uncounted r) s s' → (s'.record k).requests = [(q, t)] →
      RequestEnd t r → post s r s') : (receiveResponse i).Meets (contract k cmd) post s s := by
  obtain ⟨c, hc, hexchanges⟩ := hcoherent.client
  have hcall := hposted.call hc
  have hlast : ∀ (c' : Session) (phase : Phase) (r : Except PyError SIPMessage),
      c'.calls = c.calls.modify i (Call.withPhase phase) →
      Exchanges s.postings.length s.random s.arrived c' →
      (t.withPhase phase).accepted.toNat = uncounted r → t.accepted = false →
      Posted k i q (t.withPhase phase) cfg { s with sipClient := some c' } ∧
        Underway k cmd (uncounted r) s { s with sipClient := some c' } := by
    intro c' phase r hcalls hexchanges' hnew hold
    have hposted' := hposted.change hc hcalls rfl
    refine ⟨hposted', does_client hc hcalls hposted.place hposted.command, ?_, hposted'.keeps hreads⟩
    refine hcoherent.change hc hexchanges' hcalls (fun _ => rfl) ?_
    have hcount := Journal.countP_modify hcall (Call.withPhase phase) Call.accepted
    rw [hold, hnew] at hcount
    rw [hcalls]
    exact hcount
  refine Coro.meets_get_bind.mpr ?_
  rw [hc, Option.bind_some]
  cases hresponse : c.response? i with
  | some m =>
      obtain ⟨t', ht, hphase, hfuture⟩ := Session.response?_eq_some hresponse
      obtain rfl := Option.some.inj (hcall.symm.trans ht)
      have hresumed : s.modifyClient (Session.perform (.resume i)) =
          { s with sipClient := some (c.updateCall i (Call.withPhase (.returned m))) } := by
        rw [modifyClient, hc, Option.map_some, Session.perform_resume hcall hphase hfuture]
      have hold : t.accepted = false := by
        unfold Call.accepted
        rw [hphase]
      refine Coro.meets_modify_bind.mpr ?_
      rw [hresumed]
      obtain ⟨hposted', hunderway⟩ := hlast _ (.returned m) (.ok m) rfl
        (hexchanges.resume hcall hphase hfuture) rfl hold
      exact hpost _ _ _ hunderway hposted'.only (.returned rfl)
  | none =>
      have hsettled : c.settled i = true := by
        change (s.sipClient.map (·.settled i)).getD false = true at hready
        rw [hc] at hready
        exact hready
      obtain ⟨t', ht, hphase⟩ := Session.expired_of_settled hsettled hresponse
      obtain rfl := Option.some.inj (hcall.symm.trans ht)
      have htimedOut : s.modifyClient (Session.perform (.timeOut i)) =
          { s with sipClient := some (c.timeOut i t) } := by
        rw [modifyClient, hc, Option.map_some, Session.perform_timeOut hcall hphase]
      have hold : t.accepted = false := by
        unfold Call.accepted
        rw [hphase]
      refine Coro.meets_modify_bind.mpr ?_
      rw [htimedOut]
      obtain ⟨hposted', hunderway⟩ := hlast _ (.raised (c.lateError t)) (.error (c.lateError t))
        Session.timeOut_calls (hexchanges.timeOut hcall hphase) rfl hold
      have hraised : (c.timeOut i t).calls[i]? = some (t.withPhase (.raised (c.lateError t))) :=
        hposted'.call rfl
      refine Coro.meets_get_bind.mpr ?_
      rw [Option.bind_some, hraised]
      refine hpost _ _ (.error (c.lateError t)) hunderway hposted'.only ?_
      unfold Session.lateError
      split_ifs with hreg
      · exact .timedOut rfl
      · exact .late rfl

/-- **A request.**  It is the only one of its command, and ends as its phase says. -/
theorem sendRequest_meets {attempt : ℕ} {tpdu : Bytes} {args : RequestArgs}
    {post : SmsService → Except PyError SIPMessage → SmsService → Prop} (hdoes : Does k cmd s₀ s)
    (hcoherent : Coherent 0 s) (hrecord : s.record k = ⟨[], [], []⟩) (hcid : args.callId = none)
    (hdest : args.dest = s.config.dest)
    (hreads : ∃ smscPdu pdu smsc, cmd = .sendSms smscPdu pdu ∧ parsePduFromRil pdu = .ok (smsc, tpdu))
    (hfresh : ∀ q ∈ s.postings, q.attempt < attempt) (hattempt : attempt < s.attempts)
    (hcarries : ∀ (c : SIPClient) ids cid, ({ command := k, attempt, tpdu } : Posting).CarriedBy
      s.config { cid, request := c.request args ids })
    (hpost : ∀ s₁ s' q t r, Underway k cmd (uncounted r) s₁ s' →
      (s'.record k).requests = [(q, t)] → q.tpdu = tpdu → RequestEnd t r → post s₁ r s') :
    (sendRequest k attempt tpdu args).Meets (contract k cmd) post s₀ s := by
  obtain ⟨c, hc, hexchanges⟩ := hcoherent.client
  refine Coro.meets_get_bind.mpr ?_
  simp only [hc]
  refine Coro.meets_modify_bind.mpr ?_
  obtain ⟨hbegun, hrequests⟩ := hcoherent.beginRequest hc hcid hfresh hattempt (hcarries _ _ _)
  have hplace : (s.beginRequest k attempt tpdu args c).requests[c.calls.length]? =
      some ({ command := k, attempt, tpdu }, { cid := args.cid (s.random c.calls.length)
                                               request := c.client.request args
                                                 (s.random c.calls.length) }) := by
    have hlength : c.calls.length = s.requests.length := by
      rw [requests, List.length_zip, calls_eq hc, hexchanges.length, min_self]
    rw [hrequests, hlength, List.getElem?_concat_length]
  have honly : ((s.beginRequest k attempt tpdu args c).record k).requests =
      [({ command := k, attempt, tpdu }, { cid := args.cid (s.random c.calls.length)
                                           request := c.client.request args
                                             (s.random c.calls.length) })] := by
    change requestJournal.of k (s.beginRequest k attempt tpdu args c).requests = _
    rw [hrequests, Journal.of_append, Journal.of_singleton (J := requestJournal) (k := k) rfl]
    change (s.record k).requests ++ _ = _
    rw [hrecord]
    rfl
  have hdoes₁ : Does k cmd s (s.beginRequest k attempt tpdu args c) := by
    refine ⟨⟨?_, .refl _, .refl _, id, rfl, rfl, rfl⟩, ⟨le_rfl, le_max_left _ _⟩, fun _ h => .inl h⟩
    rw [hrequests]
    exact .append_singleton (not_not_intro rfl)
  have hposted : Posted k c.calls.length { command := k, attempt, tpdu }
      { cid := args.cid (s.random c.calls.length)
        request := c.client.request args (s.random c.calls.length) } s.config
      ((s.beginRequest k attempt tpdu args c).beginTransmission k
        (c.client.request args (s.random c.calls.length)) args.dest) := by
    have htransmissions : ((s.beginRequest k attempt tpdu args c).record k).transmissions = [] :=
      congrArg SmsRecord.transmissions hrecord
    refine ⟨⟨hplace, rfl, honly⟩, ⟨_, record_beginTransmission htransmissions _ _, ?_⟩,
      congrArg SmsRecord.mtCalls hrecord, rfl⟩
    rw [← hdest]
    rfl
  refine Coro.meets_bind.mpr (transmit_meets (hdoes.trans hdoes₁) hbegun
    (congrArg SmsRecord.transmissions hrecord) (hposted.keeps hreads) ?_)
  intro s₂ s₃ x outcome hdoes₃ hcoherent₃ hrely₃ _ _ _
  obtain ⟨t₃, hposted₃, hlater₃⟩ := hposted.relies hrely₃
  have hphase₃ : t₃.phase = .sending := hlater₃.phase (by simp)
  cases outcome with
  | error e =>
      exact hpost s₂ s₃ _ t₃ (.error e) ⟨hdoes₃, hcoherent₃, hposted₃.keeps hreads⟩ hposted₃.only rfl
        (.unsent hphase₃)
  | ok _ =>
      obtain ⟨c₃, hc₃, hexchanges₃⟩ := hcoherent₃.client
      have hcall₃ := hposted₃.call hc₃
      have hsent : s₃.modifyClient (Session.perform (.sent c.calls.length)) =
          { s₃ with sipClient := some (c₃.updateCall c.calls.length (Call.withPhase .waiting)) } := by
        rw [modifyClient, hc₃, Option.map_some, Session.perform_sent hcall₃ hphase₃]
      refine Coro.meets_modify_bind.mpr ?_
      rw [hsent]
      have hcalls₄ : (c₃.updateCall c.calls.length (Call.withPhase .waiting)).calls =
          c₃.calls.modify c.calls.length (Call.withPhase .waiting) := rfl
      have hposted₄ := hposted₃.change hc₃ hcalls₄ rfl
      refine Coro.meets_await_bind.mpr ⟨⟨?_, ?_, hposted₄.keeps hreads⟩, fun s₅ hrely₅ hresumes₅ => ?_⟩
      · exact hdoes₃.trans (does_client hc₃ rfl hposted₃.place rfl)
      · refine hcoherent₃.change hc₃ (hexchanges₃.sent hcall₃ hphase₃) rfl (fun _ => rfl) ?_
        rw [Session.updateCall, Journal.countP_modify_eq fun t ht => ?_]
        obtain rfl := Option.some.inj (hcall₃.symm.trans ht)
        unfold Call.accepted Call.withPhase
        rw [hphase₃]
      · obtain ⟨t₅, hposted₅, -⟩ := hposted₄.relies hrely₅
        exact receiveResponse_meets hreads hposted₅ hresumes₅.1 hresumes₅.2
          fun s' t r hunderway honly hend => hpost s₅ s' _ t r hunderway honly rfl hend

/-! ### Sending -/

theorem Coherent.nextRpRef (h : Coherent d s) :
    Coherent d { s with rpRef := (s.rpRef + 1) &&& 0xFF, attempts := s.attempts + 1 } := by
  refine ⟨h.client, ?_, h.increasing, fun q hq => Nat.lt_succ_of_lt (h.bounded q hq), h.carries, h.sent,
    h.received⟩
  have hmask : (s.rpRef + 1) &&& 0xFF = (s.rpRef + 1) % 256 := and_mask _ 8
  change (s.rpRef + 1) &&& 0xFF = (s.attempts + 1) % 256
  rw [hmask, h.rpRef, Nat.mod_add_mod]

/-- A relay message for a TPDU is written exactly when the TPDU has a length octet. -/
theorem wrapMo_toBytes {tpdu : Bytes} (reference : ℕ) :
    (∃ e, (({ msgType := .rpDataMo, reference, tpdu } : RPData).toBytes = .error e ∧ 256 ≤ tpdu.length)) ∨
      ∃ body, ({ msgType := .rpDataMo, reference, tpdu } : RPData).toBytes = .ok body ∧
        RPData.fromBytes body = .ok { msgType := .rpDataMo, reference := reference % 256, tpdu } := by
  cases h : ({ msgType := .rpDataMo, reference, tpdu } : RPData).toBytes with
  | error e =>
      refine .inl ⟨e, rfl, ?_⟩
      by_contra hlt
      have hok := (RPData.toBytes_eq_ok_iff { msgType := .rpDataMo, reference, tpdu } _).mpr
        ⟨⟨by simp, by simp, by simpa using hlt⟩, rfl⟩
      rw [h] at hok
      cases hok
  | ok body => exact .inr ⟨body, rfl, RPData.fromBytes_toBytes h⟩

/-- What `send_sms` returns for what its `try` block ends with. -/
def resultOf : Except PyError SmsResult → SmsResult
  | .ok res => res
  | .error _ => { messageRef := 0, errorCode := 1 }

theorem finishSms_meets {smscPdu pdu : Text} {q : Posting} {t : Call}
    {r : Except PyError SIPMessage} {submit : SMSSubmit}
    (h : Underway k (.sendSms smscPdu pdu) (uncounted r) s₀ s) (honly : (s.record k).requests = [(q, t)])
    (hsubmit : SMSSubmit.fromBytes q.tpdu = .ok submit) (hend : RequestEnd t r) :
    (readDelivery r >>= finishSms submit.messageRef).Meets (contract k (.sendSms smscPdu pdu))
      (fun s₁ r s' => Underway k (.sendSms smscPdu pdu) 0 s₁ s' ∧
        Sent pdu False (s'.record k).requests (resultOf r)) s₀ s := by
  have hfailed : ∀ ref, Sent pdu False [(q, t)] { messageRef := ref, errorCode := 1 } →
      uncounted r = 0 →
      Underway k (.sendSms smscPdu pdu) 0 s₀ (s.setLastError "SIP MESSAGE failed".toList) ∧
        Sent pdu False ((s.setLastError "SIP MESSAGE failed".toList).record k).requests
          { messageRef := ref, errorCode := 1 } := by
    intro ref hsent hzero
    refine ⟨h.change (.of_eq rfl rfl rfl id rfl rfl rfl rfl rfl) rfl
      (hzero ▸ h.coherent.setLastError _), ?_⟩
    change Sent pdu False (s.record k).requests _
    rw [honly]
    exact hsent
  cases hend with
  | @returned m hphase =>
      change Coro.Meets _ _ (finishSms submit.messageRef m.acceptsMessage) s₀ s
      cases haccepts : m.acceptsMessage with
      | true =>
          have hone : uncounted (.ok m) = 0 + 1 := by
            rw [uncounted, haccepts]
            rfl
          refine ⟨h.change (.of_eq rfl rfl rfl id rfl rfl rfl rfl rfl) rfl
            (Coherent.countSent (hone ▸ h.coherent)), ?_⟩
          change Sent pdu False (s.record k).requests _
          rw [honly]
          exact .accepted hsubmit hphase haccepts
      | false =>
          have hzero : uncounted (.ok m) = 0 := by
            rw [uncounted, haccepts]
            rfl
          exact hfailed _ (.refused hsubmit hphase haccepts) hzero
  | timedOut hphase => exact hfailed _ (.timedOut hsubmit hphase) rfl
  | late hphase =>
      refine ⟨h, ?_⟩
      rw [honly]
      exact .late hphase
  | @unsent e hphase =>
      have hraised : Underway k (.sendSms smscPdu pdu) 0 s₀ s ∧
          Sent pdu False (s.record k).requests (resultOf (.error e)) := by
        refine ⟨h, ?_⟩
        rw [honly]
        exact .unsent 0 hphase
      cases e with
      | timeoutError text => exact hfailed _ (.unsent _ hphase) rfl
      | _ => exact hraised

theorem unreadable_meets {smscPdu pdu : Text} {s' : SmsService}
    (hdoes : Does k (.sendSms smscPdu pdu) s₀ s') (hcoherent : Coherent 0 s')
    (hrecord : s'.record k = ⟨[], [], []⟩) (e : PyError)
    (h : ∀ smsc tpdu submit, parsePduFromRil pdu = .ok (smsc, tpdu) →
      SMSSubmit.fromBytes tpdu = .ok submit → 256 ≤ tpdu.length) :
    Underway k (.sendSms smscPdu pdu) 0 s₀ s' ∧
      Sent pdu False (s'.record k).requests (resultOf (.error e)) := by
  rw [Underway.iff_of_nil hrecord, hrecord]
  exact ⟨⟨hdoes, hcoherent⟩, .unreadable h⟩

theorem sendSipMessage_meets {smscPdu pdu : Text} {smsc tpdu : Bytes}
    {submit : SMSSubmit} (hdoes : Does k (.sendSms smscPdu pdu) s₀ s) (hcoherent : Coherent 0 s)
    (hrecord : s.record k = ⟨[], [], []⟩) (hpdu : parsePduFromRil pdu = .ok (smsc, tpdu))
    (hsubmit : SMSSubmit.fromBytes tpdu = .ok submit) :
    (sendSipMessage k submit.destNumber tpdu).Meets (contract k (.sendSms smscPdu pdu))
      (Coro.thenMeets (contract k (.sendSms smscPdu pdu)) (finishSms submit.messageRef)
        fun s₁ r s' => Underway k (.sendSms smscPdu pdu) 0 s₁ s' ∧
          Sent pdu False (s'.record k).requests (resultOf r)) s₀ s := by
  have hcoherent₁ := hcoherent.nextRpRef
  have hdoes₁ : Does k (.sendSms smscPdu pdu) s
      { s with rpRef := (s.rpRef + 1) &&& 0xFF, attempts := s.attempts + 1 } :=
    .of_eq rfl rfl rfl id rfl rfl rfl rfl rfl
  refine Coro.meets_get_bind.mpr ?_
  change Coro.Meets _ _ (Coro.done (RPData.toBytes
    { msgType := .rpDataMo, reference := s.rpRef, tpdu := tpdu }) >>= _) s₀
    { s with rpRef := (s.rpRef + 1) &&& 0xFF, attempts := s.attempts + 1 }
  rcases wrapMo_toBytes s.rpRef with ⟨e, herror, hlong⟩ | ⟨body, hbody, hread⟩
  · rw [herror]
    refine unreadable_meets (hdoes.trans hdoes₁) hcoherent₁ hrecord e fun smsc' tpdu' _ hok _ => ?_
    obtain ⟨rfl, rfl⟩ := Prod.mk.inj (Except.ok.inj (hpdu.symm.trans hok))
    exact hlong
  · rw [hbody]
    refine Coro.meets_get_bind.mpr (Coro.meets_bind.mpr (Coro.meets_attempt.mpr ?_))
    refine sendRequest_meets (hdoes.trans hdoes₁) hcoherent₁ hrecord rfl rfl
      ⟨smscPdu, pdu, smsc, rfl, hpdu⟩ hcoherent.bounded (Nat.lt_succ_self _) ?_ ?_
    · intro c ids cid
      refine ⟨submit, hsubmit, rfl, rfl, hread.trans ?_⟩
      rw [hcoherent.rpRef, Nat.mod_mod]
    · intro s₁ s' q t r hunderway honly htpdu hend
      exact Coro.meets_bind.mp (finishSms_meets hunderway honly (htpdu ▸ hsubmit) hend)

theorem sendSmsBody_meets {smscPdu pdu : Text}
    (hdoes : Does k (.sendSms smscPdu pdu) s₀ s) (hcoherent : Coherent 0 s)
    (hrecord : s.record k = ⟨[], [], []⟩) :
    (sendSmsBody k pdu).Meets (contract k (.sendSms smscPdu pdu)) (fun s₁ r s' =>
      Underway k (.sendSms smscPdu pdu) 0 s₁ s' ∧
        Sent pdu False (s'.record k).requests (resultOf r)) s₀ s := by
  unfold sendSmsBody
  cases hpdu : parsePduFromRil pdu with
  | error e =>
      refine unreadable_meets hdoes hcoherent hrecord e fun smsc tpdu submit hok => ?_
      rw [hpdu] at hok
      cases hok
  | ok x =>
      obtain ⟨smsc, tpdu⟩ := x
      change Coro.Meets _ _ (Coro.done (SMSSubmit.fromBytes tpdu) >>= _) s₀ s
      cases hsubmit : SMSSubmit.fromBytes tpdu with
      | error e =>
          refine unreadable_meets hdoes hcoherent hrecord e fun smsc' tpdu' submit hok hok' => ?_
          obtain ⟨rfl, rfl⟩ := Prod.mk.inj (Except.ok.inj (hpdu.symm.trans hok))
          rw [hsubmit] at hok'
          cases hok'
      | ok submit =>
          refine Coro.meets_modify_bind.mpr (Coro.meets_bind.mpr ?_)
          refine sendSipMessage_meets (hdoes.trans ?_) (hcoherent.setMessageRef _) hrecord hpdu hsubmit
          exact .of_eq rfl rfl rfl id rfl rfl rfl rfl rfl

/-! ### Outcomes -/

/-- How a command leaves the state it ends in. -/
abbrev Served (k : ℕ) (cmd : SmsCommand) (r : Except PyError SmsAnswer) (s : SmsService) : Prop :=
  cmd.Answers (s.started = false) s.mtCallback (s.record k) r

/-- What a command does until its end. -/
abbrev Serves (k : ℕ) (cmd : SmsCommand) (s₀ : SmsService) (r : Except PyError SmsAnswer)
    (s : SmsService) : Prop :=
  Underway k cmd 0 s₀ s ∧ Served k cmd r s

theorem mtCalls_of_ended {l l' : List MtCall} {c : MtCall} {outcome : Except PyError Unit}
    (h : l = [c]) (hended : c.Ended outcome) (hlater : mtJournal.AllLater l l') : l' = [c] := by
  rw [h] at hlater
  obtain ⟨c', hc', hsame⟩ := Journal.AllLater.singleton hlater
  rw [hc', hsame.2.2.2 (by rw [hended.2]; rfl)]

/-- What a command has returned stays what its record says. -/
theorem served_later {r : Except PyError SmsAnswer} {s' : SmsService} (h : Served k cmd r s)
    (hrely : Relies k s s') : Served k cmd r s' := by
  have hrecord := hrely.record rfl
  unfold Served at h ⊢
  rw [hrely.mtCallback]
  cases cmd with
  | sendSms smscPdu pdu =>
      obtain ⟨res, hr, hsent⟩ := h
      exact ⟨res, hr, (hsent.later hrecord.requests).weaken hrely.stopped⟩
  | deliverMtSms fromNumber text toNumber =>
      unfold SmsCommand.Answers at h ⊢
      split_ifs at h ⊢
      · obtain ⟨c, outcome, hcalls, hended, hr⟩ := h
        exact ⟨c, outcome, mtCalls_of_ended hcalls hended hrecord.mtCalls, hended, hr⟩
      · obtain ⟨hcalls, hr⟩ := h
        have hlater := hrecord.mtCalls
        rw [hcalls] at hlater
        exact ⟨Journal.AllLater.eq_nil hlater, hr⟩
  | incoming msg addr =>
      obtain ⟨hpackets, hhandled⟩ := h
      refine ⟨(packets_eq hrecord.transmissions).trans hpackets, ?_⟩
      have hempty : (s.record k).mtCalls = [] → (s'.record k).mtCalls = [] := by
        intro hcalls
        have hlater := hrecord.mtCalls
        rw [hcalls] at hlater
        exact Journal.AllLater.eq_nil hlater
      cases hhandled with
      | unacknowledged htransmissions houtcome hcalls =>
          have hlater := hrecord.transmissions
          rw [htransmissions] at hlater
          obtain ⟨t', ht', hsame⟩ := Journal.AllLater.singleton hlater
          obtain rfl := hsame.2.2 (by rw [houtcome]; rfl)
          exact .unacknowledged ht' houtcome (hempty hcalls)
      | delivered hlistens hcalls hdelivery hended =>
          exact .delivered hlistens (mtCalls_of_ended hcalls hended hrecord.mtCalls) hdelivery hended
      | nothing hnothing hcalls => exact .nothing hnothing (hempty hcalls)
  | stop => exact h

theorem sendSms_serves {strError : PyError → Text} {smscPdu pdu : Text}
    (hdoes : Does k (.sendSms smscPdu pdu) s₀ s) (hcoherent : Coherent 0 s)
    (hrecord : s.record k = ⟨[], [], []⟩) :
    (serve strError k (.sendSms smscPdu pdu)).Meets (contract k (.sendSms smscPdu pdu))
      (Serves k (.sendSms smscPdu pdu)) s₀ s := by
  refine Coro.meets_bind.mpr (Coro.meets_get_bind.mpr ?_)
  by_cases hstarted : s.started = true
  · rw [if_pos hstarted]
    refine Coro.meets_bind.mpr (Coro.meets_attempt.mpr ?_)
    refine (sendSmsBody_meets hdoes hcoherent hrecord).mono fun s₁ r s' h => ?_
    obtain ⟨hunderway, hsent⟩ := h
    cases r with
    | ok res => exact ⟨hunderway, res, rfl, hsent.weaken False.elim⟩
    | error e =>
        refine ⟨hunderway.change (.of_eq rfl rfl rfl id rfl rfl rfl rfl rfl) rfl
          (hunderway.coherent.setLastError _), _, rfl, ?_⟩
        exact hsent.weaken False.elim
  · rw [if_neg hstarted]
    refine ⟨(Underway.iff_of_nil hrecord).mpr ⟨hdoes, hcoherent⟩, _, rfl, ?_⟩
    rw [hrecord]
    exact .stopped (by simpa using hstarted)

/-! ### Receiving -/

/-- **A callback.**  After it, it is the only one of its command, and has ended with the outcome of the
whole. -/
theorem callback_meets {fromNumber toNumber text : Text}
    {post : SmsService → Except PyError Unit → SmsService → Prop} (hdoes : Does k cmd s₀ s)
    (hcoherent : Coherent 0 s) (hnone : (s.record k).mtCalls = [])
    (hkeeps : cmd.Keeps s.config ((s.beginCallback k fromNumber toNumber text).record k))
    (hpost : ∀ s₁ s' c outcome, Underway k cmd 0 s₁ s' → (s.record k).Later
        { s'.record k with mtCalls := [] } → s'.mtCallback = s.mtCallback →
      (s'.record k).mtCalls = [c] → c.content = (fromNumber, toNumber, text) → c.Ended outcome →
      post s₁ outcome s') :
    (callback k fromNumber toNumber text).Meets (contract k cmd) post s₀ s := by
  have hplace : (s.beginCallback k fromNumber toNumber text).mtCalls[s.mtCalls.length]? =
      some { command := k, fromNumber, toNumber, text } := List.getElem?_concat_length
  have honly : ((s.beginCallback k fromNumber toNumber text).record k).mtCalls =
      [{ command := k, fromNumber, toNumber, text }] := by
    change mtJournal.of k (s.mtCalls ++ [_]) = _
    rw [Journal.of_append, Journal.of_singleton (J := mtJournal) (k := k) rfl]
    change (s.record k).mtCalls ++ _ = _
    rw [hnone]
    rfl
  refine Coro.meets_get_bind.mpr (Coro.meets_modify_bind.mpr (Coro.meets_await_bind.mpr ⟨⟨?_, ?_, ?_⟩,
    fun s₁ hrely hresumes => ?_⟩))
  · exact hdoes.trans (does_beginCallback k cmd fromNumber toNumber text s)
  · exact hcoherent.beginCallback fromNumber toNumber text
  · exact hkeeps
  obtain ⟨c, hc, hlater⟩ := hrely.mtCalls.getElem? hplace rfl
  obtain ⟨outcome, houtcome⟩ : ∃ outcome, c.outcome = some outcome := by
    have hready : (s₁.mtCalls[s.mtCalls.length]?.bind MtCall.outcome).isSome := hresumes.1
    rw [hc] at hready
    exact Option.isSome_iff_exists.mp hready
  have hrecord := hrely.record rfl
  have honly₁ : (s₁.record k).mtCalls = [c] := by
    have hcalls := hrecord.mtCalls
    rw [honly] at hcalls
    obtain ⟨c', hc', -⟩ := Journal.AllLater.singleton hcalls
    rw [hc', ← Journal.eq_of_getElem? hc' hc hlater.1]
  have honly₂ : ((s₁.endCallback s.mtCalls.length outcome.toBool).record k).mtCalls =
      [{ c with returned := true }] :=
    Journal.of_modify (f := fun c : MtCall => { c with returned := true }) honly₁ hc hlater.1 hlater.1
  have hunderway : Underway k cmd 0 s₁ (s₁.endCallback s.mtCalls.length outcome.toBool) := by
    refine ⟨does_endCallback hc hlater.1 _, hresumes.2.endCallback hc hlater.2.2.1 houtcome, ?_⟩
    refine SmsCommand.Keeps.of_content (r := s₁.record k) ?_ rfl rfl ?_
    · have hkeeps₁ := hkeeps.later hrecord
      change cmd.Keeps s₁.config _
      rw [hrely.config]
      exact hkeeps₁
    · rw [honly₂, honly₁]
      rfl
  have hdone : post s₁ outcome (s₁.endCallback s.mtCalls.length outcome.toBool) := by
    refine hpost s₁ _ _ outcome hunderway ⟨hrecord.requests, hrecord.transmissions, ?_⟩
      hrely.mtCallback honly₂ hlater.2.1 ⟨rfl, houtcome⟩
    rw [hnone]
    exact .nil
  refine Coro.meets_get_bind.mpr ?_
  rw [hc, Option.bind_some, houtcome]
  cases outcome with
  | ok u => exact hdone
  | error e => exact hdone

theorem deliverMtSms_serves {strError : PyError → Text} {fromNumber text toNumber : Text}
    (hdoes : Does k (.deliverMtSms fromNumber text toNumber) s₀ s) (hcoherent : Coherent 0 s)
    (hrecord : s.record k = ⟨[], [], []⟩) :
    (serve strError k (.deliverMtSms fromNumber text toNumber)).Meets
      (contract k (.deliverMtSms fromNumber text toNumber))
      (Serves k (.deliverMtSms fromNumber text toNumber)) s₀ s := by
  have hcalls : (s.record k).mtCalls = [] := by rw [hrecord]
  refine Coro.meets_bind.mpr (Coro.meets_get_bind.mpr ?_)
  cases hlistens : s.mtCallback with
  | false =>
      refine ⟨(Underway.iff_of_nil hrecord).mpr ⟨hdoes, hcoherent⟩, ?_⟩
      unfold Served SmsCommand.Answers
      rw [hlistens]
      exact ⟨hcalls, rfl⟩
  | true =>
      refine Coro.meets_bind.mpr (callback_meets hdoes hcoherent hcalls ?_ ?_)
      · refine ⟨fun x hx => ?_, ?_, ?_, ?_, fun _ packet h => by cases h⟩
        · change x ∈ (s.record k).requests at hx
          rw [hrecord] at hx
          cases hx
        · change (s.record k).requests.length ≤ 1
          rw [hrecord]
          exact Nat.zero_le _
        · change (s.record k).transmissions.map _ <+: _
          rw [hrecord]
          exact List.nil_prefix
        · change (mtJournal.of k (s.mtCalls ++ [_])).map _ <+: _
          rw [Journal.of_append, Journal.of_singleton (J := mtJournal) (k := k) rfl]
          change ((s.record k).mtCalls ++ _).map _ <+: _
          rw [hcalls]
          exact List.prefix_refl _
      · intro s₁ s' c outcome hunderway _ hcallback honly _ hended
        have hserved : Served k (.deliverMtSms fromNumber text toNumber)
            (outcome.map fun _ => .delivered true) s' := by
          unfold Served SmsCommand.Answers
          rw [hcallback, hlistens]
          exact ⟨c, outcome, honly, hended, rfl⟩
        cases outcome with
        | ok u => exact ⟨hunderway, hserved⟩
        | error e => exact ⟨hunderway, hserved⟩

section Incoming

variable {msg : SIPMessage} {addr : Text × ℕ}

/-- The handler after its 200 OK: the message is acknowledged, and the callback has not been called. -/
structure Acknowledged (k : ℕ) (msg : SIPMessage) (addr : Text × ℕ) (s : SmsService) : Prop where
  requests : (s.record k).requests = []
  transmitted : ∃ t, (s.record k).transmissions = [t] ∧ t.packet = (okResponse msg, addr) ∧
    t.outcome = some (.ok ())
  quiet : (s.record k).mtCalls = []

/-- The handler has given the message to the callback, which has ended. -/
structure CalledBack (k : ℕ) (msg : SIPMessage) (addr : Text × ℕ) (s₀ : SmsService)
    (outcome : Except PyError Unit) (s : SmsService) : Prop where
  underway : Underway k (.incoming msg addr) 0 s₀ s
  acknowledged : (s.record k).transmissions.map Transmission.packet = [(okResponse msg, addr)]
  listens : s.mtCallback = true
  called : ∃ c, (s.record k).mtCalls = [c] ∧ SmsCommand.delivery (.incoming msg addr) = [c.content] ∧
    c.Ended outcome

/-- The handler has nothing for the callback. -/
structure Ignored (k : ℕ) (msg : SIPMessage) (addr : Text × ℕ) (s₀ s : SmsService) : Prop where
  underway : Underway k (.incoming msg addr) 0 s₀ s
  acknowledged : (s.record k).transmissions.map Transmission.packet = [(okResponse msg, addr)]
  nothing : s.mtCallback = false ∨ SmsCommand.delivery (.incoming msg addr) = []
  quiet : (s.record k).mtCalls = []

theorem acknowledgement_eq (hresponse : msg.isResponse = false)
    (hmethod : msg.method = some "MESSAGE".toList) :
    SmsCommand.acknowledgement (.incoming msg addr) = [(okResponse msg, addr)] :=
  if_pos ⟨hresponse, hmethod⟩

theorem delivery_eq (hresponse : msg.isResponse = false)
    (hmethod : msg.method = some "MESSAGE".toList) : SmsCommand.delivery (.incoming msg addr) =
      (incomingText msg).toList.map fun x => (x.1, [], x.2) :=
  if_pos ⟨hresponse, hmethod⟩

theorem Acknowledged.keeps (h : Acknowledged k msg addr s) (hresponse : msg.isResponse = false)
    (hmethod : msg.method = some "MESSAGE".toList) (cfg : SMSConfig) {calls : List MtCall}
    (hcalls : calls.map MtCall.content <+: SmsCommand.delivery (.incoming msg addr)) :
    SmsCommand.Keeps (.incoming msg addr) cfg { s.record k with mtCalls := calls } := by
  obtain ⟨t, ht, hpacket, houtcome⟩ := h.transmitted
  refine ⟨fun x hx => ?_, ?_, ?_, hcalls, fun _ packet hmem => ⟨t, ?_, ?_, houtcome⟩⟩
  · change x ∈ (s.record k).requests at hx
    rw [h.requests] at hx
    cases hx
  · change (s.record k).requests.length ≤ 1
    rw [h.requests]
    exact Nat.zero_le _
  · change (s.record k).transmissions.map _ <+: (s.record k).requests.map _ ++ _
    rw [h.requests, ht, acknowledgement_eq hresponse hmethod, List.map_singleton, hpacket]
    exact List.prefix_refl _
  · change t ∈ (s.record k).transmissions
    rw [ht]
    exact List.mem_singleton_self _
  · rw [acknowledgement_eq hresponse hmethod] at hmem
    rw [hpacket, List.mem_singleton.mp hmem]

theorem Acknowledged.ignored (h : Acknowledged k msg addr s) (hresponse : msg.isResponse = false)
    (hmethod : msg.method = some "MESSAGE".toList) (hdoes : Does k (.incoming msg addr) s₀ s)
    (hcoherent : Coherent 0 s) (hnothing : s.mtCallback = false ∨ incomingText msg = none) :
    Ignored k msg addr s₀ s := by
  obtain ⟨t, ht, hpacket, -⟩ := h.transmitted
  refine ⟨⟨hdoes, hcoherent, ?_⟩, ?_, hnothing.imp id fun hnone => ?_, h.quiet⟩
  · have hkeeps : SmsCommand.Keeps (.incoming msg addr) s.config { s.record k with mtCalls := [] } :=
      h.keeps hresponse hmethod s.config List.nil_prefix
    rw [← h.quiet] at hkeeps
    exact hkeeps
  · rw [ht, List.map_singleton, hpacket]
  · rw [delivery_eq hresponse hmethod, hnone]
    rfl

theorem Acknowledged.callback (h : Acknowledged k msg addr s) (hresponse : msg.isResponse = false)
    (hmethod : msg.method = some "MESSAGE".toList) (hdoes : Does k (.incoming msg addr) s₀ s)
    (hcoherent : Coherent 0 s) (hlistens : s.mtCallback = true) {fromNumber text : Text}
    (htext : incomingText msg = some (fromNumber, text)) :
    (callback k fromNumber [] text).Meets (contract k (.incoming msg addr)) (CalledBack k msg addr)
      s₀ s := by
  have hdelivery : SmsCommand.delivery (.incoming msg addr) = [(fromNumber, [], text)] := by
    rw [delivery_eq hresponse hmethod, htext]
    rfl
  obtain ⟨t, ht, hpacket, -⟩ := h.transmitted
  refine callback_meets hdoes hcoherent h.quiet ?_ ?_
  · refine h.keeps hresponse hmethod s.config ?_
    change (mtJournal.of k (s.mtCalls ++ [_])).map _ <+: _
    rw [Journal.of_append, Journal.of_singleton (J := mtJournal) (k := k) rfl]
    change ((s.record k).mtCalls ++ _).map _ <+: _
    rw [h.quiet, hdelivery]
    exact List.prefix_refl _
  · intro s₁ s' c outcome hunderway hlater hcallback honly hcontent hended
    refine ⟨hunderway, ?_, hcallback.trans hlistens, c, honly, ?_, hended⟩
    · have hpackets := packets_eq hlater.transmissions
      rw [ht, List.map_singleton, hpacket] at hpackets
      exact hpackets
    · rw [hdelivery, hcontent]

/-- What a handler returns that has given its message to the callback. -/
theorem CalledBack.served {outcome : Except PyError Unit} (h : CalledBack k msg addr s₀ outcome s)
    (hresponse : msg.isResponse = false) (hmethod : msg.method = some "MESSAGE".toList) :
    Served k (.incoming msg addr) (if contentType3gppSms <:+: msg.header "Content-Type" then .ok .none
      else outcome.map fun _ => .none) s := by
  obtain ⟨c, hcalls, hdelivery, hended⟩ := h.called
  refine ⟨h.acknowledged.trans (acknowledgement_eq hresponse hmethod).symm, ?_⟩
  exact .delivered h.listens hcalls hdelivery hended

theorem Ignored.served (h : Ignored k msg addr s₀ s) (hresponse : msg.isResponse = false)
    (hmethod : msg.method = some "MESSAGE".toList) : Served k (.incoming msg addr) (.ok .none) s :=
  ⟨h.acknowledged.trans (acknowledgement_eq hresponse hmethod).symm, .nothing h.nothing h.quiet⟩

theorem deliverRpData_meets (h : Acknowledged k msg addr s) (hresponse : msg.isResponse = false)
    (hmethod : msg.method = some "MESSAGE".toList) (hdoes : Does k (.incoming msg addr) s₀ s)
    (hcoherent : Coherent 0 s) (htype : contentType3gppSms <:+: msg.header "Content-Type") :
    (deliverRpData k msg.body).Meets (contract k (.incoming msg addr)) (fun s₁ r s' =>
      CalledBack k msg addr s₁ r s' ∨ Ignored k msg addr s₁ s') s₀ s := by
  have htext : incomingText msg = relayText msg.body := if_neg (not_not_intro htype)
  unfold relayText at htext
  unfold deliverRpData
  cases hrp : RPData.fromBytes msg.body with
  | error e =>
      rw [hrp] at htext
      exact .inr (h.ignored hresponse hmethod hdoes hcoherent (.inr htext))
  | ok rp =>
      rw [hrp] at htext
      change Coro.Meets _ _ (if rp.msgType = .rpDataMt ∨ rp.msgType = .rpDataMo then _ else _) s₀ s
      split_ifs with hmt
      · simp only [if_pos hmt] at htext
        cases hdeliver : SMSDeliver.fromBytes rp.tpdu with
        | error e =>
            rw [hdeliver] at htext
            exact .inr (h.ignored hresponse hmethod hdoes hcoherent (.inr htext))
        | ok deliver =>
            rw [hdeliver] at htext
            refine Coro.meets_get_bind.mpr ?_
            cases hlistens : s.mtCallback with
            | false => exact .inr (h.ignored hresponse hmethod hdoes hcoherent (.inl hlistens))
            | true =>
                exact (h.callback hresponse hmethod hdoes hcoherent hlistens htext).mono
                  fun _ _ _ hcalled => .inl hcalled
      · simp only [if_neg hmt] at htext
        exact .inr (h.ignored hresponse hmethod hdoes hcoherent (.inr htext))

theorem handleContent_meets (h : Acknowledged k msg addr s) (hresponse : msg.isResponse = false)
    (hmethod : msg.method = some "MESSAGE".toList) (hdoes : Does k (.incoming msg addr) s₀ s)
    (hcoherent : Coherent 0 s) :
    (handleContent k msg).Meets (contract k (.incoming msg addr)) (fun s₁ r s' =>
      Serves k (.incoming msg addr) s₁ (r.map fun _ => .none) s') s₀ s := by
  unfold handleContent
  by_cases htype : contentType3gppSms <:+: msg.header "Content-Type"
  · rw [if_neg (not_not_intro htype)]
    refine Coro.meets_bind.mpr (Coro.meets_attempt.mpr ?_)
    refine (deliverRpData_meets h hresponse hmethod hdoes hcoherent htype).mono fun s₁ r s' hended => ?_
    rcases hended with hcalled | hignored
    · have hserved := hcalled.served hresponse hmethod
      rw [if_pos htype] at hserved
      exact ⟨hcalled.underway, hserved⟩
    · exact ⟨hignored.underway, hignored.served hresponse hmethod⟩
  · rw [if_pos htype]
    have htext : incomingText msg = if (if msg.body ≠ [] then decodeUtf8 msg.body else []) ≠ [] then
        some (extractNumberFromUri (msg.header "From"),
          if msg.body ≠ [] then decodeUtf8 msg.body else []) else none := if_pos htype
    refine Coro.meets_get_bind.mpr ?_
    change Coro.Meets _ _ (if s.mtCallback = true ∧ _ then _ else _) s₀ s
    generalize (if msg.body ≠ [] then decodeUtf8 msg.body else []) = text at htext ⊢
    by_cases hcond : s.mtCallback = true ∧ text ≠ []
    · rw [if_pos hcond]
      rw [if_pos hcond.2] at htext
      refine (h.callback hresponse hmethod hdoes hcoherent hcond.1 htext).mono fun s₁ r s' hcalled => ?_
      have hserved := hcalled.served hresponse hmethod
      rw [if_neg htype] at hserved
      exact ⟨hcalled.underway, hserved⟩
    · have hnothing : s.mtCallback = false ∨ incomingText msg = none := by
        rw [not_and_or] at hcond
        refine hcond.imp (by simp) fun hempty => ?_
        rw [htext, if_neg hempty]
      have hignored := h.ignored hresponse hmethod hdoes hcoherent hnothing
      rw [if_neg hcond]
      exact ⟨hignored.underway, hignored.served hresponse hmethod⟩

theorem handleSipMessage_meets (hresponse : msg.isResponse = false)
    (hmethod : msg.method = some "MESSAGE".toList) (hdoes : Does k (.incoming msg addr) s₀ s)
    (hcoherent : Coherent 0 s) (hrecord : s.record k = ⟨[], [], []⟩) :
    (handleSipMessage k msg addr).Meets (contract k (.incoming msg addr)) (fun s₁ r s' =>
      Serves k (.incoming msg addr) s₁ (r.map fun _ => .none) s') s₀ s := by
  obtain ⟨c, hc, -⟩ := hcoherent.client
  have hempty : (s.record k).transmissions = [] := by rw [hrecord]
  refine Coro.meets_get_bind.mpr ?_
  rw [if_pos (by rw [hc]; rfl)]
  refine Coro.meets_bind.mpr (transmit_meets hdoes hcoherent hempty ?_ ?_)
  · refine SmsCommand.keeps_of_quiet _ (congrArg SmsRecord.requests hrecord) ?_
      (congrArg SmsRecord.mtCalls hrecord)
    rw [record_beginTransmission hempty, acknowledgement_eq hresponse hmethod]
    exact List.prefix_refl _
  intro s₁ s' t outcome hdoes' hcoherent' hrely htransmissions hpacket houtcome
  -- the others have left the rest of the record empty
  have hlater := hrely.record rfl
  have hrequests : (s'.record k).requests = [] := by
    have h := hlater.requests
    change requestJournal.AllLater (s.record k).requests _ at h
    rw [hrecord] at h
    exact Journal.AllLater.eq_nil h
  have hcalls : (s'.record k).mtCalls = [] := by
    have h := hlater.mtCalls
    change mtJournal.AllLater (s.record k).mtCalls _ at h
    rw [hrecord] at h
    exact Journal.AllLater.eq_nil h
  cases outcome with
  | error e =>
      have hacknowledged : (s'.record k).transmissions.map Transmission.packet =
          SmsCommand.acknowledgement (.incoming msg addr) := by
        rw [htransmissions, acknowledgement_eq hresponse hmethod, List.map_singleton, hpacket]
      have hkeeps := SmsCommand.keeps_of_quiet s'.config hrequests
        (by rw [hacknowledged]) hcalls
      exact ⟨⟨hdoes', hcoherent', hkeeps⟩, hacknowledged, .unacknowledged htransmissions houtcome hcalls⟩
  | ok _ =>
      exact handleContent_meets ⟨hrequests, ⟨t, htransmissions, hpacket, houtcome⟩, hcalls⟩ hresponse
        hmethod hdoes' hcoherent'

theorem served_other (hother : ¬(msg.isResponse = false ∧ msg.method = some "MESSAGE".toList))
    (hrecord : s.record k = ⟨[], [], []⟩) : Served k (.incoming msg addr) (.ok .none) s := by
  unfold Served
  rw [hrecord]
  exact ⟨(if_neg hother).symm, .nothing (.inr (if_neg hother)) rfl⟩

theorem record_handResponse {c : Session} (hc : s.sipClient = some c)
    (hrecord : s.record k = ⟨[], [], []⟩) : (s.handResponse msg).record k = ⟨[], [], []⟩ := by
  have hlater := (shift_handResponse (P := (· = k)) hc msg).record rfl
  rw [hrecord] at hlater
  have hrequests := Journal.AllLater.eq_nil hlater.requests
  have htransmissions := Journal.AllLater.eq_nil hlater.transmissions
  have hcalls := Journal.AllLater.eq_nil hlater.mtCalls
  rw [← hrequests, ← htransmissions, ← hcalls]

theorem incoming_serves {strError : PyError → Text} (hdoes : Does k (.incoming msg addr) s₀ s)
    (hcoherent : Coherent 0 s) (hrecord : s.record k = ⟨[], [], []⟩) :
    (serve strError k (.incoming msg addr)).Meets (contract k (.incoming msg addr))
      (Serves k (.incoming msg addr)) s₀ s := by
  obtain ⟨c, hc, -⟩ := hcoherent.client
  refine Coro.meets_bind.mpr ?_
  unfold handleIncomingSip
  cases hresponse : msg.isResponse with
  | true =>
      have hother : ¬(msg.isResponse = false ∧ msg.method = some "MESSAGE".toList) := by simp [hresponse]
      have hempty : (s.handResponse msg).record k = ⟨[], [], []⟩ := record_handResponse hc hrecord
      refine Coro.meets_get_bind.mpr ?_
      rw [if_pos (by rw [hc]; rfl)]
      refine ⟨(Underway.iff_of_nil hempty).mpr ⟨?_, hcoherent.handResponse msg⟩,
        served_other hother hempty⟩
      exact hdoes.trans (does_handResponse hc msg addr)
  | false =>
      by_cases hmethod : msg.method = some "MESSAGE".toList
      · rw [if_pos hmethod]
        refine (handleSipMessage_meets hresponse hmethod hdoes hcoherent hrecord).mono fun s₂ r s' h => ?_
        cases r with
        | ok u => exact h
        | error e => exact h
      · rw [if_neg hmethod]
        exact ⟨(Underway.iff_of_nil hrecord).mpr ⟨hdoes, hcoherent⟩,
          served_other (fun h => hmethod h.2) hrecord⟩

end Incoming

/-- **Every command keeps its contract**, and returns what its record says. -/
theorem serve_serves (strError : PyError → Text) (cmd : SmsCommand) (hdoes : Does k cmd s₀ s)
    (hcoherent : Coherent 0 s) (hrecord : s.record k = ⟨[], [], []⟩) :
    (serve strError k cmd).Meets (contract k cmd) (Serves k cmd) s₀ s := by
  cases cmd with
  | sendSms smscPdu pdu => exact sendSms_serves hdoes hcoherent hrecord
  | deliverMtSms fromNumber text toNumber => exact deliverMtSms_serves hdoes hcoherent hrecord
  | incoming msg addr => exact incoming_serves hdoes hcoherent hrecord
  | stop =>
      refine ⟨⟨hdoes.trans ?_, ?_, ?_⟩, rfl⟩
      · exact .of_eq rfl rfl rfl (fun _ => rfl) rfl rfl rfl rfl rfl
      · exact ⟨hcoherent.client, hcoherent.rpRef, hcoherent.increasing, hcoherent.bounded,
          hcoherent.carries, hcoherent.sent, hcoherent.received⟩
      · change SmsCommand.Keeps .stop _ (s.record k)
        rw [hrecord]
        exact SmsCommand.keeps_nil _ _

end

end SmsService

end VirtualPhone
