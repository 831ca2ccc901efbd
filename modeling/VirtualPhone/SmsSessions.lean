import VirtualPhone.SmsExchanges

/-! # The commands of the SMS service

What one call of a method of the service does, whatever the others do meanwhile.  Its requests, its
transmissions and its calls of the callback are its record.  It relies on the others to leave its
record alone, but for the outcomes that come in, and adds to no other.

`serve_serves` says what a record is like as long as its command runs (`SmsCommand.Keeps`), and what
the command returns by its record (`SmsCommand.Answers`). -/

namespace VirtualPhone

open Runtime
open Coro (get modify raise attempt)

/-! ### Records -/

/-- A request at a later time: its future may have got a result, and its time may be up. -/
def Call.Later (t t' : Call) : Prop :=
  t'.cid = t.cid ∧ t'.request = t.request ∧
    (t'.phase = t.phase ∨ t.phase = .waiting ∧ t'.phase = .expired)

theorem Call.Later.refl (t : Call) : t.Later t := ⟨rfl, rfl, .inl rfl⟩

theorem Call.Later.trans {a b c : Call} (h : a.Later b) (h' : b.Later c) : a.Later c := by
  refine ⟨h'.1.trans h.1, h'.2.1.trans h.2.1, ?_⟩
  rcases h'.2.2 with hbc | ⟨hb, hc⟩
  · rw [hbc]
    exact h.2.2
  · rcases h.2.2 with hab | ⟨-, hb'⟩
    · exact .inr ⟨hab.symm.trans hb, hc⟩
    · rw [hb] at hb'
      cases hb'

theorem Call.Later.phase {t t' : Call} (h : t.Later t') (hphase : t.phase ≠ .waiting) :
    t'.phase = t.phase :=
  h.2.2.resolve_right fun hw => hphase hw.1

theorem Call.Later.timeoutError {t t' : Call} (h : t.Later t') : t'.timeoutError = t.timeoutError := by
  unfold Call.timeoutError
  rw [h.2.1]

/-- What is sent, and where. -/
def Transmission.packet (t : Transmission) : SIPMessage × Text × ℕ := (t.message, t.dest)

/-- What the callback is given. -/
def MtCall.content (c : MtCall) : Text × Text × Text := (c.fromNumber, c.toNumber, c.text)

/-- The requests of all commands. -/
def requestJournal : Journal (Posting × Call) where
  owner x := x.1.command
  later x y := y.1 = x.1 ∧ x.2.Later y.2
  refl x := ⟨rfl, .refl _⟩
  trans h h' := ⟨h'.1.trans h.1, h.2.trans h'.2⟩
  owner_eq h := by rw [h.1]

/-- The transmissions of all commands. -/
def transmissionJournal : Journal Transmission where
  owner := Transmission.command
  later x y := y.command = x.command ∧ y.packet = x.packet ∧ (x.outcome.isSome → y = x)
  refl x := ⟨rfl, rfl, fun _ => rfl⟩
  trans h h' := by
    refine ⟨h'.1.trans h.1, h'.2.1.trans h.2.1, fun hx => ?_⟩
    obtain rfl := h.2.2 hx
    exact h'.2.2 hx
  owner_eq h := h.1

/-- The calls of the callback of all commands. -/
def mtJournal : Journal MtCall where
  owner := MtCall.command
  later x y := y.command = x.command ∧ y.content = x.content ∧ y.returned = x.returned ∧
    (x.outcome.isSome → y = x)
  refl x := ⟨rfl, rfl, rfl, fun _ => rfl⟩
  trans h h' := by
    refine ⟨h'.1.trans h.1, h'.2.1.trans h.2.1, h'.2.2.1.trans h.2.2.1, fun hx => ?_⟩
    obtain rfl := h.2.2.2 hx
    exact h'.2.2.2 hx
  owner_eq h := h.1

/-- What a command has begun. -/
structure SmsRecord where
  requests : List (Posting × Call)
  transmissions : List Transmission
  mtCalls : List MtCall

/-- A record at a later time. -/
structure SmsRecord.Later (r r' : SmsRecord) : Prop where
  requests : requestJournal.AllLater r.requests r'.requests
  transmissions : transmissionJournal.AllLater r.transmissions r'.transmissions
  mtCalls : mtJournal.AllLater r.mtCalls r'.mtCalls

theorem requests_eq {l l' : List (Posting × Call)} (h : requestJournal.AllLater l l') :
    l'.map Prod.fst = l.map Prod.fst ∧ (l'.map fun x => x.2.request) = l.map fun x => x.2.request := by
  induction h with
  | nil => exact ⟨rfl, rfl⟩
  | cons hx _ ih =>
      refine ⟨?_, ?_⟩
      · rw [List.map_cons, List.map_cons, hx.1, ih.1]
      · rw [List.map_cons, List.map_cons, hx.2.2.1, ih.2]

theorem packets_eq {l l' : List Transmission} (h : transmissionJournal.AllLater l l') :
    l'.map Transmission.packet = l.map Transmission.packet := by
  induction h with
  | nil => rfl
  | cons hx _ ih => rw [List.map_cons, List.map_cons, hx.2.1, ih]

theorem contents_eq {l l' : List MtCall} (h : mtJournal.AllLater l l') :
    l'.map MtCall.content = l.map MtCall.content := by
  induction h with
  | nil => rfl
  | cons hx _ ih => rw [List.map_cons, List.map_cons, hx.2.1, ih]

/-! ### What a command begins -/

/-- The sender and the text of a relay message. -/
def relayText (body : Bytes) : Option (Text × Text) :=
  match RPData.fromBytes body with
  | .ok rp =>
      if rp.msgType = .rpDataMt ∨ rp.msgType = .rpDataMo then
        match SMSDeliver.fromBytes rp.tpdu with
        | .ok deliver => some (deliver.fromNumber, deliver.text)
        | .error _ => none
      else none
  | .error _ => none

/-- The sender and the text of a MESSAGE, as the service reads them. -/
def incomingText (msg : SIPMessage) : Option (Text × Text) :=
  if ¬ contentType3gppSms <:+: msg.header "Content-Type" then
    let text := if msg.body ≠ [] then decodeUtf8 msg.body else []
    if text ≠ [] then some (extractNumberFromUri (msg.header "From"), text) else none
  else relayText msg.body

namespace SmsCommand

/-- The 200 OK that a command has to send. -/
def acknowledgement : SmsCommand → List (SIPMessage × Text × ℕ)
  | .incoming msg addr =>
      if msg.isResponse = false ∧ msg.method = some "MESSAGE".toList then [(okResponse msg, addr)]
      else []
  | _ => []

/-- What a command has to give to the callback. -/
def delivery : SmsCommand → List (Text × Text × Text)
  | .deliverMtSms fromNumber text toNumber => [(fromNumber, toNumber, text)]
  | .incoming msg _ =>
      if msg.isResponse = false ∧ msg.method = some "MESSAGE".toList then
        (incomingText msg).toList.map fun x => (x.1, [], x.2)
      else []
  | _ => []

/-- The record of a command, as long as it runs: at most one request, with the TPDU of its PDU; it is
sent, and otherwise nothing but the 200 OK; and the callback gets at most one message, which has been
acknowledged. -/
structure Keeps (cmd : SmsCommand) (cfg : SMSConfig) (r : SmsRecord) : Prop where
  requests : ∀ x ∈ r.requests, ∃ smscPdu pdu smsc,
    cmd = .sendSms smscPdu pdu ∧ parsePduFromRil pdu = .ok (smsc, x.1.tpdu)
  once : r.requests.length ≤ 1
  transmissions : r.transmissions.map Transmission.packet <+:
    (r.requests.map fun x => (x.2.request, cfg.dest)) ++ cmd.acknowledgement
  delivery : r.mtCalls.map MtCall.content <+: cmd.delivery
  acknowledged : r.mtCalls ≠ [] → ∀ packet ∈ cmd.acknowledgement,
    ∃ t ∈ r.transmissions, t.packet = packet ∧ t.outcome = some (.ok ())

theorem keeps_nil (cmd : SmsCommand) (cfg : SMSConfig) : cmd.Keeps cfg ⟨[], [], []⟩ :=
  ⟨fun x h => by (cases h), by simp, List.nil_prefix, List.nil_prefix, fun h => absurd rfl h⟩

theorem keeps_of_quiet {cmd : SmsCommand} {r : SmsRecord} (cfg : SMSConfig) (hrequests : r.requests = [])
    (htransmissions : r.transmissions.map Transmission.packet <+: cmd.acknowledgement)
    (hcalls : r.mtCalls = []) : cmd.Keeps cfg r := by
  refine ⟨fun x hx => ?_, ?_, ?_, ?_, fun hne => absurd hcalls hne⟩
  · rw [hrequests] at hx
    cases hx
  · rw [hrequests]
    exact Nat.zero_le _
  · rw [hrequests]
    exact htransmissions
  · rw [hcalls]
    exact List.nil_prefix

theorem Keeps.later {cmd : SmsCommand} {cfg : SMSConfig} {r r' : SmsRecord} (h : cmd.Keeps cfg r)
    (hlater : r.Later r') : cmd.Keeps cfg r' := by
  obtain ⟨hfst, hsnd⟩ := requests_eq hlater.requests
  refine ⟨fun x hx => ?_, ?_, ?_, ?_, fun hne packet hpacket => ?_⟩
  · have hmem : x.1 ∈ r.requests.map Prod.fst := hfst ▸ List.mem_map_of_mem hx
    obtain ⟨y, hy, heq⟩ := List.mem_map.mp hmem
    obtain ⟨smscPdu, pdu, smsc, hcmd, hpdu⟩ := h.requests y hy
    exact ⟨smscPdu, pdu, smsc, hcmd, heq ▸ hpdu⟩
  · rw [← List.length_map Prod.fst, hfst, List.length_map]
    exact h.once
  · have hrequests : (r'.requests.map fun x => (x.2.request, cfg.dest)) =
        r.requests.map fun x => (x.2.request, cfg.dest) := by
      have hmap := congrArg (List.map fun m => (m, cfg.dest)) hsnd
      rw [List.map_map, List.map_map] at hmap
      exact hmap
    rw [packets_eq hlater.transmissions, hrequests]
    exact h.transmissions
  · rw [contents_eq hlater.mtCalls]
    exact h.delivery
  · have hne' : r.mtCalls ≠ [] := by
      intro hnil
      have := hlater.mtCalls
      rw [hnil] at this
      exact hne (Journal.AllLater.eq_nil this)
    obtain ⟨t, ht, htpacket, houtcome⟩ := h.acknowledged hne' packet hpacket
    obtain ⟨n, hn, rfl⟩ := List.getElem_of_mem ht
    have hlength := List.Forall₂.length_eq hlater.transmissions
    have hx := List.Forall₂.get hlater.transmissions hn (hlength ▸ hn)
    simp only [List.get_eq_getElem] at hx
    have heq := hx.2.2 (by rw [houtcome]; rfl)
    exact ⟨_, List.getElem_mem _, by rw [heq]; exact htpacket, by rw [heq]; exact houtcome⟩

theorem Keeps.of_content {cmd : SmsCommand} {cfg : SMSConfig} {r r' : SmsRecord} (h : cmd.Keeps cfg r)
    (hrequests : r'.requests = r.requests) (htransmissions : r'.transmissions = r.transmissions)
    (hcontent : r'.mtCalls.map MtCall.content = r.mtCalls.map MtCall.content) : cmd.Keeps cfg r' := by
  refine ⟨hrequests ▸ h.requests, hrequests ▸ h.once, ?_, hcontent ▸ h.delivery, fun hne => ?_⟩
  · rw [hrequests, htransmissions]
    exact h.transmissions
  · rw [htransmissions]
    refine h.acknowledged fun hnil => hne ?_
    rw [hnil] at hcontent
    exact List.map_eq_nil_iff.mp hcontent

end SmsCommand

/-! ### What a command returns -/

/-- What `send_sms` returns, by its request.  `stopped` says that the service is not started. -/
inductive Sent (pdu : Text) (stopped : Prop) : List (Posting × Call) → SmsResult → Prop
  | stopped : stopped → Sent pdu stopped [] { messageRef := 0, errorCode := 0 }
  | unreadable : (∀ smsc tpdu submit, parsePduFromRil pdu = .ok (smsc, tpdu) →
      SMSSubmit.fromBytes tpdu = .ok submit → 256 ≤ tpdu.length) →
      Sent pdu stopped [] { messageRef := 0, errorCode := 1 }
  | accepted {q : Posting} {t : Call} {submit : SMSSubmit} {m : SIPMessage} :
      SMSSubmit.fromBytes q.tpdu = .ok submit → t.phase = .returned m → m.acceptsMessage = true →
      Sent pdu stopped [(q, t)] { messageRef := submit.messageRef, errorCode := 0 }
  | refused {q : Posting} {t : Call} {submit : SMSSubmit} {m : SIPMessage} :
      SMSSubmit.fromBytes q.tpdu = .ok submit → t.phase = .returned m → m.acceptsMessage = false →
      Sent pdu stopped [(q, t)] { messageRef := submit.messageRef, errorCode := 1 }
  | timedOut {q : Posting} {t : Call} {submit : SMSSubmit} :
      SMSSubmit.fromBytes q.tpdu = .ok submit → t.phase = .raised t.timeoutError →
      Sent pdu stopped [(q, t)] { messageRef := submit.messageRef, errorCode := 1 }
  | late {q : Posting} {t : Call} : t.phase = .raised (.keyError t.cid) →
      Sent pdu stopped [(q, t)] { messageRef := 0, errorCode := 1 }
  | unsent {q : Posting} {t : Call} (ref : ℕ) : t.phase = .sending →
      Sent pdu stopped [(q, t)] { messageRef := ref, errorCode := 1 }

theorem Sent.weaken {pdu : Text} {stopped stopped' : Prop} {requests : List (Posting × Call)}
    {res : SmsResult} (h : Sent pdu stopped requests res) (hstopped : stopped → stopped') :
    Sent pdu stopped' requests res := by
  cases h with
  | stopped h => exact .stopped (hstopped h)
  | unreadable h => exact .unreadable h
  | accepted hsubmit hphase haccepts => exact .accepted hsubmit hphase haccepts
  | refused hsubmit hphase haccepts => exact .refused hsubmit hphase haccepts
  | timedOut hsubmit hphase => exact .timedOut hsubmit hphase
  | late hphase => exact .late hphase
  | unsent ref hphase => exact .unsent ref hphase

/-- The result of `send_sms` stays what its request says. -/
theorem Sent.later {pdu : Text} {stopped : Prop} {requests requests' : List (Posting × Call)}
    {res : SmsResult} (h : Sent pdu stopped requests res)
    (hlater : requestJournal.AllLater requests requests') : Sent pdu stopped requests' res := by
  have hone : ∀ {q t}, requests = [(q, t)] → ∃ t', requests' = [(q, t')] ∧ t.Later t' := by
    rintro q t rfl
    obtain ⟨⟨q', t'⟩, hrequests, hq, ht⟩ := Journal.AllLater.singleton hlater
    obtain rfl : q' = q := hq
    exact ⟨t', hrequests, ht⟩
  cases h with
  | stopped h =>
      rw [Journal.AllLater.eq_nil hlater]
      exact .stopped h
  | unreadable h =>
      rw [Journal.AllLater.eq_nil hlater]
      exact .unreadable h
  | accepted hsubmit hphase haccepts =>
      obtain ⟨t', hrequests, ht⟩ := hone rfl
      rw [hrequests]
      exact .accepted hsubmit ((ht.phase (by rw [hphase]; simp)).trans hphase) haccepts
  | refused hsubmit hphase haccepts =>
      obtain ⟨t', hrequests, ht⟩ := hone rfl
      rw [hrequests]
      exact .refused hsubmit ((ht.phase (by rw [hphase]; simp)).trans hphase) haccepts
  | timedOut hsubmit hphase =>
      obtain ⟨t', hrequests, ht⟩ := hone rfl
      rw [hrequests]
      refine .timedOut hsubmit ((ht.phase (by rw [hphase]; simp)).trans ?_)
      rw [hphase, ht.timeoutError]
  | late hphase =>
      obtain ⟨t', hrequests, ht⟩ := hone rfl
      rw [hrequests]
      refine .late ((ht.phase (by rw [hphase]; simp)).trans ?_)
      rw [hphase, ht.1]
  | unsent ref hphase =>
      obtain ⟨t', hrequests, ht⟩ := hone rfl
      rw [hrequests]
      exact .unsent ref ((ht.phase (by rw [hphase]; simp)).trans hphase)

/-- How a call of the callback has ended: its caller has gone on with its outcome. -/
def MtCall.Ended (c : MtCall) (outcome : Except PyError Unit) : Prop :=
  c.returned = true ∧ c.outcome = some outcome

/-- How an incoming message has been handled, by the record of its handler, where `listens` says that
there is a callback: it could not be acknowledged; the callback has got it; or nothing has. -/
inductive Handled (msg : SIPMessage) (delivery : List (Text × Text × Text)) (listens : Bool)
    (r : SmsRecord) : Except PyError SmsAnswer → Prop
  | unacknowledged {t : Transmission} {e : PyError} : r.transmissions = [t] →
      t.outcome = some (.error e) → r.mtCalls = [] → Handled msg delivery listens r (.error e)
  | delivered {c : MtCall} {outcome : Except PyError Unit} : listens = true → r.mtCalls = [c] →
      delivery = [c.content] → c.Ended outcome → Handled msg delivery listens r
        (if contentType3gppSms <:+: msg.header "Content-Type" then .ok .none
          else outcome.map fun _ => .none)
  | nothing : listens = false ∨ delivery = [] → r.mtCalls = [] →
      Handled msg delivery listens r (.ok .none)

/-- What a command returns by its record, where `stopped` says that the service is not started, and
`listens` that there is a callback. -/
def SmsCommand.Answers (stopped : Prop) (listens : Bool) (cmd : SmsCommand) (r : SmsRecord)
    (result : Except PyError SmsAnswer) : Prop :=
  match cmd with
  | .sendSms _ pdu => ∃ res, result = .ok (.result res) ∧ Sent pdu stopped r.requests res
  | .deliverMtSms _ _ _ =>
      if listens then ∃ c outcome, r.mtCalls = [c] ∧ c.Ended outcome ∧
        result = outcome.map fun _ => .delivered true
      else r.mtCalls = [] ∧ result = .ok (.delivered false)
  | .incoming msg _ =>
      r.transmissions.map Transmission.packet = cmd.acknowledgement ∧
        Handled msg cmd.delivery listens r result
  | .stop => result = .ok .none

namespace SmsService

/-- The record of command `k`. -/
def record (s : SmsService) (k : ℕ) : SmsRecord where
  requests := requestJournal.of k s.requests
  transmissions := transmissionJournal.of k s.transmissions
  mtCalls := mtJournal.of k s.mtCalls

/-! ### What a command relies on, and what it does -/

/-- What has become of the service in the eyes of the commands in `P`. -/
structure Shift (P : ℕ → Prop) (s s' : SmsService) : Prop where
  requests : requestJournal.Shift P s.requests s'.requests
  transmissions : transmissionJournal.Shift P s.transmissions s'.transmissions
  mtCalls : mtJournal.Shift P s.mtCalls s'.mtCalls
  stopped : s.started = false → s'.started = false
  config : s'.config = s.config
  mtCallback : s'.mtCallback = s.mtCallback
  random : s'.random = s.random

/-- The others leave the record of command `k` alone, but for outcomes. -/
abbrev Relies (k : ℕ) (s s' : SmsService) : Prop := Shift (· = k) s s'

/-- Command `k`, which is `cmd`, adds to its own record, and hands its own response to the client. -/
structure Does (k : ℕ) (cmd : SmsCommand) (s s' : SmsService) : Prop where
  shift : Shift (· ≠ k) s s'
  commands : s.commands ≤ s'.commands ∧ s'.commands ≤ max s.commands (k + 1)
  arrived : ∀ m ∈ s'.arrived, m ∈ s.arrived ∨ ∃ addr, cmd = .incoming m addr

section

variable {k : ℕ} {cmd : SmsCommand} {P : ℕ → Prop} {s s' s'' : SmsService}

namespace Shift

theorem refl (s : SmsService) : Shift P s s := ⟨.refl _, .refl _, .refl _, id, rfl, rfl, rfl⟩

theorem trans (h : Shift P s s') (h' : Shift P s' s'') : Shift P s s'' :=
  ⟨h.requests.trans h'.requests, h.transmissions.trans h'.transmissions, h.mtCalls.trans h'.mtCalls,
    fun hs => h'.stopped (h.stopped hs), h'.config.trans h.config, h'.mtCallback.trans h.mtCallback,
    h'.random.trans h.random⟩

theorem mono {Q : ℕ → Prop} (h : Shift P s s') (hPQ : ∀ n, Q n → P n) : Shift Q s s' :=
  ⟨h.requests.mono hPQ, h.transmissions.mono hPQ, h.mtCalls.mono hPQ, h.stopped, h.config,
    h.mtCallback, h.random⟩

/-- A command in `P` finds its record as it was, or later. -/
theorem record (h : Shift P s s') (hk : P k) : (s.record k).Later (s'.record k) :=
  ⟨h.requests.of hk, h.transmissions.of hk, h.mtCalls.of hk⟩

end Shift

namespace Does

theorem refl (k : ℕ) (cmd : SmsCommand) (s : SmsService) : Does k cmd s s :=
  ⟨.refl s, ⟨le_rfl, le_max_left _ _⟩, fun _ h => .inl h⟩

theorem trans (h : Does k cmd s s') (h' : Does k cmd s' s'') : Does k cmd s s'' := by
  refine ⟨h.shift.trans h'.shift, ⟨h.commands.1.trans h'.commands.1, ?_⟩, fun m hm => ?_⟩
  · exact h'.commands.2.trans (max_le h.commands.2 (le_max_right _ _))
  · rcases h'.arrived m hm with hm | hm
    · exact h.arrived m hm
    · exact .inr hm

theorem relies (h : Does k cmd s s') {j : ℕ} (hj : j ≠ k) : Relies j s s' :=
  h.shift.mono fun _ hn => hn ▸ hj

/-- Changes of the fields that are not part of a record. -/
theorem of_eq (hrequests : s'.requests = s.requests) (htransmissions : s'.transmissions = s.transmissions)
    (hmtCalls : s'.mtCalls = s.mtCalls) (hstarted : s.started = false → s'.started = false)
    (hconfig : s'.config = s.config) (hmtCallback : s'.mtCallback = s.mtCallback)
    (hrandom : s'.random = s.random) (hcommands : s'.commands = s.commands)
    (harrived : s'.arrived = s.arrived) : Does k cmd s s' :=
  ⟨⟨.of_eq hrequests, .of_eq htransmissions, .of_eq hmtCalls, hstarted, hconfig, hmtCallback, hrandom⟩,
    ⟨hcommands.ge, hcommands.le.trans (le_max_left _ _)⟩, fun _ h => .inl (harrived ▸ h)⟩

end Does

theorem does_beginCommand (cmd : SmsCommand) (s : SmsService) : Does s.commands cmd s s.beginCommand :=
  ⟨⟨.refl _, .refl _, .refl _, id, rfl, rfl, rfl⟩, ⟨Nat.le_succ _, le_max_right _ _⟩, fun _ h => .inl h⟩

theorem does_beginTransmission (k : ℕ) (cmd : SmsCommand) (message : SIPMessage) (dest : Text × ℕ)
    (s : SmsService) : Does k cmd s (s.beginTransmission k message dest) :=
  ⟨⟨.refl _, .append_singleton (not_not_intro rfl), .refl _, id, rfl, rfl, rfl⟩, ⟨le_rfl, le_max_left _ _⟩,
    fun _ h => .inl h⟩

theorem does_beginCallback (k : ℕ) (cmd : SmsCommand) (fromNumber toNumber text : Text)
    (s : SmsService) : Does k cmd s (s.beginCallback k fromNumber toNumber text) :=
  ⟨⟨.refl _, .refl _, .append_singleton (not_not_intro rfl), id, rfl, rfl, rfl⟩, ⟨le_rfl, le_max_left _ _⟩,
    fun _ h => .inl h⟩

theorem does_endCallback {n : ℕ} {c : MtCall} (hn : s.mtCalls[n]? = some c) (hk : c.command = k)
    (success : Bool) : Does k cmd s (s.endCallback n success) := by
  refine ⟨⟨.refl _, .refl _, .modify fun x hx => ?_, id, rfl, rfl, rfl⟩, ⟨le_rfl, le_max_left _ _⟩,
    fun _ h => .inl h⟩
  obtain rfl := Option.some.inj (hn.symm.trans hx)
  exact ⟨rfl, fun hne => absurd hk hne⟩

theorem does_client {c c' : Session} (hc : s.sipClient = some c) {i : ℕ} {f : Call → Call}
    (hcalls : c'.calls = c.calls.modify i f) {x : Posting × Call} (hi : s.requests[i]? = some x)
    (hk : x.1.command = k) : Does k cmd s { s with sipClient := some c' } := by
  have hrequests : ({ s with sipClient := some c' } : SmsService).requests =
      s.requests.modify i (Prod.map id f) := by
    change s.postings.zip c'.calls = _
    rw [hcalls, Journal.zip_modify, requests, calls_eq hc]
  refine ⟨⟨?_, .refl _, .refl _, id, rfl, rfl, rfl⟩, ⟨le_rfl, le_max_left _ _⟩, fun _ h => .inl h⟩
  rw [hrequests]
  refine .modify fun y hy => ?_
  obtain rfl := Option.some.inj (hi.symm.trans hy)
  exact ⟨rfl, fun hne => absurd hk hne⟩

theorem shift_handResponse {c : Session} (hc : s.sipClient = some c) (msg : SIPMessage) :
    Shift P s (s.handResponse msg) := by
  obtain ⟨i, f, hcalls, hf⟩ := c.handleMessage_calls msg
  have hrequests : (s.handResponse msg).requests = s.requests.modify i (Prod.map id f) := by
    have hnew : (s.handResponse msg).calls = (c.handleMessage msg).calls := by
      unfold handResponse calls
      rw [hc]
      rfl
    rw [requests, hnew, hcalls, Journal.zip_modify, requests, calls_eq hc]
    rfl
  refine ⟨?_, .refl _, .refl _, id, rfl, rfl, rfl⟩
  rw [hrequests]
  refine .modify fun y _ => .of_later ⟨rfl, ?_⟩
  exact ⟨(hf y.2).1, (hf y.2).2.1, .inl (hf y.2).2.2⟩

theorem does_handResponse {c : Session} (hc : s.sipClient = some c) (msg : SIPMessage)
    (addr : Text × ℕ) : Does k (.incoming msg addr) s (s.handResponse msg) := by
  refine ⟨shift_handResponse hc msg, ⟨le_rfl, le_max_left _ _⟩, fun m hm => ?_⟩
  rcases List.mem_append.mp hm with hm | hm
  · exact .inl hm
  · rw [List.mem_singleton.mp hm]
    exact .inr ⟨addr, rfl⟩

end

/-! ### The invariant -/

namespace Coherent

variable {d k : ℕ} {s : SmsService}

theorem setMessageRef (h : Coherent d s) (ref : ℕ) : Coherent d (s.setMessageRef ref) :=
  ⟨h.client, h.rpRef, h.increasing, h.bounded, h.carries, h.sent, h.received⟩

theorem setLastError (h : Coherent d s) (error : Text) : Coherent d (s.setLastError error) :=
  ⟨h.client, h.rpRef, h.increasing, h.bounded, h.carries, h.sent, h.received⟩

theorem beginCommand (h : Coherent d s) : Coherent d s.beginCommand :=
  ⟨h.client, h.rpRef, h.increasing, h.bounded, h.carries, h.sent, h.received⟩

theorem beginTransmission (h : Coherent d s) (message : SIPMessage) (dest : Text × ℕ) :
    Coherent d (s.beginTransmission k message dest) :=
  ⟨h.client, h.rpRef, h.increasing, h.bounded, h.carries, h.sent, h.received⟩

theorem countSent (h : Coherent (d + 1) s) : Coherent d s.countSent := by
  refine ⟨h.client, h.rpRef, h.increasing, h.bounded, h.carries, ?_, h.received⟩
  have hsent := h.sent
  change s.state.messagesSent + 1 + d = s.calls.countP Call.accepted
  omega

theorem beginCallback (h : Coherent d s) (fromNumber toNumber text : Text) :
    Coherent d (s.beginCallback k fromNumber toNumber text) :=
  ⟨h.client, h.rpRef, h.increasing, h.bounded, h.carries, h.sent, h.received.call rfl⟩

theorem endCallback (h : Coherent d s) {n : ℕ} {c : MtCall} (hn : s.mtCalls[n]? = some c)
    (hreturned : c.returned = false) {outcome : Except PyError Unit} (houtcome : c.outcome = some outcome) :
    Coherent d (s.endCallback n outcome.toBool) := by
  have hcounted := h.received.goOn hn hreturned houtcome
  have hsent := h.sent
  cases outcome with
  | ok u => exact ⟨h.client, h.rpRef, h.increasing, h.bounded, h.carries, hsent, hcounted⟩
  | error e => exact ⟨h.client, h.rpRef, h.increasing, h.bounded, h.carries, hsent, hcounted⟩

theorem handResponse (h : Coherent d s) (msg : SIPMessage) : Coherent d (s.handResponse msg) := by
  obtain ⟨c, hc, hexchanges⟩ := h.client
  obtain ⟨i, f, hcalls, hf⟩ := c.handleMessage_calls msg
  have heq : s.handResponse msg =
      { s with sipClient := some (c.handleMessage msg), arrived := s.arrived ++ [msg] } := by
    unfold SmsService.handResponse
    rw [hc]
    rfl
  rw [heq]
  refine h.change hc (hexchanges.handleMessage msg) hcalls (fun t => (hf t).2.1) ?_
  rw [hcalls, Journal.countP_modify_eq fun t _ => ?_]
  unfold Call.accepted
  rw [(hf t).2.2]

end Coherent

end SmsService

end VirtualPhone
