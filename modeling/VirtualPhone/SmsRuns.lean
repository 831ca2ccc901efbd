import VirtualPhone.Runtime.Service
import VirtualPhone.SmsCommands

/-! # Runs of the SMS service

Android sends messages, messages and responses come in, times run out, the transport and the callback
end, in any order and any number of them at the same time.

`sendSms_runs` and `incoming_runs` say what every call of `send_sms` and of the handler of incoming
messages does and returns.  `responses_own` is about the responses: a request gets one of its own, or
none.  `references_fresh` is about the relay messages in the requests, and `counters_true` about the
counters of the service. -/

namespace VirtualPhone

open Runtime

namespace SmsService

/-! ### What happens outside -/

section

variable {P : ℕ → Prop} {s s' : SmsService}

theorem outside_datagram {msg : SIPMessage} (hcoherent : Coherent 0 s)
    (h : s.outside (.datagram msg) = some s') : Shift P s s' ∧ s'.commands = s.commands ∧
      Coherent 0 s' ∧ ∀ m ∈ s'.arrived, m ∈ s.arrived ∨ m = msg := by
  obtain ⟨c, hc, -⟩ := hcoherent.client
  simp only [outside] at h
  obtain rfl := Option.some.inj h
  split_ifs
  · refine ⟨shift_handResponse hc msg, rfl, hcoherent.handResponse msg, fun m hm => ?_⟩
    simpa [handResponse] using hm
  · exact ⟨.refl s, rfl, hcoherent, fun m hm => .inl hm⟩

theorem outside_expire {i : ℕ} (hcoherent : Coherent 0 s) (h : s.outside (.expire i) = some s') :
    Shift P s s' ∧ s'.commands = s.commands ∧ Coherent 0 s' ∧ s'.arrived = s.arrived := by
  obtain ⟨c, hc, hexchanges⟩ := hcoherent.client
  simp only [outside, hc, Option.bind_some] at h
  obtain ⟨c', hstep, rfl⟩ := Option.map_eq_some_iff.mp h
  obtain ⟨t, ht, hphase, rfl⟩ : ∃ t, c.calls[i]? = some t ∧ t.phase = .waiting ∧
      c.updateCall i Call.expire = c' := by
    simp only [Session.step] at hstep
    split at hstep
    · next t ht =>
        split_ifs at hstep with hwaits
        exact ⟨t, ht, hwaits.1, Option.some.inj hstep⟩
    · cases hstep
  have hcalls : (c.updateCall i Call.expire).calls = c.calls.modify i Call.expire := rfl
  refine ⟨⟨?_, .refl _, .refl _, id, rfl, rfl, rfl⟩, rfl, ?_, rfl⟩
  · have hrequests : ({ s with sipClient := some (c.updateCall i Call.expire) } : SmsService).requests =
        s.requests.modify i (Prod.map id Call.expire) := by
      rw [requests, calls_eq rfl, hcalls, Journal.zip_modify, requests, calls_eq hc]
    rw [hrequests]
    refine .modify fun x hx => .of_later ⟨rfl, rfl, rfl, .inr ⟨?_, rfl⟩⟩
    rw [requests, calls_eq hc] at hx
    have hcall := (List.getElem?_zip_eq_some.mp hx).2
    obtain rfl : t = x.2 := Option.some.inj (ht.symm.trans hcall)
    exact hphase
  · refine hcoherent.change hc (hexchanges.expire ht) hcalls (fun _ => rfl) ?_
    rw [hcalls, Journal.countP_modify_eq fun u hu => ?_]
    obtain rfl : t = u := Option.some.inj (ht.symm.trans hu)
    unfold Call.accepted
    rw [hphase]
    rfl

theorem outside_sent {n : ℕ} {outcome : Except PyError Unit} (hcoherent : Coherent 0 s)
    (h : s.outside (.sent n outcome) = some s') :
    Shift P s s' ∧ s'.commands = s.commands ∧ Coherent 0 s' ∧ s'.arrived = s.arrived := by
  simp only [outside] at h
  split at h
  · next t hn =>
      obtain rfl := Option.some.inj h
      refine ⟨⟨.refl _, .modify fun x hx => .of_later ?_, .refl _, id, rfl, rfl, rfl⟩, rfl, ?_, rfl⟩
      · obtain rfl := Option.some.inj (hn.symm.trans hx)
        exact ⟨rfl, rfl, fun hsome => by cases hsome⟩
      · exact ⟨hcoherent.client, hcoherent.rpRef, hcoherent.increasing, hcoherent.bounded,
          hcoherent.carries, hcoherent.sent, hcoherent.received⟩
  · cases h

theorem outside_callback {n : ℕ} {outcome : Except PyError Unit} (hcoherent : Coherent 0 s)
    (h : s.outside (.callback n outcome) = some s') :
    Shift P s s' ∧ s'.commands = s.commands ∧ Coherent 0 s' ∧ s'.arrived = s.arrived := by
  simp only [outside] at h
  split at h
  · next hn =>
      obtain rfl := Option.some.inj h
      refine ⟨⟨.refl _, .refl _, .modify fun x hx => .of_later ?_, id, rfl, rfl, rfl⟩, rfl, ?_, rfl⟩
      · obtain rfl := Option.some.inj (hn.symm.trans hx)
        exact ⟨rfl, rfl, rfl, fun hsome => by cases hsome⟩
      · exact ⟨hcoherent.client, hcoherent.rpRef, hcoherent.increasing, hcoherent.bounded,
          hcoherent.carries, hcoherent.sent, hcoherent.received.settle hn rfl outcome⟩
  · cases h

end

/-! ### The service -/

/-- What is known of the state: the invariant of the service, that whatever was begun belongs to a
command that was begun, and that whatever was handed to the client came in. -/
structure Sound (cmds : List SmsCommand) (happened : List SmsOutside) (s : SmsService) : Prop where
  coherent : Coherent 0 s
  requests : ∀ x ∈ s.requests, x.1.command < cmds.length
  transmissions : ∀ t ∈ s.transmissions, t.command < cmds.length
  mtCalls : ∀ c ∈ s.mtCalls, c.command < cmds.length
  arrived : ∀ m ∈ s.arrived,
    (∃ addr, SmsCommand.incoming m addr ∈ cmds) ∨ SmsOutside.datagram m ∈ happened

/-- The service as one whose commands are numbered. -/
def service (strError : PyError → Text) :
    Service SmsService SmsAwait SmsAnswer SmsCommand SmsOutside SmsCommand where
  loop := loop strError
  command := id
  count := SmsService.commands
  contract := contract
  holds k cmd s := cmd.Keeps s.config (s.record k)
  post := Served
  fact := Sound

section

variable {cmds : List SmsCommand} {happened : List SmsOutside} {s s' : SmsService}

theorem Sound.fresh (h : Sound cmds happened s) : s.record cmds.length = ⟨[], [], []⟩ := by
  have hrequests : requestJournal.of cmds.length s.requests = [] :=
    Journal.of_eq_nil fun x hx => (h.requests x hx).ne
  have htransmissions : transmissionJournal.of cmds.length s.transmissions = [] :=
    Journal.of_eq_nil fun t ht => (h.transmissions t ht).ne
  have hcalls : mtJournal.of cmds.length s.mtCalls = [] :=
    Journal.of_eq_nil fun c hc => (h.mtCalls c hc).ne
  rw [record, hrequests, htransmissions, hcalls]

theorem Sound.shift {P : ℕ → Prop} (h : Sound cmds happened s) (hshift : Shift P s s')
    (hP : ∀ n, ¬P n → n < cmds.length) (hcoherent : Coherent 0 s') {happened' : List SmsOutside}
    (harrived : ∀ m ∈ s'.arrived, (∃ addr, SmsCommand.incoming m addr ∈ cmds) ∨
      SmsOutside.datagram m ∈ happened') : Sound cmds happened' s' :=
  ⟨hcoherent, hshift.requests.owners (p := (· < cmds.length)) h.requests hP,
    hshift.transmissions.owners (p := (· < cmds.length)) h.transmissions hP,
    hshift.mtCalls.owners (p := (· < cmds.length)) h.mtCalls hP, harrived⟩

theorem Sound.underway (h : Sound cmds happened s) {k : ℕ} {cmd : SmsCommand}
    (hk : cmds[k]? = some cmd) (hunderway : Underway k cmd 0 s s') : Sound cmds happened s' := by
  refine h.shift hunderway.does.shift (fun n hn => ?_) hunderway.coherent fun m hm => ?_
  · rw [not_not.mp hn]
    exact (List.getElem?_eq_some_iff.mp hk).1
  · rcases hunderway.does.arrived m hm with hm | ⟨addr, rfl⟩
    · exact h.arrived m hm
    · exact .inl ⟨addr, List.mem_of_getElem? hk⟩

theorem Sound.begins (h : Sound cmds happened s) (cmd : SmsCommand) :
    Sound (cmds ++ [cmd]) happened s := by
  have hlength : cmds.length ≤ (cmds ++ [cmd]).length := by simp
  refine ⟨h.coherent, fun x hx => (h.requests x hx).trans_le hlength,
    fun t ht => (h.transmissions t ht).trans_le hlength, fun c hc => (h.mtCalls c hc).trans_le hlength,
    fun m hm => (h.arrived m hm).imp ?_ id⟩
  rintro ⟨addr, haddr⟩
  exact ⟨addr, List.mem_append_left _ haddr⟩

/-- Something happens outside: every command can rely on it. -/
theorem Sound.outside (h : Sound cmds happened s) {e : SmsOutside} (hs : s.outside e = some s') :
    (∀ P, Shift P s s') ∧ s'.commands = s.commands ∧ Sound cmds (happened ++ [e]) s' := by
  have hmember : ∀ m ∈ s.arrived, (∃ addr, SmsCommand.incoming m addr ∈ cmds) ∨
      SmsOutside.datagram m ∈ happened ++ [e] := fun m hm =>
    (h.arrived m hm).imp id (List.mem_append_left _)
  have hquiet : (∀ P, Shift P s s' ∧ s'.commands = s.commands ∧ Coherent 0 s' ∧ s'.arrived = s.arrived) →
      (∀ P, Shift P s s') ∧ s'.commands = s.commands ∧ Sound cmds (happened ++ [e]) s' := by
    intro hall
    obtain ⟨hshift, hcommands, hcoherent, harrived⟩ := hall fun _ => True
    refine ⟨fun P => (hall P).1, hcommands, h.shift hshift (fun n hn => absurd trivial hn) hcoherent ?_⟩
    rw [harrived]
    exact hmember
  cases e with
  | datagram msg =>
      have hall := fun P : ℕ → Prop => outside_datagram (P := P) h.coherent hs
      obtain ⟨hshift, hcommands, hcoherent, harrived⟩ := hall fun _ => True
      refine ⟨fun P => (hall P).1, hcommands, h.shift hshift (fun n hn => absurd trivial hn) hcoherent ?_⟩
      intro m hm
      rcases harrived m hm with hm | rfl
      · exact hmember m hm
      · exact .inr (List.mem_append_right _ (List.mem_singleton_self _))
  | expire i => exact hquiet fun P => outside_expire h.coherent hs
  | sent n outcome => exact hquiet fun P => outside_sent h.coherent hs
  | callback n outcome => exact hquiet fun P => outside_callback h.coherent hs
  | socket outcome =>
      obtain rfl := Option.some.inj hs
      refine hquiet fun P => ⟨⟨.refl _, .refl _, .refl _, id, rfl, rfl, rfl⟩, rfl, ?_, rfl⟩
      exact ⟨h.coherent.client, h.coherent.rpRef, h.coherent.increasing, h.coherent.bounded,
        h.coherent.carries, h.coherent.sent, h.coherent.received⟩

/-- **The commands of the service**, and what happens outside. -/
theorem service_lawful (strError : PyError → Text) : (service strError).Lawful where
  refl k cmd s := Shift.refl s
  others hne hguar := hguar.does.relies hne
  holds hguar := hguar.keeps
  holds_later hkeeps hrely := by
    have hlater := hkeeps.later (Shift.record hrely rfl)
    rw [← Shift.config hrely] at hlater
    exact hlater
  post_later hserved hrely := served_later hserved hrely
  count hguar := hguar.does.commands
  fact hsound hk hguar := hsound.underway hk hguar
  begins cmd hsound := hsound.begins cmd
  spawn {cmds happened s} cmd hsound hcount := by
    have hbegun : Coherent 0 s.beginCommand := hsound.coherent.beginCommand
    have hserves : ∀ s₀, Does cmds.length cmd s₀ s.beginCommand →
        (serve strError cmds.length cmd).Meets (contract cmds.length cmd) (Serves cmds.length cmd) s₀
          s.beginCommand := fun s₀ hdoes => serve_serves strError cmd hdoes hbegun hsound.fresh
    change s.commands = cmds.length at hcount
    have hrun : ((service strError).loop.main cmd).run s =
        (serve strError cmds.length cmd).run s.beginCommand := by
      rw [← hcount]
      rfl
    refine ⟨?_, ?_⟩
    · refine Coro.meets_get_bind.mpr (Coro.meets_modify_bind.mpr ?_)
      rw [hcount]
      exact hserves s (hcount ▸ does_beginCommand cmd s)
    · rw [hrun]
      exact ((hserves _ (.refl _ _ _)).run.1.does.commands).1
  resume hsound hready := ⟨hready, hsound.coherent⟩
  outside hsound hs := by
    obtain ⟨hshift, hcommands, hsound'⟩ := hsound.outside hs
    exact ⟨fun k _ => hshift _, hcommands, hsound'⟩

end

/-! ### Runs -/

section

variable {strError : PyError → Text} {config : SMSConfig} {random : ℕ → RandomIds} {mtCallback : Bool}
  {events : List (PoolEvent SmsCommand SmsOutside)} {p : Pool SmsService SmsAwait SmsAnswer}

theorem serving_start (strError : PyError → Text) (config : SMSConfig) (random : ℕ → RandomIds)
    (mtCallback : Bool) : (service strError).Serving [] [] ⟨start config random mtCallback, []⟩ := by
  refine .start rfl ⟨.start config random mtCallback, fun x h => ?_, fun t h => ?_, fun c h => ?_,
    fun m h => ?_⟩
  all_goals cases h

theorem serving_run
    (h : runFrom (loop strError).step ⟨start config random mtCallback, []⟩ events = some p) :
    (service strError).Serving ((service strError).begun events) (Service.happened events) p :=
  (serving_start strError config random mtCallback).run (service_lawful strError) h

theorem settings_run
    (h : runFrom (loop strError).step ⟨start config random mtCallback, []⟩ events = some p) :
    p.state.config = config ∧ p.state.mtCallback = mtCallback ∧ p.state.random = random := by
  refine (serving_start strError config random mtCallback).invariant (service_lawful strError)
    (I := fun s => s.config = config ∧ s.mtCallback = mtCallback ∧ s.random = random)
    (N := fun _ => True) (fun k cmd s s' hs hguar => ?_) (fun s s' x _ hs _ hrely => ?_)
    (fun _ _ => trivial) ⟨rfl, rfl, rfl⟩ h
  · have hshift := hguar.does.shift
    exact ⟨hshift.config.trans hs.1, hshift.mtCallback.trans hs.2.1, hshift.random.trans hs.2.2⟩
  · have hshift : Relies 0 s s' := hrely 0 .stop
    exact ⟨hshift.config.trans hs.1, hshift.mtCallback.trans hs.2.1, hshift.random.trans hs.2.2⟩

theorem command_run
    (h : runFrom (loop strError).step ⟨start config random mtCallback, []⟩ events = some p)
    {k : ℕ} {cmd : SmsCommand} (hk : ((service strError).begun events)[k]? = some cmd) :
    cmd.Keeps config (p.state.record k) ∧ ∀ r, p.tasks[k]? = some (.done r) →
      cmd.Answers (p.state.started = false) mtCallback (p.state.record k) r := by
  obtain ⟨hkeeps, hserved⟩ := (serving_run h).command hk
  obtain ⟨hconfig, hcallback, -⟩ := settings_run h
  subst hconfig hcallback
  exact ⟨hkeeps, hserved⟩

/-- The settings of a run. -/
def testConfig : SMSConfig where
  pcscfAddress := "pcscf".toList
  impu := "sip:me@home".toList
  homeDomain := "home".toList

/-- Call-IDs, all of them different. -/
def testRandom (i : ℕ) : RandomIds := ⟨List.replicate (i + 1) 'a', ['b'], ['c']⟩

/-- An empty message to 12. -/
def testPdu : Text := "000107029121000000".toList

/-- A response with the Call-ID of request `n`. -/
def testAnswer (code : ℤ) (n : ℕ) : SIPMessage where
  statusCode := some code
  headers := Dict.empty.set "Call-ID".toList (testRandom n).callId

/-- A message from +12. -/
def testMessage : SIPMessage where
  method := some "MESSAGE".toList
  headers := Dict.empty.set "From".toList "<sip:+12@home>".toList
  body := [104, 105]

/-- Two messages at the same time, one of which is refused, and a message that comes in meanwhile. -/
def exchangeRun : List (PoolEvent SmsCommand SmsOutside) :=
  [.spawn (.sendSms [] testPdu), .spawn (.sendSms [] testPdu),
    .spawn (.incoming testMessage ("pcscf".toList, 5060)), .outside (.datagram (testAnswer 200 0)),
    .outside (.callback 0 (.ok ())), .resume 2,
    .spawn (.incoming (testAnswer 486 1) ("pcscf".toList, 5060)), .resume 1, .resume 0]

/-- What a coroutine has returned. -/
def returned : Coro SmsService SmsAwait SmsAnswer → Option SmsAnswer
  | .done (.ok a) => some a
  | _ => none

theorem eq_done_of_returned {x : Option (Coro SmsService SmsAwait SmsAnswer)} {a : SmsAnswer}
    (h : x.bind returned = some a) : x = some (.done (.ok a)) := by
  obtain ⟨task, rfl, htask⟩ := Option.bind_eq_some_iff.mp h
  unfold returned at htask
  split at htask
  · obtain rfl := Option.some.inj htask
    rfl
  · cases htask

/-- How the messages of `exchangeRun` end: the first is accepted, the second refused, and the third given
to the callback. -/
theorem exchangeRun_ends : ∃ p, runFrom (loop fun _ => []).step ⟨start testConfig testRandom true, []⟩
    exchangeRun = some p ∧ p.state.started = true ∧
      p.tasks[0]? = some (.done (.ok (.result ⟨7, [], 0⟩))) ∧ p.tasks[2]? = some (.done (.ok .none)) ∧
      p.state.attempts = 2 ∧ p.state.requests.length = 2 ∧
      p.state.state.messagesSent = 1 ∧ p.state.state.messagesReceived = 1 := by
  have hsome : (runFrom (loop fun _ => []).step ⟨start testConfig testRandom true, []⟩
      exchangeRun).isSome := by decide +kernel
  have hall : (runFrom (loop fun _ => []).step ⟨start testConfig testRandom true, []⟩ exchangeRun).all
      (fun p => p.state.started && decide (p.tasks[0]?.bind returned = some (.result ⟨7, [], 0⟩)) &&
        decide (p.tasks[2]?.bind returned = some .none) &&
        decide (p.state.attempts = 2 ∧ p.state.requests.length = 2 ∧
          p.state.state.messagesSent = 1 ∧ p.state.state.messagesReceived = 1)) = true := by
    decide +kernel
  obtain ⟨p, hp⟩ := Option.isSome_iff_exists.mp hsome
  rw [hp] at hall
  simp only [Option.all_some, Bool.and_eq_true, decide_eq_true_eq] at hall
  obtain ⟨⟨⟨hstarted, hfirst⟩, hthird⟩, hcounts⟩ := hall
  exact ⟨p, hp, hstarted, eq_done_of_returned hfirst, eq_done_of_returned hthird, hcounts⟩

/-- While the service is started, error code 0 says that the message was accepted. -/
theorem errorCode_of_sent {pdu : Text} {stopped : Prop} {requests : List (Posting × Call)}
    {res : SmsResult} (h : Sent pdu stopped requests res) (hstarted : ¬stopped) : res.errorCode = 0 ↔
      ∃ q t m, requests = [(q, t)] ∧ t.phase = .returned m ∧ m.acceptsMessage = true := by
  have hnot : ∀ {q : Posting} {t : Call}, (∀ m, t.phase = .returned m → m.acceptsMessage = false) →
      ¬∃ q' t' m, [(q, t)] = [(q', t')] ∧ t'.phase = .returned m ∧ m.acceptsMessage = true := by
    rintro q t hphase ⟨q', t', m, heq, hm, haccepts⟩
    obtain ⟨rfl, rfl⟩ := Prod.mk.inj (List.singleton_inj.mp heq)
    rw [hphase m hm] at haccepts
    cases haccepts
  cases h with
  | stopped h => exact absurd h hstarted
  | unreadable h => simp
  | accepted hsubmit hphase haccepts => simp [hphase, haccepts]
  | refused hsubmit hphase haccepts =>
      refine iff_of_false (by simp) (hnot fun m hm => ?_)
      obtain rfl := Phase.returned.inj (hphase.symm.trans hm)
      exact haccepts
  | timedOut hsubmit hphase =>
      refine iff_of_false (by simp) (hnot fun m hm => ?_)
      rw [hphase] at hm
      cases hm
  | late hphase =>
      refine iff_of_false (by simp) (hnot fun m hm => ?_)
      rw [hphase] at hm
      cases hm
  | unsent ref hphase =>
      refine iff_of_false (by simp) (hnot fun m hm => ?_)
      rw [hphase] at hm
      cases hm

/-- **Sending.**  In every run, a call of `send_sms` has at most one request.  It carries the TPDU of
the PDU of this call, in a relay message to the number in the TPDU, and is all that the call sends.  The
call does not raise; what it returns is what its request says, and while the service is started, the
error code is 0 exactly if the request was accepted. -/
theorem sendSms_runs
    (h : runFrom (loop strError).step ⟨start config random mtCallback, []⟩ events = some p)
    {k : ℕ} {smscPdu pdu : Text}
    (hk : ((service strError).begun events)[k]? = some (.sendSms smscPdu pdu)) :
    (p.state.record k).requests.length ≤ 1 ∧
      (∀ x ∈ (p.state.record k).requests, x.1.CarriedBy config x.2 ∧
        ∃ smsc, parsePduFromRil pdu = .ok (smsc, x.1.tpdu)) ∧
      (p.state.record k).transmissions.map Transmission.packet <+:
        (p.state.record k).requests.map (fun x => (x.2.request, config.dest)) ∧
      (p.state.record k).mtCalls = [] ∧
      ∀ r, p.tasks[k]? = some (.done r) → ∃ res, r = .ok (.result res) ∧
        Sent pdu (p.state.started = false) (p.state.record k).requests res ∧
        (p.state.started = true → (res.errorCode = 0 ↔ ∃ q t m,
          (p.state.record k).requests = [(q, t)] ∧ t.phase = .returned m ∧ m.acceptsMessage = true)) := by
  obtain ⟨hkeeps, hanswers⟩ := command_run h hk
  have hcoherent := (serving_run h).fact.coherent
  have hconfig := (settings_run h).1
  refine ⟨hkeeps.once, fun x hx => ⟨?_, ?_⟩, ?_, ?_, fun r hr => ?_⟩
  · rw [← hconfig]
    exact hcoherent.carries x (Journal.mem_of.mp hx).1
  · obtain ⟨smscPdu', pdu', smsc, heq, hpdu⟩ := hkeeps.requests x hx
    cases heq
    exact ⟨smsc, hpdu⟩
  · have htransmissions := hkeeps.transmissions
    change _ <+: _ ++ [] at htransmissions
    rw [List.append_nil] at htransmissions
    exact htransmissions
  · exact List.map_eq_nil_iff.mp (List.prefix_nil.mp hkeeps.delivery)
  · obtain ⟨res, hres, hsent⟩ := hanswers r hr
    refine ⟨res, hres, hsent, fun hstarted => errorCode_of_sent hsent ?_⟩
    rw [hstarted]
    simp

theorem sendSms_runs_exchange :
    ∃ p q t m, runFrom (loop fun _ => []).step ⟨start testConfig testRandom true, []⟩ exchangeRun =
        some p ∧ (p.state.record 0).requests = [(q, t)] ∧ q.CarriedBy testConfig t ∧
      (∃ smsc, parsePduFromRil testPdu = .ok (smsc, q.tpdu)) ∧
      t.phase = .returned m ∧ m.acceptsMessage = true := by
  obtain ⟨p, hp, hstarted, hdone, -⟩ := exchangeRun_ends
  have hk : ((service fun _ => []).begun exchangeRun)[0]? = some (.sendSms [] testPdu) := rfl
  obtain ⟨-, hcarried, -, -, hreturns⟩ := sendSms_runs hp hk
  obtain ⟨res, hres, -, hcode⟩ := hreturns _ hdone
  obtain rfl : ⟨7, [], 0⟩ = res := SmsAnswer.result.inj (Except.ok.inj hres)
  obtain ⟨q, t, m, hrequests, hphase, haccepts⟩ := (hcode hstarted).mp rfl
  obtain ⟨hpacket, htpdu⟩ := hcarried (q, t) (by rw [hrequests]; exact List.mem_singleton_self _)
  exact ⟨p, q, t, m, hp, hrequests, hpacket, htpdu, hphase, haccepts⟩

/-- **Incoming messages.**  In every run, the handler of a MESSAGE answers it with one 200 OK to where
it came from, and the callback gets its sender and text at most once, after the 200 OK.  When the
handler has ended, the 200 OK was sent, and the callback has got the message, unless there is no
callback, no text that can be read, or the 200 OK could not be sent. -/
theorem incoming_runs
    (h : runFrom (loop strError).step ⟨start config random mtCallback, []⟩ events = some p) {k : ℕ}
    {msg : SIPMessage} {addr : Text × ℕ}
    (hk : ((service strError).begun events)[k]? = some (.incoming msg addr))
    (hresponse : msg.isResponse = false) (hmethod : msg.method = some "MESSAGE".toList) :
    (p.state.record k).requests = [] ∧
      (p.state.record k).transmissions.map Transmission.packet <+: [(okResponse msg, addr)] ∧
      (p.state.record k).mtCalls.map MtCall.content <+:
        (incomingText msg).toList.map (fun x => (x.1, [], x.2)) ∧
      ((p.state.record k).mtCalls ≠ [] →
        ∃ t, (p.state.record k).transmissions = [t] ∧ t.outcome = some (.ok ())) ∧
      ∀ r, p.tasks[k]? = some (.done r) →
        (p.state.record k).transmissions.map Transmission.packet = [(okResponse msg, addr)] ∧
          Handled msg ((incomingText msg).toList.map fun x => (x.1, [], x.2)) mtCallback
            (p.state.record k) r := by
  obtain ⟨hkeeps, hanswers⟩ := command_run h hk
  have hacknowledgement : SmsCommand.acknowledgement (.incoming msg addr) = [(okResponse msg, addr)] :=
    acknowledgement_eq hresponse hmethod
  have hdelivery : SmsCommand.delivery (.incoming msg addr) =
      (incomingText msg).toList.map fun x => (x.1, [], x.2) := delivery_eq hresponse hmethod
  have hrequests : (p.state.record k).requests = [] := by
    refine List.eq_nil_iff_forall_not_mem.mpr fun x hx => ?_
    obtain ⟨_, _, _, heq, -⟩ := hkeeps.requests x hx
    cases heq
  have htransmissions := hkeeps.transmissions
  rw [hrequests, hacknowledgement, List.map_nil, List.nil_append] at htransmissions
  have hcalls := hkeeps.delivery
  rw [hdelivery] at hcalls
  refine ⟨hrequests, htransmissions, hcalls, fun hne => ?_, fun r hr => ?_⟩
  · obtain ⟨t, ht, -, houtcome⟩ := hkeeps.acknowledged hne (okResponse msg, addr)
      (by rw [hacknowledgement]; exact List.mem_singleton_self _)
    have hlength := htransmissions.length_le
    rw [List.length_map, List.length_singleton] at hlength
    obtain ⟨t', ht'⟩ := List.length_eq_one_iff.mp (le_antisymm hlength (List.length_pos_of_mem ht))
    rw [ht', List.mem_singleton] at ht
    exact ⟨t', ht', ht ▸ houtcome⟩
  · have hanswer := hanswers r hr
    unfold SmsCommand.Answers at hanswer
    rw [hacknowledgement, hdelivery] at hanswer
    exact hanswer

theorem incoming_runs_exchange :
    ∃ p t c, runFrom (loop fun _ => []).step ⟨start testConfig testRandom true, []⟩ exchangeRun =
        some p ∧ (p.state.record 2).transmissions = [t] ∧
      t.packet = (okResponse testMessage, "pcscf".toList, 5060) ∧ t.outcome = some (.ok ()) ∧
      (p.state.record 2).mtCalls = [c] ∧ c.content = ("+12".toList, [], "hi".toList) := by
  obtain ⟨p, hp, -, -, hdone, -⟩ := exchangeRun_ends
  have hk : ((service fun _ => []).begun exchangeRun)[2]? =
      some (.incoming testMessage ("pcscf".toList, 5060)) := rfl
  obtain ⟨-, -, -, hafter, hends⟩ := incoming_runs hp hk rfl rfl
  obtain ⟨hsent, hhandled⟩ := hends _ hdone
  have htext : ((incomingText testMessage).toList.map fun x => (x.1, ([] : Text), x.2)) =
      [("+12".toList, [], "hi".toList)] := by decide +kernel
  rw [htext] at hhandled
  obtain ⟨c, hcalls, hcontent⟩ : ∃ c, (p.state.record 2).mtCalls = [c] ∧
      c.content = ("+12".toList, [], "hi".toList) := by
    generalize hr : (Except.ok SmsAnswer.none : Except PyError SmsAnswer) = r at hhandled
    cases hhandled with
    | unacknowledged => cases hr
    | delivered _ hcalls hdelivery _ => exact ⟨_, hcalls, (List.singleton_inj.mp hdelivery).symm⟩
    | nothing h => rcases h with h | h <;> cases h
  obtain ⟨t, ht, houtcome⟩ := hafter (by rw [hcalls]; exact List.cons_ne_nil _ _)
  rw [ht] at hsent
  exact ⟨p, t, c, hp, ht, List.singleton_inj.mp hsent, houtcome, hcalls, hcontent⟩

/-- **Responses.**  In every run, a request returns a final response that came in with its own Call-ID,
and nothing but a request without a response is registered for one.  Where the Call-IDs are different,
every request that waits is registered, and no response is returned twice. -/
theorem responses_own
    (h : runFrom (loop strError).step ⟨start config random mtCallback, []⟩ events = some p) :
    ∃ c, p.state.sipClient = some c ∧
      (∀ (i : ℕ) (t : Call) (m : SIPMessage), c.calls[i]? = some t → t.phase = .returned m →
        Session.Final m ∧ m.callId = (random i).callId ∧
          ((∃ addr, SmsCommand.incoming m addr ∈ (service strError).begun events) ∨
            SmsOutside.datagram m ∈ Service.happened events)) ∧
      (∀ (cid : Text) (i : ℕ), c.client.pendingResponses.get? cid = some i →
        ∃ t, c.calls[i]? = some t ∧ (random i).callId = cid ∧ Session.Unanswered t) ∧
      ((Function.Injective fun i => (random i).callId) → ∀ (i : ℕ) (t : Call), c.calls[i]? = some t →
        (t.future = .pending → c.client.pendingResponses.get? (random i).callId = some i) ∧
        ∀ (j : ℕ) (u : Call) (m : SIPMessage), c.calls[j]? = some u → t.phase = .returned m →
          u.phase = .returned m → i = j) := by
  have hsound := (serving_run h).fact
  obtain ⟨c, hc, hexchanges⟩ := hsound.coherent.client
  rw [(settings_run h).2.2] at hexchanges
  have hown : ∀ (i : ℕ) (t : Call) (m : SIPMessage), c.calls[i]? = some t → t.phase = .returned m →
      m ∈ p.state.arrived ∧ Session.Final m ∧ m.callId = (random i).callId := by
    intro i t m ht hphase
    obtain ⟨harrived, hfinal, hcid⟩ := (hexchanges.exchange i t ht).own_of_returned hphase
    exact ⟨harrived, hfinal, hcid.trans (hexchanges.cid i t ht)⟩
  refine ⟨c, hc, fun i t m ht hphase => ?_, fun cid i hreg => ?_, fun hinj i t ht => ⟨?_, ?_⟩⟩
  · obtain ⟨harrived, hfinal, hcid⟩ := hown i t m ht hphase
    exact ⟨hfinal, hcid, hsound.arrived m harrived⟩
  · obtain ⟨t, ht, htcid, hopen⟩ := hexchanges.registered cid i hreg
    exact ⟨t, ht, (hexchanges.cid i t ht).symm.trans htcid, hopen⟩
  · intro hfuture
    rw [← hexchanges.cid i t ht]
    exact hexchanges.waits hinj i t ht hfuture
  · intro j u m hu hphase hphase'
    refine hinj ?_
    exact (hown i t m ht hphase).2.2.symm.trans (hown j u m hu hphase').2.2

theorem responses_own_exchange :
    ∃ p c, runFrom (loop fun _ => []).step ⟨start testConfig testRandom true, []⟩ exchangeRun = some p ∧
      p.state.sipClient = some c ∧
      (∀ (i : ℕ) (t : Call) (m : SIPMessage), c.calls[i]? = some t → t.phase = .returned m →
        Session.Final m ∧ m.callId = (testRandom i).callId) ∧
      ∀ (i j : ℕ) (t u : Call) (m : SIPMessage), c.calls[i]? = some t → c.calls[j]? = some u →
        t.phase = .returned m → u.phase = .returned m → i = j := by
  obtain ⟨p, hp, -⟩ := exchangeRun_ends
  obtain ⟨c, hc, hfinal, -, hdistinct⟩ := responses_own hp
  have hinjective : Function.Injective fun i => (testRandom i).callId := by
    intro i j hij
    have hlength := congrArg List.length hij
    simp only [testRandom, List.length_replicate] at hlength
    omega
  refine ⟨p, c, hp, hc, fun i t m ht hphase => ?_, fun i j t u m ht hu hphase hphase' => ?_⟩
  · obtain ⟨hm, hcid, -⟩ := hfinal i t m ht hphase
    exact ⟨hm, hcid⟩
  · exact (hdistinct hinjective i t ht).2 j u m hu hphase hphase'

/-- **Relay references.**  In every run, the body of every request is read back as an RP-DATA, with the
number of the relay message modulo 256 as its reference; and where two of them have one reference, at
least 256 relay messages were numbered from the first of them to the second. -/
theorem references_fresh
    (h : runFrom (loop strError).step ⟨start config random mtCallback, []⟩ events = some p) :
    p.state.rpRef = p.state.attempts % 256 ∧
      (∀ (i : ℕ) (x : Posting × Call), p.state.requests[i]? = some x →
        x.1.attempt < p.state.attempts ∧ ∃ a, RPData.fromBytes x.2.request.body = .ok a ∧
          a.reference = x.1.attempt % 256) ∧
      ∀ (i j : ℕ) (x y : Posting × Call) (a b : RPData), i < j → p.state.requests[i]? = some x →
        p.state.requests[j]? = some y → RPData.fromBytes x.2.request.body = .ok a →
        RPData.fromBytes y.2.request.body = .ok b → a.reference = b.reference →
        x.1.attempt + 256 ≤ y.1.attempt := by
  have hcoherent := (serving_run h).fact.coherent
  have hread : ∀ (i : ℕ) (x : Posting × Call), p.state.requests[i]? = some x →
      x.1.attempt < p.state.attempts ∧ ∃ a, RPData.fromBytes x.2.request.body = .ok a ∧
        a.reference = x.1.attempt % 256 := by
    intro i x hi
    have hpi : p.state.postings[i]? = some x.1 := (List.getElem?_zip_eq_some.mp hi).1
    obtain ⟨_, -, -, -, hbody⟩ := hcoherent.carries x (List.mem_of_getElem? hi)
    exact ⟨hcoherent.bounded _ (List.mem_of_getElem? hpi), _, hbody, rfl⟩
  refine ⟨hcoherent.rpRef, hread, fun i j x y a b hij hi hj ha hb heq => ?_⟩
  have hlt : x.1.attempt < y.1.attempt := by
    obtain ⟨hli, hxi⟩ := List.getElem?_eq_some_iff.mp (List.getElem?_zip_eq_some.mp hi).1
    obtain ⟨hlj, hyj⟩ := List.getElem?_eq_some_iff.mp (List.getElem?_zip_eq_some.mp hj).1
    rw [← hxi, ← hyj]
    exact List.pairwise_iff_getElem.mp hcoherent.increasing i j hli hlj hij
  obtain ⟨-, a', ha', hx⟩ := hread i x hi
  obtain ⟨-, b', hb', hy⟩ := hread j y hj
  obtain rfl : a' = a := Except.ok.inj (ha'.symm.trans ha)
  obtain rfl : b' = b := Except.ok.inj (hb'.symm.trans hb)
  omega

theorem references_fresh_exchange :
    ∃ p x y a b, runFrom (loop fun _ => []).step ⟨start testConfig testRandom true, []⟩ exchangeRun =
        some p ∧ p.state.requests = [x, y] ∧ RPData.fromBytes x.2.request.body = .ok a ∧
      RPData.fromBytes y.2.request.body = .ok b ∧ a.reference = x.1.attempt % 256 ∧
      b.reference = y.1.attempt % 256 ∧ a.reference ≠ b.reference := by
  obtain ⟨p, hp, -, -, -, hattempts, hlength, -⟩ := exchangeRun_ends
  obtain ⟨x, y, hrequests⟩ := List.length_eq_two.mp hlength
  obtain ⟨-, hread, hfresh⟩ := references_fresh hp
  have hx : p.state.requests[0]? = some x := by rw [hrequests]; rfl
  have hy : p.state.requests[1]? = some y := by rw [hrequests]; rfl
  obtain ⟨-, a, ha, hxref⟩ := hread 0 x hx
  obtain ⟨hlt, b, hb, hyref⟩ := hread 1 y hy
  refine ⟨p, x, y, a, b, hp, hrequests, ha, hb, hxref, hyref, fun heq => ?_⟩
  have hfar := hfresh 0 1 x y a b zero_lt_one hx hy ha hb heq
  omega

/-- What every command has at most one of, belongs to different commands. -/
theorem nodup_owners {α : Type} {J : Journal α} {l : List α} (h : ∀ k, (J.of k l).length ≤ 1) :
    (l.map J.owner).Nodup := by
  refine List.nodup_iff_count_le_one.mpr fun k => ?_
  rw [List.count, List.countP_map, List.countP_eq_length_filter]
  exact h k

theorem delivery_length (cmd : SmsCommand) : cmd.delivery.length ≤ 1 := by
  cases cmd with
  | sendSms smscPdu pdu => exact Nat.zero_le _
  | deliverMtSms fromNumber text toNumber => exact le_rfl
  | incoming msg addr =>
      simp only [SmsCommand.delivery]
      split_ifs
      · cases incomingText msg with
        | none => exact Nat.zero_le _
        | some x => exact le_rfl
      · exact Nat.zero_le _
  | stop => exact Nat.zero_le _

/-- **The counters.**  In every run, `messages_sent` is the number of requests that were accepted, and
`messages_received` the number of callbacks that took their message; no two of either belong to one
command. -/
theorem counters_true
    (h : runFrom (loop strError).step ⟨start config random mtCallback, []⟩ events = some p) :
    p.state.state.messagesSent = p.state.requests.countP (fun x => x.2.accepted) ∧
      (p.state.requests.map fun x => x.1.command).Nodup ∧
      p.state.state.messagesReceived = p.state.mtCalls.countP MtCall.taken ∧
      (p.state.mtCalls.map MtCall.command).Nodup := by
  have hsound := (serving_run h).fact
  obtain ⟨c, hc, hexchanges⟩ := hsound.coherent.client
  have hrecord : ∀ k, (p.state.record k).requests.length ≤ 1 ∧ (p.state.record k).mtCalls.length ≤ 1 := by
    intro k
    cases hk : ((service strError).begun events)[k]? with
    | some cmd =>
        obtain ⟨hkeeps, -⟩ := command_run h hk
        have hlength := hkeeps.delivery.length_le
        rw [List.length_map] at hlength
        exact ⟨hkeeps.once, hlength.trans (delivery_length cmd)⟩
    | none =>
        have hle := List.getElem?_eq_none_iff.mp hk
        have hrequests : (p.state.record k).requests = [] :=
          Journal.of_eq_nil fun x hx => ((hsound.requests x hx).trans_le hle).ne
        have hcalls : (p.state.record k).mtCalls = [] :=
          Journal.of_eq_nil fun x hx => ((hsound.mtCalls x hx).trans_le hle).ne
        rw [hrequests, hcalls]
        exact ⟨Nat.zero_le _, Nat.zero_le _⟩
  have hcount : p.state.requests.countP (fun x => x.2.accepted) = c.calls.countP Call.accepted := by
    have hsnd : p.state.requests.map Prod.snd = c.calls := by
      rw [requests, calls_eq hc]
      exact List.map_snd_zip hexchanges.length.le
    rw [← hsnd, List.countP_map]
    rfl
  have hsent := hsound.coherent.sent
  rw [calls_eq hc, ← hcount] at hsent
  exact ⟨hsent, nodup_owners (J := requestJournal) fun k => (hrecord k).1, hsound.coherent.received.count,
    nodup_owners (J := mtJournal) fun k => (hrecord k).2⟩

theorem counters_true_exchange :
    ∃ p, runFrom (loop fun _ => []).step ⟨start testConfig testRandom true, []⟩ exchangeRun = some p ∧
      p.state.requests.countP (fun x => x.2.accepted) = 1 ∧
      (p.state.requests.map fun x => x.1.command).Nodup ∧
      p.state.mtCalls.countP MtCall.taken = 1 ∧ (p.state.mtCalls.map MtCall.command).Nodup := by
  obtain ⟨p, hp, -, -, -, -, -, hsent, hreceived⟩ := exchangeRun_ends
  obtain ⟨hrequests, howners, hcalls, howners'⟩ := counters_true hp
  exact ⟨p, hp, hrequests.symm.trans hsent, howners, hcalls.symm.trans hreceived, howners'⟩

end

end SmsService

end VirtualPhone
