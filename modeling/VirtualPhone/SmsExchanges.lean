import VirtualPhone.Runtime.Journal
import VirtualPhone.SmsService
import VirtualPhone.SipMatching

/-! # The requests of the SMS service and their responses

The SIP client of the service under the invariant `Exchanges`: every request waits for its response
under its own Call-ID, has got a final response with it, or has run out of time.  Each operation of the
client keeps it (`Exchanges.sendRequest` and what follows).

`Coherent` is the invariant of the whole service: besides the exchanges, the relay message in every
request is the one it was sent for, and the two counters say how many messages were accepted and how
many were taken by the callback. -/

namespace VirtualPhone

open Runtime

/-! ### Exchanges -/

/-- The response belongs to the request: it arrived, is final, and has its Call-ID. -/
def Call.Own (arrived : List SIPMessage) (t : Call) (m : SIPMessage) : Prop :=
  m ∈ arrived ∧ Session.Final m ∧ m.callId = t.cid

/-- How a request can stand. -/
inductive Exchange (arrived : List SIPMessage) (t : Call) : Prop
  | pending (hphase : t.phase = .sending ∨ t.phase = .waiting) (hfuture : t.future = .pending)
  | answered (m : SIPMessage) (hphase : t.phase = .sending ∨ t.phase = .waiting)
      (hfuture : t.future = .result m) (hown : t.Own arrived m)
  | expired (hphase : t.phase = .expired) (hfuture : t.future = .cancelled)
  | returned (m : SIPMessage) (hphase : t.phase = .returned m) (hfuture : t.future = .result m)
      (hown : t.Own arrived m)
  | timedOut (hphase : t.phase = .raised t.timeoutError) (hfuture : t.future = .cancelled)
  | late (hphase : t.phase = .raised (.keyError t.cid)) (hfuture : t.future = .cancelled)

namespace Exchange

variable {arrived : List SIPMessage} {t : Call}

theorem of_arrived (h : Exchange arrived t) {arrived' : List SIPMessage}
    (hsub : ∀ m ∈ arrived, m ∈ arrived') : Exchange arrived' t := by
  cases h with
  | pending hphase hfuture => exact .pending hphase hfuture
  | answered m hphase hfuture hown => exact .answered m hphase hfuture ⟨hsub m hown.1, hown.2⟩
  | expired hphase hfuture => exact .expired hphase hfuture
  | returned m hphase hfuture hown => exact .returned m hphase hfuture ⟨hsub m hown.1, hown.2⟩
  | timedOut hphase hfuture => exact .timedOut hphase hfuture
  | late hphase hfuture => exact .late hphase hfuture

theorem phase_of_pending (h : Exchange arrived t) (hfuture : t.future = .pending) :
    t.phase = .sending ∨ t.phase = .waiting := by
  cases h with
  | pending hphase _ => exact hphase
  | answered m hphase _ _ => exact hphase
  | expired _ h => rw [hfuture] at h; cases h
  | returned m _ h _ => rw [hfuture] at h; cases h
  | timedOut _ h => rw [hfuture] at h; cases h
  | late _ h => rw [hfuture] at h; cases h

theorem future_of_expired (h : Exchange arrived t) (hphase : t.phase = .expired) :
    t.future = .cancelled := by
  cases h with
  | pending h _ => rw [hphase] at h; simp at h
  | answered m h _ _ => rw [hphase] at h; simp at h
  | expired _ hfuture => exact hfuture
  | returned m h _ _ => rw [hphase] at h; cases h
  | timedOut _ h => exact h
  | late _ h => exact h

theorem own_of_result (h : Exchange arrived t) {m : SIPMessage} (hfuture : t.future = .result m) :
    t.Own arrived m := by
  cases h with
  | pending _ h => rw [hfuture] at h; cases h
  | answered m' _ h hown =>
      obtain rfl := Future.result.inj (hfuture.symm.trans h)
      exact hown
  | expired _ h => rw [hfuture] at h; cases h
  | returned m' _ h hown =>
      obtain rfl := Future.result.inj (hfuture.symm.trans h)
      exact hown
  | timedOut _ h => rw [hfuture] at h; cases h
  | late _ h => rw [hfuture] at h; cases h

theorem own_of_returned (h : Exchange arrived t) {m : SIPMessage} (hphase : t.phase = .returned m) :
    t.Own arrived m := by
  cases h with
  | pending h _ => rw [hphase] at h; simp at h
  | answered m' h _ _ => rw [hphase] at h; simp at h
  | expired h _ => rw [hphase] at h; cases h
  | returned m' h _ hown =>
      obtain rfl := Phase.returned.inj (hphase.symm.trans h)
      exact hown
  | timedOut h _ => rw [hphase] at h; cases h
  | late h _ => rw [hphase] at h; cases h

end Exchange

theorem SIPClient.unregister_eq_self {c : SIPClient} {cid : Text}
    (h : cid ∉ c.pendingResponses.keys) : c.unregister cid = c := by
  have herase : c.pendingResponses.erase cid = c.pendingResponses := by
    refine Dict.ext_entries (List.filter_eq_self.mpr fun e he => decide_eq_true ?_)
    rintro rfl
    exact h (Dict.mem_keys_of_mem he)
  unfold unregister
  rw [herase]

/-- The invariant of the client: each of the `n` requests has its own Call-ID and stands as it can;
what is registered under a Call-ID is a request that has it and no response; and where all Call-IDs are
different, every request that waits is registered. -/
structure Exchanges (n : ℕ) (random : ℕ → RandomIds) (arrived : List SIPMessage) (c : Session) :
    Prop where
  length : c.calls.length = n
  cid : ∀ (i : ℕ) (t : Call), c.calls[i]? = some t → t.cid = (random i).callId
  exchange : ∀ (i : ℕ) (t : Call), c.calls[i]? = some t → Exchange arrived t
  registered : ∀ (cid : Text) (i : ℕ), c.client.pendingResponses.get? cid = some i →
    ∃ t, c.calls[i]? = some t ∧ t.cid = cid ∧ Session.Unanswered t
  waits : (Function.Injective fun i => (random i).callId) → ∀ (i : ℕ) (t : Call),
    c.calls[i]? = some t → t.future = .pending → c.client.pendingResponses.get? t.cid = some i

namespace Exchanges

variable {n : ℕ} {random : ℕ → RandomIds} {arrived : List SIPMessage} {c : Session}

theorem start (transport : Text) : Exchanges 0 random [] { client := { transport := transport } } := by
  refine ⟨rfl, fun i t h => ?_, fun i t h => ?_, fun cid i h => ?_, fun _ i t h => ?_⟩
  all_goals cases h

theorem of_arrived (h : Exchanges n random arrived c) {arrived' : List SIPMessage}
    (hsub : ∀ m ∈ arrived, m ∈ arrived') : Exchanges n random arrived' c :=
  ⟨h.length, h.cid, fun i t ht => (h.exchange i t ht).of_arrived hsub, h.registered, h.waits⟩

theorem sendRequest (h : Exchanges n random arrived c) {args : RequestArgs}
    (hargs : args.callId = none) :
    Exchanges (n + 1) random arrived (c.sendRequest args (random n)) := by
  have hcid : args.cid (random n) = (random n).callId := by
    rw [RequestArgs.cid, hargs]
  have hcases : ∀ i t, (c.sendRequest args (random n)).calls[i]? = some t →
      (i < n ∧ c.calls[i]? = some t) ∨
        (i = n ∧ t = { cid := (random n).callId, request := c.client.request args (random n) }) := by
    intro i t ht
    simp only [Session.sendRequest, hcid] at ht
    rw [List.getElem?_append] at ht
    split_ifs at ht with hi
    · exact .inl ⟨h.length ▸ hi, ht⟩
    · refine .inr ?_
      obtain ⟨hzero, rfl⟩ := List.getElem?_eq_some_iff.mp ht
      rw [List.length_singleton] at hzero
      refine ⟨?_, by simp⟩
      rw [h.length] at hi hzero
      omega
  refine ⟨?_, ?_, ?_, ?_, ?_⟩
  · simp [Session.sendRequest, h.length]
  · intro i t ht
    rcases hcases i t ht with ⟨-, ht⟩ | ⟨rfl, rfl⟩
    · exact h.cid i t ht
    · rfl
  · intro i t ht
    rcases hcases i t ht with ⟨-, ht⟩ | ⟨rfl, rfl⟩
    · exact h.exchange i t ht
    · exact .pending (.inl rfl) rfl
  · intro cid i hreg
    simp only [Session.sendRequest, SIPClient.register_pendingResponses, Dict.get?_set, hcid] at hreg ⊢
    split_ifs at hreg with hk
    · obtain rfl := Option.some.inj hreg
      exact ⟨_, List.getElem?_concat_length, hk.symm, .inl rfl⟩
    · obtain ⟨t, ht, htcid, hopen⟩ := h.registered cid i hreg
      exact ⟨t, by rw [List.getElem?_append_left (List.getElem?_eq_some_iff.mp ht).1, ht], htcid, hopen⟩
  · intro hinj i t ht hfuture
    simp only [Session.sendRequest, SIPClient.register_pendingResponses, hcid]
    rcases hcases i t ht with ⟨hi, ht⟩ | ⟨rfl, rfl⟩
    · rw [Dict.get?_set_ne]
      · exact h.waits hinj i t ht hfuture
      · rw [h.cid i t ht]
        exact fun heq => absurd (hinj heq) hi.ne
    · rw [h.length, Dict.get?_set_self]

theorem updateCall (h : Exchanges n random arrived c) {i : ℕ} {t : Call} (ht : c.calls[i]? = some t)
    {f : Call → Call} (hcid : (f t).cid = t.cid) (hpending : (f t).future = .pending → t.future = .pending)
    (hopen : Session.Unanswered t → Session.Unanswered (f t)) (hexchange : Exchange arrived (f t)) :
    Exchanges n random arrived (c.updateCall i f) := by
  have hcases : ∀ j u, (c.updateCall i f).calls[j]? = some u →
      (j = i ∧ u = f t) ∨ (j ≠ i ∧ c.calls[j]? = some u) := by
    intro j u hu
    rw [Session.updateCall_getElem?] at hu
    split_ifs at hu with hij
    · subst hij
      rw [ht] at hu
      exact .inl ⟨rfl, (Option.some.inj hu).symm⟩
    · exact .inr ⟨Ne.symm hij, hu⟩
  refine ⟨?_, ?_, ?_, ?_, ?_⟩
  · simp [Session.updateCall, h.length]
  · intro j u hu
    rcases hcases j u hu with ⟨rfl, rfl⟩ | ⟨-, hu⟩
    · rw [hcid]
      exact h.cid j t ht
    · exact h.cid j u hu
  · intro j u hu
    rcases hcases j u hu with ⟨rfl, rfl⟩ | ⟨-, hu⟩
    · exact hexchange
    · exact h.exchange j u hu
  · intro cid j hreg
    obtain ⟨u, hu, hucid, huopen⟩ := h.registered cid j hreg
    by_cases hij : i = j
    · subst hij
      obtain rfl : t = u := Option.some.inj (ht.symm.trans hu)
      refine ⟨f t, ?_, hcid.trans hucid, hopen huopen⟩
      rw [Session.updateCall_getElem?, if_pos rfl, ht]
      rfl
    · exact ⟨u, by rw [Session.updateCall_getElem?, if_neg hij, hu], hucid, huopen⟩
  · intro hinj j u hu hfuture
    rw [Session.updateCall_client]
    rcases hcases j u hu with ⟨rfl, rfl⟩ | ⟨-, hu⟩
    · rw [hcid]
      exact h.waits hinj j t ht (hpending hfuture)
    · exact h.waits hinj j u hu hfuture

/-- A request goes on and what is registered under its Call-ID goes. -/
theorem closeCall (h : Exchanges n random arrived c) {i : ℕ} {t : Call} (ht : c.calls[i]? = some t)
    {f : Call → Call} (hcid : (f t).cid = t.cid) (hpending : (f t).future ≠ .pending)
    (hexchange : Exchange arrived (f t)) :
    Exchanges n random arrived ((c.withClient (c.client.unregister t.cid)).updateCall i f) := by
  have hcases : ∀ j u, ((c.withClient (c.client.unregister t.cid)).updateCall i f).calls[j]? = some u →
      (j = i ∧ u = f t) ∨ (j ≠ i ∧ c.calls[j]? = some u) := by
    intro j u hu
    rw [Session.updateCall_getElem?, Session.withClient_calls] at hu
    split_ifs at hu with hij
    · subst hij
      rw [ht] at hu
      exact .inl ⟨rfl, (Option.some.inj hu).symm⟩
    · exact .inr ⟨Ne.symm hij, hu⟩
  refine ⟨?_, ?_, ?_, ?_, ?_⟩
  · simp [Session.updateCall, h.length]
  · intro j u hu
    rcases hcases j u hu with ⟨rfl, rfl⟩ | ⟨-, hu⟩
    · rw [hcid]
      exact h.cid j t ht
    · exact h.cid j u hu
  · intro j u hu
    rcases hcases j u hu with ⟨rfl, rfl⟩ | ⟨-, hu⟩
    · exact hexchange
    · exact h.exchange j u hu
  · intro cid j hreg
    rw [Session.updateCall_client, Session.withClient_client, SIPClient.unregister_pendingResponses,
      Dict.get?_erase] at hreg
    split_ifs at hreg with hk
    obtain ⟨u, hu, hucid, huopen⟩ := h.registered cid j hreg
    have hij : i ≠ j := by
      rintro rfl
      obtain rfl : t = u := Option.some.inj (ht.symm.trans hu)
      exact hk hucid.symm
    exact ⟨u, by rw [Session.updateCall_getElem?, if_neg hij, Session.withClient_calls, hu], hucid, huopen⟩
  · intro hinj j u hu hfuture
    rw [Session.updateCall_client, Session.withClient_client, SIPClient.unregister_pendingResponses]
    rcases hcases j u hu with ⟨rfl, rfl⟩ | ⟨hne, hu⟩
    · exact absurd hfuture hpending
    · rw [Dict.get?_erase_ne]
      · exact h.waits hinj j u hu hfuture
      · rw [h.cid j u hu, h.cid i t ht]
        exact fun heq => hne (hinj heq)

theorem handleMessage (h : Exchanges n random arrived c) (msg : SIPMessage) :
    Exchanges n random (arrived ++ [msg]) (c.handleMessage msg) := by
  have h' : Exchanges n random (arrived ++ [msg]) c := h.of_arrived fun m hm => List.mem_append_left _ hm
  rcases c.handleMessage_cases msg with heq | ⟨code, i, hcode, hfinal, hreg, heq⟩
  · rw [heq]
    exact h'
  · rw [heq]
    obtain ⟨t, ht, htcid, hopen⟩ := h.registered _ i hreg
    rw [Session.popAndComplete, ← htcid]
    have hown : t.Own (arrived ++ [msg]) msg :=
      ⟨List.mem_append_right _ (List.mem_singleton_self _), ⟨code, hcode, hfinal⟩, htcid.symm⟩
    by_cases hfuture : t.future = .pending
    · have hcomplete : t.complete msg = { t with future := .result msg } := if_pos hfuture
      refine h'.closeCall ht ?_ ?_ ?_
      · rw [hcomplete]
      · rw [hcomplete]
        simp
      · rw [hcomplete]
        exact .answered msg ((h.exchange i t ht).phase_of_pending hfuture) rfl hown
    · have hcomplete : t.complete msg = t := if_neg hfuture
      refine h'.closeCall ht ?_ ?_ ?_
      · rw [hcomplete]
      · rw [hcomplete]
        exact hfuture
      · rw [hcomplete]
        exact h'.exchange i t ht

theorem sent (h : Exchanges n random arrived c) {i : ℕ} {t : Call} (ht : c.calls[i]? = some t)
    (hphase : t.phase = .sending) :
    Exchanges n random arrived (c.updateCall i (Call.withPhase .waiting)) := by
  refine h.updateCall ht rfl id (fun hopen => ?_) ?_
  · exact hopen.imp id fun h => by rw [hphase] at h; cases h
  · cases h.exchange i t ht with
    | pending _ hfuture => exact .pending (.inr rfl) hfuture
    | answered m _ hfuture hown => exact .answered m (.inr rfl) hfuture hown
    | expired h _ => rw [hphase] at h; cases h
    | returned m h _ _ => rw [hphase] at h; cases h
    | timedOut h _ => rw [hphase] at h; cases h
    | late h _ => rw [hphase] at h; cases h

theorem expire (h : Exchanges n random arrived c) {i : ℕ} {t : Call} (ht : c.calls[i]? = some t) :
    Exchanges n random arrived (c.updateCall i Call.expire) := by
  refine h.updateCall ht rfl (fun h => ?_) (fun _ => .inr rfl) (.expired rfl rfl)
  cases h

theorem resume (h : Exchanges n random arrived c) {i : ℕ} {t : Call} (ht : c.calls[i]? = some t)
    {m : SIPMessage} (hphase : t.phase = .waiting) (hfuture : t.future = .result m) :
    Exchanges n random arrived (c.updateCall i (Call.withPhase (.returned m))) := by
  refine h.updateCall ht rfl id (fun hopen => ?_) ?_
  · rcases hopen with hopen | hopen
    · rw [hfuture] at hopen
      cases hopen
    · rw [hphase] at hopen
      cases hopen
  · exact .returned m rfl hfuture ((h.exchange i t ht).own_of_result hfuture)

theorem timeOut (h : Exchanges n random arrived c) {i : ℕ} {t : Call} (ht : c.calls[i]? = some t)
    (hphase : t.phase = .expired) : Exchanges n random arrived (c.timeOut i t) := by
  have hfuture := (h.exchange i t ht).future_of_expired hphase
  unfold Session.timeOut
  split_ifs with hreg
  · refine h.closeCall ht rfl ?_ (.timedOut rfl hfuture)
    change t.future ≠ .pending
    rw [hfuture]
    simp
  · have hclose := h.closeCall (f := Call.withPhase (.raised (.keyError t.cid))) ht rfl
      (by change t.future ≠ .pending; rw [hfuture]; simp) (.late rfl hfuture)
    rwa [SIPClient.unregister_eq_self hreg] at hclose

end Exchanges

/-! ### The steps of the client -/

namespace Session

variable {c : Session} {i : ℕ} {t : Call}

theorem perform_sent (ht : c.calls[i]? = some t) (hphase : t.phase = .sending) :
    c.perform (.sent i) = c.updateCall i (Call.withPhase .waiting) := by
  simp only [perform, step, ht, hphase, if_true, Option.getD_some]

theorem perform_resume (ht : c.calls[i]? = some t) {m : SIPMessage} (hphase : t.phase = .waiting)
    (hfuture : t.future = .result m) :
    c.perform (.resume i) = c.updateCall i (Call.withPhase (.returned m)) := by
  simp only [perform, step, ht, hphase, hfuture, Option.getD_some]

theorem perform_timeOut (ht : c.calls[i]? = some t) (hphase : t.phase = .expired) :
    c.perform (.timeOut i) = c.timeOut i t := by
  simp only [perform, step, ht, hphase, if_true, Option.getD_some]

/-- The exception of a request whose time is up. -/
def lateError (c : Session) (t : Call) : PyError :=
  if t.cid ∈ c.client.pendingResponses.keys then t.timeoutError else .keyError t.cid

theorem timeOut_calls : (c.timeOut i t).calls =
    c.calls.modify i (Call.withPhase (.raised (c.lateError t))) := by
  unfold timeOut lateError
  split_ifs <;> rfl

theorem response?_eq_some {m : SIPMessage} (h : c.response? i = some m) :
    ∃ t, c.calls[i]? = some t ∧ t.phase = .waiting ∧ t.future = .result m := by
  unfold response? at h
  split at h
  · next t ht =>
      split at h
      · next hphase hfuture =>
          obtain rfl := Option.some.inj h
          exact ⟨t, ht, hphase, hfuture⟩
      · cases h
  · cases h

/-- Without a response, a settled request is one whose time is up. -/
theorem expired_of_settled (hsettled : c.settled i = true) (h : c.response? i = none) :
    ∃ t, c.calls[i]? = some t ∧ t.phase = .expired := by
  unfold settled at hsettled
  unfold response? at h
  split at hsettled
  · next t ht =>
      rw [ht] at h
      refine ⟨t, ht, ?_⟩
      split at hsettled
      · next hphase hfuture =>
          simp only [hphase, hfuture] at h
          cases h
      · next hphase => exact hphase
      · cases hsettled
  · cases hsettled

/-- What a response that is handed to the client does to the requests. -/
theorem handleMessage_calls (c : Session) (msg : SIPMessage) :
    ∃ i f, (c.handleMessage msg).calls = c.calls.modify i f ∧
      ∀ t, (f t).cid = t.cid ∧ (f t).request = t.request ∧ (f t).phase = t.phase := by
  rcases c.handleMessage_cases msg with heq | ⟨code, i, -, -, -, heq⟩
  · exact ⟨0, id, by rw [heq, List.modify_id], fun t => ⟨rfl, rfl, rfl⟩⟩
  · refine ⟨i, Call.complete msg, by rw [heq]; rfl, fun t => ?_⟩
    unfold Call.complete
    split_ifs <;> exact ⟨rfl, rfl, rfl⟩

end Session

/-! ### The service -/

/-- The request has returned a response that accepts the message. -/
def Call.accepted (t : Call) : Bool :=
  match t.phase with
  | .returned m => m.acceptsMessage
  | _ => false

/-- The callback has taken the message, and its caller has gone on. -/
def MtCall.taken (c : MtCall) : Bool :=
  match c.returned, c.outcome with
  | true, some (.ok _) => true
  | _, _ => false

/-- The callbacks are counted: `n` of them have taken their message.  None has returned without an
outcome. -/
structure MtCall.Counted (n : ℕ) (calls : List MtCall) : Prop where
  count : n = calls.countP MtCall.taken
  ended : ∀ c ∈ calls, c.returned = true → c.outcome.isSome = true

namespace MtCall.Counted

variable {n : ℕ} {calls : List MtCall}

theorem nil : MtCall.Counted 0 [] := ⟨rfl, fun c h => by cases h⟩

theorem call (h : MtCall.Counted n calls) {c : MtCall} (hreturned : c.returned = false) :
    MtCall.Counted n (calls ++ [c]) := by
  refine ⟨?_, fun c' hc hc' => ?_⟩
  · have htaken : c.taken = false := by simp [taken, hreturned]
    rw [List.countP_append, ← h.count, List.countP_singleton, htaken]
    rfl
  · rcases List.mem_append.mp hc with hc | hc
    · exact h.ended c' hc hc'
    · rw [List.mem_singleton.mp hc, hreturned] at hc'
      cases hc'

theorem ended_modify {i : ℕ} {f : MtCall → MtCall} (h : MtCall.Counted n calls)
    (hf : ∀ c ∈ calls[i]?, (f c).returned = true → (f c).outcome.isSome = true) :
    ∀ c ∈ calls.modify i f, c.returned = true → c.outcome.isSome = true := by
  intro c hc
  obtain ⟨j, hj, rfl⟩ := List.getElem_of_mem hc
  rw [List.length_modify] at hj
  rw [List.getElem_modify]
  split_ifs with hij
  · obtain rfl := hij
    exact hf _ (List.getElem?_eq_getElem hj)
  · exact h.ended _ (List.getElem_mem _)

theorem settle (h : MtCall.Counted n calls) {i : ℕ} {c : MtCall} (hi : calls[i]? = some c)
    (hnone : c.outcome = none) (outcome : Except PyError Unit) :
    MtCall.Counted n (calls.modify i fun c => { c with outcome := some outcome }) := by
  have hreturned : c.returned = false := by
    by_contra hne
    have hsome := h.ended c (List.mem_of_getElem? hi) (by simpa using hne)
    rw [hnone] at hsome
    cases hsome
  refine ⟨?_, h.ended_modify fun _ _ _ => rfl⟩
  rw [Journal.countP_modify_eq fun x hx => ?_]
  · exact h.count
  · obtain rfl : c = x := Option.some.inj (hi.symm.trans hx)
    simp [taken, hreturned]

theorem goOn (h : MtCall.Counted n calls) {i : ℕ} {c : MtCall} (hi : calls[i]? = some c)
    (hreturned : c.returned = false) {outcome : Except PyError Unit} (houtcome : c.outcome = some outcome) :
    MtCall.Counted (n + outcome.toBool.toNat) (calls.modify i fun c => { c with returned := true }) := by
  refine ⟨?_, h.ended_modify fun x hx _ => ?_⟩
  · have hcount := Journal.countP_modify hi (fun c => { c with returned := true }) MtCall.taken
    have hbefore : c.taken = false := by
      simp [taken, hreturned]
    have hafter : ({ c with returned := true } : MtCall).taken = outcome.toBool := by
      cases outcome with
      | ok u => simp [taken, houtcome, Except.toBool]
      | error e => simp [taken, houtcome, Except.toBool]
    rw [hbefore, hafter, ← h.count] at hcount
    exact hcount.symm
  · obtain rfl : c = x := Option.some.inj (hi.symm.trans hx)
    rw [houtcome]
    rfl

end MtCall.Counted

/-- The request carries the TPDU it was sent for, in a relay message with its own reference, to the
number in the TPDU. -/
def Posting.CarriedBy (cfg : SMSConfig) (q : Posting) (t : Call) : Prop :=
  ∃ submit, SMSSubmit.fromBytes q.tpdu = .ok submit ∧ t.request.method = some "MESSAGE".toList ∧
    t.request.requestUri = some (cfg.destUri submit.destNumber) ∧
    RPData.fromBytes t.request.body =
      .ok { msgType := .rpDataMo, reference := q.attempt % 256, tpdu := q.tpdu }

namespace SmsService

/-- The calls of `send_request`. -/
def calls (s : SmsService) : List Call := (s.sipClient.map Session.calls).getD []

/-- The requests: what each was sent for, and the call of `send_request`. -/
def requests (s : SmsService) : List (Posting × Call) := s.postings.zip s.calls

theorem calls_eq {s : SmsService} {c : Session} (h : s.sipClient = some c) : s.calls = c.calls := by
  rw [calls, h]
  rfl

/-- **The invariant of the service**, where `d` accepted messages have yet to be counted. -/
structure Coherent (d : ℕ) (s : SmsService) : Prop where
  client : ∃ c, s.sipClient = some c ∧ Exchanges s.postings.length s.random s.arrived c
  rpRef : s.rpRef = s.attempts % 256
  increasing : s.postings.Pairwise fun q q' => q.attempt < q'.attempt
  bounded : ∀ q ∈ s.postings, q.attempt < s.attempts
  carries : ∀ x ∈ s.requests, x.1.CarriedBy s.config x.2
  sent : s.state.messagesSent + d = s.calls.countP Call.accepted
  received : MtCall.Counted s.state.messagesReceived s.mtCalls

namespace Coherent

variable {d : ℕ} {s : SmsService}

theorem start (config : SMSConfig) (random : ℕ → RandomIds) (mtCallback : Bool) :
    Coherent 0 (start config random mtCallback) := by
  refine ⟨⟨_, rfl, Exchanges.start _⟩, rfl, .nil, fun q h => ?_, fun x h => ?_, rfl,
    .nil⟩
  all_goals cases h

theorem change (h : Coherent d s) {c c' : Session} (hc : s.sipClient = some c)
    {arrived : List SIPMessage} (hexchanges : Exchanges s.postings.length s.random arrived c') {i : ℕ}
    {f : Call → Call} (hcalls : c'.calls = c.calls.modify i f)
    (hrequest : ∀ t, (f t).request = t.request) {d' : ℕ}
    (hcount : c'.calls.countP Call.accepted + d = c.calls.countP Call.accepted + d') :
    Coherent d' { s with sipClient := some c', arrived := arrived } := by
  have hold := calls_eq hc
  have hnew : ({ s with sipClient := some c', arrived := arrived } : SmsService).calls = c'.calls := rfl
  refine ⟨⟨c', rfl, hexchanges⟩, h.rpRef, h.increasing, h.bounded, fun x hx => ?_, ?_, h.received⟩
  · rw [requests, hnew, hcalls, Journal.zip_modify] at hx
    obtain ⟨n, hn, rfl⟩ := List.getElem_of_mem hx
    rw [List.length_modify] at hn
    rw [List.getElem_modify]
    have hmem : (s.postings.zip c.calls)[n] ∈ s.requests := by
      rw [requests, hold]
      exact List.getElem_mem _
    have hcarries := h.carries _ hmem
    split_ifs
    · unfold Posting.CarriedBy at hcarries ⊢
      rw [Prod.map_snd, hrequest]
      exact hcarries
    · exact hcarries
  · have hsent := h.sent
    rw [hold] at hsent
    rw [hnew]
    change s.state.messagesSent + d' = _
    omega

end Coherent

end SmsService

end VirtualPhone
