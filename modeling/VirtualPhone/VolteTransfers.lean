import VirtualPhone.VolteInvite

/-! # When a transferred call is released

After `transfer_call` or `attended_transfer` the call stays up until a NOTIFY reports what has
become of the transfer.  `_handle_incoming_notify` hangs up in the run that handles the message, or
not at all.

`transfer_release_iff` says which runs release calls on reported success only: those in which no
NOTIFY ends the subscription without a final status, and none has a number in its body that is taken
for the status of a success. -/

namespace VirtualPhone

open Runtime
open Async (when whenSome ignore onTimeout)
open Coro (get modify raise attempt run_bind_ok run_bind_state)

/-- The message is a NOTIFY. -/
def SIPMessage.IsNotify (msg : SIPMessage) : Prop :=
  msg.statusCode = none ∧ msg.method = some "NOTIFY".toList

instance (msg : SIPMessage) : Decidable msg.IsNotify := inferInstanceAs (Decidable (_ ∧ _))

open VoLTECallManager

example : sipfragStatus "SIP/2.0 200 OK\r\n".toList = some 200 := by decide +kernel

/-- The text is a sipfrag with a success: behind blanks and empty lines it begins with a status line whose
code is one from 200 to 299. -/
def SuccessLine (text : Text) : Prop :=
  let blanks := [' ', '\t', '\r', '\n']
  let line := text.dropWhile (· ∈ blanks)
  "SIP/2.0 2".toList <+: line ∧ 11 ≤ line.length ∧ (∀ c ∈ (line.drop 9).take 2, IsDigit c) ∧
    ∀ c ∈ (line.drop 11).take 1, c ∈ blanks

-- the characters of a list, not those of the type
instance (text : Text) : Decidable (SuccessLine text) :=
  letI : ∀ (l : Text) (p : Char → Prop) [DecidablePred p], Decidable (∀ c ∈ l, p c) :=
    fun l p => l.decidableBAll p
  inferInstanceAs (Decidable (_ ∧ _ ∧ (∀ _ ∈ _, _) ∧ ∀ _ ∈ _, _))

example : SuccessLine "SIP/2.0 202 Accepted\r\n".toList ∧ ¬SuccessLine "Warning: 299 gw".toList := by
  decide +kernel

/-- The NOTIFY reports a transfer that has succeeded: its sipfrag has a 2xx status line. -/
def SIPMessage.ReportsSuccess (msg : SIPMessage) : Prop :=
  msg.header "Event" = "refer".toList ∧ SuccessLine (decodeUtf8 msg.body)

instance (msg : SIPMessage) : Decidable msg.ReportsSuccess := inferInstanceAs (Decidable (_ ∧ _))

/-- The code takes the NOTIFY for one that reports success: the second word of its body is a number from
200 to 299. -/
def SIPMessage.ReadAsSuccess (msg : SIPMessage) : Prop :=
  msg.header "Event" = "refer".toList ∧
    ∃ code ∈ sipfragStatus (decodeUtf8 msg.body), 200 ≤ code ∧ code < 300

instance (msg : SIPMessage) : Decidable msg.ReadAsSuccess := inferInstanceAs (Decidable (_ ∧ _))

/-- The message is about a call whose transfer is pending. -/
def SIPMessage.AboutTransfer (msg : SIPMessage) (s : Phone) : Prop :=
  ∃ ref ∈ s.calls.get? msg.callId, (s.call ref).transferPending = true

instance (msg : SIPMessage) (s : Phone) : Decidable (msg.AboutTransfer s) :=
  inferInstanceAs (Decidable (∃ _ ∈ _, _))

/-- The NOTIFY ends the subscription to a transfer of the call, and nothing in it reports success: the
second word of its body is no number, one below 200, or one from 300 to 399. -/
def SIPMessage.EndsEarly (msg : SIPMessage) (s : Phone) : Prop :=
  msg.header "Event" = "refer".toList ∧ msg.AboutTransfer s ∧
    "terminated".toList <+: msg.header "Subscription-State" ∧
    (∀ code ∈ sipfragStatus (decodeUtf8 msg.body), code < 200 ∨ 300 ≤ code ∧ code < 400) ∧
    ¬SuccessLine (decodeUtf8 msg.body)

instance (msg : SIPMessage) (s : Phone) : Decidable (msg.EndsEarly s) :=
  inferInstanceAs (Decidable (_ ∧ _ ∧ _ ∧ (∀ _ ∈ _, _) ∧ _))

/-- The NOTIFY to a transfer of the call has a number from 200 to 299 for the second word of its body, but
no status line with it. -/
def SIPMessage.Misleads (msg : SIPMessage) (s : Phone) : Prop :=
  msg.ReadAsSuccess ∧ msg.AboutTransfer s ∧ ¬SuccessLine (decodeUtf8 msg.body)

instance (msg : SIPMessage) (s : Phone) : Decidable (msg.Misleads s) :=
  inferInstanceAs (Decidable (_ ∧ _ ∧ _))

/-- The condition of the code. -/
def SIPMessage.Releases (msg : SIPMessage) (s : Phone) : Prop :=
  msg.header "Event" = "refer".toList ∧ msg.AboutTransfer s ∧
    (¬∃ code ∈ sipfragStatus (decodeUtf8 msg.body), 400 ≤ code) ∧
    TransferOver (sipfragStatus (decodeUtf8 msg.body)) (msg.header "Subscription-State")

theorem SIPMessage.Releases.cases {msg : SIPMessage} {s : Phone} (h : msg.Releases s) :
    msg.ReportsSuccess ∨ msg.EndsEarly s ∨ msg.Misleads s := by
  obtain ⟨hevent, hpending, hfinal, hover⟩ := h
  by_cases hline : SuccessLine (decodeUtf8 msg.body)
  · exact Or.inl ⟨hevent, hline⟩
  refine Or.inr ?_
  by_cases hsuccess : ∃ code ∈ sipfragStatus (decodeUtf8 msg.body), 200 ≤ code ∧ code < 300
  · exact Or.inr ⟨⟨hevent, hsuccess⟩, hpending, hline⟩
  · refine Or.inl ⟨hevent, hpending, hover.resolve_left hsuccess, fun code hcode => ?_, hline⟩
    have hlow : ¬400 ≤ code := fun hle => hfinal ⟨code, hcode, hle⟩
    have hno : ¬(200 ≤ code ∧ code < 300) := fun hin => hsuccess ⟨code, hcode, hin⟩
    omega

theorem SIPMessage.EndsEarly.releases {msg : SIPMessage} {s : Phone} (h : msg.EndsEarly s) :
    msg.Releases s ∧ ¬msg.ReportsSuccess := by
  obtain ⟨hevent, hpending, hsub, hstatus, hline⟩ := h
  refine ⟨⟨hevent, hpending, ?_, Or.inr hsub⟩, fun hreports => hline hreports.2⟩
  rintro ⟨code, hcode, hle⟩
  have := hstatus code hcode
  omega

theorem SIPMessage.Misleads.releases {msg : SIPMessage} {s : Phone} (h : msg.Misleads s) :
    msg.Releases s ∧ ¬msg.ReportsSuccess := by
  obtain ⟨⟨hevent, code, hcode, hin⟩, hpending, hline⟩ := h
  refine ⟨⟨hevent, hpending, ?_, Or.inl ⟨code, hcode, hin⟩⟩, fun hreports => hline hreports.2⟩
  rintro ⟨code', hcode', hle⟩
  obtain rfl := Option.some.inj (hcode.symm.trans hcode')
  omega

/-! ### The run of the handler -/

/-- The method does not change the table before it waits for something. -/
abbrev KeepsTable {α : Type} (body : Async α) : Prop :=
  Coro.Begins (fun s s' : Phone => s'.calls = s.calls) body

section

variable {α β : Type}

theorem KeepsTable.bind {body : Async α} {f : α → Async β} (h : KeepsTable body)
    (hf : ∀ a, KeepsTable (f a)) : KeepsTable (body >>= f) :=
  Coro.Begins.bind (fun hab hbc => hbc.trans hab) h hf

theorem sendRequest_table (args : RequestArgs) : KeepsTable (sendRequest args) := by
  intro s
  cases hclient : s.sipClient with
  | none => rw [sendRequest_eq_error hclient]
  | some client =>
      rw [sendRequest_eq hclient]
      exact beginRequest_calls args s

theorem stopMedia_table (ref : ℕ) : KeepsTable (stopMedia ref) := by
  intro s
  unfold stopMedia
  rw [Coro.run_get_bind]
  split
  · rfl
  · rfl

theorem onTimeout_table {body handler : Async α} (h : KeepsTable body) (hhandler : KeepsTable handler) :
    KeepsTable (onTimeout body handler) := by
  refine KeepsTable.bind h.attempt fun r => ?_
  rcases r with e | a
  · cases e with
    | timeoutError m => exact hhandler
    | _ => exact fun _ => rfl
  · exact fun _ => rfl

namespace VoLTECallManager

/-- `hangup_call` takes the call out of the table before it waits for anything. -/
theorem hangupCall_run_calls {callId : Text} {s : Phone} {ref : ℕ} (h : s.calls.get? callId = some ref) :
    ((hangupCall callId).run s).2.calls = s.calls.erase callId := by
  have hrest : KeepsTable (do
      stopMedia ref
      let s ← get
      if s.sipClient.isSome ∧ s.started then
        modifyCall ref (VoLTECall.setState .terminating)
        onTimeout (ignore (sendDialogRequest ref "BYE" [] [])) (return)
        modify Phone.countActive
        return true
      else return false) := by
    refine (stopMedia_table ref).bind fun _ s => ?_
    rw [Coro.run_get_bind]
    split
    · refine KeepsTable.bind (fun _ => rfl) (fun _ => ?_) s
      refine (onTimeout_table ?_ fun _ => rfl).bind fun _ _ => rfl
      exact KeepsTable.bind (fun s => sendRequest_table _ s) fun _ _ => rfl
    · rfl
  unfold hangupCall
  rw [Coro.run_get_bind]
  simp only [h]
  rw [Coro.run_modify_bind]
  exact hrest _

/-- A NOTIFY hangs its call up, or is handled to its end without a change of the table. -/
theorem handleIncomingNotify_run (msg : SIPMessage) (addr : Text × ℕ) (s : Phone) :
    (msg.Releases s ∧ ((handleIncomingNotify msg addr).run s).2.calls = s.calls.erase msg.callId) ∨
      (¬msg.Releases s ∧
        ∃ s', (handleIncomingNotify msg addr).run s = (.done (.ok ()), s') ∧ s'.calls = s.calls) := by
  obtain ⟨s₁, hs₁, hcalls⟩ : ∃ s₁, s₁ = (if s.sipClient.isSome then
      s.send (response msg 200 "OK" msg.callId [] []) addr else s) ∧ s₁.calls = s.calls := by
    refine ⟨_, rfl, ?_⟩
    split_ifs <;> rfl
  unfold handleIncomingNotify sendIfClient
  rw [Coro.run_get_bind, Coro.run_modify_bind, ← hs₁]
  cases href : s.calls.get? msg.callId with
  | none =>
      refine Or.inr ⟨fun h => ?_, s₁, rfl, hcalls⟩
      obtain ⟨ref, href', -⟩ := h.2.1
      rw [href] at href'
      cases href'
  | some ref =>
      dsimp only
      split
      · next hevent => exact Or.inr ⟨fun h => hevent h.1, s₁, rfl, hcalls⟩
      · next hevent =>
          split
          · next hfinal => exact Or.inr ⟨fun h => h.2.2.1 hfinal, _, rfl, hcalls⟩
          · next hfinal =>
              unfold Async.when
              split
              · next hover =>
                  refine Or.inl ⟨⟨not_not.mp hevent, ⟨ref, href, hover.2⟩, hfinal, hover.1⟩, ?_⟩
                  have hrun := hangupCall_run_calls (hcalls ▸ href)
                  have hkeeps : ((ignore (hangupCall msg.callId)).run s₁).2 =
                      ((hangupCall msg.callId).run s₁).2 := run_bind_state fun _ _ => rfl
                  rw [hkeeps, hrun, hcalls]
              · next hover =>
                  refine Or.inr ⟨fun h => hover ⟨h.2.2.2, ?_⟩, s₁, rfl, hcalls⟩
                  obtain ⟨ref', href', hpending⟩ := h.2.1
                  obtain rfl := Option.some.inj (href.symm.trans href')
                  exact hpending

end VoLTECallManager

end

/-! ### Runs -/

/-- The NOTIFY takes its call out of the table. -/
def HangsUp (msg : SIPMessage) (p p' : PhonePool) : Prop :=
  (p.state.calls.get? msg.callId).isSome ∧ p'.state.calls.get? msg.callId = none

/-- The NOTIFY leaves the table as it is, and its handler has ended. -/
def LeavesUp (p p' : PhonePool) : Prop :=
  p'.state.calls = p.state.calls ∧ p'.tasks[p.tasks.length]? = some (.done (.ok .none))

theorem handleIncomingSip_notify {msg : SIPMessage} (hmsg : msg.IsNotify) (addr : Text × ℕ) :
    handleIncomingSip msg addr = handleIncomingNotify msg addr := by
  obtain ⟨hstatus, hmethod⟩ := hmsg
  unfold handleIncomingSip
  simp only [hstatus, hmethod]
  rw [if_neg (by decide), if_neg (by decide), if_neg (by decide), if_neg (by decide)]
  exact if_pos trivial

theorem PhonePool.step_notify {p p' : PhonePool} {msg : SIPMessage} {addr : Text × ℕ} (hmsg : msg.IsNotify)
    (h : p.step (.spawn (.incoming msg addr)) = some p') :
    (msg.Releases p.state ∧ HangsUp msg p p') ∨ (¬msg.Releases p.state ∧ LeavesUp p p') := by
  obtain ⟨hstate, htasks⟩ := EventLoop.step_spawn (PhonePool.step_eq h)
  have hmain : phoneLoop.main (.incoming msg addr) =
      (handleIncomingNotify msg addr >>= fun _ => (pure .none : Async OperationResult)) := by
    rw [← handleIncomingSip_notify hmsg addr]
    rfl
  rw [hmain] at hstate htasks
  rcases handleIncomingNotify_run msg addr p.state with ⟨hreleases, hcalls⟩ | ⟨hno, s', hrun, hcalls⟩
  · rw [run_bind_state fun _ _ => rfl] at hstate
    obtain ⟨ref, href, -⟩ := hreleases.2.1
    refine Or.inl ⟨hreleases, Option.isSome_of_mem href, ?_⟩
    rw [hstate, hcalls, Dict.get?_erase_self]
  · have hdone := run_bind_ok hrun fun _ => (pure .none : Async OperationResult)
    rw [hdone] at hstate htasks
    refine Or.inr ⟨hno, ?_, ?_⟩
    · rw [hstate]
      exact hcalls
    · rw [htasks, List.getElem?_concat_length]
      rfl

/-- A NOTIFY hangs a call up only where it reports success. -/
def ReleasedOnSuccess (p : PhonePool) (e : PhoneEvent) : Prop :=
  ∀ msg addr p', e = .spawn (.incoming msg addr) → msg.IsNotify → p.step e = some p' →
    HangsUp msg p p' → msg.ReportsSuccess

/-- The event is no NOTIFY that ends a subscription early, or misleads. -/
def ReportsInFull (p : PhonePool) (e : PhoneEvent) : Prop :=
  ∀ msg addr, e = .spawn (.incoming msg addr) → msg.IsNotify →
    ¬msg.EndsEarly p.state ∧ ¬msg.Misleads p.state

theorem releasedOnSuccess_iff (p : PhonePool) (e : PhoneEvent) :
    ReleasedOnSuccess p e ↔ ReportsInFull p e := by
  constructor
  · rintro h msg addr rfl hmsg
    -- a NOTIFY for which the code hangs up, reports success
    have hreports : msg.Releases p.state → msg.ReportsSuccess := by
      intro hreleases
      obtain ⟨p', hp'⟩ : ∃ p', p.step (.spawn (.incoming msg addr)) = some p' := ⟨_, rfl⟩
      rcases PhonePool.step_notify hmsg hp' with ⟨-, hhangs⟩ | ⟨hnot, -⟩
      · exact h msg addr p' rfl hmsg hp' hhangs
      · exact absurd hreleases hnot
    refine ⟨fun hearly => ?_, fun hmisleads => ?_⟩
    · exact hearly.releases.2 (hreports hearly.releases.1)
    · exact hmisleads.releases.2 (hreports hmisleads.releases.1)
  · rintro h msg addr p' rfl hmsg hp' hhangs
    rcases PhonePool.step_notify hmsg hp' with ⟨hreleases, -⟩ | ⟨-, hcalls, -⟩
    · exact hreleases.cases.resolve_right (not_or.mpr (h msg addr rfl hmsg))
    · obtain ⟨hsome, hnone⟩ := hhangs
      rw [← hcalls, hnone] at hsome
      cases hsome

/-- **Transferred calls.**  In a run of the phone, whatever runs on it, the NOTIFYs hang calls up on
reported success only, exactly when none of them, for a call with a pending transfer, ends the
subscription without a final status, or has a number that is taken for a 2xx status.  A NOTIFY that does
not hang its call up is handled to its end at once, and leaves the table as it is. -/
theorem transfer_release_iff (p : PhonePool) (es : List PhoneEvent) :
    (Along PhonePool.step ReleasedOnSuccess p es ↔ Along PhonePool.step ReportsInFull p es) ∧
      ∀ (p p' : PhonePool) (msg : SIPMessage) (addr : Text × ℕ), msg.IsNotify →
        p.step (.spawn (.incoming msg addr)) = some p' → HangsUp msg p p' ∨ LeavesUp p p' := by
  refine ⟨⟨fun h => ?_, fun h => ?_⟩, fun p p' msg addr hmsg h => ?_⟩
  · exact Along.mono _ (fun p e => (releasedOnSuccess_iff p e).mp) h
  · exact Along.mono _ (fun p e => (releasedOnSuccess_iff p e).mpr) h
  · rcases PhonePool.step_notify hmsg h with ⟨-, hhangs⟩ | ⟨-, hleaves⟩
    · exact Or.inl hhangs
    · exact Or.inr hleaves

/-- A call is set up and transferred, and the REFER is accepted. -/
def transferredRun : List PhoneEvent :=
  [.spawn .start, .spawn (.initiateCall "1".toList 1), .spawn (testMessage none (some 200)), .resume 1,
    .spawn (.transferCall "0".toList "2".toList), .spawn (testMessage none (some 202)), .resume 3]

/-- A NOTIFY without a body: the subscription has timed out. -/
def timedOutNotify : SIPMessage :=
  { method := some "NOTIFY".toList
    headers := Dict.ofList [("Call-ID".toList, "0".toList), ("Event".toList, "refer".toList),
      ("Subscription-State".toList, "terminated;reason=timeout".toList)] }

/-- The subscription times out, nothing is known of the transfer, and the call is hung up. -/
theorem released_on_timeout : ∃ p, runFrom PhonePool.step testPhone transferredRun = some p ∧
    p.result 3 = some (.ok (.bool true)) ∧
    ¬ReleasedOnSuccess p (.spawn (.incoming timedOutNotify ("pcscf".toList, 5060))) := by
  obtain ⟨p, hr, hresult, hearly⟩ : ∃ p, runFrom PhonePool.step testPhone transferredRun = some p ∧
      p.result 3 = some (.ok (.bool true)) ∧ timedOutNotify.EndsEarly p.state :=
    exists_run PhonePool.step (by decide +kernel)
  refine ⟨p, hr, hresult, fun h => ?_⟩
  exact ((releasedOnSuccess_iff p _).mp h _ _ rfl (by decide)).1 hearly

end VirtualPhone
