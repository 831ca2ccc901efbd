import VirtualPhone.HoldMethods

/-! # Operations keep the hold bits in step

Every method of the call manager and of the radio keeps the invariant `Mirrored` when it runs alone
(`KeepsMirror`).  Three of them need more than the invariant: an answered call may have a voice
call that does not ring any more (`Answerable`), a voice call may be on hold before its call is
(`Loose`), and an incoming call has no voice call at first (`Arrived`). -/

namespace VirtualPhone

open Runtime
open Coro (get modify raise attempt)
open Async (when whenSome ignore onTimeout)
open VoLTECallManager

section

variable {op : Operation} {s₀ s : Phone} {α : Type} {callId : Text} {ref : ℕ}

/-! ### Computations that keep the invariant -/

/-- The computation keeps the invariant, whatever it ends with. -/
def KeepsMirror (op : Operation) (c : Async α) : Prop :=
  ∀ s₀ s, Mirrored none s → c.Meets op.contract (fun _ _ s' => Mirrored none s') s₀ s

namespace KeepsMirror

variable {β : Type}

/-- What the computation ends with may matter to its caller. -/
theorem meets {c : Async α} {post : Phone → Except PyError α → Phone → Prop} (hc : KeepsMirror op c)
    (h : Mirrored none s) (hpost : ∀ s₁ r s', Mirrored none s' → post s₁ r s') :
    c.Meets op.contract post s₀ s := (hc s₀ s h).mono hpost

theorem pure (a : α) : KeepsMirror op (Pure.pure a : Async α) := fun _ _ h => h

theorem get_bind {f : Phone → Async α} (hf : ∀ s, KeepsMirror op (f s)) : KeepsMirror op (get >>= f) :=
  fun s₀ s h => hf s s₀ s h

/-- What follows a computation that leaves the invariant. -/
theorem after {c : Async α} {f : α → Async β}
    (hc : c.Meets op.contract (fun _ _ s' => Mirrored none s') s₀ s) (hf : ∀ a, KeepsMirror op (f a)) :
    (c >>= f).Meets op.contract (fun _ _ s' => Mirrored none s') s₀ s := by
  refine Coro.meets_bind.mpr (hc.mono fun s₁ r s' h' => ?_)
  cases r with
  | ok a => exact hf a s₁ s' h'
  | error e => exact h'

theorem bind {c : Async α} {f : α → Async β} (hc : KeepsMirror op c) (hf : ∀ a, KeepsMirror op (f a)) :
    KeepsMirror op (c >>= f) := fun s₀ s h => after (hc s₀ s h) hf

theorem ignore {c : Async α} (hc : KeepsMirror op c) : KeepsMirror op (Async.ignore c) := hc.bind fun _ => pure _

theorem when {c : Prop} [Decidable c] {body : Async Unit} (hbody : c → KeepsMirror op body) :
    KeepsMirror op (Async.when c body) := by
  intro s₀ s h
  exact when_meets.mpr ⟨fun hc => hbody hc s₀ s h, fun _ => h⟩

theorem onTimeout {body handler : Async α} (hbody : KeepsMirror op body) (hhandler : KeepsMirror op handler) :
    KeepsMirror op (Async.onTimeout body handler) := by
  intro s₀ s h
  refine onTimeout_meets.mpr (hbody.meets h fun s₁ r s' h' => ?_)
  cases r with
  | ok a => exact h'
  | error e =>
      cases e with
      | timeoutError m => exact hhandler s₁ s' h'
      | _ => exact h'

theorem modify {f : Phone → Phone} (hf : ∀ s, Mirrored none s → Mirrored none (f s)) :
    KeepsMirror op (Coro.modify f : Async Unit) := fun _ s h => hf s h

theorem sendIndication (indication : ℕ) : KeepsMirror op (RadioHAL.sendIndication indication) :=
  fun _ _ h => sendIndication_drifts indication fun _ hdrifts _ => h.drifts hdrifts

theorem sendRequest (args : RequestArgs) : KeepsMirror op (VirtualPhone.sendRequest args) :=
  fun _ _ h => sendRequest_any fun _ _ _ hdrifts _ => h.drifts hdrifts

theorem sendIfClient (msg : SIPMessage) (addr : Text × ℕ) :
    KeepsMirror op (VirtualPhone.sendIfClient msg addr) :=
  modify fun s h => h.drifts (Drifts.sendIfClient s msg addr)

theorem countActive : KeepsMirror op (Coro.modify Phone.countActive : Async Unit) :=
  modify fun s h => h.drifts (Drifts.countActive s)

theorem removeVoice (v : ℕ) : KeepsMirror op (RadioHAL.removeVoice v) := by
  intro s₀ s h
  refine Coro.meets_get_bind.mpr ?_
  unfold RadioHAL.remove Async.lift
  split
  · exact h.sublist fun w hw => List.mem_of_mem_erase hw
  · exact h

theorem withManager {body : Async Unit} (hbody : KeepsMirror op body) : KeepsMirror op (RadioHAL.withManager body) :=
  get_bind fun _ => when fun _ => hbody

theorem withSipCall (v : ℕ) {body : Text → Async Bool} (hbody : ∀ callId, KeepsMirror op (body callId)) :
    KeepsMirror op (RadioHAL.withSipCall v body) := get_bind fun _ => when fun _ => (hbody _).ignore

theorem hangupCall (callId : Text) : KeepsMirror op (VoLTECallManager.hangupCall callId) :=
  fun _ _ h => hangupCall_mirrors h fun _ _ _ h' _ => h'

theorem holdCall (callId : Text) (hop : op.reinvites = true) :
    KeepsMirror op (VoLTECallManager.holdCall callId) :=
  fun _ _ h => holdCall_mirrors hop (h.loose callId .active) fun _ _ _ h' _ => h'

theorem resumeCall (callId : Text) (hop : op.reinvites = true) :
    KeepsMirror op (VoLTECallManager.resumeCall callId) :=
  fun _ _ h => resumeCall_mirrors hop h fun _ _ _ h' => h'

theorem swapCalls (hop : op.reinvites = true) : KeepsMirror op VoLTECallManager.swapCalls := by
  refine get_bind fun s => ?_
  dsimp only
  split_ifs
  · exact pure _
  · have hwhenSome : ∀ (ref : Option ℕ) {body : ℕ → Async Unit}, (∀ ref, KeepsMirror op (body ref)) →
        KeepsMirror op (whenSome ref body) := by
      intro ref body hbody
      cases ref with
      | none => exact pure _
      | some ref => exact hbody ref
    refine (hwhenSome _ fun ref => (holdCall _ hop).ignore).bind fun _ => ?_
    exact (hwhenSome _ fun ref => (resumeCall _ hop).ignore).bind fun _ => pure _

end KeepsMirror

/-! ### Answering -/

theorem sendInviteOk_drifts {post : Phone → Except PyError Unit → Phone → Prop} (ref : ℕ)
    (msg : SIPMessage) (callId : Text) (addr : Text × ℕ)
    (h : ∀ s', Drifts s s' → post s₀ (.ok ()) s') :
    (sendInviteOk ref msg callId addr).Meets op.contract post s₀ s := by
  refine h _ ?_
  beta_reduce
  split_ifs
  · have hsent : ∀ m, Drifts s (s.send m addr) := fun _ =>
      Drifts.of_eq rfl rfl rfl Drifts.same_client rfl rfl rfl rfl rfl
    exact (hsent _).trans (Drifts.modifyCall _ ref
      (f := VoLTECall.record fun h => { h with okSent := true }) (fun _ => rfl) fun _ => rfl)
  · exact Drifts.refl s

/-- A call that can be answered: its voice call may have been taken off the ringing state. -/
structure Answerable (s : Phone) (callId : Text) (ref : ℕ) : Prop where
  mirrored : Mirrored (some ref) s
  entry : s.calls.get? callId = some ref
  fits : Fits (· ≠ .holding) s callId (s.call ref)

namespace Answerable

theorem drifts {s' : Phone} (h : Answerable s callId ref) (hd : Drifts s s') :
    Answerable s' callId ref :=
  ⟨h.mirrored.drifts hd, by rw [hd.calls, h.entry], h.mirrored.fits_drifts h.entry h.fits hd⟩

theorem settle (h : Answerable s callId ref) (hring : (s.call ref).state ≠ .ringingIn) :
    Mirrored none s := by
  refine h.mirrored.restore fun callId' hr => ?_
  obtain rfl := h.mirrored.callId_eq h.entry hr
  obtain ⟨hringing, hplaying, hstep, hagree⟩ := h.fits
  refine ⟨hringing, hplaying, hstep, fun v hv hid => ?_⟩
  obtain ⟨hindex, -, hparty, hheld⟩ := hagree v hv hid
  exact ⟨hindex, fun hstate => absurd hstate hring, hparty, hheld⟩

end Answerable

theorem Mirrored.answerable (h : Mirrored none s) (hr : s.calls.get? callId = some ref) :
    Answerable s callId ref := by
  obtain ⟨hringing, hplaying, hstep, hagree⟩ := h.fits callId ref hr nofun
  refine ⟨h.loosen (some ref), hr, hringing, hplaying, hstep, fun v hv hid => ?_⟩
  obtain ⟨hindex, hring, hparty, hheld⟩ := hagree v hv hid
  refine ⟨hindex, fun hstate => ?_, hparty, hheld⟩
  rcases hring hstate with hvoice | hvoice <;> rw [hvoice] <;> nofun

theorem answerCall_mirrors (hgone : s.calls.get? callId = none → Mirrored none s)
    (h : ∀ ref, s.calls.get? callId = some ref → Answerable s callId ref) :
    (answerCall callId).Meets op.contract (fun _ _ s' => Mirrored none s') s₀ s := by
  refine Coro.meets_get_bind.mpr ?_
  split
  · next hnone => exact hgone hnone
  · next ref hr =>
      have hinvoked := Drifts.modifyCall s ref (f := VoLTECall.record fun h =>
        { h with answerInvoked := true }) (fun _ => rfl) fun _ => rfl
      have h₁ := (h ref hr).drifts hinvoked
      have hstate : ((s.modifyCall ref (VoLTECall.record fun h =>
          { h with answerInvoked := true })).call ref).state = (s.call ref).state := by
        rw [Phone.call_modifyCall_self hr]
        rfl
      refine Coro.meets_modify_bind.mpr ?_
      by_cases hring : (s.call ref).state ≠ .ringingIn
      · rw [if_pos hring]
        exact h₁.settle (hstate.trans_ne hring)
      · rw [if_neg hring]
        rw [not_not] at hring
        obtain ⟨hsome, hmsg⟩ := (h ref hr).fits.ringing hring
        obtain ⟨⟨msg, addr⟩, hmsg⟩ := Option.isSome_iff_exists.mp hmsg
        simp only [hmsg]
        rw [if_neg (by rw [Option.isNone_iff_eq_none]; exact Option.isSome_iff_ne_none.mp hsome)]
        obtain ⟨s₂, hs₂⟩ : ∃ s₂, s₂ = s.modifyCall ref (VoLTECall.record fun h =>
          { h with answerInvoked := true }) := ⟨_, rfl⟩
        rw [← hs₂] at h₁ hstate hinvoked ⊢
        refine Coro.meets_bind.mpr (sendInviteOk_drifts ref msg callId addr fun s₃ hok => ?_)
        have h₃ := h₁.drifts hok
        have hring₃ : (s₃.call ref).state = .ringingIn := by
          refine (hok.toStays.state_eq ?_).trans (hstate.trans hring)
          rintro (he | he) <;> rw [hstate, hring] at he <;> cases he
        have hself := Phone.call_modifyCall_self h₃.entry VoLTECall.answer
        have hquiet : ¬(s₃.call ref).Playing := by
          intro hplaying
          rcases h₃.fits.playing hplaying with hans | hans <;> cases hring₃.symm.trans hans
        have hconnected : Connected (s₃.modifyCall ref VoLTECall.answer) callId ref := by
          refine ⟨h₃.mirrored.modifyCall (fun _ => rfl) (fun _ => rfl) fun _ => ?_, h₃.entry,
            by rw [hself]; rfl, fun v hv hid => ?_⟩
          · rw [(h₃.mirrored.entry _ _ h₃.entry).2.1, h₃.entry]
          · obtain ⟨hindex, hvoice, -, -⟩ := h₃.fits.agree v hv hid
            rw [hself]
            exact ⟨hindex, hvoice hring₃⟩
        have hcount : Drifts (s₃.modifyCall ref VoLTECall.answer)
            ((s₃.modifyCall ref VoLTECall.answer).countActive.countCall
              ((s₃.modifyCall ref VoLTECall.answer).countActive.call ref).codec) :=
          Drifts.of_eq rfl rfl rfl Drifts.same_client rfl rfl rfl rfl rfl
        have h₄ := hconnected.drifts hcount
        have hquiet₄ : ¬(((s₃.modifyCall ref VoLTECall.answer).countActive.countCall
            ((s₃.modifyCall ref VoLTECall.answer).countActive.call ref).codec).call ref).Playing := by
          rw [hcount.playing ref, hself]
          exact hquiet
        refine Coro.meets_modify_bind.mpr (Coro.meets_modify_bind.mpr (Coro.meets_modify_bind.mpr ?_))
        refine Coro.meets_bind.mpr (startMedia_mirrors h₄ hquiet₄ (fun e => ?_) ?_)
        · exact h₄.restore_quiet hquiet₄
        · exact fun _ _ h₆ _ _ => h₆

/-! ### Conference and transfer -/

theorem KeepsMirror.conferenceCalls : KeepsMirror op VoLTECallManager.conferenceCalls := by
  intro s₀ s h
  have hcall : ∀ {state ref}, s.lastCall state = some ref →
      (∃ callId, s.calls.get? callId = some ref) ∧ (s.call ref).state = state := by
    intro state ref hlast
    have hmem := List.mem_reverse.mp (List.mem_of_find?_eq_some hlast)
    have hfound := List.find?_some hlast
    exact ⟨(Dict.mem_values_iff _ _).mp hmem, of_decide_eq_true hfound⟩
  refine Coro.meets_get_bind.mpr ?_
  split
  · next active held hactive hheld =>
      obtain ⟨⟨a, ha⟩, hactive⟩ := hcall hactive
      obtain ⟨⟨b, hb⟩, hheld⟩ := hcall hheld
      rw [(h.entry a active ha).2.1, (h.entry b held hb).2.1]
      have hchange : VoLTECall.Switches .active fun c => c.resume.release :=
        VoLTECall.Switches.resume (fun _ => rfl) fun _ => rfl
      have hself := Phone.call_modifyCall_self hb fun c => c.resume.release
      have hne : held ≠ active := by
        rintro rfl
        cases hactive.symm.trans hheld
      obtain ⟨s₁, hs₁⟩ : ∃ s₁, s₁ = s.modifyCall held fun c => c.resume.release := ⟨_, rfl⟩
      have hcalls : s₁.calls = s.calls := by rw [hs₁]; rfl
      have hradio : s₁.radio = s.radio := by rw [hs₁]; rfl
      have h₁ : Mirrored (some held) s₁ := by
        rw [hs₁]
        refine (h.loosen (some held)).modifyCall hchange.sipCallId hchange.radioCallIndex fun _ => ?_
        rw [(h.entry b held hb).2.1, hb]
      have hactive₁ : (s₁.call active).state = .active := by
        rw [hs₁, Phone.call_modifyCall_ne hne, hactive]
      have hjoined : Mirrored (some held) (s₁.modifyRadio (RadioHAL.joinParties a b)) := by
        refine h₁.joinParties fun callId r hid hr hx => ?_
        rw [hcalls] at hr
        rcases hid with rfl | rfl
        · obtain rfl := Option.some.inj (ha.symm.trans hr)
          exact hactive₁
        · exact absurd hr fun hr => hx (hb.symm.trans hr)
      have hvoice := RadioHAL.joinParties_voice a b s.radio
      have hswitched : Switched (s₁.modifyRadio (RadioHAL.joinParties a b)) b held := by
        refine ⟨hjoined, hcalls ▸ hb, Or.inl ?_, ?_, fun v hv hid => ?_⟩
        · show (s₁.call held).state = .active
          rw [hs₁, hself, hchange.state]
        · show (s₁.call held).InStep
          rw [hs₁, hself]
          exact hchange.inStep _
        · replace hv : v ∈ (s₁.radio.joinParties a b).voiceCalls := hv
          replace hid : ((s₁.radio.joinParties a b).voice v).sipCallId = b := hid
          show ((s₁.radio.joinParties a b).voice v).index = (s₁.call held).radioCallIndex
          rw [hradio] at hv hid ⊢
          rw [(RadioHAL.joinParties_rest a b s.radio).1] at hv
          rw [hvoice] at hid ⊢
          rw [hs₁, hself, hchange.radioCallIndex]
          have hold := fun hsip => ((h.fits b held hb nofun).agree v hv hsip).index
          split_ifs at hid ⊢ <;> exact hold hid
      have hrestored : Mirrored none (s₁.modifyRadio (RadioHAL.joinParties a b)) := by
        refine hswitched.restore fun v hv hid => ?_
        replace hv : v ∈ (s₁.radio.joinParties a b).voiceCalls := hv
        replace hid : ((s₁.radio.joinParties a b).voice v).sipCallId = b := hid
        show ((s₁.radio.joinParties a b).voice v).state = .holding ↔ (s₁.call held).state = .held
        rw [show (s₁.call held).state = .active by rw [hs₁, hself, hchange.state]]
        rw [hradio] at hv hid ⊢
        rw [(RadioHAL.joinParties_rest a b s.radio).1] at hv
        have hsip : (s.radio.voice v).sipCallId = b := by
          rw [hvoice] at hid
          split_ifs at hid <;> exact hid
        rw [hvoice, if_pos ⟨hv, h.valid v hv, Or.inr hsip⟩]
        exact ⟨nofun, nofun⟩
      refine Coro.meets_modify_bind.mpr (Coro.meets_bind.mpr (when_meets.mpr ⟨fun _ => ?_, fun hno => ?_⟩))
      · rw [← hs₁]
        refine Coro.meets_modify_bind.mpr (sendIndication_drifts 1001 fun s₂ hdrifts _ => ?_)
        refine Coro.meets_modify_bind.mpr ?_
        exact (hrestored.drifts hdrifts).drifts (Drifts.countActive s₂)
      · exact absurd h.radioHal hno
  · exact h

/-- A request of a transfer; `accept` is what an accepted one does to the call. -/
theorem sendRefer_mirrors {accept : VoLTECall → VoLTECall} (referTo : Text) (h : Mirrored none s)
    (hr : s.calls.get? callId = some ref)
    (haccept : ∀ s', Mirrored none s' → s'.calls.get? callId = some ref → (s'.call ref).Answered →
      (op.transfers = true → (s'.call ref).Playing → (s'.call ref).state ≠ .held) →
      Mirrored none (s'.modifyCall ref accept)) :
    (sendRefer ref referTo accept).Meets op.contract (fun _ _ s' => Mirrored none s') s₀ s := by
  refine Coro.meets_get_bind.mpr ?_
  split_ifs with hanswered hready
  · have hrequested := Drifts.modifyCall s ref (f := VoLTECall.record fun h =>
      { h with transferRequested := true }) (fun _ => rfl) fun _ => rfl
    obtain ⟨s₁, hs₁⟩ : ∃ s₁, s₁ = s.modifyCall ref (VoLTECall.record fun h =>
      { h with transferRequested := true }) := ⟨_, rfl⟩
    rw [← hs₁] at hrequested
    have hid : (s₁.call ref).sipCallId = callId := by
      rw [(hrequested.call ref).1, (h.entry callId ref hr).2.1]
    refine Coro.meets_modify_bind.mpr ?_
    rw [← hs₁]
    refine onTimeout_meets.mpr (Coro.meets_bind.mpr (Coro.meets_get_bind.mpr ?_))
    refine sendRequest_drifts (fun hnone => ?_) fun s₂ s₃ r client hclient hwait hsettles hreceived
      hdrifts _ hcalls hheap => ?_
    · exact h.drifts hrequested
    have hd := hrequested.trans hdrifts
    have h₃ := h.drifts hd
    cases hreceived with
    | timedOut m _ _ => exact h₃
    | crossed cid _ _ => exact h₃
    | @response msg hmsg =>
        show (if msg.statusCode = some 200 ∨ msg.statusCode = some 202 then _ else
          (pure false : Async Bool)).Meets op.contract (handled op.contract _ _) s₂ s₃
        split_ifs with haccepted
        · refine haccept s₃ h₃ (by rw [hd.calls, hr]) ?_ fun hop hplaying => ?_
          · unfold VoLTECall.Answered
            rw [hd.toStays.state_eq (VoLTECall.Answered.not_early hanswered)]
            exact hanswered
          · obtain ⟨client', hclient', -, t, ids, ht, hcid, -⟩ := beginRequest_client _ hclient
            obtain ⟨client₂, hclient₂, hsame⟩ := hwait.requests client' hclient'
            obtain ⟨t₂, ht₂, hcid₂, -⟩ := hsame _ t ht
            have hcall : s₃.call ref = s₂.call ref := by rw [Phone.call, Phone.call, hheap]
            rw [hcall] at hplaying ⊢
            refine hsettles.2 hop client₂ hclient₂ t₂ ht₂ msg hmsg haccepted ref ?_ hplaying
            rw [hcid₂, hcid, RequestArgs.cid]
            simp only [hid, if_neg (h.entry callId ref hr).1]
            rw [← hcalls, hd.calls, hr]
            rfl
        · exact h₃
  · exact h
  · exact h

theorem KeepsMirror.transferCall (callId target : Text) (hop : op.transfers = true) :
    KeepsMirror op (VoLTECallManager.transferCall callId target) := by
  intro s₀ s h
  refine Coro.meets_get_bind.mpr ?_
  split
  · exact h
  · next ref hr =>
      refine sendRefer_mirrors _ h hr fun s' h' hr' hanswered hoff => ?_
      have hself := Phone.call_modifyCall_self hr' fun c =>
        ((c.setState .active).release).setTransfer (s.config.numberUri target)
      have hchanged : Mirrored (some ref) (s'.modifyCall ref fun c =>
          ((c.setState .active).release).setTransfer (s.config.numberUri target)) := by
        refine (h'.loosen (some ref)).modifyCall (fun _ => rfl) (fun _ => rfl) fun _ => ?_
        rw [(h'.entry callId ref hr').2.1, hr']
      refine hchanged.restore fun callId' hr'' => ?_
      obtain ⟨-, hplaying, hstep, hagree⟩ := h'.fits callId' ref hr'' nofun
      rw [hself]
      refine ⟨nofun, fun _ => Or.inl rfl, fun session hm hactive => ?_, fun v hv hid => ?_⟩
      · have hheld := hoff hop ⟨session, hm, hactive⟩
        have hmedia := hstep session hm hactive
        exact ⟨fun hsession => absurd (hmedia.mp hsession) hheld, nofun⟩
      · obtain ⟨hindex, -, -, hheld⟩ := hagree v hv hid
        refine ⟨hindex, nofun, fun _ => Or.inl rfl, fun hplay => ?_⟩
        have hoff := hoff hop hplay
        exact ⟨fun hholding => absurd ((hheld hplay).mp hholding) hoff, nofun⟩

theorem KeepsMirror.attendedTransfer (callIdA callIdB : Text) :
    KeepsMirror op (VoLTECallManager.attendedTransfer callIdA callIdB) := by
  intro s₀ s h
  refine Coro.meets_get_bind.mpr ?_
  split
  · next a b ha _ =>
      refine sendRefer_mirrors _ h ha fun s' h' _ _ _ => ?_
      exact h'.drifts (Drifts.modifyCall s' a (fun _ => rfl) fun _ => rfl)
  · exact h

/-! ### The radio's calls -/

/-- A voice call that is not on hold becomes active, and its call can be answered. -/
theorem Mirrored.activate (h : Mirrored none s) {v : ℕ} (hv : v ∈ s.radio.voiceCalls)
    (hstate : (s.radio.voice v).sipCallId ∈ s.calls.keys → (s.radio.voice v).state ≠ .holding) :
    (s.calls.get? (s.radio.voice v).sipCallId = none →
      Mirrored none (s.modifyRadio (RadioHAL.modifyVoice v (VoiceCall.setState .active)))) ∧
    ∀ ref, s.calls.get? (s.radio.voice v).sipCallId = some ref →
      Answerable (s.modifyRadio (RadioHAL.modifyVoice v (VoiceCall.setState .active)))
        (s.radio.voice v).sipCallId ref := by
  have hvoice : ∀ w, (s.modifyRadio (RadioHAL.modifyVoice v (VoiceCall.setState .active))).radio.voice w =
      if v = w ∧ w < s.radio.voices.length then (s.radio.voice w).setState .active
        else s.radio.voice w := fun w => RadioHAL.voice_modifyVoice v w _ s.radio
  refine ⟨fun hnone => ?_, fun ref hr => ?_⟩
  · refine h.modifyVoice (fun _ => rfl) (fun _ => rfl) fun callId r hr _ _ hid => ?_
    rw [← hid, hnone] at hr
    cases hr
  · obtain ⟨hringing, hplaying, hstep, hagree⟩ := h.fits _ ref hr nofun
    refine ⟨?_, hr, hringing, hplaying, hstep, fun w hw hid => ?_⟩
    · refine (h.loosen (some ref)).modifyVoice (fun _ => rfl) (fun _ => rfl) fun callId r hr' hne _ hid => ?_
      rw [← hid, hr] at hr'
      exact absurd hr' hne
    · have hsip : (s.radio.voice w).sipCallId = (s.radio.voice v).sipCallId := by
        rw [hvoice] at hid
        split_ifs at hid <;> exact hid
      obtain ⟨hindex, hring, hparty, hheld⟩ := hagree w hw hsip
      obtain rfl : v = w := h.once v hv w hw (((hagree v hv rfl).index).trans hindex.symm)
      have hoff := hstate (Dict.mem_keys_of_get? hr)
      rw [hvoice, if_pos ⟨rfl, h.valid v hv⟩]
      refine ⟨hindex, fun _ => nofun, hparty, fun hplay => ⟨nofun, fun hheld' => ?_⟩⟩
      exact absurd ((hheld hplay).mpr hheld') hoff

theorem Mirrored.putOnHold (h : Mirrored none s) {v : ℕ} {f : VoiceCall → VoiceCall}
    (hv : v ∈ s.radio.voiceCalls) (hindex : ∀ vc, (f vc).index = vc.index)
    (hid : ∀ vc, (f vc).sipCallId = vc.sipCallId) (hstate : ∀ vc, (f vc).state = .holding)
    (hother : ∀ ref, s.calls.get? (s.radio.voice v).sipCallId = some ref →
      (s.call ref).state ≠ .active → (s.call ref).state ≠ .ringingIn ∧
        ((f (s.radio.voice v)).isMpty = true → (s.call ref).Answered) ∧
        ((s.call ref).Playing → (s.call ref).state = .held)) :
    Loose (s.modifyRadio (RadioHAL.modifyVoice v f)) (s.radio.voice v).sipCallId .active := by
  have hvoice : ∀ w, (s.modifyRadio (RadioHAL.modifyVoice v f)).radio.voice w =
      if v = w ∧ w < s.radio.voices.length then f (s.radio.voice w) else s.radio.voice w :=
    fun w => RadioHAL.voice_modifyVoice v w _ s.radio
  refine ⟨fun hnone => ?_, fun ref hr => ?_, fun ref hr w hw hsip => ?_, fun ref hr hne => ?_⟩
  · refine h.modifyVoice hindex hid fun callId r hr _ _ hsip => ?_
    replace hnone : s.calls.get? (s.radio.voice v).sipCallId = none := hnone
    rw [← hsip, hnone] at hr
    cases hr
  · refine (h.loosen (some ref)).modifyVoice hindex hid fun callId r hr' hx _ hsip => ?_
    replace hr : s.calls.get? (s.radio.voice v).sipCallId = some ref := hr
    rw [← hsip, hr] at hr'
    exact absurd hr' hx
  · have hagree := (h.fits _ ref hr nofun).agree w hw
    rw [hvoice] at hsip ⊢
    show _ = (s.call ref).radioCallIndex
    split_ifs at hsip ⊢
    · rw [hindex]
      exact (hagree ((hid _).symm.trans hsip)).index
    · exact (hagree hsip).index
  · replace hr : s.calls.get? (s.radio.voice v).sipCallId = some ref := hr
    obtain ⟨hring, hparty, hheld⟩ := hother ref hr hne
    refine h.modifyVoice hindex hid fun callId r hr' _ _ hsip => ?_
    rw [← hsip, hr] at hr'
    obtain rfl := Option.some.inj hr'
    have hagree := (h.fits _ ref hr nofun).agree v hv rfl
    refine ⟨(hindex _).trans hagree.index, fun hstate' => absurd hstate' hring, hparty, fun hplay => ?_⟩
    rw [hstate]
    exact ⟨fun _ => hheld hplay, fun _ => rfl⟩

/-- The voice call of a call in the table waits to be answered. -/
structure Waiting (s : Phone) (v : ℕ) : Prop where
  listed : v ∈ s.radio.voiceCalls
  ringing : (s.radio.voice v).sipCallId ∈ s.calls.keys →
    (s.radio.voice v).state ≠ .holding ∧ (s.radio.voice v).state ≠ .active

theorem Waiting.spares {s' : Phone} {u v : ℕ} (h : Waiting s v) (hs : Mirrored none s)
    (hu : u ∈ s.radio.voiceCalls) (hactive : (s.radio.voice u).state = .active)
    (hspares : Spares (s.radio.voice u).sipCallId
      (s.modifyRadio (RadioHAL.modifyVoice u (VoiceCall.setState .holding))) s') : Waiting s' v := by
  have hlisted : v ∈ s'.radio.voiceCalls := hspares.list ▸ h.listed
  refine ⟨hlisted, fun hsip => ?_⟩
  obtain ⟨hid, hcase⟩ := hspares.voice v h.listed
  have hvoice := RadioHAL.voice_modifyVoice u v (VoiceCall.setState .holding) s.radio
  have hsame : ((s.radio.modifyVoice u (VoiceCall.setState .holding)).voice v).sipCallId =
      (s.radio.voice v).sipCallId := by
    rw [hvoice]
    split_ifs <;> rfl
  rw [hid, hspares.calls] at hsip
  replace hsip : ((s.radio.modifyVoice u (VoiceCall.setState .holding)).voice v).sipCallId ∈
    s.calls.keys := hsip
  rw [hsame] at hsip
  obtain ⟨hholding, hnot⟩ := h.ringing hsip
  obtain ⟨ref, hr⟩ := (Dict.mem_keys_iff _ _).mp hsip
  have hne : u ≠ v := by
    rintro rfl
    exact hnot hactive
  rw [show (s.modifyRadio (RadioHAL.modifyVoice u (VoiceCall.setState .holding))).radio.voice v =
    s.radio.voice v from hvoice.trans (if_neg fun h => hne h.1)] at hcase
  rcases hcase with hsame | hnone | hstate | hstate
  · -- both voice calls would belong to the same call
    obtain ⟨-, -, -, hagree⟩ := hs.fits _ ref hr nofun
    have hindex := (hagree u hu hsame.symm).index.trans (hagree v h.listed rfl).index.symm
    exact absurd (hs.once u hu v h.listed hindex) hne
  · exact absurd hnone (hs.entry _ ref hr).1
  · rw [hstate]
    exact ⟨hholding, hnot⟩
  · rw [hstate]
    exact ⟨nofun, nofun⟩

/-- The loop that puts the active calls on hold leaves the waiting call as it is. -/
theorem holdActive_mirrors {post : Phone → Except PyError Unit → Phone → Prop} {v : ℕ}
    (hop : op.reinvites = true) (rounds k : ℕ) (h : Mirrored none s) (hwaiting : Waiting s v)
    (hpost : ∀ s₁ s', Mirrored none s' → Waiting s' v → post s₁ (.ok ()) s') :
    (RadioHAL.holdActive rounds k).Meets op.contract post s₀ s := by
  induction rounds generalizing s₀ s k with
  | zero =>
      refine Coro.meets_await.mpr ⟨trivial, fun s' _ hresumes => ?_⟩
      cases hresumes.1
  | succ rounds ih =>
      refine Coro.meets_get_bind.mpr ?_
      split
      · exact hpost s₀ s h hwaiting
      · next u hu =>
          have hu := List.mem_of_getElem? hu
          refine Coro.meets_bind.mpr (when_meets.mpr ⟨fun hactive => ?_, fun _ => ih (k + 1) h hwaiting⟩)
          have hother : ∀ ref, s.calls.get? (s.radio.voice u).sipCallId = some ref →
              (s.call ref).state ≠ .active → (s.call ref).state ≠ .ringingIn ∧
                (((s.radio.voice u).setState .holding).isMpty = true → (s.call ref).Answered) ∧
                ((s.call ref).Playing → (s.call ref).state = .held) := by
            intro ref hr hne
            obtain ⟨-, hplaying, -, hagree⟩ := h.fits _ ref hr nofun
            obtain ⟨-, hring, hparty, -⟩ := hagree u hu rfl
            refine ⟨fun hstate => ?_, hparty, fun hplay => (hplaying hplay).resolve_left hne⟩
            rcases hring hstate with hvoice | hvoice <;> cases hactive.symm.trans hvoice
          have hloose := h.putOnHold (f := VoiceCall.setState .holding) hu (fun _ => rfl) (fun _ => rfl)
            (fun _ => rfl) hother
          refine Coro.meets_modify_bind.mpr (Coro.meets_get_bind.mpr (when_meets.mpr ⟨fun _ => ?_,
            fun hno => absurd h.callManager hno⟩))
          refine ignore_meets.mpr (holdCall_mirrors hop hloose fun s₁ s₂ _ h₂ hspares => ?_)
          refine ih (k + 1) h₂ (hwaiting.spares h hu hactive hspares)

theorem answerVoice_mirrors (op : Operation) (s₀ : Phone) {s' : Phone} {v : ℕ} (h : Mirrored none s) (hv : v ∈ s.radio.voiceCalls)
    (hstate : (s.radio.voice v).sipCallId ∈ s.calls.keys → (s.radio.voice v).state ≠ .holding)
    (hd : Drifts (s.modifyRadio (RadioHAL.modifyVoice v (VoiceCall.setState .active))) s') :
    (answerCall (s'.radio.voice v).sipCallId).Meets op.contract (fun _ _ s' => Mirrored none s') s₀ s' ∧
      ((s'.radio.voice v).sipCallId = [] → Mirrored none s') := by
  obtain ⟨hnone, hsome⟩ := h.activate hv hstate
  have hsip : (s'.radio.voice v).sipCallId = (s.radio.voice v).sipCallId := by
    refine (hd.toStays.voice_part v).2.1.trans ?_
    show ((s.radio.modifyVoice v (VoiceCall.setState .active)).voice v).sipCallId = _
    rw [RadioHAL.voice_modifyVoice]
    split_ifs <;> rfl
  have hget : s'.calls.get? (s'.radio.voice v).sipCallId =
      s.calls.get? (s.radio.voice v).sipCallId := by
    rw [hd.calls, hsip]
    rfl
  refine ⟨answerCall_mirrors (fun hgone => (hnone (hget ▸ hgone)).drifts hd) fun ref hr => ?_, fun hempty => ?_⟩
  · rw [hsip]
    exact (hsome ref (hget ▸ hr)).drifts hd
  · refine (hnone ?_).drifts hd
    cases hr : s.calls.get? (s.radio.voice v).sipCallId with
    | none => rfl
    | some ref => exact absurd (hsip.symm.trans hempty) (h.entry _ ref hr).1

theorem answerOrSwap_mirrors (rounds : ℕ) (hop : op.reinvites = true) (h : Mirrored none s) :
    (RadioHAL.answerOrSwap rounds (s.radio.find? (·.state = .waiting))).Meets op.contract
      (fun _ _ s' => Mirrored none s') s₀ s := by
  cases hfind : s.radio.find? (·.state = .waiting) with
  | none => exact (KeepsMirror.swapCalls hop).ignore.withManager _ _ h
  | some v =>
      have hfound := List.find?_some hfind
      have hstate : (s.radio.voice v).state = .waiting := of_decide_eq_true hfound
      have hwaiting : Waiting s v :=
        ⟨List.mem_of_find?_eq_some hfind, fun _ => by rw [hstate]; exact ⟨nofun, nofun⟩⟩
      refine Coro.meets_bind.mpr (holdActive_mirrors hop rounds 0 h hwaiting fun s₁ s₂ h₂ hwaiting₂ => ?_)
      obtain ⟨hanswer, hempty⟩ := answerVoice_mirrors op s₁ h₂ hwaiting₂.listed
        (fun hsip => (hwaiting₂.ringing hsip).1) (Drifts.refl _)
      refine Coro.meets_modify_bind.mpr (Coro.meets_get_bind.mpr (when_meets.mpr ⟨fun _ => ?_, fun hno => ?_⟩))
      · exact ignore_meets.mpr (hanswer.mono fun _ r _ h' => by cases r <;> exact h')
      · refine hempty ?_
        by_contra hsip
        exact hno ⟨h₂.callManager, hsip⟩

namespace KeepsMirror

theorem switchWaitingOrHoldingAndActive (rounds : ℕ) (hop : op.reinvites = true) :
    KeepsMirror op (RadioHAL.switchWaitingOrHoldingAndActive rounds) := fun _ _ h =>
  Coro.meets_get_bind.mpr (after (answerOrSwap_mirrors rounds hop h) fun _ =>
    (sendIndication 1001).bind fun _ => pure _)

theorem answer : KeepsMirror op RadioHAL.answer := by
  intro s₀ s h
  refine Coro.meets_get_bind.mpr ?_
  split
  · next v hfind =>
      have hfound := List.find?_some hfind
      have hstate : (s.radio.voice v).state = .incoming := of_decide_eq_true hfound
      refine Coro.meets_modify_bind.mpr (Coro.meets_bind.mpr (sendIndication_drifts 1001 fun s₁ hd _ => ?_))
      obtain ⟨hanswer, -⟩ := answerVoice_mirrors op s₁ h (List.mem_of_find?_eq_some hfind)
        (fun _ => by rw [hstate]; nofun) hd
      have hmanager : s₁.radio.callManager = true := hd.callManager.trans h.callManager
      refine Coro.meets_get_bind.mpr (after ?_ fun _ => pure _)
      refine Coro.meets_get_bind.mpr (when_meets.mpr ⟨fun _ => ?_, fun hno => absurd hmanager hno⟩)
      exact ignore_meets.mpr (hanswer.mono fun _ r _ h' => by cases r <;> exact h')
  · exact h

theorem hangup (callIndex : ℕ) : KeepsMirror op (RadioHAL.hangup callIndex) := by
  refine get_bind fun s => ?_
  split
  · exact (withSipCall _ hangupCall).bind fun _ => (removeVoice _).bind fun _ =>
      (sendIndication 1001).bind fun _ => pure _
  · exact pure _

theorem conference : KeepsMirror op RadioHAL.conference := by
  refine get_bind fun s => ?_
  split_ifs
  · exact conferenceCalls.bind fun _ => pure _
  · exact pure _

theorem separateConnection (callIndex : ℕ) (hop : op.reinvites = true) :
    KeepsMirror op (RadioHAL.separateConnection callIndex) := by
  intro s₀ s h
  refine Coro.meets_get_bind.mpr ?_
  split
  · next v hfind =>
      have hv := List.mem_of_find?_eq_some hfind
      have hfound := List.find?_some hfind
      have hmpty : (s.radio.voice v).isMpty = true := (of_decide_eq_true hfound).2
      have hloose := h.putOnHold (f := VoiceCall.separate) hv (fun _ => rfl) (fun _ => rfl)
        (fun _ => rfl) fun ref hr hne => by
          have hanswered := ((h.fits _ ref hr nofun).agree v hv rfl).party hmpty
          refine ⟨fun hring => ?_, nofun, fun _ => hanswered.resolve_left hne⟩
          rcases hanswered with hstate | hstate <;> cases hring.symm.trans hstate
      refine Coro.meets_modify_bind.mpr (after ?_ fun _ => (sendIndication 1001).bind fun _ => pure _)
      refine Coro.meets_get_bind.mpr (when_meets.mpr ⟨fun _ => ?_, fun hno => absurd h.callManager hno⟩)
      exact ignore_meets.mpr (holdCall_mirrors hop hloose fun _ _ _ h' _ => h')
  · exact h

theorem explicitCallTransfer (hop : op.transfers = true) : KeepsMirror op RadioHAL.explicitCallTransfer := by
  refine get_bind fun s => ?_
  split
  · split_ifs
    · refine (transferCall _ _ hop).bind fun transferred => ?_
      split_ifs
      · exact (removeVoice _).bind fun _ => (removeVoice _).bind fun _ =>
          (sendIndication 1001).bind fun _ => pure _
      · exact pure _
    · exact pure _
  · exact pure _

theorem hangupEach (vs : List ℕ) : KeepsMirror op (RadioHAL.hangupEach vs) := by
  induction vs with
  | nil => exact pure _
  | cons v vs ih => exact (withSipCall v hangupCall).bind fun _ => ih

theorem hangupAll : KeepsMirror op RadioHAL.hangupAll :=
  get_bind fun _ => (hangupEach _).bind fun _ =>
    (modify fun _ h => h.sublist fun _ hv => absurd hv List.not_mem_nil).bind fun _ => (sendIndication 1001).bind fun _ => pure _

end KeepsMirror

/-! ### Dialing -/

theorem Mirrored.unnamed_append {s' : Phone} (h : Mirrored none s) {vc : VoiceCall}
    (hid : vc.sipCallId = []) (hstate : vc.state ≠ .holding)
    (hd : Drifts (s.modifyRadio (RadioHAL.append vc)) s') : Unnamed s' s.radio.nextCallIndex := by
  intro v hv hindex
  obtain ⟨hindex', hsip', -⟩ := hd.toStays.voice_part v
  rw [hd.list] at hv
  rw [hindex'] at hindex
  have hself : v = s.radio.voices.length := by
    rcases List.mem_append.mp hv with hold | hnew
    · have hrange := (h.range v hold).2
      rw [show (s.modifyRadio (RadioHAL.append vc)).radio.voice v = s.radio.voice v from
        RadioHAL.voice_append_left (h.valid v hold)] at hindex
      exact absurd hindex hrange.ne
    · exact List.mem_singleton.mp hnew
  have hvoice : (s.modifyRadio (RadioHAL.append vc)).radio.voice v =
      { vc with index := s.radio.nextCallIndex } := by
    rw [hself]
    exact RadioHAL.voice_append_self s.radio vc
  refine ⟨by rw [hsip', hvoice, hid], ?_, fun callId r hr => ?_⟩
  · rcases hd.voice v with hv' | hv' <;> rw [hv']
    · rw [hvoice]
      exact hstate
    · nofun
  · rw [hd.calls] at hr
    rw [(hd.call r).2.1]
    exact (h.entry callId r hr).2.2.ne

namespace KeepsMirror

theorem dial (number : Text) : KeepsMirror op (RadioHAL.dial number) := by
  intro s₀ s h
  refine Coro.meets_get_bind.mpr (Coro.meets_modify_bind.mpr (Coro.meets_bind.mpr ?_))
  refine sendIndication_drifts 1001 fun s₁ hd hfresh => Coro.meets_get_bind.mpr ?_
  have happend : Mirrored none (s.modifyRadio (RadioHAL.append
      { state := .dialing, isMt := false, number := number })) :=
    h.append _ fun callId r hr _ heq => (h.entry callId r hr).1 heq.symm
  have h₁ := happend.drifts hd
  have hself : (s₁.radio.voice s.radio.voices.length).index = s.radio.nextCallIndex := by
    rw [(hd.toStays.voice_part _).1]
    exact congrArg VoiceCall.index (RadioHAL.voice_append_self s.radio _)
  rw [if_pos h₁.callManager]
  refine Coro.meets_bind.mpr (initiateCall_mirrors number h₁ (fun _ => hfresh) ?_
    (h.unnamed_append rfl (fun hstate => by cases hstate) hd) fun s₂ s₃ r h₃ _ hjoined => ?_)
  · rw [hd.next]
    exact Nat.lt_succ_self _
  · cases r with
    | error e => exact h₃
    | ok callId =>
        cases callId with
        | none => exact ((removeVoice _).bind fun _ => (sendIndication 1001).bind fun _ => pure _) s₂ s₃ h₃
        | some callId =>
            obtain ⟨⟨ref, hr, hactive, hown⟩, hindex, hvoice⟩ := hjoined callId rfl
            have hidx : (s₃.radio.voice s.radio.voices.length).index = s.radio.nextCallIndex :=
              (hindex _).trans hself
            exact h₃.setSipCallId hr (hidx.trans hown.symm) hactive fun hv => hvoice _ hv hidx

end KeepsMirror

/-! ### Incoming requests -/

theorem VoLTECall.Switches.reinvite_hold {sdp : Text} (h : HoldsRemotely sdp) :
    VoLTECall.Switches .held (VoLTECall.reinvite sdp) := by
  have hpart : VoLTECall.Switches .held ((fun c : VoLTECall => c.hold.record id) ∘
      fun c => { c with remoteSdp := sdp, history := { c.history with reinvited := true } }) :=
    VoLTECall.Switches.hold.comp fun _ => rfl
  convert hpart using 1
  funext c
  exact if_pos h

theorem VoLTECall.Switches.reinvite_resume {sdp : Text} (h : ResumesRemotely sdp) :
    VoLTECall.Switches .active (VoLTECall.reinvite sdp) := by
  have hpart : VoLTECall.Switches .active ((fun c : VoLTECall => id c.resume) ∘
      fun c => { c with remoteSdp := sdp, history := { c.history with reinvited := true } }) :=
    (VoLTECall.Switches.resume (fun _ => rfl) fun _ => rfl).comp fun _ => rfl
  convert hpart using 1
  funext c
  exact (if_neg h.1).trans (if_pos h)

theorem handleReinvite_mirrors (msg : SIPMessage) (addr : Text × ℕ) (h : Mirrored none s)
    (hr : s.calls.get? callId = some ref) :
    (handleReinvite msg addr ref).Meets op.contract (fun _ _ s' => Mirrored none s') s₀ s := by
  have hindex : ∀ v ∈ s.radio.voiceCalls, (s.radio.voice v).sipCallId = callId →
      (s.radio.voice v).index = (s.call ref).radioCallIndex :=
    fun v hv hid => ((h.fits callId ref hr nofun).agree v hv hid).index
  have hself := Phone.call_modifyCall_self hr (VoLTECall.reinvite (decodeUtf8 msg.body))
  have hok : ∀ s₀ s, Mirrored none s → (sendInviteOk ref msg msg.callId addr).Meets op.contract
      (fun _ _ s' => Mirrored none s') s₀ s :=
    fun s₀ s h => sendInviteOk_drifts ref msg msg.callId addr fun s' hd => h.drifts hd
  refine Coro.meets_modify_bind.mpr (Coro.meets_bind.mpr (when_meets.mpr ⟨fun hholds => ?_, fun hholds => ?_⟩))
  · have hchange := VoLTECall.Switches.reinvite_hold hholds
    have hswitched := Switched.of_switches (h.loosen (some ref)) hr hindex hchange (Or.inr rfl)
    refine hswitched.updateRadio ?_ fun s₁ s₂ h₂ _ => ?_
    · rw [hself, hchange.state]
      exact ⟨fun _ => rfl, fun _ => rfl⟩
    · refine Coro.meets_bind.mpr (when_meets.mpr ⟨fun hresumes => absurd hholds hresumes.1, fun _ => ?_⟩)
      exact hok s₁ s₂ h₂
  · refine Coro.meets_bind.mpr (when_meets.mpr ⟨fun hresumes => ?_, fun hresumes => ?_⟩)
    · have hchange := VoLTECall.Switches.reinvite_resume hresumes
      have hswitched := Switched.of_switches (h.loosen (some ref)) hr hindex hchange (Or.inl rfl)
      refine hswitched.updateRadio ?_ fun s₁ s₂ h₂ _ => hok s₁ s₂ h₂
      rw [hself, hchange.state]
      exact ⟨nofun, nofun⟩
    · have hreinvite : ∀ c : VoLTECall, c.reinvite (decodeUtf8 msg.body) =
          { c with remoteSdp := decodeUtf8 msg.body,
                   history := { c.history with reinvited := true } } :=
        fun c => (if_neg hholds).trans (if_neg hresumes)
      exact hok s₀ _ (h.drifts (Drifts.modifyCall s ref (fun c => by rw [hreinvite]; rfl)
        fun c => by rw [hreinvite]))

theorem KeepsMirror.takeDown (msg : SIPMessage) (addr : Text × ℕ) :
    KeepsMirror op (VoLTECallManager.takeDown msg addr) := by
  intro s₀ s h
  refine Coro.meets_get_bind.mpr (KeepsMirror.after ?_ fun _ => (KeepsMirror.sendIfClient _ _).bind fun _ =>
    KeepsMirror.when fun _ => ?_)
  · cases hr : s.calls.get? msg.callId with
    | none => exact h
    | some ref => exact Coro.meets_modify_bind.mpr (popCall_mirrors h hr fun _ _ h' _ _ => h')
  · refine KeepsMirror.get_bind fun _ => KeepsMirror.when fun _ =>
      (KeepsMirror.modify fun s h => ?_).bind fun _ => KeepsMirror.sendIndication 1001
    have hdrop : ∃ list : List ℕ, (∀ v ∈ list, v ∈ s.radio.voiceCalls) ∧
        s.radio.dropSipCall msg.callId = { s.radio with voiceCalls := list } := by
      unfold RadioHAL.dropSipCall
      split
      · exact ⟨_, fun v hv => List.mem_of_mem_erase hv, rfl⟩
      · exact ⟨_, fun v hv => hv, rfl⟩
    obtain ⟨list, hsub, hdrop⟩ := hdrop
    have hlist := h.sublist hsub
    unfold Phone.modifyRadio at hlist ⊢
    rw [hdrop]
    exact hlist

theorem KeepsMirror.sendReferNotify (ref : ℕ) (sipfrag subState : String) :
    KeepsMirror op (VoLTECallManager.sendReferNotify ref sipfrag subState) :=
  KeepsMirror.get_bind fun _ => KeepsMirror.when fun _ => KeepsMirror.onTimeout
    (KeepsMirror.get_bind fun _ => KeepsMirror.sendRequest _).ignore (KeepsMirror.pure ())

theorem KeepsMirror.handleIncomingRefer (msg : SIPMessage) (addr : Text × ℕ) :
    KeepsMirror op (VoLTECallManager.handleIncomingRefer msg addr) := by
  refine KeepsMirror.get_bind fun s => ?_
  split
  · exact KeepsMirror.pure ()
  · next ref _ =>
      refine (KeepsMirror.sendIfClient _ _).bind fun _ => KeepsMirror.when fun _ => ?_
      exact (KeepsMirror.sendReferNotify ref _ _).bind fun _ => (KeepsMirror.hangupCall _).ignore.bind fun _ =>
        (KeepsMirror.when fun _ => (KeepsMirror.dial _).ignore).bind fun _ =>
          KeepsMirror.sendReferNotify ref _ _

theorem KeepsMirror.handleIncomingNotify (msg : SIPMessage) (addr : Text × ℕ) :
    KeepsMirror op (VoLTECallManager.handleIncomingNotify msg addr) := by
  refine KeepsMirror.get_bind fun s => (KeepsMirror.sendIfClient _ _).bind fun _ => ?_
  split
  · exact KeepsMirror.pure ()
  · next ref _ =>
      dsimp only
      split_ifs
      · exact KeepsMirror.pure ()
      · exact KeepsMirror.modify fun s h => h.drifts (Drifts.modifyCall s ref
          (f := VoLTECall.clearTransfer) (fun _ => rfl) fun _ => rfl)
      · exact KeepsMirror.when fun _ => (KeepsMirror.hangupCall _).ignore

/-- An incoming call that rings: the call of `callId` entered the table, and the last voice call is
its own. -/
structure Arrived (s : Phone) (callId : Text) (ref : ℕ) : Prop where
  mirrored : Mirrored none s
  entry : s.calls.get? callId = some ref
  ringing : (s.call ref).state = .ringingIn
  quiet : ¬(s.call ref).Playing
  unnamed : ∀ v ∈ s.radio.voiceCalls, (s.radio.voice v).sipCallId ≠ callId

/-- The end of the handler of an INVITE: the index of the last voice call is read back. -/
def readIndex (ref : ℕ) : Async Unit := do
  let s ← get
  match s.radio.voiceCalls.getLast? with
  | some v => VirtualPhone.modifyCall ref (VoLTECall.setRadioCallIndex (s.radio.voice v).index)
  | none => raise .indexError

/-- The radio rings, and the call gets the index of its voice call. -/
theorem bindIncoming_rings {vc : VoiceCall} (h : Arrived s callId ref) (hid : vc.sipCallId = callId)
    (hrings : vc.state.Rings) (hparty : vc.isMpty = false) :
    (do
      modifyRadio (RadioHAL.append vc)
      RadioHAL.sendIndication 1002
      RadioHAL.sendIndication 1001 : Async Unit).Meets op.contract
      (Coro.thenMeets op.contract (fun _ => readIndex ref) fun _ _ s' => Mirrored none s') s₀ s := by
  obtain ⟨s₁, hs₁⟩ : ∃ s₁, s₁ = s.modifyRadio (RadioHAL.append vc) := ⟨_, rfl⟩
  obtain ⟨v, hv⟩ : ∃ v, v = s.radio.voices.length := ⟨_, rfl⟩
  have h₁ : Mirrored (some ref) s₁ := by
    rw [hs₁]
    refine (h.mirrored.loosen (some ref)).append vc fun callId' r hr hne heq => ?_
    rw [hid] at heq
    rw [← heq, h.entry] at hr
    exact hne hr
  have hself : s₁.radio.voice v = { vc with index := s.radio.nextCallIndex } := by
    rw [hs₁, hv]
    exact RadioHAL.voice_append_self s.radio vc
  have hlist : s₁.radio.voiceCalls = s.radio.voiceCalls ++ [v] := by
    rw [hs₁, hv]
    rfl
  have hcall : s₁.call ref = s.call ref := by rw [hs₁]; rfl
  have hentry : s₁.calls.get? callId = some ref := by rw [hs₁]; exact h.entry
  have honly : ∀ w ∈ s₁.radio.voiceCalls, (s₁.radio.voice w).sipCallId = callId → w = v := by
    intro w hw hsip
    rw [hlist] at hw
    rcases List.mem_append.mp hw with hold | hnew
    · rw [show s₁.radio.voice w = s.radio.voice w by
        rw [hs₁]
        exact RadioHAL.voice_append_left (h.mirrored.valid w hold)] at hsip
      exact absurd hsip (h.unnamed w hold)
    · exact List.mem_singleton.mp hnew
  refine Coro.meets_modify_bind.mpr (Coro.meets_bind.mpr ?_)
  rw [← hs₁]
  refine sendIndication_drifts 1002 fun s₂ hd₂ _ => ?_
  refine sendIndication_drifts 1001 fun s₃ hd₃ _ => Coro.meets_get_bind.mpr ?_
  have hd := hd₂.trans hd₃
  have h₃ := h₁.drifts hd
  have hentry₃ : s₃.calls.get? callId = some ref := by rw [hd.calls, hentry]
  rw [show s₃.radio.voiceCalls.getLast? = some v by rw [hd.list, hlist, List.getLast?_concat]]
  have hv₃ : v ∈ s₃.radio.voiceCalls := by
    rw [hd.list, hlist]
    exact List.mem_append_right _ (List.mem_singleton_self v)
  have hvoice : s₃.radio.voice v = s₁.radio.voice v := by
    refine (hd.alerts v).resolve_right ?_
    rintro ⟨callId', r, hr, -, hindex⟩
    rw [hself] at hindex
    rw [hs₁] at hr hindex
    exact absurd hindex (h.mirrored.entry callId' r hr).2.2.ne
  have hquiet : ¬(s₃.call ref).Playing := by
    rw [hd.playing ref, hcall]
    exact h.quiet
  have hclient : s₃.sipClient.isSome ∧ (s₃.call ref).inviteMsg.isSome := by
    obtain ⟨hclient, hmsg⟩ := (h.mirrored.fits callId ref h.entry nofun).ringing h.ringing
    rw [(VoLTECall.holdPart_eq (hd.part ref)).2.2.1, hcall]
    refine ⟨hd.client ?_, hmsg⟩
    rw [hs₁]
    exact hclient
  have hsip : (s₃.radio.voice v).sipCallId = callId := by rw [hvoice, hself, hid]
  show Mirrored none (s₃.modifyCall ref (VoLTECall.setRadioCallIndex (s₃.radio.voice v).index))
  have hself₃ := Phone.call_modifyCall_self hentry₃ (VoLTECall.setRadioCallIndex (s₃.radio.voice v).index)
  refine (h₃.setRadioCallIndex hentry₃ hv₃ hsip).restore fun callId' hr => ?_
  obtain rfl := h₃.callId_eq hentry₃ hr
  rw [hself₃]
  refine ⟨fun _ => hclient, fun hplay => absurd hplay hquiet,
    fun session hm hactive => absurd ⟨session, hm, hactive⟩ hquiet, fun w hw hsip' => ?_⟩
  replace hw : w ∈ s₃.radio.voiceCalls := hw
  replace hsip' : (s₃.radio.voice w).sipCallId = callId := hsip'
  show Agree _ _ (s₃.radio.voice w)
  obtain rfl : w = v := by
    rw [hd.list] at hw
    rw [(hd.toStays.voice_part w).2.1] at hsip'
    exact honly w hw hsip'
  rw [hvoice, hself]
  refine ⟨rfl, fun _ => hrings, fun hmpty => ?_, fun hplay => absurd hplay hquiet⟩
  cases hparty.symm.trans hmpty

theorem readIndex_mirrors (h : Mirrored none s) (haway : Away ref s) :
    (readIndex ref).Meets op.contract (fun _ _ s' => Mirrored none s') s₀ s := by
  refine Coro.meets_get_bind.mpr ?_
  split
  · exact h.modifyAway haway (f := VoLTECall.setRadioCallIndex _) (h.not_playing_away haway)
  · exact h

/-- The radio's part of the handler of an INVITE keeps the invariant. -/
theorem bindIncoming_mirrors (number : Text) (h : Arrived s callId ref) :
    (bindIncoming ref number callId).Meets op.contract (fun _ _ s' => Mirrored none s') s₀ s := by
  refine Coro.meets_bind.mpr (Coro.meets_get_bind.mpr ?_)
  split
  · next fwdNumber _ =>
      refine Coro.meets_get_bind.mpr (when_meets.mpr ⟨fun _ => ?_, fun hno =>
        absurd h.mirrored.callManager hno⟩)
      refine Coro.meets_bind.mpr (ignore_meets.mpr (hangupCall_mirrors h.mirrored fun s₁ s₂ r h₂ haway => ?_))
      obtain ⟨haway₂, hfresh⟩ := haway ref h.entry
      cases r with
      | error e => exact h₂
      | ok _ =>
          have hunnamed : Unnamed s₂ 0 := fun v hv hindex => by
            have hrange := (h₂.range v hv).1
            omega
          refine ignore_meets.mpr (initiateCall_mirrors fwdNumber h₂ hfresh h₂.next hunnamed ?_)
          intro s₃ s₄ r h₄ hgrows _
          cases r with
          | error e => exact h₄
          | ok _ => exact readIndex_mirrors h₄ (haway₂.grows hgrows)
  · refine bindIncoming_rings h rfl ?_ rfl
    dsimp only
    split_ifs
    · exact Or.inr rfl
    · exact Or.inl rfl

theorem handleIncomingInvite_mirrors (msg : SIPMessage) (addr : Text × ℕ) (h : Mirrored none s)
    (hclient : s.sipClient.isSome) (hne : msg.callId ≠ []) (hnew : NewCallId s msg.callId) :
    (handleIncomingInvite msg addr).Meets op.contract (fun _ _ s' => Mirrored none s') s₀ s := by
  refine handleIncomingInvite_meets msg addr h.radioHal
    fun s₁ c hradioHal hradio hheap hid hmedia hcalls hclient₁ hstarted hc => ?_
  have hentered : Mirrored none s₁ := by
    refine h.enter hheap (by rw [hid, hcalls]) hradio (hradioHal.trans h.radioHal.symm) hstarted
      (fun hsome => by rwa [hclient₁]) (by rwa [hid]) (by rwa [hid]) ?_ (fun v hv hindex => ?_) hmedia
      fun _ => ⟨by rwa [hclient₁], hc.2.1⟩
    · rw [hc.2.2]
      exact h.next
    · rw [hc.2.2] at hindex
      exact absurd hindex (h.range v hv).1.ne'
  have hcall : s₁.call s.callHeap.length = c := by rw [Phone.call_append hheap, if_pos rfl]
  refine bindIncoming_mirrors _ ⟨hentered, by rw [hcalls, Dict.get?_set_self], ?_, ?_, fun v hv => ?_⟩
  · rw [hcall]
    exact hc.1
  · rw [hcall]
    exact VoLTECall.not_playing_none hmedia
  · rw [hradio] at hv ⊢
    exact hnew.2 v hv

end

end VirtualPhone
