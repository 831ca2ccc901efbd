import VirtualPhone.ApduHandler

/-! # What a command may change

`processCall` is `process(raw)` with its two `try` blocks, as a program that could raise.
`process_atomic` says that it never does, that a command that is not answered with 9000 gives no
data and changes nothing, and which changes (`Allowed`) go with 9000. -/

namespace VirtualPhone

open Runtime

/-- `is_success`. -/
def ApduResponse.isSuccess (r : ApduResponse) : Bool := r.sw1 = 0x90 ∧ r.sw2 = 0x00

namespace ApduHandler

open ApduResponse

variable (P : Platform)

/-- `process(raw)`: only a `ValueError` of the parser is caught, and anything the handlers raise. -/
def processCall (raw : Bytes) : Py Card ApduResponse := do
  match ← Py.attempt (Py.lift (ApduCommand.fromBytes raw)) with
  | .error (.valueError _) => return swWrongLength
  | .error e => Py.raise e
  | .ok cmd =>
      match ← Py.attempt (dispatch P cmd) with
      | .ok response => return response
      | .error _ => return swInternalError

/-- The changes to the card that go with a command and its answer. -/
inductive Allowed (cmd : ApduCommand) (r : ApduResponse) (card : Card) : Card → Prop
  | nothing (hr : cmd.ins = 0x88 → r.data.head? ≠ some 0xDB) : Allowed cmd r card card
  | select {hi lo : UInt8} {rest : Bytes} (hins : cmd.ins = 0xA4) (hp1 : cmd.p1 = 0x00)
      (hdata : cmd.data = hi :: lo :: rest) :
      Allowed cmd r card
        { card with handler := { card.handler with selectedEf := some ((hi.toNat <<< 8) ||| lo.toNat) } }
  | getResponse (hins : cmd.ins = 0xC0) (hpending : card.handler.pendingResponse = some r.data) :
      Allowed cmd r card { card with handler := { card.handler with pendingResponse := none } }
  | authenticate {iccid : Text} {profile : Isdp} (hins : cmd.ins = 0x88)
      (hr : r.data.head? = some 0xDB) (hactive : card.euicc.activeIccid = some iccid)
      (hprofile : card.euicc.profiles.get? iccid = some profile) :
      Allowed cmd r card
        { card with euicc := { card.euicc with
            profiles := card.euicc.profiles.set iccid { profile with sqn := profile.sqn + 1 } } }

variable {P}

/-- A handler answers with 9000 and makes a change that goes with its answer, or answers with
another status word, or raises, and then gives no data and makes no change. -/
def Atomic (cmd : ApduCommand) (x : Py Card ApduResponse) : Prop :=
  ∀ card, match x.run card with
    | (.ok r, card') =>
        if r.isSuccess then Allowed cmd r card card' else r.data = [] ∧ card' = card
    | (.error _, card') => card' = card

theorem atomic_pure {cmd : ApduCommand} {r : ApduResponse}
    (hr : if r.isSuccess then cmd.ins = 0x88 → r.data.head? ≠ some 0xDB else r.data = []) :
    Atomic cmd (pure r) := by
  intro card
  show if r.isSuccess then Allowed cmd r card card else r.data = [] ∧ card = card
  split_ifs at hr ⊢
  · exact .nothing hr
  · exact ⟨hr, rfl⟩

theorem atomic_handleSelect {cmd : ApduCommand} (hins : cmd.ins = 0xA4) : Atomic cmd (handleSelect cmd) := by
  have hno : cmd.ins ≠ 0x88 := by rw [hins]; decide
  unfold handleSelect
  split_ifs with haid hfile
  · exact atomic_pure fun h => absurd h hno
  · split
    · rename_i hi lo rest hdata
      intro card
      exact .select hins hfile hdata
    · exact atomic_pure rfl
  · exact atomic_pure rfl

theorem atomic_readSelected {cmd : ApduCommand} (hins : cmd.ins ≠ 0x88) {answer : Bytes → ApduResponse}
    (hanswer : ∀ data, (answer data).isSuccess) : Atomic cmd (readSelected answer) := by
  intro card
  rw [readSelected, Py.run_get_bind]
  cases card.handler.selectedEf with
  | none => exact ⟨rfl, rfl⟩
  | some ef =>
      cases card.euicc.getActiveProfile with
      | none => exact ⟨rfl, rfl⟩
      | some profile =>
          cases hef : readEf ef profile with
          | error e => simp only [hef, Py.run_lift_error_bind]
          | ok data =>
              simp only [hef, Py.run_lift_ok_bind]
              cases data with
              | none => exact ⟨rfl, rfl⟩
              | some data =>
                  show if (answer data).isSuccess then _ else _
                  rw [if_pos (hanswer data)]
                  exact .nothing fun h => absurd h hins

theorem atomic_handleGetResponse {cmd : ApduCommand} (hins : cmd.ins = 0xC0) :
    Atomic cmd (handleGetResponse cmd) := by
  intro card
  rw [handleGetResponse, Py.run_get_bind]
  cases hpending : card.handler.pendingResponse with
  | none => exact ⟨rfl, rfl⟩
  | some data => exact .getResponse hins hpending

theorem atomic_handleStatus {cmd : ApduCommand} (hins : cmd.ins ≠ 0x88) : Atomic cmd (handleStatus P cmd) :=
  fun _ => .nothing fun h => absurd h hins

/-! ### AUTHENTICATE -/

/-- Every answer a program returns has the property. -/
def Answers (Q : ApduResponse → Prop) (x : Py Card ApduResponse) : Prop :=
  ∀ card r card', x.run card = (.ok r, card') → Q r

theorem Answers.pure {Q : ApduResponse → Prop} {r : ApduResponse} (h : Q r) : Answers Q (pure r) := by
  rintro card _ _ ⟨⟩
  exact h

theorem Answers.lift_bind {α : Type} {Q : ApduResponse → Prop} {x : Except PyError α}
    {f : α → Py Card ApduResponse} (h : ∀ a, x = .ok a → Answers Q (f a)) : Answers Q (Py.lift x >>= f) := by
  intro card r card' hrun
  cases hx : x with
  | error e =>
      rw [hx, Py.run_lift_error_bind] at hrun
      cases hrun
  | ok a =>
      rw [hx, Py.run_lift_ok_bind] at hrun
      exact h a hx card r card' hrun

theorem head_counted {d e : Bytes} (h : counted d = .ok e) : e.head? = some (UInt8.ofNat d.length) := by
  obtain ⟨len, hlen, h⟩ := bind_eq_ok h
  obtain rfl := Except.ok.inj h
  obtain ⟨-, rfl⟩ := mkByte_eq_ok hlen
  rfl

/-- The 2G branch answers with the length of SRES, which is not DB. -/
theorem answers_authenticate2G (profile : Isdp) (rand : Bytes) :
    Answers (fun r => r.isSuccess ∧ r.data.head? ≠ some 0xDB) (authenticate2G P profile rand) := by
  refine Answers.lift_bind fun mil _ => ?_
  refine Answers.lift_bind fun result hresult => ?_
  refine Answers.lift_bind fun sres hsres => ?_
  refine Answers.lift_bind fun kc _ => Answers.pure ⟨rfl, ?_⟩
  obtain ⟨⟨res, ck, ik, ak⟩, -, hresult⟩ := bind_eq_ok hresult
  obtain rfl := Except.ok.inj hresult
  have hhead := head_counted hsres
  have hlen : (slice res 0 4).length ≤ 4 := by simp [slice]
  show (sres ++ kc).head? ≠ some 0xDB
  rw [List.head?_append, hhead]
  intro heq
  have hbyte : (UInt8.ofNat (slice res 0 4).length).toNat = 0xDB :=
    congrArg UInt8.toNat (Option.some.inj heq)
  rw [toNat_ofNat_of_lt (by omega)] at hbyte
  omega

theorem answers_authenticate3G (profile : Isdp) (rand autn : Bytes) :
    Answers (fun r => r.isSuccess) (authenticate3G P profile rand autn) := by
  refine Answers.lift_bind fun mil _ => Answers.lift_bind fun result _ => ?_
  cases result with
  | none => exact Answers.lift_bind fun auts _ => Answers.lift_bind fun auts _ => Answers.pure rfl
  | some keys =>
      intro card r card' hrun
      rw [Py.run_modify_bind] at hrun
      refine Answers.lift_bind (Q := fun r => r.isSuccess = true) (fun res _ => ?_) _ r card' hrun
      refine Answers.lift_bind fun ck _ => ?_
      exact Answers.lift_bind fun ik _ => Answers.pure rfl

theorem answers_handleAuthenticate (cmd : ApduCommand) :
    Answers (fun r => (r.isSuccess ∨ r.data = []) ∧
      (challenge cmd.data = none → r.data.head? ≠ some 0xDB)) (handleAuthenticate P cmd) := by
  intro card r card' hrun
  rw [handleAuthenticate, Py.run_get_bind] at hrun
  cases hactive : card.euicc.getActiveProfile with
  | none =>
      simp only [hactive] at hrun
      obtain rfl := Except.ok.inj (Prod.mk.inj hrun).1
      exact ⟨Or.inr rfl, fun _ => by decide⟩
  | some profile =>
      simp only [hactive] at hrun
      split_ifs at hrun with hlen
      · obtain rfl := Except.ok.inj (Prod.mk.inj hrun).1
        exact ⟨Or.inr rfl, fun _ => by decide⟩
      · cases hch : challenge cmd.data with
        | none =>
            simp only [hch] at hrun
            obtain ⟨hok, hhead⟩ := answers_authenticate2G profile _ card r card' hrun
            exact ⟨Or.inl hok, fun _ => hhead⟩
        | some v =>
            simp only [hch] at hrun
            exact ⟨Or.inl (answers_authenticate3G profile _ _ card r card' hrun), fun h => by cases h⟩

theorem atomic_handleAuthenticate {cmd : ApduCommand} (hins : cmd.ins = 0x88) :
    Atomic cmd (handleAuthenticate P cmd) := by
  intro card
  rcases handleAuthenticate_spec P cmd card with
    ⟨rand, autn, ch, data, -, hacc, hrun⟩ | ⟨-, hkeep, hdata⟩
  · obtain ⟨profile, -, -, hprofile, -, -, -⟩ := (accepts_eq_some_iff P _ _ _ _).mp hacc
    obtain ⟨iccid, hactive, hget⟩ := Euicc.getActiveProfile_eq_some hprofile
    have hincrement : incrementActive card.euicc = { card.euicc with
        profiles := card.euicc.profiles.set iccid { profile with sqn := profile.sqn + 1 } } := by
      unfold incrementActive
      split
      · rename_i iccid' hactive'
        obtain rfl := Option.some.inj (hactive.symm.trans hactive')
        rw [Dict.modify_eq_set hget]
        rfl
      · rename_i hnone
        rw [hnone] at hactive
        cases hactive
    rw [hrun, hincrement]
    exact .authenticate hins rfl hactive hget
  · have hanswers := answers_handleAuthenticate (P := P) cmd card
    cases hrun : (handleAuthenticate P cmd).run card with
    | mk result card' =>
        rw [hrun] at hkeep hdata
        obtain rfl : card' = card := hkeep
        cases result with
        | error e => rfl
        | ok r =>
            obtain ⟨hok, hhead⟩ := hanswers r card' hrun
            have hno : r.data.head? ≠ some 0xDB := by
              by_cases hch : challenge cmd.data = none
              · exact hhead hch
              · exact hdata r hch rfl
            show if r.isSuccess then _ else _
            split_ifs with hsuccess
            · exact .nothing fun _ => hno
            · exact ⟨hok.resolve_left hsuccess, rfl⟩

theorem atomic_dispatch (cmd : ApduCommand) : Atomic cmd (dispatch P cmd) := by
  unfold dispatch
  split
  · exact atomic_handleSelect (by assumption)
  · exact atomic_readSelected (by simp_all) fun _ => rfl
  · exact atomic_readSelected (by simp_all) fun _ => rfl
  · exact atomic_handleGetResponse (by assumption)
  · exact atomic_handleStatus (by simp_all)
  · exact atomic_handleAuthenticate (by assumption)
  · exact atomic_pure (by simp_all [swOk, isSuccess])
  · exact atomic_pure rfl

theorem fromBytes_error {raw : Bytes} {e : PyError} (h : ApduCommand.fromBytes raw = .error e) :
    ∃ msg, e = .valueError msg := by
  unfold ApduCommand.fromBytes at h
  split at h
  · dsimp only at h
    split at h <;> cases h
  · exact ⟨_, (Except.error.inj h).symm⟩

/-- **A command is answered once, and only an answer of 9000 comes with data or with a change.** -/
theorem process_atomic (P : Platform) (raw : Bytes) (card : Card) :
    ∃ r card', (processCall P raw).run card = (.ok r, card') ∧ (r, card') = process P raw card ∧
      (¬r.isSuccess → r.data = [] ∧ card' = card) ∧
      (r.isSuccess → ∃ cmd, ApduCommand.fromBytes raw = .ok cmd ∧ Allowed cmd r card card') := by
  cases hcmd : ApduCommand.fromBytes raw with
  | error e =>
      obtain ⟨msg, rfl⟩ := fromBytes_error hcmd
      refine ⟨swWrongLength, card, ?_, ?_, fun _ => ⟨rfl, rfl⟩, fun h => by cases h⟩
      · simp only [processCall, Py.run_bind, Py.run_attempt, Py.run_lift, hcmd]
        rfl
      · simp only [process, hcmd]
  | ok cmd =>
      have hatomic := atomic_dispatch (P := P) cmd card
      cases hrun : (dispatch P cmd).run card with
      | mk result card' =>
          rw [hrun] at hatomic
          cases result with
          | error e =>
              have hcall : (processCall P raw).run card = (.ok swInternalError, card') := by
                simp only [processCall, Py.run_bind, Py.run_attempt, Py.run_lift, hcmd, hrun]
                rfl
              refine ⟨_, _, hcall, (process_of_error P hcmd hrun).symm, fun _ => ⟨rfl, hatomic⟩, fun h => ?_⟩
              cases h
          | ok r =>
              have hcall : (processCall P raw).run card = (.ok r, card') := by
                simp only [processCall, Py.run_bind, Py.run_attempt, Py.run_lift, hcmd, hrun]
                rfl
              dsimp only at hatomic
              refine ⟨_, _, hcall, (process_of_ok P hcmd hrun).symm, fun h => ?_, fun h => ⟨cmd, rfl, ?_⟩⟩
              · rwa [if_neg h] at hatomic
              · rwa [if_pos h] at hatomic

end ApduHandler

end VirtualPhone
