import VirtualPhone.VolteManager
import Mathlib.Data.List.TakeWhile

/-! # USSD codes for call forwarding

`USSDHandler` of `ims/supplementary.py` on the rule table it shares with the radio.  `send_ussd`
strips the string and tries, in this order, the IMEI code, the four patterns for call forwarding
(query, set, deactivate, erase), and two answers that touch nothing.

`CfCode` says which strings are codes and which action of `set_call_forward` each stands for, and
`ussd_agrees` that the handler changes the table exactly as this action does. -/

namespace VirtualPhone

open Runtime

open Coro (get modify)

/-! ### Rules and replies -/

/-- `CallForwardReason.name`. -/
def CallForwardReason.name : CallForwardReason → Text
  | unconditional => "UNCONDITIONAL".toList
  | busy => "BUSY".toList
  | noReply => "NO_REPLY".toList
  | notReachable => "NOT_REACHABLE".toList
  | all => "ALL".toList
  | allConditional => "ALL_CONDITIONAL".toList

/-- `query_rule(reason)`. -/
def CallForwardingManager.queryRule (m : CallForwardingManager) :
    CallForwardReason → List CallForwardRule
  | .all => m.rules.values
  | .allConditional =>
      m.rules.values.filter fun rule =>
        rule.reason = .busy ∨ rule.reason = .noReply ∨ rule.reason = .notReachable
  | reason => (m.rules.get? reason).toList

/-- The dictionary `send_ussd` returns. -/
structure UssdReply where
  type : ℤ
  message : Text
deriving DecidableEq

namespace USSDHandler

/-! ### The patterns -/

/-- `\d`. -/
def isDecimal (c : Char) : Bool := (decimalValue c).isSome

/-- `$`: the end, or the end but for a newline. -/
def atEnd (s : Text) : Bool := s = [] || s = ['\n']

/-- `(\d{2})`, and what follows. -/
def twoDigits : Text → Option (Text × Text)
  | a :: b :: rest => if isDecimal a ∧ isDecimal b then some ([a, b], rest) else none
  | _ => none

/-- `[+\d]`. -/
def isDialChar (c : Char) : Bool := c = '+' || isDecimal c

/-- `(\d{2})#$`. -/
def codeAndHash (s : Text) : Option Text :=
  match twoDigits s with
  | some (code, '#' :: rest) => if atEnd rest then some code else none
  | _ => none

/-- `(\d{2})\*([+\d]+)#$`. -/
def codeAndNumber (s : Text) : Option (Text × Text) :=
  match twoDigits s with
  | some (code, '*' :: rest) =>
      match rest.dropWhile isDialChar with
      | '#' :: rest' =>
          let number := rest.takeWhile isDialChar
          if number ≠ [] ∧ atEnd rest' then some (code, number) else none
      | _ => none
  | _ => none

/-- `^\*#(\d{2})#$`. -/
def matchQuery : Text → Option Text
  | '*' :: '#' :: rest => codeAndHash rest
  | _ => none

/-- `^\*\*?(\d{2})\*([+\d]+)#$`: with the second star, or else without it. -/
def matchSet : Text → Option (Text × Text)
  | '*' :: '*' :: rest => (codeAndNumber rest).or (codeAndNumber ('*' :: rest))
  | '*' :: rest => codeAndNumber rest
  | _ => none

/-- `^#(\d{2})#$`. -/
def matchDeactivate : Text → Option Text
  | '#' :: rest => codeAndHash rest
  | _ => none

/-- `^##(\d{2})#$`. -/
def matchErase : Text → Option Text
  | '#' :: '#' :: rest => codeAndHash rest
  | _ => none

/-- `cf_codes`. -/
def cfCodes (code : Text) : Option CallForwardReason :=
  if code = "21".toList then some .unconditional
  else if code = "61".toList then some .noReply
  else if code = "62".toList then some .notReachable
  else if code = "67".toList then some .busy
  else none

/-! ### The handler -/

/-- The reply to a query. -/
def queryReply (cf : CallForwardingManager) (reason : CallForwardReason) : UssdReply :=
  match cf.queryRule reason with
  | rule :: _ =>
      if rule.enabled then
        ⟨0, "Call Forwarding ".toList ++ reason.name ++ ": Active\nNumber: ".toList ++ rule.number⟩
      else ⟨0, "Call Forwarding ".toList ++ reason.name ++ ": Not active".toList⟩
  | [] => ⟨0, "Call Forwarding ".toList ++ reason.name ++ ": Not active".toList⟩

/-- `_handle_cf_code(code)`: the reply and the table, or `None`. -/
def handleCfCode (cf : CallForwardingManager) (code : Text) :
    Option (UssdReply × CallForwardingManager) :=
  match (matchQuery code).bind cfCodes with
  | some reason => some (queryReply cf reason, cf)
  | none =>
  match (matchSet code).bind fun m => (cfCodes m.1).map (·, m.2) with
  | some (reason, number) =>
      some (⟨0, "Call Forwarding ".toList ++ reason.name ++ ": Registered\nNumber: ".toList ++ number⟩,
        cf.setRule reason number 20)
  | none =>
  match (matchDeactivate code).bind cfCodes with
  | some reason =>
      some (⟨0, "Call Forwarding ".toList ++ reason.name ++ ": Deactivated".toList⟩,
        cf.disableRule reason)
  | none =>
  match (matchErase code).bind cfCodes with
  | some reason =>
      some (⟨0, "Call Forwarding ".toList ++ reason.name ++ ": Erased".toList⟩, cf.eraseRule reason)
  | none => none

/-- `send_ussd(code)` of a handler with this IMEI. -/
def sendUssd (imei : Text) (cf : CallForwardingManager) (ussd : Text) :
    UssdReply × CallForwardingManager :=
  let code := strip ussd
  if code = "*#06#".toList ∨ code = "*#06*#".toList then (⟨0, "IMEI: ".toList ++ imei⟩, cf)
  else
    match handleCfCode cf code with
    | some result => result
    | none =>
        if code = "*#*#4636#*#*".toList then
          (⟨0, "Virtual Phone Info\nNetwork: LTE\nSIM: Active".toList⟩, cf)
        else if ['*'] <+: code ∧ ['#'] <:+ code ∧ code.length ≤ 6 then
          (⟨0, "Balance: $50.00\nValid until: 2025-12-31".toList⟩, cf)
        else (⟨2, "USSD code not recognized".toList⟩, cf)

end USSDHandler

/-- `RadioHAL.send_ussd(ussd_string)`, with a handler that shares the rule table. -/
def RadioHAL.sendUssd (imei ussd : Text) : Async Result := do
  let s ← get
  match s.radio.cfManager with
  | none => return Result.failure "USSD not available"
  | some cf =>
      modifyRadio fun r => { r with cfManager := some (USSDHandler.sendUssd imei cf ussd).2 }
      RadioHAL.sendIndication 1028
      return { success := true }

/-! ### Which strings are codes -/

/-- A code: two digits that stand for a reason. -/
inductive ServiceCode : Text → CallForwardReason → Prop
  | unconditional : ServiceCode "21".toList .unconditional
  | noReply : ServiceCode "61".toList .noReply
  | notReachable : ServiceCode "62".toList .notReachable
  | busy : ServiceCode "67".toList .busy

/-- A non-empty string of digits and `+`. -/
def DialString (number : Text) : Prop :=
  number ≠ [] ∧ ∀ c ∈ number, c = '+' ∨ ∃ d, decimalValue c = some d

/-- **The codes.**  A stripped string, the action of `set_call_forward` it stands for, the reason and
the number; the actions that take no number are given any. -/
inductive CfCode : Text → ℤ → CallForwardReason → Text → Prop
  | register {sc : Text} {reason : CallForwardReason} {number : Text} (hsc : ServiceCode sc reason)
      (hnumber : DialString number) :
      CfCode ('*' :: sc ++ '*' :: number ++ ['#']) 3 reason number
  | registerAgain {sc : Text} {reason : CallForwardReason} {number : Text} (hsc : ServiceCode sc reason)
      (hnumber : DialString number) :
      CfCode ('*' :: '*' :: sc ++ '*' :: number ++ ['#']) 3 reason number
  | deactivate {sc : Text} {reason : CallForwardReason} {number : Text} (hsc : ServiceCode sc reason) :
      CfCode ('#' :: sc ++ ['#']) 0 reason number
  | erase {sc : Text} {reason : CallForwardReason} {number : Text} (hsc : ServiceCode sc reason) :
      CfCode ('#' :: '#' :: sc ++ ['#']) 4 reason number

/-! ### The patterns match the codes -/

theorem ServiceCode.cfCodes {sc : Text} {reason : CallForwardReason} (h : ServiceCode sc reason) :
    USSDHandler.cfCodes sc = some reason := by
  cases h <;> decide

theorem ServiceCode.of_cfCodes {sc : Text} {reason : CallForwardReason}
    (h : USSDHandler.cfCodes sc = some reason) : ServiceCode sc reason := by
  unfold USSDHandler.cfCodes at h
  split_ifs at h with h₁ h₂ h₃ h₄
  · obtain rfl := Option.some.inj h
    exact h₁ ▸ .unconditional
  · obtain rfl := Option.some.inj h
    exact h₂ ▸ .noReply
  · obtain rfl := Option.some.inj h
    exact h₃ ▸ .notReachable
  · obtain rfl := Option.some.inj h
    exact h₄ ▸ .busy

theorem strip_ne_newline (s t : Text) : strip s ≠ t ++ ['\n'] := by
  intro h
  have hrev : (lstrip s).reverse.dropWhile isSpace = '\n' :: t.reverse := by
    have := congrArg List.reverse h
    simpa [strip] using this
  have hhead := List.head?_dropWhile_not isSpace (lstrip s).reverse
  rw [hrev] at hhead
  have hspace : isSpace '\n' = false := hhead
  exact absurd hspace (by decide)

namespace USSDHandler

theorem isDialChar_iff (c : Char) : isDialChar c = true ↔ c = '+' ∨ ∃ d, decimalValue c = some d := by
  simp [isDialChar, isDecimal, Option.isSome_iff_exists]

theorem twoDigits_eq {s code rest : Text} (h : twoDigits s = some (code, rest)) : s = code ++ rest := by
  unfold twoDigits at h
  split at h
  · split_ifs at h
    obtain ⟨rfl, rfl⟩ := Prod.mk.inj (Option.some.inj h)
    rfl
  · cases h

/-- Without a newline at the end, `(\d{2})#$` matches two digits and a hash. -/
theorem codeAndHash_eq {s code : Text} (hs : ∀ t, s ≠ t ++ ['\n']) (h : codeAndHash s = some code) :
    s = code ++ ['#'] := by
  unfold codeAndHash at h
  split at h
  · next code' rest htwo =>
    split_ifs at h with hend
    obtain rfl := Option.some.inj h
    have heq := twoDigits_eq htwo
    rcases (by simpa [atEnd] using hend : rest = [] ∨ rest = ['\n']) with rfl | rfl
    · exact heq
    · exact absurd heq (hs (code' ++ ['#']) ∘ fun h => by simpa using h)
  · cases h

theorem codeAndNumber_eq {s code number : Text} (hs : ∀ t, s ≠ t ++ ['\n'])
    (h : codeAndNumber s = some (code, number)) :
    s = code ++ '*' :: number ++ ['#'] ∧ DialString number := by
  unfold codeAndNumber at h
  split at h
  · next code' rest htwo =>
    split at h
    · next rest' hdrop =>
      dsimp only at h
      split_ifs at h with hnumber
      obtain ⟨rfl, rfl⟩ := Prod.mk.inj (Option.some.inj h)
      have hrest : rest = rest.takeWhile isDialChar ++ '#' :: rest' := by
        rw [← hdrop, List.takeWhile_append_dropWhile]
      have heq : s = code' ++ '*' :: rest.takeWhile isDialChar ++ ['#'] ++ rest' := by
        rw [twoDigits_eq htwo]
        conv_lhs => rw [hrest]
        simp
      refine ⟨?_, hnumber.1, fun c hc => (isDialChar_iff c).mp (List.mem_takeWhile_imp hc)⟩
      rcases (by simpa [atEnd] using hnumber.2 : rest' = [] ∨ rest' = ['\n']) with rfl | rfl
      · simpa using heq
      · exact absurd heq (hs _)
    · cases h
  · cases h

theorem codeAndNumber_append {a b : Char} (ha : isDecimal a = true) (hb : isDecimal b = true)
    {number : Text} (hnumber : DialString number) :
    codeAndNumber (a :: b :: '*' :: number ++ ['#']) = some ([a, b], number) := by
  have hdial : ∀ c ∈ number, isDialChar c = true := fun c hc => (isDialChar_iff c).mpr (hnumber.2 c hc)
  have htake : (number ++ ['#']).takeWhile isDialChar = number := by
    rw [List.takeWhile_append_of_pos hdial]
    simp [show isDialChar '#' = false by decide]
  have hdrop : (number ++ ['#']).dropWhile isDialChar = ['#'] := by
    rw [List.dropWhile_append_of_pos hdial]
    simp [show isDialChar '#' = false by decide]
  simp [codeAndNumber, twoDigits, ha, hb, htake, hdrop, hnumber.1, atEnd]

theorem matchSet_eq {s code number : Text} (hs : ∀ t, s ≠ t ++ ['\n'])
    (h : matchSet s = some (code, number)) :
    (s = '*' :: code ++ '*' :: number ++ ['#'] ∨ s = '*' :: '*' :: code ++ '*' :: number ++ ['#']) ∧
      DialString number := by
  unfold matchSet at h
  split at h
  · next rest =>
    have htwo : codeAndNumber ('*' :: rest) = none := by
      unfold codeAndNumber
      cases rest with
      | nil => rfl
      | cons b rest => simp [twoDigits, show isDecimal '*' = false by decide]
    rw [htwo, Option.or_none] at h
    obtain ⟨heq, hnumber⟩ := codeAndNumber_eq (fun t ht => hs ('*' :: '*' :: t) (by rw [ht]; rfl)) h
    exact ⟨Or.inr (by rw [heq]; rfl), hnumber⟩
  · next rest hrest =>
    obtain ⟨heq, hnumber⟩ := codeAndNumber_eq (fun t ht => hs ('*' :: t) (by rw [ht]; rfl)) h
    exact ⟨Or.inl (by rw [heq]; rfl), hnumber⟩
  · cases h

theorem matchDeactivate_eq {s code : Text} (hs : ∀ t, s ≠ t ++ ['\n'])
    (h : matchDeactivate s = some code) : s = '#' :: code ++ ['#'] := by
  unfold matchDeactivate at h
  split at h
  · next rest =>
    have heq := codeAndHash_eq (fun t ht => hs ('#' :: t) (by rw [ht]; rfl)) h
    rw [heq]
    rfl
  · cases h

theorem matchErase_eq {s code : Text} (hs : ∀ t, s ≠ t ++ ['\n']) (h : matchErase s = some code) :
    s = '#' :: '#' :: code ++ ['#'] := by
  unfold matchErase at h
  split at h
  · next rest =>
    have heq := codeAndHash_eq (fun t ht => hs ('#' :: '#' :: t) (by rw [ht]; rfl)) h
    rw [heq]
    rfl
  · cases h

/-! ### What a string does to the table -/

end USSDHandler

/-- What `set_call_forward(action, reason, number, 20)` makes of the table. -/
def CallForwardingManager.act (cf : CallForwardingManager) (action : ℤ) (reason : CallForwardReason)
    (number : Text) : CallForwardingManager :=
  if action = 0 then cf.disableRule reason
  else if action = 1 then cf.enableRule reason
  else if action = 3 then cf.setRule reason number 20
  else if action = 4 then cf.eraseRule reason
  else cf

namespace USSDHandler

theorem handleCfCode_of_code (cf : CallForwardingManager) {code number : Text} {action : ℤ}
    {reason : CallForwardReason} (h : CfCode code action reason number) :
    (handleCfCode cf code).map Prod.snd = some (cf.act action reason number) := by
  have hreg {sc : Text} (hsc : ServiceCode sc reason) (hnumber : DialString number) :
      codeAndNumber (sc ++ '*' :: number ++ ['#']) = some (sc, number) := by
    cases hsc <;> exact codeAndNumber_append (by decide) (by decide) hnumber
  cases h with
  | @register sc _ _ hsc hnumber =>
      have hquery : matchQuery ('*' :: sc ++ '*' :: number ++ ['#']) = none := by cases hsc <;> rfl
      have hset : matchSet ('*' :: sc ++ '*' :: number ++ ['#']) = some (sc, number) := by
        rw [← hreg hsc hnumber]
        cases hsc <;> rfl
      simp only [handleCfCode, hquery, hset, Option.bind_none, Option.bind_some, hsc.cfCodes, Option.map_some]
      rfl
  | @registerAgain sc _ _ hsc hnumber =>
      have hquery : matchQuery ('*' :: '*' :: sc ++ '*' :: number ++ ['#']) = none := rfl
      have hset : matchSet ('*' :: '*' :: sc ++ '*' :: number ++ ['#']) = some (sc, number) := by
        show (codeAndNumber (sc ++ '*' :: number ++ ['#'])).or _ = _
        rw [hreg hsc hnumber]
        rfl
      simp only [handleCfCode, hquery, hset, Option.bind_none, Option.bind_some, hsc.cfCodes, Option.map_some]
      rfl
  | @deactivate sc _ _ hsc =>
      have hquery : matchQuery ('#' :: sc ++ ['#']) = none := rfl
      have hset : matchSet ('#' :: sc ++ ['#']) = none := rfl
      have hoff : matchDeactivate ('#' :: sc ++ ['#']) = some sc := by cases hsc <;> decide
      simp only [handleCfCode, hquery, hset, hoff, Option.bind_none, Option.bind_some, hsc.cfCodes,
        Option.map_some]
      rfl
  | @erase sc _ _ hsc =>
      have hquery : matchQuery ('#' :: '#' :: sc ++ ['#']) = none := rfl
      have hset : matchSet ('#' :: '#' :: sc ++ ['#']) = none := rfl
      have hoff : matchDeactivate ('#' :: '#' :: sc ++ ['#']) = none := by cases hsc <;> decide
      have herase : matchErase ('#' :: '#' :: sc ++ ['#']) = some sc := by cases hsc <;> decide
      simp only [handleCfCode, hquery, hset, hoff, herase, Option.bind_none, Option.bind_some,
        hsc.cfCodes, Option.map_some]
      rfl

theorem handleCfCode_of_no_code (cf : CallForwardingManager) {code : Text}
    (hs : ∀ t, code ≠ t ++ ['\n'])
    (h : ∀ action reason number, ¬CfCode code action reason number) :
    ∀ result ∈ handleCfCode cf code, result.2 = cf := by
  intro result hresult
  unfold handleCfCode at hresult
  split at hresult
  · obtain rfl := Option.some.inj hresult
    rfl
  split at hresult
  · next reason number hset =>
    obtain ⟨⟨code', number'⟩, hmatch, hcode⟩ := Option.bind_eq_some_iff.mp hset
    obtain ⟨reason', hreason, heq⟩ := Option.map_eq_some_iff.mp hcode
    obtain ⟨rfl, rfl⟩ := Prod.mk.inj heq
    obtain ⟨rfl | rfl, hnumber⟩ := matchSet_eq hs hmatch
    · exact absurd (.register (.of_cfCodes hreason) hnumber) (h 3 reason' number')
    · exact absurd (.registerAgain (.of_cfCodes hreason) hnumber) (h 3 reason' number')
  split at hresult
  · next reason hoff =>
    obtain ⟨code', hmatch, hreason⟩ := Option.bind_eq_some_iff.mp hoff
    obtain rfl := matchDeactivate_eq hs hmatch
    exact absurd (.deactivate (.of_cfCodes hreason)) (h 0 reason [])
  split at hresult
  · next reason herase =>
    obtain ⟨code', hmatch, hreason⟩ := Option.bind_eq_some_iff.mp herase
    obtain rfl := matchErase_eq hs hmatch
    exact absurd (.erase (.of_cfCodes hreason)) (h 4 reason [])
  · cases hresult

theorem sendUssd_of_code (imei : Text) (cf : CallForwardingManager) {ussd number : Text} {action : ℤ}
    {reason : CallForwardReason} (h : CfCode (strip ussd) action reason number) :
    (sendUssd imei cf ussd).2 = cf.act action reason number := by
  have hsome : ((handleCfCode {} (strip ussd)).map Prod.snd).isSome = true := by
    rw [handleCfCode_of_code {} h]
    rfl
  have himei : ¬(strip ussd = "*#06#".toList ∨ strip ussd = "*#06*#".toList) := by
    rintro (heq | heq)
    · rw [heq] at hsome
      exact absurd hsome (by decide)
    · rw [heq] at hsome
      exact absurd hsome (by decide)
  obtain ⟨result, hhandle, hact⟩ := Option.map_eq_some_iff.mp (handleCfCode_of_code cf h)
  unfold sendUssd
  dsimp only
  rw [if_neg himei, hhandle]
  exact hact

theorem sendUssd_of_no_code (imei : Text) (cf : CallForwardingManager) {ussd : Text}
    (h : ∀ action reason number, ¬CfCode (strip ussd) action reason number) :
    (sendUssd imei cf ussd).2 = cf := by
  unfold sendUssd
  dsimp only
  split
  · rfl
  split
  · next result hresult => exact handleCfCode_of_no_code cf (strip_ne_newline ussd) h _ hresult
  · split_ifs <;> rfl

end USSDHandler

/-! ### The radio -/

namespace RadioHAL

theorem sendUssd_cfManager (imei ussd : Text) (s : Phone) :
    ((sendUssd imei ussd).alone s).2.radio.cfManager =
      s.radio.cfManager.map fun cf => (USSDHandler.sendUssd imei cf ussd).2 := by
  show ((match s.radio.cfManager with | none => _ | some cf => _ : Async Result).alone s).2.radio.cfManager = _
  cases hcf : s.radio.cfManager with
  | none => exact hcf
  | some cf => rfl

theorem setCallForward_cfManager (action : ℤ) (reason : CallForwardReason) (number : Text) (s : Phone) :
    ((setCallForward action reason number 20).alone s).2.radio.cfManager =
      s.radio.cfManager.map fun cf => cf.act action reason number := by
  show ((match s.radio.cfManager with | none => _ | some cf => _ : Async Result).alone s).2.radio.cfManager = _
  cases hcf : s.radio.cfManager with
  | none => exact hcf
  | some cf =>
      dsimp only [Option.map_some]
      unfold CallForwardingManager.act
      split_ifs
      · rfl
      · rfl
      · rfl
      · rfl
      · exact hcf

/-- The phone after a sequence of USSD strings. -/
def sendAll (imei : Text) (s : Phone) (codes : List Text) : Phone :=
  codes.foldl (fun s ussd => ((sendUssd imei ussd).alone s).2) s

/-- **USSD and RIL call forwarding agree.**  After any sequence of USSD strings, on any table, the next
string changes the table exactly as the action it stands for, and leaves it alone when it is no
code. -/
theorem ussd_agrees (imei : Text) (s : Phone) (codes : List Text) (ussd : Text) :
    (∀ (action : ℤ) (reason : CallForwardReason) (number : Text),
        CfCode (strip ussd) action reason number →
          (sendAll imei s (codes ++ [ussd])).radio.cfManager =
            ((setCallForward action reason number 20).alone (sendAll imei s codes)).2.radio.cfManager) ∧
      ((∀ (action : ℤ) (reason : CallForwardReason) (number : Text),
          ¬CfCode (strip ussd) action reason number) →
        (sendAll imei s (codes ++ [ussd])).radio.cfManager = (sendAll imei s codes).radio.cfManager) := by
  have hlast : (sendAll imei s (codes ++ [ussd])).radio.cfManager =
      (sendAll imei s codes).radio.cfManager.map fun cf => (USSDHandler.sendUssd imei cf ussd).2 := by
    rw [← sendUssd_cfManager, sendAll, List.foldl_append]
    rfl
  rw [hlast]
  constructor
  · intro action reason number hcode
    rw [setCallForward_cfManager]
    cases (sendAll imei s codes).radio.cfManager with
    | none => rfl
    | some cf => exact congrArg some (USSDHandler.sendUssd_of_code imei cf hcode)
  · intro hcode
    cases (sendAll imei s codes).radio.cfManager with
    | none => rfl
    | some cf => exact congrArg some (USSDHandler.sendUssd_of_no_code imei cf hcode)

end RadioHAL

end VirtualPhone
