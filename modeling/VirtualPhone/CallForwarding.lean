import VirtualPhone.Ussd

/-! # Composite forwarding reasons (`ims/supplementary.py`)

`CallForwardReason` has four reasons a call is forwarded for and two that stand for several of them.
`erase_rule` and `query_rule` take a composite reason apart; `set_rule`, `enable_rule` and
`disable_rule` treat it as one more key of the table.

`composite_iff` compares an operation on a composite reason with the same operation on each of its
parts, by what `should_forward` and `query_rule` say afterwards: outside of `erase_rule` the two agree
only where neither changes anything.  Over a sequence of operations, `after_expanded` follows. -/

namespace VirtualPhone

open Runtime

/-! ### Operations and reasons -/

/-- The operations on the rule table. -/
inductive CfOperation
  | set (number : Text) (timeSeconds : ℤ)
  | enable
  | disable
  | erase

namespace CfOperation

/-- The operation with a reason. -/
def apply (op : CfOperation) (m : CallForwardingManager) (reason : CallForwardReason) :
    CallForwardingManager :=
  match op with
  | set number timeSeconds => m.setRule reason number timeSeconds
  | enable => m.enableRule reason
  | disable => m.disableRule reason
  | erase => m.eraseRule reason

end CfOperation

/-- The reasons a rule is for: the composite ones stand for several. -/
def CallForwardReason.parts : CallForwardReason → List CallForwardReason
  | .all => [.unconditional, .busy, .noReply, .notReachable]
  | .allConditional => [.busy, .noReply, .notReachable]
  | reason => [reason]

/-- The composite reasons. -/
inductive Composite
  | all
  | allConditional

/-- The composite reason. -/
def Composite.reason : Composite → CallForwardReason
  | all => .all
  | allConditional => .allConditional

/-- Two tables that nobody can tell apart. -/
def SameRules (m m' : CallForwardingManager) : Prop :=
  ∀ reason, m.shouldForward reason = m'.shouldForward reason ∧ m.queryRule reason = m'.queryRule reason

namespace CfOperation

/-- The rule under `reason` is already as the operation would leave it. -/
def Idle (op : CfOperation) (m : CallForwardingManager) (reason : CallForwardReason) : Prop :=
  match op with
  | set number timeSeconds => m.rules.get? reason =
      some { reason := reason, enabled := true, number := number, timeSeconds := timeSeconds }
  | enable => ∀ rule, m.rules.get? reason = some rule → rule.enabled = true
  | disable => ∀ rule, m.rules.get? reason = some rule → rule.enabled = false
  | erase => m.rules.get? reason = none

/-- The tables on which the operation with a composite reason does what it does with the parts. -/
def Composes (op : CfOperation) (m : CallForwardingManager) (c : Composite) : Prop :=
  match op, c with
  | erase, .all => m.rules.get? .all = none ∧ m.rules.get? .allConditional = none
  | erase, .allConditional => True
  | op, c => ∀ reason ∈ c.reason :: c.reason.parts, op.Idle m reason

/-! ### The effect on one reason -/

/-- What becomes of the rule under `reason`. -/
def effect (op : CfOperation) (reason : CallForwardReason) (stored : Option CallForwardRule) :
    Option CallForwardRule :=
  match op with
  | set number timeSeconds =>
      some { reason := reason, enabled := true, number := number, timeSeconds := timeSeconds }
  | enable => stored.map fun rule => { rule with enabled := true }
  | disable => stored.map fun rule => { rule with enabled := false }
  | erase => none

theorem effect_effect (op : CfOperation) (reason : CallForwardReason) (stored : Option CallForwardRule) :
    op.effect reason (op.effect reason stored) = op.effect reason stored := by
  cases op with
  | set number timeSeconds => rfl
  | enable => cases stored <;> rfl
  | disable => cases stored <;> rfl
  | erase => rfl

theorem map_switch_iff (enabled : Bool) (stored : Option CallForwardRule) :
    (stored.map fun rule => { rule with enabled := enabled }) = stored ↔
      ∀ rule, stored = some rule → rule.enabled = enabled := by
  cases stored with
  | none => simp
  | some rule =>
      constructor
      · rintro h _ ⟨⟩
        have henabled := congrArg CallForwardRule.enabled (Option.some.inj h)
        exact henabled.symm
      · intro h
        rw [Option.map_some, ← h rule rfl]

theorem idle_iff (op : CfOperation) (m : CallForwardingManager) (reason : CallForwardReason) :
    op.Idle m reason ↔ op.effect reason (m.rules.get? reason) = m.rules.get? reason := by
  cases op with
  | set number timeSeconds => exact eq_comm
  | enable => exact (map_switch_iff true _).symm
  | disable => exact (map_switch_iff false _).symm
  | erase => exact eq_comm

/-- The operation acts on the one key `reason`. -/
def Direct (op : CfOperation) (reason : CallForwardReason) : Prop :=
  match op with
  | erase => reason ≠ .all ∧ reason ≠ .allConditional
  | _ => True

theorem apply_get? {op : CfOperation} {reason : CallForwardReason} (h : op.Direct reason)
    (m : CallForwardingManager) (r : CallForwardReason) :
    (op.apply m reason).rules.get? r =
      if r = reason then op.effect reason (m.rules.get? r) else m.rules.get? r := by
  cases op with
  | set number timeSeconds => exact Dict.get?_set _ _ _ _
  | enable => exact Dict.get?_modify _ _ _ _
  | disable => exact Dict.get?_modify _ _ _ _
  | erase =>
      have herase : m.eraseRule reason = { rules := m.rules.erase reason } := by
        cases reason with
        | all => exact absurd rfl h.1
        | allConditional => exact absurd rfl h.2
        | unconditional => rfl
        | busy => rfl
        | noReply => rfl
        | notReachable => rfl
      change (m.eraseRule reason).rules.get? r = _
      rw [herase]
      exact Dict.get?_erase _ _ _

theorem foldl_apply_get? {op : CfOperation} {reasons : List CallForwardReason}
    (h : ∀ reason ∈ reasons, op.Direct reason) (m : CallForwardingManager) (r : CallForwardReason) :
    (reasons.foldl op.apply m).rules.get? r =
      if r ∈ reasons then op.effect r (m.rules.get? r) else m.rules.get? r := by
  induction reasons generalizing m with
  | nil => rfl
  | cons reason reasons ih =>
      rw [List.foldl_cons, ih fun x hx => h x (List.mem_cons_of_mem reason hx),
        apply_get? (h reason List.mem_cons_self)]
      by_cases hr : r = reason
      · subst hr
        rw [if_pos rfl, if_pos List.mem_cons_self, effect_effect, ite_self]
      · rw [if_neg hr]
        simp [hr]

theorem direct_of_ne_erase {op : CfOperation} (hop : op ≠ erase) (reason : CallForwardReason) :
    op.Direct reason := by
  cases op with
  | erase => exact absurd rfl hop
  | _ => trivial

theorem direct_of_mem_parts (op : CfOperation) {c : Composite} {reason : CallForwardReason}
    (h : reason ∈ c.reason.parts) : op.Direct reason := by
  have hsimple : reason ≠ .all ∧ reason ≠ .allConditional := by
    constructor <;> rintro rfl <;> cases c <;> exact absurd h (by decide)
  cases op with
  | erase => exact hsimple
  | _ => trivial

/-- The keys of the table, where no rule is erased: a new one may come at the end. -/
theorem apply_keys {op : CfOperation} (hop : op ≠ erase) (m : CallForwardingManager)
    (reason : CallForwardReason) :
    (op.apply m reason).rules.keys = m.rules.keys ∨
      reason ∉ m.rules.keys ∧ (op.apply m reason).rules.keys = m.rules.keys ++ [reason] := by
  cases op with
  | set number timeSeconds =>
      by_cases hmem : reason ∈ m.rules.keys
      · exact Or.inl ((Dict.keys_set _ _ _).trans (if_pos hmem))
      · exact Or.inr ⟨hmem, (Dict.keys_set _ _ _).trans (if_neg hmem)⟩
  | enable => exact Or.inl (Dict.keys_modify _ _ _)
  | disable => exact Or.inl (Dict.keys_modify _ _ _)
  | erase => exact absurd rfl hop

/-- An operation that would change nothing under its reason changes nothing. -/
theorem Idle.apply_eq {op : CfOperation} (hop : op ≠ erase) {m : CallForwardingManager}
    {reason : CallForwardReason} (h : op.Idle m reason) : op.apply m reason = m := by
  have hget : ∀ r, (op.apply m reason).rules.get? r = m.rules.get? r := by
    intro r
    rw [apply_get? (direct_of_ne_erase hop reason)]
    split_ifs with hr
    · rw [hr, (idle_iff op m reason).mp h]
    · rfl
  have hkeys : (op.apply m reason).rules.keys = m.rules.keys := by
    rcases apply_keys hop m reason with hkeys | ⟨hnew, hkeys⟩
    · exact hkeys
    · have hmem : reason ∈ (op.apply m reason).rules.keys := by
        rw [hkeys]
        simp
      obtain ⟨rule, hrule⟩ := (Dict.mem_keys_iff _ _).mp hmem
      rw [hget, (Dict.get?_eq_none_iff _ _).mpr hnew] at hrule
      cases hrule
  have hrules := Dict.ext_get? hkeys fun r _ => hget r
  cases m
  exact congrArg CallForwardingManager.mk hrules

theorem foldl_apply_idle {op : CfOperation} (hop : op ≠ erase) {m : CallForwardingManager}
    {reasons : List CallForwardReason} (h : ∀ reason ∈ reasons, op.Idle m reason) :
    reasons.foldl op.apply m = m := by
  induction reasons with
  | nil => rfl
  | cons reason reasons ih =>
      rw [List.foldl_cons, (h reason List.mem_cons_self).apply_eq hop]
      exact ih fun r hr => h r (List.mem_cons_of_mem reason hr)

/-! ### Composite reasons -/

theorem queryRule_of_mem_parts {c : Composite} {reason : CallForwardReason}
    (h : reason ∈ c.reason.parts) (m : CallForwardingManager) :
    m.queryRule reason = (m.rules.get? reason).toList := by
  cases reason with
  | all => cases c <;> exact absurd h (by decide)
  | allConditional => cases c <;> exact absurd h (by decide)
  | _ => rfl

theorem toList_inj {a b : Option CallForwardRule} (h : a.toList = b.toList) : a = b := by
  cases a <;> cases b <;> simp_all

theorem reason_not_mem_parts (c : Composite) : c.reason ∉ c.reason.parts := by
  cases c <;> decide

/-- Where the two agree, the operation would change nothing, unless it erases. -/
theorem idle_of_sameRules {op : CfOperation} (hop : op ≠ erase) {m : CallForwardingManager} {c : Composite}
    (h : SameRules (op.apply m c.reason) (c.reason.parts.foldl op.apply m)) :
    ∀ reason ∈ c.reason :: c.reason.parts, op.Idle m reason := by
  have hparts : ∀ reason ∈ c.reason.parts, op.Idle m reason := by
    intro reason hreason
    have hquery := (h reason).2
    have hne : reason ≠ c.reason := fun heq => reason_not_mem_parts c (heq ▸ hreason)
    rw [queryRule_of_mem_parts hreason, queryRule_of_mem_parts hreason,
      apply_get? (direct_of_ne_erase hop _), if_neg hne,
      foldl_apply_get? (fun r _ => direct_of_ne_erase hop r), if_pos hreason] at hquery
    exact (idle_iff op m reason).mpr (toList_inj hquery).symm
  have hwhole : op.Idle m c.reason := by
    have hvalues : (op.apply m c.reason).rules.values = m.rules.values := by
      have hquery := (h .all).2
      rwa [foldl_apply_idle hop hparts] at hquery
    have hkeys : (op.apply m c.reason).rules.keys = m.rules.keys := by
      rcases apply_keys hop m c.reason with hkeys | ⟨-, hkeys⟩
      · exact hkeys
      · have hlen := congrArg List.length hkeys
        have hlen' := congrArg List.length hvalues
        simp only [Dict.keys, Dict.values, List.length_append, List.length_map, List.length_cons,
          List.length_nil] at hlen hlen'
        omega
    have hget := apply_get? (direct_of_ne_erase hop c.reason) m c.reason
    rw [if_pos rfl, Dict.ext_values hkeys hvalues] at hget
    exact (idle_iff op m c.reason).mpr hget.symm
  intro reason hreason
  rcases List.mem_cons.mp hreason with rfl | hreason
  · exact hwhole
  · exact hparts reason hreason

theorem erase_parts_get? (m : CallForwardingManager) (r : CallForwardReason) :
    ((CallForwardReason.all).parts.foldl erase.apply m).rules.get? r =
      if r ∈ (CallForwardReason.all).parts then none else m.rules.get? r :=
  foldl_apply_get? (fun _ hr => direct_of_mem_parts erase (c := .all) hr) m r

/-- Erasing the four reasons empties the table if it has no rule for a composite reason. -/
theorem erase_all_eq {m : CallForwardingManager} (hall : m.rules.get? .all = none)
    (hconditional : m.rules.get? .allConditional = none) :
    erase.apply m .all = (CallForwardReason.all).parts.foldl erase.apply m := by
  have hnone : ∀ r, ((CallForwardReason.all).parts.foldl erase.apply m).rules.get? r = none := by
    intro r
    rw [erase_parts_get?]
    cases r with
    | all => exact hall
    | allConditional => exact hconditional
    | _ => rfl
  have hempty : ((CallForwardReason.all).parts.foldl erase.apply m).rules = Dict.empty := by
    refine Dict.ext_entries (List.eq_nil_iff_forall_not_mem.mpr fun e he => ?_)
    have hsome := (Dict.get?_eq_some_iff _ e.1 e.2).mpr he
    rw [hnone] at hsome
    cases hsome
  exact congrArg CallForwardingManager.mk hempty.symm

/-- Where the operation composes, it makes of the table what it makes of it with the parts. -/
theorem Composes.eq {op : CfOperation} {m : CallForwardingManager} {c : Composite} (h : op.Composes m c) :
    op.apply m c.reason = c.reason.parts.foldl op.apply m := by
  have hidle : op ≠ erase → (∀ reason ∈ c.reason :: c.reason.parts, op.Idle m reason) →
      op.apply m c.reason = c.reason.parts.foldl op.apply m := by
    intro hop h
    rw [(h c.reason List.mem_cons_self).apply_eq hop,
      foldl_apply_idle hop fun reason hreason => h reason (List.mem_cons_of_mem _ hreason)]
  cases op with
  | set number timeSeconds => exact hidle (by simp) h
  | enable => exact hidle (by simp) h
  | disable => exact hidle (by simp) h
  | erase =>
      cases c with
      | all => exact erase_all_eq h.1 h.2
      | allConditional => rfl

end CfOperation

open CfOperation

/-- **When an operation takes a composite reason apart**: an operation on a composite reason leaves a
table that answers `should_forward` and `query_rule` as it does after the operation on each of the
parts, exactly if the operation composes. -/
theorem composite_iff (op : CfOperation) (m : CallForwardingManager) (c : Composite) :
    SameRules (op.apply m c.reason) (c.reason.parts.foldl op.apply m) ↔ op.Composes m c := by
  constructor
  · intro h
    cases op with
    | set number timeSeconds => exact idle_of_sameRules (by simp) h
    | enable => exact idle_of_sameRules (by simp) h
    | disable => exact idle_of_sameRules (by simp) h
    | erase =>
        cases c with
        | all =>
            have hvalues : ((CallForwardReason.all).parts.foldl erase.apply m).rules.values = [] :=
              (h .all).2.symm
            have hnone : ∀ r, ((CallForwardReason.all).parts.foldl erase.apply m).rules.get? r = none := by
              intro r
              refine (Dict.get?_eq_none_iff _ _).mpr ?_
              rw [Dict.keys, List.map_eq_nil_iff.mp hvalues]
              simp
            exact ⟨(erase_parts_get? m .all).symm.trans (hnone _),
              (erase_parts_get? m .allConditional).symm.trans (hnone _)⟩
        | allConditional => trivial
  · intro h reason
    rw [h.eq]
    exact ⟨rfl, rfl⟩

/-! ### Sequences of operations -/

/-- The table after a sequence of operations. -/
def CallForwardingManager.after (m : CallForwardingManager) (history : List (CfOperation × CallForwardReason)) :
    CallForwardingManager :=
  history.foldl (fun m e => e.1.apply m e.2) m

/-- The operations of a sequence, with each composite reason taken apart. -/
def expanded (history : List (CfOperation × CallForwardReason)) : List (CfOperation × CallForwardReason) :=
  history.flatMap fun e => e.2.parts.map fun reason => (e.1, reason)

/-- Every operation of a sequence with a composite reason composes where it is carried out. -/
def AllCompose (m : CallForwardingManager) : List (CfOperation × CallForwardReason) → Prop
  | [] => True
  | (op, reason) :: rest =>
      (∀ c : Composite, reason = c.reason → op.Composes m c) ∧ AllCompose (op.apply m reason) rest

theorem apply_eq_parts {op : CfOperation} {m : CallForwardingManager} {reason : CallForwardReason}
    (h : ∀ c : Composite, reason = c.reason → op.Composes m c) :
    reason.parts.foldl op.apply m = op.apply m reason := by
  cases reason with
  | all => exact (h .all rfl).eq.symm
  | allConditional => exact (h .allConditional rfl).eq.symm
  | _ => rfl

theorem after_expanded {m : CallForwardingManager} {history : List (CfOperation × CallForwardReason)}
    (h : AllCompose m history) : m.after (expanded history) = m.after history := by
  induction history generalizing m with
  | nil => rfl
  | cons e history ih =>
      obtain ⟨op, reason⟩ := e
      have hfirst : m.after (reason.parts.map fun r => (op, r)) = op.apply m reason := by
        rw [CallForwardingManager.after, List.foldl_map]
        exact apply_eq_parts h.1
      have hsplit : m.after (expanded ((op, reason) :: history)) =
          (m.after (reason.parts.map fun r => (op, r))).after (expanded history) :=
        List.foldl_append
      rw [hsplit, hfirst, ih h.2]
      rfl

/-- **Composite reasons.**  After any sequence of operations on any table, an operation on a composite
reason has the effect of the operation on each of the parts exactly if it composes there; and a
sequence whose operations all compose has the effect of the sequence with every composite reason taken
apart. -/
theorem composite_reasons (m : CallForwardingManager)
    (history : List (CfOperation × CallForwardReason)) :
    (∀ (op : CfOperation) (c : Composite), SameRules (op.apply (m.after history) c.reason)
      (c.reason.parts.foldl op.apply (m.after history)) ↔ op.Composes (m.after history) c) ∧
    (AllCompose m history → SameRules (m.after history) (m.after (expanded history))) := by
  refine ⟨fun op c => composite_iff op _ c, fun h reason => ?_⟩
  rw [after_expanded h]
  exact ⟨rfl, rfl⟩

/-- A rule for a busy phone is set, and erased with all conditional ones. -/
theorem composite_reasons_erased :
    SameRules (({} : CallForwardingManager).after [(.set "1".toList 20, .busy), (.erase, .allConditional)])
      (({} : CallForwardingManager).after
        (expanded [(.set "1".toList 20, .busy), (.erase, .allConditional)])) := by
  refine (composite_reasons _ _).2 ⟨?_, ?_, trivial⟩
  · rintro (_ | _) ⟨⟩
  · rintro (_ | _) hc
    · cases hc
    · trivial

/-- Forwarding of a busy phone stays on when everything is disabled. -/
theorem disable_all_leaves_busy :
    (CfOperation.disable.apply (({} : CallForwardingManager).setRule .busy "1".toList 20) .all).shouldForward
        .busy ≠
      ((CallForwardReason.all).parts.foldl CfOperation.disable.apply
        (({} : CallForwardingManager).setRule .busy "1".toList 20)).shouldForward .busy := by
  decide

end VirtualPhone
