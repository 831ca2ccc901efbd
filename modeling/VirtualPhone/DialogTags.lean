import Mathlib.Data.List.DropRight
import VirtualPhone.VolteRingback

/-! # The identifiers of a dialog

Whoever gets the requests of a dialog tells them by their Call-ID, their tags and their CSeq numbers.
`send_request` and `_send_ack` make each request from scratch: every one has a From tag of its own, the
ACK has the CSeq number 1 whatever the number of its INVITE, and the tag of the other side is not kept.

As no tag is drawn twice, any two requests of a dialog differ in their From tags; so the identifiers
are consistent exactly as long as there is nothing to compare. -/

namespace VirtualPhone

open Runtime

/-- The `tag` parameter of a From or To header; the parameters of the header follow the last `>`. -/
def tagParameter (header : Text) : Option Text :=
  (search (dropLiteral ";tag=".toList) (header.rtakeWhile (· ≠ '>'))).map (·.takeWhile (· ≠ ';'))

namespace SIPMessage

/-- The tag of the sender. -/
def fromTag (m : SIPMessage) : Option Text := tagParameter m.fromHeader

/-- The tag of the receiver. -/
def toTag (m : SIPMessage) : Option Text := tagParameter m.toHeader

/-- The sequence number in the CSeq header. -/
def cseqNumber (m : SIPMessage) : Text := m.cseq.takeWhile (· ≠ ' ')

end SIPMessage

namespace Phone

/-- The requests that went out. -/
def allRequests (s : Phone) : List SIPMessage := (s.sent.map Prod.fst).filter (·.method.isSome)

/-- The requests that went out with a Call-ID, in their order. -/
def dialogRequests (s : Phone) (callId : Text) : List SIPMessage :=
  s.allRequests.filter (·.callId = callId)

end Phone

/-- **The identifiers of a dialog are consistent** in the run `es` from `p` to `p'`. -/
structure ConsistentDialog (callId : Text) (p : PhonePool) (es : List PhoneEvent) (p' : PhonePool) :
    Prop where
  /-- An ACK has the number of the INVITE before it. -/
  ack : ∀ l₁ l₂ l₃ invite ack, p'.state.dialogRequests callId = l₁ ++ invite :: l₂ ++ ack :: l₃ →
    invite.method = some "INVITE".toList → ack.method = some "ACK".toList →
    (∀ m ∈ l₂, m.method ≠ some "INVITE".toList) → ack.cseqNumber = invite.cseqNumber
  /-- All requests have the same From tag. -/
  fromTag : ∀ m ∈ p'.state.dialogRequests callId, ∀ m' ∈ p'.state.dialogRequests callId,
    m.fromTag = m'.fromTag
  /-- After the 200 OK to an INVITE the requests have its To tag. -/
  toTag : ∀ before ok addr after p₁, es = before ++ .spawn (.incoming ok addr) :: after →
    runFrom PhonePool.step p before = some p₁ → ok.statusCode = some 200 →
    (∃ invite ∈ p₁.state.dialogRequests callId, invite.method = some "INVITE".toList ∧
      ok.callId = callId ∧ ok.cseq = invite.cseq) →
    ∀ m ∈ (p'.state.dialogRequests callId).drop (p₁.state.dialogRequests callId).length,
      m.toTag = ok.toTag

/-- What the random texts are like: no two are the same, and they are no more than a token. -/
structure Tokens (random : ℕ → Text) : Prop where
  distinct : Function.Injective random
  plain : ∀ n, ∀ c ∈ random n, c ≠ '>' ∧ c ≠ ';'

/-! ### Tags -/

theorem tagParameter_eq (uri : Text) {tag : Text} (h : ∀ c ∈ tag, c ≠ '>' ∧ c ≠ ';') :
    tagParameter ("<".toList ++ uri ++ ">;tag=".toList ++ tag) = some tag := by
  have hlast : ("<".toList ++ uri ++ ">;tag=".toList ++ tag).rtakeWhile (· ≠ '>') =
      ";tag=".toList ++ tag := by
    have hparameters : ∀ c ∈ (";tag=".toList ++ tag).reverse, decide (c ≠ '>') = true := by
      intro c hc
      rcases List.mem_append.mp (List.mem_reverse.mp hc) with hc | hc
      · exact decide_eq_true (by rintro rfl; revert hc; decide)
      · exact decide_eq_true (h c hc).1
    have hreverse : ("<".toList ++ uri ++ ">;tag=".toList ++ tag).reverse =
        (";tag=".toList ++ tag).reverse ++ '>' :: ("<".toList ++ uri).reverse := by simp
    rw [List.rtakeWhile, hreverse, List.takeWhile_append_of_pos hparameters,
      List.takeWhile_cons_of_neg (by decide), List.append_nil, List.reverse_reverse]
  have hfind : search (dropLiteral ";tag=".toList) (";tag=".toList ++ tag) = some tag := by
    change (dropLiteral ";tag=".toList (";tag=".toList ++ tag)).or _ = _
    rw [dropLiteral, if_pos (List.prefix_append _ _), List.drop_left, Option.some_or]
  unfold tagParameter
  rw [hlast, hfind, Option.map_some, List.takeWhile_eq_self_iff.mpr fun c hc =>
    decide_eq_true (h c hc).2]

/-! ### Every request has a tag of its own -/

/-- The requests have tags drawn so far, and no two the same. -/
structure Tagged (random : ℕ → Text) (s : Phone) : Prop where
  stream : s.random = random
  drawn : ∀ m ∈ s.allRequests, ∃ k, k < s.drawn ∧ m.fromTag = some (random k)
  apart : s.allRequests.Pairwise fun m m' => m.fromTag ≠ m'.fromTag

variable {C : VoLTECall → Prop} {random : ℕ → Text} {s s' : Phone}

theorem Tagged.of_sent (h : Tagged random s) (hrandom : s'.random = s.random)
    (hdrawn : s.drawn ≤ s'.drawn) (hsent : s'.sent = s.sent) : Tagged random s' := by
  have hrequests : s'.allRequests = s.allRequests := by
    unfold Phone.allRequests
    rw [hsent]
  refine ⟨hrandom.trans h.stream, ?_, ?_⟩ <;> rw [hrequests]
  · intro m hm
    obtain ⟨k, hk, htag⟩ := h.drawn m hm
    exact ⟨k, lt_of_lt_of_le hk hdrawn, htag⟩
  · exact h.apart

/-- A message goes out: a request has a tag that was not drawn before. -/
theorem Tagged.aside (hrandom : Tokens random) (h : Tagged random s) (haside : Aside s s') :
    Tagged random s' := by
  obtain ⟨hsame, hdrawn, htag⟩ := haside.draws
  rcases haside.sent with hsent | ⟨msg, addr, hsent, -⟩
  · exact h.of_sent hsame hdrawn hsent
  have hrequests : s'.allRequests = s.allRequests ++ [msg].filter (·.method.isSome) := by
    unfold Phone.allRequests
    rw [hsent, List.map_append, List.filter_append]
    rfl
  have hold : ∀ m ∈ s.allRequests, ∃ k, k < s'.drawn ∧ m.fromTag = some (random k) := by
    intro m hm
    obtain ⟨k, hk, hm⟩ := h.drawn m hm
    exact ⟨k, lt_of_lt_of_le hk hdrawn, hm⟩
  by_cases hmethod : msg.method.isSome
  · obtain ⟨uri, k, hk, hk', hfrom⟩ := htag msg addr hsent hmethod
    have hnew : msg.fromTag = some (random k) := by
      rw [SIPMessage.fromTag, hfrom, h.stream]
      exact tagParameter_eq uri (hrandom.plain k)
    rw [List.filter_cons, if_pos hmethod, List.filter_nil] at hrequests
    refine ⟨hsame.trans h.stream, ?_, ?_⟩ <;> rw [hrequests]
    · intro m hm
      rcases List.mem_append.mp hm with hm | hm
      · exact hold m hm
      · rw [List.mem_singleton.mp hm]
        exact ⟨k, hk', hnew⟩
    · refine List.pairwise_append.mpr ⟨h.apart, List.pairwise_singleton _ _, fun m hm m' hm' => ?_⟩
      obtain ⟨j, hj, htagj⟩ := h.drawn m hm
      rw [List.mem_singleton.mp hm', hnew, htagj]
      intro heq
      have hjk := hrandom.distinct (Option.some.inj heq)
      omega
  · rw [List.filter_cons, if_neg hmethod, List.filter_nil, List.append_nil] at hrequests
    refine ⟨hsame.trans h.stream, ?_, ?_⟩ <;> rw [hrequests]
    · exact hold
    · exact h.apart

theorem Micro.tagged (hrandom : Tokens random) (h : Micro C s s') (hs : Tagged random s) :
    Tagged random s' := by
  cases h with
  | other _ _ _ hother => exact hs.aside hrandom hother
  | created c _ _ => exact hs.of_sent rfl le_rfl rfl
  | deleted callId => exact hs.of_sent rfl le_rfl rfl
  | popped _ => exact hs.of_sent rfl le_rfl rfl
  | changed ref f _ _ _ _ hother => exact hs.aside hrandom hother

theorem First.sends_nothing {op : Operation} (h : First op s s') :
    s'.sent = s.sent ∧ s'.random = s.random ∧ s'.drawn = s.drawn := by
  cases h with
  | nothing => exact ⟨rfl, rfl, rfl⟩
  | reinvite addr _ => exact ⟨rfl, rfl, rfl⟩
  | @ringing s msg ref addr _ =>
      refine ⟨Phone.ringBack_sent ref s, ?_, ?_⟩
      · unfold Phone.ringBack
        split <;> rfl
      · unfold Phone.ringBack
        split <;> rfl

theorem tagged_run (hrandom : Tokens random) {config : VoLTEConfig} {radioHal : Bool}
    {radio : RadioHAL} {es : List PhoneEvent} {p : PhonePool}
    (hr : runFrom PhonePool.step (PhonePool.initial config radioHal radio random) es = some p) :
    PhonePool.Disciplined (fun _ => True) p ∧ Tagged random p.state := by
  refine PhonePool.run_invariant (Micro.tagged hrandom) ?_ (fun _ => PhonePool.admits_true _ _)
    (PhonePool.initial_disciplined _ config radioHal radio random)
    ⟨rfl, fun _ hm => (by cases hm), List.Pairwise.nil⟩
    (Along.of_forall PhonePool.step (P := fun _ _ => True) (fun _ _ => trivial) _ es) hr
  intro p op s₁ _ hfirst hs
  obtain ⟨hsent, hsame, hdrawn⟩ := hfirst.sends_nothing
  exact hs.of_sent hsame hdrawn.ge hsent

/-! ### Messages sent stay sent -/

theorem Aside.sent_grows (h : Aside s s') : s.sent <+: s'.sent := by
  rcases h.sent with hsent | ⟨msg, addr, hsent, -⟩
  · exact hsent ▸ List.prefix_rfl
  · rw [hsent]
    apply List.prefix_append

theorem Micro.sent_grows (h : Micro C s s') : s.sent <+: s'.sent := by
  cases h with
  | other _ _ _ hother => exact hother.sent_grows
  | created c _ _ => exact List.prefix_rfl
  | deleted callId => exact List.prefix_rfl
  | popped _ => exact List.prefix_rfl
  | changed ref f _ _ _ _ hother => exact hother.sent_grows

/-- The requests of a dialog are those of any earlier moment, and the later ones. -/
theorem requests_grow {p p' : PhonePool} {es : List PhoneEvent}
    (hp : PhonePool.Disciplined (fun _ => True) p) (hr : runFrom PhonePool.step p es = some p')
    (callId : Text) : p.state.dialogRequests callId <+: p'.state.dialogRequests callId := by
  have hsent : p.state.sent <+: p'.state.sent := by
    refine (PhonePool.run_invariant (I := fun s => p.state.sent <+: s.sent)
      (fun hmicro hs => hs.trans hmicro.sent_grows) ?_ (fun _ => PhonePool.admits_true _ _) hp
      List.prefix_rfl (Along.of_forall PhonePool.step (P := fun _ _ => True) (fun _ _ => trivial) _ es)
      hr).2
    intro q op s₁ _ hfirst hs
    rw [hfirst.sends_nothing.1]
    exact hs
  exact ((hsent.map Prod.fst).filter _).filter _

/-! ### Consistency -/

/-- **A dialog is consistent exactly up to its first request.**  In every run, the requests with a
Call-ID have consistent identifiers iff there is at most one. -/
theorem dialog_consistent_iff (hrandom : Tokens random) {config : VoLTEConfig} {radioHal : Bool}
    {radio : RadioHAL} {es : List PhoneEvent} {p : PhonePool}
    (hr : runFrom PhonePool.step (PhonePool.initial config radioHal radio random) es = some p)
    (callId : Text) :
    ConsistentDialog callId (PhonePool.initial config radioHal radio random) es p ↔
      (p.state.dialogRequests callId).length ≤ 1 := by
  have hapart : (p.state.dialogRequests callId).Pairwise fun m m' => m.fromTag ≠ m'.fromTag :=
    (tagged_run hrandom hr).2.apart.filter _
  constructor
  · intro h
    have hsame := h.fromTag
    match hl : p.state.dialogRequests callId with
    | [] => exact Nat.zero_le 1
    | [m] => exact le_rfl
    | m :: m' :: l =>
        rw [hl] at hapart hsame
        have hne := (List.pairwise_cons.mp hapart).1 m' List.mem_cons_self
        exact absurd (hsame m List.mem_cons_self m' (List.mem_cons_of_mem _ List.mem_cons_self)) hne
  · intro hlength
    refine ⟨?_, ?_, ?_⟩
    · intro l₁ l₂ l₃ invite ack hl
      rw [hl] at hlength
      simp only [List.length_append, List.length_cons] at hlength
      omega
    · intro m hm m' hm'
      match hl : p.state.dialogRequests callId with
      | [] =>
          rw [hl] at hm
          cases hm
      | [x] =>
          rw [hl] at hm hm'
          rw [List.mem_singleton.mp hm, List.mem_singleton.mp hm']
      | x :: y :: l =>
          rw [hl] at hlength
          simp only [List.length_cons] at hlength
          omega
    · rintro before ok addr after p₁ rfl hp₁ - ⟨invite, hinvite, -⟩ m hm
      -- the one request is the INVITE, which went out before the response
      have hp : PhonePool.Disciplined (fun _ => True) p₁ := (tagged_run hrandom hp₁).1
      rw [runFrom_append, hp₁] at hr
      have hlonger := (requests_grow hp hr callId).length_le
      have hone : 0 < (p₁.state.dialogRequests callId).length := List.length_pos_of_mem hinvite
      rw [List.drop_eq_nil_of_le (by omega)] at hm
      cases hm

theorem natText_tokens : Tokens natText := by
  refine ⟨Function.LeftInverse.injective (g := (Nat.ofDigitChars 10 · 0)) fun _ =>
    Nat.ofDigitChars_ten_toDigits, fun n c hc => ?_⟩
  have hdigit := Nat.isDigit_of_mem_toDigits (by decide) (by decide) hc
  constructor <;> rintro rfl <;> revert hdigit <;> decide

/-- A call is initiated and not yet answered. -/
theorem dialog_consistent_invited : ∃ p, runFrom PhonePool.step testPhone
      [.spawn .start, .spawn (.initiateCall "1".toList 1)] = some p ∧
    (p.state.dialogRequests "0".toList).length = 1 ∧
    ConsistentDialog "0".toList testPhone [.spawn .start, .spawn (.initiateCall "1".toList 1)] p := by
  obtain ⟨p, hr, hlength⟩ : ∃ p, runFrom PhonePool.step testPhone
      [.spawn .start, .spawn (.initiateCall "1".toList 1)] = some p ∧
      (p.state.dialogRequests "0".toList).length = 1 := exists_run PhonePool.step (by decide +kernel)
  exact ⟨p, hr, hlength, (dialog_consistent_iff natText_tokens hr _).mpr hlength.le⟩

/-- A call is answered and put on hold: the ACK for the re-INVITE, which is number 2, is number 1, and
the requests of the dialog have different From tags. -/
theorem dialog_inconsistent : ∃ p, runFrom PhonePool.step testPhone
      (dialedRun ++ [.spawn (.holdCall "0".toList), .spawn (dialResponse 200 ""), .resume 3]) = some p ∧
    ((p.state.dialogRequests "0".toList).map fun m => (m.method, m.cseqNumber)) =
      [(some "INVITE".toList, "1".toList), (some "ACK".toList, "1".toList),
        (some "INVITE".toList, "2".toList), (some "ACK".toList, "1".toList)] ∧
    ¬ConsistentDialog "0".toList testPhone
      (dialedRun ++ [.spawn (.holdCall "0".toList), .spawn (dialResponse 200 ""), .resume 3]) p := by
  obtain ⟨p, hr, hnumbers, m, hm, m', hm', htag⟩ : ∃ p, runFrom PhonePool.step testPhone
      (dialedRun ++ [.spawn (.holdCall "0".toList), .spawn (dialResponse 200 ""), .resume 3]) = some p ∧
      ((p.state.dialogRequests "0".toList).map fun m => (m.method, m.cseqNumber)) =
        [(some "INVITE".toList, "1".toList), (some "ACK".toList, "1".toList),
          (some "INVITE".toList, "2".toList), (some "ACK".toList, "1".toList)] ∧
      ∃ m ∈ p.state.dialogRequests "0".toList, ∃ m' ∈ p.state.dialogRequests "0".toList,
        m.fromTag ≠ m'.fromTag :=
    exists_run PhonePool.step (by decide +kernel)
  exact ⟨p, hr, hnumbers, fun h => htag (h.fromTag m hm m' hm')⟩

end VirtualPhone
