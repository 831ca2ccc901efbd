import VirtualPhone.Registration

/-! # The sequence numbers of the two sides

One subscriber's record at the authentication helper and the same subscriber's phone, joined by a
network that delivers the issued challenges in any order, drops them, repeats them and replays them
(`AkaLink.step`).  The helper's number moves by 32 with each vector, the phone's by one with each
challenge it accepts.

The invariant `Synchronised` relates both to every challenge that was ever issued: each carries a
number at least 32 below the helper's.  `Fresh` says the same of all challenges but the last, which
is what makes the last one acceptable. -/

namespace VirtualPhone

open Runtime

/-- The helper, the phone and the nonces issued so far. -/
structure AkaLink where
  helper : AuthHelper
  ue : IMSCredentials
  issued : List Text

/-- A vector is built from a fresh RAND, or a challenge with an issued nonce reaches the phone. -/
inductive AkaEvent
  | issue (rand : Block)
  | deliver (www : Text) (random : Bytes)

namespace AkaLink

variable (aes : Bytes → Block → Block) (md5 : Bytes → Bytes) (imsi : Text)

/-- The sequence number in the subscriber's record. -/
def hssSqn (s : AkaLink) : ℕ := ((s.helper.subscribers.get? imsi).map Security.sqnVal).getD 0

/-- One event.  The database answers, and only issued nonces are delivered. -/
def step (s : AkaLink) : AkaEvent → Option AkaLink
  | .issue rand =>
      match (AuthHelper.generateAuthVector aes rand ⟨true, true⟩ imsi).run s.helper with
      | (.ok (some vector), helper) =>
          some { s with helper := helper, issued := s.issued ++ [vector.nonce] }
      | (_, helper) => some { s with helper := helper }
  | .deliver www random =>
      if IMSRegistration.nonceOf www ∈ s.issued then
        some { s with ue := ((IMSRegistration.computeAkaResponse aes md5 random www).run s.ue).2 }
      else none

/-- The challenge with this nonce carries the number `n`: a phone with the same keys accepts it up
to `n`. -/
def Carries (mil : Milenage) (nonce : Text) (n : ℕ) : Prop :=
  ∃ (rand : Block) (v : NetworkVector), nonce = b64encode (rand.1 ++ v.autn) ∧ v.autn.length = 16 ∧
    mil.Answers aes rand.1 v n

/-- Both sides hold the same keys and the phone's number is not above the helper's. -/
structure Provisioned (mil : Milenage) (amf : Bytes) (s : AkaLink) : Prop where
  record : ∃ security, s.helper.subscribers.get? imsi = some security ∧
    security.Holds aes mil amf (s.hssSqn imsi)
  keys : s.ue.ki = mil.ki ∧ s.ue.opc = mil.opc
  behind : s.ue.sqn ≤ s.hssSqn imsi

/-- **The invariant**: every issued challenge lies at least 32 below the helper's number. -/
structure Synchronised (mil : Milenage) (amf : Bytes) (s : AkaLink) : Prop extends
    Provisioned aes imsi mil amf s where
  issued : ∀ nonce ∈ s.issued, ∃ n, Carries aes mil nonce n ∧ n + 32 ≤ s.hssSqn imsi

/-- The phone would still accept the challenge `last`, and every other one lies 32 below it. -/
structure Fresh (mil : Milenage) (amf : Bytes) (last : Text) (s : AkaLink) : Prop extends
    Synchronised aes imsi mil amf s where
  last_issued : s.issued.getLast? = some last
  fresh : ∃ n, Carries aes mil last n ∧ s.ue.sqn ≤ n ∧
    ∀ nonce ∈ s.issued, nonce ≠ last → ∃ k, Carries aes mil nonce k ∧ k + 32 ≤ n

/-- The helper's number leaves room for one more vector. -/
def Room (s : AkaLink) : AkaEvent → Prop
  | .issue _ => s.hssSqn imsi + 32 < 2 ^ 48
  | .deliver _ _ => True

variable {aes md5 imsi} {mil : Milenage} {amf : Bytes}

/-! ### One event -/

theorem Provisioned.respond {s : AkaLink} (h : Provisioned aes imsi mil amf s)
    (md5 : Bytes → Bytes) {www : Text} {n : ℕ} (hn : Carries aes mil (IMSRegistration.nonceOf www) n) (random : Bytes) :
    ∃ header, (IMSRegistration.computeAkaResponse aes md5 random www).run s.ue =
      if s.ue.sqn ≤ n then (.ok (some header), { s.ue with sqn := s.ue.sqn + 1 })
      else (.ok none, s.ue) := by
  obtain ⟨security, -, hholds⟩ := h.record
  obtain ⟨rand, v, hnonce, hautn, hanswers⟩ := hn
  obtain ⟨hki, hopc⟩ := h.keys
  have hlt : s.ue.sqn < 2 ^ 48 := lt_of_le_of_lt h.behind hholds.sqn_lt
  refine ⟨_, IMSRegistration.computeAkaResponse_of_vector aes md5 ?_ ?_ rand.2 hautn ?_ hlt hnonce random⟩
  · rw [hki]
    exact hholds.ki_length
  · rw [hopc]
    exact hholds.opc_length
  · rw [hki, hopc]
    exact hanswers

/-- A new vector carries the helper's number, which moves on by 32. -/
theorem Provisioned.issue {s s' : AkaLink} (h : Provisioned aes imsi mil amf s)
    (hroom : s.hssSqn imsi + 32 < 2 ^ 48) {rand : Block}
    (hs : step aes md5 imsi s (.issue rand) = some s') :
    ∃ nonce, s'.issued = s.issued ++ [nonce] ∧ Carries aes mil nonce (s.hssSqn imsi) ∧
      s'.hssSqn imsi = s.hssSqn imsi + 32 ∧ s'.ue = s.ue ∧ Provisioned aes imsi mil amf s' := by
  obtain ⟨security, hsub, hholds⟩ := h.record
  obtain ⟨v, hv, hautn, hrun⟩ := AuthHelper.generateAuthVector_run hsub hholds rand
    (rfl : Reach.query ⟨true, true⟩ = true)
  simp only [step, hrun, if_true, Option.some.injEq] at hs
  have hget : s'.helper.subscribers.get? imsi =
      some { security with sqn := some (s.hssSqn imsi + 32) } := by
    rw [← hs]
    simp [AuthHelper.cache, AuthHelper.setSqn, Dict.get?_modify, hsub]
  have hsqn : s'.hssSqn imsi = s.hssSqn imsi + 32 := by
    rw [hssSqn, hget]
    rfl
  have hue : s'.ue = s.ue := by rw [← hs]
  refine ⟨(AuthHelper.authVector imsi rand v).nonce, by rw [← hs], ⟨rand, v, rfl, hautn, ?_⟩, hsqn, hue, ?_⟩
  · exact Milenage.authenticate_networkVector aes hholds.opc_length rand.2 hholds.amf_length
      hholds.sqn_lt hv
  · refine ⟨⟨_, hget, ?_⟩, hue ▸ h.keys, ?_⟩
    · rw [hsqn]
      exact { hholds with
        sqn_eq := rfl
        sqn_lt := hroom }
    · rw [hsqn, hue]
      exact h.behind.trans (Nat.le_add_right _ _)

/-- A delivery changes the phone only, and its number by at most one, up to just above the number
of the challenge. -/
theorem Synchronised.deliver {s s' : AkaLink} (h : Synchronised aes imsi mil amf s) {www : Text}
    {random : Bytes} (hs : step aes md5 imsi s (.deliver www random) = some s') :
    IMSRegistration.nonceOf www ∈ s.issued ∧ s'.helper = s.helper ∧ s'.issued = s.issued ∧
      s'.ue.ki = s.ue.ki ∧ s'.ue.opc = s.ue.opc ∧
      ∀ n, Carries aes mil (IMSRegistration.nonceOf www) n →
        s'.ue.sqn = s.ue.sqn ∨ s.ue.sqn ≤ n ∧ s'.ue.sqn = s.ue.sqn + 1 := by
  simp only [step] at hs
  split_ifs at hs with hmem
  obtain ⟨n, hn, -⟩ := h.issued _ hmem
  obtain ⟨header, hrun⟩ := h.respond md5 hn random
  obtain rfl := Option.some.inj hs
  have hkeys : ((IMSRegistration.computeAkaResponse aes md5 random www).run s.ue).2.ki = s.ue.ki ∧
      ((IMSRegistration.computeAkaResponse aes md5 random www).run s.ue).2.opc = s.ue.opc := by
    rw [hrun]
    split_ifs <;> exact ⟨rfl, rfl⟩
  refine ⟨hmem, rfl, rfl, hkeys.1, hkeys.2, ?_⟩
  intro k hk
  obtain ⟨header', hrun'⟩ := h.respond md5 hk random
  simp only [hrun']
  split_ifs with hle
  · exact .inr ⟨hle, rfl⟩
  · exact .inl rfl

theorem issued_deliver {s s' : AkaLink} {www : Text} {random : Bytes}
    (hs : AkaLink.step aes md5 imsi s (.deliver www random) = some s') : s'.issued = s.issued := by
  simp only [AkaLink.step] at hs
  split_ifs at hs
  rw [← Option.some.inj hs]

/-- **Step lemma.**  Every event keeps the two sides synchronised. -/
theorem Synchronised.step {s s' : AkaLink} (h : Synchronised aes imsi mil amf s) {e : AkaEvent}
    (hroom : Room imsi s e) (hs : step aes md5 imsi s e = some s') : Synchronised aes imsi mil amf s' := by
  cases e with
  | issue rand =>
      obtain ⟨nonce, hissued, hcarries, hsqn, -, hprov⟩ := h.toProvisioned.issue hroom hs
      refine { hprov with issued := ?_ }
      intro x hx
      rw [hissued, List.mem_append, List.mem_singleton] at hx
      rw [hsqn]
      rcases hx with hx | rfl
      · obtain ⟨n, hn, hle⟩ := h.issued x hx
        exact ⟨n, hn, hle.trans (Nat.le_add_right _ _)⟩
      · exact ⟨_, hcarries, le_rfl⟩
  | deliver www random =>
      obtain ⟨hmem, hhelper, hissued, hki, hopc, hsqn⟩ := h.deliver hs
      have hhss : s'.hssSqn imsi = s.hssSqn imsi := by rw [hssSqn, hhelper, hssSqn]
      obtain ⟨n, hn, hle⟩ := h.issued _ hmem
      refine ⟨⟨?_, ⟨hki.trans h.keys.1, hopc.trans h.keys.2⟩, ?_⟩, ?_⟩
      · rw [hhss, hhelper]
        exact h.record
      · have := h.behind
        rw [hhss]
        rcases hsqn n hn with heq | ⟨hn', heq⟩
        · omega
        · omega
      · rw [hhss, hissued]
        exact h.issued

theorem Synchronised.fresh_issue {s s' : AkaLink} (h : Synchronised aes imsi mil amf s) {rand : Block}
    (hroom : s.hssSqn imsi + 32 < 2 ^ 48) (hs : AkaLink.step aes md5 imsi s (.issue rand) = some s') :
    ∃ last, Fresh aes imsi mil amf last s' := by
  obtain ⟨nonce, hissued, hcarries, hsqn, hue, -⟩ := h.toProvisioned.issue hroom hs
  refine ⟨nonce, { h.step (e := .issue rand) hroom hs with
    last_issued := by rw [hissued, List.getLast?_concat]
    fresh := ⟨_, hcarries, ?_, ?_⟩ }⟩
  · rw [hue]
    exact h.behind
  · intro x hx hne
    rw [hissued, List.mem_append, List.mem_singleton] at hx
    rcases hx with hx | hx
    · exact h.issued x hx
    · exact absurd hx hne

/-- Delivering any other challenge leaves the last one fresh. -/
theorem Fresh.deliver {s s' : AkaLink} {last : Text} (h : Fresh aes imsi mil amf last s) {www : Text}
    {random : Bytes} (hother : IMSRegistration.nonceOf www ≠ last)
    (hs : AkaLink.step aes md5 imsi s (.deliver www random) = some s') :
    Fresh aes imsi mil amf last s' := by
  obtain ⟨hmem, -, hissued, -, -, hsqn⟩ := h.toSynchronised.deliver hs
  obtain ⟨n, hlast, hle, hrest⟩ := h.fresh
  obtain ⟨k, hk, hkn⟩ := hrest _ hmem hother
  refine { h.toSynchronised.step (e := .deliver www random) trivial hs with
    last_issued := by rw [hissued, h.last_issued]
    fresh := ⟨n, hlast, ?_, ?_⟩ }
  · rcases hsqn k hk with heq | ⟨hle', heq⟩
    · omega
    · omega
  · rw [hissued]
    exact hrest

/-! ### Runs -/

/-- The delivery of a challenge other than the last one issued in `s`. -/
def OtherDelivery (s : AkaLink) (e : AkaEvent) : Prop :=
  ∃ www random, e = .deliver www random ∧ some (IMSRegistration.nonceOf www) ≠ s.issued.getLast?

/-- **The sequence numbers never come apart.**  In every run in which the helper has room for its
vectors, the phone's number stays up to the helper's; and when no vector was issued and the last
challenge not delivered since it was issued, the phone accepts it. -/
theorem sqn_synchronised (start : AkaLink) (hempty : start.issued = [])
    (hstart : Provisioned aes imsi mil amf start) {es : List AkaEvent} {s : AkaLink}
    (hroom : Along (step aes md5 imsi) (Room imsi) start es)
    (hrun : runFrom (step aes md5 imsi) start es = some s) :
    s.ue.sqn ≤ s.hssSqn imsi ∧
      ∀ pre rand mid, es = pre ++ .issue rand :: mid → (∀ e ∈ mid, OtherDelivery s e) →
        ∀ www random, some (IMSRegistration.nonceOf www) = s.issued.getLast? →
          ∃ header, ((IMSRegistration.computeAkaResponse aes md5 random www).run s.ue).1 = .ok (some header) := by
  have hsync : Synchronised aes imsi mil amf start :=
    { hstart with issued := fun nonce hn => by rw [hempty] at hn; cases hn }
  have hinv : ∀ {a b : AkaLink} {fs : List AkaEvent}, Synchronised aes imsi mil amf a →
      Along (step aes md5 imsi) (Room imsi) a fs → runFrom (step aes md5 imsi) a fs = some b →
        Synchronised aes imsi mil amf b := fun ha hP hr =>
    runFrom_invariant (step aes md5 imsi) (fun _ _ _ hI hR hst => hI.step hR hst) ha hP hr
  refine ⟨(hinv hsync hroom hrun).behind, ?_⟩
  rintro pre rand mid rfl hmid www random hwww
  rw [runFrom_append] at hrun
  obtain ⟨s₁, hpre, hrun⟩ := Option.bind_eq_some_iff.mp hrun
  obtain ⟨s₂, hissue, hrun⟩ := runFrom_cons_some _ hrun
  have hroom₁ := hroom.rest _ hpre
  have hsync₁ := hinv hsync (hroom.beginning _ (List.prefix_append ..)) hpre
  obtain ⟨last, hfresh⟩ := hsync₁.fresh_issue hroom₁.1 hissue
  have hothers : Along (step aes md5 imsi) (fun _ e => OtherDelivery s e) s₂ mid := Along.of_mem _ hmid s₂
  -- the deliveries behind the last vector issue nothing, so its nonce stays the last
  have hissued : s.issued = s₂.issued :=
    runFrom_invariant (I := fun a => a.issued = s₂.issued) (step aes md5 imsi)
      (fun a e b ha he hst => by
        obtain ⟨w, r, rfl, -⟩ := he
        rw [issued_deliver hst, ha]) rfl hothers hrun
  have hend : Fresh aes imsi mil amf last s := by
    refine runFrom_invariant (step aes md5 imsi) (fun a e b ha he hst => ?_) hfresh hothers hrun
    obtain ⟨w, r, rfl, hne⟩ := he
    apply ha.deliver _ hst
    rintro rfl
    exact hne (by rw [hissued, hfresh.last_issued])
  rw [hend.last_issued] at hwww
  obtain ⟨n, hlast, hle, -⟩ := hend.fresh
  rw [← Option.some.inj hwww] at hlast
  obtain ⟨header, hres⟩ := hend.respond md5 hlast random
  rw [if_pos hle] at hres
  exact ⟨header, by rw [hres]⟩

/-- A phone with the keys of the zero subscriber, before the first vector. -/
def zeroLink : AkaLink where
  helper := AuthHelper.zeroSubscriber
  ue :=
    { impi := "001010123456789@ims".toList
      homeDomain := "ims".toList
      ki := List.replicate 16 0
      opc := List.replicate 16 0
      sqn := 0 }
  issued := []

/-- The first vector of the zero subscriber is accepted by the phone. -/
theorem sqn_synchronised_zero :
    ∃ s, runFrom (step (fun _ b => b) id "001010123456789".toList) zeroLink
        [.issue ⟨List.replicate 16 7, rfl⟩] = some s ∧
      s.ue.sqn ≤ s.hssSqn "001010123456789".toList ∧
      ∀ www random, some (IMSRegistration.nonceOf www) = s.issued.getLast? →
        ∃ header, ((IMSRegistration.computeAkaResponse (fun _ b => b) id random www).run s.ue).1 =
          .ok (some header) := by
  have hstart : Provisioned (fun _ b => b) "001010123456789".toList AuthHelper.zeroKeys [0x80, 0x00]
      zeroLink :=
    { record := ⟨AuthHelper.zeroSecurity, rfl, AuthHelper.zeroSecurity_holds⟩
      keys := ⟨rfl, rfl⟩
      behind := by decide }
  obtain ⟨s, hrun⟩ : ∃ s, runFrom (step (fun _ b => b) id "001010123456789".toList) zeroLink
      [.issue ⟨List.replicate 16 7, rfl⟩] = some s := ⟨_, rfl⟩
  have hroom : Along (step (fun _ b => b) id "001010123456789".toList)
      (Room "001010123456789".toList) zeroLink [.issue ⟨List.replicate 16 7, rfl⟩] :=
    ⟨by show _ + 32 < 2 ^ 48; decide, fun _ _ => trivial⟩
  obtain ⟨hbehind, haccepted⟩ := sqn_synchronised zeroLink rfl hstart hroom hrun
  exact ⟨s, hrun, hbehind, haccepted [] _ [] rfl (fun e he => by cases he)⟩

end AkaLink

end VirtualPhone
