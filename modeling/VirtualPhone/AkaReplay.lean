import VirtualPhone.ApduHandler

/-! # Replay of authentication challenges

The card is run on arbitrary commands and the challenges it accepts (answer DB) are collected in
order.  The stored sequence number advances by one for each accepted challenge and is never below
what it was, while a challenge is accepted for any number from the stored one up.  So the accepted
numbers increase strictly as long as no challenge runs ahead of the stored number, and a challenge
that does run ahead is accepted a second time. -/

namespace VirtualPhone

open Runtime

namespace ApduHandler

variable (P : Platform)

/-- The challenge of a command answered with DB. -/
def successful (card : Card) (raw : Bytes) : Option Challenge :=
  match challenge3G raw, activeMilenage card.euicc with
  | some (rand, autn), some mil =>
      if (process P raw card).1.data.head? = some 0xDB then
        some ⟨rand, autn, mil.challengeSqn P.aes rand autn⟩
      else none
  | _, _ => none

/-- The successfully authenticated challenges of a run, in order. -/
def successfulRun : Card → List Bytes → List Challenge
  | _, [] => []
  | card, raw :: raws =>
      (successful P card raw).toList ++ successfulRun (process P raw card).2 raws

/-- The challenge of a command whose MAC is right under the keys of the active profile. -/
def genuine (e : Euicc) (raw : Bytes) : Option Challenge :=
  match challenge3G raw, activeMilenage e with
  | some (rand, autn), some mil =>
      if (mil.verified P.aes rand autn).isSome then
        some ⟨rand, autn, mil.challengeSqn P.aes rand autn⟩
      else none
  | _, _ => none

/-- The command carries no genuine challenge ahead of the stored sequence number. -/
def NotAhead (card : Card) (raw : Bytes) : Prop :=
  ∀ ch ∈ genuine P card.euicc raw, ch.sqn ≤ storedSqn card.euicc

instance (card : Card) (raw : Bytes) : Decidable (NotAhead P card raw) :=
  inferInstanceAs (Decidable (∀ ch ∈ _, _))

/-- The card after a command. -/
def step (card : Card) (raw : Bytes) : Option Card := some (process P raw card).2

/-! ### One command -/

theorem acceptedBy_eq_some_iff (e : Euicc) (raw : Bytes) (ch : Challenge) :
    acceptedBy P e raw = some ch ↔ genuine P e raw = some ch ∧ storedSqn e ≤ ch.sqn := by
  unfold acceptedBy genuine
  cases challenge3G raw with
  | none => simp
  | some v =>
      obtain ⟨rand, autn⟩ := v
      simp only [Option.bind_some, accepts]
      cases activeMilenage e with
      | none => simp
      | some mil =>
          simp only
          by_cases hver : (mil.verified P.aes rand autn).isSome
          · by_cases hs : storedSqn e ≤ mil.challengeSqn P.aes rand autn
            · rw [if_pos ⟨hver, hs⟩, if_pos hver]
              refine ⟨fun h => ⟨h, ?_⟩, fun h => h.1⟩
              rw [← Option.some.inj h]
              exact hs
            · rw [if_neg (fun h => hs h.2), if_pos hver]
              refine iff_of_false (by simp) ?_
              rintro ⟨h, hle⟩
              rw [← Option.some.inj h] at hle
              exact hs hle
          · rw [if_neg (fun h => hver h.1), if_neg hver]
            simp

theorem successful_eq_acceptedBy (card : Card) (raw : Bytes) :
    successful P card raw = acceptedBy P card.euicc raw := by
  have hspec := process_spec P raw card
  unfold successful
  cases hch : challenge3G raw with
  | none =>
      rw [acceptedBy, hch]
      rfl
  | some v =>
      obtain ⟨rand, autn⟩ := v
      rcases hspec with ⟨ch, hacc, -, hdb⟩ | ⟨hnone, -, hdb⟩
      · rw [hacc]
        have hgen := ((acceptedBy_eq_some_iff P _ _ _).mp hacc).1
        unfold genuine at hgen
        rw [hch] at hgen
        cases hm : activeMilenage card.euicc with
        | none =>
            rw [hm] at hgen
            cases hgen
        | some mil =>
            rw [hm] at hgen
            simp only at hgen
            split_ifs at hgen with hver
            simp only [if_pos hdb, hgen]
      · rw [hnone]
        have hdb' := hdb (by rw [hch]; rfl)
        cases activeMilenage card.euicc with
        | none => rfl
        | some mil => simp only [if_neg hdb']

theorem getActiveProfile_incrementActive (e : Euicc) :
    (incrementActive e).getActiveProfile = e.getActiveProfile.map Isdp.incrementSqn := by
  unfold incrementActive Euicc.getActiveProfile
  cases h : e.activeIccid with
  | none => simp [h]
  | some iccid =>
      cases iccid with
      | nil => simp
      | cons c s => simp [Dict.get?_modify]

theorem activeMilenage_incrementActive (e : Euicc) :
    activeMilenage (incrementActive e) = activeMilenage e := by
  unfold activeMilenage
  rw [getActiveProfile_incrementActive]
  cases e.getActiveProfile <;> rfl

theorem storedSqn_incrementActive {e : Euicc} {ch : Challenge} {raw : Bytes}
    (h : acceptedBy P e raw = some ch) : storedSqn (incrementActive e) = storedSqn e + 1 := by
  have hactive : e.getActiveProfile ≠ none := by
    intro hnone
    have hgen := ((acceptedBy_eq_some_iff P e raw ch).mp h).1
    unfold genuine activeMilenage at hgen
    rw [hnone] at hgen
    cases hc : challenge3G raw <;> rw [hc] at hgen <;> cases hgen
  obtain ⟨profile, hp⟩ := Option.ne_none_iff_exists'.mp hactive
  unfold storedSqn
  rw [getActiveProfile_incrementActive, hp]
  rfl

/-- **Step lemma.**  The keys stay, and the stored number advances exactly on success. -/
theorem step_sqn (card : Card) (raw : Bytes) :
    activeMilenage (process P raw card).2.euicc = activeMilenage card.euicc ∧
      storedSqn (process P raw card).2.euicc =
        storedSqn card.euicc + (if (successful P card raw).isSome then 1 else 0) := by
  rw [successful_eq_acceptedBy]
  rcases process_spec P raw card with ⟨ch, hacc, he, -⟩ | ⟨hnone, he, -⟩
  · rw [he, hacc, activeMilenage_incrementActive, storedSqn_incrementActive P hacc]
    exact ⟨rfl, rfl⟩
  · rw [he, hnone]
    exact ⟨rfl, rfl⟩

theorem successful_sqn {card : Card} {raw : Bytes} {ch : Challenge}
    (h : successful P card raw = some ch) :
    storedSqn card.euicc ≤ ch.sqn ∧ ∃ mil, activeMilenage card.euicc = some mil ∧
      ch.sqn = mil.challengeSqn P.aes ch.rand ch.autn := by
  have hle : storedSqn card.euicc ≤ ch.sqn := by
    rw [successful_eq_acceptedBy] at h
    exact ((acceptedBy_eq_some_iff P _ _ _).mp h).2
  refine ⟨hle, ?_⟩
  unfold successful at h
  split at h
  · rename_i rand autn mil _ hm
    split_ifs at h
    refine ⟨mil, hm, ?_⟩
    rw [← Option.some.inj h]
  · cases h

/-! ### Runs -/

/-- **Run lemma.**  Whatever is accepted later is not below the number stored now, and its number
is determined by the keys of now. -/
theorem mem_successfulRun {card : Card} {raws : List Bytes} {ch : Challenge}
    (h : ch ∈ successfulRun P card raws) :
    storedSqn card.euicc ≤ ch.sqn ∧ ∃ mil, activeMilenage card.euicc = some mil ∧
      ch.sqn = mil.challengeSqn P.aes ch.rand ch.autn := by
  induction raws generalizing card with
  | nil => cases h
  | cons raw raws ih =>
      rcases List.mem_append.mp h with h | h
      · exact successful_sqn P (Option.mem_toList.mp h)
      · obtain ⟨hle, hmil⟩ := ih h
        obtain ⟨hkeys, hsqn⟩ := step_sqn P card raw
        rw [hkeys] at hmil
        exact ⟨by omega, hmil⟩

/-- **Replay protection, and where it ends.**  In a run in which no genuine challenge is ahead of
the stored sequence number, the accepted numbers increase strictly and no challenge is accepted
twice.  An accepted challenge is accepted again at once if and only if it was ahead. -/
theorem replay_protection :
    (∀ (card : Card) (raws : List Bytes), Along (step P) (NotAhead P) card raws →
      (successfulRun P card raws).Pairwise fun a b =>
        a.sqn < b.sqn ∧ (a.rand, a.autn) ≠ (b.rand, b.autn)) ∧
    ∀ (card : Card) (raw : Bytes) (ch : Challenge), successful P card raw = some ch →
      (successful P (process P raw card).2 raw = some ch ↔ ¬ NotAhead P card raw) := by
  refine ⟨?_, ?_⟩
  · intro card raws hahead
    induction raws generalizing card with
    | nil => exact List.Pairwise.nil
    | cons raw raws ih =>
        rw [along_cons] at hahead
        have htail := ih _ (hahead.2 _ rfl)
        rw [successfulRun]
        cases hs : successful P card raw with
        | none => exact htail
        | some ch =>
            refine List.pairwise_cons.mpr ⟨?_, htail⟩
            intro b hb
            obtain ⟨hle, mil, hmil, hbsqn⟩ := mem_successfulRun P hb
            obtain ⟨hkeys, hsqn⟩ := step_sqn P card raw
            obtain ⟨-, mil', hmil', hsqn'⟩ := successful_sqn P hs
            obtain rfl : mil' = mil := by
              rw [hkeys, hmil'] at hmil
              exact Option.some.inj hmil
            rw [hs] at hsqn
            have hch : ch.sqn ≤ storedSqn card.euicc := by
              rw [successful_eq_acceptedBy] at hs
              exact hahead.1 ch ((acceptedBy_eq_some_iff P _ _ _).mp hs).1
            have hlt : ch.sqn < b.sqn := by
              simp only [Option.isSome_some, if_true] at hsqn
              omega
            refine ⟨hlt, ?_⟩
            intro heq
            obtain ⟨hr, ha⟩ := Prod.mk.inj heq
            rw [hsqn', hbsqn, hr, ha] at hlt
            exact absurd hlt (lt_irrefl _)
  · intro card raw ch hs
    obtain ⟨hkeys, hsqn⟩ := step_sqn P card raw
    have hacc := hs
    rw [successful_eq_acceptedBy, acceptedBy_eq_some_iff] at hacc
    have hgen : genuine P (process P raw card).2.euicc raw = some ch := by
      unfold genuine at hacc ⊢
      rw [hkeys]
      exact hacc.1
    rw [hs] at hsqn
    simp only [Option.isSome_some, if_true] at hsqn
    rw [successful_eq_acceptedBy, acceptedBy_eq_some_iff, hsqn, NotAhead, hacc.1]
    simp only [hgen, true_and, Option.mem_some_iff, forall_eq']
    omega

/-- A cipher with constant output, under which every MAC and every anonymity key is zero. -/
def zeroPlatform : Platform := ⟨fun _ _ => ⟨List.replicate 16 0, rfl⟩, id⟩

/-- A card with one enabled profile whose keys are zero. -/
def zeroCard : Card where
  euicc := {
    info := { eid := [] }
    state := .ready
    profiles := Dict.ofList [(['1'], {
      iccid := ['1'], imsi := [], aid := [], ki := List.replicate 32 '0'
      opc := List.replicate 32 '0', state := .enabled })]
    activeIccid := some ['1'] }

/-- An AUTHENTICATE command in 3G context with a zero RAND and the AUTN of number `n` under zero
keys. -/
def zeroChallenge (n : UInt8) : Bytes :=
  [0x00, 0x88, 0x00, 0x81, 35, 0x80, 16] ++ List.replicate 16 0 ++
    [16, 0, 0, 0, 0, 0, n] ++ List.replicate 10 0

/-- Two challenges that are not ahead, in order. -/
theorem replay_protection_zero :
    (successfulRun zeroPlatform zeroCard [zeroChallenge 0, zeroChallenge 1]).Pairwise
        (fun a b => a.sqn < b.sqn ∧ (a.rand, a.autn) ≠ (b.rand, b.autn)) ∧
      (successful zeroPlatform (process zeroPlatform (zeroChallenge 5) zeroCard).2 (zeroChallenge 5) =
          some ⟨List.replicate 16 0, [0, 0, 0, 0, 0, 5] ++ List.replicate 10 0, 5⟩ ↔
        ¬ NotAhead zeroPlatform zeroCard (zeroChallenge 5)) :=
  ⟨(replay_protection zeroPlatform).1 zeroCard _ (by decide +kernel),
    (replay_protection zeroPlatform).2 zeroCard (zeroChallenge 5) _ (by decide +kernel)⟩

/-- A challenge with number 5 is accepted by a card that stores 0, and accepted again when it is
replayed. -/
theorem replay_accepted :
    ¬ ∀ (P : Platform) (card : Card) (raws : List Bytes),
      (∀ raw ∈ raws, (challenge3G raw).isSome) →
      (successfulRun P card raws).Pairwise fun a b =>
        a.sqn < b.sqn ∧ (a.rand, a.autn) ≠ (b.rand, b.autn) := by
  intro h
  have hrun := h zeroPlatform zeroCard [zeroChallenge 5, zeroChallenge 5]
    (forall_mem_of_all (by decide +kernel))
  have htwice : successfulRun zeroPlatform zeroCard [zeroChallenge 5, zeroChallenge 5] =
      List.replicate 2 ⟨List.replicate 16 0, [0, 0, 0, 0, 0, 5] ++ List.replicate 10 0, 5⟩ := by
    decide +kernel
  rw [htwice] at hrun
  simp at hrun

end ApduHandler

end VirtualPhone
