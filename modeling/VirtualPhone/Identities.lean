import VirtualPhone.AuthHelper
import VirtualPhone.Isdp

/-! # The identities of a subscriber

The NAI is derived by `generate_quintuplets` of `scripts/provision_epdg.py` and by `VoWiFiTunnel` of
`ims/vowifi.py`, the home domain by `generate_auth_vector` of `scripts/scscf_auth_helper.py` and by
`ISDP.get_isim_data` of `euicc/isdp.py`.  The scripts have the IMSI only and take two digits of it for
the MNC; the tunnel and the profile have the MNC, which the tunnel pads and the profile does not. -/

namespace VirtualPhone

open Runtime

/-- An IMSI with its parts. -/
structure Imsi where
  mcc : Text
  mnc : Text
  msin : Text
  mcc_length : mcc.length = 3
  mnc_length : mnc.length = 2 ∨ mnc.length = 3
  digits : ∀ c ∈ mcc ++ mnc ++ msin, IsDigit c

/-- The IMSI as it is written. -/
def Imsi.text (n : Imsi) : Text := n.mcc ++ n.mnc ++ n.msin

/-- The fields of `VoWiFiConfig` that name the subscriber. -/
structure VoWiFiConfig where
  mcc : Text := "001".toList
  mnc : Text := "01".toList
  imsi : Text := []
deriving DecidableEq

namespace VoWiFiTunnel

/-- `build_nai(imsi, mcc, mnc)`. -/
def buildNai (imsi mcc mnc : Text) : Text :=
  '0' :: imsi ++ "@nai.epc.mnc".toList ++ zfill mnc 3 ++ ".mcc".toList ++ zfill mcc 3 ++
    ".3gppnetwork.org".toList

/-- `_build_nai()`. -/
def nai (config : VoWiFiConfig) : Text := buildNai config.imsi config.mcc config.mnc

end VoWiFiTunnel

/-- The profile is that of a subscriber. -/
structure Isdp.Names (p : Isdp) (n : Imsi) : Prop where
  imsi : p.imsi = n.text
  mcc : p.mcc = n.mcc
  mnc : p.mnc = n.mnc

/-- The profile gives no IMS identities of its own. -/
def Isdp.Derives (p : Isdp) : Prop :=
  (p.impi = none ∨ p.impi = some []) ∧ (p.homeDomain = none ∨ p.homeDomain = some [])

/-- The rows of the ePDG are for the NAI of the tunnel. -/
def NaiAgrees (p : Isdp) : Prop :=
  ∀ (aes : Bytes → Block → Block) (ki opc : Bytes) (count sqnStart : ℕ) (rand : ℕ → Block)
    (rows : List Quintuplet),
    Milenage.generateQuintuplets aes ki opc p.imsi count sqnStart rand = .ok rows →
      ∀ row ∈ rows, row.permanent = VoWiFiTunnel.nai { mcc := p.mcc, mnc := p.mnc, imsi := p.imsi }

/-- The vectors of the S-CSCF are for the home domain of the profile. -/
def RealmAgrees (p : Isdp) : Prop :=
  ∀ (aes : Bytes → Block → Block) (rand : Block) (reach : Reach) (helper helper' : AuthHelper)
    (vector : AuthVector),
    (AuthHelper.generateAuthVector aes rand reach p.imsi).run helper = (.ok (some vector), helper') →
      some vector.realm = p.getIsimData.homeDomain

/-! ### The parts of an IMSI -/

namespace Imsi

variable (n : Imsi)

theorem slice_mcc : slice n.text 0 3 = n.mcc := by
  rw [slice, List.drop_zero, text, List.append_assoc, ← n.mcc_length, Nat.sub_zero, List.take_left]

theorem slice_mnc : slice n.text 3 5 = n.mnc.take 2 := by
  have hlength : 2 ≤ n.mnc.length := by
    rcases n.mnc_length with h | h <;> omega
  rw [slice, text, List.append_assoc, ← n.mcc_length, List.drop_left, n.mcc_length,
    List.take_append_of_le_length hlength]

theorem zfill_mnc (width : ℕ) {s : Text} (h : ∀ c ∈ s, c ∈ n.mnc) :
    zfill s width = List.replicate (width - s.length) '0' ++ s := by
  have hdigit : ∀ c ∈ s, IsDigit c := fun c hc =>
    n.digits c (List.mem_append_left _ (List.mem_append_right _ (h c hc)))
  unfold zfill
  split
  · exact absurd (hdigit '+' List.mem_cons_self) (by decide)
  · exact absurd (hdigit '-' List.mem_cons_self) (by decide)
  · rfl

theorem zfill_mcc : zfill n.mcc 3 = n.mcc := by
  unfold zfill
  split
  · next r heq =>
      have hlength := n.mcc_length
      rw [heq] at hlength ⊢
      rw [hlength]
      rfl
  · next r heq =>
      have hlength := n.mcc_length
      rw [heq] at hlength ⊢
      rw [hlength]
      rfl
  · rw [n.mcc_length]
    rfl

theorem zfill_slice : zfill (slice n.text 3 5) 3 = '0' :: n.mnc.take 2 := by
  have hlength : (n.mnc.take 2).length = 2 := by
    rw [List.length_take]
    rcases n.mnc_length with h | h <;> omega
  rw [slice_mnc, n.zfill_mnc 3 fun c hc => List.mem_of_mem_take hc, hlength]
  rfl

/-- The two digits with a zero are the MNC itself only for one MNC. -/
theorem zero_cons_iff : '0' :: n.mnc.take 2 = n.mnc ↔ n.mnc = "000".toList := by
  rcases n.mnc_length with h | h
  · refine iff_of_false (fun heq => ?_) (fun heq => ?_)
    · have hlength := congrArg List.length heq
      rw [List.length_cons, List.length_take, h] at hlength
      omega
    · rw [heq] at h
      cases h
  · obtain ⟨a, b, c, habc⟩ := List.length_eq_three.mp h
    rw [habc]
    simp only [List.take_succ_cons, List.take_zero, List.cons.injEq, and_true]
    constructor
    · rintro ⟨rfl, rfl, rfl⟩
      rfl
    · intro heq
      obtain ⟨rfl, rfl, rfl⟩ : a = '0' ∧ b = '0' ∧ c = '0' := by simpa using heq
      exact ⟨rfl, rfl, rfl⟩

/-- The padded MNC is what the scripts make of it for an MNC of two digits. -/
theorem zfill_eq_iff :
    '0' :: n.mnc.take 2 = zfill n.mnc 3 ↔ n.mnc.length = 2 ∨ n.mnc = "000".toList := by
  rw [n.zfill_mnc 3 fun _ hc => hc]
  rcases n.mnc_length with h | h
  · refine iff_of_true ?_ (Or.inl h)
    rw [h, List.take_of_length_le h.le]
    rfl
  · rw [h, or_iff_right (by omega)]
    exact n.zero_cons_iff

end Imsi

/-! ### The four derivations -/

theorem quintuplets_permanent {aes : Bytes → Block → Block} {m : Milenage} {permanent : Text}
    {amf : Bytes} {sqnStart : ℕ} {rand : ℕ → Block} {i count : ℕ} {rows : List Quintuplet}
    (h : m.quintuplets aes permanent amf sqnStart rand i count = .ok rows) :
    ∀ row ∈ rows, row.permanent = permanent := by
  induction count generalizing i rows with
  | zero =>
      obtain rfl := Except.ok.inj h
      exact fun _ hrow => absurd hrow List.not_mem_nil
  | succ count ih =>
      obtain ⟨sqn, -, h⟩ := bind_eq_ok h
      obtain ⟨v, -, h⟩ := bind_eq_ok h
      obtain ⟨rest, hrest, h⟩ := bind_eq_ok h
      obtain rfl := Except.ok.inj h
      intro row hrow
      rcases List.mem_cons.mp hrow with rfl | hrow
      · rfl
      · exact ih hrest row hrow

theorem generateAuthVector_realm {aes : Bytes → Block → Block} {rand : Block} {reach : Reach}
    {imsi : Text} {helper helper' : AuthHelper} {vector : AuthVector}
    (h : (AuthHelper.generateAuthVector aes rand reach imsi).run helper = (.ok (some vector), helper')) :
    vector.realm = AuthHelper.homeRealm imsi := by
  replace h : (AuthHelper.generateAuthVector aes rand reach imsi).result? helper = some (some vector) :=
    Py.result?_eq_some_iff.mpr (congrArg Prod.fst h)
  unfold AuthHelper.generateAuthVector at h
  rw [Py.result?_bind_run rfl] at h
  cases hsub : helper.getSubscriber reach imsi with
  | none =>
      simp only [hsub] at h
      cases h
  | some security =>
      simp only [hsub] at h
      split at h
      · cases h
      · obtain ⟨mil, -, h⟩ := Option.bind_eq_some_iff.mp ((Py.result?_bind _ _ _).symm.trans h)
        obtain ⟨sqn, -, h⟩ := Option.bind_eq_some_iff.mp ((Py.result?_bind _ _ _).symm.trans h)
        obtain ⟨amf, -, h⟩ := Option.bind_eq_some_iff.mp ((Py.result?_bind _ _ _).symm.trans h)
        obtain ⟨v, -, h⟩ := Option.bind_eq_some_iff.mp ((Py.result?_bind _ _ _).symm.trans h)
        have hvector : AuthHelper.authVector imsi rand v = vector := by
          split at h
          · exact Option.some.inj (Option.some.inj h)
          · exact Option.some.inj (Option.some.inj h)
        rw [← hvector]
        rfl

theorem quintuplets_exist (imsi : Text) :
    ∃ row rows, Milenage.generateQuintuplets (fun _ b => b) AuthHelper.zeroKeys.ki AuthHelper.zeroKeys.opc
      imsi 1 0 (fun _ => ⟨List.replicate 16 7, rfl⟩) = .ok (row :: rows) := by
  obtain ⟨rows, hrows, hlength, -⟩ :=
    (AuthHelper.aka_complete (fun _ b => b) AuthHelper.zeroKeys rfl rfl).2.1 imsi 1 0
      (fun _ => ⟨List.replicate 16 7, rfl⟩) (fun i hi => by omega)
  cases rows with
  | nil => cases hlength
  | cons row rows => exact ⟨row, rows, hrows⟩

/-- The helper of one subscriber. -/
def oneSubscriber (imsi : Text) : AuthHelper where
  subscribers := Dict.empty.set imsi AuthHelper.zeroSecurity
  vectorCache := Dict.empty

theorem vector_exists (imsi : Text) :
    ∃ (helper' : AuthHelper) (vector : AuthVector),
      (AuthHelper.generateAuthVector (fun _ b => b) ⟨List.replicate 16 7, rfl⟩ ⟨true, true⟩ imsi).run
        (oneSubscriber imsi) = (.ok (some vector), helper') := by
  obtain ⟨v, -, -, hrun⟩ := @AuthHelper.generateAuthVector_run _ (oneSubscriber imsi) imsi _
    (Dict.get?_set_self _ _ _) _ _ _ AuthHelper.zeroSecurity_holds ⟨List.replicate 16 7, rfl⟩
    ⟨true, true⟩ rfl
  exact ⟨_, _, hrun⟩

/-! ### Where they agree -/

theorem around_inj (a b c d x y : Text) : a ++ x ++ b ++ c ++ d = a ++ y ++ b ++ c ++ d ↔ x = y := by
  simp only [List.append_cancel_left_eq, List.append_cancel_right_eq]

/-- The identity of the ePDG agrees with the NAI of the tunnel for an MNC of two digits. -/
theorem naiAgrees_iff {p : Isdp} {n : Imsi} (hnames : p.Names n) :
    NaiAgrees p ↔ n.mnc.length = 2 ∨ n.mnc = "000".toList := by
  have hnai : '0' :: p.imsi ++ "@nai.epc.mnc".toList ++ zfill (slice p.imsi 3 5) 3 ++ ".mcc".toList ++
      slice p.imsi 0 3 ++ ".3gppnetwork.org".toList =
        VoWiFiTunnel.nai { mcc := p.mcc, mnc := p.mnc, imsi := p.imsi } ↔
          '0' :: n.mnc.take 2 = zfill n.mnc 3 := by
    rw [VoWiFiTunnel.nai, VoWiFiTunnel.buildNai, hnames.imsi, hnames.mcc, hnames.mnc, n.zfill_slice,
      n.slice_mcc, n.zfill_mcc]
    exact around_inj _ _ _ _ _ _
  rw [← n.zfill_eq_iff, ← hnai]
  constructor
  · intro h
    obtain ⟨row, rows, hrows⟩ := quintuplets_exist p.imsi
    rw [← h _ _ _ _ _ _ _ hrows row List.mem_cons_self]
    obtain ⟨mil, -, hrows⟩ := bind_eq_ok hrows
    exact (quintuplets_permanent hrows row List.mem_cons_self).symm
  · intro h aes ki opc count sqnStart rand rows hrows row hrow
    obtain ⟨mil, -, hrows⟩ := bind_eq_ok hrows
    rw [← h]
    exact quintuplets_permanent hrows row hrow

/-- The realm of the S-CSCF agrees with the domain of the profile for one MNC only. -/
theorem realmAgrees_iff {p : Isdp} {n : Imsi} (hnames : p.Names n) (hderives : p.Derives) :
    RealmAgrees p ↔ n.mnc = "000".toList := by
  have hdomain : p.getIsimData.homeDomain =
      some ("ims.mnc".toList ++ n.mnc ++ ".mcc".toList ++ n.mcc ++ ".3gppnetwork.org".toList) := by
    rw [Isdp.getIsimData, if_pos hderives.1]
    rcases hderives.2 with h | h
    · rw [h, hnames.mnc, hnames.mcc]
      rfl
    · rw [h, hnames.mnc, hnames.mcc]
      rfl
  have hhome : AuthHelper.homeRealm p.imsi = "ims.mnc".toList ++ '0' :: n.mnc.take 2 ++ ".mcc".toList ++
      n.mcc ++ ".3gppnetwork.org".toList := by
    unfold AuthHelper.homeRealm
    simp only [hnames.imsi, n.zfill_slice, n.slice_mcc]
  have hrealm : some (AuthHelper.homeRealm p.imsi) = p.getIsimData.homeDomain ↔
      '0' :: n.mnc.take 2 = n.mnc := by
    simp only [hdomain, hhome, Option.some_inj, around_inj]
  rw [← n.zero_cons_iff, ← hrealm]
  constructor
  · intro h
    obtain ⟨helper', vector, hrun⟩ := vector_exists p.imsi
    rw [← h _ _ _ _ _ _ hrun, generateAuthVector_realm hrun]
  · intro h aes rand reach helper helper' vector hrun
    rw [← h, generateAuthVector_realm hrun]

/-- **The identities agree for one MNC only.**  The NAIs agree for an MNC of two digits as well; the
domain of the profile is not padded. -/
theorem identities_agree_iff (p : Isdp) (n : Imsi) (hnames : p.Names n) (hderives : p.Derives) :
    (NaiAgrees p ∧ RealmAgrees p ↔ n.mnc = "000".toList) ∧
      (NaiAgrees p ↔ n.mnc.length = 2 ∨ n.mnc = "000".toList) := by
  refine ⟨?_, naiAgrees_iff hnames⟩
  rw [naiAgrees_iff hnames, realmAgrees_iff hnames hderives]
  constructor
  · exact fun h => h.2
  · exact fun h => ⟨Or.inr h, h⟩

/-- The IMSI 001010123456789 with an MNC of two digits. -/
def testImsi : Imsi where
  mcc := "001".toList
  mnc := "01".toList
  msin := "0123456789".toList
  mcc_length := rfl
  mnc_length := Or.inl rfl
  digits := forall_mem_of_all (by decide)

/-- The profile of that IMSI. -/
def testSubscriber : Isdp where
  iccid := "8901010000000000001".toList
  imsi := testImsi.text
  aid := "A0000005591010FFFFFFFF8900000101".toList
  ki := List.replicate 32 '0'
  opc := List.replicate 32 '0'

/-- For it the domains differ. -/
theorem identities_agree_two_digits :
    (NaiAgrees testSubscriber ∧ RealmAgrees testSubscriber ↔ testImsi.mnc = "000".toList) ∧
      (NaiAgrees testSubscriber ↔ testImsi.mnc.length = 2 ∨ testImsi.mnc = "000".toList) :=
  identities_agree_iff testSubscriber testImsi ⟨rfl, rfl, rfl⟩ ⟨Or.inl rfl, Or.inl rfl⟩

/-- The helper's realm has the MNC 001 and the profile's domain the MNC 01. -/
theorem identities_disagree :
    ∃ (p : Isdp) (n : Imsi), p.Names n ∧ p.Derives ∧ ¬ (NaiAgrees p ∧ RealmAgrees p) :=
  ⟨testSubscriber, testImsi, ⟨rfl, rfl, rfl⟩, ⟨Or.inl rfl, Or.inl rfl⟩, fun h =>
    absurd ((@realmAgrees_iff testSubscriber testImsi ⟨rfl, rfl, rfl⟩ ⟨Or.inl rfl, Or.inl rfl⟩).mp h.2)
      (by decide)⟩

end VirtualPhone
