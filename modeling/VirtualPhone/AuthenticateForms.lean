import VirtualPhone.AkaReplay
import VirtualPhone.AkaVector
import Mathlib.Data.List.GetD

/-! # The two forms of AUTHENTICATE (`euicc/apdu/handler.py`)

A card is asked to authenticate with `80 10 RAND 10 AUTN` in 3G context and with `00 10 RAND` in 2G
context.  `_handle_authenticate` tests the length of the whole data once, takes RAND and AUTN by length
octets out of the data, and takes everything that is not 3G context as 2G.

`process_authenticate` says what the answer is for all data; `tells_contexts_iff` when it is the one the
two forms ask for.  The 2G form is shorter than the least length, and a RAND that is empty or too long
is answered from what there is of it. -/

namespace VirtualPhone

open Runtime

/-! ### The forms -/

/-- The data of a command in 3G context. -/
def Form3G (d : Bytes) : Prop :=
  ∃ rand autn : Bytes, rand.length = 16 ∧ autn.length = 16 ∧ d = 0x80 :: 0x10 :: (rand ++ 0x10 :: autn)

/-- The data of a command in 2G context. -/
def Form2G (d : Bytes) : Prop := ∃ rand : Bytes, rand.length = 16 ∧ d = 0x00 :: 0x10 :: rand

namespace ApduResponse

/-- `is_success`. -/
def IsSuccess (r : ApduResponse) : Prop := r.sw1 = 0x90 ∧ r.sw2 = 0x00

/-- A result in 3G context: DB with the keys, or DC with AUTS. -/
def Is3G (r : ApduResponse) : Prop :=
  r.IsSuccess ∧ (r.data.head? = some 0xDB ∨ r.data.head? = some 0xDC)

/-- A result in 2G context: SRES and Kc. -/
def Is2G (r : ApduResponse) : Prop :=
  r.IsSuccess ∧ ∃ sres kc : Bytes, sres.length = 4 ∧ kc.length = 8 ∧ r.data = 4 :: sres ++ 8 :: kc

/-- An error without data. -/
def IsError (r : ApduResponse) : Prop := ¬r.IsSuccess ∧ r.data = []

theorem IsError.not_is3G {r : ApduResponse} (h : r.IsError) : ¬r.Is3G := fun h3 => h.1 h3.1

theorem IsError.not_is2G {r : ApduResponse} (h : r.IsError) : ¬r.Is2G := fun h2 => h.1 h2.1

theorem Is2G.not_is3G {r : ApduResponse} (h : r.Is2G) : ¬r.Is3G := by
  obtain ⟨-, sres, kc, -, -, hdata⟩ := h
  rintro ⟨-, hhead | hhead⟩
  · rw [hdata] at hhead
    exact absurd (Option.some.inj hhead) (by decide)
  · rw [hdata] at hhead
    exact absurd (Option.some.inj hhead) (by decide)

theorem isError_swWrongLength : swWrongLength.IsError := ⟨fun h => absurd h.1 (by decide), rfl⟩

theorem isError_swInternalError : swInternalError.IsError := ⟨fun h => absurd h.1 (by decide), rfl⟩

end ApduResponse

open ApduResponse

/-- The length octet of RAND. -/
def randLen (d : Bytes) : ℕ := (d.getD 1 0).toNat

/-- What there is of RAND. -/
def randOf (d : Bytes) : Bytes := slice d 2 (2 + randLen d)

/-- **The response tells the two forms apart**: a result of each context for data of its form, and an
error for everything else, above all where RAND has not sixteen octets. -/
structure TellsContexts (d : Bytes) (r : ApduResponse) : Prop where
  threeG : r.Is3G ↔ Form3G d
  twoG : r.Is2G ↔ Form2G d
  error : ¬Form3G d → ¬Form2G d → r.IsError
  sixteen : (randOf d).length ≠ 16 → r.IsError

/-- The data is long enough and reaches beyond its RAND in 3G context. -/
def Takes3G (d : Bytes) : Prop := 34 ≤ d.length ∧ d.getD 0 0 = 0x80 ∧ 2 + randLen d + 2 ≤ d.length

instance (d : Bytes) : Decidable (Takes3G d) := inferInstanceAs (Decidable (_ ∧ _))

/-- RAND and AUTN have sixteen octets, AUTN as far as there is one. -/
def WholeChallenge (d : Bytes) : Prop :=
  randLen d = 16 ∧ min (d.getD 18 0).toNat (d.length - 19) = 16

/-- What there is of AUTN, behind RAND. -/
def autnOf (d : Bytes) : Bytes :=
  slice d (2 + randLen d + 1) (2 + randLen d + 1 + (d.getD (2 + randLen d) 0).toNat)

theorem randOf_length {d : Bytes} (h : 34 ≤ d.length) :
    (randOf d).length = min (randLen d) (d.length - 2) := by
  rw [randOf, slice_length]
  omega

theorem Takes3G.wholeChallenge_iff {d : Bytes} (h : Takes3G d) :
    WholeChallenge d ↔ (randOf d).length = 16 ∧ (autnOf d).length = 16 := by
  obtain ⟨hle, -, hlong⟩ := h
  have hrand : (randOf d).length = randLen d := by
    rw [randOf_length hle]
    omega
  rw [hrand, autnOf, slice_length, WholeChallenge]
  refine and_congr_right fun hsixteen => ?_
  rw [hsixteen, show 2 + 16 = 18 from rfl]
  omega

/-! ### Milenage -/

namespace Milenage

variable (aes : Bytes → Block → Block) {m : Milenage}

theorem authenticate_whole (hopc : m.opc.length = 16) {rand autn : Bytes} (hrand : rand.length = 16)
    (hautn : autn.length = 16) (sqn : ℕ) : ∃ r, m.authenticate aes rand autn sqn = .ok r := by
  obtain ⟨res, ck, ik, ak, hf, -, -, -, hak⟩ := f2345_whole aes hopc hrand
  have hsqn : (xorBytes (slice autn 0 6) ak).length = 6 := by simp [slice_length, hautn, hak]
  have hamf : (slice autn 6 8).length = 2 := by simp [slice_length, hautn]
  obtain ⟨mac, hmac, -⟩ := f1_block aes hopc hrand hsqn hamf
  rw [authenticate, if_neg (by omega), hf, ok_bind]
  dsimp only
  rw [hmac, ok_bind]
  split_ifs <;> exact ⟨_, rfl⟩

theorem authenticate_cut {rand autn : Bytes} (h : ¬(rand.length = 16 ∧ autn.length = 16)) (sqn : ℕ) :
    ∃ e, m.authenticate aes rand autn sqn = .error e := by
  rw [authenticate, if_pos (by omega)]
  exact ⟨_, rfl⟩

/-- A stored number of more than 48 bits is above the number of every challenge. -/
theorem authenticate_overflow {rand autn : Bytes} {sqn : ℕ} (hsqn : 2 ^ 48 ≤ sqn)
    (r : Bytes × Bytes × Bytes) : m.authenticate aes rand autn sqn ≠ .ok (some r) := by
  intro h
  have hle := ((m.authenticate_some_iff aes rand autn sqn r).mp h).2
  have hlt : m.challengeSqn aes rand autn < 2 ^ 48 := by
    unfold challengeSqn
    split
    · next ak _ =>
      refine (fromBE_lt _).trans_le ?_
      have hsix : (xorBytes (slice autn 0 6) ak).length ≤ 6 := by
        rw [xorBytes_length, slice_length]
        omega
      exact (Nat.pow_le_pow_right (by decide) hsix).trans_eq rfl
    · exact Nat.two_pow_pos 48
  omega

theorem generateAuts_overflow {rand : Bytes} {sqn : ℕ} (hsqn : 2 ^ 48 ≤ sqn) :
    m.generateAuts aes rand sqn = .error .overflowError := by
  rw [generateAuts, toBE, if_neg (by omega)]
  rfl

theorem gsmAuthenticate_long (hopc : m.opc.length = 16) {rand : Bytes} (hrand : 16 ≤ rand.length) :
    ∃ sres kc, m.gsmAuthenticate aes rand = .ok (sres, kc) ∧ sres.length = 4 ∧ kc.length = 8 := by
  have htake : xorBytes rand m.opc = xorBytes (rand.take 16) m.opc := by
    unfold xorBytes
    rw [List.zipWith_eq_zipWith_take_min, hopc, Nat.min_eq_right hrand, ← hopc, List.take_length]
  have hsame : m.f2345 aes rand = m.f2345 aes (rand.take 16) := by
    rw [f2345, htake, ← f2345]
  have hsixteen : (rand.take 16).length = 16 := by
    rw [List.length_take]
    omega
  obtain ⟨res, ck, ik, ak, hf, hres, hck, hik, -⟩ := f2345_whole aes hopc hsixteen
  refine ⟨slice res 0 4, xorBytes (xorBytes (slice ck 0 8) (ck.drop 8)) (xorBytes (slice ik 0 8) (ik.drop 8)),
    ?_, by simp [slice_length, hres], by simp [slice_length, hck, hik]⟩
  rw [gsmAuthenticate, hsame, hf]
  rfl

theorem gsmAuthenticate_nil (m : Milenage) : m.gsmAuthenticate aes [] = .ok ([], []) := by
  have houtput : ∀ k, m.output aes [] k = .ok [] := by
    intro k
    have hrotate : rotate [] (rotations k) = [] := by
      have := rotate_length [] (rotations k)
      exact List.length_eq_zero_iff.mp this
    have hempty : m.encrypt aes [] = .ok [] := rfl
    rw [output, show xorBytes [] m.opc = [] from rfl, hrotate, show xorBytes [] (constants k) = [] from rfl,
      hempty]
    rfl
  have hempty : m.encrypt aes (xorBytes [] m.opc) = .ok [] := rfl
  rw [gsmAuthenticate, f2345, hempty, ok_bind, houtput, ok_bind, houtput, ok_bind, houtput]
  rfl

theorem gsmAuthenticate_cut (hopc : m.opc.length = 16) {rand : Bytes} (hpos : 0 < rand.length)
    (hlt : rand.length < 16) : ∃ e, m.gsmAuthenticate aes rand = .error e := by
  have hlength : (xorBytes rand m.opc).length = rand.length := by
    rw [xorBytes_length, hopc]
    omega
  have hne : xorBytes rand m.opc ≠ [] := by
    intro hnil
    rw [hnil, List.length_nil] at hlength
    omega
  rw [gsmAuthenticate, f2345, encrypt, dif_neg (by omega), if_neg hne]
  exact ⟨_, rfl⟩

end Milenage

/-! ### The answer of the handler -/

namespace ApduHandler

section Platform

variable (P : Platform) {profile : Isdp} {mil : Milenage} (hmil : milenageOf profile = .ok mil)

include hmil

/-- The answer of a program, with the status word of an exception. -/
def answerOf (x : Py Card ApduResponse) (card : Card) : ApduResponse :=
  match (x.run card).1 with
  | .ok r => r
  | .error _ => swInternalError

theorem opc_length_of_milenageOf : mil.opc.length = 16 := by
  obtain ⟨ki, -, h⟩ := bind_eq_ok hmil
  obtain ⟨opc, -, h⟩ := bind_eq_ok h
  obtain ⟨rfl, -, hopc⟩ := Milenage.lengths_of_new h
  exact hopc

/-- A whole challenge gets a result, as long as the stored number has its 48 bits. -/
theorem answer_authenticate3G {rand autn : Bytes} (hrand : rand.length = 16) (hautn : autn.length = 16)
    (hsqn : profile.sqn < 2 ^ 48) (card : Card) :
    (answerOf (authenticate3G P profile rand autn) card).Is3G := by
  have hopc := opc_length_of_milenageOf hmil
  obtain ⟨r, hr⟩ := Milenage.authenticate_whole P.aes hopc hrand hautn profile.sqn
  cases r with
  | some r =>
      obtain ⟨data, hrun⟩ := run_authenticate3G_accepted P hmil hr card
      rw [answerOf, hrun]
      exact ⟨⟨rfl, rfl⟩, Or.inl rfl⟩
  | none =>
      obtain ⟨auts, -, hauts, hlength, -⟩ := Milenage.generateAuts_recovers P.aes hopc hrand hsqn
      have hrun : (authenticate3G P profile rand autn).run card =
          (.ok (swOk ([0xDC] ++ (UInt8.ofNat auts.length :: auts))), card) := by
        rw [authenticate3G, hmil, Py.run_lift_ok_bind, hr, Py.run_lift_ok_bind, hauts,
          Py.run_lift_ok_bind, counted_of_le (by omega)]
        rfl
      rw [answerOf, hrun]
      exact ⟨⟨rfl, rfl⟩, Or.inr rfl⟩

theorem answer_authenticate3G_refused {rand autn : Bytes}
    (h : ¬(rand.length = 16 ∧ autn.length = 16 ∧ profile.sqn < 2 ^ 48)) (card : Card) :
    answerOf (authenticate3G P profile rand autn) card = swInternalError := by
  have hrun : ∃ e, ((authenticate3G P profile rand autn).run card).1 = .error e := by
    rw [authenticate3G, hmil, Py.run_lift_ok_bind]
    by_cases hwhole : rand.length = 16 ∧ autn.length = 16
    · have hsqn : 2 ^ 48 ≤ profile.sqn := by
        by_contra hlt
        exact h ⟨hwhole.1, hwhole.2, by omega⟩
      obtain ⟨r, hr⟩ := Milenage.authenticate_whole P.aes (opc_length_of_milenageOf hmil) hwhole.1 hwhole.2
        profile.sqn
      cases r with
      | some r => exact absurd hr (Milenage.authenticate_overflow P.aes hsqn r)
      | none =>
          rw [hr, Py.run_lift_ok_bind, Milenage.generateAuts_overflow P.aes hsqn, Py.run_lift_error_bind]
          exact ⟨_, rfl⟩
    · obtain ⟨e, he⟩ := Milenage.authenticate_cut P.aes hwhole profile.sqn
      rw [he, Py.run_lift_error_bind]
      exact ⟨_, rfl⟩
  obtain ⟨e, he⟩ := hrun
  rw [answerOf, he]

/-- A RAND of a block or more gets a result in 2G context, an empty one two empty fields, and any other
an exception. -/
theorem answer_authenticate2G (rand : Bytes) (card : Card) :
    (16 ≤ rand.length → (answerOf (authenticate2G P profile rand) card).Is2G) ∧
      (rand = [] → answerOf (authenticate2G P profile rand) card = swOk [0, 0]) ∧
      (0 < rand.length → rand.length < 16 →
        answerOf (authenticate2G P profile rand) card = swInternalError) := by
  have hopc := opc_length_of_milenageOf hmil
  refine ⟨fun hlong => ?_, ?_, fun hpos hlt => ?_⟩
  · obtain ⟨sres, kc, hgsm, hsres, hkc⟩ := Milenage.gsmAuthenticate_long P.aes hopc hlong
    have hrun : (authenticate2G P profile rand).run card =
        (.ok (swOk ((UInt8.ofNat sres.length :: sres) ++ (UInt8.ofNat kc.length :: kc))), card) := by
      have hsresField : counted sres = .ok (UInt8.ofNat sres.length :: sres) := counted_of_le (by omega)
      have hkcField : counted kc = .ok (UInt8.ofNat kc.length :: kc) := counted_of_le (by omega)
      rw [authenticate2G, hmil, Py.run_lift_ok_bind, hgsm, Py.run_lift_ok_bind]
      simp only [hsresField, hkcField, Py.run_lift_ok_bind]
      rfl
    rw [answerOf, hrun]
    refine ⟨⟨rfl, rfl⟩, sres, kc, hsres, hkc, ?_⟩
    rw [hsres, hkc]
    rfl
  · rintro rfl
    have hrun : (authenticate2G P profile []).run card = (.ok (swOk [0, 0]), card) := by
      rw [authenticate2G, hmil, Py.run_lift_ok_bind, Milenage.gsmAuthenticate_nil P.aes mil]
      rfl
    rw [answerOf, hrun]
  · obtain ⟨e, he⟩ := Milenage.gsmAuthenticate_cut P.aes hopc hpos hlt
    rw [answerOf, authenticate2G, hmil, Py.run_lift_ok_bind, he, Py.run_lift_error_bind]

omit hmil in
/-- What `process` answers to AUTHENTICATE is the answer of `_handle_authenticate`. -/
theorem process_eq_answerOf {raw : Bytes} {cmd : ApduCommand} (hcmd : ApduCommand.fromBytes raw = .ok cmd)
    (hins : cmd.ins = 0x88) (card : Card) :
    (process P raw card).1 = answerOf (handleAuthenticate P cmd) card := by
  have hdispatch : dispatch P cmd = handleAuthenticate P cmd := by
    rw [dispatch, hins]
    rfl
  rw [answerOf, ← hdispatch]
  cases hrun : (dispatch P cmd).run card with
  | mk result card' =>
      cases result with
      | error e => rw [process_of_error P hcmd hrun]
      | ok r => rw [process_of_ok P hcmd hrun]

section

variable {raw : Bytes} {cmd : ApduCommand} {card : Card}
  (hcmd : ApduCommand.fromBytes raw = .ok cmd) (hins : cmd.ins = 0x88)
  (hactive : card.euicc.getActiveProfile = some profile)

include hcmd hins hactive

omit hmil in
theorem process_authenticate_short (hlt : cmd.data.length < 34) :
    (process P raw card).1 = swWrongLength := by
  rw [process_eq_answerOf P hcmd hins, answerOf, handleAuthenticate, Py.run_get_bind, hactive]
  simp only [if_pos hlt, Py.run_pure]

omit hmil in
theorem process_authenticate_3G (htakes : Takes3G cmd.data) :
    (process P raw card).1 =
      answerOf (authenticate3G P profile (randOf cmd.data) (autnOf cmd.data)) card := by
  have hchallenge : challenge cmd.data = some (randOf cmd.data, autnOf cmd.data) := if_pos htakes
  rw [process_eq_answerOf P hcmd hins, answerOf, answerOf, handleAuthenticate, Py.run_get_bind, hactive]
  simp only [if_neg (Nat.not_lt.mpr htakes.1), hchallenge]

omit hmil in
theorem process_authenticate_2G (hle : 34 ≤ cmd.data.length) (hother : ¬Takes3G cmd.data) :
    (process P raw card).1 = answerOf (authenticate2G P profile (randOf cmd.data)) card := by
  have hchallenge : challenge cmd.data = none := if_neg hother
  rw [process_eq_answerOf P hcmd hins, answerOf, answerOf, handleAuthenticate, Py.run_get_bind, hactive]
  simp only [if_neg (Nat.not_lt.mpr hle), hchallenge]
  rfl

/-- **The answer for all data**: data that is too short is refused; a challenge in 3G context is judged
if RAND and AUTN are whole; everything else is 2G context, with what there is of RAND. -/
theorem process_authenticate :
    let d := cmd.data
    let r := (process P raw card).1
    (d.length < 34 → r = swWrongLength) ∧
      (Takes3G d → WholeChallenge d ∧ profile.sqn < 2 ^ 48 → r.Is3G) ∧
      (Takes3G d → ¬(WholeChallenge d ∧ profile.sqn < 2 ^ 48) → r = swInternalError) ∧
      (34 ≤ d.length → ¬Takes3G d → randLen d = 0 → r = swOk [0, 0]) ∧
      (34 ≤ d.length → ¬Takes3G d → 0 < randLen d → randLen d < 16 → r = swInternalError) ∧
      (34 ≤ d.length → ¬Takes3G d → 16 ≤ randLen d → r.Is2G) := by
  intro d r
  have h3G : Takes3G d → r = answerOf (authenticate3G P profile (randOf d) (autnOf d)) card :=
    process_authenticate_3G P hcmd hins hactive
  have h2G : 34 ≤ d.length → ¬Takes3G d → r = answerOf (authenticate2G P profile (randOf d)) card :=
    process_authenticate_2G P hcmd hins hactive
  refine ⟨process_authenticate_short P hcmd hins hactive, fun htakes hgood => ?_, fun htakes hbad => ?_,
    fun hle hother hzero => ?_, fun hle hother hpos hlt => ?_, fun hle hother hlong => ?_⟩
  · obtain ⟨hlengthRand, hlengthAutn⟩ := htakes.wholeChallenge_iff.mp hgood.1
    rw [h3G htakes]
    exact answer_authenticate3G P hmil hlengthRand hlengthAutn hgood.2 card
  · rw [h3G htakes]
    refine answer_authenticate3G_refused P hmil (fun hgood => hbad ⟨?_, hgood.2.2⟩) card
    exact htakes.wholeChallenge_iff.mpr ⟨hgood.1, hgood.2.1⟩
  · rw [h2G hle hother]
    refine (answer_authenticate2G P hmil (randOf d) card).2.1 (List.length_eq_zero_iff.mp ?_)
    rw [randOf_length hle, hzero, Nat.zero_min]
  · rw [h2G hle hother]
    exact (answer_authenticate2G P hmil (randOf d) card).2.2 (by rw [randOf_length hle]; omega)
      (by rw [randOf_length hle]; omega)
  · rw [h2G hle hother]
    exact (answer_authenticate2G P hmil (randOf d) card).1 (by rw [randOf_length hle]; omega)

end

end Platform

end ApduHandler

/-! ### When the answer is right -/

theorem Form3G.whole {d : Bytes} (h : Form3G d) :
    Takes3G d ∧ WholeChallenge d ∧ d.length = 35 ∧ (randOf d).length = 16 := by
  obtain ⟨rand, autn, hrand, hautn, rfl⟩ := h
  have hlength : (0x80 :: 0x10 :: (rand ++ 0x10 :: autn)).length = 35 := by
    simp [hrand, hautn]
  have hlen : randLen (0x80 :: 0x10 :: (rand ++ 0x10 :: autn)) = 16 := rfl
  have hautnLen : (0x80 :: 0x10 :: (rand ++ 0x10 :: autn)).getD 18 0 = 0x10 := by
    rw [List.getD_cons_succ, List.getD_cons_succ, List.getD_append_right _ _ _ _ (by omega), hrand]
    rfl
  refine ⟨⟨by omega, rfl, by omega⟩, ⟨hlen, ?_⟩, hlength, ?_⟩
  · rw [hautnLen, hlength]
    rfl
  · rw [randOf, slice_length, hlen, hlength]
    rfl

theorem Form2G.short {d : Bytes} (h : Form2G d) : d.length = 18 := by
  obtain ⟨rand, hrand, rfl⟩ := h
  simp [hrand]

/-- The data has neither form and is refused. -/
def Refused (d : Bytes) (sqn : ℕ) : Prop :=
  d.length < 34 ∨ (Takes3G d ∧ ¬(WholeChallenge d ∧ sqn < 2 ^ 48)) ∨
    (¬Takes3G d ∧ 0 < randLen d ∧ randLen d < 16)

theorem tellsContexts_other {d : Bytes} {r : ApduResponse} (h3 : ¬Form3G d) (h2 : ¬Form2G d) :
    TellsContexts d r ↔ r.IsError := by
  refine ⟨fun h => h.error h3 h2, fun herror => ⟨?_, ?_, fun _ _ => herror, fun _ => herror⟩⟩
  · exact iff_of_false herror.not_is3G h3
  · exact iff_of_false herror.not_is2G h2

section

variable (P : Platform) {raw : Bytes} {cmd : ApduCommand} {card : Card} {profile : Isdp} {mil : Milenage}
  (hcmd : ApduCommand.fromBytes raw = .ok cmd) (hins : cmd.ins = 0x88)
  (hactive : card.euicc.getActiveProfile = some profile) (hmil : ApduHandler.milenageOf profile = .ok mil)

include hcmd hins hactive hmil

/-- An error without data is the answer exactly where the data is refused. -/
theorem authenticate_isError_iff :
    (ApduHandler.process P raw card).1.IsError ↔ Refused cmd.data profile.sqn := by
  obtain ⟨hshort, hresult, hjudged, hempty, hcut, horacle⟩ :=
    ApduHandler.process_authenticate P hmil hcmd hins hactive
  unfold Refused
  by_cases hlt : cmd.data.length < 34
  · rw [hshort hlt]
    exact iff_of_true isError_swWrongLength (Or.inl hlt)
  rw [or_iff_right hlt]
  by_cases htakes : Takes3G cmd.data
  · rw [or_iff_left fun h => h.1 htakes, and_iff_right htakes]
    by_cases hgood : WholeChallenge cmd.data ∧ profile.sqn < 2 ^ 48
    · exact iff_of_false (fun h => h.not_is3G (hresult htakes hgood)) (not_not.mpr hgood)
    · rw [hjudged htakes hgood]
      exact iff_of_true isError_swInternalError hgood
  · rw [or_iff_right fun h => htakes h.1, and_iff_right htakes]
    by_cases hzero : randLen cmd.data = 0
    · rw [hempty (by omega) htakes hzero]
      exact iff_of_false (fun h => h.1 ⟨rfl, rfl⟩) (by omega)
    by_cases hsixteen : randLen cmd.data < 16
    · rw [hcut (by omega) htakes (by omega) hsixteen]
      exact iff_of_true isError_swInternalError ⟨by omega, hsixteen⟩
    · have his := horacle (by omega) htakes (by omega)
      exact iff_of_false (fun h => h.not_is2G his) (by omega)

theorem tellsContexts_form3G (h3 : Form3G cmd.data) :
    TellsContexts cmd.data (ApduHandler.process P raw card).1 ↔ profile.sqn < 2 ^ 48 := by
  obtain ⟨-, hresult, hjudged, -, -, -⟩ := ApduHandler.process_authenticate P hmil hcmd hins hactive
  obtain ⟨htakes, hwhole, hlength, hrand⟩ := h3.whole
  constructor
  · intro h
    by_contra hsqn
    have herror := hjudged htakes fun hgood => hsqn hgood.2
    exact isError_swInternalError.not_is3G (herror ▸ h.threeG.mpr h3)
  · intro hsqn
    have his := hresult htakes ⟨hwhole, hsqn⟩
    have h2 : ¬Form2G cmd.data := fun h2 => by
      have := h2.short
      omega
    exact ⟨iff_of_true his h3, iff_of_false (fun h => h.not_is3G his) h2, fun hno => absurd h3 hno,
      fun hne => absurd hrand hne⟩

theorem not_tellsContexts_form2G (h2 : Form2G cmd.data) :
    ¬TellsContexts cmd.data (ApduHandler.process P raw card).1 := by
  have hshort := (ApduHandler.process_authenticate P hmil hcmd hins hactive).1
  intro h
  have hlength := h2.short
  have herror := hshort (by omega)
  exact isError_swWrongLength.not_is2G (herror ▸ h.twoG.mpr h2)

end

/-- **When AUTHENTICATE tells its two contexts apart**: on the 3G form, while the stored number has its
48 bits, and on data of neither form that is refused; never on the 2G form. -/
theorem tells_contexts_iff (P : Platform) {raw : Bytes} {cmd : ApduCommand} {card : Card} {profile : Isdp}
    {mil : Milenage} (hcmd : ApduCommand.fromBytes raw = .ok cmd) (hins : cmd.ins = 0x88)
    (hactive : card.euicc.getActiveProfile = some profile)
    (hmil : ApduHandler.milenageOf profile = .ok mil) :
    TellsContexts cmd.data (ApduHandler.process P raw card).1 ↔
      (Form3G cmd.data ∧ profile.sqn < 2 ^ 48) ∨
        (¬Form3G cmd.data ∧ ¬Form2G cmd.data ∧ Refused cmd.data profile.sqn) := by
  by_cases h3 : Form3G cmd.data
  · rw [tellsContexts_form3G P hcmd hins hactive hmil h3, and_iff_right h3,
      or_iff_left fun h => h.1 h3]
  by_cases h2 : Form2G cmd.data
  · refine iff_of_false (not_tellsContexts_form2G P hcmd hins hactive hmil h2) ?_
    rintro (⟨h, -⟩ | ⟨-, h, -⟩)
    · exact h3 h
    · exact h h2
  rw [tellsContexts_other h3 h2, authenticate_isError_iff P hcmd hins hactive hmil,
    or_iff_right fun h => h3 h.1, and_iff_right h3, and_iff_right h2]

open ApduHandler (process zeroCard zeroChallenge zeroPlatform)

/-- A challenge of the 3G form, under zero keys. -/
theorem tells_contexts_iff_zero :
    TellsContexts (0x80 :: 0x10 :: (List.replicate 16 0 ++ 0x10 :: ([0, 0, 0, 0, 0, 5] ++ List.replicate 10 0)))
      (process zeroPlatform (zeroChallenge 5) zeroCard).1 := by
  have hiff := @tells_contexts_iff zeroPlatform (zeroChallenge 5) _ zeroCard _ _ rfl rfl rfl rfl
  exact hiff.mpr (Or.inl ⟨⟨List.replicate 16 0, _, rfl, rfl, rfl⟩, by decide⟩)

/-- A command of the 2G form is refused, and a RAND of 32 octets in 3G context is answered with SRES
and Kc. -/
theorem forms_confused :
    ¬TellsContexts (0x00 :: 0x10 :: List.replicate 16 0)
        (process zeroPlatform ([0x00, 0x88, 0x00, 0x80, 18, 0x00, 0x10] ++ List.replicate 16 0) zeroCard).1 ∧
      (process zeroPlatform ([0x00, 0x88, 0x00, 0x81, 34, 0x80, 32] ++ List.replicate 32 0) zeroCard).1.Is2G := by
  refine ⟨fun h => ?_, ?_⟩
  · have hform : Form2G (0x00 :: 0x10 :: List.replicate 16 0) := ⟨List.replicate 16 0, rfl, rfl⟩
    exact absurd (h.twoG.mpr hform).1.1 (by decide +kernel)
  · refine ⟨⟨by decide +kernel, by decide +kernel⟩, List.replicate 4 0, List.replicate 8 0, rfl, rfl, ?_⟩
    decide +kernel

end VirtualPhone
