import VirtualPhone.Runtime.Py
import VirtualPhone.Runtime.Trace

/-! # The secure channel (`euicc/crypto/scp03.py`)

`initialize_update` derives the session keys, `external_authenticate` checks the cryptogram of the
host, and `wrap_command` and `unwrap_response` protect what goes over the channel.  What the last
two ask for is a session, and there is one as soon as the keys are derived: the host need not have
been verified.

`channel_gated_iff` says for which sequences of calls the channel is used by a verified host
only. -/

namespace VirtualPhone

open Runtime

/-- AES and CMAC over it, for keys of a length AES has. -/
structure AesLibrary where
  cmac : Bytes → Bytes → Bytes
  encryptBlock : Bytes → Bytes → Bytes
  encryptCbc : Bytes → Bytes → Bytes → Bytes
  decryptCbc : Bytes → Bytes → Bytes → Bytes
  cmac_length : ∀ key data, (cmac key data).length = 16

/-- `SCP03Session`. -/
structure Scp03Session where
  sEnc : Bytes
  sMac : Bytes
  sRmac : Bytes
  macChaining : Bytes := List.replicate 16 0
  counter : ℕ := 1
deriving DecidableEq

/-- `SCP03`. -/
structure Scp03 where
  encKey : Bytes
  macKey : Bytes
  dekKey : Bytes
  session : Option Scp03Session := none
deriving DecidableEq

namespace Scp03

/-- `SecurityError("Response MAC verification failed")`. -/
def macError : PyError :=
  .exception "SecurityError".toList "Response MAC verification failed".toList

/-- A key of a length AES does not have. -/
def keyError (key : Bytes) : PyError :=
  .valueError ("Incorrect AES key length (".toList ++ (toString key.length).toList ++ " bytes)".toList)

/-- A key AES takes. -/
def IsKey (key : Bytes) : Prop := key.length = 16 ∨ key.length = 24 ∨ key.length = 32

instance (key : Bytes) : Decidable (IsKey key) := inferInstanceAs (Decidable (_ ∨ _))

/-- `_constant_time_compare(a, b)`. -/
def constantTimeCompare (a b : Bytes) : Bool :=
  if a.length ≠ b.length then false
  else (List.zipWith (· ^^^ ·) a b).foldl (· ||| ·) 0 = 0

/-- `_pad(data)`. -/
def pad (data : Bytes) : Bytes :=
  data ++ 0x80 :: List.replicate ((16 - (data.length + 1) % 16) % 16) 0

/-- `_unpad(data)`. -/
def unpad (data : Bytes) : Bytes :=
  match data.reverse.dropWhile (· = 0) with
  | 0x80 :: r => r.reverse
  | _ => data

section Library

variable (L : AesLibrary)

/-- `_cmac(key, data)`. -/
def cmac (key data : Bytes) : Except PyError Bytes :=
  if IsKey key then .ok (L.cmac key data) else .error (keyError key)

/-- `_kdf(key, derivation_constant, context)`. -/
def kdf (key : Bytes) (derivationConstant : UInt8) (context : Bytes) : Except PyError Bytes := do
  let label := List.replicate 11 0 ++ [derivationConstant] ++ [0]
  let lengthBits ← toBE (key.length * 8) 2
  cmac L key (label ++ lengthBits ++ [1] ++ context)

/-- `_compute_cryptogram(derivation_constant, context, key)`. -/
def computeCryptogram (derivationConstant : UInt8) (context key : Bytes) : Except PyError Bytes := do
  let derived ← kdf L key derivationConstant context
  return derived.take 8

/-- `_generate_icv()`. -/
def generateIcv (session : Scp03Session) : Except PyError Bytes := do
  let counterBlock ← toBE session.counter 16
  if IsKey session.sEnc then return L.encryptBlock session.sEnc counterBlock
  else .error (keyError session.sEnc)

/-- `initialize_update(host_challenge)`, with the card challenge it draws. -/
def initializeUpdate (hostChallenge cardChallenge : Bytes) : Py Scp03 (Bytes × Bytes) := do
  let card ← Py.get
  let context := hostChallenge ++ cardChallenge
  let sEnc ← Py.lift (kdf L card.encKey 0x04 context)
  let sMac ← Py.lift (kdf L card.macKey 0x06 context)
  let sRmac ← Py.lift (kdf L card.macKey 0x07 context)
  Py.modify fun card => { card with session := some { sEnc := sEnc, sMac := sMac, sRmac := sRmac } }
  let cardCrypto ← Py.lift (computeCryptogram L 0x00 context sMac)
  return (cardChallenge, cardCrypto)

/-- `external_authenticate(host_cryptogram, host_challenge, card_challenge)`. -/
def externalAuthenticate (hostCryptogram hostChallenge cardChallenge : Bytes) : Py Scp03 Bool := do
  let card ← Py.get
  match card.session with
  | none => Py.raise (.runtimeError "Must call initialize_update first".toList)
  | some session =>
      let context := hostChallenge ++ cardChallenge
      let expected ← Py.lift (computeCryptogram L 0x01 context session.sMac)
      if constantTimeCompare hostCryptogram expected then return true
      else
        Py.modify fun card => { card with session := none }
        return false

/-- `wrap_command(apdu)`. -/
def wrapCommand (apdu : Bytes) : Py Scp03 Bytes := do
  let card ← Py.get
  match card.session with
  | none => Py.raise (.runtimeError "No active SCP03 session".toList)
  | some session =>
      let header := apdu.take 4
      let data := apdu.drop 4
      let encrypted ← Py.lift (
        if data ≠ [] then do
          let iv ← generateIcv L session
          return L.encryptCbc session.sEnc iv (pad data)
        else return [])
      let cMac ← Py.lift (cmac L session.sMac (session.macChaining ++ header ++ encrypted))
      Py.modify fun card => { card with
        session := some { session with macChaining := cMac, counter := session.counter + 1 } }
      return header ++ encrypted ++ cMac.take 8

/-- `unwrap_response(response)`. -/
def unwrapResponse (response : Bytes) : Py Scp03 Bytes := do
  let card ← Py.get
  match card.session with
  | none => Py.raise (.runtimeError "No active SCP03 session".toList)
  | some session =>
      if response.length < 10 then return response
      else
        let data := response.take (response.length - 10)
        let rMac := (response.drop (response.length - 10)).take 8
        let sw := response.drop (response.length - 2)
        let expectedMac ← Py.lift (cmac L session.sRmac (session.macChaining ++ data ++ sw))
        if constantTimeCompare rMac (expectedMac.take 8) then
          if data ≠ [] then
            let iv ← Py.lift (generateIcv L session)
            if data.length % 16 = 0 then return unpad (L.decryptCbc session.sEnc iv data) ++ sw
            else Py.raise (.valueError "Data must be padded to 16 byte boundary in CBC mode".toList)
          else return sw
        else Py.raise macError

end Library

end Scp03

/-! ### Calls on the channel -/

/-- A call of a method; an initialization carries the challenge it draws. -/
inductive ChannelCall
  | initializeUpdate (hostChallenge cardChallenge : Bytes)
  | externalAuthenticate (hostCryptogram hostChallenge cardChallenge : Bytes)
  | wrapCommand (apdu : Bytes)
  | unwrapResponse (response : Bytes)
deriving DecidableEq

/-- What a call returns. -/
inductive ChannelReply
  | challenge (cardChallenge cardCryptogram : Bytes)
  | verified (ok : Bool)
  | data (bytes : Bytes)
deriving DecidableEq

/-- The card, and the calls so far with what they returned or raised, the last one first. -/
structure Channel where
  card : Scp03
  past : List (ChannelCall × Except PyError ChannelReply) := []

namespace Channel

section Library

variable (L : AesLibrary)

/-- The method that is called. -/
def run : ChannelCall → Py Scp03 ChannelReply
  | .initializeUpdate hostChallenge cardChallenge => do
      let (challenge, cryptogram) ← Scp03.initializeUpdate L hostChallenge cardChallenge
      return .challenge challenge cryptogram
  | .externalAuthenticate hostCryptogram hostChallenge cardChallenge => do
      return .verified (← Scp03.externalAuthenticate L hostCryptogram hostChallenge cardChallenge)
  | .wrapCommand apdu => do return .data (← Scp03.wrapCommand L apdu)
  | .unwrapResponse response => do return .data (← Scp03.unwrapResponse L response)

/-- What the call returns or raises. -/
def reply (s : Channel) (call : ChannelCall) : Except PyError ChannelReply := ((run L call).run s.card).1

/-- One call. -/
def step (s : Channel) (call : ChannelCall) : Option Channel :=
  some { card := ((run L call).run s.card).2, past := (call, s.reply L call) :: s.past }

end Library

/-! ### What the channel is asked for -/

/-- What a call says about the host: the channel is set up anew, the host is verified, or it is not. -/
inductive Mark
  | initialized
  | verified
  | refused
deriving DecidableEq

/-- The mark of a call. -/
def mark : ChannelCall × Except PyError ChannelReply → Option Mark
  | (.initializeUpdate _ _, _) => some .initialized
  | (.externalAuthenticate _ _ _, .ok (.verified true)) => some .verified
  | (.externalAuthenticate _ _ _, .ok (.verified false)) => some .refused
  | _ => none

/-- The calls since the last `initialize_update`. -/
def current (past : List (ChannelCall × Except PyError ChannelReply)) :
    List (ChannelCall × Except PyError ChannelReply) :=
  past.takeWhile fun x => mark x ≠ some .initialized

/-- Since the last `initialize_update`, `external_authenticate` has returned True and none has returned
False. -/
def Authenticated (past : List (ChannelCall × Except PyError ChannelReply)) : Prop :=
  (∃ x ∈ past, mark x = some .initialized) ∧ (∃ x ∈ current past, mark x = some .verified) ∧
    ∀ x ∈ current past, mark x ≠ some .refused

instance (past : List (ChannelCall × Except PyError ChannelReply)) : Decidable (Authenticated past) :=
  inferInstanceAs (Decidable (_ ∧ _))

/-- A call that uses the channel. -/
def UsesChannel : ChannelCall → Prop
  | .wrapCommand _ => True
  | .unwrapResponse _ => True
  | _ => False

section Library

variable (L : AesLibrary)

/-- The channel is used by an authenticated host, or the call raises. -/
def Gated (s : Channel) (call : ChannelCall) : Prop :=
  UsesChannel call → (∃ r, s.reply L call = .ok r) → Authenticated s.past

/-- A session serves a call: the counter of its blocks has not run out, and a response that carries an
R-MAC carries the right one, over whole blocks. -/
def Serves (session : Scp03Session) : ChannelCall → Prop
  | .wrapCommand apdu => apdu.length ≤ 4 ∨ session.counter < 256 ^ 16
  | .unwrapResponse response =>
      response.length < 10 ∨
        (response.drop (response.length - 10)).take 8 = (L.cmac session.sRmac (session.macChaining ++
          response.take (response.length - 10) ++ response.drop (response.length - 2))).take 8 ∧
        (response.length = 10 ∨ session.counter < 256 ^ 16 ∧ (response.length - 10) % 16 = 0)
  | _ => False

/-- The channel is not used between `initialize_update` and the verification of the host. -/
def Waits (s : Channel) (call : ChannelCall) : Prop :=
  ∀ session ∈ s.card.session, ¬Authenticated s.past → ¬Serves L session call

end Library

end Channel

namespace Scp03

/-! ### The methods -/

theorem foldl_or_eq_zero (l : List UInt8) (acc : UInt8) :
    l.foldl (· ||| ·) acc = 0 ↔ acc = 0 ∧ ∀ b ∈ l, b = 0 := by
  induction l generalizing acc with
  | nil => simp
  | cons b l ih =>
      rw [List.foldl_cons, ih, List.forall_mem_cons, UInt8.or_eq_zero_iff, and_assoc]

theorem constantTimeCompare_iff {a b : Bytes} : constantTimeCompare a b = true ↔ a = b := by
  unfold constantTimeCompare
  split_ifs with hlength
  · simp only [false_iff]
    rintro rfl
    exact hlength rfl
  · rw [decide_eq_true_iff, foldl_or_eq_zero]
    rw [not_not] at hlength
    induction a generalizing b with
    | nil =>
        cases b with
        | nil => simp
        | cons y b => cases hlength
    | cons x a ih =>
        cases b with
        | nil => cases hlength
        | cons y b =>
            have hrest := ih (Nat.succ.inj hlength)
            simp only [true_and] at hrest ⊢
            rw [List.zipWith_cons_cons, List.forall_mem_cons, hrest, List.cons_eq_cons,
              UInt8.xor_eq_zero_iff]

/-- The keys of a session are keys. -/
def Keyed (card : Scp03) : Prop :=
  ∀ session ∈ card.session, IsKey session.sEnc ∧ IsKey session.sMac ∧ IsKey session.sRmac

section Library

variable {L : AesLibrary}

theorem cmac_of_isKey {key : Bytes} (h : IsKey key) (data : Bytes) :
    cmac L key data = .ok (L.cmac key data) := if_pos h

theorem cmac_isKey {key data mac : Bytes} (h : cmac L key data = .ok mac) : IsKey mac := by
  unfold cmac at h
  split_ifs at h with hkey
  rw [← Except.ok.inj h]
  exact Or.inl (L.cmac_length key data)

theorem kdf_isKey {key context derived : Bytes} {c : UInt8} (h : kdf L key c context = .ok derived) :
    IsKey derived := by
  obtain ⟨lengthBits, -, h⟩ := bind_eq_ok h
  exact cmac_isKey h

theorem kdf_of_isKey {key : Bytes} (h : IsKey key) (c : UInt8) (context : Bytes) :
    ∃ derived, kdf L key c context = .ok derived := by
  have hlength : key.length * 8 < 256 ^ 2 := by
    rcases h with h | h | h <;> omega
  refine ⟨L.cmac key (List.replicate 11 0 ++ [c] ++ [0] ++ beBytes (key.length * 8) 2 ++ [1] ++ context),
    ?_⟩
  rw [kdf, toBE, if_pos hlength, ok_bind, cmac_of_isKey h]

theorem generateIcv_ok_iff {session : Scp03Session} (h : IsKey session.sEnc) :
    (∃ iv, generateIcv L session = .ok iv) ↔ session.counter < 256 ^ 16 := by
  unfold generateIcv toBE
  split_ifs with hcounter
  · exact ⟨fun _ => hcounter, fun _ => ⟨_, rfl⟩⟩
  · exact ⟨fun ⟨_, hiv⟩ => (by cases hiv), fun hlt => absurd hlt hcounter⟩

theorem wrapCommand_closed {card : Scp03} (h : card.session = none) (apdu : Bytes) :
    (wrapCommand L apdu).run card =
      (.error (.runtimeError "No active SCP03 session".toList), card) := by
  rw [wrapCommand, Py.run_get_bind, h]
  rfl

theorem unwrapResponse_closed {card : Scp03} (h : card.session = none) (response : Bytes) :
    (unwrapResponse L response).run card =
      (.error (.runtimeError "No active SCP03 session".toList), card) := by
  rw [unwrapResponse, Py.run_get_bind, h]
  rfl

theorem wrapCommand_ok_iff {card : Scp03} {session : Scp03Session} (hkeyed : card.Keyed)
    (h : card.session = some session) (apdu : Bytes) :
    (∃ d, ((wrapCommand L apdu).run card).1 = .ok d) ↔ apdu.length ≤ 4 ∨ session.counter < 256 ^ 16 := by
  obtain ⟨hEnc, hMac, -⟩ := hkeyed session h
  rw [wrapCommand, Py.run_get_bind, h]
  simp only
  by_cases hdata : apdu.drop 4 = []
  · rw [if_neg (not_not.mpr hdata)]
    have hshort : apdu.length ≤ 4 := List.drop_eq_nil_iff.mp hdata
    simp only [pure, Except.pure, Py.run_lift_ok_bind, cmac_of_isKey hMac, hshort, true_or, iff_true]
    exact ⟨_, rfl⟩
  · rw [if_pos hdata]
    have hlong : ¬apdu.length ≤ 4 := fun hle => hdata (List.drop_eq_nil_iff.mpr hle)
    rw [← generateIcv_ok_iff (L := L) hEnc, or_iff_right hlong]
    cases generateIcv L session with
    | ok iv =>
        rw [ok_bind]
        simp only [pure, Except.pure, Py.run_lift_ok_bind, cmac_of_isKey hMac]
        exact ⟨fun _ => ⟨_, rfl⟩, fun _ => ⟨_, rfl⟩⟩
    | error e =>
        constructor
        · rintro ⟨d, hd⟩
          cases hd
        · rintro ⟨iv, hiv⟩
          cases hiv

/-- A response is unwrapped if it carries no R-MAC, or the right one over whole blocks. -/
theorem unwrapResponse_ok_iff {card : Scp03} {session : Scp03Session} (hkeyed : card.Keyed)
    (h : card.session = some session) (response : Bytes) :
    (∃ d, ((unwrapResponse L response).run card).1 = .ok d) ↔
      Channel.Serves L session (.unwrapResponse response) := by
  obtain ⟨hEnc, -, hRmac⟩ := hkeyed session h
  unfold Channel.Serves
  rw [unwrapResponse, Py.run_get_bind, h]
  simp only
  by_cases hshort : response.length < 10
  · rw [if_pos hshort]
    simp only [hshort, true_or, iff_true]
    exact ⟨_, rfl⟩
  · rw [if_neg hshort, or_iff_right hshort, cmac_of_isKey hRmac, Py.run_lift_ok_bind]
    by_cases hmac : (response.drop (response.length - 10)).take 8 = (L.cmac session.sRmac
        (session.macChaining ++ response.take (response.length - 10) ++
          response.drop (response.length - 2))).take 8
    · rw [if_pos (constantTimeCompare_iff.mpr hmac), and_iff_right hmac]
      by_cases hdata : response.take (response.length - 10) = []
      · have hten : response.length = 10 := by
          rcases List.take_eq_nil_iff.mp hdata with hzero | hnil
          · omega
          · rw [hnil] at hshort
            exact absurd (by decide) hshort
        rw [if_neg (not_not.mpr hdata)]
        simp only [hten, true_or, iff_true]
        exact ⟨_, rfl⟩
      · have hlong : response.length ≠ 10 := by
          intro hten
          rw [hten] at hdata
          exact hdata rfl
        have hlength : (response.take (response.length - 10)).length = response.length - 10 := by
          rw [List.length_take]
          omega
        rw [if_pos hdata, or_iff_right hlong, ← generateIcv_ok_iff (L := L) hEnc, hlength]
        cases generateIcv L session with
        | ok iv =>
            rw [Py.run_lift_ok_bind]
            split_ifs with hblocks
            · exact ⟨fun _ => ⟨⟨_, rfl⟩, hblocks⟩, fun _ => ⟨_, rfl⟩⟩
            · exact ⟨fun ⟨_, hd⟩ => (by cases hd), fun hb => absurd hb.2 hblocks⟩
        | error e => exact ⟨fun ⟨_, hd⟩ => (by cases hd), fun ⟨⟨_, hiv⟩, _⟩ => (by cases hiv)⟩
    · rw [if_neg (fun heq => hmac (constantTimeCompare_iff.mp heq))]
      exact ⟨fun ⟨_, hd⟩ => (by cases hd), fun hm => absurd hm.1 hmac⟩

/-! ### The session of the card -/

theorem initializeUpdate_keyed {card : Scp03} (h : card.Keyed) (hostChallenge cardChallenge : Bytes) :
    ((initializeUpdate L hostChallenge cardChallenge).run card).2.Keyed := by
  unfold initializeUpdate
  rw [Py.run_get_bind]
  simp only
  cases hEnc : kdf L card.encKey 0x04 (hostChallenge ++ cardChallenge) with
  | error e => exact h
  | ok sEnc =>
      rw [Py.run_lift_ok_bind]
      cases hMac : kdf L card.macKey 0x06 (hostChallenge ++ cardChallenge) with
      | error e => exact h
      | ok sMac =>
          rw [Py.run_lift_ok_bind]
          cases hRmac : kdf L card.macKey 0x07 (hostChallenge ++ cardChallenge) with
          | error e => exact h
          | ok sRmac =>
              rw [Py.run_lift_ok_bind, Py.run_modify_bind]
              have hsession : ({ card with session := some { sEnc := sEnc, sMac := sMac, sRmac := sRmac } } :
                  Scp03).Keyed := by
                intro session hs
                obtain rfl := Option.some.inj hs
                exact ⟨kdf_isKey hEnc, kdf_isKey hMac, kdf_isKey hRmac⟩
              cases computeCryptogram L 0x00 (hostChallenge ++ cardChallenge) sMac with
              | error e => exact hsession
              | ok cryptogram => exact hsession

/-- With keys of the right length there is a session, whoever the host is. -/
theorem initializeUpdate_session {card : Scp03} (hEnc : IsKey card.encKey) (hMac : IsKey card.macKey)
    (hostChallenge cardChallenge : Bytes) :
    ∃ session, ((initializeUpdate L hostChallenge cardChallenge).run card).2.session = some session := by
  obtain ⟨sEnc, hsEnc⟩ := kdf_of_isKey (L := L) hEnc 0x04 (hostChallenge ++ cardChallenge)
  obtain ⟨sMac, hsMac⟩ := kdf_of_isKey (L := L) hMac 0x06 (hostChallenge ++ cardChallenge)
  obtain ⟨sRmac, hsRmac⟩ := kdf_of_isKey (L := L) hMac 0x07 (hostChallenge ++ cardChallenge)
  refine ⟨{ sEnc := sEnc, sMac := sMac, sRmac := sRmac }, ?_⟩
  rw [initializeUpdate, Py.run_get_bind]
  simp only
  rw [hsEnc, hsMac, hsRmac, Py.run_lift_ok_bind, Py.run_lift_ok_bind, Py.run_lift_ok_bind,
    Py.run_modify_bind, Py.run_lift_bind]
  split
  · rfl
  · rfl

theorem externalAuthenticate_keyed {card : Scp03} (h : card.Keyed)
    (hostCryptogram hostChallenge cardChallenge : Bytes) :
    ((externalAuthenticate L hostCryptogram hostChallenge cardChallenge).run card).2.Keyed := by
  unfold externalAuthenticate
  rw [Py.run_get_bind]
  split
  · exact h
  · next session _ =>
      simp only
      cases computeCryptogram L 0x01 (hostChallenge ++ cardChallenge) session.sMac with
      | error e => exact h
      | ok expected =>
          rw [Py.run_lift_ok_bind]
          split_ifs
          · exact h
          · intro session' hs
            cases hs

theorem wrapCommand_keyed {card : Scp03} (h : card.Keyed) (apdu : Bytes) :
    ((wrapCommand L apdu).run card).2.Keyed := by
  unfold wrapCommand
  rw [Py.run_get_bind]
  split
  · exact h
  · next session hsession =>
      simp only
      rw [Py.run_lift_bind]
      split
      · next encrypted _ =>
          rw [Py.run_lift_bind]
          split
          · intro session' hs
            obtain rfl := Option.some.inj hs
            exact h session hsession
          · exact h
      · exact h

theorem unwrapResponse_state (card : Scp03) (response : Bytes) :
    ((unwrapResponse L response).run card).2 = card := by
  unfold unwrapResponse
  rw [Py.run_get_bind]
  split
  · rfl
  · next session hsession =>
      simp only
      split
      · rfl
      · rw [Py.run_lift_bind]
        split
        · split
          · split
            · rw [Py.run_lift_bind]
              split
              · split
                · rfl
                · rfl
              · rfl
            · rfl
          · rfl
        · rfl

end Library

end Scp03

namespace Channel

section Library

variable {L : AesLibrary}

theorem run_keyed {card : Scp03} (h : card.Keyed) (call : ChannelCall) :
    ((run L call).run card).2.Keyed := by
  cases call with
  | initializeUpdate hostChallenge cardChallenge =>
      rw [run, Py.state_bind fun _ _ => rfl]
      exact Scp03.initializeUpdate_keyed h hostChallenge cardChallenge
  | externalAuthenticate hostCryptogram hostChallenge cardChallenge =>
      rw [run, Py.state_bind fun _ _ => rfl]
      exact Scp03.externalAuthenticate_keyed h hostCryptogram hostChallenge cardChallenge
  | wrapCommand apdu =>
      rw [run, Py.state_bind fun _ _ => rfl]
      exact Scp03.wrapCommand_keyed h apdu
  | unwrapResponse response =>
      rw [run, Py.state_bind fun _ _ => rfl, Scp03.unwrapResponse_state]
      exact h

theorem ok_map_iff {σ α β : Type} (x : Py σ α) (f : α → β) (s : σ) :
    (∃ b, ((do return f (← x) : Py σ β).run s).1 = .ok b) ↔ ∃ a, (x.run s).1 = .ok a := by
  rw [Py.run_bind]
  rcases x.run s with ⟨_ | a, s'⟩
  · exact ⟨fun ⟨_, hb⟩ => (by cases hb), fun ⟨_, ha⟩ => (by cases ha)⟩
  · exact ⟨fun _ => ⟨a, rfl⟩, fun _ => ⟨f a, rfl⟩⟩

/-- A call that uses the channel returns exactly if the card's session serves it. -/
theorem reply_ok_iff {s : Channel} (h : s.card.Keyed) {call : ChannelCall} (huses : UsesChannel call) :
    (∃ r, s.reply L call = .ok r) ↔ ∃ session ∈ s.card.session, Serves L session call := by
  cases call with
  | initializeUpdate hostChallenge cardChallenge => exact huses.elim
  | externalAuthenticate hostCryptogram hostChallenge cardChallenge => exact huses.elim
  | wrapCommand apdu =>
      refine (ok_map_iff _ _ _).trans ?_
      cases hsession : s.card.session with
      | none =>
          rw [Scp03.wrapCommand_closed hsession]
          exact ⟨fun ⟨_, hd⟩ => (by cases hd), fun ⟨_, hs, _⟩ => (by cases hs)⟩
      | some session =>
          rw [Scp03.wrapCommand_ok_iff h hsession]
          exact ⟨fun hserves => ⟨session, rfl, hserves⟩,
            fun ⟨_, hs, hserves⟩ => Option.some.inj hs ▸ hserves⟩
  | unwrapResponse response =>
      refine (ok_map_iff _ _ _).trans ?_
      cases hsession : s.card.session with
      | none =>
          rw [Scp03.unwrapResponse_closed hsession]
          exact ⟨fun ⟨_, hd⟩ => (by cases hd), fun ⟨_, hs, _⟩ => (by cases hs)⟩
      | some session =>
          rw [Scp03.unwrapResponse_ok_iff h hsession]
          exact ⟨fun hserves => ⟨session, rfl, hserves⟩,
            fun ⟨_, hs, hserves⟩ => Option.some.inj hs ▸ hserves⟩

theorem gated_iff_waits {s : Channel} (h : s.card.Keyed) (call : ChannelCall) :
    Gated L s call ↔ Waits L s call := by
  by_cases huses : UsesChannel call
  · unfold Gated Waits
    rw [reply_ok_iff h huses]
    constructor
    · intro hgated session hsession hno hserves
      exact hno (hgated huses ⟨session, hsession, hserves⟩)
    · rintro hwaits - ⟨session, hsession, hserves⟩
      exact not_not.mp fun hno => hwaits session hsession hno hserves
  · refine ⟨fun _ session _ _ hserves => huses ?_, fun _ hu => absurd hu huses⟩
    cases call with
    | initializeUpdate hostChallenge cardChallenge => exact hserves.elim
    | externalAuthenticate hostCryptogram hostChallenge cardChallenge => exact hserves.elim
    | wrapCommand apdu => trivial
    | unwrapResponse response => trivial

/-- A new channel. -/
def create (encKey macKey dekKey : Bytes) : Channel :=
  { card := { encKey := encKey, macKey := macKey, dekKey := dekKey } }

/-- **Who uses the channel.**  Whatever is called in whatever order, the channel serves authenticated
hosts only exactly if no call that a session would serve comes while the host of that session is not
authenticated. -/
theorem channel_gated_iff (L : AesLibrary) (encKey macKey dekKey : Bytes) (calls : List ChannelCall) :
    Along (step L) (Gated L) (create encKey macKey dekKey) calls ↔
      Along (step L) (Waits L) (create encKey macKey dekKey) calls := by
  refine along_congr (step L) (I := fun s => s.card.Keyed) (fun s call h => gated_iff_waits h call) ?_
    ?_ calls
  · intro s call s' h hs
    rw [← Option.some.inj hs]
    exact run_keyed h call
  · intro session hs
    cases hs

end Library

/-- The channel is set up, and used at once. -/
def hastyCalls : List ChannelCall :=
  [.initializeUpdate (List.replicate 8 0) (List.replicate 8 0), .wrapCommand [0x80, 0xE2, 0, 0]]

/-- **The channel is open too early.**  Whatever the ciphers compute, a command is wrapped right after
`initialize_update`, before any host was verified. -/
theorem wrapped_unverified : ¬∃ L : AesLibrary, ∀ encKey macKey dekKey calls,
    Along (step L) (Gated L) (create encKey macKey dekKey) calls := by
  rintro ⟨L, h⟩
  obtain ⟨key, hkey⟩ : ∃ key : Bytes, key.length = 16 := ⟨List.replicate 16 0, rfl⟩
  obtain ⟨-, hsecond⟩ := h key key key hastyCalls
  have hempty : (create key key key).card.Keyed := by
    intro session hs
    cases hs
  obtain ⟨session, hsession⟩ : ∃ session, ((Scp03.initializeUpdate L (List.replicate 8 0)
      (List.replicate 8 0)).run (create key key key).card).2.session = some session :=
    Scp03.initializeUpdate_session (Or.inl hkey) (Or.inl hkey) _ _
  obtain ⟨hgated, -⟩ := hsecond _ rfl
  have huses : UsesChannel (.wrapCommand [0x80, 0xE2, 0, 0]) := trivial
  have hauthenticated := hgated huses ?_
  · obtain ⟨-, ⟨x, hx, -⟩, -⟩ := hauthenticated
    cases hx
  · refine (reply_ok_iff (run_keyed hempty _) huses).mpr ⟨session, ?_, Or.inl le_rfl⟩
    rw [run, Py.state_bind fun _ _ => rfl]
    exact hsession

end Channel

end VirtualPhone
