import VirtualPhone.Scp03

/-! # Protected responses (`euicc/crypto/scp03.py`)

What `unwrap_response` makes of a response the other side has protected, and of one it has not.

A response carries an R-MAC if it has at least 10 bytes; then nothing but the right R-MAC gets it
through (`unwrapResponse_long`), and the data comes back (`unwrap_protect`).  A shorter response is
returned as it is, also where it is more than a status word (`unwrap_authentic_iff`). -/

namespace VirtualPhone

open Runtime

namespace Scp03

/-- The response without R-MAC and status word. -/
def responseData (response : Bytes) : Bytes := response.take (response.length - 10)

/-- The 8 bytes before the status word. -/
def responseMac (response : Bytes) : Bytes := (response.drop (response.length - 10)).take 8

/-- The status word. -/
def statusWord (response : Bytes) : Bytes := response.drop (response.length - 2)

theorem parts_of_append {data mac sw : Bytes} (hmac : mac.length = 8) (hsw : sw.length = 2) :
    responseData (data ++ mac ++ sw) = data ∧ responseMac (data ++ mac ++ sw) = mac ∧
      statusWord (data ++ mac ++ sw) = sw := by
  have hten : (data ++ mac ++ sw).length - 10 = data.length := by
    simp only [List.length_append]
    omega
  have htwo : (data ++ mac ++ sw).length - 2 = (data ++ mac).length := by
    simp only [List.length_append]
    omega
  refine ⟨?_, ?_, ?_⟩
  · rw [responseData, hten, List.append_assoc, List.take_left]
  · rw [responseMac, hten, List.append_assoc, List.drop_left, ← hmac, List.take_left]
  · rw [statusWord, htwo, List.drop_left]

theorem pad_length (data : Bytes) : (pad data).length % 16 = 0 := by
  unfold pad
  rw [List.length_append, List.length_cons, List.length_replicate]
  omega

theorem unpad_pad (data : Bytes) : unpad (pad data) = data := by
  have hreverse : (pad data).reverse =
      List.replicate ((16 - (data.length + 1) % 16) % 16) 0 ++ 0x80 :: data.reverse := by
    simp [pad]
  have hdrop : (pad data).reverse.dropWhile (· = 0) = 0x80 :: data.reverse := by
    rw [hreverse, List.dropWhile_append_of_pos]
    · exact List.dropWhile_cons_of_neg (by decide)
    · intro b hb
      exact decide_eq_true (List.eq_of_mem_replicate hb)
  unfold unpad
  rw [hdrop]
  exact List.reverse_reverse data

section Library

variable {L : AesLibrary}

/-- The R-MAC of a session for a ciphertext and a status word. -/
def rMac (L : AesLibrary) (session : Scp03Session) (ciphertext sw : Bytes) : Bytes :=
  (L.cmac session.sRmac (session.macChaining ++ ciphertext ++ sw)).take 8

theorem rMac_length (session : Scp03Session) (ciphertext sw : Bytes) :
    (rMac L session ciphertext sw).length = 8 := by
  rw [rMac, List.length_take, L.cmac_length]
  rfl

/-- What `unwrap_response` returns once the R-MAC is right. -/
def decrypt (L : AesLibrary) (session : Scp03Session) (response : Bytes) : Except PyError Bytes :=
  if responseData response ≠ [] then do
    let iv ← generateIcv L session
    if (responseData response).length % 16 = 0 then
      return unpad (L.decryptCbc session.sEnc iv (responseData response)) ++ statusWord response
    else .error (.valueError "Data must be padded to 16 byte boundary in CBC mode".toList)
  else return statusWord response

/-- **A response of at least 10 bytes** is decrypted if it has the right R-MAC, else it is refused. -/
theorem unwrapResponse_long {card : Scp03} {session : Scp03Session} (h : card.session = some session)
    {response : Bytes} (hlong : 10 ≤ response.length) :
    ((unwrapResponse L response).run card).1 =
      if IsKey session.sRmac then
        if responseMac response = rMac L session (responseData response) (statusWord response) then
          decrypt L session response
        else .error macError
      else .error (keyError session.sRmac) := by
  unfold unwrapResponse
  rw [Py.run_get_bind, h]
  simp only
  rw [if_neg (Nat.not_lt.mpr hlong), cmac, Py.run_lift_bind]
  by_cases hkey : IsKey session.sRmac
  · rw [if_pos hkey, if_pos hkey]
    change Prod.fst (Py.run (if constantTimeCompare (responseMac response)
      (rMac L session (responseData response) (statusWord response)) = true then _ else _) card) = _
    by_cases hmac : responseMac response = rMac L session (responseData response) (statusWord response)
    · rw [if_pos (constantTimeCompare_iff.mpr hmac), if_pos hmac]
      unfold decrypt
      change Prod.fst (Py.run (if responseData response ≠ [] then _ else _) card) = _
      by_cases hdata : responseData response ≠ []
      · rw [if_pos hdata, if_pos hdata, Py.run_lift_bind]
        change _ = (generateIcv L session).bind _
        cases generateIcv L session with
        | error e => rfl
        | ok iv =>
            change Prod.fst (Py.run (if (responseData response).length % 16 = 0 then _ else _) card) =
              if (responseData response).length % 16 = 0 then _ else _
            split_ifs
            · rfl
            · rfl
      · rw [if_neg hdata, if_neg hdata]
        rfl
    · rw [if_neg fun heq => hmac (constantTimeCompare_iff.mp heq), if_neg hmac]
      rfl
  · rw [if_neg hkey, if_neg hkey]

/-! ### What the other side protects -/

/-- The modes of AES: decryption inverts encryption, and whole blocks stay whole blocks. -/
structure Invertible (L : AesLibrary) : Prop where
  length : ∀ key iv data, data.length % 16 = 0 → (L.encryptCbc key iv data).length = data.length
  inverts : ∀ key iv data, data.length % 16 = 0 → L.decryptCbc key iv (L.encryptCbc key iv data) = data

/-- The ciphertext the other side makes of the data of a response: none where there is no data. -/
def protectData (L : AesLibrary) (session : Scp03Session) (data : Bytes) : Except PyError Bytes :=
  if data = [] then return []
  else do
    let iv ← generateIcv L session
    return L.encryptCbc session.sEnc iv (pad data)

theorem decrypt_protect (hL : Invertible L) {session : Scp03Session} {data ciphertext sw mac : Bytes}
    (hmac : mac.length = 8) (hsw : sw.length = 2)
    (hciphertext : protectData L session data = .ok ciphertext) :
    decrypt L session (ciphertext ++ mac ++ sw) = .ok (data ++ sw) := by
  obtain ⟨hdata, -, hstatus⟩ := @parts_of_append ciphertext _ _ hmac hsw
  unfold decrypt
  rw [hdata, hstatus]
  unfold protectData at hciphertext
  split_ifs at hciphertext with hempty
  · obtain rfl := Except.ok.inj hciphertext
    rw [hempty]
    rfl
  · obtain ⟨iv, hiv, hciphertext⟩ := bind_eq_ok hciphertext
    obtain rfl := Except.ok.inj hciphertext
    have hlength := hL.length session.sEnc iv (pad data) (pad_length data)
    have hne : L.encryptCbc session.sEnc iv (pad data) ≠ [] := by
      intro hnil
      rw [hnil] at hlength
      simp [pad] at hlength
    rw [if_pos hne, hiv, ok_bind, if_pos (hlength ▸ pad_length data),
      hL.inverts session.sEnc iv _ (pad_length data), unpad_pad]
    rfl

/-- **Unwrapping a protected response.**  A response with the ciphertext of the data and the right R-MAC
gives back the data and the status word; with any other R-MAC it is refused; the session stays. -/
theorem unwrap_protect (hL : Invertible L) {card : Scp03} {session : Scp03Session}
    (hkeyed : card.Keyed) (h : card.session = some session) {sw : Bytes} (hsw : sw.length = 2) :
    (∀ data ciphertext, protectData L session data = .ok ciphertext →
      (unwrapResponse L (ciphertext ++ rMac L session ciphertext sw ++ sw)).run card =
        (.ok (data ++ sw), card)) ∧
    ∀ ciphertext mac, mac.length = 8 → mac ≠ rMac L session ciphertext sw →
      (unwrapResponse L (ciphertext ++ mac ++ sw)).run card = (.error macError, card) := by
  obtain ⟨-, -, hkey⟩ := hkeyed session h
  have hlong : ∀ ciphertext mac : Bytes, mac.length = 8 → 10 ≤ (ciphertext ++ mac ++ sw).length := by
    intro ciphertext mac hmac
    simp only [List.length_append]
    omega
  constructor
  · intro data ciphertext hciphertext
    have hmac := rMac_length (L := L) session ciphertext sw
    obtain ⟨hdata, hright, hstatus⟩ := @parts_of_append ciphertext _ _ hmac hsw
    refine Prod.ext ?_ (unwrapResponse_state card _)
    rw [unwrapResponse_long h (hlong ciphertext _ hmac), if_pos hkey, hdata, hright, hstatus,
      if_pos rfl]
    exact decrypt_protect hL hmac hsw hciphertext
  · intro ciphertext mac hmac hwrong
    obtain ⟨hdata, hmine, hstatus⟩ := @parts_of_append ciphertext _ _ hmac hsw
    refine Prod.ext ?_ (unwrapResponse_state card _)
    rw [unwrapResponse_long h (hlong ciphertext mac hmac), if_pos hkey, hdata, hmine, hstatus,
      if_neg hwrong]

/-! ### What goes through unprotected -/

/-- The response has an R-MAC, and it is the right one. -/
def Authentic (L : AesLibrary) (session : Scp03Session) (response : Bytes) : Prop :=
  10 ≤ response.length ∧
    responseMac response = rMac L session (responseData response) (statusWord response)

/-- **Unauthenticated data.**  What `unwrap_response` returns is authentic exactly if the response has
at least 10 bytes: a shorter one is returned as it is, be it a status word or more. -/
theorem unwrap_authentic_iff (L : AesLibrary) {card : Scp03} {session : Scp03Session}
    (h : card.session = some session) (response : Bytes) :
    ((∃ d, ((unwrapResponse L response).run card).1 = .ok d) → Authentic L session response) ↔
      10 ≤ response.length := by
  constructor
  · intro hauthentic
    by_contra hshort
    have hreturned : ((unwrapResponse L response).run card).1 = .ok response := by
      unfold unwrapResponse
      rw [Py.run_get_bind, h]
      simp only
      rw [if_pos (Nat.not_le.mp hshort)]
      rfl
    exact hshort (hauthentic ⟨response, hreturned⟩).1
  · rintro hlong ⟨d, hd⟩
    refine ⟨hlong, ?_⟩
    rw [unwrapResponse_long h hlong] at hd
    split_ifs at hd with hkey hmac
    exact hmac

end Library

/-- A library whose ciphers change nothing. -/
def plainLibrary : AesLibrary where
  cmac _ data := (data ++ List.replicate 16 0).take 16
  encryptBlock _ block := block
  encryptCbc _ _ data := data
  decryptCbc _ _ data := data
  cmac_length _ data := by simp

/-- A card with a session. -/
def openCard : Scp03 :=
  { encKey := List.replicate 16 0
    macKey := List.replicate 16 0
    dekKey := List.replicate 16 0
    session := some
      { sEnc := List.replicate 16 1, sMac := List.replicate 16 2, sRmac := List.replicate 16 3 } }

theorem openCard_keyed : openCard.Keyed := by
  rintro session hsession
  obtain rfl := Option.some.inj hsession
  exact ⟨Or.inl rfl, Or.inl rfl, Or.inl rfl⟩

/-- Three bytes come back with their status word. -/
theorem unwrap_protect_three : (unwrapResponse plainLibrary
      (pad [1, 2, 3] ++ List.replicate 8 0 ++ [0x90, 0])).run openCard =
    (.ok [1, 2, 3, 0x90, 0], openCard) :=
  (unwrap_protect (L := plainLibrary) ⟨fun _ _ _ _ => rfl, fun _ _ _ _ => rfl⟩ openCard_keyed rfl
    rfl).1 [1, 2, 3] (pad [1, 2, 3]) rfl

/-- The same three bytes without an R-MAC. -/
theorem unwrap_authentic_five :
    ¬((∃ d, ((unwrapResponse plainLibrary [1, 2, 3, 0x90, 0]).run openCard).1 = .ok d) →
      Authentic plainLibrary
        { sEnc := List.replicate 16 1, sMac := List.replicate 16 2, sRmac := List.replicate 16 3 }
        [1, 2, 3, 0x90, 0]) := fun h =>
  absurd ((@unwrap_authentic_iff plainLibrary openCard _ rfl _).mp h) (by decide)

/-- **Unprotected data goes through.**  Three bytes and a status word are returned without any R-MAC. -/
theorem unprotected_returned : ¬∀ (L : AesLibrary) (card : Scp03) (session : Scp03Session)
    (response : Bytes), card.session = some session → 2 < response.length →
      (∃ d, ((unwrapResponse L response).run card).1 = .ok d) → Authentic L session response := by
  intro h
  have hauthentic := h plainLibrary openCard _ [1, 2, 3, 0x90, 0] rfl (by decide) ⟨_, rfl⟩
  exact absurd hauthentic.1 (by decide)

end Scp03

end VirtualPhone
