import VirtualPhone.Scp03Responses

/-! # The initial chaining values of a session (`euicc/crypto/scp03.py`)

`_generate_icv` makes the chaining value of every AES-CBC operation of a session from its counter.
`wrap_command` advances the counter, with or without data to encrypt; `unwrap_response` decrypts under
the counter it finds and leaves it as it is.  So what comes after a decrypted response uses the same
chaining value again, unless a command without data comes first.

`icvs_distinct_iff` says so for every sequence of calls. -/

namespace VirtualPhone

open Runtime

namespace Scp03

/-- A call on the open channel. -/
inductive SessionCall
  | wrapCommand (apdu : Bytes)
  | unwrapResponse (response : Bytes)
deriving DecidableEq

/-- A command without data. -/
def Dataless : SessionCall → Prop
  | .wrapCommand apdu => apdu.drop 4 = []
  | .unwrapResponse _ => False

instance (call : SessionCall) : Decidable (Dataless call) := by
  induction call using SessionCall.casesOn <;> unfold Dataless <;> infer_instance

section Library

variable (L : AesLibrary)

/-- The method that is called. -/
def SessionCall.run : SessionCall → Py Scp03 Bytes
  | .wrapCommand apdu => Scp03.wrapCommand L apdu
  | .unwrapResponse response => Scp03.unwrapResponse L response

/-- The card after some calls. -/
def after (card : Scp03) (calls : List SessionCall) : Scp03 :=
  calls.foldl (fun card call => ((call.run L).run card).2) card

/-- The response has the right R-MAC, and data to decrypt. -/
def Encrypted (session : Scp03Session) (response : Bytes) : Prop :=
  10 ≤ response.length ∧ IsKey session.sRmac ∧
    responseMac response = rMac L session (responseData response) (statusWord response) ∧
    responseData response ≠ []

instance (session : Scp03Session) (response : Bytes) : Decidable (Encrypted L session response) :=
  inferInstanceAs (Decidable (_ ∧ _))

/-- The chaining value of the AES-CBC operation of a call, if it has one. -/
def sessionIcv (session : Scp03Session) : SessionCall → Option Bytes
  | .wrapCommand apdu => if apdu.drop 4 = [] then none else (generateIcv L session).toOption
  | .unwrapResponse response =>
      if Encrypted L session response then (generateIcv L session).toOption else none

/-- The chaining value a call uses on a card. -/
def icv (card : Scp03) (call : SessionCall) : Option Bytes :=
  card.session.bind fun session => sessionIcv L session call

/-- The chaining values of a sequence of calls. -/
def icvs (card : Scp03) : List SessionCall → List Bytes
  | [] => []
  | call :: calls => (icv L card call).toList ++ icvs ((call.run L).run card).2 calls

/-- The call decrypts a response. -/
def Decrypts (card : Scp03) (call : SessionCall) : Prop :=
  ∃ response, call = .unwrapResponse response ∧ (icv L card call).isSome

/-- After every decrypted response, a command without data comes before the next AES-CBC operation. -/
def Separated (card : Scp03) (calls : List SessionCall) : Prop :=
  ∀ l₁ x l₂ y l₃, calls = l₁ ++ x :: (l₂ ++ y :: l₃) → Decrypts L (after L card l₁) x →
    (icv L (after L card (l₁ ++ x :: l₂)) y).isSome → ∃ z ∈ l₂, Dataless z

end Library

section Library

variable {L : AesLibrary}

/-! ### What one call does -/

/-- The chaining value of a counter. -/
def block (L : AesLibrary) (key : Bytes) (n : ℕ) : Bytes := L.encryptBlock key (beBytes n 16)

theorem generateIcv_toOption {session : Scp03Session} (h : IsKey session.sEnc) :
    (generateIcv L session).toOption =
      if session.counter < 256 ^ 16 then some (block L session.sEnc session.counter) else none := by
  unfold generateIcv toBE
  split_ifs
  · rfl
  · rfl

/-- The card has a session with an encryption key and a counter. -/
structure Open (key : Bytes) (n : ℕ) (card : Scp03) : Prop where
  keyed : card.Keyed
  session : ∃ session, card.session = some session ∧ session.sEnc = key ∧ session.counter = n

/-- **What `wrap_command` does.**  It sends the encrypted data, if there is any, under the chaining value
of the counter, and advances the counter. -/
theorem wrapCommand_run {card : Scp03} {session : Scp03Session} (hkeyed : card.Keyed)
    (h : card.session = some session) {apdu : Bytes}
    (hserves : apdu.drop 4 = [] ∨ session.counter < 256 ^ 16) :
    ∃ encrypted cMac, (encrypted = if apdu.drop 4 = [] then [] else L.encryptCbc session.sEnc
        (block L session.sEnc session.counter) (pad (apdu.drop 4))) ∧
      (wrapCommand L apdu).run card = (.ok (apdu.take 4 ++ encrypted ++ cMac.take 8),
        { card with
          session := some { session with macChaining := cMac, counter := session.counter + 1 } }) := by
  obtain ⟨hEnc, hMac, -⟩ := hkeyed session h
  unfold wrapCommand
  rw [Py.run_get_bind, h]
  simp only
  by_cases hdata : apdu.drop 4 = []
  · rw [if_neg (not_not.mpr hdata), if_pos hdata]
    refine ⟨[], L.cmac session.sMac (session.macChaining ++ apdu.take 4 ++ []), rfl, ?_⟩
    simp only [pure, Except.pure, Py.run_lift_ok_bind, cmac_of_isKey hMac]
    rfl
  · rw [if_pos hdata, if_neg hdata]
    have hiv : generateIcv L session = .ok (block L session.sEnc session.counter) := by
      unfold generateIcv toBE
      rw [if_pos (hserves.resolve_left hdata), ok_bind, if_pos hEnc]
      rfl
    refine ⟨_, L.cmac session.sMac (session.macChaining ++ apdu.take 4 ++ L.encryptCbc session.sEnc
      (block L session.sEnc session.counter) (pad (apdu.drop 4))), rfl, ?_⟩
    rw [hiv, ok_bind]
    simp only [pure, Except.pure, Py.run_lift_ok_bind, cmac_of_isKey hMac]
    rfl

theorem wrapCommand_exhausted {card : Scp03} {session : Scp03Session} (h : card.session = some session)
    {apdu : Bytes} (hdata : apdu.drop 4 ≠ []) (hcounter : ¬session.counter < 256 ^ 16) :
    ((wrapCommand L apdu).run card).2 = card := by
  unfold wrapCommand
  rw [Py.run_get_bind, h]
  simp only
  rw [if_pos hdata]
  have hiv : ∃ e, generateIcv L session = .error e := by
    unfold generateIcv toBE
    rw [if_neg hcounter]
    exact ⟨_, rfl⟩
  obtain ⟨e, hiv⟩ := hiv
  rw [hiv]
  rfl

/-- **What `unwrap_response` does.**  Where there is a chaining value, the data is decrypted under it. -/
theorem unwrapResponse_icv {card : Scp03} {session : Scp03Session} (h : card.session = some session)
    {response iv : Bytes} (hiv : icv L card (.unwrapResponse response) = some iv) :
    ((unwrapResponse L response).run card).1 =
      if (responseData response).length % 16 = 0 then
        .ok (unpad (L.decryptCbc session.sEnc iv (responseData response)) ++ statusWord response)
      else .error (.valueError "Data must be padded to 16 byte boundary in CBC mode".toList) := by
  unfold icv at hiv
  rw [h, Option.bind_some] at hiv
  change (if Encrypted L session response then _ else _) = some iv at hiv
  split_ifs at hiv with hencrypted
  obtain ⟨hlong, hkey, hmac, hdata⟩ := hencrypted
  rw [unwrapResponse_long h hlong, if_pos hkey, if_pos hmac, decrypt, if_pos hdata]
  cases hgenerate : generateIcv L session with
  | error e =>
      rw [hgenerate] at hiv
      cases hiv
  | ok iv' =>
      rw [hgenerate] at hiv
      obtain rfl := Option.some.inj hiv
      rfl

/-- What a call does to the counter, and the chaining value it uses. -/
inductive Turn (L : AesLibrary) (key : Bytes) (n : ℕ) (card : Scp03) (call : SessionCall) : Prop
  | advance : Dataless call → icv L card call = none → Open key (n + 1) ((call.run L).run card).2 →
      Turn L key n card call
  | encrypt : n < 256 ^ 16 → ¬Dataless call → ¬Decrypts L card call →
      icv L card call = some (block L key n) → Open key (n + 1) ((call.run L).run card).2 →
      Turn L key n card call
  | decrypt : n < 256 ^ 16 → ¬Dataless call → Decrypts L card call →
      icv L card call = some (block L key n) → ((call.run L).run card).2 = card → Turn L key n card call
  | nothing : ¬Dataless call → icv L card call = none → ((call.run L).run card).2 = card →
      Turn L key n card call

/-- **One call.** -/
theorem turn {key : Bytes} {n : ℕ} {card : Scp03} (h : Open key n card) (call : SessionCall) :
    Turn L key n card call := by
  obtain ⟨hkeyed, session, hsession, rfl, rfl⟩ := h
  have hEnc := (hkeyed session hsession).1
  have hicv : icv L card call = sessionIcv L session call := by rw [icv, hsession, Option.bind_some]
  cases call with
  | wrapCommand apdu =>
      have hopen : apdu.drop 4 = [] ∨ session.counter < 256 ^ 16 →
          Open session.sEnc (session.counter + 1)
            (((SessionCall.wrapCommand apdu).run L).run card).2 := by
        intro hserves
        obtain ⟨encrypted, cMac, -, hrun⟩ := wrapCommand_run hkeyed hsession hserves
        refine ⟨wrapCommand_keyed hkeyed apdu,
          { session with macChaining := cMac, counter := session.counter + 1 }, ?_, rfl, rfl⟩
        rw [SessionCall.run, hrun]
      have hno : ¬Decrypts L card (.wrapCommand apdu) := fun ⟨_, heq, _⟩ => by cases heq
      by_cases hdata : apdu.drop 4 = []
      · refine .advance hdata ?_ (hopen (Or.inl hdata))
        rw [hicv, sessionIcv, if_pos hdata]
      · rw [sessionIcv, if_neg hdata, generateIcv_toOption hEnc] at hicv
        by_cases hcounter : session.counter < 256 ^ 16
        · rw [if_pos hcounter] at hicv
          exact .encrypt hcounter hdata hno hicv (hopen (Or.inr hcounter))
        · rw [if_neg hcounter] at hicv
          exact .nothing hdata hicv (wrapCommand_exhausted hsession hdata hcounter)
  | unwrapResponse response =>
      have hstate : (((SessionCall.unwrapResponse response).run L).run card).2 = card :=
        unwrapResponse_state card response
      by_cases hencrypted : Encrypted L session response
      · rw [sessionIcv, if_pos hencrypted, generateIcv_toOption hEnc] at hicv
        by_cases hcounter : session.counter < 256 ^ 16
        · rw [if_pos hcounter] at hicv
          exact .decrypt hcounter id ⟨response, rfl, by rw [hicv]; rfl⟩ hicv hstate
        · rw [if_neg hcounter] at hicv
          exact .nothing id hicv hstate
      · rw [sessionIcv, if_neg hencrypted] at hicv
        exact .nothing id hicv hstate

/-- The call encrypts or decrypts under this chaining value. -/
def RunsUnder (L : AesLibrary) (card : Scp03) (iv : Bytes) : SessionCall → Prop
  | .wrapCommand apdu => ∃ (session : Scp03Session) (cMac : Bytes), card.session = some session ∧
      ((wrapCommand L apdu).run card).1 =
        .ok (apdu.take 4 ++ L.encryptCbc session.sEnc iv (pad (apdu.drop 4)) ++ cMac.take 8)
  | .unwrapResponse response => ∃ session, card.session = some session ∧
      ((unwrapResponse L response).run card).1 =
        if (responseData response).length % 16 = 0 then
          .ok (unpad (L.decryptCbc session.sEnc iv (responseData response)) ++ statusWord response)
        else .error (.valueError "Data must be padded to 16 byte boundary in CBC mode".toList)

theorem Open.runsUnder {key : Bytes} {n : ℕ} {card : Scp03} (h : Open key n card) {call : SessionCall}
    {iv : Bytes} (hiv : icv L card call = some iv) : RunsUnder L card iv call := by
  obtain ⟨hkeyed, session, hsession, rfl, rfl⟩ := h
  cases call with
  | wrapCommand apdu =>
      rw [icv, hsession, Option.bind_some, sessionIcv] at hiv
      split_ifs at hiv with hdata
      rw [generateIcv_toOption (hkeyed session hsession).1] at hiv
      split_ifs at hiv with hcounter
      obtain rfl := Option.some.inj hiv
      obtain ⟨encrypted, cMac, rfl, hrun⟩ := wrapCommand_run (L := L) hkeyed hsession (Or.inr hcounter)
      rw [if_neg hdata] at hrun
      exact ⟨session, cMac, hsession, congrArg Prod.fst hrun⟩
  | unwrapResponse response => exact ⟨session, hsession, unwrapResponse_icv hsession hiv⟩

/-! ### Sequences of calls -/

theorem Open.after {key : Bytes} {n : ℕ} {card : Scp03} (h : Open key n card) (calls : List SessionCall) :
    ∃ m, Open key m (after L card calls) := by
  induction calls generalizing n card with
  | nil => exact ⟨n, h⟩
  | cons call calls ih =>
      cases turn (L := L) h call with
      | advance _ _ hnext => exact ih hnext
      | encrypt _ _ _ _ hnext => exact ih hnext
      | decrypt _ _ _ _ hsame => exact ih (hsame ▸ h)
      | nothing _ _ hsame => exact ih (hsame ▸ h)

/-- The cipher tells blocks apart. -/
def Injective (L : AesLibrary) : Prop :=
  ∀ key a b, a.length = 16 → b.length = 16 → L.encryptBlock key a = L.encryptBlock key b → a = b

theorem block_inj (hL : Injective L) {key : Bytes} {m n : ℕ} (hm : m < 256 ^ 16) (hn : n < 256 ^ 16)
    (h : block L key m = block L key n) : m = n := by
  have hbytes := hL key _ _ (beBytes_length m 16) (beBytes_length n 16) h
  have hvalue := congrArg fromBE hbytes
  rwa [fromBE_beBytes, fromBE_beBytes, Nat.mod_eq_of_lt hm, Nat.mod_eq_of_lt hn] at hvalue

/-- The chaining values to come are those of counters from the present one on. -/
theorem icvs_counters {key : Bytes} {n : ℕ} {card : Scp03} (h : Open key n card)
    (calls : List SessionCall) :
    ∀ iv ∈ icvs L card calls, ∃ m, n ≤ m ∧ m < 256 ^ 16 ∧ iv = block L key m := by
  induction calls generalizing n card with
  | nil => exact fun _ hiv => absurd hiv List.not_mem_nil
  | cons call calls ih =>
      intro iv hiv
      have hlater : Open key (n + 1) ((call.run L).run card).2 →
          iv ∈ icvs L ((call.run L).run card).2 calls →
            ∃ m, n ≤ m ∧ m < 256 ^ 16 ∧ iv = block L key m := by
        intro hopen hmem
        obtain ⟨m, hm, hrest⟩ := ih hopen iv hmem
        exact ⟨m, by omega, hrest⟩
      rcases List.mem_append.mp hiv with hnow | hnext
      · cases turn (L := L) h call with
        | advance _ hicv _ => rw [hicv] at hnow; cases hnow
        | encrypt hn _ _ hicv _ =>
            rw [hicv] at hnow
            exact ⟨n, le_rfl, hn, List.mem_singleton.mp hnow⟩
        | decrypt hn _ _ hicv _ =>
            rw [hicv] at hnow
            exact ⟨n, le_rfl, hn, List.mem_singleton.mp hnow⟩
        | nothing _ hicv _ => rw [hicv] at hnow; cases hnow
      · cases turn (L := L) h call with
        | advance _ _ hopen => exact hlater hopen hnext
        | encrypt _ _ _ _ hopen => exact hlater hopen hnext
        | decrypt _ _ _ _ hsame => exact ih h iv (hsame ▸ hnext)
        | nothing _ _ hsame => exact ih h iv (hsame ▸ hnext)

/-- The next AES-CBC operation comes after a command without data. -/
def Waits (L : AesLibrary) (card : Scp03) (calls : List SessionCall) : Prop :=
  ∀ l₂ y l₃, calls = l₂ ++ y :: l₃ → (icv L (after L card l₂) y).isSome → ∃ z ∈ l₂, Dataless z

/-- The counter of now is used again unless a command without data comes before. -/
theorem waits_iff (hL : Injective L) {key : Bytes} {n : ℕ} {card : Scp03} (h : Open key n card)
    (hn : n < 256 ^ 16) (calls : List SessionCall) :
    block L key n ∉ icvs L card calls ↔ Waits L card calls := by
  induction calls with
  | nil =>
      refine ⟨fun _ l₂ y l₃ hsplit => ?_, fun _ => List.not_mem_nil⟩
      exact absurd hsplit.symm (List.append_ne_nil_of_right_ne_nil _ (List.cons_ne_nil _ _))
  | cons call calls ih =>
      have hfirst : (icv L card call).isSome → ¬Waits L card (call :: calls) := fun hsome hwaits => by
        obtain ⟨z, hz, -⟩ := hwaits [] call calls rfl hsome
        cases hz
      have hused : icv L card call = some (block L key n) →
          (block L key n ∉ icvs L card (call :: calls) ↔ Waits L card (call :: calls)) := by
        intro hicv
        refine iff_of_false (not_not.mpr ?_) (hfirst (by rw [hicv]; rfl))
        exact List.mem_append_left _ (by rw [hicv]; exact List.mem_singleton_self _)
      cases turn (L := L) h call with
      | encrypt _ _ _ hicv _ => exact hused hicv
      | decrypt _ _ _ hicv _ => exact hused hicv
      | advance hdataless hicv hopen =>
          refine iff_of_true (fun hmem => ?_) ?_
          · rcases List.mem_append.mp hmem with hnow | hnext
            · rw [hicv] at hnow
              cases hnow
            · obtain ⟨m, hm, hm', heq⟩ := icvs_counters hopen calls _ hnext
              have := block_inj hL hn hm' heq
              omega
          · rintro (_ | ⟨c, l₂⟩) y l₃ hsplit hsome
            · obtain ⟨rfl, rfl⟩ := List.cons.inj hsplit
              rw [show after L card [] = card from rfl, hicv] at hsome
              cases hsome
            · obtain ⟨rfl, -⟩ := List.cons.inj hsplit
              exact ⟨call, List.mem_cons_self, hdataless⟩
      | nothing hnot hicv hsame =>
          have hicvs : icvs L card (call :: calls) = icvs L card calls := by
            rw [icvs, hicv, hsame]
            rfl
          rw [hicvs, ih]
          constructor
          · rintro hwaits (_ | ⟨c, l₂⟩) y l₃ hsplit hsome
            · obtain ⟨rfl, rfl⟩ := List.cons.inj hsplit
              rw [show after L card [] = card from rfl, hicv] at hsome
              cases hsome
            · obtain ⟨rfl, rfl⟩ := List.cons.inj hsplit
              rw [show after L card (call :: l₂) = after L ((call.run L).run card).2 l₂ from rfl,
                hsame] at hsome
              obtain ⟨z, hz, hdataless⟩ := hwaits l₂ y l₃ rfl hsome
              exact ⟨z, List.mem_cons_of_mem _ hz, hdataless⟩
          · rintro hwaits l₂ y l₃ rfl hsome
            obtain ⟨z, hz, hdataless⟩ := hwaits (call :: l₂) y l₃ rfl (by
              rw [show after L card (call :: l₂) = after L ((call.run L).run card).2 l₂ from rfl, hsame]
              exact hsome)
            rcases List.mem_cons.mp hz with rfl | hz
            · exact absurd hdataless hnot
            · exact ⟨z, hz, hdataless⟩

theorem separated_cons (card : Scp03) (call : SessionCall) (calls : List SessionCall) :
    Separated L card (call :: calls) ↔
      (Decrypts L card call → Waits L ((call.run L).run card).2 calls) ∧
        Separated L ((call.run L).run card).2 calls := by
  constructor
  · intro h
    refine ⟨fun hdecrypts l₂ y l₃ hsplit hsome => ?_, fun l₁ x l₂ y l₃ hsplit hdecrypts hsome => ?_⟩
    · exact h [] call l₂ y l₃ (congrArg (call :: ·) hsplit) hdecrypts hsome
    · exact h (call :: l₁) x l₂ y l₃ (congrArg (call :: ·) hsplit) hdecrypts hsome
  · rintro ⟨hfirst, hrest⟩ (_ | ⟨c, l₁⟩) x l₂ y l₃ hsplit hdecrypts hsome
    · obtain ⟨rfl, rfl⟩ := List.cons.inj hsplit
      exact hfirst hdecrypts l₂ y l₃ rfl hsome
    · obtain ⟨rfl, rfl⟩ := List.cons.inj hsplit
      exact hrest l₁ x l₂ y l₃ rfl hdecrypts hsome

/-- **When chaining values are reused.**  For every session and every sequence of calls, the AES-CBC
operations have different chaining values exactly if after every decrypted response a command without
data is wrapped before the next one.  Each of these values is the one its call encrypts or decrypts
under. -/
theorem icvs_distinct_iff (hL : Injective L) {card : Scp03} {session : Scp03Session}
    (hkeyed : card.Keyed) (h : card.session = some session) (calls : List SessionCall) :
    ((icvs L card calls).Nodup ↔ Separated L card calls) ∧
      ∀ l₁ call l₂, calls = l₁ ++ call :: l₂ → ∀ iv ∈ icv L (after L card l₁) call,
        RunsUnder L (after L card l₁) iv call := by
  have hopen : Open session.sEnc session.counter card := ⟨hkeyed, session, h, rfl, rfl⟩
  refine ⟨?_, fun l₁ call l₂ _ iv hiv => ?_⟩
  rotate_left
  · obtain ⟨m, hafter⟩ := hopen.after (L := L) l₁
    exact hafter.runsUnder hiv
  suffices hall : ∀ (n : ℕ) (card : Scp03), Open session.sEnc n card →
      ((icvs L card calls).Nodup ↔ Separated L card calls) from
    hall session.counter card hopen
  clear hopen h hkeyed card
  induction calls with
  | nil =>
      refine fun n card _ => iff_of_true List.nodup_nil fun l₁ x l₂ y l₃ hsplit => ?_
      exact absurd hsplit.symm (List.append_ne_nil_of_right_ne_nil _ (List.cons_ne_nil _ _))
  | cons call calls ih =>
      intro n card hopen
      rw [separated_cons, icvs]
      cases turn (L := L) hopen call with
      | advance hdataless hicv hnext =>
          have hno : ¬Decrypts L card call := fun ⟨_, _, hsome⟩ => by rw [hicv] at hsome; cases hsome
          rw [hicv, Option.toList_none, List.nil_append, ih (n + 1) _ hnext]
          exact ⟨fun hs => ⟨fun hd => absurd hd hno, hs⟩, fun hs => hs.2⟩
      | nothing _ hicv hsame =>
          have hno : ¬Decrypts L card call := fun ⟨_, _, hsome⟩ => by rw [hicv] at hsome; cases hsome
          rw [hicv, hsame, Option.toList_none, List.nil_append, ← ih n card hopen]
          exact ⟨fun hs => ⟨fun hd => absurd hd hno, hs⟩, fun hs => hs.2⟩
      | encrypt hn _ hno hicv hnext =>
          rw [hicv, ← ih (n + 1) _ hnext, Option.toList_some, List.singleton_append, List.nodup_cons]
          have hnew : block L session.sEnc n ∉ icvs L ((call.run L).run card).2 calls := by
            intro hmem
            obtain ⟨m, hm, hm', heq⟩ := icvs_counters hnext calls _ hmem
            have := block_inj hL hn hm' heq
            omega
          exact ⟨fun hs => ⟨fun hd => absurd hd hno, hs.2⟩, fun hs => ⟨hnew, hs.2⟩⟩
      | decrypt hn _ hdecrypts hicv hsame =>
          rw [hicv, hsame, ← ih n card hopen, ← waits_iff hL hopen hn calls, Option.toList_some,
            List.singleton_append, List.nodup_cons]
          exact ⟨fun hs => ⟨fun _ => hs.1, hs.2⟩, fun hs => ⟨hs.1 hdecrypts, hs.2⟩⟩

end Library

theorem plainLibrary_injective : Injective plainLibrary := fun _ _ _ _ _ h => h

/-- A command, its response and another command, all with data. -/
def exchange : List SessionCall :=
  [.wrapCommand [0x80, 0xE2, 0, 0, 1],
    .unwrapResponse (pad [1, 2, 3] ++ List.replicate 8 0 ++ [0x90, 0]),
    .wrapCommand [0x80, 0xE2, 0, 0, 2]]

/-- The same with a command without data after the response: then the chaining values differ. -/
theorem icvs_distinct_separated : Separated plainLibrary openCard
    [.wrapCommand [0x80, 0xE2, 0, 0, 1],
      .unwrapResponse (pad [1, 2, 3] ++ List.replicate 8 0 ++ [0x90, 0]),
      .wrapCommand [0x80, 0xCA, 0, 0], .wrapCommand [0x80, 0xE2, 0, 0, 2]] :=
  (icvs_distinct_iff plainLibrary_injective openCard_keyed rfl _).1.mp (by decide +kernel)

/-- **A chaining value is reused.**  The response is decrypted under the chaining value under which the
next command is encrypted. -/
theorem icv_reused : icvs plainLibrary openCard exchange =
      [beBytes 1 16, beBytes 2 16, beBytes 2 16] ∧
    ¬∀ L : AesLibrary, Injective L → ∀ card : Scp03, card.Keyed → card.session.isSome →
      ∀ calls, (icvs L card calls).Nodup := by
  have hicvs : icvs plainLibrary openCard exchange = [beBytes 1 16, beBytes 2 16, beBytes 2 16] := by
    decide +kernel
  refine ⟨hicvs, fun h => ?_⟩
  have hnodup := h plainLibrary plainLibrary_injective openCard openCard_keyed rfl exchange
  rw [hicvs] at hnodup
  revert hnodup
  decide

end Scp03

end VirtualPhone
