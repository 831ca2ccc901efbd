import VirtualPhone.AuthHelper

/-! # The numbers of all vectors of a subscriber

Two programs build vectors from one database: `generate_auth_vector` of
`scripts/scscf_auth_helper.py`, one at a time, and `main` of `scripts/provision_epdg.py`, a batch for
every subscriber.  Both begin with the stored number; the first stores it plus 32, the second stores
nothing.

`sqns_increase_iff` says which sequences of runs number the vectors of a subscriber in increasing
order: those in which every run that builds some, but the last, is one that has moved the stored
number on. -/

namespace VirtualPhone

open Runtime

/-! ### The provisioner -/

section Provisioner

variable (aes : Bytes → Block → Block)

/-- The keys `main` takes from a record. -/
def Security.provisionKeys (security : Security) : Except PyError (Bytes × Bytes) := do
  let ki ← fromHex security.kiHex
  let opc ←
    if security.opType.getD 0 = 0 then do
      let _ ← Milenage.new ki (List.replicate 16 0)
      let op ← fromHex security.opHex
      Milenage.computeOpc aes ki op
    else fromHex security.opHex
  return (ki, opc)

/-- One round of the loop of `main`: the rows for a subscriber, or none when the record lacks
something; `rand` are the random numbers drawn for it. -/
def subscriberRows (count : ℤ) (rand : Text → ℕ → Block) (imsi : Text) (security : Security) :
    Except PyError (List (Text × Quintuplet)) :=
  if imsi = [] ∨ security.kiHex = [] ∨ security.opHex = [] then return []
  else do
    let (ki, opc) ← security.provisionKeys aes
    let quints ← Milenage.generateQuintuplets aes ki opc imsi count.toNat security.sqnVal (rand imsi)
    return quints.map (imsi, ·)

/-- The loop of `main` over the subscribers: the rows of the table, each with the subscriber it is
for. -/
def provisionRows (count : ℤ) (rand : Text → ℕ → Block) :
    List (Text × Security) → Except PyError (List (Text × Quintuplet))
  | [] => return []
  | (imsi, security) :: subscribers => do
      let rows ← subscriberRows aes count rand imsi security
      let rest ← provisionRows count rand subscribers
      return rows ++ rest

end Provisioner

/-! ### The authentication centre -/

/-- RAND and AUTN of a vector, and the subscriber it was built for. -/
structure IssuedVector where
  imsi : Text
  rand : Bytes
  autn : Bytes
deriving DecidableEq

/-- The database with the helper's cache, and the vectors built so far. -/
structure AuthCentre where
  helper : AuthHelper
  issued : List IssuedVector := []

/-- A run of one of the two programs; a provisioner that gets no answer from the database finds no
subscribers. -/
inductive AucRun
  | vector (rand : Block) (reach : Reach) (imsi : Text)
  | provision (count : ℤ) (rand : Text → ℕ → Block) (query : Bool)

namespace AuthCentre

variable (aes : Bytes → Block → Block)

/-- The vector the helper returns. -/
def ofVector (imsi : Text) (v : AuthVector) : IssuedVector where
  imsi := imsi
  rand := (fromHex v.rand).toOption.getD []
  autn := (fromHex v.autn).toOption.getD []

/-- The vector of a row of the table. -/
def ofRow (row : Text × Quintuplet) : IssuedVector where
  imsi := row.1
  rand := row.2.rand
  autn := row.2.autn

/-- One run. -/
def perform (s : AuthCentre) : AucRun → AuthCentre
  | .vector rand reach imsi =>
      match (AuthHelper.generateAuthVector aes rand reach imsi).run s.helper with
      | (.ok (some v), helper) => { helper := helper, issued := s.issued ++ [ofVector imsi v] }
      | (_, helper) => { s with helper := helper }
  | .provision count rand query =>
      match provisionRows aes count rand (if query then s.helper.subscribers.entries else []) with
      | .ok rows => { s with issued := s.issued ++ rows.map ofRow }
      | .error _ => s

/-- A sequence of runs. -/
def after (s : AuthCentre) (es : List AucRun) : AuthCentre := es.foldl (perform aes) s

/-- The vectors of a subscriber, in order. -/
def issuedTo (imsi : Text) (s : AuthCentre) : List IssuedVector := s.issued.filter (·.imsi = imsi)

/-- The stored number of a subscriber. -/
def storedSqn (imsi : Text) (s : AuthCentre) : ℕ :=
  ((s.helper.subscribers.get? imsi).map Security.sqnVal).getD 0

end AuthCentre

/-- The number in an AUTN, under the keys of a record. -/
def IssuedVector.sqn (aes : Bytes → Block → Block) (security : Security) (v : IssuedVector) : Option ℕ :=
  (security.milenage aes).toOption.map fun mil => mil.challengeSqn aes v.rand v.autn

/-- Both vectors carry a number, and the first the smaller one. -/
def IssuedVector.Before (aes : Bytes → Block → Block) (security : Security) (v w : IssuedVector) : Prop :=
  ∃ m n, v.sqn aes security = some m ∧ w.sqn aes security = some n ∧ m < n

/-! ### When a run builds vectors -/

section Conditions

variable (aes : Bytes → Block → Block)

/-- `generate_auth_vector` gets through with this record. -/
def Security.Vectors (security : Security) (rand : Block) : Prop :=
  security.kiHex ≠ [] ∧ security.opHex ≠ [] ∧ security.sqnVal < 2 ^ 48 ∧
    ∃ mil amf v, security.milenage aes = .ok mil ∧ fromHex security.amfHex = .ok amf ∧
      mil.networkVector aes rand.1 (beBytes security.sqnVal 6) amf = .ok v

/-- `main` gets past this record: it is skipped, or its keys and numbers are good. -/
def Security.Provisions (security : Security) (count : ℤ) : Prop :=
  security.kiHex = [] ∨ security.opHex = [] ∨
    ∃ ki opc, security.provisionKeys aes = .ok (ki, opc) ∧ ki.length = 16 ∧ opc.length = 16 ∧
      ∀ i < count.toNat, security.sqnVal + i * 32 < 2 ^ 48

/-- The run builds vectors for a subscriber. -/
def AucRun.Issues (imsi : Text) (helper : AuthHelper) : AucRun → Prop
  | vector rand reach i =>
      i = imsi ∧ reach.query = true ∧
        ∃ security, helper.subscribers.get? imsi = some security ∧ security.Vectors aes rand
  | provision count _ query =>
      query = true ∧ 0 < count ∧ imsi ≠ [] ∧
        (∃ security, helper.subscribers.get? imsi = some security ∧ security.kiHex ≠ [] ∧
          security.opHex ≠ []) ∧
        ∀ e ∈ helper.subscribers.entries, e.1 ≠ [] → e.2.Provisions aes count

end Conditions

/-- The run moves the stored number on. -/
def AucRun.WritesBack : AucRun → Prop
  | vector _ reach _ => reach.update = true
  | provision _ _ _ => False

variable {aes : Bytes → Block → Block}

/-! ### The number of a vector -/

theorem Milenage.challengeSqn_networkVector {m : Milenage} (hopc : m.opc.length = 16) {rand amf : Bytes}
    (hrand : rand.length = 16) {sqn : ℕ} (hsqn : sqn < 2 ^ 48) {v : NetworkVector}
    (hv : m.networkVector aes rand (beBytes sqn 6) amf = .ok v) : m.challengeSqn aes rand v.autn = sqn := by
  obtain ⟨res, ck, ik, ak, hf, hak⟩ := f2345_block aes hopc hrand
  obtain ⟨mac, -, hv⟩ := bind_eq_ok hv
  rw [hf, ok_bind] at hv
  obtain rfl := Except.ok.inj hv
  have hhead : (xorBytes (beBytes sqn 6) ak).length = 6 := by simp [hak]
  have hsqnAk : slice (xorBytes (beBytes sqn 6) ak ++ amf ++ mac) 0 6 = xorBytes (beBytes sqn 6) ak :=
    slice_of_eq (p := []) (q := amf ++ mac) (by simp) rfl (by rw [hhead])
  unfold challengeSqn
  rw [hf]
  show fromBE (xorBytes (slice (xorBytes (beBytes sqn 6) ak ++ amf ++ mac) 0 6) ak) = sqn
  rw [hsqnAk, xorBytes_cancel _ _ (by simp [hak]), fromBE_beBytes, Nat.mod_eq_of_lt (by omega)]

theorem Security.opc_length_of_milenage {security : Security} {m : Milenage}
    (h : security.milenage aes = .ok m) : m.opc.length = 16 := by
  obtain ⟨ki, -, h⟩ := bind_eq_ok h
  obtain ⟨opc, -, h⟩ := bind_eq_ok h
  have hnew : ∃ opc', Milenage.new ki opc' = .ok m := by
    dsimp only at h
    split_ifs at h
    · obtain ⟨m', -, h⟩ := bind_eq_ok h
      obtain ⟨op, -, h⟩ := bind_eq_ok h
      obtain ⟨opc', -, h⟩ := bind_eq_ok h
      exact ⟨opc', h⟩
    · exact ⟨opc, h⟩
  obtain ⟨opc', hnew⟩ := hnew
  obtain ⟨rfl, -, hopc⟩ := Milenage.lengths_of_new hnew
  exact hopc

theorem Security.milenage_of_provisionKeys {security : Security} {ki opc : Bytes}
    (h : security.provisionKeys aes = .ok (ki, opc)) (hki : ki.length = 16) (hopc : opc.length = 16) :
    security.milenage aes = .ok ⟨ki, opc⟩ := by
  obtain ⟨ki', hki', h⟩ := bind_eq_ok h
  unfold Security.milenage
  rw [hki', ok_bind]
  dsimp only at h
  split_ifs at h with htype
  · obtain ⟨m, hm, h⟩ := bind_eq_ok h
    obtain ⟨op, hop, h⟩ := bind_eq_ok h
    obtain ⟨opc', hopc', h⟩ := bind_eq_ok h
    obtain ⟨rfl, rfl⟩ := Prod.mk.inj (Except.ok.inj h)
    rw [hop, ok_bind, if_pos htype, hm, ok_bind, ok_bind, hopc', ok_bind]
    exact Milenage.new_of_lengths hki hopc
  · obtain ⟨opc', hopc', h⟩ := bind_eq_ok h
    obtain ⟨rfl, rfl⟩ := Prod.mk.inj (Except.ok.inj h)
    rw [hopc', ok_bind, if_neg htype]
    exact Milenage.new_of_lengths hki hopc

/-! ### One vector -/

/-- `generate_auth_vector` builds a vector from the stored number, or does nothing. -/
theorem AuthHelper.generateAuthVector_cases (aes : Bytes → Block → Block) (helper : AuthHelper)
    (rand : Block) (reach : Reach) (imsi : Text) :
    (reach.query = true ∧ ∃ security mil amf v, helper.subscribers.get? imsi = some security ∧
        security.Vectors aes rand ∧ security.milenage aes = .ok mil ∧
        mil.networkVector aes rand.1 (beBytes security.sqnVal 6) amf = .ok v ∧
        (generateAuthVector aes rand reach imsi).run helper =
          (.ok (some (authVector imsi rand v)), cache imsi (authVector imsi rand v)
            (if reach.update then setSqn imsi (security.sqnVal + 32) helper else helper))) ∨
      (¬(reach.query = true ∧ ∃ security, helper.subscribers.get? imsi = some security ∧
          security.Vectors aes rand) ∧
        ∃ r, (generateAuthVector aes rand reach imsi).run helper = (r, helper) ∧ ∀ v, r ≠ .ok (some v)) := by
  unfold generateAuthVector
  rw [Py.run_get_bind]
  cases hquery : reach.query with
  | false => exact Or.inr ⟨by simp, .ok none, by simp [getSubscriber, hquery], by simp⟩
  | true =>
      have hsub : helper.getSubscriber reach imsi = helper.subscribers.get? imsi := by
        simp [getSubscriber, hquery]
      rw [hsub]
      cases hget : helper.subscribers.get? imsi with
      | none => exact Or.inr ⟨by simp, .ok none, rfl, by simp⟩
      | some security =>
          by_cases hcred : security.kiHex = [] ∨ security.opHex = []
          · refine Or.inr ⟨?_, .ok none, by simp [hcred], by simp⟩
            rintro ⟨-, security', hsome, hki, hop, -⟩
            obtain rfl := Option.some.inj hsome
            exact hcred.elim hki hop
          dsimp only
          rw [if_neg hcred]
          -- each error on the way leaves nothing behind
          have hfails (e : PyError) (hno : ¬security.Vectors aes rand) {x : Py AuthHelper (Option AuthVector)}
              (hx : x.run helper = (.error e, helper)) :
              ¬(true = true ∧ ∃ security', some security = some security' ∧ security'.Vectors aes rand) ∧
                ∃ r, x.run helper = (r, helper) ∧ ∀ v, r ≠ .ok (some v) :=
            ⟨fun h => by obtain ⟨-, security', hsome, hv⟩ := h; exact hno (Option.some.inj hsome ▸ hv),
              .error e, hx, by simp⟩
          cases hmil : security.milenage aes with
          | error e =>
              refine Or.inr (hfails e ?_ rfl)
              rintro ⟨-, -, -, mil, amf, v, hok, -⟩
              rw [hmil] at hok
              cases hok
          | ok mil =>
          rw [Py.run_lift_ok_bind]
          by_cases hsqn : security.sqnVal < 256 ^ 6
          · have hbe : toBE security.sqnVal 6 = .ok (beBytes security.sqnVal 6) := if_pos hsqn
            rw [hbe, Py.run_lift_ok_bind]
            cases hamf : fromHex security.amfHex with
            | error e =>
                refine Or.inr (hfails e ?_ rfl)
                rintro ⟨-, -, -, mil', amf, v, -, hok, -⟩
                rw [hamf] at hok
                cases hok
            | ok amf =>
                cases hv : mil.networkVector aes rand.1 (beBytes security.sqnVal 6) amf with
                | error e =>
                    refine Or.inr (hfails e ?_ (by rw [Py.run_lift_ok_bind, hv]; rfl))
                    rintro ⟨-, -, -, mil', amf', v, hmil', hamf', hok⟩
                    obtain rfl := Except.ok.inj (hmil.symm.trans hmil')
                    obtain rfl := Except.ok.inj (hamf.symm.trans hamf')
                    rw [hv] at hok
                    cases hok
                | ok v =>
                    refine Or.inl ⟨rfl, security, mil, amf, v, rfl, ?_, hmil, hv, ?_⟩
                    · exact ⟨fun h => hcred (Or.inl h), fun h => hcred (Or.inr h), by omega, mil, amf, v, hmil,
                        hamf, hv⟩
                    · rw [Py.run_lift_ok_bind, hv, Py.run_lift_ok_bind]
                      cases reach.update <;> rfl
          · have hbe : toBE security.sqnVal 6 = .error .overflowError := if_neg hsqn
            refine Or.inr (hfails .overflowError ?_ (by rw [hbe]; rfl))
            rintro ⟨-, -, hlt, -⟩
            omega

/-! ### A batch -/

theorem Milenage.quintuplets_numbers {m : Milenage} (hopc : m.opc.length = 16) {permanent : Text}
    {amf : Bytes} {sqnStart : ℕ} {rand : ℕ → Block} {i count : ℕ} {rows : List Quintuplet}
    (h : m.quintuplets aes permanent amf sqnStart rand i count = .ok rows) :
    (∀ j < count, sqnStart + (i + j) * 32 < 2 ^ 48) ∧
      rows.map (fun row => m.challengeSqn aes row.rand row.autn) =
        (List.range count).map fun j => sqnStart + (i + j) * 32 := by
  induction count generalizing i rows with
  | zero =>
      obtain rfl := Except.ok.inj h
      exact ⟨fun j hj => absurd hj (Nat.not_lt_zero j), rfl⟩
  | succ count ih =>
      rw [quintuplets] at h
      obtain ⟨sqn, hsqn, h⟩ := bind_eq_ok h
      obtain ⟨v, hv, h⟩ := bind_eq_ok h
      obtain ⟨rest, hrest, h⟩ := bind_eq_ok h
      obtain rfl := Except.ok.inj h
      have hlt : sqnStart + i * 32 < 2 ^ 48 := by
        by_contra hge
        rw [toBE, if_neg (by omega)] at hsqn
        cases hsqn
      rw [toBE, if_pos (by omega)] at hsqn
      obtain rfl := Except.ok.inj hsqn
      obtain ⟨hroom, hnumbers⟩ := ih hrest
      constructor
      · intro j hj
        cases j with
        | zero => exact hlt
        | succ j =>
            have := hroom j (by omega)
            rwa [show i + 1 + j = i + (j + 1) by omega] at this
      · rw [List.range_succ_eq_map, List.map_cons, List.map_cons, List.map_map, hnumbers]
        congr 1
        · exact challengeSqn_networkVector hopc (rand i).2 hlt hv
        · refine List.map_congr_left fun j _ => ?_
          show sqnStart + (i + 1 + j) * 32 = sqnStart + (i + (j + 1)) * 32
          rw [show i + 1 + j = i + (j + 1) by omega]

variable {count : ℤ} {rand : Text → ℕ → Block}

/-- A record that `main` gets past has rows exactly when it has credentials and something is asked
for. -/
theorem subscriberRows_ok {imsi : Text} {security : Security} {rows : List (Text × Quintuplet)}
    (h : subscriberRows aes count rand imsi security = .ok rows) :
    (imsi ≠ [] → security.Provisions aes count) ∧ (∀ row ∈ rows, row.1 = imsi) ∧
      (imsi = [] ∨ security.kiHex = [] ∨ security.opHex = [] → rows = []) ∧
      (imsi ≠ [] → security.kiHex ≠ [] → security.opHex ≠ [] → ∃ mil, security.milenage aes = .ok mil ∧
        rows.map (fun row => mil.challengeSqn aes row.2.rand row.2.autn) =
          (List.range count.toNat).map fun j => security.sqnVal + j * 32) := by
  unfold subscriberRows at h
  by_cases hskip : imsi = [] ∨ security.kiHex = [] ∨ security.opHex = []
  · rw [if_pos hskip] at h
    obtain rfl := Except.ok.inj h
    refine ⟨?_, by simp, fun _ => rfl, ?_⟩
    · intro hne
      rcases hskip with hnil | hki | hop
      · exact absurd hnil hne
      · exact Or.inl hki
      · exact Or.inr (Or.inl hop)
    · intro himsi hki hop
      rcases hskip with hnil | hnil | hnil
      · exact absurd hnil himsi
      · exact absurd hnil hki
      · exact absurd hnil hop
  · rw [if_neg hskip] at h
    obtain ⟨⟨ki, opc⟩, hkeys, h⟩ := bind_eq_ok h
    obtain ⟨quints, hquints, h⟩ := bind_eq_ok h
    obtain rfl := Except.ok.inj h
    obtain ⟨mil, hnew, hrows⟩ := bind_eq_ok hquints
    obtain ⟨rfl, hki, hopc⟩ := Milenage.lengths_of_new hnew
    have hmil : security.milenage aes = .ok ⟨ki, opc⟩ := Security.milenage_of_provisionKeys hkeys hki hopc
    obtain ⟨hroom, hnumbers⟩ := Milenage.quintuplets_numbers hopc hrows
    simp only [Nat.zero_add] at hroom hnumbers
    have hprovisions : security.Provisions aes count := Or.inr (Or.inr ⟨ki, opc, hkeys, hki, hopc, hroom⟩)
    refine ⟨fun _ => hprovisions, ?_, fun hskip' => absurd hskip' hskip, fun _ _ _ => ⟨_, hmil, ?_⟩⟩
    · intro row hrow
      obtain ⟨quint, -, rfl⟩ := List.mem_map.mp hrow
      rfl
    · rw [List.map_map]
      exact hnumbers

theorem subscriberRows_of_provisions {imsi : Text} {security : Security}
    (h : imsi ≠ [] → security.Provisions aes count) :
    ∃ rows, subscriberRows aes count rand imsi security = .ok rows := by
  unfold subscriberRows
  by_cases hskip : imsi = [] ∨ security.kiHex = [] ∨ security.opHex = []
  · exact ⟨[], if_pos hskip⟩
  · rw [if_neg hskip]
    have himsi : imsi ≠ [] := fun hnil => hskip (Or.inl hnil)
    rcases h himsi with hki | hop | ⟨ki, opc, hkeys, hki, hopc, hroom⟩
    · exact absurd (Or.inr (Or.inl hki)) hskip
    · exact absurd (Or.inr (Or.inr hop)) hskip
    · rw [hkeys, ok_bind]
      obtain ⟨rows, hrows, -⟩ := Milenage.quintuplets_rows aes (m := ⟨ki, opc⟩) hopc
        ('0' :: imsi ++ "@nai.epc.mnc".toList ++ zfill (slice imsi 3 5) 3 ++ ".mcc".toList ++
          slice imsi 0 3 ++ ".3gppnetwork.org".toList)
        (rfl : ([0x80, 0x00] : Bytes).length = 2) (rand imsi) 0 count.toNat (by simpa using hroom)
      dsimp only
      rw [Milenage.generateQuintuplets, Milenage.new_of_lengths hki hopc, ok_bind]
      dsimp only
      rw [hrows]
      exact ⟨_, rfl⟩

/-- The batch gets through exactly when `main` gets past every record. -/
theorem provisionRows_ok_iff (rand : Text → ℕ → Block) (subscribers : List (Text × Security)) :
    (∃ rows, provisionRows aes count rand subscribers = .ok rows) ↔
      ∀ e ∈ subscribers, e.1 ≠ [] → e.2.Provisions aes count := by
  induction subscribers with
  | nil => exact ⟨fun _ e he => (List.not_mem_nil he).elim, fun _ => ⟨[], rfl⟩⟩
  | cons e subscribers ih =>
      obtain ⟨imsi, security⟩ := e
      rw [List.forall_mem_cons, ← ih]
      constructor
      · rintro ⟨rows, h⟩
        obtain ⟨first, hfirst, h⟩ := bind_eq_ok h
        obtain ⟨rest, hrest, -⟩ := bind_eq_ok h
        exact ⟨(subscriberRows_ok hfirst).1, rest, hrest⟩
      · rintro ⟨hprov, rest, hrest⟩
        obtain ⟨first, hfirst⟩ := subscriberRows_of_provisions hprov
        exact ⟨first ++ rest, by rw [provisionRows, hfirst, ok_bind, hrest]; rfl⟩

/-- The rows of a batch for one subscriber are those made from its record. -/
theorem provisionRows_filter {subscribers : List (Text × Security)}
    (hnodup : (subscribers.map Prod.fst).Nodup) {rows : List (Text × Quintuplet)}
    (h : provisionRows aes count rand subscribers = .ok rows) (imsi : Text) :
    (∀ security, (imsi, security) ∈ subscribers → subscriberRows aes count rand imsi security =
        .ok (rows.filter (·.1 = imsi))) ∧
      (imsi ∉ subscribers.map Prod.fst → rows.filter (·.1 = imsi) = []) := by
  induction subscribers generalizing rows with
  | nil =>
      obtain rfl := Except.ok.inj h
      exact ⟨fun security hmem => (List.not_mem_nil hmem).elim, fun _ => rfl⟩
  | cons e subscribers ih =>
      obtain ⟨first, security₁⟩ := e
      obtain ⟨own, hown, h⟩ := bind_eq_ok h
      obtain ⟨rest, hrest, h⟩ := bind_eq_ok h
      obtain rfl := Except.ok.inj h
      rw [List.map_cons, List.nodup_cons] at hnodup
      obtain ⟨hin, hout⟩ := ih hnodup.2 hrest
      have htags := (subscriberRows_ok hown).2.1
      rw [List.filter_append]
      by_cases himsi : first = imsi
      · have hkeep : own.filter (·.1 = imsi) = own :=
          List.filter_eq_self.mpr fun row hrow => decide_eq_true ((htags row hrow).trans himsi)
        have hnone : rest.filter (·.1 = imsi) = [] := hout (himsi ▸ hnodup.1)
        rw [hkeep, hnone, List.append_nil]
        constructor
        · intro security hmem
          rcases List.mem_cons.mp hmem with heq | hmem
          · obtain ⟨rfl, rfl⟩ := Prod.mk.inj heq
            exact hown
          · exact absurd (List.mem_map_of_mem hmem) (himsi ▸ hnodup.1)
        · exact fun hno => absurd (List.mem_cons.mpr (Or.inl himsi.symm)) hno
      · have hdrop : own.filter (·.1 = imsi) = [] :=
          List.filter_eq_nil_iff.mpr fun row hrow => by
            rw [decide_eq_true_eq, htags row hrow]
            exact himsi
        rw [hdrop, List.nil_append]
        constructor
        · intro security hmem
          rcases List.mem_cons.mp hmem with heq | hmem
          · exact absurd (Prod.mk.inj heq).1.symm himsi
          · exact hin security hmem
        · exact fun hno => hout fun hmem => hno (List.mem_cons_of_mem _ hmem)

/-! ### One run -/

namespace AuthCentre

/-- What a run does for a subscriber, from the number stored for it. -/
structure Issued (aes : Bytes → Block → Block) (security : Security) (imsi : Text) (e : AucRun)
    (s s' : AuthCentre) : Prop where
  /-- It adds a series of numbers from the stored one on. -/
  numbers : ∃ n new, 0 < n ∧ s'.issuedTo imsi = s.issuedTo imsi ++ new ∧
    new.map (IssuedVector.sqn aes security) =
      (List.range n).map fun j => some (s.storedSqn imsi + j * 32)
  /-- When it writes back, this is one number, and it is not stored any longer. -/
  written : e.WritesBack →
    (∃ v, s'.issuedTo imsi = s.issuedTo imsi ++ [v] ∧ v.sqn aes security = some (s.storedSqn imsi)) ∧
      s'.storedSqn imsi = s.storedSqn imsi + 32
  kept : ¬e.WritesBack → s'.storedSqn imsi = s.storedSqn imsi

/-- The record of the subscriber is that of the start, up to its number. -/
def Records (security : Security) (imsi : Text) (s : AuthCentre) : Prop :=
  ∃ sqn, s.helper.subscribers.get? imsi = some { security with sqn := sqn }

/-- A run that does nothing for a subscriber. -/
def Idle (imsi : Text) (s s' : AuthCentre) : Prop :=
  s'.issuedTo imsi = s.issuedTo imsi ∧ s'.storedSqn imsi = s.storedSqn imsi

variable {security : Security} {imsi : Text} {s : AuthCentre}

theorem ofVector_authVector (imsi : Text) (rand : Block) (v : NetworkVector) :
    ofVector imsi (AuthHelper.authVector imsi rand v) = ⟨imsi, rand.1, v.autn⟩ := by
  simp [ofVector, AuthHelper.authVector, fromHex_hex, Except.toOption]

theorem issuedTo_append (imsi : Text) (helper helper' : AuthHelper) (old new : List IssuedVector) :
    ({ helper := helper', issued := old ++ new } : AuthCentre).issuedTo imsi =
      ({ helper := helper, issued := old } : AuthCentre).issuedTo imsi ++ new.filter (·.imsi = imsi) :=
  List.filter_append ..

theorem perform_vector_of_run {rand : Block} {reach : Reach} {i : Text} {v : NetworkVector}
    {helper : AuthHelper} (hrun : (AuthHelper.generateAuthVector aes rand reach i).run s.helper =
      (.ok (some (AuthHelper.authVector i rand v)), helper)) :
    perform aes s (.vector rand reach i) =
      { helper := helper, issued := s.issued ++ [⟨i, rand.1, v.autn⟩] } := by
  simp only [perform, hrun, ofVector_authVector]

theorem perform_vector_of_no_run {rand : Block} {reach : Reach} {i : Text}
    {r : Except PyError (Option AuthVector)}
    (hrun : (AuthHelper.generateAuthVector aes rand reach i).run s.helper = (r, s.helper))
    (hr : ∀ v, r ≠ .ok (some v)) : perform aes s (.vector rand reach i) = s := by
  rcases r with e | _ | v
  · simp only [perform, hrun]
  · simp only [perform, hrun]
  · exact absurd rfl (hr v)

/-- The stored record after the helper's update and its cache entry. -/
theorem get?_after_vector (helper : AuthHelper) (i imsi : Text) (n : ℕ) (update : Bool) (v : AuthVector) :
    (AuthHelper.cache i v (if update then AuthHelper.setSqn i n helper else helper)).subscribers.get? imsi =
      if update = true ∧ i = imsi then
        (helper.subscribers.get? imsi).map fun record => { record with sqn := some n }
      else helper.subscribers.get? imsi := by
  cases update with
  | false => simp [AuthHelper.cache]
  | true =>
      by_cases hi : i = imsi
      · simp [AuthHelper.cache, AuthHelper.setSqn, Dict.get?_modify, hi]
      · simp [AuthHelper.cache, AuthHelper.setSqn, Dict.get?_modify, hi, Ne.symm hi]

theorem perform_vector (h : s.Records security imsi) (rand : Block) (reach : Reach) (i : Text) :
    (perform aes s (.vector rand reach i)).Records security imsi ∧
      (AucRun.Issues aes imsi s.helper (.vector rand reach i) →
        Issued aes security imsi (.vector rand reach i) s (perform aes s (.vector rand reach i))) ∧
      (¬AucRun.Issues aes imsi s.helper (.vector rand reach i) →
        Idle imsi s (perform aes s (.vector rand reach i))) := by
  obtain ⟨sqn, hrecord⟩ := h
  rcases AuthHelper.generateAuthVector_cases aes s.helper rand reach i with
    ⟨hquery, record, mil, amf, v, hget, hvectors, hmil, hv, hrun⟩ | ⟨hno, r, hrun, hr⟩
  · rw [perform_vector_of_run hrun]
    have hafter := get?_after_vector s.helper i imsi (record.sqnVal + 32) reach.update
      (AuthHelper.authVector i rand v)
    by_cases hi : i = imsi
    · subst hi
      obtain rfl : record = { security with sqn := sqn } := Option.some.inj (hget.symm.trans hrecord)
      have hstored : s.storedSqn i = ({ security with sqn := sqn } : Security).sqnVal := by
        rw [storedSqn, hget]
        rfl
      have hnumber : IssuedVector.sqn aes security ⟨i, rand.1, v.autn⟩ = some (s.storedSqn i) := by
        have hkeys : security.milenage aes = .ok mil := hmil
        have hlt := hvectors.2.2.1
        rw [IssuedVector.sqn, hkeys, hstored]
        exact congrArg some
          (Milenage.challengeSqn_networkVector (Security.opc_length_of_milenage hmil) rand.2 hlt hv)
      have hissued := issuedTo_append i s.helper
        (AuthHelper.cache i (AuthHelper.authVector i rand v)
          (if reach.update then
            AuthHelper.setSqn i (({ security with sqn := sqn } : Security).sqnVal + 32) s.helper
          else s.helper)) s.issued [⟨i, rand.1, v.autn⟩]
      rw [show [(⟨i, rand.1, v.autn⟩ : IssuedVector)].filter (·.imsi = i) = [⟨i, rand.1, v.autn⟩] by simp]
        at hissued
      have hissues : AucRun.Issues aes i s.helper (.vector rand reach i) := ⟨rfl, hquery, _, hget, hvectors⟩
      have hseries : [IssuedVector.sqn aes security ⟨i, rand.1, v.autn⟩] =
          (List.range 1).map fun j => some (s.storedSqn i + j * 32) := by simp [hnumber]
      refine ⟨?_, fun _ => ⟨⟨1, _, one_pos, hissued, hseries⟩, fun hwrite => ⟨⟨_, hissued, hnumber⟩, ?_⟩,
        fun hkeep => ?_⟩, fun hnot => absurd hissues hnot⟩
      · rw [hget] at hafter
        cases hupdate : reach.update with
        | false =>
            rw [hupdate] at hafter
            exact ⟨sqn, by simpa using hafter⟩
        | true =>
            rw [hupdate] at hafter
            exact ⟨some _, by simpa using hafter⟩
      · have hupdate : reach.update = true := hwrite
        rw [storedSqn, hafter, hget, if_pos ⟨hupdate, rfl⟩, hstored]
        rfl
      · have hupdate : ¬(reach.update = true ∧ i = i) := fun hboth => hkeep hboth.1
        rw [storedSqn, hafter, if_neg hupdate, storedSqn]
    · have hother : ¬(reach.update = true ∧ i = imsi) := fun hboth => hi hboth.2
      rw [if_neg hother] at hafter
      refine ⟨⟨sqn, hafter.trans hrecord⟩, fun hissues => absurd hissues.1 hi, fun _ => ⟨?_, ?_⟩⟩
      · refine (issuedTo_append imsi s.helper _ s.issued _).trans ?_
        simp [hi]
      · rw [storedSqn, hafter, storedSqn]
  · rw [perform_vector_of_no_run hrun hr]
    refine ⟨⟨sqn, hrecord⟩, fun hissues => ?_, fun _ => ⟨rfl, rfl⟩⟩
    obtain ⟨rfl, hquery, record, hget, hvectors⟩ := hissues
    exact absurd ⟨hquery, record, hget, hvectors⟩ hno

theorem perform_provision {count : ℤ} {rand : Text → ℕ → Block} {query : Bool}
    (h : s.Records security imsi) :
    (perform aes s (.provision count rand query)).Records security imsi ∧
      (AucRun.Issues aes imsi s.helper (.provision count rand query) →
        Issued aes security imsi (.provision count rand query) s
          (perform aes s (.provision count rand query))) ∧
      (¬AucRun.Issues aes imsi s.helper (.provision count rand query) →
        Idle imsi s (perform aes s (.provision count rand query))) := by
  obtain ⟨sqn, hrecord⟩ := h
  cases hquery : query with
  | false =>
      have hsame : perform aes s (.provision count rand false) = s := by
        simp [perform, provisionRows, pure, Except.pure]
      rw [hsame]
      exact ⟨⟨sqn, hrecord⟩, fun hissues => absurd hissues.1 (by simp), fun _ => ⟨rfl, rfl⟩⟩
  | true =>
      cases hrows : provisionRows aes count rand s.helper.subscribers.entries with
      | error e =>
          have hsame : perform aes s (.provision count rand true) = s := by
            simp [perform, hrows]
          rw [hsame]
          refine ⟨⟨sqn, hrecord⟩, fun hissues => ?_, fun _ => ⟨rfl, rfl⟩⟩
          obtain ⟨rows, hok⟩ := (provisionRows_ok_iff rand _).mpr hissues.2.2.2.2
          rw [hrows] at hok
          cases hok
      | ok rows =>
          have hafter : perform aes s (.provision count rand true) =
              { s with issued := s.issued ++ rows.map ofRow } := by
            simp [perform, hrows]
          have hmem : (imsi, ({ security with sqn := sqn } : Security)) ∈ s.helper.subscribers.entries :=
            (Dict.get?_eq_some_iff ..).mp hrecord
          have hown := (provisionRows_filter s.helper.subscribers.nodup hrows imsi).1 _ hmem
          have hissued : (perform aes s (.provision count rand true)).issuedTo imsi =
              s.issuedTo imsi ++ (rows.filter (·.1 = imsi)).map ofRow := by
            rw [hafter]
            refine (List.filter_append ..).trans ?_
            rw [List.filter_map]
            rfl
          have hstored : (perform aes s (.provision count rand true)).storedSqn imsi = s.storedSqn imsi := by
            rw [hafter]
            rfl
          have hsqn : s.storedSqn imsi = ({ security with sqn := sqn } : Security).sqnVal := by
            rw [storedSqn, hrecord]
            rfl
          obtain ⟨-, -, hskip, hrun⟩ := subscriberRows_ok hown
          refine ⟨⟨sqn, by rw [hafter]; exact hrecord⟩, ?_, ?_⟩
          · rintro ⟨-, hcount, himsi, ⟨record, hget, hki, hop⟩, -⟩
            obtain rfl := Option.some.inj (hget.symm.trans hrecord)
            obtain ⟨mil, hmil, hnumbers⟩ := hrun himsi hki hop
            refine ⟨⟨count.toNat, _, by omega, hissued, ?_⟩, fun hwrite => hwrite.elim, fun _ => hstored⟩
            have hkeys : security.milenage aes = .ok mil := hmil
            have hsome := congrArg (List.map some) hnumbers
            rw [List.map_map, List.map_map, ← hsqn] at hsome
            rw [List.map_map, ← Function.comp_def, ← hsome]
            refine List.map_congr_left fun row _ => ?_
            show IssuedVector.sqn aes security (ofRow row) = _
            rw [IssuedVector.sqn, hkeys]
            rfl
          · intro hnot
            refine ⟨?_, hstored⟩
            rw [hissued]
            have hnone : rows.filter (·.1 = imsi) = [] := by
              by_cases hcred : imsi = [] ∨ ({ security with sqn := sqn } : Security).kiHex = [] ∨
                  ({ security with sqn := sqn } : Security).opHex = []
              · exact hskip hcred
              · obtain ⟨himsi, hki, hop⟩ : imsi ≠ [] ∧ _ ∧ _ :=
                  ⟨fun h => hcred (Or.inl h), fun h => hcred (Or.inr (Or.inl h)),
                    fun h => hcred (Or.inr (Or.inr h))⟩
                have hcount : count.toNat = 0 := by
                  by_contra hpos
                  exact hnot ⟨rfl, by omega, himsi, ⟨_, hrecord, hki, hop⟩,
                    (provisionRows_ok_iff rand _).mp ⟨rows, hrows⟩⟩
                obtain ⟨mil, -, hnumbers⟩ := hrun himsi hki hop
                rw [hcount, List.range_zero, List.map_nil] at hnumbers
                exact List.map_eq_nil_iff.mp hnumbers
            rw [hnone, List.map_nil, List.append_nil]

/-- **One run.** -/
theorem perform_spec (aes : Bytes → Block → Block) (h : s.Records security imsi) (e : AucRun) :
    (perform aes s e).Records security imsi ∧
      (e.Issues aes imsi s.helper → Issued aes security imsi e s (perform aes s e)) ∧
      (¬e.Issues aes imsi s.helper → Idle imsi s (perform aes s e)) := by
  cases e with
  | vector rand reach i => exact perform_vector h rand reach i
  | provision count rand query => exact perform_provision h

/-! ### Sequences of runs -/

theorem after_append (s : AuthCentre) (es fs : List AucRun) :
    s.after aes (es ++ fs) = (s.after aes es).after aes fs :=
  List.foldl_append

theorem Records.after (aes : Bytes → Block → Block) (h : s.Records security imsi) (es : List AucRun) :
    (s.after aes es).Records security imsi := by
  induction es generalizing s with
  | nil => exact h
  | cons e es ih => exact ih (perform_spec aes h e).1

theorem issued_extends (s : AuthCentre) (es : List AucRun) : s.issued <+: (s.after aes es).issued := by
  induction es generalizing s with
  | nil => exact List.prefix_refl _
  | cons e es ih =>
      refine List.IsPrefix.trans ?_ (ih (perform aes s e))
      cases e with
      | vector rand reach i =>
          simp only [perform]
          split
          · exact List.prefix_append _ _
          · exact List.prefix_refl _
      | provision count rand query =>
          simp only [perform]
          split
          · exact List.prefix_append _ _
          · exact List.prefix_refl _

theorem issuedTo_extends (imsi : Text) (s : AuthCentre) (es : List AucRun) :
    s.issuedTo imsi <+: (s.after aes es).issuedTo imsi :=
  (issued_extends s es).filter _

/-- The vectors of a subscriber have increasing numbers. -/
def Increasing (aes : Bytes → Block → Block) (security : Security) (imsi : Text) (s : AuthCentre) : Prop :=
  (s.issuedTo imsi).Pairwise (IssuedVector.Before aes security)

/-- All numbers of a subscriber lie below the stored one. -/
def Below (aes : Bytes → Block → Block) (security : Security) (imsi : Text) (s : AuthCentre) : Prop :=
  ∀ v ∈ s.issuedTo imsi, ∃ n, v.sqn aes security = some n ∧ n < s.storedSqn imsi

/-- Every run that builds vectors for the subscriber, and is followed by another one that does, moves
the stored number on. -/
def EachWritesBack (aes : Bytes → Block → Block) (imsi : Text) (s : AuthCentre) (es : List AucRun) : Prop :=
  ∀ pre e mid f post, es = pre ++ e :: mid ++ f :: post → e.Issues aes imsi (s.after aes pre).helper →
    f.Issues aes imsi (s.after aes (pre ++ e :: mid)).helper → e.WritesBack

/-- Runs that all write back leave every number below the stored one. -/
theorem Below.after (hrec : s.Records security imsi) (h : s.Below aes security imsi) (es : List AucRun)
    (hwrite : ∀ pre e mid, es = pre ++ e :: mid → e.Issues aes imsi (s.after aes pre).helper →
      e.WritesBack) : (s.after aes es).Below aes security imsi := by
  induction es generalizing s with
  | nil => exact h
  | cons e es ih =>
      obtain ⟨hrec', hissued, hidle⟩ := perform_spec aes hrec e
      have hrest : ∀ pre e' mid, es = pre ++ e' :: mid →
          e'.Issues aes imsi ((perform aes s e).after aes pre).helper → e'.WritesBack :=
        fun pre e' mid heq => hwrite (e :: pre) e' mid (by rw [heq]; rfl)
      refine ih hrec' ?_ hrest
      by_cases hiss : e.Issues aes imsi s.helper
      · obtain ⟨⟨v, hv, hnumber⟩, hstored⟩ := (hissued hiss).written (hwrite [] e es rfl hiss)
        intro w hw
        rw [hv] at hw
        rw [hstored]
        rcases List.mem_append.mp hw with hold | hnew
        · obtain ⟨n, hn, hlt⟩ := h w hold
          exact ⟨n, hn, by omega⟩
        · obtain rfl := List.mem_singleton.mp hnew
          exact ⟨_, hnumber, by omega⟩
      · obtain ⟨hsame, hstored⟩ := hidle hiss
        intro w hw
        rw [hsame] at hw
        rw [hstored]
        exact h w hw

/-- The `j`-th vector of a run has the stored number plus `j` times 32. -/
theorem number_of_getElem? {n : ℕ} {new : List IssuedVector}
    (h : new.map (IssuedVector.sqn aes security) =
      (List.range n).map fun j => some (s.storedSqn imsi + j * 32))
    {j : ℕ} {v : IssuedVector} (hv : new[j]? = some v) :
    v.sqn aes security = some (s.storedSqn imsi + j * 32) := by
  have hlength : new.length = n := by simpa using congrArg List.length h
  have hj : j < n := hlength ▸ (List.getElem?_eq_some_iff.mp hv).1
  have hget := congrArg (fun numbers => numbers[j]?) h
  rw [List.getElem?_map, List.getElem?_map, hv, List.getElem?_range hj] at hget
  exact Option.some.inj hget

/-- A series of numbers from the stored one on comes after everything below it. -/
theorem Increasing.issue {s' : AuthCentre} {e : AucRun} (h : s.Increasing aes security imsi)
    (hbelow : s.Below aes security imsi) (hissued : Issued aes security imsi e s s') :
    s'.Increasing aes security imsi := by
  obtain ⟨n, new, -, heq, hnumbers⟩ := hissued.numbers
  unfold Increasing
  rw [heq, List.pairwise_append]
  refine ⟨h, ?_, ?_⟩
  · rw [List.pairwise_iff_getElem]
    intro i j hi hj hij
    exact ⟨_, _, number_of_getElem? hnumbers (List.getElem?_eq_getElem hi),
      number_of_getElem? hnumbers (List.getElem?_eq_getElem hj), by omega⟩
  · intro v hv w hw
    obtain ⟨m, hm, hlt⟩ := hbelow v hv
    obtain ⟨j, hj⟩ := List.mem_iff_getElem?.mp hw
    exact ⟨m, _, hm, number_of_getElem? hnumbers hj, by omega⟩

/-- A number that was issued and is stored still is issued again by the next run. -/
theorem not_increasing_of_issue (hrec : s.Records security imsi) {v : IssuedVector}
    (hv : v ∈ s.issuedTo imsi) (hnumber : v.sqn aes security = some (s.storedSqn imsi)) {e : AucRun}
    (he : e.Issues aes imsi s.helper) (es : List AucRun) :
    ¬(s.after aes (e :: es)).Increasing aes security imsi := by
  intro hinc
  obtain ⟨n, new, hpos, heq, hnumbers⟩ := ((perform_spec aes hrec e).2.1 he).numbers
  have hboth : (s.issuedTo imsi ++ new).Pairwise (IssuedVector.Before aes security) :=
    hinc.sublist (heq ▸ (issuedTo_extends imsi (perform aes s e) es).sublist)
  have hlength : new.length = n := by simpa using congrArg List.length hnumbers
  have hfirst := List.getElem?_eq_getElem (hlength.symm ▸ hpos : 0 < new.length)
  obtain ⟨k, l, hk, hl, hlt⟩ := (List.pairwise_append.mp hboth).2.2 v hv _ (List.mem_of_getElem? hfirst)
  obtain rfl := Option.some.inj (hnumber.symm.trans hk)
  obtain rfl := Option.some.inj ((number_of_getElem? hnumbers hfirst).symm.trans hl)
  omega

/-- A subscriber whose stored number was issued already gets it once more. -/
theorem not_increasing_of_repeat (hrec : s.Records security imsi) {v : IssuedVector}
    (hv : v ∈ s.issuedTo imsi) (hnumber : v.sqn aes security = some (s.storedSqn imsi))
    {mid post : List AucRun} {f : AucRun} (hf : f.Issues aes imsi (s.after aes mid).helper) :
    ¬(s.after aes (mid ++ f :: post)).Increasing aes security imsi := by
  induction mid generalizing s with
  | nil => exact not_increasing_of_issue hrec hv hnumber hf post
  | cons g mid ih =>
      by_cases hg : g.Issues aes imsi s.helper
      · exact not_increasing_of_issue hrec hv hnumber hg _
      · obtain ⟨hsame, hstored⟩ := (perform_spec aes hrec g).2.2 hg
        exact ih (perform_spec aes hrec g).1 (by rw [hsame]; exact hv) (by rw [hstored]; exact hnumber) hf

/-- Runs that all write back, before the last that builds vectors, number the vectors in order. -/
theorem Increasing.after (hrec : s.Records security imsi) (h : s.Increasing aes security imsi)
    (hbelow : s.Below aes security imsi) (es : List AucRun) (hwrite : s.EachWritesBack aes imsi es) :
    (s.after aes es).Increasing aes security imsi := by
  induction es using List.reverseRecOn with
  | nil => exact h
  | append_singleton es e ih =>
      have hearlier : s.EachWritesBack aes imsi es := fun pre d mid f post heq =>
        hwrite pre d mid f (post ++ [e]) (by rw [heq]; simp)
      have hinc := ih hearlier
      rw [after_append]
      obtain ⟨-, hissued, hidle⟩ := perform_spec aes (hrec.after aes es) e
      by_cases hiss : e.Issues aes imsi (s.after aes es).helper
      · refine hinc.issue ?_ (hissued hiss)
        refine hbelow.after hrec es fun pre d mid heq hd => ?_
        exact hwrite pre d mid e [] (by rw [heq]) hd (heq ▸ hiss)
      · obtain ⟨hsame, -⟩ := hidle hiss
        show (perform aes (s.after aes es) e).Increasing aes security imsi
        unfold Increasing
        rw [hsame]
        exact hinc

/-- A run that builds vectors and leaves the stored number lets the next one repeat it. -/
theorem not_increasing_of_kept (hrec : s.Records security imsi) {pre mid post : List AucRun} {e f : AucRun}
    (he : e.Issues aes imsi (s.after aes pre).helper)
    (hf : f.Issues aes imsi (s.after aes (pre ++ e :: mid)).helper) (hkeep : ¬e.WritesBack) :
    ¬(s.after aes (pre ++ e :: mid ++ f :: post)).Increasing aes security imsi := by
  have hrec' := hrec.after aes pre
  obtain ⟨hrec'', hissued, -⟩ := perform_spec aes hrec' e
  obtain ⟨n, new, hpos, heq, hnumbers⟩ := (hissued he).numbers
  have hlength : new.length = n := by simpa using congrArg List.length hnumbers
  have hfirst := List.getElem?_eq_getElem (hlength.symm ▸ hpos : 0 < new.length)
  have hnumber := number_of_getElem? hnumbers hfirst
  rw [Nat.zero_mul, Nat.add_zero, ← (hissued he).kept hkeep] at hnumber
  have hmem := List.mem_append_right ((s.after aes pre).issuedTo imsi) (List.mem_of_getElem? hfirst)
  rw [← heq] at hmem
  rw [after_append] at hf
  rw [List.append_assoc, after_append]
  exact not_increasing_of_repeat hrec'' hmem hnumber hf

/-- **The vectors of a subscriber have increasing numbers exactly when every run that builds some,
but the last, is one of `generate_auth_vector` whose update reaches the database.** -/
theorem sqns_increase_iff {helper : AuthHelper} {security : Security}
    (hget : helper.subscribers.get? imsi = some security) (es : List AucRun) :
    (after aes { helper := helper } es).Increasing aes security imsi ↔
      EachWritesBack aes imsi { helper := helper } es := by
  have hrec : Records security imsi { helper := helper } := ⟨security.sqn, hget⟩
  constructor
  · intro hinc pre e mid f post heq he hf
    by_contra hkeep
    exact not_increasing_of_kept hrec he hf hkeep (heq ▸ hinc)
  · exact Increasing.after hrec List.Pairwise.nil (fun v hv => absurd hv (by simp [issuedTo])) es

/-- A batch of two, then a vector of the helper, of the zero subscriber. -/
def batchThenVector : List AucRun :=
  [.provision 2 (fun _ _ => ⟨List.replicate 16 7, rfl⟩) true,
    .vector ⟨List.replicate 16 9, rfl⟩ ⟨true, true⟩ "001010123456789".toList]

theorem batchThenVector_numbers :
    ((after (fun _ b => b) { helper := AuthHelper.zeroSubscriber } batchThenVector).issuedTo
        "001010123456789".toList).map (IssuedVector.sqn (fun _ b => b) AuthHelper.zeroSecurity) =
      [some 32, some 64, some 32] := by
  decide +kernel

/-- The helper begins again with the number the batch began with. -/
theorem sqns_of_batch_then_vector :
    ¬(after (fun _ b => b) { helper := AuthHelper.zeroSubscriber } batchThenVector).Increasing
        (fun _ b => b) AuthHelper.zeroSecurity "001010123456789".toList := by
  intro hinc
  obtain ⟨v₀, v₁, v₂, hvectors⟩ : ∃ v₀ v₁ v₂, (after (fun _ b => b)
      { helper := AuthHelper.zeroSubscriber } batchThenVector).issuedTo "001010123456789".toList =
        [v₀, v₁, v₂] :=
    List.length_eq_three.mp (by simpa using congrArg List.length batchThenVector_numbers)
  have hnumbers := batchThenVector_numbers
  unfold Increasing at hinc
  rw [hvectors] at hinc hnumbers
  obtain ⟨m, n, hm, hn, hlt⟩ := (List.pairwise_cons.mp hinc).1 v₂ (by simp)
  simp only [List.map_cons, List.cons.injEq] at hnumbers
  rw [hnumbers.1] at hm
  rw [hnumbers.2.2.1] at hn
  obtain rfl := Option.some.inj hm
  obtain rfl := Option.some.inj hn
  exact lt_irrefl _ hlt

/-- The condition at two vectors of the helper. -/
theorem sqns_of_two_vectors :
    AuthHelper.zeroSubscriber.subscribers.get? "001010123456789".toList = some AuthHelper.zeroSecurity ∧
      ((after (fun _ b => b) { helper := AuthHelper.zeroSubscriber }
          [.vector ⟨List.replicate 16 7, rfl⟩ ⟨true, true⟩ "001010123456789".toList,
            .vector ⟨List.replicate 16 9, rfl⟩ ⟨true, true⟩ "001010123456789".toList]).Increasing
          (fun _ b => b) AuthHelper.zeroSecurity "001010123456789".toList ↔
        EachWritesBack (fun _ b => b) "001010123456789".toList { helper := AuthHelper.zeroSubscriber }
          [.vector ⟨List.replicate 16 7, rfl⟩ ⟨true, true⟩ "001010123456789".toList,
            .vector ⟨List.replicate 16 9, rfl⟩ ⟨true, true⟩ "001010123456789".toList]) :=
  ⟨rfl, sqns_increase_iff rfl _⟩

end AuthCentre

end VirtualPhone
