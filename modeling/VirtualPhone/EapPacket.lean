import VirtualPhone.Runtime.Struct
import VirtualPhone.Runtime.Text
import VirtualPhone.Runtime.Dict
import Mathlib.Order.Bounds.Basic

/-! # EAP packets (`euicc/crypto/eap_aka.py`)

`EAPPacket`, its parser and its serialiser.  A packet of a request or a response is a header of eight
octets and attributes: type, length in words of four octets, two reserved octets, and the value, padded
with zeros to whole words.

The parser walks from attribute to attribute by the length octet.  An attribute of length zero keeps it
where it is, so the loop has fuel here, and `parse` has no result when the fuel ends.
`parse_terminates_iff` says for which octets some fuel is enough; `eap_round_trip` is the round trip. -/

namespace VirtualPhone

open Runtime

/-! ### Enumerations -/

/-- `EAPCode`. -/
inductive EAPCode
  | request
  | response
  | success
  | failure
deriving DecidableEq, Repr

/-- The octet of a code. -/
def EAPCode.value : EAPCode → ℕ
  | request => 1
  | response => 2
  | success => 3
  | failure => 4

/-- `EAPCode(n)`. -/
def EAPCode.ofValue (n : ℕ) : Except PyError EAPCode :=
  match n with
  | 1 => .ok request
  | 2 => .ok response
  | 3 => .ok success
  | 4 => .ok failure
  | n => .error (.valueError (natText n ++ " is not a valid EAPCode".toList))

/-- `EAPType`. -/
inductive EAPType
  | identity
  | aka
  | akaPrime
deriving DecidableEq, Repr

/-- The octet of a type. -/
def EAPType.value : EAPType → ℕ
  | identity => 1
  | aka => 23
  | akaPrime => 50

/-- `EAPType(n)`. -/
def EAPType.ofValue (n : ℕ) : Except PyError EAPType :=
  match n with
  | 1 => .ok identity
  | 23 => .ok aka
  | 50 => .ok akaPrime
  | n => .error (.valueError (natText n ++ " is not a valid EAPType".toList))

/-- `AKASubtype`. -/
inductive AKASubtype
  | challenge
  | authenticationReject
  | synchronizationFailure
  | identity
  | notification
  | reauthentication
  | clientError
deriving DecidableEq, Repr

/-- The octet of a subtype. -/
def AKASubtype.value : AKASubtype → ℕ
  | challenge => 1
  | authenticationReject => 2
  | synchronizationFailure => 4
  | identity => 5
  | notification => 12
  | reauthentication => 13
  | clientError => 14

/-- `AKASubtype(n)`. -/
def AKASubtype.ofValue (n : ℕ) : Except PyError AKASubtype :=
  match n with
  | 1 => .ok challenge
  | 2 => .ok authenticationReject
  | 4 => .ok synchronizationFailure
  | 5 => .ok identity
  | 12 => .ok notification
  | 13 => .ok reauthentication
  | 14 => .ok clientError
  | n => .error (.valueError (natText n ++ " is not a valid AKASubtype".toList))

/-- `EAPPacket`. -/
structure EAPPacket where
  code : EAPCode
  identifier : ℕ
  eapType : Option EAPType := none
  subtype : Option AKASubtype := none
  attributes : Dict ℕ Bytes := Dict.empty
deriving DecidableEq

namespace EAPPacket

/-! ### Parsing -/

/-- The packet in front of its attributes, and the declared length if attributes follow. -/
def parseHeader (data : Bytes) : Except PyError (EAPPacket × Option ℕ) := do
  if data.length < 4 then .error (.valueError "EAP packet too short".toList)
  else
    let code ← EAPCode.ofValue (← byteAt data 0).toNat
    let identifier := (← byteAt data 1).toNat
    let length := unpackBE data 2 2
    if code = .success ∨ code = .failure then return ({ code, identifier }, none)
    else if data.length < 8 then .error (.valueError "EAP-AKA packet too short".toList)
    else
      let eapType ← EAPType.ofValue (← byteAt data 4).toNat
      let subtype ← AKASubtype.ofValue (← byteAt data 5).toNat
      return ({ code, identifier, eapType := some eapType, subtype := some subtype }, some length)

/-- The attribute loop from `pos` on; nothing when it is still running at the end of the fuel.  Where
an attribute is read, its four octets of header are there. -/
def parseAttributes (data : Bytes) (length : ℕ) : ℕ → ℕ → Dict ℕ Bytes → Option (Dict ℕ Bytes)
  | 0, _, _ => none
  | fuel + 1, pos, attributes =>
      if pos < length then
        if data.length < pos + 4 then some attributes
        else
          let attrType := (data.getD pos 0).toNat
          let attrLen := (data.getD (pos + 1) 0).toNat * 4
          let attrValue := slice data (pos + 4) (pos + attrLen)
          parseAttributes data length fuel (pos + attrLen) (attributes.set attrType attrValue)
      else some attributes

/-- `EAPPacket.parse(data)` with so many turns of the attribute loop. -/
def parse (fuel : ℕ) (data : Bytes) : Option (Except PyError EAPPacket) :=
  match parseHeader data with
  | .error e => some (.error e)
  | .ok (packet, none) => some (.ok packet)
  | .ok (packet, some length) =>
      (parseAttributes data length fuel 8 Dict.empty).map fun attributes =>
        .ok { packet with attributes := attributes }

/-! ### Serialising -/

/-- The length of an attribute with its header, padded to whole words. -/
def paddedLen (n : ℕ) : ℕ :=
  let paddedLen := n + 4
  if paddedLen % 4 ≠ 0 then paddedLen + (4 - paddedLen % 4) else paddedLen

/-- The value of an attribute, padded to whole words. -/
def valuePadded (attrValue : Bytes) : Bytes :=
  attrValue ++ List.replicate (paddedLen attrValue.length - 4 - attrValue.length) 0

/-- One attribute. -/
def serializeAttribute (attrType : ℕ) (attrValue : Bytes) : Except PyError Bytes := do
  let attrLenWords := paddedLen attrValue.length / 4
  let type ← packBE attrType 1
  let words ← packBE attrLenWords 1
  let reserved ← packBE 0 2
  return type ++ words ++ reserved ++ valuePadded attrValue

/-- An optional field of `struct.pack`. -/
def packField : Option ℕ → Except PyError Bytes
  | some n => packBE n 1
  | none => .error (.exception "struct.error".toList "required argument is not an integer".toList)

/-- `serialize()`. -/
def serialize (p : EAPPacket) : Except PyError Bytes :=
  if p.code = .success ∨ p.code = .failure then do
    let code ← packBE p.code.value 1
    let identifier ← packBE p.identifier 1
    let length ← packBE 4 2
    return code ++ identifier ++ length
  else do
    let attributes ← p.attributes.entries.mapM fun (attrType, attrValue) =>
      serializeAttribute attrType attrValue
    let attrBytes := attributes.flatten
    let totalLen := 8 + attrBytes.length
    let code ← packBE p.code.value 1
    let identifier ← packBE p.identifier 1
    let length ← packBE totalLen 2
    let eapType ← packField (p.eapType.map EAPType.value)
    let subtype ← packField (p.subtype.map AKASubtype.value)
    let reserved ← packBE 0 2
    return code ++ identifier ++ length ++ eapType ++ subtype ++ reserved ++ attrBytes

/-! ### Termination -/

/-- The octets whose attributes are read: eight octets of header, of a request or a response, with a
known type and subtype. -/
def HasAttributes (data : Bytes) : Prop :=
  8 ≤ data.length ∧ (data.getD 0 0).toNat ∈ [1, 2] ∧ (data.getD 4 0).toNat ∈ [1, 23, 50] ∧
    (data.getD 5 0).toNat ∈ [1, 2, 4, 5, 12, 13, 14]

instance (data : Bytes) : Decidable (HasAttributes data) := inferInstanceAs (Decidable (_ ∧ _))

/-- The length field of the header. -/
def declaredLength (data : Bytes) : ℕ := unpackBE data 2 2

/-- The length octet of the attribute at `p`. -/
def lengthOctet (data : Bytes) (p : ℕ) : ℕ := (data.getD (p + 1) 0).toNat

/-- There is an attribute header at `p`, by the declared length and by the octets. -/
def InBounds (data : Bytes) (p : ℕ) : Prop := p < declaredLength data ∧ p + 4 ≤ data.length

/-- The attributes of a packet: the first one behind the header, each other one where the length
octet of the one before says. -/
inductive AttributeAt (data : Bytes) : ℕ → Prop
  | first : InBounds data 8 → AttributeAt data 8
  | next {p : ℕ} : AttributeAt data p → InBounds data (p + lengthOctet data p * 4) →
      AttributeAt data (p + lengthOctet data p * 4)

theorem AttributeAt.inBounds {data : Bytes} {p : ℕ} (h : AttributeAt data p) : InBounds data p := by
  cases h with
  | first h => exact h
  | next _ h => exact h

theorem parseAttributes_done {data : Bytes} {p : ℕ} (h : ¬InBounds data p) (fuel : ℕ)
    (attributes : Dict ℕ Bytes) :
    parseAttributes data (declaredLength data) (fuel + 1) p attributes = some attributes := by
  rw [parseAttributes]
  split_ifs with hlength hdata
  · rfl
  · exact absurd ⟨hlength, by omega⟩ h
  · rfl

theorem parseAttributes_step {data : Bytes} {p : ℕ} (h : InBounds data p) (fuel : ℕ)
    (attributes : Dict ℕ Bytes) :
    parseAttributes data (declaredLength data) (fuel + 1) p attributes =
      parseAttributes data (declaredLength data) fuel (p + lengthOctet data p * 4)
        (attributes.set (data.getD p 0).toNat (slice data (p + 4) (p + lengthOctet data p * 4))) := by
  have hdata : ¬data.length < p + 4 := by
    have := h.2
    omega
  rw [parseAttributes, if_pos h.1, if_neg hdata]
  rfl

theorem parseAttributes_stuck {data : Bytes} {p : ℕ} (h : InBounds data p)
    (hzero : lengthOctet data p = 0) (fuel : ℕ) (attributes : Dict ℕ Bytes) :
    parseAttributes data (declaredLength data) fuel p attributes = none := by
  induction fuel generalizing attributes with
  | zero => rfl
  | succ fuel ih =>
      rw [parseAttributes_step h, hzero, Nat.zero_mul, Nat.add_zero]
      exact ih _

/-- A loop that does not end from an attribute on does not end from the first one on. -/
theorem AttributeAt.diverges {data : Bytes} {p : ℕ} (h : AttributeAt data p)
    (hp : ∀ fuel attributes, parseAttributes data (declaredLength data) fuel p attributes = none)
    (fuel : ℕ) (attributes : Dict ℕ Bytes) :
    parseAttributes data (declaredLength data) fuel 8 attributes = none := by
  induction h generalizing fuel attributes with
  | first => exact hp fuel attributes
  | @next p h _ ih =>
      refine ih (fun fuel attributes => ?_) fuel attributes
      cases fuel with
      | zero => rfl
      | succ fuel =>
          rw [parseAttributes_step h.inBounds]
          exact hp fuel _

/-- Where every attribute has a length, the loop ends: each turn goes at least a word further. -/
theorem parseAttributes_ends {data : Bytes} (h : ∀ p, AttributeAt data p → lengthOctet data p ≠ 0)
    (room : ℕ) {p : ℕ} (hroom : data.length ≤ p + room) (hp : InBounds data p → AttributeAt data p)
    (attributes : Dict ℕ Bytes) :
    ∃ r, parseAttributes data (declaredLength data) (room + 1) p attributes = some r := by
  induction room generalizing p attributes with
  | zero =>
      refine ⟨attributes, parseAttributes_done (fun hin => ?_) 0 attributes⟩
      have := hin.2
      omega
  | succ room ih =>
      by_cases hin : InBounds data p
      · have hlength := h p (hp hin)
        rw [parseAttributes_step hin]
        exact ih (by omega) (fun hnext => .next (hp hin) hnext) _
      · exact ⟨attributes, parseAttributes_done hin (room + 1) attributes⟩

theorem parseAttributes_add {data : Bytes} {length fuel pos : ℕ} {attributes r : Dict ℕ Bytes}
    (h : parseAttributes data length fuel pos attributes = some r) (more : ℕ) :
    parseAttributes data length (fuel + more) pos attributes = some r := by
  induction fuel generalizing pos attributes with
  | zero => cases h
  | succ fuel ih =>
      rw [Nat.succ_add]
      rw [parseAttributes] at h ⊢
      split_ifs at h ⊢ with hlength hdata
      · exact h
      · exact ih h
      · exact h

/-- The result of the parser does not depend on the fuel. -/
theorem parse_unique {data : Bytes} {fuel fuel' : ℕ} {r r' : Except PyError EAPPacket}
    (h : parse fuel data = some r) (h' : parse fuel' data = some r') : r = r' := by
  rw [parse] at h h'
  cases hheader : parseHeader data with
  | error e =>
      rw [hheader] at h h'
      exact Option.some.inj (h.symm.trans h')
  | ok header =>
      obtain ⟨packet, length⟩ := header
      rw [hheader] at h h'
      cases length with
      | none => exact Option.some.inj (h.symm.trans h')
      | some length =>
          obtain ⟨attributes, hloop, rfl⟩ := Option.map_eq_some_iff.mp h
          obtain ⟨attributes', hloop', rfl⟩ := Option.map_eq_some_iff.mp h'
          have hmore := parseAttributes_add hloop fuel'
          rw [Nat.add_comm, parseAttributes_add hloop' fuel] at hmore
          rw [Option.some.inj hmore]

theorem eapCode_ofValue_attributes {n : ℕ} {code : EAPCode} (h : EAPCode.ofValue n = .ok code)
    (hcode : ¬(code = .success ∨ code = .failure)) : n ∈ [1, 2] := by
  unfold EAPCode.ofValue at h
  split at h
  · decide
  · decide
  · exact absurd (Or.inl (Except.ok.inj h).symm) hcode
  · exact absurd (Or.inr (Except.ok.inj h).symm) hcode
  · cases h

theorem eapType_ofValue_iff (n : ℕ) : (∃ t, EAPType.ofValue n = .ok t) ↔ n ∈ [1, 23, 50] := by
  constructor
  · rintro ⟨t, h⟩
    unfold EAPType.ofValue at h
    split at h <;> first | decide | cases h
  · intro h
    simp only [List.mem_cons, List.not_mem_nil, or_false] at h
    rcases h with rfl | rfl | rfl
    · exact ⟨.identity, rfl⟩
    · exact ⟨.aka, rfl⟩
    · exact ⟨.akaPrime, rfl⟩

theorem akaSubtype_ofValue_iff (n : ℕ) :
    (∃ t, AKASubtype.ofValue n = .ok t) ↔ n ∈ [1, 2, 4, 5, 12, 13, 14] := by
  constructor
  · rintro ⟨t, h⟩
    unfold AKASubtype.ofValue at h
    split at h <;> first | decide | cases h
  · intro h
    simp only [List.mem_cons, List.not_mem_nil, or_false] at h
    rcases h with rfl | rfl | rfl | rfl | rfl | rfl | rfl
    · exact ⟨.challenge, rfl⟩
    · exact ⟨.authenticationReject, rfl⟩
    · exact ⟨.synchronizationFailure, rfl⟩
    · exact ⟨.identity, rfl⟩
    · exact ⟨.notification, rfl⟩
    · exact ⟨.reauthentication, rfl⟩
    · exact ⟨.clientError, rfl⟩

theorem byteAt_getD {d : Bytes} {i : ℕ} (h : i < d.length) : byteAt d i = .ok (d.getD i 0) := by
  rw [byteAt, List.getD_eq_getElem?_getD, List.getElem?_eq_getElem h]
  rfl

theorem parseHeader_of_hasAttributes {data : Bytes} (h : HasAttributes data) :
    ∃ packet, parseHeader data = .ok (packet, some (declaredLength data)) := by
  obtain ⟨hlen, hcode, htype, hsubtype⟩ := h
  obtain ⟨eapType, htype⟩ := (eapType_ofValue_iff _).mpr htype
  obtain ⟨subtype, hsubtype⟩ := (akaSubtype_ofValue_iff _).mpr hsubtype
  have hread : ∃ code, EAPCode.ofValue (data.getD 0 0).toNat = .ok code ∧
      ¬(code = .success ∨ code = .failure) := by
    rcases List.mem_pair.mp hcode with hcode | hcode
    · exact ⟨.request, by rw [hcode]; rfl, by decide⟩
    · exact ⟨.response, by rw [hcode]; rfl, by decide⟩
  obtain ⟨code, hcode, hattributes⟩ := hread
  refine ⟨{
    code
    identifier := (data.getD 1 0).toNat
    eapType := some eapType
    subtype := some subtype }, ?_⟩
  rw [parseHeader, if_neg (by omega)]
  simp only [byteAt_getD (show 0 < data.length by omega), byteAt_getD (show 1 < data.length by omega),
    byteAt_getD (show 4 < data.length by omega), byteAt_getD (show 5 < data.length by omega), ok_bind,
    hcode, htype, hsubtype, if_neg hattributes, if_neg (show ¬data.length < 8 by omega)]
  rfl

theorem hasAttributes_of_parseHeader {data : Bytes} {packet : EAPPacket} {length : ℕ}
    (h : parseHeader data = .ok (packet, some length)) :
    HasAttributes data ∧ length = declaredLength data := by
  rw [parseHeader] at h
  split_ifs at h with hshort hlen
  · obtain ⟨b₀, -, h⟩ := bind_eq_ok h
    obtain ⟨code, -, h⟩ := bind_eq_ok h
    obtain ⟨b₁, -, h⟩ := bind_eq_ok h
    dsimp only at h
    split_ifs at h
    cases h
  obtain ⟨b₀, hb₀, h⟩ := bind_eq_ok h
  obtain ⟨code, hcode, h⟩ := bind_eq_ok h
  obtain ⟨b₁, -, h⟩ := bind_eq_ok h
  dsimp only at h
  split_ifs at h with hend
  · cases h
  obtain ⟨b₄, hb₄, h⟩ := bind_eq_ok h
  obtain ⟨eapType, htype, h⟩ := bind_eq_ok h
  obtain ⟨b₅, hb₅, h⟩ := bind_eq_ok h
  obtain ⟨subtype, hsubtype, h⟩ := bind_eq_ok h
  have hpair := Except.ok.inj h
  rw [byteAt_getD (by omega)] at hb₀ hb₄ hb₅
  rw [← Except.ok.inj hb₀] at hcode
  rw [← Except.ok.inj hb₄] at htype
  rw [← Except.ok.inj hb₅] at hsubtype
  refine ⟨⟨by omega, eapCode_ofValue_attributes hcode hend, (eapType_ofValue_iff _).mp ⟨_, htype⟩,
    (akaSubtype_ofValue_iff _).mp ⟨_, hsubtype⟩⟩, ?_⟩
  exact (Option.some.inj (Prod.mk.inj hpair).2).symm

/-- **The parser ends** exactly on the octets in which no attribute has a length octet of zero. -/
theorem parse_terminates_iff (data : Bytes) :
    (∃ fuel r, parse fuel data = some r) ↔
      (HasAttributes data → ∀ p, AttributeAt data p → lengthOctet data p ≠ 0) := by
  constructor
  · rintro ⟨fuel, r, hr⟩ hhas p hp hzero
    obtain ⟨packet, hheader⟩ := parseHeader_of_hasAttributes hhas
    have hstuck := hp.diverges (fun fuel attributes => parseAttributes_stuck hp.inBounds hzero fuel
      attributes) fuel Dict.empty
    rw [parse, hheader] at hr
    simp only [hstuck] at hr
    cases hr
  · intro h
    cases hheader : parseHeader data with
    | error e =>
        refine ⟨0, .error e, ?_⟩
        rw [parse, hheader]
    | ok header =>
        obtain ⟨packet, length⟩ := header
        cases length with
        | none =>
            refine ⟨0, .ok packet, ?_⟩
            rw [parse, hheader]
        | some length =>
            obtain ⟨hhas, rfl⟩ := hasAttributes_of_parseHeader hheader
            obtain ⟨attributes, hends⟩ :=
              parseAttributes_ends (h hhas) data.length (p := 8) (by omega) .first Dict.empty
            refine ⟨data.length + 1, .ok { packet with attributes := attributes }, ?_⟩
            rw [parse, hheader]
            simp only [hends]
            rfl

/-- A challenge whose only attribute has the length octet zero. -/
def stuckChallenge : Bytes := [1, 1, 0, 12, 23, 1, 0, 0, 1, 0, 0, 0]

/-- The parser is in its attribute loop for ever. -/
theorem parse_stuckChallenge : ¬∃ fuel r, parse fuel stuckChallenge = some r := by
  rintro ⟨fuel, r, hrun⟩
  have hhas : HasAttributes stuckChallenge := by decide
  have hin : InBounds stuckChallenge 8 := by
    unfold InBounds
    decide
  obtain ⟨packet, hheader⟩ := parseHeader_of_hasAttributes hhas
  rw [parse, hheader] at hrun
  simp only [parseAttributes_stuck hin (by decide)] at hrun
  cases hrun

/-! ### The round trip -/

/-- The requests and responses that can be written: octets for the identifier and the attribute types,
a type and a subtype, values whose padded length fits the length octet, and a total of two octets. -/
structure Sendable (p : EAPPacket) : Prop where
  code : p.code = .request ∨ p.code = .response
  identifier : p.identifier < 256
  eapType : p.eapType ≠ none
  subtype : p.subtype ≠ none
  attributes : ∀ e ∈ p.attributes.entries, e.1 < 256 ∧ e.2.length ≤ 1016
  total : 8 + (p.attributes.entries.map fun e => paddedLen e.2.length).sum ≤ 65535

theorem paddedLen_spec (n : ℕ) : 4 ∣ paddedLen n ∧ n + 4 ≤ paddedLen n ∧ paddedLen n < n + 8 := by
  unfold paddedLen
  dsimp only
  split_ifs <;> omega

theorem valuePadded_length (v : Bytes) : (valuePadded v).length = paddedLen v.length - 4 := by
  have := paddedLen_spec v.length
  rw [valuePadded, List.length_append, List.length_replicate]
  omega

/-- The zeros behind a value are the fewest that fill its last word. -/
theorem valuePadded_least (v : Bytes) :
    IsLeast {k | 4 ∣ v.length + k} (paddedLen v.length - 4 - v.length) := by
  have hspec := paddedLen_spec v.length
  refine ⟨?_, fun k hk => ?_⟩
  · change 4 ∣ v.length + (paddedLen v.length - 4 - v.length)
    omega
  · have hk : 4 ∣ v.length + k := hk
    omega

theorem valuePadded_of_dvd {v : Bytes} (h : 4 ∣ v.length) : valuePadded v = v := by
  have hspec := paddedLen_spec v.length
  have hzero : paddedLen v.length - 4 - v.length = 0 := by omega
  rw [valuePadded, hzero, List.replicate_zero, List.append_nil]

/-- The octets of an attribute. -/
def attributeOctets (e : ℕ × Bytes) : Bytes :=
  [UInt8.ofNat e.1, UInt8.ofNat (paddedLen e.2.length / 4), 0, 0] ++ valuePadded e.2

theorem attributeOctets_length (e : ℕ × Bytes) : (attributeOctets e).length = paddedLen e.2.length := by
  have hspec := paddedLen_spec e.2.length
  rw [attributeOctets, List.length_append, valuePadded_length]
  simp only [List.length_cons, List.length_nil]
  omega

theorem beBytes_one (n : ℕ) : beBytes n 1 = [UInt8.ofNat n] := by
  simp [beBytes]

theorem packBE_one {n : ℕ} (h : n < 256) : packBE n 1 = .ok [UInt8.ofNat n] := by
  rw [packBE_of_lt (by omega), beBytes_one]

theorem serializeAttribute_eq {e : ℕ × Bytes} (h : e.1 < 256 ∧ e.2.length ≤ 1016) :
    serializeAttribute e.1 e.2 = .ok (attributeOctets e) := by
  have hspec := paddedLen_spec e.2.length
  have hreserved : packBE 0 2 = .ok [0, 0] := rfl
  simp only [serializeAttribute, packBE_one h.1, packBE_one (show paddedLen e.2.length / 4 < 256 by omega),
    hreserved, ok_bind]
  rfl

theorem mapM_serializeAttribute {entries : List (ℕ × Bytes)}
    (h : ∀ e ∈ entries, e.1 < 256 ∧ e.2.length ≤ 1016) :
    entries.mapM (fun e => serializeAttribute e.1 e.2) = .ok (entries.map attributeOctets) := by
  induction entries with
  | nil => rfl
  | cons e entries ih =>
      rw [List.mapM_cons, serializeAttribute_eq (h e List.mem_cons_self), ok_bind,
        ih fun e' he' => h e' (List.mem_cons_of_mem e he')]
      rfl

theorem length_flatten_octets (entries : List (ℕ × Bytes)) :
    (entries.map attributeOctets).flatten.length = (entries.map fun e => paddedLen e.2.length).sum := by
  rw [List.length_flatten, List.map_map]
  exact congrArg List.sum (List.map_congr_left fun e _ => attributeOctets_length e)

/-- The header of a packet of `total` octets. -/
def headerOctets (p : EAPPacket) (total eapType subtype : ℕ) : Bytes :=
  [UInt8.ofNat p.code.value, UInt8.ofNat p.identifier] ++ beBytes total 2 ++
    [UInt8.ofNat eapType, UInt8.ofNat subtype, 0, 0]

theorem serialize_eq {p : EAPPacket} (h : p.Sendable) {t : EAPType} (ht : p.eapType = some t)
    {u : AKASubtype} (hu : p.subtype = some u) :
    p.serialize = .ok (p.headerOctets (8 + (p.attributes.entries.map fun e => paddedLen e.2.length).sum)
      t.value u.value ++ (p.attributes.entries.map attributeOctets).flatten) := by
  have hcode : ¬(p.code = .success ∨ p.code = .failure) := by
    rcases h.code with hc | hc <;> rw [hc] <;> decide
  have hcodeLt : p.code.value < 256 := by cases p.code <;> decide
  have htLt : t.value < 256 := by cases t <;> decide
  have huLt : u.value < 256 := by cases u <;> decide
  have hreserved : packBE 0 2 = .ok [0, 0] := rfl
  have htotal : packBE (8 + (p.attributes.entries.map fun e => paddedLen e.2.length).sum) 2 =
      .ok (beBytes (8 + (p.attributes.entries.map fun e => paddedLen e.2.length).sum) 2) :=
    packBE_of_lt (Nat.lt_succ_of_le h.total)
  unfold serialize
  rw [if_neg hcode, mapM_serializeAttribute h.attributes, ok_bind]
  dsimp only
  rw [length_flatten_octets]
  simp only [packBE_one hcodeLt, packBE_one h.identifier, htotal, ht, hu, Option.map_some, packField,
    packBE_one htLt, packBE_one huLt, hreserved, ok_bind]
  rw [headerOctets]
  simp only [List.append_assoc, List.cons_append, List.nil_append]
  rfl

theorem attributeOctets_at {data pre rest : Bytes} {e : ℕ × Bytes}
    (hdata : data = pre ++ (attributeOctets e ++ rest)) (h : e.1 < 256 ∧ e.2.length ≤ 1016) :
    (data.getD pre.length 0).toNat = e.1 ∧ lengthOctet data pre.length * 4 = paddedLen e.2.length ∧
      slice data (pre.length + 2) (pre.length + paddedLen e.2.length) = [0, 0] ++ valuePadded e.2 := by
  have hspec := paddedLen_spec e.2.length
  have hget : ∀ i, data.getD (pre.length + i) 0 = (attributeOctets e ++ rest).getD i 0 := by
    intro i
    rw [hdata, List.getD_eq_getElem?_getD, List.getElem?_append_right (Nat.le_add_right _ _),
      Nat.add_sub_cancel_left, List.getD_eq_getElem?_getD]
  refine ⟨?_, ?_, ?_⟩
  · rw [← Nat.add_zero pre.length, hget 0]
    exact toNat_ofNat_of_lt h.1
  · rw [lengthOctet, hget 1]
    change (UInt8.ofNat (paddedLen e.2.length / 4)).toNat * 4 = _
    rw [toNat_ofNat_of_lt (by omega)]
    omega
  · refine slice_of_eq (p := pre ++ [UInt8.ofNat e.1, UInt8.ofNat (paddedLen e.2.length / 4)])
      (q := rest) ?_ ?_ ?_
    · rw [hdata, attributeOctets]
      simp only [List.append_assoc, List.cons_append, List.nil_append]
    · rw [List.length_append]
      rfl
    · rw [List.length_append, valuePadded_length]
      simp only [List.length_cons, List.length_nil]
      omega

theorem parseAttributes_octets {data : Bytes} (hlength : declaredLength data = data.length)
    {entries : List (ℕ × Bytes)} (h : ∀ e ∈ entries, e.1 < 256 ∧ e.2.length ≤ 1016) {pre : Bytes}
    (hdata : data = pre ++ (entries.map attributeOctets).flatten) {fuel : ℕ} (hfuel : entries.length < fuel)
    (attributes : Dict ℕ Bytes) :
    parseAttributes data (declaredLength data) fuel pre.length attributes =
      some (entries.foldl (fun d e => d.set e.1 (valuePadded e.2)) attributes) := by
  obtain ⟨fuel, rfl⟩ : ∃ n, fuel = n + 1 := ⟨fuel - 1, by omega⟩
  induction entries generalizing pre fuel attributes with
  | nil =>
      have hend : ¬InBounds data pre.length := by
        rw [InBounds, hdata]
        simp
      exact parseAttributes_done hend fuel attributes
  | cons e entries ih =>
      obtain ⟨fuel, rfl⟩ : ∃ n, fuel = n + 1 := ⟨fuel - 1, by simp at hfuel; omega⟩
      have hspec := paddedLen_spec e.2.length
      rw [List.map_cons, List.flatten_cons] at hdata
      obtain ⟨htype, hwords, hslice⟩ := attributeOctets_at hdata (h e List.mem_cons_self)
      have hoctets := attributeOctets_length e
      have hin : InBounds data pre.length := by
        have hlen := congrArg List.length hdata
        rw [List.length_append, List.length_append, hoctets] at hlen
        rw [InBounds, hlength]
        omega
      have hvalue : slice data (pre.length + 4) (pre.length + lengthOctet data pre.length * 4) =
          valuePadded e.2 := by
        have hdrop := congrArg (List.drop 2) hslice
        rw [slice, List.drop_take, List.drop_drop] at hdrop
        rw [slice, hwords]
        refine Eq.trans ?_ hdrop
        congr 1
      rw [parseAttributes_step hin, htype, hvalue, hwords]
      have hnext : pre.length + paddedLen e.2.length = (pre ++ attributeOctets e).length := by
        rw [List.length_append, hoctets]
      rw [hnext]
      exact ih (fun e' he' => h e' (List.mem_cons_of_mem e he'))
        (hdata.trans (List.append_assoc _ _ _).symm) _ fuel
        (by simp only [List.length_cons] at hfuel; omega)

/-- The attributes of a written packet are where they were written. -/
theorem AttributeAt.written {data pre : Bytes} {entries : List (ℕ × Bytes)}
    (h : ∀ e ∈ entries, e.1 < 256 ∧ e.2.length ≤ 1016) (hpre : pre.length = 8)
    (hdata : data = pre ++ (entries.map attributeOctets).flatten) {p : ℕ} (hp : AttributeAt data p) :
    ∃ front e back, entries = front ++ e :: back ∧
      p = (pre ++ (front.map attributeOctets).flatten).length := by
  -- behind some attributes there is another one, or the end
  have hsplit : ∀ front back, entries = front ++ back →
      InBounds data (pre ++ (front.map attributeOctets).flatten).length → ∃ e rest, back = e :: rest := by
    intro front back hentries hin
    cases back with
    | nil =>
        have hbound := hin.2
        rw [List.append_nil] at hentries
        rw [hdata, hentries] at hbound
        omega
    | cons e rest => exact ⟨e, rest, rfl⟩
  induction hp with
  | first hin =>
      obtain ⟨e, rest, hrest⟩ := hsplit [] entries rfl (by simpa [hpre] using hin)
      exact ⟨[], e, rest, hrest, by simp [hpre]⟩
  | @next p _ hin ih =>
      obtain ⟨front, e, back, hentries, rfl⟩ := ih
      have hwhere : data = (pre ++ (front.map attributeOctets).flatten) ++
          (attributeOctets e ++ (back.map attributeOctets).flatten) := by
        rw [hdata, hentries]
        simp only [List.map_append, List.map_cons, List.flatten_append, List.flatten_cons, List.append_assoc]
      obtain ⟨-, hwords, -⟩ := attributeOctets_at hwhere (h e (by rw [hentries]; simp))
      have hnext : (pre ++ (front.map attributeOctets).flatten).length +
          lengthOctet data (pre ++ (front.map attributeOctets).flatten).length * 4 =
          (pre ++ ((front ++ [e]).map attributeOctets).flatten).length := by
        rw [hwords, ← attributeOctets_length]
        simp only [List.map_append, List.flatten_append, List.map_cons, List.map_nil, List.flatten_cons,
          List.flatten_nil, List.append_nil, List.length_append]
        omega
      rw [hnext] at hin ⊢
      obtain ⟨e', rest, rfl⟩ := hsplit (front ++ [e]) back (by rw [hentries]; simp) hin
      exact ⟨front ++ [e], e', rest, by rw [hentries]; simp, rfl⟩

/-- What stands at the place of an attribute of a written packet: the type of one of its attributes, two
reserved octets behind the length octet, and then the value. -/
theorem AttributeAt.octets {p : EAPPacket} (h : p.Sendable) {data : Bytes} (hd : p.serialize = .ok data)
    {pos : ℕ} (hpos : AttributeAt data pos) : ∃ e ∈ p.attributes.entries,
      (data.getD pos 0).toNat = e.1 ∧
        slice data (pos + 2) (pos + paddedLen e.2.length) = [0, 0] ++ valuePadded e.2 := by
  obtain ⟨t, ht⟩ := Option.ne_none_iff_exists'.mp h.eapType
  obtain ⟨u, hu⟩ := Option.ne_none_iff_exists'.mp h.subtype
  have hdata := Except.ok.inj (hd.symm.trans (serialize_eq h ht hu))
  obtain ⟨front, e, back, hentries, rfl⟩ := hpos.written h.attributes rfl hdata
  have he : e ∈ p.attributes.entries := by
    rw [hentries]
    simp
  refine ⟨e, he, ?_⟩
  generalize p.headerOctets _ _ _ = header at hdata
  have hwhere : data = (header ++ (front.map attributeOctets).flatten) ++
      (attributeOctets e ++ (back.map attributeOctets).flatten) := by
    rw [hdata, hentries]
    simp only [List.map_append, List.map_cons, List.flatten_append, List.flatten_cons, List.append_assoc]
  obtain ⟨htype, -, hslice⟩ := attributeOctets_at hwhere (h.attributes e he)
  exact ⟨htype, hslice⟩

/-- The packet with its values padded. -/
def padded (p : EAPPacket) : EAPPacket :=
  { p with attributes := p.attributes.mapEntry fun _ attrValue => valuePadded attrValue }

theorem serializeAttribute_valuePadded (attrType : ℕ) (v : Bytes) :
    serializeAttribute attrType (valuePadded v) = serializeAttribute attrType v := by
  have hspec := paddedLen_spec v.length
  have hpadded := paddedLen_spec (paddedLen v.length - 4)
  have hlen : paddedLen (valuePadded v).length = paddedLen v.length := by
    rw [valuePadded_length]
    omega
  have hvalue : valuePadded (valuePadded v) = valuePadded v := by
    refine valuePadded_of_dvd ?_
    rw [valuePadded_length]
    omega
  simp only [serializeAttribute, hlen, hvalue]

theorem serialize_padded (p : EAPPacket) : p.padded.serialize = p.serialize := by
  have hentries : p.padded.attributes.entries.mapM (fun e => serializeAttribute e.1 e.2) =
      p.attributes.entries.mapM fun e => serializeAttribute e.1 e.2 := by
    change (p.attributes.entries.map fun e => (e.1, valuePadded e.2)).mapM _ = _
    rw [List.mapM_map]
    congr 1
    funext e
    exact serializeAttribute_valuePadded e.1 e.2
  unfold serialize
  rw [hentries]
  rfl

theorem foldl_set_valuePadded (d : Dict ℕ Bytes) :
    d.entries.foldl (fun d e => d.set e.1 (valuePadded e.2)) Dict.empty =
      d.mapEntry fun _ attrValue => valuePadded attrValue := by
  have hnodup : ((d.entries.map fun e => (e.1, valuePadded e.2)).map Prod.fst).Nodup := by
    rw [List.map_map]
    exact d.nodup
  have hfold := Dict.ofList_entries hnodup
  rw [Dict.ofList, List.foldl_map] at hfold
  exact Dict.ext_entries hfold

theorem parseHeader_octets {p : EAPPacket} (h : p.Sendable) {t : EAPType} (ht : p.eapType = some t)
    {u : AKASubtype} (hu : p.subtype = some u) (total : ℕ) (attrs : Bytes) :
    parseHeader (p.headerOctets total t.value u.value ++ attrs) = .ok ({ p with attributes := Dict.empty },
      some (declaredLength (p.headerOctets total t.value u.value ++ attrs))) := by
  have hcode : EAPCode.ofValue (UInt8.ofNat p.code.value).toNat = .ok p.code ∧
      ¬(p.code = .success ∨ p.code = .failure) := by
    rcases h.code with hc | hc
    · rw [hc]
      exact ⟨rfl, by decide⟩
    · rw [hc]
      exact ⟨rfl, by decide⟩
  have htype : EAPType.ofValue (UInt8.ofNat t.value).toNat = .ok t := by cases t <;> rfl
  have hsubtype : AKASubtype.ofValue (UInt8.ofNat u.value).toNat = .ok u := by cases u <;> rfl
  have hlen : (p.headerOctets total t.value u.value ++ attrs).length = 8 + attrs.length := by
    simp only [headerOctets, List.length_append, List.length_cons, List.length_nil, beBytes_length]
  have h0 : byteAt (p.headerOctets total t.value u.value ++ attrs) 0 = .ok (UInt8.ofNat p.code.value) := rfl
  have h1 : byteAt (p.headerOctets total t.value u.value ++ attrs) 1 = .ok (UInt8.ofNat p.identifier) := rfl
  have h4 : byteAt (p.headerOctets total t.value u.value ++ attrs) 4 = .ok (UInt8.ofNat t.value) := rfl
  have h5 : byteAt (p.headerOctets total t.value u.value ++ attrs) 5 = .ok (UInt8.ofNat u.value) := rfl
  rw [parseHeader, if_neg (by omega)]
  simp only [h0, h1, h4, h5, ok_bind, hcode.1, if_neg hcode.2, htype, hsubtype,
    toNat_ofNat_of_lt h.identifier,
    if_neg (show ¬(p.headerOctets total t.value u.value ++ attrs).length < 8 by omega)]
  rw [ht, hu]
  rfl

theorem parse_serialize_padded {p : EAPPacket} (h : p.Sendable) :
    ∃ d, p.serialize = .ok d ∧ ∃ fuel, parse fuel d = some (.ok p.padded) := by
  obtain ⟨t, ht⟩ := Option.ne_none_iff_exists'.mp h.eapType
  obtain ⟨u, hu⟩ := Option.ne_none_iff_exists'.mp h.subtype
  have htotal := h.total
  have hoctets := serialize_eq h ht hu
  rw [← length_flatten_octets] at htotal hoctets
  refine ⟨_, hoctets, p.attributes.entries.length + 1, ?_⟩
  generalize hattrs : (p.attributes.entries.map attributeOctets).flatten = attrs at htotal
  have hbytes : p.headerOctets (8 + attrs.length) t.value u.value ++ attrs =
      [UInt8.ofNat p.code.value, UInt8.ofNat p.identifier] ++ beBytes (8 + attrs.length) 2 ++
        ([UInt8.ofNat t.value, UInt8.ofNat u.value, 0, 0] ++ attrs) := by
    rw [headerOctets, List.append_assoc]
  have hdeclared : declaredLength (p.headerOctets (8 + attrs.length) t.value u.value ++ attrs) =
      8 + attrs.length := unpackBE_of_eq hbytes rfl (by omega)
  have hlength : (p.headerOctets (8 + attrs.length) t.value u.value ++ attrs).length = 8 + attrs.length := by
    rw [hbytes]
    simp only [List.length_append, List.length_cons, List.length_nil, beBytes_length]
    omega
  have hwhere : p.headerOctets (8 + attrs.length) t.value u.value ++ attrs =
      p.headerOctets (8 + attrs.length) t.value u.value ++
        (p.attributes.entries.map attributeOctets).flatten := by rw [hattrs]
  have hloop := parseAttributes_octets (hdeclared.trans hlength.symm) h.attributes hwhere
    (Nat.lt_succ_self _) Dict.empty
  have hpre : (p.headerOctets (8 + attrs.length) t.value u.value).length = 8 := rfl
  rw [foldl_set_valuePadded, hpre] at hloop
  rw [parse, parseHeader_octets h ht hu]
  dsimp only
  rw [hloop]
  rfl

/-- **The round trip.**  A packet that can be written is read with the same header and the same
attribute types in their order, each value with the fewest zeros behind it that fill its last word; a
packet whose values are whole words is read as it was. -/
theorem eap_round_trip {p : EAPPacket} (h : p.Sendable) :
    ∃ d q, p.serialize = .ok d ∧ (∃ fuel, parse fuel d = some (.ok q)) ∧ q.code = p.code ∧
      q.identifier = p.identifier ∧ q.eapType = p.eapType ∧ q.subtype = p.subtype ∧
      List.Forall₂ (fun e e' => e'.1 = e.1 ∧ ∃ zeros, IsLeast {k | 4 ∣ e.2.length + k} zeros ∧
        e'.2 = e.2 ++ List.replicate zeros 0) p.attributes.entries q.attributes.entries ∧
      ((∀ e ∈ p.attributes.entries, 4 ∣ e.2.length) → q = p) := by
  obtain ⟨d, hd, hparse⟩ := parse_serialize_padded h
  refine ⟨d, p.padded, hd, hparse, rfl, rfl, rfl, rfl, ?_, fun hwords => ?_⟩
  · change List.Forall₂ _ _ (p.attributes.entries.map _)
    rw [List.forall₂_map_right_iff, List.forall₂_same]
    exact fun e _ => ⟨rfl, _, valuePadded_least e.2, rfl⟩
  · have hsame : (p.attributes.mapEntry fun _ attrValue => valuePadded attrValue) = p.attributes := by
      refine Dict.ext_entries ?_
      change p.attributes.entries.map _ = _
      have hid : ∀ e ∈ p.attributes.entries, (e.1, valuePadded e.2) = id e := fun e he =>
        Prod.ext rfl (valuePadded_of_dvd (hwords e he))
      exact (List.map_congr_left hid).trans (List.map_id _)
    rw [padded, hsame]

/-- A response with a value of one octet and one of a whole word. -/
def twoAttributes : EAPPacket where
  code := .response
  identifier := 7
  eapType := some .aka
  subtype := some .challenge
  attributes := Dict.ofList [(3, [5]), (11, [1, 2, 3, 4])]

theorem eap_round_trip_twoAttributes :
    ∃ d q, twoAttributes.serialize = .ok d ∧ (∃ fuel, parse fuel d = some (.ok q)) ∧
      q.code = .response ∧ q.identifier = 7 ∧ q.eapType = some .aka ∧ q.subtype = some .challenge ∧
      List.Forall₂ (fun e e' => e'.1 = e.1 ∧ ∃ zeros, IsLeast {k | 4 ∣ e.2.length + k} zeros ∧
        e'.2 = e.2 ++ List.replicate zeros 0) twoAttributes.attributes.entries q.attributes.entries ∧
      ((∀ e ∈ twoAttributes.attributes.entries, 4 ∣ e.2.length) → q = twoAttributes) :=
  eap_round_trip ⟨by decide, by decide, by decide, by decide, by decide, by decide⟩

end EAPPacket

end VirtualPhone
