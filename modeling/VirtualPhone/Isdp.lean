import VirtualPhone.Runtime.Dict
import VirtualPhone.Runtime.Text

/-! # ISD-P profiles (`euicc/isdp.py`)

One eSIM profile: identities, keys, lifecycle state and the sequence number of the AKA.
`toDict` and `fromDict` are the two halves of its persistent form, a flat dictionary of strings,
integers and nulls; `fromDict_toDict` says that a profile that has been written is read back
whole. -/

namespace VirtualPhone

open Runtime

/-- `ProfileState`. -/
inductive ProfileState
  | disabled
  | enabled
  | deleting
deriving DecidableEq, Repr

/-- `ProfileState.value`. -/
def ProfileState.value : ProfileState → Text
  | disabled => "disabled".toList
  | enabled => "enabled".toList
  | deleting => "deleting".toList

/-- `ProfileState(value)`. -/
def ProfileState.ofValue (v : Text) : Except PyError ProfileState :=
  if v = "disabled".toList then .ok disabled
  else if v = "enabled".toList then .ok enabled
  else if v = "deleting".toList then .ok deleting
  else .error (.valueError ("'".toList ++ v ++ "' is not a valid ProfileState".toList))

/-- `ProfileClass`. -/
inductive ProfileClass
  | provisioning
  | operational
  | test
deriving DecidableEq, Repr

/-- `ProfileClass.value`. -/
def ProfileClass.value : ProfileClass → Text
  | provisioning => "provisioning".toList
  | operational => "operational".toList
  | test => "test".toList

/-- `ProfileClass(value)`. -/
def ProfileClass.ofValue (v : Text) : Except PyError ProfileClass :=
  if v = "provisioning".toList then .ok provisioning
  else if v = "operational".toList then .ok operational
  else if v = "test".toList then .ok test
  else .error (.valueError ("'".toList ++ v ++ "' is not a valid ProfileClass".toList))

/-- `ISDP`. -/
structure Isdp where
  iccid : Text
  imsi : Text
  aid : Text
  ki : Text
  opc : Text
  mcc : Text := "001".toList
  mnc : Text := "01".toList
  spn : Text := "Virtual".toList
  msisdn : Option Text := none
  gid1 : Option Text := none
  gid2 : Option Text := none
  impi : Option Text := none
  impu : Option Text := none
  homeDomain : Option Text := none
  state : ProfileState := .disabled
  profileClass : ProfileClass := .operational
  sqn : ℕ := 0
deriving DecidableEq, Repr

/-- A value in the persistent form of a profile. -/
inductive JsonValue
  | null
  | int (n : ℕ)
  | str (s : Text)
deriving DecidableEq, Repr

/-- The contents of a profile file. -/
abbrev JsonDict := Dict Text JsonValue

namespace JsonValue

/-- An optional string. -/
def ofOption : Option Text → JsonValue
  | none => null
  | some s => str s

/-- A field annotated as a string. -/
def asText : JsonValue → Except PyError Text
  | str s => .ok s
  | _ => .error .typeError

/-- A field annotated as an optional string. -/
def asOption : JsonValue → Except PyError (Option Text)
  | null => .ok none
  | str s => .ok (some s)
  | int _ => .error .typeError

/-- A field annotated as an integer. -/
def asNat : JsonValue → Except PyError ℕ
  | int n => .ok n
  | _ => .error .typeError

end JsonValue

/-- `data[key]`. -/
def JsonDict.item (data : JsonDict) (key : Text) : Except PyError JsonValue :=
  match data.get? key with
  | some v => .ok v
  | none => .error (.keyError key)

/-- `data.get(key, default)`. -/
def JsonDict.getD (data : JsonDict) (key : Text) (default : JsonValue) : JsonValue :=
  (data.get? key).getD default

namespace Isdp

/-- The profile with its lifecycle state changed. -/
def withState (p : Isdp) (st : ProfileState) : Isdp := { p with state := st }

@[simp] theorem withState_state (p : Isdp) (st : ProfileState) : (p.withState st).state = st := rfl

@[simp] theorem withState_iccid (p : Isdp) (st : ProfileState) : (p.withState st).iccid = p.iccid := rfl

/-- `increment_sqn()`, as the profile after it. -/
def incrementSqn (p : Isdp) : Isdp := { p with sqn := p.sqn + 1 }

/-- The dictionary `get_isim_data()` returns. -/
structure IsimData where
  impi : Option Text
  impu : Option Text
  homeDomain : Option Text
deriving DecidableEq, Repr

/-- `x or default` for an optional string: the empty string counts as absent. -/
def orDefault (x : Option Text) (default : Text) : Text :=
  match x with
  | some (c :: s) => c :: s
  | _ => default

/-- `get_isim_data()`: an IMPI that is absent or empty is derived from the IMSI. -/
def getIsimData (p : Isdp) : IsimData :=
  if p.impi = none ∨ p.impi = some [] then
    let domain := orDefault p.homeDomain
      ("ims.mnc".toList ++ p.mnc ++ ".mcc".toList ++ p.mcc ++ ".3gppnetwork.org".toList)
    { impi := some (p.imsi ++ "@".toList ++ domain)
      impu := some ("sip:".toList ++ p.imsi ++ "@".toList ++ domain)
      homeDomain := some domain }
  else { impi := p.impi, impu := p.impu, homeDomain := p.homeDomain }

/-- The entries of `to_dict()`. -/
def fields (p : Isdp) : List (Text × JsonValue) := [
    ("iccid".toList, .str p.iccid),
    ("imsi".toList, .str p.imsi),
    ("aid".toList, .str p.aid),
    ("ki".toList, .str p.ki),
    ("opc".toList, .str p.opc),
    ("mcc".toList, .str p.mcc),
    ("mnc".toList, .str p.mnc),
    ("spn".toList, .str p.spn),
    ("msisdn".toList, .ofOption p.msisdn),
    ("gid1".toList, .ofOption p.gid1),
    ("gid2".toList, .ofOption p.gid2),
    ("impi".toList, .ofOption p.impi),
    ("impu".toList, .ofOption p.impu),
    ("home_domain".toList, .ofOption p.homeDomain),
    ("state".toList, .str p.state.value),
    ("profile_class".toList, .str p.profileClass.value),
    ("sqn".toList, .int p.sqn)]

/-- `to_dict()`. -/
def toDict (p : Isdp) : JsonDict := Dict.ofList p.fields

/-- `from_dict(data)`. -/
def fromDict (data : JsonDict) : Except PyError Isdp := do
  let iccid ← (← data.item "iccid".toList).asText
  let imsi ← (← data.item "imsi".toList).asText
  let aid ← (data.getD "aid".toList (.str [])).asText
  let ki ← (← data.item "ki".toList).asText
  let opc ← (← data.item "opc".toList).asText
  let mcc ← (data.getD "mcc".toList (.str "001".toList)).asText
  let mnc ← (data.getD "mnc".toList (.str "01".toList)).asText
  let spn ← (data.getD "spn".toList (.str "Virtual".toList)).asText
  let msisdn ← (data.getD "msisdn".toList .null).asOption
  let gid1 ← (data.getD "gid1".toList .null).asOption
  let gid2 ← (data.getD "gid2".toList .null).asOption
  let impi ← (data.getD "impi".toList .null).asOption
  let impu ← (data.getD "impu".toList .null).asOption
  let homeDomain ← (data.getD "home_domain".toList .null).asOption
  let state ← ProfileState.ofValue (← (data.getD "state".toList (.str "disabled".toList)).asText)
  let profileClass ←
    ProfileClass.ofValue (← (data.getD "profile_class".toList (.str "operational".toList)).asText)
  let sqn ← (data.getD "sqn".toList (.int 0)).asNat
  return {
    iccid, imsi, aid, ki, opc, mcc, mnc, spn, msisdn, gid1, gid2, impi, impu, homeDomain, state
    profileClass, sqn }

theorem state_ofValue (st : ProfileState) : ProfileState.ofValue st.value = .ok st := by
  cases st <;> decide

theorem profileClass_ofValue (c : ProfileClass) : ProfileClass.ofValue c.value = .ok c := by
  cases c <;> decide

@[simp] theorem asOption_ofOption (x : Option Text) : (JsonValue.ofOption x).asOption = .ok x := by
  cases x <;> rfl

theorem fields_nodup (p : Isdp) : (p.fields.map Prod.fst).Nodup := by
  have h : p.fields.map Prod.fst = ["iccid".toList, "imsi".toList, "aid".toList, "ki".toList,
      "opc".toList, "mcc".toList, "mnc".toList, "spn".toList, "msisdn".toList, "gid1".toList,
      "gid2".toList, "impi".toList, "impu".toList, "home_domain".toList, "state".toList,
      "profile_class".toList, "sqn".toList] := rfl
  rw [h]
  decide

theorem item_toDict {p : Isdp} {key : Text} {v : JsonValue} (h : (key, v) ∈ p.fields) :
    p.toDict.item key = .ok v := by
  have hget : p.toDict.get? key = some v := (Dict.get?_ofList p.fields_nodup key v).mpr h
  rw [JsonDict.item, hget]

theorem getD_toDict {p : Isdp} {key : Text} {v d : JsonValue} (h : (key, v) ∈ p.fields) :
    p.toDict.getD key d = v := by
  have hget : p.toDict.get? key = some v := (Dict.get?_ofList p.fields_nodup key v).mpr h
  rw [JsonDict.getD, hget, Option.getD_some]

/-- **The persistent form loses nothing.** -/
theorem fromDict_toDict (p : Isdp) : fromDict p.toDict = .ok p := by
  have hiccid : p.toDict.item "iccid".toList = .ok (.str p.iccid) := item_toDict (by simp [fields])
  have himsi : p.toDict.item "imsi".toList = .ok (.str p.imsi) := item_toDict (by simp [fields])
  have hki : p.toDict.item "ki".toList = .ok (.str p.ki) := item_toDict (by simp [fields])
  have hopc : p.toDict.item "opc".toList = .ok (.str p.opc) := item_toDict (by simp [fields])
  have haid : p.toDict.getD "aid".toList (.str []) = .str p.aid :=
    getD_toDict (by simp [fields])
  have hmcc : p.toDict.getD "mcc".toList (.str "001".toList) = .str p.mcc :=
    getD_toDict (by simp [fields])
  have hmnc : p.toDict.getD "mnc".toList (.str "01".toList) = .str p.mnc :=
    getD_toDict (by simp [fields])
  have hspn : p.toDict.getD "spn".toList (.str "Virtual".toList) = .str p.spn :=
    getD_toDict (by simp [fields])
  have hmsisdn : p.toDict.getD "msisdn".toList .null = .ofOption p.msisdn :=
    getD_toDict (by simp [fields])
  have hgid1 : p.toDict.getD "gid1".toList .null = .ofOption p.gid1 :=
    getD_toDict (by simp [fields])
  have hgid2 : p.toDict.getD "gid2".toList .null = .ofOption p.gid2 :=
    getD_toDict (by simp [fields])
  have himpi : p.toDict.getD "impi".toList .null = .ofOption p.impi :=
    getD_toDict (by simp [fields])
  have himpu : p.toDict.getD "impu".toList .null = .ofOption p.impu :=
    getD_toDict (by simp [fields])
  have hdomain : p.toDict.getD "home_domain".toList .null = .ofOption p.homeDomain :=
    getD_toDict (by simp [fields])
  have hstate : p.toDict.getD "state".toList (.str "disabled".toList) = .str p.state.value :=
    getD_toDict (by simp [fields])
  have hclass : p.toDict.getD "profile_class".toList (.str "operational".toList) = .str p.profileClass.value :=
    getD_toDict (by simp [fields])
  have hsqn : p.toDict.getD "sqn".toList (.int 0) = .int p.sqn :=
    getD_toDict (by simp [fields])
  simp only [fromDict, hiccid, himsi, haid, hki, hopc, hmcc, hmnc, hspn, hmsisdn, hgid1, hgid2, himpi,
    himpu, hdomain, hstate, hclass, hsqn, ok_bind, JsonValue.asText, JsonValue.asNat,
    asOption_ofOption, state_ofValue, profileClass_ofValue]
  rfl

end Isdp

end VirtualPhone
