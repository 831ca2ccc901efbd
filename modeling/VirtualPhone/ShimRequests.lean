import Mathlib.Algebra.Order.BigOperators.Group.List
import Mathlib.Data.List.TakeWhile
import VirtualPhone.JsonCompact
import VirtualPhone.Parcel

/-! # Strings from the Android client to the bridge

The functions `request_data_*` of `ril_shim.c` print the strings of a request Parcel into templates,
between two quotes and as they are, in buffers of fixed sizes; `json_build` prints the result into
another one.  `RILMessage.deserialize` of `hal/ril_bridge.py` reads the frame with `json.loads`.

A template is the compact text of an object (`requestData_eq`).  By that, and because no JSON text is
shorter than the compact one, `carries_iff` says exactly when the bridge gets the strings of the
Parcel: when none of their characters has to be escaped and nothing was cut off. -/

namespace VirtualPhone

open Runtime

/-! ### What the bridge reads -/

/-- `RILMessage`, with the values `json.loads` returned. -/
structure BridgeMessage where
  msgType : Json
  serial : Json
  requestId : Json
  data : Json

/-- `RILMessage.deserialize(raw)`; `msg.get` is there for an object only. -/
def BridgeMessage.deserialize (raw : Text) : Except PyError BridgeMessage := do
  match ← loads raw with
  | .obj msg =>
      return {
        msgType := (Json.get? msg "type").getD (.int 0)
        serial := (Json.get? msg "serial").getD (.int 0)
        requestId := (Json.get? msg "id").getD (.int 0)
        data := (Json.get? msg "data").getD (.obj []) }
  | _ => .error .attributeError

/-! ### Templates -/

/-- An argument of a template. -/
inductive TemplateArg
  | int (n : ℤ)
  | str (s : Option Text)
deriving DecidableEq

namespace TemplateArg

/-- What `%d`, or `%s` between quotes, prints. -/
def text : TemplateArg → Text
  | int n => intText n
  | str s => '"' :: (strArg s ++ ['"'])

/-- The value the Parcel has there; a null string is an empty one. -/
def value : TemplateArg → Json
  | int n => .int n
  | str s => .str (s.getD [])

/-- The string can be printed as it is. -/
def Plain : TemplateArg → Prop
  | int _ => True
  | str s => ∀ c ∈ s.getD [], JsonPlain c

end TemplateArg

/-- The fields of a template with their arguments. -/
abbrev Template := List (String × TemplateArg)

/-- The text of a template. -/
def Template.text (fields : Template) : Text :=
  objectText (fields.map fun f => (f.1.toList, f.2.text))

/-- The fields of `request_data_sim_io`. -/
def simIoTemplate (req : Bytes) : Template :=
  let (cmd, req) := parcelReadI32 req
  let (fileid, req) := parcelReadI32 req
  let (path, req) := parcelReadStr16 req
  let (p1, req) := parcelReadI32 req
  let (p2, req) := parcelReadI32 req
  let (p3, req) := parcelReadI32 req
  let (data, req) := parcelReadStr16 req
  let (pin2, req) := parcelReadStr16 req
  let (aid, _) := parcelReadStr16 req
  [("command", .int cmd), ("fileId", .int fileid), ("path", .str path), ("p1", .int p1),
    ("p2", .int p2), ("p3", .int p3), ("data", .str data), ("pin2", .str pin2), ("aid", .str aid)]

/-- The fields of `request_data_sim_auth`. -/
def simAuthTemplate (req : Bytes) : Template :=
  let (authContext, req) := parcelReadI32 req
  let (authData, req) := parcelReadStr16 req
  let (aid, _) := parcelReadStr16 req
  [("authContext", .int authContext), ("authData", .str authData), ("aid", .str aid)]

/-- The fields of `request_data_send_sms`. -/
def sendSmsTemplate (req : Bytes) : Template :=
  [("smscPdu", .str (readTwoStrings req).1), ("pdu", .str (readTwoStrings req).2)]

/-- The fields of `request_data_enter_pin`. -/
def enterPinTemplate (req : Bytes) : Template :=
  [("pin", .str (readTwoStrings req).1), ("aid", .str (readTwoStrings req).2)]

/-- The fields of `request_data_dial`. -/
def dialTemplate (req : Bytes) : Template :=
  let (address, req) := parcelReadStr16 req
  let (clir, _) := parcelReadI32 req
  [("address", .str address), ("clir", .int clir)]

/-- The requests with strings: the size of the buffer, and the fields of the template. -/
def stringRequest (requestId : ℤ) (req : Bytes) : Option (ℕ × Template) :=
  if requestId = 28 then some (jsonBufSize, simIoTemplate req)
  else if requestId = 125 then some (jsonBufSize, simAuthTemplate req)
  else if requestId = 25 then some (jsonBufSize, sendSmsTemplate req)
  else if requestId = 2 then some (256, enterPinTemplate req)
  else if requestId = 10 then some (jsonBufSize, dialTemplate req)
  else none

theorem requestDataSimIo_eq (req : Bytes) :
    requestDataSimIo req = snprintf jsonBufSize (simIoTemplate req).text := by
  unfold requestDataSimIo simIoTemplate
  simp [Template.text, objectText, membersText, memberText, TemplateArg.text]

theorem requestDataSimAuth_eq (req : Bytes) :
    requestDataSimAuth req = snprintf jsonBufSize (simAuthTemplate req).text := by
  unfold requestDataSimAuth simAuthTemplate
  simp [Template.text, objectText, membersText, memberText, TemplateArg.text]

theorem requestDataSendSms_eq (req : Bytes) :
    requestDataSendSms req = snprintf jsonBufSize (sendSmsTemplate req).text := by
  unfold requestDataSendSms sendSmsTemplate
  simp [Template.text, objectText, membersText, memberText, TemplateArg.text]

theorem requestDataEnterPin_eq (req : Bytes) :
    requestDataEnterPin req = snprintf 256 (enterPinTemplate req).text := by
  unfold requestDataEnterPin enterPinTemplate
  simp [Template.text, objectText, membersText, memberText, TemplateArg.text]

theorem requestDataDial_eq (req : Bytes) :
    requestDataDial req = snprintf jsonBufSize (dialTemplate req).text := by
  unfold requestDataDial dialTemplate
  simp [Template.text, objectText, membersText, memberText, TemplateArg.text]

/-- The templates of the requests: some fields, with different plain keys and short numbers. -/
structure Template.WellFormed (fields : Template) : Prop where
  ne_nil : fields ≠ []
  nodup : (fields.map fun f => f.1.toList).Nodup
  plain : ∀ f ∈ fields, ∀ c ∈ f.1.toList, JsonPlain c
  short : ∀ f ∈ fields, ∀ n, f.2 = .int n → (intText n).length ≤ 20

theorem parcelReadI32_short (p : Bytes) : (intText (parcelReadI32 p).1).length ≤ 20 := by
  have hnat : ∀ n : ℕ, n ≤ 2 ^ 31 → (natText n).length ≤ 10 := by
    intro n hn
    exact (Nat.length_toDigits_le_iff (by decide) (by decide)).mpr (by omega)
  unfold parcelReadI32
  split_ifs
  · change (natText 0).length ≤ 20
    decide
  · have hlow : -(2 ^ 31 : ℤ) ≤ fromLE32 (p.take 4) := by
      have := Int.le_bmod (x := (fromBE (p.take 4).reverse : ℤ)) (m := 2 ^ 32) (by decide)
      unfold fromLE32
      omega
    have hhigh : fromLE32 (p.take 4) < 2 ^ 31 := by
      have := Int.bmod_lt (x := (fromBE (p.take 4).reverse : ℤ)) (m := 2 ^ 32) (by decide)
      unfold fromLE32
      omega
    simp only
    generalize fromLE32 (p.take 4) = i at hlow hhigh
    cases i with
    | ofNat n =>
        have hn : (n : ℤ) < 2 ^ 31 := hhigh
        have := hnat n (by omega)
        change (natText n).length ≤ 20
        omega
    | negSucc n =>
        have := hnat (n + 1) (by omega)
        change ('-' :: natText (n + 1)).length ≤ 20
        rw [List.length_cons]
        omega

theorem stringRequest_wellFormed {requestId : ℤ} {req : Bytes} {cap : ℕ} {fields : Template}
    (h : stringRequest requestId req = some (cap, fields)) :
    fields.WellFormed ∧ 0 < cap ∧ requestData requestId req = some (snprintf cap fields.text) := by
  have hplain : ∀ (fields : Template), (∀ key ∈ fields.map (·.1), key ∈ ["command", "fileId", "path",
      "p1", "p2", "p3", "data", "pin2", "aid", "authContext", "authData", "smscPdu", "pdu", "pin",
      "address", "clir"]) → ∀ f ∈ fields, ∀ c ∈ f.1.toList, JsonPlain c := by
    intro fields hkeys f hf
    have hall : ∀ key ∈ ["command", "fileId", "path", "p1", "p2", "p3", "data", "pin2", "aid",
        "authContext", "authData", "smscPdu", "pdu", "pin", "address", "clir"],
        (key.toList.all fun c => decide (JsonPlain c)) = true := by
      decide +kernel
    exact forall_mem_of_all (hall _ (hkeys _ (List.mem_map_of_mem hf)))
  unfold stringRequest at h
  split_ifs at h with h28 h125 h25 h2 h10
  · obtain ⟨rfl, rfl⟩ := Prod.mk.inj (Option.some.inj h)
    refine ⟨⟨by simp [simIoTemplate], by simp [simIoTemplate], hplain _ (by simp [simIoTemplate]), ?_⟩,
      by decide, ?_⟩
    · simp [simIoTemplate, parcelReadI32_short]
    · rw [requestData, h28]
      exact congrArg some (requestDataSimIo_eq req)
  · obtain ⟨rfl, rfl⟩ := Prod.mk.inj (Option.some.inj h)
    refine ⟨⟨by simp [simAuthTemplate], by simp [simAuthTemplate],
      hplain _ (by simp [simAuthTemplate]), ?_⟩, by decide, ?_⟩
    · simp [simAuthTemplate, parcelReadI32_short]
    · rw [requestData, h125]
      exact congrArg some (requestDataSimAuth_eq req)
  · obtain ⟨rfl, rfl⟩ := Prod.mk.inj (Option.some.inj h)
    refine ⟨⟨by simp [sendSmsTemplate], by simp [sendSmsTemplate],
      hplain _ (by simp [sendSmsTemplate]), ?_⟩, by decide, ?_⟩
    · simp [sendSmsTemplate]
    · rw [requestData, h25]
      exact congrArg some (requestDataSendSms_eq req)
  · obtain ⟨rfl, rfl⟩ := Prod.mk.inj (Option.some.inj h)
    refine ⟨⟨by simp [enterPinTemplate], by simp [enterPinTemplate],
      hplain _ (by simp [enterPinTemplate]), ?_⟩, by decide, ?_⟩
    · simp [enterPinTemplate]
    · rw [requestData, h2]
      exact congrArg some (requestDataEnterPin_eq req)
  · obtain ⟨rfl, rfl⟩ := Prod.mk.inj (Option.some.inj h)
    refine ⟨⟨by simp [dialTemplate], by simp [dialTemplate], hplain _ (by simp [dialTemplate]), ?_⟩,
      by decide, ?_⟩
    · simp [dialTemplate, parcelReadI32_short]
    · rw [requestData, h10]
      exact congrArg some (requestDataDial_eq req)

/-! ### The frame -/

/-- The text of a frame with this data, before it is cut. -/
def AndroidRequest.frameText (r : AndroidRequest) (data : Text) : Text :=
  objectText [("type".toList, intText solicited), ("serial".toList, intText r.token),
    ("id".toList, intText r.requestId), ("data".toList, data)]

theorem json_eq {r : AndroidRequest} {data : Text} (h : r.dataJson = some data) :
    r.json = snprintf jsonBufSize (r.frameText data) := by
  unfold AndroidRequest.json jsonBuild
  rw [h]
  simp [AndroidRequest.frameText, objectText, membersText, memberText, solicited]

/-- The frame is well formed: the bridge reads the request in it, with every field of the template. -/
def AndroidRequest.Carries (r : AndroidRequest) (fields : Template) : Prop :=
  ∃ m data, BridgeMessage.deserialize r.json = .ok m ∧ m.msgType = .int solicited ∧
    m.serial = .int r.token ∧ m.requestId = .int r.requestId ∧ m.data = .obj data ∧
    ∀ f ∈ fields, Json.get? data f.1 = some f.2.value

/-- All strings can be printed as they are, and nothing is cut off. -/
structure AndroidRequest.Fits (r : AndroidRequest) (cap : ℕ) (fields : Template) : Prop where
  plain : ∀ f ∈ fields, f.2.Plain
  data : fields.text.length < cap
  frame : (r.frameText fields.text).length < jsonBufSize

/-- The numbers in the header of a frame are short. -/
structure AndroidRequest.ShortHeader (r : AndroidRequest) : Prop where
  token : (intText r.token).length ≤ 20
  requestId : (intText r.requestId).length ≤ 20

/-- The members of a template. -/
def Template.members (fields : Template) : List ReadMember :=
  fields.map fun f => (f.1.toList, f.2.text, f.2.value)

/-- The value of the data. -/
def Template.value (fields : Template) : Json := .obj (fields.map fun f => (f.1.toList, f.2.value))

/-- The first members of a frame. -/
def AndroidRequest.header (r : AndroidRequest) : List ReadMember :=
  [("type".toList, intText solicited, .int solicited), ("serial".toList, intText r.token, .int r.token),
    ("id".toList, intText r.requestId, .int r.requestId)]

theorem snprintf_eq {cap : ℕ} {s : Text} (h : s.length < cap) : snprintf cap s = s :=
  List.take_of_length_le (by omega)

theorem strArg_plain {s : Option Text} (h : ∀ c ∈ s.getD [], JsonPlain c) : strArg s = s.getD [] := by
  refine List.takeWhile_eq_self_iff.mpr fun c hc => ?_
  have hchar := (h c hc).2.2
  refine decide_eq_true ?_
  rintro rfl
  exact absurd hchar (by decide)

theorem ReadsAs.mono {n m : ℕ} {text : Text} {v : Json} (h : ReadsAs n text v) (hle : n ≤ m) :
    ReadsAs m text v where
  starts := h.starts
  read := fun k hk => h.read k (hle.trans hk)

theorem readsAs_arg {arg : TemplateArg} (hplain : arg.Plain)
    (hshort : ∀ n, arg = .int n → (intText n).length ≤ 20) : ReadsAs 1 arg.text arg.value := by
  cases arg with
  | int n => exact readsAs_int (by have := hshort n rfl; omega)
  | str s =>
      have hread := readsAs_str hplain
      rw [← strArg_plain hplain] at hread
      have hvalue : (TemplateArg.str s).value = .str (strArg s) := by
        rw [strArg_plain hplain]
        rfl
      rw [hvalue]
      exact hread

theorem Template.text_eq (fields : Template) :
    fields.text = objectText (fields.members.map fun x => (x.1, x.2.1)) := by
  rw [Template.text, Template.members, List.map_map]
  rfl

theorem Template.value_eq (fields : Template) :
    fields.value = .obj (fields.members.map fun x => (x.1, x.2.2)) := by
  rw [Template.value, Template.members, List.map_map]
  rfl

theorem get?_of_mem {fields : List (Text × Json)} (hkeys : (fields.map Prod.fst).Nodup) {key : String}
    {v : Json} (h : (key.toList, v) ∈ fields) : Json.get? fields key = some v :=
  (Dict.get?_eq_some_iff ⟨fields, hkeys⟩ key.toList v).mpr h

theorem Template.readsAs {fields : Template} (hfields : fields.WellFormed)
    (hplain : ∀ f ∈ fields, f.2.Plain) :
    ReadsAs (fields.members.length + 2) fields.text fields.value := by
  have hmembers : MembersRead 1 fields.members := by
    intro m hm
    obtain ⟨f, hf, rfl⟩ := List.mem_map.mp hm
    exact ⟨hfields.plain f hf, readsAs_arg (hplain f hf) (hfields.short f hf)⟩
  have hkeys : (fields.members.map Prod.fst).Nodup := by
    rw [Template.members, List.map_map]
    exact hfields.nodup
  have hne : fields.members ≠ [] := by
    rw [Template.members, Ne, List.map_eq_nil_iff]
    exact hfields.ne_nil
  rw [Template.text_eq, Template.value_eq]
  exact (readsAs_object hne hmembers hkeys).mono (by omega)

theorem header_read {r : AndroidRequest} (hr : r.ShortHeader) : MembersRead 1 r.header := by
  have hint : ∀ (key : String) (i : ℤ), (key.toList.all fun c => decide (JsonPlain c)) = true →
      (intText i).length ≤ 20 →
        (∀ c ∈ key.toList, JsonPlain c) ∧ ReadsAs 1 (intText i) (.int i) :=
    fun key i hkey hi => ⟨forall_mem_of_all hkey, readsAs_int (by omega)⟩
  refine List.forall_mem_cons.mpr ⟨hint "type" solicited (by decide) (by decide), ?_⟩
  refine List.forall_mem_cons.mpr ⟨hint "serial" r.token (by decide) hr.token, ?_⟩
  refine List.forall_mem_cons.mpr ⟨hint "id" r.requestId (by decide) hr.requestId, ?_⟩
  exact List.forall_mem_nil _

theorem loads_of_fits {r : AndroidRequest} {cap : ℕ} {fields : Template} (hr : r.ShortHeader)
    (hfields : fields.WellFormed) (hdata : r.dataJson = some (snprintf cap fields.text))
    (h : r.Fits cap fields) :
    loads r.json = .ok (.obj (r.header.map (fun x => (x.1, x.2.2)) ++
      [("data".toList, fields.value)])) := by
  let ms : List ReadMember := r.header ++ [("data".toList, fields.text, fields.value)]
  have hjson : r.json = objectText (ms.map fun x => (x.1, x.2.1)) := by
    rw [json_eq hdata, snprintf_eq h.data, snprintf_eq h.frame]
    rfl
  have hread : MembersRead (fields.members.length + 2) ms := by
    intro m hm
    rcases List.mem_append.mp hm with hm | hm
    · exact ⟨(header_read hr m hm).1, (header_read hr m hm).2.mono (by omega)⟩
    · obtain rfl := List.mem_singleton.mp hm
      have hkey : ("data".toList.all fun c => decide (JsonPlain c)) = true := by decide
      exact ⟨forall_mem_of_all hkey, Template.readsAs hfields h.plain⟩
  have hlong : fields.members.length + 2 + ms.length ≤
      (objectText (ms.map fun x => (x.1, x.2.1))).length := by
    have hdatalong := objectText_length_le (fields.members.map fun x => (x.1, x.2.1))
    rw [← Template.text_eq, List.length_map] at hdatalong
    rw [objectText_length (by simp [ms])]
    simp only [ms, AndroidRequest.header, List.length_append, List.length_cons, List.length_nil,
      List.map_append, List.map_cons, List.map_nil, List.sum_append, List.sum_cons, List.sum_nil]
    omega
  have hnodup : (ms.map Prod.fst).Nodup := by
    simp only [ms, AndroidRequest.header, List.map_append, List.map_cons, List.map_nil]
    decide
  rw [hjson, loads_objectText (by simp [ms]) hread hnodup hlong, List.map_append]
  rfl

/-- **A request that fits is read by the bridge.** -/
theorem carries_of_fits {r : AndroidRequest} {cap : ℕ} {fields : Template} (hr : r.ShortHeader)
    (hfields : fields.WellFormed) (hdata : r.dataJson = some (snprintf cap fields.text))
    (h : r.Fits cap fields) : r.Carries fields := by
  have hloads := loads_of_fits hr hfields hdata h
  refine ⟨⟨.int solicited, .int r.token, .int r.requestId, fields.value⟩, _, ?_, rfl, rfl, rfl, rfl, ?_⟩
  · unfold BridgeMessage.deserialize
    rw [hloads]
    rfl
  · intro f hf
    refine get?_of_mem ?_ (List.mem_map_of_mem hf)
    rw [List.map_map]
    exact hfields.nodup

/-! ### What a frame that is read leaves room for -/

/-- What is printed of an argument is no longer than its value, written in JSON. -/
theorem TemplateArg.text_length_le (arg : TemplateArg) : arg.text.length ≤ arg.value.sizeAt 1 := by
  cases arg with
  | int n => exact le_rfl
  | str s =>
      have hcut : (strArg s).length ≤ (s.getD []).length := (List.takeWhile_sublist _).length_le
      have hsize := length_le_textSize (s.getD [])
      simp only [TemplateArg.text, TemplateArg.value, Json.sizeAt, List.length_cons, List.length_append,
        List.length_nil]
      omega

theorem TemplateArg.plain_of_le {arg : TemplateArg} (h : arg.value.sizeAt 1 ≤ arg.text.length) :
    arg.Plain := by
  cases arg with
  | int n => trivial
  | str s =>
      have hcut : (strArg s).length ≤ (s.getD []).length := (List.takeWhile_sublist _).length_le
      refine (textSize_le_iff (s.getD [])).mp ?_
      simp only [TemplateArg.text, TemplateArg.value, Json.sizeAt, List.length_cons, List.length_append,
        List.length_nil] at h
      omega

/-- The characters the members of a template would take in JSON. -/
def Template.size (fields : Template) : ℕ :=
  (fields.map fun f => f.1.toList.length + f.2.value.sizeAt 1 + 4).sum

theorem Template.text_length {fields : Template} (h : fields ≠ []) :
    fields.text.length = 1 + (fields.map fun f => f.1.toList.length + f.2.text.length + 4).sum := by
  rw [Template.text, objectText_length (by simpa using h), List.map_map]
  rfl

/-- A template is never longer than its fields in JSON, and as long only if all strings are plain. -/
theorem Template.text_le_size {fields : Template} (hne : fields ≠ []) :
    fields.text.length ≤ 1 + fields.size ∧
      (1 + fields.size ≤ fields.text.length → ∀ f ∈ fields, f.2.Plain) := by
  rw [Template.text_length hne, Template.size]
  clear hne
  induction fields with
  | nil => exact ⟨le_rfl, fun _ f hf => absurd hf List.not_mem_nil⟩
  | cons f fields ih =>
      have hle := f.2.text_length_le
      simp only [List.map_cons, List.sum_cons]
      refine ⟨by omega, fun h => List.forall_mem_cons.mpr ⟨?_, ih.2 (by omega)⟩⟩
      exact TemplateArg.plain_of_le (by omega)

theorem Template.size_le {fields : Template} (hnodup : (fields.map fun f => f.1.toList).Nodup)
    {data : List (Text × Json)} (h : ∀ f ∈ fields, Json.get? data f.1 = some f.2.value) :
    1 + fields.size ≤ (Json.obj data).sizeAt 2 := by
  have hsub : fields.map (fun f => (f.1.toList, f.2.value)) ⊆ data := by
    intro x hx
    obtain ⟨f, hf, rfl⟩ := List.mem_map.mp hx
    exact mem_of_get? (h f hf)
  have hdistinct : (fields.map fun f => (f.1.toList, f.2.value)).Nodup := by
    refine List.Nodup.of_map Prod.fst ?_
    rwa [List.map_map]
  have hsum := sum_map_le_of_subset (memberSize 1) hdistinct hsub
  have hkey : fields.size ≤ ((fields.map fun f => (f.1.toList, f.2.value)).map (memberSize 1)).sum := by
    rw [List.map_map, Template.size]
    refine List.sum_le_sum fun f hf => ?_
    have := length_le_textSize f.1.toList
    simp only [Function.comp_apply, memberSize]
    omega
  change 1 + fields.size ≤ 1 + (data.map (memberSize 1)).sum
  omega

theorem frameText_length (r : AndroidRequest) (data : Text) :
    (r.frameText data).length =
      34 + (intText r.token).length + (intText r.requestId).length + data.length := by
  rw [AndroidRequest.frameText, objectText_length (by simp)]
  have hsolicited : (intText solicited).length = 1 := by decide
  simp only [List.map_cons, List.map_nil, List.sum_cons, List.sum_nil, hsolicited]
  have hkeys : "type".toList.length = 4 ∧ "serial".toList.length = 6 ∧ "id".toList.length = 2 ∧
    "data".toList.length = 4 := by decide
  omega

theorem json_starts {r : AndroidRequest} (hr : r.ShortHeader) {data : Text}
    (h : r.dataJson = some data) :
    ∃ rest, r.json = '\x7b' :: ((r.header.flatMap fun x => memberText (x.1, x.2.1) ++ [',']) ++ rest) ∧
      skipBlanks rest = rest := by
  let front : Text := '\x7b' :: r.header.flatMap fun x => memberText (x.1, x.2.1) ++ [',']
  let back : Text := memberText ("data".toList, data) ++ ['\x7d']
  have hframe : r.frameText data = front ++ back := by
    simp [front, back, AndroidRequest.frameText, AndroidRequest.header, objectText, membersText]
  have hfront : front.length ≤ jsonBufSize - 1 := by
    have hlen := frameText_length r data
    have hback : back.length = data.length + 8 := by
      simp only [back, List.length_append, memberText_length, List.length_cons, List.length_nil]
      have : "data".toList.length = 4 := by decide
      omega
    rw [hframe, List.length_append, hback] at hlen
    have htoken := hr.token
    have hid := hr.requestId
    have hbuf : jsonBufSize = 8192 := rfl
    omega
  refine ⟨back.take (jsonBufSize - 1 - front.length), ?_, ?_⟩
  · rw [json_eq h, snprintf, hframe, List.take_append, List.take_of_length_le hfront]
    rfl
  · have hquote : back = '"' :: back.tail := rfl
    rw [hquote]
    cases jsonBufSize - 1 - front.length <;> rfl

theorem data_fits {r : AndroidRequest} (hr : r.ShortHeader) {text : Text} (h : r.dataJson = some text)
    {msg data : List (Text × Json)} (hloads : loads r.json = .ok (.obj msg))
    (hdata : Json.get? msg "data" = some (.obj data)) :
    34 + (intText r.token).length + (intText r.requestId).length + (Json.obj data).sizeAt 2 ≤
      r.json.length := by
  obtain ⟨rest, hjson, hrest⟩ := json_starts hr h
  have hread := header_read hr
  have hlong : 1 + r.header.length ≤
      ('\x7b' :: ((r.header.flatMap fun x => memberText (x.1, x.2.1) ++ [',']) ++ rest)).length := by
    simp only [AndroidRequest.header, List.flatMap_cons, List.length_cons, List.length_append,
      memberText_length, List.length_nil]
    omega
  rw [hjson] at hloads ⊢
  have hne : r.header ≠ [] := List.cons_ne_nil _ _
  obtain ⟨more, hmembers, hsize⟩ := loads_prefix hne hread hrest hlong hloads
  have hmem : ("data".toList, Json.obj data) ∈ more := by
    refine (List.mem_append.mp (mem_of_get?_ofMembers hmembers.symm hdata)).resolve_left ?_
    simp only [AndroidRequest.header, List.map_cons, List.map_nil, List.mem_cons, Prod.mk.injEq,
      List.not_mem_nil, or_false]
    rintro (⟨hkey, -⟩ | ⟨hkey, -⟩ | ⟨hkey, -⟩) <;> exact absurd hkey (by decide)
  have hone := List.single_le_sum (fun n _ => Nat.zero_le n) _
    (List.mem_map_of_mem (f := memberSize 2) hmem)
  have htotal := hsize 2
  have hheader : ((r.header.map fun x => (x.1, x.2.2)).map (memberSize 2)).sum =
      25 + (intText r.token).length + (intText r.requestId).length := by
    have hkeys : textSize "type".toList = 4 ∧ textSize "serial".toList = 6 ∧ textSize "id".toList = 2 ∧
      (intText solicited).length = 1 := by decide
    simp only [AndroidRequest.header, List.map_cons, List.map_nil, List.sum_cons, List.sum_nil,
      memberSize, Json.sizeAt]
    omega
  have hkey : memberSize 2 ("data".toList, Json.obj data) = 8 + (Json.obj data).sizeAt 2 := by
    have : textSize "data".toList = 4 := by decide
    simp only [memberSize, this]
    omega
  rw [List.map_append, List.sum_append, hheader] at htotal
  omega

/-- **The strings of a request reach the bridge exactly when they fit.** -/
theorem carries_iff {r : AndroidRequest} {cap : ℕ} {fields : Template} (hr : r.ShortHeader)
    (hfields : fields.WellFormed) (hcap : 0 < cap)
    (hdata : r.dataJson = some (snprintf cap fields.text)) : r.Carries fields ↔ r.Fits cap fields := by
  refine ⟨?_, carries_of_fits hr hfields hdata⟩
  rintro ⟨m, data, hm, -, -, -, hobj, hvalues⟩
  obtain ⟨msg, hloads, hmdata⟩ : ∃ msg, loads r.json = .ok (.obj msg) ∧
      m.data = (Json.get? msg "data").getD (.obj []) := by
    unfold BridgeMessage.deserialize at hm
    cases hv : loads r.json with
    | error e =>
        rw [hv] at hm
        cases hm
    | ok v =>
        rw [hv] at hm
        cases v with
        | obj msg =>
            obtain rfl := Except.ok.inj hm
            exact ⟨msg, rfl, rfl⟩
        | _ => cases hm
  have hget : Json.get? msg "data" = some (.obj data) := by
    rw [hobj] at hmdata
    cases hd : Json.get? msg "data" with
    | some v =>
        rw [hd] at hmdata
        exact congrArg some hmdata.symm
    | none =>
        -- an object without members has none of the fields
        rw [hd] at hmdata
        obtain rfl : data = [] := by injection hmdata
        obtain ⟨f, hf⟩ := List.exists_mem_of_ne_nil fields hfields.ne_nil
        cases hvalues f hf
  have hroom := data_fits hr hdata hloads hget
  have hsize := Template.size_le hfields.nodup hvalues
  have htext := Template.text_le_size hfields.ne_nil
  have hcut : r.json.length ≤ jsonBufSize - 1 ∧
      r.json.length ≤ (r.frameText (snprintf cap fields.text)).length := by
    rw [json_eq hdata]
    exact ⟨List.length_take_le _ _, List.length_take_le' _ _⟩
  have hprint : (snprintf cap fields.text).length ≤ cap - 1 ∧
      (snprintf cap fields.text).length ≤ fields.text.length :=
    ⟨List.length_take_le _ _, List.length_take_le' _ _⟩
  have hbuf : jsonBufSize = 8192 := rfl
  rw [frameText_length] at hcut
  refine ⟨htext.2 (by omega), by omega, ?_⟩
  rw [frameText_length]
  omega

/-- The buffer and the template of the request in a Parcel, when it has strings. -/
def requestStrings (payload : Bytes) : Option (ℕ × Template) :=
  stringRequest (parcelReadI32 payload).1 (parcelReadI32 (parcelReadI32 payload).2).2

theorem readRequest_shortHeader (payload : Bytes) : (readRequest payload).ShortHeader where
  token := parcelReadI32_short _
  requestId := parcelReadI32_short _

theorem requestStrings_carries_iff {payload : Bytes} {cap : ℕ} {fields : Template}
    (h : requestStrings payload = some (cap, fields)) :
    (readRequest payload).Carries fields ↔ (readRequest payload).Fits cap fields := by
  obtain ⟨hfields, hcap, hdata⟩ := stringRequest_wellFormed h
  exact carries_iff (readRequest_shortHeader payload) hfields hcap hdata

end VirtualPhone
