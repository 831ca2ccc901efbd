import VirtualPhone.ShimJson

/-! # The Parcels of the shim

What `ril_shim.c` reads out of the Parcels of the Android client and writes into the ones it sends:
little-endian integers and strings of UTF-16 units.  The functions `request_data_*` make the JSON
data of a request from its Parcel, the functions `response_*` fill a response Parcel from the data of
the bridge's reply.

A Parcel under construction is the list of the values written so far; `parcelBytes` lays them out. -/

namespace VirtualPhone

open Runtime

/-! ### Writing -/

/-- The four octets of an `int32_t` in memory. -/
def le32 (v : ℤ) : Bytes := (beBytes (v % 2 ^ 32).toNat 4).reverse

/-- A value written into a Parcel: `parcel_write_i32` or `parcel_write_str16`, where a string may be
null. -/
inductive ParcelItem
  | i32 (v : ℤ)
  | str16 (s : Option Text)
deriving DecidableEq

/-- `while (p->len % 4) p->buf[p->len++] = 0`. -/
def pad4 (buf : Bytes) : Bytes := buf ++ List.replicate ((4 - buf.length % 4) % 4) 0

/-- The 16-bit units of a string, one for each of its octets. -/
def units16 (s : Text) : Bytes := s.flatMap fun c => [UInt8.ofNat c.toNat, 0]

/-- The value goes to the end of the buffer. -/
def ParcelItem.write (buf : Bytes) : ParcelItem → Bytes
  | i32 v => buf ++ le32 v
  | str16 none => buf ++ le32 (-1)
  | str16 (some s) => pad4 (buf ++ le32 s.length ++ units16 s ++ [0, 0])

/-- The buffer after the values are written. -/
def parcelBytes (items : List ParcelItem) : Bytes := items.foldl ParcelItem.write []

/-! ### Reading -/

/-- The `int32_t` of four octets. -/
def fromLE32 (b : Bytes) : ℤ := (fromBE b.reverse : ℤ).bmod (2 ^ 32)

/-- `parcel_read_i32`, on the octets from the read position on. -/
def parcelReadI32 (p : Bytes) : ℤ × Bytes :=
  if p.length < 4 then (0, p) else (fromLE32 (p.take 4), p.drop 4)

/-- UTF-16 units as characters, those outside ASCII as question marks. -/
def asciiOfUnits : Bytes → Text
  | low :: high :: rest =>
      (if low.toNat + 256 * high.toNat < 128 then Char.ofNat low.toNat else '?') :: asciiOfUnits rest
  | _ => []

/-- `parcel_read_str16`. -/
def parcelReadStr16 (p : Bytes) : Option Text × Bytes :=
  let (charCount, p) := parcelReadI32 p
  if charCount < 0 then (none, p)
  else
    let padded := ((charCount.toNat + 1) * 2 + 3) / 4 * 4
    if p.length < padded then (none, [])
    else (some (asciiOfUnits (p.take (charCount.toNat * 2))), p.drop padded)

/-! ### From request Parcels to JSON -/

/-- The size of the buffers for JSON texts. -/
def jsonBufSize : ℕ := 8192

/-- A string argument of a template; a null pointer is printed as nothing. -/
def strArg (s : Option Text) : Text := cstr (s.getD [])

/-- `request_data_radio_power(req)`. -/
def requestDataRadioPower (req : Bytes) : Text :=
  let (count, req) := parcelReadI32 req
  let on := if 0 < count then (parcelReadI32 req).1 else 1
  snprintf 64 ("\x7b\"on\":".toList ++ (if on ≠ 0 then "true".toList else "false".toList) ++ ['\x7d'])

/-- `request_data_sim_io(req)`. -/
def requestDataSimIo (req : Bytes) : Text :=
  let (cmd, req) := parcelReadI32 req
  let (fileid, req) := parcelReadI32 req
  let (path, req) := parcelReadStr16 req
  let (p1, req) := parcelReadI32 req
  let (p2, req) := parcelReadI32 req
  let (p3, req) := parcelReadI32 req
  let (data, req) := parcelReadStr16 req
  let (pin2, req) := parcelReadStr16 req
  let (aid, _) := parcelReadStr16 req
  snprintf jsonBufSize
    ("\x7b\"command\":".toList ++ intText cmd ++ ",\"fileId\":".toList ++ intText fileid ++
      ",\"path\":\"".toList ++ strArg path ++ "\",\"p1\":".toList ++ intText p1 ++
      ",\"p2\":".toList ++ intText p2 ++ ",\"p3\":".toList ++ intText p3 ++
      ",\"data\":\"".toList ++ strArg data ++ "\",\"pin2\":\"".toList ++ strArg pin2 ++
      "\",\"aid\":\"".toList ++ strArg aid ++ "\"\x7d".toList)

/-- `request_data_sim_auth(req)`. -/
def requestDataSimAuth (req : Bytes) : Text :=
  let (authContext, req) := parcelReadI32 req
  let (authData, req) := parcelReadStr16 req
  let (aid, _) := parcelReadStr16 req
  snprintf jsonBufSize
    ("\x7b\"authContext\":".toList ++ intText authContext ++ ",\"authData\":\"".toList ++
      strArg authData ++ "\",\"aid\":\"".toList ++ strArg aid ++ "\"\x7d".toList)

/-- The strings of a Parcel that begins with how many there are: the first two. -/
def readTwoStrings (req : Bytes) : Option Text × Option Text :=
  let (count, req) := parcelReadI32 req
  let (first, req) := if 0 < count then parcelReadStr16 req else (none, req)
  let second := if 1 < count then (parcelReadStr16 req).1 else none
  (first, second)

/-- `request_data_send_sms(req)`. -/
def requestDataSendSms (req : Bytes) : Text :=
  let (smscPdu, pdu) := readTwoStrings req
  snprintf jsonBufSize
    ("\x7b\"smscPdu\":\"".toList ++ strArg smscPdu ++ "\",\"pdu\":\"".toList ++ strArg pdu ++
      "\"\x7d".toList)

/-- `request_data_enter_pin(req)`. -/
def requestDataEnterPin (req : Bytes) : Text :=
  let (pin, aid) := readTwoStrings req
  snprintf 256
    ("\x7b\"pin\":\"".toList ++ strArg pin ++ "\",\"aid\":\"".toList ++ strArg aid ++ "\"\x7d".toList)

/-- `request_data_dial(req)`. -/
def requestDataDial (req : Bytes) : Text :=
  let (address, req) := parcelReadStr16 req
  let (clir, _) := parcelReadI32 req
  snprintf jsonBufSize
    ("\x7b\"address\":\"".toList ++ strArg address ++ "\",\"clir\":".toList ++ intText clir ++ ['\x7d'])

/-- `request_data_hangup(req)`. -/
def requestDataHangup (req : Bytes) : Text :=
  snprintf 64 ("\x7b\"gsmIndex\":".toList ++ intText (parcelReadI32 req).1 ++ ['\x7d'])

/-- The data of a request, by its id. -/
def requestData (requestId : ℤ) (req : Bytes) : Option Text :=
  if requestId = 23 then some (requestDataRadioPower req)
  else if requestId = 28 then some (requestDataSimIo req)
  else if requestId = 125 then some (requestDataSimAuth req)
  else if requestId = 25 then some (requestDataSendSms req)
  else if requestId = 2 then some (requestDataEnterPin req)
  else if requestId = 10 then some (requestDataDial req)
  else if requestId = 12 then some (requestDataHangup req)
  else none

/-- The request of a Parcel: its id, its token and its data. -/
def readRequest (payload : Bytes) : AndroidRequest :=
  let (requestId, req) := parcelReadI32 payload
  let (token, req) := parcelReadI32 req
  { requestId, token, dataJson := requestData requestId req }

/-- `json_build(buf, cap, msg_type, serial, request_id, data_json)`. -/
def jsonBuild (cap : ℕ) (msgType serial requestId : ℤ) (dataJson : Option Text) : Text :=
  snprintf cap
    ("\x7b\"type\":".toList ++ intText msgType ++ ",\"serial\":".toList ++ intText serial ++
      ",\"id\":".toList ++ intText requestId ++ ",\"data\":".toList ++
      dataJson.getD "\x7b\x7d".toList ++ ['\x7d'])

/-- The JSON text `bridge_request` sends. -/
def AndroidRequest.json (r : AndroidRequest) : Text :=
  jsonBuild jsonBufSize 0 r.token r.requestId r.dataJson

/-! ### From JSON to response Parcels -/

section Responses

variable (data : Text)

/-- One application of `response_sim_status`. -/
def simApplication (appType : ℤ) (aid label : Text) : List ParcelItem :=
  [.i32 appType, .i32 5, .i32 0, .str16 (some aid), .str16 (some label), .i32 0, .i32 0, .i32 0]

/-- `response_sim_status(resp, data)`. -/
def responseSimStatus : List ParcelItem :=
  let cardState := jsonGetInt data "cardState".toList 0
  [.i32 cardState, .i32 5, .i32 0, .i32 (-1), .i32 1] ++
    if cardState = 1 then
      .i32 2 :: simApplication 2 "A0000000871002".toList "USIM".toList ++
        simApplication 4 "A0000000871004".toList "ISIM".toList
    else [.i32 0]

/-- A string value of the data, with what is written when there is none. -/
def strItem (key : Text) (default : Option Text) : ParcelItem :=
  .str16 ((jsonGetStr data key).or default)

/-- `response_operator(resp, data)`. -/
def responseOperator : List ParcelItem :=
  [.i32 3, strItem data "longName".toList (some "Virtual Operator".toList),
    strItem data "shortName".toList (some "Virtual".toList),
    strItem data "numeric".toList (some "00101".toList)]

/-- `response_signal_strength(resp, data)`. -/
def responseSignalStrength : List ParcelItem :=
  [.i32 99, .i32 99, .i32 (-1), .i32 (-1), .i32 (-1), .i32 (-1), .i32 (-1), .i32 15,
    .i32 (jsonGetInt data "rsrp".toList (-95)), .i32 (jsonGetInt data "rsrq".toList (-10)),
    .i32 (jsonGetInt data "rssnr".toList 100), .i32 (jsonGetInt data "cqi".toList 10),
    .i32 0, .i32 99]

/-- `response_reg_state(resp, data)`. -/
def responseRegState : List ParcelItem :=
  let number (key : Text) : ParcelItem := .str16 (some (snprintf 32 (intText (jsonGetInt data key 0))))
  let empty : ParcelItem := .str16 (some [])
  let mccmnc :=
    match jsonGetStr data "mcc".toList, jsonGetStr data "mnc".toList with
    | some mcc, some mnc => snprintf 16 (mcc ++ mnc)
    | _, _ => []
  [.i32 15, number "regState".toList, empty, empty, number "rat".toList] ++
    List.replicate 10 empty ++ [.str16 (some mccmnc)]

/-- `response_sim_io(resp, data)`. -/
def responseSimIo : List ParcelItem :=
  [.i32 (jsonGetInt data "sw1".toList 0x90), .i32 (jsonGetInt data "sw2".toList 0),
    strItem data "simResponse".toList none]

/-- `response_send_sms(resp, data)`. -/
def responseSendSms : List ParcelItem :=
  [.i32 (jsonGetInt data "messageRef".toList 0), strItem data "ackPdu".toList none,
    .i32 (jsonGetInt data "errorCode".toList 0)]

/-- One call of `response_current_calls`. -/
def callItems (callJson : Text) (i : ℕ) : List ParcelItem :=
  [.i32 (jsonGetInt callJson "state".toList 0), .i32 (jsonGetInt callJson "index".toList (i + 1)),
    .i32 145, .i32 (jsonGetBool callJson "isMpty".toList 0),
    .i32 (jsonGetBool callJson "isMT".toList 0), .i32 0, .i32 1, .i32 0,
    strItem callJson "number".toList (some []),
    .i32 (jsonGetInt callJson "numberPresentation".toList 0),
    strItem callJson "name".toList (some []), .i32 0, .i32 0]

/-- `response_current_calls(resp, data)`: one pass counts the objects, one writes them. -/
def responseCurrentCalls : List ParcelItem :=
  .i32 (jsonObjects data).length :: (jsonObjects data).zipIdx.flatMap fun call => callItems call.1 call.2

/-- `response_data_call_list(resp, data)`. -/
def responseDataCallList : List ParcelItem :=
  if jsonGetInt data "active".toList 0 = 0 ∧ strstr data "\"cid\"".toList = none then [.i32 0, .i32 0]
  else
    [.i32 11, .i32 1, .i32 0, .i32 (-1), .i32 (jsonGetInt data "cid".toList 1),
      .i32 (jsonGetInt data "active".toList 2), .str16 (some "IP".toList),
      .str16 (some "rmnet0".toList), .str16 (some "10.45.0.2".toList),
      .str16 (some "172.28.0.50".toList), .str16 (some "10.45.0.1".toList), .str16 (some []),
      .i32 1500]

/-- The response writer of a request; GET_IMSI and GET_IMEI write one string. -/
def responseData (requestId : ℤ) : List ParcelItem :=
  if requestId = 11 then [strItem data "imsi".toList none]
  else if requestId = 38 then [strItem data "imei".toList (some "358240051111110".toList)]
  else if requestId = 1 then responseSimStatus data
  else if requestId = 22 then responseOperator data
  else if requestId = 19 then responseSignalStrength data
  else if requestId = 20 ∨ requestId = 21 then responseRegState data
  else if requestId = 28 ∨ requestId = 125 then responseSimIo data
  else if requestId = 25 then responseSendSms data
  else if requestId = 9 then responseCurrentCalls data
  else if requestId = 57 then responseDataCallList data
  else []

/-- The data `send_unsolicited` writes after the indication id. -/
def indicationData (indicationId : ℤ) : List ParcelItem :=
  if indicationId = 1000 then [.i32 (jsonGetInt data "radioState".toList 10)]
  else if indicationId = 1002 then [.i32 (jsonGetBool data "isGsm".toList 0)]
  else if indicationId = 1003 then [strItem data "pdu".toList none]
  else if indicationId = 1008 then [strItem data "nitz".toList (some [])]
  else []

end Responses

/-- The response Parcel `handle_request` builds from the reply of the bridge. -/
def responseParcel (r : AndroidRequest) (respJson : Option Text) : List ParcelItem :=
  [.i32 solicited, .i32 r.token] ++
    match respJson with
    | none => [.i32 RILError.genericFailure.code]
    | some json =>
        let data := jsonFindData json
        if (strstr data "REQUEST_NOT_SUPPORTED".toList).isSome then
          [.i32 RILError.requestNotSupported.code]
        else .i32 RILError.success.code :: responseData data r.requestId

/-- The Parcel `send_unsolicited` builds. -/
def unsolicitedParcel (indicationId : ℤ) (data : Text) : List ParcelItem :=
  [.i32 unsolicited, .i32 indicationId] ++ indicationData data indicationId

/-! ### The layout of a Parcel -/

@[simp] theorem le32_length (v : ℤ) : (le32 v).length = 4 := by simp [le32]

@[simp] theorem units16_length (s : Text) : (units16 s).length = 2 * s.length := by
  simp [units16, List.length_flatMap, Nat.mul_comm]

theorem pad4_length (buf : Bytes) : buf.length ≤ (pad4 buf).length ∧ (pad4 buf).length ≤ buf.length + 3 := by
  simp only [pad4, List.length_append, List.length_replicate]
  omega

/-- The octets of a value at most. -/
def ParcelItem.size : ParcelItem → ℕ
  | i32 _ => 4
  | str16 none => 4
  | str16 (some s) => 2 * s.length + 9

@[simp] theorem ParcelItem.size_i32 (v : ℤ) : (ParcelItem.i32 v).size = 4 := rfl

@[simp] theorem ParcelItem.size_none : (ParcelItem.str16 none).size = 4 := rfl

@[simp] theorem ParcelItem.size_some (s : Text) : (ParcelItem.str16 (some s)).size = 2 * s.length + 9 :=
  rfl

/-- The octets of a Parcel at most. -/
def parcelSize (items : List ParcelItem) : ℕ := (items.map ParcelItem.size).sum

@[simp] theorem parcelSize_nil : parcelSize [] = 0 := rfl

@[simp] theorem parcelSize_cons (item : ParcelItem) (items : List ParcelItem) :
    parcelSize (item :: items) = item.size + parcelSize items :=
  List.sum_cons

@[simp] theorem parcelSize_append (items items' : List ParcelItem) :
    parcelSize (items ++ items') = parcelSize items + parcelSize items' := by
  simp [parcelSize]

theorem ParcelItem.write_extends (buf : Bytes) (item : ParcelItem) : buf <+: item.write buf := by
  rcases item with v | _ | s
  · exact List.prefix_append _ _
  · exact List.prefix_append _ _
  · simp only [ParcelItem.write, pad4, List.append_assoc]
    exact List.prefix_append _ _

theorem ParcelItem.write_length (buf : Bytes) (item : ParcelItem) :
    buf.length + 4 ≤ (item.write buf).length ∧ (item.write buf).length ≤ buf.length + item.size := by
  rcases item with v | _ | s
  · simp [ParcelItem.write, ParcelItem.size]
  · simp [ParcelItem.write, ParcelItem.size]
  · have h := pad4_length (buf ++ le32 s.length ++ units16 s ++ [0, 0])
    simp only [List.length_append, le32_length, units16_length, List.length_cons,
      List.length_nil] at h
    simp only [ParcelItem.write, ParcelItem.size]
    omega

theorem foldl_write_extends (items : List ParcelItem) (buf : Bytes) :
    buf <+: items.foldl ParcelItem.write buf := by
  induction items generalizing buf with
  | nil => exact List.prefix_refl buf
  | cons item items ih => exact (item.write_extends buf).trans (ih _)

theorem foldl_write_length (items : List ParcelItem) (buf : Bytes) :
    buf.length + 4 * items.length ≤ (items.foldl ParcelItem.write buf).length ∧
      (items.foldl ParcelItem.write buf).length ≤ buf.length + parcelSize items := by
  induction items generalizing buf with
  | nil => simp
  | cons item items ih =>
      have hitem := item.write_length buf
      have hrest := ih (item.write buf)
      simp only [List.foldl_cons, List.length_cons, parcelSize_cons]
      omega

theorem parcelBytes_header (v : ℤ) (items : List ParcelItem) :
    le32 v <+: parcelBytes (.i32 v :: items) :=
  foldl_write_extends items (le32 v)

theorem parcelBytes_length (items : List ParcelItem) :
    4 * items.length ≤ (parcelBytes items).length ∧
      (parcelBytes items).length ≤ parcelSize items := by
  simpa [parcelBytes] using foldl_write_length items []

/-! ### The size of the Parcels of the shim -/

theorem strItem_size (data key : Text) (default : Option Text) :
    (strItem data key default).size ≤ 2 * data.length + 2 * (default.getD []).length + 9 := by
  unfold strItem
  cases hstr : jsonGetStr data key with
  | some value =>
      have := jsonGetStr_length hstr
      rw [Option.some_or, ParcelItem.size_some]
      omega
  | none => cases default <;> simp

theorem strItem_size_none (data key : Text) : (strItem data key none).size ≤ 2 * data.length + 9 :=
  strItem_size data key none

theorem snprintf_length (cap : ℕ) (s : Text) : (snprintf cap s).length ≤ cap - 1 :=
  List.length_take_le _ _

theorem callItems_size (callJson : Text) (i : ℕ) :
    parcelSize (callItems callJson i) ≤ 4 * callJson.length + 62 := by
  have hnumber := strItem_size callJson "number".toList (some [])
  have hname := strItem_size callJson "name".toList (some [])
  rw [Option.getD_some, List.length_nil] at hnumber hname
  simp only [callItems, parcelSize_cons, parcelSize_nil, ParcelItem.size_i32,
      -String.reduceToList]
  omega

/-- The calls of a reply are disjoint parts of it, so their Parcels are not too large together. -/
theorem flatMap_callItems_size (objects : List Text) (n : ℕ) (htwo : ∀ o ∈ objects, 2 ≤ o.length) :
    parcelSize ((objects.zipIdx n).flatMap fun call => callItems call.1 call.2) ≤
      35 * (objects.map List.length).sum := by
  induction objects generalizing n with
  | nil => simp
  | cons o objects ih =>
      have hrest := ih (n + 1) fun o' ho' => htwo o' (List.mem_cons_of_mem o ho')
      have hcall : parcelSize (callItems (o, n).1 (o, n).2) ≤ 4 * o.length + 62 := callItems_size o n
      have ho := htwo o (List.mem_cons_self ..)
      rw [List.zipIdx_cons, List.flatMap_cons, parcelSize_append, List.map_cons, List.sum_cons]
      omega

theorem responseOperator_size (data : Text) :
    parcelSize (responseOperator data) ≤ 6 * data.length + 87 := by
  have hlong := strItem_size data "longName".toList (some "Virtual Operator".toList)
  have hshort := strItem_size data "shortName".toList (some "Virtual".toList)
  have hnumeric := strItem_size data "numeric".toList (some "00101".toList)
  have hlengths : "Virtual Operator".toList.length = 16 ∧ "Virtual".toList.length = 7 ∧
    "00101".toList.length = 5 := by decide
  simp only [Option.getD_some] at hlong hshort hnumeric
  simp only [responseOperator, parcelSize_cons, parcelSize_nil, ParcelItem.size_i32,
      -String.reduceToList]
  omega

theorem responseRegState_size (data : Text) : parcelSize (responseRegState data) ≤ 300 := by
  have hreg := snprintf_length 32 (intText (jsonGetInt data "regState".toList 0))
  have hrat := snprintf_length 32 (intText (jsonGetInt data "rat".toList 0))
  have hmccmnc (s : Text) := snprintf_length 16 s
  unfold responseRegState
  dsimp only
  rw [parcelSize_append, parcelSize_append]
  split
  · next mcc mnc hmcc hmnc =>
    have := hmccmnc (mcc ++ mnc)
    simp only [List.replicate, parcelSize_cons, parcelSize_nil, ParcelItem.size_i32,
      ParcelItem.size_some, List.length_nil]
    omega
  · simp only [List.replicate, parcelSize_cons, parcelSize_nil, ParcelItem.size_i32,
      ParcelItem.size_some, List.length_nil]
    omega

theorem responseCurrentCalls_size (data : Text) :
    parcelSize (responseCurrentCalls data) ≤ 35 * data.length + 4 := by
  obtain ⟨hsum, htwo⟩ := jsonObjects_length data
  have := flatMap_callItems_size (jsonObjects data) 0 htwo
  rw [responseCurrentCalls, parcelSize_cons, ParcelItem.size_i32]
  omega

theorem responseSimStatus_size (data : Text) : parcelSize (responseSimStatus data) ≤ 200 := by
  have happs : parcelSize (.i32 2 :: simApplication 2 "A0000000871002".toList "USIM".toList ++
    simApplication 4 "A0000000871004".toList "ISIM".toList) = 160 := by decide
  unfold responseSimStatus
  dsimp only
  split_ifs
  · rw [parcelSize_append, happs]
    simp only [parcelSize_cons, parcelSize_nil, ParcelItem.size_i32, -String.reduceToList]
    omega
  · simp only [List.cons_append, List.nil_append, parcelSize_cons, parcelSize_nil,
      ParcelItem.size_i32, -String.reduceToList]
    omega

theorem responseDataCallList_size (data : Text) : parcelSize (responseDataCallList data) ≤ 200 := by
  have hstrings : parcelSize [.str16 (some "IP".toList), .str16 (some "rmnet0".toList),
    .str16 (some "10.45.0.2".toList), .str16 (some "172.28.0.50".toList),
    .str16 (some "10.45.0.1".toList), .str16 (some []), .i32 1500] = 132 := by decide
  unfold responseDataCallList
  split_ifs
  · simp only [parcelSize_cons, parcelSize_nil, ParcelItem.size_i32,
      -String.reduceToList]
    omega
  · rw [parcelSize_cons, parcelSize_cons, parcelSize_cons, parcelSize_cons, parcelSize_cons,
      parcelSize_cons, hstrings]
    simp only [ParcelItem.size_i32]
    omega

theorem parcelSize_ite_le {p : Prop} [Decidable p] {items items' : List ParcelItem} {n : ℕ}
    (h : parcelSize items ≤ n) (h' : parcelSize items' ≤ n) :
    parcelSize (if p then items else items') ≤ n := by
  by_cases hp : p
  · rw [if_pos hp]
    exact h
  · rw [if_neg hp]
    exact h'

theorem responseData_size (data : Text) (requestId : ℤ) :
    parcelSize (responseData data requestId) ≤ 35 * data.length + 400 := by
  have himei : parcelSize [strItem data "imei".toList (some "358240051111110".toList)] ≤
      35 * data.length + 400 := by
    have := strItem_size data "imei".toList (some "358240051111110".toList)
    have hlength : "358240051111110".toList.length = 15 := by decide
    rw [Option.getD_some] at this
    rw [parcelSize_cons, parcelSize_nil]
    omega
  unfold responseData
  refine parcelSize_ite_le ?imsi <| parcelSize_ite_le himei <| parcelSize_ite_le ?simStatus <|
    parcelSize_ite_le ?operator <| parcelSize_ite_le ?signalStrength <| parcelSize_ite_le ?regState <|
    parcelSize_ite_le ?simIo <| parcelSize_ite_le ?sendSms <| parcelSize_ite_le ?currentCalls <|
    parcelSize_ite_le ?dataCallList (Nat.zero_le _)
  case imsi =>
    have := strItem_size_none data "imsi".toList
    rw [parcelSize_cons, parcelSize_nil]
    omega
  case simStatus =>
    have := responseSimStatus_size data
    omega
  case operator =>
    have := responseOperator_size data
    omega
  case signalStrength =>
    simp only [responseSignalStrength, parcelSize_cons, parcelSize_nil, ParcelItem.size_i32,
      -String.reduceToList]
    omega
  case regState =>
    have := responseRegState_size data
    omega
  case simIo =>
    have := strItem_size_none data "simResponse".toList
    simp only [responseSimIo, parcelSize_cons, parcelSize_nil, ParcelItem.size_i32,
      -String.reduceToList]
    omega
  case sendSms =>
    have := strItem_size_none data "ackPdu".toList
    simp only [responseSendSms, parcelSize_cons, parcelSize_nil, ParcelItem.size_i32,
      -String.reduceToList]
    omega
  case currentCalls =>
    have := responseCurrentCalls_size data
    omega
  case dataCallList =>
    have := responseDataCallList_size data
    omega

theorem indicationData_size (data : Text) (indicationId : ℤ) :
    parcelSize (indicationData data indicationId) ≤ 2 * data.length + 9 := by
  unfold indicationData
  split_ifs
  · simp
  · simp
  · have := strItem_size_none data "pdu".toList
    rw [parcelSize_cons, parcelSize_nil]
    omega
  · have := strItem_size data "nitz".toList (some [])
    rw [Option.getD_some, List.length_nil] at this
    rw [parcelSize_cons, parcelSize_nil]
    omega
  · exact Nat.zero_le _

end VirtualPhone
