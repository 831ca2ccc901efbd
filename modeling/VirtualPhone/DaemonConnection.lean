import VirtualPhone.UntypedDaemon

/-! # A connection of the eUICC daemon

`_handle_client` of `euicc/daemon.py` reads frames, a length of four octets and a JSON text each, and
writes a frame back for each of them.  `_process_message` answers two kinds of mistakes with an error
response, an unknown type and the credentials of a profile there is not.  Every other mistake raises:
the loop ends, and the connection with it.

`one_response_each_iff` says that a client gets a response for each of its frames, and keeps its
connection, exactly when each of them is an object that is answered, in less than 4 GiB.  What is in the
frames is not restricted; the JSON library and the file system are parameters. -/

namespace VirtualPhone

namespace Untyped

open Runtime

/-- What `json.loads(data)` and `json.dumps(value).encode()` return. -/
structure JsonLibrary (F : Type) where
  loads : Bytes → Except PyError (PyValue F)
  dumps : PyValue F → Except PyError Bytes

/-- How `_handle_client` comes to its end: the client has closed the connection, or a frame is too
large, or an exception. -/
inductive ConnectionEnd
  | disconnected
  | tooLarge
  | error (e : PyError)
deriving DecidableEq, Repr

/-- What is around a connection: the identifiers that are drawn, and what other clients and the file
system do to the daemon before message `i`. -/
structure Surroundings (F φ : Type) where
  uuid : ℕ → Text
  meanwhile : ℕ → Daemon F φ → Daemon F φ

/-- `reader.readexactly(n)`, and what is left to read; `none` where the client closes before. -/
def readexactly (n : ℕ) (input : Bytes) : Option (Bytes × Bytes) :=
  if n ≤ input.length then some (input.take n, input.drop n) else none

/-- A text with its length in front. -/
def lengthPrefixed (payload : Bytes) : Bytes := beBytes payload.length 4 ++ payload

theorem readexactly_length {n : ℕ} {input data rest : Bytes}
    (h : readexactly n input = some (data, rest)) :
    rest.length + n = input.length := by
  unfold readexactly at h
  split_ifs at h with hn
  obtain ⟨-, rfl⟩ := Prod.mk.inj (Option.some.inj h)
  rw [List.length_drop]
  omega

theorem readexactly_append (data rest : Bytes) :
    readexactly data.length (data ++ rest) = some (data, rest) := by
  unfold readexactly
  rw [if_pos (by simp), List.take_left, List.drop_left]

variable {F φ : Type} [DecidableEq F]

section

variable (aes : Bytes → Block → Block) (L : PyLibrary F) (fs : FileSystem F φ) (J : JsonLibrary F)
  (E : Surroundings F φ)

/-- What is written for a message: `json.loads`, `_process_message`, `json.dumps` and the length. -/
def respond (uuid : Text) (payload : Bytes) : Py (Daemon F φ) Bytes := do
  let msg ← Py.lift (J.loads payload)
  match msg with
  | .dict fields => do
      let response ← Daemon.processMessage aes L fs uuid fields
      let respBytes ← Py.lift (J.dumps (.dict response))
      let length ← Py.lift (toBE respBytes.length 4)
      return length ++ respBytes
  | _ => Py.raise .attributeError

/-- `_handle_client(reader, writer)`: what is written, and how the loop ends. -/
def handleClient (i : ℕ) (input : Bytes) (d : Daemon F φ) : Bytes × ConnectionEnd :=
  match _h₁ : readexactly 4 input with
  | none => ([], .disconnected)
  | some (lengthBytes, rest) =>
      if 65536 < fromBE lengthBytes then ([], .tooLarge)
      else
        match _h₂ : readexactly (fromBE lengthBytes) rest with
        | none => ([], .disconnected)
        | some (payload, rest) =>
            match (respond aes L fs J (E.uuid i) payload).run (E.meanwhile i d) with
            | (.ok reply, d) =>
                let (written, ending) := handleClient (i + 1) rest d
                (reply ++ written, ending)
            | (.error e, _) => ([], .error e)
termination_by input.length
decreasing_by
  have hhead := readexactly_length _h₁
  have hbody := readexactly_length _h₂
  omega

end

/-- A frame of a client, of at most 65536 octets. -/
structure ClientFrame where
  payload : Bytes
  size : payload.length ≤ 65536

/-- What goes over the socket. -/
def ClientFrame.bytes (f : ClientFrame) : Bytes := lengthPrefixed f.payload

section

variable (aes : Bytes → Block → Block) (L : PyLibrary F) (fs : FileSystem F φ) (J : JsonLibrary F)
  (E : Surroundings F φ)

theorem handleClient_nil (i : ℕ) (d : Daemon F φ) :
    handleClient aes L fs J E i [] d = ([], .disconnected) := by
  rw [handleClient]
  rfl

theorem handleClient_frame (i : ℕ) (f : ClientFrame) (input : Bytes) (d : Daemon F φ) :
    handleClient aes L fs J E i (f.bytes ++ input) d =
      match (respond aes L fs J (E.uuid i) f.payload).run (E.meanwhile i d) with
      | (.ok reply, d') => (reply ++ (handleClient aes L fs J E (i + 1) input d').1,
          (handleClient aes L fs J E (i + 1) input d').2)
      | (.error e, _) => ([], .error e) := by
  have hhead : readexactly 4 (f.bytes ++ input) =
      some (beBytes f.payload.length 4, f.payload ++ input) := by
    have hlength := beBytes_length f.payload.length 4
    rw [ClientFrame.bytes, lengthPrefixed, List.append_assoc]
    conv_lhs => rw [← hlength]
    exact readexactly_append _ _
  have hsize : fromBE (beBytes f.payload.length 4) = f.payload.length := by
    rw [fromBE_beBytes]
    exact Nat.mod_eq_of_lt (lt_of_le_of_lt f.size (by decide))
  have hbody : readexactly (fromBE (beBytes f.payload.length 4)) (f.payload ++ input) =
      some (f.payload, input) := by
    rw [hsize]
    exact readexactly_append _ _
  rw [handleClient]
  split
  · next h =>
      rw [hhead] at h
      cases h
  · next lengthBytes rest h =>
      obtain ⟨rfl, rfl⟩ := Prod.mk.inj (Option.some.inj (hhead.symm.trans h))
      rw [if_neg (not_lt.mpr (hsize.trans_le f.size))]
      split
      · next h =>
          rw [hbody] at h
          cases h
      · next payload rest h =>
          obtain ⟨rfl, rfl⟩ := Prod.mk.inj (Option.some.inj (hbody.symm.trans h))
          rfl

/-! ### One response for each frame -/

/-- The response to a message of a client, as the text that is sent. -/
def RespondsWith (i : ℕ) (d : Daemon F φ) (f : ClientFrame) (respBytes : Bytes) : Prop :=
  ∃ fields, J.loads f.payload = .ok (.dict fields) ∧
    ∃ response, (E.meanwhile i d).Answers aes L fs (E.uuid i) fields response ∧
      J.dumps (.dict response) = .ok respBytes ∧ respBytes.length < 2 ^ 32

/-- The frame is a JSON object with an answer, and the JSON text of the answer has less than 4 GiB. -/
def Served (i : ℕ) (d : Daemon F φ) (f : ClientFrame) : Prop :=
  ∃ respBytes, RespondsWith aes L fs J E i d f respBytes

theorem respond_result (i : ℕ) (d : Daemon F φ) (f : ClientFrame) (reply : Bytes) :
    (respond aes L fs J (E.uuid i) f.payload).result? (E.meanwhile i d) = some reply ↔
      ∃ respBytes, RespondsWith aes L fs J E i d f respBytes ∧ reply = lengthPrefixed respBytes := by
  have hlength : ∀ respBytes length : Bytes, toBE respBytes.length 4 = .ok length ↔
      respBytes.length < 2 ^ 32 ∧ length = beBytes respBytes.length 4 := by
    intro respBytes length
    unfold toBE
    split
    · rename_i h
      exact ⟨fun hok => ⟨h, (Except.ok.inj hok).symm⟩, fun hok => congrArg _ hok.2.symm⟩
    · rename_i h
      exact iff_of_false (fun hok => by cases hok) fun hok => h hok.1
  unfold respond RespondsWith
  rw [Py.result?_lift_bind_eq_some_iff]
  constructor
  · rintro ⟨msg, hloads, h⟩
    cases msg with
    | scalar v => cases h
    | list items => cases h
    | dict fields =>
        obtain ⟨response, hresponse, h⟩ := Py.result?_bind_eq_some_iff.mp h
        obtain ⟨respBytes, hdumps, h⟩ := Py.result?_lift_bind_eq_some_iff.mp h
        obtain ⟨length, htoBE, h⟩ := Py.result?_lift_bind_eq_some_iff.mp h
        obtain ⟨hlt, rfl⟩ := (hlength respBytes length).mp htoBE
        have hanswers := (Daemon.processMessage_answers aes (E.uuid i) _ fields response).mp hresponse
        exact ⟨respBytes, ⟨fields, hloads, response, hanswers, hdumps, hlt⟩, (Option.some.inj h).symm⟩
  · rintro ⟨respBytes, ⟨fields, hloads, response, hanswers, hdumps, hlt⟩, rfl⟩
    refine ⟨.dict fields, hloads, ?_⟩
    have hresponse := (Daemon.processMessage_answers aes (E.uuid i) _ fields response).mpr hanswers
    refine Py.result?_bind_eq_some_iff.mpr ⟨response, hresponse, ?_⟩
    refine Py.result?_lift_bind_eq_some_iff.mpr ⟨respBytes, hdumps, ?_⟩
    exact Py.result?_lift_bind_eq_some_iff.mpr ⟨_, (hlength respBytes _).mpr ⟨hlt, rfl⟩, rfl⟩

/-- The daemon after message `i`. -/
def connectionStep : ℕ × Daemon F φ → ClientFrame → Option (ℕ × Daemon F φ)
  | (i, d), f => some (i + 1, ((respond aes L fs J (E.uuid i) f.payload).run (E.meanwhile i d)).2)

/-- The client gets a response for each of its frames, in their order, and its connection is open until
it closes it. -/
def OneResponseEach (frames : List ClientFrame) (out : Bytes × ConnectionEnd) : Prop :=
  out.2 = .disconnected ∧ ∃ responses : List Bytes, responses.length = frames.length ∧
    (∀ respBytes ∈ responses, ∃ response, J.dumps (.dict response) = .ok respBytes) ∧
    out.1 = responses.flatMap lengthPrefixed

theorem served_connection {i : ℕ} {d : Daemon F φ} {frames : List ClientFrame}
    (h : Along (connectionStep aes L fs J E) (fun s f => Served aes L fs J E s.1 s.2 f) (i, d) frames) :
    OneResponseEach J frames (handleClient aes L fs J E i (frames.flatMap ClientFrame.bytes) d) := by
  induction frames generalizing i d with
  | nil =>
      rw [List.flatMap_nil, handleClient_nil]
      exact ⟨rfl, [], rfl, fun respBytes hmem => absurd hmem List.not_mem_nil, rfl⟩
  | cons f frames ih =>
      obtain ⟨respBytes, hresponds⟩ := h.1
      have hreply := (respond_result aes L fs J E i d f _).mpr ⟨respBytes, hresponds, rfl⟩
      obtain ⟨hend, responses, hlength, hjson, hwritten⟩ := ih (h.2 _ rfl)
      rw [List.flatMap_cons, handleClient_frame]
      cases hrun : (respond aes L fs J (E.uuid i) f.payload).run (E.meanwhile i d) with
      | mk r d' =>
          rw [hrun] at hend hwritten
          have hr := Py.result?_eq_some_iff.mp hreply
          rw [hrun] at hr
          obtain rfl : r = .ok (lengthPrefixed respBytes) := hr
          refine ⟨hend, respBytes :: responses, congrArg (· + 1) hlength, ?_, ?_⟩
          · rw [List.forall_mem_cons]
            obtain ⟨fields, -, response, -, hdumps, -⟩ := hresponds
            exact ⟨⟨response, hdumps⟩, hjson⟩
          · rw [List.flatMap_cons]
            exact congrArg (lengthPrefixed respBytes ++ ·) hwritten

theorem open_connection {i : ℕ} {d : Daemon F φ} {frames : List ClientFrame}
    (h : (handleClient aes L fs J E i (frames.flatMap ClientFrame.bytes) d).2 = .disconnected) :
    Along (connectionStep aes L fs J E) (fun s f => Served aes L fs J E s.1 s.2 f) (i, d) frames := by
  induction frames generalizing i d with
  | nil => trivial
  | cons f frames ih =>
      rw [List.flatMap_cons, handleClient_frame] at h
      cases hrun : (respond aes L fs J (E.uuid i) f.payload).run (E.meanwhile i d) with
      | mk r d' =>
          rw [hrun] at h
          cases r with
          | error e => cases h
          | ok reply =>
              have hreply := Py.result?_eq_some_iff.mpr (congrArg Prod.fst hrun)
              obtain ⟨respBytes, hresponds, -⟩ := (respond_result aes L fs J E i d f reply).mp hreply
              refine ⟨⟨respBytes, hresponds⟩, fun s' hs' => ?_⟩
              obtain rfl := Option.some.inj hs'
              rw [hrun]
              exact ih h

/-- **One response for each request.**  For every sequence of frames on a connection, whatever is in
them, whatever the state of the daemon and whatever other clients and the file system do: the client
gets one response for each frame and keeps its connection exactly when every frame is served. -/
theorem one_response_each_iff (d : Daemon F φ) (frames : List ClientFrame) :
    OneResponseEach J frames (handleClient aes L fs J E 0 (frames.flatMap ClientFrame.bytes) d) ↔
      Along (connectionStep aes L fs J E) (fun s f => Served aes L fs J E s.1 s.2 f) (0, d) frames :=
  ⟨fun h => open_connection aes L fs J E h.1, served_connection aes L fs J E⟩

end

/-- The JSON text of a request to enable profile "1". -/
def enableText : Bytes := encodeUtf8 "\x7b\"type\": \"enable_profile\", \"iccid\": \"1\"\x7d".toList

/-- The library on this text, and on the response to it. -/
def enableLibrary : JsonLibrary Empty where
  loads data := if data = enableText then
      .ok (.dict (entries [("type", .text "enable_profile".toList), ("iccid", .text "1".toList)]))
    else .error (.valueError [])
  dumps _ := .ok (encodeUtf8 "\x7b\"type\": \"result\", \"success\": true\x7d".toList)

/-- The request in a frame. -/
def enableFrame : ClientFrame where
  payload := enableText
  size := by decide +kernel

/-- No other clients, and no failures. -/
def quiet : Surroundings Empty Unit where
  uuid _ := []
  meanwhile _ := id

/-- The connection on which the request comes to a daemon without profiles. -/
def enableConnection : Bytes × ConnectionEnd :=
  handleClient ApduHandler.plainCipher noFloats willing enableLibrary quiet 0
    ([enableFrame].flatMap ClientFrame.bytes) { storage := Storage.start ['8'] () }

/-- A profile there is not: the connection ends without a response. -/
theorem unknown_iccid_closes :
    enableConnection = ([], .error (.keyError "Profile 1 not found".toList)) ∧
      ¬OneResponseEach enableLibrary [enableFrame] enableConnection := by
  have hraise : ((respond ApduHandler.plainCipher noFloats willing enableLibrary [] enableText).run
      { storage := Storage.start ['8'] () }).1 = .error (.keyError "Profile 1 not found".toList) := by
    decide +kernel
  have hrun : enableConnection = ([], .error (.keyError "Profile 1 not found".toList)) := by
    rw [enableConnection, List.flatMap_cons, handleClient_frame]
    cases hr : (respond ApduHandler.plainCipher noFloats willing enableLibrary (quiet.uuid 0)
      enableFrame.payload).run (quiet.meanwhile 0 { storage := Storage.start ['8'] () }) with
    | mk r d' =>
        obtain rfl : r = .error (.keyError "Profile 1 not found".toList) :=
          (congrArg Prod.fst hr).symm.trans hraise
        rfl
  refine ⟨hrun, fun h => ?_⟩
  rw [hrun] at h
  cases h.1

end Untyped

end VirtualPhone
