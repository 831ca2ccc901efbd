import VirtualPhone.Runtime.Text
import VirtualPhone.Runtime.Dict
import VirtualPhone.Runtime.Unicode

/-! # SIP messages

`SIPMessage` of `ims/sip_client.py`, its parser and its serialiser.  The parser decodes the whole
datagram to a text, cuts it into lines, takes the lines up to the first blank one as start line
and headers, and encodes the rest again as the body.  The serialiser writes start line and headers
as a text and appends the body as octets.

`parse_serialize` follows a request through both: where the header block has no blank line of its
own, the body comes back decoded and encoded; where it has one, the body comes back longer. -/

namespace VirtualPhone

open Runtime

/-- `SIPMessage`. -/
structure SIPMessage where
  method : Option Text := none
  requestUri : Option Text := none
  statusCode : Option ℤ := none
  reasonPhrase : Option Text := none
  headers : Dict Text Text := Dict.empty
  body : Bytes := []
deriving DecidableEq

namespace SIPMessage

/-- `is_request`. -/
def isRequest (m : SIPMessage) : Bool := m.method.isSome

/-- `is_response`. -/
def isResponse (m : SIPMessage) : Bool := m.statusCode.isSome

/-- `headers.get(name, "")`. -/
def header (m : SIPMessage) (name : String) : Text := (m.headers.get? name.toList).getD []

/-- `call_id`. -/
def callId (m : SIPMessage) : Text := m.header "Call-ID"

/-- `cseq`. -/
def cseq (m : SIPMessage) : Text := m.header "CSeq"

/-- `from_header`. -/
def fromHeader (m : SIPMessage) : Text := m.header "From"

/-- `to_header`. -/
def toHeader (m : SIPMessage) : Text := m.header "To"

/-! ### Parsing -/

/-- The request line or status line. -/
def parseStartLine (firstLine : Text) : Except PyError SIPMessage :=
  let parts := splitChar ' ' 2 firstLine
  if "SIP/2.0".toList <+: firstLine then do
    let code ← match parts[1]? with
      | some code => pyInt code
      | none => .error .indexError
    return { statusCode := some code, reasonPhrase := some (parts.getD 2 []) }
  else
    return { method := some (parts.headD []), requestUri := some (parts.getD 1 []) }

/-- One header line; a line without a colon is ignored. -/
def parseHeaderLine (headers : Dict Text Text) (line : Text) : Dict Text Text :=
  match splitChar ':' 1 line with
  | [name, value] => headers.set (strip name) (strip value)
  | _ => headers

/-- The header lines up to the first blank line, and the lines from there on. -/
def parseHeaders (headers : Dict Text Text) : List Text → Dict Text Text × List Text
  | [] => (headers, [])
  | [] :: rest => (headers, [] :: rest)
  | line :: rest => parseHeaders (parseHeaderLine headers line) rest

/-- The body behind the blank line. -/
def parseBody : List Text → Bytes
  | _ :: line :: rest => encodeUtf8 (joinCrlf (line :: rest))
  | _ => []

/-- `SIPMessage.parse(data)`. -/
def parse (data : Bytes) : Except PyError SIPMessage :=
  match splitCrlf (decodeUtf8 data) with
  | [] => .error (.valueError "Empty SIP message".toList)
  | firstLine :: lines => do
      let msg ← parseStartLine firstLine
      let (headers, rest) := parseHeaders msg.headers lines
      return { msg with headers := headers, body := parseBody rest }

/-! ### Serialising -/

/-- An optional field in a format string. -/
def fieldText : Option Text → Text
  | some s => s
  | none => "None".toList

/-- The request line or status line. -/
def startLine (m : SIPMessage) : Text :=
  if m.isRequest then
    fieldText m.method ++ " ".toList ++ fieldText m.requestUri ++ " SIP/2.0".toList
  else
    "SIP/2.0 ".toList ++ fieldText (m.statusCode.map intText) ++ " ".toList ++
      fieldText m.reasonPhrase

/-- The headers with the Content-Length the serialiser writes into them. -/
def finalHeaders (m : SIPMessage) : Dict Text Text :=
  if m.body ≠ [] then m.headers.set "Content-Length".toList (natText m.body.length)
  else if "Content-Length".toList ∉ m.headers.keys then
    m.headers.set "Content-Length".toList "0".toList
  else m.headers

/-- The start line and the header lines. -/
def headerBlock (m : SIPMessage) : List Text :=
  m.startLine :: m.finalHeaders.entries.map fun (name, value) => name ++ ": ".toList ++ value

/-- `serialize()`. -/
def serialize (m : SIPMessage) : Bytes :=
  let result := encodeUtf8 (joinCrlf (m.headerBlock ++ [[]]))
  if m.body ≠ [] then result ++ encodeUtf8 crlf ++ m.body else result

/-! ### Reading back what was written -/

/-- No text in the header block (a method, a URI, a header name or value) puts a blank line into it. -/
def NoBlankLine (m : SIPMessage) : Prop := [] ∉ (m.headerBlock.flatMap splitCrlf).tail

instance (m : SIPMessage) : Decidable m.NoBlankLine := inferInstanceAs (Decidable (¬ _))

theorem parseHeaders_cons (headers : Dict Text Text) {line : Text} (h : line ≠ []) (rest : List Text) :
    parseHeaders headers (line :: rest) = parseHeaders (parseHeaderLine headers line) rest := by
  cases line with
  | nil => exact absurd rfl h
  | cons c line => rfl

theorem parseHeaders_append (headers : Dict Text Text) (lines rest : List Text) :
    ∃ kept, (parseHeaders headers (lines ++ [] :: rest)).2 = [] :: (kept ++ rest) ∧
      ([] ∉ lines → kept = []) ∧ ([] ∈ lines → [] ∈ kept) := by
  induction lines generalizing headers with
  | nil => exact ⟨[], rfl, fun _ => rfl, fun h => absurd h (by simp)⟩
  | cons line lines ih =>
      by_cases h : line = []
      · subst h
        refine ⟨lines ++ [[]], by simp [parseHeaders], fun hn => absurd (by simp) hn, by simp⟩
      · obtain ⟨kept, hk, hclean, hblank⟩ := ih (parseHeaderLine headers line)
        refine ⟨kept, ?_, ?_, ?_⟩
        · rw [List.cons_append, parseHeaders_cons headers h, hk]
        · exact fun hn => hclean fun hm => hn (List.mem_cons_of_mem line hm)
        · intro hm
          exact hblank ((List.mem_cons.mp hm).resolve_left fun he => h he.symm)

theorem parseBody_cons (line : Text) {rest : List Text} (h : rest ≠ []) :
    parseBody (line :: rest) = encodeUtf8 (joinCrlf rest) := by
  cases rest with
  | nil => exact absurd rfl h
  | cons l ls => rfl

theorem decodeUtf8_serialize {m : SIPMessage} (h : m.body ≠ []) :
    splitCrlf (decodeUtf8 m.serialize) =
      m.headerBlock.flatMap splitCrlf ++ [] :: splitCrlf (decodeUtf8 m.body) := by
  have hne : m.headerBlock ++ [[]] ≠ [] := by simp
  have hcut : splitCrlf ([] : Text) = [[]] := rfl
  rw [serialize]
  simp only [if_pos h]
  rw [← encodeUtf8_append, decodeUtf8_append, splitCrlf_append, splitCrlf_joinCrlf hne,
    List.flatMap_append, List.append_assoc]
  simp [hcut]

/-- A text that begins with something else than a separator begins its first line. -/
theorem splitCrlf_cons_of_ne_cr {c : Char} (hc : c ≠ '\r') (s : Text) :
    ∃ l ls, splitCrlf (c :: s) = (c :: l) :: ls := by
  have hne : ∀ t, c :: s ≠ '\r' :: '\n' :: t := fun t heq => hc (List.cons_eq_cons.mp heq).1
  rw [splitCrlf_cons_of_ne hne]
  cases splitCrlf s with
  | nil => exact ⟨[], [], rfl⟩
  | cons l ls => exact ⟨l, ls, rfl⟩

/-- A line that begins with something else than an `S` is a request line. -/
theorem parseStartLine_request {c : Char} (hc : c ≠ 'S') (line : Text) :
    ∃ method uri, parseStartLine (c :: line) =
      .ok { method := some method, requestUri := some uri } := by
  have hpre : ¬ "SIP/2.0".toList <+: c :: line := by
    rintro ⟨t, ht⟩
    exact hc (List.cons_eq_cons.mp ht).1.symm
  exact ⟨_, _, if_neg hpre⟩

theorem length_joinCrlf_append (kept rest : List Text) (h : rest ≠ []) (hk : [] ∈ kept) :
    (encodeUtf8 (joinCrlf rest)).length < (encodeUtf8 (joinCrlf (kept ++ rest))).length := by
  have hgrow : ∀ (l : Text) (ls : List Text), ls ≠ [] →
      (encodeUtf8 (joinCrlf ls)).length + 2 ≤ (encodeUtf8 (joinCrlf (l :: ls))).length := by
    intro l ls hls
    have hcr : (encodeUtf8 crlf).length = 2 := rfl
    rw [joinCrlf_cons l hls, encodeUtf8_append, encodeUtf8_append]
    simp only [List.length_append]
    omega
  have hle : ∀ kept : List Text,
      (encodeUtf8 (joinCrlf rest)).length ≤ (encodeUtf8 (joinCrlf (kept ++ rest))).length := by
    intro kept
    induction kept with
    | nil => exact Nat.le_refl _
    | cons l ls ih =>
        have := hgrow l (ls ++ rest) (by simp [h])
        rw [List.cons_append]
        omega
  cases kept with
  | nil => cases hk
  | cons l ls =>
      have := hgrow l (ls ++ rest) (by simp [h])
      have := hle ls
      rw [List.cons_append]
      omega

/-- **What the receiver of a request sees as its body.** -/
theorem parse_serialize {m : SIPMessage} {c : Char} {method : Text} (hm : m.method = some (c :: method))
    (hc : c ≠ 'S') (hcr : c ≠ '\r') (hbody : m.body ≠ []) :
    ∃ msg, parse m.serialize = .ok msg ∧ msg.isRequest ∧
      (m.NoBlankLine → msg.body = encodeUtf8 (decodeUtf8 m.body)) ∧
      (¬ m.NoBlankLine → m.body.length < msg.body.length) := by
  have hstart : m.startLine =
      c :: (method ++ " ".toList ++ fieldText m.requestUri ++ " SIP/2.0".toList) := by
    rw [startLine, isRequest, hm]
    rfl
  obtain ⟨l, ls, hl⟩ := splitCrlf_cons_of_ne_cr hcr
    (method ++ " ".toList ++ fieldText m.requestUri ++ " SIP/2.0".toList)
  have hblock : ∃ lines, m.headerBlock.flatMap splitCrlf = (c :: l) :: lines := by
    rw [headerBlock, List.flatMap_cons, hstart, hl]
    exact ⟨_, rfl⟩
  obtain ⟨lines, hlines⟩ := hblock
  obtain ⟨method', uri, hparse⟩ := parseStartLine_request hc l
  obtain ⟨kept, hkept, hclean, hblank⟩ := parseHeaders_append
    ({ method := some method', requestUri := some uri } : SIPMessage).headers lines
    (splitCrlf (decodeUtf8 m.body))
  have hne := splitCrlf_ne_nil (decodeUtf8 m.body)
  have htail : (m.headerBlock.flatMap splitCrlf).tail = lines := by rw [hlines]; rfl
  have hrest : parseBody ([] :: (kept ++ splitCrlf (decodeUtf8 m.body))) =
      encodeUtf8 (joinCrlf (kept ++ splitCrlf (decodeUtf8 m.body))) := parseBody_cons [] (by simp [hne])
  refine ⟨{
    method := some method'
    requestUri := some uri
    headers := (parseHeaders Dict.empty (lines ++ [] :: splitCrlf (decodeUtf8 m.body))).1
    body := encodeUtf8 (joinCrlf (kept ++ splitCrlf (decodeUtf8 m.body))) }, ?_, rfl, ?_, ?_⟩
  · rw [parse, decodeUtf8_serialize hbody, hlines, List.cons_append]
    simp only [hparse, ok_bind, hkept, hrest]
    rfl
  · intro hno
    rw [NoBlankLine, htail] at hno
    rw [hclean hno, List.nil_append, joinCrlf_splitCrlf]
  · intro hno
    rw [NoBlankLine, htail, not_not] at hno
    have hlt := length_joinCrlf_append kept _ hne (hblank hno)
    have hle := length_le_encodeUtf8_decodeUtf8 m.body
    rw [joinCrlf_splitCrlf] at hlt
    exact Nat.lt_of_le_of_lt hle hlt

end SIPMessage

end VirtualPhone
