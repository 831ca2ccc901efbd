import VirtualPhone.Runtime.Params
import VirtualPhone.SmsDelivery
import VirtualPhone.VolteDialogs

/-! # The Via headers of responses

The Via headers of a request name the proxies it came through, and a response has to go back through
them.  `SIPMessage.parse` keeps the headers in a dictionary: of several lines with one name, the last
one stays.  Every response is built from that dictionary, with one line named `Via`.

`viaFields` reads the Via lines of a datagram; `via_kept_iff` compares those of a request with those of
a response. -/

namespace VirtualPhone

open Runtime

/-! ### Reading the Via lines -/

/-- The header lines of a datagram: behind its first line, up to the first blank one. -/
def headerLines (data : Bytes) : List Text :=
  ((splitCrlf (decodeUtf8 data)).drop 1).takeWhile (· ≠ [])

/-- Name and value of a header line. -/
def headerField (line : Text) : Option (Text × Text) :=
  match splitChar ':' 1 line with
  | [name, value] => some (strip name, strip value)
  | _ => none

/-- The name of a Via header, in small or capital letters, or its short form. -/
def IsVia (name : Text) : Prop := name.map Char.toLower ∈ ["via".toList, "v".toList]

instance (name : Text) : Decidable (IsVia name) := inferInstanceAs (Decidable (_ ∈ _))

/-- The Via lines of a datagram, in their order. -/
def viaFields (data : Bytes) : List (Text × Text) :=
  ((headerLines data).filterMap headerField).filter fun field => IsVia field.1

/-- The Via values of a datagram, in their order. -/
def viaValues (data : Bytes) : List Text := (viaFields data).map Prod.snd

/-- There is one Via line, and the parser knows it by its name, or it has no value. -/
def SingleVia (data : Bytes) : Prop :=
  ∃ field, viaFields data = [field] ∧ (field.1 = "Via".toList ∨ field.2 = [])

/-! ### The responses -/

/-- A response that the call manager or the SMS service builds for `msg`.  The identity in the Contact
header comes from the configuration and has no line separator. -/
inductive BuiltFor (msg : SIPMessage) : SIPMessage → Prop
  | reply (code : ℤ) {reason : String} : OneLine reason.toList →
      BuiltFor msg (response msg code reason msg.callId [] [])
  | inviteOk {cfg : VoLTEConfig} (sdp : Text) : OneLine cfg.impu →
      BuiltFor msg (response msg 200 "OK" msg.callId (inviteOkHeaders cfg) (encodeUtf8 sdp))
  | messageOk : BuiltFor msg (okResponse msg)

/-! ### Fields of lines -/

theorem headerField_eq (line : Text) : headerField line =
    match line.dropWhile (· ≠ ':') with
    | [] => none
    | _ :: value => some (strip (line.takeWhile (· ≠ ':')), strip value) := by
  unfold headerField splitChar
  cases line.dropWhile (· ≠ ':') with
  | nil => rfl
  | cons c value => rfl

theorem headerField_value {line : Text} {field : Text × Text} (h : OneLine line)
    (hfield : headerField line = some field) : OneLine field.2 ∧ Trimmed field.2 := by
  rw [headerField_eq] at hfield
  split at hfield
  · cases hfield
  · next c value hdrop =>
      obtain rfl := Option.some.inj hfield
      refine ⟨OneLine.strip (h.of_isInfix ?_), trimmed_strip value⟩
      have hsuffix : c :: value <:+ line := hdrop ▸ List.dropWhile_suffix _
      exact ((List.suffix_cons c value).trans hsuffix).isInfix

/-- What a header name is made of. -/
def IsName (name : Text) : Prop := Trimmed name ∧ ':' ∉ name ∧ '\r' ∉ name

instance (name : Text) : Decidable (IsName name) := inferInstanceAs (Decidable (_ ∧ _ ∧ _))

theorem headerField_line {name : Text} (h : IsName name) (value : Text) :
    headerField (name ++ ": ".toList ++ value) = some (name, strip value) := by
  have hne : ∀ c ∈ name, decide (c ≠ ':') = true := fun c hc =>
    decide_eq_true fun heq => h.2.1 (heq ▸ hc)
  have hlit : ": ".toList = [':', ' '] := rfl
  rw [headerField_eq, List.append_assoc, hlit, List.dropWhile_append_of_pos hne,
    List.takeWhile_append_of_pos hne]
  change some (strip (name ++ []), strip (' ' :: value)) = _
  rw [List.append_nil, strip_of_trimmed h.1, strip_cons_space]

theorem oneLine_line {name value : Text} (hname : IsName name) (hvalue : OneLine value) :
    OneLine (name ++ ": ".toList ++ value) := by
  refine OneLine.append (.of_not_mem fun h => ?_) hvalue ?_
  · rcases List.mem_append.mp h with h | h
    · exact hname.2.2 h
    · exact absurd h (by decide)
  · have hlit : ": ".toList = [':', ' '] := rfl
    rw [hlit, List.getLast?_append]
    simp

/-! ### What the parser keeps -/

/-- The header loop reads the lines up to the first blank one. -/
theorem parseHeaders_eq (headers : Dict Text Text) (lines : List Text) :
    (SIPMessage.parseHeaders headers lines).1 =
      (lines.takeWhile (· ≠ [])).foldl SIPMessage.parseHeaderLine headers := by
  induction lines generalizing headers with
  | nil => rfl
  | cons line lines ih =>
      by_cases h : line = []
      · subst h
        rfl
      · rw [SIPMessage.parseHeaders_cons headers h, ih, List.takeWhile_cons_of_pos (by simpa using h)]
        rfl

theorem parseHeaderLine_eq (headers : Dict Text Text) (line : Text) :
    SIPMessage.parseHeaderLine headers line =
      match headerField line with
      | some field => headers.set field.1 field.2
      | none => headers := by
  unfold SIPMessage.parseHeaderLine headerField splitChar
  cases line.dropWhile (· ≠ ':') with
  | nil => rfl
  | cons c value => rfl

theorem foldl_parseHeaderLine (lines : List Text) (headers : Dict Text Text) (name : Text) :
    (lines.foldl SIPMessage.parseHeaderLine headers).get? name =
      ((((lines.filterMap headerField).filter (·.1 = name)).getLast?).map Prod.snd).or
        (headers.get? name) := by
  induction lines generalizing headers with
  | nil => rfl
  | cons line lines ih =>
      rw [List.foldl_cons, ih, parseHeaderLine_eq, List.filterMap_cons]
      cases headerField line with
      | none => rfl
      | some field =>
          simp only [List.filter_cons, Dict.get?_set]
          by_cases h : field.1 = name
          · rw [if_pos h.symm, if_pos (by simpa using h), List.getLast?_cons]
            cases ((lines.filterMap headerField).filter (·.1 = name)).getLast? <;> rfl
          · rw [if_neg fun heq => h heq.symm, if_neg (by simpa using h)]

/-- A header of a parsed message is the value of the last line with its name. -/
theorem header_of_parse {data : Bytes} {msg : SIPMessage} (h : SIPMessage.parse data = .ok msg)
    (name : String) : msg.header name =
      (((((headerLines data).filterMap headerField).filter (·.1 = name.toList)).getLast?).map
        Prod.snd).getD [] := by
  unfold SIPMessage.parse at h
  split at h
  · cases h
  · next firstLine lines hlines =>
      obtain ⟨start, hstart, h⟩ := bind_eq_ok h
      have hheaders : start.headers = Dict.empty := by
        unfold SIPMessage.parseStartLine at hstart
        simp only at hstart
        split_ifs at hstart
        · split at hstart
          · obtain ⟨code, -, hstart⟩ := bind_eq_ok hstart
            rw [← Except.ok.inj hstart]
          · cases hstart
        · rw [← Except.ok.inj hstart]
      rw [← Except.ok.inj h, SIPMessage.header, headerLines, hlines]
      change ((SIPMessage.parseHeaders start.headers lines).1.get? _).getD [] = _
      rw [parseHeaders_eq, foldl_parseHeaderLine, hheaders, Dict.get?_empty, Option.or_none]
      rfl

theorem header_value {data : Bytes} {msg : SIPMessage} (h : SIPMessage.parse data = .ok msg)
    (name : String) : OneLine (msg.header name) ∧ Trimmed (msg.header name) := by
  rw [header_of_parse h]
  cases hlast : (((headerLines data).filterMap headerField).filter (·.1 = name.toList)).getLast? with
  | none => exact ⟨List.isChain_nil, nofun, nofun⟩
  | some field =>
      obtain ⟨line, hline, hfield⟩ :=
        List.mem_filterMap.mp (List.mem_filter.mp (List.mem_of_getLast? hlast)).1
      have hmem : line ∈ splitCrlf (decodeUtf8 data) :=
        List.mem_of_mem_drop (List.takeWhile_subset _ hline)
      exact headerField_value (oneLine_of_mem_splitCrlf hmem) hfield

/-! ### What the serialiser writes -/

/-- The header lines of a message whose lines have no separator are read back. -/
theorem headerLines_serialize {r : SIPMessage} (h : ∀ line ∈ r.headerBlock, OneLine line)
    (hne : ∀ line ∈ r.headerBlock.tail, line ≠ []) : headerLines r.serialize = r.headerBlock.tail := by
  have hcut : ∃ rest, splitCrlf (decodeUtf8 r.serialize) = r.headerBlock ++ [] :: rest := by
    have hlines : r.headerBlock.flatMap splitCrlf = r.headerBlock := by
      have hsingle : r.headerBlock.flatMap splitCrlf = r.headerBlock.flatMap fun line => [line] :=
        List.flatMap_congr fun line hline => (h line hline).splitCrlf
      rw [hsingle, List.flatMap_singleton']
    by_cases hbody : r.body = []
    · refine ⟨[], ?_⟩
      unfold SIPMessage.serialize
      simp only [if_neg (not_not.mpr hbody)]
      rw [decodeUtf8_encodeUtf8, splitCrlf_joinCrlf (by simp), List.flatMap_append, hlines]
      rfl
    · rw [SIPMessage.decodeUtf8_serialize hbody, hlines]
      exact ⟨_, rfl⟩
  obtain ⟨rest, hrest⟩ := hcut
  have hblock : r.headerBlock = r.startLine :: r.headerBlock.tail := rfl
  rw [headerLines, hrest, hblock, List.cons_append, List.drop_succ_cons, List.drop_zero,
    List.takeWhile_append_of_pos fun line hline => by simpa using hne line hline]
  simp

theorem viaFields_serialize {r : SIPMessage} (hstart : OneLine r.startLine)
    (h : ∀ e ∈ r.finalHeaders.entries, IsName e.1 ∧ OneLine e.2) :
    viaFields r.serialize =
      (r.finalHeaders.entries.map fun e => (e.1, strip e.2)).filter fun field => IsVia field.1 := by
  have htail : r.headerBlock.tail =
      r.finalHeaders.entries.map fun e => e.1 ++ ": ".toList ++ e.2 := rfl
  have hlines : headerLines r.serialize = r.headerBlock.tail := by
    refine headerLines_serialize (fun line hline => ?_) fun line hline => ?_
    · rcases List.mem_cons.mp hline with rfl | hline
      · exact hstart
      · obtain ⟨e, he, rfl⟩ := List.mem_map.mp hline
        exact oneLine_line (h e he).1 (h e he).2
    · rw [htail] at hline
      obtain ⟨e, he, rfl⟩ := List.mem_map.mp hline
      simp
  rw [viaFields, hlines, htail, List.filterMap_map]
  congr 1
  refine List.filterMap_eq_map_iff_forall_eq_some.mpr fun e he => ?_
  exact headerField_line (h e he).1 e.2

/-! ### Responses -/

theorem finalHeaders_entries {r : SIPMessage} (h : "Content-Length".toList ∉ r.headers.keys) :
    ∃ length, OneLine length ∧
      r.finalHeaders.entries = r.headers.entries ++ [("Content-Length".toList, length)] := by
  unfold SIPMessage.finalHeaders
  split_ifs
  · exact ⟨_, .of_not_mem (natText_no_cr _), by rw [Dict.set, dif_neg h]⟩
  · exact ⟨"0".toList, by decide, by rw [Dict.set, dif_neg h]⟩

/-- A header of a response besides the ones it copies. -/
structure IsExtra (e : Text × Text) : Prop where
  name : IsName e.1
  value : OneLine e.2
  other : ¬IsVia e.1 ∧ e.1 ≠ "Content-Length".toList

theorem BuiltFor.headers {msg r : SIPMessage} (h : BuiltFor msg r) :
    OneLine r.startLine ∧ ∃ extra, (∀ e ∈ extra, IsExtra e) ∧
      r.headers.entries = [("Via".toList, msg.header "Via"), ("From".toList, msg.header "From"),
        ("To".toList, msg.header "To"), ("Call-ID".toList, msg.header "Call-ID"),
        ("CSeq".toList, msg.header "CSeq")] ++ extra := by
  have hstart : ∀ (code : ℤ) {reason : Text}, OneLine reason →
      OneLine ("SIP/2.0 ".toList ++ intText code ++ " ".toList ++ reason) := by
    intro code reason hreason
    have hlit : " ".toList = [' '] := rfl
    refine OneLine.append (.of_not_mem fun h => ?_) hreason ?_
    · rcases List.mem_append.mp h with h | h
      · rcases List.mem_append.mp h with h | h
        · exact absurd h (by decide)
        · exact intText_no_cr code h
      · exact absurd h (by decide)
    · rw [hlit, List.getLast?_concat]
      decide
  have hok : OneLine "OK".toList := by decide
  have hnames : (["Via", "From", "To", "Call-ID", "CSeq"].map String.toList).Nodup := by decide
  have hmore : (["Via", "From", "To", "Call-ID", "CSeq", "Contact", "Content-Type"].map
    String.toList).Nodup := by decide
  cases h with
  | @reply code reason hreason =>
      exact ⟨hstart code hreason, [], by simp, Dict.ofList_entries hnames⟩
  | @inviteOk cfg sdp himpu =>
      refine ⟨hstart 200 hok, inviteOkHeaders cfg, ?_, Dict.ofList_entries hmore⟩
      have hcontact : OneLine ("<sip:".toList ++ cfg.impu ++ ">".toList) := by
        rw [List.append_assoc]
        refine OneLine.append (by decide) ?_ (by decide)
        refine List.isChain_append.mpr ⟨himpu, by decide, fun a _ b hb hab => ?_⟩
        rw [hab.2] at hb
        exact absurd hb (by decide)
      have hname : IsName "Contact".toList := by decide
      have hother : ¬IsVia "Contact".toList ∧ "Contact".toList ≠ "Content-Length".toList := by decide
      intro e he
      rcases List.mem_cons.mp he with rfl | he
      · exact ⟨hname, hcontact, hother⟩
      · rw [List.mem_singleton.mp he]
        exact ⟨by decide, by decide, by decide⟩
  | messageOk => exact ⟨hstart 200 hok, [], by simp, Dict.ofList_entries hnames⟩

/-- **A response has one Via line**, with the value the parser kept. -/
theorem viaFields_response {data : Bytes} {msg r : SIPMessage}
    (hparse : SIPMessage.parse data = .ok msg) (hr : BuiltFor msg r) :
    viaFields r.serialize = [("Via".toList, msg.header "Via")] := by
  obtain ⟨hstart, extra, hextra, hheaders⟩ := hr.headers
  have hnames : ∀ name ∈ ["Via", "From", "To", "Call-ID", "CSeq"],
      IsName name.toList ∧ name.toList ≠ "Content-Length".toList := by decide
  have hkeys : "Content-Length".toList ∉ r.headers.keys := by
    unfold Dict.keys
    rw [hheaders, List.map_append, List.mem_append]
    rintro (h | h)
    · obtain ⟨name, hname, heq⟩ := List.mem_map.mp
        (show _ ∈ ["Via", "From", "To", "Call-ID", "CSeq"].map String.toList from h)
      exact (hnames name hname).2 heq
    · obtain ⟨e, he, hname⟩ := List.mem_map.mp h
      exact (hextra e he).other.2 hname
  obtain ⟨length, hlength, hentries⟩ := finalHeaders_entries hkeys
  rw [hheaders] at hentries
  rw [viaFields_serialize hstart, hentries, List.map_append, List.map_append, List.filter_append,
    List.filter_append]
  · have hfields : (extra.map fun e => (e.1, strip e.2)).filter (fun field => IsVia field.1) = [] := by
      refine List.filter_eq_nil_iff.mpr fun field hfield => ?_
      obtain ⟨e, he, rfl⟩ := List.mem_map.mp hfield
      simpa using (hextra e he).other.1
    rw [hfields]
    change [("Via".toList, strip (msg.header "Via"))] ++ [] ++ [] = _
    rw [strip_of_trimmed (header_value hparse "Via").2]
    rfl
  · rw [hentries]
    intro e he
    rcases List.mem_append.mp he with he | he
    · rcases List.mem_append.mp he with he | he
      · obtain ⟨name, hname, rfl⟩ : ∃ name ∈ ["Via", "From", "To", "Call-ID", "CSeq"],
            (name.toList, msg.header name) = e :=
          List.mem_map.mp (show e ∈ ["Via", "From", "To", "Call-ID", "CSeq"].map
            fun name => (name.toList, msg.header name) from he)
        exact ⟨(hnames name hname).1, (header_value hparse name).1⟩
      · exact ⟨(hextra e he).name, (hextra e he).value⟩
    · have hname : IsName "Content-Length".toList := by decide
      rw [List.mem_singleton.mp he]
      exact ⟨hname, hlength⟩

/-! ### Every response is built so -/

theorem CallChange.inviteMsg {C : VoLTECall → Prop} {c c' : VoLTECall} (h : CallChange C c c') :
    c'.inviteMsg = c.inviteMsg := by
  cases h with
  | detail hsame => exact hsame.inviteMsg
  | held _ => exact VoLTECall.onMedia_inviteMsg _ _
  | released _ => exact VoLTECall.onMedia_inviteMsg _ _
  | _ => rfl

theorem VoLTECall.reinvite_inviteMsg (sdp : Text) (c : VoLTECall) :
    (c.reinvite sdp).inviteMsg = c.inviteMsg := by
  unfold VoLTECall.reinvite
  simp only
  split_ifs
  · exact VoLTECall.onMedia_inviteMsg _ _
  · exact VoLTECall.onMedia_inviteMsg _ _
  · rfl

/-- The INVITE of a call has its Call-ID. -/
def Invited (c : VoLTECall) : Prop := ∀ m ∈ c.inviteMsg, m.1.callId = c.sipCallId

/-- The table and the INVITEs of the calls are in order, and the responses sent were built for a
message. -/
structure Responds (config : VoLTEConfig) (s : Phone) : Prop where
  config : s.config = config
  keyed : s.Keyed
  invited : ∀ c ∈ s.callHeap, Invited c
  sent : ∀ m ∈ s.sent, m.1.statusCode.isSome → ∃ msg, BuiltFor msg m.1

theorem Responds.callId {config : VoLTEConfig} {s : Phone} (h : Responds config s) {msg : SIPMessage}
    {callId : Text} (hanswers : s.Answers msg callId) : callId = msg.callId := by
  rcases hanswers with heq | ⟨ref, addr, href, hmsg⟩
  · exact heq
  · obtain ⟨c, hc, hid⟩ := h.keyed callId ref href
    rw [Phone.call_eq hc] at hmsg
    rw [← hid, h.invited c (List.mem_of_getElem? hc) (msg, addr) hmsg]

theorem Responds.outgoing {config : VoLTEConfig} {s : Phone} {msg : SIPMessage} (h : Responds config s)
    (himpu : OneLine config.impu) (hout : Outgoing s msg) (hcode : msg.statusCode.isSome) :
    ∃ request, BuiltFor request msg := by
  cases hout with
  | request args _ => cases hcode
  | ack ref => cases hcode
  | reply request code hreason => exact ⟨request, .reply code hreason⟩
  | inviteOk ref hanswers =>
      rw [h.callId hanswers]
      exact ⟨_, .inviteOk _ (h.config ▸ himpu)⟩

theorem Micro.responds {C : VoLTECall → Prop} {config : VoLTEConfig} (himpu : OneLine config.impu)
    {s s' : Phone} (h : Micro C s s') (hs : Responds config s) : Responds config s' := by
  have hkeyed := h.keyed hs.keyed
  have hconfig := h.config.trans hs.config
  have haside : Aside s s' → ∀ m ∈ s'.sent, m.1.statusCode.isSome → ∃ msg, BuiltFor msg m.1 := by
    rintro ⟨hsent | ⟨msg, addr, hsent, hout⟩, -, -, -⟩ m hm hcode
    · exact hs.sent m (hsent ▸ hm) hcode
    · rw [hsent] at hm
      rcases List.mem_append.mp hm with hm | hm
      · exact hs.sent m hm hcode
      · rw [List.mem_singleton.mp hm] at hcode ⊢
        exact hs.outgoing himpu hout hcode
  cases h with
  | other hheap _ _ hother => exact ⟨hconfig, hkeyed, hheap ▸ hs.invited, haside hother⟩
  | created c hnew _ =>
      refine ⟨hconfig, hkeyed, fun x hx => ?_, hs.sent⟩
      rcases List.mem_append.mp hx with hx | hx
      · exact hs.invited x hx
      · rw [List.mem_singleton.mp hx]
        exact hnew.inviteMsg
  | deleted callId => exact ⟨hconfig, hkeyed, hs.invited, hs.sent⟩
  | popped _ => exact ⟨hconfig, hkeyed, Phone.forall_modify (fun _ _ hc => hc) hs.invited, hs.sent⟩
  | changed ref f hf hheap _ _ hother =>
      refine ⟨hconfig, hkeyed, ?_, haside hother⟩
      rw [hheap]
      refine Phone.forall_modify (fun c hc hinvited => ?_) hs.invited
      unfold Invited
      rw [(hf c hc).inviteMsg, (hf c hc).later.sipCallId]
      exact hinvited

theorem First.responds {config : VoLTEConfig} {op : Operation} {s s' : Phone} (h : First op s s')
    (hs : Responds config s) : Responds config s' := by
  have hkeyed := h.keyed hs.keyed
  cases h with
  | nothing => exact hs
  | reinvite addr _ =>
      refine ⟨hs.config, hkeyed, Phone.forall_modify (fun c _ hinvited => ?_) hs.invited, hs.sent⟩
      unfold Invited
      rw [c.reinvite_inviteMsg, (c.reinvite_later _).sipCallId]
      exact hinvited
  | @ringing s msg ref addr _ =>
      refine ⟨(Phone.ringBack_config ref s).trans hs.config, hkeyed, ?_, ?_⟩
      · rw [Phone.ringBack_callHeap]
        exact Phone.forall_modify (fun _ _ hinvited => hinvited) hs.invited
      · rw [Phone.ringBack_sent]
        exact hs.sent

/-- Every response of the call manager, in every run, is built for a message. -/
theorem sent_builtFor {config : VoLTEConfig} (himpu : OneLine config.impu) {radioHal : Bool}
    {radio : RadioHAL} {random : ℕ → Text} {es : List PhoneEvent} {p : PhonePool}
    (hr : runFrom PhonePool.step (PhonePool.initial config radioHal radio random) es = some p) :
    ∀ m ∈ p.state.sent, m.1.statusCode.isSome → ∃ msg, BuiltFor msg m.1 := by
  have hinit : Responds config (PhonePool.initial config radioHal radio random).state :=
    ⟨rfl, fun _ _ h => (by cases h), fun _ h => (by cases h), fun _ h => (by cases h)⟩
  exact (PhonePool.run_invariant (C := fun _ => True) (Micro.responds himpu)
    (fun _ hfirst => hfirst.responds) (fun _ => PhonePool.admits_true _ _)
    (PhonePool.initial_disciplined _ config radioHal radio random) hinit
    (Along.of_forall PhonePool.step (P := fun _ _ => True) (fun _ _ => trivial) _ es) hr).2.sent

/-- Nothing is sent. -/
def SameSent (s s' : MtState) : Prop := s'.sent = s.sent

/-- A response is sent, or there is no client, and what follows sends nothing. -/
theorem sent_before {rest : Py MtState Unit} (hrest : Py.Respects SameSent rest) (sipClient : Bool)
    (response : SIPMessage) (addr : Text × ℕ) (s : MtState) :
    ((if sipClient then Py.modify (·.send response addr) >>= fun _ => rest else rest).run s).2.sent =
      s.sent ++ if sipClient then [(response, addr)] else [] := by
  cases sipClient with
  | true => exact hrest (s.send response addr)
  | false =>
      change _ = s.sent ++ []
      rw [List.append_nil]
      exact hrest s

/-- The SMS service sends one response to a MESSAGE, if there is a client. -/
theorem handleSipMessage_sent (sms : SMSoverIMS) (hcallback : ∀ callback ∈ sms.mtCallback,
      ∀ a b text, Py.Respects SameSent (callback a b text))
    (msg : SIPMessage) (addr : Text × ℕ) (s : MtState) :
    ((sms.handleSipMessage msg addr).run s).2.sent =
      s.sent ++ if sms.sipClient then [(okResponse msg, addr)] else [] := by
  have hrefl : ∀ s, SameSent s s := fun _ => rfl
  have htrans : ∀ {a b c}, SameSent a b → SameSent b c → SameSent a c := fun hab hbc => hbc.trans hab
  have hcount : Py.Respects SameSent (Py.modify MtState.count) :=
    fun _ => rfl
  unfold SMSoverIMS.handleSipMessage
  dsimp only
  refine sent_before ?_ sms.sipClient (okResponse msg) addr s
  split
  · generalize (if msg.body ≠ [] then decodeUtf8 msg.body else []) = text
    split
    · next callback hcb =>
        split
        · exact Py.Respects.bind (R := SameSent) htrans (hcallback callback hcb _ _ _) fun _ => hcount
        · exact Py.Respects.pure hrefl _
    · exact Py.Respects.pure hrefl _
  · refine Py.Respects.bind (R := SameSent) htrans (Py.Respects.attempt ?_) fun _ => Py.Respects.pure hrefl _
    refine Py.Respects.bind (R := SameSent) htrans (Py.Respects.lift hrefl _) fun rpData => ?_
    split
    · refine Py.Respects.bind (R := SameSent) htrans (Py.Respects.lift hrefl _) fun deliver => ?_
      split
      · next callback hcb =>
          exact Py.Respects.bind (R := SameSent) htrans (hcallback callback hcb _ _ _) fun _ => hcount
      · exact Py.Respects.pure hrefl _
    · exact Py.Respects.pure hrefl _

/-- A response to a parsed request has the Via values of the request in the same order iff the request
has a single Via line, and that is spelled `Via` or has no value. -/
theorem BuiltFor.viaValues_iff {data : Bytes} {msg r : SIPMessage} (hr : BuiltFor msg r)
    (hparse : SIPMessage.parse data = .ok msg) : viaValues r.serialize = viaValues data ↔ SingleVia data := by
  have hresponse : viaValues r.serialize = [msg.header "Via"] := by
    rw [viaValues, viaFields_response hparse hr]
    rfl
  have hheader : msg.header "Via" =
      ((((viaFields data).filter (·.1 = "Via".toList)).getLast?).map Prod.snd).getD [] := by
    rw [header_of_parse hparse, viaFields, List.filter_filter]
    congr 3
    refine List.filter_congr fun field _ => ?_
    by_cases h : field.1 = "Via".toList
    · rw [h]
      decide
    · rw [decide_eq_false h, Bool.false_and]
  rw [hresponse]
  constructor
  · intro h
    obtain ⟨field, hfield⟩ : ∃ field, viaFields data = [field] := by
      have hlength := congrArg List.length h
      rw [viaValues, List.length_map] at hlength
      exact List.length_eq_one_iff.mp hlength.symm
    refine ⟨field, hfield, ?_⟩
    rw [viaValues, hfield] at h
    obtain ⟨hvalue, -⟩ := List.cons_eq_cons.mp h
    by_cases hname : field.1 = "Via".toList
    · exact Or.inl hname
    · rw [hheader, hfield, List.filter_cons_of_neg (by simpa using hname)] at hvalue
      exact Or.inr hvalue.symm
  · rintro ⟨field, hfield, hcause⟩
    rw [viaValues, hfield, hheader, hfield]
    by_cases hname : field.1 = "Via".toList
    · rw [List.filter_cons_of_pos (by simpa using hname)]
      rfl
    · rw [List.filter_cons_of_neg (by simpa using hname), List.map_singleton,
        hcause.resolve_left hname]
      rfl

/-- **The Via headers come back exactly where there is one.**  Every response built for a parsed request
has the Via values of the request in the same order iff the request has a single Via line, and that is
spelled `Via` or has no value.  Whatever the call manager sends as a response, in every run, is built for
a message, and what the SMS service sends for a message is built for that one. -/
theorem via_kept_iff (data : Bytes) :
    (∀ {msg r : SIPMessage}, SIPMessage.parse data = .ok msg → BuiltFor msg r →
      (viaValues r.serialize = viaValues data ↔ SingleVia data)) ∧
    (∀ {config : VoLTEConfig} {radioHal : Bool} {radio : RadioHAL} {random : ℕ → Text}
      {es : List PhoneEvent} {p : PhonePool}, OneLine config.impu →
      runFrom PhonePool.step (PhonePool.initial config radioHal radio random) es = some p →
      ∀ m ∈ p.state.sent, m.1.statusCode.isSome → ∃ msg, BuiltFor msg m.1) ∧
    ∀ (sms : SMSoverIMS) (msg : SIPMessage) (addr : Text × ℕ) (s : MtState),
      (∀ callback ∈ sms.mtCallback, ∀ a b text, Py.Respects SameSent (callback a b text)) →
      ∃ sent, ((sms.handleSipMessage msg addr).run s).2.sent = s.sent ++ sent ∧
        ∀ m ∈ sent, BuiltFor msg m.1 := by
  refine ⟨fun hparse hr => hr.viaValues_iff hparse, fun himpu hr => sent_builtFor himpu hr, ?_⟩
  intro sms msg addr s hcallback
  refine ⟨_, handleSipMessage_sent sms hcallback msg addr s, fun m hm => ?_⟩
  split_ifs at hm
  · obtain rfl := List.mem_singleton.mp hm
    exact .messageOk
  · cases hm

/-- A BYE that came through one proxy. -/
def oneVia : Bytes :=
  encodeUtf8 "BYE sip:a SIP/2.0\r\nVia: SIP/2.0/UDP p1\r\nCall-ID: c\r\n\r\n".toList

/-- A BYE that came through two proxies. -/
def twoVias : Bytes :=
  encodeUtf8 ("BYE sip:a SIP/2.0\r\nVia: SIP/2.0/UDP p2\r\nVia: SIP/2.0/UDP p1\r\n" ++
    "Call-ID: c\r\n\r\n").toList

/-- The parser's reading of a datagram that is a request. -/
def parsed (data : Bytes) : SIPMessage := (SIPMessage.parse data).toOption.getD {}

theorem via_kept_of_one : SingleVia oneVia ∧
    viaValues (response (parsed oneVia) 200 "OK" (parsed oneVia).callId [] []).serialize =
      viaValues oneVia := by
  have hparse : SIPMessage.parse oneVia = .ok (parsed oneVia) := by decide +kernel
  have hsingle : SingleVia oneVia := ⟨("Via".toList, "SIP/2.0/UDP p1".toList), by decide +kernel⟩
  exact ⟨hsingle, ((via_kept_iff oneVia).1 hparse (.reply 200 (by decide))).mpr hsingle⟩

/-- The phone answers a BYE that came through two proxies, and one of them is missing. -/
theorem via_lost : SIPMessage.parse twoVias = .ok (parsed twoVias) ∧
    viaValues twoVias = ["SIP/2.0/UDP p2".toList, "SIP/2.0/UDP p1".toList] ∧
    ∃ p, runFrom PhonePool.step testPhone
        [.spawn .start, .spawn (.incoming (parsed twoVias) ("pcscf".toList, 5060))] = some p ∧
      ∃ m ∈ p.state.sent, m.1.statusCode = some 200 ∧
        viaValues m.1.serialize = ["SIP/2.0/UDP p1".toList] :=
  ⟨by decide +kernel, by decide +kernel, exists_run PhonePool.step (by decide +kernel)⟩

end VirtualPhone
