import VirtualPhone.ViaHeaders

/-! # Writing and reading a SIP message

`SIPMessage.serialize` and `SIPMessage.parse` against each other, and the octets of `serialize` against
what a peer expects of them.

* `parse_undoes_serialize`: start line, headers and body of a message are read back from its octets.
  The parser cuts the whole datagram at CRLF and joins what is behind the blank line again, so a body
  may have blank lines of its own; where it is empty, the octets end behind the last header line, and
  the parser takes that end for the blank line.
* `serialize_framed_iff`: a peer that looks for the blank line and for one Content-Length with the
  length of the body finds them exactly if there is a body, and no header of another spelling. -/

namespace VirtualPhone

open Runtime

namespace SIPMessage

/-! ### The start line -/

/-- The message of a start line alone. -/
def started (m : SIPMessage) : SIPMessage :=
  if m.isRequest then { method := m.method, requestUri := m.requestUri }
  else { statusCode := m.statusCode, reasonPhrase := m.reasonPhrase }

/-- The requests and responses whose start line can be read: a method and a URI without blanks and
separators, a natural status code whose digits can be written, a reason without separators. -/
inductive Startable (m : SIPMessage) : Prop
  | request {method uri : Text} : m.method = some method → m.requestUri = some uri →
      ' ' ∉ method ∧ OneLine method ∧ ¬"SIP/2.0".toList <+: method → ' ' ∉ uri ∧ OneLine uri → Startable m
  | response {code : ℕ} {reason : Text} : m.method = none → m.statusCode = some (code : ℤ) →
      m.reasonPhrase = some reason → (natText code).length ≤ 4300 → OneLine reason → Startable m

theorem startLine_request {m : SIPMessage} {method uri : Text} (hm : m.method = some method)
    (hu : m.requestUri = some uri) :
    m.startLine = method ++ ' ' :: (uri ++ ' ' :: "SIP/2.0".toList) := by
  have hreq : m.isRequest = true := by rw [isRequest, hm]; rfl
  rw [startLine, if_pos hreq, hm, hu]
  simp only [fieldText, List.append_assoc]
  rfl

theorem startLine_response {m : SIPMessage} {code : ℕ} {reason : Text} (hm : m.method = none)
    (hc : m.statusCode = some (code : ℤ)) (hr : m.reasonPhrase = some reason) :
    m.startLine = "SIP/2.0".toList ++ ' ' :: (natText code ++ ' ' :: reason) := by
  have hreq : ¬m.isRequest = true := by rw [isRequest, hm]; decide
  have hcode : fieldText (m.statusCode.map intText) = natText code := by rw [hc]; rfl
  have hreason : fieldText m.reasonPhrase = reason := by rw [hr]; rfl
  rw [startLine, if_neg hreq, hcode, hreason, List.append_assoc, List.append_assoc]
  rfl

theorem Startable.oneLine {m : SIPMessage} (h : m.Startable) : OneLine m.startLine := by
  have hblank : ∀ {s r : Text}, OneLine s → OneLine r → r.head? ≠ some '\n' → OneLine (s ++ ' ' :: r) := by
    intro s r hs hr hhead
    refine OneLine.append_of_head hs ?_ (by simp)
    exact List.isChain_cons.mpr ⟨fun _ _ hab => absurd hab.1 (by decide), hr⟩
  cases h with
  | @request method uri hm hu hmethod huri =>
      rw [startLine_request hm hu]
      refine OneLine.append_of_head hmethod.2.1 ?_ (by simp)
      refine List.isChain_cons.mpr ⟨fun _ _ hab => absurd hab.1 (by decide), ?_⟩
      exact hblank huri.2 (by decide) (by decide)
  | @response code reason hm hc hr _ hreason =>
      rw [startLine_response hm hc hr]
      refine OneLine.append_of_head (by decide) ?_ (by simp)
      refine List.isChain_cons.mpr ⟨fun _ _ hab => absurd hab.1 (by decide), ?_⟩
      refine OneLine.append_of_head (.of_not_mem (natText_no_cr code)) ?_ (by simp)
      exact List.isChain_cons.mpr ⟨fun _ _ hab => absurd hab.1 (by decide), hreason⟩

theorem parseStartLine_startLine {m : SIPMessage} (h : m.Startable) :
    parseStartLine m.startLine = .ok m.started := by
  cases h with
  | @request method uri hm hu hmethod huri =>
      have hreq : m.isRequest = true := by rw [isRequest, hm]; rfl
      have hline := startLine_request hm hu
      have hparts : splitChar ' ' 2 m.startLine = [method, uri, "SIP/2.0".toList] := by
        rw [hline, splitChar_append hmethod.1, splitChar_append huri.1]
        rfl
      have hpre : ¬"SIP/2.0".toList <+: m.startLine := by
        rw [hline]
        exact fun hpre => hmethod.2.2 (prefix_of_prefix_blank (by decide) hpre)
      unfold parseStartLine started
      simp only [hparts, if_neg hpre, if_pos hreq, hm, hu]
      rfl
  | @response code reason hm hc hr hlen hreason =>
      have hreq : ¬m.isRequest = true := by rw [isRequest, hm]; decide
      have hline := startLine_response hm hc hr
      have hdigits : ' ' ∉ natText code := fun hmem =>
        absurd (isDigit_of_mem_natText hmem) (by decide)
      have hparts : splitChar ' ' 2 m.startLine = ["SIP/2.0".toList, natText code, reason] := by
        rw [hline, splitChar_append (by decide), splitChar_append hdigits]
        rfl
      have hpre : "SIP/2.0".toList <+: m.startLine := hline ▸ List.prefix_append _ _
      unfold parseStartLine started
      simp only [hparts, if_pos hpre, if_neg hreq, hc, hr]
      change (pyInt (natText code) >>= _) = _
      rw [pyInt_natText hlen]
      rfl

/-! ### The header lines -/

/-- The headers that are read back: no colon in the name, no separator and no blanks around name and
value. -/
structure Legible (e : Text × Text) : Prop where
  name : OneLine e.1 ∧ Trimmed e.1 ∧ ':' ∉ e.1
  value : OneLine e.2 ∧ Trimmed e.2

/-- A header line. -/
def headerLine (e : Text × Text) : Text := e.1 ++ ": ".toList ++ e.2

theorem headerBlock_eq (m : SIPMessage) :
    m.headerBlock = m.startLine :: m.finalHeaders.entries.map headerLine := rfl

theorem headerLine_ne_nil (e : Text × Text) : headerLine e ≠ [] := by
  simp [headerLine]

theorem oneLine_headerLine {e : Text × Text} (hname : OneLine e.1) (hvalue : OneLine e.2) :
    OneLine (headerLine e) := by
  have hlit : ": ".toList = [':', ' '] := rfl
  refine OneLine.append ?_ hvalue ?_
  · exact OneLine.append_of_head hname (by decide) (by decide)
  · rw [hlit, List.getLast?_append]
    simp

theorem headerField_colon {name : Text} (h : ':' ∉ name) (r : Text) :
    headerField (name ++ ':' :: r) = some (strip name, strip r) := by
  rw [headerField, splitChar_append h]
  rfl

theorem takeWhile_of_not_mem {name : Text} (h : ':' ∉ name) : name.takeWhile (· ≠ ':') = name := by
  have hname : ∀ c ∈ name, decide (c ≠ ':') = true := fun c hc =>
    decide_eq_true fun heq => h (heq ▸ hc)
  have hall : (name ++ []).takeWhile (· ≠ ':') = name ++ [].takeWhile (· ≠ ':') :=
    List.takeWhile_append_of_pos hname
  rwa [List.append_nil, List.takeWhile_nil, List.append_nil] at hall

/-- The name a peer reads in the line of a header. -/
def nameRead (name : Text) : Text := strip (name.takeWhile (· ≠ ':'))

theorem nameRead_of_legible {name : Text} (h : Trimmed name ∧ ':' ∉ name) : nameRead name = name := by
  rw [nameRead, takeWhile_of_not_mem h.2, strip_of_trimmed h.1]

theorem headerField_headerLine (e : Text × Text) : ∃ value,
    headerField (headerLine e) = some (nameRead e.1, value) ∧ (':' ∉ e.1 → value = strip e.2) := by
  have hline : headerLine e = e.1 ++ ':' :: ' ' :: e.2 := by
    rw [headerLine, List.append_assoc]
    rfl
  by_cases h : ':' ∈ e.1
  · obtain ⟨front, back, hsplit, hfront⟩ := List.eq_append_cons_of_mem h
    have hread : nameRead e.1 = strip front := by
      have hne : ∀ c ∈ front, decide (c ≠ ':') = true := fun c hc =>
        decide_eq_true fun heq => hfront (heq ▸ hc)
      rw [nameRead, hsplit, List.takeWhile_append_of_pos hne, List.takeWhile_cons_of_neg (by simp),
        List.append_nil]
    refine ⟨strip (back ++ ':' :: ' ' :: e.2), ?_, fun hn => absurd h hn⟩
    rw [hline, hread, ← headerField_colon hfront]
    conv_lhs => rw [hsplit, List.append_assoc, List.cons_append]
  · refine ⟨strip e.2, ?_, fun _ => rfl⟩
    rw [hline, headerField_colon h, nameRead, takeWhile_of_not_mem h, strip_cons_space]

theorem headerField_of_legible {e : Text × Text} (h : Legible e) : headerField (headerLine e) = some e := by
  obtain ⟨value, hfield, hvalue⟩ := headerField_headerLine e
  rw [hfield, hvalue h.name.2.2, nameRead_of_legible h.name.2, strip_of_trimmed h.value.2]

theorem legible_contentLength (n : ℕ) : Legible ("Content-Length".toList, natText n) := by
  have hname : OneLine "Content-Length".toList ∧ Trimmed "Content-Length".toList ∧
      ':' ∉ "Content-Length".toList := by decide
  refine ⟨hname, .of_not_mem (natText_no_cr n), ?_⟩
  have hblank : ∀ c ∈ natText n, isSpace c = false := by
    intro c hc
    have hdigit := (isDigit_of_mem_natText hc).toNat
    unfold isSpace
    simp only [Bool.or_eq_false_iff, Bool.and_eq_false_iff, decide_eq_false_iff_not, beq_eq_false_iff_ne]
    omega
  exact ⟨fun c hc => hblank c (List.mem_of_mem_head? hc), fun c hc => hblank c (List.mem_of_getLast? hc)⟩

theorem mem_finalHeaders {m : SIPMessage} {e : Text × Text} (h : e ∈ m.finalHeaders.entries) :
    (∃ n, e = ("Content-Length".toList, natText n)) ∨ e ∈ m.headers.entries := by
  have hset : ∀ n, e ∈ (m.headers.set "Content-Length".toList (natText n)).entries →
      (∃ n, e = ("Content-Length".toList, natText n)) ∨ e ∈ m.headers.entries := by
    intro n hmem
    have hget := (Dict.get?_eq_some_iff _ e.1 e.2).mpr hmem
    rw [Dict.get?_set] at hget
    split_ifs at hget with hk
    · exact Or.inl ⟨n, Prod.ext hk (Option.some.inj hget).symm⟩
    · exact Or.inr ((Dict.get?_eq_some_iff _ e.1 e.2).mp hget)
  unfold finalHeaders at h
  split_ifs at h
  · exact hset m.body.length h
  · exact Or.inr h
  · exact hset 0 h

/-! ### The message -/

/-- The lines of the octets: start line and headers, a blank line, and the lines of the body. -/
theorem lines_serialize {m : SIPMessage} (h : ∀ line ∈ m.headerBlock, OneLine line) :
    splitCrlf (decodeUtf8 m.serialize) = m.headerBlock ++ [] ::
      (if m.body = [] then [] else splitCrlf (decodeUtf8 m.body)) := by
  have hlines : m.headerBlock.flatMap splitCrlf = m.headerBlock := by
    have hsingle : m.headerBlock.flatMap splitCrlf = m.headerBlock.flatMap fun line => [line] :=
      List.flatMap_congr fun line hline => (h line hline).splitCrlf
    rw [hsingle, List.flatMap_singleton']
  split_ifs with hbody
  · unfold serialize
    simp only [if_neg (not_not.mpr hbody)]
    rw [decodeUtf8_encodeUtf8, splitCrlf_joinCrlf (by simp), List.flatMap_append, hlines]
    rfl
  · rw [decodeUtf8_serialize hbody, hlines]

/-- The header loop takes the header lines and stops at the blank one. -/
theorem parseHeaders_lines {entries : List (Text × Text)} (hkeys : (entries.map Prod.fst).Nodup)
    (h : ∀ e ∈ entries, Legible e) (rest : List Text) :
    parseHeaders Dict.empty (entries.map headerLine ++ [] :: rest) = (⟨entries, hkeys⟩, [] :: rest) := by
  have hne : ∀ line ∈ entries.map headerLine, line ≠ [] := by
    intro line hline
    obtain ⟨e, -, rfl⟩ := List.mem_map.mp hline
    exact headerLine_ne_nil e
  have hfold : ∀ headers : Dict Text Text, (entries.map headerLine).foldl parseHeaderLine headers =
      entries.foldl (fun d e => d.set e.1 e.2) headers := by
    clear hne hkeys
    induction entries with
    | nil => intro _; rfl
    | cons e entries ih =>
        intro headers
        rw [List.map_cons, List.foldl_cons, List.foldl_cons, parseHeaderLine_eq,
          headerField_of_legible (h e List.mem_cons_self)]
        exact ih (fun e' he' => h e' (List.mem_cons_of_mem e he')) _
  have htake : (entries.map headerLine ++ [] :: rest).takeWhile (· ≠ []) = entries.map headerLine := by
    rw [List.takeWhile_append_of_pos fun line hline => by simpa using hne line hline]
    simp
  obtain ⟨kept, hkept, hclean, -⟩ := parseHeaders_append Dict.empty (entries.map headerLine) rest
  refine Prod.ext ?_ ?_
  · rw [parseHeaders_eq, htake, hfold]
    exact Dict.ext_entries (Dict.ofList_entries hkeys)
  · rw [hkept, hclean fun hmem => hne [] hmem rfl]
    rfl

end SIPMessage

open SIPMessage

/-- **What was written is read.**  The octets of a message are read as its start line, its headers in
their order, with the Content-Length the serialiser set, and its body. -/
theorem parse_undoes_serialize {m : SIPMessage} (hstart : m.Startable)
    (hheaders : ∀ e ∈ m.headers.entries, Legible e) (hbody : ∃ text, m.body = encodeUtf8 text) :
    SIPMessage.parse m.serialize = .ok { m.started with headers := m.finalHeaders, body := m.body } := by
  have hlegible : ∀ e ∈ m.finalHeaders.entries, Legible e := by
    intro e he
    rcases mem_finalHeaders he with ⟨n, rfl⟩ | he
    · exact legible_contentLength n
    · exact hheaders e he
  have hblock : ∀ line ∈ m.headerBlock, OneLine line := by
    intro line hline
    rcases List.mem_cons.mp hline with rfl | hline
    · exact hstart.oneLine
    · obtain ⟨e, he, rfl⟩ := List.mem_map.mp hline
      exact oneLine_headerLine (hlegible e he).name.1 (hlegible e he).value.1
  have hempty : m.started.headers = Dict.empty := by
    unfold started
    split_ifs <;> rfl
  have hread : ∀ rest : List Text, rest = (if m.body = [] then [] else splitCrlf (decodeUtf8 m.body)) →
      parseBody ([] :: rest) = m.body := by
    rintro rest rfl
    obtain ⟨text, htext⟩ := hbody
    split_ifs with hb
    · exact hb.symm
    · rw [parseBody_cons _ (splitCrlf_ne_nil _), joinCrlf_splitCrlf, htext, decodeUtf8_encodeUtf8]
  rw [SIPMessage.parse, lines_serialize hblock, headerBlock_eq, List.cons_append]
  simp only [parseStartLine_startLine hstart, ok_bind, hempty,
    parseHeaders_lines m.finalHeaders.nodup hlegible, hread _ rfl]
  rfl

/-- An INVITE with a body that has a blank line and a line like a header, and with a stale
Content-Length. -/
def framedInvite : SIPMessage where
  method := some "INVITE".toList
  requestUri := some "sip:bob@ims".toList
  headers := Dict.ofList [("Content-Length".toList, "7".toList), ("Call-ID".toList, "a".toList)]
  body := encodeUtf8 "v=0\r\n\r\nTo: x".toList

/-- The message above is read back. -/
theorem parse_undoes_serialize_framedInvite :
    SIPMessage.parse framedInvite.serialize =
      .ok { framedInvite.started with
        headers := framedInvite.finalHeaders, body := framedInvite.body } := by
  refine parse_undoes_serialize (.request rfl rfl (by decide) (by decide)) ?_ ⟨_, rfl⟩
  have hentries : framedInvite.headers.entries =
      [("Content-Length".toList, "7".toList), ("Call-ID".toList, "a".toList)] :=
    Dict.ofList_entries (by decide)
  rw [hentries]
  intro e he
  rcases List.mem_pair.mp he with rfl | rfl
  · exact ⟨by decide, by decide⟩
  · exact ⟨by decide, by decide⟩

/-! ### Framing -/

/-- The octets of a message as a peer expects them that takes the names in `named` for Content-Length:
the start line and header lines with a CRLF each, an empty line, and the body; one of the header lines
is a Content-Length, and it has the length of the body. -/
def SIPMessage.Framed (named : Text → Prop) [DecidablePred named] (m : SIPMessage) : Prop :=
  ∃ lines : List Text, (∀ line ∈ m.startLine :: lines, OneLine line ∧ line ≠ []) ∧
    m.serialize = encodeUtf8 ((m.startLine :: lines).flatMap (· ++ crlf)) ++ encodeUtf8 crlf ++ m.body ∧
    ∃ name, (lines.filterMap headerField).filter (fun field => named field.1) =
      [(name, natText m.body.length)]

theorem serialize_eq (m : SIPMessage) : m.serialize =
    encodeUtf8 (m.headerBlock.flatMap (· ++ crlf)) ++
      (if m.body = [] then [] else encodeUtf8 crlf ++ m.body) := by
  unfold SIPMessage.serialize
  rw [joinCrlf_blank]
  by_cases hbody : m.body = []
  · simp [hbody]
  · simp [hbody]

theorem startLine_ne_nil (m : SIPMessage) : m.startLine ≠ [] := by
  unfold SIPMessage.startLine
  split_ifs <;> simp

theorem flatMap_crlf_inj {ls ms : List Text} (hls : ∀ line ∈ ls, OneLine line)
    (hms : ∀ line ∈ ms, OneLine line) {s : Text}
    (h : encodeUtf8 (ls.flatMap (· ++ crlf)) = encodeUtf8 (ms.flatMap (· ++ crlf) ++ s)) :
    ls ++ [[]] = ms ++ splitCrlf s := by
  have htext := congrArg decodeUtf8 h
  rw [decodeUtf8_encodeUtf8, decodeUtf8_encodeUtf8] at htext
  have hcut := congrArg splitCrlf htext
  rw [splitCrlf_flatMap_crlf hms, ← List.append_nil (ls.flatMap _), splitCrlf_flatMap_crlf hls] at hcut
  exact hcut

/-- The fields of the header lines that are taken for a Content-Length. -/
theorem fields_named (named : Text → Prop) [DecidablePred named] (entries : List (Text × Text)) :
    ∃ value : Text × Text → Text, (∀ e, ':' ∉ e.1 → value e = strip e.2) ∧
      ((entries.map headerLine).filterMap headerField).filter (fun field => named field.1) =
        (entries.filter fun e => named (nameRead e.1)).map fun e => (nameRead e.1, value e) := by
  choose value hfield hvalue using headerField_headerLine
  refine ⟨value, hvalue, ?_⟩
  have hall : entries.filterMap (headerField ∘ headerLine) = entries.map fun e => (nameRead e.1, value e) :=
    List.filterMap_eq_map_iff_forall_eq_some.mpr fun e _ => hfield e
  rw [List.filterMap_map, hall, List.filter_map]
  rfl

/-- The lines of a message without separators in its start line and headers. -/
theorem headerBlock_lines {m : SIPMessage} (hstart : OneLine m.startLine)
    (hheaders : ∀ e ∈ m.headers.entries, OneLine e.1 ∧ OneLine e.2) :
    ∀ line ∈ m.headerBlock, OneLine line ∧ line ≠ [] := by
  intro line hline
  rcases List.mem_cons.mp hline with rfl | hline
  · exact ⟨hstart, startLine_ne_nil m⟩
  · obtain ⟨e, he, rfl⟩ := List.mem_map.mp hline
    refine ⟨?_, headerLine_ne_nil e⟩
    rcases mem_finalHeaders he with ⟨n, rfl⟩ | he
    · exact oneLine_headerLine (legible_contentLength n).name.1 (legible_contentLength n).value.1
    · exact oneLine_headerLine (hheaders e he).1 (hheaders e he).2

/-- Without a body the octets end with the last header line: the blank line would be a header line. -/
theorem SIPMessage.Framed.body_ne_nil {named : Text → Prop} [DecidablePred named] {m : SIPMessage}
    (h : m.Framed named) (hblock : ∀ line ∈ m.headerBlock, OneLine line ∧ line ≠ []) : m.body ≠ [] := by
  intro hbody
  obtain ⟨lines, hlines, hdata, -⟩ := h
  rw [serialize_eq, if_pos hbody, hbody, List.append_nil, List.append_nil, ← encodeUtf8_append] at hdata
  have hcut := flatMap_crlf_inj (fun l hl => (hblock l hl).1) (fun l hl => (hlines l hl).1) hdata
  have hblank : splitCrlf crlf = [[]] ++ [[]] := rfl
  rw [hblank, ← List.append_assoc] at hcut
  have hmem : [] ∈ m.headerBlock := by
    rw [List.append_cancel_right hcut]
    simp
  exact (hblock [] hmem).2 rfl

/-- With a body, the lines of the message are the ones that were written. -/
theorem lines_eq_of_serialize {m : SIPMessage} (hne : m.body ≠ [])
    (hblock : ∀ line ∈ m.headerBlock, OneLine line ∧ line ≠ []) {lines : List Text}
    (hlines : ∀ line ∈ m.startLine :: lines, OneLine line ∧ line ≠ [])
    (hdata : m.serialize =
      encodeUtf8 ((m.startLine :: lines).flatMap (· ++ crlf)) ++ encodeUtf8 crlf ++ m.body) :
    lines = m.finalHeaders.entries.map headerLine := by
  rw [serialize_eq, if_neg hne, ← List.append_assoc] at hdata
  have htext := List.append_cancel_right (List.append_cancel_right hdata)
  rw [← List.append_nil ((m.startLine :: lines).flatMap _)] at htext
  have hcut := flatMap_crlf_inj (fun l hl => (hblock l hl).1) (fun l hl => (hlines l hl).1) htext
  have hnil : splitCrlf ([] : Text) = [[]] := rfl
  rw [hnil] at hcut
  exact (List.cons_eq_cons.mp (List.append_cancel_right hcut)).2.symm

/-- With a body, the Content-Length of the message is the length of the body. -/
theorem contentLength_mem {m : SIPMessage} (hne : m.body ≠ []) :
    ("Content-Length".toList, natText m.body.length) ∈ m.finalHeaders.entries := by
  rw [SIPMessage.finalHeaders, if_pos hne]
  exact (Dict.get?_eq_some_iff _ _ _).mp (Dict.get?_set_self _ _ _)

theorem mem_finalHeaders_of_ne {m : SIPMessage} {key value : Text}
    (h : (key, value) ∈ m.headers.entries) (hkey : key ≠ "Content-Length".toList) :
    (key, value) ∈ m.finalHeaders.entries := by
  have hset : ∀ length, (key, value) ∈ (m.headers.set "Content-Length".toList length).entries := by
    intro length
    rw [← Dict.get?_eq_some_iff, Dict.get?_set_ne _ _ hkey, Dict.get?_eq_some_iff]
    exact h
  unfold SIPMessage.finalHeaders
  split_ifs
  · exact hset _
  · exact h
  · exact hset _

theorem nameRead_contentLength : nameRead "Content-Length".toList = "Content-Length".toList := by decide

/-- **What a peer finds.**  For every set of names that has Content-Length in it, the octets of a
message without separators in its start line and headers are framed exactly if there is a body, and no
other header of the message is read under one of the names. -/
theorem serialize_framed_iff {named : Text → Prop} [DecidablePred named]
    (hnamed : named "Content-Length".toList)
    {m : SIPMessage} (hstart : OneLine m.startLine)
    (hheaders : ∀ e ∈ m.headers.entries, OneLine e.1 ∧ OneLine e.2) :
    m.Framed named ↔ m.body ≠ [] ∧
      ∀ key ∈ m.headers.keys, named (nameRead key) → key = "Content-Length".toList := by
  have hblock := headerBlock_lines hstart hheaders
  obtain ⟨value, hvalue, hfields⟩ := fields_named named m.finalHeaders.entries
  constructor
  · intro h
    have hne := h.body_ne_nil hblock
    obtain ⟨lines, hlines, hdata, name, hname⟩ := h
    refine ⟨hne, fun key hkey hkeyNamed => ?_⟩
    rw [lines_eq_of_serialize hne hblock hlines hdata, hfields] at hname
    have hlen := congrArg List.length hname
    rw [List.length_map] at hlen
    obtain ⟨only, honly⟩ := List.length_eq_one_iff.mp hlen
    have hfinal : ∀ e ∈ m.finalHeaders.entries, named (nameRead e.1) → e = only := by
      intro e he hk
      refine List.mem_singleton.mp ?_
      rw [← honly]
      exact List.mem_filter.mpr ⟨he, decide_eq_true hk⟩
    -- a second header would be the Content-Length of the message
    by_contra hother
    obtain ⟨v, hv⟩ := (m.headers.mem_keys_iff key).mp hkey
    have hentry := mem_finalHeaders_of_ne ((Dict.get?_eq_some_iff _ _ _).mp hv) hother
    have hlength := hfinal _ (contentLength_mem hne) (nameRead_contentLength.symm ▸ hnamed)
    exact hother (congrArg Prod.fst ((hfinal _ hentry hkeyNamed).trans hlength.symm))
  · rintro ⟨hne, honly⟩
    refine ⟨m.finalHeaders.entries.map headerLine, hblock, ?_, "Content-Length".toList, ?_⟩
    · rw [serialize_eq, if_neg hne, ← List.append_assoc]
      rfl
    · have hfilter : (m.finalHeaders.entries.filter fun e => named (nameRead e.1)) =
          [("Content-Length".toList, natText m.body.length)] := by
        refine Dict.filter_key (contentLength_mem hne) fun e he => ?_
        rw [decide_eq_true_eq]
        constructor
        · intro hk
          rcases mem_finalHeaders he with ⟨n, rfl⟩ | he
          · rfl
          · exact honly e.1 (Dict.mem_keys_of_mem he) hk
        · intro hk
          rw [hk, nameRead_contentLength]
          exact hnamed
      have hcolon : ':' ∉ "Content-Length".toList := by decide
      rw [hfields, hfilter, List.map_singleton, nameRead_contentLength, hvalue _ hcolon]
      exact congrArg (fun t => [("Content-Length".toList, t)])
        (strip_of_trimmed (legible_contentLength _).value.2)

/-- An INVITE with a body is framed, for a peer that ignores capital letters. -/
theorem serialize_framed_iff_framedInvite :
    framedInvite.Framed fun name => name.map Char.toLower = "content-length".toList := by
  have hentries : framedInvite.headers.entries =
      [("Content-Length".toList, "7".toList), ("Call-ID".toList, "a".toList)] :=
    Dict.ofList_entries (by decide)
  refine (serialize_framed_iff (by decide) (by decide) ?_).mpr ⟨by decide, ?_⟩
  · rw [hentries]
    decide
  · unfold Dict.keys
    rw [hentries]
    decide

/-- A request without a body: no blank line behind its headers. -/
theorem unframed_bye : ¬({ method := some "BYE".toList, requestUri := some "sip:bob@ims".toList } :
    SIPMessage).Framed (· = "Content-Length".toList) := by
  intro h
  exact h.body_ne_nil (headerBlock_lines (by decide) (by decide)) rfl

end VirtualPhone
