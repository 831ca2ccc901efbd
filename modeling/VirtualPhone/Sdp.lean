import VirtualPhone.Runtime.Text

/-! # Session descriptions

The SDP of a voice call as `ims/volte.py` and `ims/media.py` write and read it: the offer a call is
made with, and the codec, the media address and the media direction looked up in what the other
side sent.  Each reader is a search for a regular expression. -/

namespace VirtualPhone

open Runtime

/-- The direction an SDP asks for, and the one a media session is in. -/
inductive MediaDirection
  | sendrecv
  | sendonly
  | recvonly
  | inactive
deriving DecidableEq, Repr

/-- The attribute value. -/
def MediaDirection.text : MediaDirection → Text
  | .sendrecv => "sendrecv".toList
  | .sendonly => "sendonly".toList
  | .recvonly => "recvonly".toList
  | .inactive => "inactive".toList

/-- `codec_map`. -/
def codecMap : List (Text × ℕ × Text) :=
  [("AMR-WB".toList, 96, "AMR-WB/16000/1".toList),
    ("AMR-NB".toList, 97, "AMR/8000/1".toList),
    ("EVS".toList, 98, "EVS/16000/1".toList),
    ("telephone-event".toList, 101, "telephone-event/8000".toList)]

/-- The payload types and names an offer lists: the known codecs in order, then the DTMF events. -/
def offeredCodecs (codecPriority : List Text) : List (ℕ × Text) :=
  (codecPriority ++ ["telephone-event".toList]).filterMap fun codec => List.lookup codec codecMap

/-- `" ".join(parts)`. -/
def joinSpaces : List Text → Text
  | [] => []
  | [t] => t
  | t :: ts => t ++ ' ' :: joinSpaces ts

/-- `build_sdp_offer(local_ip, local_port, codec_priority, direction)`. -/
def buildSdpOffer (localIp : Text) (localPort : ℕ) (codecPriority : List Text)
    (direction : MediaDirection) : Text :=
  let codecs := offeredCodecs codecPriority
  let lines := [
    "v=0".toList,
    "o=VirtualPhone 1 1 IN IP4 ".toList ++ localIp,
    "s=VoLTE Call".toList,
    "c=IN IP4 ".toList ++ localIp,
    "t=0 0".toList,
    "m=audio ".toList ++ natText localPort ++ " RTP/AVP ".toList ++
      joinSpaces (codecs.map fun c => natText c.1)] ++
    codecs.map (fun c => "a=rtpmap:".toList ++ natText c.1 ++ " ".toList ++ c.2) ++
    ["a=ptime:20".toList, "a=maxptime:240".toList, "a=".toList ++ direction.text]
  joinCrlf lines ++ crlf

/-- `_extract_codec_from_sdp(sdp)`. -/
def extractCodecFromSdp (sdp : Text) : Text :=
  let found := search (fun s => do
    let s ← dropLiteral "a=rtpmap:".toList s
    let (_, s) ← spanClass isDecimal s
    let s ← dropLiteral " ".toList s
    let (name, _) ← spanClass (!isSpace ·) s
    return name) sdp
  match found with
  | some name => name.takeWhile (· ≠ '/')
  | none => "unknown".toList

/-- `_extract_number_from_uri(uri)`. -/
def extractNumberFromUri (uri : Text) : Text :=
  let numberChar (c : Char) : Bool := c = '+' || isDecimal c
  let sip := search (fun s => do
    let s ← dropLiteral "sip:".toList s
    let (number, s) ← spanClass numberChar s
    let _ ← dropLiteral "@".toList s
    return number) uri
  let tel := search (fun s => do
    let s ← dropLiteral "tel:".toList s
    let (number, _) ← spanClass numberChar s
    return number) uri
  (sip.or tel).getD uri

/-- `parse_remote_rtp_address(sdp)`. -/
def parseRemoteRtpAddress (sdp : Text) : Except PyError (Text × ℤ) := do
  let ip := search (fun s => do
    let s ← dropLiteral "c=IN IP".toList s
    let s ← (dropLiteral "4 ".toList s).or (dropLiteral "6 ".toList s)
    let (ip, _) ← spanClass (!isSpace ·) s
    return ip) sdp
  let digits := search (fun s => do
    let s ← dropLiteral "m=audio ".toList s
    let (port, _) ← spanClass isDecimal s
    return port) sdp
  let port ← match digits with
    | some digits => pyInt digits
    | none => .ok 0
  return (ip.getD "0.0.0.0".toList, port)

theorem parseRemoteRtpAddress_error {sdp : Text} {e : PyError} (h : parseRemoteRtpAddress sdp = .error e) :
    e = intError := by
  unfold parseRemoteRtpAddress at h
  simp only at h
  split at h
  · next digits hdigits =>
      cases hport : pyInt digits with
      | ok port =>
          rw [hport] at h
          cases h
      | error e' =>
          rw [hport] at h
          obtain rfl := Except.error.inj h
          exact pyInt_error hport
  · cases h

/-- The payload type of a codec that no `rtpmap` line names. -/
def defaultPayloadType (codec : Text) : ℤ :=
  let clean := (codec.map Char.toUpper).filter fun c => c ≠ '-' && c ≠ '_'
  if clean = "AMRWB".toList then 96
  else if clean = "AMR".toList then 97
  else if clean = "EVS".toList then 98
  else 96

/-- `parse_payload_type(sdp, codec)`. -/
def parsePayloadType (sdp codec : Text) : Except PyError ℤ :=
  let digits := search (fun s => do
    let s ← dropIgnoringCase "a=rtpmap:".toList s
    let (digits, s) ← spanClass isDecimal s
    let _ ← dropIgnoringCase (' ' :: codec) s
    return digits) sdp
  match digits with
  | some digits => pyInt digits
  | none => .ok (defaultPayloadType codec)

theorem parsePayloadType_error {sdp codec : Text} {e : PyError} (h : parsePayloadType sdp codec = .error e) :
    e = intError := by
  unfold parsePayloadType at h
  simp only at h
  split at h
  · exact pyInt_error h
  · cases h

/-- The SDP puts the receiver on hold. -/
def HoldsRemotely (sdp : Text) : Prop :=
  "a=sendonly".toList <:+: sdp ∨ "a=inactive".toList <:+: sdp

/-- The SDP takes the receiver off hold: the other branch of the re-INVITE handler. -/
def ResumesRemotely (sdp : Text) : Prop := ¬HoldsRemotely sdp ∧ "a=sendrecv".toList <:+: sdp

instance (sdp : Text) : Decidable (HoldsRemotely sdp) := inferInstanceAs (Decidable (_ ∨ _))

instance (sdp : Text) : Decidable (ResumesRemotely sdp) := inferInstanceAs (Decidable (_ ∧ _))

end VirtualPhone
