import VirtualPhone.RtpDiscipline
import Mathlib.Data.List.TakeWhile

/-! # A digit is sent as a whole, or it fails (`ims/media.py`, `ims/codec.py`)

`sendDtmf` derives three durations from one and packs each into a field of two octets when its packet is
due.  What goes out is the longest beginning of the five packets whose durations fit
(`sendEvents_run`); the call raises exactly if one does not.  A duration that does not fit only at the
end leaves the receiver with an event that never ends.

The source divides `duration_ms * clock_rate` by 1000 as floating-point numbers and cuts the quotient;
up to 65536 that is the quotient of the integers, and a larger quotient stays larger than 65535. -/

namespace VirtualPhone

open Runtime

namespace Rtp

/-! ### Packets that went out -/

/-- The session when the datagrams were handed to its transport, if there is one, and counted. -/
def MediaSession.emitting (raws : List Bytes) (m : MediaSession) : MediaSession :=
  { m with
    seq := m.seq + raws.length
    sent := if m.transport then m.sent ++ raws else m.sent
    packetsSent := m.packetsSent + raws.length
    bytesSent := m.bytesSent + (raws.map List.length).sum }

namespace MediaSession

theorem emitting_nil (m : MediaSession) : m.emitting [] = m := by
  simp [emitting]

theorem emitting_append (raws raws' : List Bytes) (m : MediaSession) :
    (m.emitting raws).emitting raws' = m.emitting (raws ++ raws') := by
  cases htransport : m.transport
  · simp [emitting, htransport, Nat.add_assoc]
  · simp [emitting, htransport, Nat.add_assoc]

end MediaSession

/-- The telephone event of a datagram. -/
def eventOf (data : Bytes) : Option DTMFEvent :=
  match RTPPacket.fromBytes data with
  | .error _ => none
  | .ok packet =>
      if packet.payloadType = ptTelephoneEvent then (DTMFEvent.fromRtpPayload packet.payload).toOption else none

/-! ### One packet -/

section

variable {event : DTMFEvent} (marker : Bool) (m : MediaSession)

theorem sendDtmfPacket_fits (hevent : event.event < 256) (hvolume : event.volume < 64)
    (hduration : event.duration < 65536) :
    ∃ raw, (MediaSession.sendDtmfPacket event marker).run m = (.ok (), m.emitting [raw]) ∧
      eventOf raw = some event := by
  obtain ⟨payload, hpayload, hread⟩ := DTMFEvent.fromRtpPayload_toRtpPayload hevent hvolume hduration
  have hplain : (m.packet marker ptTelephoneEvent payload).Plain := ⟨rfl, rfl, rfl, rfl, Nat.zero_lt_succ _⟩
  refine ⟨(m.packet marker ptTelephoneEvent payload).image, ?_, ?_⟩
  · unfold MediaSession.sendDtmfPacket
    rw [Py.run_get_bind, hpayload, Py.run_lift_ok_bind, Py.run_modify_bind, hplain.toBytes]
    rfl
  · unfold eventOf
    rw [RTPPacket.fromBytes_image hplain]
    show (if ptTelephoneEvent % 128 = ptTelephoneEvent then
      (DTMFEvent.fromRtpPayload payload).toOption else none) = some event
    rw [if_pos (by decide), hread]
    rfl

/-- An event that lasts too long is refused by `struct.pack`, before anything is counted. -/
theorem sendDtmfPacket_long (hduration : 65536 ≤ event.duration) :
    ∃ e, (MediaSession.sendDtmfPacket event marker).run m = (.error e, m) := by
  have hpack : ∃ e, event.toRtpPayload = .error e := by
    have hrefused : packBE event.duration 2 =
        .error (.exception "struct.error".toList "argument out of range".toList) := if_neg (by omega)
    unfold DTMFEvent.toRtpPayload
    cases hb0 : packBE (event.event &&& 0xFF) 1 with
    | error e => exact ⟨e, rfl⟩
    | ok b0 =>
        cases hb1 : packBE (event.isEnd.toNat <<< 7 ||| event.volume &&& 0x3F) 1 with
        | error e => exact ⟨e, by rw [ok_bind, hb1, error_bind]⟩
        | ok b1 =>
            rw [ok_bind, hb1, ok_bind, hrefused]
            exact ⟨_, rfl⟩
  obtain ⟨e, hpack⟩ := hpack
  refine ⟨e, ?_⟩
  unfold MediaSession.sendDtmfPacket
  rw [Py.run_get_bind, hpack]
  rfl

end

/-! ### The five packets -/

/-- The packets `send_dtmf` makes of a digit that lasts for `samples`, with their marker bits. -/
def dtmfPlan (digit : Text) (samples : ℕ) : List (DTMFEvent × Bool) :=
  let event := DTMFEvent.fromDigit digit (samples / 3) false
  let ended := { event with isEnd := true, duration := samples }
  [(event, true), ({ event with duration := samples * 2 / 3 }, false), (ended, false), (ended, false),
    (ended, false)]

/-- One packet after the other. -/
def sendEvents : List (DTMFEvent × Bool) → Py MediaSession Unit
  | [] => pure ()
  | (event, marker) :: plan => do
      MediaSession.sendDtmfPacket event marker
      sendEvents plan

/-- The duration of the event fits into its field. -/
def eventFits (e : DTMFEvent) : Bool := e.duration < 65536

/-- **What goes out** is the longest beginning of the plan that fits; the loop returns iff that is all of
it.  The induction is on the plan. -/
theorem sendEvents_run {plan : List (DTMFEvent × Bool)}
    (hplan : ∀ e ∈ plan, e.1.event < 256 ∧ e.1.volume < 64) (m : MediaSession) :
    ∃ raws r, (sendEvents plan).run m = (r, m.emitting raws) ∧
      raws.map eventOf = ((plan.map Prod.fst).takeWhile eventFits).map some ∧
      (r = .ok () ↔ ∀ e ∈ plan, e.1.duration < 65536) := by
  induction plan generalizing m with
  | nil => exact ⟨[], .ok (), by rw [m.emitting_nil]; rfl, rfl, iff_of_true rfl nofun⟩
  | cons e plan ih =>
      obtain ⟨event, marker⟩ := e
      obtain ⟨hevent, hvolume⟩ := hplan _ List.mem_cons_self
      rw [sendEvents]
      by_cases hduration : event.duration < 65536
      · obtain ⟨raw, hraw, hread⟩ := sendDtmfPacket_fits marker m hevent hvolume hduration
        obtain ⟨raws, r, hrun, hraws, hr⟩ := ih (fun x hx => hplan x (List.mem_cons_of_mem _ hx))
          (m.emitting [raw])
        refine ⟨raw :: raws, r, ?_, ?_, ?_⟩
        · rw [Py.run_bind_ok hraw, hrun, MediaSession.emitting_append]
          rfl
        · rw [List.map_cons, List.map_cons, List.takeWhile_cons_of_pos (by simpa [eventFits]),
            List.map_cons, hread, hraws]
        · rw [hr, List.forall_mem_cons]
          exact (and_iff_right hduration).symm
      · obtain ⟨e, hlong⟩ := sendDtmfPacket_long marker m (Nat.le_of_not_lt hduration)
        refine ⟨[], .error e, ?_, ?_, ?_⟩
        · rw [Py.run_bind_error hlong, m.emitting_nil]
        · rw [List.map_cons, List.takeWhile_cons_of_neg (by simpa [eventFits] using hduration)]
          rfl
        · exact iff_of_false nofun fun hall => hduration (hall _ List.mem_cons_self)

theorem sendDtmf_run {digit : Text} (hdigit : IsDtmfDigit digit) (durationMs : ℕ) (m : MediaSession) :
    (MediaSession.sendDtmf digit durationMs).run m =
      (sendEvents (dtmfPlan digit (durationMs * m.clockRate / 1000))).run m := by
  have hlast : ∀ (x : Py MediaSession Unit), (x >>= fun _ => pure ()) = x := by
    intro x
    have hrun : ∀ s, (x >>= fun _ => pure ()).run s = x.run s := by
      intro s
      rw [Py.run_bind]
      rcases x.run s with ⟨_ | _, s'⟩
      · rfl
      · rfl
    exact congrArg Py.mk (funext hrun)
  unfold MediaSession.sendDtmf
  rw [Py.run_get_bind, if_neg (not_not.mpr hdigit)]
  simp only [dtmfPlan, sendEvents, hlast]

theorem dtmfPlan_fields {digit : Text} (hdigit : IsDtmfDigit digit) (samples : ℕ) :
    ∀ e ∈ dtmfPlan digit samples, e.1.event < 256 ∧ e.1.volume < 64 ∧ e.1.digit = digit := by
  obtain ⟨hevent, hname⟩ := DTMFEvent.digit_fromDigit hdigit (samples / 3) false
  have hvolume : (DTMFEvent.fromDigit digit (samples / 3) false).volume < 64 := by
    show 10 < 64
    decide
  have hlt : (DTMFEvent.fromDigit digit (samples / 3) false).event < 256 := by omega
  simp only [dtmfPlan, List.forall_mem_cons, List.not_mem_nil, false_imp_iff, implies_true, and_true]
  exact ⟨⟨hlt, hvolume, hname⟩, ⟨hlt, hvolume, hname⟩, ⟨hlt, hvolume, hname⟩, ⟨hlt, hvolume, hname⟩,
    hlt, hvolume, hname⟩

theorem dtmfPlan_fits {digit : Text} {samples : ℕ} :
    (∀ e ∈ dtmfPlan digit samples, e.1.duration < 65536) ↔ samples ≤ 65535 := by
  simp only [dtmfPlan, List.forall_mem_cons, List.not_mem_nil, false_imp_iff, implies_true, and_true]
  show (samples / 3 < 65536 ∧ samples * 2 / 3 < 65536 ∧ samples < 65536 ∧ samples < 65536 ∧
    samples < 65536) ↔ _
  omega

/-! ### All or nothing -/

/-- The datagrams of a complete event: it goes on for at least one packet, its duration never goes back,
and three packets with the end bit close it. -/
def CompleteEvent (digit : Text) (raws : List Bytes) : Prop :=
  ∃ ongoing ended : List DTMFEvent, raws.map eventOf = (ongoing ++ ended).map some ∧
    (∀ e ∈ ongoing ++ ended, e.digit = digit) ∧
    (ongoing ++ ended).Pairwise (fun e e' => e.duration ≤ e'.duration) ∧
    ongoing ≠ [] ∧ (∀ e ∈ ongoing, e.isEnd = false) ∧
    ended.length = 3 ∧ ∀ e ∈ ended, e.isEnd = true

/-- The call returns, and either nothing has changed or a complete event has gone out. -/
def SentWhole (digit : Text) (durationMs : ℕ) (m : MediaSession) : Prop :=
  (MediaSession.sendDtmf digit durationMs).run m = (.ok (), m) ∨
    ∃ raws, CompleteEvent digit raws ∧
      (MediaSession.sendDtmf digit durationMs).run m = (.ok (), m.emitting raws)

theorem dtmfPlan_complete {digit : Text} (hdigit : IsDtmfDigit digit) {samples : ℕ} {raws : List Bytes}
    (hraws : raws.map eventOf = ((dtmfPlan digit samples).map Prod.fst).map some) :
    CompleteEvent digit raws := by
  obtain ⟨event, hevent⟩ : ∃ event, event = DTMFEvent.fromDigit digit (samples / 3) false := ⟨_, rfl⟩
  obtain ⟨ended, hended⟩ : ∃ ended : DTMFEvent, ended = { event with isEnd := true, duration := samples } :=
    ⟨_, rfl⟩
  have hplan : (dtmfPlan digit samples).map Prod.fst =
      [event, { event with duration := samples * 2 / 3 }] ++ [ended, ended, ended] := by
    rw [hended, hevent]
    rfl
  rw [hplan] at hraws
  refine ⟨_, _, hraws, ?_, ?_, List.cons_ne_nil _ _, ?_, rfl, ?_⟩
  · rw [← hplan]
    intro e he
    obtain ⟨x, hx, rfl⟩ := List.mem_map.mp he
    exact (dtmfPlan_fields hdigit samples x hx).2.2
  · have hd : event.duration = samples / 3 := by rw [hevent]; rfl
    simp only [hended, List.cons_append, List.nil_append, List.pairwise_cons, List.forall_mem_cons,
      List.not_mem_nil, false_imp_iff, implies_true, and_true, List.Pairwise.nil, hd]
    omega
  · rw [hevent]
    intro e he
    simp only [List.mem_cons, List.not_mem_nil, or_false] at he
    rcases he with rfl | rfl
    · rfl
    · rfl
  · rw [hended]
    intro e he
    simp only [List.mem_cons, List.not_mem_nil, or_false, or_self] at he
    rw [he]

/-- **A digit is sent as a whole exactly if its event lasts at most 65535 units of the clock.** -/
theorem sentWhole_iff {digit : Text} (hdigit : IsDtmfDigit digit) (durationMs : ℕ) (m : MediaSession) :
    SentWhole digit durationMs m ↔ durationMs * m.clockRate / 1000 ≤ 65535 := by
  obtain ⟨raws, r, hrun, hraws, hr⟩ := sendEvents_run
    (fun e he => ⟨(dtmfPlan_fields hdigit (durationMs * m.clockRate / 1000) e he).1,
      (dtmfPlan_fields hdigit (durationMs * m.clockRate / 1000) e he).2.1⟩) m
  rw [← sendDtmf_run hdigit] at hrun
  rw [dtmfPlan_fits] at hr
  constructor
  · rintro (hsame | ⟨raws', -, hsent⟩)
    · exact hr.mp (congrArg Prod.fst (hrun.symm.trans hsame))
    · exact hr.mp (congrArg Prod.fst (hrun.symm.trans hsent))
  · intro hshort
    have hall : ((dtmfPlan digit (durationMs * m.clockRate / 1000)).map Prod.fst).takeWhile eventFits =
        (dtmfPlan digit (durationMs * m.clockRate / 1000)).map Prod.fst := by
      rw [List.takeWhile_eq_self_iff, List.forall_mem_map]
      intro e he
      exact decide_eq_true (dtmfPlan_fits.mpr hshort e he)
    rw [hall] at hraws
    refine Or.inr ⟨raws, dtmfPlan_complete hdigit hraws, ?_⟩
    rw [hrun, hr.mpr hshort]

/-- 160 ms of the digit 5 on AMR-WB. -/
theorem sentWhole_iff_five : SentWhole ['5'] 160 {} := (sentWhole_iff (by decide) 160 {}).mpr (by decide)

/-- Five seconds of a digit on AMR-WB are 80000 units of the clock: two packets go out, the event goes on
and never ends, and the call raises. -/
theorem sendDtmf_five_seconds :
    let m : MediaSession := MediaSession.start "AMR-WB".toList 96 true {}
    let result := (MediaSession.sendDtmf ['5'] 5000).run m
    result.1 ≠ .ok () ∧ result.2.packetsSent = 2 ∧
      (result.2.sent.map fun raw => (eventOf raw).map DTMFEvent.isEnd) = [some false, some false] ∧
      ¬SentWhole ['5'] 5000 m := by
  intro m result
  refine ⟨by decide +kernel, by decide +kernel, by decide +kernel, ?_⟩
  rintro (hsame | ⟨raws, -, hsent⟩)
  · have hr : result.1 = .ok () := congrArg Prod.fst hsame
    revert hr
    decide +kernel
  · have hr : result.1 = .ok () := congrArg Prod.fst hsent
    revert hr
    decide +kernel

end Rtp

end VirtualPhone
