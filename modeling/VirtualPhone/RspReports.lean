import VirtualPhone.DaemonAnswers
import VirtualPhone.RspService

/-! # What the RSP service reports

At its end a download tells the SM-DP+ what became of the profile, and then its client.  The LPA knows
only what the eUICC daemon replied, and the daemon may have served others in between, started again,
or installed a profile and lost the reply.

`reports_true` compares the reports with what the daemon did.  A profile that is said to be installed
has been installed, from the package of this download; and a download that fails has left a profile
behind only where the daemon's reply or the acceptance of the report was lost.  `results_true` is about
the commands that ask the daemon once: their results are true of the eUICC at a point of its run. -/

namespace VirtualPhone

open Runtime

namespace Daemon

variable {P : Platform} {d₀ d : Daemon}

/-- Processing a message is an event of the daemon, or changes nothing. -/
theorem Reachable.process_request {request : DaemonRequest} (h : d₀.Reachable P d)
    (hsafe : Lpa.SafeRequest request) : d₀.Reachable P ((request.process P).run d).2 := by
  cases request with
  | message msg => exact h.step (e := .message msg) (if_pos hsafe)
  | noProfile iccid => exact h
  | invalid checked e =>
      cases checked with
      | false => exact h
      | true =>
          have hsame : ((DaemonRequest.process P (.invalid true e)).run d).2 = d := by
            change ((onStorage Euicc.requireReady >>= fun _ => Py.raise e :
              Py Daemon DaemonResponse).run d).2 = d
            rw [Py.state_bind fun _ _ => rfl]
            exact run_requireReady d
          rw [hsame]
          exact h

end Daemon

namespace LpaOperation

/-- An operation of a run: the daemon that processed it is one of the run, a reply is that daemon's
answer, and a response comes from the SM-DP+. -/
structure Genuine (P : Platform) (L : RspLibrary) (d₀ : Daemon) (op : LpaOperation) : Prop where
  processed : ∀ d, op.processedBy = some d → d₀.Reachable P d
  reply : ∀ fields, op.outcome = some (.ok (.reply fields)) →
    ∃ message d uuid request response, op.request = .euicc message ∧ op.processedBy = some d ∧
      DaemonRequest.ofFields L.json uuid message = some request ∧ Lpa.SafeRequest request ∧
      request.answer P d = some response ∧ fields = response.fields
  response : ∀ response, op.outcome = some (.ok (.http response)) →
    ∃ address request, op.request = .smdp address request

/-- The daemon that processed the operation has installed its package: the profile was not there, and
then it was, in memory and on file. -/
def Installed (op : LpaOperation) (iccid : Text) : Prop :=
  ∃ package data d uuid profile s', op.request = .euicc (Lpa.installMessage (.obj package)) ∧
    ProfileData.ofFields package = some data ∧ op.processedBy = some d ∧
    d.storage.euicc.profiles.get? iccid = none ∧
    (Euicc.installProfile data uuid).run d.storage = (.ok profile, s') ∧
    s'.euicc.profiles.get? iccid = some profile ∧
    s'.files.get? (fileName iccid) = some profile.toDict

theorem genuine_begun {P : Platform} {L : RspLibrary} {d₀ : Daemon} {op : LpaOperation}
    (houtcome : op.outcome = none) (hprocessed : op.processedBy = none) : Genuine P L d₀ op := by
  refine ⟨fun d h => ?_, fun fields h => ?_, fun response h => ?_⟩
  · rw [hprocessed] at h
    cases h
  · rw [houtcome] at h
    cases h
  · rw [houtcome] at h
    cases h

end LpaOperation

namespace Lpa

open LpaOperation (AllSettled AllLater)

/-- The session has got a package from the SM-DP+, and the daemon has installed it. -/
def Delivered (address : Text) (ops : List LpaOperation) (iccid : Text) : Prop :=
  ∃ e ∈ ops, ∃ f ∈ ops, ∃ transactionId response data bpp,
    e.request = .smdp address (.getBoundProfilePackage transactionId []) ∧
    e.outcome = some (.ok (.http response)) ∧ response.data = .ok data ∧ readPackage data = .ok bpp ∧
    f.request = .euicc (installMessage bpp.profileMetadata) ∧ f.Installed iccid

/-- The session has not asked the daemon to install anything. -/
def NoInstallation (ops : List LpaOperation) : Prop :=
  ∀ op ∈ ops, ∀ profile, op.request ≠ .euicc (installMessage profile)

/-- What the SM-DP+ is told is what has happened: a profile is installed, or the package had none. -/
def ReportTrue (address : Text) (ops : List LpaOperation) (pending : PendingNotification) : Prop :=
  (∃ iccid, pending.result = 0 ∧ pending.iccid = .str iccid ∧ Delivered address ops iccid) ∨
    (pending.result = 127 ∧ pending.iccid = .null ∧ NoInstallation ops)

/-- The report of an installation has not been accepted. -/
def Unreported (address : Text) (ops : List LpaOperation) : Prop :=
  ∃ report ∈ ops, ∃ pending, report.Reports address pending ∧ pending.result = 0 ∧ ¬report.Succeeded

section

variable {P : Platform} {L : RspLibrary} {d₀ : Daemon}

/-! ### Operations are genuine -/

/-- The daemon and the operations of a run. -/
structure Faithful (P : Platform) (L : RspLibrary) (d₀ : Daemon) (s : Lpa) : Prop where
  daemon : d₀.Reachable P s.daemon
  operations : ∀ op ∈ s.operations, op.Genuine P L d₀

theorem Faithful.does {k : ℕ} {s s' : Lpa} (h : Faithful P L d₀ s) (hdoes : Does k s s') :
    Faithful P L d₀ s' := by
  obtain ⟨new, heq, hnew⟩ := hdoes.operations
  refine ⟨hdoes.daemon ▸ h.daemon, fun op hop => ?_⟩
  rw [heq] at hop
  rcases List.mem_append.mp hop with hop | hop
  · exact h.operations op hop
  · exact LpaOperation.genuine_begun (hnew op hop).2.1 (hnew op hop).2.2

theorem genuine_modify {s : Lpa} (h : ∀ op ∈ s.operations, op.Genuine P L d₀) {i : ℕ}
    {op : LpaOperation} {f : LpaOperation → LpaOperation} (hop : s.operations[i]? = some op) (hf : (f op).Genuine P L d₀) :
    ∀ op ∈ s.operations.modify i f, op.Genuine P L d₀ := by
  intro op' hop'
  obtain ⟨j, hj⟩ := List.mem_iff_getElem?.mp hop'
  rw [List.getElem?_modify] at hj
  obtain ⟨old, hold, rfl⟩ := Option.map_eq_some_iff.mp hj
  split_ifs with hij
  · obtain rfl := hij
    obtain rfl := Option.some.inj (hop.symm.trans hold)
    exact hf
  · exact h old (List.mem_of_getElem? hold)

theorem Faithful.outside {s s' : Lpa} {x : Outside} (hmodelled : x.Modelled) (h : Faithful P L d₀ s)
    (hx : Lpa.outside P L s x = some s') : Faithful P L d₀ s' := by
  rcases outside_cases hx with ⟨d, ⟨e, hd⟩, rfl⟩ | ⟨i, op, outcome, hop, hnone, hreply, hhttp, rfl⟩ |
    ⟨i, op, message, uuid, request, lost, hop, hmessage, hnone, hrequest, hsafe, rfl⟩
  · exact ⟨h.daemon.step hd, h.operations⟩
  · have hprocessed := (h.operations op (List.mem_of_getElem? hop)).processed
    have hgenuine : LpaOperation.Genuine P L d₀ { op with outcome := some outcome } := by
      refine ⟨hprocessed, fun fields hf => ?_, fun response hr => ?_⟩
      · exact absurd hmodelled (hreply fields (Option.some.inj hf))
      · exact hhttp response (Option.some.inj hr)
    exact ⟨h.daemon, genuine_modify h.operations hop hgenuine⟩
  · refine ⟨h.daemon.process_request hsafe,
      genuine_modify h.operations hop ⟨?_, fun fields hf => ?_, ?_⟩⟩
    · rintro d hd
      obtain rfl := Option.some.inj hd
      exact h.daemon
    · refine ⟨message, s.daemon, uuid, request, ?_⟩
      cases lost with
      | some e => cases Option.some.inj hf
      | none =>
          have hresult := DaemonRequest.process_result P s.daemon request
          unfold Py.result? at hresult
          cases hrun : ((request.process P).run s.daemon).1 with
          | error e =>
              rw [hrun] at hf
              cases Option.some.inj hf
          | ok response =>
              rw [hrun] at hf hresult
              cases Option.some.inj hf
              exact ⟨response, hmessage, rfl, hrequest, hsafe, hresult.symm, rfl⟩
    · rintro response hr
      cases lost with
      | some e => cases Option.some.inj hr
      | none =>
          cases hrun : ((request.process P).run s.daemon).1 with
          | error e =>
              rw [hrun] at hr
              cases Option.some.inj hr
          | ok response' =>
              rw [hrun] at hr
              cases Option.some.inj hr

/-! ### What the reply to an installation says -/

/-- A package that the store installs is there afterwards, and was not there before. -/
theorem installed_of_installs {s : Storage} {data : ProfileData} {iccid : Text}
    (h : s.Installs data iccid) (uuid : Text) :
    ∃ profile s', s.euicc.profiles.get? iccid = none ∧
      (Euicc.installProfile data uuid).run s = (.ok profile, s') ∧
      s'.euicc.profiles.get? iccid = some profile ∧
      s'.files.get? (fileName iccid) = some profile.toDict := by
  have hnone : s.euicc.profiles.get? iccid = none := (Dict.get?_eq_none_iff _ _).mpr h.2.2.1
  have hresult := Euicc.installProfile_result s data uuid
  rw [h.2.1.1, Option.bind_some, if_pos h] at hresult
  obtain ⟨profile, hprofile, rfl⟩ := Option.map_eq_some_iff.mp hresult
  have hok := Py.result?_eq_some_iff.mp hprofile
  rcases Euicc.installProfile_effect h.1 data uuid with
    ⟨e, hrun, -⟩ | ⟨p, -, -, -, ⟨s', hrun, he, hf⟩ | ⟨hrun, -⟩⟩
  · rw [hrun] at hok
    cases hok
  · rw [hrun] at hok
    obtain rfl := Except.ok.inj hok
    refine ⟨p, s', hnone, hrun, ?_, ?_⟩
    · rw [he]
      exact Dict.get?_set_self _ _ _
    · rw [hf]
      exact Dict.get?_set_self _ _ _
  · rw [hrun] at hok
    cases hok

/-- The reply to an installation says that the package was installed, under its ICCID. -/
theorem installed_of_reply {op : LpaOperation} (hop : op.Genuine P L d₀) {profile : Json}
    {reply : List (Text × Json)} (hrequest : op.request = .euicc (installMessage profile))
    (houtcome : op.outcome = some (.ok (.reply reply))) :
    ∃ iccid, op.Installed iccid ∧ reply = (DaemonResponse.result true (some iccid)).fields := by
  obtain ⟨message, d, uuid, request, response, hmessage, hprocessed, hread, -, hanswer, rfl⟩ :=
    hop.reply reply houtcome
  obtain rfl : message = installMessage profile := by
    rw [hrequest] at hmessage
    injection hmessage with hmessage
    exact hmessage.symm
  cases profile with
  | obj package =>
      change (ProfileData.ofFields package).map _ = some request at hread
      obtain ⟨data, hdata, rfl⟩ := Option.map_eq_some_iff.mp hread
      change data.iccid.bind _ = some response at hanswer
      obtain ⟨iccid, hiccid, hanswer⟩ := Option.bind_eq_some_iff.mp hanswer
      split_ifs at hanswer with hinstalls
      obtain rfl := Option.some.inj hanswer
      obtain ⟨profile, s', hnone, hrun, hmemory, hfile⟩ := installed_of_installs hinstalls uuid
      have hinstalled : op.Installed iccid :=
        ⟨package, data, d, uuid, profile, s', hrequest, hdata, hprocessed, hnone, hrun, hmemory, hfile⟩
      exact ⟨iccid, hinstalled, rfl⟩
  | _ =>
      obtain rfl := Option.some.inj hread
      cases hanswer

/-! ### The places of a session -/

/-- What comes after five operations of a download that were answered, if the last of these came with a
package: its installation, or the report that there is none. -/
theorem installs_sixth {address : Text} {a b c d e f : LpaOperation}
    (h : Follows L address [a, b, c, d, e, f]) {reply : List (Text × Json)}
    (houtcome : f.outcome = some (.ok (.reply reply))) (hgenuine : f.Genuine P L d₀) :
    ∃ transactionId response data bpp,
      e.request = .smdp address (.getBoundProfilePackage transactionId []) ∧
      e.outcome = some (.ok (.http response)) ∧ response.data = .ok data ∧ readPackage data = .ok bpp ∧
      f.request = .euicc (installMessage bpp.profileMetadata) := by
  obtain ⟨hfifth, -⟩ := h [a, b, c, d] e [f] rfl
  obtain ⟨hsixth, -⟩ := h [a, b, c, d, e] f [] rfl
  obtain ⟨message, -, -, -, -, hmessage, -⟩ := hgenuine.reply reply houtcome
  generalize he : e.request = request at hfifth
  generalize hf : f.request = request' at hsixth hmessage
  cases hfifth with
  | package hc =>
      cases hsixth with
      | install heo hdata hpackage htruthy => exact ⟨_, _, _, _, rfl, heo, hdata, hpackage, rfl⟩
      | reportNothing => cases hmessage

theorem noInstallation_of_next {address : Text} {ops : List LpaOperation} {request : LpaRequest}
    (h : Next L address ops request) (hlength : ops.length ≠ 5) (profile : Json) :
    request ≠ .euicc (installMessage profile) := by
  intro heq
  cases h with
  | install => exact hlength rfl
  | _ => cases heq

theorem report_of_next {address : Text} {ops : List LpaOperation} {request : LpaRequest}
    (h : Next L address ops request) (hlength : ops.length = 6) :
    ∃ pending, request = .smdp address (.handleNotification pending) := by
  cases h with
  | report => exact ⟨_, rfl⟩
  | reportFailure => exact ⟨_, rfl⟩
  | _ => cases hlength

theorem Follows.initial {address : Text} {pre post : List LpaOperation}
    (h : Follows L address (pre ++ post)) : Follows L address pre := by
  intro before op after heq
  exact h before op (after ++ post) (by rw [heq, List.append_assoc]; rfl)

theorem Follows.installation {address : Text} {pre post : List LpaOperation} {op : LpaOperation}
    (h : Follows L address (pre ++ op :: post)) {profile : Json}
    (hrequest : op.request = .euicc (installMessage profile)) : pre.length = 5 := by
  by_contra hlength
  exact noInstallation_of_next (h pre op post rfl).1 hlength profile hrequest

/-! ### The reports -/

/-- **Every report is true.** -/
theorem report_true {address : Text} {ops : List LpaOperation} (hfollows : Follows L address ops)
    (hgenuine : ∀ op ∈ ops, op.Genuine P L d₀) {op : LpaOperation} (hop : op ∈ ops) {address' : Text}
    {pending : PendingNotification} (hreports : op.Reports address' pending) :
    address' = address ∧ ReportTrue address ops pending := by
  obtain ⟨pre, post, rfl⟩ := List.append_of_mem hop
  have hnext := (hfollows pre op post rfl).1
  rw [hreports] at hnext
  cases hnext with
  | @report a b c d e f transactionId preparation fields he hfo hsuccess =>
      have hf : f.Genuine P L d₀ := hgenuine f (by simp)
      obtain ⟨_, response, data, bpp, he, heo, hdata, hpackage, hf'⟩ :=
        installs_sixth hfollows.initial hfo hf
      obtain ⟨iccid, hinstalled, rfl⟩ := installed_of_reply hf hf' hfo
      have hdelivered : Delivered address ([a, b, c, d, e, f] ++ op :: post) iccid :=
        ⟨e, by simp, f, by simp, _, response, data, bpp, he, heo, hdata, hpackage, hf', hinstalled⟩
      exact ⟨rfl, .inl ⟨iccid, rfl, rfl, hdelivered⟩⟩
  | @reportFailure a b c d e f transactionId preparation fields he hfo hsuccess =>
      have hf : f.Genuine P L d₀ := hgenuine f (by simp)
      obtain ⟨_, _, _, _, -, -, -, -, hf'⟩ := installs_sixth hfollows.initial hfo hf
      obtain ⟨iccid, -, rfl⟩ := installed_of_reply hf hf' hfo
      cases hsuccess
  | @reportNothing a b c d e _ _ _ _ _ he heo hdata hpackage hmetadata =>
      suffices hno : NoInstallation ([a, b, c, d, e] ++ op :: post) from ⟨rfl, .inr ⟨rfl, rfl, hno⟩⟩
      intro op' hop' profile hprofile
      obtain ⟨pre', post', heq⟩ := List.append_of_mem hop'
      have hlength := (heq ▸ hfollows).installation hprofile
      obtain ⟨-, htail⟩ := List.append_inj heq.symm hlength
      obtain ⟨rfl, -⟩ := List.cons.inj htail
      rw [hreports] at hprofile
      cases hprofile

/-- A profile that a failed download has left on the eUICC: the reply to the installation was lost, or
the report was not accepted. -/
theorem left_behind {address : Text} {ops : List LpaOperation} (hfollows : Follows L address ops)
    (hgenuine : ∀ op ∈ ops, op.Genuine P L d₀) (hsettled : AllSettled ops) (hnot : ¬Accepted ops)
    (hlast : NotInstalling ops) {op : LpaOperation} (hop : op ∈ ops) {iccid : Text}
    (hinstalled : op.Installed iccid) :
    (∃ e, op.outcome = some (.error e)) ∨ Unreported address ops := by
  obtain ⟨package, data, d, uuid, profile, s', hrequest, -⟩ := hinstalled
  obtain ⟨pre, post, rfl⟩ := List.append_of_mem hop
  have hlength := hfollows.installation hrequest
  cases post with
  | nil =>
      obtain ⟨outcome, houtcome⟩ := Option.isSome_iff_exists.mp (hsettled op hop)
      rcases outcome with e | reply | response
      · exact .inl ⟨e, houtcome⟩
      · exact absurd ((LpaOperation.succeeded_euicc hrequest).mpr ⟨reply, houtcome⟩)
          (hlast pre op package rfl hrequest)
      · obtain ⟨_, _, hsmdp⟩ := (hgenuine op hop).response response houtcome
        rw [hrequest] at hsmdp
        cases hsmdp
  | cons report post =>
      have hmem : report ∈ pre ++ op :: report :: post := by simp
      obtain ⟨hnext, -⟩ := hfollows (pre ++ [op]) report post (by simp)
      obtain ⟨pending, hreports⟩ := report_of_next hnext (by simp [hlength])
      have hfailed : ¬report.Succeeded := fun hs => hnot ⟨report, hmem, address, pending, hreports, hs⟩
      refine .inr ⟨report, hmem, pending, hreports, ?_, hfailed⟩
      rcases (report_true hfollows hgenuine hmem hreports).2 with ⟨_, hresult, -⟩ | ⟨-, -, hno⟩
      · exact hresult
      · exact absurd hrequest (hno op hop _)

/-- **What a download reports is true.**  In every run of the service on the daemon of the model, with any
other commands and clients of it in between: the daemons that processed the operations of a download are
those of a run of the daemon; every report to the SM-DP+ goes to the address of the activation code,
and says that a profile is installed which the daemon has installed from the package of this download,
or that the package had no profile; and the client is told the same, or that the download has
failed.  A failed download has left a profile on the eUICC only if the reply to the installation was
lost or the report was not accepted. -/
theorem reports_true (daemon : Daemon) (random : ℕ → ℕ → Bytes)
    (events : List (PoolEvent (List (Text × Json)) Outside)) (hmodel : OnModel events)
    (p : Pool Lpa LpaAwait Json)
    (h : runFrom (loop P L).step ⟨start daemon random, []⟩ events = some p) (k : ℕ) (code : Text)
    (confirmation : Json) (ac : ActivationCode)
    (hk : (begun L events)[k]? = some (.download (.str code) confirmation))
    (hcode : ActivationCode.parse code = .ok ac) :
    (∀ op ∈ p.state.session k, ∀ d, op.processedBy = some d → daemon.Reachable P d) ∧
    (∀ op ∈ p.state.session k, ∀ address pending, op.Reports address pending →
      address = ac.smdpAddress ∧ ReportTrue ac.smdpAddress (p.state.session k) pending) ∧
    ∀ r, p.tasks[k]? = some (.done r) →
      (∃ iccid, r = .ok (DownloadResult.finished true (.str iccid) 0).json ∧
        Delivered ac.smdpAddress (p.state.session k) iccid) ∨
      (r = .ok (DownloadResult.finished false .null 127).json ∧ NoInstallation (p.state.session k)) ∨
      ∃ e, r = .ok (DownloadResult.failed (L.strError e)).json ∧
        ∀ op ∈ p.state.session k, ∀ iccid, op.Installed iccid →
          (∃ e, op.outcome = some (.error e)) ∨ Unreported ac.smdpAddress (p.state.session k) := by
  have hfaithful : Faithful P L daemon p.state := invariant_run (fun _ _ _ hs hd => hs.does hd)
    (fun _ _ _ hx hs hout => hs.outside hx hout) hmodel ⟨.refl daemon, fun op hop => by cases hop⟩ h
  obtain ⟨hkeeps, hserved⟩ := serving_run h k _ hk
  have haddress : (RspCommand.download (.str code) confirmation).address = some ac.smdpAddress := by
    simp [RspCommand.address, hcode, Except.toOption]
  have hfollows : Follows L ac.smdpAddress (p.state.session k) := hkeeps.1 _ haddress
  have hgenuine : ∀ op ∈ p.state.session k, op.Genuine P L daemon :=
    fun op hop => hfaithful.operations op (List.mem_of_mem_filter hop)
  have hreported : ∀ op ∈ p.state.session k, ∀ address pending, op.Reports address pending →
      address = ac.smdpAddress ∧ ReportTrue ac.smdpAddress (p.state.session k) pending :=
    fun op hop address pending hreports => report_true hfollows hgenuine hop hreports
  refine ⟨fun op hop => (hgenuine op hop).processed, hreported, fun r hr => ?_⟩
  have hend := hserved r hr
  rcases hend.answers.1 _ _ rfl with ⟨e, rfl, hnot, hlast⟩ | ⟨pre, op, address, pending, heq, hreports,
    -, rfl⟩
  · have hleft : ∀ op ∈ p.state.session k, ∀ iccid, op.Installed iccid →
        (∃ e, op.outcome = some (.error e)) ∨ Unreported ac.smdpAddress (p.state.session k) :=
      fun op hop iccid hinstalled =>
        left_behind hfollows hgenuine hend.settled hnot hlast hop hinstalled
    exact .inr (.inr ⟨e, rfl, hleft⟩)
  · have hop : op ∈ p.state.session k := by simp [heq]
    obtain ⟨rfl, ⟨iccid, hresult, hiccid, hdelivered⟩ | ⟨hresult, hiccid, hno⟩⟩ :=
      hreported op hop address pending hreports
    · refine .inl ⟨iccid, ?_, hdelivered⟩
      rw [hresult, hiccid]
      rfl
    · refine .inr (.inl ⟨?_, hno⟩)
      rw [hresult, hiccid]
      rfl

/-! ### The other commands -/

end

end Lpa

/-- What the result of a command says of the profiles of the eUICC, right after the daemon's answer. -/
def RspCommand.Tells (c : Catalogue) : RspCommand → Json → Prop
  | .list, r => ∃ profiles : List Isdp,
      r = .obj [("profiles".toList, .arr (profiles.map fun p => p.toSummary.json))] ∧
        Daemon.Lists c profiles
  | .enable iccid, r => ∃ i, iccid = .str i ∧ r = .obj [("success".toList, .bool true)] ∧ c.Enabled i
  | .disable iccid, r => ∃ i p, iccid = .str i ∧ r = .obj [("success".toList, .bool true)] ∧
      c i = some p ∧ p.state = .disabled
  | .delete iccid, r => ∃ i, iccid = .str i ∧ r = .obj [("success".toList, .bool true)] ∧ c i = none
  | .installDirect profile, r => ∃ package i p, profile = .obj package ∧
      Json.get? package "iccid" = some (.str i) ∧
      r = (Lpa.DownloadResult.finished true (.str i) 0).json ∧
      c i = some p ∧ p.state = .disabled
  | .info, r => ∃ info installedProfiles activeIccid state,
      r = EuiccInfo.json info installedProfiles activeIccid state ∧
        ∀ i, activeIccid = some i ↔ c.Enabled i
  | .eid, r => ∃ eid, r = .obj [("eid".toList, .str eid)]
  | _, _ => False

namespace Lpa

section

variable {P : Platform} {L : RspLibrary}

/-- A message about the profile with an ICCID that the daemon answers. -/
theorem keyed_answer {J : JsonLibrary} {f : Text → DaemonMessage} {iccid : Json} {d : Daemon}
    {response : DaemonResponse}
    (h : (DaemonRequest.keyed J f (some iccid)).answer P d = some response) :
    ∃ i, iccid = .str i ∧ d.answer P (f i) = some response := by
  cases iccid with
  | str i => exact ⟨i, rfl, h⟩
  | _ => cases h

theorem ofFields_iccid {package : List (Text × Json)} {data : ProfileData} {i : Text}
    (h : ProfileData.ofFields package = some data) (hi : data.iccid = some i) :
    Json.get? package "iccid" = some (.str i) := by
  obtain ⟨iccid, hiccid, h⟩ := Option.bind_eq_some_iff.mp h
  obtain ⟨_, -, h⟩ := Option.bind_eq_some_iff.mp h
  obtain ⟨_, -, h⟩ := Option.bind_eq_some_iff.mp h
  obtain ⟨_, -, h⟩ := Option.bind_eq_some_iff.mp h
  obtain ⟨_, -, h⟩ := Option.bind_eq_some_iff.mp h
  obtain ⟨_, -, h⟩ := Option.bind_eq_some_iff.mp h
  obtain ⟨_, -, h⟩ := Option.bind_eq_some_iff.mp h
  obtain ⟨_, -, h⟩ := Option.bind_eq_some_iff.mp h
  obtain ⟨_, -, h⟩ := Option.bind_eq_some_iff.mp h
  obtain ⟨_, -, h⟩ := Option.bind_eq_some_iff.mp h
  obtain ⟨_, -, h⟩ := Option.bind_eq_some_iff.mp h
  obtain ⟨_, -, h⟩ := Option.bind_eq_some_iff.mp h
  obtain ⟨_, -, h⟩ := Option.bind_eq_some_iff.mp h
  obtain rfl := Option.some.inj h
  obtain rfl : iccid = some i := hi
  generalize Json.get? package "iccid" = value at hiccid
  unfold Json.text? at hiccid
  split at hiccid
  · cases hiccid
  · obtain rfl := Option.some.inj (Option.some.inj hiccid)
    rfl
  · cases hiccid

/-- **What a command makes of an answer is true.** -/
theorem tells_of_answer {cmd : RspCommand} {message : List (Text × Json)}
    (hmessage : cmd.message = some message) {uuid : Text} {request : DaemonRequest} {d : Daemon}
    {response : DaemonResponse} (hread : DaemonRequest.ofFields L.json uuid message = some request)
    (hanswer : request.answer P d = some response) {c : Catalogue}
    (hc : ((request.process P).run d).2.Represents c) {r : Json}
    (hr : cmd.read L response.fields = .ok r) : cmd.Tells c r := by
  have htells : ∀ msg, request = .message msg → Daemon.Tells c msg response := by
    rintro msg rfl
    have hresult := (Daemon.processMessage_result P d msg).trans hanswer
    exact Daemon.tells_of_run (Prod.ext (Py.result?_eq_some_iff.mp hresult) rfl) hc
  cases cmd with
  | list =>
      cases hmessage
      cases hread
      obtain ⟨profiles, rfl, hlists⟩ := htells .listProfiles rfl
      cases hr
      refine ⟨profiles, ?_, hlists⟩
      change Json.obj
        [("profiles".toList, .arr ((profiles.map Isdp.toSummary).map ProfileSummary.json))] = _
      rw [List.map_map]
      rfl
  | enable iccid =>
      cases hmessage
      cases hread
      obtain ⟨i, rfl, hanswer⟩ := keyed_answer hanswer
      obtain ⟨rfl, henabled⟩ := htells (.enableProfile i) rfl
      cases hr
      exact ⟨i, rfl, rfl, henabled⟩
  | disable iccid =>
      cases hmessage
      cases hread
      obtain ⟨i, rfl, hanswer⟩ := keyed_answer hanswer
      obtain ⟨rfl, p, hp, hstate⟩ := htells (.disableProfile i) rfl
      cases hr
      exact ⟨i, p, rfl, rfl, hp, hstate⟩
  | delete iccid =>
      cases hmessage
      cases hread
      obtain ⟨i, rfl, hanswer⟩ := keyed_answer hanswer
      obtain ⟨rfl, hnone⟩ := htells (.deleteProfile i) rfl
      cases hr
      exact ⟨i, rfl, rfl, hnone⟩
  | info =>
      cases hmessage
      cases hread
      obtain ⟨info, n, active, state, rfl, hactive⟩ := htells .getInfo rfl
      cases hr
      exact ⟨info, n, active, state, rfl, hactive⟩
  | eid =>
      cases hmessage
      cases hread
      obtain ⟨info, n, active, state, rfl, -⟩ := htells .getInfo rfl
      cases hr
      exact ⟨info.eid, rfl⟩
  | installDirect profile =>
      cases profile with
      | obj package =>
          cases package with
          | nil => cases hmessage
          | cons member fields =>
              cases hmessage
              change (ProfileData.ofFields _).map _ = some request at hread
              obtain ⟨data, hdata, rfl⟩ := Option.map_eq_some_iff.mp hread
              obtain ⟨i, p, hi, rfl, hp, hstate⟩ := htells _ rfl
              cases hr
              exact ⟨_, i, p, rfl, ofFields_iccid hdata hi, rfl, hp, hstate⟩
      | _ => cases hmessage
  | _ => cases hmessage

theorem address_none {cmd : RspCommand} {message : List (Text × Json)}
    (h : cmd.message = some message) : cmd.address = none := by
  cases cmd with
  | download => cases h
  | _ => rfl

/-- **The results of the other commands are true.**  In every run of the service on the daemon of the model,
which began without profiles, with any other commands and clients in between: a command that asks the
daemon and has returned a result had its message processed by the daemon, in a state of a run of its
own, and the result says what the profiles of the eUICC were right after it. -/
theorem results_true (eid : Text) (random : ℕ → ℕ → Bytes)
    (events : List (PoolEvent (List (Text × Json)) Outside)) (hmodel : OnModel events)
    (p : Pool Lpa LpaAwait Json)
    (h : runFrom (loop P L).step ⟨start (Daemon.start eid) random, []⟩ events = some p) (k : ℕ)
    (cmd : RspCommand) (message : List (Text × Json)) (hk : (begun L events)[k]? = some cmd)
    (hmessage : cmd.message = some message) (r : Json) (hr : p.tasks[k]? = some (.done (.ok r))) :
    ∃ op d c, p.state.session k = [op] ∧ op.request = .euicc message ∧ op.processedBy = some d ∧
      (Daemon.start eid).Reachable P d ∧
      (∃ uuid request, DaemonRequest.ofFields L.json uuid message = some request ∧
        ((request.process P).run d).2.Represents c) ∧ cmd.Tells c r := by
  have hfaithful : Faithful P L (Daemon.start eid) p.state :=
    invariant_run (fun _ _ _ hs hd => hs.does hd) (fun _ _ _ hx hs hout => hs.outside hx hout) hmodel
      ⟨.refl _, fun op hop => by cases hop⟩ h
  obtain ⟨hkeeps, hserved⟩ := serving_run h k cmd hk
  obtain ⟨op, hop, ⟨reply, houtcome, hread⟩ | ⟨-, e, he⟩⟩ := (hserved _ hr).answers.2 message hmessage
  swap
  · cases he
  have hmem : op ∈ p.state.operations := by
    refine List.mem_of_mem_filter (p := (·.command = k)) ?_
    change op ∈ p.state.session k
    rw [hop]
    exact List.mem_singleton_self op
  have hgenuine := hfaithful.operations op hmem
  obtain ⟨message', d, uuid, request, response, hrequest, hprocessed, hof, hsafe, hanswer, rfl⟩ :=
    hgenuine.reply reply houtcome
  have hsent : op.request = .euicc message := by
    have hprefix := hkeeps.2 (address_none hmessage)
    rw [hop, hmessage] at hprefix
    exact (List.cons_prefix_cons.mp hprefix).1
  obtain rfl : message' = message := by
    rw [hsent] at hrequest
    injection hrequest with hrequest
    exact hrequest.symm
  have hreach := hgenuine.processed d hprocessed
  obtain ⟨c, hc, -⟩ := (hreach.process_request hsafe).represents
  have htells : cmd.Tells c r := tells_of_answer hmessage hof hanswer hc hread.symm
  exact ⟨op, d, c, hop, hsent, hprocessed, hreach, ⟨uuid, request, hof, hc⟩, htells⟩

end

/-- In the download of the run above, the daemon has installed the profile of the package, and the client
is told so. -/
theorem reports_true_download :
    ∃ p iccid, runFrom (loop ApduHandler.zeroPlatform testLibrary).step
        ⟨start (Daemon.start ['8']) fun _ _ => [], []⟩ downloadRun = some p ∧
      p.tasks[0]? = some (.done (.ok (DownloadResult.finished true (.str iccid) 0).json)) ∧
      Delivered ['a'] (p.state.session 0) iccid ∧
      ∀ op ∈ p.state.session 0, ∀ address pending, op.Reports address pending →
        address = ['a'] ∧ ReportTrue ['a'] (p.state.session 0) pending := by
  obtain ⟨p, r, hp, hr, hsuccess⟩ := downloadRun_ends
  have hmodel : OnModel downloadRun := by decide +kernel
  have hcode : ActivationCode.parse "1$a$b".toList = .ok ⟨['a'], ['b'], []⟩ := by decide +kernel
  obtain ⟨-, hreports, hends⟩ := reports_true _ _ _ hmodel p hp 0 _ .null _ rfl hcode
  rcases hends _ hr with ⟨iccid, he, hdelivered⟩ | ⟨he, -⟩ | ⟨e, he, -⟩
  · exact ⟨p, iccid, hp, he ▸ hr, hdelivered, hreports⟩
  · obtain rfl := Except.ok.inj he
    cases hsuccess
  · obtain rfl := Except.ok.inj he
    cases hsuccess

/-- A client deletes the profile of the download, and then asks for the profiles. -/
def deleteRun : List (PoolEvent (List (Text × Json)) Outside) :=
  downloadRun ++ [.spawn [("command".toList, .str "delete".toList), ("iccid".toList, .str ['1'])],
    .outside (.process 8 [] none), .resume 2]

theorem results_true_delete :
    ∃ p r c, runFrom (loop ApduHandler.zeroPlatform testLibrary).step
        ⟨start (Daemon.start ['8']) fun _ _ => [], []⟩ deleteRun = some p ∧
      p.tasks[2]? = some (.done (.ok r)) ∧ RspCommand.Tells c (.delete (.str ['1'])) r := by
  have hrun : ((runFrom (loop ApduHandler.zeroPlatform testLibrary).step
      ⟨start (Daemon.start ['8']) fun _ _ => [], []⟩ deleteRun).bind (returned · 2)).isSome := by
    decide +kernel
  obtain ⟨r, hr⟩ := Option.isSome_iff_exists.mp hrun
  obtain ⟨p, hp, hr⟩ := Option.bind_eq_some_iff.mp hr
  have hdone := returned_eq_some hr
  have hmodel : OnModel deleteRun := by decide +kernel
  obtain ⟨_, _, c, -, -, -, -, -, htells⟩ :=
    results_true _ _ _ hmodel p hp 2 (.delete (.str ['1'])) _ rfl rfl r hdone
  exact ⟨p, r, c, hp, hdone, htells⟩

end Lpa

end VirtualPhone
