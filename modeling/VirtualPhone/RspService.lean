import VirtualPhone.Runtime.Service
import VirtualPhone.LpaSessions

/-! # Runs of the RSP service

Any clients send any commands to the service of `rsp/service.py`, in any order and at any time; the
eUICC daemon also serves others, may start again, and its replies may be lost; the SM-DP+ answers what
it likes.

`rsp_sessions` says what the operations and the result of every command are.  `reports_true` is about
what the SM-DP+ is told: of every profile that the eUICC is said to have installed, the daemon has
installed it, from the package of that download. -/

namespace VirtualPhone

open Runtime

namespace Lpa

open LpaOperation (AllSettled AllLater)

/-- The service on a daemon, before the first command. -/
def start (daemon : Daemon) (random : ℕ → ℕ → Bytes) : Lpa := { daemon := daemon, random := random }

/-- The commands that were begun in a run. -/
def begun (L : RspLibrary) (events : List (PoolEvent (List (Text × Json)) Outside)) : List RspCommand :=
  events.filterMap fun
    | .spawn msg => some (RspCommand.ofMessage L msg)
    | _ => none

section

variable {P : Platform} {L : RspLibrary}

/-- What can happen outside: the daemon serves somebody else, an operation is answered by the SM-DP+ or
by a daemon that is not modelled, or comes to nothing, or the daemon processes a message. -/
theorem outside_cases {s s' : Lpa} {e : Outside} (h : outside P L s e = some s') :
    (∃ d, (∃ e, Daemon.step P s.daemon e = some d) ∧ s' = { s with daemon := d }) ∨
      (∃ i op outcome, s.operations[i]? = some op ∧ op.outcome = none ∧
        (∀ reply, outcome = .ok (.reply reply) → ¬e.Modelled) ∧
        (∀ response, outcome = .ok (.http response) →
          ∃ address request, op.request = .smdp address request) ∧
        s' = s.settle i outcome) ∨
      ∃ i op message uuid request lost, s.operations[i]? = some op ∧ op.request = .euicc message ∧
        op.outcome = none ∧ DaemonRequest.ofFields L.json uuid message = some request ∧
        SafeRequest request ∧ s' = s.settleProcessed i s.daemon ((request.process P).run s.daemon).2
          (readReply ((request.process P).run s.daemon).1 lost) := by
  cases e with
  | daemon e =>
      obtain ⟨d, hd, rfl⟩ := Option.map_eq_some_iff.mp h
      exact .inl ⟨d, ⟨e, hd⟩, rfl⟩
  | refuse i e =>
      simp only [outside] at h
      split at h
      · next hop =>
          obtain rfl := Option.some.inj h
          refine .inr (.inl ⟨i, _, .error e, hop, rfl, fun _ h => ?_, fun _ h => ?_, rfl⟩)
          · cases h
          · cases h
      · cases h
  | answer i fields =>
      simp only [outside] at h
      split at h
      · next hop =>
          obtain rfl := Option.some.inj h
          refine .inr (.inl ⟨i, _, .ok (.reply fields), hop, rfl, fun _ _ => id, fun _ h => ?_, rfl⟩)
          cases h
      · cases h
  | respond i response =>
      simp only [outside] at h
      split at h
      · next hop =>
          obtain rfl := Option.some.inj h
          refine .inr (.inl ⟨i, _, .ok (.http response), hop, rfl, fun _ h => ?_,
            fun _ _ => ⟨_, _, rfl⟩, rfl⟩)
          cases h
      · cases h
  | process i uuid lost =>
      simp only [outside] at h
      split at h
      · next hop =>
          split at h
          · next request hrequest =>
              split_ifs at h with hsafe
              obtain rfl := Option.some.inj h
              exact .inr (.inr ⟨i, _, _, uuid, request, lost, hop, rfl, rfl, hrequest, hsafe, rfl⟩)
          · cases h
      · cases h

/-- What happens outside settles operations, and does nothing else to the service. -/
theorem outside_later {s s' : Lpa} {e : Outside} (h : outside P L s e = some s') :
    AllLater s.operations s'.operations ∧ s'.http = s.http ∧ s'.commands = s.commands := by
  have hlater : ∀ {i : ℕ} {op : LpaOperation} (f : LpaOperation → LpaOperation),
      s.operations[i]? = some op → op.outcome = none → (f op).command = op.command → (f op).request = op.request →
      AllLater s.operations (s.operations.modify i f) := by
    intro i op f hop hnone hcommand hrequest
    refine LpaOperation.AllLater.modify hop ⟨hcommand, hrequest, fun hsome => ?_⟩
    rw [hnone] at hsome
    cases hsome
  rcases outside_cases h with ⟨d, -, rfl⟩ | ⟨i, op, outcome, hop, hnone, -, -, rfl⟩ |
    ⟨i, op, message, uuid, request, lost, hop, -, hnone, -, -, rfl⟩
  · exact ⟨.refl _, rfl, rfl⟩
  · exact ⟨hlater _ hop hnone rfl rfl, rfl, rfl⟩
  · exact ⟨hlater _ hop hnone rfl rfl, rfl, rfl⟩

theorem outside_relies {s s' : Lpa} {e : Outside} (h : outside P L s e = some s') (k : ℕ) :
    Relies k s s' := by
  obtain ⟨hlater, hhttp, -⟩ := outside_later h
  exact ⟨⟨s'.operations, [], (List.append_nil _).symm, hlater, fun op h => by cases h⟩, by rw [hhttp]⟩

/-! ### Sessions at a later time -/

theorem keeps_later {cmd : RspCommand} {ops ops' : List LpaOperation} (h : cmd.Keeps L ops)
    (hlater : AllLater ops ops') : cmd.Keeps L ops' := by
  have hrequests : ops'.map LpaOperation.request = ops.map LpaOperation.request := by
    clear h
    induction hlater with
    | nil => rfl
    | cons hop _ ih => rw [List.map_cons, List.map_cons, hop.2.1, ih]
  exact ⟨fun a ha => (h.1 a ha).later hlater, fun hnone => hrequests ▸ h.2 hnone⟩

theorem served_later {k : ℕ} {cmd : RspCommand} {r : Except PyError Json} {s s' : Lpa}
    (h : Served L k cmd r s) (hrelies : Relies k s s') : Served L k cmd r s' := by
  have hsame := hrelies.session.eq_of_settled h.settled
  exact ⟨hsame ▸ h.answers, hsame ▸ h.settled, hrelies.http.not.mpr h.closed⟩

/-! ### The service -/

/-- What is known of the state: operations and HTTP clients belong to commands that were begun. -/
structure Owned (cmds : List RspCommand) (s : Lpa) : Prop where
  operations : ∀ op ∈ s.operations, op.command < cmds.length
  http : ∀ k ∈ s.http, k < cmds.length

/-- The service as one whose commands are numbered. -/
def service (P : Platform) (L : RspLibrary) :
    Service Lpa LpaAwait Json (List (Text × Json)) Outside RspCommand where
  loop := loop P L
  command := RspCommand.ofMessage L
  count := Lpa.commands
  contract k cmd := contract k (cmd.Keeps L)
  holds k cmd s := cmd.Keeps L (s.session k)
  post := Served L
  fact cmds _ s := Owned cmds s

section

variable {cmds : List RspCommand} {s s' : Lpa}

/-- The next command has no operations and no HTTP client yet. -/
theorem Owned.fresh (h : Owned cmds s) : s.session cmds.length = [] ∧ cmds.length ∉ s.http := by
  refine ⟨List.filter_eq_nil_iff.mpr fun op hop hk => ?_, fun hk => ?_⟩
  · have hlt := h.operations op hop
    simp only [decide_eq_true_eq] at hk
    omega
  · have hlt := h.http _ hk
    omega

/-- What a command does, belongs to commands that were begun. -/
theorem Owned.does {k : ℕ} {cmd : RspCommand} (h : Owned cmds s) (hk : cmds[k]? = some cmd)
    (hdoes : Does k s s') : Owned cmds s' := by
  have hlt := (List.getElem?_eq_some_iff.mp hk).1
  obtain ⟨new, heq, hnew⟩ := hdoes.operations
  refine ⟨fun op hop => ?_, fun j hj => ?_⟩
  · rw [heq] at hop
    rcases List.mem_append.mp hop with hop | hop
    · exact h.operations op hop
    · rw [(hnew op hop).1]
      exact hlt
  · by_cases hjk : j = k
    · rw [hjk]
      exact hlt
    · exact h.http j ((hdoes.http j hjk).mp hj)

theorem Owned.begins (h : Owned cmds s) (cmd : RspCommand) : Owned (cmds ++ [cmd]) s := by
  have hlength : cmds.length ≤ (cmds ++ [cmd]).length := by simp
  exact ⟨fun op hop => (h.operations op hop).trans_le hlength, fun k hk => (h.http k hk).trans_le hlength⟩

/-- **The commands of the service**, and what happens outside. -/
theorem service_lawful : (service P L).Lawful where
  refl k cmd s := Relies.refl k s
  others hne hguar := hguar.1.relies hne
  holds hguar := hguar.2
  holds_later hkeeps hrely := keeps_later hkeeps (Relies.session hrely)
  post_later hserved hrely := served_later hserved hrely
  count hguar := hguar.1.commands
  fact howned hk hguar := howned.does hk hguar.1
  begins cmd howned := howned.begins cmd
  spawn {cmds _ s} msg howned hcount := by
    obtain ⟨hsession, hclosed⟩ := howned.fresh
    change s.commands = cmds.length at hcount
    have hserves : ∀ s₀, Does cmds.length s₀ s.beginCommand →
        (serve L cmds.length (RspCommand.ofMessage L msg)).Meets
          (contract cmds.length ((RspCommand.ofMessage L msg).Keeps L))
          (Serves L cmds.length (RspCommand.ofMessage L msg)) s₀ s.beginCommand :=
      fun s₀ hdoes => serve_serves _ hsession hdoes hclosed
    have hrun : ((service P L).loop.main msg).run s =
        (serve L cmds.length (RspCommand.ofMessage L msg)).run s.beginCommand := by
      rw [← hcount]
      rfl
    refine ⟨?_, ?_⟩
    · refine Coro.meets_get_bind.mpr (Coro.meets_modify_bind.mpr ?_)
      rw [hcount]
      exact hserves s (hcount ▸ does_beginCommand s)
    · rw [hrun]
      exact ((hserves _ (.refl _ _)).run.1.1.commands).1
  resume {cmds es k cmd w s} _ hready := by
    cases w with
    | answer i => exact hready
    | closing => trivial
  outside {cmds es e s s'} howned hs := by
    obtain ⟨hlater, hhttp, hcommands⟩ := outside_later hs
    refine ⟨fun k cmd => outside_relies hs k, hcommands, ?_, ?_⟩
    · exact hlater.command (p := (· < cmds.length)) howned.operations
    · rw [hhttp]
      exact howned.http

end

/-! ### Runs -/

/-- The service on the daemon of the model, throughout a run. -/
def OnModel (events : List (PoolEvent (List (Text × Json)) Outside)) : Prop :=
  ∀ x ∈ Service.happened events, x.Modelled

instance (events : List (PoolEvent (List (Text × Json)) Outside)) : Decidable (OnModel events) :=
  inferInstanceAs (Decidable (∀ x ∈ Service.happened events, x.Modelled))

theorem serving_start (daemon : Daemon) (random : ℕ → ℕ → Bytes) :
    (service P L).Serving [] [] ⟨start daemon random, []⟩ :=
  .start rfl ⟨fun op h => (by cases h), fun k h => (by cases h)⟩

theorem begun_eq (events : List (PoolEvent (List (Text × Json)) Outside)) :
    (service P L).begun events = begun L events := by
  unfold Service.begun begun
  congr 1
  funext e
  cases e <;> rfl

section

variable {daemon : Daemon} {random : ℕ → ℕ → Bytes}
  {events : List (PoolEvent (List (Text × Json)) Outside)} {p : Pool Lpa LpaAwait Json}

/-- The record and the result of every command of a run. -/
theorem serving_run (h : runFrom (loop P L).step ⟨start daemon random, []⟩ events = some p) (k : ℕ)
    (cmd : RspCommand) (hk : (begun L events)[k]? = some cmd) : cmd.Keeps L (p.state.session k) ∧
      ∀ r, p.tasks[k]? = some (.done r) → Served L k cmd r p.state := by
  have hserving := (serving_start daemon random).run service_lawful h
  rw [List.nil_append, begun_eq] at hserving
  exact hserving.command hk

/-- What both a command and what happens outside preserve, holds all along. -/
theorem invariant_run {I : Lpa → Prop} (hdoes : ∀ k s s', I s → Does k s s' → I s')
    (houtside : ∀ s s' x, x.Modelled → I s → outside P L s x = some s' → I s')
    (hmodel : OnModel events) (hI : I (start daemon random))
    (h : runFrom (loop P L).step ⟨start daemon random, []⟩ events = some p) : I p.state := by
  have hstart : (service P L).Serving [] [] ⟨start daemon random, []⟩ := serving_start daemon random
  exact hstart.invariant service_lawful (fun k cmd s s' hs hguar => hdoes k s s' hs hguar.1)
    (fun s s' x hx hs hout _ => houtside s s' x hx hs hout) hmodel hI h

end

/-- **The sessions of the service.**  In every run, whatever clients ask and whatever the daemon and the
SM-DP+ answer, in any order: the operations of each command keep to its protocol, and a command that has
ended has returned what they say, and has no HTTP client open. -/
theorem rsp_sessions (daemon : Daemon) (random : ℕ → ℕ → Bytes)
    (events : List (PoolEvent (List (Text × Json)) Outside)) (p : Pool Lpa LpaAwait Json)
    (h : runFrom (loop P L).step ⟨start daemon random, []⟩ events = some p) (k : ℕ) (cmd : RspCommand)
    (hk : (begun L events)[k]? = some cmd) :
    cmd.Keeps L (p.state.session k) ∧ ∀ r, p.tasks[k]? = some (.done r) →
      cmd.Answers L (p.state.session k) r ∧ k ∉ p.state.http := by
  obtain ⟨hkeeps, hserved⟩ := serving_run h k cmd hk
  exact ⟨hkeeps, fun r hr => ⟨(hserved r hr).answers, (hserved r hr).closed⟩⟩

end

/-- A library for the run below. -/
def testLibrary : RspLibrary where
  json := { str _ := "None".toList }
  isZero text := text = "0.0".toList
  strError _ := "error".toList

/-- The answer of an SM-DP+ that has nothing to say. -/
def emptyResponse : HttpResponse := { statusCode := 200, json := .ok (.obj []) }

/-- The answer with a package. -/
def packageResponse : HttpResponse where
  statusCode := 200
  json := .ok (.obj [("profileMetadata".toList, .obj [("iccid".toList, .str ['1']),
    ("imsi".toList, .str []), ("ki".toList, .str []), ("opc".toList, .str [])])])

/-- A download, and a list of the profiles that another client asks for meanwhile. -/
def downloadRun : List (PoolEvent (List (Text × Json)) Outside) :=
  [.spawn [("command".toList, .str "download".toList), ("activation_code".toList, .str "1$a$b".toList)],
    .outside (.process 0 [] none), .resume 0, .outside (.respond 1 emptyResponse), .resume 0,
    .outside (.respond 2 emptyResponse), .resume 0,
    .spawn [("command".toList, .str "list".toList)],
    .outside (.process 3 [] none), .resume 0, .outside (.respond 5 packageResponse), .resume 0,
    .outside (.process 6 [] none), .outside (.process 4 [] none), .resume 1, .resume 0,
    .outside (.respond 7 emptyResponse), .resume 0, .resume 0]

/-- What a command has returned. -/
def returned (p : Pool Lpa LpaAwait Json) (k : ℕ) : Option Json :=
  match p.tasks[k]? with
  | some (.done (.ok r)) => some r
  | _ => none

theorem returned_eq_some {p : Pool Lpa LpaAwait Json} {k : ℕ} {r : Json} (h : returned p k = some r) :
    p.tasks[k]? = some (.done (.ok r)) := by
  unfold returned at h
  split at h
  · next hr =>
      obtain rfl := Option.some.inj h
      exact hr
  · cases h

/-- The success in the object of a download. -/
def success : Json → Bool
  | .obj ((_, .bool b) :: _) => b
  | _ => false

theorem downloadRun_ends : ∃ p r, runFrom (loop ApduHandler.zeroPlatform testLibrary).step
    ⟨start (Daemon.start ['8']) fun _ _ => [], []⟩ downloadRun = some p ∧
      p.tasks[0]? = some (.done (.ok r)) ∧ success r = true := by
  have hrun : ((runFrom (loop ApduHandler.zeroPlatform testLibrary).step
      ⟨start (Daemon.start ['8']) fun _ _ => [], []⟩ downloadRun).bind (returned · 0)).any
        success = true := by
    decide +kernel
  obtain ⟨r, hr, hsuccess⟩ := (Option.any_eq_true _ _).mp hrun
  obtain ⟨p, hp, hr⟩ := Option.bind_eq_some_iff.mp hr
  exact ⟨p, r, hp, returned_eq_some hr, hsuccess⟩

/-- The download of the run keeps to the protocol, and returns what its report says. -/
theorem rsp_sessions_download :
    ∃ p pre op address pending, runFrom (loop ApduHandler.zeroPlatform testLibrary).step
        ⟨start (Daemon.start ['8']) fun _ _ => [], []⟩ downloadRun = some p ∧
      Follows testLibrary ['a'] (p.state.session 0) ∧ p.state.session 0 = pre ++ [op] ∧
      op.Reports address pending ∧ op.Succeeded ∧ pending.result = 0 ∧ 0 ∉ p.state.http := by
  obtain ⟨p, r, hp, hr, hsuccess⟩ := downloadRun_ends
  obtain ⟨hkeeps, hends⟩ := rsp_sessions _ _ _ p hp 0
    (.download (.str "1$a$b".toList) .null) rfl
  obtain ⟨hanswers, hclosed⟩ := hends _ hr
  have hfollows : Follows testLibrary ['a'] (p.state.session 0) := hkeeps.1 ['a'] (by decide +kernel)
  rcases hanswers.1 _ _ rfl with ⟨e, he, -⟩ | ⟨pre, op, address, pending, hsession, hreports, hdone, he⟩
  · obtain rfl := Except.ok.inj he
    cases hsuccess
  · obtain rfl := Except.ok.inj he
    exact ⟨p, pre, op, address, pending, hp, hfollows, hsession, hreports, hdone,
      of_decide_eq_true hsuccess, hclosed⟩

end Lpa

end VirtualPhone
