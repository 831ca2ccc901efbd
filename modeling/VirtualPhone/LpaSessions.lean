import Mathlib.Data.List.Infix
import VirtualPhone.Lpa

/-! # The sessions of the LPA

The operations of one command are its session.  `Next` is the protocol of a download: which request
comes after operations that were answered.  `follows_protocol` says that every download of the service
keeps to it, whatever other commands run in between and whatever the eUICC and the SM-DP+ answer, and
that its result is what its session says.

Each command is verified by itself.  It relies on the others to leave its session alone, but for the
outcomes that come in (`Relies`), and adds operations to no other (`Does`). -/

namespace VirtualPhone

open Runtime
open Coro (get modify raise attempt)

/-! ### Operations -/

namespace LpaOperation

/-- The operation at a later time: once it has an outcome, nothing changes. -/
def Later (op op' : LpaOperation) : Prop :=
  op'.command = op.command ∧ op'.request = op.request ∧ (op.outcome.isSome → op' = op)

theorem Later.refl (op : LpaOperation) : op.Later op := ⟨rfl, rfl, fun _ => rfl⟩

theorem Later.trans {a b c : LpaOperation} (h : a.Later b) (h' : b.Later c) : a.Later c := by
  refine ⟨h'.1.trans h.1, h'.2.1.trans h.2.1, fun ha => ?_⟩
  obtain rfl := h.2.2 ha
  exact h'.2.2 ha

/-- The daemon has replied, or the SM-DP+ has responded with a good status. -/
def Succeeded (op : LpaOperation) : Prop :=
  match op.request with
  | .euicc _ => ∃ fields, op.outcome = some (.ok (.reply fields))
  | .smdp _ _ => ∃ response, op.outcome = some (.ok (.http response)) ∧ response.raiseForStatus = .ok ()

theorem succeeded_euicc {op : LpaOperation} {message : List (Text × Json)}
    (h : op.request = .euicc message) :
    op.Succeeded ↔ ∃ fields, op.outcome = some (.ok (.reply fields)) := by
  unfold Succeeded
  rw [h]

theorem succeeded_smdp {op : LpaOperation} {address : Text} {request : Es9Request}
    (h : op.request = .smdp address request) : op.Succeeded ↔
      ∃ response, op.outcome = some (.ok (.http response)) ∧ response.raiseForStatus = .ok () := by
  unfold Succeeded
  rw [h]

theorem Succeeded.settled {op : LpaOperation} (h : op.Succeeded) : op.outcome.isSome := by
  cases hrequest : op.request with
  | euicc message =>
      obtain ⟨_, h⟩ := (succeeded_euicc hrequest).mp h
      rw [h]
      rfl
  | smdp address request =>
      obtain ⟨_, h, -⟩ := (succeeded_smdp hrequest).mp h
      rw [h]
      rfl

/-- The operation is the report to the SM-DP+. -/
def Reports (op : LpaOperation) (address : Text) (pending : PendingNotification) : Prop :=
  op.request = .smdp address (.handleNotification pending)

/-- All operations have an outcome. -/
def AllSettled (ops : List LpaOperation) : Prop := ∀ op ∈ ops, op.outcome.isSome

/-- Operations at a later time. -/
abbrev AllLater : List LpaOperation → List LpaOperation → Prop := List.Forall₂ Later

theorem allSettled_nil : AllSettled [] := fun _ h => by cases h

theorem allSettled_concat {ops : List LpaOperation} {op : LpaOperation}
    {outcome : Except PyError LpaAnswer} (h : AllSettled ops) (hop : op.outcome = some outcome) :
    AllSettled (ops ++ [op]) := by
  intro op' hop'
  rcases List.mem_append.mp hop' with hop' | hop'
  · exact h op' hop'
  · rw [List.mem_singleton.mp hop', hop]
    rfl

theorem not_succeeded_euicc {op : LpaOperation} {message : List (Text × Json)}
    {outcome : Except PyError LpaAnswer} (hrequest : op.request = .euicc message)
    (houtcome : op.outcome = some outcome) (hne : ∀ reply, outcome ≠ .ok (.reply reply)) :
    ¬op.Succeeded := by
  intro hs
  obtain ⟨reply, hs⟩ := (succeeded_euicc hrequest).mp hs
  exact hne reply (Option.some.inj (houtcome.symm.trans hs))

theorem not_succeeded_smdp {op : LpaOperation} {address : Text} {request : Es9Request}
    {outcome : Except PyError LpaAnswer} (hrequest : op.request = .smdp address request)
    (houtcome : op.outcome = some outcome)
    (hne : ∀ response, outcome = .ok (.http response) → response.raiseForStatus ≠ .ok ()) :
    ¬op.Succeeded := by
  intro hs
  obtain ⟨response, hs, hgood⟩ := (succeeded_smdp hrequest).mp hs
  exact hne response (Option.some.inj (houtcome.symm.trans hs)) hgood

theorem AllLater.refl (ops : List LpaOperation) : AllLater ops ops :=
  List.forall₂_same.mpr fun op _ => .refl op

theorem AllLater.trans {a b c : List LpaOperation} (h : AllLater a b) (h' : AllLater b c) :
    AllLater a c := by
  induction h generalizing c with
  | nil => exact h'
  | cons hab _ ih =>
      cases h' with
      | cons hbc hrest => exact .cons (hab.trans hbc) (ih hrest)

/-- Operations that have their outcomes stay as they are. -/
theorem AllLater.eq_of_settled {ops ops' : List LpaOperation} (h : AllLater ops ops')
    (hsettled : AllSettled ops) : ops' = ops := by
  induction h with
  | nil => rfl
  | cons hop _ ih =>
      obtain ⟨hhead, htail⟩ := List.forall_mem_cons.mp hsettled
      rw [hop.2.2 hhead, ih htail]

theorem AllLater.filter {ops ops' : List LpaOperation} (h : AllLater ops ops') (k : ℕ) :
    AllLater (ops.filter (·.command = k)) (ops'.filter (·.command = k)) := by
  induction h with
  | nil => exact .nil
  | @cons op op' ops ops' hop _ ih =>
      by_cases hk : op.command = k
      · rw [List.filter_cons_of_pos (by simpa using hk),
          List.filter_cons_of_pos (by simpa using hop.1.trans hk)]
        exact .cons hop ih
      · rw [List.filter_cons_of_neg (by simpa using hk),
          List.filter_cons_of_neg (by simpa using fun he => hk (hop.1.symm.trans he))]
        exact ih

theorem AllLater.split {old new ops : List LpaOperation} (h : AllLater (old ++ new) ops) :
    ∃ old' new', ops = old' ++ new' ∧ AllLater old old' ∧ AllLater new new' := by
  refine ⟨ops.take old.length, ops.drop old.length, (List.take_append_drop _ _).symm, ?_, ?_⟩
  · have htake := List.forall₂_take old.length h
    rwa [List.take_left] at htake
  · have hdrop := List.forall₂_drop old.length h
    rwa [List.drop_left] at hdrop

theorem AllLater.command {ops ops' : List LpaOperation} (h : AllLater ops ops') {p : ℕ → Prop}
    (hp : ∀ op ∈ ops, p op.command) : ∀ op ∈ ops', p op.command := by
  induction h with
  | nil => exact hp
  | @cons op op' ops ops' hop _ ih =>
      obtain ⟨hhead, htail⟩ := List.forall_mem_cons.mp hp
      exact List.forall_mem_cons.mpr ⟨hop.1 ▸ hhead, ih htail⟩

theorem AllLater.modify {ops : List LpaOperation} {i : ℕ} {op : LpaOperation}
    {f : LpaOperation → LpaOperation} (hi : ops[i]? = some op) (h : op.Later (f op)) : AllLater ops (ops.modify i f) := by
  refine List.forall₂_iff_get.mpr ⟨(List.length_modify ..).symm, fun n hn hn' => ?_⟩
  simp only [List.get_eq_getElem, List.getElem_modify]
  split_ifs with hin
  · obtain rfl := hin
    obtain ⟨_, rfl⟩ := List.getElem?_eq_some_iff.mp hi
    exact h
  · exact .refl _

end LpaOperation

namespace Lpa

open LpaOperation (AllSettled AllLater)

/-- The session of command `k`. -/
def session (s : Lpa) (k : ℕ) : List LpaOperation := s.operations.filter (·.command = k)

/-! ### The protocol of a download -/

/-- The request that comes next in a download, after operations that were answered. -/
inductive Next (L : RspLibrary) (address : Text) : List LpaOperation → LpaRequest → Prop
  | info : Next L address [] (.euicc (plainMessage "get_info"))
  | initiate {a : LpaOperation} (challenge : Bytes) : address ≠ [] →
      Next L address [a] (.smdp address (.initiateAuthentication challenge [2, 5, 0] address))
  | authenticate {a b : LpaOperation} {challenge svn : Bytes} {response : HttpResponse} {data : Json}
      {auth : AuthenticateServerResponse} :
      b.request = .smdp address (.initiateAuthentication challenge svn address) →
      b.outcome = some (.ok (.http response)) → response.data = .ok data →
      readAuthentication L challenge address data = .ok auth →
      Next L address [a, b] (.smdp address (.authenticateClient auth.transactionId challenge))
  | prepare {a b c : LpaOperation} : Next L address [a, b, c] (.euicc storeDataMessage)
  | package {a b c d : LpaOperation} {transactionId : Json} {challenge : Bytes} :
      c.request = .smdp address (.authenticateClient transactionId challenge) →
      Next L address [a, b, c, d] (.smdp address (.getBoundProfilePackage transactionId []))
  | install {a b c d e : LpaOperation} {response : HttpResponse} {data : Json}
      {bpp : BoundProfilePackage} :
      e.outcome = some (.ok (.http response)) → response.data = .ok data →
      readPackage data = .ok bpp → bpp.profileMetadata.truthy L = true →
      Next L address [a, b, c, d, e] (.euicc (installMessage bpp.profileMetadata))
  | report {a b c d e f : LpaOperation} {transactionId : Json} {preparation : Bytes}
      {fields : List (Text × Json)} :
      e.request = .smdp address (.getBoundProfilePackage transactionId preparation) →
      f.outcome = some (.ok (.reply fields)) →
      ((Json.get? fields "success").getD .null).truthy L = true →
      Next L address [a, b, c, d, e, f]
        (.smdp address (.handleNotification ⟨transactionId, 0, (Json.get? fields "iccid").getD .null⟩))
  | reportFailure {a b c d e f : LpaOperation} {transactionId : Json} {preparation : Bytes}
      {fields : List (Text × Json)} :
      e.request = .smdp address (.getBoundProfilePackage transactionId preparation) →
      f.outcome = some (.ok (.reply fields)) →
      ((Json.get? fields "success").getD .null).truthy L = false →
      Next L address [a, b, c, d, e, f] (.smdp address (.handleNotification ⟨transactionId, 8, .null⟩))
  | reportNothing {a b c d e : LpaOperation} {transactionId : Json} {preparation : Bytes}
      {response : HttpResponse} {data : Json} {bpp : BoundProfilePackage} :
      e.request = .smdp address (.getBoundProfilePackage transactionId preparation) →
      e.outcome = some (.ok (.http response)) → response.data = .ok data →
      readPackage data = .ok bpp → bpp.profileMetadata.truthy L = false →
      Next L address [a, b, c, d, e] (.smdp address (.handleNotification ⟨transactionId, 127, .null⟩))

/-- A session keeps to the protocol: each operation is the next after those before it, which all
succeeded. -/
def Follows (L : RspLibrary) (address : Text) (ops : List LpaOperation) : Prop :=
  ∀ pre op post, ops = pre ++ op :: post →
    Next L address pre op.request ∧ ∀ before ∈ pre, before.Succeeded

/-- The SM-DP+ has accepted the report of a session. -/
def Accepted (ops : List LpaOperation) : Prop :=
  ∃ op ∈ ops, ∃ address pending, op.Reports address pending ∧ op.Succeeded

section

variable {L : RspLibrary} {address : Text}

theorem follows_nil : Follows L address [] := by
  intro pre op post h
  cases pre <;> cases h

theorem follows_concat {ops : List LpaOperation} {op : LpaOperation} (h : Follows L address ops)
    (hnext : Next L address ops op.request) (hall : ∀ before ∈ ops, before.Succeeded) :
    Follows L address (ops ++ [op]) := by
  intro pre op' post heq
  rcases List.eq_nil_or_concat post with rfl | ⟨post, last, rfl⟩
  · obtain ⟨rfl, hop⟩ := List.append_inj' heq rfl
    obtain rfl := List.singleton_inj.mp hop
    exact ⟨hnext, hall⟩
  · rw [List.concat_eq_append, ← List.cons_append, ← List.append_assoc] at heq
    obtain ⟨rfl, -⟩ := List.append_inj' heq rfl
    exact h pre op' post rfl

/-- What was sent stays sent: a session that keeps to the protocol does so later. -/
theorem Follows.later {ops ops' : List LpaOperation} (h : Follows L address ops)
    (hlater : AllLater ops ops') : Follows L address ops' := by
  intro pre' op' post' heq
  subst heq
  have hpre := List.forall₂_take_append ops pre' _ hlater
  have hrest := List.forall₂_drop_append ops pre' _ hlater
  generalize hdrop : ops.drop pre'.length = rest at hrest
  cases hrest with
  | @cons op _ post _ hop hpost =>
      have hsplit : ops = ops.take pre'.length ++ op :: post := by
        rw [← hdrop, List.take_append_drop]
      obtain ⟨hnext, hall⟩ := h _ op post hsplit
      rw [← AllLater.eq_of_settled hpre fun b hb => (hall b hb).settled] at hnext hall
      exact ⟨hop.2.1 ▸ hnext, hall⟩

theorem not_accepted_nil : ¬Accepted [] := by
  rintro ⟨_, h, -⟩
  cases h

theorem not_accepted_concat {ops : List LpaOperation} {op : LpaOperation} (h : ¬Accepted ops)
    (hop : ∀ address pending, op.Reports address pending → ¬op.Succeeded) :
    ¬Accepted (ops ++ [op]) := by
  rintro ⟨op', hmem, address, pending, hreports, hsucceeded⟩
  rcases List.mem_append.mp hmem with hmem | hmem
  · exact h ⟨op', hmem, address, pending, hreports, hsucceeded⟩
  · obtain rfl := List.mem_singleton.mp hmem
    exact hop address pending hreports hsucceeded

end

/-! ### What a command relies on, and what it does -/

/-- The others leave the session of command `k` alone, but for outcomes, and its HTTP client. -/
structure Relies (k : ℕ) (s s' : Lpa) : Prop where
  operations : ∃ old new, s'.operations = old ++ new ∧ AllLater s.operations old ∧
    ∀ op ∈ new, op.command ≠ k
  http : k ∈ s'.http ↔ k ∈ s.http

/-- A command adds to its own session and opens or closes its own HTTP client. -/
structure Does (k : ℕ) (s s' : Lpa) : Prop where
  operations : ∃ new, s'.operations = s.operations ++ new ∧
    ∀ op ∈ new, op.command = k ∧ op.outcome = none ∧ op.processedBy = none
  http : ∀ j, j ≠ k → (j ∈ s'.http ↔ j ∈ s.http)
  daemon : s'.daemon = s.daemon
  commands : s.commands ≤ s'.commands ∧ s'.commands ≤ max s.commands (k + 1)

section

variable {k : ℕ} {s s' s'' : Lpa}

theorem Relies.refl (k : ℕ) (s : Lpa) : Relies k s s := by
  have hsplit : s.operations = s.operations ++ [] := (List.append_nil _).symm
  have hnew : ∀ op ∈ ([] : List LpaOperation), op.command ≠ k := fun op h => by cases h
  exact ⟨⟨s.operations, [], hsplit, .refl _, hnew⟩, Iff.rfl⟩

theorem Relies.trans (h : Relies k s s') (h' : Relies k s' s'') : Relies k s s'' := by
  refine ⟨?_, h'.http.trans h.http⟩
  obtain ⟨old, new, heq, hlater, hnew⟩ := h.operations
  obtain ⟨all, new', heq', hall, hnew'⟩ := h'.operations
  rw [heq] at hall
  obtain ⟨old₁, new₁, rfl, hold₁, hnew₁⟩ := hall.split
  refine ⟨old₁, new₁ ++ new', by rw [heq', List.append_assoc], hlater.trans hold₁, fun op hop => ?_⟩
  exact (List.mem_append.mp hop).elim (hnew₁.command (p := (· ≠ k)) hnew op) (hnew' op)

theorem filter_others {new : List LpaOperation} (h : ∀ op ∈ new, op.command ≠ k) :
    new.filter (·.command = k) = [] :=
  List.filter_eq_nil_iff.mpr fun op hop => by simpa using h op hop

theorem Relies.session (h : Relies k s s') : AllLater (s.session k) (s'.session k) := by
  obtain ⟨old, new, heq, hlater, hnew⟩ := h.operations
  unfold Lpa.session
  rw [heq, List.filter_append, filter_others hnew, List.append_nil]
  exact hlater.filter k

/-- A change that adds no operation: there are only the HTTP clients to look at, and the number of commands. -/
theorem Does.of_operations (hops : s'.operations = s.operations)
    (hhttp : ∀ j, j ≠ k → (j ∈ s'.http ↔ j ∈ s.http)) (hdaemon : s'.daemon = s.daemon)
    (hcommands : s.commands ≤ s'.commands ∧ s'.commands ≤ max s.commands (k + 1)) : Does k s s' := by
  have hsplit : s'.operations = s.operations ++ [] := by rw [hops, List.append_nil]
  exact ⟨⟨[], hsplit, fun op h => by cases h⟩, hhttp, hdaemon, hcommands⟩

theorem Does.of_eq (hops : s'.operations = s.operations) (hhttp : s'.http = s.http)
    (hdaemon : s'.daemon = s.daemon) (hcommands : s'.commands = s.commands) : Does k s s' := by
  refine .of_operations hops (fun _ _ => by rw [hhttp]) hdaemon ⟨hcommands.ge, ?_⟩
  exact hcommands.le.trans (le_max_left _ _)

theorem Does.refl (k : ℕ) (s : Lpa) : Does k s s :=
  .of_eq rfl rfl rfl rfl

theorem Does.trans (h : Does k s s') (h' : Does k s' s'') : Does k s s'' := by
  refine ⟨?_, fun j hj => (h'.http j hj).trans (h.http j hj), h'.daemon.trans h.daemon,
    h.commands.1.trans h'.commands.1, ?_⟩
  swap
  · exact h'.commands.2.trans (max_le h.commands.2 (le_max_right _ _))
  obtain ⟨new, heq, hnew⟩ := h.operations
  obtain ⟨new', heq', hnew'⟩ := h'.operations
  refine ⟨new ++ new', by rw [heq', heq, List.append_assoc], fun op hop => ?_⟩
  exact (List.mem_append.mp hop).elim (hnew op) (hnew' op)

theorem session_append {new : List LpaOperation} (h : s'.operations = s.operations ++ new) (j : ℕ) :
    s'.session j = s.session j ++ new.filter (·.command = j) := by
  rw [session, h, List.filter_append]
  rfl

theorem Does.relies {j : ℕ} (h : Does k s s') (hj : j ≠ k) : Relies j s s' := by
  obtain ⟨new, heq, hnew⟩ := h.operations
  refine ⟨⟨s.operations, new, heq, .refl _, fun op hop => ?_⟩, h.http j hj⟩
  rw [(hnew op hop).1]
  exact hj.symm

/-- Changes that the operations, the HTTP clients and the daemon have no part in. -/
theorem does_send (k : ℕ) (request : LpaRequest) (s : Lpa) : Does k s (s.send k request) := by
  have hnew : ∀ op ∈ [({ command := k, request := request } : LpaOperation)],
      op.command = k ∧ op.outcome = none ∧ op.processedBy = none := by
    intro op hop
    rw [List.mem_singleton.mp hop]
    exact ⟨rfl, rfl, rfl⟩
  exact ⟨⟨_, rfl, hnew⟩, fun _ _ => Iff.rfl, rfl, le_rfl, le_max_left _ _⟩

theorem does_openHttp (k : ℕ) (s : Lpa) : Does k s (s.openHttp k) := by
  unfold openHttp
  split_ifs with hopen
  · exact .refl k s
  · have hothers : ∀ j, j ≠ k → (j ∈ s.http ++ [k] ↔ j ∈ s.http) := by
      intro j hj
      simp [hj]
    exact .of_operations rfl hothers rfl ⟨le_rfl, le_max_left _ _⟩

theorem does_closeHttp (k : ℕ) (s : Lpa) : Does k s (s.closeHttp k) := by
  have hothers : ∀ j, j ≠ k → (j ∈ (s.closeHttp k).http ↔ j ∈ s.http) := by
    intro j hj
    simp [closeHttp, hj]
  exact .of_operations rfl hothers rfl ⟨le_rfl, le_max_left _ _⟩

theorem does_beginCommand (s : Lpa) : Does s.commands s s.beginCommand :=
  .of_operations rfl (fun _ _ => Iff.rfl) rfl ⟨Nat.le_succ _, le_max_right _ _⟩

end

/-- The contract of command `k`, whose session is `good` wherever the command is suspended. -/
def contract (k : ℕ) (good : List LpaOperation → Prop) : Contract Lpa LpaAwait where
  rely := Relies k
  guar s s' := Does k s s' ∧ good (s'.session k)
  resumes w s := match w with
    | .answer i => (s.operations[i]?.bind LpaOperation.outcome).isSome
    | .closing => True
  rely_trans := Relies.trans

/-! ### One request -/

section

variable {k : ℕ} {good : List LpaOperation → Prop} {s₀ s : Lpa}

/-- **A request.**  After it, the session is the one before it and one operation, which has the outcome
of the request. -/
theorem ask_meets {request : LpaRequest} {post : Lpa → Except PyError LpaAnswer → Lpa → Prop}
    (hdoes : Does k s₀ s) (hsettled : AllSettled (s.session k))
    (hgood : good (s.session k ++ [{ command := k, request := request }]))
    (hpost : ∀ s' op outcome, s'.session k = s.session k ++ [op] → op.command = k →
      op.request = request → op.outcome = some outcome → (k ∈ s'.http ↔ k ∈ s.http) →
      post s' outcome s') :
    (ask k request).Meets (contract k good) post s₀ s := by
  have hsession : (s.send k request).session k =
      s.session k ++ [{ command := k, request := request }] := by
    rw [session_append (s := s) rfl]
    simp
  refine ⟨⟨hdoes.trans (does_send k request s), hsession ▸ hgood⟩, fun s' hrely hresumes => ?_⟩
  -- the operation at its place in the list is the last one of the session
  obtain ⟨all, new, heq, hall, hnew⟩ := hrely.operations
  obtain ⟨old, last, rfl, hold, hlast⟩ := AllLater.split (hall : AllLater (s.operations ++ [_]) all)
  cases hlast with
  | @cons _ op _ _ hop hnil =>
      cases hnil
      have hlength : old.length = s.operations.length := (List.Forall₂.length_eq hold).symm
      have hplace : s'.operations[s.operations.length]? = some op := by
        rw [heq, List.append_assoc, ← hlength, List.getElem?_append_right le_rfl, Nat.sub_self]
        rfl
      have hsession' : s'.session k = s.session k ++ [op] := by
        unfold session
        rw [heq, List.filter_append, filter_others hnew, List.append_nil, List.filter_append,
          (hold.filter k).eq_of_settled hsettled, List.filter_singleton]
        simp [hop.1]
      obtain ⟨outcome, houtcome⟩ := Option.isSome_iff_exists.mp (hresumes : Option.isSome _)
      rw [hplace] at houtcome
      refine Coro.meets_get_bind.mpr ?_
      rw [hplace, houtcome]
      exact hpost s' op outcome hsession' hop.1 hop.2.1 houtcome hrely.http

end

/-! ### A download -/

/-- The last operation is not an installation that was done. -/
def NotInstalling (ops : List LpaOperation) : Prop :=
  ∀ pre op package, ops = pre ++ [op] → op.request = .euicc (installMessage (.obj package)) →
    ¬op.Succeeded

/-- How a download stands to its session: it has failed and the SM-DP+ has accepted no report, or it
returns what the accepted report says.  It does not fail between an installation and the report. -/
inductive Concludes (address : Text) (ops : List LpaOperation) : Except PyError DownloadResult → Prop
  | error (e : PyError) : ¬Accepted ops → NotInstalling ops → Concludes address ops (.error e)
  | finished {pre : List LpaOperation} {op : LpaOperation} {pending : PendingNotification} :
      ops = pre ++ [op] → op.Reports address pending → op.Succeeded →
      Concludes address ops (.ok (.finished (pending.result = 0) pending.iccid pending.result))

section

variable (L : RspLibrary) (address : Text) (k : ℕ)

/-- A download that is not at its end: the session keeps to the protocol, every operation has its
outcome, and no report has been accepted. -/
structure Underway (s₀ s : Lpa) : Prop where
  does : Does k s₀ s
  follows : Follows L address (s.session k)
  settled : AllSettled (s.session k)
  unreported : ¬Accepted (s.session k)

/-- A download that has come to its end. -/
structure Concluded (s₀ : Lpa) (r : Except PyError DownloadResult) (s : Lpa) : Prop where
  does : Does k s₀ s
  follows : Follows L address (s.session k)
  settled : AllSettled (s.session k)
  concludes : Concludes address (s.session k) r

variable {L address k} {s₀ s : Lpa}

theorem Underway.fails (h : Underway L address k s₀ s) (hlast : NotInstalling (s.session k))
    (e : PyError) : Concluded L address k s₀ (.error e) s :=
  ⟨h.does, h.follows, h.settled, .error e h.unreported hlast⟩

theorem notInstalling_nil : NotInstalling [] := by
  intro pre op package h
  cases pre <;> cases h

theorem notInstalling_concat {ops : List LpaOperation} {op : LpaOperation}
    (h : ∀ package, op.request = .euicc (installMessage (.obj package)) → ¬op.Succeeded) :
    NotInstalling (ops ++ [op]) := by
  intro pre op' package heq
  obtain ⟨-, hop⟩ := List.append_inj' heq rfl
  obtain rfl := List.singleton_inj.mp hop
  exact h package

theorem notInstalling_smdp {ops : List LpaOperation} {op : LpaOperation} {address : Text}
    {request : Es9Request} (h : op.request = .smdp address request) : NotInstalling (ops ++ [op]) := by
  refine notInstalling_concat fun package hpackage => ?_
  rw [h] at hpackage
  cases hpackage

theorem Underway.change {s' : Lpa} (h : Underway L address k s₀ s) (hdoes : Does k s s')
    (hops : s'.operations = s.operations) : Underway L address k s₀ s' := by
  have hsession : s'.session k = s.session k := by rw [session, hops]; rfl
  exact ⟨h.does.trans hdoes, hsession ▸ h.follows, hsession ▸ h.settled, hsession ▸ h.unreported⟩

theorem ask_underway {request : LpaRequest} {post : Lpa → Except PyError LpaAnswer → Lpa → Prop}
    (h : Underway L address k s₀ s) (hall : ∀ op ∈ s.session k, op.Succeeded)
    (hnext : Next L address (s.session k) request)
    (hquiet : ∀ address pending, request ≠ .smdp address (.handleNotification pending))
    (hpost : ∀ s' op outcome, s'.session k = s.session k ++ [op] → op.request = request →
      op.outcome = some outcome → Underway L address k s' s' → post s' outcome s') :
    (ask k request).Meets (contract k (Follows L address)) post s₀ s := by
  refine ask_meets h.does h.settled (follows_concat h.follows hnext hall) ?_
  intro s' op outcome hsession _ hrequest houtcome _
  have hfollows : Follows L address (s'.session k) := by
    rw [hsession]
    exact follows_concat h.follows (hrequest ▸ hnext) hall
  have hsettled : AllSettled (s'.session k) := by
    rw [hsession]
    exact LpaOperation.allSettled_concat h.settled houtcome
  have hunreported : ¬Accepted (s'.session k) := by
    rw [hsession]
    refine not_accepted_concat h.unreported fun address pending hreports _ => ?_
    exact hquiet address pending (hrequest.symm.trans hreports)
  exact hpost s' op outcome hsession hrequest houtcome ⟨.refl k s', hfollows, hsettled, hunreported⟩

theorem sendMessage_underway {message : List (Text × Json)}
    {post : Lpa → Except PyError (List (Text × Json)) → Lpa → Prop}
    (h : Underway L address k s₀ s) (hall : ∀ op ∈ s.session k, op.Succeeded)
    (hnext : Next L address (s.session k) (.euicc message))
    (hok : ∀ s' op fields, s'.session k = s.session k ++ [op] → op.request = .euicc message →
      op.outcome = some (.ok (.reply fields)) → Underway L address k s' s' → post s' (.ok fields) s')
    (herror : ∀ s' e, Concluded L address k s' (.error e) s' → post s' (.error e) s') :
    (sendMessage k message).Meets (contract k (Follows L address)) post s₀ s := by
  refine Coro.meets_bind.mpr (ask_underway h hall hnext (fun _ _ he => by cases he) ?_)
  intro s' op outcome hsession hrequest houtcome hunder
  have hfails : ∀ e, (∀ fields, outcome ≠ .ok (.reply fields)) →
      Concluded L address k s' (.error e) s' := by
    refine fun e hne => hunder.fails ?_ e
    rw [hsession]
    exact notInstalling_concat fun _ _ => LpaOperation.not_succeeded_euicc hrequest houtcome hne
  rcases outcome with e | fields | response
  · exact herror s' e (hfails e fun _ he => by cases he)
  · exact hok s' op fields hsession hrequest houtcome hunder
  · exact herror s' .attributeError (hfails _ fun _ he => by cases he)

theorem post_underway {request : Es9Request} {post : Lpa → Except PyError HttpResponse → Lpa → Prop}
    (h : Underway L address k s₀ s) (hall : ∀ op ∈ s.session k, op.Succeeded)
    (hnext : Next L address (s.session k) (.smdp address request))
    (hquiet : ∀ pending, request ≠ .handleNotification pending)
    (hok : ∀ s' op response, s'.session k = s.session k ++ [op] → op.request = .smdp address request →
      op.outcome = some (.ok (.http response)) → Underway L address k s' s' →
      (∀ e, Concluded L address k s' (.error e) s') → post s' (.ok response) s')
    (herror : ∀ s' e, Concluded L address k s' (.error e) s' → post s' (.error e) s') :
    (Lpa.post k address request).Meets (contract k (Follows L address)) post s₀ s := by
  refine Coro.meets_modify_bind.mpr (Coro.meets_bind.mpr ?_)
  have hopen : Underway L address k s₀ (s.openHttp k) := h.change (does_openHttp k s) rfl
  refine ask_underway hopen hall hnext (fun _ pending he => ?_) ?_
  · exact hquiet pending (by injection he)
  intro s' op outcome hsession hrequest houtcome hunder
  have hfails : ∀ e, Concluded L address k s' (.error e) s' :=
    hunder.fails (hsession ▸ notInstalling_smdp hrequest)
  rcases outcome with e | fields | response
  · exact herror s' e (hfails e)
  · exact herror s' .attributeError (hfails _)
  · exact hok s' op response hsession hrequest houtcome hunder hfails

theorem data_ok {response : HttpResponse} {data : Json} (h : response.data = .ok data) :
    response.raiseForStatus = .ok () := by
  unfold HttpResponse.data at h
  cases hraise : response.raiseForStatus with
  | ok u => rfl
  | error e =>
      rw [hraise] at h
      cases h

theorem report_concluded {pending : PendingNotification}
    (h : Underway L address k s₀ s) (hall : ∀ op ∈ s.session k, op.Succeeded)
    (hnext : Next L address (s.session k) (.smdp address (.handleNotification pending))) :
    (do
      handleNotification k pending address
      modify (setState .idle)
      modify (setTransaction .null)
      return .finished (pending.result = 0) pending.iccid pending.result :
        LpaAsync DownloadResult).Meets (contract k (Follows L address))
      (Concluded L address k) s₀ s := by
  refine Coro.meets_bind.mpr (Coro.meets_bind.mpr (Coro.meets_modify_bind.mpr (Coro.meets_bind.mpr ?_)))
  have hopen : Underway L address k s₀ (s.openHttp k) := h.change (does_openHttp k s) rfl
  refine ask_meets hopen.does hopen.settled (follows_concat h.follows hnext hall) ?_
  intro s' op outcome hsession _ hrequest houtcome _
  have hfollows : Follows L address (s'.session k) := by
    rw [hsession]
    exact follows_concat h.follows (hrequest ▸ hnext) hall
  have hsettled : AllSettled (s'.session k) := by
    rw [hsession]
    exact LpaOperation.allSettled_concat h.settled houtcome
  have hfails : ∀ e, (∀ response, outcome = .ok (.http response) → response.raiseForStatus ≠ .ok ()) →
      Concluded L address k s' (.error e) s' := by
    intro e hne
    have hnot : ¬op.Succeeded := LpaOperation.not_succeeded_smdp hrequest houtcome hne
    have hunreported : ¬Accepted (s'.session k) := by
      rw [hsession]
      exact not_accepted_concat h.unreported fun _ _ _ => hnot
    have hlast : NotInstalling (s'.session k) := by
      rw [hsession]
      exact notInstalling_smdp hrequest
    exact ⟨.refl k s', hfollows, hsettled, .error e hunreported hlast⟩
  rcases outcome with e | fields | response
  · exact hfails e fun _ he => by cases he
  · exact hfails .attributeError fun _ he => by cases he
  · cases hraise : response.raiseForStatus with
    | error e =>
        change Coro.thenMeets _ _ _ s' response.raiseForStatus s'
        rw [hraise]
        refine hfails e fun response' he hgood => ?_
        cases he
        rw [hraise] at hgood
        cases hgood
    | ok u =>
        change Coro.thenMeets _ _ _ s' response.raiseForStatus s'
        rw [hraise]
        have hsucceeded : op.Succeeded :=
          (LpaOperation.succeeded_smdp hrequest).mpr ⟨response, houtcome, hraise⟩
        exact ⟨.of_eq rfl rfl rfl rfl, hfollows, hsettled, .finished hsession hrequest hsucceeded⟩

theorem all_succeeded {s s' : Lpa} {op : LpaOperation} (heq : s'.session k = s.session k ++ [op])
    (hall : ∀ op ∈ s.session k, op.Succeeded) (hop : op.Succeeded) :
    ∀ op ∈ s'.session k, op.Succeeded := by
  rw [heq]
  intro op' hop'
  rcases List.mem_append.mp hop' with hop' | hop'
  · exact hall op' hop'
  · rw [List.mem_singleton.mp hop']
    exact hop

theorem session_concat {s s' : Lpa} {op : LpaOperation} {ops : List LpaOperation}
    (heq : s'.session k = s.session k ++ [op]) (hops : s.session k = ops) :
    s'.session k = ops ++ [op] := by
  rw [heq, hops]

/-- What follows a package that was read: the installation and the report. -/
theorem install_concluded {a b c d e : LpaOperation} {transactionId : Json} {preparation : Bytes}
    {response : HttpResponse} {data : Json} {bpp : BoundProfilePackage}
    (h : Underway L address k s₀ s) (hall : ∀ op ∈ s.session k, op.Succeeded)
    (hsession : s.session k = [a, b, c, d, e])
    (hrequest : e.request = .smdp address (.getBoundProfilePackage transactionId preparation))
    (houtcome : e.outcome = some (.ok (.http response))) (hdata : response.data = .ok data)
    (hpackage : readPackage data = .ok bpp) :
    (do
      let installResult ← loadBoundProfilePackage k L bpp
      handleNotification k
        { transactionId := transactionId, result := installResult.resultCode.value
          iccid := installResult.iccid } address
      modify (setState .idle)
      modify (setTransaction .null)
      return .finished (installResult.resultCode = .ok) installResult.iccid
        installResult.resultCode.value : LpaAsync DownloadResult).Meets
      (contract k (Follows L address)) (Concluded L address k) s₀ s := by
  refine Coro.meets_bind.mpr ?_
  unfold loadBoundProfilePackage
  cases hmetadata : bpp.profileMetadata.truthy L with
  | false =>
      refine report_concluded h hall ?_
      rw [hsession]
      exact .reportNothing hrequest houtcome hdata hpackage hmetadata
  | true =>
      refine Coro.meets_bind.mpr (sendMessage_underway h hall ?_ ?_ fun s' e h => h)
      · rw [hsession]
        exact .install houtcome hdata hpackage hmetadata
      intro s' f fields hs' hf hfo h'
      have hall' := all_succeeded hs' hall ((LpaOperation.succeeded_euicc hf).mpr ⟨fields, hfo⟩)
      have hsession' : s'.session k = [a, b, c, d, e, f] := session_concat hs' hsession
      change Coro.Meets _ _ (if _ then _ else _) s' s'
      cases hsuccess : ((Json.get? fields "success").getD .null).truthy L with
      | false =>
          refine report_concluded h' hall' ?_
          rw [hsession']
          exact .reportFailure hrequest hfo hsuccess
      | true =>
          change Coro.Meets _ _ (Coro.done (bpp.profileMetadata.getOr _ _) >>= _) s' s'
          cases hget : bpp.profileMetadata.getOr "transaction_id" (.str []) with
          | error e =>
              refine h'.fails ?_ e
              rw [hs']
              refine notInstalling_concat fun package hpackage _ => ?_
              rw [hf] at hpackage
              injection hpackage with hpackage
              injection hpackage with _ hpackage
              injection hpackage with hpackage _
              injection hpackage with _ hpackage
              rw [hpackage] at hget
              cases hget
          | ok transaction =>
              refine report_concluded h' hall' ?_
              rw [hsession']
              exact .report hrequest hfo hsuccess

theorem downloadSteps_concluded (hsession : s.session k = []) (hdoes : Does k s₀ s) :
    (downloadSteps L k address).Meets (contract k (Follows L address)) (Concluded L address k)
      s₀ s := by
  have hstart : Underway L address k s₀ s := by
    refine ⟨hdoes, ?_, ?_, ?_⟩ <;> rw [hsession]
    · exact follows_nil
    · exact LpaOperation.allSettled_nil
    · exact not_accepted_nil
  refine Coro.meets_bind.mpr (Coro.meets_get_bind.mpr (Coro.meets_modify_bind.mpr ?_))
  have hdrawn : Underway L address k s₀ { s with drawn := s.drawn + 1 } :=
    hstart.change (.of_eq rfl rfl rfl rfl) rfl
  have hl₀ : Lpa.session { s with drawn := s.drawn + 1 } k = [] := hsession
  have hall₀ : ∀ op ∈ Lpa.session { s with drawn := s.drawn + 1 } k, op.Succeeded := by
    rw [hl₀]
    exact fun op h => by cases h
  generalize s.random s.drawn 16 = challenge
  have hinfo : Next L address (Lpa.session { s with drawn := s.drawn + 1 } k)
      (.euicc (plainMessage "get_info")) := by
    rw [hl₀]
    exact .info
  refine Coro.meets_bind.mpr (Coro.meets_bind.mpr
    (sendMessage_underway hdrawn hall₀ hinfo ?_ fun s' e h => h))
  intro s₁ a fields hs₁ ha hao h₁
  have hsucceeded₁ : a.Succeeded := (LpaOperation.succeeded_euicc ha).mpr ⟨fields, hao⟩
  have hall₁ : ∀ op ∈ s₁.session k, op.Succeeded := all_succeeded hs₁ hall₀ hsucceeded₁
  have hl₁ : s₁.session k = [a] := session_concat hs₁ hl₀
  refine Coro.meets_bind.mpr ?_
  unfold initiateAuthentication
  split_ifs with haddress
  · refine h₁.fails ?_ _
    rw [hs₁]
    refine notInstalling_concat fun package hpackage => ?_
    rw [ha] at hpackage
    injection hpackage with hpackage
    injection hpackage with hpackage _
    cases hpackage
  have hinitiate : Next L address (s₁.session k)
      (.smdp address (.initiateAuthentication challenge [2, 5, 0] address)) := by
    rw [hl₁]
    exact .initiate challenge haddress
  refine Coro.meets_bind.mpr (post_underway h₁ hall₁ hinitiate (fun _ he => by cases he) ?_
    fun s' e h => h)
  intro s₂ b response hs₂ hb hbo h₂ hfails₂
  have hl₂ : s₂.session k = [a, b] := session_concat hs₂ hl₁
  change Coro.Meets _ _ (Coro.done response.data >>= _) s₂ s₂
  cases hdata : response.data with
  | error e => exact hfails₂ e
  | ok data =>
  change Coro.Meets _ _ (Coro.done (readAuthentication L challenge address data)) s₂ s₂
  cases hauth : readAuthentication L challenge address data with
  | error e => exact hfails₂ e
  | ok auth =>
  have hsucceeded₂ : b.Succeeded :=
    (LpaOperation.succeeded_smdp hb).mpr ⟨response, hbo, data_ok hdata⟩
  have hall₂ : ∀ op ∈ s₂.session k, op.Succeeded := all_succeeded hs₂ hall₁ hsucceeded₂
  refine Coro.meets_modify_bind.mpr (Coro.meets_modify_bind.mpr
    (Coro.meets_bind.mpr (Coro.meets_bind.mpr ?_)))
  have hchanged₂ : Underway L address k s₂
      ((s₂.setTransaction auth.transactionId).setState .downloading) :=
    h₂.change (.of_eq rfl rfl rfl rfl) rfl
  refine post_underway hchanged₂ hall₂ ?_ (fun _ he => by cases he) ?_ fun s' e h => h
  · change Next L address (s₂.session k) _
    rw [hl₂]
    exact .authenticate hb hbo hdata hauth
  intro s₃ c response₃ hs₃ hc hco h₃ hfails₃
  have hl₃ : s₃.session k = [a, b, c] := session_concat hs₃ hl₂
  change Coro.thenMeets _ _ _ s₃ response₃.data s₃
  cases hdata₃ : response₃.data with
  | error e => exact hfails₃ e
  | ok data₃ =>
  have hsucceeded₃ : c.Succeeded :=
    (LpaOperation.succeeded_smdp hc).mpr ⟨response₃, hco, data_ok hdata₃⟩
  have hall₃ : ∀ op ∈ s₃.session k, op.Succeeded := all_succeeded hs₃ hall₂ hsucceeded₃
  refine Coro.meets_bind.mpr (Coro.meets_bind.mpr
    (sendMessage_underway h₃ hall₃ ?_ ?_ fun s' e h => h))
  · rw [hl₃]
    exact .prepare
  intro s₄ d fields₄ hs₄ hd hdo h₄
  have hl₄ : s₄.session k = [a, b, c, d] := session_concat hs₄ hl₃
  have hsucceeded₄ : d.Succeeded := (LpaOperation.succeeded_euicc hd).mpr ⟨fields₄, hdo⟩
  have hall₄ : ∀ op ∈ s₄.session k, op.Succeeded := all_succeeded hs₄ hall₃ hsucceeded₄
  refine Coro.meets_bind.mpr (Coro.meets_bind.mpr
    (post_underway h₄ hall₄ ?_ (fun _ he => by cases he) ?_ fun s' e h => h))
  · rw [hl₄]
    exact .package hc
  intro s₅ e response₅ hs₅ he heo h₅ hfails₅
  have hl₅ : s₅.session k = [a, b, c, d, e] := session_concat hs₅ hl₄
  change Coro.Meets _ _ (Coro.done response₅.data >>= _) s₅ s₅
  cases hdata₅ : response₅.data with
  | error e => exact hfails₅ e
  | ok data₅ =>
  change Coro.Meets _ _ (Coro.done (readPackage data₅)) s₅ s₅
  cases hpackage : readPackage data₅ with
  | error e => exact hfails₅ e
  | ok bpp =>
  have hsucceeded₅ : e.Succeeded :=
    (LpaOperation.succeeded_smdp he).mpr ⟨response₅, heo, data_ok hdata₅⟩
  have hall₅ : ∀ op ∈ s₅.session k, op.Succeeded := all_succeeded hs₅ hall₄ hsucceeded₅
  have hchanged₅ : Underway L address k s₅ (s₅.setState .installing) :=
    h₅.change (.of_eq rfl rfl rfl rfl) rfl
  refine Coro.meets_modify_bind.mpr ?_
  exact install_concluded hchanged₅ hall₅ hl₅ he heo hdata₅ hpackage

/-- The HTTP client of the command is closed, and nothing else is changed. -/
theorem closeClient_meets {good : List LpaOperation → Prop}
    {post : Lpa → Except PyError Unit → Lpa → Prop}
    (hdoes : Does k s₀ s) (hgood : good (s.session k)) (hsettled : AllSettled (s.session k))
    (hpost : ∀ s₁ s', Does k s₁ s' → s'.session k = s.session k → k ∉ s'.http → post s₁ (.ok ()) s') :
    (closeClient k).Meets (contract k good) post s₀ s := by
  refine Coro.meets_get_bind.mpr ?_
  split_ifs with hopen
  · refine ⟨⟨hdoes, hgood⟩, fun s' hrely _ => ?_⟩
    refine hpost s' (s'.closeHttp k) (does_closeHttp k s') ?_ ?_
    · exact hrely.session.eq_of_settled hsettled
    · simp [closeHttp]
  · exact hpost s₀ s hdoes rfl hopen

/-- A download that has returned: its client is closed, and its result is what its session says. -/
structure Returned (L : RspLibrary) (address : Text) (k : ℕ) (s₀ : Lpa)
    (r : Except PyError DownloadResult) (s : Lpa) : Prop extends Concluded L address k s₀ r s where
  closed : k ∉ s.http

theorem downloadBody_returned {code : Text} {ac : ActivationCode}
    (hparse : ActivationCode.parse code = .ok ac) (hsession : s.session k = []) (hdoes : Does k s₀ s) :
    (downloadBody L k (.str code)).Meets (contract k (Follows L ac.smdpAddress))
      (Returned L ac.smdpAddress k) s₀ s := by
  refine Coro.meets_modify_bind.mpr ?_
  change Coro.Meets _ _ (Coro.done (ActivationCode.parse code) >>= _) s₀ (s.setState .authenticating)
  rw [hparse]
  change Coro.Meets _ _ (attempt (downloadSteps L k ac.smdpAddress) >>= _) s₀
    (s.setState .authenticating)
  refine Coro.meets_bind.mpr (Coro.meets_attempt.mpr ?_)
  have hsteps : (downloadSteps L k ac.smdpAddress).Meets (contract k (Follows L ac.smdpAddress))
      (Concluded L ac.smdpAddress k) s₀ (s.setState .authenticating) :=
    downloadSteps_concluded hsession (hdoes.trans (.of_eq rfl rfl rfl rfl))
  refine hsteps.mono fun s₁ r s' h => ?_
  refine Coro.meets_bind.mpr (closeClient_meets h.does h.follows h.settled ?_)
  intro s₂ s'' hdoes' hsame hclosed
  change Returned L ac.smdpAddress k s₂ r s''
  exact ⟨⟨hdoes', hsame ▸ h.follows, hsame ▸ h.settled, hsame ▸ h.concludes⟩, hclosed⟩

theorem downloadBody_unreadable {good : List LpaOperation → Prop} {activationCode : Json}
    (h : ∀ code ac, activationCode = .str code → ActivationCode.parse code ≠ .ok ac)
    {post : Lpa → Except PyError DownloadResult → Lpa → Prop}
    (hpost : ∀ e, post s₀ (.error e) (s.setState .authenticating)) :
    (downloadBody L k activationCode).Meets (contract k good) post s₀ s := by
  refine Coro.meets_modify_bind.mpr ?_
  cases activationCode with
  | str code =>
      change Coro.Meets _ _ (Coro.done (ActivationCode.parse code) >>= _) s₀
        (s.setState .authenticating)
      cases hparse : ActivationCode.parse code with
      | error e => exact hpost e
      | ok ac => exact absurd hparse (h code ac rfl)
  | _ => exact hpost .attributeError

end

/-! ### The other commands -/

end Lpa

namespace RspCommand

/-- The message of a command that asks the daemon once. -/
def message : RspCommand → Option (List (Text × Json))
  | installDirect (.obj (member :: fields)) => some (Lpa.installMessage (.obj (member :: fields)))
  | list => some (Lpa.plainMessage "list_profiles")
  | enable iccid => some (Lpa.iccidMessage "enable_profile" iccid)
  | disable iccid => some (Lpa.iccidMessage "disable_profile" iccid)
  | delete iccid => some (Lpa.iccidMessage "delete_profile" iccid)
  | info => some (Lpa.plainMessage "get_info")
  | eid => some (Lpa.plainMessage "get_info")
  | _ => none

/-- What such a command makes of the daemon's reply. -/
def read (L : RspLibrary) (reply : List (Text × Json)) : RspCommand → Except PyError Json
  | list => .ok (.obj [("profiles".toList, (Json.get? reply "data").getD (.arr []))])
  | info => .ok ((Json.get? reply "data").getD (.obj []))
  | eid => (((Json.get? reply "data").getD (.obj [])).getOr "eid" (.str [])).map fun eid =>
      .obj [("eid".toList, eid)]
  | installDirect _ =>
      .ok (Lpa.DownloadResult.json
        (if ((Json.get? reply "success").getD .null).truthy L then
          .finished true ((Json.get? reply "iccid").getD .null) 0
        else .finished false .null 8))
  | _ => .ok (.obj [("success".toList, (Json.get? reply "success").getD (.bool false))])

/-- The address that a download with a readable code goes to. -/
def address : RspCommand → Option Text
  | download (.str code) _ => (ActivationCode.parse code).toOption.map ActivationCode.smdpAddress
  | _ => none

/-- What the session of a command is like, as long as it runs. -/
def Keeps (L : RspLibrary) (cmd : RspCommand) (ops : List LpaOperation) : Prop :=
  (∀ a ∈ cmd.address, Lpa.Follows L a ops) ∧
    (cmd.address = none → ops.map LpaOperation.request <+: (cmd.message.map LpaRequest.euicc).toList)

/-- What the result of a command is, by its session. -/
def Answers (L : RspLibrary) (cmd : RspCommand) (ops : List LpaOperation) (r : Except PyError Json) :
    Prop :=
  (∀ code confirmation, cmd = download code confirmation →
    (∃ e, r = .ok (Lpa.DownloadResult.json (.failed (L.strError e))) ∧ ¬Lpa.Accepted ops ∧
        Lpa.NotInstalling ops) ∨
      ∃ pre op address pending, ops = pre ++ [op] ∧ op.Reports address pending ∧ op.Succeeded ∧
        r = .ok (Lpa.DownloadResult.json
          (.finished (pending.result = 0) pending.iccid pending.result))) ∧
  ∀ message ∈ cmd.message, ∃ op, ops = [op] ∧
    ((∃ reply, op.outcome = some (.ok (.reply reply)) ∧ r = cmd.read L reply) ∨
      (¬op.Succeeded ∧ ∃ e, r = .error e))

end RspCommand

namespace Lpa

open LpaOperation (AllSettled AllLater)

section

variable {L : RspLibrary} {k : ℕ} {s₀ s : Lpa} {cmd : RspCommand}

/-- How a command leaves the state it ends in. -/
structure Served (L : RspLibrary) (k : ℕ) (cmd : RspCommand) (r : Except PyError Json) (s : Lpa) :
    Prop where
  answers : cmd.Answers L (s.session k) r
  settled : AllSettled (s.session k)
  closed : k ∉ s.http

/-- What a command does until its end. -/
abbrev Serves (L : RspLibrary) (k : ℕ) (cmd : RspCommand) (s₀ : Lpa) (r : Except PyError Json)
    (s : Lpa) : Prop :=
  (contract k (cmd.Keeps L)).guar s₀ s ∧ Served L k cmd r s

theorem once_meets {message : List (Text × Json)} (hmessage : cmd.message = some message)
    (haddress : cmd.address = none) {f : List (Text × Json) → LpaAsync Json}
    (hf : ∀ reply, f reply = Coro.done (cmd.read L reply)) (hsession : s.session k = [])
    (hdoes : Does k s₀ s) (hclosed : k ∉ s.http) :
    (sendMessage k message >>= f).Meets (contract k (cmd.Keeps L)) (Serves L k cmd) s₀ s := by
  have hkeeps : ∀ op : LpaOperation, op.request = .euicc message → cmd.Keeps L [op] := by
    refine fun op hop => ⟨fun a ha => ?_, fun _ => ?_⟩
    · rw [haddress] at ha
      cases ha
    · rw [hmessage, List.map_singleton, hop]
      exact List.prefix_refl _
  have hother : ∀ code confirmation, cmd ≠ .download code confirmation := by
    rintro code confirmation rfl
    cases hmessage
  refine Coro.meets_bind.mpr (Coro.meets_bind.mpr (ask_meets hdoes ?_ ?_ ?_))
  · rw [hsession]
    exact LpaOperation.allSettled_nil
  · rw [hsession]
    exact hkeeps _ rfl
  intro s' op outcome hs' _ hrequest houtcome hhttp
  rw [hsession, List.nil_append] at hs'
  have hguar : (contract k (cmd.Keeps L)).guar s' s' := ⟨.refl k s', hs' ▸ hkeeps op hrequest⟩
  have hserved : ∀ r, ((∃ reply, op.outcome = some (.ok (.reply reply)) ∧ r = cmd.read L reply) ∨
      (¬op.Succeeded ∧ ∃ e, r = .error e)) → Served L k cmd r s' := by
    intro r hr
    refine ⟨⟨fun code confirmation h => absurd h (hother code confirmation), ?_⟩, ?_,
      hhttp.not.mpr hclosed⟩
    · intro message' hmessage'
      exact ⟨op, hs', hr⟩
    · rw [hs']
      exact LpaOperation.allSettled_concat LpaOperation.allSettled_nil houtcome
  rcases outcome with e | reply | response
  · have hfailed : ¬op.Succeeded :=
      LpaOperation.not_succeeded_euicc hrequest houtcome fun _ h => by cases h
    exact ⟨hguar, hserved _ (.inr ⟨hfailed, e, rfl⟩)⟩
  · change Coro.Meets _ _ (f reply) s' s'
    rw [hf]
    exact ⟨hguar, hserved _ (.inl ⟨reply, houtcome, rfl⟩)⟩
  · have hfailed : ¬op.Succeeded :=
      LpaOperation.not_succeeded_euicc hrequest houtcome fun _ h => by cases h
    exact ⟨hguar, hserved _ (.inr ⟨hfailed, .attributeError, rfl⟩)⟩

theorem once_meets_bind {message : List (Text × Json)} (hmessage : cmd.message = some message)
    (haddress : cmd.address = none) {α : Type} {g : List (Text × Json) → LpaAsync α}
    {f : α → LpaAsync Json} (hf : ∀ reply, g reply >>= f = Coro.done (cmd.read L reply))
    (hsession : s.session k = []) (hdoes : Does k s₀ s) (hclosed : k ∉ s.http) :
    (sendMessage k message >>= g >>= f).Meets (contract k (cmd.Keeps L)) (Serves L k cmd) s₀ s := by
  rw [Coro.bind_assoc]
  exact once_meets hmessage haddress hf hsession hdoes hclosed

theorem none_serves {r : Except PyError Json} (hmessage : cmd.message = none)
    (haddress : cmd.address = none) (hother : ∀ code confirmation, cmd ≠ .download code confirmation)
    (hsession : s.session k = []) (hdoes : Does k s₀ s) (hclosed : k ∉ s.http) :
    Serves L k cmd s₀ r s := by
  refine ⟨⟨hdoes, fun a ha => ?_, fun _ => ?_⟩, ⟨?_, ?_⟩, ?_, hclosed⟩
  · rw [haddress] at ha
    cases ha
  · rw [hsession, hmessage]
    exact List.prefix_refl _
  · exact fun code confirmation h => absurd h (hother code confirmation)
  · rw [hmessage]
    exact fun _ h => by cases h
  · rw [hsession]
    exact fun op h => by cases h

theorem meets_good {α : Type} {good good' : List LpaOperation → Prop} {c : LpaAsync α}
    {post : Lpa → Except PyError α → Lpa → Prop} (h : c.Meets (contract k good) post s₀ s)
    (hgood : ∀ ops, good ops → good' ops) : c.Meets (contract k good') post s₀ s :=
  h.weaken (fun _ _ h => h) (fun _ _ h => h) fun _ _ h => ⟨h.1, hgood _ h.2⟩

/-- What a download returns for what its `try` block ends with. -/
def returnedFor (L : RspLibrary) : Except PyError DownloadResult → DownloadResult
  | .ok result => result
  | .error e => .failed (L.strError e)

theorem download_answers {ops : List LpaOperation} {address : Text}
    {activationCode confirmationCode : Json} {r : Except PyError DownloadResult}
    (h : Concludes address ops r) :
    (RspCommand.download activationCode confirmationCode).Answers L ops
      (.ok (returnedFor L r).json) := by
  refine ⟨fun _ _ _ => ?_, fun _ h => by cases h⟩
  cases h with
  | error e hnot hlast => exact .inl ⟨e, rfl, hnot, hlast⟩
  | finished hops hreports hsucceeded => exact .inr ⟨_, _, _, _, hops, hreports, hsucceeded, rfl⟩

theorem download_serves {activationCode confirmationCode : Json} (hsession : s.session k = [])
    (hdoes : Does k s₀ s) (hclosed : k ∉ s.http) :
    (serve L k (.download activationCode confirmationCode)).Meets
      (contract k (RspCommand.Keeps L (.download activationCode confirmationCode)))
      (Serves L k (.download activationCode confirmationCode)) s₀ s := by
  refine Coro.meets_bind.mpr (Coro.meets_bind.mpr (Coro.meets_attempt.mpr ?_))
  by_cases hread : ∃ code ac, activationCode = .str code ∧ ActivationCode.parse code = .ok ac
  · obtain ⟨code, ac, rfl, hparse⟩ := hread
    have haddress : (RspCommand.download (.str code) confirmationCode).address =
        some ac.smdpAddress := by
      simp [RspCommand.address, hparse, Except.toOption]
    have hkeeps : ∀ ops, Follows L ac.smdpAddress ops →
        RspCommand.Keeps L (.download (.str code) confirmationCode) ops := by
      refine fun ops h => ⟨fun a ha => ?_, fun hnone => ?_⟩
      · obtain rfl := Option.some.inj (haddress.symm.trans ha)
        exact h
      · rw [haddress] at hnone
        cases hnone
    refine (meets_good (downloadBody_returned hparse hsession hdoes) hkeeps).mono fun s₁ r s' h => ?_
    cases r with
    | ok result =>
        exact ⟨⟨h.does, hkeeps _ h.follows⟩, download_answers h.concludes, h.settled, h.closed⟩
    | error e =>
        refine ⟨⟨h.does.trans (.of_eq rfl rfl rfl rfl), hkeeps _ h.follows⟩, ?_, h.settled, h.closed⟩
        exact download_answers h.concludes
  · have haddress : (RspCommand.download activationCode confirmationCode).address = none := by
      cases activationCode with
      | str code =>
          cases hparse : ActivationCode.parse code with
          | ok ac => exact absurd ⟨code, ac, rfl, hparse⟩ hread
          | error e => simp [RspCommand.address, hparse, Except.toOption]
      | _ => rfl
    refine downloadBody_unreadable (fun code ac hc hparse => hread ⟨code, ac, hc, hparse⟩) fun e => ?_
    have hkeeps : RspCommand.Keeps L (.download activationCode confirmationCode) (s.session k) := by
      refine ⟨fun a ha => ?_, fun _ => ?_⟩
      · rw [haddress] at ha
        cases ha
      · rw [hsession]
        exact List.nil_prefix
    have hconcludes : Concludes [] (s.session k) (.error e) := by
      rw [hsession]
      exact .error e not_accepted_nil notInstalling_nil
    have hsettled : AllSettled (s.session k) := by
      rw [hsession]
      exact LpaOperation.allSettled_nil
    exact ⟨⟨hdoes.trans (.of_eq rfl rfl rfl rfl), hkeeps⟩, download_answers hconcludes, hsettled, hclosed⟩

/-- **Every command keeps its contract**, and its result is what its session says. -/
theorem serve_serves (cmd : RspCommand) (hsession : s.session k = []) (hdoes : Does k s₀ s)
    (hclosed : k ∉ s.http) :
    (serve L k cmd).Meets (contract k (cmd.Keeps L)) (Serves L k cmd) s₀ s := by
  cases cmd with
  | download activationCode confirmationCode => exact download_serves hsession hdoes hclosed
  | list => exact once_meets_bind rfl rfl (fun _ => rfl) hsession hdoes hclosed
  | enable iccid => exact once_meets_bind rfl rfl (fun _ => rfl) hsession hdoes hclosed
  | disable iccid => exact once_meets_bind rfl rfl (fun _ => rfl) hsession hdoes hclosed
  | delete iccid => exact once_meets_bind rfl rfl (fun _ => rfl) hsession hdoes hclosed
  | info => exact once_meets rfl rfl (fun _ => rfl) hsession hdoes hclosed
  | eid =>
      refine once_meets_bind rfl rfl (fun reply => ?_) hsession hdoes hclosed
      unfold RspCommand.read
      cases ((Json.get? reply "data").getD (.obj [])).getOr "eid" (.str []) <;> rfl
  | installDirect profile =>
      have hother : ∀ code confirmation,
          RspCommand.installDirect profile ≠ .download code confirmation :=
        fun _ _ h => by cases h
      cases profile with
      | obj fields =>
          cases fields with
          | nil => exact none_serves rfl rfl hother hsession hdoes hclosed
          | cons member fields =>
              change (sendMessage k (installMessage (.obj (member :: fields))) >>= _ >>= _ >>= _ :
                LpaAsync Json).Meets _ _ s₀ s
              rw [Coro.bind_assoc]
              refine once_meets_bind rfl rfl (fun reply => ?_) hsession hdoes hclosed
              unfold RspCommand.read
              cases hsuccess : ((Json.get? reply "success").getD .null).truthy L with
              | true => rfl
              | false => rfl
      | _ => exact none_serves rfl rfl hother hsession hdoes hclosed
  | unknown cmd => exact none_serves rfl rfl (fun _ _ h => by cases h) hsession hdoes hclosed

end

end Lpa

end VirtualPhone
