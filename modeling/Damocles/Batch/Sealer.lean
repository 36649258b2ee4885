import Damocles.Batch.Types

/-!
# The executor's actions: `BatchSealer`

Each action of `BatchSealer` reads the batch record and talks to its collaborators: the sector
manager over RPC, the sealing controller's interruptible wait, and (for the phases the source
leaves as `todo!()`) the proving backend. An action is modelled as a function of the record and of
an `Env` that says what every collaborator answers; it returns a `Run`: the requests it made, in
order, and how it ended.

* `Run` is a small monad: `Run.lift` is Rust's `?` on a `Result<_, Failure>`, `Run.rpc` one
  `call_rpc!` (the request logged, a transport error a temporary failure), `Run.wait` one
  `wait_or_interrupted`. An answer list the world runs out of leaves the action `waiting`.
* The two on-chain checks share their loop, `pollLoop`, over the answers to successive polls and
  the outcomes of successive waits; `Poll` holds what differs (the request and the failure texts).
  `check_proof_state` keeps its own body for its `ignore_proof_check` branch.
* `submit_pre_commit` and `submit_proof` share the reading of the sector manager's verdict,
  `submitVerdict`.
* `add_pieces`, `build_tree_d`, `pc1`, `pc2`, `commit1`, `commit2` are `todo!()` in the source and
  `persist_sector_files` does not compile (it calls `Job::sector_id`, which does not exist, and
  returns `Ok(())`): each is modelled from the spec as returning its phase's event with what the
  proving backend (`Backend`) gives.
-/

namespace Damocles.Batch

/-! ## Runs -/

/-- How an action ended: with a value, with a failure, still waiting on an answer the world's script
does not give, or in a panic.
Source: `Result<_, Failure>`
Kind: D
Fidelity: exact (plus `waiting` for an unanswered request) -/
inductive Outcome (α : Type) where
  | ok (a : α)
  | err (f : Failure)
  | waiting
  | panic (msg : String)
deriving DecidableEq, Repr

/-- The requests an action made, in order, and how it ended.
Source: none: infrastructure
Kind: D
Fidelity: n/a -/
structure Run (α : Type) where
  calls : List Call
  outcome : Outcome α
deriving DecidableEq, Repr

namespace Run

variable {α β : Type}

/-- Sequencing: the second action runs only if the first ended with a value.
Source: Rust's `?` and `;`
Kind: D
Fidelity: exact -/
def bind (r : Run α) (f : α → Run β) : Run β :=
  match r.outcome with
  | .ok a => ⟨r.calls ++ (f a).calls, (f a).outcome⟩
  | .err e => ⟨r.calls, .err e⟩
  | .waiting => ⟨r.calls, .waiting⟩
  | .panic m => ⟨r.calls, .panic m⟩

/-- `Run` sequenced with `Run.bind`, so actions are written in `do` notation as the source is. -/
instance : Monad Run where
  pure a := ⟨[], .ok a⟩
  bind := bind

/-- `?` on a `Result<_, Failure>`.
Source: Rust's `?`
Kind: D
Fidelity: exact -/
def lift (r : Except Failure α) : Run α :=
  match r with
  | .ok a => ⟨[], .ok a⟩
  | .error f => ⟨[], .err f⟩

/-- Modelled from the spec: `call_rpc!` (in `sealing_thread::util`, not under `src/`) makes the call
and tags a transport error with the failure classifier (§2); §7 makes a recoverable network error
temporary.
Source: `call_rpc!`; spec §2, §7
Kind: D
Fidelity: spec -/
def callRpc (r : Except RpcError α) : Except Failure α :=
  r.mapError fun e => ⟨.temporary, "rpc error: " ++ e.debug⟩

/-- One RPC whose result the caller inspects: the request logged, the classified result returned.
Source: `call_rpc!`
Kind: D
Fidelity: exact -/
def request (c : Call) (ans : Except RpcError α) : Run (Except Failure α) := ⟨[c], .ok (callRpc ans)⟩

/-- One RPC followed by `?`.
Source: `call_rpc! { .. }?`
Kind: D
Fidelity: exact -/
def rpc (c : Call) (ans : Except RpcError α) : Run α := bind (request c ans) lift

/-- One `wait_or_interrupted(d)?`, with the world's outcome for it (`none`: it never returns).
Source: `SealingCtrl::wait_or_interrupted`
Kind: D
Fidelity: exact -/
def wait (d : Duration) : Option (Except Failure Unit) → Run Unit
  | none => ⟨[.wait d], .waiting⟩
  | some (.ok ()) => ⟨[.wait d], .ok ()⟩
  | some (.error f) => ⟨[.wait d], .err f⟩

/-- `>>=` of `Run` is `Run.bind`. -/
@[simp] theorem bind_eq (r : Run α) (f : α → Run β) : r >>= f = r.bind f := rfl

/-- `pure` makes no request and ends with its value. -/
@[simp] theorem pure_eq (a : α) : (pure a : Run α) = ⟨[], .ok a⟩ := rfl

/-- Sequencing after a value: both parts' requests, and the second part's end. -/
@[simp] theorem bind_mk_ok (cs : List Call) (a : α) (f : α → Run β) :
    bind ⟨cs, .ok a⟩ f = ⟨cs ++ (f a).calls, (f a).outcome⟩ := rfl

/-- Sequencing after a failure: the failure, and no further request. -/
@[simp] theorem bind_mk_err (cs : List Call) (e : Failure) (f : α → Run β) :
    bind ⟨cs, .err e⟩ f = ⟨cs, .err e⟩ := rfl

/-- Sequencing after a wait on the world: still waiting, and no further request. -/
@[simp] theorem bind_mk_waiting (cs : List Call) (f : α → Run β) :
    bind ⟨cs, .waiting⟩ f = ⟨cs, .waiting⟩ := rfl

/-- `?` on `Ok` is the value. -/
@[simp] theorem lift_ok (a : α) : lift (.ok a) = ⟨[], .ok a⟩ := rfl

/-- `?` on `Err` is the failure. -/
@[simp] theorem lift_error (f : Failure) : lift (.error f : Except Failure α) = ⟨[], .err f⟩ := rfl

/-- An answered `call_rpc!`: its request, and the answer. -/
@[simp] theorem rpc_ok (c : Call) (a : α) : rpc c (.ok a) = ⟨[c], .ok a⟩ := rfl

/-- A `call_rpc!` with a transport error: its request, and a temporary failure. -/
@[simp] theorem rpc_error (c : Call) (e : RpcError) :
    rpc c (.error e : Except RpcError α) = ⟨[c], .err ⟨.temporary, "rpc error: " ++ e.debug⟩⟩ := rfl

/-- Peeling a sequenced run that ended with a value.
Source: none: infrastructure
Kind: L -/
theorem bind_outcome_ok {r : Run α} {f : α → Run β} {b : β} (h : (r.bind f).outcome = .ok b) :
    ∃ a, r.outcome = .ok a ∧ (f a).outcome = .ok b := by
  unfold bind at h
  split at h <;> first | exact ⟨_, ‹_›, h⟩ | cases h

/-- A sequenced run whose first part ends with a value ends as its second part. -/
theorem bind_outcome_of_ok {r : Run α} {f : α → Run β} {a : α} (h : r.outcome = .ok a) :
    (r.bind f).outcome = (f a).outcome := by
  unfold bind; rw [h]

/-- `?` that ends with a value read an `Ok`. -/
theorem lift_outcome_ok {r : Except Failure α} {a : α} (h : (lift r).outcome = .ok a) :
    r = .ok a := by
  cases r <;> cases h; rfl

end Run

/-! ## What the executor talks to -/

/-- The sector manager, as one action meets it: its answer to each request. Polls and seed waits are
answered in order, one list entry per request.
Source: `rpc::sealer::SealerClient`
Kind: D
Fidelity: exact (an arbitrary server) -/
structure SealerClient where
  allocateSectorsBatch : AllocateSectorSpec → Nat → Except RpcError (List AllocatedSector)
  acquireDeals : SectorID → AcquireDealsSpec → Except RpcError (Option Deals)
  assignTicket : SectorID → Except RpcError Ticket
  submitPreCommit : AllocatedSector → PreCommitOnChainInfo → Bool → Except RpcError SubmitResp
  pollPreCommitState : SectorID → List (Except RpcError PollResp)
  submitPersistedEx : SectorID → String → Bool → Except RpcError Bool
  waitSeed : SectorID → List (Except RpcError WaitSeedResp)
  submitProof : SectorID → ProofOnChainInfo → Bool → Except RpcError SubmitResp
  pollProofState : SectorID → List (Except RpcError PollResp)

/-- Modelled from the spec: the proving backend (§4.2, §6). What it gives each placeholder action:
the pieces added, whether the tree was built, the phase outputs, the persistence instance.
Source: spec §4.2 ("delegate to the external proving backend"), §6
Kind: D
Fidelity: spec -/
structure Backend where
  addPieces : Nat → Except Failure (List PieceInfo)
  buildTreeD : Except Failure Unit
  pc1 : Except Failure (Ticket × List SealPreCommitPhase1Output)
  pc2 : Except Failure (List SealPreCommitPhase2Output)
  persistSectorFiles : Nat → Except Failure String
  commit1 : Except Failure (List SealCommitPhase1Output)
  commit2 : Nat → Except Failure SealCommitPhase2Output

/-- Everything an action reads besides the batch record: the configuration, the sector manager, the
outcome of each successive `wait_or_interrupted`, and the proving backend.
Source: `Job` (`sealing_ctrl`, `rpc()`)
Kind: D
Fidelity: exact -/
structure Env where
  config : SealingConfig
  rpc : SealerClient
  waits : List (Except Failure Unit)
  backend : Backend

/-! ## The actions -/

namespace BatchSealer

/-- Ask for up to `batch_size` sectors (cast with `as u32`, so modulo `2^32`); no answer or an
empty one is `Idle`.
Source: `BatchSealer::allocate`
Kind: D
Fidelity: exact -/
def allocate (env : Env) (job : Sectors) : Run Event := do
  let spec : AllocateSectorSpec := ⟨some env.config.allowedMiners, some env.config.allowedProofTypes⟩
  let count := job.batchSize % UInt32.size
  let res ← Run.request (.allocateSectorsBatch spec count) (env.rpc.allocateSectorsBatch spec count)
  match res with
  | .error _ => pure .idle
  | .ok allocated => pure (if allocated.isEmpty then .idle else .allocate allocated)

/-- Ask for the deals of sector `index`; with deals disabled, skip the phase (or idle when
committed-capacity sectors are disallowed).
Source: `BatchSealer::acquire_deals`
Kind: D
Fidelity: exact -/
def acquireDeals (env : Env) (job : Sectors) (index : Nat) : Run Event :=
  let disableCC := env.config.disableCC
  if !env.config.enableDeals then
    pure (if disableCC then .idle else .acquireDeals job.sectors.length none)
  else do
    let spec : AcquireDealsSpec := ⟨env.config.maxDeals, env.config.minDealSpace⟩
    let sector ← Run.lift (crit (job.sector index))
    let base ← Run.lift (crit (context sector.base "sector base required"))
    let deals ← Run.rpc (.acquireDeals base.allocated.id spec)
      (env.rpc.acquireDeals base.allocated.id spec)
    let dealsCount := (deals.map List.length).getD 0
    pure (if disableCC || dealsCount > 0 then .acquireDeals index deals else .idle)

/-- Modelled from the spec: `add_pieces` is `todo!()`.
Source: `BatchSealer::add_pieces`; spec §4.2
Kind: D
Fidelity: spec -/
def addPieces (env : Env) (index : Nat) : Run Event := do
  let pieces ← Run.lift (env.backend.addPieces index)
  pure (.addPiece index pieces)

/-- Modelled from the spec: `build_tree_d` is `todo!()` and, unlike the indexed placeholders, is
called with no index: it builds the tree of the whole batch (§4.2) and reports it at sector 0, the
first sector of the phase.
Source: `BatchSealer::build_tree_d`; spec §4.2
Kind: D
Fidelity: spec -/
def buildTreeD (env : Env) : Run Event := do
  Run.lift env.backend.buildTreeD
  pure (.buildTreeD 0)

/-- The ticket of sector 0, or a fresh one from the sector manager.
Source: `BatchSealer::assign_ticket`
Kind: D
Fidelity: exact -/
def assignTicket (env : Env) (job : Sectors) : Run Event := do
  let sector ← Run.lift (crit (job.sector 0))
  let base ← Run.lift (crit (context sector.base "sector base required"))
  let ticket ← match sector.phases.ticket with
    | some ticket => pure ticket
    | none => Run.rpc (.assignTicket base.allocated.id) (env.rpc.assignTicket base.allocated.id)
  pure (.assignTicket ticket)

/-- Modelled from the spec: `pc1` is `todo!()`.
Source: `BatchSealer::pc1`; spec §4.2
Kind: D
Fidelity: spec -/
def pc1 (env : Env) : Run Event := do
  let (ticket, out) ← Run.lift env.backend.pc1
  pure (.pc1 ticket out)

/-- Modelled from the spec: `pc2` is `todo!()`.
Source: `BatchSealer::pc2`; spec §4.2
Kind: D
Fidelity: spec -/
def pc2 (env : Env) : Run Event := do
  let out ← Run.lift env.backend.pc2
  pure (.pc2 out)

/-- The `{:?}` text of an `Option<String>` (`String.quote` for the string's escapes).
Source: `#[derive(Debug)]` on `Option<String>`
Kind: D
Fidelity: exact up to escapes -/
def debugDesc : Option String → String
  | none => "None"
  | some d => "Some(" ++ d.quote ++ ")"

/-- How both submissions read the sector manager's verdict: `Accepted` and `DuplicateSubmit` are the
same success; a mismatch and missed files are permanent; a rejection aborts.
Source: `BatchSealer::submit_pre_commit`, `BatchSealer::submit_proof` (their `match res.res`)
Kind: D
Fidelity: exact -/
def submitVerdict (resp : SubmitResp) (filesMissed : String) (success : Event) :
    Except Failure Event :=
  match resp.res with
  | .accepted | .duplicateSubmit => .ok success
  | .mismatchedSubmission => .error ⟨.permanent, resp.res.debug ++ ": " ++ debugDesc resp.desc⟩
  | .rejected => .error ⟨.abort, resp.res.debug ++ ": " ++ debugDesc resp.desc⟩
  | .filesMissed => .error ⟨.permanent, filesMissed ++ debugDesc resp.desc⟩

/-- Submit sector `index`'s pre-commit, with its resubmission flag.
Source: `BatchSealer::submit_pre_commit`
Kind: D
Fidelity: exact -/
def submitPreCommit (env : Env) (job : Sectors) (index : Nat) : Run Event := do
  let sector ← Run.lift (crit (job.sector index))
  match sector.base, sector.phases.pc2out, sector.phases.ticket with
  | some base, some pc2out, some ticket =>
    let deals := (sector.deals.map fun ds => ds.map (·.id)).getD []
    let pinfo : PreCommitOnChainInfo := ⟨pc2out.commR, pc2out.commD, ticket, deals⟩
    let res ← Run.rpc (.submitPreCommit base.allocated pinfo sector.phases.pc2ReSubmit)
      (env.rpc.submitPreCommit base.allocated pinfo sector.phases.pc2ReSubmit)
    Run.lift (submitVerdict res "FilesMissed should not happen for pc2 submission: "
      (.submitPC index))
  | _, _, _ => Run.lift (.error ⟨.critical, "PC2 not completed"⟩)

/-- What tells the two on-chain polls apart: the request, and the texts of their failures.
Source: `BatchSealer::check_pre_commit_state`, `BatchSealer::check_proof_state`
Kind: D
Fidelity: exact -/
structure Poll where
  request : Call
  notFound : String
  permFailed : String
  shouldAbort : String

/-- The polling loop of both on-chain checks, over the answers to successive polls and the outcomes
of successive waits: `Landed` ends it with `landed`; `Failed` waits 30 s and ends with `failed`;
`Pending` and `Packed` wait the polling interval and poll again.
Source: the `loop` of `check_pre_commit_state` and of `check_proof_state`
Kind: D
Fidelity: exact -/
def pollLoop (p : Poll) (interval : Duration) (landed failed : Event) :
    List (Except RpcError PollResp) → List (Except Failure Unit) → Run Event
  | [], _ => ⟨[p.request], .waiting⟩
  | ans :: answers, waits => do
    let state ← Run.rpc p.request ans
    match state.state with
    | .landed => pure landed
    | .notFound => Run.lift (.error ⟨.permanent, p.notFound⟩)
    | .failed => do
      Run.wait (Duration.fromSecs 30) waits.head?
      pure failed
    | .permFailed => Run.lift (.error ⟨.permanent, p.permFailed ++ debugDesc state.desc⟩)
    | .shouldAbort => Run.lift (.error ⟨.abort, p.shouldAbort ++ debugDesc state.desc⟩)
    | .pending | .packed => do
      Run.wait interval waits.head?
      pollLoop p interval landed failed answers waits.tail

/-- The pre-commit poll.
Source: `BatchSealer::check_pre_commit_state`
Kind: D
Fidelity: exact -/
def preCommitPoll (id : SectorID) : Poll :=
  ⟨.pollPreCommitState id, "pre commit on-chain info not found",
    "pre commit on-chain info permanent failed: ", "pre commit info will not get on-chain: "⟩

/-- The proof poll.
Source: `BatchSealer::check_proof_state`
Kind: D
Fidelity: exact -/
def proofPoll (id : SectorID) : Poll :=
  ⟨.pollProofState id, "proof on-chain info not found",
    "proof on-chain info permanent failed: ", "sector will not get on-chain: "⟩

/-- Poll sector `index`'s pre-commit until it lands or fails.
Source: `BatchSealer::check_pre_commit_state`
Kind: D
Fidelity: exact -/
def checkPreCommitState (env : Env) (job : Sectors) (index : Nat) : Run Event := do
  let sector ← Run.lift (crit (job.sector index))
  let base ← Run.lift (crit (context sector.base "context"))
  pollLoop (preCommitPoll base.allocated.id) env.config.rpcPollingInterval (.checkPC index)
    (.reSubmitPC index) (env.rpc.pollPreCommitState base.allocated.id) env.waits

/-- Modelled from the spec: `persist_sector_files` does not compile.
Source: `BatchSealer::persist_sector_files`; spec §4.2
Kind: D
Fidelity: spec -/
def persistSectorFiles (env : Env) (index : Nat) : Run Event := do
  let inst ← Run.lift (env.backend.persistSectorFiles index)
  pure (.persist inst index)

/-- Confirm with the sector manager that sector `index`'s files are available.
Source: `BatchSealer::submit_persisted`
Kind: D
Fidelity: exact -/
def submitPersisted (env : Env) (job : Sectors) (index : Nat) : Run Event := do
  let sector ← Run.lift (crit (job.sector index))
  let base ← Run.lift (crit (context sector.base "sector base required"))
  let inst ← Run.lift (crit (context sector.phases.persistInstance
    "sector persist instance required"))
  let checked ← Run.rpc (.submitPersistedEx base.allocated.id inst false)
    (env.rpc.submitPersistedEx base.allocated.id inst false)
  if checked then pure (.submitPersistance index)
  else Run.lift (.error ⟨.permanent, "sector files are persisted but unavailable for sealer"⟩)

/-- The seed loop, over the answers to successive `wait_seed` calls and the outcomes of successive
waits.
Source: the `loop` of `BatchSealer::wait_seed`
Kind: D
Fidelity: exact -/
def waitSeedLoop (index : Nat) (id : SectorID) :
    List (Except RpcError WaitSeedResp) → List (Except Failure Unit) → Run Event
  | [], _ => ⟨[.waitSeed id], .waiting⟩
  | ans :: answers, waits => do
    let wait ← Run.rpc (.waitSeed id) ans
    match wait.seed with
    | some seed => pure (.assignSeed index seed)
    | none =>
      if !wait.shouldWait || wait.delay == 0 then
        Run.lift (.error ⟨.temporary, "invalid empty wait_seed response"⟩)
      else do
        Run.wait (Duration.fromSecs wait.delay) waits.head?
        waitSeedLoop index id answers waits.tail

/-- Wait for sector `index`'s seed.
Source: `BatchSealer::wait_seed`
Kind: D
Fidelity: exact -/
def waitSeed (env : Env) (job : Sectors) (index : Nat) : Run Event := do
  let sector ← Run.lift (crit (job.sector index))
  let base ← Run.lift (crit (context sector.base "sector base required"))
  waitSeedLoop index base.allocated.id (env.rpc.waitSeed base.allocated.id) env.waits

/-- Modelled from the spec: `commit1` is `todo!()`.
Source: `BatchSealer::commit1`; spec §4.2
Kind: D
Fidelity: spec -/
def commit1 (env : Env) : Run Event := do
  let out ← Run.lift env.backend.commit1
  pure (.c1 out)

/-- Modelled from the spec: `commit2` is `todo!()`.
Source: `BatchSealer::commit2`; spec §4.2
Kind: D
Fidelity: spec -/
def commit2 (env : Env) (index : Nat) : Run Event := do
  let out ← Run.lift (env.backend.commit2 index)
  pure (.c2 index out)

/-- Submit sector `index`'s proof, with its resubmission flag.
Source: `BatchSealer::submit_proof`
Kind: D
Fidelity: exact -/
def submitProof (env : Env) (job : Sectors) (index : Nat) : Run Event := do
  let sector ← Run.lift (crit (job.sector index))
  let base ← Run.lift (crit (context sector.base "sector base required"))
  let proof ← Run.lift (crit (context sector.phases.c2out "c2out required"))
  let info : ProofOnChainInfo := ⟨proof.proof⟩
  let res ← Run.rpc (.submitProof base.allocated.id info sector.phases.c2ReSubmit)
    (env.rpc.submitProof base.allocated.id info sector.phases.c2ReSubmit)
  Run.lift (submitVerdict res "FilesMissed is not handled currently: " (.submitProof index))

/-- Poll sector `index`'s proof until it lands or fails, unless proof checks are off.
Source: `BatchSealer::check_proof_state`
Kind: D
Fidelity: exact -/
def checkProofState (env : Env) (job : Sectors) (index : Nat) : Run Event := do
  let sector ← Run.lift (crit (job.sector index))
  let base ← Run.lift (crit (context sector.base "sector base required"))
  if !env.config.ignoreProofCheck then
    pollLoop (proofPoll base.allocated.id) env.config.rpcPollingInterval (.finish index)
      (.reSubmitProof index) (env.rpc.pollProofState base.allocated.id) env.waits
  else pure (.finish index)

end BatchSealer

end Damocles.Batch
