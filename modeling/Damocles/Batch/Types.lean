import Mathlib.Data.List.Basic

/-!
# The batch planner's data model

The values `planner/batch.rs` of `damocles-worker` passes between its planner, its executor, the
persisted batch record and the sector manager:

* `State` and `Event`: the pipeline states of a batch and the outcomes of executor actions, with
  the constructors of the Rust enums in this development's case convention;
* `Sector` and `Sectors`: the persisted batch record. `sectors.rs` is not under `src/`; its fields
  are the ones `batch.rs` reads and writes, and `Sectors.new` is the record of a new batch;
* the requests and answers of the sector-manager RPCs the executor makes (`Call` is one request,
  as it appears in an action's log);
* `Failure`: the four-way taxonomy of `sealing::failure`, as `.crit()`, `.perm()`, `.temp()` and
  `.abort()` tag an error.

Machine integers (`usize`, `u64`) are `Nat`. The one `usize` subtraction the source leaves
unguarded goes through `usizeSub`, which is `none` where a debug build panics.
-/

namespace Damocles.Batch

/-! ## Chain-facing values -/

/-- A sector's on-chain identity.
Source: `rpc::sealer::SectorID`
Kind: D
Fidelity: exact -/
structure SectorID where
  miner : Nat
  number : Nat
deriving DecidableEq, Repr

/-- A seal proof type, only carried by the planner.
Source: `RegisteredSealProof`
Kind: D
Fidelity: abstracted (the enum's variants are its codes) -/
structure RegisteredSealProof where
  code : Nat
deriving DecidableEq, Repr

/-- A sector the sector manager allocated to this worker.
Source: `rpc::sealer::AllocatedSector`
Kind: D
Fidelity: exact -/
structure AllocatedSector where
  id : SectorID
  proofType : RegisteredSealProof
deriving DecidableEq, Repr

/-- Chain randomness for the pre-commit phases: the 32 random bytes and the epoch.
Source: `rpc::sealer::Ticket`
Kind: D
Fidelity: exact (bytes as a number) -/
structure Ticket where
  ticket : Nat
  epoch : Int
deriving DecidableEq, Repr

/-- Chain randomness for the commit phases.
Source: `rpc::sealer::Seed`
Kind: D
Fidelity: exact (bytes as a number) -/
structure Seed where
  seed : Nat
  epoch : Int
deriving DecidableEq, Repr

/-- A deal attached to a sector; only its id is read.
Source: `rpc::sealer::DealInfo`
Kind: D
Fidelity: id only -/
structure DealInfo where
  id : Nat
deriving DecidableEq, Repr

/-- The deals of one sector.
Source: `rpc::sealer::Deals`
Kind: D
Fidelity: exact -/
abbrev Deals := List DealInfo

/-- A piece added to a sector; carried by `AddPiece` and never read.
Source: `rpc::sealer::PieceInfo`
Kind: D
Fidelity: opaque -/
structure PieceInfo where
  cid : Nat
deriving DecidableEq, Repr

/-- The proving backend's outputs, as opaque values except where the planner reads a field.
Source: `fil_proofs::SealPreCommitPhase1Output`
Kind: D
Fidelity: opaque -/
structure SealPreCommitPhase1Output where
  raw : Nat
deriving DecidableEq, Repr

/-- Second pre-commit output: the two commitments `submit_pre_commit` reads.
Source: `fil_proofs::SealPreCommitPhase2Output`
Kind: D
Fidelity: the read fields -/
structure SealPreCommitPhase2Output where
  commR : Nat
  commD : Nat
deriving DecidableEq, Repr

/-- First commit output.
Source: `fil_proofs::SealCommitPhase1Output`
Kind: D
Fidelity: opaque -/
structure SealCommitPhase1Output where
  raw : Nat
deriving DecidableEq, Repr

/-- Second commit output: the proof `submit_proof` sends.
Source: `fil_proofs::SealCommitPhase2Output`
Kind: D
Fidelity: the read field -/
structure SealCommitPhase2Output where
  proof : Nat
deriving DecidableEq, Repr

/-- The 32-byte prover id.
Source: `fil_proofs::ProverId`
Kind: D
Fidelity: abstracted -/
structure ProverId where
  actor : Nat
deriving DecidableEq, Repr

/-- Modelled from the spec: `to_prover_id` lives in `vc-processors`, outside `src/`. The spec
(§3) only says the proving input is derived from the prover identity; the byte encoding of the
miner's actor id is modelled by its injective tag.
Source: `vc_processors::fil_proofs::to_prover_id`
Kind: D
Fidelity: abstracted -/
def toProverId (miner : Nat) : ProverId := ⟨miner⟩

/-! ## The persisted batch record -/

/-- What allocation fixes for a sector: the allocated sector and the proving input derived from
it.
Source: `planner::batch::sectors::Base`
Kind: D
Fidelity: exact -/
structure Base where
  allocated : AllocatedSector
  proveInput : ProverId × Nat
deriving DecidableEq, Repr

/-- The base `apply_changes` builds from an allocated sector.
Source: `Event::apply_changes`, the `Allocate` arm
Kind: D
Fidelity: exact -/
def Base.ofAllocated (allocated : AllocatedSector) : Base :=
  ⟨allocated, (toProverId allocated.id.miner, allocated.id.number)⟩

/-- Modelled from the spec: `sectors.rs` is not under `src/`; these are the fields `batch.rs`
reads and writes. `pc1out` is left out: only the commented-out `PC1` arm of `apply_changes` writes
it, and nothing reads it.
Source: `planner::batch::sectors::Phases`
Kind: D
Fidelity: the used fields -/
structure Phases where
  ticket : Option Ticket := none
  pc2out : Option SealPreCommitPhase2Output := none
  persistInstance : Option String := none
  seed : Option Seed := none
  c1out : Option SealCommitPhase1Output := none
  c2out : Option SealCommitPhase2Output := none
  pc2ReSubmit : Bool := false
  c2ReSubmit : Bool := false
deriving DecidableEq, Repr

/-- One sector of the batch.
Source: `planner::batch::sectors::Sector`
Kind: D
Fidelity: the used fields -/
structure Sector where
  base : Option Base := none
  deals : Option Deals := none
  phases : Phases := {}
deriving DecidableEq, Repr

/-- A batch's pipeline state. Most states carry the index of the sector the phase last acted on.
Source: `planner::batch::State`
Kind: D
Fidelity: exact -/
inductive State where
  | empty
  | allocated
  | dealsAcquired (index : Nat)
  | pieceAdded (index : Nat)
  | treeDBuilt (index : Nat)
  | ticketAssigned
  | pc1Done
  | pc2Done
  | pcSubmitted (index : Nat)
  | pcLanded (index : Nat)
  | persisted (index : Nat)
  | persistanceSubmitted (index : Nat)
  | seedAssigned (index : Nat)
  | c1Done
  | c2Done (index : Nat)
  | proofSubmitted (index : Nat)
  | finished (index : Nat)
  | aborted
deriving DecidableEq, Repr

/-- The persisted batch: its sectors, the size it was created with, and its state.
Source: `planner::batch::sectors::Sectors`
Kind: D
Fidelity: exact -/
@[ext] structure Sectors where
  sectors : List Sector
  batchSize : Nat
  state : State
deriving DecidableEq, Repr

/-- Modelled from the spec: the record of a new batch, `batch_size` sectors with every phase empty,
in state `Empty` (§3: the base is "absent before allocation"; the index of a sector is its position
"for the batch's lifetime").
Source: spec §3, `Sectors`
Kind: D
Fidelity: spec -/
def Sectors.new (n : Nat) : Sectors := ⟨List.replicate n {}, n, .empty⟩

/-- The outcome of one executor action.
Source: `planner::batch::Event`
Kind: D
Fidelity: exact -/
inductive Event where
  | setState (s : State)
  | idle
  | allocate (sectors : List AllocatedSector)
  | acquireDeals (index : Nat) (deals : Option Deals)
  | addPiece (index : Nat) (pieces : List PieceInfo)
  | buildTreeD (index : Nat)
  | assignTicket (ticket : Ticket)
  | pc1 (ticket : Ticket) (out : List SealPreCommitPhase1Output)
  | pc2 (out : List SealPreCommitPhase2Output)
  | submitPC (index : Nat)
  | reSubmitPC (index : Nat)
  | checkPC (index : Nat)
  | persist (inst : String) (index : Nat)
  | submitPersistance (index : Nat)
  | assignSeed (index : Nat) (seed : Seed)
  | c1 (out : List SealCommitPhase1Output)
  | c2 (index : Nat) (out : SealCommitPhase2Output)
  | submitProof (index : Nat)
  | reSubmitProof (index : Nat)
  | finish (index : Nat)
deriving DecidableEq, Repr

/-- `usize` subtraction as a debug build runs it: `none` is the overflow panic.
Source: Rust's checked arithmetic
Kind: D
Fidelity: exact (debug build) -/
def usizeSub (a b : Nat) : Option Nat := if b ≤ a then some (a - b) else none

/-- `usize` subtraction panics exactly when it would go below 0. -/
@[simp] theorem usizeSub_eq_none {a b : Nat} : usizeSub a b = none ↔ a < b := by
  unfold usizeSub; split <;> simp <;> omega

/-- `usize` subtraction that does not panic is `Nat` subtraction. -/
@[simp] theorem usizeSub_eq_some {a b c : Nat} : usizeSub a b = some c ↔ b ≤ a ∧ c = a - b := by
  unfold usizeSub; split <;> simp [*, eq_comm]

/-! ## Failures -/

/-- How bad a failure is.
Source: `sealing::failure::Level`
Kind: D
Fidelity: exact -/
inductive Level where
  | abort
  | critical
  | permanent
  | temporary
deriving DecidableEq, Repr

/-- A classified error: its level and its message.
Source: `sealing::failure::Failure`
Kind: D
Fidelity: exact (the error as its message) -/
structure Failure where
  level : Level
  error : String
deriving DecidableEq, Repr

/-- `.crit()` on an `anyhow::Result`.
Source: `MapErrToFailure::crit`
Kind: D
Fidelity: exact -/
def crit {α : Type} (r : Except String α) : Except Failure α := r.mapError (⟨.critical, ·⟩)

/-- `.context(msg)` on an `Option`: the value, or an error with the message.
Source: `anyhow::Context`
Kind: D
Fidelity: exact -/
def context {α : Type} (o : Option α) (msg : String) : Except String α :=
  match o with
  | some a => .ok a
  | none => .error msg

/-- `.context(msg).crit()` on a present value is the value. -/
@[simp] theorem crit_context_some {α : Type} (a : α) (msg : String) :
    crit (context (some a) msg) = .ok a := rfl

/-- `.context(msg).crit()` on an absent value is a critical failure with the message. -/
@[simp] theorem crit_context_none {α : Type} (msg : String) :
    crit (context (none : Option α) msg) = .error ⟨.critical, msg⟩ := rfl

/-- The sector at an index, or the error `Job::sector` gives out of bounds.
Source: `Job::sector`
Kind: D
Fidelity: exact -/
def Sectors.sector (s : Sectors) (index : Nat) : Except String Sector :=
  context s.sectors[index]? ("sector index out of bounds: " ++ toString index)

/-! ## Sector-manager RPCs -/

/-- A duration, in nanoseconds.
Source: `std::time::Duration`
Kind: D
Fidelity: exact -/
structure Duration where
  nanos : Nat
deriving DecidableEq, Repr

/-- `Duration::from_secs`.
Source: `std::time::Duration::from_secs`
Kind: D
Fidelity: exact -/
def Duration.fromSecs (secs : Nat) : Duration := ⟨secs * 1000000000⟩

/-- What the executor reads of the sealing configuration.
Source: `SealingCtrl::config`
Kind: D
Fidelity: the read fields -/
structure SealingConfig where
  allowedMiners : List Nat
  allowedProofTypes : List RegisteredSealProof
  enableDeals : Bool
  disableCC : Bool
  maxDeals : Option Nat
  minDealSpace : Option Nat
  rpcPollingInterval : Duration
  ignoreProofCheck : Bool

/-- Request of `allocate_sectors_batch`.
Source: `rpc::sealer::AllocateSectorSpec`
Kind: D
Fidelity: exact -/
structure AllocateSectorSpec where
  allowedMiners : Option (List Nat)
  allowedProofTypes : Option (List RegisteredSealProof)
deriving DecidableEq, Repr

/-- Request of `acquire_deals`.
Source: `rpc::sealer::AcquireDealsSpec`
Kind: D
Fidelity: exact -/
structure AcquireDealsSpec where
  maxDeals : Option Nat
  minUsedSpace : Option Nat
deriving DecidableEq, Repr

/-- What `submit_pre_commit` sends on chain.
Source: `rpc::sealer::PreCommitOnChainInfo`
Kind: D
Fidelity: exact -/
structure PreCommitOnChainInfo where
  commR : Nat
  commD : Nat
  ticket : Ticket
  deals : List Nat
deriving DecidableEq, Repr

/-- What `submit_proof` sends on chain.
Source: `rpc::sealer::ProofOnChainInfo`
Kind: D
Fidelity: exact -/
structure ProofOnChainInfo where
  proof : Nat
deriving DecidableEq, Repr

/-- The sector manager's verdict on a submission.
Source: `rpc::sealer::SubmitResult`
Kind: D
Fidelity: exact -/
inductive SubmitResult where
  | accepted
  | duplicateSubmit
  | mismatchedSubmission
  | rejected
  | filesMissed
deriving DecidableEq, Repr

/-- The `{:?}` text of a `SubmitResult`.
Source: `#[derive(Debug)]` on `SubmitResult`
Kind: D
Fidelity: exact -/
def SubmitResult.debug : SubmitResult → String
  | .accepted => "Accepted"
  | .duplicateSubmit => "DuplicateSubmit"
  | .mismatchedSubmission => "MismatchedSubmission"
  | .rejected => "Rejected"
  | .filesMissed => "FilesMissed"

/-- The chain state of a submitted message.
Source: `rpc::sealer::OnChainState`
Kind: D
Fidelity: exact -/
inductive OnChainState where
  | landed
  | notFound
  | failed
  | permFailed
  | shouldAbort
  | pending
  | packed
deriving DecidableEq, Repr

/-- The answer to a submission (`SubmitPreCommitResp`, `SubmitProofResp`: one shape).
Source: `rpc::sealer::SubmitPreCommitResp`, `SubmitProofResp`
Kind: D
Fidelity: exact -/
structure SubmitResp where
  res : SubmitResult
  desc : Option String
deriving DecidableEq, Repr

/-- The answer to a poll (`PollPreCommitStateResp`, `PollProofStateResp`: one shape).
Source: `rpc::sealer::PollPreCommitStateResp`, `PollProofStateResp`
Kind: D
Fidelity: exact -/
structure PollResp where
  state : OnChainState
  desc : Option String
deriving DecidableEq, Repr

/-- The answer to `wait_seed`.
Source: `rpc::sealer::WaitSeedResp`
Kind: D
Fidelity: exact -/
structure WaitSeedResp where
  shouldWait : Bool
  delay : Nat
  seed : Option Seed
deriving DecidableEq, Repr

/-- A transport error of the RPC client, as its `{:?}` text.
Source: `jsonrpc_core::Error`
Kind: D
Fidelity: opaque -/
structure RpcError where
  debug : String
deriving DecidableEq, Repr

/-- One request the executor makes of its collaborators, in the order it makes them: an RPC to
the sector manager with its arguments, or an interruptible wait.
Source: the `call_rpc!` sites and `wait_or_interrupted` calls of `BatchSealer`
Kind: D
Fidelity: exact -/
inductive Call where
  | allocateSectorsBatch (spec : AllocateSectorSpec) (count : Nat)
  | acquireDeals (id : SectorID) (spec : AcquireDealsSpec)
  | assignTicket (id : SectorID)
  | submitPreCommit (sector : AllocatedSector) (info : PreCommitOnChainInfo) (reset : Bool)
  | pollPreCommitState (id : SectorID)
  | submitPersistedEx (id : SectorID) (inst : String) (isUpgrade : Bool)
  | waitSeed (id : SectorID)
  | submitProof (id : SectorID) (info : ProofOnChainInfo) (reset : Bool)
  | pollProofState (id : SectorID)
  | wait (d : Duration)
deriving DecidableEq, Repr

end Damocles.Batch
