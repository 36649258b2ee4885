import Damocles.Batch.Polling

/-!
# The executor: `BatchPlanner::exec`

`exec` reads the batch's state and size, picks one action of `BatchSealer` and returns the event
that action ends with. The choice is a pure function of the two (`dispatch`); running the chosen
action is `Action.run`.

* `dispatch` is the faithful transcription of the match, arm by arm. An indexed arm guards on
  `index < batch_size - 1`, which it evaluates whenever the pattern matches; `guarded` is that
  guard, with Rust's debug panic on `batch_size - 1` at size 0 (`Dispatch.overflow`). The two
  arms of `PieceAdded` both call `build_tree_d`, the guarded arm of `Persisted` calls
  `persist_sector_files(index)` and that of `C2Done` calls `commit2(index)`, all as in the source.
* `Action.Yields` is the per-action contract of §4.2: the events each action can end with. Every
  action meets it (**`Action.run_yields`**), from one lemma per action.
* `exec_eq_ok_some`: an event of `exec` is an event its dispatched action yields.
-/

namespace Damocles.Batch

open BatchSealer

/-! ## Dispatch -/

/-- The actions `exec` dispatches to, one per method of `BatchSealer` it calls, with the index it
passes.
Source: `BatchPlanner::exec`
Kind: D
Fidelity: exact -/
inductive Action where
  | allocate
  | acquireDeals (index : Nat)
  | addPieces (index : Nat)
  | buildTreeD
  | assignTicket
  | pc1
  | pc2
  | submitPreCommit (index : Nat)
  | checkPreCommitState (index : Nat)
  | persistSectorFiles (index : Nat)
  | submitPersisted (index : Nat)
  | waitSeed (index : Nat)
  | commit1
  | commit2 (index : Nat)
  | submitProof (index : Nat)
  | checkProofState (index : Nat)
deriving DecidableEq, Repr

/-- What `exec`'s match decides: an action to run, `Ok(None)` for the finished batch, the abort
signal, or the panic of `batch_size - 1` at size 0 in a guard.
Source: `BatchPlanner::exec`
Kind: D
Fidelity: exact -/
inductive Dispatch where
  | act (a : Action)
  | finished
  | aborted
  | overflow
deriving DecidableEq, Repr

/-- An indexed arm of `exec`: `more` under the guard `index < batch_size - 1`, else `last`.
Source: the guards of `BatchPlanner::exec`
Kind: D
Fidelity: exact (`batch_size - 1` checked, as in a debug build) -/
def guarded (batchSize index : Nat) (more last : Dispatch) : Dispatch :=
  match usizeSub batchSize 1 with
  | none => .overflow
  | some bound => if index < bound then more else last

/-- The executor's choice of action.
Source: `BatchPlanner::exec`
Kind: D
Fidelity: exact -/
def dispatch (batchSize : Nat) : State → Dispatch
  | .empty => .act .allocate
  | .allocated => .act (.acquireDeals 0)
  | .dealsAcquired index =>
    guarded batchSize index (.act (.acquireDeals (index + 1))) (.act (.addPieces 0))
  | .pieceAdded index => guarded batchSize index (.act .buildTreeD) (.act .buildTreeD)
  | .treeDBuilt _ => .act .assignTicket
  | .ticketAssigned => .act .pc1
  | .pc1Done => .act .pc2
  | .pc2Done => .act (.submitPreCommit 0)
  | .pcSubmitted index =>
    guarded batchSize index (.act (.submitPreCommit (index + 1))) (.act (.checkPreCommitState 0))
  | .pcLanded index =>
    guarded batchSize index (.act (.checkPreCommitState (index + 1)))
      (.act (.persistSectorFiles 0))
  | .persisted index =>
    guarded batchSize index (.act (.persistSectorFiles index)) (.act (.submitPersisted 0))
  | .persistanceSubmitted index =>
    guarded batchSize index (.act (.submitPersisted (index + 1))) (.act (.waitSeed 0))
  | .seedAssigned index => guarded batchSize index (.act (.waitSeed (index + 1))) (.act .commit1)
  | .c1Done => .act (.commit2 0)
  | .c2Done index => guarded batchSize index (.act (.commit2 index)) (.act (.submitProof 0))
  | .proofSubmitted index =>
    guarded batchSize index (.act (.submitProof (index + 1))) (.act (.checkProofState 0))
  | .finished index => guarded batchSize index (.act (.checkProofState (index + 1))) .finished
  | .aborted => .aborted

/-- With a batch of at least one sector, a guarded arm is its guard, `index + 1 < batch_size`. -/
@[simp] theorem guarded_pos {batchSize index : Nat} (hb : 1 ≤ batchSize) (more last : Dispatch) :
    guarded batchSize index more last = if index + 1 < batchSize then more else last := by
  simp [guarded, usizeSub, hb, Nat.lt_sub_iff_add_lt]

/-- At batch size 0, a guarded arm panics on `batch_size - 1`. -/
@[simp] theorem guarded_zero (index : Nat) (more last : Dispatch) :
    guarded 0 index more last = .overflow :=
  rfl

/-- A guarded arm that runs an action: the batch is not empty, and the guard chose the action. -/
theorem guarded_eq_act {batchSize index : Nat} {more last : Dispatch} {a : Action}
    (h : guarded batchSize index more last = .act a) :
    1 ≤ batchSize ∧ (if index + 1 < batchSize then more else last) = .act a := by
  rcases Nat.eq_zero_or_pos batchSize with rfl | hb
  · cases h
  · exact ⟨hb, guarded_pos hb more last ▸ h⟩

/-- Modelled from the spec: `TaskAborted` (in `sealing_thread::failure`, not under `src/`) is the
abort signal of §4.2.
Source: `TaskAborted`; spec §4.2, §7
Kind: D
Fidelity: spec -/
def taskAborted : Failure := ⟨.abort, "task aborted"⟩

/-- Run one action of `BatchSealer` on the batch record.
Source: the method calls of `BatchPlanner::exec`
Kind: D
Fidelity: exact -/
def Action.run (env : Env) (job : Sectors) : Action → Run Event
  | .allocate => BatchSealer.allocate env job
  | .acquireDeals index => BatchSealer.acquireDeals env job index
  | .addPieces index => BatchSealer.addPieces env index
  | .buildTreeD => BatchSealer.buildTreeD env
  | .assignTicket => BatchSealer.assignTicket env job
  | .pc1 => BatchSealer.pc1 env
  | .pc2 => BatchSealer.pc2 env
  | .submitPreCommit index => BatchSealer.submitPreCommit env job index
  | .checkPreCommitState index => BatchSealer.checkPreCommitState env job index
  | .persistSectorFiles index => BatchSealer.persistSectorFiles env index
  | .submitPersisted index => BatchSealer.submitPersisted env job index
  | .waitSeed index => BatchSealer.waitSeed env job index
  | .commit1 => BatchSealer.commit1 env
  | .commit2 index => BatchSealer.commit2 env index
  | .submitProof index => BatchSealer.submitProof env job index
  | .checkProofState index => BatchSealer.checkProofState env job index

/-- One call of the executor: the dispatched action's event, `None` for the finished batch.
Source: `BatchPlanner::exec`
Kind: D
Fidelity: exact -/
def exec (env : Env) (job : Sectors) : Run (Option Event) :=
  match dispatch job.batchSize job.state with
  | .act a => (a.run env job).bind fun e => pure (some e)
  | .finished => pure none
  | .aborted => Run.lift (.error taskAborted)
  | .overflow => ⟨[], .panic "attempt to subtract with overflow"⟩

/-! ## What each action can end with -/

/-- The per-action contract (§4.2): the events an action can end with.
Source: spec §4.2 (per-action contracts)
Kind: D
Fidelity: spec -/
def Action.Yields (job : Sectors) : Action → Event → Prop
  | .allocate, e => e = .idle ∨ ∃ l, l ≠ [] ∧ e = .allocate l
  | .acquireDeals index, e =>
    e = .idle ∨ (∃ deals, e = .acquireDeals index deals) ∨
      e = .acquireDeals job.sectors.length none
  | .addPieces index, e => ∃ pieces, e = .addPiece index pieces
  | .buildTreeD, e => e = .buildTreeD 0
  | .assignTicket, e => ∃ t, e = .assignTicket t
  | .pc1, e => ∃ t out, e = .pc1 t out
  | .pc2, e => ∃ out, e = .pc2 out
  | .submitPreCommit index, e => e = .submitPC index
  | .checkPreCommitState index, e => e = .checkPC index ∨ e = .reSubmitPC index
  | .persistSectorFiles index, e => ∃ inst, e = .persist inst index
  | .submitPersisted index, e => e = .submitPersistance index
  | .waitSeed index, e => ∃ seed, e = .assignSeed index seed
  | .commit1, e => ∃ out, e = .c1 out
  | .commit2 index, e => ∃ out, e = .c2 index out
  | .submitProof index, e => e = .submitProof index
  | .checkProofState index, e => e = .finish index ∨ e = .reSubmitProof index

/-- The poll loop ends only with its `landed` or its `failed` event. -/
theorem pollLoop_outcome_ok {p : Poll} {interval : Duration} {landed failed e : Event} :
    ∀ {answers : List (Except RpcError PollResp)} {ws : List (Except Failure Unit)},
      (pollLoop p interval landed failed answers ws).outcome = .ok e → e = landed ∨ e = failed
  | [], _, h => by cases h
  | ans :: answers, ws, h => by
    simp only [pollLoop, Run.bind_eq] at h
    obtain ⟨st, -, h⟩ := Run.bind_outcome_ok h
    split at h
    case h_1 => cases h; exact .inl rfl
    case h_3 => obtain ⟨_, -, h⟩ := Run.bind_outcome_ok h; cases h; exact .inr rfl
    case h_6 | h_7 => obtain ⟨_, -, h⟩ := Run.bind_outcome_ok h; exact pollLoop_outcome_ok h
    all_goals simp at h

/-- The seed wait ends only with `AssignSeed` for its sector. -/
theorem waitSeedLoop_outcome_ok {index : Nat} {id : SectorID} {e : Event} :
    ∀ {answers : List (Except RpcError WaitSeedResp)} {ws : List (Except Failure Unit)},
      (waitSeedLoop index id answers ws).outcome = .ok e → ∃ seed, e = .assignSeed index seed
  | [], _, h => by cases h
  | ans :: answers, ws, h => by
    simp only [waitSeedLoop, Run.bind_eq] at h
    obtain ⟨w, -, h⟩ := Run.bind_outcome_ok h
    split at h
    · cases h; exact ⟨_, rfl⟩
    · split at h
      · simp at h
      · obtain ⟨_, -, h⟩ := Run.bind_outcome_ok h; exact waitSeedLoop_outcome_ok h

/-- A submission verdict that succeeds gives the success event. -/
theorem submitVerdict_ok {resp : SubmitResp} {filesMissed : String} {success e : Event}
    (h : submitVerdict resp filesMissed success = .ok e) : e = success := by
  unfold submitVerdict at h; split at h <;> first | (cases h; rfl) | cases h

section yields

variable {env : Env} {job : Sectors} {e : Event}

/-- `allocate` meets its contract. -/
theorem allocate_yields (h : (allocate env job).outcome = .ok e) :
    Action.allocate.Yields job e := by
  simp only [allocate, Run.bind_eq] at h
  obtain ⟨_, -, h⟩ := Run.bind_outcome_ok h
  split at h <;> cases h
  · exact .inl rfl
  · split <;> simp_all [Action.Yields]

/-- `acquire_deals` meets its contract. -/
theorem acquireDeals_yields {index : Nat} (h : (acquireDeals env job index).outcome = .ok e) :
    (Action.acquireDeals index).Yields job e := by
  simp only [acquireDeals, Run.bind_eq] at h
  split at h
  · cases h; split <;> simp [Action.Yields]
  · iterate 3 obtain ⟨_, -, h⟩ := Run.bind_outcome_ok h
    cases h; split <;> simp [Action.Yields]

/-- `submit_pre_commit(index)` ends only with `SubmitPC{index}`. -/
theorem submitPreCommit_yields {index : Nat} (h : (submitPreCommit env job index).outcome = .ok e) :
    e = .submitPC index := by
  simp only [submitPreCommit, Run.bind_eq] at h
  obtain ⟨_, -, h⟩ := Run.bind_outcome_ok h
  split at h
  · obtain ⟨_, -, h⟩ := Run.bind_outcome_ok h
    exact submitVerdict_ok (Run.lift_outcome_ok h)
  · simp at h

/-- `submit_proof(index)` ends only with `SubmitProof{index}`. -/
theorem submitProof_yields {index : Nat} (h : (submitProof env job index).outcome = .ok e) :
    e = .submitProof index := by
  simp only [submitProof, Run.bind_eq] at h
  iterate 4 obtain ⟨_, -, h⟩ := Run.bind_outcome_ok h
  exact submitVerdict_ok (Run.lift_outcome_ok h)

/-- `submit_persisted(index)` ends only with `SubmitPersistance{index}`. -/
theorem submitPersisted_yields {index : Nat} (h : (submitPersisted env job index).outcome = .ok e) :
    e = .submitPersistance index := by
  simp only [submitPersisted, Run.bind_eq] at h
  iterate 4 obtain ⟨_, -, h⟩ := Run.bind_outcome_ok h
  split at h
  · cases h; rfl
  · simp at h

/-- `check_pre_commit_state(index)` ends only with `CheckPC{index}` or `ReSubmitPC{index}`. -/
theorem checkPreCommitState_yields {index : Nat}
    (h : (checkPreCommitState env job index).outcome = .ok e) :
    e = .checkPC index ∨ e = .reSubmitPC index := by
  simp only [checkPreCommitState, Run.bind_eq] at h
  iterate 2 obtain ⟨_, -, h⟩ := Run.bind_outcome_ok h
  exact pollLoop_outcome_ok h

/-- `check_proof_state(index)` ends only with `Finish{index}` or `ReSubmitProof{index}`. -/
theorem checkProofState_yields {index : Nat}
    (h : (checkProofState env job index).outcome = .ok e) :
    e = .finish index ∨ e = .reSubmitProof index := by
  simp only [checkProofState, Run.bind_eq] at h
  iterate 2 obtain ⟨_, -, h⟩ := Run.bind_outcome_ok h
  split at h
  · exact pollLoop_outcome_ok h
  · cases h; exact .inl rfl

/-- `wait_seed(index)` ends only with `AssignSeed` for sector `index`. -/
theorem waitSeed_yields {index : Nat} (h : (waitSeed env job index).outcome = .ok e) :
    ∃ seed, e = .assignSeed index seed := by
  simp only [waitSeed, Run.bind_eq] at h
  iterate 2 obtain ⟨_, -, h⟩ := Run.bind_outcome_ok h
  exact waitSeedLoop_outcome_ok h

/-- `assign_ticket` ends only with `AssignTicket`. -/
theorem assignTicket_yields (h : (assignTicket env job).outcome = .ok e) :
    ∃ t, e = .assignTicket t := by
  simp only [assignTicket, Run.bind_eq] at h
  iterate 2 obtain ⟨_, -, h⟩ := Run.bind_outcome_ok h
  split at h <;> obtain ⟨_, -, h⟩ := Run.bind_outcome_ok h <;> cases h <;> exact ⟨_, rfl⟩

/-- **Every action meets its contract**: whatever the collaborators answer, an action that ends
with an event ends with one its contract names.
Source: the methods of `BatchSealer`
Kind: L -/
theorem Action.run_yields {a : Action} (h : (a.run env job).outcome = .ok e) : a.Yields job e := by
  cases a <;> simp only [Action.run, Action.Yields] at h ⊢
  case allocate => exact allocate_yields h
  case acquireDeals => exact acquireDeals_yields h
  case submitPreCommit => exact submitPreCommit_yields h
  case checkPreCommitState => exact checkPreCommitState_yields h
  case submitPersisted => exact submitPersisted_yields h
  case waitSeed => exact waitSeed_yields h
  case submitProof => exact submitProof_yields h
  case checkProofState => exact checkProofState_yields h
  case assignTicket => exact assignTicket_yields h
  all_goals
    simp only [BatchSealer.addPieces, BatchSealer.buildTreeD, BatchSealer.pc1, BatchSealer.pc2,
      BatchSealer.persistSectorFiles, BatchSealer.commit1, BatchSealer.commit2, Run.bind_eq] at h
    obtain ⟨_, -, h⟩ := Run.bind_outcome_ok h
    cases h
    first | rfl | exact ⟨_, rfl⟩ | exact ⟨_, _, rfl⟩

/-- An event of `exec` is an event its dispatched action yields. -/
theorem exec_eq_ok_some (h : (exec env job).outcome = .ok (some e)) :
    ∃ a, dispatch job.batchSize job.state = .act a ∧ (a.run env job).outcome = .ok e := by
  unfold exec at h
  split at h
  · obtain ⟨_, h₁, h₂⟩ := Run.bind_outcome_ok h
    cases h₂; exact ⟨_, ‹_›, h₁⟩
  all_goals simp at h

/-- Conversely, `exec` ends with the event its dispatched action ends with. -/
theorem exec_of_run_ok {a : Action} (hd : dispatch job.batchSize job.state = .act a)
    (h : (a.run env job).outcome = .ok e) : (exec env job).outcome = .ok (some e) := by
  unfold exec
  rw [hd, Run.bind_outcome_of_ok h]
  rfl

/-- An allocation `exec` returns is never empty: `allocate` idles on an empty answer. -/
theorem exec_allocate_ne_nil {l : List AllocatedSector}
    (h : (exec env job).outcome = .ok (some (.allocate l))) : l ≠ [] := by
  obtain ⟨a, -, hrun⟩ := exec_eq_ok_some h
  have hy := Action.run_yields hrun
  cases a
  case allocate => simpa [Action.Yields] using hy
  all_goals simp [Action.Yields] at hy

end yields

end Damocles.Batch
