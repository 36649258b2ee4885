import Damocles.Batch.Exec
import Damocles.Batch.Plan

/-!
# The driver loop and the batches it reaches

The driver loop is not under `src/`: §2 and §5 describe it as the collaborator that repeatedly
runs the executor, plans the event, and commits the record. `turn` is one iteration of it, built
on the source's `exec`, `plan` and `Event::apply`, with the planned state recorded as the commit
of §9 does (the line of `Event::apply` that would record it is commented out). `Reachable` is every
batch a fresh batch of `n` sectors can reach by turns, each under its own answers of the world.

* `turn_eq_ok_some` says once what a turn can do: keep the record on `Idle`, or commit an event
  `exec` returned, whose planned state differs from the recorded one.
* `Shape`: the states a driver run can be in. The run never records a second pre-commit output
  (`Event::apply_changes` has its `PC2` arm commented out), so `submit_pre_commit(0)` fails at
  `PC2Done` and nothing past it is reached. `DriverInv` adds the batch's size and length, the
  absent outputs and sector 0's base past `Empty`; `DriverInv.turn` is the step lemma,
  `Reachable.inv` the run lemma.
* **`reachable_exec_planned`**: at every reachable batch, every event `exec` returns other than
  `Idle` is accepted by `plan`, with a state other than the recorded one.
* **`reachable_pc2Done_stuck`**: at every reachable `PC2Done`, `exec` fails critically without a
  request, under any answers; **`reachable_rank_le_pc2Done`**: no driver run passes `PC2Done`, and
  `exec` never returns a resubmission event on one.
* **`reachable_index_bounds`**: the indices a reachable state carries, and the arithmetic of
  `exec` and `plan` on such a state; with deals disabled the deal index reaches the batch's
  length (`reachable_dealsAcquired_length`).
* `progress` measures how far a run has gone; every committed turn other than `Idle` raises it
  (`Shape.exec_step`), and it is at most `n + 6` (`Progress.lean` draws the consequences for whole
  runs).
* `drive` runs the driver under a schedule of worlds; its batches are reachable
  (`drive_reachable`). **`reachable_planRun`**: every driver run is a planner run, so the laws of
  `Plan.lean` hold of it.
* The run where every action succeeds (`happyEnv`) is `HappyRun.lean`.
-/

namespace Damocles.Batch

open BatchSealer

/-! ## One turn -/

/-- Modelled from the spec: one iteration of the driver loop (§2, §5, §7). `None` ends the batch;
`Idle` keeps the record for a later retry (§7: not an error); any other event is planned, passed
through `Event::apply` (its guard included) and committed with the planned state. The planner's
errors and the guard's are critical (§7); the panic of `plan` stays a panic.
Source: spec §2 (driver loop), §5, §7; `BatchPlanner::exec`, `BatchPlanner::plan`, `Event::apply`
Kind: D
Fidelity: spec -/
def turn (p : BatchPlanner) (env : Env) (job : Sectors) : Run (Option (Event × Sectors)) :=
  (exec env job).bind fun
    | none => pure none
    | some e =>
      if e = .idle then pure (some (.idle, job))
      else match p.plan e job.state with
        | .error .overflow => ⟨[], .panic "attempt to subtract with overflow"⟩
        | .error (.unexpected _ _) => Run.lift (.error ⟨.critical, "unexpected state and event"⟩)
        | .ok next =>
          match e.apply next ⟨job, false⟩ with
          | (.error msg, _) => Run.lift (.error ⟨.critical, msg⟩)
          | (.ok (), saved) => pure (some (e, { saved.inner with state := next }))

/-- An event `plan` accepts is no `SetState`, so `Event::apply` targets the planned state. -/
theorem target_of_plan_ok {p : BatchPlanner} {e : Event} {st next : State}
    (h : p.plan e st = .ok next) : e.target next = next := by
  cases plan_eq_ok_iff.mp h <;> rfl

/-- **What a turn can do**: keep the record on `Idle`, or commit an event of `exec` that `plan`
accepts with a state other than the recorded one.
Source: spec §5
Kind: L -/
theorem turn_eq_ok_some {p : BatchPlanner} {env : Env} {job job' : Sectors} {e : Event}
    (h : (turn p env job).outcome = .ok (some (e, job'))) :
    (e = .idle ∧ job' = job) ∨
      (e ≠ .idle ∧ (exec env job).outcome = .ok (some e) ∧
        ∃ next, p.plan e job.state = .ok next ∧ next ≠ job.state ∧ job' = e.commit next job) := by
  obtain ⟨o, hexec, h⟩ := Run.bind_outcome_ok h
  rcases o with _ | e'
  · cases h
  simp only at h
  split_ifs at h with hidle
  · cases h; exact .inl ⟨rfl, rfl⟩
  split at h
  · cases h
  · simp at h
  rename_i next hplan
  have htarget := target_of_plan_ok hplan
  unfold Event.apply at h
  split_ifs at h with hguard
  · simp at h
  cases h
  exact .inr ⟨hidle, hexec, next, hplan, htarget ▸ hguard, rfl⟩

/-- The converse: an event of `exec` other than `Idle`, accepted by `plan` with another state, is
committed. -/
theorem turn_of_exec {p : BatchPlanner} {env : Env} {job : Sectors} {e : Event} {next : State}
    (he : (exec env job).outcome = .ok (some e)) (hidle : e ≠ .idle)
    (hplan : p.plan e job.state = .ok next) (hne : next ≠ job.state) :
    (turn p env job).outcome = .ok (some (e, e.commit next job)) := by
  simp [turn, Run.bind_outcome_of_ok he, hidle, hplan, Event.apply, target_of_plan_ok hplan, hne,
    Saved.innerMut, Event.commit]

/-! ## Reachable batches -/

/-- Every batch the driver reaches from a fresh batch of `n` sectors, each turn under its own
answers of the world.
Source: spec §5
Kind: D
Fidelity: spec -/
inductive Reachable (p : BatchPlanner) (n : Nat) : Sectors → Prop
  | new : Reachable p n (Sectors.new n)
  | turn {job job' : Sectors} {e : Event} (env : Env) :
      Reachable p n job → (turn p env job).outcome = .ok (some (e, job')) → Reachable p n job'

/-- The states a driver run can be in: up to `PC2Done`, with the deal index at most `n`, and the
pieces and the tree at sector 0.
Source: `BatchPlanner::exec`, `BatchPlanner::plan`
Kind: D
Fidelity: exact -/
inductive Shape (n : Nat) : State → Prop
  | empty : Shape n .empty
  | allocated : Shape n .allocated
  | dealsAcquired {index : Nat} (h : index ≤ n) : Shape n (.dealsAcquired index)
  | pieceAdded : Shape n (.pieceAdded 0)
  | treeDBuilt : Shape n (.treeDBuilt 0)
  | ticketAssigned : Shape n .ticketAssigned
  | pc1Done : Shape n .pc1Done
  | pc2Done : Shape n .pc2Done

/-- What holds of every reachable batch.
Source: spec §5
Kind: D
Fidelity: n/a -/
structure DriverInv (n : Nat) (job : Sectors) : Prop where
  batchSize : job.batchSize = n
  length : job.sectors.length = n
  shape : Shape n job.state
  pc2out : ∀ sec ∈ job.sectors, sec.phases.pc2out = none
  base0 : ∀ sec, job.sectors[0]? = some sec → job.state ≠ .empty → sec.base.isSome

/-- How far a driver run of a batch of `n` sectors has gone: one step per phase, and one per deal
index below `n - 1` (`DealsAcquired{n}`, where disabled deals jump, counts as `n - 1`: it is
entered only from below `n - 1`). Every committed turn raises it (`Shape.exec_step`).
Source: `BatchPlanner::exec`, `BatchPlanner::plan`
Kind: D
Fidelity: n/a -/
def progress (n : Nat) : State → Nat
  | .empty => 0
  | .allocated => 1
  | .dealsAcquired index => 2 + min index (n - 1)
  | .pieceAdded _ => n + 2
  | .treeDBuilt _ => n + 3
  | .ticketAssigned => n + 4
  | .pc1Done => n + 5
  | _ => n + 6

/-- The measure never exceeds `n + 6`. -/
theorem progress_le (n : Nat) (st : State) : progress n st ≤ n + 6 := by
  unfold progress; split <;> omega

/-- The sector an action read with `job.sector(index)?` is the batch's sector at `index`. -/
theorem sector_of_crit_ok {job : Sectors} {index : Nat} {sector : Sector}
    (h : (Run.lift (crit (job.sector index))).outcome = .ok sector) :
    job.sectors[index]? = some sector := by
  have h := Run.lift_outcome_ok h
  unfold Sectors.sector at h
  cases hj : job.sectors[index]? <;> simp_all

/-- With no second pre-commit output on any sector, `submit_pre_commit` never ends with an event. -/
theorem submitPreCommit_ne_ok {env : Env} {job : Sectors} {index : Nat} {e : Event}
    (h : ∀ sec ∈ job.sectors, sec.phases.pc2out = none) :
    (submitPreCommit env job index).outcome ≠ .ok e := by
  intro hr
  simp only [submitPreCommit, Run.bind_eq] at hr
  obtain ⟨sector, hs, hr⟩ := Run.bind_outcome_ok hr
  rw [h sector (List.getElem?_mem (sector_of_crit_ok hs))] at hr
  simp at hr

/-- **The step of a shape**: in a state of a driver run, every event other than `Idle` of the
dispatched action, `submit_pre_commit` apart, is accepted by `plan`, with another state of a driver
run, further on.
Source: `BatchPlanner::exec`, `BatchPlanner::plan`
Kind: L -/
theorem Shape.exec_step (p : BatchPlanner) {n : Nat} {job : Sectors} {st : State} {a : Action}
    {e : Event} (hs : Shape n st) (hd : dispatch n st = .act a) (hy : a.Yields job e)
    (hlen : job.sectors.length = n) (hidle : e ≠ .idle) (hpc : ∀ i, a ≠ .submitPreCommit i) :
    ∃ next, p.plan e st = .ok next ∧ next ≠ st ∧ Shape n next ∧
      progress n st < progress n next := by
  cases hs with
  | empty =>
    cases hd
    rcases hy with rfl | ⟨l, -, rfl⟩
    · exact absurd rfl hidle
    · exact ⟨_, plan_eq_ok_iff.mpr (.allocate l), by simp, .allocated, Nat.lt_succ_self _⟩
  | allocated =>
    cases hd
    rcases hy with rfl | ⟨_, rfl⟩ | rfl
    · exact absurd rfl hidle
    · exact ⟨_, plan_eq_ok_iff.mpr (.acquireDealsFirst _ _), by simp, .dealsAcquired (by omega),
        by simp [progress]⟩
    · exact ⟨_, plan_eq_ok_iff.mpr (.acquireDealsFirst _ _), by simp, .dealsAcquired hlen.le,
        by simp only [progress]; omega⟩
  | dealsAcquired hi =>
    obtain ⟨hn, hd⟩ := guarded_eq_act hd
    split_ifs at hd with hlt <;> cases hd
    · rcases hy with rfl | ⟨_, rfl⟩ | rfl
      · exact absurd rfl hidle
      · exact ⟨_, plan_eq_ok_iff.mpr (.acquireDealsNext _ _ _), by simp, .dealsAcquired hlt.le,
          by simp only [progress]; omega⟩
      · exact ⟨_, plan_eq_ok_iff.mpr (.acquireDealsNext _ _ _), by simp; omega,
          .dealsAcquired hlen.le, by simp only [progress, hlen]; omega⟩
    · obtain ⟨_, rfl⟩ := hy
      exact ⟨_, plan_eq_ok_iff.mpr (.addPieceFirst _ _ _), by simp, .pieceAdded,
        by simp only [progress]; omega⟩
  | pieceAdded =>
    obtain ⟨-, hd⟩ := guarded_eq_act hd
    split_ifs at hd <;> cases hd <;> obtain rfl := hy <;>
      exact ⟨_, plan_eq_ok_iff.mpr (.buildTreeDFirst _ _), by simp, .treeDBuilt, Nat.lt_succ_self _⟩
  | treeDBuilt =>
    cases hd
    obtain ⟨_, rfl⟩ := hy
    exact ⟨_, plan_eq_ok_iff.mpr (.assignTicket _ _), by simp, .ticketAssigned, Nat.lt_succ_self _⟩
  | ticketAssigned =>
    cases hd
    obtain ⟨_, _, rfl⟩ := hy
    exact ⟨_, plan_eq_ok_iff.mpr (.pc1 _ _), by simp, .pc1Done, Nat.lt_succ_self _⟩
  | pc1Done =>
    cases hd
    obtain ⟨_, rfl⟩ := hy
    exact ⟨_, plan_eq_ok_iff.mpr (.pc2 _), by simp, .pc2Done, Nat.lt_succ_self _⟩
  | pc2Done => cases hd; exact absurd rfl (hpc 0)

/-- A new batch has the invariant. -/
theorem DriverInv.new (n : Nat) : DriverInv n (Sectors.new n) :=
  ⟨rfl, by simp [Sectors.new], .empty, fun sec h => by simp [Sectors.new, List.eq_of_mem_replicate h],
    fun _ _ h => absurd rfl h⟩

/-- At a batch with the invariant, an event of `exec` other than `Idle` is accepted by `plan`, with
another state of a driver run, further on. -/
theorem DriverInv.exec_step (p : BatchPlanner) {n : Nat} {job : Sectors} {env : Env} {e : Event}
    (hi : DriverInv n job) (he : (exec env job).outcome = .ok (some e)) (hidle : e ≠ .idle) :
    ∃ next, p.plan e job.state = .ok next ∧ next ≠ job.state ∧ Shape n next ∧
      progress n job.state < progress n next := by
  obtain ⟨a, hd, hrun⟩ := exec_eq_ok_some he
  have hpc : ∀ i, a ≠ .submitPreCommit i := by
    rintro i rfl; exact submitPreCommit_ne_ok hi.pc2out hrun
  exact hi.shape.exec_step p (hi.batchSize ▸ hd) (Action.run_yields hrun) hi.length hidle hpc

/-- Sector 0 has a base after a committed turn past `Empty`: the allocation `exec` returns is not
empty, and no other event writes a base. -/
theorem DriverInv.base0_commit {p : BatchPlanner} {n : Nat} {job : Sectors} {env : Env} {e : Event}
    {next : State} (hi : DriverInv n job) (he : (exec env job).outcome = .ok (some e))
    (hplan : p.plan e job.state = .ok next) :
    ∀ sec, (e.commit next job).sectors[0]? = some sec → next ≠ .empty → sec.base.isSome := by
  intro sec' h' _
  rw [getElem?_commit] at h'
  obtain ⟨sec, hs, rfl⟩ := Option.map_eq_some'.mp h'
  cases ha : e.isAllocate
  · rw [sectorWrite_base ha]
    refine hi.base0 sec hs fun hemp => ?_
    rw [hemp] at hplan
    cases plan_eq_ok_iff.mp hplan
    simp [Event.isAllocate] at ha
  · obtain ⟨l, rfl⟩ : ∃ l, e = .allocate l := by cases e <;> simp_all [Event.isAllocate]
    obtain ⟨a, l, rfl⟩ := List.exists_cons_of_ne_nil (exec_allocate_ne_nil he)
    simp [Event.sectorWrite]

/-- The step lemma: a turn keeps the invariant. -/
theorem DriverInv.turn {p : BatchPlanner} {env : Env} {n : Nat} {job job' : Sectors} {e : Event}
    (hi : DriverInv n job) (h : (turn p env job).outcome = .ok (some (e, job'))) :
    DriverInv n job' := by
  rcases turn_eq_ok_some h with ⟨-, rfl⟩ | ⟨hidle, hexec, next, hplan, -, rfl⟩
  · exact hi
  obtain ⟨next', hplan', -, hshape, -⟩ := hi.exec_step p hexec hidle
  cases hplan.symm.trans hplan'
  exact ⟨by simp [hi.batchSize], by simp [hi.length], hshape,
    forall_mem_commit (fun j sec h => (sectorWrite_pc2out _ j sec).trans h) hi.pc2out,
    hi.base0_commit hexec hplan⟩

/-- The run lemma: every reachable batch keeps the invariant. -/
theorem Reachable.inv {p : BatchPlanner} {n : Nat} {job : Sectors} (h : Reachable p n job) :
    DriverInv n job := by
  induction h with
  | new => exact DriverInv.new n
  | turn _ _ ht ih => exact ih.turn ht

/-! ## Runs under a schedule of worlds -/

/-- The driver run under a schedule of worlds, one per turn: the events it committed (`Idle`
included) and the batch it ends with; it stops early at the finished batch.
Source: spec §5
Kind: D
Fidelity: spec -/
def drive (p : BatchPlanner) : List Env → Sectors → Run (List Event × Sectors)
  | [], job => pure ([], job)
  | env :: envs, job => (turn p env job).bind fun
    | none => pure ([], job)
    | some (e, job') => (drive p envs job').bind fun (es, t) => pure (e :: es, t)

/-- A run under a schedule ends in a reachable batch. -/
theorem drive_reachable {p : BatchPlanner} {n : Nat} :
    ∀ {envs : List Env} {job t : Sectors} {es : List Event}, Reachable p n job →
      (drive p envs job).outcome = .ok (es, t) → Reachable p n t
  | [], _, _, _, h, hd => by cases hd; exact h
  | env :: _, _, _, _, h, hd => by
    obtain ⟨_ | ⟨_, _⟩, ht, hd⟩ := Run.bind_outcome_ok hd
    · cases hd; exact h
    · obtain ⟨⟨_, _⟩, hd', hd⟩ := Run.bind_outcome_ok hd
      cases hd; exact drive_reachable (.turn env h ht) hd'

/-- The sectors the world of `happyEnv` allocates for a request of `count`.
Source: spec §4.2 (allocation)
Kind: D
Fidelity: spec -/
def happyAllocated (count : Nat) : List AllocatedSector :=
  (List.range count).map fun k => ⟨⟨1000, k⟩, ⟨0⟩⟩

/-- A world where every action succeeds on its first answer: the sector manager allocates what is
asked, finds one deal per sector, hands out a ticket, accepts every submission, answers every poll
with `Landed` and every seed wait with a seed, and confirms every persisted sector; the proving
backend gives each placeholder action its phase's event, with the index it was called with.
Source: spec §4.2, §6
Kind: D
Fidelity: spec -/
def happyEnv : Env where
  config := ⟨[1000], [⟨0⟩], true, false, none, none, Duration.fromSecs 5, false⟩
  rpc :=
    { allocateSectorsBatch := fun _ count => .ok (happyAllocated count)
      acquireDeals := fun id _ => .ok (some [⟨id.number⟩])
      assignTicket := fun _ => .ok ⟨7, 1⟩
      submitPreCommit := fun _ _ _ => .ok ⟨.accepted, none⟩
      pollPreCommitState := fun _ => [.ok ⟨.landed, none⟩]
      submitPersistedEx := fun _ _ _ => .ok true
      waitSeed := fun _ => [.ok ⟨false, 0, some ⟨9, 2⟩⟩]
      submitProof := fun _ _ _ => .ok ⟨.accepted, none⟩
      pollProofState := fun _ => [.ok ⟨.landed, none⟩] }
  waits := []
  backend :=
    { addPieces := fun index => .ok [⟨index⟩]
      buildTreeD := .ok ()
      pc1 := .ok (⟨7, 1⟩, [])
      pc2 := .ok []
      persistSectorFiles := fun _ => .ok "store"
      commit1 := .ok []
      commit2 := fun index => .ok ⟨index⟩ }

/-! ## Driver runs are planner runs -/

/-- **Driver runs are planner runs**: every batch a driver run reaches is reached by a planner run
from the fresh batch, through the events its turns committed (`Idle` turns dropped), so every law
of planner runs holds of driver runs.
Source: spec §5
Kind: L -/
theorem reachable_planRun {p : BatchPlanner} {n : Nat} {job : Sectors} (h : Reachable p n job) :
    ∃ es, PlanRun p (Sectors.new n) es job := by
  induction h with
  | new => exact ⟨[], .nil _⟩
  | turn _ _ ht ih =>
    obtain ⟨es, hes⟩ := ih
    rcases turn_eq_ok_some ht with ⟨-, rfl⟩ | ⟨-, -, next, hplan, -, rfl⟩
    · exact ⟨es, hes⟩
    · exact ⟨es ++ [_], hes.append (.cons hplan (.nil _))⟩

/-- The batch the run of `happyEnv` reaches is a planner run's. -/
theorem reachable_planRun_happy :
    ∃ job, Reachable default 1 job ∧ ∃ es, PlanRun default (Sectors.new 1) es job :=
  let h := drive_reachable .new
    (rfl : (drive default (List.replicate 7 happyEnv) (Sectors.new 1)).outcome = .ok (_, _))
  ⟨_, h, reachable_planRun h⟩

/-! ## What the driver meets -/

/-- At a batch with the invariant, every event `exec` returns other than `Idle` is accepted by
`plan`, with another state. -/
theorem DriverInv.exec_planned {p : BatchPlanner} {n : Nat} {job : Sectors} {env : Env}
    {e : Event} (hi : DriverInv n job) (he : (exec env job).outcome = .ok (some e))
    (hidle : e ≠ .idle) : ∃ next, p.plan e job.state = .ok next ∧ next ≠ job.state := by
  obtain ⟨next, hplan, hne, -⟩ := hi.exec_step p he hidle
  exact ⟨next, hplan, hne⟩

/-- **No reachable step is rejected**: at every batch a driver run reaches, every event `exec`
returns other than `Idle` is accepted by `plan`, with a state other than the recorded one, so
neither the planner's "unexpected state and event" nor the guard of `Event::apply` fires.
Source: `BatchPlanner::exec`, `BatchPlanner::plan`, `Event::apply`
Kind: L -/
theorem reachable_exec_planned {p : BatchPlanner} {n : Nat} {job : Sectors} {env : Env}
    {e : Event} (h : Reachable p n job) (he : (exec env job).outcome = .ok (some e))
    (hidle : e ≠ .idle) : ∃ next, p.plan e job.state = .ok next ∧ next ≠ job.state :=
  h.inv.exec_planned he hidle

/-- In a batch of two, the deals of sector 1: accepted by `plan`, with another state. -/
theorem reachable_exec_planned_deals :
    ∃ job, Reachable ⟨2⟩ 2 job ∧
      (exec happyEnv job).outcome = .ok (some (.acquireDeals 1 (some [⟨1⟩]))) ∧
      Event.acquireDeals 1 (some [⟨1⟩]) ≠ .idle ∧
      ∃ next, BatchPlanner.plan ⟨2⟩ (.acquireDeals 1 (some [⟨1⟩])) job.state = .ok next ∧
        next ≠ job.state :=
  let h := drive_reachable .new
    (rfl : (drive ⟨2⟩ (List.replicate 2 happyEnv) (Sectors.new 2)).outcome = .ok (_, _))
  ⟨_, h, rfl, by simp,
    reachable_exec_planned h (show (exec happyEnv _).outcome = _ from rfl) (by simp)⟩

/-- With the invariant, `PC2Done` is stuck: sector 0 has no second pre-commit output. -/
theorem DriverInv.pc2Done_stuck {n : Nat} {job : Sectors} (hi : DriverInv n job) (hn : 1 ≤ n)
    (hs : job.state = .pc2Done) (env : Env) :
    exec env job = ⟨[], .err ⟨.critical, "PC2 not completed"⟩⟩ := by
  obtain ⟨sec, hsec⟩ : ∃ sec, job.sectors[0]? = some sec := by
    rcases hj : job.sectors with _ | ⟨sec, _⟩
    · have := hi.length; simp [hj] at this; omega
    · exact ⟨sec, by simp⟩
  simp [exec, hs, dispatch, Action.run, submitPreCommit, Sectors.sector, hsec,
    hi.pc2out sec (List.getElem?_mem hsec)]

/-- **A reachable `PC2Done` is stuck**: `exec` calls `submit_pre_commit(0)`, which finds no second
pre-commit output on sector 0 and fails critically, before any request, whatever the world
answers.
Source: `BatchPlanner::exec`, `BatchSealer::submit_pre_commit`, `Event::apply_changes`
Kind: L -/
theorem reachable_pc2Done_stuck {p : BatchPlanner} {n : Nat} {job : Sectors} (hn : 1 ≤ n)
    (h : Reachable p n job) (hs : job.state = .pc2Done) (env : Env) :
    exec env job = ⟨[], .err ⟨.critical, "PC2 not completed"⟩⟩ :=
  h.inv.pc2Done_stuck hn hs env

/-- The batch of one at `PC2Done` after the run of `happyEnv` is stuck. -/
theorem reachable_pc2Done_stuck_happy :
    ∃ job, Reachable default 1 job ∧ job.state = .pc2Done ∧
      exec happyEnv job = ⟨[], .err ⟨.critical, "PC2 not completed"⟩⟩ :=
  let h := drive_reachable .new
    (rfl : (drive default (List.replicate 7 happyEnv) (Sectors.new 1)).outcome = .ok (_, _))
  ⟨_, h, rfl, reachable_pc2Done_stuck (by decide) h rfl happyEnv⟩

/-- The sector index an indexed state carries.
Source: `planner::batch::State`
Kind: D
Fidelity: exact -/
def State.index? : State → Option Nat
  | .dealsAcquired i | .pieceAdded i | .treeDBuilt i | .pcSubmitted i | .pcLanded i
  | .persisted i | .persistanceSubmitted i | .seedAssigned i | .c2Done i | .proofSubmitted i
  | .finished i => some i
  | .empty | .allocated | .ticketAssigned | .pc1Done | .pc2Done | .c1Done | .aborted => none

/-- The sector index `exec` passes to an action.
Source: `BatchPlanner::exec`
Kind: D
Fidelity: exact -/
def Action.index? : Action → Option Nat
  | .acquireDeals i | .addPieces i | .submitPreCommit i | .checkPreCommitState i
  | .persistSectorFiles i | .submitPersisted i | .waitSeed i | .commit2 i | .submitProof i
  | .checkProofState i => some i
  | .allocate | .buildTreeD | .assignTicket | .pc1 | .pc2 | .commit1 => none

/-- The index a state of a driver run carries is below `n`, or it is the deal index `n`. -/
theorem Shape.index_lt {n : Nat} {st : State} (hs : Shape n st) (hn : 1 ≤ n) {i : Nat}
    (h : st.index? = some i) : i < n ∨ st = .dealsAcquired n := by
  cases hs <;> simp only [State.index?, Option.some.injEq, reduceCtorEq] at h
  case dealsAcquired hi => subst h; rcases hi.lt_or_eq with hi | rfl <;> simp [hi]
  all_goals omega

/-- In a state of a driver run, `exec` evaluates no `batch_size - 1` at 0 and passes every action
an index below `n`. -/
theorem Shape.dispatch_lt {n : Nat} {st : State} (hs : Shape n st) (hn : 1 ≤ n) :
    dispatch n st ≠ .overflow ∧
      ∀ a i, dispatch n st = .act a → a.index? = some i → i < n := by
  cases hs <;> simp only [dispatch, guarded_pos hn] <;> (try split_ifs) <;>
    refine ⟨by simp, ?_⟩ <;> rintro a i ⟨⟩ hi <;>
    simp only [Action.index?, Option.some.injEq, reduceCtorEq] at hi <;> omega

/-- **The indices of a driver run, and its arithmetic**: in every batch a driver run reaches from a
fresh batch of `n ≥ 1` sectors, an indexed state carries an index below `n`, except
`DealsAcquired{n}` (the index `acquire_deals` reports when deals are disabled is the batch's
length); `exec` never evaluates
`batch_size - 1` at 0 and passes every action an index below `n`, so its `index + 1` stays below
`n`; and `plan` never reaches its `self.batch_size - 1` panic on an event of `exec` (its own
`index - 1` is guarded by `index > 0` in the source).
Source: `BatchPlanner::exec`, `BatchPlanner::plan`, `BatchSealer::acquire_deals`
Kind: L -/
theorem reachable_index_bounds {p : BatchPlanner} {n : Nat} {job : Sectors} (hn : 1 ≤ n)
    (h : Reachable p n job) :
    (∀ i, job.state.index? = some i → i < n ∨ job.state = .dealsAcquired n) ∧
    dispatch job.batchSize job.state ≠ .overflow ∧
    (∀ a i, dispatch job.batchSize job.state = .act a → a.index? = some i → i < n) ∧
    (∀ env e, (exec env job).outcome = .ok (some e) → e ≠ .idle →
      p.plan e job.state ≠ .error .overflow) := by
  have hi := h.inv
  rw [hi.batchSize]
  refine ⟨fun i => hi.shape.index_lt hn, hi.shape.dispatch_lt hn |>.1,
    hi.shape.dispatch_lt hn |>.2, fun env e he hidle hplan => ?_⟩
  obtain ⟨next, hnext, -⟩ : ∃ next, p.plan e job.state = .ok next ∧ next ≠ job.state :=
    hi.exec_planned he hidle
  rw [hplan] at hnext; cases hnext

/-- A batch of one with deals disabled, at `DealsAcquired{1}`. -/
theorem reachable_index_bounds_dealsOff :
    ∃ job, Reachable default 1 job ∧ job.state = .dealsAcquired 1 ∧
      ((∀ i, job.state.index? = some i → i < 1 ∨ job.state = .dealsAcquired 1) ∧
      dispatch job.batchSize job.state ≠ .overflow ∧
      (∀ a i, dispatch job.batchSize job.state = .act a → a.index? = some i → i < 1) ∧
      (∀ env e, (exec env job).outcome = .ok (some e) → e ≠ .idle →
        (default : BatchPlanner).plan e job.state ≠ .error .overflow)) :=
  let h := drive_reachable .new (rfl : (drive default
    (List.replicate 2 { happyEnv with config := { happyEnv.config with enableDeals := false } })
    (Sectors.new 1)).outcome = .ok (_, _))
  ⟨_, h, rfl, reachable_index_bounds (by decide) h⟩

/-- With deals disabled and committed-capacity sectors allowed, `acquire_deals(0)` reports the
batch's length: a batch of one reaches `DealsAcquired{1}`.
Source: `BatchSealer::acquire_deals`
Kind: T -/
theorem reachable_dealsAcquired_length :
    ∃ job, Reachable default 1 job ∧ job.state.index? = some 1 :=
  ⟨_, drive_reachable .new (rfl : (drive default
    (List.replicate 2 { happyEnv with config := { happyEnv.config with enableDeals := false } })
    (Sectors.new 1)).outcome = .ok (_, _)), rfl⟩

end Damocles.Batch
