import Damocles.Batch.Driver

/-!
# What a turn does, state by state

`exec` picks the next action from the state (`dispatch`) and `plan` the next state from the
action's event; a turn commits only when `plan` accepts the event with a state other than the
recorded one. Over every state of the pipeline, not only the states a run reaches today, this
module says exactly where the two disagree.

* `Stall`: the (state, event) pairs at which the turn cannot commit, one constructor per cause in
  the source: a row `plan` lacks, an arm of `exec` that repeats the recorded index, or the
  planner's `batch_size - 1` at size 0. `Stall.plan_eq`: at a stall `plan` rejects the event or
  gives the recorded state back.
* `exec_planned_or_stall`: at every state, every event of `exec` other than `Idle` is accepted by
  `plan` with another state, or is a stall. The proof follows `dispatch` arm by arm.
* **`turn_commits_iff_not_stall`**: at every batch and under every world, a turn commits the event
  of `exec` exactly when the pair is no stall.
-/

namespace Damocles.Batch

open BatchSealer

/-- The (state, event) pairs of `exec` that a turn cannot commit.
Source: `BatchPlanner::exec`, `BatchPlanner::plan`, `Event::apply`
Kind: D
Fidelity: exact -/
inductive Stall (p : BatchPlanner) : State → Event → Prop
  /-- Deals disabled at `DealsAcquired{i}` in a batch holding `i` sectors: `acquire_deals` names
  the length, which is the recorded index. -/
  | dealsAgain (i : Nat) (deals : Option Deals) : Stall p (.dealsAcquired i) (.acquireDeals i deals)
  /-- A failed pre-commit poll of a later sector at `PCLanded`: `plan` has no row. -/
  | reSubmitPCLanded (i j : Nat) : Stall p (.pcLanded j) (.reSubmitPC i)
  /-- The guarded arm of `Persisted{i}` persists sector `i` again: `plan` has no row. -/
  | persistPersisted (inst : String) (i j : Nat) : Stall p (.persisted j) (.persist inst i)
  /-- Confirming the recorded sector at `Persisted`: `plan` gives the recorded state back. -/
  | submitPersistanceAgain (i : Nat) : Stall p (.persisted i) (.submitPersistance i)
  /-- Confirming a sector at `PersistanceSubmitted`: `plan` has no row. -/
  | submitPersistanceSubmitted (i j : Nat) :
      Stall p (.persistanceSubmitted j) (.submitPersistance i)
  /-- The guarded arm of `C2Done{i}` runs `commit2(index)` again, whose event names `i`: `plan`
  gives the recorded state back. -/
  | c2Again (i : Nat) (out : SealCommitPhase2Output) : Stall p (.c2Done i) (.c2 i out)
  /-- A failed proof of sector 0 with the planner's `batch_size` 0: `plan` panics. -/
  | reSubmitProofOverflow (j : Nat) (h : p.batchSize = 0) :
      Stall p (.proofSubmitted j) (.reSubmitProof 0)
  /-- A failed proof poll of a later sector at `Finished`: `plan` has no row. -/
  | reSubmitProofFinished (i j : Nat) : Stall p (.finished j) (.reSubmitProof i)

/-- At a stall `plan` rejects the event or gives the recorded state back. -/
theorem Stall.plan_eq {p : BatchPlanner} {st : State} {e : Event} (h : Stall p st e) (next : State)
    (hp : p.plan e st = .ok next) : next = st := by
  cases h <;> cases plan_eq_ok_iff.mp hp <;> first | rfl | omega

/-- **The executor and the planner, arm by arm**: at every state, every event of `exec` other than
`Idle` is accepted by `plan` with another state, or is a stall. -/
theorem exec_planned_or_stall (p : BatchPlanner) {env : Env} {job : Sectors} {e : Event}
    (he : (exec env job).outcome = .ok (some e)) (hidle : e ≠ .idle) :
    (∃ next, p.plan e job.state = .ok next ∧ next ≠ job.state) ∨ Stall p job.state e := by
  obtain ⟨a, hd, hrun⟩ := exec_eq_ok_some he
  have hy := Action.run_yields hrun
  generalize job.state = st at hd ⊢
  cases st with
  | empty =>
    cases hd
    rcases hy with rfl | ⟨_, -, rfl⟩
    · exact absurd rfl hidle
    · exact .inl ⟨_, rfl, by simp⟩
  | allocated =>
    cases hd
    rcases hy with rfl | ⟨_, rfl⟩ | rfl
    · exact absurd rfl hidle
    all_goals exact .inl ⟨_, rfl, by simp⟩
  | dealsAcquired i =>
    obtain ⟨-, hd⟩ := guarded_eq_act hd
    split_ifs at hd <;> cases hd
    · rcases hy with rfl | ⟨_, rfl⟩ | rfl
      · exact absurd rfl hidle
      · exact .inl ⟨_, rfl, by simp⟩
      · by_cases hl : job.sectors.length = i
        · exact .inr (hl ▸ .dealsAgain _ _)
        · exact .inl ⟨_, rfl, by simpa using hl⟩
    · obtain ⟨_, rfl⟩ := hy
      exact .inl ⟨_, rfl, by simp⟩
  | pieceAdded =>
    obtain ⟨-, hd⟩ := guarded_eq_act hd
    split_ifs at hd <;> cases hd <;> obtain rfl := hy <;> exact .inl ⟨_, rfl, by simp⟩
  | treeDBuilt | ticketAssigned | pc1Done | c1Done =>
    cases hd
    all_goals first
      | (obtain ⟨_, rfl⟩ := hy; exact .inl ⟨_, rfl, by simp⟩)
      | (obtain ⟨_, _, rfl⟩ := hy; exact .inl ⟨_, rfl, by simp⟩)
  | pc2Done =>
    cases hd
    cases hy
    exact .inl ⟨_, rfl, by simp⟩
  | pcSubmitted i =>
    obtain ⟨-, hd⟩ := guarded_eq_act hd
    split_ifs at hd <;> cases hd
    · cases hy; exact .inl ⟨_, rfl, by simp⟩
    · rcases hy with rfl | rfl <;> exact .inl ⟨_, rfl, by simp⟩
  | pcLanded i =>
    obtain ⟨-, hd⟩ := guarded_eq_act hd
    split_ifs at hd <;> cases hd
    · rcases hy with rfl | rfl
      · exact .inl ⟨_, rfl, by simp⟩
      · exact .inr (.reSubmitPCLanded _ _)
    · obtain ⟨_, rfl⟩ := hy
      exact .inl ⟨_, rfl, by simp⟩
  | persisted i =>
    obtain ⟨-, hd⟩ := guarded_eq_act hd
    split_ifs at hd <;> cases hd
    · obtain ⟨_, rfl⟩ := hy
      exact .inr (.persistPersisted _ _ _)
    · cases hy
      rcases Nat.eq_zero_or_pos i with rfl | hi
      · exact .inr (.submitPersistanceAgain 0)
      · exact .inl ⟨_, rfl, by simp; omega⟩
  | persistanceSubmitted i =>
    obtain ⟨-, hd⟩ := guarded_eq_act hd
    split_ifs at hd <;> cases hd
    · cases hy; exact .inr (.submitPersistanceSubmitted _ _)
    · obtain ⟨_, rfl⟩ := hy
      exact .inl ⟨_, rfl, by simp⟩
  | seedAssigned i =>
    obtain ⟨-, hd⟩ := guarded_eq_act hd
    split_ifs at hd <;> cases hd <;> obtain ⟨_, rfl⟩ := hy <;> exact .inl ⟨_, rfl, by simp⟩
  | c2Done i =>
    obtain ⟨-, hd⟩ := guarded_eq_act hd
    split_ifs at hd <;> cases hd
    · obtain ⟨_, rfl⟩ := hy
      exact .inr (.c2Again _ _)
    · cases hy; exact .inl ⟨_, rfl, by simp⟩
  | proofSubmitted i =>
    obtain ⟨-, hd⟩ := guarded_eq_act hd
    split_ifs at hd <;> cases hd
    · cases hy; exact .inl ⟨_, rfl, by simp⟩
    · rcases hy with rfl | rfl
      · exact .inl ⟨_, rfl, by simp⟩
      · rcases Nat.eq_zero_or_pos p.batchSize with hb | hb
        · exact .inr (.reSubmitProofOverflow _ hb)
        · exact .inl ⟨_, plan_eq_ok_iff.mpr (.reSubmitProofRestart _ hb), by simp⟩
  | finished i =>
    obtain ⟨-, hd⟩ := guarded_eq_act hd
    split_ifs at hd
    cases hd
    rcases hy with rfl | rfl
    · exact .inl ⟨_, rfl, by simp⟩
    · exact .inr (.reSubmitProofFinished _ _)
  | aborted => cases hd

/-- **Where a turn commits**: at every batch and under every world, a turn commits the event `exec`
returns, other than `Idle`, exactly when the pair of the recorded state and the event is no stall;
at a stall the planner's error, its panic or the guard of `Event::apply` ends the turn.
Source: `BatchPlanner::exec`, `BatchPlanner::plan`, `Event::apply`
Kind: L -/
theorem turn_commits_iff_not_stall {p : BatchPlanner} {env : Env} {job : Sectors} {e : Event}
    (he : (exec env job).outcome = .ok (some e)) (hidle : e ≠ .idle) :
    (∃ job', (turn p env job).outcome = .ok (some (e, job'))) ↔ ¬ Stall p job.state e := by
  constructor
  · rintro ⟨job', h⟩ hs
    rcases turn_eq_ok_some h with ⟨he', -⟩ | ⟨-, -, next, hplan, hne, -⟩
    · exact hidle he'
    · exact hne (hs.plan_eq next hplan)
  · intro hs
    rcases exec_planned_or_stall p he hidle with ⟨next, hplan, hne⟩ | hst
    · exact ⟨_, turn_of_exec he hidle hplan hne⟩
    · exact absurd hst hs

/-- At `C2Done{0}` of a batch of two, the guarded arm runs `commit2(0)` again: a stall. -/
theorem turn_commits_iff_not_stall_c2Done :
    (exec happyEnv ⟨[{}, {}], 2, .c2Done 0⟩).outcome = .ok (some (.c2 0 ⟨0⟩)) ∧
      Event.c2 0 ⟨0⟩ ≠ .idle ∧
      ((∃ job', (turn default happyEnv ⟨[{}, {}], 2, .c2Done 0⟩).outcome =
          .ok (some (.c2 0 ⟨0⟩, job'))) ↔ ¬ Stall default (.c2Done 0) (.c2 0 ⟨0⟩)) :=
  ⟨rfl, by simp, turn_commits_iff_not_stall rfl (by simp)⟩

end Damocles.Batch
