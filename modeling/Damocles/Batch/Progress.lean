import Damocles.Batch.Driver

/-!
# How far a driver run goes

Every turn of a driver run that commits an event other than `Idle` raises `progress`, the measure
of `Driver.lean` (one step per phase, one per deal index), which never exceeds `n + 6`. Over whole
runs, under any schedule of worlds:

* **`drive_commits_le`**: a run from a fresh batch of `n` sectors commits at most `n + 6` events
  other than `Idle`; the run of `happy_run` commits all of them.
* **`drive_deals_ordered`**: its `AcquireDeals` events name strictly increasing sector indices, the
  index-advance rule of `exec` (§4.2) over whole runs.

Both come from one step lemma (`progress_lt_of_turn`) and a run lemma each, by induction on the
schedule.
-/

namespace Damocles.Batch

open BatchSealer

/-! ## How many events a run commits -/

/-- One step of a run: it ends (`exec` returned `None`), or a turn commits and the run goes on. -/
theorem drive_cons_eq_ok {p : BatchPlanner} {env : Env} {envs : List Env} {job t : Sectors}
    {es : List Event} (h : (drive p (env :: envs) job).outcome = .ok (es, t)) :
    (es = [] ∧ t = job) ∨ ∃ e job' es', (turn p env job).outcome = .ok (some (e, job')) ∧
      (drive p envs job').outcome = .ok (es', t) ∧ es = e :: es' := by
  obtain ⟨_ | ⟨e, job'⟩, ht, hd⟩ := Run.bind_outcome_ok h
  · cases hd; exact .inl ⟨rfl, rfl⟩
  obtain ⟨⟨es', t'⟩, hd', hd⟩ := Run.bind_outcome_ok hd
  cases hd
  exact .inr ⟨e, job', es', ht, hd', rfl⟩

/-- A committed turn other than `Idle` moves the run further on. -/
theorem progress_lt_of_turn {p : BatchPlanner} {env : Env} {n : Nat} {job job' : Sectors}
    {e : Event} (hi : DriverInv n job) (h : (turn p env job).outcome = .ok (some (e, job')))
    (hidle : e ≠ .idle) : progress n job.state < progress n job'.state := by
  rcases turn_eq_ok_some h with ⟨rfl, -⟩ | ⟨-, hexec, next, hplan, -, rfl⟩
  · exact absurd rfl hidle
  obtain ⟨next', hplan', -, -, hlt⟩ := hi.exec_step p hexec hidle
  cases hplan.symm.trans hplan'
  rwa [commit_state]

/-- The run lemma: a run commits at most as many events other than `Idle` as the progress it
makes. -/
theorem DriverInv.drive_progress {p : BatchPlanner} {n : Nat} :
    ∀ {envs : List Env} {job t : Sectors} {es : List Event}, DriverInv n job →
      (drive p envs job).outcome = .ok (es, t) →
      progress n job.state + es.countP (fun e => e ≠ .idle) ≤ progress n t.state
  | [], _, _, _, _, hd => by cases hd; simp
  | env :: _, _, _, _, hi, hd => by
    rcases drive_cons_eq_ok hd with ⟨rfl, rfl⟩ | ⟨e, job', es, ht, hd', rfl⟩
    · simp
    have ih := DriverInv.drive_progress (hi.turn ht) hd'
    by_cases hidle : e = .idle
    · subst hidle
      rcases turn_eq_ok_some ht with ⟨-, rfl⟩ | ⟨hne, -⟩
      · simpa using ih
      · exact absurd rfl hne
    · have hlt := progress_lt_of_turn hi ht hidle
      rw [List.countP_cons_of_pos _ _ (by simpa using hidle)]
      omega

/-- **Every driver run is short**: from a fresh batch of `n` sectors, under any schedule of worlds,
a run commits at most `n + 6` events other than `Idle`: the allocation, at most `n` deal events
(disabled deals jump to `DealsAcquired{n}` only from below `n - 1`), the pieces, the tree, the
ticket and the two pre-commit phases. The run of `happy_run` commits all `n + 6`.
Source: `BatchPlanner::exec`, `BatchPlanner::plan`, `Event::apply_changes`
Kind: L -/
theorem drive_commits_le (p : BatchPlanner) (n : Nat) {envs : List Env} {es : List Event}
    {t : Sectors} (h : (drive p envs (Sectors.new n)).outcome = .ok (es, t)) :
    es.countP (fun e => e ≠ .idle) ≤ n + 6 :=
  calc es.countP (fun e => e ≠ .idle)
      ≤ progress n (Sectors.new n).state + es.countP (fun e => e ≠ .idle) := Nat.le_add_left _ _
    _ ≤ progress n t.state := (DriverInv.new n).drive_progress h
    _ ≤ n + 6 := progress_le n t.state

/-- The run of `happyEnv` of a batch of one, within the bound. -/
theorem drive_commits_le_happy :
    ∃ es t, (drive default (List.replicate 7 happyEnv) (Sectors.new 1)).outcome = .ok (es, t) ∧
      es.countP (fun e => e ≠ .idle) ≤ 1 + 6 :=
  let h := (rfl : (drive default (List.replicate 7 happyEnv) (Sectors.new 1)).outcome = .ok (_, _))
  ⟨_, _, h, drive_commits_le default 1 h⟩

/-! ## The order of the deal events -/

/-- The sector index a deal event names.
Source: `planner::batch::Event` (`AcquireDeals`)
Kind: D
Fidelity: n/a -/
def Event.dealIndex? : Event → Option Nat
  | .acquireDeals index _ => some index
  | _ => none

/-- An event with a deal index is `AcquireDeals` at that index. -/
theorem Event.dealIndex?_eq_some {e : Event} {i : Nat} (h : e.dealIndex? = some i) :
    ∃ deals, e = .acquireDeals i deals := by
  cases e <;> cases h; exact ⟨_, rfl⟩

/-- The run lemma: the deal events a run commits name increasing indices, each past the deal
index the run starts from. -/
theorem DriverInv.drive_dealIndices {p : BatchPlanner} {n : Nat} :
    ∀ {envs : List Env} {job t : Sectors} {es : List Event}, DriverInv n job →
      (drive p envs job).outcome = .ok (es, t) →
      (es.filterMap Event.dealIndex?).Pairwise (· < ·) ∧
        ∀ i ∈ es.filterMap Event.dealIndex?, progress n job.state < 2 + min i (n - 1)
  | [], _, _, _, _, hd => by cases hd; simp
  | env :: _, job, _, _, hi, hd => by
    rcases drive_cons_eq_ok hd with ⟨rfl, rfl⟩ | ⟨e, job', es, ht, hd', rfl⟩
    · simp
    obtain ⟨hsorted, hfloor⟩ := DriverInv.drive_dealIndices (hi.turn ht) hd'
    rcases turn_eq_ok_some ht with ⟨rfl, rfl⟩ | ⟨hidle, -, next, hplan, -, rfl⟩
    · rw [List.filterMap_cons_none rfl]
      exact ⟨hsorted, hfloor⟩
    have hlt := progress_lt_of_turn hi ht hidle
    rw [commit_state] at hfloor hlt
    cases hde : e.dealIndex? with
    | none =>
      rw [List.filterMap_cons_none hde]
      exact ⟨hsorted, fun i hi => hlt.trans (hfloor i hi)⟩
    | some i =>
      obtain ⟨deals, rfl⟩ := Event.dealIndex?_eq_some hde
      have hnext : next = .dealsAcquired i := by
        generalize job.state = st at hplan
        cases plan_eq_ok_iff.mp hplan <;> rfl
      subst hnext
      simp only [progress] at hfloor hlt
      rw [List.filterMap_cons_some hde, List.pairwise_cons]
      refine ⟨⟨fun i' hi' => ?_, hsorted⟩, fun i' hi' => ?_⟩
      · have := hfloor i' hi'
        omega
      · rcases List.mem_cons.mp hi' with rfl | hi'
        · exact hlt
        · exact hlt.trans (by have := hfloor i' hi'; omega)

/-- **The deals are acquired in index order**: in every driver run from a fresh batch, under any
worlds, the `AcquireDeals` events name strictly increasing sector indices, so no sector's deals
are recorded twice. This is the index-advance rule of `exec` (§4.2) over whole runs; `Idle` retries
commit nothing.
Source: `BatchPlanner::exec`, `BatchSealer::acquire_deals`, `BatchPlanner::plan`
Kind: L -/
theorem drive_deals_ordered (p : BatchPlanner) (n : Nat) {envs : List Env} {es : List Event}
    {t : Sectors} (h : (drive p envs (Sectors.new n)).outcome = .ok (es, t)) :
    (es.filterMap Event.dealIndex?).Pairwise (· < ·) :=
  ((DriverInv.new n).drive_dealIndices h).1

/-- The run of `happyEnv` of a batch of two acquires the deals of sectors 0 and 1 in order. -/
theorem drive_deals_ordered_happy :
    ∃ es t, (drive default (List.replicate 8 happyEnv) (Sectors.new 2)).outcome = .ok (es, t) ∧
      (es.filterMap Event.dealIndex?).Pairwise (· < ·) :=
  let h := (rfl : (drive default (List.replicate 8 happyEnv) (Sectors.new 2)).outcome = .ok (_, _))
  ⟨_, _, h, drive_deals_ordered default 2 h⟩

end Damocles.Batch
