import Damocles.Batch.Driver

/-!
# The run where every action succeeds

The driver run of §4.2 under `happyEnv`, the world where every action succeeds on its first
answer, for every batch size `n` the sector manager can be asked for (`n < 2^32`: `allocate` casts
the size with `as u32`).

* `drive_cons` sequences one turn before a run; `HappyJob` is what the run keeps of the batch (each
  sector's base from its allocated sector, no ticket yet), kept by every commit that is neither an
  allocation nor a ticket (`HappyJob.commit`).
* One turn lemma per phase the run meets, each from the action's event under `happyEnv` and
  `turn_of_exec`.
* `drive_deals` is the deal loop, by induction over the sectors left: from `DealsAcquired{k}` it
  acquires the deals of sectors `k + 1, …, n − 1` in order.
* **`happy_run`**: for every `1 ≤ n < 2^32`, the run commits `Allocate`, the deals of sectors
  `0, …, n − 1`, the pieces of sector 0 only, the tree, the ticket and the two pre-commit phases,
  and is then at `PC2Done`, where `exec` fails critically; `happy_run_stuck_at_pc2Done` is the
  same run for `n = 2`, evaluated.
-/

namespace Damocles.Batch

open BatchSealer

/-- A turn that commits an event, before a run: the run's events with the turn's event first. -/
theorem drive_cons {p : BatchPlanner} {env : Env} {envs : List Env} {job job' t : Sectors}
    {e : Event} {es : List Event} (h : (turn p env job).outcome = .ok (some (e, job')))
    (hd : (drive p envs job').outcome = .ok (es, t)) :
    (drive p (env :: envs) job).outcome = .ok (e :: es, t) := by
  simp only [drive, Run.bind_outcome_of_ok h, Run.bind_outcome_of_ok hd]
  rfl

/-- What the run keeps of a batch of `n` sectors: sector `j` has the base of the `j`-th sector
`happyEnv` allocates, and no ticket.
Source: `Event::apply_changes` (the `Allocate` arm)
Kind: D
Fidelity: n/a -/
structure HappyJob (n : Nat) (job : Sectors) : Prop where
  batchSize : job.batchSize = n
  sector : ∀ j < n, ∃ sec, job.sectors[j]? = some sec ∧
    sec.base = some (Base.ofAllocated ⟨⟨1000, j⟩, ⟨0⟩⟩) ∧ sec.phases.ticket = none

/-- A commit that neither allocates nor assigns the ticket keeps what the run keeps. -/
theorem HappyJob.commit {n : Nat} {job : Sectors} (h : HappyJob n job) (e : Event) (next : State)
    (ha : e.isAllocate = false) (ht : e.isAssignTicket = false) :
    HappyJob n (e.commit next job) := by
  refine ⟨by simp [h.batchSize], fun j hj => ?_⟩
  obtain ⟨sec, hs, hb, htk⟩ := h.sector j hj
  exact ⟨_, by rw [getElem?_commit, hs]; rfl, by rw [sectorWrite_base ha, hb],
    by rw [sectorWrite_ticket ht, htk]⟩

/-- The allocation of `happyEnv` gives each sector its base. -/
theorem happyJob_allocated (n : Nat) :
    HappyJob n ((Event.allocate (happyAllocated n)).commit .allocated (Sectors.new n)) := by
  refine ⟨by simp [Sectors.new], fun j hj => ?_⟩
  have hw : (Event.allocate (happyAllocated n)).sectorWrite j {} =
      { base := some (.ofAllocated ⟨⟨1000, j⟩, ⟨0⟩⟩) } := by
    simp [Event.sectorWrite, happyAllocated, hj]
  exact ⟨{ base := some (.ofAllocated ⟨⟨1000, j⟩, ⟨0⟩⟩) },
    by rw [getElem?_commit]; simp [Sectors.new, hj, hw], rfl, rfl⟩

/-! ## One turn per phase -/

section turns

variable {n : Nat} {job : Sectors}

/-- `acquire_deals(i)` under `happyEnv`: one request, and the deal of sector `i`. -/
theorem acquireDeals_happy (h : HappyJob n job) {i : Nat} (hi : i < n) :
    acquireDeals happyEnv job i =
      ⟨[.acquireDeals ⟨1000, i⟩ ⟨none, none⟩], .ok (.acquireDeals i (some [⟨i⟩]))⟩ := by
  obtain ⟨sec, hs, hb, -⟩ := h.sector i hi
  simp [acquireDeals, happyEnv, Sectors.sector, hs, hb, Base.ofAllocated, Run.request,
    Run.callRpc, Except.mapError]

/-- The first turn allocates the batch's sectors. -/
theorem turn_allocate (hn : 1 ≤ n) (hn' : n < UInt32.size) :
    (turn default happyEnv (Sectors.new n)).outcome = .ok (some (.allocate (happyAllocated n),
      (Event.allocate (happyAllocated n)).commit .allocated (Sectors.new n))) := by
  have hn0 : n ≠ 0 := by omega
  refine turn_of_exec ?_ (by simp) rfl (by simp [Sectors.new])
  simp [exec, Sectors.new, dispatch, Action.run, allocate, happyEnv, Nat.mod_eq_of_lt hn',
    Run.request, Run.callRpc, Except.mapError, hn0, happyAllocated]

/-- At `Allocated`, the turn acquires the deals of sector 0. -/
theorem turn_acquireDeals_first (h : HappyJob n job) (hn : 1 ≤ n) (hs : job.state = .allocated) :
    (turn default happyEnv job).outcome = .ok (some (.acquireDeals 0 (some [⟨0⟩]),
      (Event.acquireDeals 0 (some [⟨0⟩])).commit (.dealsAcquired 0) job)) :=
  turn_of_exec (by simp [exec, hs, dispatch, Action.run, acquireDeals_happy h hn]) (by simp)
    (by rw [hs]; rfl) (by simp [hs])

/-- At `DealsAcquired{k}` before the last sector, the turn acquires the deals of sector `k + 1`. -/
theorem turn_acquireDeals_next (h : HappyJob n job) {k : Nat} (hk : k + 1 < n)
    (hs : job.state = .dealsAcquired k) :
    (turn default happyEnv job).outcome = .ok (some (.acquireDeals (k + 1) (some [⟨k + 1⟩]),
      (Event.acquireDeals (k + 1) (some [⟨k + 1⟩])).commit (.dealsAcquired (k + 1)) job)) :=
  turn_of_exec (by simp [exec, hs, h.batchSize, dispatch, guarded_pos (by omega : 1 ≤ n), hk,
    Action.run, acquireDeals_happy h hk]) (by simp) (by rw [hs]; rfl) (by simp [hs])

/-- At the last `DealsAcquired`, the turn adds the pieces of sector 0. -/
theorem turn_addPieces (h : HappyJob n job) (hn : 1 ≤ n) {k : Nat} (hk : n ≤ k + 1)
    (hs : job.state = .dealsAcquired k) :
    (turn default happyEnv job).outcome = .ok (some (.addPiece 0 [⟨0⟩],
      (Event.addPiece 0 [⟨0⟩]).commit (.pieceAdded 0) job)) :=
  turn_of_exec (by simp [exec, hs, h.batchSize, dispatch, guarded_pos hn, Nat.not_lt.mpr hk,
    Action.run, addPieces, happyEnv]) (by simp) (by rw [hs]; rfl) (by simp [hs])

/-- At `PieceAdded{0}`, the turn builds the tree. -/
theorem turn_buildTreeD (h : HappyJob n job) (hn : 1 ≤ n) (hs : job.state = .pieceAdded 0) :
    (turn default happyEnv job).outcome = .ok (some (.buildTreeD 0,
      (Event.buildTreeD 0).commit (.treeDBuilt 0) job)) :=
  turn_of_exec (by simp [exec, hs, h.batchSize, dispatch, guarded_pos hn, Action.run, buildTreeD,
    happyEnv]) (by simp) (by rw [hs]; rfl) (by simp [hs])

/-- At `TreeDBuilt{0}`, the turn assigns the ticket of the sector manager. -/
theorem turn_assignTicket (h : HappyJob n job) (hn : 1 ≤ n) (hs : job.state = .treeDBuilt 0) :
    (turn default happyEnv job).outcome = .ok (some (.assignTicket ⟨7, 1⟩,
      (Event.assignTicket ⟨7, 1⟩).commit .ticketAssigned job)) := by
  obtain ⟨sec, hsec, hb, ht⟩ := h.sector 0 hn
  exact turn_of_exec (by simp [exec, hs, dispatch, Action.run, assignTicket, Sectors.sector, hsec,
    hb, ht, happyEnv]) (by simp) (by rw [hs]; rfl) (by simp [hs])

/-- At `TicketAssigned`, the turn runs the first pre-commit phase. -/
theorem turn_pc1 (hs : job.state = .ticketAssigned) :
    (turn default happyEnv job).outcome = .ok (some (.pc1 ⟨7, 1⟩ [],
      (Event.pc1 ⟨7, 1⟩ []).commit .pc1Done job)) :=
  turn_of_exec (by simp [exec, hs, dispatch, Action.run, pc1, happyEnv]) (by simp)
    (by rw [hs]; rfl) (by simp [hs])

/-- At `PC1Done`, the turn runs the second pre-commit phase. -/
theorem turn_pc2 (hs : job.state = .pc1Done) :
    (turn default happyEnv job).outcome = .ok (some (.pc2 [],
      (Event.pc2 []).commit .pc2Done job)) :=
  turn_of_exec (by simp [exec, hs, dispatch, Action.run, pc2, happyEnv]) (by simp)
    (by rw [hs]; rfl) (by simp [hs])

/-! ## The run -/

/-- The deal loop: from `DealsAcquired{k}` with `r` sectors left, `r` turns acquire the deals of
sectors `k + 1, …, k + r` in order, whatever the run does after them. -/
theorem drive_deals : ∀ (r : Nat) {k : Nat} {job : Sectors}, HappyJob n job → k + 1 + r = n →
    job.state = .dealsAcquired k →
    ∃ job', HappyJob n job' ∧ job'.state = .dealsAcquired (n - 1) ∧
      ∀ m es t, (drive default (List.replicate m happyEnv) job').outcome = .ok (es, t) →
        (drive default (List.replicate (r + m) happyEnv) job).outcome =
          .ok ((List.range' (k + 1) r).map (fun j => .acquireDeals j (some [⟨j⟩])) ++ es, t)
  | 0, k, job, h, hr, hs => ⟨job, h, by rw [hs]; congr 1; omega, fun m es t hd => by simpa using hd⟩
  | r + 1, k, job, h, hr, hs => by
    obtain ⟨job', h', hs', hd⟩ := drive_deals r
      (h.commit (.acquireDeals (k + 1) (some [⟨k + 1⟩])) (.dealsAcquired (k + 1)) rfl rfl)
      (by omega) (commit_state _ _ _)
    refine ⟨job', h', hs', fun m es t hm => ?_⟩
    rw [Nat.add_right_comm, List.replicate_succ, List.range'_succ]
    exact drive_cons (turn_acquireDeals_next h (by omega) hs) (hd m es t hm)

/-- After the deals: the pieces of sector 0, the tree, the ticket and the two pre-commit phases. -/
theorem drive_after_deals (h : HappyJob n job) (hn : 1 ≤ n)
    (hs : job.state = .dealsAcquired (n - 1)) :
    ∃ t, t.state = .pc2Done ∧ (drive default (List.replicate 5 happyEnv) job).outcome =
      .ok ([.addPiece 0 [⟨0⟩], .buildTreeD 0, .assignTicket ⟨7, 1⟩, .pc1 ⟨7, 1⟩ [], .pc2 []], t) :=
  ⟨_, rfl, drive_cons (turn_addPieces h hn (by omega) hs) <|
    drive_cons (turn_buildTreeD (h.commit (.addPiece 0 [⟨0⟩]) _ rfl rfl) hn rfl) <|
    drive_cons (turn_assignTicket
      ((h.commit (.addPiece 0 [⟨0⟩]) (.pieceAdded 0) rfl rfl).commit (.buildTreeD 0) _ rfl rfl)
      hn rfl) <|
    drive_cons (turn_pc1 rfl) <| drive_cons (turn_pc2 rfl) rfl⟩

end turns

/-- **The run where every action succeeds**, for every batch size `1 ≤ n < 2^32`: in `n + 6`
turns the driver commits `Allocate`, the deals of sectors `0, …, n − 1` in order, the pieces of
sector 0 only, the tree, the ticket and the two pre-commit phases; the batch is then at `PC2Done`,
where `exec` fails critically without a request.
Source: `BatchPlanner::exec`, `BatchPlanner::plan`, `Event::apply_changes`, `BatchSealer`
Kind: L -/
theorem happy_run (n : Nat) (hn : 1 ≤ n) (hn' : n < UInt32.size) :
    ∃ job, (drive default (List.replicate (n + 6) happyEnv) (Sectors.new n)).outcome =
        .ok (.allocate (happyAllocated n) ::
          (List.range n).map (fun j => .acquireDeals j (some [⟨j⟩])) ++
          [.addPiece 0 [⟨0⟩], .buildTreeD 0, .assignTicket ⟨7, 1⟩, .pc1 ⟨7, 1⟩ [], .pc2 []], job) ∧
      job.state = .pc2Done ∧ exec happyEnv job = ⟨[], .err ⟨.critical, "PC2 not completed"⟩⟩ := by
  have h₁ := happyJob_allocated n
  obtain ⟨job', h', hs', hd⟩ := drive_deals (n - 1)
    (h₁.commit (.acquireDeals 0 (some [⟨0⟩])) (.dealsAcquired 0) rfl rfl) (by omega)
    (commit_state _ _ _)
  obtain ⟨t, ht, htail⟩ := drive_after_deals h' hn hs'
  have hrun := drive_cons (turn_allocate hn hn') <|
    drive_cons (turn_acquireDeals_first h₁ hn rfl) (hd 5 _ t htail)
  obtain ⟨n', rfl⟩ : ∃ n', n = n' + 1 := ⟨n - 1, by omega⟩
  refine ⟨t, ?_, ht, (drive_reachable .new hrun).inv.pc2Done_stuck hn ht happyEnv⟩
  have hrep : List.replicate (n' + 1 + 6) happyEnv =
      happyEnv :: happyEnv :: List.replicate (n' + 1 - 1 + 5) happyEnv := by
    rw [show n' + 1 + 6 = n' + 1 - 1 + 5 + 1 + 1 by omega]; rfl
  rw [hrep, List.range_eq_range', List.range'_succ]
  simpa only [Nat.add_sub_cancel, List.map_cons, List.cons_append] using hrun

/-- The run of `happy_run` for a batch of three. -/
theorem happy_run_three :
    1 ≤ 3 ∧ 3 < UInt32.size ∧
      ∃ job, (drive default (List.replicate 9 happyEnv) (Sectors.new 3)).outcome =
        .ok (.allocate (happyAllocated 3) ::
          (List.range 3).map (fun j => .acquireDeals j (some [⟨j⟩])) ++
          [.addPiece 0 [⟨0⟩], .buildTreeD 0, .assignTicket ⟨7, 1⟩, .pc1 ⟨7, 1⟩ [], .pc2 []], job) ∧
      job.state = .pc2Done ∧ exec happyEnv job = ⟨[], .err ⟨.critical, "PC2 not completed"⟩⟩ :=
  ⟨by decide, by decide, happy_run 3 (by decide) (by decide)⟩

/-- The run of §4.2 where every action succeeds on its first answer, for a batch of two: after
allocation, the deals of both sectors, the pieces of sector 0 only, the tree, the ticket and the
two pre-commit phases, the batch is at `PC2Done`, where `exec` fails.
Source: `BatchPlanner::exec`, `BatchPlanner::plan`, `Event::apply_changes`
Kind: T -/
theorem happy_run_stuck_at_pc2Done :
    ∃ job, (drive default (List.replicate 8 happyEnv) (Sectors.new 2)).outcome =
        .ok ([.allocate [⟨⟨1000, 0⟩, ⟨0⟩⟩, ⟨⟨1000, 1⟩, ⟨0⟩⟩], .acquireDeals 0 (some [⟨0⟩]),
          .acquireDeals 1 (some [⟨1⟩]), .addPiece 0 [⟨0⟩], .buildTreeD 0, .assignTicket ⟨7, 1⟩,
          .pc1 ⟨7, 1⟩ [], .pc2 []], job) ∧
      job.state = .pc2Done ∧ exec happyEnv job = ⟨[], .err ⟨.critical, "PC2 not completed"⟩⟩ :=
  ⟨_, rfl, rfl, rfl⟩

end Damocles.Batch
