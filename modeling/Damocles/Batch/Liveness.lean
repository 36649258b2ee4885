import Damocles.Batch.Progress

/-!
# Every cooperative run ends at `PC2Done`

A world is cooperative (`Cooperative n`) when every action the driver meets before `PC2Done`
succeeds: the sector manager allocates the whole batch and answers the deal and ticket requests
with what `acquire_deals` and `assign_ticket` need to move on, and the proving backend runs the
placeholder phases. `happyEnv` is one such world (`happyEnv_cooperative`).

* `exec_cooperative`: at a reachable batch before `PC2Done`, `exec` under a cooperative
  world returns an event other than `Idle`; `turn_cooperative` commits it, so the run's
  `progress` rises at every turn.
* `Sectors.AllBased`: past `Empty` every sector has a base. A cooperative allocation gives all of
  them at once, and no later event writes a base.
* **`drive_cooperative_pc2NotCompleted`**: under every schedule of at least `n + 7` cooperative
  worlds, the driver run of a fresh batch of `n ≥ 1` sectors ends in the critical failure
  "PC2 not completed": `progress` reaches `PC2Done` within `n + 6` turns, and the next turn fails
  there.
-/

namespace Damocles.Batch

open BatchSealer

/-- A world in which every action the driver meets before `PC2Done` succeeds, with an event other
than `Idle`.
Source: spec §4.2 (per-action contracts), the `Idle` branches of `BatchSealer`
Kind: D
Fidelity: n/a -/
structure Cooperative (n : Nat) (env : Env) : Prop where
  /-- The sector manager allocates the whole batch for the count `allocate` asks. -/
  allocate : ∀ spec, ∃ l, env.rpc.allocateSectorsBatch spec (n % UInt32.size) = .ok l ∧ n ≤ l.length
  /-- A deal request is answered, with a deal or with `disable_cc` set, as `acquire_deals` needs
  to record the sector. -/
  deals : ∀ id spec, ∃ deals, env.rpc.acquireDeals id spec = .ok deals ∧
    (env.config.disableCC = true ∨ 0 < (deals.map List.length).getD 0)
  /-- With deals disabled, `disable_cc` is off, or `acquire_deals` idles. -/
  noDeals : env.config.enableDeals = false → env.config.disableCC = false
  /-- A ticket request is answered. -/
  ticket : ∀ id, ∃ t, env.rpc.assignTicket id = .ok t
  /-- The backend adds the pieces. -/
  addPieces : ∀ index, ∃ pieces, env.backend.addPieces index = .ok pieces
  /-- The backend builds the tree. -/
  buildTreeD : env.backend.buildTreeD = .ok ()
  /-- The backend runs the first pre-commit phase. -/
  pc1 : ∃ out, env.backend.pc1 = .ok out
  /-- The backend runs the second pre-commit phase. -/
  pc2 : ∃ out, env.backend.pc2 = .ok out

/-- The world where every action succeeds on its first answer is cooperative, for every batch size
the sector manager can be asked for. -/
theorem happyEnv_cooperative {n : Nat} (hn : n < UInt32.size) : Cooperative n happyEnv where
  allocate _ := ⟨_, rfl, by simp [happyAllocated, Nat.mod_eq_of_lt hn]⟩
  deals _ _ := ⟨_, rfl, .inr (by simp)⟩
  noDeals h := nomatch h
  ticket _ := ⟨_, rfl⟩
  addPieces _ := ⟨_, rfl⟩
  buildTreeD := rfl
  pc1 := ⟨_, rfl⟩
  pc2 := ⟨_, rfl⟩

/-- Past `Empty`, every sector of the batch has a base.
Source: `Event::apply_changes` (the `Allocate` arm)
Kind: D
Fidelity: n/a -/
def Sectors.AllBased (s : Sectors) : Prop :=
  s.state ≠ .empty → ∀ sec ∈ s.sectors, sec.base.isSome

/-! ## One cooperative turn -/

section turn

variable {env : Env} {job : Sectors} {n : Nat}

/-- Under a cooperative world, `acquire_deals(i)` on a sector with a base records a deal event. -/
theorem acquireDeals_cooperative (hc : Cooperative n env) {i : Nat} {sec : Sector}
    (hs : job.sectors[i]? = some sec) (hb : sec.base.isSome) :
    ∃ e, (acquireDeals env job i).outcome = .ok e ∧ e ≠ .idle := by
  cases hon : env.config.enableDeals
  · exact ⟨.acquireDeals job.sectors.length none, by simp [acquireDeals, hon, hc.noDeals hon],
      by simp⟩
  · obtain ⟨base, hb⟩ := Option.isSome_iff_exists.mp hb
    obtain ⟨deals, hr, hdeal⟩ := hc.deals base.allocated.id ⟨env.config.maxDeals, env.config.minDealSpace⟩
    refine ⟨.acquireDeals i deals, ?_, by simp⟩
    rcases hdeal with hdeal | hdeal <;>
      simp [acquireDeals, hon, Sectors.sector, hs, hb, hr, hdeal, Run.request, Run.callRpc,
        Except.mapError]

/-- At a reachable batch before `PC2Done`, with every sector based past `Empty`, `exec` under a
cooperative world returns an event other than `Idle`; at `Empty` it is the allocation of the whole
batch. -/
theorem exec_cooperative (hi : DriverInv n job) (hall : job.AllBased) (hn : 1 ≤ n)
    (hc : Cooperative n env) (hs : job.state ≠ .pc2Done) :
    ∃ e, (exec env job).outcome = .ok (some e) ∧ e ≠ .idle ∧
      (job.state = .empty → ∃ l, e = .allocate l ∧ n ≤ l.length) := by
  have hsec : ∀ i < n, ∃ sec, job.sectors[i]? = some sec ∧ (job.state ≠ .empty → sec.base.isSome) :=
    fun i hlt => ⟨_, List.getElem?_eq_getElem (hi.length ▸ hlt),
      fun he => hall he _ (List.getElem_mem _)⟩
  have hsh := hi.shape
  generalize hst : job.state = st at hsh hs
  have hact : ∀ {a}, dispatch n st = .act a → dispatch job.batchSize job.state = .act a := by
    intro a hd; rwa [hi.batchSize, hst]
  have hne : st ≠ .empty → job.state ≠ .empty := fun h => hst ▸ h
  cases hsh with
  | empty =>
    obtain ⟨l, hl, hlen⟩ := hc.allocate ⟨some env.config.allowedMiners, some env.config.allowedProofTypes⟩
    have hl0 : l ≠ [] := List.ne_nil_of_length_pos (by omega)
    refine ⟨.allocate l, exec_of_run_ok (hact rfl) ?_, by simp, fun _ => ⟨l, rfl, hlen⟩⟩
    simp [Action.run, allocate, hi.batchSize, hl, hl0, Run.request, Run.callRpc, Except.mapError]
  | allocated =>
    obtain ⟨sec, hs, hb⟩ := hsec 0 hn
    obtain ⟨e, he, hidle⟩ := acquireDeals_cooperative hc hs (hb (hne (by simp)))
    exact ⟨e, exec_of_run_ok (hact rfl) he, hidle, fun h => by simp [hst] at h⟩
  | @dealsAcquired i _ =>
    refine (?_ : ∃ e, _ ∧ _).imp fun e ⟨he, hidle⟩ => ⟨he, hidle, fun h => by simp [hst] at h⟩
    by_cases hlt : i + 1 < n
    · have hd : dispatch n (.dealsAcquired i) = .act (.acquireDeals (i + 1)) := by
        simp [dispatch, guarded_pos hn, hlt]
      obtain ⟨sec, hs, hb⟩ := hsec (i + 1) hlt
      obtain ⟨e, he, hidle⟩ := acquireDeals_cooperative hc hs (hb (hne (by simp)))
      exact ⟨e, exec_of_run_ok (hact hd) he, hidle⟩
    · have hd : dispatch n (.dealsAcquired i) = .act (.addPieces 0) := by
        simp [dispatch, guarded_pos hn, hlt]
      obtain ⟨pieces, hp⟩ := hc.addPieces 0
      exact ⟨.addPiece 0 pieces, exec_of_run_ok (hact hd) (by simp [Action.run, addPieces, hp]),
        by simp⟩
  | pieceAdded =>
    have hd : dispatch n (.pieceAdded 0) = .act .buildTreeD := by simp [dispatch, guarded_pos hn]
    exact ⟨.buildTreeD 0, exec_of_run_ok (hact hd) (by simp [Action.run, buildTreeD, hc.buildTreeD]),
      by simp, fun h => by simp [hst] at h⟩
  | treeDBuilt =>
    obtain ⟨sec, hs, hb⟩ := hsec 0 hn
    obtain ⟨base, hb⟩ := Option.isSome_iff_exists.mp (hb (hne (by simp)))
    obtain ⟨t, ht⟩ := hc.ticket base.allocated.id
    refine ⟨.assignTicket (sec.phases.ticket.getD t), exec_of_run_ok (hact rfl) ?_, by simp,
      fun h => by simp [hst] at h⟩
    cases htk : sec.phases.ticket <;>
      simp [Action.run, assignTicket, Sectors.sector, hs, hb, htk, ht, Run.request, Run.callRpc,
        Except.mapError]
  | ticketAssigned =>
    obtain ⟨⟨t, out⟩, hp⟩ := hc.pc1
    exact ⟨.pc1 t out, exec_of_run_ok (hact rfl) (by simp [Action.run, pc1, hp]), by simp,
      fun h => by simp [hst] at h⟩
  | pc1Done =>
    obtain ⟨out, hp⟩ := hc.pc2
    exact ⟨.pc2 out, exec_of_run_ok (hact rfl) (by simp [Action.run, pc2, hp]), by simp,
      fun h => by simp [hst] at h⟩
  | pc2Done => exact absurd rfl hs

/-- The step lemma: at a reachable batch before `PC2Done`, a cooperative turn commits an event other
than `Idle`, and every sector stays based. -/
theorem turn_cooperative {p : BatchPlanner} (hi : DriverInv n job) (hall : job.AllBased)
    (hn : 1 ≤ n) (hc : Cooperative n env) (hs : job.state ≠ .pc2Done) :
    ∃ e job', (turn p env job).outcome = .ok (some (e, job')) ∧ e ≠ .idle ∧ job'.AllBased := by
  obtain ⟨e, he, hidle, halloc⟩ := exec_cooperative hi hall hn hc hs
  obtain ⟨next, hplan, hne, -⟩ := hi.exec_step p he hidle
  refine ⟨e, _, turn_of_exec he hidle hplan hne, hidle, fun _ sec hsec => ?_⟩
  obtain ⟨j, hj⟩ := List.mem_iff_getElem?.mp hsec
  rw [getElem?_commit] at hj
  obtain ⟨sec₀, hs₀, rfl⟩ := Option.map_eq_some'.mp hj
  by_cases hemp : job.state = .empty
  · -- the allocation of the whole batch gives sector `j` its base
    obtain ⟨l, rfl, hlen⟩ := halloc hemp
    have hj : j < l.length := by
      have := (List.getElem?_eq_some_iff.mp hs₀).1
      rw [hi.length] at this
      omega
    simp [Event.sectorWrite, List.getElem?_eq_getElem hj]
  · cases ha : e.isAllocate
    · rw [sectorWrite_base ha]
      exact hall hemp sec₀ (List.getElem?_mem hs₀)
    · exact absurd ((plan_eq_ok_iff.mp hplan).allocate_inv ha).1 hemp

end turn

/-! ## Cooperative runs -/

/-- The run lemma: from a reachable batch with every sector based past `Empty`, enough cooperative
turns to exhaust `progress` end in "PC2 not completed". -/
theorem drive_cooperative_of_inv {p : BatchPlanner} {n : Nat} (hn : 1 ≤ n) :
    ∀ {envs : List Env} {job : Sectors}, DriverInv n job → job.AllBased →
      (∀ env ∈ envs, Cooperative n env) → n + 7 ≤ progress n job.state + envs.length →
      (drive p envs job).outcome = .err ⟨.critical, "PC2 not completed"⟩
  | [], job, _, _, _, hlen => by
    have := progress_le n job.state
    simp only [List.length_nil] at hlen
    omega
  | env :: envs, job, hi, hall, hc, hlen => by
    by_cases hs : job.state = .pc2Done
    · simp [drive, turn, hi.pc2Done_stuck hn hs env, Run.bind]
    obtain ⟨e, job', ht, hidle, hall'⟩ : ∃ e job', (turn p env job).outcome = .ok (some (e, job')) ∧
        e ≠ .idle ∧ job'.AllBased :=
      turn_cooperative hi hall hn (hc env (List.mem_cons_self _ _)) hs
    have hlt := progress_lt_of_turn hi ht hidle
    have ih : (drive p envs job').outcome = .err ⟨.critical, "PC2 not completed"⟩ :=
      drive_cooperative_of_inv hn (hi.turn ht) hall'
      (fun env' h => hc env' (List.mem_cons_of_mem _ h))
      (by simp only [List.length_cons] at hlen; omega)
    simp [drive, Run.bind, ht, ih]

/-- **Every cooperative run ends stuck at `PC2Done`**: under every schedule of at least `n + 7`
worlds in which each action before `PC2Done` succeeds, the driver run of a fresh batch of `n ≥ 1`
sectors ends in the critical failure "PC2 not completed". Each turn commits an event and raises
`progress`, so the run is at `PC2Done` within `n + 6` turns, where `submit_pre_commit(0)` finds no
second pre-commit output: `apply_changes` never records one.
Source: `BatchPlanner::exec`, `BatchPlanner::plan`, `Event::apply_changes`,
`BatchSealer::submit_pre_commit`
Kind: L -/
theorem drive_cooperative_pc2NotCompleted (p : BatchPlanner) {n : Nat} {envs : List Env}
    (hn : 1 ≤ n) (hc : ∀ env ∈ envs, Cooperative n env) (hlen : n + 7 ≤ envs.length) :
    (drive p envs (Sectors.new n)).outcome = .err ⟨.critical, "PC2 not completed"⟩ :=
  drive_cooperative_of_inv hn (DriverInv.new n) (fun h => absurd rfl h) hc
    (by simpa [progress, Sectors.new] using hlen)

/-- Eight turns of `happyEnv` on a batch of one end stuck at `PC2Done`. -/
theorem drive_cooperative_pc2NotCompleted_happy :
    (∀ env ∈ List.replicate 8 happyEnv, Cooperative 1 env) ∧
      (drive default (List.replicate 8 happyEnv) (Sectors.new 1)).outcome =
        .err ⟨.critical, "PC2 not completed"⟩ :=
  have hc : ∀ env ∈ List.replicate 8 happyEnv, Cooperative 1 env := fun _ h =>
    (List.eq_of_mem_replicate h) ▸ happyEnv_cooperative (by decide)
  ⟨hc, drive_cooperative_pc2NotCompleted default (by decide) hc (by decide)⟩

end Damocles.Batch
