import Damocles.Batch.Changes

/-!
# The planner: `BatchPlanner::plan`

`plan` is the batch's transition function: a table of (state, event) rows, each giving the next
state, and an error for every other pair. It reads the planner's own `batch_size` in one row, the
rollback of a failed proof at index 0; `BatchPlanner` is `#[derive(Default)]` and nothing in the
module assigns the field, so the planner the code builds has size 0 (`default`).

* `BatchPlanner.plan` is the faithful transcription; `PlanRow` is the same table written as
  rules, one per arm (two where an arm's condition splits), and **`plan_eq_ok_iff`** says they
  agree. Every later proof about `plan` goes through `PlanRow`.
* `plan_eq_error_overflow_iff`: the one arithmetic panic, `self.batch_size - 1` at size 0.
* **The rank** (`State.rank`, the pipeline order of the spec §4.1): no row lowers it except the two
  resubmission rows, which land in `PC2Done`/`PCSubmitted` and `C2Done`/`ProofSubmitted`
  (`PlanRow.rankStep`); every row lands at rank at least `min r 7`, where `r` is the rank it leaves
  (`PlanRow.rank_floor`), and no row leads into `PersistanceSubmitted`
  (`PlanRow.ne_persistanceSubmitted`), so nothing of rank 11 or more is entered from below 11
  (`PlanRow.rank_ge_eleven`).
* **Planner runs** (`PlanRun`): event sequences fed to `plan` from a batch, each event's changes
  committed with the planned state. Over them (**`planRun_rank_once_stable`**): `Allocate` and
  `AssignTicket` each happen at most once, bases and tickets once set keep their value, and every
  sector carries the same ticket; and no run from `Empty` reaches the seed, commit or proof phases
  (**`planRun_rank_lt_eleven`**).
-/

namespace Damocles.Batch

/-! ## The table -/

/-- The batch planner. `batch_size` is never assigned in `batch.rs`: the code's planner is
`default`, of size 0.
Source: `BatchPlanner` (`#[derive(Default)]`)
Kind: D
Fidelity: exact -/
structure BatchPlanner where
  batchSize : Nat
deriving Inhabited, Repr

/-- Why `plan` gives no next state: a pair outside the table ("unexpected state and event"), or the
panic of `self.batch_size - 1` at size 0.
Source: `BatchPlanner::plan`
Kind: D
Fidelity: exact (the message as its arguments) -/
inductive PlanError where
  | unexpected (st : State) (evt : Event)
  | overflow
deriving DecidableEq, Repr

/-- The transition function. The arms of the source's `match (st, evt)` are grouped by state; each
state's inner match lists the events it accepts, in the source's order, and rejects the rest.
Source: `BatchPlanner::plan`
Kind: D
Fidelity: exact (arms regrouped by state) -/
def BatchPlanner.plan (p : BatchPlanner) (evt : Event) (st : State) : Except PlanError State :=
  let unexpected : Except PlanError State := .error (.unexpected st evt)
  match st with
  | .empty => match evt with
    | .allocate _ => .ok .allocated
    | _ => unexpected
  | .allocated => match evt with
    | .acquireDeals index _ => .ok (.dealsAcquired index)
    | _ => unexpected
  | .dealsAcquired _ => match evt with
    | .acquireDeals index _ => .ok (.dealsAcquired index)
    | .addPiece index _ => .ok (.pieceAdded index)
    | _ => unexpected
  | .pieceAdded _ => match evt with
    | .addPiece index _ => .ok (.pieceAdded index)
    | .buildTreeD index => .ok (.treeDBuilt index)
    | _ => unexpected
  | .treeDBuilt _ => match evt with
    | .buildTreeD index => .ok (.treeDBuilt index)
    | .assignTicket _ => .ok .ticketAssigned
    | _ => unexpected
  | .ticketAssigned => match evt with
    | .pc1 _ _ => .ok .pc1Done
    | _ => unexpected
  | .pc1Done => match evt with
    | .pc2 _ => .ok .pc2Done
    | _ => unexpected
  | .pc2Done => match evt with
    | .submitPC index => .ok (.pcSubmitted index)
    | _ => unexpected
  | .pcSubmitted _ => match evt with
    | .submitPC index => .ok (.pcSubmitted index)
    | .checkPC index => .ok (.pcLanded index)
    | .reSubmitPC index => .ok (if index > 0 then .pcSubmitted (index - 1) else .pc2Done)
    | _ => unexpected
  | .pcLanded _ => match evt with
    | .checkPC index => .ok (.pcLanded index)
    | .persist _ index => .ok (.persisted index)
    | _ => unexpected
  | .persisted _ => match evt with
    | .submitPersistance index => .ok (.persisted index)
    | _ => unexpected
  | .persistanceSubmitted _ => match evt with
    | .assignSeed index _ => .ok (.seedAssigned index)
    | _ => unexpected
  | .seedAssigned _ => match evt with
    | .assignSeed index _ => .ok (.seedAssigned index)
    | .c1 _ => .ok .c1Done
    | _ => unexpected
  | .c1Done => match evt with
    | .c2 index _ => .ok (.c2Done index)
    | _ => unexpected
  | .c2Done _ => match evt with
    | .c2 index _ => .ok (.c2Done index)
    | .submitProof index => .ok (.proofSubmitted index)
    | _ => unexpected
  | .proofSubmitted _ => match evt with
    | .submitProof index => .ok (.proofSubmitted index)
    | .reSubmitProof index =>
      if index > 0 then .ok (.proofSubmitted (index - 1))
      else match usizeSub p.batchSize 1 with
        | some last => .ok (.c2Done last)
        | none => .error .overflow
    | .finish index => .ok (.finished index)
    | _ => unexpected
  | .finished _ => match evt with
    | .finish index => .ok (.finished index)
    | _ => unexpected
  | .aborted => unexpected

/-- The rows of `plan`, as rules: one per arm, two where the arm's condition splits.
Source: `BatchPlanner::plan`
Kind: D
Fidelity: exact -/
inductive PlanRow (p : BatchPlanner) : Event → State → State → Prop
  | allocate (l) : PlanRow p (.allocate l) .empty .allocated
  | acquireDealsFirst (i d) : PlanRow p (.acquireDeals i d) .allocated (.dealsAcquired i)
  | acquireDealsNext (i d j) : PlanRow p (.acquireDeals i d) (.dealsAcquired j) (.dealsAcquired i)
  | addPieceFirst (i ps j) : PlanRow p (.addPiece i ps) (.dealsAcquired j) (.pieceAdded i)
  | addPieceNext (i ps j) : PlanRow p (.addPiece i ps) (.pieceAdded j) (.pieceAdded i)
  | buildTreeDFirst (i j) : PlanRow p (.buildTreeD i) (.pieceAdded j) (.treeDBuilt i)
  | buildTreeDNext (i j) : PlanRow p (.buildTreeD i) (.treeDBuilt j) (.treeDBuilt i)
  | assignTicket (t j) : PlanRow p (.assignTicket t) (.treeDBuilt j) .ticketAssigned
  | pc1 (t o) : PlanRow p (.pc1 t o) .ticketAssigned .pc1Done
  | pc2 (o) : PlanRow p (.pc2 o) .pc1Done .pc2Done
  | submitPCFirst (i) : PlanRow p (.submitPC i) .pc2Done (.pcSubmitted i)
  | submitPCNext (i j) : PlanRow p (.submitPC i) (.pcSubmitted j) (.pcSubmitted i)
  | checkPCFirst (i j) : PlanRow p (.checkPC i) (.pcSubmitted j) (.pcLanded i)
  | checkPCNext (i j) : PlanRow p (.checkPC i) (.pcLanded j) (.pcLanded i)
  | reSubmitPCBack (i j) : PlanRow p (.reSubmitPC (i + 1)) (.pcSubmitted j) (.pcSubmitted i)
  | reSubmitPCRestart (j) : PlanRow p (.reSubmitPC 0) (.pcSubmitted j) .pc2Done
  | persist (inst i j) : PlanRow p (.persist inst i) (.pcLanded j) (.persisted i)
  | submitPersistance (i j) : PlanRow p (.submitPersistance i) (.persisted j) (.persisted i)
  | assignSeedFirst (i s j) : PlanRow p (.assignSeed i s) (.persistanceSubmitted j) (.seedAssigned i)
  | assignSeedNext (i s j) : PlanRow p (.assignSeed i s) (.seedAssigned j) (.seedAssigned i)
  | c1 (o j) : PlanRow p (.c1 o) (.seedAssigned j) .c1Done
  | c2First (i o) : PlanRow p (.c2 i o) .c1Done (.c2Done i)
  | c2Next (i o j) : PlanRow p (.c2 i o) (.c2Done j) (.c2Done i)
  | submitProofFirst (i j) : PlanRow p (.submitProof i) (.c2Done j) (.proofSubmitted i)
  | submitProofNext (i j) : PlanRow p (.submitProof i) (.proofSubmitted j) (.proofSubmitted i)
  | reSubmitProofBack (i j) :
      PlanRow p (.reSubmitProof (i + 1)) (.proofSubmitted j) (.proofSubmitted i)
  | reSubmitProofRestart (j) (h : 0 < p.batchSize) :
      PlanRow p (.reSubmitProof 0) (.proofSubmitted j) (.c2Done (p.batchSize - 1))
  | finishFirst (i j) : PlanRow p (.finish i) (.proofSubmitted j) (.finished i)
  | finishNext (i j) : PlanRow p (.finish i) (.finished j) (.finished i)

/-- **`plan` is its table**: it accepts a pair exactly on a row, with the row's next state.
Source: `BatchPlanner::plan`
Kind: L -/
theorem plan_eq_ok_iff {p : BatchPlanner} {e : Event} {s s' : State} :
    p.plan e s = .ok s' ↔ PlanRow p e s s' := by
  constructor
  · intro h
    cases s with
    | pcSubmitted j =>
      cases e with
      | reSubmitPC i =>
        -- one index back, or back to `PC2Done` from index 0
        dsimp only [BatchPlanner.plan] at h
        cases i with
        | zero => rw [if_neg (Nat.lt_irrefl 0)] at h; cases h; exact .reSubmitPCRestart j
        | succ i =>
          rw [if_pos (Nat.succ_pos i), Nat.add_sub_cancel] at h; cases h; exact .reSubmitPCBack i j
      | _ => dsimp only [BatchPlanner.plan] at h; cases h <;> constructor
    | proofSubmitted j =>
      cases e with
      | reSubmitProof i =>
        -- one index back, or back to `C2Done` at the planner's last index
        dsimp only [BatchPlanner.plan] at h
        cases i with
        | zero =>
          rw [if_neg (Nat.lt_irrefl 0)] at h
          split at h <;> cases h
          obtain ⟨hle, rfl⟩ := usizeSub_eq_some.mp ‹_›
          exact .reSubmitProofRestart j hle
        | succ i =>
          rw [if_pos (Nat.succ_pos i), Nat.add_sub_cancel] at h; cases h; exact .reSubmitProofBack i j
      | _ => dsimp only [BatchPlanner.plan] at h; cases h <;> constructor
    | _ => dsimp only [BatchPlanner.plan] at h; (try split at h) <;> cases h <;> constructor
  · intro h
    cases h
    case reSubmitProofRestart hb => simp [BatchPlanner.plan, usizeSub, Nat.succ_le_of_lt hb]
    all_goals first | rfl | simp [BatchPlanner.plan]

/-- The one panic of `plan`: rolling back a failed proof at index 0 computes
`self.batch_size - 1`, which overflows at size 0.
Source: `BatchPlanner::plan`, the `ReSubmitProof` arm
Kind: L -/
theorem plan_eq_error_overflow_iff {p : BatchPlanner} {e : Event} {s : State} :
    p.plan e s = .error .overflow ↔
      e = .reSubmitProof 0 ∧ (∃ j, s = .proofSubmitted j) ∧ p.batchSize = 0 := by
  constructor
  · intro h
    cases s <;> dsimp only [BatchPlanner.plan] at h <;> try split at h
    all_goals try cases h
    split at h
    · cases h
    · split at h <;> cases h
      exact ⟨by simp_all, ⟨_, rfl⟩, by have := usizeSub_eq_none.mp ‹_›; omega⟩
  · rintro ⟨rfl, ⟨j, rfl⟩, hb⟩
    simp [BatchPlanner.plan, usizeSub, hb]

/-! ## The pipeline order -/

/-- A state's position in the pipeline order of the spec (§4.1); `Aborted` last.
Source: spec §4.1
Kind: D
Fidelity: spec -/
def State.rank : State → Nat
  | .empty => 0
  | .allocated => 1
  | .dealsAcquired _ => 2
  | .pieceAdded _ => 3
  | .treeDBuilt _ => 4
  | .ticketAssigned => 5
  | .pc1Done => 6
  | .pc2Done => 7
  | .pcSubmitted _ => 8
  | .pcLanded _ => 9
  | .persisted _ => 10
  | .persistanceSubmitted _ => 11
  | .seedAssigned _ => 12
  | .c1Done => 13
  | .c2Done _ => 14
  | .proofSubmitted _ => 15
  | .finished _ => 16
  | .aborted => 17

/-- What a step does to the rank: it does not lower it, unless it is a resubmission, which lands in
`PC2Done`/`PCSubmitted` or `C2Done`/`ProofSubmitted`.
Source: spec §4.1
Kind: D
Fidelity: spec -/
def RankStep (e : Event) (s s' : State) : Prop :=
  s.rank ≤ s'.rank ∨
    ((∃ i, e = .reSubmitPC i) ∧ (s' = .pc2Done ∨ ∃ j, s' = .pcSubmitted j)) ∨
    ((∃ i, e = .reSubmitProof i) ∧ ((∃ j, s' = .c2Done j) ∨ ∃ j, s' = .proofSubmitted j))

/-- Every row of `plan` is a rank step. -/
theorem PlanRow.rankStep {p : BatchPlanner} {e : Event} {s s' : State} (h : PlanRow p e s s') :
    RankStep e s s' := by
  cases h <;> simp [RankStep, State.rank]

/-- Every row lands at rank 1 at least, and never below the rank it leaves or below `PC2Done`.
Source: `BatchPlanner::plan`
Kind: L -/
theorem PlanRow.rank_floor {p : BatchPlanner} {e : Event} {s s' : State} (h : PlanRow p e s s') :
    1 ≤ s'.rank ∧ min s.rank 7 ≤ s'.rank := by
  cases h <;> simp [State.rank]

/-- No row of `plan` leads into `PersistanceSubmitted`. -/
theorem PlanRow.ne_persistanceSubmitted {p : BatchPlanner} {e : Event} {s s' : State}
    (h : PlanRow p e s s') (j : Nat) : s' ≠ .persistanceSubmitted j := by
  cases h <;> simp

/-- No row enters rank 11 or more (`PersistanceSubmitted` and after) from below 11.
Source: `BatchPlanner::plan`
Kind: L -/
theorem PlanRow.rank_ge_eleven {p : BatchPlanner} {e : Event} {s s' : State}
    (h : PlanRow p e s s') (h' : 11 ≤ s'.rank) : 11 ≤ s.rank := by
  cases h <;> simp_all [State.rank]

/-- The one row of `Allocate` leads from `Empty` to `Allocated`. -/
theorem PlanRow.allocate_inv {p : BatchPlanner} {e : Event} {s s' : State}
    (h : PlanRow p e s s') (he : e.isAllocate = true) : s = .empty ∧ s' = .allocated := by
  cases h <;> simp_all [Event.isAllocate]

/-- The one row of `AssignTicket` leads from `TreeDBuilt` to `TicketAssigned`. -/
theorem PlanRow.assignTicket_inv {p : BatchPlanner} {e : Event} {s s' : State}
    (h : PlanRow p e s s') (he : e.isAssignTicket = true) :
    (∃ j, s = .treeDBuilt j) ∧ s' = .ticketAssigned := by
  cases h <;> simp_all [Event.isAssignTicket]

/-! ## Planner runs -/

/-- A run of the planner alone: each event is planned from the state it meets, and the batch takes
the event's changes and the planned state.
Source: spec §3 (`Event`), §5 (exec, plan, commit)
Kind: D
Fidelity: spec -/
inductive PlanRun (p : BatchPlanner) : Sectors → List Event → Sectors → Prop
  | nil (s : Sectors) : PlanRun p s [] s
  | cons {s : Sectors} {e : Event} {next : State} {es : List Event} {t : Sectors} :
      p.plan e s.state = .ok next → PlanRun p (e.commit next s) es t → PlanRun p s (e :: es) t

/-- Every sector carries the same ticket.
Source: spec §3
Kind: D
Fidelity: spec -/
def Sectors.TicketsAgree (s : Sectors) : Prop :=
  ∀ (j k : Nat) (sec sec' : Sector), s.sectors[j]? = some sec → s.sectors[k]? = some sec' →
    sec.phases.ticket = sec'.phases.ticket

section runs

variable {p : BatchPlanner} {s t : Sectors} {es : List Event}

/-- A planner run never ends below `min r 7`, where `r` is the rank it starts from. -/
theorem PlanRun.rank_floor (h : PlanRun p s es t) : min s.state.rank 7 ≤ t.state.rank := by
  induction h with
  | nil => omega
  | cons hp _ ih =>
    have := (plan_eq_ok_iff.mp hp).rank_floor
    simp only [commit_state] at ih
    omega

/-- A planner run of at least one event ends past `Empty`. -/
theorem PlanRun.rank_pos {e : Event} (h : PlanRun p s (e :: es) t) : 1 ≤ t.state.rank := by
  cases h with
  | cons hp h' =>
    have := (plan_eq_ok_iff.mp hp).rank_floor
    have := h'.rank_floor
    simp only [commit_state] at this
    omega

/-- A run allocates at most once, and only from `Empty`.
Source: `BatchPlanner::plan`
Kind: L -/
theorem PlanRun.countP_allocate (h : PlanRun p s es t) :
    es.countP Event.isAllocate ≤ if s.state.rank = 0 then 1 else 0 := by
  induction h with
  | nil => simp
  | @cons s e next es t hp _ ih =>
    have hrow := plan_eq_ok_iff.mp hp
    have := hrow.rank_floor
    simp only [commit_state] at ih
    rw [List.countP_cons]
    cases he : e.isAllocate
    · rw [if_neg (by omega)] at ih
      simp only [he, Bool.false_eq_true, ite_false]; split <;> omega
    · obtain ⟨hs, rfl⟩ := hrow.allocate_inv he
      simp_all [State.rank]

/-- A run assigns the ticket at most once, and only up to `TreeDBuilt`.
Source: `BatchPlanner::plan`
Kind: L -/
theorem PlanRun.countP_assignTicket (h : PlanRun p s es t) :
    es.countP Event.isAssignTicket ≤ if s.state.rank ≤ 4 then 1 else 0 := by
  induction h with
  | nil => simp
  | @cons s e next es t hp _ ih =>
    have hrow := plan_eq_ok_iff.mp hp
    have := hrow.rank_floor
    simp only [commit_state] at ih
    rw [List.countP_cons]
    cases he : e.isAssignTicket
    · simp only [he, Bool.false_eq_true, ite_false]
      split <;> split at ih <;> omega
    · obtain ⟨⟨j, hs⟩, rfl⟩ := hrow.assignTicket_inv he
      simp_all [State.rank]

/-- A run that does not allocate keeps every sector's base. -/
theorem PlanRun.base_stable (h : PlanRun p s es t) (hes : es.countP Event.isAllocate = 0)
    (j : Nat) : t.sectors[j]?.map Sector.base = s.sectors[j]?.map Sector.base := by
  induction h with
  | nil => rfl
  | @cons s e next es t _ _ ih =>
    rw [List.countP_cons] at hes
    cases he : e.isAllocate <;> simp only [he, Bool.false_eq_true, ite_false, ite_true] at hes
    · rw [ih (by omega), getElem?_commit, Option.map_map]
      exact congrArg (Option.map · _) (funext (sectorWrite_base he j))
    · omega

/-- A run that does not assign the ticket keeps every sector's ticket. -/
theorem PlanRun.ticket_stable (h : PlanRun p s es t) (hes : es.countP Event.isAssignTicket = 0)
    (j : Nat) :
    t.sectors[j]?.map (·.phases.ticket) = s.sectors[j]?.map (·.phases.ticket) := by
  induction h with
  | nil => rfl
  | @cons s e next es t _ _ ih =>
    rw [List.countP_cons] at hes
    cases he : e.isAssignTicket <;> simp only [he, Bool.false_eq_true, ite_false, ite_true] at hes
    · rw [ih (by omega), getElem?_commit, Option.map_map]
      exact congrArg (Option.map · _) (funext (sectorWrite_ticket he j))
    · omega

/-- A commit keeps the sectors' tickets in agreement. -/
theorem commit_ticketsAgree {e : Event} {next : State} (hs : s.TicketsAgree) :
    (e.commit next s).TicketsAgree := by
  intro j k sec sec' hj hk
  rw [getElem?_commit] at hj hk
  obtain ⟨a, ha, rfl⟩ := Option.map_eq_some'.mp hj
  obtain ⟨b, hb, rfl⟩ := Option.map_eq_some'.mp hk
  cases he : e.isAssignTicket
  · rw [sectorWrite_ticket he, sectorWrite_ticket he]; exact hs j k a b ha hb
  · cases e <;> simp_all [Event.isAssignTicket]

/-- A planner run keeps the sectors' tickets in agreement. -/
theorem PlanRun.ticketsAgree (h : PlanRun p s es t) (hs : s.TicketsAgree) : t.TicketsAgree := by
  induction h with
  | nil => exact hs
  | cons _ _ ih => exact ih (commit_ticketsAgree hs)

/-- Before `TicketAssigned` no sector of a run from a ticketless batch has a ticket.
Source: `BatchPlanner::plan`, `Event::apply_changes`
Kind: L -/
theorem PlanRun.ticket_none (h : PlanRun p s es t)
    (hs : ∀ sec ∈ s.sectors, sec.phases.ticket = none) (ht : t.state.rank ≤ 4) :
    ∀ sec ∈ t.sectors, sec.phases.ticket = none := by
  induction h with
  | nil => exact hs
  | @cons s e next es t hp hr ih =>
    cases he : e.isAssignTicket
    · exact ih (forall_mem_commit (fun j sec h => (sectorWrite_ticket he j sec).trans h) hs) ht
    · obtain ⟨-, rfl⟩ := (plan_eq_ok_iff.mp hp).assignTicket_inv he
      have := hr.rank_floor
      rw [commit_state, show State.ticketAssigned.rank = 5 from rfl] at this
      omega

/-- Two planner runs, one after the other, are a planner run. -/
theorem PlanRun.append {m : Sectors} {es' : List Event} (h₁ : PlanRun p s es m)
    (h₂ : PlanRun p m es' t) : PlanRun p s (es ++ es') t := by
  induction h₁ with
  | nil => exact h₂
  | cons hp _ ih => exact .cons hp (ih h₂)

end runs

/-- **Runs of the planner from a fresh batch.** Each step keeps or raises the pipeline rank, except
a resubmission, which lands in `PC2Done`/`PCSubmitted` or `C2Done`/`ProofSubmitted`. So a run
allocates at most once and assigns the ticket at most once; a base or a ticket, once set, keeps
its value for the rest of the run; and every sector carries the same ticket.
Source: `BatchPlanner::plan`, `Event::apply_changes`, `BatchSealer::assign_ticket`
Kind: T -/
theorem planRun_rank_once_stable (p : BatchPlanner) {s m t : Sectors} {es es' : List Event}
    (hs : s.Fresh) (h₁ : PlanRun p s es m) (h₂ : PlanRun p m es' t) :
    (∀ e st st', p.plan e st = .ok st' → RankStep e st st') ∧
    (es ++ es').countP Event.isAllocate ≤ 1 ∧ (es ++ es').countP Event.isAssignTicket ≤ 1 ∧
    (∀ (j : Nat) (sec sec' : Sector), m.sectors[j]? = some sec → t.sectors[j]? = some sec' →
      (sec.base.isSome → sec'.base = sec.base) ∧
      (sec.phases.ticket.isSome → sec'.phases.ticket = sec.phases.ticket)) ∧
    t.TicketsAgree := by
  have hrun := h₁.append h₂
  have hfresh_ticket : ∀ sec ∈ s.sectors, sec.phases.ticket = none := fun sec h => (hs.2 sec h).2
  refine ⟨fun e st st' h => (plan_eq_ok_iff.mp h).rankStep, ?_, ?_, ?_, ?_⟩
  · have := hrun.countP_allocate; split at this <;> omega
  · have := hrun.countP_assignTicket; split at this <;> omega
  · intro j sec sec' hm ht
    constructor
    · intro hb
      -- a base at `m` means `m` is past `Empty`, so the rest of the run cannot allocate
      cases es with
      | nil =>
        cases h₁
        obtain ⟨-, hnone⟩ := hs
        simp [(hnone sec (List.getElem?_mem hm)).1] at hb
      | cons e es =>
        have h0 : es'.countP Event.isAllocate = 0 := by
          have hc := h₂.countP_allocate
          rw [if_neg (by have := h₁.rank_pos; omega)] at hc
          omega
        have := h₂.base_stable h0 j
        simp_all
    · intro ht'
      have h5 : 5 ≤ m.state.rank := by
        by_contra hlt
        have := h₁.ticket_none hfresh_ticket (by omega) sec (List.getElem?_mem hm)
        simp_all
      have h0 : es'.countP Event.isAssignTicket = 0 := by
        have := h₂.countP_assignTicket; split at this <;> omega
      have := h₂.ticket_stable h0 j
      simp_all
  · refine hrun.ticketsAgree fun j k sec sec' hj hk => ?_
    rw [(hs.2 sec (List.getElem?_mem hj)).2, (hs.2 sec' (List.getElem?_mem hk)).2]

/-- A fresh batch of two sectors, allocated (both sectors) up to the ticket, then run through the
two pre-commit phases: the bases and the ticket of the split point are kept to the end.
Source: `BatchPlanner::plan`
Kind: T -/
theorem planRun_rank_once_stable_new :
    ∃ m t, PlanRun default (Sectors.new 2)
        [.allocate [⟨⟨1000, 0⟩, ⟨0⟩⟩, ⟨⟨1000, 1⟩, ⟨0⟩⟩], .acquireDeals 0 none, .acquireDeals 1 none,
          .addPiece 0 [], .buildTreeD 0, .assignTicket ⟨7, 1⟩] m ∧
      PlanRun default m [.pc1 ⟨7, 1⟩ [], .pc2 []] t ∧
      (∀ sec ∈ m.sectors, sec.base.isSome ∧ sec.phases.ticket = some ⟨7, 1⟩) ∧
      ((∀ e st st', (default : BatchPlanner).plan e st = .ok st' → RankStep e st st') ∧
        ([Event.allocate [⟨⟨1000, 0⟩, ⟨0⟩⟩, ⟨⟨1000, 1⟩, ⟨0⟩⟩], .acquireDeals 0 none,
          .acquireDeals 1 none, .addPiece 0 [], .buildTreeD 0, .assignTicket ⟨7, 1⟩] ++
          [Event.pc1 ⟨7, 1⟩ [], .pc2 []]).countP Event.isAllocate ≤ 1 ∧
        ([Event.allocate [⟨⟨1000, 0⟩, ⟨0⟩⟩, ⟨⟨1000, 1⟩, ⟨0⟩⟩], .acquireDeals 0 none,
          .acquireDeals 1 none, .addPiece 0 [], .buildTreeD 0, .assignTicket ⟨7, 1⟩] ++
          [Event.pc1 ⟨7, 1⟩ [], .pc2 []]).countP Event.isAssignTicket ≤ 1 ∧
        (∀ (j : Nat) (sec sec' : Sector), m.sectors[j]? = some sec → t.sectors[j]? = some sec' →
          (sec.base.isSome → sec'.base = sec.base) ∧
          (sec.phases.ticket.isSome → sec'.phases.ticket = sec.phases.ticket)) ∧
        t.TicketsAgree) := by
  have h₁ : PlanRun default (Sectors.new 2)
      [.allocate [⟨⟨1000, 0⟩, ⟨0⟩⟩, ⟨⟨1000, 1⟩, ⟨0⟩⟩], .acquireDeals 0 none, .acquireDeals 1 none,
        .addPiece 0 [], .buildTreeD 0, .assignTicket ⟨7, 1⟩] _ :=
    .cons rfl <| .cons rfl <| .cons rfl <| .cons rfl <| .cons rfl <| .cons rfl <| .nil _
  refine ⟨_, _, h₁, .cons rfl <| .cons rfl <| .nil _, by decide, ?_⟩
  exact planRun_rank_once_stable default (Sectors.new_fresh 2) h₁ (.cons rfl <| .cons rfl <| .nil _)

/-- **The seed, commit and proof phases are out of reach**: no row of `plan` enters
`PersistanceSubmitted`, so a planner run that starts before it never reaches it, nor the seed
wait, the two commit phases, the proof submission and check, or `Finished` after it.
Source: `BatchPlanner::plan`
Kind: L -/
theorem planRun_rank_lt_eleven (p : BatchPlanner) {s t : Sectors} {es : List Event}
    (h : PlanRun p s es t) (hs : s.state.rank < 11) : t.state.rank < 11 := by
  induction h with
  | nil => exact hs
  | cons hp _ ih =>
    refine ih ?_
    rw [commit_state]
    by_contra hge
    exact absurd ((plan_eq_ok_iff.mp hp).rank_ge_eleven (by omega)) (by omega)

/-- A fresh batch of two sectors run by the planner through both pre-commits, both checks and the
persistence of both sectors, up to `Persisted{1}`: still below `PersistanceSubmitted`. -/
theorem planRun_rank_lt_eleven_new :
    ∃ t, PlanRun default (Sectors.new 2)
        [.allocate [⟨⟨1000, 0⟩, ⟨0⟩⟩, ⟨⟨1000, 1⟩, ⟨0⟩⟩], .acquireDeals 0 none, .acquireDeals 1 none,
          .addPiece 0 [], .buildTreeD 0, .assignTicket ⟨7, 1⟩, .pc1 ⟨7, 1⟩ [], .pc2 [], .submitPC 0,
          .submitPC 1, .checkPC 0, .checkPC 1, .persist "store" 0, .submitPersistance 1] t ∧
      t.state = .persisted 1 ∧ (Sectors.new 2).state.rank < 11 ∧ t.state.rank < 11 :=
  have h : PlanRun default (Sectors.new 2)
      [.allocate [⟨⟨1000, 0⟩, ⟨0⟩⟩, ⟨⟨1000, 1⟩, ⟨0⟩⟩], .acquireDeals 0 none, .acquireDeals 1 none,
        .addPiece 0 [], .buildTreeD 0, .assignTicket ⟨7, 1⟩, .pc1 ⟨7, 1⟩ [], .pc2 [], .submitPC 0,
        .submitPC 1, .checkPC 0, .checkPC 1, .persist "store" 0, .submitPersistance 1] _ :=
    .cons rfl <| .cons rfl <| .cons rfl <| .cons rfl <| .cons rfl <| .cons rfl <| .cons rfl <|
      .cons rfl <| .cons rfl <| .cons rfl <| .cons rfl <| .cons rfl <| .cons rfl <| .cons rfl <|
      .nil _
  ⟨_, h, rfl, by decide, planRun_rank_lt_eleven default h (by decide)⟩

end Damocles.Batch
