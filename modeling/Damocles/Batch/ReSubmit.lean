import Damocles.Batch.Driver

/-!
# The resubmission flags

Each sector carries two flags that tell the sector manager a submission repeats an earlier one:
`pc2_re_submit`, sent with `submit_pre_commit`, and `c2_re_submit`, sent with `submit_proof`.
`apply_changes` raises a sector's flag on `ReSubmitPC`/`ReSubmitProof` (its on-chain check failed)
and clears it on `SubmitPC`/`SubmitProof` (the sector manager took the submission); no other event
touches it.

* `ReSubmitFlag` is one flag with the events that raise and clear it and its write law; `pc2Flag`
  and `c2Flag` are the two of the source.
* `ReSubmitFlag.planRun` is the run lemma: over every planner run, from any batch, the flag of
  sector `j` ends raised exactly when the run raises it with no clear after the last raise, or it
  started raised and the run never clears it.
* `submitPreCommit_reset`, `submitProof_reset`: a submission's one request carries the sector's
  flag.
* **`planRun_reSubmit_sent`**: after every planner run, every submission request of sector `j` says
  "resubmit" exactly when the run's last word on the sector was a failed check.
-/

namespace Damocles.Batch

open BatchSealer

/-! ## The requests of a run -/

namespace Run

variable {α β : Type}

/-- Rust's `?` makes no request. -/
@[simp] theorem lift_calls (r : Except Failure α) : (lift r).calls = [] := by
  cases r <;> rfl

/-- One `call_rpc!` makes its one request. -/
@[simp] theorem rpc_calls (c : Call) (ans : Except RpcError α) : (rpc c ans).calls = [c] := by
  cases ans <;> rfl

/-- A request of a sequenced run is made by its first part, or by the rest after the first part ends with a value. -/
theorem mem_bind_calls {r : Run α} {f : α → Run β} {c : Call} (h : c ∈ (r.bind f).calls) :
    c ∈ r.calls ∨ ∃ a, r.outcome = .ok a ∧ c ∈ (f a).calls := by
  unfold bind at h
  split at h
  · rcases List.mem_append.mp h with h | h
    exacts [.inl h, .inr ⟨_, ‹_›, h⟩]
  all_goals exact .inl h

end Run

/-- The one request of `submit_pre_commit(index)` carries sector `index`'s `pc2_re_submit`. -/
theorem submitPreCommit_reset {env : Env} {job : Sectors} {index : Nat}
    {sector : AllocatedSector} {info : PreCommitOnChainInfo} {reset : Bool}
    (h : Call.submitPreCommit sector info reset ∈ (submitPreCommit env job index).calls) :
    ∃ sec, job.sectors[index]? = some sec ∧ reset = sec.phases.pc2ReSubmit := by
  simp only [submitPreCommit, Run.bind_eq] at h
  rcases Run.mem_bind_calls h with h | ⟨sec, hsec, h⟩
  · simp at h
  refine ⟨sec, sector_of_crit_ok hsec, ?_⟩
  split at h
  · rcases Run.mem_bind_calls h with h | ⟨_, -, h⟩
    · simp only [Run.rpc_calls, List.mem_singleton, Call.submitPreCommit.injEq] at h
      exact h.2.2
    · simp at h
  · simp at h

/-- The one request of `submit_proof(index)` carries sector `index`'s `c2_re_submit`. -/
theorem submitProof_reset {env : Env} {job : Sectors} {index : Nat} {id : SectorID}
    {info : ProofOnChainInfo} {reset : Bool}
    (h : Call.submitProof id info reset ∈ (submitProof env job index).calls) :
    ∃ sec, job.sectors[index]? = some sec ∧ reset = sec.phases.c2ReSubmit := by
  simp only [submitProof, Run.bind_eq] at h
  rcases Run.mem_bind_calls h with h | ⟨sec, hsec, h⟩
  · simp at h
  refine ⟨sec, sector_of_crit_ok hsec, ?_⟩
  iterate 2
    rcases Run.mem_bind_calls h with h | ⟨_, -, h⟩
    · simp at h
  rcases Run.mem_bind_calls h with h | ⟨_, -, h⟩
  · simp only [Run.rpc_calls, List.mem_singleton, Call.submitProof.injEq] at h
    exact h.2.2
  · simp at h

/-! ## The flags over a run -/

/-- A resubmission flag of the sectors: read by `get`, raised on sector `j` by `set j` and cleared
by `clear j`, left alone by every other write.
Source: `Event::apply_changes` (the `SubmitPC`, `ReSubmitPC`, `SubmitProof`, `ReSubmitProof` arms)
Kind: D
Fidelity: n/a -/
structure ReSubmitFlag where
  get : Phases → Bool
  set : Nat → Event
  clear : Nat → Event
  set_ne_clear : ∀ j, set j ≠ clear j
  write : ∀ e j sec, get (e.sectorWrite j sec).phases =
    if e = set j then true else if e = clear j then false else get sec.phases

/-- `pc2_re_submit`: raised by `ReSubmitPC`, cleared by `SubmitPC`.
Source: `Event::apply_changes`
Kind: D
Fidelity: exact -/
def pc2Flag : ReSubmitFlag where
  get := Phases.pc2ReSubmit
  set := .reSubmitPC
  clear := .submitPC
  set_ne_clear := by simp
  write e j sec := by
    by_cases h₁ : e = .reSubmitPC j
    · subst h₁; simp [Event.sectorWrite]
    by_cases h₂ : e = .submitPC j
    · subst h₂; simp [Event.sectorWrite]
    rw [if_neg h₁, if_neg h₂]
    cases e <;> dsimp only [Event.sectorWrite] <;> (try split) <;> first | rfl | simp_all

/-- `c2_re_submit`: raised by `ReSubmitProof`, cleared by `SubmitProof`.
Source: `Event::apply_changes`
Kind: D
Fidelity: exact -/
def c2Flag : ReSubmitFlag where
  get := Phases.c2ReSubmit
  set := .reSubmitProof
  clear := .submitProof
  set_ne_clear := by simp
  write e j sec := by
    by_cases h₁ : e = .reSubmitProof j
    · subst h₁; simp [Event.sectorWrite]
    by_cases h₂ : e = .submitProof j
    · subst h₂; simp [Event.sectorWrite]
    rw [if_neg h₁, if_neg h₂]
    cases e <;> dsimp only [Event.sectorWrite] <;> (try split) <;> first | rfl | simp_all

/-- A split of `e :: es` around an occurrence of `x`: at the head, or inside `es`. -/
theorem exists_append_cons_iff {α : Type} (x e : α) (es : List α) (P : List α → Prop) :
    (∃ es₁ es₂, e :: es = es₁ ++ x :: es₂ ∧ P es₂) ↔
      (e = x ∧ P es) ∨ ∃ es₁ es₂, es = es₁ ++ x :: es₂ ∧ P es₂ := by
  constructor
  · rintro ⟨_ | ⟨a, es₁⟩, es₂, h, hp⟩
    · cases h; exact .inl ⟨rfl, hp⟩
    · cases h; exact .inr ⟨es₁, es₂, rfl, hp⟩
  · rintro (⟨rfl, hp⟩ | ⟨es₁, es₂, rfl, hp⟩)
    · exact ⟨[], es, rfl, hp⟩
    · exact ⟨e :: es₁, es₂, rfl, hp⟩

/-- The run lemma: the flag of sector `j` ends raised exactly when the run raises it and never
clears it after, or it started raised and the run never clears it. -/
theorem ReSubmitFlag.planRun (f : ReSubmitFlag) {p : BatchPlanner} {s t : Sectors}
    {es : List Event} (h : PlanRun p s es t) {j : Nat} {sec sec' : Sector}
    (hs : s.sectors[j]? = some sec) (ht : t.sectors[j]? = some sec') :
    f.get sec'.phases = true ↔ (∃ es₁ es₂, es = es₁ ++ f.set j :: es₂ ∧ f.clear j ∉ es₂) ∨
      (f.get sec.phases = true ∧ f.clear j ∉ es) := by
  induction h generalizing sec with
  | nil => cases hs.symm.trans ht; simp
  | @cons s e next es t _ _ ih =>
    rw [ih (by rw [getElem?_commit, hs]; rfl) ht, f.write, exists_append_cons_iff]
    have hsc := f.set_ne_clear j
    split_ifs with h₁ h₂
    · -- a raise: the run from here ends raised unless it clears the flag
      subst h₁
      simp only [true_and, List.mem_cons, not_or]
      constructor
      · rintro (hsplit | hc)
        exacts [.inl (.inr hsplit), .inl (.inl hc)]
      · rintro ((hc | hsplit) | ⟨-, -, hc⟩)
        exacts [.inr hc, .inl hsplit, .inr hc]
    · -- a clear: only a later raise counts
      subst h₂
      simp [hsc.symm]
    · simp [h₁, Ne.symm h₂]

/-- **What a submission tells the sector manager**: after every planner run, from any batch, every
request of `submit_pre_commit(j)` (resp. `submit_proof(j)`) says "resubmit" exactly when the run
has a `ReSubmitPC{j}` (resp. `ReSubmitProof{j}`) with no `SubmitPC{j}` (resp. `SubmitProof{j}`)
after it, or the flag was raised at the start and the run never clears it.
Source: `Event::apply_changes`, `BatchSealer::submit_pre_commit`, `BatchSealer::submit_proof`
Kind: L -/
theorem planRun_reSubmit_sent {p : BatchPlanner} {s t : Sectors} {es : List Event}
    (h : PlanRun p s es t) (env : Env) {j : Nat} {sec : Sector} (hs : s.sectors[j]? = some sec) :
    (∀ a info reset, Call.submitPreCommit a info reset ∈ (submitPreCommit env t j).calls →
      (reset = true ↔ (∃ es₁ es₂, es = es₁ ++ .reSubmitPC j :: es₂ ∧ .submitPC j ∉ es₂) ∨
        (sec.phases.pc2ReSubmit = true ∧ .submitPC j ∉ es))) ∧
    (∀ id info reset, Call.submitProof id info reset ∈ (submitProof env t j).calls →
      (reset = true ↔ (∃ es₁ es₂, es = es₁ ++ .reSubmitProof j :: es₂ ∧ .submitProof j ∉ es₂) ∨
        (sec.phases.c2ReSubmit = true ∧ .submitProof j ∉ es))) := by
  constructor
  · intro a info reset hc
    obtain ⟨sec', ht, rfl⟩ := submitPreCommit_reset hc
    exact pc2Flag.planRun h hs ht
  · intro id info reset hc
    obtain ⟨sec', ht, rfl⟩ := submitProof_reset hc
    exact c2Flag.planRun h hs ht

/-- A failed pre-commit check of sector 0 in a batch of one: its next submission says "resubmit". -/
theorem planRun_reSubmit_sent_pcSubmitted :
    ∃ s t sec, PlanRun default s [Event.reSubmitPC 0] t ∧ s.sectors[0]? = some sec ∧
      (submitPreCommit happyEnv t 0).calls.length = 1 ∧
      (∀ a info reset, Call.submitPreCommit a info reset ∈ (submitPreCommit happyEnv t 0).calls →
        (reset = true ↔ (∃ es₁ es₂, [Event.reSubmitPC 0] = es₁ ++ .reSubmitPC 0 :: es₂ ∧
            Event.submitPC 0 ∉ es₂) ∨
          (sec.phases.pc2ReSubmit = true ∧ Event.submitPC 0 ∉ [Event.reSubmitPC 0]))) ∧
      (∀ id info reset, Call.submitProof id info reset ∈ (submitProof happyEnv t 0).calls →
        (reset = true ↔ (∃ es₁ es₂, [Event.reSubmitPC 0] = es₁ ++ .reSubmitProof 0 :: es₂ ∧
            Event.submitProof 0 ∉ es₂) ∨
          (sec.phases.c2ReSubmit = true ∧ Event.submitProof 0 ∉ [Event.reSubmitPC 0]))) :=
  have h : PlanRun default
      { sectors := [{ base := some (.ofAllocated ⟨⟨1000, 0⟩, ⟨0⟩⟩),
                      phases := { ticket := some ⟨7, 1⟩, pc2out := some ⟨1, 2⟩ } }]
        batchSize := 1, state := .pcSubmitted 0 } [Event.reSubmitPC 0] _ := .cons rfl (.nil _)
  ⟨_, _, _, h, rfl, rfl, planRun_reSubmit_sent h happyEnv rfl⟩

end Damocles.Batch
