import Damocles.Batch.Sealer

/-!
# The polling loops

The two on-chain checks and the seed wait loop on the sector manager's answers. Their laws are
over every sequence of answers and every pattern of wait outcomes, by induction over the
iterations that found the chain still pending:

* `pollLoop_pending`: `k` pending (or packed) answers, each followed by an elapsed wait, cost one
  poll and one wait of the polling interval each, and hand the rest of both scripts to the loop;
  `pollLoop_interrupted`: an interrupted wait ends the loop with its failure.
* `Settled` reads the answer that settles the loop as the spec's table of §4.3: `Landed`
  succeeds, `Failed` waits 30 s and asks for a resubmission, `NotFound` and `PermFailed` are
  permanent, `ShouldAbort` aborts, a transport error is the call's failure; `pollLoop_settled`
  proves the loop meets it after any number of pending answers.
* `PollLaw` states all of it of a check over every script of answers and waits; `SeedLaw` the same
  of `wait_seed`, where each seedless answer names its own delay. **`onChain_checks_law`** proves
  both checks and the seed wait satisfy them, for every sector with a base.
-/

namespace Damocles.Batch

open BatchSealer

/-! ## Unrolling the on-chain poll -/

/-- An answer that keeps the loop polling.
Source: the `Pending | Packed` arm of the polling loops
Kind: D
Fidelity: exact -/
def PollResp.keepsPolling (r : PollResp) : Bool := r.state == .pending || r.state == .packed

/-- `k` iterations that found the chain pending: a poll and a wait of the interval each.
Source: spec §4.3
Kind: D
Fidelity: spec -/
def pollCalls (request : Call) (interval : Duration) (k : Nat) : List Call :=
  (List.replicate k [request, .wait interval]).flatten

/-- The requests of `k + 1` pending polls: a poll and a wait last. -/
theorem pollCalls_succ_right (request : Call) (interval : Duration) (k : Nat) :
    pollCalls request interval (k + 1) = pollCalls request interval k ++ [request, .wait interval] := by
  simp [pollCalls, List.replicate_succ']

section poll

variable (p : Poll) (interval : Duration) (landed failed : Event)

/-- A pending answer: the poll, then the wait of the interval, then the rest of the loop. -/
theorem pollLoop_keepsPolling {r : PollResp} (hr : r.keepsPolling = true)
    (rest : List (Except RpcError PollResp)) (w : Except Failure Unit)
    (ws : List (Except Failure Unit)) :
    pollLoop p interval landed failed (.ok r :: rest) (w :: ws) =
      let next := (Run.wait interval (some w)).bind fun _ => pollLoop p interval landed failed rest ws
      ⟨p.request :: next.calls, next.outcome⟩ := by
  obtain ⟨state, desc⟩ := r
  simp only [PollResp.keepsPolling, Bool.or_eq_true, beq_iff_eq] at hr
  rcases hr with rfl | rfl <;> rfl

/-- One pending answer and an elapsed wait: a poll, a wait, and the loop goes on. -/
theorem pollLoop_step_pending {r : PollResp} (hr : r.keepsPolling = true)
    (rest : List (Except RpcError PollResp)) (ws : List (Except Failure Unit)) :
    pollLoop p interval landed failed (.ok r :: rest) (.ok () :: ws) =
      ⟨p.request :: .wait interval :: (pollLoop p interval landed failed rest ws).calls,
        (pollLoop p interval landed failed rest ws).outcome⟩ :=
  pollLoop_keepsPolling p interval landed failed hr rest _ ws

/-- **Unrolling**: pending answers with elapsed waits cost a poll and a wait of the interval
each.
Source: `check_pre_commit_state`, `check_proof_state`
Kind: L -/
theorem pollLoop_pending :
    ∀ (pre : List PollResp), (∀ r ∈ pre, r.keepsPolling = true) →
      ∀ (rest : List (Except RpcError PollResp)) (ws : List (Except Failure Unit)),
        pollLoop p interval landed failed (pre.map .ok ++ rest)
            (List.replicate pre.length (.ok ()) ++ ws) =
          ⟨pollCalls p.request interval pre.length ++
              (pollLoop p interval landed failed rest ws).calls,
            (pollLoop p interval landed failed rest ws).outcome⟩
  | [], _, rest, ws => rfl
  | r :: pre, h, rest, ws => by
    rw [List.map_cons, List.cons_append, List.length_cons, List.replicate_succ, List.cons_append,
      pollLoop_step_pending p interval landed failed (h r (List.mem_cons_self r pre)),
      pollLoop_pending pre (fun r' hr' => h r' (List.mem_cons_of_mem r hr')) rest ws]
    rfl

/-- An interrupted wait ends the loop with its failure.
Source: `check_pre_commit_state`, `check_proof_state`
Kind: L -/
theorem pollLoop_interrupted {r : PollResp} (hr : r.keepsPolling = true)
    (rest : List (Except RpcError PollResp)) (f : Failure) (ws : List (Except Failure Unit)) :
    pollLoop p interval landed failed (.ok r :: rest) (.error f :: ws) =
      ⟨[p.request, .wait interval], .err f⟩ :=
  pollLoop_keepsPolling p interval landed failed hr rest _ ws

/-! The answer that settles the loop, read as the spec's table (§4.3). -/

/-- A `Landed` answer ends the loop with the landed event. -/
@[simp] theorem pollLoop_landed (d : Option String) (rest : List (Except RpcError PollResp))
    (ws : List (Except Failure Unit)) :
    pollLoop p interval landed failed (.ok ⟨.landed, d⟩ :: rest) ws = ⟨[p.request], .ok landed⟩ :=
  rfl

/-- A `NotFound` answer is a permanent failure. -/
@[simp] theorem pollLoop_notFound (d : Option String) (rest : List (Except RpcError PollResp))
    (ws : List (Except Failure Unit)) :
    pollLoop p interval landed failed (.ok ⟨.notFound, d⟩ :: rest) ws =
      ⟨[p.request], .err ⟨.permanent, p.notFound⟩⟩ :=
  rfl

/-- A `PermFailed` answer is a permanent failure. -/
@[simp] theorem pollLoop_permFailed (d : Option String) (rest : List (Except RpcError PollResp))
    (ws : List (Except Failure Unit)) :
    pollLoop p interval landed failed (.ok ⟨.permFailed, d⟩ :: rest) ws =
      ⟨[p.request], .err ⟨.permanent, p.permFailed ++ debugDesc d⟩⟩ :=
  rfl

/-- A `ShouldAbort` answer aborts the sector. -/
@[simp] theorem pollLoop_shouldAbort (d : Option String) (rest : List (Except RpcError PollResp))
    (ws : List (Except Failure Unit)) :
    pollLoop p interval landed failed (.ok ⟨.shouldAbort, d⟩ :: rest) ws =
      ⟨[p.request], .err ⟨.abort, p.shouldAbort ++ debugDesc d⟩⟩ :=
  rfl

/-- A transport error of a poll is a temporary failure. -/
@[simp] theorem pollLoop_error (e : RpcError) (rest : List (Except RpcError PollResp))
    (ws : List (Except Failure Unit)) :
    pollLoop p interval landed failed (.error e :: rest) ws =
      ⟨[p.request], .err ⟨.temporary, "rpc error: " ++ e.debug⟩⟩ :=
  rfl

/-- A failed message: one wait of 30 s, whose outcome decides between the resubmission and the
wait's own failure.
Source: the `OnChainState::Failed` arm of the polling loops
Kind: L -/
theorem pollLoop_failed (d : Option String) (rest : List (Except RpcError PollResp))
    (ws : List (Except Failure Unit)) :
    pollLoop p interval landed failed (.ok ⟨.failed, d⟩ :: rest) ws =
      ⟨[p.request, .wait (Duration.fromSecs 30)],
        match ws.head? with
        | some (.ok ()) => .ok failed
        | some (.error f) => .err f
        | none => .waiting⟩ := by
  rcases ws with _ | ⟨_ | _, _⟩ <;> rfl

/-! ## The settled answer, as the spec's table -/

/-- What the sector manager said of the message, if the poll went through.
Source: `state.state` in the polling loops
Kind: D
Fidelity: exact -/
def answerState : Except RpcError PollResp → Option OnChainState
  | .ok r => some r.state
  | .error _ => none

/-- Everything the spec's table (§4.3) says of a check that, after `k` pending answers with
elapsed waits, read the answer `a` and then met the wait outcomes `ws`: the requests it made, and
that it ends with `landed` exactly on `Landed`, with `failed` exactly on `Failed` and an elapsed
30 s wait, and otherwise with the failure the table names.
Source: spec §4.3
Kind: D
Fidelity: spec -/
structure Settled (p : Poll) (interval : Duration) (landed failed : Event) (k : Nat)
    (a : Except RpcError PollResp) (ws : List (Except Failure Unit)) (run : Run Event) : Prop where
  calls : run.calls = pollCalls p.request interval k ++
    p.request :: (if answerState a = some .failed then [.wait (Duration.fromSecs 30)] else [])
  landed_iff : run.outcome = .ok landed ↔ answerState a = some .landed
  failed_iff : run.outcome = .ok failed ↔ answerState a = some .failed ∧ ws.head? = some (.ok ())
  failed_interrupted : ∀ f, answerState a = some .failed → ws.head? = some (.error f) →
    run.outcome = .err f
  notFound : answerState a = some .notFound → run.outcome = .err ⟨.permanent, p.notFound⟩
  permFailed : ∀ d, a = .ok ⟨.permFailed, d⟩ →
    run.outcome = .err ⟨.permanent, p.permFailed ++ debugDesc d⟩
  shouldAbort : ∀ d, a = .ok ⟨.shouldAbort, d⟩ →
    run.outcome = .err ⟨.abort, p.shouldAbort ++ debugDesc d⟩
  rpcError : ∀ e, a = .error e → run.outcome = .err ⟨.temporary, "rpc error: " ++ e.debug⟩

/-- The answer that settles the loop, right after the poll that read it. -/
theorem pollLoop_settled_head (hne : landed ≠ failed) {a : Except RpcError PollResp}
    (hpend : answerState a ≠ some .pending) (hpack : answerState a ≠ some .packed)
    (rest : List (Except RpcError PollResp)) (ws : List (Except Failure Unit)) :
    Settled p interval landed failed 0 a ws (pollLoop p interval landed failed (a :: rest) ws) := by
  rcases a with e | ⟨_ | _ | _ | _ | _ | _ | _, d⟩
  case ok.mk.failed =>
    rw [pollLoop_failed]
    rcases ws with _ | ⟨_ | _, _⟩ <;> constructor <;> simp [answerState, pollCalls, hne.symm]
  all_goals first
    | exact absurd rfl ‹_›
    | constructor <;> simp [answerState, pollCalls, hne]

/-- **The loop's law**: `k` pending answers with elapsed waits, then the answer that settles it.
Source: `check_pre_commit_state`, `check_proof_state`
Kind: L -/
theorem pollLoop_settled (hne : landed ≠ failed) {pre : List PollResp}
    (hpre : ∀ r ∈ pre, r.keepsPolling = true) {a : Except RpcError PollResp}
    (hpend : answerState a ≠ some .pending) (hpack : answerState a ≠ some .packed)
    (rest : List (Except RpcError PollResp)) (ws : List (Except Failure Unit)) :
    Settled p interval landed failed pre.length a ws
      (pollLoop p interval landed failed (pre.map .ok ++ a :: rest)
        (List.replicate pre.length (.ok ()) ++ ws)) := by
  have h := pollLoop_settled_head p interval landed failed hne hpend hpack rest ws
  rw [pollLoop_pending p interval landed failed pre hpre]
  exact ⟨by simpa [pollCalls] using h.calls, h.landed_iff, h.failed_iff, h.failed_interrupted,
    h.notFound, h.permFailed, h.shouldAbort, h.rpcError⟩

/-- An interrupted wait after `k` pending answers: `k + 1` polls and waits, and its failure.
Source: `check_pre_commit_state`, `check_proof_state`
Kind: L -/
theorem pollLoop_interrupted_after {pre : List PollResp} (hpre : ∀ r ∈ pre, r.keepsPolling = true)
    {r : PollResp} (hr : r.keepsPolling = true) (rest : List (Except RpcError PollResp)) (f : Failure)
    (ws : List (Except Failure Unit)) :
    pollLoop p interval landed failed (pre.map .ok ++ .ok r :: rest)
        (List.replicate pre.length (.ok ()) ++ .error f :: ws) =
      ⟨pollCalls p.request interval (pre.length + 1), .err f⟩ := by
  rw [pollLoop_pending p interval landed failed pre hpre,
    pollLoop_interrupted p interval landed failed hr, pollCalls_succ_right]

end poll

/-! ## The law of an on-chain check -/

/-- The law of an on-chain check (§4.3), over every script of answers and waits of the states where
it is `enabled`: after `k` pending answers with elapsed waits, the first other answer settles the
check as `Settled` says; a wait interrupted first ends it with the wait's failure.
Source: spec §4.3
Kind: D
Fidelity: spec -/
structure PollLaw (check : Env → Run Event) (enabled : Env → Bool)
    (answers : Env → List (Except RpcError PollResp)) (p : Poll) (landed failed : Event) :
    Prop where
  settled : ∀ env (pre : List PollResp) a rest ws, enabled env = true →
    (∀ r ∈ pre, r.keepsPolling = true) → answerState a ≠ some .pending →
    answerState a ≠ some .packed → answers env = pre.map .ok ++ a :: rest →
    env.waits = List.replicate pre.length (.ok ()) ++ ws →
    Settled p env.config.rpcPollingInterval landed failed pre.length a ws (check env)
  interrupted : ∀ env (pre : List PollResp) r rest f ws, enabled env = true →
    (∀ r ∈ pre, r.keepsPolling = true) → r.keepsPolling = true →
    answers env = pre.map .ok ++ .ok r :: rest →
    env.waits = List.replicate pre.length (.ok ()) ++ .error f :: ws →
    check env = ⟨pollCalls p.request env.config.rpcPollingInterval (pre.length + 1), .err f⟩

/-- A check that is the polling loop wherever it is enabled has the law. -/
theorem PollLaw.of_pollLoop {check : Env → Run Event} {enabled : Env → Bool}
    {answers : Env → List (Except RpcError PollResp)} {p : Poll} {landed failed : Event}
    (hne : landed ≠ failed)
    (h : ∀ env, enabled env = true →
      check env = pollLoop p env.config.rpcPollingInterval landed failed (answers env) env.waits) :
    PollLaw check enabled answers p landed failed where
  settled env _ _ rest ws he hpre hpend hpack ha hw := by
    rw [h env he, ha, hw]; exact pollLoop_settled p _ landed failed hne hpre hpend hpack rest ws
  interrupted env _ _ rest f ws he hpre hr ha hw := by
    rw [h env he, ha, hw]; exact pollLoop_interrupted_after p _ landed failed hpre hr rest f ws

section checks

variable {job : Sectors} {index : Nat} {sector : Sector} {base : Base}

/-- `check_pre_commit_state` on an allocated sector is the poll loop of its pre-commit. -/
theorem checkPreCommitState_eq (hs : job.sectors[index]? = some sector)
    (hb : sector.base = some base) (env : Env) :
    checkPreCommitState env job index =
      pollLoop (preCommitPoll base.allocated.id) env.config.rpcPollingInterval (.checkPC index)
        (.reSubmitPC index) (env.rpc.pollPreCommitState base.allocated.id) env.waits := by
  simp [checkPreCommitState, Sectors.sector, hs, hb]

/-- `check_proof_state` on an allocated sector, with proof checks on, is the poll loop of its proof. -/
theorem checkProofState_eq (hs : job.sectors[index]? = some sector)
    (hb : sector.base = some base) {env : Env} (he : env.config.ignoreProofCheck = false) :
    checkProofState env job index =
      pollLoop (proofPoll base.allocated.id) env.config.rpcPollingInterval (.finish index)
        (.reSubmitProof index) (env.rpc.pollProofState base.allocated.id) env.waits := by
  simp [checkProofState, Sectors.sector, hs, hb, he]

/-- `wait_seed` on an allocated sector is the seed loop of that sector. -/
theorem waitSeed_eq (hs : job.sectors[index]? = some sector) (hb : sector.base = some base)
    (env : Env) :
    waitSeed env job index =
      waitSeedLoop index base.allocated.id (env.rpc.waitSeed base.allocated.id) env.waits := by
  simp [waitSeed, Sectors.sector, hs, hb]

end checks

/-! ## The seed wait -/

/-- A seedless answer that asks to wait: the loop sleeps the answer's delay and asks again.
Source: the `None` arm of the `loop` of `BatchSealer::wait_seed`
Kind: D
Fidelity: exact -/
def WaitSeedResp.keepsWaiting (w : WaitSeedResp) : Bool :=
  w.seed.isNone && w.shouldWait && w.delay != 0

/-- The requests of a seed wait that read the seedless answers `pre`: a `wait_seed` call and a
sleep of that answer's own delay each.
Source: spec §4.3
Kind: D
Fidelity: spec -/
def seedCalls (request : Call) (pre : List WaitSeedResp) : List Call :=
  (pre.map fun w => [request, .wait (Duration.fromSecs w.delay)]).flatten

section seed

variable (index : Nat) (id : SectorID)

/-- A seedless answer that asks to wait: the request, then the sleep of its delay, then the rest
of the loop. -/
theorem waitSeedLoop_keepsWaiting {w : WaitSeedResp} (hw : w.keepsWaiting = true)
    (rest : List (Except RpcError WaitSeedResp)) (o : Except Failure Unit)
    (ws : List (Except Failure Unit)) :
    waitSeedLoop index id (.ok w :: rest) (o :: ws) =
      let next := (Run.wait (Duration.fromSecs w.delay) (some o)).bind fun _ =>
        waitSeedLoop index id rest ws
      ⟨.waitSeed id :: next.calls, next.outcome⟩ := by
  obtain ⟨shouldWait, delay, seed⟩ := w
  simp only [WaitSeedResp.keepsWaiting, Bool.and_eq_true, Option.isNone_iff_eq_none,
    bne_iff_ne] at hw
  obtain ⟨⟨rfl, rfl⟩, hd⟩ := hw
  simp [waitSeedLoop, hd]

/-- An answer that asks to wait and an elapsed wait: a request, a wait, and the loop goes on. -/
theorem waitSeedLoop_step_waiting {w : WaitSeedResp} (hw : w.keepsWaiting = true)
    (rest : List (Except RpcError WaitSeedResp)) (ws : List (Except Failure Unit)) :
    waitSeedLoop index id (.ok w :: rest) (.ok () :: ws) =
      ⟨.waitSeed id :: .wait (Duration.fromSecs w.delay) :: (waitSeedLoop index id rest ws).calls,
        (waitSeedLoop index id rest ws).outcome⟩ :=
  waitSeedLoop_keepsWaiting index id hw rest _ ws

/-- **Unrolling**: seedless answers that ask to wait, with elapsed waits, cost a `wait_seed` call
and a sleep of their own delay each.
Source: `BatchSealer::wait_seed`
Kind: L -/
theorem waitSeedLoop_waiting :
    ∀ (pre : List WaitSeedResp), (∀ w ∈ pre, w.keepsWaiting = true) →
      ∀ (rest : List (Except RpcError WaitSeedResp)) (ws : List (Except Failure Unit)),
        waitSeedLoop index id (pre.map .ok ++ rest) (List.replicate pre.length (.ok ()) ++ ws) =
          ⟨seedCalls (.waitSeed id) pre ++ (waitSeedLoop index id rest ws).calls,
            (waitSeedLoop index id rest ws).outcome⟩
  | [], _, rest, ws => rfl
  | w :: pre, h, rest, ws => by
    rw [List.map_cons, List.cons_append, List.length_cons, List.replicate_succ, List.cons_append,
      waitSeedLoop_step_waiting index id (h w (List.mem_cons_self w pre)),
      waitSeedLoop_waiting pre (fun w' hw' => h w' (List.mem_cons_of_mem w hw')) rest ws]
    simp [seedCalls]

/-- An answer with a seed ends the loop with `AssignSeed`. -/
theorem waitSeedLoop_seeded {w : WaitSeedResp} {seed : Seed} (h : w.seed = some seed)
    (rest : List (Except RpcError WaitSeedResp)) (ws : List (Except Failure Unit)) :
    waitSeedLoop index id (.ok w :: rest) ws = ⟨[.waitSeed id], .ok (.assignSeed index seed)⟩ := by
  simp [waitSeedLoop, h]

/-- An answer with no seed and no delay is a temporary failure. -/
theorem waitSeedLoop_invalid {w : WaitSeedResp} (hs : w.seed = none)
    (h : w.shouldWait = false ∨ w.delay = 0) (rest : List (Except RpcError WaitSeedResp))
    (ws : List (Except Failure Unit)) :
    waitSeedLoop index id (.ok w :: rest) ws =
      ⟨[.waitSeed id], .err ⟨.temporary, "invalid empty wait_seed response"⟩⟩ := by
  simp [waitSeedLoop, hs, h]

/-- A transport error of the seed wait is a temporary failure. -/
theorem waitSeedLoop_error (e : RpcError) (rest : List (Except RpcError WaitSeedResp))
    (ws : List (Except Failure Unit)) :
    waitSeedLoop index id (.error e :: rest) ws =
      ⟨[.waitSeed id], .err ⟨.temporary, "rpc error: " ++ e.debug⟩⟩ :=
  rfl

/-- An interrupted wait ends the loop with the interruption. -/
theorem waitSeedLoop_interrupted {w : WaitSeedResp} (hw : w.keepsWaiting = true)
    (rest : List (Except RpcError WaitSeedResp)) (f : Failure) (ws : List (Except Failure Unit)) :
    waitSeedLoop index id (.ok w :: rest) (.error f :: ws) =
      ⟨[.waitSeed id, .wait (Duration.fromSecs w.delay)], .err f⟩ :=
  waitSeedLoop_keepsWaiting index id hw rest _ ws

end seed

/-- The law of a seed wait (§4.3) over every script of answers and waits: after seedless answers
that ask to wait, each followed by an elapsed sleep of its own delay, the first other answer
decides: a seed is assigned, a seedless answer that does not ask to wait is a temporary failure, a
transport error is the call's failure; a sleep interrupted first ends it with the sleep's failure.
Source: spec §4.3
Kind: D
Fidelity: spec -/
structure SeedLaw (check : Env → Run Event) (answers : Env → List (Except RpcError WaitSeedResp))
    (request : Call) (index : Nat) : Prop where
  seeded : ∀ env (pre : List WaitSeedResp) w rest ws seed,
    (∀ w ∈ pre, w.keepsWaiting = true) → answers env = pre.map .ok ++ .ok w :: rest →
    env.waits = List.replicate pre.length (.ok ()) ++ ws → w.seed = some seed →
    check env = ⟨seedCalls request pre ++ [request], .ok (.assignSeed index seed)⟩
  invalid : ∀ env (pre : List WaitSeedResp) w rest ws,
    (∀ w ∈ pre, w.keepsWaiting = true) → answers env = pre.map .ok ++ .ok w :: rest →
    env.waits = List.replicate pre.length (.ok ()) ++ ws → w.seed = none →
    w.shouldWait = false ∨ w.delay = 0 →
    check env = ⟨seedCalls request pre ++ [request],
      .err ⟨.temporary, "invalid empty wait_seed response"⟩⟩
  rpcError : ∀ env (pre : List WaitSeedResp) e rest ws,
    (∀ w ∈ pre, w.keepsWaiting = true) → answers env = pre.map .ok ++ .error e :: rest →
    env.waits = List.replicate pre.length (.ok ()) ++ ws →
    check env = ⟨seedCalls request pre ++ [request], .err ⟨.temporary, "rpc error: " ++ e.debug⟩⟩
  interrupted : ∀ env (pre : List WaitSeedResp) w rest f ws,
    (∀ w ∈ pre, w.keepsWaiting = true) → w.keepsWaiting = true →
    answers env = pre.map .ok ++ .ok w :: rest →
    env.waits = List.replicate pre.length (.ok ()) ++ .error f :: ws →
    check env = ⟨seedCalls request (pre ++ [w]), .err f⟩

/-- A check that is the seed loop has the law. -/
theorem SeedLaw.of_waitSeedLoop {check : Env → Run Event}
    {answers : Env → List (Except RpcError WaitSeedResp)} {index : Nat} {id : SectorID}
    (h : ∀ env, check env = waitSeedLoop index id (answers env) env.waits) :
    SeedLaw check answers (.waitSeed id) index where
  seeded env _ _ rest ws _ hpre ha hw hs := by
    rw [h, ha, hw, waitSeedLoop_waiting index id _ hpre, waitSeedLoop_seeded index id hs]
  invalid env _ _ rest ws hpre ha hw hs hi := by
    rw [h, ha, hw, waitSeedLoop_waiting index id _ hpre, waitSeedLoop_invalid index id hs hi]
  rpcError env _ e rest ws hpre ha hw := by
    rw [h, ha, hw, waitSeedLoop_waiting index id _ hpre, waitSeedLoop_error]
  interrupted env _ _ rest f ws hpre hw' ha hw := by
    rw [h, ha, hw, waitSeedLoop_waiting index id _ hpre, waitSeedLoop_interrupted index id hw']
    simp [seedCalls]

/-- **The on-chain checks and the seed wait meet the spec's laws** (§4.3) for every sector with a
base, over every script of answers and waits: `check_pre_commit_state` always, `check_proof_state`
with proof checks on, and `wait_seed`.
Source: `BatchSealer::check_pre_commit_state`, `BatchSealer::check_proof_state`,
`BatchSealer::wait_seed`
Kind: L -/
theorem onChain_checks_law {job : Sectors} {index : Nat} {sector : Sector} {base : Base}
    (hs : job.sectors[index]? = some sector) (hb : sector.base = some base) :
    PollLaw (checkPreCommitState · job index) (fun _ => true)
        (·.rpc.pollPreCommitState base.allocated.id) (preCommitPoll base.allocated.id)
        (.checkPC index) (.reSubmitPC index) ∧
      PollLaw (checkProofState · job index) (fun env => !env.config.ignoreProofCheck)
        (·.rpc.pollProofState base.allocated.id) (proofPoll base.allocated.id)
        (.finish index) (.reSubmitProof index) ∧
      SeedLaw (waitSeed · job index) (·.rpc.waitSeed base.allocated.id)
        (.waitSeed base.allocated.id) index :=
  ⟨.of_pollLoop (by simp) fun env _ => checkPreCommitState_eq hs hb env,
    .of_pollLoop (by simp) fun _ he => checkProofState_eq hs hb (by simpa using he),
    .of_waitSeedLoop (waitSeed_eq hs hb)⟩

/-- The three loops' laws at the allocated sector 0 of a batch of one. -/
theorem onChain_checks_law_allocated :
    (⟨[{ base := some (Base.ofAllocated ⟨⟨1000, 0⟩, ⟨0⟩⟩) }], 1, .allocated⟩ : Sectors).sectors[0]? =
        some { base := some (Base.ofAllocated ⟨⟨1000, 0⟩, ⟨0⟩⟩) } ∧
      ({ base := some (Base.ofAllocated ⟨⟨1000, 0⟩, ⟨0⟩⟩) } : Sector).base =
        some (Base.ofAllocated ⟨⟨1000, 0⟩, ⟨0⟩⟩) ∧
      (PollLaw (checkPreCommitState · ⟨[{ base := some (Base.ofAllocated ⟨⟨1000, 0⟩, ⟨0⟩⟩) }], 1,
          .allocated⟩ 0) (fun _ => true) (·.rpc.pollPreCommitState ⟨1000, 0⟩)
          (preCommitPoll ⟨1000, 0⟩) (.checkPC 0) (.reSubmitPC 0) ∧
        PollLaw (checkProofState · ⟨[{ base := some (Base.ofAllocated ⟨⟨1000, 0⟩, ⟨0⟩⟩) }], 1,
          .allocated⟩ 0) (fun env => !env.config.ignoreProofCheck)
          (·.rpc.pollProofState ⟨1000, 0⟩) (proofPoll ⟨1000, 0⟩) (.finish 0) (.reSubmitProof 0) ∧
        SeedLaw (waitSeed · ⟨[{ base := some (Base.ofAllocated ⟨⟨1000, 0⟩, ⟨0⟩⟩) }], 1,
          .allocated⟩ 0) (·.rpc.waitSeed ⟨1000, 0⟩) (.waitSeed ⟨1000, 0⟩) 0) :=
  ⟨rfl, rfl, @onChain_checks_law _ 0 _ (Base.ofAllocated ⟨⟨1000, 0⟩, ⟨0⟩⟩) rfl rfl⟩

end Damocles.Batch
