import Damocles.Batch.Types

/-!
# What an event writes into the batch record

`Event::apply_changes` copies an event's payload into the sectors; `Event::apply` is the commit
step around it: it refuses a step whose target state is the current one, and otherwise applies the
changes through the record's mutable-access path.

* `Event.applyChanges` has one arm per event kind that carries data. The `get_mut(index)` arms are
  one definition, `Sectors.modifySector`; the two `zip` loops are `zipModify`.
* **The frame law** (`applyChanges_frame`): the state, the batch size and the number and order of
  the sectors are kept, and sector `j` becomes `e.sectorWrite j` of itself, where `sectorWrite` says
  in the spec's words which single field an event writes. An event names sector `i` out of range:
  nothing changes. From it, **idempotence** (`applyChanges_idem`): replaying an event is harmless.
* `Event.apply` refuses a step whose target is the recorded state; otherwise it writes the changes
  and marks the record dirty, and leaves the state as it was: the source's `update_state` line is
  commented out (`apply_idle_keeps_empty`). The driver's commit, `Event.commit`, records the
  planned state as §9 says the commit does.
-/

namespace Damocles.Batch

/-! ## Per-sector writes -/

/-- Apply `f` to the sector at `index`, if there is one.
Source: the `s.sectors.get_mut(index)` arms of `Event::apply_changes`
Kind: D
Fidelity: exact -/
def Sectors.modifySector (s : Sectors) (index : Nat) (f : Sector → Sector) : Sectors :=
  { s with sectors := s.sectors.modify f index }

/-- Pair the `j`-th value with the `j`-th sector for every `j` below both lengths, and write it.
Source: the `zip` loops of the `Allocate` and `C1` arms of `Event::apply_changes`
Kind: D
Fidelity: exact -/
def zipModify {α : Type} (f : α → Sector → Sector) : List α → List Sector → List Sector
  | a :: as, sec :: secs => f a sec :: zipModify f as secs
  | _, secs => secs

/-- The payload of an event, written into the sectors.
Source: `Event::apply_changes`
Kind: D
Fidelity: exact -/
def Event.applyChanges (e : Event) (s : Sectors) : Sectors :=
  match e with
  | .allocate sectors =>
      { s with
        sectors := zipModify (fun a sec => { sec with base := some (.ofAllocated a) }) sectors
          s.sectors }
  | .acquireDeals index deals => s.modifySector index fun sec => { sec with deals := deals }
  | .buildTreeD _ => s
  | .assignTicket ticket =>
      { s with sectors := s.sectors.map fun sec => { sec with phases.ticket := some ticket } }
  | .persist inst index =>
      s.modifySector index fun sec => { sec with phases.persistInstance := some inst }
  | .assignSeed index seed => s.modifySector index fun sec => { sec with phases.seed := some seed }
  | .c1 out =>
      { s with
        sectors := zipModify (fun o sec => { sec with phases.c1out := some o }) out s.sectors }
  | .c2 index out => s.modifySector index fun sec => { sec with phases.c2out := some out }
  | .submitPC index => s.modifySector index fun sec => { sec with phases.pc2ReSubmit := false }
  | .reSubmitPC index => s.modifySector index fun sec => { sec with phases.pc2ReSubmit := true }
  | .submitProof index => s.modifySector index fun sec => { sec with phases.c2ReSubmit := false }
  | .reSubmitProof index => s.modifySector index fun sec => { sec with phases.c2ReSubmit := true }
  | _ => s

/-- Whether an event is an allocation.
Source: none: infrastructure
Kind: D
Fidelity: n/a -/
def Event.isAllocate : Event → Bool
  | .allocate _ => true
  | _ => false

/-- Whether an event assigns the ticket.
Source: none: infrastructure
Kind: D
Fidelity: n/a -/
def Event.isAssignTicket : Event → Bool
  | .assignTicket _ => true
  | _ => false

/-! ## The frame law -/

/-- What an event writes into sector `j`, in the spec's words: the one field the event names, on
the sector it names; the `j`-th allocated sector's base or `j`-th commit output; the ticket on
every sector; nothing for every other event.
Source: spec §3 (`phases.*`), the arms of `Event::apply_changes`
Kind: D
Fidelity: spec -/
def Event.sectorWrite (e : Event) (j : Nat) (sec : Sector) : Sector :=
  match e with
  | .allocate sectors => match sectors[j]? with
    | some a => { sec with base := some (.ofAllocated a) }
    | none => sec
  | .acquireDeals i deals => if i = j then { sec with deals := deals } else sec
  | .assignTicket t => { sec with phases := { sec.phases with ticket := some t } }
  | .persist inst i =>
    if i = j then { sec with phases := { sec.phases with persistInstance := some inst } } else sec
  | .assignSeed i seed =>
    if i = j then { sec with phases := { sec.phases with seed := some seed } } else sec
  | .c1 out => match out[j]? with
    | some o => { sec with phases := { sec.phases with c1out := some o } }
    | none => sec
  | .c2 i out => if i = j then { sec with phases := { sec.phases with c2out := some out } } else sec
  | .submitPC i =>
    if i = j then { sec with phases := { sec.phases with pc2ReSubmit := false } } else sec
  | .reSubmitPC i =>
    if i = j then { sec with phases := { sec.phases with pc2ReSubmit := true } } else sec
  | .submitProof i =>
    if i = j then { sec with phases := { sec.phases with c2ReSubmit := false } } else sec
  | .reSubmitProof i =>
    if i = j then { sec with phases := { sec.phases with c2ReSubmit := true } } else sec
  | .setState _ | .idle | .addPiece _ _ | .buildTreeD _ | .pc1 _ _ | .pc2 _ | .checkPC _
  | .submitPersistance _ | .finish _ => sec

/-- Sector `j` after a `zip` write: the `j`-th value written into it, if there is one. -/
theorem getElem?_zipModify {α : Type} (f : α → Sector → Sector) :
    ∀ (as : List α) (secs : List Sector) (j : Nat),
      (zipModify f as secs)[j]? = secs[j]?.map fun sec => (as[j]?.map (f · sec)).getD sec
  | a :: as, sec :: secs, 0 => by simp [zipModify]
  | a :: as, sec :: secs, j + 1 => by simp [zipModify, getElem?_zipModify f as secs j]
  | [], secs, j => by simp [zipModify]
  | _ :: _, [], j => by simp [zipModify]

/-- Sector `j` after a write at `index`: rewritten exactly when `j = index`. -/
theorem getElem?_modifySector (s : Sectors) (index : Nat) (f : Sector → Sector) (j : Nat) :
    (s.modifySector index f).sectors[j]? =
      s.sectors[j]?.map fun sec => if index = j then f sec else sec := by
  simp only [Sectors.modifySector, List.getElem?_modify, Option.map_eq_map]

/-- A `zip` write keeps the number of sectors. -/
@[simp] theorem length_zipModify {α : Type} (f : α → Sector → Sector) :
    ∀ (as : List α) (secs : List Sector), (zipModify f as secs).length = secs.length
  | a :: as, sec :: secs => by simp [zipModify, length_zipModify f as secs]
  | [], _ => rfl
  | _ :: _, [] => rfl

/-- `apply_changes` keeps the number of sectors. -/
@[simp] theorem length_applyChanges (e : Event) (s : Sectors) :
    (e.applyChanges s).sectors.length = s.sectors.length := by
  cases e <;> simp [Event.applyChanges, Sectors.modifySector]

/-- **The frame law of `apply_changes`**: the state, the batch size and the number of sectors are
kept, and the sector at each position is rewritten by `sectorWrite` alone.
Source: `Event::apply_changes`
Kind: L -/
theorem applyChanges_frame (e : Event) (s : Sectors) :
    (e.applyChanges s).state = s.state ∧ (e.applyChanges s).batchSize = s.batchSize ∧
      (e.applyChanges s).sectors.length = s.sectors.length ∧
      ∀ j sec, s.sectors[j]? = some sec → (e.applyChanges s).sectors[j]? = some (e.sectorWrite j sec) := by
  refine ⟨by cases e <;> rfl, by cases e <;> rfl, length_applyChanges e s, fun j sec h => ?_⟩
  cases e <;> simp [Event.applyChanges, Event.sectorWrite, getElem?_modifySector,
    getElem?_zipModify, h]
  all_goals split <;> simp_all [List.getElem?_eq_none]

/-- `apply_changes` keeps the state. -/
@[simp] theorem applyChanges_state (e : Event) (s : Sectors) :
    (e.applyChanges s).state = s.state :=
  (applyChanges_frame e s).1

/-- `apply_changes` keeps the batch size. -/
@[simp] theorem applyChanges_batchSize (e : Event) (s : Sectors) :
    (e.applyChanges s).batchSize = s.batchSize :=
  (applyChanges_frame e s).2.1

/-- Sector `j` after `apply_changes` is `sectorWrite j` of sector `j`, the frame law as an equation. -/
theorem getElem?_applyChanges (e : Event) (s : Sectors) (j : Nat) :
    (e.applyChanges s).sectors[j]? = s.sectors[j]?.map (e.sectorWrite j) := by
  cases h : s.sectors[j]? with
  | none => simpa using h
  | some sec => exact (applyChanges_frame e s).2.2.2 j sec h

/-- Only `Allocate` writes a base.
Source: `Event::apply_changes`
Kind: L -/
theorem sectorWrite_base {e : Event} (h : e.isAllocate = false) (j : Nat) (sec : Sector) :
    (e.sectorWrite j sec).base = sec.base := by
  cases e
  case allocate => simp [Event.isAllocate] at h
  all_goals simp only [Event.sectorWrite]; try (split <;> rfl)

/-- Only `AssignTicket` writes a ticket.
Source: `Event::apply_changes`
Kind: L -/
theorem sectorWrite_ticket {e : Event} (h : e.isAssignTicket = false) (j : Nat) (sec : Sector) :
    (e.sectorWrite j sec).phases.ticket = sec.phases.ticket := by
  cases e
  case assignTicket => simp [Event.isAssignTicket] at h
  all_goals simp only [Event.sectorWrite]; try (split <;> rfl)

/-- `AssignTicket` writes its ticket on every sector. -/
@[simp] theorem sectorWrite_assignTicket (t : Ticket) (j : Nat) (sec : Sector) :
    ((Event.assignTicket t).sectorWrite j sec).phases.ticket = some t := rfl

/-- No event writes a second pre-commit output: the `PC2` arm of `apply_changes` is commented out.
Source: `Event::apply_changes`
Kind: L -/
@[simp] theorem sectorWrite_pc2out (e : Event) (j : Nat) (sec : Sector) :
    (e.sectorWrite j sec).phases.pc2out = sec.phases.pc2out := by
  cases e <;> simp only [Event.sectorWrite] <;> try (split <;> rfl)

/-! ## The commit step -/

/-- Modelled from the spec: `metadb`'s `Saved` and `MaybeDirty` are not under `src/`. §3 and §9
describe the record as the document and a dirty flag, set by the mutable-access path and cleared by
a commit that writes the document back.
Source: `metadb::Saved`, `metadb::MaybeDirty`
Kind: D
Fidelity: spec -/
structure Saved where
  inner : Sectors
  dirty : Bool
deriving DecidableEq, Repr

/-- The mutable-access path: rewrite the document and mark it dirty.
Source: `Saved::inner_mut`; spec §9
Kind: D
Fidelity: spec -/
def Saved.innerMut (job : Saved) (f : Sectors → Sectors) : Saved := ⟨f job.inner, true⟩

/-- The state an event commits to: its payload for `SetState`, the planned state otherwise.
Source: `Event::apply`, its first line
Kind: D
Fidelity: exact -/
def Event.target (e : Event) (state : State) : State :=
  match e with
  | .setState s => s
  | _ => state

/-- `Event::apply`: the result, and the record as the method leaves it.
Source: `Event::apply`
Kind: D
Fidelity: exact -/
def Event.apply (e : Event) (state : State) (job : Saved) : Except String Unit × Saved :=
  if e.target state = job.inner.state then
    (.error "state unchanged, may enter an infinite loop", job)
  else (.ok (), job.innerMut e.applyChanges)

/-- `Event::apply` at an `Idle` event planned to `Allocated` on a new batch: it succeeds, and the
record's state is still `Empty`.
Source: `Event::apply`
Kind: T -/
theorem apply_idle_keeps_empty :
    Event.apply .idle .allocated ⟨Sectors.new 1, false⟩ = (.ok (), ⟨Sectors.new 1, true⟩) := rfl

/-- Modelled from the spec: the driver loop is not under `src/` (§2, §5). After `plan` it
commits the step: the event's changes and the planned state, which is what `Event::apply` does
with its `update_state` line in place.
Source: spec §2 (driver loop), `Event::apply`
Kind: D
Fidelity: spec -/
def Event.commit (e : Event) (next : State) (s : Sectors) : Sectors :=
  { e.applyChanges s with state := next }

/-- A commit records the planned state. -/
@[simp] theorem commit_state (e : Event) (next : State) (s : Sectors) :
    (e.commit next s).state = next := rfl

/-- A commit keeps the batch size. -/
@[simp] theorem commit_batchSize (e : Event) (next : State) (s : Sectors) :
    (e.commit next s).batchSize = s.batchSize := by simp [Event.commit]

/-- A commit keeps the number of sectors. -/
@[simp] theorem length_commit (e : Event) (next : State) (s : Sectors) :
    (e.commit next s).sectors.length = s.sectors.length := by simp [Event.commit]

/-- Sector `j` after a commit is `sectorWrite j` of sector `j`. -/
theorem getElem?_commit (e : Event) (next : State) (s : Sectors) (j : Nat) :
    (e.commit next s).sectors[j]? = s.sectors[j]?.map (e.sectorWrite j) :=
  getElem?_applyChanges e s j

/-- A property of sectors that every write of the event keeps holds of every sector after the
commit. -/
theorem forall_mem_commit {P : Sector → Prop} {e : Event} {next : State} {s : Sectors}
    (hP : ∀ j sec, P sec → P (e.sectorWrite j sec)) (hs : ∀ sec ∈ s.sectors, P sec) :
    ∀ sec ∈ (e.commit next s).sectors, P sec := by
  intro sec' h
  obtain ⟨j, hj⟩ := List.mem_iff_getElem?.mp h
  rw [getElem?_commit] at hj
  obtain ⟨sec, hsec, rfl⟩ := Option.map_eq_some'.mp hj
  exact hP j sec (hs sec (List.getElem?_mem hsec))

/-- A batch at `Empty` with no base and no ticket on any sector.
Source: spec §3 ("absent before allocation")
Kind: D
Fidelity: spec -/
def Sectors.Fresh (s : Sectors) : Prop :=
  s.state = .empty ∧ ∀ sec ∈ s.sectors, sec.base = none ∧ sec.phases.ticket = none

/-- A new batch is fresh. -/
theorem Sectors.new_fresh (n : Nat) : (Sectors.new n).Fresh :=
  ⟨rfl, fun sec h => by simp [Sectors.new, List.eq_of_mem_replicate h]⟩

end Damocles.Batch
