import P11Scope.Edge.Accounting
import P11Scope.Edge.Actions

/-!
# Reducers sharing one pool

Any number of admitted reducers lease from one pool and run their resourced
operations in any order.  Between operations the pool is charged with exactly
the leases they hold, and no operation runs past what was reserved for it.
-/

variable {call : SemanticCall} {prepared : World} {run : World → World × Nat}

namespace P11Scope.Edge

open Std Lib Lib.TreeMap Kinds ExtTreeMap

/-- The books of a reducer between two operations. -/
structure Idle (other : Nat) (w : World) : Prop where
  books : Accounted other false w
  unreserved : w.resourceTransition = none
  unheld : w.held = 0

/-- No mutation reserves anything. -/
theorem Step.unreserved {w next : World} {cost : Nat} (taken : Step w cost next)
    (unreserved : w.resourceTransition = none) : next.resourceTransition = none := by
  cases taken with
  | quiet same => exact same.resourceTransition.trans unreserved
  | finish _ ended => cases ended <;> exact unreserved
  | startFresh | growRow | bindOpen | queue => exact congrArg (Option.map _) unreserved
  | _ => exact unreserved

section

variable {other : Nat} {w : World} (idle : Idle other w)
include idle

theorem Idle.congr {after : World} (same : SameLeases w after)
    (charge : ownerCharge after.toEdgeSemantics = ownerCharge w.toEdgeSemantics) :
    Idle other after where
  books := idle.books.congr same charge
  unreserved := same.resourceTransition.trans idle.unreserved
  unheld := same.held.trans idle.unheld

theorem Idle.available_eq : available w = 0 := by
  unfold available
  rw [idle.unreserved]
  rfl

/-- A free run of mutations leaves an idle reducer idle. -/
theorem Idle.steps {after : World} (run : Within Step w 0 after) : Idle other after where
  books := (accounted_of_steps run (Nat.zero_le _) idle.books).1
  unreserved := run.invariant (fun w => w.resourceTransition = none)
    (fun taken before => taken.unreserved before) idle.unreserved
  unheld := unheld_of_within (callRun run) idle.unheld

theorem Idle.invalidate : Idle other w.invalidate := by
  have quiet : Idle other { w with sink := none } := idle.congr (.of_eq rfl) rfl
  exact (quiet.steps (World.invalidateWithEffects_within _)).congr (.of_eq rfl) rfl

/-! ## One resourced call -/

/-- A granted reservation is charged and installed. -/
theorem Idle.installed {pool : SharedPool} {reservation : Nat}
    (grant : Granted { w.pool with scratchBorrowed := true } pool reservation) :
    Accounted other true ({ w with pool := pool }.installTransition reservation) := by
  obtain ⟨charge, limit, borrowed, fits⟩ := grant
  have charged := idle.books.charged
  have unreserved := idle.available_eq
  dsimp only at charge limit fits
  refine ⟨?_, idle.books.owner, idle.books.pending, idle.books.detached, ?_, ?_, borrowed⟩
  · change (w.panicked || w.resourceTransition.isSome) = false
    rw [idle.books.sound, idle.unreserved]
    rfl
  · change pool.charged = _ + ownerCharge w.toEdgeSemantics + asyncLeases w.toEdgeSemantics +
      w.held + reservation + other
    omega
  · change pool.charged ≤ pool.limit
    omega

/-- A prepared reservation is the predicted growth, charged and installed. -/
theorem Idle.prepare_ok {reservation : Nat}
    (granted : w.prepareResourceTransition call = (prepared, .ok reservation)) :
    reservation = w.preflightGrowth call ∧
      prepared.toEdgeSemantics = w.toEdgeSemantics ∧ prepared.held = 0 ∧
      Accounted other true (prepared.installTransition reservation) := by
  have edge := w.prepareResourceTransition_edge call
  rw [granted] at edge
  unfold World.prepareResourceTransition at granted
  rw [if_neg (by simp [idle.books.owner])] at granted
  unfold SharedPool.scratch at granted
  rw [if_neg (by simp [idle.books.scratch])] at granted
  dsimp only at granted
  split at granted
  · cases granted
  rename_i pool lease acquired
  cases granted
  obtain ⟨rfl, grant⟩ := acquire_ok acquired
  exact ⟨rfl, edge, idle.unheld, idle.installed grant⟩

/-- A refused preparation leaves the books as they were. -/
theorem Idle.prepare_error {refusal : SemanticResourceRefusal}
    (refused : w.prepareResourceTransition call = (prepared, .error refusal)) :
    Idle other prepared := by
  unfold World.prepareResourceTransition at refused
  rw [if_neg (by simp [idle.books.owner])] at refused
  unfold SharedPool.scratch at refused
  rw [if_neg (by simp [idle.books.scratch])] at refused
  dsimp only at refused
  split at refused
  case h_1 pool _ acquired =>
    cases refused
    have refusal := acquire_error acquired
    refine ⟨⟨idle.books.sound, idle.books.owner, idle.books.pending, idle.books.detached,
      refusal.charged.trans idle.books.charged, ?_, rfl⟩, idle.unreserved, idle.unheld⟩
    change pool.charged ≤ pool.limit
    rw [refusal.charged, refusal.limit]
    exact idle.books.fits
  case h_2 => cases refused

omit idle in
/-- Dropping the reservation returns the scratch and what was not spent. -/
theorem dropTransition_idle (books : Accounted other true w) (unheld : w.held = 0) :
    Idle other w.dropTransition := by
  have charged := books.charged
  have sound : w.dropTransition.panicked = w.panicked := dropLeases_panicked (by
    change available w ≤ _
    omega)
  refine ⟨⟨sound.trans books.sound, books.owner, books.pending, books.detached, ?_, ?_, rfl⟩,
    rfl, unheld⟩
  · change w.pool.charged - available w = _ + ownerCharge w.toEdgeSemantics +
      asyncLeases w.toEdgeSemantics + w.held + 0 + other
    omega
  · exact (Nat.sub_le _ _).trans books.fits

end

/-- A call that spends no more of any reservation than its predicted growth. -/
def Covered (call : SemanticCall) (run : World → World × Nat) : Prop :=
  ∀ {other : Nat} {borrowed : Bool} {w : World}, Accounted other borrowed w → w.held = 0 →
    w.preflightGrowth call ≤ available w →
      Accounted other borrowed (run w).1 ∧ (run w).1.held = 0 ∧
        available w ≤ available (run w).1 + w.preflightGrowth call

theorem observeInner_covered (call : SemanticCall) (origin : EffectOrigin)
    (keys : List KeyReceipt) : Covered call fun w => w.observeInner call origin keys := by
  intro other borrowed w books unheld funded
  have run := w.observeInner_within call origin keys
  obtain ⟨after, spent⟩ := run.funded (Accounted other borrowed)
    (fun taken enough before => taken.accounted enough before) funded books
  exact ⟨after, unheld_of_within run unheld, spent⟩

theorem observe_covered (call : SemanticCall) : Covered call fun w => w.observe call := by
  intro other borrowed w books unheld funded
  have silent : Accounted other borrowed { w with sink := none } := books.congr (.of_eq rfl) rfl
  obtain ⟨after, released, spent⟩ :=
    observeInner_covered call .placeholder [] silent unheld funded
  exact ⟨after.congr (.of_eq rfl) rfl, released, spent⟩

section

variable {other : Nat} {w : World} (idle : Idle other w)
include idle

theorem Idle.run_prepared {reservation : Nat}
    (granted : w.prepareResourceTransition call = (prepared, .ok reservation))
    (covered : Covered call run) :
    Idle other (run (prepared.installTransition reservation)).1.dropTransition := by
  obtain ⟨rfl, edge, unheld, books⟩ := idle.prepare_ok granted
  have same : (prepared.installTransition (w.preflightGrowth call)).preflightGrowth call =
      w.preflightGrowth call := by
    rw [← edge]
    rfl
  obtain ⟨after, released, _⟩ := covered books unheld (Nat.le_of_eq same)
  exact dropTransition_idle after released

theorem Idle.observeResourced (covered : Covered call run) :
    Idle other (w.observeResourced call run).1 := by
  unfold World.observeResourced
  split
  case h_1 prepared refusal refused => exact (idle.prepare_error refused).invalidate
  case h_2 prepared reservation granted => exact idle.run_prepared granted covered

theorem Idle.observeJointWithResources (call : SemanticCall) (origin : EffectOrigin)
    (keys : List KeyReceipt) :
    Idle other (w.observeJointWithResources call origin keys).1 := by
  unfold World.observeJointWithResources
  rw [if_neg (by simp [idle.books.owner])]
  split
  case h_1 prepared refusal refused => exact idle.prepare_error refused
  case h_2 prepared reservation granted =>
    exact idle.run_prepared granted (observeInner_covered call origin keys)

/-- The operations an admitted reducer is driven by. -/
def Action.Resourced : Action → Prop
  | .observe _ | .observeWithEffects _ _ | .observeJoint _ _ _ => False
  | _ => True

/-- Every resourced operation leaves an idle reducer idle. -/
theorem Idle.act {action : Action} (resourced : action.Resourced) :
    Idle other (w.act action) := by
  cases action with
  | observe | observeWithEffects | observeJoint => cases resourced
  | observeWithResources call => exact idle.observeResourced (observe_covered call)
  | observeWithResourcesAndEffects call origin =>
    exact idle.observeResourced (observeInner_covered call origin [])
  | observeJointWithResources call origin keys =>
    exact idle.observeJointWithResources call origin keys
  | invalidate => exact idle.invalidate
  | invalidateWithEffects => exact idle.steps w.invalidateWithEffects_within
  | markDoubleLoad => exact idle.invalidate.congr (.of_eq rfl) rfl
  | clearDoubleLoad => exact idle.congr (.of_eq rfl) rfl

omit idle in
theorem asyncLeases_invalidate (w : World) : asyncLeases w.invalidate.toEdgeSemantics = 0 := by
  have nothing : ∀ {K V : Type} [Ord K] [TransOrd K] [LawfulEqOrd K] (map : ExtTreeMap K V)
      (weight : K → V → Nat), sumBy weight (map.filter fun _ _ => false) = 0 := by
    simp [sumBy, toList_filter]
  change sumBy _ (ExtTreeMap.filter (fun _ _ => false) _) +
    sumBy _ (ExtTreeMap.filter (fun _ _ => false) _) = 0
  rw [nothing, nothing]

/-- Destruction refunds everything the reducer leased. -/
theorem Idle.drop :
    w.drop.panicked = false ∧ w.drop.pool.charged = semanticTransitionScratch + other ∧
      w.drop.pool.charged ≤ w.drop.pool.limit ∧ w.drop.pool.scratchBorrowed = false := by
  have gone := idle.invalidate
  have charged := gone.books.charged
  rw [asyncLeases_invalidate, gone.unheld, gone.available_eq] at charged
  have owned : w.invalidate.resourceOwner.getD 0 = ownerCharge w.invalidate.toEdgeSemantics := by
    rw [gone.books.owner]
    rfl
  have sound : w.drop.panicked = w.invalidate.panicked := dropLeases_panicked (by
    rw [owned]
    change _ ≤ w.invalidate.pool.charged
    omega)
  refine ⟨sound.trans gone.books.sound, ?_, ?_, gone.books.scratch⟩
  · change w.invalidate.pool.charged - w.invalidate.resourceOwner.getD 0 = _
    omega
  · exact (Nat.sub_le _ _).trans gone.books.fits

end

/-! ## Many reducers -/

/-- A pool, the reducers that hold leases of it, and whether an operation failed
an `expect` or `assert`. -/
structure System where
  pool : SharedPool
  reducers : ExtTreeMap Nat EdgeSemantics
  panicked : Bool

namespace System

/-- Admit a reducer under a free name, or count the refusal. -/
def create (system : System) (id : Nat) : System :=
  if system.reducers.contains id then system
  else
    match withResources system.pool with
    | (pool, .ok edge) =>
      { system with pool := pool, reducers := system.reducers.insert id edge }
    | (pool, .error _) => { system with pool := pool }

/-- Run one operation of a stored reducer. -/
def operate (system : System) (id : Nat) (sink : Option (List OperationEffect))
    (action : Action) : System :=
  match system.reducers[id]? with
  | none => system
  | some edge =>
    let w := (edge.load system.pool sink).act action
    { pool := w.pool
      reducers := system.reducers.insert id w.toEdgeSemantics
      panicked := system.panicked || w.panicked }

/-- Destroy a stored reducer. -/
def drop (system : System) (id : Nat) : System :=
  match system.reducers[id]? with
  | none => system
  | some edge =>
    let w := (edge.load system.pool none).drop
    { pool := w.pool
      reducers := system.reducers.erase id
      panicked := system.panicked || w.panicked }

/-- The systems reached by any interleaving of admissions, resourced operations
and destructions. -/
inductive Reachable : System → Prop where
  | initial {limit : Nat} (bounded : limit ≤ usizeMax)
      (scratch : semanticTransitionScratch ≤ limit) :
      Reachable { pool := .new limit bounded, reducers := ∅, panicked := false }
  | create {system : System} (before : Reachable system) (id : Nat) :
      Reachable (system.create id)
  | operate {system : System} (before : Reachable system) (id : Nat)
      (sink : Option (List OperationEffect)) {action : Action}
      (resourced : action.Resourced) : Reachable (system.operate id sink action)
  | drop {system : System} (before : Reachable system) (id : Nat) :
      Reachable (system.drop id)

end System

/-- All bytes one reducer leases: its owner lease, its reservation and the
leases of its stored records. -/
def leased (edge : EdgeSemantics) : Nat :=
  leaseBytes edge.resourceOwner + leaseBytes edge.resourceTransition + asyncLeases edge

/-- The leases of one reducer between operations. -/
structure Settled (edge : EdgeSemantics) : Prop where
  owner : edge.resourceOwner = some (ownerCharge edge)
  unreserved : edge.resourceTransition = none
  pending : ∀ {key : UInt64 × UInt32} {record : PendingCall},
    edge.pending[key]? = some record → record.resource = some (storedCharge record.call)
  detached : ∀ {key : UInt64 × UInt32 × UInt64} {record : AsyncId},
    edge.detached[key]? = some record → record.resource = some (storedCharge record.call)

/-- The pool is charged with the scratch and the leases of all reducers. -/
structure Balanced (system : System) : Prop where
  sound : system.panicked = false
  settled : ∀ {id : Nat} {edge : EdgeSemantics},
    system.reducers[id]? = some edge → Settled edge
  charged : system.pool.charged =
    semanticTransitionScratch + sumBy (fun _ edge => leased edge) system.reducers
  fits : system.pool.charged ≤ system.pool.limit
  scratch : system.pool.scratchBorrowed = false

theorem Settled.leased_eq {edge : EdgeSemantics} (settled : Settled edge) :
    leased edge = ownerCharge edge + asyncLeases edge := by
  unfold leased
  rw [settled.owner, settled.unreserved]
  rfl

theorem Idle.settled {other : Nat} {w : World} (idle : Idle other w) : Settled w.toEdgeSemantics :=
  ⟨idle.books.owner, idle.unreserved, idle.books.pending, idle.books.detached⟩

variable {system : System}

/-- A stored reducer is idle, with everyone else's leases as the other bytes. -/
theorem Balanced.idle (balanced : Balanced system) {id : Nat} {edge : EdgeSemantics}
    (stored : system.reducers[id]? = some edge) (sink : Option (List OperationEffect)) :
    Idle (sumBy (fun _ edge => leased edge) (system.reducers.erase id))
      (edge.load system.pool sink) := by
  have settled := balanced.settled stored
  have charged := balanced.charged
  rw [sumBy_erase_of_present _ stored] at charged
  have unreserved : available (edge.load system.pool sink) = 0 :=
    congrArg (·.getD 0) settled.unreserved
  refine ⟨⟨rfl, settled.owner, settled.pending, settled.detached, ?_, balanced.fits,
    balanced.scratch⟩, settled.unreserved, rfl⟩
  change system.pool.charged = _ + ownerCharge edge + asyncLeases edge + 0 + _ + _
  rw [charged, settled.leased_eq]
  omega

theorem Balanced.initial {limit : Nat} (bounded : limit ≤ usizeMax)
    (scratch : semanticTransitionScratch ≤ limit) :
    Balanced { pool := .new limit bounded, reducers := ∅, panicked := false } where
  sound := rfl
  settled := by
    intro id edge stored
    cases stored
  charged := by
    rw [sumBy_empty]
    rfl
  fits := scratch
  scratch := rfl

theorem leased_fresh : leased { resourceOwner := some reducerBaseCharge } = reducerBaseCharge := by
  unfold leased asyncLeases
  rfl

section

variable (balanced : Balanced system) (id : Nat)
include balanced id

theorem Balanced.create : Balanced (system.create id) := by
  unfold System.create
  split
  · exact balanced
  rename_i unnamed
  have absent := getElem?_eq_none (mt contains_iff_mem.mpr unnamed)
  split
  case h_1 pool edge admitted =>
    obtain ⟨rfl, grant⟩ := withResources_ok admitted
    have charged := balanced.charged
    have granted := grant.charged
    refine ⟨balanced.sound, ?_, ?_, ?_, grant.scratchBorrowed.trans balanced.scratch⟩
    · intro other edge stored
      rw [getElem?_insert] at stored
      split at stored
      · cases stored
        exact ⟨rfl, rfl, nofun, nofun⟩
      · exact balanced.settled stored
    · change pool.charged = _ + sumBy _ (system.reducers.insert id _)
      rw [sumBy_insert_of_absent _ absent, leased_fresh]
      omega
    · rw [granted, grant.limit]
      exact grant.fits
  case h_2 pool refusal refused =>
    unfold withResources at refused
    split at refused
    case h_1 acquired =>
      cases refused
      have refusal := acquire_error acquired
      exact ⟨balanced.sound, balanced.settled, refusal.charged.trans balanced.charged,
        by
          rw [refusal.charged, refusal.limit]
          exact balanced.fits,
        refusal.scratchBorrowed.trans balanced.scratch⟩
    case h_2 => cases refused

theorem Balanced.operate (sink : Option (List OperationEffect)) {action : Action}
    (resourced : action.Resourced) : Balanced (system.operate id sink action) := by
  unfold System.operate
  split
  · exact balanced
  rename_i edge stored
  have after := (balanced.idle stored sink).act resourced
  have charged := after.books.charged
  rw [after.unheld, after.available_eq] at charged
  refine ⟨?_, ?_, ?_, after.books.fits, after.books.scratch⟩
  · change (system.panicked || _) = false
    rw [balanced.sound, after.books.sound]
    rfl
  · intro other found stored
    rw [getElem?_insert] at stored
    split at stored
    · cases stored
      exact after.settled
    · exact balanced.settled stored
  · change _ = _ + sumBy _ (system.reducers.insert id _)
    rw [← insert_erase_self, sumBy_insert_of_absent _ getElem?_erase_self,
      after.settled.leased_eq, charged]
    omega

theorem Balanced.drop : Balanced (system.drop id) := by
  unfold System.drop
  split
  · exact balanced
  rename_i edge stored
  obtain ⟨sound, charged, fits, scratch⟩ := (balanced.idle stored none).drop
  refine ⟨?_, ?_, charged, fits, scratch⟩
  · change (system.panicked || _) = false
    rw [balanced.sound, sound]
    rfl
  · intro other found kept
    exact balanced.settled (getElem?_of_erase kept)

end

/-- Every reachable system is balanced. -/
theorem balanced_of_reachable (reachable : system.Reachable) : Balanced system := by
  induction reachable with
  | initial bounded scratch => exact .initial bounded scratch
  | create _ id ih => exact ih.create id
  | operate _ id sink resourced ih => exact ih.operate id sink resourced
  | drop _ id ih => exact ih.drop id

/-! ## Results for every reachable system -/

theorem semanticResourceLimit_le : semanticResourceLimit ≤ usizeMax := by decide

/-- A pool of the default limit without reducers. -/
def emptySystem : System :=
  { pool := .new _ semanticResourceLimit_le, reducers := ∅, panicked := false }

/-- One admitted reducer on which a signing operation was initialized. -/
def signingSystem : System :=
  (emptySystem.create 0).operate 0 none (.observeWithResources
    { function := "C_SignInit", session := 7, mechanism := 64
      capture := Capture.mechanismValue })

theorem signingSystem_reachable : signingSystem.Reachable := by
  have empty : emptySystem.Reachable := .initial _ (by decide)
  exact (empty.create 0).operate 0 none trivial

/-- On every reducer of a reachable system no resourced operation fails a lease
check, and a call splits off no more than its predicted growth, however large
the reservation it runs on. -/
theorem preflight_covers_growth {system : System} (reachable : system.Reachable) {id : Nat}
    {edge : EdgeSemantics} (stored : system.reducers[id]? = some edge)
    (sink : Option (List OperationEffect)) :
    (∀ action : Action, action.Resourced →
      ((edge.load system.pool sink).act action).panicked = false) ∧
    ∀ (call : SemanticCall) (origin : EffectOrigin) (keys : List KeyReceipt)
      (reservation : Nat) (borrowed pool : SharedPool),
      edge.preflightGrowth call ≤ reservation →
      system.pool.scratch = (borrowed, .ok ()) →
      borrowed.acquire reservation = (pool, .ok reservation) →
      let after := (((edge.load pool sink).installTransition reservation).observeInner
        call origin keys).1
      after.panicked = false ∧ reservation - available after ≤ edge.preflightGrowth call := by
  have balanced := balanced_of_reachable reachable
  have idle := balanced.idle stored sink
  refine ⟨fun action resourced => (idle.act resourced).books.sound, ?_⟩
  intro call origin keys reservation borrowed pool enough scratch granted
  obtain ⟨_, grant⟩ := acquire_ok granted
  unfold SharedPool.scratch at scratch
  rw [if_neg (by simp [balanced.scratch])] at scratch
  cases scratch
  obtain ⟨after, _, spent⟩ :=
    observeInner_covered call origin keys (idle.installed grant) rfl enough
  exact ⟨after.sound, Nat.sub_le_iff_le_add'.mpr spent⟩

theorem preflight_covers_growth_signingSystem :
    ∃ edge, signingSystem.reducers[0]? = some edge ∧ edge.active.size = 1 ∧
      ((edge.load signingSystem.pool none).act (.observeWithResources
        { function := "C_Sign", session := 7 })).panicked = false := by
  have present : (signingSystem.reducers[0]?.any fun edge => edge.active.size = 1) = true := by
    decide +kernel
  obtain ⟨edge, stored, live⟩ := (Option.any_eq_true _ _).mp present
  exact ⟨edge, stored, by simpa using live,
    (preflight_covers_growth signingSystem_reachable stored none).1 _ trivial⟩

/-- Between operations of any reachable system every lease has its exact size,
and the pool is charged with the scratch and the live leases. -/
theorem shared_pool_exact {system : System} (reachable : system.Reachable) :
    (∀ (id : Nat) (edge : EdgeSemantics), system.reducers[id]? = some edge →
      edge.resourceTransition = none ∧
      edge.resourceOwner = some (8192 + 512 * edge.openBindings.size +
        1024 * edge.active.size +
        sumBy (fun _ row => 2048 + 512 * row.ops.size +
          (row.functions.toList.map fun function => 512 + function.utf8ByteSize + 32).sum +
          256 * row.returns.size) edge.mechs) ∧
      (∀ (key : UInt64 × UInt32) (record : PendingCall), edge.pending[key]? = some record →
        record.resource = some
          (asyncCharge record.call (descriptorOrCountOnly record.call.function))) ∧
      ∀ (key : UInt64 × UInt32 × UInt64) (record : AsyncId),
        edge.detached[key]? = some record → record.resource = some
          (asyncCharge record.call (descriptorOrCountOnly record.call.function))) ∧
    system.pool.charged =
      semanticTransitionScratch + sumBy (fun _ edge => leased edge) system.reducers ∧
    system.pool.charged ≤ system.pool.limit ∧
    (system.reducers = ∅ → system.pool.charged = semanticTransitionScratch) := by
  have balanced := balanced_of_reachable reachable
  refine ⟨?_, balanced.charged, balanced.fits, ?_⟩
  · intro id edge stored
    have settled := balanced.settled stored
    exact ⟨settled.unreserved, settled.owner, fun _ _ found => settled.pending found,
      fun _ _ found => settled.detached found⟩
  · intro dropped
    rw [balanced.charged, dropped, sumBy_empty, Nat.add_zero]

theorem shared_pool_exact_signingSystem :
    (signingSystem.drop 0).reducers.size = 0 ∧
      (signingSystem.drop 0).pool.charged ≤ (signingSystem.drop 0).pool.limit :=
  ⟨by decide +kernel, (shared_pool_exact (signingSystem_reachable.drop 0)).2.2.1⟩

end P11Scope.Edge
