import P11Scope.Edge.Observation

/-!
# Exact resource accounting

While a reducer runs, its owner lease is the charge of what it holds, every
stored call holds the lease it was queued with, and the pool is charged with
the sum of all leases.  No lease operation can fail, as long as a call splits
no more than was reserved for it.
-/

namespace P11Scope.Edge

open Std Lib Lib.TreeMap Kinds

/-- Charge of everything a reducer holds outside its asynchronous records. -/
def ownerCharge (edge : EdgeSemantics) : Nat :=
  reducerBaseCharge + openBindingCharge * edge.openBindings.size +
    activeMachineCharge * edge.active.size + sumBy (fun _ row => rowCharge row) edge.mechs

/-- Bytes of the leases of all stored asynchronous records. -/
def asyncLeases (edge : EdgeSemantics) : Nat :=
  sumBy (fun _ record => leaseBytes record.resource) edge.pending +
    sumBy (fun _ record => leaseBytes record.resource) edge.detached

/-- Bytes left of the reservation. -/
def available (w : World) : Nat := w.resourceTransition.getD 0

/-- The books of a running reducer balance, with `other` bytes leased elsewhere. -/
structure Accounted (other : Nat) (borrowed : Bool) (w : World) : Prop where
  sound : w.panicked = false
  owner : w.resourceOwner = some (ownerCharge w.toEdgeSemantics)
  pending : ∀ {key : UInt64 × UInt32} {record : PendingCall},
    w.pending[key]? = some record → record.resource = some (storedCharge record.call)
  detached : ∀ {key : UInt64 × UInt32 × UInt64} {record : AsyncId},
    w.detached[key]? = some record → record.resource = some (storedCharge record.call)
  charged : w.pool.charged = semanticTransitionScratch + ownerCharge w.toEdgeSemantics +
    asyncLeases w.toEdgeSemantics + w.held + available w + other
  fits : w.pool.charged ≤ w.pool.limit
  scratch : w.pool.scratchBorrowed = borrowed

/-- Agreement on every lease, on the pool and on the stored records. -/
structure SameLeases (before after : World) : Prop where
  resourceTransition : after.resourceTransition = before.resourceTransition
  resourceOwner : after.resourceOwner = before.resourceOwner
  pool : after.pool = before.pool
  held : after.held = before.held
  panicked : after.panicked = before.panicked
  pending : after.pending = before.pending
  detached : after.detached = before.detached

theorem SameLeases.of_eq {before after : World}
    (same : (after.resourceTransition, after.resourceOwner, after.pool, after.held,
        after.panicked, after.pending, after.detached) =
      (before.resourceTransition, before.resourceOwner, before.pool, before.held,
        before.panicked, before.pending, before.detached)) : SameLeases before after := by
  simp only [Prod.mk.injEq] at same
  obtain ⟨transition, owner, pool, held, panicked, pending, detached⟩ := same
  exact ⟨transition, owner, pool, held, panicked, pending, detached⟩

section

variable {other : Nat} {borrowed : Bool} {w after : World}

/-- The books only read the leases, the records and the charge of the rest. -/
theorem Accounted.congr (books : Accounted other borrowed w) (same : SameLeases w after)
    (charge : ownerCharge after.toEdgeSemantics = ownerCharge w.toEdgeSemantics) :
    Accounted other borrowed after where
  sound := same.panicked.trans books.sound
  owner := by rw [same.resourceOwner, books.owner, charge]
  pending := same.pending ▸ books.pending
  detached := same.detached ▸ books.detached
  charged := by
    have before := books.charged
    unfold asyncLeases available at before ⊢
    rw [same.pool, before, charge, same.held, same.resourceTransition, same.pending, same.detached]
  fits := same.pool ▸ books.fits
  scratch := same.pool ▸ books.scratch

theorem Accounted.owner_le_limit (books : Accounted other borrowed w) :
    ownerCharge w.toEdgeSemantics + available w ≤ usizeMax := by
  have charged := books.charged
  have fits := books.fits
  have limit := w.pool.limit_le_usizeMax
  omega

/-! ## Lease operations that cannot fail -/

variable {bytes : Nat}

/-- Retaining funded bytes moves them from the reservation to the owner. -/
theorem retainResourceCharge_fields {owner : Nat} (owned : w.resourceOwner = some owner)
    (funded : bytes ≤ available w) (fits : owner + bytes ≤ usizeMax) :
    (w.retainResourceCharge bytes).resourceOwner = some (owner + bytes) ∧
      available (w.retainResourceCharge bytes) + bytes = available w ∧
      (w.retainResourceCharge bytes).panicked = w.panicked := by
  unfold available at funded
  cases reserved : w.resourceTransition with
  | none =>
    rw [reserved] at funded
    obtain rfl : bytes = 0 := Nat.le_zero.mp funded
    simp [World.retainResourceCharge, available, owned, reserved]
  | some reservation =>
    rw [reserved] at funded
    have enough : bytes ≤ reservation := funded
    refine ⟨by simp [World.retainResourceCharge, owned, reserved], ?_, ?_⟩
    · simpa [World.retainResourceCharge, available, reserved] using Nat.sub_add_cancel enough
    · simp [World.retainResourceCharge, owned, reserved, Nat.not_lt.mpr enough,
        Nat.not_lt.mpr fits]

/-- Releasing owned bytes returns them to the pool. -/
theorem releaseResourceCharge_fields {owner : Nat} (owned : w.resourceOwner = some (owner + bytes))
    (charged : bytes ≤ w.pool.charged) :
    (w.releaseResourceCharge bytes).resourceOwner = some owner ∧
      (w.releaseResourceCharge bytes).pool = w.pool.refund bytes ∧
      (w.releaseResourceCharge bytes).panicked = w.panicked := by
  simp [World.releaseResourceCharge, owned, Nat.not_lt.mpr charged]

theorem dropLeases_panicked (charged : bytes ≤ w.pool.charged) :
    (w.dropLeases bytes).panicked = w.panicked := by
  simp [World.dropLeases, Nat.not_lt.mpr charged]

/-! ## One movement of leases -/

/-- The books are kept, and at most `cost` of the reservation is spent. -/
def Spends (other : Nat) (borrowed : Bool) (w : World) (cost : Nat) (after : World) : Prop :=
  Accounted other borrowed after ∧ available w ≤ available after + cost

/-- Leases that only move, or are refunded to the pool, keep the books. -/
theorem Accounted.move (books : Accounted other borrowed w)
    (owner : after.resourceOwner = some (ownerCharge after.toEdgeSemantics))
    (pool : after.pool = w.pool.refund bytes)
    (panicked : bytes ≤ w.pool.charged → after.panicked = w.panicked)
    (pending : ∀ {key : UInt64 × UInt32} {record : PendingCall},
      after.pending[key]? = some record → record.resource = some (storedCharge record.call))
    (detached : ∀ {key : UInt64 × UInt32 × UInt64} {record : AsyncId},
      after.detached[key]? = some record → record.resource = some (storedCharge record.call))
    (moved : ownerCharge after.toEdgeSemantics + asyncLeases after.toEdgeSemantics + after.held +
        available after + bytes =
      ownerCharge w.toEdgeSemantics + asyncLeases w.toEdgeSemantics + w.held + available w) :
    Accounted other borrowed after := by
  have charged := books.charged
  have refunded : after.pool.charged = w.pool.charged - bytes := congrArg SharedPool.charged pool
  have limit : after.pool.limit = (w.pool.refund bytes).limit := congrArg SharedPool.limit pool
  refine ⟨(panicked (by omega)).trans books.sound, owner, pending, detached, by omega, ?_, ?_⟩
  · rw [refunded, limit]
    exact (Nat.sub_le _ _).trans books.fits
  · rw [pool]
    exact books.scratch

theorem unrefunded {pool : SharedPool} : pool = pool.refund 0 := rfl

theorem SameLeases.asyncLeases (same : SameLeases w after) :
    asyncLeases after.toEdgeSemantics = Edge.asyncLeases w.toEdgeSemantics := by
  unfold Edge.asyncLeases
  rw [same.pending, same.detached]

theorem SameLeases.available (same : SameLeases w after) : available after = Edge.available w :=
  congrArg (·.getD 0) same.resourceTransition

/-- Retaining what the held state grew by keeps the books. -/
theorem Accounted.retain (books : Accounted other borrowed w) (funded : bytes ≤ available w)
    (same : SameLeases (w.retainResourceCharge bytes) after)
    (grown : ownerCharge after.toEdgeSemantics = ownerCharge w.toEdgeSemantics + bytes) :
    Spends other borrowed w bytes after := by
  obtain ⟨owner, moved, sound⟩ := retainResourceCharge_fields books.owner funded
    (by have := books.owner_le_limit; omega)
  have left := same.available
  have async : asyncLeases after.toEdgeSemantics = asyncLeases w.toEdgeSemantics :=
    same.asyncLeases
  have held : after.held = w.held := same.held
  refine ⟨books.move (by rw [same.resourceOwner, owner, grown]) (same.pool.trans unrefunded)
    (fun _ => same.panicked.trans sound) (same.pending ▸ books.pending)
    (same.detached ▸ books.detached) ?_, ?_⟩
  · omega
  · omega

/-- Releasing what the held state shrank by keeps the books. -/
theorem Accounted.release (books : Accounted other borrowed w) (bytes : Nat)
    (same : SameLeases (w.releaseResourceCharge bytes) after)
    (shrunk : ownerCharge w.toEdgeSemantics = ownerCharge after.toEdgeSemantics + bytes) :
    Spends other borrowed w 0 after := by
  have charged := books.charged
  obtain ⟨owner, pool, sound⟩ := releaseResourceCharge_fields (w := w)
    (shrunk ▸ books.owner) (by omega)
  have left : available after = available w := same.available
  have async : asyncLeases after.toEdgeSemantics = asyncLeases w.toEdgeSemantics :=
    same.asyncLeases
  have held : after.held = w.held := same.held
  refine ⟨books.move (same.resourceOwner.trans owner) (same.pool.trans pool)
    (fun _ => same.panicked.trans sound) (same.pending ▸ books.pending)
    (same.detached ▸ books.detached) ?_, ?_⟩
  · omega
  · omega

/-! ## One mutation -/

section

variable (books : Accounted other borrowed w)
include books

theorem finish_accounted {key : UInt64 × UInt16} {machine : OpMachine}
    (live : w.active[key]? = some machine) (category : String) (ended : EndState)
    (origin : EffectOrigin) :
    Spends other borrowed w 0 (w.finishMachine key machine category ended origin) := by
  have size := size_erase_of_present live
  refine books.release activeMachineCharge (by cases ended <;> exact .of_eq rfl) ?_
  have charge : ownerCharge (w.finishMachine key machine category ended origin).toEdgeSemantics =
      ownerCharge { w.toEdgeSemantics with active := w.active.erase key } := by
    cases ended <;> rfl
  rw [charge]
  unfold ownerCharge activeMachineCharge
  dsimp only
  omega

theorem growRow_accounted {mechanism : UInt64} {row : EdgeMechStat}
    (grown : rowCharge row = rowCharge? w.mechs[mechanism]? + bytes) (funded : bytes ≤ available w)
    : Spends other borrowed w bytes (w.growRow mechanism row bytes) := by
  refine books.retain funded (.of_eq rfl) ?_
  change ownerCharge { w.toEdgeSemantics with mechs := w.mechs.insert mechanism row } = _
  have rows := sumBy_insert (fun _ row => rowCharge row) w.mechs mechanism row
  have old : (w.mechs[mechanism]?).elim 0 (fun row => rowCharge row) =
      rowCharge? w.mechs[mechanism]? := by
    cases w.mechs[mechanism]? <;> rfl
  unfold ownerCharge
  dsimp only
  omega

theorem bindOpen_accounted {session : UInt64} (free : w.openBindings[session]? = none)
    (funded : openBindingCharge ≤ available w) (slotId : UInt64) :
    Spends other borrowed w openBindingCharge (w.bindOpen session slotId) := by
  refine books.retain funded (.of_eq rfl) ?_
  change ownerCharge { w.toEdgeSemantics with
    openBindings := w.openBindings.insert session slotId } = _
  unfold ownerCharge openBindingCharge
  dsimp only
  rw [size_insert_of_absent free]
  omega

theorem unbindOpen_accounted {session slotId : UInt64}
    (bound : w.openBindings[session]? = some slotId) :
    Spends other borrowed w 0 (w.unbindOpen session) := by
  refine books.release openBindingCharge (.of_eq rfl) ?_
  change _ = ownerCharge { w.toEdgeSemantics with
    openBindings := w.openBindings.erase session } + openBindingCharge
  have size := size_erase_of_present bound
  unfold ownerCharge openBindingCharge
  dsimp only
  omega

theorem clearOpen_accounted : Spends other borrowed w 0 w.clearOpen := by
  refine books.release (w.openBindings.size * openBindingCharge) (.of_eq rfl) ?_
  change _ = ownerCharge { w.toEdgeSemantics with openBindings := ∅ } + _
  unfold ownerCharge openBindingCharge
  dsimp only
  rw [ExtTreeMap.size_empty]
  omega

end

/-! ## Asynchronous records -/

theorem storedCharge_pos (call : SemanticCall) : 0 < storedCharge call := by
  unfold storedCharge asyncCharge asyncFactCharge
  dsimp only
  omega

variable {key : UInt64 × UInt32} {record : PendingCall}

section

variable (books : Accounted other borrowed w)
include books

/-- A queued call takes its lease out of the reservation. -/
theorem queue_accounted (free : w.pending[key]? = none)
    (funded : storedCharge record.call ≤ available w) :
    Spends other borrowed w (storedCharge record.call)
      (w.queueRecord key record (storedCharge record.call)) := by
  have positive := storedCharge_pos record.call
  cases reserved : w.resourceTransition with
  | none =>
    have had : available w = 0 := congrArg (·.getD 0) reserved
    omega
  | some reservation =>
    have had : available w = reservation := congrArg (·.getD 0) reserved
    rw [had] at funded
    have left : available (w.queueRecord key record (storedCharge record.call)) =
        reservation - storedCharge record.call := by
      simp [World.queueRecord, World.takeResourceCharge, available, reserved]
    have lease : (w.takeResourceCharge (storedCharge record.call)).2 =
        some (storedCharge record.call) := by
      simp [World.takeResourceCharge, reserved]
    have async :
        asyncLeases (w.queueRecord key record (storedCharge record.call)).toEdgeSemantics =
        storedCharge record.call + asyncLeases w.toEdgeSemantics := by
      unfold asyncLeases World.queueRecord
      rw [sumBy_insert_of_absent _ free, lease, Nat.add_assoc]
      rfl
    refine ⟨books.move books.owner unrefunded (fun _ => ?_) ?_ books.detached ?_, by omega⟩
    · simp [World.queueRecord, World.takeResourceCharge, reserved, Nat.not_lt.mpr funded]
    · intro other found stored
      change (w.pending.insert key _)[other]? = some found at stored
      rw [ExtTreeMap.getElem?_insert] at stored
      split at stored
      · cases stored
        exact lease
      · exact books.pending stored
    · change ownerCharge w.toEdgeSemantics + _ + w.held + _ + 0 = _
      omega

theorem retainPending_accounted (keep : UInt64 × UInt32 → PendingCall → Bool) :
    Spends other borrowed w 0 (w.retainPending keep) := by
  refine ⟨books.move books.owner rfl dropLeases_panicked
    (fun stored => books.pending (getElem?_filter_eq_some_iff.mp stored).1) books.detached ?_,
    Nat.le_refl _⟩
  have split := sumBy_filter_add (fun _ record => leaseBytes record.resource) keep w.pending
  change ownerCharge w.toEdgeSemantics + asyncLeases { w.toEdgeSemantics with
    pending := w.pending.filter keep } + w.held + available w + _ = _
  unfold asyncLeases
  dsimp only
  omega

theorem retainDetached_accounted (keep : UInt64 × UInt32 × UInt64 → AsyncId → Bool) :
    Spends other borrowed w 0 (w.retainDetached keep) := by
  refine ⟨books.move books.owner rfl dropLeases_panicked books.pending
    (fun stored => books.detached (getElem?_filter_eq_some_iff.mp stored).1) ?_, Nat.le_refl _⟩
  have split := sumBy_filter_add (fun _ record => leaseBytes record.resource) keep w.detached
  change ownerCharge w.toEdgeSemantics + asyncLeases { w.toEdgeSemantics with
    detached := w.detached.filter keep } + w.held + available w + _ = _
  unfold asyncLeases
  dsimp only
  omega

end

theorem getElem?_of_erase {K V : Type} [Ord K] [TransOrd K] {map : ExtTreeMap K V} {key other : K}
    {value : V} (stored : (map.erase key)[other]? = some value) : map[other]? = some value := by
  rw [ExtTreeMap.getElem?_erase] at stored
  split at stored
  · cases stored
  · exact stored

section

variable (books : Accounted other borrowed w)
include books

theorem takePending_accounted (stored : w.pending[key]? = some record) :
    Spends other borrowed w 0 (w.takePending key record) := by
  refine ⟨books.move books.owner unrefunded (fun _ => rfl)
    (fun found => books.pending (getElem?_of_erase found)) books.detached ?_, Nat.le_refl _⟩
  change ownerCharge w.toEdgeSemantics + asyncLeases { w.toEdgeSemantics with
    pending := w.pending.erase key } + (w.held + leaseBytes record.resource) + available w + 0 = _
  have removed := sumBy_erase_of_present (fun _ record => leaseBytes record.resource) stored
  unfold asyncLeases
  dsimp only at removed ⊢
  omega

theorem takeDetached_accounted {key : UInt64 × UInt32 × UInt64} {record : AsyncId}
    (stored : w.detached[key]? = some record) :
    Spends other borrowed w 0 (w.takeDetached key record) := by
  refine ⟨books.move books.owner unrefunded (fun _ => rfl) books.pending
    (fun found => books.detached (getElem?_of_erase found)) ?_, Nat.le_refl _⟩
  change ownerCharge w.toEdgeSemantics + asyncLeases { w.toEdgeSemantics with
    detached := w.detached.erase key } + (w.held + leaseBytes record.resource) + available w + 0 = _
  have removed := sumBy_erase_of_present (fun _ record => leaseBytes record.resource) stored
  unfold asyncLeases
  dsimp only at removed ⊢
  omega

theorem detach_accounted {detachedKey : UInt64 × UInt32 × UInt64} {id : AsyncId}
    (stored : w.pending[key]? = some record) (free : w.detached[detachedKey]? = none)
    (sameCall : id.call = record.call) (sameLease : id.resource = record.resource) :
    Spends other borrowed w 0
      { w with
        pending := w.pending.erase key, detached := w.detached.insert detachedKey id } := by
  refine ⟨books.move books.owner unrefunded (fun _ => rfl)
    (fun found => books.pending (getElem?_of_erase found)) ?_ ?_, Nat.le_refl _⟩
  · intro other found kept
    rw [ExtTreeMap.getElem?_insert] at kept
    split at kept
    · cases kept
      rw [sameLease, sameCall]
      exact books.pending stored
    · exact books.detached kept
  · have removed := sumBy_erase_of_present (fun _ record => leaseBytes record.resource) stored
    have added := sumBy_insert_of_absent (fun _ id => leaseBytes id.resource) free id
    change ownerCharge w.toEdgeSemantics + _ + w.held + available w + 0 = _
    unfold asyncLeases
    dsimp only at removed added ⊢
    rw [sameLease] at added
    omega

theorem reown_accounted (update : UInt64 × UInt32 × UInt64 → AsyncId → Option UInt64) :
    Spends other borrowed w 0
      { w with detached := w.detached.map fun key id => { id with owner := update key id } } := by
  refine ⟨books.move books.owner unrefunded (fun _ => rfl) books.pending ?_ ?_, Nat.le_refl _⟩
  · intro key record stored
    rw [ExtTreeMap.getElem?_map, Option.map_eq_some_iff] at stored
    obtain ⟨old, kept, rfl⟩ := stored
    have leased := books.detached kept
    exact leased
  · have same := sumBy_map_of_weight_eq (fun key id => { id with owner := update key id })
      (fun _ record => leaseBytes record.resource) (fun _ _ => rfl) w.detached
    change ownerCharge w.toEdgeSemantics + _ + w.held + available w = _
    unfold asyncLeases
    rw [same]

theorem dropHeld_accounted : Spends other borrowed w 0 w.dropHeld := by
  refine ⟨books.move books.owner rfl dropLeases_panicked books.pending books.detached ?_,
    Nat.le_refl _⟩
  change ownerCharge w.toEdgeSemantics + asyncLeases w.toEdgeSemantics + 0 + available w +
    w.held = _
  omega

end

/-- Every funded mutation keeps the books and spends no more than its cost. -/
theorem Step.accounted {cost : Nat} (taken : Step w cost after) (funded : cost ≤ available w)
    (books : Accounted other borrowed w) :
    Spends other borrowed w cost after := by
  cases taken with
  | quiet same =>
    have left : available after = available w := congrArg (·.getD 0) same.resourceTransition
    exact ⟨books.congr { same with }
      (by rw [ownerCharge, same.openBindings, same.active, same.mechs, ownerCharge]), by omega⟩
  | finish live ended origin => exact finish_accounted books live _ ended origin
  | advance live state =>
    refine ⟨books.congr (.of_eq rfl) ?_, Nat.le_refl _⟩
    unfold ownerCharge
    rw [size_insert_of_present live]
  | startFresh free _ mechanism receipt origin =>
    refine books.retain funded (.of_eq rfl) ?_
    change ownerCharge { w.toEdgeSemantics with active := w.active.insert _ _ } = _
    unfold ownerCharge activeMachineCharge
    dsimp only
    rw [size_insert_of_absent free]
    omega
  | startOver live _ mechanism receipt origin =>
    refine ⟨books.congr (.of_eq rfl) ?_, Nat.le_refl _⟩
    change ownerCharge { w.toEdgeSemantics with active := w.active.insert _ _ } = _
    unfold ownerCharge
    rw [size_insert_of_present live]
  | startExhausted | completeDirect | directExhausted =>
    exact ⟨books.congr (.of_eq rfl) rfl, Nat.le_refl _⟩
  | growRow grown => exact growRow_accounted books grown funded
  | bindOpen free slotId => exact bindOpen_accounted books free funded slotId
  | unbindOpen bound => exact unbindOpen_accounted books bound
  | clearOpen => exact clearOpen_accounted books
  | queue _ free => exact queue_accounted books free funded
  | retainPending keep => exact retainPending_accounted books keep
  | retainDetached keep => exact retainDetached_accounted books keep
  | detach _ stored free sameCall sameLease =>
    exact detach_accounted books stored free sameCall sameLease
  | reown update => exact reown_accounted books update

theorem accounted_of_steps {budget : Nat} (run : Within Step w budget after)
    (funded : budget ≤ available w) (books : Accounted other borrowed w) :
    Spends other borrowed w budget after :=
  run.funded (Accounted other borrowed)
    (fun taken enough before => taken.accounted enough before) funded books

theorem CallStep.accounted {cost : Nat} (taken : CallStep w cost after)
    (funded : cost ≤ available w) (books : Accounted other borrowed w) :
    Spends other borrowed w cost after := by
  cases taken with
  | step taken => exact taken.accounted funded books
  | consumePending stored run =>
    obtain ⟨taken, kept⟩ := takePending_accounted books stored
    obtain ⟨completed, spent⟩ := accounted_of_steps run (by omega) taken
    obtain ⟨dropped, left⟩ := dropHeld_accounted completed
    exact ⟨dropped, by omega⟩
  | consumeDetached stored run =>
    obtain ⟨taken, kept⟩ := takeDetached_accounted books stored
    obtain ⟨completed, spent⟩ := accounted_of_steps run (by omega) taken
    obtain ⟨dropped, left⟩ := dropHeld_accounted completed
    exact ⟨dropped, by omega⟩

end

end P11Scope.Edge
