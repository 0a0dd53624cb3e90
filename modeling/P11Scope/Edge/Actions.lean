import P11Scope.Edge.Reducer

/-!
# Public operations and the reducers they reach

The public operations of one reducer as data, what each does to the reducer and
to whatever pool and sink it is given, and the reducers reachable from a fresh
one by any sequence of them.
-/

namespace P11Scope.Edge

/-- A public operation of one reducer. -/
inductive Action where
  | observe (call : SemanticCall)
  | observeWithEffects (call : SemanticCall) (origin : EffectOrigin)
  | observeJoint (call : SemanticCall) (origin : EffectOrigin) (keys : List KeyReceipt)
  | observeWithResources (call : SemanticCall)
  | observeWithResourcesAndEffects (call : SemanticCall) (origin : EffectOrigin)
  | observeJointWithResources (call : SemanticCall) (origin : EffectOrigin)
      (keys : List KeyReceipt)
  | invalidate
  | invalidateWithEffects
  | markDoubleLoad
  | clearDoubleLoad

namespace World

/-- Run one public operation. -/
def act (w : World) : Action → World
  | .observe call => (w.observe call).1
  | .observeWithEffects call origin => (w.observeWithEffects call origin).1
  | .observeJoint call origin keys => (w.observeJoint call origin keys).1
  | .observeWithResources call => (w.observeWithResources call).1
  | .observeWithResourcesAndEffects call origin =>
    (w.observeWithResourcesAndEffects call origin).1
  | .observeJointWithResources call origin keys =>
    (w.observeJointWithResources call origin keys).1
  | .invalidate => w.invalidate
  | .invalidateWithEffects => w.invalidateWithEffects
  | .markDoubleLoad => w.markDoubleLoad
  | .clearDoubleLoad => w.clearDoubleLoad

end World

/-- A reducer together with the pool and sink of one operation. -/
def EdgeSemantics.load (edge : EdgeSemantics) (pool : SharedPool)
    (sink : Option (List OperationEffect)) : World :=
  { edge with pool := pool, sink := sink }

/-- The reducers reached from a fresh one, with or without a resource owner, by
any sequence of public operations under any pools and sinks. -/
inductive Reached : EdgeSemantics → Prop where
  | default : Reached {}
  | withResources {pool after : SharedPool} {edge : EdgeSemantics}
      (admitted : withResources pool = (after, .ok edge)) : Reached edge
  | act {edge : EdgeSemantics} (before : Reached edge) (pool : SharedPool)
      (sink : Option (List OperationEffect)) (action : Action) :
      Reached ((edge.load pool sink).act action).toEdgeSemantics

/-! ## What the pool grants -/

/-- A granted lease fits below the limit and is charged in full. -/
structure Granted (before after : SharedPool) (bytes : Nat) : Prop where
  charged : after.charged = before.charged + bytes
  limit : after.limit = before.limit
  scratchBorrowed : after.scratchBorrowed = before.scratchBorrowed
  fits : before.charged + bytes ≤ before.limit

/-- A refusal only counts itself. -/
structure Refused (before after : SharedPool) : Prop where
  charged : after.charged = before.charged
  limit : after.limit = before.limit
  scratchBorrowed : after.scratchBorrowed = before.scratchBorrowed

theorem acquire_ok {before after : SharedPool} {bytes lease : Nat}
    (granted : before.acquire bytes = (after, .ok lease)) :
    lease = bytes ∧ Granted before after bytes := by
  unfold SharedPool.acquire at granted
  dsimp only at granted
  split at granted
  · cases granted
  split at granted
  · cases granted
  case isFalse fits =>
    cases granted
    exact ⟨rfl, rfl, rfl, rfl, Nat.not_lt.mp fits⟩

theorem acquire_error {before after : SharedPool} {bytes : Nat}
    {refusal : SemanticResourceRefusal}
    (refused : before.acquire bytes = (after, .error refusal)) : Refused before after := by
  unfold SharedPool.acquire at refused
  dsimp only at refused
  split at refused
  · cases refused
    exact ⟨rfl, rfl, rfl⟩
  split at refused
  · cases refused
    exact ⟨rfl, rfl, rfl⟩
  · cases refused

/-- A fresh admitted reducer is the default one with its base charge. -/
theorem withResources_ok {pool after : SharedPool} {edge : EdgeSemantics}
    (admitted : withResources pool = (after, .ok edge)) :
    edge = { resourceOwner := some reducerBaseCharge } ∧ Granted pool after reducerBaseCharge := by
  unfold withResources at admitted
  split at admitted
  · cases admitted
  rename_i granted
  cases admitted
  obtain ⟨lease, grant⟩ := acquire_ok granted
  exact ⟨by rw [lease], grant⟩

/-- Preparing a transition touches the pool and nothing of the reducer. -/
theorem World.prepareResourceTransition_edge (w : World) (call : SemanticCall) :
    (w.prepareResourceTransition call).1.toEdgeSemantics = w.toEdgeSemantics := by
  unfold prepareResourceTransition
  split
  · rfl
  split
  · rfl
  split <;> rfl

end P11Scope.Edge
