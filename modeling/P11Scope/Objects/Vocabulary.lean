import P11Scope.Capture.Policy
import P11Scope.Edge.State

/-!
# Object semantics: identities, gaps and effects

The capture-local identities of the object model and the finite effects of one
of its transitions.
-/

namespace P11Scope.Objects

open Edge

/-- A capture-local object observation incarnation. -/
abbrev ObjectId := UInt64

/-- A capture-local session incarnation. -/
abbrev SessionIncarnation := UInt64

/-- A checked, never-recycled call ticket. -/
abbrev CallToken := UInt64

/-- A stable logical-call key; its word is the admission's ordinal. -/
abbrev CallKey := UInt64

/-- Caller incarnation, process image, native source, load instance and
initialization era. -/
structure ObjectDomain where
  caller : UInt64
  image : UInt64
  nativeSource : UInt64
  loadInstance : UInt64
  initEra : UInt64
  deriving DecidableEq, Repr

/-- Every finite refusal, uncertainty and boundary reason. -/
inductive ObjectGap where
  | bootstrapUnproven
  | bootstrapRefused
  | prefixContradiction
  | stalePrefix
  | closedFrontier
  | duplicateCall
  | duplicateCompletion
  | staleToken
  | fencedCompletion
  | malformedFact
  | unsupportedFunction
  | domainEnded
  | resultProtocolUnavailable
  | pendingResultUnavailable
  | outputUnreadable
  | pairDuplicate
  | nullMechanismCancel
  | sameSessionOverlap
  | overlapUncertain
  | outputCollision
  | staleOrigin
  | dependencyBroken
  | unprovenInput
  | unprovenSession
  | metadataUncertain
  | destroyAlias
  | closeUncertain
  | closeAllUncertain
  | logoutUncertain
  | sessionClosed
  | invalidHandle
  | ambiguousOutcome
  | sessionContradiction
  | handleReuse
  | finalize
  | tokenReset
  | exec
  | fork
  | unload
  | loss
  | pendingCapacity
  | sessionCapacity
  | objectCapacity
  | instanceCapacity
  | idExhausted
  | deviceLoss
  | unseenFinalize
  | inconsistentMechanism
  | outcomeLost
  | unknownDomain
  | domainPruned
  deriving DecidableEq, Repr

inductive SessionEnd where
  | closed
  | uncertain (gap : ObjectGap)
  deriving DecidableEq, Repr

/-- One finite transition result. -/
inductive ObjectEffect where
  | sessionOpened (call : CallToken) (session : SessionIncarnation)
  | sessionFirstObserved (call : CallToken) (session : SessionIncarnation)
  | sessionEnded (session : SessionIncarnation) (ending : SessionEnd)
  | created (call : CallToken) (slot : UInt8) (object : ObjectId) (session : SessionIncarnation)
  | firstObserved (call : CallToken) (object : ObjectId) (session : SessionIncarnation)
  | referenced (call : CallToken) (object : ObjectId) (keyUse : Bool) (input : Option UInt8)
      (metadata : KeyMetadataFlags) (label : Option KeyLabel) (attributionValid : Bool)
      (firstObserved : Bool)
  | destroyed (call : CallToken) (object : ObjectId)
  | accessEnded (object : ObjectId) (reason : ObjectGap)
  | retired (object : ObjectId) (reason : ObjectGap)
  | metadataEstablished (call : CallToken) (object : ObjectId)
  | metadataConflict (call : CallToken) (object : ObjectId) (field : Capture.SafeAttributeKind)
  | metadataInvalidated (object : ObjectId) (reason : ObjectGap)
  | downgraded (object : ObjectId) (reason : ObjectGap)
  | unresolved (call : CallToken) (reason : ObjectGap)
  | deferredMinted (call : CallToken)
  | gap (reason : ObjectGap)
  deriving DecidableEq, Repr

def fieldIndex : Capture.SafeAttributeKind → Nat
  | .objectClass => 0
  | .keyType => 1
  | .token => 2
  | .valueLen => 3
  | .modulusBits => 4
  | .ecParams => 5

/-- A captured handle argument. -/
inductive HandleInput where
  | absent
  | value (handle : UInt64)
  | unreadable
  deriving DecidableEq, Repr

/-- The finite class of a captured mechanism. -/
inductive MechClass where
  | notCaptured
  | null
  | unreadable
  | value
  deriving DecidableEq, Repr

end P11Scope.Objects
