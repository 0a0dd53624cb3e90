import P11Scope.Lib.TreeMap
import P11Scope.Kinds

/-!
# The per-edge reducer: calls, machines, effects and resource leases

One `EdgeSemantics` holds the semantic state of one inventory edge.  `World` is
what a running call can reach: the reducer, the pool its leases were taken
from, the effect sink, the leases held in local variables, and a latch that
records a failed `expect` or `assert`.
-/

namespace P11Scope.Edge

open Std Lib.TreeMap

/-! ## Bounds and charges -/

def maxEdgeSessions : Nat := 1024
def maxEdgeMechanisms : Nat := 256
def maxEdgeActiveOps : Nat := 2048
def maxEdgePending : Nat := 256
def maxEdgeProvenanceFunctions : Nat := 64
def maxEdgeProvenanceReturns : Nat := 32

def semanticResourceLimit : Nat := 64 * 1024 * 1024
def semanticTransitionScratch : Nat := 1024 * 1024
def reducerBaseCharge : Nat := 8192
def openBindingCharge : Nat := 512
def activeMachineCharge : Nat := 1024
def asyncFactCharge : Nat := 4096
def mechanismCharge : Nat := 2048
def categoryCharge : Nat := 512
def functionCharge : Nat := 512
def returnCharge : Nat := 256
def ownedAllocationPadding : Nat := 32

/-- Largest `usize` of the supported 64-bit targets. -/
def usizeMax : Nat := 2 ^ 64 - 1

/-! ## The shared pool -/

/-- The budget every lease is taken from.  The limit is a machine word. -/
structure SharedPool where
  limit : Nat
  charged : Nat
  peak : Nat
  refused : Nat
  scratchBorrowed : Bool
  limit_le_usizeMax : limit ≤ usizeMax

structure SemanticResourceRefusal where
  limitBytes : Nat
  requestedBytes : Nat
  deriving DecidableEq, Repr

namespace SharedPool

/-- A fresh pool; the permanent scratch charge counts against its limit. -/
def new (limit : Nat) (bounded : limit ≤ usizeMax) : SharedPool where
  limit := limit
  charged := semanticTransitionScratch
  peak := semanticTransitionScratch
  refused := 0
  scratchBorrowed := false
  limit_le_usizeMax := bounded

variable (pool : SharedPool)

def refuse (requestedBytes : Nat) : SharedPool × SemanticResourceRefusal :=
  ({ pool with refused := satAdd pool.refused 1 },
    { limitBytes := pool.limit, requestedBytes := requestedBytes })

/-- Take a lease of `bytes`, or refuse and count the refusal. -/
def acquire (bytes : Nat) : SharedPool × Except SemanticResourceRefusal Nat :=
  let requested := pool.charged + bytes
  if usizeMax < requested then
    let (pool, refusal) := pool.refuse usizeMax
    (pool, .error refusal)
  else if pool.limit < requested then
    let (pool, refusal) := pool.refuse requested
    (pool, .error refusal)
  else
    ({ pool with charged := requested, peak := max pool.peak requested }, .ok bytes)

/-- Borrow the one serialized scratch reservation. -/
def scratch : SharedPool × Except SemanticResourceRefusal Unit :=
  if pool.scratchBorrowed then
    let (pool, refusal) := pool.refuse pool.charged
    (pool, .error refusal)
  else
    ({ pool with scratchBorrowed := true }, .ok ())

def returnScratch : SharedPool :=
  { pool with scratchBorrowed := false }

/-- Give `bytes` of a lease back. -/
def refund (bytes : Nat) : SharedPool :=
  { pool with charged := pool.charged - bytes }

end SharedPool

/-! ## Calls, machines and effects -/

/-- One completed API call's semantic facts. -/
structure SemanticCall where
  function : String := ""
  rv : UInt64 := CkRv.ok
  session : UInt64 := sessionNone
  mechanism : UInt64 := 0
  capture : UInt32 := Capture.mechanismNone ||| Capture.outputNone
  slotId : UInt64 := 0
  targetFunction : UInt32 := functionNone
  asyncValue : UInt64 := 0
  flags : UInt64 := 0
  userType : UInt32 := userTypeNone
  authorized : Bool := true
  unambiguous : Bool := true
  countOnly : Bool := false
  attributable : Bool := true
  tsNs : Nat := 0
  deriving DecidableEq, Repr

def SemanticCall.mechanismCapture (call : SemanticCall) : UInt32 :=
  call.capture &&& Capture.mechanismMask

inductive OpState where
  | initialized
  | inProgress
  deriving DecidableEq, Repr

inductive KeyRole where
  | operationKey
  | wrappingKey
  | wrappedKey
  | baseKey
  | unwrappingKey
  | encapsulationKey
  | decapsulationKey
  | other
  deriving DecidableEq, Repr

/-- Presence of key metadata, one bit per field. -/
structure KeyMetadataFlags where
  requested : UInt8
  established : UInt8
  conflicted : UInt8
  deriving DecidableEq, Repr

inductive KeyLabel where
  | aes (valueLen : UInt16)
  | rsa (modulusBits : UInt16)
  | ec (curve : SafeCurve)
  deriving DecidableEq, Repr

/-- One positional key receipt. -/
structure KeyReceipt where
  key : UInt64
  function : UInt32
  input : UInt8
  role : KeyRole
  position : UInt64
  metadata : KeyMetadataFlags
  label : Option KeyLabel
  attributionValid : Bool
  firstObserved : Bool
  lost : Bool
  deriving DecidableEq, Repr

/-- One tracked operation's live state. -/
structure OpMachine where
  mechanism : Option UInt64
  state : OpState
  generation : Nat
  key : Option KeyReceipt
  deriving DecidableEq, Repr

inductive OperationOutcome where
  | completed
  | cancelled
  | failed
  | unknown
  deriving DecidableEq, Repr

/-- How one tracked operation ended. -/
inductive EndState where
  | completed
  | cancelled
  | failed
  | unknown
  deriving DecidableEq, Repr

def EndState.outcome : EndState → OperationOutcome
  | .completed => .completed
  | .cancelled => .cancelled
  | .failed => .failed
  | .unknown => .unknown

/-- Identity of the source call an effect belongs to. -/
structure EffectOrigin where
  function : String
  session : UInt64
  tsNs : Nat
  deriving DecidableEq, Repr

def EffectOrigin.ofCall (call : SemanticCall) : EffectOrigin :=
  { function := call.function, session := call.session, tsNs := call.tsNs }

def EffectOrigin.placeholder : EffectOrigin :=
  { function := "", session := sessionNone, tsNs := 0 }

/-- One typed operation transition. -/
inductive OperationEffect where
  | started (id : Nat) (category : String) (mechanism : Option UInt64)
      (keyReceipt : Option KeyReceipt) (origin : EffectOrigin)
  | ended (id : Nat) (category : String) (outcome : OperationOutcome) (origin : EffectOrigin)
  | directCompleted (id : Nat) (category : String) (mechanism : Option UInt64)
      (keyReceipts : List KeyReceipt) (origin : EffectOrigin)
  deriving DecidableEq, Repr

/-! ## Asynchronous custody and mechanism rows -/

/-- One operation bit with the machine generation live when a call was queued. -/
structure CallOrigin where
  bits : List (UInt16 × Option Nat)
  deriving DecidableEq, Repr

structure PendingCall where
  call : SemanticCall
  origin : CallOrigin
  originPos : Option UInt64
  sequence : Nat
  resource : Option Nat
  deriving DecidableEq, Repr

structure AsyncId where
  owner : Option UInt64
  call : SemanticCall
  origin : CallOrigin
  originPos : Option UInt64
  sequence : Nat
  resource : Option Nat
  deriving DecidableEq, Repr

inductive PendingRoute where
  | unroutable
  | duplicate
  | fresh (function : UInt32) (descriptor : SlotSemantics) (charge : Nat)
  deriving DecidableEq, Repr

instance transOrdIssued : TransOrd (UInt64 × UInt32 × UInt64) := inferInstance

inductive CompleteEligible where
  | zero
  | many
  | pending (key : UInt64 × UInt32)
  | detached (key : UInt64 × UInt32 × UInt64)
  deriving DecidableEq, Repr

/-- One mechanism id's per-edge aggregates. -/
structure EdgeMechStat where
  calls : Nat := 0
  errors : Nat := 0
  ops : ExtTreeSet String := ∅
  lastSeenNs : Nat := 0
  functions : ExtTreeSet String := ∅
  returns : ExtTreeSet UInt64 := ∅
  truncated : Bool := false

structure EdgeEvidence where
  stateReconciliations : Nat := 0
  sessionCancelAmbiguities : Nat := 0
  sessionCancelUnknownFlags : Nat := 0
  operationStateImports : Nat := 0
  authStateAmbiguities : Nat := 0
  semanticCaptureFailures : Nat := 0
  asyncDuplicates : Nat := 0
  asyncEvictions : Nat := 0
  unmatchedCloses : Nat := 0
  deriving DecidableEq, Repr

/-- The per-edge semantic reducer.  A lease is its byte count; the source's
`open` map is `openBindings`. -/
structure EdgeSemantics where
  openBindings : ExtTreeMap UInt64 UInt64 := ∅
  active : ExtTreeMap (UInt64 × UInt16) OpMachine := ∅
  mechs : ExtTreeMap UInt64 EdgeMechStat := ∅
  pending : ExtTreeMap (UInt64 × UInt32) PendingCall := ∅
  detached : ExtTreeMap (UInt64 × UInt32 × UInt64) AsyncId := ∅
  sequence : Nat := 0
  machineSeq : Nat := 0
  idExhaustions : Nat := 0
  calls : Nat := 0
  started : Nat := 0
  completed : Nat := 0
  cancelled : Nat := 0
  failed : Nat := 0
  unknown : Nat := 0
  orphans : Nat := 0
  dropped : Nat := 0
  lastSeenNs : Nat := 0
  evidence : EdgeEvidence := {}
  unauthorizedCalls : Nat := 0
  ambiguousCalls : Nat := 0
  countOnlyCalls : Nat := 0
  unattributableCalls : Nat := 0
  doubleLoadDetected : Bool := false
  seenClaimCapable : Bool := false
  resourceTransition : Option Nat := none
  resourceOwner : Option Nat := none

/-- What a running call reaches. `sink` is `none` for the effect-free sink. -/
structure World extends EdgeSemantics where
  pool : SharedPool
  sink : Option (List OperationEffect)
  held : Nat := 0
  panicked : Bool := false

end P11Scope.Edge
