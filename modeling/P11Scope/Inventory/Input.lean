import P11Scope.Lib.Sorting

/-!
# Saved inventory snapshots

The typed facts of one saved inventory, as the reader hands them to the
comparison. Local references are positions in the snapshot's own lists; the
reader refuses a dangling reference and a repeated caller/module pair, and a
snapshot carries both facts.
-/

namespace P11Scope.Inventory

open Std Lib

/-- A recorded label. The reader computes whether the label is known from its
text and the table of its field, so the text is the label. -/
structure Label where
  raw : String
  deriving DecidableEq, Repr, Inhabited

structure Clock where
  basis : String
  unit : String
  deriving DecidableEq

structure PidNamespace where
  observer : Label
  kernelPids : Label
  procPids : Label
  deriving DecidableEq

structure Attach where
  selection : Label
  mechanism : Label
  fallback : Option String
  scopeFilter : Option Label
  deriving DecidableEq

structure Lifecycle where
  records : UInt64
  ringLoss : UInt64
  malformed : UInt64
  failedQuanta : UInt64
  recoveryRescans : UInt64
  deriving DecidableEq

structure Placement where
  edge : UInt64
  module : UInt64
  ambiguous : UInt64
  unresolved : UInt64
  deriving DecidableEq

structure NativeWitnesses where
  rows : UInt64
  bound : UInt64
  unbound : UInt64
  pending : UInt64
  integrity : UInt64
  unboundReasons : ExtTreeMap String UInt64
  placement : Placement

structure Observation where
  startedNs : UInt64
  endedNs : UInt64
  passes : UInt64
  usageFeed : Bool
  lane : Option Label
  settlement : Option Label
  retirement : Option Label
  attach : Option Attach
  lifecycle : Option Lifecycle
  nativeWitnesses : Option NativeWitnesses

structure Budget where
  limit : UInt64
  occupied : UInt64
  refused : UInt64
  deriving DecidableEq

structure InventoryEndpoints where
  limit : UInt64
  occupied : UInt64
  refused : Option UInt64
  deriving DecidableEq

structure Counters where
  cap : UInt64
  observedEdges : UInt64
  saturatedEdges : UInt64
  deriving DecidableEq

structure SemanticBudget where
  limit : UInt64
  occupied : UInt64
  status : Label
  unknownEdges : UInt64
  refused : UInt64
  deriving DecidableEq

structure RetainedHistory where
  limit : UInt64
  retained : UInt64
  suppressed : UInt64
  deriving DecidableEq

structure Preadmission where
  limit : UInt64
  occupied : UInt64
  refused : UInt64
  pruned : UInt64
  deriving DecidableEq

structure Budgets where
  callers : Budget
  modules : Budget
  edges : Budget
  endpoints : Budget
  inventoryEndpoints : Option InventoryEndpoints
  inventoryAttachModules : Option Budget
  counters : Counters
  semanticState : SemanticBudget
  retainedHistory : RetainedHistory
  nativePreadmission : Option Preadmission
  deriving DecidableEq

structure Exe where
  dev : UInt64
  ino : UInt64
  mtimeSecs : Int
  mtimeNanos : Int
  path : Option String
  deriving DecidableEq, Repr

structure Image where
  authority : Label
  taskCookie : Option UInt64
  execId : Option UInt64
  exe : Option Exe
  execObserved : Bool
  deriving DecidableEq, Repr, Inhabited

structure Caller where
  pid : UInt32
  startTime : Option UInt64
  startTimeUnit : String
  incarnation : UInt64
  image : Image
  lifecycle : Label
  lifecycleReason : Option String
  firstSeenNs : UInt64
  lastSeenNs : UInt64
  retired : Bool
  deriving DecidableEq, Repr, Inhabited

structure AdmissionChange where
  from_ : Label
  to_ : Label
  atNs : UInt64
  deriving DecidableEq, Repr

structure Admission where
  state : Label
  class_ : Option String
  endpoints : Option UInt64
  reasons : List String
  note : String
  history : Option (List AdmissionChange)
  deriving DecidableEq, Repr, Inhabited

structure UnboundUse where
  firstNs : UInt64
  rows : UInt64
  reasons : ExtTreeMap String UInt64
  entries : UInt64
  deriving DecidableEq

structure Module where
  paths : List String
  deviceMajor : UInt32
  deviceMinor : UInt32
  inode : UInt64
  sha256 : Option String
  buildId : Option String
  identitySource : Option String
  admission : Admission
  lifecycle : Label
  unloadedObserved : Bool
  unboundUse : Option UnboundUse
  deriving DecidableEq, Inhabited

structure Mapping where
  state : Label
  evidence : Option Label
  reason : Option String
  firstSeenNs : UInt64
  lastSeenNs : UInt64
  interruptions : UInt64
  deriving DecidableEq, Repr, Inhabited

structure Coverage where
  state : Label
  sinceNs : Option UInt64
  untilNs : Option UInt64
  firstNs : Option UInt64
  lossy : Option Bool
  reason : Option Label
  detail : Option String
  deriving DecidableEq, Repr

structure Entries where
  count : UInt64
  saturated : Bool
  cap : UInt64
  firstSeenNs : Option UInt64
  lastSeenNs : Option UInt64
  inFlight : Bool
  observation : Label
  deriving DecidableEq, Repr, Inhabited

structure Edge where
  caller : Nat
  module : Nat
  mapping : Mapping
  entries : Entries
  coverage : Option Coverage
  semantics : Label
  deriving DecidableEq, Repr, Inhabited

structure Refusal where
  resource : String
  limit : UInt64
  requested : UInt64
  deriving DecidableEq, Repr

structure Gap where
  caller : Option Nat
  module : Option Nat
  pid : Option UInt32
  subject : String
  reason : String
  budget : Option Refusal
  repeats : UInt64
  deriving DecidableEq, Repr

/-- A snapshot accepted by the reader: every reference is resolved and no
caller/module pair has two edges. -/
structure Snapshot where
  scope : String
  clock : Clock
  observation : Observation
  budgets : Budgets
  pidNamespace : Option PidNamespace
  callers : List Caller
  modules : List Module
  edges : List Edge
  gaps : List Gap
  gapsSuppressed : UInt64
  limitations : List String
  edgesResolved : ∀ edge ∈ edges, edge.caller < callers.length ∧ edge.module < modules.length
  pairsDistinct : (edges.map fun edge => (edge.caller, edge.module)).Nodup
  gapsResolved : ∀ gap ∈ gaps, (∀ caller ∈ gap.caller, caller < callers.length) ∧
    ∀ module ∈ gap.module, module < modules.length

namespace Snapshot

/-- The caller a reference names. Resolved references are in range. -/
def callerAt (snapshot : Snapshot) (index : Nat) : Caller := snapshot.callers.getD index default

def moduleAt (snapshot : Snapshot) (index : Nat) : Module := snapshot.modules.getD index default

def edgeAt (snapshot : Snapshot) (index : Nat) : Edge := snapshot.edges.getD index default

end Snapshot

end P11Scope.Inventory
