import P11Scope.Lib.TreeMap
import P11Scope.Kinds

/-!
# The capture-wide reducer: plans, events and state

One `State` reduces every observed call of every process and module.  A session
handle is scoped to the module that issued it, and a process is compared by its
identity, which ignores the pid outside domain zero.
-/

namespace P11Scope.Semantics

open Std Lib.TreeMap

/-! ## Modules, processes and sessions -/

/-- Capture-local module index. -/
structure ModuleId where
  index : UInt32
  deriving DecidableEq, Repr

instance : Ord ModuleId := ⟨compareOn ModuleId.index⟩

instance : TransOrd ModuleId := inferInstanceAs (TransCmp (compareOn ModuleId.index))

instance : LawfulEqOrd ModuleId where
  eq_of_compare := eq_of_compareOn fun first second same => by
    cases first
    cases second
    cases same
    rfl

/-- The id of a slot no single module owns. -/
def moduleUnresolved : ModuleId := ⟨0xFFFFFFFF⟩

structure ProcessKey where
  pid : UInt32
  generation : UInt64
  domain : UInt64
  execId : UInt64
  deriving DecidableEq, Repr

/-- What process keys are compared by. -/
structure Process where
  domain : UInt64
  generation : UInt64
  execId : UInt64
  pid : UInt32
  deriving DecidableEq, Repr

def Process.fields (process : Process) : UInt64 × UInt64 × UInt64 × UInt32 :=
  (process.domain, process.generation, process.execId, process.pid)

instance : Ord Process := ⟨compareOn Process.fields⟩

instance : TransOrd Process := inferInstanceAs (TransCmp (compareOn Process.fields))

instance : LawfulEqOrd Process where
  eq_of_compare := eq_of_compareOn fun first second same => by
    cases first
    cases second
    cases same
    rfl

namespace ProcessKey

/-- Domain zero keeps the pid; every other domain ignores it. -/
def identity (key : ProcessKey) : Process where
  domain := key.domain
  generation := key.generation
  execId := key.execId
  pid := if key.domain = 0 then key.pid else 0

def fromPid (pid : UInt32) : ProcessKey where
  pid := pid
  generation := 0
  domain := 0
  execId := 0

end ProcessKey

/-- A session handle scoped to the module that issued it. -/
structure SessionRef where
  moduleId : ModuleId
  handle : UInt64
  deriving DecidableEq, Repr

def SessionRef.fields (session : SessionRef) : ModuleId × UInt64 :=
  (session.moduleId, session.handle)

instance : Ord SessionRef := ⟨compareOn SessionRef.fields⟩

instance : TransOrd SessionRef := inferInstanceAs (TransCmp (compareOn SessionRef.fields))

instance : LawfulEqOrd SessionRef where
  eq_of_compare := eq_of_compareOn fun first second same => by
    cases first
    cases second
    cases same
    rfl

/-! ## Plans -/

/-- Who owns the aggregate cell of a slot. -/
inductive AggregateOwner where
  | unowned
  | sole (moduleId : ModuleId)
  | ambiguous
  deriving DecidableEq, Repr

/-- One attach slot, as far as the reducer reads it. -/
structure Slot where
  index : UInt32
  descriptorIndex : UInt32
  names : List String
  aliased : Bool
  semantics : SlotSemantics
  forkSafe : Bool
  moduleIds : List ModuleId
  deriving DecidableEq, Repr

structure AttachPlan where
  slots : List Slot
  aggregateOwners : List AggregateOwner
  deriving DecidableEq, Repr

namespace AttachPlan

def moduleOfSlot (plan : AttachPlan) (slot : UInt32) : Option ModuleId :=
  match plan.aggregateOwners[slot.toNat]? with
  | some (.sole moduleId) => some moduleId
  | some .unowned => none
  | some .ambiguous => none
  | none => none

def slotIsModuleAmbiguous (plan : AttachPlan) (slot : UInt32) : Bool :=
  plan.aggregateOwners[slot.toNat]? = some .ambiguous

def effectiveSemantics (plan : AttachPlan) (slot : Slot) : SlotSemantics :=
  if plan.slotIsModuleAmbiguous slot.index then .countOnly else slot.semantics

end AttachPlan

structure SlotMeta where
  names : List String
  aliased : Bool
  semantics : SlotSemantics
  functionId : Option UInt32
  forkSafe : Bool
  moduleId : ModuleId
  moduleIds : List ModuleId
  deriving DecidableEq, Repr

/-- The session a handle names at this slot. -/
def SlotMeta.session (slot : SlotMeta) (handle : UInt64) : SessionRef :=
  { moduleId := slot.moduleId, handle := handle }

/-! ## Policies and events -/

inductive CounterMode where
  | counts
  | timestamps
  | latency
  deriving DecidableEq, Repr

inductive CapturePolicy where
  | allowlisted
  | unsafeUnvalidatedMetadata
  | aggregateOnly
  | counter (mode : CounterMode)
  deriving DecidableEq, Repr

def CapturePolicy.usesUnsafeDecoders (policy : CapturePolicy) : Bool :=
  policy = .unsafeUnvalidatedMetadata

namespace EventType

def call : UInt32 := 0
def fork : UInt32 := 1
def forkIntoCgroup : UInt32 := 2

end EventType

/-- The shape code of a mechanism without decoded parameters. -/
def shapeNone : UInt32 := 0

def latencyBuckets : Nat := 32
def maxAttrs : Nat := 8

/-- The template evidence of one argument. -/
structure TemplateCapture where
  types : Vector UInt64 maxAttrs := Vector.replicate maxAttrs 0
  count : UInt32 := 0
  total : UInt32 := 0
  bools : UInt32 := 0
  boolsSeen : UInt32 := 0
  deriving DecidableEq, Repr

/-- One completed call, as far as the reducer reads it. -/
structure Event where
  tsNs : Nat := 0
  durationNs : Nat := 0
  pidTgid : UInt64 := 0
  cgroupId : UInt64 := 0
  session : UInt64 := 0
  slotId : UInt64 := 0
  mechanism : UInt64 := 0
  flags : UInt64 := 0
  rv : UInt64 := 0
  p0 : UInt64 := 0
  p1 : UInt64 := 0
  p2 : UInt64 := 0
  asyncValue : UInt64 := 0
  slot : UInt32 := 0
  targetFunction : UInt32 := 0
  userType : UInt32 := 0
  shape : UInt32 := 0
  template0 : TemplateCapture := {}
  template1 : TemplateCapture := {}
  capture : UInt32 := 0
  eventType : UInt32 := 0
  deriving DecidableEq, Repr

inductive MechanismCapture where
  | absent
  | null
  | unreadable
  | value (mechanism : UInt64)
  deriving DecidableEq, Repr

def Event.mechanismCapture (event : Event) : MechanismCapture :=
  let captured := event.capture &&& Capture.mechanismMask
  if captured = Capture.mechanismNull then .null
  else if captured = Capture.mechanismUnreadable then .unreadable
  else if captured = Capture.mechanismValue then .value event.mechanism
  else .absent

def Event.unregistered (event : Event) : Bool :=
  event.capture &&& Capture.mechanismUnregistered ≠ 0

/-- A return code that counts as an error of its cgroup. -/
def isError (rv : UInt64) : Bool := rv ≠ CkRv.ok && rv ≠ CkRv.pending

/-- The latency bucket of a duration: its bit length, capped at the last one. -/
def bucketOf (ns : Nat) : Fin latencyBuckets :=
  if ns = 0 then ⟨0, by decide⟩
  else if below : Nat.log2 ns + 1 < latencyBuckets then ⟨Nat.log2 ns + 1, below⟩
  else ⟨latencyBuckets - 1, by decide⟩

/-! ## Statistics -/

structure MechStat where
  calls : Nat := 0
  errors : Nat := 0
  buckets : Vector Nat latencyBuckets := Vector.replicate latencyBuckets 0
  totalNs : Nat := 0
  maxNs : Nat := 0
  ops : ExtTreeSet String := ∅
  paramCombos : ExtTreeMap (UInt32 × UInt64 × UInt64 × UInt64) Nat := ∅
  initNoShape : Nat := 0
  unregistered : Bool := false

structure TemplateStat where
  names : List String := []
  aliased : Bool := false
  role : Option String := none
  attrTypes : ExtTreeSet UInt64 := ∅
  boolsTrue : UInt32 := 0
  boolsFalse : UInt32 := 0
  truncated : Bool := false

structure SessionStats where
  opened : Nat := 0
  inherited : Nat := 0
  closed : Nat := 0
  asyncOpened : Nat := 0
  peakConcurrent : Nat := 0
  deriving DecidableEq, Repr

structure MechCallStat where
  calls : Nat := 0
  errors : Nat := 0
  unregistered : Bool := false
  deriving DecidableEq, Repr

structure CgroupStat where
  calls : Nat := 0
  errors : Nat := 0
  mechanisms : ExtTreeMap UInt64 MechCallStat := ∅

structure SemanticEvidence where
  stateReconciliations : Nat := 0
  sessionCancelAmbiguities : Nat := 0
  sessionCancelUnknownFlags : Nat := 0
  operationStateImports : Nat := 0
  authStateAmbiguities : Nat := 0
  semanticCaptureFailures : Nat := 0
  asyncTargetFailures : Nat := 0
  asyncOrphans : Nat := 0
  asyncDuplicates : Nat := 0
  asyncEvictions : Nat := 0
  forkStateAmbiguities : Nat := 0
  semanticStateDrops : Nat := 0
  semanticHistoryDrops : Nat := 0
  deriving DecidableEq, Repr

/-! ## Session-scoped state -/

structure SessionInfo where
  pseudonym : Nat
  slot : UInt64
  forkSafe : Bool
  deriving DecidableEq, Repr

/-- The mechanism an initialized operation is bound to. -/
structure Binding where
  mechanism : UInt64
  forkSafe : Bool
  unregistered : Bool
  deriving DecidableEq, Repr

structure Pending where
  event : Event
  slot : SlotMeta
  startedNs : Nat
  sequence : Nat
  deriving DecidableEq, Repr

structure Detached where
  pending : Pending
  owner : Option (Process × SessionRef)
  process : Process
  collided : Bool
  deriving DecidableEq, Repr

/-- Module, PKCS#11 slot, function, async value and domain of an issued id. -/
abbrev DetachedKey := ModuleId × UInt64 × UInt32 × UInt64 × UInt64

instance transOrdDetachedKey : TransOrd DetachedKey := inferInstance

instance transOrdPendingKey : TransOrd (Process × SessionRef × UInt32) := inferInstance

def maxPending : Nat := 16384
def maxStateKeys : Nat := 16384

/-- Pseudonymized semantic state.  `drawn` is a history variable: it lists the
pseudonyms drawn so far, and no transition reads it. -/
structure State where
  policy : CapturePolicy
  slots : List (Option SlotMeta)
  eventsDomain : Option UInt64 := none
  reducedHistories : ExtTreeSet Process := ∅
  nextPseudonym : ExtTreeMap Process Nat := ∅
  openSessions : ExtTreeMap (Process × SessionRef) SessionInfo := ∅
  activeOps : ExtTreeMap (Process × SessionRef × UInt16) Binding := ∅
  findActive : ExtTreeSet (Process × SessionRef) := ∅
  inheritedAmbiguous : ExtTreeSet (Process × SessionRef) := ∅
  pending : ExtTreeMap (Process × SessionRef × UInt32) Pending := ∅
  detached : ExtTreeMap DetachedKey Detached := ∅
  sequence : Nat := 0
  mechanisms : ExtTreeMap UInt64 MechStat := ∅
  templates : ExtTreeMap (UInt32 × UInt8) TemplateStat := ∅
  logins : ExtTreeMap UInt32 Nat := ∅
  sessions : SessionStats := {}
  cgroups : ExtTreeMap UInt64 CgroupStat := ∅
  orphanOps : Nat := 0
  unmatchedCloses : Nat := 0
  evidence : SemanticEvidence := {}
  stateKeyLimit : Nat
  stateKeys : Nat := 0
  drawn : List (Process × SessionRef × Nat) := []

end P11Scope.Semantics
