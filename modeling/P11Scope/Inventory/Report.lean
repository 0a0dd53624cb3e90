import P11Scope.Inventory.Input

/-!
# The comparison report

Rows name canonical evidence values of one side by position, never persistent
entities. The change codes and the reasons of unresolved rows are listed in the
order of their texts.
-/

namespace P11Scope.Inventory

open Std Lib.TreeMap

/-- The codes a row can carry. -/
inductive ChangeCode where
  | admission
  | callerPopulation
  | contentPresence
  | coverage
  | entries
  | lifecycle
  | mapping
  | paths
  | physicalRecords
  | semantics
  deriving DecidableEq, Repr

def ChangeCode.text : ChangeCode → String
  | admission => "admission"
  | callerPopulation => "caller_population"
  | contentPresence => "content_presence"
  | coverage => "coverage"
  | entries => "entries"
  | lifecycle => "lifecycle"
  | mapping => "mapping"
  | paths => "paths"
  | physicalRecords => "physical_records"
  | semantics => "semantics"

theorem ChangeCode.text_injective : Function.Injective ChangeCode.text := by
  intro first second
  cases first <;> cases second <;> simp [ChangeCode.text]

instance : Ord ChangeCode := ⟨compareOn ChangeCode.text⟩

instance : TransOrd ChangeCode := inferInstanceAs (TransCmp (compareOn ChangeCode.text))

instance : LawfulEqOrd ChangeCode where
  eq_of_compare := eq_of_compareOn ChangeCode.text_injective

inductive Presence where
  | both
  | beforeOnly
  | afterOnly
  deriving DecidableEq, Repr

inductive Side where
  | before
  | after
  deriving DecidableEq, Repr

structure Device where
  major : UInt32
  minor : UInt32
  deriving DecidableEq, Repr

structure PhysicalIdentity where
  device : Device
  inode : UInt64
  sha256 : Option String
  buildId : Option String
  source : Option String
  deriving DecidableEq, Repr

/-- Identities are ordered field by field. -/
def PhysicalIdentity.fields (identity : PhysicalIdentity) :
    UInt32 × UInt32 × UInt64 × Option String × Option String × Option String :=
  (identity.device.major, identity.device.minor, identity.inode, identity.sha256,
    identity.buildId, identity.source)

theorem PhysicalIdentity.fields_injective : Function.Injective PhysicalIdentity.fields := by
  rintro ⟨⟨major, minor⟩, inode, sha256, buildId, source⟩
    ⟨⟨major', minor'⟩, inode', sha256', buildId', source'⟩ same
  simp only [PhysicalIdentity.fields, Prod.mk.injEq] at same
  obtain ⟨rfl, rfl, rfl, rfl, rfl, rfl⟩ := same
  rfl

instance : Ord PhysicalIdentity := ⟨compareOn PhysicalIdentity.fields⟩

instance : TransOrd PhysicalIdentity :=
  inferInstanceAs (TransCmp (compareOn PhysicalIdentity.fields))

instance : LawfulEqOrd PhysicalIdentity where
  eq_of_compare := eq_of_compareOn PhysicalIdentity.fields_injective

structure ModuleEvidence where
  paths : List String
  identity : PhysicalIdentity
  admission : Admission
  lifecycle : Label
  unloadedObserved : Bool
  unboundUse : Option UnboundUse
  deriving DecidableEq

structure ImageEvidence where
  authority : Label
  exe : Option Exe
  execObserved : Bool
  deriving DecidableEq, Repr

structure CallerEvidence where
  pid : UInt32
  startTime : Option UInt64
  startTimeUnit : String
  image : ImageEvidence
  lifecycle : Label
  lifecycleReason : Option String
  firstSeenNs : UInt64
  lastSeenNs : UInt64
  retired : Bool
  deriving DecidableEq, Repr

/-- References into the pooled evidence of one side. -/
abbrev CallerRef := Nat
abbrev ModuleRef := Nat
abbrev EdgeRef := Nat
abbrev ApplicationPathRef := Nat

structure EdgeEvidence where
  caller : CallerRef
  module : ModuleRef
  mapping : Mapping
  entries : Entries
  coverage : Option Coverage
  semantics : Label
  deriving DecidableEq, Repr

structure GapEvidence where
  caller : Option CallerRef
  module : Option ModuleRef
  pid : Option UInt32
  subject : String
  reason : String
  budget : Option Refusal
  repeats : UInt64
  deriving DecidableEq, Repr

structure SideEvidence where
  callers : List CallerEvidence
  modules : List ModuleEvidence
  edges : List EdgeEvidence
  callerOccurrences : List CallerRef
  moduleOccurrences : List ModuleRef
  edgeOccurrences : List EdgeRef
  deriving DecidableEq

structure PopulationEvidence where
  callers : List CallerRef
  modules : List ModuleRef
  deriving DecidableEq, Repr

structure Refusals where
  reportedBudgetGaps : Nat
  budgetCounters : ExtTreeMap String (Option UInt64)

structure LossEvidence where
  lifecycle : Option Lifecycle
  nativeWitnesses : Option NativeWitnesses

@[ext]
structure SnapshotSummary where
  scope : String
  clock : Clock
  observation : Observation
  pidNamespace : Option PidNamespace
  scopeCompleteness : String
  reportedGaps : Nat
  suppressedGaps : UInt64
  refusals : Refusals
  budgets : Budgets
  lossEvidence : LossEvidence
  gaps : List GapEvidence
  evidence : SideEvidence

@[ext]
structure Comparison where
  hostRelation : String
  bootRelation : String
  processContinuity : String
  physicalContinuity : String
  counterRelation : String
  scopeRelation : String
  applicationPaths : List String
  deriving DecidableEq, Repr

@[ext]
structure Summary where
  applicationGroupsCompared : Nat
  applicationGroupsChanged : Nat
  contentBoth : Nat
  contentBeforeOnly : Nat
  contentAfterOnly : Nat
  modulePathsChanged : Nat
  unresolvedObservations : Nat
  deriving DecidableEq, Repr

structure ApplicationKey where
  exePathRef : ApplicationPathRef
  sha256 : String
  deriving DecidableEq, Repr

/-- One row of module content. The key is the digest. -/
structure ContentRow where
  sha256 : String
  presence : Presence
  changes : List ChangeCode
  before : List ModuleRef
  after : List ModuleRef
  deriving DecidableEq, Repr

structure ApplicationChange where
  key : ApplicationKey
  presence : Presence
  changes : List ChangeCode
  before : List EdgeRef
  after : List EdgeRef
  beforePopulation : PopulationEvidence
  afterPopulation : PopulationEvidence
  deriving DecidableEq, Repr

/-- A module path whose recorded contents differ. The evidence of a side is the
digests recorded under the path. -/
structure ModulePathChange where
  path : String
  presence : Presence
  changes : List ChangeCode
  before : List (Option String)
  after : List (Option String)
  deriving DecidableEq, Repr

inductive UnresolvedKind where
  | caller
  | module
  | edge
  deriving DecidableEq, Repr

inductive UnresolvedReason where
  | missingModuleDigest
  | missingExecutablePath
  | noModuleObservation
  deriving DecidableEq, Repr

structure Unresolved where
  side : Side
  kind : UnresolvedKind
  reasons : List UnresolvedReason
  caller : Option CallerRef
  module : Option ModuleRef
  observation : Option EdgeRef
  deriving DecidableEq, Repr

@[ext]
structure DiffReport where
  schema : String
  before : SnapshotSummary
  after : SnapshotSummary
  comparison : Comparison
  summary : Summary
  moduleContents : List ContentRow
  applicationChanges : List ApplicationChange
  modulePathChanges : List ModulePathChange
  unresolved : List Unresolved
  limitations : List String

/-! ## Mirrored reports -/

def Presence.mirror : Presence → Presence
  | both => both
  | beforeOnly => afterOnly
  | afterOnly => beforeOnly

def Side.mirror : Side → Side
  | before => after
  | after => before

def Summary.mirror (summary : Summary) : Summary :=
  { summary with
    contentBeforeOnly := summary.contentAfterOnly
    contentAfterOnly := summary.contentBeforeOnly }

def ContentRow.mirror (row : ContentRow) : ContentRow :=
  { row with presence := row.presence.mirror, before := row.after, after := row.before }

def ApplicationChange.mirror (row : ApplicationChange) : ApplicationChange :=
  { row with
    presence := row.presence.mirror
    before := row.after
    after := row.before
    beforePopulation := row.afterPopulation
    afterPopulation := row.beforePopulation }

def ModulePathChange.mirror (row : ModulePathChange) : ModulePathChange :=
  { row with presence := row.presence.mirror, before := row.after, after := row.before }

def Unresolved.mirror (row : Unresolved) : Unresolved := { row with side := row.side.mirror }

/-- The report with the two sides exchanged: every row keeps its key and its
change codes. -/
def DiffReport.mirror (report : DiffReport) : DiffReport :=
  { report with
    before := report.after
    after := report.before
    summary := report.summary.mirror
    moduleContents := report.moduleContents.map ContentRow.mirror
    applicationChanges := report.applicationChanges.map ApplicationChange.mirror
    modulePathChanges := report.modulePathChanges.map ModulePathChange.mirror
    unresolved := report.unresolved.map Unresolved.mirror }

/-- Two reports that differ in the order of their unresolved rows at most. -/
def DiffReport.SameUpToUnresolvedOrder (first second : DiffReport) : Prop :=
  first.unresolved.Perm second.unresolved ∧
    first = { second with unresolved := first.unresolved }

end P11Scope.Inventory
