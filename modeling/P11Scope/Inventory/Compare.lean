import P11Scope.Inventory.Report

/-!
# Comparison of two inventory snapshots

Facts are compared through ranks: every record contributes the encodings of its
normalized facts, and equal encodings of the two snapshots get one rank. Times
are normalized away before encoding; the evidence shown in the report keeps them.
-/

namespace P11Scope.Inventory

open Std Lib Lib.Sorting Lib.TreeMap

/-! ## Encoded facts -/

/-- The kinds of value the comparison encodes. -/
inductive FactKind where
  | callerPopulation
  | callerLifecycle
  | caller
  | identity
  | paths
  | admission
  | moduleLifecycle
  | moduleFull
  | mapping
  | entries
  | coverage
  | semantics
  | module
  | edge
  | gap
  | unresolved
  deriving DecidableEq, Repr

abbrev FactKind.Fact : FactKind → Type
  | callerPopulation => UInt32 × Option UInt64 × String × ImageEvidence
  | callerLifecycle => Label × Option String × Bool
  | caller => CallerEvidence
  | identity => PhysicalIdentity
  | paths => List String
  | admission => Admission
  | moduleLifecycle => Label × Bool × Option UnboundUse
  | moduleFull =>
    PhysicalIdentity × List String × Admission × Label × Bool × Option UnboundUse
  | mapping => Mapping
  | entries => Entries
  | coverage => Option Coverage
  | semantics => Label
  | module => ModuleEvidence
  | edge => EdgeEvidence
  | gap => GapEvidence
  | unresolved => Unresolved

/-- The serializer: each kind of value has its own injective encoding. Encodings
of different kinds may coincide. -/
structure Encoding where
  encoded : (kind : FactKind) → kind.Fact → List UInt8
  injective : ∀ kind, Function.Injective (encoded kind)

/-! ## Normalized facts -/

def callerEvidence (c : Caller) : CallerEvidence :=
  { pid := c.pid
    startTime := c.startTime
    startTimeUnit := c.startTimeUnit
    image :=
      { authority := c.image.authority
        exe := c.image.exe
        execObserved := c.image.execObserved }
    lifecycle := c.lifecycle
    lifecycleReason := c.lifecycleReason
    firstSeenNs := c.firstSeenNs
    lastSeenNs := c.lastSeenNs
    retired := c.retired }

/-- Sorted, with repeated neighbours removed. -/
def sortedDistinct (items : List String) : List String :=
  (sorted items).destutter (· ≠ ·)

def moduleEvidence (m : Module) : ModuleEvidence :=
  { paths := sortedDistinct m.paths
    identity :=
      { device := ⟨m.deviceMajor, m.deviceMinor⟩
        inode := m.inode
        sha256 := m.sha256
        buildId := m.buildId
        source := m.identitySource }
    admission := { m.admission with reasons := sortedDistinct m.admission.reasons }
    lifecycle := m.lifecycle
    unloadedObserved := m.unloadedObserved
    unboundUse := m.unboundUse }

def CallerEvidence.timeless (full : CallerEvidence) : CallerEvidence :=
  { full with firstSeenNs := 0, lastSeenNs := 0 }

def Admission.timeless (admission : Admission) : Admission :=
  { admission with
    history := admission.history.map fun changes =>
      changes.map fun change => { change with atNs := 0 } }

def UnboundUse.timeless (use : UnboundUse) : UnboundUse := { use with firstNs := 0 }

def ModuleEvidence.timeless (full : ModuleEvidence) : ModuleEvidence :=
  { full with
    admission := full.admission.timeless
    unboundUse := full.unboundUse.map UnboundUse.timeless }

def Mapping.timeless (mapping : Mapping) : Mapping :=
  { mapping with firstSeenNs := 0, lastSeenNs := 0 }

def Entries.timeless (entries : Entries) : Entries :=
  { entries with firstSeenNs := none, lastSeenNs := none }

/-- The end of a coverage interval keeps whether it is present. -/
def Coverage.timeless (coverage : Coverage) : Coverage :=
  { coverage with
    sinceNs := none
    firstNs := none
    untilNs := coverage.untilNs.map fun _ => 0 }

section Keys

variable (enc : Encoding)

def callerKeys (c : Caller) : List (List UInt8) :=
  let full := (callerEvidence c).timeless
  [enc.encoded .callerPopulation (full.pid, full.startTime, full.startTimeUnit, full.image),
    enc.encoded .callerLifecycle (full.lifecycle, full.lifecycleReason, full.retired),
    enc.encoded .caller full]

def moduleKeys (m : Module) : List (List UInt8) :=
  let full := (moduleEvidence m).timeless
  [enc.encoded .identity full.identity,
    enc.encoded .paths full.paths,
    enc.encoded .admission full.admission,
    enc.encoded .moduleLifecycle (full.lifecycle, full.unloadedObserved, full.unboundUse),
    enc.encoded .moduleFull (full.identity, full.paths, full.admission, full.lifecycle,
      full.unloadedObserved, full.unboundUse)]

def edgeKeys (e : Edge) : List (List UInt8) :=
  [enc.encoded .mapping e.mapping.timeless,
    enc.encoded .entries e.entries.timeless,
    enc.encoded .coverage (e.coverage.map Coverage.timeless),
    enc.encoded .semantics e.semantics]

end Keys

/-! ## Ranks -/

structure CallerRanks where
  population : Nat
  lifecycle : Nat
  full : Nat
  deriving DecidableEq, Repr, Inhabited

structure ModuleRanks where
  physical : Nat
  paths : Nat
  admission : Nat
  lifecycle : Nat
  full : Nat
  deriving DecidableEq, Repr, Inhabited

structure EdgeRanks where
  mapping : Nat
  entries : Nat
  coverage : Nat
  semantics : Nat
  deriving DecidableEq, Repr, Inhabited

structure Ranks where
  callers : List CallerRanks
  modules : List ModuleRanks
  edges : List EdgeRanks

namespace Ranks

def callerAt (r : Ranks) (index : Nat) : CallerRanks := r.callers.getD index default

def moduleAt (r : Ranks) (index : Nat) : ModuleRanks := r.modules.getD index default

def edgeAt (r : Ranks) (index : Nat) : EdgeRanks := r.edges.getD index default

end Ranks

def CallerRanks.ofRow (row : List Nat) : CallerRanks :=
  ⟨row.getD 0 0, row.getD 1 0, row.getD 2 0⟩

def ModuleRanks.ofRow (row : List Nat) : ModuleRanks :=
  ⟨row.getD 0 0, row.getD 1 0, row.getD 2 0, row.getD 3 0, row.getD 4 0⟩

def EdgeRanks.ofRow (row : List Nat) : EdgeRanks :=
  ⟨row.getD 0 0, row.getD 1 0, row.getD 2 0, row.getD 3 0⟩

section Ranking

variable (enc : Encoding)

/-- The key rows of a snapshot: callers, then modules, then edges. -/
def snapshotKeys (s : Snapshot) : List (List (List UInt8)) :=
  s.callers.map (callerKeys enc) ++ (s.modules.map (moduleKeys enc) ++
    s.edges.map (edgeKeys enc))

/-- All keys of both snapshots. -/
def rankTable (before after : Snapshot) : ExtTreeSet (List UInt8) :=
  ExtTreeSet.ofList (snapshotKeys enc before ++ snapshotKeys enc after).flatten

/-- One side's ranks, read back out of its key rows. -/
def sideRanks (table : ExtTreeSet (List UInt8)) (s : Snapshot) : Ranks :=
  let values := (snapshotKeys enc s).map fun row => row.map (rank table)
  { callers := (values.take s.callers.length).map CallerRanks.ofRow
    modules := ((values.drop s.callers.length).take s.modules.length).map ModuleRanks.ofRow
    edges := (values.drop (s.callers.length + s.modules.length)).map EdgeRanks.ofRow }

def ranks (before after : Snapshot) : Ranks × Ranks :=
  let table := rankTable enc before after
  (sideRanks enc table before, sideRanks enc table after)

end Ranking

structure EdgeFact where
  caller : Nat
  module : Nat
  mapping : Nat
  entries : Nat
  coverage : Nat
  semantics : Nat
  deriving DecidableEq, Repr

def EdgeFact.fields (fact : EdgeFact) : Nat × Nat × Nat × Nat × Nat × Nat :=
  (fact.caller, fact.module, fact.mapping, fact.entries, fact.coverage, fact.semantics)

theorem EdgeFact.fields_injective : Function.Injective EdgeFact.fields := by
  rintro ⟨caller, module, mapping, entries, coverage, semantics⟩
    ⟨caller', module', mapping', entries', coverage', semantics'⟩ same
  simp only [EdgeFact.fields, Prod.mk.injEq] at same
  obtain ⟨rfl, rfl, rfl, rfl, rfl, rfl⟩ := same
  rfl

instance : Ord EdgeFact := ⟨compareOn EdgeFact.fields⟩

instance : TransOrd EdgeFact := inferInstanceAs (TransCmp (compareOn EdgeFact.fields))

instance : LawfulEqOrd EdgeFact where
  eq_of_compare := eq_of_compareOn EdgeFact.fields_injective

variable (s : Snapshot)

def edgeFact (r : Ranks) (i : Nat) : EdgeFact :=
  let e := s.edgeAt i
  let v := r.edgeAt i
  { caller := (r.callerAt e.caller).full
    module := (r.moduleAt e.module).full
    mapping := v.mapping
    entries := v.entries
    coverage := v.coverage
    semantics := v.semantics }

/-! ## Pooled evidence -/

section Pool

variable {T K : Type} [DecidableEq T] [Ord K]

/-- One step of the pooling loop: a row equal to the last fact reuses it. -/
def poolRow (held : List T × List Nat) (row : T) (i : Nat) : List T × List Nat :=
  let facts := if held.1.getLast? = some row then held.1 else held.1 ++ [row]
  (facts, held.2.set i (facts.length - 1))

/-- The distinct rows in the order of key and encoding, and for every source row
the position of its value. -/
def pool (encode : T → List UInt8) (rows : List T) (keys : List K) : List T × List Nat :=
  let ordered := sortBy (fun item : (K × List UInt8) × Nat × T => item.1)
    ((rows.zip keys).zipIdx.map fun item => ((item.1.2, encode item.1.1), item.2, item.1.1))
  ordered.foldl (fun held item => poolRow held item.2.2 item.2.1)
    ([], List.replicate ordered.length 0)

end Pool

structure Prepared where
  summary : SnapshotSummary
  callers : List CallerRef
  modules : List ModuleRef
  edges : List EdgeRef

section Prepare

variable (enc : Encoding)

def sortFull (kind : FactKind) (rows : List kind.Fact) : List kind.Fact :=
  sortBy (enc.encoded kind) rows

def budgetCounters (budgets : Budgets) : ExtTreeMap String (Option UInt64) :=
  let counters : ExtTreeMap String (Option UInt64) := ExtTreeMap.ofList
    [("callers", some budgets.callers.refused),
      ("modules", some budgets.modules.refused),
      ("edges", some budgets.edges.refused),
      ("endpoints", some budgets.endpoints.refused),
      ("semantic_state", some budgets.semanticState.refused)]
  ((counters.insert "inventory_endpoints"
      (budgets.inventoryEndpoints.bind fun held => held.refused)).insert
      "inventory_attach_modules"
        (budgets.inventoryAttachModules.map fun held => held.refused)).insert
      "native_preadmission" (budgets.nativePreadmission.map fun held => held.refused)

def gapEvidence (callers : List CallerRef) (modules : List ModuleRef) (g : Gap) : GapEvidence :=
  { caller := g.caller.map fun i => callers.getD i 0
    module := g.module.map fun i => modules.getD i 0
    pid := g.pid
    subject := g.subject
    reason := g.reason
    budget := g.budget
    repeats := g.repeats }

def edgeEvidence (callers : List CallerRef) (modules : List ModuleRef) (e : Edge) : EdgeEvidence :=
  { caller := callers.getD e.caller 0
    module := modules.getD e.module 0
    mapping := e.mapping
    entries := e.entries
    coverage := e.coverage
    semantics := e.semantics }

def poolCallers (s : Snapshot) (r : Ranks) : List CallerEvidence × List CallerRef :=
  pool (enc.encoded .caller) (s.callers.map callerEvidence)
    ((s.callers.zip r.callers).map fun pair => (pair.1.pid, pair.1.startTime, pair.2.full))

def poolModules (s : Snapshot) (r : Ranks) : List ModuleEvidence × List ModuleRef :=
  let modules := s.modules.map moduleEvidence
  pool (enc.encoded .module) modules
    ((modules.zip r.modules).map fun pair => (pair.1.identity, pair.2.full))

def poolEdges (s : Snapshot) (r : Ranks) (callers : List CallerRef) (modules : List ModuleRef) :
    List EdgeEvidence × List EdgeRef :=
  pool (enc.encoded .edge) (s.edges.map (edgeEvidence callers modules))
    ((List.range s.edges.length).map fun i => edgeFact s r i)

def prepare (s : Snapshot) (r : Ranks) : Prepared :=
  let callers := poolCallers enc s r
  let modules := poolModules enc s r
  let edges := poolEdges enc s r callers.2 modules.2
  let evidence : SideEvidence :=
    { callers := callers.1
      modules := modules.1
      edges := edges.1
      callerOccurrences := sorted callers.2
      moduleOccurrences := sorted modules.2
      edgeOccurrences := sorted edges.2 }
  { summary :=
      { scope := s.scope
        clock := s.clock
        observation := s.observation
        pidNamespace := s.pidNamespace
        scopeCompleteness := "unknown"
        reportedGaps := s.gaps.length
        suppressedGaps := s.gapsSuppressed
        refusals :=
          { reportedBudgetGaps := s.gaps.countP fun g => g.budget.isSome
            budgetCounters := budgetCounters s.budgets }
        budgets := s.budgets
        lossEvidence :=
          { lifecycle := s.observation.lifecycle
            nativeWitnesses := s.observation.nativeWitnesses }
        gaps := sortFull enc .gap (s.gaps.map (gapEvidence callers.2 modules.2))
        evidence }
    callers := callers.2
    modules := modules.2
    edges := edges.2 }

end Prepare

/-! ## Projection onto digests, paths and applications -/

/-- The recorded executable path, unless it is empty. -/
def exePath (c : Caller) : Option String :=
  c.image.exe.bind fun exe => exe.path.filter fun path => !path.isEmpty

structure Group where
  edges : List Nat
  callers : ExtTreeSet Nat
  modules : ExtTreeSet Nat

def Group.empty : Group := ⟨[], ∅, ∅⟩

def Group.add (group : Group) (entry : Nat × Nat × Nat) : Group :=
  { edges := group.edges ++ [entry.1]
    callers := group.callers.insert entry.2.1
    modules := group.modules.insert entry.2.2 }

structure Projection where
  contents : ExtTreeMap String (List Nat)
  paths : ExtTreeMap String (ExtTreeSet (Option String))
  applications : ExtTreeMap (Nat × String) Group

/-- The module positions with a digest. -/
def contentEntries : List (String × Nat) :=
  s.modules.zipIdx.filterMap fun item => item.1.sha256.map fun digest => (digest, item.2)

def pathEntries : List (String × Option String) :=
  s.modules.flatMap fun m => m.paths.map fun path => (path, m.sha256)

/-- The application of an edge: the caller's executable path and the module's
digest, where both are recorded. -/
def application (e : Edge) : Option (String × String) :=
  match exePath (s.callerAt e.caller), (s.moduleAt e.module).sha256 with
  | some path, some digest => some (path, digest)
  | _, _ => none

def applicationEntries (paths : ExtTreeSet String) : List ((Nat × String) × (Nat × Nat × Nat)) :=
  s.edges.zipIdx.filterMap fun item =>
    (application s item.1).map fun key =>
      ((rank paths key.1, key.2), (item.2, item.1.caller, item.1.module))

def project (paths : ExtTreeSet String) : Projection :=
  { contents := groupInto (fun held i => held ++ [i]) [] (contentEntries s)
    paths := groupInto (fun held digest => held.insert digest) ∅ (pathEntries s)
    applications := groupInto Group.add Group.empty (applicationEntries s paths) }

def presence (beforeEmpty afterEmpty : Bool) : Presence :=
  if beforeEmpty then .afterOnly
  else if afterEmpty then .beforeOnly
  else .both

def mapped (indexes map : List Nat) : List Nat :=
  sorted (indexes.map fun i => map.getD i 0)

def population (g : Group) (p : Prepared) : PopulationEvidence :=
  { callers := mapped g.callers.toList p.callers
    modules := mapped g.modules.toList p.modules }

end P11Scope.Inventory
