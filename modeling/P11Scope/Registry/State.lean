import P11Scope.Binder.State

/-!
# Witness notes in the caller registry

The registry columns that witness notes read and write: modules and their
module-level use, mapping edges, the placement counters and the gap log.  A
staged mutation is applied at publication.  The outer `none` of an operation is
a failed expectation of the source or an overflow of a plain counter.
-/

namespace P11Scope.Registry

open Std Lib.TreeMap
open Binder (CallerId UnboundReason)

abbrev ModuleId := UInt32

def callerLabel (caller : CallerId) : String := "c" ++ toString caller.toNat

inductive ModuleKey where
  | physical (devMajor devMinor ino : UInt64) (sha256 : Option String)
  | unidentified (path : String)
  deriving DecidableEq, Repr

/-- The key as a reason suffix for a gap that has no module id. -/
def ModuleKey.gapSuffix : ModuleKey → String
  | .physical devMajor devMinor ino _ =>
    " [module key: dev " ++ toString devMajor.toNat ++ ":" ++ toString devMinor.toNat ++
      " inode " ++ toString ino.toNat ++ "]"
  | .unidentified path => " [module key: path " ++ path ++ "]"

inductive AdmissionState where
  | admitted
  | refused
  | unresolved
  deriving DecidableEq, Repr

def AdmissionState.label : AdmissionState → String
  | .admitted => "admitted"
  | .refused => "refused"
  | .unresolved => "unresolved"

def AdmissionState.rank : AdmissionState → Nat
  | .unresolved => 0
  | .refused => 1
  | .admitted => 2

structure ModuleInfo where
  path : String
  key : ModuleKey
  doubleLoaded : Bool
  admission : AdmissionState
  admissionEndpoints : Option Nat
  admissionReasons : List String
  deriving DecidableEq, Repr

/-- Module-level positive use that no caller edge carries. -/
structure UnboundUse where
  firstNs : Nat
  rows : Nat
  reasons : ExtTreeMap String Nat
  entries : Nat

/-- One more row of a module's use. -/
def UnboundUse.note (use : Option UnboundUse) (firstNs : Nat) (code : String) (entries : Nat) :
    UnboundUse :=
  let before := use.getD ⟨firstNs, 0, ∅, 0⟩
  { firstNs := min before.firstNs firstNs
    rows := satAdd before.rows 1
    entries := satAdd before.entries entries
    reasons := before.reasons.insert code (satAdd (before.reasons.getD code 0) 1) }

structure ModuleRecord where
  key : ModuleKey
  paths : ExtTreeSet String
  admission : AdmissionState
  admissionEndpoints : Option Nat
  admissionReasons : List String
  unboundUse : Option UnboundUse

structure EdgeRecord where
  witnessedFirstNs : Option Nat := none
  doubleLoaded : Bool := false
  deriving DecidableEq, Repr

structure BudgetRefusal where
  resource : String
  limit : Nat
  requested : Nat
  deriving DecidableEq, Repr

structure RegistryGap where
  caller : Option CallerId
  module : Option ModuleId
  pid : Option UInt32
  subject : String
  reason : String
  budget : Option BudgetRefusal
  deriving DecidableEq, Repr

structure RegistryLimits where
  maxCallers : Nat
  maxModules : Nat
  maxEdges : Nat
  maxGaps : Nat
  maxEndpoints : Nat
  deriving DecidableEq, Repr

def RegistryLimits.default : RegistryLimits := ⟨4096, 4096, 32768, 1024, 1048576⟩

/-- The limits of an inventory run: the defaults with an optional gap bound. -/
def registryLimits (maxGaps : Option Nat) : RegistryLimits :=
  { RegistryLimits.default with maxGaps := maxGaps.getD RegistryLimits.default.maxGaps }

/-! ## Texts -/

def noMappingEdge : String := "no_mapping_edge"
def unboundUseSubject : String := "used by an unidentified caller image"
def witnessWithoutMapping : String := "native witness without mapping evidence"
def witnessUnknownModule : String := "native witness for an unknown module"
def witnessSharedEndpoint : String := "ambiguous shared endpoint"
def coverageWithoutMapping : String := "usage coverage without mapping evidence"

def withKey (reason : String) (module : Option ModuleId) (key : ModuleKey) : String :=
  if module.isNone then reason ++ key.gapSuffix else reason

/-! ## Gaps -/

def maxSuppressedGapMemory : Nat := 4096

/-- Published gaps with their repeats, and the fingerprints of suppressed ones. -/
structure GapLog where
  gaps : List RegistryGap := []
  repeats : List Nat := []
  suppressedSeen : ExtTreeSet UInt64 := ∅
  suppressed : Nat := 0

def GapLog.push (maxGaps : Nat) (fingerprint : RegistryGap → UInt64) (log : GapLog)
    (gap : RegistryGap) : GapLog :=
  match log.gaps.idxOf? gap with
  | some index => { log with repeats := log.repeats.modify index fun count => satAdd count 1 }
  | none =>
    if maxGaps ≤ log.gaps.length then
      let mark := fingerprint gap
      if log.suppressedSeen.contains mark then log
      else
        { log with
          suppressed := satAdd log.suppressed 1
          suppressedSeen :=
            if log.suppressedSeen.size < maxSuppressedGapMemory then
              log.suppressedSeen.insert mark
            else log.suppressedSeen }
    else { log with gaps := log.gaps ++ [gap], repeats := log.repeats ++ [1] }

/-! ## The registry -/

structure WitnessPlacement where
  edge : Nat := 0
  module : Nat := 0
  ambiguous : Nat := 0
  unresolved : Nat := 0
  deriving DecidableEq, Repr

def WitnessPlacement.total (placement : WitnessPlacement) : Nat :=
  placement.edge + placement.module + placement.ambiguous + placement.unresolved

/-- The remaining mutation kinds write columns that are not modelled here and
may record gaps. -/
inductive Mutation where
  | noteMapping (caller : CallerId) (pid : UInt32) (info : ModuleInfo)
  | noteWitness (caller : CallerId) (module : ModuleKey) (firstNs : Nat)
  | noteBoundWitness (caller : CallerId) (modules : List ModuleKey) (firstNs : Nat)
  | noteUnboundWitness (modules : List ModuleKey) (firstNs : Nat) (reason : UnboundReason)
      (entries : Nat)
  | noteUnresolvedWitness
  | retireCaller (caller : CallerId)
  | recordGaps (gaps : List RegistryGap)
  deriving DecidableEq, Repr

/-- `modulesByKey` lists the keys in registration order. -/
structure CallerRegistry where
  limits : RegistryLimits
  fingerprint : RegistryGap → UInt64
  nextModule : UInt32 := 0
  callers : ExtTreeSet CallerId := ∅
  retired : ExtTreeSet CallerId := ∅
  modules : ExtTreeMap ModuleId ModuleRecord := ∅
  modulesByKey : List (ModuleKey × ModuleId) := []
  edges : ExtTreeMap (CallerId × ModuleId) EdgeRecord := ∅
  gapLog : GapLog := {}
  endpointsTotal : Nat := 0
  coverageGapMemo : List (CallerId × ModuleKey × String) := []
  witnessGapMemo : List (ModuleKey × String) := []
  witnessPlacement : WitnessPlacement := {}
  staged : List Mutation := []

namespace CallerRegistry

def new (limits : RegistryLimits) (fingerprint : RegistryGap → UInt64) : CallerRegistry :=
  { limits := limits, fingerprint := fingerprint }

variable (registry : CallerRegistry)

def moduleIdFor (key : ModuleKey) : Option ModuleId :=
  registry.modulesByKey.lookup key

def pushGap (gap : RegistryGap) : CallerRegistry :=
  { registry with
    gapLog := registry.gapLog.push registry.limits.maxGaps registry.fingerprint gap }

/-- One module-level witness gap, once per module and subject. -/
def pushWitnessGap (key : ModuleKey) (module : Option ModuleId) (subject reason : String) :
    CallerRegistry :=
  if registry.witnessGapMemo.contains (key, subject) then registry
  else
    let noted : CallerRegistry :=
      if registry.witnessGapMemo.length < registry.limits.maxGaps then
        { registry with witnessGapMemo := (key, subject) :: registry.witnessGapMemo }
      else registry
    noted.pushGap ⟨none, module, none, subject, withKey reason module key, none⟩

variable (caller : CallerId)

/-- One coverage-note gap, once per caller, module and subject. -/
def pushCoverageGap (key : ModuleKey) (module : Option ModuleId) (subject reason : String) :
    CallerRegistry :=
  if registry.coverageGapMemo.contains (caller, key, subject) then registry
  else
    let noted : CallerRegistry :=
      if registry.coverageGapMemo.length < registry.limits.maxGaps then
        { registry with coverageGapMemo := (caller, key, subject) :: registry.coverageGapMemo }
      else registry
    noted.pushGap ⟨some caller, module, none, subject, withKey reason module key, none⟩

/-! ## Mappings -/

variable (pid : UInt32)

/-- The caller enters the table, unless it is full. -/
def admitCaller : CallerRegistry × Bool :=
  if registry.callers.contains caller then (registry, true)
  else if registry.limits.maxCallers ≤ registry.callers.size then
    (registry.pushGap ⟨some caller, none, some pid, "caller capacity exhausted",
      "the registry retains at most " ++ toString registry.limits.maxCallers ++
        " callers (requested caller " ++ toString (registry.callers.size + 1) ++
        "); the mapping was dropped",
      some ⟨"callers", registry.limits.maxCallers, registry.callers.size + 1⟩⟩, false)
  else ({ registry with callers := registry.callers.insert caller }, true)

variable (info : ModuleInfo)

def noteUncertainty : CallerRegistry :=
  match info.key with
  | .physical _ _ _ _ => registry
  | .unidentified _ =>
    registry.pushGap ⟨some caller, registry.moduleIdFor info.key, some pid,
      "module identity uncertain",
      "no comparable file identity for " ++ info.path ++
        "; the edge is keyed by path and distinct objects sharing it would merge", none⟩

/-- The endpoints an admission charges to the census. -/
def admissionCost (admission : AdmissionState) (endpoints : Option Nat) : Nat :=
  match admission with
  | .admitted => endpoints.getD 0
  | .refused => 0
  | .unresolved => 0

def maxAdmissionReasons : Nat := 8

def detail (reasons : List String) : String :=
  if reasons.isEmpty then "" else " (" ++ "; ".intercalate reasons ++ ")"

/-- A retained module follows the attach set's verdict; it is never demoted. -/
def followAdmission (id : ModuleId) (record : ModuleRecord) (caller : CallerId) (pid : UInt32)
    (info : ModuleInfo) : CallerRegistry :=
  if info.admission.rank < record.admission.rank then
    let note := "a later verdict read " ++ info.admission.label ++ detail info.admissionReasons ++
      " and was not applied: the " ++ record.admission.label ++ " verdict stands"
    if record.admissionReasons.length < maxAdmissionReasons &&
        !record.admissionReasons.contains note then
      { registry with
        modules := registry.modules.insert id
          { record with admissionReasons := record.admissionReasons ++ [note] } }
    else { registry with modules := registry.modules.insert id record }
  else
    let followed : CallerRegistry :=
      { registry with
        modules := registry.modules.insert id
          { record with
            admission := info.admission
            admissionEndpoints := info.admissionEndpoints
            admissionReasons := info.admissionReasons }
        endpointsTotal := registry.endpointsTotal -
            admissionCost record.admission record.admissionEndpoints +
          admissionCost info.admission info.admissionEndpoints }
    if info.admission = record.admission then followed
    else
      followed.pushGap ⟨some caller, some id, some pid, "module admission changed",
        info.path ++ ": admission changed from " ++ record.admission.label ++ " to " ++
          info.admission.label ++ detail info.admissionReasons, none⟩

def saturatingSucc (id : ModuleId) : ModuleId := if id.toNat = 2 ^ 32 - 1 then id else id + 1

/-- A new module, unless the module table or the endpoint census is full. -/
def registerModule : CallerRegistry × Option ModuleId :=
  let cost := admissionCost info.admission info.admissionEndpoints
  if registry.limits.maxModules ≤ registry.modules.size then
    (registry.pushGap ⟨some caller, none, some pid, "module capacity exhausted",
      "the registry retains at most " ++ toString registry.limits.maxModules ++
        " modules (requested module " ++ toString (registry.modules.size + 1) ++
        "); the mapping was dropped",
      some ⟨"modules", registry.limits.maxModules, registry.modules.size + 1⟩⟩, none)
  else if registry.limits.maxEndpoints < registry.endpointsTotal + cost then
    (registry.pushGap ⟨some caller, none, some pid, "endpoint budget exhausted",
      "the registry retains at most " ++ toString registry.limits.maxEndpoints ++
        " attach endpoints (requested " ++ toString (registry.endpointsTotal + cost) ++
        "); the mapping was dropped",
      some ⟨"endpoints", registry.limits.maxEndpoints, registry.endpointsTotal + cost⟩⟩, none)
  else
    let id := registry.nextModule
    ({ registry with
        nextModule := saturatingSucc id
        endpointsTotal := registry.endpointsTotal + cost
        modules := registry.modules.insert id
          ⟨info.key, ExtTreeSet.ofList [info.path], info.admission, info.admissionEndpoints,
            info.admissionReasons, none⟩
        modulesByKey := registry.modulesByKey ++ [(info.key, id)] }, some id)

/-- The module of a mapping note. -/
def resolveModule : Option (CallerRegistry × Option ModuleId) :=
  match registry.moduleIdFor info.key with
  | some id => do
      let record ← registry.modules[id]?
      let named := { record with paths := record.paths.insert info.path }
      pure (registry.followAdmission id named caller pid info, some id)
  | none => pure (registry.registerModule caller pid info)

/-- The same-file double-load latch of an edge. -/
def applyDoubleLoad (module : ModuleId) (pid : UInt32) (doubleLoaded : Bool) : CallerRegistry :=
  match registry.edges[(caller, module)]? with
  | none => registry
  | some edge =>
    if edge.doubleLoaded = doubleLoaded then registry
    else
      let latched : CallerRegistry :=
        { registry with
          edges := registry.edges.insert (caller, module)
            { edge with doubleLoaded := doubleLoaded } }
      if doubleLoaded then
        latched.pushGap ⟨some caller, some module, some pid, "same-file double-load detected",
          "this object is mapped twice with duplicate executable file offsets; observed calls " ++
            "cannot attribute to one instance and establish no claim", none⟩
      else latched

/-- The edge of a mapping note, unless the edge table is full. -/
def mapEdge (module : ModuleId) (pid : UInt32) (doubleLoaded : Bool) : CallerRegistry :=
  if registry.edges.contains (caller, module) then
    registry.applyDoubleLoad caller module pid doubleLoaded
  else if registry.limits.maxEdges ≤ registry.edges.size then
    registry.pushGap ⟨some caller, some module, some pid, "edge capacity exhausted",
      "the registry retains at most " ++ toString registry.limits.maxEdges ++
        " edges (requested edge " ++ toString (registry.edges.size + 1) ++
        "); the mapping was dropped",
      some ⟨"edges", registry.limits.maxEdges, registry.edges.size + 1⟩⟩
  else
    let mapped : CallerRegistry :=
      { registry with edges := registry.edges.insert (caller, module) {} }
    mapped.applyDoubleLoad caller module pid doubleLoaded

def applyMapping : Option CallerRegistry :=
  if registry.retired.contains caller then
    some (registry.pushGap ⟨some caller, none, some pid, "mapping for a retired caller",
      "the caller incarnation retired; late mapping evidence was dropped, not merged", none⟩)
  else
    match registry.admitCaller caller pid with
    | (refused, false) => some refused
    | (admitted, true) => do
        let resolved ← (admitted.noteUncertainty caller pid info).resolveModule caller pid info
        match resolved.2 with
        | none => some resolved.1
        | some module => some (resolved.1.mapEdge caller module pid info.doubleLoaded)

/-! ## Witness notes -/

/-- `+= 1` on a plain 64-bit counter. -/
def bump (counter : Nat) : Option Nat := if counter < u64Max then some (counter + 1) else none

inductive RowPlacement where
  | edge (key : ModuleKey) (id : ModuleId)
  | noMapping (key : ModuleKey)
  | unresolved
  | shared
  deriving DecidableEq, Repr

variable (modules : List ModuleKey)

/-- The candidate modules with an edge to the caller. -/
def edged : List (ModuleKey × ModuleId) :=
  modules.filterMap fun key =>
    match registry.moduleIdFor key with
    | some id => if registry.edges.contains (caller, id) then some (key, id) else none
    | none => none

def placeBoundRow : RowPlacement :=
  match registry.edged caller modules, modules with
  | [(key, id)], _ => .edge key id
  | [], [key] => .noMapping key
  | [], [] => .unresolved
  | _, _ => .shared

def placeUnresolved : Option CallerRegistry := do
  let count ← bump registry.witnessPlacement.unresolved
  some { registry with
    witnessPlacement := { registry.witnessPlacement with unresolved := count } }

/-- One row whose endpoint several modules share: a gap per module. -/
def applySharedEndpoint (text : String) : Option CallerRegistry := do
  let count ← bump registry.witnessPlacement.ambiguous
  let counted : CallerRegistry :=
    { registry with witnessPlacement := { registry.witnessPlacement with ambiguous := count } }
  some (modules.foldl (fun registry key =>
    registry.pushWitnessGap key (registry.moduleIdFor key) witnessSharedEndpoint
      ("a native witness endpoint is shared by " ++ toString modules.length ++
        " admitted modules (" ++ text ++ "): which module was used is ambiguous, so no edge and " ++
        "no module-level use is recorded")) counted)

/-- One row of module-level use.  `unidentified`: the row's caller image is
unknown, so the module gets the unidentified-caller gap. -/
def applyUnboundUse (key : ModuleKey) (firstNs : Nat) (code text : String) (unidentified : Bool)
    (entries : Nat) : Option CallerRegistry :=
  match registry.moduleIdFor key with
  | none => do
      let counted ← registry.placeUnresolved
      some (counted.pushWitnessGap key none witnessUnknownModule
        ("a native witness names a module no mapping note registered (" ++ text ++
          "); the use cannot be shown"))
  | some id => do
      let count ← bump registry.witnessPlacement.module
      let record ← registry.modules[id]?
      let path := record.paths.toList.headD ""
      let used : CallerRegistry :=
        { registry with
          witnessPlacement := { registry.witnessPlacement with module := count }
          modules := registry.modules.insert id
            { record with
              unboundUse := some (UnboundUse.note record.unboundUse firstNs code entries) } }
      if unidentified then
        some (used.pushWitnessGap key (some id) unboundUseSubject
          (path ++ ": native witness rows of this module were not bound to a caller incarnation " ++
            "(first: " ++ text ++ "); module-level positive use only, never attributed by pid"))
      else some used

def earlier (was : Option Nat) (firstNs : Nat) : Option Nat :=
  some (was.elim firstNs fun was => min was firstNs)

def witnessEdge (id : ModuleId) (firstNs : Nat) : Option CallerRegistry := do
  let edge ← registry.edges[(caller, id)]?
  some { registry with
    edges := registry.edges.insert (caller, id)
      { edge with witnessedFirstNs := earlier edge.witnessedFirstNs firstNs } }

def applyBoundWitness (firstNs : Nat) : Option CallerRegistry :=
  match registry.placeBoundRow caller modules with
  | .edge _ id => do
      let witnessed ← registry.witnessEdge caller id firstNs
      let count ← bump witnessed.witnessPlacement.edge
      some { witnessed with
        witnessPlacement := { witnessed.witnessPlacement with edge := count } }
  | .noMapping key =>
    (registry.pushCoverageGap caller key (registry.moduleIdFor key) witnessWithoutMapping
      (callerLabel caller ++ " has no mapping edge to this module: the witnessed use stays " ++
        "module-level; a witness never invents a mapping")).applyUnboundUse key firstNs
          noMappingEdge "the bound caller has no mapping edge to the module" false 0
  | .unresolved => registry.placeUnresolved
  | .shared => registry.applySharedEndpoint modules "bound to a caller incarnation"

def applyUnboundWitness (firstNs : Nat) (reason : UnboundReason) (entries : Nat) :
    Option CallerRegistry :=
  match modules with
  | [key] => registry.applyUnboundUse key firstNs reason.code reason.text true entries
  | [] => registry.placeUnresolved
  | shared => registry.applySharedEndpoint shared reason.text

/-- A coverage note's edge; without one the note becomes a gap. -/
def applyWitness (key : ModuleKey) (firstNs : Nat) : Option CallerRegistry :=
  match registry.moduleIdFor key with
  | some id =>
    if registry.edges.contains (caller, id) then registry.witnessEdge caller id firstNs
    else some (registry.pushCoverageGap caller key (some id) coverageWithoutMapping
      "usage coverage never invents mappings; the note was dropped")
  | none => some (registry.pushCoverageGap caller key none coverageWithoutMapping
      "usage coverage never invents mappings; the note was dropped")

def apply : Mutation → Option CallerRegistry
  | .noteMapping caller pid info => registry.applyMapping caller pid info
  | .noteWitness caller module firstNs => registry.applyWitness caller module firstNs
  | .noteBoundWitness caller modules firstNs => registry.applyBoundWitness caller modules firstNs
  | .noteUnboundWitness modules firstNs reason entries =>
    registry.applyUnboundWitness modules firstNs reason entries
  | .noteUnresolvedWitness => registry.placeUnresolved
  | .retireCaller caller => some { registry with retired := registry.retired.insert caller }
  | .recordGaps gaps => some (gaps.foldl pushGap registry)

/-! ## Staging and publication -/

def stage (mutation : Mutation) : CallerRegistry :=
  { registry with staged := registry.staged ++ [mutation] }

/-- The staged mutations are applied in order. -/
def publish : Option CallerRegistry :=
  registry.staged.foldlM apply { registry with staged := [] }

end CallerRegistry

end P11Scope.Registry
