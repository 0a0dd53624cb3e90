import P11Scope.Inventory.Compare

/-!
# Change codes and the report

A row carries the codes of the categories whose observations changed. Changed
categories are found by marginals anchored to the population and by complements
with one category removed; where neither names a category the varying ones are
reported.
-/

namespace P11Scope.Inventory

open Std Lib Lib.Sorting Lib.TreeMap

/-- The codes inserted into a set, listed in the order of their texts. -/
def collected (codes : List ChangeCode) : List ChangeCode :=
  (ExtTreeSet.ofList codes).toList

/-! ## Module content -/

inductive ModuleFacet where
  | physical
  | paths
  | admission
  | lifecycle
  deriving DecidableEq, Repr

def ModuleFacet.index : ModuleFacet → Nat
  | physical => 0
  | paths => 1
  | admission => 2
  | lifecycle => 3

/-- The facets classified by code, in the order of the source's loops. -/
def contentFacets : List (ModuleFacet × ChangeCode) :=
  [(.paths, .paths), (.admission, .admission), (.lifecycle, .lifecycle)]

def moduleValue (m : ModuleRanks) : ModuleFacet → Nat
  | .physical => m.physical
  | .paths => m.paths
  | .admission => m.admission
  | .lifecycle => m.lifecycle

variable (indexes : List Nat)

def moduleValues (r : Ranks) (facet : ModuleFacet) : List Nat :=
  sorted (indexes.map fun i => moduleValue (r.moduleAt i) facet)

def moduleCategoryValues (r : Ranks) (facet : ModuleFacet) (anchored : Bool) : List (Nat × Nat) :=
  sorted (indexes.map fun i =>
    let m := r.moduleAt i
    (if anchored then m.physical else 0, moduleValue m facet))

def moduleWithoutCategory (r : Ranks) (facet : ModuleFacet) : List (List Nat) :=
  sorted (indexes.map fun i =>
    let m := r.moduleAt i
    [m.physical, m.paths, m.admission, m.lifecycle].set facet.index 0)

def fullModuleFacts (r : Ranks) : List Nat :=
  sorted (indexes.map fun i => (r.moduleAt i).full)

/-- The classification by marginals and complements. -/
def contentMarginalCodes (bi ai : List Nat) (br ar : Ranks) : List ChangeCode :=
  let physicalEqual : Bool := moduleValues bi br .physical = moduleValues ai ar .physical
  (if physicalEqual then [] else [.physicalRecords]) ++
    (contentFacets.filter fun item =>
      moduleCategoryValues bi br item.1 physicalEqual ≠
          moduleCategoryValues ai ar item.1 physicalEqual ∨
        moduleWithoutCategory bi br item.1 = moduleWithoutCategory ai ar item.1).map Prod.snd

/-- The distinct values of a facet over both sides. -/
def contentVariation (bi ai : List Nat) (br ar : Ranks) (facet : ModuleFacet) :
    ExtTreeSet Nat :=
  ExtTreeSet.ofList
    (bi.map (fun i => moduleValue (br.moduleAt i) facet) ++
      ai.map fun i => moduleValue (ar.moduleAt i) facet)

def contentChangesFor (bi ai : List Nat) (br ar : Ranks) : List ChangeCode :=
  if fullModuleFacts bi br = fullModuleFacts ai ar then []
  else
    let changes := contentMarginalCodes bi ai br ar
    if changes.isEmpty then
      collected ((contentFacets.filter fun item =>
        (contentVariation bi ai br ar item.1).size > 1).map Prod.snd)
    else collected changes

/-! ## Applications -/

inductive Facet where
  | paths
  | admission
  | lifecycle
  | mapping
  | coverage
  | entries
  | semantics
  deriving DecidableEq, Repr

def Facet.code : Facet → ChangeCode
  | paths => .paths
  | admission => .admission
  | lifecycle => .lifecycle
  | mapping => .mapping
  | coverage => .coverage
  | entries => .entries
  | semantics => .semantics

/-- The facets in the order of the source's loops. -/
def facets : List Facet :=
  [.paths, .admission, .lifecycle, .mapping, .coverage, .entries, .semantics]

def callerPopulation (g : Group) (r : Ranks) : List Nat :=
  sorted (g.callers.toList.map fun i => (r.callerAt i).population)

def physicalPopulation (g : Group) (r : Ranks) : List Nat :=
  sorted (g.modules.toList.map fun i => (r.moduleAt i).physical)

def fullCallerPopulation (g : Group) (r : Ranks) : List Nat :=
  sorted (g.callers.toList.map fun i => (r.callerAt i).full)

def fullModulePopulation (g : Group) (r : Ranks) : List Nat :=
  fullModuleFacts g.modules.toList r

variable (s : Snapshot)

def category (r : Ranks) (i : Nat) (facet : Facet) : Nat × Nat :=
  let e := s.edgeAt i
  let c := r.callerAt e.caller
  let m := r.moduleAt e.module
  let v := r.edgeAt i
  match facet with
  | .paths => (m.paths, 0)
  | .admission => (m.admission, 0)
  | .lifecycle => (c.lifecycle, m.lifecycle)
  | .mapping => (v.mapping, 0)
  | .coverage => (v.coverage, 0)
  | .entries => (v.entries, 0)
  | .semantics => (v.semantics, 0)

def categoryValues (g : Group) (r : Ranks) (facet : Facet) (anchored : Bool) :
    List (Nat × Nat × Nat × Nat) :=
  sorted (g.edges.map fun i =>
    let e := s.edgeAt i
    let value := category s r i facet
    (if anchored then (r.callerAt e.caller).population else 0,
      if anchored then (r.moduleAt e.module).physical else 0, value.1, value.2))

/-- Blanks the positions of one category in the ten-component key. -/
def Facet.blank : Facet → List Nat → List Nat
  | paths, key => key.set 3 0
  | admission, key => key.set 4 0
  | lifecycle, key => (key.set 1 0).set 5 0
  | mapping, key => key.set 6 0
  | coverage, key => key.set 8 0
  | entries, key => key.set 7 0
  | semantics, key => key.set 9 0

def withoutCategory (g : Group) (r : Ranks) (facet : Facet) : List (List Nat) :=
  sorted (g.edges.map fun i =>
    let e := s.edgeAt i
    let c := r.callerAt e.caller
    let m := r.moduleAt e.module
    let v := r.edgeAt i
    facet.blank [c.population, c.lifecycle, m.physical, m.paths, m.admission, m.lifecycle,
      v.mapping, v.entries, v.coverage, v.semantics])

def fullEdgeFacts (g : Group) (r : Ranks) : List EdgeFact :=
  sorted (g.edges.map fun i => edgeFact s r i)

section Application

variable (b a : Snapshot) (bg ag : Group) (br ar : Ranks)

/-- The distinct values of a category over both sides. -/
def variation (facet : Facet) : ExtTreeSet (Nat × Nat) :=
  ExtTreeSet.ofList
    (bg.edges.map (fun i => category b br i facet) ++
      ag.edges.map fun i => category a ar i facet)

/-- The codes of the changed populations. -/
def populationCodes : List ChangeCode :=
  (if callerPopulation bg br = callerPopulation ag ar then [] else [.callerPopulation]) ++
    if physicalPopulation bg br = physicalPopulation ag ar then [] else [.physicalRecords]

/-- The classification of the edges by marginals and complements. -/
def marginalCodes : List ChangeCode :=
  let anchored : Bool := callerPopulation bg br = callerPopulation ag ar ∧
    physicalPopulation bg br = physicalPopulation ag ar
  (facets.filter fun facet =>
    categoryValues b bg br facet anchored ≠ categoryValues a ag ar facet anchored ∨
      withoutCategory b bg br facet = withoutCategory a ag ar facet).map Facet.code

def variationCodes : List ChangeCode :=
  (facets.filter fun facet => (variation b a bg ag br ar facet).size > 1).map Facet.code

/-- The codes after the edges are classified: where neither a population nor a
category is named, the varying categories are. -/
def edgeCodes : List ChangeCode :=
  if fullEdgeFacts b bg br = fullEdgeFacts a ag ar then populationCodes bg ag br ar
  else
    let changes := populationCodes bg ag br ar ++ marginalCodes b a bg ag br ar
    if changes.isEmpty then variationCodes b a bg ag br ar else changes

/-- The codes of the distinct sources, compared independently of the edges. -/
def sourceCodes : List ChangeCode :=
  (if fullCallerPopulation bg br ≠ fullCallerPopulation ag ar ∧
      callerPopulation bg br = callerPopulation ag ar then [.lifecycle] else []) ++
    if fullModulePopulation bg br ≠ fullModulePopulation ag ar ∧
      physicalPopulation bg br = physicalPopulation ag ar then
      contentChangesFor bg.modules.toList ag.modules.toList br ar
    else []

def applicationChangesFor : List ChangeCode :=
  if bg.edges.isEmpty || ag.edges.isEmpty then [.contentPresence]
  else collected (edgeCodes b a bg ag br ar ++ sourceCodes bg ag br ar)

end Application

/-! ## Unresolved observations -/

def unresolvedModules (p : Prepared) (side : Side) : List Unresolved :=
  s.modules.zipIdx.filterMap fun item =>
    if item.1.sha256.isNone then
      some { side, kind := .module, reasons := [.missingModuleDigest], caller := none,
             module := some (p.modules.getD item.2 0), observation := none }
    else none

def edgeReasons (e : Edge) : List UnresolvedReason :=
  (if (exePath (s.callerAt e.caller)).isNone then [.missingExecutablePath] else []) ++
    if (s.moduleAt e.module).sha256.isNone then [.missingModuleDigest] else []

def unresolvedEdges (p : Prepared) (side : Side) : List Unresolved :=
  s.edges.zipIdx.filterMap fun item =>
    if (edgeReasons s item.1).isEmpty then none
    else
      some { side, kind := .edge, reasons := edgeReasons s item.1, caller := none,
             module := none, observation := some (p.edges.getD item.2 0) }

/-- Callers that no edge refers to. -/
def unresolvedCallers (p : Prepared) (side : Side) : List Unresolved :=
  (List.range s.callers.length).filterMap fun i =>
    if s.edges.any fun e => e.caller == i then none
    else
      some { side, kind := .caller, reasons := [.noModuleObservation],
             caller := some (p.callers.getD i 0), module := none, observation := none }

def unresolvedRows (p : Prepared) (side : Side) : List Unresolved :=
  unresolvedModules s p side ++ (unresolvedEdges s p side ++ unresolvedCallers s p side)

/-! ## The report -/

/-- The recorded paths of the applications of both snapshots. -/
def applicationPaths (before after : Snapshot) : ExtTreeSet String :=
  ExtTreeSet.ofList
    ((before.edges.filterMap fun e => (application before e).map Prod.fst) ++
      after.edges.filterMap fun e => (application after e).map Prod.fst)

section Rows

variable (br ar : Ranks) (bp ap : Projection) (b a : Prepared)

def contentRow (digest : String) : ContentRow :=
  let bi := bp.contents[digest]?.getD []
  let ai := ap.contents[digest]?.getD []
  let presence := presence bi.isEmpty ai.isEmpty
  { sha256 := digest
    presence
    changes :=
      if presence ≠ .both then [.contentPresence]
      else contentChangesFor bi ai br ar
    before := mapped bi b.modules
    after := mapped ai a.modules }

def contentRows : List ContentRow :=
  (ExtTreeSet.ofList (bp.contents.keys ++ ap.contents.keys)).toList.map
    (contentRow br ar bp ap b a)

def applicationRow (before after : Snapshot) (key : Nat × String) : Option ApplicationChange :=
  let bg := bp.applications[key]?.getD Group.empty
  let ag := ap.applications[key]?.getD Group.empty
  let changes := applicationChangesFor before after bg ag br ar
  if changes.isEmpty then none
  else
    some
      { key := ⟨key.1, key.2⟩
        presence := presence bg.edges.isEmpty ag.edges.isEmpty
        changes
        before := mapped bg.edges b.edges
        after := mapped ag.edges a.edges
        beforePopulation := population bg b
        afterPopulation := population ag a }

def applicationRows (before after : Snapshot) : List ApplicationChange :=
  (ExtTreeSet.ofList (bp.applications.keys ++ ap.applications.keys)).toList.filterMap
    (applicationRow br ar bp ap b a before after)

def pathRow (path : String) : Option ModulePathChange :=
  let bv := bp.paths[path]?.getD ∅
  let av := ap.paths[path]?.getD ∅
  if bv = av then none
  else
    some
      { path
        presence := presence bv.isEmpty av.isEmpty
        changes := [.contentPresence]
        before := bv.toList
        after := av.toList }

def pathRows : List ModulePathChange :=
  (ExtTreeSet.ofList (bp.paths.keys ++ ap.paths.keys)).toList.filterMap (pathRow bp ap)

end Rows

def reportLimitations : List String :=
  ["absence_is_not_removal", "application_groups_use_recorded_paths",
    "counts_are_independent_windows", "host_boot_continuity_unknown",
    "physical_continuity_unknown", "process_continuity_unknown",
    "scope_completeness_unknown", "semantic_details_not_compared"]

def allLimitations (before after : Snapshot) : ExtTreeSet String :=
  ExtTreeSet.ofList (before.limitations ++ (after.limitations ++ reportLimitations))

/-- The paths of the changed applications. -/
def changedPaths (rows : List ApplicationChange) : ExtTreeSet ApplicationPathRef :=
  ExtTreeSet.ofList (rows.map fun row => row.key.exePathRef)

def Snapshot.compare (enc : Encoding) (before after : Snapshot) : DiffReport :=
  let paths := applicationPaths before after
  let r := ranks enc before after
  let b := prepare enc before r.1
  let a := prepare enc after r.2
  let bp := project before paths
  let ap := project after paths
  let moduleContents := contentRows r.1 r.2 bp ap b a
  let applicationChanges := applicationRows r.1 r.2 bp ap b a before after
  let modulePathChanges := pathRows bp ap
  let unresolved := sortFull enc .unresolved
    (unresolvedRows before b .before ++ unresolvedRows after a .after)
  { schema := "p11scope/inventory-diff/v1"
    before := b.summary
    after := a.summary
    comparison :=
      { hostRelation := "unknown"
        bootRelation := "unknown"
        processContinuity := "unknown"
        physicalContinuity := "unknown"
        counterRelation := "independent_windows"
        scopeRelation :=
          if before.scope = after.scope then "same_recorded_label"
          else "different_recorded_labels"
        applicationPaths := paths.toList }
    summary :=
      { applicationGroupsCompared := paths.size
        applicationGroupsChanged := (changedPaths applicationChanges).size
        contentBoth := moduleContents.countP fun row => row.presence = .both
        contentBeforeOnly := moduleContents.countP fun row => row.presence = .beforeOnly
        contentAfterOnly := moduleContents.countP fun row => row.presence = .afterOnly
        modulePathsChanged := modulePathChanges.length
        unresolvedObservations := unresolved.length }
    moduleContents
    applicationChanges
    modulePathChanges
    unresolved
    limitations := (allLimitations before after).toList }

end P11Scope.Inventory
