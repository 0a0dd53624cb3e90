import P11Scope.Inventory.Symmetry

/-!
# Reordered snapshots

A snapshot read with its callers, modules, edges, paths and gaps in another
order, its references renamed with them.
-/

namespace P11Scope.Inventory

open Std Lib Lib.Sorting Lib.TreeMap List

/-- The same module with its paths listed in another order. -/
def Module.PathsReordered (m m' : Module) : Prop :=
  ∃ paths, paths.Perm m.paths ∧ m' = { m with paths }

def Edge.rename (callers modules : Nat → Nat) (e : Edge) : Edge :=
  { e with caller := callers e.caller, module := modules e.module }

def Gap.rename (callers modules : Nat → Nat) (g : Gap) : Gap :=
  { g with caller := g.caller.map callers, module := g.module.map modules }

/-- One snapshot in another order: the positions move by a permutation and every
reference follows. -/
structure Reordering (s t : Snapshot) where
  callers : Equiv.Perm Nat
  modules : Equiv.Perm Nat
  callersMoved : ∀ i, t.callers[callers i]? = s.callers[i]?
  modulesMoved : ∀ i, Option.Rel Module.PathsReordered s.modules[i]? t.modules[modules i]?
  edgesMoved : t.edges.Perm (s.edges.map (Edge.rename callers modules))
  gapsMoved : t.gaps.Perm (s.gaps.map (Gap.rename callers modules))
  scope : t.scope = s.scope
  clock : t.clock = s.clock
  observation : t.observation = s.observation
  budgets : t.budgets = s.budgets
  pidNamespace : t.pidNamespace = s.pidNamespace
  gapsSuppressed : t.gapsSuppressed = s.gapsSuppressed
  limitations : t.limitations = s.limitations

/-- Some reordering leads from one snapshot to the other. -/
def Reordered (s t : Snapshot) : Prop := Nonempty (Reordering s t)

variable {m m' : Module}

theorem moduleEvidence_eq_of_pathsReordered (same : m.PathsReordered m') :
    moduleEvidence m' = moduleEvidence m := by
  obtain ⟨paths, moved, rfl⟩ := same
  have listed : sorted paths = sorted m.paths := sorted_eq_iff_perm.mpr moved
  simp only [moduleEvidence, sortedDistinct, listed]

theorem moduleEvidence_sha256 (m : Module) : (moduleEvidence m).identity.sha256 = m.sha256 := rfl

theorem moduleKeys_congr (enc : Encoding) (same : moduleEvidence m = moduleEvidence m') :
    moduleKeys enc m = moduleKeys enc m' := by
  simp only [moduleKeys, same]

theorem moduleRanks_congr (enc : Encoding) (table : ExtTreeSet (List UInt8))
    (same : moduleEvidence m = moduleEvidence m') :
    moduleRanks enc table m = moduleRanks enc table m' := by
  simp only [moduleRanks, moduleKeys_congr enc same]

namespace Reordering

variable {s t : Snapshot} (moved : Reordering s t)
include moved

theorem callers_perm : t.callers.Perm s.callers :=
  perm_of_reindexed moved.callers moved.callersMoved

variable (i : Nat)

theorem evidenceMoved :
    t.modules[moved.modules i]?.map moduleEvidence = s.modules[i]?.map moduleEvidence := by
  have related := moved.modulesMoved i
  revert related
  generalize s.modules[i]? = here
  generalize t.modules[moved.modules i]? = there
  rintro (⟨same⟩ | _)
  · rw [Option.map_some, Option.map_some, moduleEvidence_eq_of_pathsReordered same]
  · rfl

theorem modules_perm : (t.modules.map moduleEvidence).Perm (s.modules.map moduleEvidence) := by
  refine perm_of_reindexed moved.modules fun i => ?_
  rw [getElem?_map, getElem?_map, moved.evidenceMoved]

theorem callerAt : t.callerAt (moved.callers i) = s.callerAt i := by
  simp only [Snapshot.callerAt, getD_eq_getElem?_getD, moved.callersMoved i]

theorem moduleAt :
    moduleEvidence (t.moduleAt (moved.modules i)) = moduleEvidence (s.moduleAt i) := by
  simp only [Snapshot.moduleAt, getD_eq_getElem?_getD]
  rw [← Option.getD_map moduleEvidence, ← Option.getD_map moduleEvidence, moved.evidenceMoved]

theorem sha256 : (t.moduleAt (moved.modules i)).sha256 = (s.moduleAt i).sha256 := by
  rw [← moduleEvidence_sha256, moved.moduleAt, moduleEvidence_sha256]

theorem application_rename (e : Edge) :
    application t (e.rename moved.callers moved.modules) = application s e := by
  simp only [application, Edge.rename, moved.callerAt, moved.sha256]

/-- Renamed edges keep their keys, callers their records and modules their evidence. -/
theorem mem_snapshotKeys (enc : Encoding) (row : List (List UInt8)) :
    row ∈ snapshotKeys enc t ↔ row ∈ snapshotKeys enc s := by
  have callers := (moved.callers_perm.map (callerKeys enc)).mem_iff (a := row)
  have modules : row ∈ t.modules.map (moduleKeys enc) ↔ row ∈ s.modules.map (moduleKeys enc) :=
    (perm_map_of_determined (fun _ _ _ _ same => moduleKeys_congr enc same)
      moved.modules_perm).mem_iff
  have edges := (moved.edgesMoved.map (edgeKeys enc)).mem_iff (a := row)
  rw [map_map] at edges
  simp only [snapshotKeys, mem_append, callers, modules, edges]
  rfl

theorem applications_perm : (t.edges.filterMap fun e => (application t e).map Prod.fst).Perm
    (s.edges.filterMap fun e => (application s e).map Prod.fst) :=
  perm_filterMap_renamed moved.edgesMoved fun e _ => by rw [moved.application_rename]

/-! ## Evidence -/

section Evidence

variable (enc : Encoding) (table : ExtTreeSet (List UInt8))

theorem callerPool_eq : callerPool enc table t = callerPool enc table s :=
  pool_fst_eq (enc.injective .caller) fun _ => (moved.callers_perm.map callerEvidence).mem_iff

theorem modulePool_eq : modulePool enc table t = modulePool enc table s :=
  pool_fst_eq (enc.injective .module) fun _ => moved.modules_perm.mem_iff

theorem callerRef_eq (c : Caller) : callerRef enc table t c = callerRef enc table s c := by
  rw [callerRef, callerRef, moved.callerPool_eq]

theorem moduleRef_eq (same : moduleEvidence m = moduleEvidence m') :
    moduleRef enc table t m = moduleRef enc table s m' := by
  rw [moduleRef, moduleRef, moved.modulePool_eq, same]

theorem edgeRow_rename (e : Edge) :
    edgeRow enc table t (e.rename moved.callers moved.modules) = edgeRow enc table s e := by
  simp only [edgeRow, Edge.rename, moved.callerAt, moved.callerRef_eq,
    moved.moduleRef_eq enc table (moved.moduleAt e.module)]

theorem edgeRows_perm : (t.edges.map (edgeRow enc table t)).Perm
    (s.edges.map (edgeRow enc table s)) :=
  perm_map_renamed moved.edgesMoved fun e _ => moved.edgeRow_rename enc table e

theorem edgePool_eq : edgePool enc table t = edgePool enc table s := by
  unfold edgePool
  rw [moved.callerPool_eq, moved.modulePool_eq]
  exact pool_fst_eq (enc.injective .edge) fun _ => (moved.edgeRows_perm enc table).mem_iff

theorem edgeRef_rename (e : Edge) :
    edgeRef enc table t (e.rename moved.callers moved.modules) = edgeRef enc table s e := by
  rw [edgeRef, edgeRef, moved.edgePool_eq, moved.edgeRow_rename]

theorem gapRow_rename (g : Gap) :
    gapRow enc table t (g.rename moved.callers moved.modules) = gapRow enc table s g := by
  simp only [gapRow, Gap.rename, Option.map_map, Function.comp_def, moved.callerAt,
    moved.callerRef_eq, fun i => moved.moduleRef_eq enc table (moved.moduleAt i)]

theorem callerRefs_perm : (t.callers.map (callerRef enc table t)).Perm
    (s.callers.map (callerRef enc table s)) := by
  have same : callerRef enc table t = callerRef enc table s :=
    funext fun c => moved.callerRef_eq enc table c
  rw [same]
  exact moved.callers_perm.map _

theorem moduleRefs_perm : (t.modules.map (moduleRef enc table t)).Perm
    (s.modules.map (moduleRef enc table s)) :=
  perm_map_of_determined (fun _ _ _ _ same => moved.moduleRef_eq enc table same) moved.modules_perm

theorem edgeRefs_perm : (t.edges.map (edgeRef enc table t)).Perm
    (s.edges.map (edgeRef enc table s)) :=
  perm_map_renamed moved.edgesMoved fun e _ => moved.edgeRef_rename enc table e

theorem gaps_eq : sortFull enc .gap (t.gaps.map (gapRow enc table t)) =
    sortFull enc .gap (s.gaps.map (gapRow enc table s)) := by
  refine sortBy_eq_of_perm (fun _ _ _ _ same => enc.injective .gap same) ?_
  exact perm_map_renamed moved.gapsMoved fun g _ => moved.gapRow_rename enc table g

theorem budgetGaps_eq : (t.gaps.countP fun g => g.budget.isSome) =
    s.gaps.countP fun g => g.budget.isSome := by
  rw [moved.gapsMoved.countP_eq, countP_map]
  rfl

/-- The summary of a side does not depend on the order of its records. -/
theorem summary_eq : (preparedSide enc table t).summary = (preparedSide enc table s).summary := by
  refine SnapshotSummary.ext moved.scope moved.clock moved.observation moved.pidNamespace rfl
    ?_ moved.gapsSuppressed ?_ moved.budgets ?_ ?_ ?_
  · change t.gaps.length = s.gaps.length
    rw [moved.gapsMoved.length_eq, length_map]
  · change Refusals.mk (t.gaps.countP _) (budgetCounters t.budgets) =
      Refusals.mk (s.gaps.countP _) (budgetCounters s.budgets)
    rw [moved.budgetGaps_eq, moved.budgets]
  · change LossEvidence.mk t.observation.lifecycle t.observation.nativeWitnesses =
      LossEvidence.mk s.observation.lifecycle s.observation.nativeWitnesses
    rw [moved.observation]
  · rw [preparedSide_gaps, preparedSide_gaps, moved.gaps_eq]
  · rw [preparedSide_evidence, preparedSide_evidence, moved.callerPool_eq, moved.modulePool_eq,
      moved.edgePool_eq, sorted_eq_iff_perm.mpr (moved.callerRefs_perm enc table),
      sorted_eq_iff_perm.mpr (moved.moduleRefs_perm enc table),
      sorted_eq_iff_perm.mpr (moved.edgeRefs_perm enc table)]

end Evidence

/-! ## Groups -/

section Groups

variable (enc : Encoding) (table : ExtTreeSet (List UInt8)) (path digest : String)

theorem groupEdges_perm : (groupEdges t path digest).Perm
    ((groupEdges s path digest).map (Edge.rename moved.callers moved.modules)) := by
  have kept := moved.edgesMoved.filter fun e => application t e = some (path, digest)
  rw [filter_map] at kept
  refine kept.trans (List.Perm.of_eq (congrArg _ (filter_congr fun e _ => ?_)))
  simp only [Function.comp_apply, moved.application_rename]

theorem groupEdges_nil : groupEdges t path digest = [] ↔ groupEdges s path digest = [] := by
  rw [← length_eq_zero_iff, (moved.groupEdges_perm path digest).length_eq, length_map,
    length_eq_zero_iff]

theorem mem_groupCallers (j : Nat) : j ∈ groupCallers t path digest ↔
    ∃ i ∈ groupCallers s path digest, moved.callers i = j := by
  have listed := ((moved.groupEdges_perm path digest).map fun e => e.caller).mem_iff (a := j)
  rw [groupCallers, mem_toFinset, listed]
  simp [groupCallers, Edge.rename]

theorem mem_groupModules (j : Nat) : j ∈ groupModules t path digest ↔
    ∃ i ∈ groupModules s path digest, moved.modules i = j := by
  have listed := ((moved.groupEdges_perm path digest).map fun e => e.module).mem_iff (a := j)
  rw [groupModules, mem_toFinset, listed]
  simp [groupModules, Edge.rename]

omit moved in
/-- Two position sets related by a permutation list each other's images. -/
theorem toList_perm {set set' : ExtTreeSet Nat} (positions : Equiv.Perm Nat)
    (same : ∀ j, j ∈ set' ↔ ∃ i ∈ set, positions i = j) :
    set'.toList.Perm (set.toList.map positions) := by
  refine (perm_ext_iff_of_nodup (TreeSet.nodup_toList set')
    ((TreeSet.nodup_toList set).map positions.injective)).mpr fun j => ?_
  rw [ExtTreeSet.mem_toList, same, mem_map]
  simp only [ExtTreeSet.mem_toList]

theorem callers_toList_perm : (groupOf t path digest).callers.toList.Perm
    ((groupOf s path digest).callers.toList.map moved.callers) := by
  refine toList_perm moved.callers fun j => ?_
  rw [mem_groupOf_callers, moved.mem_groupCallers]
  simp only [mem_groupOf_callers]

theorem modules_toList_perm : (groupOf t path digest).modules.toList.Perm
    ((groupOf s path digest).modules.toList.map moved.modules) := by
  refine toList_perm moved.modules fun j => ?_
  rw [mem_groupOf_modules, moved.mem_groupModules]
  simp only [mem_groupOf_modules]

theorem caller_inside {i : Nat} (member : i ∈ (groupOf s path digest).callers.toList) :
    moved.callers i < t.callers.length :=
  groupOf_callers_inside
    ((moved.callers_toList_perm path digest).mem_iff.mpr (mem_map_of_mem member))

theorem module_inside {i : Nat} (member : i ∈ (groupOf s path digest).modules.toList) :
    moved.modules i < t.modules.length :=
  groupOf_modules_inside
    ((moved.modules_toList_perm path digest).mem_iff.mpr (mem_map_of_mem member))

omit moved in
/-- The ranks a group's edges show, edge by edge. -/
theorem map_edgeView (s : Snapshot) :
    (groupOf s path digest).edges.map (edgeView s (sideRanks enc table s)) =
      (groupEdges s path digest).map fun e =>
        (callerRanks enc table (s.callerAt e.caller), moduleRanks enc table (s.moduleAt e.module),
          edgeRanks enc table e) := by
  rw [← groupOf_edges_map]
  refine map_congr_left fun i member => ?_
  have inside := (mem_groupOf_edges member).1
  obtain ⟨caller, module⟩ := s.edgesResolved _ (Snapshot.edgeAt_mem inside)
  rw [edgeView, sideRanks_callerAt enc table caller, sideRanks_moduleAt enc table module,
    sideRanks_edgeAt enc table inside]

/-- Groups of reordered snapshots show the same ranks. -/
theorem sameViews : SameViews t (groupOf t path digest) (sideRanks enc table t)
    s (groupOf s path digest) (sideRanks enc table s) := by
  constructor
  · rw [map_edgeView, map_edgeView]
    refine perm_map_renamed (moved.groupEdges_perm path digest) fun e _ => ?_
    simp only [Edge.rename, moved.callerAt, moduleRanks_congr enc table (moved.moduleAt e.module)]
    rfl
  · refine perm_map_renamed (moved.callers_toList_perm path digest) fun i member => ?_
    rw [sideRanks_callerAt enc table (moved.caller_inside path digest member),
      sideRanks_callerAt enc table (groupOf_callers_inside member), moved.callerAt]
  · refine perm_map_renamed (moved.modules_toList_perm path digest) fun i member => ?_
    rw [sideRanks_moduleAt enc table (moved.module_inside path digest member),
      sideRanks_moduleAt enc table (groupOf_modules_inside member),
      moduleRanks_congr enc table (moved.moduleAt i)]

theorem mapped_edges : mapped (groupOf t path digest).edges (preparedSide enc table t).edges =
    mapped (groupOf s path digest).edges (preparedSide enc table s).edges := by
  have refs : ∀ s : Snapshot, (groupOf s path digest).edges.map
        (fun i => (preparedSide enc table s).edges.getD i 0) =
      (groupEdges s path digest).map (edgeRef enc table s) := by
    intro s
    rw [← groupOf_edges_map]
    exact map_congr_left fun i member =>
      preparedSide_edgeAt enc table s (mem_groupOf_edges member).1
  unfold mapped
  rw [refs, refs, sorted_eq_iff_perm]
  exact perm_map_renamed (moved.groupEdges_perm path digest) fun e _ =>
    moved.edgeRef_rename enc table e

theorem population_eq : population (groupOf t path digest) (preparedSide enc table t) =
    population (groupOf s path digest) (preparedSide enc table s) := by
  unfold population mapped
  congr 1
  · refine sorted_eq_iff_perm.mpr ?_
    refine perm_map_renamed (moved.callers_toList_perm path digest) fun i member => ?_
    rw [preparedSide_callerAt enc table t (moved.caller_inside path digest member),
      preparedSide_callerAt enc table s (groupOf_callers_inside member), moved.callerAt,
      moved.callerRef_eq]
  · refine sorted_eq_iff_perm.mpr ?_
    refine perm_map_renamed (moved.modules_toList_perm path digest) fun i member => ?_
    rw [preparedSide_moduleAt enc table t (moved.module_inside path digest member),
      preparedSide_moduleAt enc table s (groupOf_modules_inside member),
      moved.moduleRef_eq enc table (moved.moduleAt i)]

end Groups

/-! ## Contents -/

section Contents

variable (enc : Encoding) (table : ExtTreeSet (List UInt8)) (digest : String)

theorem content_perm : ((t.modules.filter fun m => m.sha256 = some digest).map moduleEvidence).Perm
    ((s.modules.filter fun m => m.sha256 = some digest).map moduleEvidence) := by
  have kept := moved.modules_perm.filter fun evidence => evidence.identity.sha256 = some digest
  rwa [filter_map, filter_map] at kept

/-- Facts read off the evidence of the modules with a digest. -/
theorem content_map_perm {α : Type} {fact fact' : Module → α}
    (across : ∀ m m', moduleEvidence m = moduleEvidence m' → fact m = fact' m') :
    ((contentItems t digest).map fun i => fact (t.moduleAt i)).Perm
      ((contentItems s digest).map fun i => fact' (s.moduleAt i)) := by
  rw [contentItems_map t digest fact, contentItems_map s digest fact']
  exact perm_map_of_determined (fun m _ m' _ => across m m') (moved.content_perm digest)

theorem content_isEmpty : (contentItems t digest).isEmpty = (contentItems s digest).isEmpty :=
  isEmpty_eq_of_perm_map (moved.content_map_perm digest fun _ _ same => same)

theorem content_views : ((contentItems t digest).map (sideRanks enc table t).moduleAt).Perm
    ((contentItems s digest).map (sideRanks enc table s).moduleAt) := by
  have ranked : ∀ s : Snapshot, (contentItems s digest).map (sideRanks enc table s).moduleAt =
      (contentItems s digest).map fun i => moduleRanks enc table (s.moduleAt i) := fun s =>
    map_congr_left fun i member => sideRanks_moduleAt enc table (contentItems_inside member)
  rw [ranked, ranked]
  exact moved.content_map_perm digest fun _ _ => moduleRanks_congr enc table

theorem mapped_contents : mapped (contentItems t digest) (preparedSide enc table t).modules =
    mapped (contentItems s digest) (preparedSide enc table s).modules := by
  have refs : ∀ s : Snapshot, (contentItems s digest).map
        (fun i => (preparedSide enc table s).modules.getD i 0) =
      (contentItems s digest).map fun i => moduleRef enc table s (s.moduleAt i) := fun s =>
    map_congr_left fun i member =>
      preparedSide_moduleAt enc table s (contentItems_inside member)
  unfold mapped
  rw [refs, refs, sorted_eq_iff_perm]
  exact moved.content_map_perm digest fun _ _ => moved.moduleRef_eq enc table

theorem mem_contents_keys (paths : ExtTreeSet String) :
    digest ∈ (project t paths).contents.keys ↔ digest ∈ (project s paths).contents.keys := by
  have empty := moved.content_isEmpty digest
  rw [mem_contents_keys_iff, mem_contents_keys_iff, ← isEmpty_eq_false_iff, empty,
    isEmpty_eq_false_iff]

end Contents

/-! ## Paths and unresolved rows -/

theorem mem_pathEntries (entry : String × Option String) :
    entry ∈ pathEntries t ↔ entry ∈ pathEntries s := by
  have recorded : ∀ s : Snapshot, entry ∈ pathEntries s ↔
      ∃ (i : Nat) (m : Module),
        s.modules[i]? = some m ∧ entry.1 ∈ m.paths ∧ m.sha256 = entry.2 := by
    intro s
    simp only [pathEntries, mem_flatMap, mem_map]
    constructor
    · rintro ⟨m, listed, path, member, rfl⟩
      obtain ⟨i, found⟩ := mem_iff_getElem?.mp listed
      exact ⟨i, m, found, member, rfl⟩
    · rintro ⟨i, m, found, member, digest⟩
      exact ⟨m, mem_of_getElem? found, entry.1, member, Prod.ext rfl digest⟩
  rw [recorded, recorded]
  refine (Equiv.exists_congr moved.modules fun i => ?_).symm
  have related := moved.modulesMoved i
  revert related
  generalize s.modules[i]? = here
  generalize t.modules[moved.modules i]? = there
  rintro (⟨paths, same, rfl⟩ | _)
  · simp [same.mem_iff]
  · simp

variable (paths : ExtTreeSet String)

theorem paths_getD (path : String) :
    (project t paths).paths[path]?.getD ∅ = (project s paths).paths[path]?.getD ∅ := by
  refine ExtTreeSet.ext_mem fun digest => ?_
  rw [mem_paths_getD, mem_paths_getD]
  exact moved.mem_pathEntries (path, digest)

theorem mem_paths_keys (path : String) :
    path ∈ (project t paths).paths.keys ↔ path ∈ (project s paths).paths.keys := by
  rw [Inventory.mem_paths_keys, Inventory.mem_paths_keys]
  exact exists_congr fun digest => moved.mem_pathEntries (path, digest)

theorem mem_applications_keys {paths : ExtTreeSet String} (key : Nat × String)
    (known : ∀ e ∈ s.edges, ∀ path digest, application s e = some (path, digest) → path ∈ paths)
    (known' : ∀ e ∈ t.edges, ∀ path digest, application t e = some (path, digest) → path ∈ paths) :
    key ∈ (project t paths).applications.keys ↔ key ∈ (project s paths).applications.keys := by
  have keyed : ∀ path, key.1 = rank paths path → key = (rank paths path, key.2) :=
    fun path ref => Prod.ext ref rfl
  constructor
  · intro listed
    obtain ⟨path, inPaths, ref, present⟩ := exists_application listed known'
    rw [keyed path ref]
    refine Inventory.mem_applications_keys inPaths fun none => present ?_
    exact (moved.groupEdges_nil path key.2).mpr none
  · intro listed
    obtain ⟨path, inPaths, ref, present⟩ := exists_application listed known
    rw [keyed path ref]
    refine Inventory.mem_applications_keys inPaths fun none => present ?_
    exact (moved.groupEdges_nil path key.2).mp none

section Unresolved

variable (enc : Encoding) (table : ExtTreeSet (List UInt8)) (side : Side)

omit moved in
theorem unresolvedModules_eq (s : Snapshot) :
    unresolvedModules s (preparedSide enc table s) side =
      (s.modules.map moduleEvidence).filterMap fun evidence =>
        if evidence.identity.sha256.isNone then
          some { side, kind := .module, reasons := [.missingModuleDigest], caller := none,
                 module := some ((modulePool enc table s).idxOf evidence), observation := none }
        else none := by
  unfold unresolvedModules
  conv_rhs => rw [← zipIdx_map_fst 0 s.modules]
  rw [map_map, filterMap_map]
  refine filterMap_congr ?_
  rintro ⟨m, i⟩ listed
  have found := mem_zipIdx_iff_getElem?.mp listed
  have inside : i < s.modules.length := (List.getElem?_eq_some_iff.mp found).1
  have here : s.moduleAt i = m := by simp [Snapshot.moduleAt, found]
  simp only [Function.comp_apply, moduleEvidence_sha256,
    preparedSide_moduleAt enc table s inside, here]
  rfl

omit moved in
theorem unresolvedEdges_eq (s : Snapshot) :
    unresolvedEdges s (preparedSide enc table s) side =
      s.edges.filterMap fun e =>
        if (edgeReasons s e).isEmpty then none
        else
          some { side, kind := .edge, reasons := edgeReasons s e, caller := none,
                 module := none, observation := some (edgeRef enc table s e) } := by
  unfold unresolvedEdges
  conv_rhs => rw [← zipIdx_map_fst 0 s.edges]
  rw [filterMap_map]
  refine filterMap_congr ?_
  rintro ⟨e, i⟩ listed
  have found := mem_zipIdx_iff_getElem?.mp listed
  have inside : i < s.edges.length := (List.getElem?_eq_some_iff.mp found).1
  simp only [Function.comp_apply, preparedSide_edgeAt enc table s inside,
    Snapshot.edgeAt_of_getElem? found]

theorem edgeReasons_rename (e : Edge) :
    edgeReasons t (e.rename moved.callers moved.modules) = edgeReasons s e := by
  simp only [edgeReasons, Edge.rename, moved.callerAt, moved.sha256]

theorem range_callers_perm : (List.range t.callers.length).Perm
    ((List.range s.callers.length).map moved.callers) :=
  range_perm_of_reindexed moved.callers moved.callersMoved

theorem any_caller (i : Nat) : (t.edges.any fun e => e.caller == moved.callers i) =
    s.edges.any fun e => e.caller == i := by
  rw [moved.edgesMoved.any_eq, any_map]
  congr 1
  funext e
  simp [Edge.rename]

theorem unresolvedRows_perm : (unresolvedRows t (preparedSide enc table t) side).Perm
    (unresolvedRows s (preparedSide enc table s) side) := by
  refine List.Perm.append ?_ (List.Perm.append ?_ ?_)
  · rw [unresolvedModules_eq, unresolvedModules_eq, moved.modulePool_eq]
    exact moved.modules_perm.filterMap _
  · rw [unresolvedEdges_eq, unresolvedEdges_eq]
    refine perm_filterMap_renamed moved.edgesMoved fun e _ => ?_
    simp only [moved.edgeReasons_rename, moved.edgeRef_rename]
  · refine perm_filterMap_renamed moved.range_callers_perm fun i member => ?_
    have inside : i < s.callers.length := mem_range.mp member
    have there : moved.callers i < t.callers.length :=
      mem_range.mp (moved.range_callers_perm.mem_iff.mpr (mem_map_of_mem member))
    simp only [moved.any_caller, preparedSide_callerAt enc table t there,
      preparedSide_callerAt enc table s inside, moved.callerAt, moved.callerRef_eq]

end Unresolved

end Reordering

/-! ## The report -/

section Report

variable (enc : Encoding) {before after before' after' : Snapshot}

theorem rankTable_reordered (moved : Reordering before before') (moved' : Reordering after after') :
    rankTable enc before' after' = rankTable enc before after := by
  refine ofList_eq_of_mem_iff fun key => ?_
  simp only [mem_flatten, mem_append, moved.mem_snapshotKeys enc, moved'.mem_snapshotKeys enc]

theorem applicationPaths_reordered (moved : Reordering before before')
    (moved' : Reordering after after') :
    applicationPaths before' after' = applicationPaths before after :=
  ofList_append_congr (fun _ => moved.applications_perm.mem_iff)
    fun _ => moved'.applications_perm.mem_iff

section Reordered

variable (moved : Reordering before before') (moved' : Reordering after after')
include moved moved'

theorem moduleContents_reordered : (before'.compare enc after').moduleContents =
    (before.compare enc after).moduleContents := by
  have table := rankTable_reordered enc moved moved'
  have paths := applicationPaths_reordered moved moved'
  rw [compare_moduleContents, compare_moduleContents, table, paths]
  unfold contentRows
  rw [ofList_append_congr (fun digest => moved.mem_contents_keys digest _)
    fun digest => moved'.mem_contents_keys digest _]
  refine map_congr_left fun digest _ => ?_
  simp only [contentRow, contents_getD, moved.content_isEmpty, moved'.content_isEmpty,
    contentChangesFor_congr (moved.content_views enc _ digest)
      (moved'.content_views enc _ digest), moved.mapped_contents, moved'.mapped_contents]

theorem applicationChanges_reordered : (before'.compare enc after').applicationChanges =
    (before.compare enc after).applicationChanges := by
  have table := rankTable_reordered enc moved moved'
  have paths := applicationPaths_reordered moved moved'
  rw [compare_applicationChanges, compare_applicationChanges, table, paths]
  unfold applicationRows
  have known' : ∀ e ∈ before'.edges, ∀ path digest,
      application before' e = some (path, digest) → path ∈ applicationPaths before after := by
    rw [← paths]
    exact mem_applicationPaths_of_before
  have knownAfter' : ∀ e ∈ after'.edges, ∀ path digest,
      application after' e = some (path, digest) → path ∈ applicationPaths before after := by
    rw [← paths]
    exact mem_applicationPaths_of_after
  rw [ofList_append_congr
    (fun key => moved.mem_applications_keys key mem_applicationPaths_of_before known')
    fun key => moved'.mem_applications_keys key mem_applicationPaths_of_after knownAfter']
  refine filterMap_congr fun key listed => ?_
  obtain ⟨path, known, keyed, -⟩ := exists_listed_application listed
  rw [keyed]
  have views := moved.sameViews enc (rankTable enc before after) path key.2
  have views' := moved'.sameViews enc (rankTable enc before after) path key.2
  simp only [applicationRow, applications_getD known, applicationChangesFor_congr views views',
    isEmpty_eq_of_perm_map views.edges, isEmpty_eq_of_perm_map views'.edges, moved.mapped_edges,
    moved'.mapped_edges, moved.population_eq, moved'.population_eq]

theorem modulePathChanges_reordered : (before'.compare enc after').modulePathChanges =
    (before.compare enc after).modulePathChanges := by
  have paths := applicationPaths_reordered moved moved'
  rw [compare_modulePathChanges, compare_modulePathChanges, paths]
  unfold pathRows
  rw [ofList_append_congr (moved.mem_paths_keys _) (moved'.mem_paths_keys _)]
  refine filterMap_congr fun path _ => ?_
  simp only [pathRow, moved.paths_getD, moved'.paths_getD]

theorem unresolved_reordered : (before'.compare enc after').unresolved =
    (before.compare enc after).unresolved := by
  have table := rankTable_reordered enc moved moved'
  rw [compare_unresolved, table]
  exact sortBy_eq_of_perm (fun _ _ _ _ same => enc.injective .unresolved same)
    ((moved.unresolvedRows_perm enc _ .before).append (moved'.unresolvedRows_perm enc _ .after))

end Reordered

/-- Reordering the records of the snapshots leaves the report unchanged. -/
theorem compare_reordered (moved : Reordering before before') (moved' : Reordering after after') :
    before'.compare enc after' = before.compare enc after := by
  have table := rankTable_reordered enc moved moved'
  have paths := applicationPaths_reordered moved moved'
  have contents := moduleContents_reordered enc moved moved'
  have applications := applicationChanges_reordered enc moved moved'
  have changed := modulePathChanges_reordered enc moved moved'
  have unresolved := unresolved_reordered enc moved moved'
  refine DiffReport.ext rfl ?_ ?_ ?_ ?_ contents applications changed unresolved ?_
  · change (preparedSide enc (rankTable enc before' after') before').summary = _
    rw [table, moved.summary_eq]
    rfl
  · change (preparedSide enc (rankTable enc before' after') after').summary = _
    rw [table, moved'.summary_eq]
    rfl
  · refine Comparison.ext rfl rfl rfl rfl rfl ?_ ?_
    · change (if before'.scope = after'.scope then _ else _) = _
      rw [moved.scope, moved'.scope]
      rfl
    · change (applicationPaths before' after').toList = _
      rw [paths]
      rfl
  · refine Summary.ext ?_ ?_ ?_ ?_ ?_ ?_ ?_
    · exact congrArg ExtTreeSet.size paths
    · exact congrArg (fun rows => (changedPaths rows).size) applications
    · exact congrArg (fun rows => rows.countP fun row => row.presence = .both) contents
    · exact congrArg (fun rows => rows.countP fun row => row.presence = .beforeOnly) contents
    · exact congrArg (fun rows => rows.countP fun row => row.presence = .afterOnly) contents
    · exact congrArg List.length changed
    · exact congrArg List.length unresolved
  · change (allLimitations before' after').toList = (allLimitations before after).toList
    rw [allLimitations, allLimitations, moved.limitations, moved'.limitations]

end Report

end P11Scope.Inventory
