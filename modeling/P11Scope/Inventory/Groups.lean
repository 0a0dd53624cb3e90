import P11Scope.Inventory.Facts

/-!
# Groups of the two snapshots

The groups of the projection, read back as the snapshot's own edges, callers and
modules, and the report's rows stated as equations between multisets of
normalized facts.
-/

variable {i : Nat} {s : Snapshot} {digest : String}

namespace P11Scope.Inventory

open Std Lib Lib.Sorting Lib.TreeMap List

/-! ## Groups by value -/

/-- The edges of an application. -/
def groupEdges (s : Snapshot) (path digest : String) : List Edge :=
  s.edges.filter fun e => application s e = some (path, digest)

/-- The distinct caller records of an application. -/
def groupCallers (s : Snapshot) (path digest : String) : Finset Nat :=
  ((groupEdges s path digest).map fun e => e.caller).toFinset

def groupModules (s : Snapshot) (path digest : String) : Finset Nat :=
  ((groupEdges s path digest).map fun e => e.module).toFinset

/-- The multiset of full facts of an application's edges. -/
def edgeFactsOf (s : Snapshot) (path digest : String) : Multiset EdgeFacts :=
  (groupEdges s path digest).map (edgeFacts s)

def callerFactsOf (s : Snapshot) (path digest : String) : Multiset CallerEvidence :=
  (groupCallers s path digest).val.map fun i => callerFacts (s.callerAt i)

def moduleFactsOf (s : Snapshot) (path digest : String) : Multiset ModuleEvidence :=
  (groupModules s path digest).val.map fun i => moduleFacts (s.moduleAt i)

/-- The multiset of full facts of the modules with a digest. -/
def contentFactsOf (s : Snapshot) (digest : String) : Multiset ModuleEvidence :=
  (s.modules.filter fun m => m.sha256 = some digest).map moduleFacts

/-! ## Positions -/

namespace Snapshot

theorem edgeAt_of_getElem? {e : Edge} (found : s.edges[i]? = some e) : s.edgeAt i = e := by
  simp [edgeAt, found]

theorem edgeAt_mem (inside : i < s.edges.length) : s.edgeAt i ∈ s.edges := by
  simp [edgeAt, inside]

theorem callerAt_mem (inside : i < s.callers.length) : s.callerAt i ∈ s.callers := by
  simp [callerAt, inside]

theorem moduleAt_mem (inside : i < s.modules.length) : s.moduleAt i ∈ s.modules := by
  simp [moduleAt, inside]

end Snapshot

section SideRanks

variable (enc : Encoding) (table : ExtTreeSet (List UInt8))

theorem sideRanks_callerAt (inside : i < s.callers.length) :
    (sideRanks enc table s).callerAt i = callerRanks enc table (s.callerAt i) := by
  simp [sideRanks_eq, Ranks.callerAt, Snapshot.callerAt, inside]

theorem sideRanks_moduleAt (inside : i < s.modules.length) :
    (sideRanks enc table s).moduleAt i = moduleRanks enc table (s.moduleAt i) := by
  simp [sideRanks_eq, Ranks.moduleAt, Snapshot.moduleAt, inside]

theorem sideRanks_edgeAt (inside : i < s.edges.length) :
    (sideRanks enc table s).edgeAt i = edgeRanks enc table (s.edgeAt i) := by
  simp [sideRanks_eq, Ranks.edgeAt, Snapshot.edgeAt, inside]

theorem callerRanks_mem_sideRanks (inside : i < s.callers.length) :
    (sideRanks enc table s).callerAt i ∈ (sideRanks enc table s).callers := by
  rw [sideRanks_callerAt enc table inside, sideRanks_eq]
  exact mem_map_of_mem (Snapshot.callerAt_mem inside)

theorem moduleRanks_mem_sideRanks (inside : i < s.modules.length) :
    (sideRanks enc table s).moduleAt i ∈ (sideRanks enc table s).modules := by
  rw [sideRanks_moduleAt enc table inside, sideRanks_eq]
  exact mem_map_of_mem (Snapshot.moduleAt_mem inside)

end SideRanks

/-- The shared ranks of two snapshots are determined by their categories. -/
theorem ranks_determined (enc : Encoding) (before after : Snapshot) :
    Determined (ranks enc before after).1 (ranks enc before after).2 := by
  have coveredBefore := rankTable_covers_before enc before after
  have coveredAfter := rankTable_covers_after enc before after
  simp only [ranks, sideRanks_eq]
  constructor
  · intro c member c' member'
    rw [← map_append, mem_map] at member member'
    obtain ⟨source, listed, rfl⟩ := member
    obtain ⟨source', -, rfl⟩ := member'
    exact callerRanks_full_eq_iff_parts
      ((mem_append.mp listed).elim coveredBefore.caller coveredAfter.caller)
  · intro m member m' member'
    rw [← map_append, mem_map] at member member'
    obtain ⟨source, listed, rfl⟩ := member
    obtain ⟨source', -, rfl⟩ := member'
    exact moduleRanks_full_eq_iff_parts
      ((mem_append.mp listed).elim coveredBefore.module coveredAfter.module)

/-! ## Groups of the projection -/

/-- The positions of an application's edges with their callers and modules. -/
def groupItems (s : Snapshot) (path digest : String) : List (Nat × Nat × Nat) :=
  (s.edges.zipIdx.filter fun item => application s item.1 = some (path, digest)).map
    fun item => (item.2, item.1.caller, item.1.module)

def groupOf (s : Snapshot) (path digest : String) : Group :=
  (groupItems s path digest).foldl Group.add Group.empty

variable {paths : ExtTreeSet String}

theorem entriesOf_applicationEntries {path : String} (known : path ∈ paths) :
    entriesOf (rank paths path, digest) (applicationEntries s paths) =
      groupItems s path digest := by
  unfold applicationEntries groupItems
  rw [entriesOf_filterMap, ← filterMap_eq_map, filterMap_filter]
  refine filterMap_congr ?_
  intro item _
  cases found : application s item.1 with
  | none => simp
  | some key =>
    have ranked : rank paths path = rank paths key.1 ↔ path = key.1 := rank_inj known
    have same : (rank paths key.1, key.2) = (rank paths path, digest) ↔ key = (path, digest) := by
      rw [Prod.mk.injEq, Prod.ext_iff, eq_comm (a := rank paths key.1), ranked, eq_comm (a := path)]
    by_cases own : key = (path, digest)
    · simp [own]
    · have apart := fun h => own (same.mp h)
      simpa [own] using apart

theorem applications_getD {path : String} (known : path ∈ paths) :
    ((project s paths).applications[(rank paths path, digest)]?).getD Group.empty =
      groupOf s path digest := by
  unfold project groupOf
  rw [getElem?_groupInto, entriesOf_applicationEntries known]
  split
  · next none => simp [none]
  · rfl

theorem foldl_add_edges (items : List (Nat × Nat × Nat)) (g : Group) :
    (items.foldl Group.add g).edges = g.edges ++ items.map fun item => item.1 := by
  induction items generalizing g with
  | nil => simp
  | cons item rest ih => simp [ih, Group.add]

variable {path : String}

theorem groupOf_edges : (groupOf s path digest).edges =
    (s.edges.zipIdx.filter fun item => application s item.1 = some (path, digest)).map
      fun item => item.2 := by
  unfold groupOf groupItems
  rw [foldl_add_edges]
  simp [Group.empty, Function.comp_def]

theorem mem_groupOf_edges (member : i ∈ (groupOf s path digest).edges) :
    i < s.edges.length ∧ s.edgeAt i ∈ groupEdges s path digest := by
  rw [groupOf_edges, mem_map] at member
  obtain ⟨⟨e, j⟩, kept, rfl⟩ := member
  obtain ⟨listed, own⟩ := mem_filter.mp kept
  have found := mem_zipIdx_iff_getElem?.mp listed
  have inside : j < s.edges.length := (List.getElem?_eq_some_iff.mp found).1
  refine ⟨inside, ?_⟩
  rw [Snapshot.edgeAt_of_getElem? found]
  exact mem_filter.mpr ⟨mem_of_getElem? found, own⟩

theorem filter_eq_zipIdx {α : Type} (keep : α → Bool) (items : List α) :
    items.filter keep = (items.zipIdx.filter fun item => keep item.1).map Prod.fst := by
  conv_lhs => rw [← zipIdx_map_fst 0 items]
  rw [filter_map]
  rfl

/-- Facts read at the kept positions are facts of the kept items. -/
theorem map_positions {α β : Type} (keep : α → Bool) {items : List α} {read : Nat → α}
    (reads : ∀ i item, items[i]? = some item → read i = item) (fact : α → β) :
    (((items.zipIdx.filter fun item => keep item.1).map fun item => item.2).map
      fun i => fact (read i)) = (items.filter keep).map fact := by
  rw [filter_eq_zipIdx keep items, map_map, map_map]
  refine map_congr_left ?_
  rintro ⟨item, i⟩ kept
  simp [reads i item (mem_zipIdx_iff_getElem?.mp (mem_filter.mp kept).1)]

theorem groupEdges_eq : groupEdges s path digest =
    (s.edges.zipIdx.filter fun item => application s item.1 = some (path, digest)).map Prod.fst :=
  filter_eq_zipIdx _ _

theorem groupOf_edges_eq_nil :
    (groupOf s path digest).edges = [] ↔ groupEdges s path digest = [] := by
  rw [groupOf_edges, groupEdges_eq, map_eq_nil_iff, map_eq_nil_iff]

theorem groupItems_map (part : Nat × Nat → Nat) :
    (groupItems s path digest).map (fun item => part item.2) =
      (groupEdges s path digest).map fun e => part (e.caller, e.module) := by
  rw [groupEdges_eq, groupItems, map_map, map_map]
  rfl

theorem mem_groupOf_callers :
    i ∈ (groupOf s path digest).callers ↔ i ∈ groupCallers s path digest := by
  rw [groupOf, TreeSet.mem_foldl_insert Group.callers _ fun _ _ => rfl, groupItems_map Prod.fst,
    groupCallers]
  simp [Group.empty]

theorem mem_groupOf_modules :
    i ∈ (groupOf s path digest).modules ↔ i ∈ groupModules s path digest := by
  rw [groupOf, TreeSet.mem_foldl_insert Group.modules _ fun _ _ => rfl, groupItems_map Prod.snd,
    groupModules]
  simp [Group.empty]

/-- A duplicate-free listing of a finite set is its multiset. -/
theorem coe_toList_eq_val {set : ExtTreeSet Nat} {members : Finset Nat}
    (same : ∀ i, i ∈ set ↔ i ∈ members) : (set.toList : Multiset Nat) = members.val := by
  refine (Multiset.Nodup.ext (Multiset.coe_nodup.mpr (TreeSet.nodup_toList set))
    members.nodup).mpr ?_
  intro i
  rw [Multiset.mem_coe, ExtTreeSet.mem_toList]
  exact same i

theorem callerFactsOf_eq : callerFactsOf s path digest =
    ((groupOf s path digest).callers.toList.map fun i => callerFacts (s.callerAt i)) := by
  unfold callerFactsOf
  rw [← coe_toList_eq_val fun i => mem_groupOf_callers, Multiset.map_coe]

theorem moduleFactsOf_eq : moduleFactsOf s path digest =
    ((groupOf s path digest).modules.toList.map fun i => moduleFacts (s.moduleAt i)) := by
  unfold moduleFactsOf
  rw [← coe_toList_eq_val fun i => mem_groupOf_modules, Multiset.map_coe]

/-- Facts of the group's positions are facts of the group's edges. -/
theorem groupOf_edges_map {α : Type} (fact : Edge → α) :
    (groupOf s path digest).edges.map (fun i => fact (s.edgeAt i)) =
      (groupEdges s path digest).map fact := by
  rw [groupOf_edges]
  exact map_positions (fun e => application s e = some (path, digest))
    (fun _ _ => Snapshot.edgeAt_of_getElem?) fact

theorem edgeFactsOf_eq : edgeFactsOf s path digest =
    ((groupOf s path digest).edges.map fun i => edgeFacts s (s.edgeAt i)) := by
  rw [groupOf_edges_map (edgeFacts s)]
  rfl

theorem mem_groupEdges {e : Edge} (member : e ∈ groupEdges s path digest) : e ∈ s.edges :=
  (mem_filter.mp member).1

theorem groupOf_callers_inside (member : i ∈ (groupOf s path digest).callers.toList) :
    i < s.callers.length := by
  have listed := mem_groupOf_callers.mp (ExtTreeSet.mem_toList.mp member)
  obtain ⟨e, inGroup, rfl⟩ := mem_map.mp (mem_toFinset.mp listed)
  exact (s.edgesResolved e (mem_groupEdges inGroup)).1

theorem groupOf_modules_inside (member : i ∈ (groupOf s path digest).modules.toList) :
    i < s.modules.length := by
  have listed := mem_groupOf_modules.mp (ExtTreeSet.mem_toList.mp member)
  obtain ⟨e, inGroup, rfl⟩ := mem_map.mp (mem_toFinset.mp listed)
  exact (s.edgesResolved e (mem_groupEdges inGroup)).2

theorem groupOf_edge_inside (member : i ∈ (groupOf s path digest).edges) :
    i < s.edges.length ∧ (s.edgeAt i).caller < s.callers.length ∧
      (s.edgeAt i).module < s.modules.length := by
  obtain ⟨inside, -⟩ := mem_groupOf_edges member
  exact ⟨inside, s.edgesResolved _ (Snapshot.edgeAt_mem inside)⟩

theorem groupOf_within (enc : Encoding) (table : ExtTreeSet (List UInt8)) :
    (groupOf s path digest).Within s (sideRanks enc table s) := by
  constructor
  · intro i member
    exact callerRanks_mem_sideRanks enc table (groupOf_edge_inside member).2.1
  · intro i member
    exact moduleRanks_mem_sideRanks enc table (groupOf_edge_inside member).2.2
  · intro i member
    exact callerRanks_mem_sideRanks enc table (groupOf_callers_inside member)
  · intro i member
    exact moduleRanks_mem_sideRanks enc table (groupOf_modules_inside member)

/-! ## Ranked populations are multisets of facts -/

section Multisets

variable (enc : Encoding) (before after : Snapshot)

theorem edgeFact_eq_iff {table : ExtTreeSet (List UInt8)} {t : Snapshot} {j : Nat}
    (covered : Covered enc table s)
    (inside : i < s.edges.length ∧ (s.edgeAt i).caller < s.callers.length ∧
      (s.edgeAt i).module < s.modules.length)
    (inside' : j < t.edges.length ∧ (t.edgeAt j).caller < t.callers.length ∧
      (t.edgeAt j).module < t.modules.length) :
    edgeFact s (sideRanks enc table s) i = edgeFact t (sideRanks enc table t) j ↔
      edgeFacts s (s.edgeAt i) = edgeFacts t (t.edgeAt j) := by
  have callers : (callerRanks enc table (s.callerAt (s.edgeAt i).caller)).full =
      (callerRanks enc table (t.callerAt (t.edgeAt j).caller)).full ↔ _ :=
    callerRanks_full_eq_iff (covered.caller (Snapshot.callerAt_mem inside.2.1))
  have modules : (moduleRanks enc table (s.moduleAt (s.edgeAt i).module)).full =
      (moduleRanks enc table (t.moduleAt (t.edgeAt j).module)).full ↔ _ :=
    moduleRanks_full_eq_iff (covered.module (Snapshot.moduleAt_mem inside.2.2))
  have edges : edgeRanks enc table (s.edgeAt i) = edgeRanks enc table (t.edgeAt j) ↔ _ :=
    edgeRanks_eq_iff (covered.edge (Snapshot.edgeAt_mem inside.1))
  have split : edgeFact s (sideRanks enc table s) i = edgeFact t (sideRanks enc table t) j ↔
      (callerRanks enc table (s.callerAt (s.edgeAt i).caller)).full =
          (callerRanks enc table (t.callerAt (t.edgeAt j).caller)).full ∧
        (moduleRanks enc table (s.moduleAt (s.edgeAt i).module)).full =
          (moduleRanks enc table (t.moduleAt (t.edgeAt j).module)).full ∧
        edgeRanks enc table (s.edgeAt i) = edgeRanks enc table (t.edgeAt j) := by
    simp only [edgeFact]
    rw [sideRanks_edgeAt enc table inside.1, sideRanks_edgeAt enc table inside'.1,
      sideRanks_callerAt enc table inside.2.1, sideRanks_callerAt enc table inside'.2.1,
      sideRanks_moduleAt enc table inside.2.2, sideRanks_moduleAt enc table inside'.2.2]
    cases edgeRanks enc table (s.edgeAt i)
    cases edgeRanks enc table (t.edgeAt j)
    simp
  rw [split, callers, modules, edges]
  simp [edgeFacts]

theorem fullEdgeFacts_eq_iff :
    fullEdgeFacts before (groupOf before path digest) (ranks enc before after).1 =
        fullEdgeFacts after (groupOf after path digest) (ranks enc before after).2 ↔
      edgeFactsOf before path digest = edgeFactsOf after path digest := by
  have covered := rankTable_covers_before enc before after
  unfold fullEdgeFacts
  rw [sorted_eq_iff_perm, edgeFactsOf_eq, edgeFactsOf_eq, Multiset.coe_eq_coe]
  refine perm_map_iff_of_determined fun i member j member' => ?_
  exact edgeFact_eq_iff enc covered (groupOf_edge_inside member) (groupOf_edge_inside member')

theorem fullCallerPopulation_eq_iff :
    fullCallerPopulation (groupOf before path digest) (ranks enc before after).1 =
        fullCallerPopulation (groupOf after path digest) (ranks enc before after).2 ↔
      callerFactsOf before path digest = callerFactsOf after path digest := by
  have covered := rankTable_covers_before enc before after
  unfold fullCallerPopulation ranks
  rw [sorted_eq_iff_perm, callerFactsOf_eq, callerFactsOf_eq, Multiset.coe_eq_coe]
  refine perm_map_iff_of_determined fun i member j member' => ?_
  rw [sideRanks_callerAt enc _ (groupOf_callers_inside member),
    sideRanks_callerAt enc _ (groupOf_callers_inside member')]
  exact callerRanks_full_eq_iff
    (covered.caller (Snapshot.callerAt_mem (groupOf_callers_inside member)))

/-- Full module ranks stand for full module facts, whichever modules are listed. -/
theorem fullModuleFacts_eq_iff {bi ai : List Nat}
    (beforeInside : ∀ i ∈ bi, i < before.modules.length)
    (afterInside : ∀ i ∈ ai, i < after.modules.length) :
    fullModuleFacts bi (ranks enc before after).1 =
        fullModuleFacts ai (ranks enc before after).2 ↔
      (bi.map fun i => moduleFacts (before.moduleAt i)).Perm
        (ai.map fun i => moduleFacts (after.moduleAt i)) := by
  have covered := rankTable_covers_before enc before after
  unfold fullModuleFacts ranks
  rw [sorted_eq_iff_perm]
  refine perm_map_iff_of_determined fun i member j member' => ?_
  rw [sideRanks_moduleAt enc _ (beforeInside i member),
    sideRanks_moduleAt enc _ (afterInside j member')]
  exact moduleRanks_full_eq_iff (covered.module (Snapshot.moduleAt_mem (beforeInside i member)))

theorem fullModulePopulation_eq_iff :
    fullModulePopulation (groupOf before path digest) (ranks enc before after).1 =
        fullModulePopulation (groupOf after path digest) (ranks enc before after).2 ↔
      moduleFactsOf before path digest = moduleFactsOf after path digest := by
  unfold fullModulePopulation
  rw [fullModuleFacts_eq_iff enc before after (fun i => groupOf_modules_inside)
    fun i => groupOf_modules_inside, moduleFactsOf_eq, moduleFactsOf_eq, Multiset.coe_eq_coe]

end Multisets

/-! ## Rows of the report -/

theorem mem_applicationPaths_before {before after : Snapshot} {e : Edge}
    (member : e ∈ groupEdges before path digest) : path ∈ applicationPaths before after := by
  refine mem_ofList.mpr (mem_append_left _ (mem_filterMap.mpr ⟨e, ?_, ?_⟩))
  · exact mem_groupEdges member
  · simp [of_decide_eq_true (mem_filter.mp member).2]

/-- The group of an application with an edge is one of the projection's keys. -/
theorem mem_applications_keys (known : path ∈ paths) (present : groupEdges s path digest ≠ []) :
    (rank paths path, digest) ∈ (project s paths).applications.keys := by
  have items : groupItems s path digest ≠ [] := by
    rw [groupEdges_eq] at present
    simpa [groupItems] using present
  rw [ExtTreeMap.mem_keys, ExtTreeMap.mem_iff_isSome_getElem?, project, getElem?_groupInto,
    entriesOf_applicationEntries known, if_neg items]
  rfl

/-- The row is about the given application: its path reference resolves to the
path in the report's own list. -/
def DiffReport.Names (report : DiffReport) (row : ApplicationChange) (path digest : String) :
    Prop :=
  report.comparison.applicationPaths[row.key.exePathRef]? = some path ∧ row.key.sha256 = digest

theorem rank_eq_of_getElem? (found : paths.toList[i]? = some path) : rank paths path = i := by
  obtain ⟨inside, value⟩ := List.getElem?_eq_some_iff.mp found
  rw [← value]
  exact (TreeSet.nodup_toList paths).idxOf_getElem i inside

theorem getElem?_rank (known : path ∈ paths) : paths.toList[rank paths path]? = some path :=
  getElem?_idxOf (ExtTreeSet.mem_toList.mpr known)

section Report

variable (enc : Encoding) (before after : Snapshot)

/-- The codes of an application in the comparison of two snapshots. -/
def applicationCodes (path digest : String) : List ChangeCode :=
  applicationChangesFor before after (groupOf before path digest) (groupOf after path digest)
    (ranks enc before after).1 (ranks enc before after).2

/-- A row names an application of the report exactly when it carries its codes. -/
theorem not_named_iff (beforePresent : groupEdges before path digest ≠ []) :
    (∀ row ∈ (before.compare enc after).applicationChanges,
        ¬(before.compare enc after).Names row path digest) ↔
      applicationCodes enc before after path digest = [] := by
  obtain ⟨e, member⟩ := exists_mem_of_ne_nil _ beforePresent
  have known : path ∈ applicationPaths before after := mem_applicationPaths_before member
  have listed : (rank (applicationPaths before after) path, digest) ∈
      (ExtTreeSet.ofList
        ((project before (applicationPaths before after)).applications.keys ++
          (project after (applicationPaths before after)).applications.keys)).toList :=
    mem_toList_ofList.mpr (mem_append_left _ (mem_applications_keys known beforePresent))
  constructor
  · intro unnamed
    by_contra coded
    have row := unnamed _ (mem_filterMap.mpr ⟨_, listed, by
      simp only [applicationRow, applications_getD known]
      exact if_neg (by simpa [applicationCodes] using coded)⟩)
    exact row ⟨getElem?_rank known, rfl⟩
  · intro silent row member named
    obtain ⟨key, -, made⟩ := mem_filterMap.mp member
    have keyed : key = (row.key.exePathRef, row.key.sha256) := by
      simp only [applicationRow] at made
      split at made
      · cases made
      · cases made
        rfl
    have own : key = (rank (applicationPaths before after) path, digest) := by
      rw [keyed, named.2, rank_eq_of_getElem? named.1]
    rw [own] at made
    simp only [applicationRow, applications_getD known] at made
    rw [if_pos (by simpa [applicationCodes] using silent)] at made
    cases made

theorem applicationCodes_eq_nil (beforePresent : groupEdges before path digest ≠ [])
    (afterPresent : groupEdges after path digest ≠ []) :
    applicationCodes enc before after path digest = [] ↔
      edgeFactsOf before path digest = edgeFactsOf after path digest ∧
        callerFactsOf before path digest = callerFactsOf after path digest ∧
        moduleFactsOf before path digest = moduleFactsOf after path digest := by
  unfold applicationCodes
  rw [applicationChangesFor_eq_nil (ranks_determined enc before after) (groupOf_within enc _)
      (groupOf_within enc _) (mt groupOf_edges_eq_nil.mp beforePresent)
      (mt groupOf_edges_eq_nil.mp afterPresent),
    fullEdgeFacts_eq_iff, fullCallerPopulation_eq_iff, fullModulePopulation_eq_iff]

/-- The positions of the modules with a digest. -/
def contentItems (s : Snapshot) (digest : String) : List Nat :=
  (s.modules.zipIdx.filter fun item => item.1.sha256 = some digest).map fun item => item.2

theorem foldl_push (entries held : List Nat) :
    entries.foldl (fun held i => held ++ [i]) held = held ++ entries := by
  induction entries generalizing held with
  | nil => simp
  | cons entry rest ih => simp [ih]

theorem contents_getD (s : Snapshot) (paths : ExtTreeSet String) (digest : String) :
    ((project s paths).contents[digest]?).getD [] = contentItems s digest := by
  have items : entriesOf digest (contentEntries s) = contentItems s digest := by
    unfold contentEntries contentItems
    rw [entriesOf_filterMap, ← filterMap_eq_map, filterMap_filter]
    refine filterMap_congr ?_
    intro item _
    cases found : item.1.sha256 with
    | none => simp
    | some held => by_cases own : held = digest <;> simp [own]
  unfold project
  rw [getElem?_groupInto, items]
  split
  · next none => simp [none]
  · rw [Option.getD_some, foldl_push, nil_append]

theorem contentItems_inside (member : i ∈ contentItems s digest) : i < s.modules.length := by
  obtain ⟨⟨m, j⟩, kept, rfl⟩ := mem_map.mp member
  have found := mem_zipIdx_iff_getElem?.mp (mem_filter.mp kept).1
  exact (List.getElem?_eq_some_iff.mp found).1

theorem contentItems_map {α : Type} (s : Snapshot) (digest : String) (fact : Module → α) :
    (contentItems s digest).map (fun i => fact (s.moduleAt i)) =
      (s.modules.filter fun m => m.sha256 = some digest).map fact := by
  refine map_positions (fun m => m.sha256 = some digest) (fun i m found => ?_) fact
  simp [Snapshot.moduleAt, found]

theorem contentChangesFor_contentItems_eq_nil (digest : String) :
    contentChangesFor (contentItems before digest) (contentItems after digest)
        (ranks enc before after).1 (ranks enc before after).2 = [] ↔
      contentFactsOf before digest = contentFactsOf after digest := by
  rw [contentChangesFor_eq_nil (ranks_determined enc before after)
      (fun i member => moduleRanks_mem_sideRanks enc _ (contentItems_inside member))
      fun i member => moduleRanks_mem_sideRanks enc _ (contentItems_inside member),
    fullModuleFacts_eq_iff enc before after (fun i => contentItems_inside)
      fun i => contentItems_inside,
    contentItems_map before digest moduleFacts, contentItems_map after digest moduleFacts]
  exact Multiset.coe_eq_coe.symm

/-- The comparison hides nothing and invents nothing. An application present on
both sides is left out exactly when the multisets of the full facts of its edges,
of its distinct callers and of its distinct modules agree; a content row present
on both sides has no code exactly when the multisets of full module facts agree. -/
theorem compare_exact :
    (∀ path digest, groupEdges before path digest ≠ [] → groupEdges after path digest ≠ [] →
      ((∀ row ∈ (before.compare enc after).applicationChanges,
          ¬(before.compare enc after).Names row path digest) ↔
        edgeFactsOf before path digest = edgeFactsOf after path digest ∧
          callerFactsOf before path digest = callerFactsOf after path digest ∧
          moduleFactsOf before path digest = moduleFactsOf after path digest)) ∧
    ∀ row ∈ (before.compare enc after).moduleContents, row.presence = .both →
      (row.changes = [] ↔ contentFactsOf before row.sha256 = contentFactsOf after row.sha256) := by
  constructor
  · intro path digest beforePresent afterPresent
    rw [not_named_iff enc before after beforePresent,
      applicationCodes_eq_nil enc before after beforePresent afterPresent]
  · intro row member shared
    obtain ⟨digest, -, rfl⟩ := mem_map.mp member
    simp only [contentRow, contents_getD] at shared ⊢
    rw [if_neg (not_not.mpr shared)]
    exact contentChangesFor_contentItems_eq_nil enc before after digest

end Report

/-! ## A serializer and two snapshots

Every kind of fact is countable, so injective encodings exist. -/

instance countableChar : Countable Char :=
  Function.Injective.countable fun _ _ => Char.toNat_inj.mp

instance countableString : Countable String :=
  Function.Injective.countable fun _ _ => String.toList_inj.mp

instance countableUInt64 : Countable UInt64 :=
  Function.Injective.countable fun _ _ => UInt64.toNat_inj.mp

instance countableUInt32 : Countable UInt32 :=
  Function.Injective.countable fun _ _ => UInt32.toNat_inj.mp

instance countableFunctions : Countable (ExtTreeMap String UInt64) :=
  Function.Injective.countable fun _ _ same => ExtTreeMap.ext_toList (List.Perm.of_eq same)

deriving instance Countable for Label, Exe, Device, AdmissionChange, Mapping, Entries, Refusal
deriving instance Countable for Side, UnresolvedKind, UnresolvedReason
deriving instance Countable for ImageEvidence, PhysicalIdentity, Admission, UnboundUse, Coverage
deriving instance Countable for CallerEvidence, ModuleEvidence, EdgeEvidence, GapEvidence
deriving instance Countable for Unresolved

instance (kind : FactKind) : Countable kind.Fact := by
  cases kind <;> infer_instance

/-- Facts numbered by an injection, written in unary. -/
noncomputable def numbered : Encoding where
  encoded kind fact :=
    List.replicate ((exists_injective_nat kind.Fact).choose fact) 0
  injective kind first second same :=
    (exists_injective_nat kind.Fact).choose_spec (by simpa using congrArg List.length same)

def agent : Caller :=
  { pid := 40
    startTime := some 900
    startTimeUnit := "clock_ticks_since_boot"
    incarnation := 1
    image :=
      { authority := ⟨"scan_pinned"⟩
        taskCookie := none
        execId := none
        exe := some { dev := 1, ino := 2, mtimeSecs := 0, mtimeNanos := 0,
                      path := some "/usr/bin/agent" }
        execObserved := false }
    lifecycle := ⟨"mapped"⟩
    lifecycleReason := none
    firstSeenNs := 10
    lastSeenNs := 20
    retired := false }

def token : Module :=
  { paths := ["/usr/lib/token.so"]
    deviceMajor := 8
    deviceMinor := 1
    inode := 77
    sha256 := some "c0de"
    buildId := none
    identitySource := none
    admission :=
      { state := ⟨"admitted"⟩, class_ := none, endpoints := some 1, reasons := [], note := "",
        history := none }
    lifecycle := ⟨"mapped"⟩
    unloadedObserved := false
    unboundUse := none }

def calm : Budget := ⟨8, 1, 0⟩

/-- One caller of one module, seen until the given time. -/
def seenUntil (lastSeenNs : UInt64) : Snapshot where
  scope := "system"
  clock := ⟨"CLOCK_MONOTONIC", "ns"⟩
  observation :=
    { startedNs := 0, endedNs := lastSeenNs, passes := 1, usageFeed := false, lane := none,
      settlement := none, retirement := none, attach := none, lifecycle := none,
      nativeWitnesses := none }
  budgets :=
    { callers := calm, modules := calm, edges := calm, endpoints := calm,
      inventoryEndpoints := none, inventoryAttachModules := none,
      counters := ⟨8, 1, 0⟩, semanticState := ⟨8, 0, ⟨"withheld"⟩, 1, 0⟩,
      retainedHistory := ⟨8, 0, 0⟩, nativePreadmission := none }
  pidNamespace := none
  callers := [{ agent with lastSeenNs }]
  modules := [token]
  edges :=
    [{ caller := 0
       module := 0
       mapping := { state := ⟨"mapped"⟩, evidence := none, reason := none, firstSeenNs := 10,
                    lastSeenNs, interruptions := 0 }
       entries := { count := 0, saturated := false, cap := 8, firstSeenNs := none,
                    lastSeenNs := none, inFlight := false, observation := ⟨"observed"⟩ }
       coverage := none
       semantics := ⟨"observed"⟩ }]
  gaps := []
  gapsSuppressed := 0
  limitations := []
  edgesResolved := by simp
  pairsDistinct := by simp
  gapsResolved := by simp

/-- Seen for longer is not a change of the application. -/
theorem compare_exact_seenUntil :
    groupEdges (seenUntil 20) "/usr/bin/agent" "c0de" ≠ [] ∧
      ∀ row ∈ ((seenUntil 20).compare numbered (seenUntil 30)).applicationChanges,
        ¬((seenUntil 20).compare numbered (seenUntil 30)).Names row "/usr/bin/agent" "c0de" := by
  have before : groupEdges (seenUntil 20) "/usr/bin/agent" "c0de" = (seenUntil 20).edges := by
    decide +kernel
  have after : groupEdges (seenUntil 30) "/usr/bin/agent" "c0de" = (seenUntil 30).edges := by
    decide +kernel
  have present : groupEdges (seenUntil 20) "/usr/bin/agent" "c0de" ≠ [] := by
    exact cons_ne_nil _ _
  refine ⟨present, ((compare_exact numbered (seenUntil 20) (seenUntil 30)).1 _ _ present ?_).mpr
    ⟨?_, ?_, ?_⟩⟩
  · exact cons_ne_nil _ _
  · unfold edgeFactsOf
    rfl
  · unfold callerFactsOf groupCallers
    rfl
  · unfold moduleFactsOf groupModules
    rfl

end P11Scope.Inventory
