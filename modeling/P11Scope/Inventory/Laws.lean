import P11Scope.Inventory.Reordering

/-!
# Laws of the comparison

Records that agree in all but the times the comparison normalizes are never
reported as changed. Together with the mirror and the reordering laws this
describes the comparison as an operation on unordered snapshots.
-/

namespace P11Scope.Inventory

open Std Lib Lib.Sorting Lib.TreeMap List

/-! ## Times -/

def Caller.timeless (c : Caller) : Caller := { c with firstSeenNs := 0, lastSeenNs := 0 }

def Module.timeless (m : Module) : Module :=
  { m with
    admission := m.admission.timeless
    unboundUse := m.unboundUse.map UnboundUse.timeless }

def Edge.timeless (e : Edge) : Edge :=
  { e with
    mapping := e.mapping.timeless
    entries := e.entries.timeless
    coverage := e.coverage.map Coverage.timeless }

/-- The records of two snapshots agree in all but the normalized times. The
fields that describe the observation itself are not restricted. -/
structure TimesOnly (a b : Snapshot) : Prop where
  callers : a.callers.map Caller.timeless = b.callers.map Caller.timeless
  modules : a.modules.map Module.timeless = b.modules.map Module.timeless
  edges : a.edges.map Edge.timeless = b.edges.map Edge.timeless

theorem callerFacts_timeless (c : Caller) : callerFacts c.timeless = callerFacts c := rfl

theorem moduleFacts_timeless (m : Module) : moduleFacts m.timeless = moduleFacts m := by
  have uses : (m.unboundUse.map UnboundUse.timeless).map UnboundUse.timeless =
      m.unboundUse.map UnboundUse.timeless := by
    rw [Option.map_map]
    rfl
  have history : ({ m.admission.timeless with
        reasons := sortedDistinct m.admission.timeless.reasons } : Admission).timeless =
      ({ m.admission with reasons := sortedDistinct m.admission.reasons } :
        Admission).timeless := by
    simp [Admission.timeless, Option.map_map, Function.comp_def]
  simp only [moduleFacts, moduleEvidence, ModuleEvidence.timeless, Module.timeless, uses, history]

theorem edgeFacts_timeless (s : Snapshot) (e : Edge) : edgeFacts s e.timeless = edgeFacts s e := by
  have coverage : (e.coverage.map Coverage.timeless).map Coverage.timeless =
      e.coverage.map Coverage.timeless := by
    rw [Option.map_map]
    refine Option.map_congr fun held _ => ?_
    simp [Coverage.timeless, Option.map_map, Function.comp_def]
  simp only [edgeFacts, Edge.timeless, coverage]
  rfl

/-- A description that times do not change agrees on lists that agree but for times. -/
theorem map_eq_of_timeless {ι α : Type} {first second : List ι} {timeless : ι → ι} {fact : ι → α}
    (same : first.map timeless = second.map timeless)
    (unchanged : ∀ item, fact (timeless item) = fact item) : first.map fact = second.map fact := by
  have mapped := congrArg (List.map fact) same
  simpa only [map_map, Function.comp_def, unchanged] using mapped

namespace TimesOnly

variable {a b : Snapshot} (times : TimesOnly a b)
include times

theorem callerAt {α : Type} {fact : Caller → α} (unchanged : ∀ c, fact c.timeless = fact c)
    (i : Nat) : fact (a.callerAt i) = fact (b.callerAt i) := by
  have listed := congrArg (fun facts => facts[i]?) (map_eq_of_timeless times.callers unchanged)
  simp only [getElem?_map] at listed
  simp only [Snapshot.callerAt, getD_eq_getElem?_getD]
  cases here : a.callers[i]? <;> cases there : b.callers[i]? <;> simp_all

theorem moduleAt {α : Type} {fact : Module → α} (unchanged : ∀ m, fact m.timeless = fact m)
    (i : Nat) : fact (a.moduleAt i) = fact (b.moduleAt i) := by
  have listed := congrArg (fun facts => facts[i]?) (map_eq_of_timeless times.modules unchanged)
  simp only [Snapshot.moduleAt, getD_eq_getElem?_getD]
  cases here : a.modules[i]? <;> cases there : b.modules[i]? <;> simp_all

theorem application_eq (e : Edge) : application a e = application b e := by
  have path : exePath (a.callerAt e.caller) = exePath (b.callerAt e.caller) :=
    times.callerAt (fun _ => rfl) _
  have digest : (a.moduleAt e.module).sha256 = (b.moduleAt e.module).sha256 :=
    times.moduleAt (fun _ => rfl) _
  rw [application, application, path, digest]

theorem edgeFacts_eq (e : Edge) : edgeFacts a e = edgeFacts b e := by
  have caller := times.callerAt callerFacts_timeless e.caller
  have module := times.moduleAt moduleFacts_timeless e.module
  rw [edgeFacts, edgeFacts, caller, module]

variable (path digest : String)

theorem groupEdges_timeless : (groupEdges a path digest).map Edge.timeless =
      (groupEdges b path digest).map Edge.timeless := by
  have kept := congrArg (List.filter fun e => application b e = some (path, digest)) times.edges
  rw [filter_map, filter_map] at kept
  have left : a.edges.filter ((fun e => decide (application b e = some (path, digest))) ∘
      Edge.timeless) = groupEdges a path digest := by
    refine filter_congr fun e _ => ?_
    rw [times.application_eq e]
    rfl
  rw [left] at kept
  exact kept

theorem groupEdges_ne_nil {path digest : String} (present : groupEdges a path digest ≠ []) :
    groupEdges b path digest ≠ [] := by
  intro none
  have same := times.groupEdges_timeless path digest
  rw [none] at same
  exact present (by simpa using same)

theorem edgeFactsOf_eq : edgeFactsOf a path digest = edgeFactsOf b path digest := by
  have mapped : (groupEdges a path digest).map (edgeFacts a) =
      (groupEdges b path digest).map (edgeFacts b) := by
    have facts : edgeFacts a = edgeFacts b := funext times.edgeFacts_eq
    rw [facts]
    exact map_eq_of_timeless (times.groupEdges_timeless path digest) (edgeFacts_timeless b)
  exact congrArg _ mapped

theorem callerFactsOf_eq : callerFactsOf a path digest = callerFactsOf b path digest := by
  have positions : groupCallers a path digest = groupCallers b path digest :=
    congrArg List.toFinset (map_eq_of_timeless (times.groupEdges_timeless path digest) fun _ => rfl)
  unfold callerFactsOf
  rw [positions]
  exact Multiset.map_congr rfl fun i _ => times.callerAt callerFacts_timeless i

theorem moduleFactsOf_eq : moduleFactsOf a path digest = moduleFactsOf b path digest := by
  have positions : groupModules a path digest = groupModules b path digest :=
    congrArg List.toFinset (map_eq_of_timeless (times.groupEdges_timeless path digest) fun _ => rfl)
  unfold moduleFactsOf
  rw [positions]
  exact Multiset.map_congr rfl fun i _ => times.moduleAt moduleFacts_timeless i

theorem contentFactsOf_eq (digest : String) :
    contentFactsOf a digest = contentFactsOf b digest := by
  have kept := congrArg (List.filter fun m : Module => m.sha256 = some digest) times.modules
  rw [filter_map, filter_map] at kept
  exact congrArg _ (map_eq_of_timeless kept moduleFacts_timeless)

theorem contentItems_isEmpty (digest : String) :
    (contentItems a digest).isEmpty = (contentItems b digest).isEmpty := by
  have same := Multiset.coe_eq_coe.mp (times.contentFactsOf_eq digest)
  rw [← contentItems_map a digest moduleFacts, ← contentItems_map b digest moduleFacts] at same
  exact isEmpty_eq_of_perm_map same

theorem pathEntries_eq : pathEntries a = pathEntries b := by
  have listed : a.modules.map (fun m => m.paths.map fun path => (path, m.sha256)) =
      b.modules.map fun m => m.paths.map fun path => (path, m.sha256) :=
    map_eq_of_timeless times.modules fun _ => rfl
  rw [pathEntries, pathEntries, flatMap_def, flatMap_def, listed]

theorem symm : TimesOnly b a := ⟨times.callers.symm, times.modules.symm, times.edges.symm⟩

section Report

variable (enc : Encoding)

theorem applicationCodes_nil {path digest : String}
    (present : groupEdges a path digest ≠ []) : applicationCodes enc a b path digest = [] :=
  (applicationCodes_eq_nil enc a b present (times.groupEdges_ne_nil present)).mpr
    ⟨times.edgeFactsOf_eq path digest, times.callerFactsOf_eq path digest,
      times.moduleFactsOf_eq path digest⟩

theorem applicationChanges_nil : (a.compare enc b).applicationChanges = [] := by
  rw [compare_applicationChanges, applicationRows, filterMap_eq_nil_iff]
  intro key listed
  obtain ⟨path, known, keyed, edges⟩ := exists_listed_application listed
  have present := edges.elim id times.symm.groupEdges_ne_nil
  have silent := times.applicationCodes_nil enc present
  rw [keyed]
  simp only [applicationRow, applications_getD known]
  exact if_pos (List.isEmpty_iff.mpr silent)

theorem modulePathChanges_nil : (a.compare enc b).modulePathChanges = [] := by
  rw [compare_modulePathChanges, pathRows, filterMap_eq_nil_iff]
  intro path _
  have same : (project a (applicationPaths a b)).paths[path]?.getD ∅ =
      (project b (applicationPaths a b)).paths[path]?.getD ∅ := by
    refine ExtTreeSet.ext_mem fun digest => ?_
    rw [mem_paths_getD, mem_paths_getD, times.pathEntries_eq]
  exact if_pos same

theorem content_silent {row : ContentRow} (listed : row ∈ (a.compare enc b).moduleContents) :
    row.changes = [] := by
  obtain ⟨digest, key, rfl⟩ := mem_map.mp listed
  have present : (contentItems a digest).isEmpty = false := by
    rw [isEmpty_eq_false_iff]
    rcases mem_append.mp (mem_toList_ofList.mp key) with inBefore | inAfter
    · exact mem_contents_keys_iff.mp inBefore
    · have there := mem_contents_keys_iff.mp inAfter
      rwa [← isEmpty_eq_false_iff, ← times.contentItems_isEmpty, isEmpty_eq_false_iff] at there
  have both : presence (contentItems a digest).isEmpty (contentItems b digest).isEmpty = .both := by
    rw [← times.contentItems_isEmpty, present]
    rfl
  simp only [contentRow, contents_getD, both]
  exact (contentChangesFor_contentItems_eq_nil enc a b digest).mpr (times.contentFactsOf_eq digest)

end Report

end TimesOnly

/-! ## The laws -/

/-- The comparison is symmetric, does not depend on the order of records, and
reports no change for records that differ in normalized times only. -/
theorem compare_laws (enc : Encoding) (a b : Snapshot) :
    (b.compare enc a).SameUpToUnresolvedOrder (a.compare enc b).mirror ∧
    (∀ a' b', Reordered a a' → Reordered b b' → a'.compare enc b' = a.compare enc b) ∧
    (TimesOnly a b →
      (a.compare enc b).applicationChanges = [] ∧ (a.compare enc b).modulePathChanges = [] ∧
        ∀ row ∈ (a.compare enc b).moduleContents, row.changes = []) := by
  refine ⟨compare_mirror enc a b, ?_, ?_⟩
  · rintro a' b' ⟨moved⟩ ⟨moved'⟩
    exact compare_reordered enc moved moved'
  · intro times
    exact ⟨times.applicationChanges_nil enc, times.modulePathChanges_nil enc,
      fun row listed => times.content_silent enc listed⟩

/-- Seen for longer differs in times only. -/
theorem compare_laws_seenUntil :
    TimesOnly (seenUntil 20) (seenUntil 30) ∧
      ((seenUntil 20).compare numbered (seenUntil 30)).applicationChanges = [] :=
  ⟨⟨rfl, rfl, rfl⟩, ((compare_laws numbered (seenUntil 20) (seenUntil 30)).2.2 ⟨rfl, rfl, rfl⟩).1⟩

end P11Scope.Inventory
