import P11Scope.Inventory.Pooling

/-!
# What the evidence keeps

The report refers to pooled facts instead of source rows.  The pools hold every
row once by value, the occurrences count how often it was recorded, and an edge
that no application group has is listed with the reasons.
-/

namespace P11Scope.Inventory

open Std Lib Lib.Sorting Lib.TreeMap List

/-- Pooled rows: the facts are distinct, every row's reference names its value,
and each fact occurs once for every row equal to it. -/
structure Represents {T : Type} [DecidableEq T] (facts : List T) (references occurrences : List Nat)
    (rows : List T) : Prop where
  distinct : facts.Nodup
  named : references.map (fun reference => facts[reference]?) = rows.map some
  counted : ∀ reference fact, facts[reference]? = some fact →
    occurrences.count reference = rows.count fact

theorem Represents.of_pool {S T K : Type} [DecidableEq T] [Ord K] [TransOrd K] [LawfulEqOrd K]
    (key : T → K) {encode : T → List UInt8} (injective : Function.Injective encode)
    (sources : List S) (view : S → T) :
    let facts := (pool encode (sources.map view) ((sources.map view).map key)).1
    Represents facts (sources.map fun source => facts.idxOf (view source))
      (sorted (sources.map fun source => facts.idxOf (view source))) (sources.map view) := by
  intro facts
  obtain ⟨increasing, mem, -⟩ := pool_spec key injective (sources.map view)
  have place : ∀ source ∈ sources, facts[facts.idxOf (view source)]? = some (view source) :=
    fun source listed => getElem?_idxOf ((mem _).mpr (mem_map_of_mem listed))
  refine ⟨increasing.nodup, ?_, fun reference fact held => ?_⟩
  · rw [map_map, map_map]
    exact map_congr_left place
  · obtain ⟨inside, value⟩ := List.getElem?_eq_some_iff.mp held
    rw [sorted, (sortBy_perm _ _).count_eq, count, count, countP_map, countP_map]
    refine countP_congr fun source listed => ?_
    simp only [Function.comp_apply, beq_iff_eq]
    constructor
    · rintro rfl
      exact Option.some.inj ((place source listed).symm.trans held)
    · intro same
      rw [same, ← value]
      exact increasing.nodup.idxOf_getElem _ inside

/-! ## Groups and unresolved rows by position -/

section Positions

variable {s : Snapshot} {p : Prepared} {side : Side} {paths : ExtTreeSet String} {i : Nat}

/-- The positions of the edges in a group of the projection. -/
def groupedEdges (s : Snapshot) (paths : ExtTreeSet String) (key : Nat × String) : List Nat :=
  ((project s paths).applications[key]?.getD Group.empty).edges

/-- A position is in the group of its edge's application, once, and in no other. -/
theorem count_applications {e : Edge} (found : s.edges[i]? = some e) (key : Nat × String) :
    (groupedEdges s paths key).count i =
      if (application s e).map (fun named => (rank paths named.1, named.2)) = some key
      then 1 else 0 := by
  let own : Edge × Nat → Bool := fun item =>
    (application s item.1).map (fun named => (rank paths named.1, named.2)) = some key
  have positions : groupedEdges s paths key = (s.edges.zipIdx.filter own).map Prod.snd := by
    have entries : (entriesOf key (applicationEntries s paths)).map (fun entry => entry.1) =
        (s.edges.zipIdx.filter own).map Prod.snd := by
      rw [applicationEntries, entriesOf_filterMap, map_filterMap, ← filterMap_eq_map,
        filterMap_filter]
      refine filterMap_congr fun item _ => ?_
      cases named : application s item.1 <;> simp [own, named, apply_ite]
    rw [← entries, groupedEdges, project, getElem?_groupInto]
    split
    · next none => simp [none, Group.empty]
    · simp [foldl_add_edges, Group.empty]
  have distinct : ((s.edges.zipIdx.filter own).map Prod.snd).Nodup := by
    refine List.Nodup.sublist (filter_sublist.map Prod.snd) ?_
    rw [zipIdx_map_snd]
    exact nodup_range'
  rw [positions, distinct.count]
  refine if_congr ?_ rfl rfl
  simp [mem_zipIdx_iff_getElem?, found, own]

theorem application_eq_none {e : Edge} : application s e = none ↔ edgeReasons s e ≠ [] := by
  unfold application edgeReasons
  cases exePath (s.callerAt e.caller) <;> cases (s.moduleAt e.module).sha256 <;> simp

theorem zipIdx_eq_map_range {α : Type} (items : List α) (read : Nat → α)
    (reads : ∀ i item, items[i]? = some item → read i = item) :
    items.zipIdx = (List.range items.length).map fun i => (read i, i) := by
  refine ext_getElem (by simp) fun i inside _ => ?_
  simp [reads i _ (getElem?_eq_getElem (by simpa using inside))]

end Positions

/-- What one side of the report keeps of its snapshot. -/
structure Kept (s : Snapshot) (p : Prepared) (paths : ExtTreeSet String) (side : Side) : Prop where
  callers : Represents p.summary.evidence.callers p.callers p.summary.evidence.callerOccurrences
    (s.callers.map callerEvidence)
  modules : Represents p.summary.evidence.modules p.modules p.summary.evidence.moduleOccurrences
    (s.modules.map moduleEvidence)
  edges : Represents p.summary.evidence.edges p.edges p.summary.evidence.edgeOccurrences
    (s.edges.map (edgeEvidence p.callers p.modules))
  grouped : ∀ i e, s.edges[i]? = some e →
    if edgeReasons s e = [] then
      ∃ key, ∀ other, (groupedEdges s paths other).count i = if other = key then 1 else 0
    else ∀ key, i ∉ groupedEdges s paths key
  reasons : ∀ e,
    (.missingExecutablePath ∈ edgeReasons s e ↔ exePath (s.callerAt e.caller) = none) ∧
      (.missingModuleDigest ∈ edgeReasons s e ↔ (s.moduleAt e.module).sha256 = none)
  unresolved : unresolvedRows s p side =
    ((List.range s.modules.length).filter fun i => (s.moduleAt i).sha256.isNone).map (fun i =>
        ⟨side, .module, [.missingModuleDigest], none, some (p.modules.getD i 0), none⟩) ++
      (((List.range s.edges.length).filter fun i => edgeReasons s (s.edgeAt i) ≠ []).map (fun i =>
          ⟨side, .edge, edgeReasons s (s.edgeAt i), none, none, some (p.edges.getD i 0)⟩) ++
        ((List.range s.callers.length).filter fun i => ∀ e ∈ s.edges, e.caller ≠ i).map fun i =>
          ⟨side, .caller, [.noModuleObservation], some (p.callers.getD i 0), none, none⟩)

theorem preparedSide_kept (enc : Encoding) (table : ExtTreeSet (List UInt8)) (s : Snapshot)
    (paths : ExtTreeSet String) (side : Side) :
    Kept s (preparedSide enc table s) paths side := by
  refine ⟨?_, ?_, ?_, fun i e found => ?_, fun e => ?_, ?_⟩
  · rw [preparedSide_evidence, preparedSide_callers]
    exact Represents.of_pool (callerOrder enc table) (enc.injective .caller) _ _
  · rw [preparedSide_evidence, preparedSide_modules]
    exact Represents.of_pool (moduleOrder enc table) (enc.injective .module) _ _
  · rw [preparedSide_evidence, preparedSide_edges, preparedSide_callers, preparedSide_modules,
      edgeEvidence_eq]
    exact Represents.of_pool (edgeOrder enc table _ _) (enc.injective .edge) _ _
  · split
    case isTrue resolved =>
      cases named : application s e with
      | none => exact absurd resolved (application_eq_none.mp named)
      | some key =>
        refine ⟨(rank paths key.1, key.2), fun other => ?_⟩
        rw [count_applications found, named]
        exact if_congr (Option.some_inj.trans eq_comm) rfl rfl
    case isFalse unresolved =>
      intro key
      rw [← count_eq_zero, count_applications found, application_eq_none.mpr unresolved]
      rfl
  · simp only [edgeReasons]
    cases exePath (s.callerAt e.caller) <;> cases (s.moduleAt e.module).sha256 <;> simp
  · have modules := zipIdx_eq_map_range s.modules s.moduleAt (by
      simp +contextual [Snapshot.moduleAt])
    have edges := zipIdx_eq_map_range s.edges s.edgeAt fun _ _ => Snapshot.edgeAt_of_getElem?
    simp only [unresolvedRows, unresolvedModules, unresolvedEdges, unresolvedCallers, modules,
      edges, filterMap_map]
    simp only [← filterMap_eq_map, filterMap_filter]
    refine congrArg₂ _ rfl (congrArg₂ _ ?_ ?_)
    · refine filterMap_congr fun i _ => ?_
      cases none : edgeReasons s (s.edgeAt i) <;> simp [none]
    · refine filterMap_congr fun i _ => ?_
      by_cases used : ∃ e ∈ s.edges, e.caller = i <;> simp_all

/-- The evidence of a comparison loses no row of either snapshot. -/
theorem compare_keeps_every_row (enc : Encoding) (before after : Snapshot) :
    Kept before (prepare enc before (ranks enc before after).1) (applicationPaths before after)
        .before ∧
      Kept after (prepare enc after (ranks enc before after).2) (applicationPaths before after)
        .after :=
  ⟨preparedSide_kept enc _ before _ _, preparedSide_kept enc _ after _ _⟩

end P11Scope.Inventory
