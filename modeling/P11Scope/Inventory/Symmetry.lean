import P11Scope.Inventory.Views

/-!
# Symmetries of the comparison

Exchanging the snapshots mirrors the report, reordering the records of a
snapshot leaves the report as it is, and times alone are never a change.
-/

variable {path : String}

namespace P11Scope.Inventory

open Std Lib Lib.Sorting Lib.TreeMap List

/-! ## Exchanged sides -/

section Exchange

variable (enc : Encoding) (before after : Snapshot)

theorem rankTable_comm : rankTable enc before after = rankTable enc after before := by
  refine ofList_eq_of_mem_iff fun key => ?_
  rw [flatten_append, flatten_append]
  exact perm_append_comm.mem_iff

theorem applicationPaths_comm : applicationPaths before after = applicationPaths after before :=
  ofList_append_comm _ _

theorem allLimitations_comm : allLimitations before after = allLimitations after before := by
  refine ofList_eq_of_mem_iff fun text => ?_
  simp only [mem_append]
  tauto

end Exchange

theorem presence_exchange {first second : Bool} (some : ¬(first = true ∧ second = true)) :
    presence second first = (presence first second).mirror := by
  cases first <;> cases second <;> simp_all [presence, Presence.mirror]

theorem Presence.mirror_eq_iff {held other : Presence} :
    held.mirror = other ↔ held = other.mirror := by
  cases held <;> cases other <;> simp [Presence.mirror]

theorem Presence.mirror_eq_both {held : Presence} : held.mirror = .both ↔ held = .both :=
  Presence.mirror_eq_iff

section Keys

variable {s : Snapshot} {paths : ExtTreeSet String}

theorem mem_contents_keys_iff {digest : String} :
    digest ∈ (project s paths).contents.keys ↔ contentItems s digest ≠ [] := by
  rw [ExtTreeMap.mem_keys, ExtTreeMap.mem_iff_isSome_getElem?, ← contents_getD s paths digest,
    project, getElem?_groupInto]
  split
  · simp
  · next entries =>
      rw [foldl_push]
      exact iff_of_true rfl entries

/-- Every key of the projection is an application with an edge. -/
theorem exists_application {key : Nat × String}
    (listed : key ∈ (project s paths).applications.keys)
    (known : ∀ e ∈ s.edges, ∀ path digest, application s e = some (path, digest) → path ∈ paths) :
    ∃ path, path ∈ paths ∧ key.1 = rank paths path ∧ groupEdges s path key.2 ≠ [] := by
  have present : ((project s paths).applications[key]?).isSome :=
    ExtTreeMap.mem_iff_isSome_getElem?.mp (ExtTreeMap.mem_keys.mp listed)
  have grouped : (project s paths).applications[key]? = _ :=
    getElem?_groupInto Group.add Group.empty (applicationEntries s paths) key
  split at grouped
  · rw [grouped] at present
    cases present
  rename_i entries
  simp only [entriesOf_eq_nil, not_forall, not_not] at entries
  obtain ⟨entry, member, own⟩ := entries
  obtain ⟨⟨e, i⟩, indexed, made⟩ := mem_filterMap.mp member
  obtain ⟨⟨path, digest⟩, found, rfl⟩ := Option.map_eq_some_iff.mp made
  have edge : e ∈ s.edges := mem_of_getElem? (mem_zipIdx_iff_getElem?.mp indexed)
  subst own
  refine ⟨path, known e edge path digest found, rfl, ?_⟩
  exact ne_nil_of_mem (mem_filter.mpr ⟨edge, decide_eq_true found⟩)

theorem mem_entriesOf {K V : Type} [DecidableEq K] {key : K} {value : V}
    {entries : List (K × V)} : value ∈ entriesOf key entries ↔ (key, value) ∈ entries := by
  simp [entriesOf]

/-- The digests recorded under a path. -/
theorem mem_paths_getD {digest : Option String} :
    digest ∈ (project s paths).paths[path]?.getD ∅ ↔ (path, digest) ∈ pathEntries s := by
  rw [← mem_entriesOf, project, getElem?_groupInto]
  split
  · next none => simp [none]
  · refine (TreeSet.mem_foldl_insert id id fun _ _ => rfl).trans ?_
    simp

theorem mem_paths_keys :
    path ∈ (project s paths).paths.keys ↔ ∃ digest, (path, digest) ∈ pathEntries s := by
  rw [ExtTreeMap.mem_keys, ExtTreeMap.mem_iff_isSome_getElem?, project, getElem?_groupInto]
  split
  · next none =>
      simp only [Option.isSome_none, Bool.false_eq_true, false_iff, not_exists, ← mem_entriesOf,
        none, not_mem_nil, not_false_eq_true, implies_true]
  rename_i entries
  obtain ⟨digest, member⟩ := exists_mem_of_ne_nil _ entries
  simp only [Option.isSome_some, true_iff]
  exact ⟨digest, mem_entriesOf.mp member⟩

theorem path_nonempty (key : path ∈ (project s paths).paths.keys) :
    ((project s paths).paths[path]?.getD ∅).isEmpty = false := by
  obtain ⟨digest, recorded⟩ := mem_paths_keys.mp key
  rw [Bool.eq_false_iff]
  intro empty
  have held : digest ∈ (project s paths).paths[path]?.getD ∅ := mem_paths_getD.mpr recorded
  rw [ExtTreeSet.isEmpty_iff.mp empty] at held
  exact ExtTreeSet.not_mem_empty held

end Keys

theorem mem_applicationPaths_of_before {before after : Snapshot} :
    ∀ e ∈ before.edges, ∀ path digest, application before e = some (path, digest) →
      path ∈ applicationPaths before after := by
  intro e listed path digest found
  exact mem_applicationPaths_before (mem_filter.mpr ⟨listed, decide_eq_true found⟩)

theorem mem_applicationPaths_of_after {before after : Snapshot} :
    ∀ e ∈ after.edges, ∀ path digest, application after e = some (path, digest) →
      path ∈ applicationPaths before after := by
  rw [applicationPaths_comm]
  exact mem_applicationPaths_of_before

/-- A key of the report is an application of one of the snapshots. -/
theorem exists_listed_application {before after : Snapshot} {key : Nat × String}
    (listed : key ∈ (ExtTreeSet.ofList
      ((project before (applicationPaths before after)).applications.keys ++
        (project after (applicationPaths before after)).applications.keys)).toList) :
    ∃ path ∈ applicationPaths before after,
      key = (rank (applicationPaths before after) path, key.2) ∧
        (groupEdges before path key.2 ≠ [] ∨ groupEdges after path key.2 ≠ []) := by
  rcases mem_append.mp (mem_toList_ofList.mp listed) with inBefore | inAfter
  · obtain ⟨path, known, ref, edges⟩ := exists_application inBefore mem_applicationPaths_of_before
    exact ⟨path, known, Prod.ext ref rfl, .inl edges⟩
  · obtain ⟨path, known, ref, edges⟩ := exists_application inAfter mem_applicationPaths_of_after
    exact ⟨path, known, Prod.ext ref rfl, .inr edges⟩

/-! ### Mirrored rows -/

section Mirror

variable (enc : Encoding) (before after : Snapshot)

theorem compare_moduleContents : (before.compare enc after).moduleContents =
    contentRows (sideRanks enc (rankTable enc before after) before)
      (sideRanks enc (rankTable enc before after) after)
      (project before (applicationPaths before after))
      (project after (applicationPaths before after))
      (preparedSide enc (rankTable enc before after) before)
      (preparedSide enc (rankTable enc before after) after) := rfl

theorem compare_applicationChanges : (before.compare enc after).applicationChanges =
    applicationRows (sideRanks enc (rankTable enc before after) before)
      (sideRanks enc (rankTable enc before after) after)
      (project before (applicationPaths before after))
      (project after (applicationPaths before after))
      (preparedSide enc (rankTable enc before after) before)
      (preparedSide enc (rankTable enc before after) after) before after := rfl

theorem compare_modulePathChanges : (before.compare enc after).modulePathChanges =
    pathRows (project before (applicationPaths before after))
      (project after (applicationPaths before after)) := rfl

theorem compare_unresolved : (before.compare enc after).unresolved =
    sortFull enc .unresolved
      (unresolvedRows before (preparedSide enc (rankTable enc before after) before) .before ++
        unresolvedRows after (preparedSide enc (rankTable enc before after) after) .after) := rfl

theorem moduleContents_mirror : (after.compare enc before).moduleContents =
    (before.compare enc after).moduleContents.map ContentRow.mirror := by
  rw [compare_moduleContents, compare_moduleContents, rankTable_comm enc after before,
    applicationPaths_comm after before]
  unfold contentRows
  rw [ofList_append_comm, map_map]
  refine map_congr_left ?_
  intro digest listed
  have present : ¬((contentItems before digest).isEmpty = true ∧
      (contentItems after digest).isEmpty = true) := by
    rintro ⟨beforeEmpty, afterEmpty⟩
    rcases mem_append.mp (mem_toList_ofList.mp listed) with key | key
    · exact mem_contents_keys_iff.mp key (List.isEmpty_iff.mp beforeEmpty)
    · exact mem_contents_keys_iff.mp key (List.isEmpty_iff.mp afterEmpty)
  simp only [Function.comp_apply, contentRow, contents_getD, ContentRow.mirror,
    presence_exchange present, ne_eq, Presence.mirror_eq_both,
    contentChangesFor_comm (contentItems before digest)]

theorem applicationChanges_mirror : (after.compare enc before).applicationChanges =
    (before.compare enc after).applicationChanges.map ApplicationChange.mirror := by
  rw [compare_applicationChanges, compare_applicationChanges, rankTable_comm enc after before,
    applicationPaths_comm after before]
  unfold applicationRows
  rw [ofList_append_comm, map_filterMap]
  refine filterMap_congr ?_
  intro key listed
  obtain ⟨path, known, keyed, edges⟩ := exists_listed_application listed
  have present : ¬((groupOf before path key.2).edges.isEmpty = true ∧
      (groupOf after path key.2).edges.isEmpty = true) := by
    simpa only [List.isEmpty_iff, groupOf_edges_eq_nil, not_and_or] using edges
  rw [keyed]
  simp only [applicationRow, applications_getD known,
    applicationChangesFor_comm before after, presence_exchange present]
  split
  · rfl
  · rfl

theorem modulePathChanges_mirror : (after.compare enc before).modulePathChanges =
    (before.compare enc after).modulePathChanges.map ModulePathChange.mirror := by
  rw [compare_modulePathChanges, compare_modulePathChanges, applicationPaths_comm after before]
  unfold pathRows
  rw [ofList_append_comm, map_filterMap]
  refine filterMap_congr ?_
  intro path listed
  have present : ¬(((project before (applicationPaths before after)).paths[path]?.getD ∅).isEmpty =
        true ∧
      ((project after (applicationPaths before after)).paths[path]?.getD ∅).isEmpty = true) := by
    rintro ⟨beforeEmpty, afterEmpty⟩
    rcases mem_append.mp (mem_toList_ofList.mp listed) with key | key
    · rw [path_nonempty key] at beforeEmpty
      cases beforeEmpty
    · rw [path_nonempty key] at afterEmpty
      cases afterEmpty
  simp only [pathRow, presence_exchange present]
  by_cases same : (project before (applicationPaths before after)).paths[path]?.getD ∅ =
      (project after (applicationPaths before after)).paths[path]?.getD ∅
  · rw [if_pos same, if_pos same.symm]
    rfl
  · rw [if_neg same, if_neg fun h => same h.symm]
    rfl

theorem unresolvedRows_mirror (s : Snapshot) (p : Prepared) (side : Side) :
    (unresolvedRows s p side).map Unresolved.mirror = unresolvedRows s p side.mirror := by
  unfold unresolvedRows unresolvedModules unresolvedEdges unresolvedCallers
  simp only [map_append, map_filterMap]
  refine congrArg₂ _ ?_ (congrArg₂ _ ?_ ?_)
  all_goals
    refine filterMap_congr fun item _ => ?_
    split <;> rfl

theorem unresolved_mirror : (after.compare enc before).unresolved.Perm
    ((before.compare enc after).unresolved.map Unresolved.mirror) := by
  rw [compare_unresolved, rankTable_comm enc after before]
  have mirrored := (sortBy_perm (enc.encoded .unresolved)
    (unresolvedRows before (preparedSide enc (rankTable enc before after) before) .before ++
      unresolvedRows after (preparedSide enc (rankTable enc before after) after) .after)).map
    Unresolved.mirror
  rw [map_append, unresolvedRows_mirror, unresolvedRows_mirror] at mirrored
  exact (sortBy_perm _ _).trans (perm_append_comm.trans mirrored.symm)

theorem countP_mirror (rows : List ContentRow) (held : Presence) :
    (rows.map ContentRow.mirror).countP (fun row => row.presence = held) =
      rows.countP fun row => row.presence = held.mirror := by
  rw [countP_map]
  refine countP_congr fun row _ => ?_
  simp [ContentRow.mirror, Presence.mirror_eq_iff]

theorem summary_mirror : (after.compare enc before).summary =
    (before.compare enc after).summary.mirror := by
  have contents := moduleContents_mirror enc before after
  have applications := applicationChanges_mirror enc before after
  have moved := modulePathChanges_mirror enc before after
  have unresolved := (unresolved_mirror enc before after).length_eq
  rw [length_map] at unresolved
  refine Summary.ext ?_ ?_ ?_ ?_ ?_ ?_ unresolved
  · change (applicationPaths after before).size = (applicationPaths before after).size
    rw [applicationPaths_comm]
  · change (changedPaths (after.compare enc before).applicationChanges).size =
      (changedPaths (before.compare enc after).applicationChanges).size
    rw [applications]
    simp [changedPaths, Function.comp_def, ApplicationChange.mirror]
  · change (after.compare enc before).moduleContents.countP _ = _
    rw [contents]
    exact countP_mirror _ .both
  · change (after.compare enc before).moduleContents.countP _ = _
    rw [contents]
    exact countP_mirror _ .beforeOnly
  · change (after.compare enc before).moduleContents.countP _ = _
    rw [contents]
    exact countP_mirror _ .afterOnly
  · change (after.compare enc before).modulePathChanges.length = _
    rw [moved, length_map]
    rfl

/-- Exchanging the snapshots mirrors the report. -/
theorem compare_mirror : (after.compare enc before).SameUpToUnresolvedOrder
    (before.compare enc after).mirror := by
  refine ⟨unresolved_mirror enc before after, ?_⟩
  refine DiffReport.ext rfl ?_ ?_ ?_ (summary_mirror enc before after)
    (moduleContents_mirror enc before after) (applicationChanges_mirror enc before after)
    (modulePathChanges_mirror enc before after) rfl ?_
  · change (preparedSide enc (rankTable enc after before) after).summary =
      (preparedSide enc (rankTable enc before after) after).summary
    rw [rankTable_comm]
  · change (preparedSide enc (rankTable enc after before) before).summary =
      (preparedSide enc (rankTable enc before after) before).summary
    rw [rankTable_comm]
  · refine Comparison.ext rfl rfl rfl rfl rfl ?_ ?_
    · change (if after.scope = before.scope then "same_recorded_label"
        else "different_recorded_labels") = if before.scope = after.scope then
        "same_recorded_label" else "different_recorded_labels"
      simp only [eq_comm]
    · change (applicationPaths after before).toList = (applicationPaths before after).toList
      rw [applicationPaths_comm]
  · change (allLimitations after before).toList = (allLimitations before after).toList
    rw [allLimitations_comm]

end Mirror

end P11Scope.Inventory
