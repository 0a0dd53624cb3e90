import P11Scope.Inventory.Pooling

/-!
# Change codes as functions of ranked views

The codes of a row depend on the multisets of the ranks its records show, and
not on which side is called before.
-/

namespace P11Scope.Inventory

open Std Lib Lib.Sorting Lib.TreeMap

theorem sorted_map_congr {ι κ V K : Type} [Ord K] [TransOrd K] [LawfulEqOrd K]
    {first : List ι} {second : List κ} {view : ι → V} {view' : κ → V}
    (same : (first.map view).Perm (second.map view')) (value : V → K) :
    sorted (first.map fun i => value (view i)) = sorted (second.map fun i => value (view' i)) := by
  refine sorted_eq_iff_perm.mpr ?_
  have mapped := same.map value
  rwa [List.map_map, List.map_map] at mapped

theorem isEmpty_eq_of_perm_map {ι κ V : Type} {first : List ι} {second : List κ} {view : ι → V}
    {view' : κ → V} (same : (first.map view).Perm (second.map view')) :
    first.isEmpty = second.isEmpty := by
  have length := same.length_eq
  rw [List.length_map, List.length_map] at length
  rw [Bool.eq_iff_iff, List.isEmpty_iff_length_eq_zero, List.isEmpty_iff_length_eq_zero, length]

theorem ofList_append_congr {K : Type} [Ord K] [TransOrd K] [LawfulEqOrd K] [DecidableEq K]
    {first second first' second' : List K} (same : ∀ key, key ∈ first ↔ key ∈ first')
    (same' : ∀ key, key ∈ second ↔ key ∈ second') :
    ExtTreeSet.ofList (first ++ second) = ExtTreeSet.ofList (first' ++ second') := by
  refine ofList_eq_of_mem_iff fun key => ?_
  rw [List.mem_append, List.mem_append, same, same']

theorem ofList_append_comm {K : Type} [Ord K] [TransOrd K] [LawfulEqOrd K] [DecidableEq K]
    (first second : List K) :
    ExtTreeSet.ofList (first ++ second) = ExtTreeSet.ofList (second ++ first) :=
  ofList_eq_of_mem_iff fun _ => List.perm_append_comm.mem_iff

/-! ## Content -/

section Content

variable {bi ai bi' ai' : List Nat} {br ar br' ar' : Ranks}

section Congruence

variable (same : (bi.map br.moduleAt).Perm (bi'.map br'.moduleAt))
include same

variable (facet : ModuleFacet)

theorem moduleValues_congr : moduleValues bi br facet = moduleValues bi' br' facet :=
  sorted_map_congr same fun m => moduleValue m facet

theorem moduleCategoryValues_congr (anchored : Bool) :
    moduleCategoryValues bi br facet anchored = moduleCategoryValues bi' br' facet anchored :=
  sorted_map_congr same fun m => (if anchored then m.physical else 0, moduleValue m facet)

theorem moduleWithoutCategory_congr :
    moduleWithoutCategory bi br facet = moduleWithoutCategory bi' br' facet :=
  sorted_map_congr same fun m =>
    [m.physical, m.paths, m.admission, m.lifecycle].set facet.index 0

theorem fullModuleFacts_congr : fullModuleFacts bi br = fullModuleFacts bi' br' :=
  sorted_map_congr same fun m => m.full

end Congruence

section

variable (before : (bi.map br.moduleAt).Perm (bi'.map br'.moduleAt))
include before

variable (after : (ai.map ar.moduleAt).Perm (ai'.map ar'.moduleAt))
include after

theorem contentVariation_congr (facet : ModuleFacet) :
    contentVariation bi ai br ar facet = contentVariation bi' ai' br' ar' facet := by
  refine ofList_append_congr (fun _ => List.Perm.mem_iff ?_) fun _ => List.Perm.mem_iff ?_
  · simpa [Function.comp_def] using before.map fun m => moduleValue m facet
  · simpa [Function.comp_def] using after.map fun m => moduleValue m facet

theorem contentChangesFor_congr :
    contentChangesFor bi ai br ar = contentChangesFor bi' ai' br' ar' := by
  unfold contentChangesFor contentMarginalCodes
  simp only [moduleValues_congr before, moduleValues_congr after,
    moduleCategoryValues_congr before, moduleCategoryValues_congr after,
    moduleWithoutCategory_congr before, moduleWithoutCategory_congr after,
    fullModuleFacts_congr before, fullModuleFacts_congr after,
    contentVariation_congr before after]

end

theorem contentVariation_comm (bi ai : List Nat) (br ar : Ranks) (facet : ModuleFacet) :
    contentVariation bi ai br ar facet = contentVariation ai bi ar br facet :=
  ofList_append_comm _ _

theorem contentChangesFor_comm (bi ai : List Nat) (br ar : Ranks) :
    contentChangesFor bi ai br ar = contentChangesFor ai bi ar br := by
  unfold contentChangesFor contentMarginalCodes
  simp only [eq_comm (a := moduleValues bi br _), ne_eq,
    eq_comm (a := moduleCategoryValues bi br _ _), eq_comm (a := moduleWithoutCategory bi br _),
    eq_comm (a := fullModuleFacts bi br), contentVariation_comm bi]

end Content

/-! ## Applications -/

/-- The ranks shown by the members of a group. -/
def edgeView (s : Snapshot) (r : Ranks) (i : Nat) : CallerRanks × ModuleRanks × EdgeRanks :=
  (r.callerAt (s.edgeAt i).caller, r.moduleAt (s.edgeAt i).module, r.edgeAt i)

/-- Two groups that show the same multisets of ranks. -/
structure SameViews (s : Snapshot) (g : Group) (r : Ranks) (s' : Snapshot) (g' : Group)
    (r' : Ranks) : Prop where
  edges : (g.edges.map (edgeView s r)).Perm (g'.edges.map (edgeView s' r'))
  callers : (g.callers.toList.map r.callerAt).Perm (g'.callers.toList.map r'.callerAt)
  modules : (g.modules.toList.map r.moduleAt).Perm (g'.modules.toList.map r'.moduleAt)

section Application

variable {b a b' a' : Snapshot} {bg ag bg' ag' : Group} {br ar br' ar' : Ranks}

/-- The category of an edge, read off its view. -/
def viewCategory (view : CallerRanks × ModuleRanks × EdgeRanks) : Facet → Nat × Nat
  | .paths => (view.2.1.paths, 0)
  | .admission => (view.2.1.admission, 0)
  | .lifecycle => (view.1.lifecycle, view.2.1.lifecycle)
  | .mapping => (view.2.2.mapping, 0)
  | .coverage => (view.2.2.coverage, 0)
  | .entries => (view.2.2.entries, 0)
  | .semantics => (view.2.2.semantics, 0)

theorem category_eq_viewCategory (s : Snapshot) (r : Ranks) (i : Nat) (facet : Facet) :
    category s r i facet = viewCategory (edgeView s r i) facet := by
  cases facet <;> rfl

section Congruence

variable (same : SameViews b bg br b' bg' br')
include same

theorem callerPopulation_congr : callerPopulation bg br = callerPopulation bg' br' :=
  sorted_map_congr same.callers fun c => c.population

theorem physicalPopulation_congr : physicalPopulation bg br = physicalPopulation bg' br' :=
  sorted_map_congr same.modules fun m => m.physical

theorem fullCallerPopulation_congr : fullCallerPopulation bg br = fullCallerPopulation bg' br' :=
  sorted_map_congr same.callers fun c => c.full

theorem fullModulePopulation_congr : fullModulePopulation bg br = fullModulePopulation bg' br' :=
  sorted_map_congr same.modules fun m => m.full

theorem fullEdgeFacts_congr : fullEdgeFacts b bg br = fullEdgeFacts b' bg' br' :=
  sorted_map_congr same.edges fun view =>
    { caller := view.1.full, module := view.2.1.full, mapping := view.2.2.mapping,
      entries := view.2.2.entries, coverage := view.2.2.coverage,
      semantics := view.2.2.semantics : EdgeFact }

variable (facet : Facet)

theorem categoryValues_congr (anchored : Bool) :
    categoryValues b bg br facet anchored = categoryValues b' bg' br' facet anchored := by
  unfold categoryValues
  exact sorted_map_congr same.edges fun view =>
    (if anchored then view.1.population else 0, if anchored then view.2.1.physical else 0,
      (viewCategory view facet).1, (viewCategory view facet).2)

theorem withoutCategory_congr : withoutCategory b bg br facet = withoutCategory b' bg' br' facet :=
  sorted_map_congr same.edges fun view =>
    facet.blank [view.1.population, view.1.lifecycle, view.2.1.physical, view.2.1.paths,
      view.2.1.admission, view.2.1.lifecycle, view.2.2.mapping, view.2.2.entries,
      view.2.2.coverage, view.2.2.semantics]

theorem map_category_perm :
    (bg.edges.map fun i => category b br i facet).Perm
      (bg'.edges.map fun i => category b' br' i facet) := by
  simpa only [List.map_map, Function.comp_def, category_eq_viewCategory] using
    same.edges.map fun view => viewCategory view facet

end Congruence

theorem variation_congr (before : SameViews b bg br b' bg' br')
    (after : SameViews a ag ar a' ag' ar') (facet : Facet) :
    variation b a bg ag br ar facet = variation b' a' bg' ag' br' ar' facet :=
  ofList_append_congr (fun _ => (map_category_perm before facet).mem_iff)
    fun _ => (map_category_perm after facet).mem_iff

/-- The codes of an application depend on the ranks its groups show. -/
theorem applicationChangesFor_congr (before : SameViews b bg br b' bg' br')
    (after : SameViews a ag ar a' ag' ar') :
    applicationChangesFor b a bg ag br ar = applicationChangesFor b' a' bg' ag' br' ar' := by
  unfold applicationChangesFor edgeCodes sourceCodes populationCodes marginalCodes variationCodes
  simp only [isEmpty_eq_of_perm_map before.edges, isEmpty_eq_of_perm_map after.edges,
    callerPopulation_congr before, callerPopulation_congr after, physicalPopulation_congr before,
    physicalPopulation_congr after, fullCallerPopulation_congr before,
    fullCallerPopulation_congr after, fullModulePopulation_congr before,
    fullModulePopulation_congr after, fullEdgeFacts_congr before, fullEdgeFacts_congr after,
    categoryValues_congr before, categoryValues_congr after, withoutCategory_congr before,
    withoutCategory_congr after, variation_congr before after,
    contentChangesFor_congr before.modules after.modules]

theorem variation_comm (b a : Snapshot) (bg ag : Group) (br ar : Ranks) (facet : Facet) :
    variation b a bg ag br ar facet = variation a b ag bg ar br facet :=
  ofList_append_comm _ _

/-- The codes of an application do not depend on which side is before. -/
theorem applicationChangesFor_comm (b a : Snapshot) (bg ag : Group) (br ar : Ranks) :
    applicationChangesFor b a bg ag br ar = applicationChangesFor a b ag bg ar br := by
  unfold applicationChangesFor edgeCodes sourceCodes populationCodes marginalCodes variationCodes
  simp only [Bool.or_comm bg.edges.isEmpty, eq_comm (a := callerPopulation bg br),
    eq_comm (a := physicalPopulation bg br), eq_comm (a := fullCallerPopulation bg br),
    eq_comm (a := fullModulePopulation bg br), eq_comm (a := fullEdgeFacts b bg br), ne_eq,
    eq_comm (a := categoryValues b bg br _ _), eq_comm (a := withoutCategory b bg br _),
    variation_comm b a bg, contentChangesFor_comm bg.modules.toList]

end Application

end P11Scope.Inventory
