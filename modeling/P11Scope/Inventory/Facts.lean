import P11Scope.Inventory.Changes

/-!
# What the change codes mean

A rank stands for a normalized fact, and the full rank of a record is
determined by the ranks of its categories. Hence a row without codes has equal
multisets of full facts on both sides, however the joint distribution of the
categories changed.
-/

variable {s : Snapshot}

namespace P11Scope.Inventory

open Std Lib Lib.Sorting Lib.TreeMap List

/-! ## Ranks of records -/

section Records

variable (enc : Encoding) (table : ExtTreeSet (List UInt8))

def callerRanks (c : Caller) : CallerRanks :=
  CallerRanks.ofRow ((callerKeys enc c).map (rank table))

def moduleRanks (m : Module) : ModuleRanks :=
  ModuleRanks.ofRow ((moduleKeys enc m).map (rank table))

def edgeRanks (e : Edge) : EdgeRanks :=
  EdgeRanks.ofRow ((edgeKeys enc e).map (rank table))

/-- The slices of the key rows are the records' own ranks. -/
theorem sideRanks_eq (s : Snapshot) :
    sideRanks enc table s =
      { callers := s.callers.map (callerRanks enc table)
        modules := s.modules.map (moduleRanks enc table)
        edges := s.edges.map (edgeRanks enc table) } := by
  unfold sideRanks snapshotKeys
  simp only [map_append, map_map]
  congr 1
  · simp [callerRanks, Function.comp_def]
  · simp [moduleRanks, Function.comp_def]
  · rw [← drop_drop]
    simp [edgeRanks, Function.comp_def]

end Records

/-- Every key of the snapshot is ranked. -/
def Covered (enc : Encoding) (table : ExtTreeSet (List UInt8)) (s : Snapshot) : Prop :=
  ∀ row ∈ snapshotKeys enc s, ∀ key ∈ row, key ∈ table

theorem rankTable_covers_before (enc : Encoding) (before after : Snapshot) :
    Covered enc (rankTable enc before after) before := by
  intro row listed key member
  exact mem_ofList.mpr (mem_flatten.mpr ⟨row, mem_append_left _ listed, member⟩)

theorem rankTable_covers_after (enc : Encoding) (before after : Snapshot) :
    Covered enc (rankTable enc before after) after := by
  intro row listed key member
  exact mem_ofList.mpr (mem_flatten.mpr ⟨row, mem_append_right _ listed, member⟩)

/-! ## Normalized facts -/

def callerFacts (c : Caller) : CallerEvidence := (callerEvidence c).timeless

def moduleFacts (m : Module) : ModuleEvidence := (moduleEvidence m).timeless

/-- What an edge says of its caller and module, times apart. -/
structure EdgeFacts where
  caller : CallerEvidence
  module : ModuleEvidence
  mapping : Mapping
  entries : Entries
  coverage : Option Coverage
  semantics : Label
  deriving DecidableEq

def edgeFacts (s : Snapshot) (e : Edge) : EdgeFacts :=
  { caller := callerFacts (s.callerAt e.caller)
    module := moduleFacts (s.moduleAt e.module)
    mapping := e.mapping.timeless
    entries := e.entries.timeless
    coverage := e.coverage.map Coverage.timeless
    semantics := e.semantics }

section Ranked

variable {enc : Encoding} {table : ExtTreeSet (List UInt8)}

theorem rank_encoded_eq_iff {kind : FactKind} {first second : kind.Fact}
    (known : enc.encoded kind first ∈ table) :
    rank table (enc.encoded kind first) = rank table (enc.encoded kind second) ↔
      first = second := by
  rw [rank_inj known]
  exact (enc.injective kind).eq_iff

/-- The keys of a caller are ranked. -/
def CallerCovered (enc : Encoding) (table : ExtTreeSet (List UInt8)) (c : Caller) : Prop :=
  ∀ key ∈ callerKeys enc c, key ∈ table

def ModuleCovered (enc : Encoding) (table : ExtTreeSet (List UInt8)) (m : Module) : Prop :=
  ∀ key ∈ moduleKeys enc m, key ∈ table

def EdgeCovered (enc : Encoding) (table : ExtTreeSet (List UInt8)) (e : Edge) : Prop :=
  ∀ key ∈ edgeKeys enc e, key ∈ table

section

variable (covered : Covered enc table s)
include covered

theorem Covered.caller {c : Caller} (listed : c ∈ s.callers) : CallerCovered enc table c :=
  covered _ (mem_append_left _ (mem_map_of_mem listed))

theorem Covered.module {m : Module} (listed : m ∈ s.modules) : ModuleCovered enc table m :=
  covered _ (mem_append_right _ (mem_append_left _ (mem_map_of_mem listed)))

theorem Covered.edge {e : Edge} (listed : e ∈ s.edges) : EdgeCovered enc table e :=
  covered _ (mem_append_right _ (mem_append_right _ (mem_map_of_mem listed)))

end

theorem callerRanks_full_eq_iff {c c' : Caller} (covered : CallerCovered enc table c) :
    (callerRanks enc table c).full = (callerRanks enc table c').full ↔
      callerFacts c = callerFacts c' :=
  rank_encoded_eq_iff (covered _ (by simp [callerKeys]))

/-- The full fact of a caller is its population fact and its lifecycle fact. -/
theorem callerRanks_full_eq_iff_parts {c c' : Caller} (covered : CallerCovered enc table c) :
    (callerRanks enc table c).full = (callerRanks enc table c').full ↔
      (callerRanks enc table c).population = (callerRanks enc table c').population ∧
        (callerRanks enc table c).lifecycle = (callerRanks enc table c').lifecycle := by
  have population : (callerRanks enc table c).population = (callerRanks enc table c').population ↔
      _ := rank_encoded_eq_iff (covered _ (by simp [callerKeys]))
  have lifecycle : (callerRanks enc table c).lifecycle = (callerRanks enc table c').lifecycle ↔
      _ := rank_encoded_eq_iff (covered _ (by simp [callerKeys]))
  rw [callerRanks_full_eq_iff covered, population, lifecycle]
  simp only [callerFacts, CallerEvidence.timeless, callerEvidence, CallerEvidence.mk.injEq,
    Prod.mk.injEq]
  tauto

theorem moduleRanks_full_eq_iff {m m' : Module} (covered : ModuleCovered enc table m) :
    (moduleRanks enc table m).full = (moduleRanks enc table m').full ↔
      moduleFacts m = moduleFacts m' := by
  have full : (moduleRanks enc table m).full = (moduleRanks enc table m').full ↔ _ :=
    rank_encoded_eq_iff (covered _ (by simp [moduleKeys]))
  rw [full]
  simp only [moduleFacts, ModuleEvidence.timeless, moduleEvidence, ModuleEvidence.mk.injEq,
    Prod.mk.injEq]
  tauto

/-- The full fact of a module is its physical, path, admission and lifecycle facts. -/
theorem moduleRanks_full_eq_iff_parts {m m' : Module} (covered : ModuleCovered enc table m) :
    (moduleRanks enc table m).full = (moduleRanks enc table m').full ↔
      (moduleRanks enc table m).physical = (moduleRanks enc table m').physical ∧
        (moduleRanks enc table m).paths = (moduleRanks enc table m').paths ∧
        (moduleRanks enc table m).admission = (moduleRanks enc table m').admission ∧
        (moduleRanks enc table m).lifecycle = (moduleRanks enc table m').lifecycle := by
  have full : (moduleRanks enc table m).full = (moduleRanks enc table m').full ↔ _ :=
    rank_encoded_eq_iff (covered _ (by simp [moduleKeys]))
  have physical : (moduleRanks enc table m).physical = (moduleRanks enc table m').physical ↔ _ :=
    rank_encoded_eq_iff (covered _ (by simp [moduleKeys]))
  have paths : (moduleRanks enc table m).paths = (moduleRanks enc table m').paths ↔ _ :=
    rank_encoded_eq_iff (covered _ (by simp [moduleKeys]))
  have admission : (moduleRanks enc table m).admission = (moduleRanks enc table m').admission ↔
      _ := rank_encoded_eq_iff (covered _ (by simp [moduleKeys]))
  have lifecycle : (moduleRanks enc table m).lifecycle = (moduleRanks enc table m').lifecycle ↔
      _ := rank_encoded_eq_iff (covered _ (by simp [moduleKeys]))
  rw [full, physical, paths, admission, lifecycle]
  simp only [Prod.mk.injEq]

theorem edgeRanks_eq_iff {e e' : Edge} (covered : EdgeCovered enc table e) :
    edgeRanks enc table e = edgeRanks enc table e' ↔
      e.mapping.timeless = e'.mapping.timeless ∧ e.entries.timeless = e'.entries.timeless ∧
        e.coverage.map Coverage.timeless = e'.coverage.map Coverage.timeless ∧
        e.semantics = e'.semantics := by
  have mapping : (edgeRanks enc table e).mapping = (edgeRanks enc table e').mapping ↔ _ :=
    rank_encoded_eq_iff (covered _ (by simp [edgeKeys]))
  have entries : (edgeRanks enc table e).entries = (edgeRanks enc table e').entries ↔ _ :=
    rank_encoded_eq_iff (covered _ (by simp [edgeKeys]))
  have coverage : (edgeRanks enc table e).coverage = (edgeRanks enc table e').coverage ↔ _ :=
    rank_encoded_eq_iff (covered _ (by simp [edgeKeys]))
  have semantics : (edgeRanks enc table e).semantics = (edgeRanks enc table e').semantics ↔ _ :=
    rank_encoded_eq_iff (covered _ (by simp [edgeKeys]))
  rw [← mapping, ← entries, ← coverage, ← semantics]
  cases edgeRanks enc table e
  cases edgeRanks enc table e'
  simp

end Ranked

/-! ## Rows without codes

The classification only uses that full ranks are determined by the ranks of the
categories. -/

/-- Full ranks of the two sides are determined by the category ranks. -/
structure Determined (br ar : Ranks) : Prop where
  callers : ∀ c ∈ br.callers ++ ar.callers, ∀ c' ∈ br.callers ++ ar.callers,
    c.full = c'.full ↔ c.population = c'.population ∧ c.lifecycle = c'.lifecycle
  modules : ∀ m ∈ br.modules ++ ar.modules, ∀ m' ∈ br.modules ++ ar.modules,
    m.full = m'.full ↔ m.physical = m'.physical ∧ m.paths = m'.paths ∧
      m.admission = m'.admission ∧ m.lifecycle = m'.lifecycle

/-- The listed modules are ranked on their side. -/
def ModulesWithin (indexes : List Nat) (r : Ranks) : Prop :=
  ∀ i ∈ indexes, r.moduleAt i ∈ r.modules

theorem collected_eq_nil {codes : List ChangeCode} : collected codes = [] ↔ codes = [] :=
  toList_ofList_eq_nil

section Content

variable {bi ai : List Nat} {br ar : Ranks}

/-- Where the physical marginals agree and no category varies, the full facts agree. -/
theorem fullModuleFacts_eq_of_constant (determined : Determined br ar)
    (beforeWithin : ModulesWithin bi br) (afterWithin : ModulesWithin ai ar)
    (physical : moduleValues bi br .physical = moduleValues ai ar .physical)
    (constant : ∀ item ∈ contentFacets, ¬(contentVariation bi ai br ar item.1).size > 1) :
    fullModuleFacts bi br = fullModuleFacts ai ar := by
  refine sorted_eq_iff_perm.mpr (perm_map_of_determined ?_ (sorted_eq_iff_perm.mp physical))
  intro i inBefore j inAfter anchor
  have still : ∀ item ∈ contentFacets,
      moduleValue (br.moduleAt i) item.1 = moduleValue (ar.moduleAt j) item.1 := by
    intro item facet
    refine eq_of_size_ofList_le_one (constant item facet) ?_ ?_
    · exact mem_append_left _ (mem_map_of_mem inBefore)
    · exact mem_append_right _ (mem_map_of_mem inAfter)
  refine (determined.modules _ (mem_append_left _ (beforeWithin i inBefore)) _
    (mem_append_right _ (afterWithin j inAfter))).mpr ⟨anchor, ?_, ?_, ?_⟩
  · exact still (.paths, .paths) (by simp [contentFacets])
  · exact still (.admission, .admission) (by simp [contentFacets])
  · exact still (.lifecycle, .lifecycle) (by simp [contentFacets])

/-- A content row has no code exactly when the full facts agree. -/
theorem contentChangesFor_eq_nil (determined : Determined br ar)
    (beforeWithin : ModulesWithin bi br) (afterWithin : ModulesWithin ai ar) :
    contentChangesFor bi ai br ar = [] ↔ fullModuleFacts bi br = fullModuleFacts ai ar := by
  unfold contentChangesFor
  constructor
  · intro silent
    by_contra differ
    rw [if_neg differ] at silent
    simp only [List.isEmpty_iff] at silent
    split at silent
    · next noMarginal =>
        rw [collected_eq_nil, map_eq_nil_iff, filter_eq_nil_iff] at silent
        have physical : moduleValues bi br .physical = moduleValues ai ar .physical := by
          by_contra moved
          simp [contentMarginalCodes, moved] at noMarginal
        refine differ (fullModuleFacts_eq_of_constant determined beforeWithin afterWithin
          physical ?_)
        intro item facet
        simpa using silent item facet
    · next marginal => exact marginal (collected_eq_nil.mp silent)
  · intro same
    rw [if_pos same]

end Content

/-- The members of a group are ranked on their side. -/
structure Group.Within (g : Group) (s : Snapshot) (r : Ranks) : Prop where
  edgeCaller : ∀ i ∈ g.edges, r.callerAt (s.edgeAt i).caller ∈ r.callers
  edgeModule : ∀ i ∈ g.edges, r.moduleAt (s.edgeAt i).module ∈ r.modules
  caller : ∀ i ∈ g.callers.toList, r.callerAt i ∈ r.callers
  module : ModulesWithin g.modules.toList r

section Application

variable {b a : Snapshot} {bg ag : Group} {br ar : Ranks}

theorem mem_facets (facet : Facet) : facet ∈ facets := by
  cases facet <;> simp [facets]

/-- With equal populations, equal anchored marginals and no varying category, the
full edge facts agree. -/
theorem fullEdgeFacts_eq_of_constant (determined : Determined br ar)
    (beforeWithin : bg.Within b br) (afterWithin : ag.Within a ar)
    (anchored : categoryValues b bg br .paths true = categoryValues a ag ar .paths true)
    (constant : ∀ facet, ¬(variation b a bg ag br ar facet).size > 1) :
    fullEdgeFacts b bg br = fullEdgeFacts a ag ar := by
  refine sorted_eq_iff_perm.mpr (perm_map_of_determined ?_ (sorted_eq_iff_perm.mp anchored))
  intro i inBefore j inAfter anchor
  simp only [if_true, Prod.mk.injEq] at anchor
  have still : ∀ facet, category b br i facet = category a ar j facet := fun facet =>
    eq_of_size_ofList_le_one (constant facet)
      (mem_append_left _ (mem_map_of_mem inBefore))
      (mem_append_right _ (mem_map_of_mem inAfter))
  have paths := still .paths
  have admission := still .admission
  have lifecycle := still .lifecycle
  have mapping := still .mapping
  have coverage := still .coverage
  have entries := still .entries
  have semantics := still .semantics
  simp only [category, Prod.mk.injEq, and_true] at paths admission lifecycle
  simp only [category, Prod.mk.injEq, and_true] at mapping coverage entries semantics
  have caller := (determined.callers _ (mem_append_left _ (beforeWithin.edgeCaller i inBefore))
    _ (mem_append_right _ (afterWithin.edgeCaller j inAfter))).mpr ⟨anchor.1, lifecycle.1⟩
  have module := (determined.modules _ (mem_append_left _ (beforeWithin.edgeModule i inBefore))
    _ (mem_append_right _ (afterWithin.edgeModule j inAfter))).mpr
    ⟨anchor.2.1, paths, admission, lifecycle.2⟩
  simp only [edgeFact, caller, module, mapping, entries, coverage, semantics]

theorem populationCodes_eq_nil : populationCodes bg ag br ar = [] ↔
    callerPopulation bg br = callerPopulation ag ar ∧
      physicalPopulation bg br = physicalPopulation ag ar := by
  simp [populationCodes]

section

variable (determined : Determined br ar) (beforeWithin : bg.Within b br)
  (afterWithin : ag.Within a ar)
include determined beforeWithin afterWithin

/-- Without edge codes the populations and the full edge facts agree. -/
theorem edgeCodes_eq_nil : edgeCodes b a bg ag br ar = [] ↔
      fullEdgeFacts b bg br = fullEdgeFacts a ag ar ∧
        callerPopulation bg br = callerPopulation ag ar ∧
        physicalPopulation bg br = physicalPopulation ag ar := by
  unfold edgeCodes
  constructor
  · intro silent
    split at silent
    · next same => exact ⟨same, populationCodes_eq_nil.mp silent⟩
    rename_i differ
    simp only [List.isEmpty_iff, append_eq_nil_iff] at silent
    split at silent
    · next noMarginal =>
        have populations := populationCodes_eq_nil.mp noMarginal.1
        have marginals := noMarginal.2
        simp only [marginalCodes, map_eq_nil_iff, filter_eq_nil_iff,
          populations.1, populations.2, and_self, decide_true] at marginals
        have anchored := marginals .paths (mem_facets _)
        simp only [decide_eq_true_eq, not_or, not_not] at anchored
        refine absurd (fullEdgeFacts_eq_of_constant determined beforeWithin afterWithin
          anchored.1 ?_) differ
        intro facet
        simp only [variationCodes, map_eq_nil_iff, filter_eq_nil_iff, decide_eq_true_eq] at silent
        exact silent facet (mem_facets _)
    · next named =>
        exact absurd (append_eq_nil_iff.mp silent) named
  · rintro ⟨same, populations⟩
    rw [if_pos same]
    exact populationCodes_eq_nil.mpr populations

theorem callerPopulation_eq_of_full (full : fullCallerPopulation bg br = fullCallerPopulation ag ar)
    : callerPopulation bg br = callerPopulation ag ar := by
  refine sorted_eq_iff_perm.mpr (perm_map_of_determined ?_ (sorted_eq_iff_perm.mp full))
  intro i inBefore j inAfter same
  exact ((determined.callers _ (mem_append_left _ (beforeWithin.caller i inBefore)) _
    (mem_append_right _ (afterWithin.caller j inAfter))).mp same).1

theorem physicalPopulation_eq_of_full
    (full : fullModulePopulation bg br = fullModulePopulation ag ar) :
    physicalPopulation bg br = physicalPopulation ag ar := by
  refine sorted_eq_iff_perm.mpr (perm_map_of_determined ?_ (sorted_eq_iff_perm.mp full))
  intro i inBefore j inAfter same
  exact ((determined.modules _ (mem_append_left _ (beforeWithin.module i inBefore)) _
    (mem_append_right _ (afterWithin.module j inAfter))).mp same).1

/-- A group present on both sides has no code exactly when the full facts of its
edges, of its callers and of its modules agree. -/
theorem applicationChangesFor_eq_nil (beforePresent : bg.edges ≠ []) (afterPresent : ag.edges ≠ [])
    : applicationChangesFor b a bg ag br ar = [] ↔
      fullEdgeFacts b bg br = fullEdgeFacts a ag ar ∧
        fullCallerPopulation bg br = fullCallerPopulation ag ar ∧
        fullModulePopulation bg br = fullModulePopulation ag ar := by
  have present : (bg.edges.isEmpty || ag.edges.isEmpty) = false := by
    simp [beforePresent, afterPresent]
  unfold applicationChangesFor
  rw [present, if_neg Bool.false_ne_true, collected_eq_nil, append_eq_nil_iff,
    edgeCodes_eq_nil determined beforeWithin afterWithin]
  constructor
  · rintro ⟨⟨edges, callers, physical⟩, sources⟩
    simp only [sourceCodes, callers, physical, and_true, append_eq_nil_iff] at sources
    refine ⟨edges, ?_, ?_⟩
    · by_contra differ
      simp [differ] at sources
    · by_contra differ
      rw [if_pos differ, contentChangesFor_eq_nil determined beforeWithin.module
        afterWithin.module] at sources
      exact differ sources.2
  · rintro ⟨edges, callers, modules⟩
    refine ⟨⟨edges, callerPopulation_eq_of_full determined beforeWithin afterWithin callers,
      physicalPopulation_eq_of_full determined beforeWithin afterWithin modules⟩, ?_⟩
    simp [sourceCodes, callers, modules]

end

end Application

end P11Scope.Inventory
