import P11Scope.Inventory.Groups

/-!
# Pooled evidence by value

Where the sort key is read off the row, pooling yields the distinct rows in
strictly increasing order of key and encoding, and refers to each source row by
the position of its value. Strictly increasing lists with the same members are
equal, so the pool depends on the rows as a set.
-/

variable {source : List Nat} {i : Nat}

namespace P11Scope.Inventory

open Std Lib Lib.Sorting Lib.TreeMap List

section Pool

variable {T K : Type} [DecidableEq T] [Ord K] [TransOrd K] [LawfulEqOrd K]

/-- Strictly increasing under an injective code. -/
def Increasing (code : T → K) (facts : List T) : Prop :=
  facts.Pairwise fun first second => compare (code first) (code second) = .lt

variable {code : T → K} {facts : List T}

omit [DecidableEq T] [LawfulEqOrd K] in
theorem Increasing.nodup (increasing : Increasing code facts) : facts.Nodup := by
  refine increasing.imp ?_
  intro first second below same
  rw [same, ReflOrd.compare_self] at below
  cases below

omit [DecidableEq T] [LawfulEqOrd K] in
/-- Increasing lists with the same members are equal. -/
theorem Increasing.eq_of_mem_iff {first second : List T}
    (increasing : Increasing code first) (increasing' : Increasing code second)
    (same : ∀ row, row ∈ first ↔ row ∈ second) : first = second := by
  refine List.Perm.eq_of_pairwise ?_ increasing increasing'
    ((perm_ext_iff_of_nodup increasing.nodup increasing'.nodup).mpr same)
  intro a b _ _ below above
  rw [OrientedCmp.gt_of_lt below] at above
  cases above

omit [LawfulEqOrd K] in
/-- A row above every held fact is either the last fact or above the last one. -/
theorem Increasing.poolRow (injective : Function.Injective code)
    [LawfulEqOrd K] (increasing : Increasing code facts) {row : T} (above : ∀ fact ∈ facts,
      (compare (code fact) (code row)).isLE = true) (source : List Nat) (i : Nat) :
    Increasing code (poolRow (facts, source) row i).1 := by
  simp only [Inventory.poolRow]
  split
  · exact increasing
  rename_i apart
  refine pairwise_append.mpr ⟨increasing, pairwise_singleton _ _, ?_⟩
  intro fact held other only
  rw [mem_singleton.mp only]
  rcases Ordering.isLE_iff_eq_lt_or_eq_eq.mp (above fact held) with below | level
  · exact below
  -- An equal row already held would be the last fact.
  have same : fact = row := injective (LawfulEqOrd.eq_of_compare level)
  subst same
  obtain ⟨front, last, rfl⟩ : ∃ front last, facts = front ++ [last] := by
    rcases eq_nil_or_concat facts with rfl | ⟨front, last, rfl⟩
    · cases held
    · exact ⟨front, last, by simp⟩
  rcases mem_append.mp held with earlier | atEnd
  · have below := (pairwise_append.mp increasing).2.2 fact earlier last (by simp)
    have back := above last (by simp)
    rw [OrientedCmp.gt_of_lt below] at back
    cases back
  · rw [mem_singleton.mp atEnd] at apart
    simp at apart

theorem mem_poolRow {row : T} {fact : T} :
    fact ∈ (poolRow (facts, source) row i).1 ↔ fact ∈ facts ∨ fact = row := by
  simp only [poolRow]
  split
  · next last =>
      have held : row ∈ facts := mem_of_getLast? last
      constructor
      · exact Or.inl
      · rintro (member | rfl)
        · exact member
        · exact held
  · simp

omit [LawfulEqOrd K] in
/-- The position noted for a row is the position of its value. -/
theorem idxOf_poolRow {row : T}
    (increasing : Increasing code (poolRow (facts, source) row i).1) :
    (poolRow (facts, source) row i).1.idxOf row = (poolRow (facts, source) row i).1.length - 1 := by
  have last : (poolRow (facts, source) row i).1.getLast? = some row := by
    simp only [poolRow]
    split
    · assumption
    · simp
  rw [getLast?_eq_getElem?] at last
  obtain ⟨inside, value⟩ := List.getElem?_eq_some_iff.mp last
  have placed := increasing.nodup.idxOf_getElem _ inside
  rwa [value] at placed

/-- What the loop has done after the rows of a sorted listing: the facts are
increasing and are the rows seen, earlier facts keep their positions, and every
listed source position holds the position of its value. -/
structure Pooled (code : T → K) (items : List (K × Nat × T)) (start finish : List T × List Nat) :
    Prop where
  increasing : Increasing code finish.1
  mem : ∀ fact, fact ∈ finish.1 ↔ fact ∈ start.1 ∨ ∃ item ∈ items, item.2.2 = fact
  kept : ∀ fact ∈ start.1, finish.1.idxOf fact = start.1.idxOf fact
  length : finish.2.length = start.2.length
  placed : ∀ item ∈ items, item.2.1 < start.2.length →
    finish.2[item.2.1]? = some (finish.1.idxOf item.2.2)
  untouched : ∀ i, (∀ item ∈ items, item.2.1 ≠ i) → finish.2[i]? = start.2[i]?

omit [TransOrd K] [LawfulEqOrd K] in
theorem idxOf_poolRow_of_mem {row fact : T} (held : fact ∈ facts) :
    (poolRow (facts, source) row i).1.idxOf fact = facts.idxOf fact := by
  simp only [poolRow]
  split
  · rfl
  · exact idxOf_append_of_mem held

theorem foldl_poolRow (injective : Function.Injective code)
    (items : List (K × Nat × T)) (coded : ∀ item ∈ items, item.1 = code item.2.2)
    (ordered : items.Pairwise (AtMost fun item => item.1))
    (positions : (items.map fun item => item.2.1).Nodup) (start : List T × List Nat)
    (increasing : Increasing code start.1)
    (above : ∀ fact ∈ start.1, ∀ item ∈ items, (compare (code fact) item.1).isLE = true) :
    Pooled code items start
      (items.foldl (fun held item => poolRow held item.2.2 item.2.1) start) := by
  induction items generalizing start with
  | nil =>
    exact
      { increasing
        mem := by simp
        kept := fun _ _ => rfl
        length := rfl
        placed := by simp
        untouched := fun _ _ => rfl }
  | cons item rest ih =>
    obtain ⟨headFirst, restOrdered⟩ := pairwise_cons.mp ordered
    obtain ⟨fresh, restPositions⟩ := nodup_cons.mp positions
    have restCoded : ∀ other ∈ rest, other.1 = code other.2.2 :=
      fun other listed => coded other (mem_cons_of_mem _ listed)
    have headCoded : item.1 = code item.2.2 := coded item mem_cons_self
    have next : Increasing code (poolRow start item.2.2 item.2.1).1 := by
      refine increasing.poolRow injective ?_ _ _
      intro fact held
      rw [← headCoded]
      exact above fact held item mem_cons_self
    have nextAbove : ∀ fact ∈ (poolRow start item.2.2 item.2.1).1, ∀ other ∈ rest,
        (compare (code fact) other.1).isLE = true := by
      intro fact held other listed
      rcases mem_poolRow.mp held with earlier | rfl
      · exact above fact earlier other (mem_cons_of_mem _ listed)
      · rw [← headCoded]
        exact headFirst other listed
    have done := ih restCoded restOrdered restPositions _ next nextAbove
    have noted : (poolRow start item.2.2 item.2.1).2 =
        start.2.set item.2.1 ((poolRow start item.2.2 item.2.1).1.length - 1) := rfl
    have row : item.2.2 ∈ (poolRow start item.2.2 item.2.1).1 := mem_poolRow.mpr (Or.inr rfl)
    refine
      { increasing := done.increasing
        mem := ?_
        kept := ?_
        length := ?_
        placed := ?_
        untouched := ?_ }
    · intro fact
      rw [foldl_cons, done.mem, mem_poolRow]
      simp only [mem_cons, exists_eq_or_imp]
      rw [or_assoc, eq_comm (a := fact)]
    · intro fact held
      rw [foldl_cons, done.kept fact (mem_poolRow.mpr (Or.inl held))]
      exact idxOf_poolRow_of_mem held
    · rw [foldl_cons, done.length, noted, length_set]
    · intro other listed inside
      rcases mem_cons.mp listed with rfl | later
      · have apart : ∀ later ∈ rest, later.2.1 ≠ other.2.1 := by
          intro later member same
          exact fresh (mem_map.mpr ⟨later, member, same⟩)
        rw [foldl_cons, done.untouched _ apart, noted, done.kept _ row,
          idxOf_poolRow next, getElem?_set_self inside]
      · refine done.placed other later ?_
        rw [noted, length_set]
        exact inside
    · intro i apart
      have here : item.2.1 ≠ i := apart item mem_cons_self
      rw [foldl_cons,
        done.untouched i fun other later => apart other (mem_cons_of_mem _ later), noted,
        getElem?_set_ne here]

/-- The order of a pool: by key, then by encoding. -/
def poolCode (key : T → K) (encode : T → List UInt8) (row : T) : K × List UInt8 :=
  (key row, encode row)

/-- The listing that pooling sorts, where the keys are read off the rows. -/
def poolItems (key : T → K) (encode : T → List UInt8) (rows : List T) :
    List ((K × List UInt8) × Nat × T) :=
  rows.zipIdx.map fun item => (poolCode key encode item.1, item.2, item.1)

/-- Pooling rows whose key is read off the row. -/
theorem pool_spec (key : T → K) {encode : T → List UInt8} (injective : Function.Injective encode)
    (rows : List T) :
    Increasing (poolCode key encode) (pool encode rows (rows.map key)).1 ∧
      (∀ row, row ∈ (pool encode rows (rows.map key)).1 ↔ row ∈ rows) ∧
      (pool encode rows (rows.map key)).2 =
        rows.map fun row => (pool encode rows (rows.map key)).1.idxOf row := by
  let ordered := sortBy (fun item : (K × List UInt8) × Nat × T => item.1)
    (poolItems key encode rows)
  have listing : ordered.Perm (poolItems key encode rows) := sortBy_perm _ _
  have coded : ∀ item ∈ ordered, item.1 = poolCode key encode item.2.2 := by
    intro item member
    obtain ⟨source, -, rfl⟩ := mem_map.mp (listing.mem_iff.mp member)
    rfl
  have positions : (ordered.map fun item => item.2.1).Nodup := by
    refine (listing.map _).nodup_iff.mpr ?_
    rw [poolItems, map_map]
    change (rows.zipIdx.map Prod.snd).Nodup
    rw [zipIdx_map_snd]
    exact nodup_range'
  have separate : Function.Injective (poolCode key encode) :=
    fun first second same => injective (Prod.mk.inj same).2
  have done := foldl_poolRow separate ordered coded (sortBy_pairwise _ _) positions
    ([], List.replicate ordered.length 0) List.Pairwise.nil (by simp)
  have made : pool encode rows (rows.map key) = ordered.foldl
      (fun held item => poolRow held item.2.2 item.2.1)
      ([], List.replicate ordered.length 0) := by
    rw [pool, ← map_prod_left_eq_zip, zipIdx_map, map_map]
    rfl
  have size : ordered.length = rows.length := by
    rw [listing.length_eq, poolItems]
    simp
  rw [← made] at done
  refine ⟨done.increasing, ?_, ?_⟩
  · intro row
    rw [done.mem]
    simp only [not_mem_nil, false_or, listing.mem_iff, poolItems, mem_map]
    constructor
    · rintro ⟨item, ⟨source, listed, rfl⟩, rfl⟩
      exact mem_of_getElem? (mem_zipIdx_iff_getElem?.mp listed)
    · intro member
      obtain ⟨i, inside, rfl⟩ := List.getElem_of_mem member
      exact ⟨_, ⟨(rows[i], i), mem_zipIdx_iff_getElem?.mpr (by simp [inside]), rfl⟩, rfl⟩
  · refine ext_getElem? ?_
    intro i
    by_cases inside : i < rows.length
    · have listed : (poolCode key encode rows[i], i, rows[i]) ∈ ordered :=
        listing.mem_iff.mpr (mem_map.mpr
          ⟨(rows[i], i), mem_zipIdx_iff_getElem?.mpr (by simp [inside]), rfl⟩)
      rw [done.placed _ listed (by simpa [size] using inside)]
      simp [inside]
    · have short := done.length
      rw [length_replicate] at short
      rw [getElem?_eq_none (by omega), getElem?_eq_none (by simpa using inside)]

/-- The pool depends on the rows as a set. -/
theorem pool_fst_eq {key : T → K} {encode : T → List UInt8} (injective : Function.Injective encode)
    {first second : List T} (same : ∀ row, row ∈ first ↔ row ∈ second) :
    (pool encode first (first.map key)).1 = (pool encode second (second.map key)).1 := by
  obtain ⟨increasing, mem, -⟩ := pool_spec key injective first
  obtain ⟨increasing', mem', -⟩ := pool_spec key injective second
  refine increasing.eq_of_mem_iff increasing' ?_
  intro row
  rw [mem, mem', same]

end Pool

/-! ## Evidence of one side -/

section Side

variable (enc : Encoding) (table : ExtTreeSet (List UInt8))

def callerOrder (evidence : CallerEvidence) : UInt32 × Option UInt64 × Nat :=
  (evidence.pid, evidence.startTime, rank table (enc.encoded .caller evidence.timeless))

def moduleFullRank (evidence : ModuleEvidence) : Nat :=
  let full := evidence.timeless
  rank table (enc.encoded .moduleFull (full.identity, full.paths, full.admission, full.lifecycle,
    full.unloadedObserved, full.unboundUse))

def moduleOrder (evidence : ModuleEvidence) : PhysicalIdentity × Nat :=
  (evidence.identity, moduleFullRank enc table evidence)

variable (s : Snapshot)

def callerPool : List CallerEvidence :=
  (pool (enc.encoded .caller) (s.callers.map callerEvidence)
    ((s.callers.map callerEvidence).map (callerOrder enc table))).1

def modulePool : List ModuleEvidence :=
  (pool (enc.encoded .module) (s.modules.map moduleEvidence)
    ((s.modules.map moduleEvidence).map (moduleOrder enc table))).1

/-- The reference of a caller record: the position of its value. -/
def callerRef (c : Caller) : CallerRef := (callerPool enc table s).idxOf (callerEvidence c)

def moduleRef (m : Module) : ModuleRef := (modulePool enc table s).idxOf (moduleEvidence m)

theorem poolCallers_eq : poolCallers enc s (sideRanks enc table s) =
    (callerPool enc table s, s.callers.map (callerRef enc table s)) := by
  have keys : (s.callers.zip (sideRanks enc table s).callers).map
        (fun pair => (pair.1.pid, pair.1.startTime, pair.2.full)) =
      (s.callers.map callerEvidence).map (callerOrder enc table) := by
    rw [sideRanks_eq, ← map_prod_left_eq_zip, map_map, map_map]
    rfl
  have refs := (pool_spec (callerOrder enc table) (enc.injective .caller)
    (s.callers.map callerEvidence)).2.2
  unfold poolCallers
  rw [keys]
  refine Prod.ext rfl ?_
  rw [refs, map_map]
  rfl

theorem poolModules_eq : poolModules enc s (sideRanks enc table s) =
    (modulePool enc table s, s.modules.map (moduleRef enc table s)) := by
  have keys : ((s.modules.map moduleEvidence).zip (sideRanks enc table s).modules).map
        (fun pair => (pair.1.identity, pair.2.full)) =
      (s.modules.map moduleEvidence).map (moduleOrder enc table) := by
    rw [sideRanks_eq, zip_map_left, ← map_prod_left_eq_zip, map_map, map_map, map_map]
    rfl
  have refs := (pool_spec (moduleOrder enc table) (enc.injective .module)
    (s.modules.map moduleEvidence)).2.2
  simp only [poolModules]
  rw [keys]
  refine Prod.ext rfl ?_
  rw [refs, map_map]
  rfl

theorem callerPool_callerRef {c : Caller} (listed : c ∈ s.callers) :
    (callerPool enc table s)[callerRef enc table s c]? = some (callerEvidence c) := by
  refine getElem?_idxOf ?_
  exact ((pool_spec (callerOrder enc table) (enc.injective .caller) _).2.1 _).mpr
    (mem_map_of_mem listed)

theorem modulePool_moduleRef {m : Module} (listed : m ∈ s.modules) :
    (modulePool enc table s)[moduleRef enc table s m]? = some (moduleEvidence m) := by
  refine getElem?_idxOf ?_
  exact ((pool_spec (moduleOrder enc table) (enc.injective .module) _).2.1 _).mpr
    (mem_map_of_mem listed)

/-- The evidence row of an edge, by value. -/
def edgeRow (e : Edge) : EdgeEvidence :=
  { caller := callerRef enc table s (s.callerAt e.caller)
    module := moduleRef enc table s (s.moduleAt e.module)
    mapping := e.mapping
    entries := e.entries
    coverage := e.coverage
    semantics := e.semantics }

/-- The sort key of an edge row, read through its references. -/
def edgeOrder (callers : List CallerEvidence) (modules : List ModuleEvidence)
    (row : EdgeEvidence) : EdgeFact :=
  { caller := (callers[row.caller]?.map fun evidence =>
      rank table (enc.encoded .caller evidence.timeless)).getD 0
    module := (modules[row.module]?.map (moduleFullRank enc table)).getD 0
    mapping := rank table (enc.encoded .mapping row.mapping.timeless)
    entries := rank table (enc.encoded .entries row.entries.timeless)
    coverage := rank table (enc.encoded .coverage (row.coverage.map Coverage.timeless))
    semantics := rank table (enc.encoded .semantics row.semantics) }

theorem edgeFact_eq_edgeOrder (inside : i < s.edges.length) : edgeFact s (sideRanks enc table s) i =
      edgeOrder enc table (callerPool enc table s) (modulePool enc table s)
        (edgeRow enc table s (s.edgeAt i)) := by
  obtain ⟨caller, module⟩ := s.edgesResolved _ (Snapshot.edgeAt_mem inside)
  simp only [edgeFact, edgeOrder, edgeRow]
  rw [sideRanks_edgeAt enc table inside, sideRanks_callerAt enc table caller,
    sideRanks_moduleAt enc table module, callerPool_callerRef enc table s
      (Snapshot.callerAt_mem caller), modulePool_moduleRef enc table s
      (Snapshot.moduleAt_mem module)]
  rfl

def edgePool : List EdgeEvidence :=
  (pool (enc.encoded .edge) (s.edges.map (edgeRow enc table s))
    ((s.edges.map (edgeRow enc table s)).map
      (edgeOrder enc table (callerPool enc table s) (modulePool enc table s)))).1

def edgeRef (e : Edge) : EdgeRef := (edgePool enc table s).idxOf (edgeRow enc table s e)

theorem edgeEvidence_eq : s.edges.map (edgeEvidence (s.callers.map (callerRef enc table s))
      (s.modules.map (moduleRef enc table s))) = s.edges.map (edgeRow enc table s) := by
  refine map_congr_left fun e listed => ?_
  obtain ⟨caller, module⟩ := s.edgesResolved e listed
  simp [edgeEvidence, edgeRow, Snapshot.callerAt, Snapshot.moduleAt, caller, module]

theorem poolEdges_eq :
    poolEdges enc s (sideRanks enc table s) (s.callers.map (callerRef enc table s))
        (s.modules.map (moduleRef enc table s)) =
      (edgePool enc table s, s.edges.map (edgeRef enc table s)) := by
  have keys : (List.range s.edges.length).map (fun i => edgeFact s (sideRanks enc table s) i) =
      (s.edges.map (edgeRow enc table s)).map
        (edgeOrder enc table (callerPool enc table s) (modulePool enc table s)) := by
    refine ext_getElem (by simp) ?_
    intro i inside _
    have within : i < s.edges.length := by simpa using inside
    simp [edgeFact_eq_edgeOrder enc table s within, Snapshot.edgeAt, within]
  have refs := (pool_spec
    (edgeOrder enc table (callerPool enc table s) (modulePool enc table s))
    (enc.injective .edge) (s.edges.map (edgeRow enc table s))).2.2
  unfold poolEdges
  rw [edgeEvidence_eq, keys]
  refine Prod.ext rfl ?_
  rw [refs, map_map]
  rfl

/-- The evidence row of a gap, by value. -/
def gapRow (g : Gap) : GapEvidence :=
  { caller := g.caller.map fun i => callerRef enc table s (s.callerAt i)
    module := g.module.map fun i => moduleRef enc table s (s.moduleAt i)
    pid := g.pid
    subject := g.subject
    reason := g.reason
    budget := g.budget
    repeats := g.repeats }

theorem gapEvidence_eq {g : Gap} (listed : g ∈ s.gaps) :
    gapEvidence (s.callers.map (callerRef enc table s)) (s.modules.map (moduleRef enc table s)) g =
      gapRow enc table s g := by
  obtain ⟨callers, modules⟩ := s.gapsResolved g listed
  have caller : (g.caller.map fun i => (s.callers.map (callerRef enc table s)).getD i 0) =
      g.caller.map fun i => callerRef enc table s (s.callerAt i) := by
    refine Option.map_congr ?_
    intro i named
    simp [Snapshot.callerAt, callers i named]
  have module : (g.module.map fun i => (s.modules.map (moduleRef enc table s)).getD i 0) =
      g.module.map fun i => moduleRef enc table s (s.moduleAt i) := by
    refine Option.map_congr ?_
    intro i named
    simp [Snapshot.moduleAt, modules i named]
  simp only [gapEvidence, gapRow, caller, module]

/-- A side prepared against the shared ranks. -/
def preparedSide : Prepared := prepare enc s (sideRanks enc table s)

theorem preparedSide_callers : (preparedSide enc table s).callers =
    s.callers.map (callerRef enc table s) := by
  simp only [preparedSide, prepare, poolCallers_eq]

theorem preparedSide_modules : (preparedSide enc table s).modules =
    s.modules.map (moduleRef enc table s) := by
  simp only [preparedSide, prepare, poolModules_eq]

theorem preparedSide_edges : (preparedSide enc table s).edges =
    s.edges.map (edgeRef enc table s) := by
  simp only [preparedSide, prepare, poolCallers_eq, poolModules_eq, poolEdges_eq]

theorem preparedSide_evidence : (preparedSide enc table s).summary.evidence =
    { callers := callerPool enc table s
      modules := modulePool enc table s
      edges := edgePool enc table s
      callerOccurrences := sorted (s.callers.map (callerRef enc table s))
      moduleOccurrences := sorted (s.modules.map (moduleRef enc table s))
      edgeOccurrences := sorted (s.edges.map (edgeRef enc table s)) } := by
  simp only [preparedSide, prepare, poolCallers_eq, poolModules_eq, poolEdges_eq]

theorem preparedSide_gaps : (preparedSide enc table s).summary.gaps =
    sortFull enc .gap (s.gaps.map (gapRow enc table s)) := by
  have rows : s.gaps.map (gapEvidence (s.callers.map (callerRef enc table s))
      (s.modules.map (moduleRef enc table s))) = s.gaps.map (gapRow enc table s) :=
    map_congr_left fun g listed => gapEvidence_eq enc table s listed
  simp only [preparedSide, prepare, poolCallers_eq, poolModules_eq]
  rw [rows]

theorem preparedSide_callerAt (inside : i < s.callers.length) :
    (preparedSide enc table s).callers.getD i 0 = callerRef enc table s (s.callerAt i) := by
  simp [preparedSide_callers, Snapshot.callerAt, inside]

theorem preparedSide_moduleAt (inside : i < s.modules.length) :
    (preparedSide enc table s).modules.getD i 0 = moduleRef enc table s (s.moduleAt i) := by
  simp [preparedSide_modules, Snapshot.moduleAt, inside]

theorem preparedSide_edgeAt (inside : i < s.edges.length) :
    (preparedSide enc table s).edges.getD i 0 = edgeRef enc table s (s.edgeAt i) := by
  simp [preparedSide_edges, Snapshot.edgeAt, inside]

end Side

end P11Scope.Inventory
