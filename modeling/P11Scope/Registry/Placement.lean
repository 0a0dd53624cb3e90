import P11Scope.Registry.State

/-!
# Every witness note is placed once

The placement counters move with the notes: one note, one counter.  The module
counter is the sum of the modules' rows, and a module's rows are the sum of its
reasons.
-/

namespace P11Scope.Registry

open Std Lib.TreeMap ExtTreeMap Option
open Binder (CallerId UnboundReason)

def ModuleRecord.useRows (record : ModuleRecord) : Nat := record.unboundUse.elim 0 UnboundUse.rows

/-- A module's per-reason counts add up to its rows. -/
def ModuleRecord.Summed (record : ModuleRecord) : Prop :=
  ∀ use, record.unboundUse = some use → sumBy (fun _ count => count) use.reasons = use.rows

/-- A noted row is one more row and one more count of its reason. -/
theorem UnboundUse.note_summed {record : ModuleRecord} (summed : record.Summed)
    (room : record.useRows < u64Max) (firstNs : Nat) (code : String) (entries : Nat) :
    (UnboundUse.note record.unboundUse firstNs code entries).rows = record.useRows + 1 ∧
    sumBy (fun _ count => count) (UnboundUse.note record.unboundUse firstNs code entries).reasons =
      (UnboundUse.note record.unboundUse firstNs code entries).rows := by
  obtain ⟨start, begun, rows, total⟩ : ∃ start : UnboundUse,
      record.unboundUse.getD ⟨firstNs, 0, ∅, 0⟩ = start ∧ start.rows = record.useRows ∧
        sumBy (fun _ count => count) start.reasons = start.rows := by
    cases known : record.unboundUse with
    | none => exact ⟨_, rfl, by simp [ModuleRecord.useRows, known], sumBy_empty _⟩
    | some use => exact ⟨use, rfl, by simp [ModuleRecord.useRows, known], summed use known⟩
  simp only [UnboundUse.note, begun]
  have added := sumBy_insert (fun _ count => count) start.reasons code
    (satAdd (start.reasons.getD code 0) 1)
  have stored : (start.reasons[code]?).elim 0 (fun count => count) = start.reasons.getD code 0 := by
    rw [getD_eq_getD_getElem?]
    cases start.reasons[code]? <;> rfl
  have part : start.reasons.getD code 0 ≤ start.rows := by
    have inserted := sumBy_insert (fun _ count => count) start.reasons code 0
    omega
  have unsaturated : ∀ counter, counter < u64Max → satAdd counter 1 = counter + 1 := by
    unfold satAdd
    omega
  rw [unsaturated _ (by omega)] at added ⊢
  rw [unsaturated _ (by omega)]
  exact ⟨by omega, by omega⟩

/-- Decided witness rows that a mutation carries. -/
def Mutation.notes : Mutation → Nat
  | .noteBoundWitness _ _ _ => 1
  | .noteUnboundWitness _ _ _ _ => 1
  | .noteUnresolvedWitness => 1
  | _ => 0

namespace CallerRegistry

/-- Module-level rows over all modules. -/
def moduleRows (registry : CallerRegistry) : Nat :=
  sumBy (fun _ record => record.useRows) registry.modules

/-- Module ids are handed out in order, and the columns agree. -/
structure Exact (registry : CallerRegistry) : Prop where
  indexed : ∀ key id, registry.moduleIdFor key = some id → registry.modules.contains id = true
  issued : ∀ id, registry.modules.contains id = true → id.toNat < registry.modules.size
  next : registry.nextModule.toNat = registry.modules.size
  capacity : registry.limits.maxModules < 2 ^ 32
  module : registry.witnessPlacement.module = registry.moduleRows
  summed : ∀ (id : ModuleId) record, registry.modules[id]? = some record → record.Summed
  fits : registry.witnessPlacement.module ≤ u64Max

theorem exact_new (maxGaps : Option Nat) (fingerprint : RegistryGap → UInt64) :
    (new (registryLimits maxGaps) fingerprint).Exact where
  indexed := by
    intro key id found
    cases found
  issued := by
    intro id present
    simp [new] at present
  next := by simp [new]
  capacity := by
    change 4096 < 2 ^ 32
    decide
  module := (sumBy_empty _).symm
  summed := by
    intro id record stored
    simp [new] at stored
  fits := Nat.zero_le _

/-! ## Operations that place nothing -/

/-- The columns that accounting reads are the same. -/
structure SameColumns (before after : CallerRegistry) : Prop where
  limits : after.limits = before.limits
  nextModule : after.nextModule = before.nextModule
  modules : after.modules = before.modules
  modulesByKey : after.modulesByKey = before.modulesByKey
  edges : after.edges = before.edges
  placement : after.witnessPlacement = before.witnessPlacement
  staged : after.staged = before.staged

theorem SameColumns.refl (registry : CallerRegistry) : SameColumns registry registry :=
  ⟨rfl, rfl, rfl, rfl, rfl, rfl, rfl⟩

variable {first second : CallerRegistry}

theorem SameColumns.trans {third : CallerRegistry} (left : SameColumns first second)
    (right : SameColumns second third) : SameColumns first third :=
  ⟨right.limits.trans left.limits, right.nextModule.trans left.nextModule,
    right.modules.trans left.modules, right.modulesByKey.trans left.modulesByKey,
    right.edges.trans left.edges, right.placement.trans left.placement,
    right.staged.trans left.staged⟩

section

variable (registry : CallerRegistry)
include registry

theorem pushGap_same (gap : RegistryGap) : SameColumns registry (registry.pushGap gap) :=
  ⟨rfl, rfl, rfl, rfl, rfl, rfl, rfl⟩

theorem pushGaps_same (gaps : List RegistryGap) :
    SameColumns registry (gaps.foldl pushGap registry) := by
  induction gaps generalizing registry with
  | nil => exact .refl registry
  | cons gap rest ih => exact (pushGap_same registry gap).trans (ih _)

theorem pushWitnessGap_same (key : ModuleKey) (module : Option ModuleId) (subject reason : String) :
    SameColumns registry (registry.pushWitnessGap key module subject reason) := by
  unfold pushWitnessGap
  split
  · exact .refl registry
  · split
    · exact ⟨rfl, rfl, rfl, rfl, rfl, rfl, rfl⟩
    · exact pushGap_same registry _

theorem pushCoverageGap_same (caller : CallerId) (key : ModuleKey) (module : Option ModuleId)
    (subject reason : String) :
    SameColumns registry (registry.pushCoverageGap caller key module subject reason) := by
  unfold pushCoverageGap
  split
  · exact .refl registry
  · split
    · exact ⟨rfl, rfl, rfl, rfl, rfl, rfl, rfl⟩
    · exact pushGap_same registry _

end

variable {after before : CallerRegistry}

/-- Accounting depends on ids, modules, their index, the placement and the
limits only. -/
theorem Exact.congr (sound : before.Exact) (limits : after.limits = before.limits)
    (nextModule : after.nextModule = before.nextModule) (modules : after.modules = before.modules)
    (modulesByKey : after.modulesByKey = before.modulesByKey)
    (placement : after.witnessPlacement = before.witnessPlacement) : after.Exact where
  indexed := by
    intro key id found
    rw [moduleIdFor, modulesByKey] at found
    rw [modules]
    exact sound.indexed key id found
  issued := modules ▸ sound.issued
  next := by rw [nextModule, modules, sound.next]
  capacity := limits ▸ sound.capacity
  module := by
    rw [placement, moduleRows, modules]
    exact sound.module
  summed := modules ▸ sound.summed
  fits := placement ▸ sound.fits

theorem Exact.same (sound : before.Exact) (same : SameColumns before after) : after.Exact :=
  sound.congr same.limits same.nextModule same.modules same.modulesByKey same.placement

/-- What applying a mutation with so many notes leaves; it fails only when a
counter is full. -/
def Places (amount : Nat) (before : CallerRegistry) : Option CallerRegistry → Prop
  | none => 0 < amount ∧ u64Max ≤ before.witnessPlacement.total
  | some after => after.Exact ∧ after.limits = before.limits ∧ after.staged = before.staged ∧
      after.witnessPlacement.total = before.witnessPlacement.total + amount

theorem Exact.places_same (sound : before.Exact) (same : SameColumns before after) :
    Places 0 before (some after) :=
  ⟨sound.same same, same.limits, same.staged, by rw [same.placement]; rfl⟩

variable {amount : Nat} {id : ModuleId} {record : ModuleRecord}

/-- A present module's record may be replaced when its rows and the module
counter move together. -/
theorem Exact.store (sound : before.Exact) {changed : ModuleRecord}
    (stored : before.modules[id]? = some record) (rows : changed.useRows = record.useRows + amount)
    (summed : changed.Summed) (modules : after.modules = before.modules.insert id changed)
    (limits : after.limits = before.limits) (nextModule : after.nextModule = before.nextModule)
    (modulesByKey : after.modulesByKey = before.modulesByKey)
    (module : after.witnessPlacement.module = before.witnessPlacement.module + amount)
    (fits : after.witnessPlacement.module ≤ u64Max) : after.Exact := by
  have present : before.modules.contains id = true := by
    rw [contains_eq_isSome_getElem?, stored]
    rfl
  have size := size_insert_of_present stored changed
  have contains : ∀ other, (before.modules.insert id changed).contains other = true ↔
      before.modules.contains other = true := by
    intro other
    by_cases same : id = other
    · subst same
      simp [present]
    · simp [same]
  refine ⟨?_, ?_, ?_, ?_, ?_, ?_, fits⟩
  · intro key found held
    rw [moduleIdFor, modulesByKey] at held
    rw [modules, contains]
    exact sound.indexed key found held
  · intro other held
    rw [modules] at held ⊢
    rw [size]
    exact sound.issued other ((contains other).mp held)
  · rw [nextModule, modules, size]
    exact sound.next
  · rw [limits]
    exact sound.capacity
  · have traded := sumBy_insert_of_present
      (fun _ record => ModuleRecord.useRows record) stored changed
    have before_eq := sound.module
    rw [moduleRows, modules]
    rw [moduleRows] at before_eq
    omega
  · intro other found held
    rw [modules, getElem?_insert] at held
    split at held
    · cases held
      exact summed
    · exact sound.summed other found held

/-! ## Mapping notes -/

theorem admitCaller_same (registry : CallerRegistry) (caller : CallerId) (pid : UInt32) :
    SameColumns registry (registry.admitCaller caller pid).1 := by
  unfold admitCaller
  split
  · exact .refl registry
  split
  · exact pushGap_same registry _
  · exact ⟨rfl, rfl, rfl, rfl, rfl, rfl, rfl⟩

theorem noteUncertainty_same (registry : CallerRegistry) (caller : CallerId) (pid : UInt32)
    (info : ModuleInfo) : SameColumns registry (registry.noteUncertainty caller pid info) := by
  unfold noteUncertainty
  cases info.key with
  | physical devMajor devMinor ino sha256 => exact .refl registry
  | unidentified path => exact pushGap_same registry _

variable {registry : CallerRegistry}

/-- A verdict rewrites the module's admission and keeps its use. -/
theorem followAdmission_places (sound : registry.Exact) {stored : ModuleRecord}
    (present : registry.modules[id]? = some stored) (use : record.unboundUse = stored.unboundUse)
    (caller : CallerId) (pid : UInt32) (info : ModuleInfo) :
    Places 0 registry (some (registry.followAdmission id record caller pid info)) := by
  have kept : ∀ changed : ModuleRecord, changed.unboundUse = stored.unboundUse →
      changed.useRows = stored.useRows + 0 ∧ changed.Summed := by
    intro changed same
    constructor
    · rw [ModuleRecord.useRows, same]
      rfl
    · intro used known
      rw [same] at known
      exact sound.summed id stored present used known
  simp only [followAdmission]
  split
  · split
    · obtain ⟨rows, summed⟩ := kept
        { record with admissionReasons := record.admissionReasons ++ [_] } use
      exact ⟨sound.store present rows summed rfl rfl rfl rfl rfl sound.fits, rfl, rfl, rfl⟩
    · obtain ⟨rows, summed⟩ := kept record use
      exact ⟨sound.store present rows summed rfl rfl rfl rfl rfl sound.fits, rfl, rfl, rfl⟩
  · obtain ⟨rows, summed⟩ := kept
      { record with
        admission := info.admission
        admissionEndpoints := info.admissionEndpoints
        admissionReasons := info.admissionReasons } use
    split <;>
      exact ⟨sound.store present rows summed rfl rfl rfl rfl rfl sound.fits, rfl, rfl, rfl⟩

theorem toNat_saturatingSucc (room : id.toNat < 2 ^ 32 - 1) :
    (saturatingSucc id).toNat = id.toNat + 1 := by
  unfold saturatingSucc
  rw [if_neg (by omega)]
  change (id.toNat + 1) % 2 ^ 32 = id.toNat + 1
  omega

/-- A registered module starts without use, under a fresh id. -/
theorem registerModule_places (sound : registry.Exact) (caller : CallerId) (pid : UInt32)
    (info : ModuleInfo) : Places 0 registry (some (registry.registerModule caller pid info).1) := by
  simp only [registerModule]
  split
  · exact sound.places_same (pushGap_same registry _)
  next room =>
  split
  · exact sound.places_same (pushGap_same registry _)
  have next := sound.next
  have unused : registry.modules[registry.nextModule]? = none := getElem?_eq_none fun member => by
    have below := sound.issued _ (contains_iff_mem.mpr member)
    omega
  have capacity := sound.capacity
  refine ⟨⟨?_, ?_, ?_, sound.capacity, ?_, ?_, sound.fits⟩, rfl, rfl, rfl⟩
  · intro key id found
    rw [contains_insert]
    simp only [moduleIdFor, List.lookup_append, or_eq_some_iff] at found
    rcases found with old | ⟨-, new⟩
    · rw [sound.indexed key id old, Bool.or_true]
    simp only [List.lookup_cons, List.lookup_nil] at new
    split at new
    · cases new
      simp
    · cases new
  · intro id present
    rw [contains_insert, Bool.or_eq_true] at present
    rw [size_insert_of_absent unused]
    rcases present with same | old
    · rw [beq_iff_eq, LawfulEqOrd.compare_eq_iff_eq] at same
      subst same
      omega
    · have below := sound.issued id old
      omega
  · rw [size_insert_of_absent unused, toNat_saturatingSucc (by omega), next]
  · change registry.witnessPlacement.module = sumBy _ (registry.modules.insert _ _)
    rw [sumBy_insert_of_absent _ unused, sound.module]
    exact (Nat.zero_add _).symm
  · intro id record held
    rw [getElem?_insert] at held
    split at held
    · cases held
      intro use known
      cases known
    · exact sound.summed id record held

theorem Places.trans_same {third : CallerRegistry} (placed : Places amount first (some second))
    (same : SameColumns second third) : Places amount first (some third) := by
  obtain ⟨sound, limits, staged, total⟩ := placed
  exact ⟨sound.same same, same.limits.trans limits, same.staged.trans staged,
    by rw [same.placement]; exact total⟩

theorem Places.of_same {result : Option CallerRegistry} (same : SameColumns first second)
    (placed : Places amount second result) : Places amount first result := by
  cases result with
  | none =>
    obtain ⟨positive, full⟩ := placed
    exact ⟨positive, same.placement ▸ full⟩
  | some third =>
    obtain ⟨sound, limits, staged, total⟩ := placed
    exact ⟨sound, limits.trans same.limits, staged.trans same.staged,
      total.trans (by rw [same.placement])⟩

section

variable (placed : Places amount first (some second))
include placed

/-- Edges carry no accounting. -/
theorem Places.edges (third : CallerRegistry) (limits : third.limits = second.limits)
    (nextModule : third.nextModule = second.nextModule) (modules : third.modules = second.modules)
    (modulesByKey : third.modulesByKey = second.modulesByKey)
    (placement : third.witnessPlacement = second.witnessPlacement)
    (staged : third.staged = second.staged) : Places amount first (some third) := by
  obtain ⟨sound, sameLimits, sameStaged, total⟩ := placed
  exact ⟨sound.congr limits nextModule modules modulesByKey placement, limits.trans sameLimits,
    staged.trans sameStaged, by rw [placement]; exact total⟩

theorem Places.doubleLoad (caller : CallerId) (module : ModuleId) (pid : UInt32)
    (doubleLoaded : Bool) :
    Places amount first (some (second.applyDoubleLoad caller module pid doubleLoaded)) := by
  unfold applyDoubleLoad
  cases second.edges[(caller, module)]? with
  | none => exact placed
  | some edge =>
    simp only
    split
    · exact placed
    have latched := placed.edges { second with
      edges := second.edges.insert (caller, module)
        { edge with doubleLoaded := doubleLoaded } } rfl rfl rfl rfl rfl rfl
    split
    · exact latched.trans_same (pushGap_same _ _)
    · exact latched

theorem Places.mapEdge (caller : CallerId) (module : ModuleId) (pid : UInt32) (doubleLoaded : Bool)
    : Places amount first (some (second.mapEdge caller module pid doubleLoaded)) := by
  unfold CallerRegistry.mapEdge
  split
  · exact placed.doubleLoad caller module pid doubleLoaded
  split
  · exact placed.trans_same (pushGap_same _ _)
  · have mapped := placed.edges { second with
      edges := second.edges.insert (caller, module) {} } rfl rfl rfl rfl rfl rfl
    exact mapped.doubleLoad caller module pid doubleLoaded

end

theorem resolveModule_places (sound : registry.Exact) (caller : CallerId) (pid : UInt32)
    (info : ModuleInfo) : ∃ resolved, registry.resolveModule caller pid info = some resolved ∧
      Places 0 registry (some resolved.1) := by
  unfold resolveModule
  cases found : registry.moduleIdFor info.key with
  | none => exact ⟨_, rfl, registerModule_places sound caller pid info⟩
  | some id =>
    have present := sound.indexed info.key id found
    rw [contains_eq_isSome_getElem?, isSome_iff_exists] at present
    obtain ⟨record, stored⟩ := present
    simp only [stored]
    have named : ({ record with paths := record.paths.insert info.path } :
        ModuleRecord).unboundUse = record.unboundUse := rfl
    exact ⟨_, rfl, followAdmission_places sound stored named caller pid info⟩

/-- A mapping note places nothing and always returns. -/
theorem applyMapping_places (sound : registry.Exact) (caller : CallerId) (pid : UInt32)
    (info : ModuleInfo) : Places 0 registry (registry.applyMapping caller pid info) := by
  unfold applyMapping
  split
  · exact sound.places_same (pushGap_same registry _)
  have same := admitCaller_same registry caller pid
  cases admitted : registry.admitCaller caller pid with
  | mk after admits =>
    rw [admitted] at same
    cases admits with
    | false => exact sound.places_same same
    | true =>
      have noted := same.trans (noteUncertainty_same after caller pid info)
      obtain ⟨resolved, found, placed⟩ :=
        resolveModule_places (sound.same noted) caller pid info
      have resolvedPlaced := Places.of_same noted placed
      simp only [found]
      obtain ⟨resolved, named⟩ := resolved
      cases named with
      | none => exact resolvedPlaced
      | some module => exact resolvedPlaced.mapEdge caller module pid info.doubleLoaded

/-! ## Witness notes -/

theorem bump_eq_some {counter after : Nat} (counted : bump counter = some after) :
    after = counter + 1 ∧ counter < u64Max := by
  unfold bump at counted
  split at counted
  · next room => exact ⟨(Option.some.inj counted).symm, room⟩
  · cases counted

/-- A note that finds its counter full is not applied. -/
theorem places_full {counter : Nat} (full : bump counter = none)
    (part : counter ≤ registry.witnessPlacement.total) : Places 1 registry none := by
  unfold bump at full
  split at full
  · cases full
  · next room => exact ⟨Nat.one_pos, (Nat.le_of_not_lt room).trans part⟩

theorem placeUnresolved_places (sound : registry.Exact) :
    Places 1 registry registry.placeUnresolved := by
  unfold placeUnresolved
  cases counted : bump registry.witnessPlacement.unresolved with
  | none => exact places_full counted (by unfold WitnessPlacement.total; omega)
  | some count =>
    obtain ⟨rfl, -⟩ := bump_eq_some counted
    exact ⟨{ sound with }, rfl, rfl, rfl⟩

theorem pushSharedGaps_same (registry : CallerRegistry) (modules : List ModuleKey)
    (reason : String) :
    SameColumns registry (modules.foldl (fun registry key =>
      registry.pushWitnessGap key (registry.moduleIdFor key) witnessSharedEndpoint reason)
        registry) := by
  induction modules generalizing registry with
  | nil => exact .refl registry
  | cons key rest ih =>
    exact (pushWitnessGap_same registry key _ witnessSharedEndpoint reason).trans (ih _)

theorem applySharedEndpoint_places (sound : registry.Exact) (modules : List ModuleKey)
    (text : String) : Places 1 registry (registry.applySharedEndpoint modules text) := by
  unfold applySharedEndpoint
  cases counted : bump registry.witnessPlacement.ambiguous with
  | none => exact places_full counted (by unfold WitnessPlacement.total; omega)
  | some count =>
    obtain ⟨rfl, -⟩ := bump_eq_some counted
    have placed : Places 1 registry (some { registry with
        witnessPlacement :=
          { registry.witnessPlacement with
            ambiguous := registry.witnessPlacement.ambiguous + 1 } }) := by
      refine ⟨{ sound with }, rfl, rfl, ?_⟩
      simp only [WitnessPlacement.total]
      omega
    exact placed.trans_same (pushSharedGaps_same _ modules _)

theorem sumBy_le_of_stored (registry : CallerRegistry)
    (stored : registry.modules[id]? = some record) : record.useRows ≤ registry.moduleRows := by
  rw [moduleRows, sumBy_erase_of_present _ stored]
  exact Nat.le_add_right _ _

theorem applyUnboundUse_places (sound : registry.Exact) (key : ModuleKey) (firstNs : Nat)
    (code text : String) (unidentified : Bool) (entries : Nat) :
    Places 1 registry (registry.applyUnboundUse key firstNs code text unidentified entries) := by
  unfold applyUnboundUse
  cases found : registry.moduleIdFor key with
  | none =>
    have placed := placeUnresolved_places sound
    cases counted : registry.placeUnresolved with
    | none =>
      rw [counted] at placed
      exact placed
    | some after =>
      rw [counted] at placed
      exact placed.trans_same (pushWitnessGap_same after key none _ _)
  | some id =>
    cases counted : bump registry.witnessPlacement.module with
    | none => exact places_full counted (by unfold WitnessPlacement.total; omega)
    | some count =>
      obtain ⟨rfl, room⟩ := bump_eq_some counted
      have present := sound.indexed key id found
      rw [contains_eq_isSome_getElem?, isSome_iff_exists] at present
      obtain ⟨record, stored⟩ := present
      have below := registry.sumBy_le_of_stored stored
      have module := sound.module
      obtain ⟨rows, summed⟩ := UnboundUse.note_summed (sound.summed id record stored)
        (by omega) firstNs code entries
      have used : Places 1 registry (some { registry with
          witnessPlacement :=
            { registry.witnessPlacement with module := registry.witnessPlacement.module + 1 }
          modules := registry.modules.insert id
            { record with
              unboundUse :=
                some (UnboundUse.note record.unboundUse firstNs code entries) } }) := by
        have noted : ({ record with
            unboundUse := some (UnboundUse.note record.unboundUse firstNs code entries) }).useRows =
              record.useRows + 1 := rows
        refine ⟨sound.store stored noted ?_ rfl rfl rfl rfl rfl room, rfl, rfl, ?_⟩
        · intro use known
          cases known
          exact summed
        · simp only [WitnessPlacement.total]
          omega
      simp only [stored, bind_eq_bind, bind_some]
      split
      · exact used.trans_same (pushWitnessGap_same _ _ _ _ _)
      · exact used

theorem witnessEdge_places (sound : registry.Exact) {caller : CallerId}
    (edge : registry.edges.contains (caller, id) = true) (firstNs : Nat) :
    ∃ after, registry.witnessEdge caller id firstNs = some after ∧
      Places 0 registry (some after) ∧ after.witnessPlacement = registry.witnessPlacement := by
  rw [contains_eq_isSome_getElem?, isSome_iff_exists] at edge
  obtain ⟨stored, found⟩ := edge
  unfold witnessEdge
  simp only [found]
  exact ⟨_, rfl, (sound.places_same (.refl registry)).edges _ rfl rfl rfl rfl rfl rfl, rfl⟩

/-- A row placed on an edge finds it. -/
theorem contains_of_placeBoundRow_edge {caller : CallerId} {modules : List ModuleKey}
    {key : ModuleKey} (placed : registry.placeBoundRow caller modules = .edge key id) :
    registry.edges.contains (caller, id) = true := by
  have single : registry.edged caller modules = [(key, id)] := by
    unfold placeBoundRow at placed
    split at placed
    · next found =>
        cases placed
        exact found
    · cases placed
    · cases placed
    · cases placed
  have member : (key, id) ∈ registry.edged caller modules := by
    rw [single]
    exact List.mem_cons_self
  obtain ⟨candidate, -, chosen⟩ := List.mem_filterMap.mp member
  cases found : registry.moduleIdFor candidate with
  | none => simp [found] at chosen
  | some other =>
    simp [found] at chosen
    obtain ⟨present, -, rfl⟩ := chosen
    exact contains_iff_mem.mpr present

section

variable (sound : registry.Exact)
include sound

theorem applyBoundWitness_places (caller : CallerId) (modules : List ModuleKey) (firstNs : Nat) :
    Places 1 registry (registry.applyBoundWitness caller modules firstNs) := by
  unfold applyBoundWitness
  cases placed : registry.placeBoundRow caller modules with
  | edge key id =>
    obtain ⟨after, witnessed, ⟨edged, limits, staged, -⟩, placement⟩ :=
      witnessEdge_places sound (contains_of_placeBoundRow_edge placed) firstNs
    simp only [witnessed, bind_eq_bind, bind_some]
    cases counted : bump after.witnessPlacement.edge with
    | none =>
      rw [placement] at counted
      exact places_full counted (by unfold WitnessPlacement.total; omega)
    | some count =>
      obtain ⟨rfl, -⟩ := bump_eq_some counted
      refine ⟨{ edged with }, limits, staged, ?_⟩
      simp only [WitnessPlacement.total, placement]
      omega
  | noMapping key =>
    have same := pushCoverageGap_same registry caller key (registry.moduleIdFor key)
      witnessWithoutMapping
      (callerLabel caller ++ " has no mapping edge to this module: the witnessed use stays " ++
        "module-level; a witness never invents a mapping")
    exact Places.of_same same (applyUnboundUse_places (sound.same same) key firstNs _ _ _ _)
  | unresolved => exact placeUnresolved_places sound
  | shared => exact applySharedEndpoint_places sound modules _

theorem applyUnboundWitness_places (modules : List ModuleKey) (firstNs : Nat)
    (reason : UnboundReason) (entries : Nat) :
    Places 1 registry (registry.applyUnboundWitness modules firstNs reason entries) := by
  unfold applyUnboundWitness
  split
  · exact applyUnboundUse_places sound _ firstNs _ _ _ entries
  · exact placeUnresolved_places sound
  · exact applySharedEndpoint_places sound modules _

theorem applyWitness_places (caller : CallerId) (key : ModuleKey) (firstNs : Nat) :
    Places 0 registry (registry.applyWitness caller key firstNs) := by
  unfold applyWitness
  cases registry.moduleIdFor key with
  | none => exact sound.places_same (pushCoverageGap_same _ _ _ _ _ _)
  | some id =>
    simp only
    split
    · next edge =>
        obtain ⟨after, witnessed, placed, -⟩ := witnessEdge_places sound edge firstNs
        rw [witnessed]
        exact placed
    · exact sound.places_same (pushCoverageGap_same _ _ _ _ _ _)

/-- Every mutation places as many rows as it carries notes. -/
theorem apply_places (mutation : Mutation) :
    Places mutation.notes registry (registry.apply mutation) := by
  cases mutation with
  | noteMapping caller pid info => exact applyMapping_places sound caller pid info
  | noteWitness caller module firstNs => exact applyWitness_places sound caller module firstNs
  | noteBoundWitness caller modules firstNs =>
    exact applyBoundWitness_places sound caller modules firstNs
  | noteUnboundWitness modules firstNs reason entries =>
    exact applyUnboundWitness_places sound modules firstNs reason entries
  | noteUnresolvedWitness => exact placeUnresolved_places sound
  | retireCaller caller => exact sound.places_same ⟨rfl, rfl, rfl, rfl, rfl, rfl, rfl⟩
  | recordGaps gaps => exact sound.places_same (pushGaps_same registry gaps)

end

/-- Notes carried by a list of mutations. -/
def notesOf (mutations : List Mutation) : Nat := (mutations.map Mutation.notes).sum

/-- Applying mutations in order places every note, and fails only on a full
counter. -/
theorem applyAll_places (sound : registry.Exact) (mutations : List Mutation) :
    match mutations.foldlM apply registry with
    | none => u64Max < registry.witnessPlacement.total + notesOf mutations
    | some after => after.Exact ∧ after.limits = registry.limits ∧
        after.staged = registry.staged ∧
        after.witnessPlacement.total = registry.witnessPlacement.total + notesOf mutations := by
  induction mutations generalizing registry with
  | nil => exact ⟨sound, rfl, rfl, rfl⟩
  | cons mutation rest ih =>
    have first := apply_places sound mutation
    rw [List.foldlM_cons]
    cases applied : registry.apply mutation with
    | none =>
      rw [applied] at first
      obtain ⟨positive, full⟩ := first
      change u64Max < _ + (mutation.notes + (rest.map Mutation.notes).sum)
      omega
    | some next =>
      rw [applied] at first
      obtain ⟨nextSound, limits, staged, total⟩ := first
      have later := ih nextSound
      simp only [bind_eq_bind, bind_some]
      cases published : rest.foldlM apply next with
      | none =>
        rw [published] at later
        simp only [notesOf, List.map_cons, List.sum_cons] at later ⊢
        omega
      | some after =>
        rw [published] at later
        obtain ⟨afterSound, afterLimits, afterStaged, afterTotal⟩ := later
        refine ⟨afterSound, afterLimits.trans limits, afterStaged.trans staged, ?_⟩
        simp only [notesOf, List.map_cons, List.sum_cons] at afterTotal ⊢
        omega

end CallerRegistry

end P11Scope.Registry
