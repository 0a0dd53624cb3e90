import P11Scope.Callers.Adapter
import P11Scope.Lib.TreeSet

/-!
# Retirements in the registry

The coordinator applies the events of a reconcile: it stages the retirement of
every incarnation an event names, and a publication applies what is staged.  The
registry is the one of the witness notes with the edges' mapping column beside
its tables; mutation kinds that write neither are left out.
-/

variable {id : CallerId} {pid : UInt32}

namespace P11Scope.Callers

open Std Lib.TreeMap Registry CallerAdapter List Option Std.ExtTreeSet
open Binder (CallerId)

inductive MappingState where
  | mapped
  | uncertain
  | ended
  deriving DecidableEq, Repr

inductive Fact where
  | noteMapping (caller : CallerId) (pid : UInt32) (info : ModuleInfo)
  | retireCaller (caller : CallerId)
  | noteModuleAbsent (caller : CallerId) (module : ModuleId) (completeScan : Bool)
  | noteMemberUnscanned (caller : CallerId)
  | recordGap (gap : RegistryGap)
  deriving DecidableEq, Repr

structure MappingRegistry where
  tables : CallerRegistry
  mapping : ExtTreeMap (CallerId × ModuleId) MappingState := ∅

namespace MappingRegistry

/-- The edge a mapping note leaves mapped, unless it was dropped. -/
def mappedEdge (tables : CallerRegistry) (caller : CallerId) (key : ModuleKey) :
    Option (CallerId × ModuleId) :=
  ((tables.moduleIdFor key).map fun module => (caller, module)).filter fun edge =>
    !tables.retired.contains caller && tables.edges.contains edge

def applyMapping (registry : MappingRegistry) (caller : CallerId) (pid : UInt32)
    (info : ModuleInfo) : Option MappingRegistry := do
  let tables ← registry.tables.applyMapping caller pid info
  match mappedEdge tables caller info.key with
  | some edge => some { tables, mapping := registry.mapping.insert edge .mapped }
  | none => some { registry with tables }

def apply (registry : MappingRegistry) : Fact → Option MappingRegistry
  | .noteMapping caller pid info => registry.applyMapping caller pid info
  | .retireCaller caller => some
      { tables := { registry.tables with retired := registry.tables.retired.insert caller }
        mapping := registry.mapping.map fun edge state =>
          if edge.1 = caller then .ended else state }
  | .noteModuleAbsent caller module completeScan => some
      { registry with
        mapping := registry.mapping.modify (caller, module) fun state =>
          if completeScan ∨ state = .ended then .ended else .uncertain }
  | .noteMemberUnscanned caller => some
      { registry with
        mapping := registry.mapping.map fun edge state =>
          if edge.1 = caller ∧ state = .mapped then .uncertain else state }
  | .recordGap gap => some { registry with tables := registry.tables.pushGap gap }

def publish (registry : MappingRegistry) (staged : List Fact) : Option MappingRegistry :=
  staged.foldlM apply registry

end MappingRegistry

/-! ## The coordinator -/

/-- What event application writes: the staged facts and the native owners. -/
structure Outbox (Owner : Type) where
  staged : List Fact := []
  stagedRetirements : ExtTreeSet CallerId := ∅
  pendingOwners : ExtTreeMap UInt32 Owner := ∅
  owners : ExtTreeMap CallerId Owner := ∅

namespace Outbox

variable {Owner : Type} (outbox : Outbox Owner)

def stage (fact : Fact) : Outbox Owner :=
  { outbox with staged := outbox.staged ++ [fact] }

def recordGap (outbox : Outbox Owner) (pid : Option UInt32) (subject reason : String)
    (budget : Option BudgetRefusal) : Outbox Owner :=
  outbox.stage (.recordGap ⟨none, none, pid, subject, reason, budget⟩)

/-- Each retirement is staged once. -/
def retireCaller (outbox : Outbox Owner) (id : CallerId) : Outbox Owner :=
  if outbox.stagedRetirements.contains id then outbox
  else
    { outbox.stage (.retireCaller id) with
      stagedRetirements := outbox.stagedRetirements.insert id }

/-- A native owner opened for the caller's pid is bound to the caller. -/
def bindOwner (id : CallerId) (pid : Option UInt32) : Outbox Owner :=
  match pid.bind fun pid => outbox.pendingOwners[pid]?.map fun owner => (pid, owner) with
  | none => outbox
  | some (pid, owner) =>
    { outbox with
      pendingOwners := outbox.pendingOwners.erase pid
      owners := outbox.owners.insert id owner }

def applyEvent (pidOf : CallerId → Option UInt32) (outbox : Outbox Owner) :
    CallerEvent → Outbox Owner
  | .admitted id => outbox.bindOwner id (pidOf id)
  | .exited id _ => outbox.retireCaller id
  | .retired id _ => outbox.retireCaller id
  | .execRetired old new => (outbox.retireCaller old).bindOwner new (pidOf new)
  | .reused old new => (outbox.retireCaller old).bindOwner new (pidOf new)
  | .admitFailed pid reason _ =>
    if outbox.pendingOwners.contains pid then
      { outbox.recordGap (some pid) "native owner without caller"
          ("the native owner opened but caller admission failed (" ++ reason ++
            "); the owner stays retained") none with
        pendingOwners := outbox.pendingOwners.erase pid }
    else outbox

abbrev Failure := UInt32 × String × Option BudgetRefusal

def failures (events : List CallerEvent) : List Failure :=
  events.filterMap fun
    | .admitFailed pid reason budget => some (pid, reason, budget)
    | _ => none

/-- One gap for the failures of one kind. -/
def recordFailures : List Failure → Outbox Owner
  | [] => outbox
  | [(pid, reason, budget)] => outbox.recordGap (some pid) "caller admission failed" reason budget
  | group@((pid, first, _) :: _ :: _) =>
    let budget := (group.filterMap fun failure => failure.2.2).foldl (fun
      | none, budget => some budget
      | some most, budget => some (if most.requested ≤ budget.requested then budget else most)) none
    outbox.recordGap none "caller admission failed"
      (match budget with
        | some budget =>
          toString group.length ++ " admissions refused this pass: caller budget exhausted: the " ++
            "registry retains at most " ++ toString budget.limit ++
            " callers; the admissions were refused"
        | none =>
          toString group.length ++ " pids could not be admitted this pass; first: pid " ++
            toString pid.toNat ++ ": " ++ first) budget

def applyReconcileEvents (pidOf : CallerId → Option UInt32) (events : List CallerEvent) :
    Outbox Owner :=
  ((events.foldl (applyEvent pidOf) outbox).recordFailures
    ((failures events).filter fun failure => failure.2.2.isSome)).recordFailures
      ((failures events).filter fun failure => failure.2.2.isNone)

end Outbox

/-- `reported` collects the events of the reconciles so far (history). -/
structure Coordinator (Pin Owner : Type) where
  adapter : CallerAdapter Pin
  registry : MappingRegistry
  outbox : Outbox Owner := {}
  reported : List CallerEvent := []

/-- A reconcile pass, a fact staged by a scan, an opened native owner, a publication. -/
inductive Step (Pin Owner : Type) where
  | reconcile (scene : Scene Pin)
  | stage (fact : Fact)
  | openOwner (pid : UInt32) (owner : Owner)
  | publish

namespace Coordinator

variable {Pin Owner : Type}

def reconcile (coordinator : Coordinator Pin Owner) (scene : Scene Pin) : Coordinator Pin Owner :=
  let result := coordinator.adapter.reconcileInner scene
  { coordinator with
    adapter := result.1
    outbox := coordinator.outbox.applyReconcileEvents
      (fun id => result.1.callers[id]?.map fun tracked => tracked.pid) result.2
    reported := coordinator.reported ++ result.2 }

def publish (coordinator : Coordinator Pin Owner) : Option (Coordinator Pin Owner) := do
  let registry ← coordinator.registry.publish coordinator.outbox.staged
  some { coordinator with registry, outbox := { coordinator.outbox with staged := [] } }

def step (coordinator : Coordinator Pin Owner) : Step Pin Owner → Option (Coordinator Pin Owner)
  | .reconcile scene => some (coordinator.reconcile scene)
  | .stage fact => some { coordinator with outbox := coordinator.outbox.stage fact }
  | .openOwner pid owner => some
      { coordinator with
        outbox := { coordinator.outbox with
          pendingOwners := coordinator.outbox.pendingOwners.insert pid owner } }
  | .publish => coordinator.publish

/-- The adapter keeps the registry's caller limit. -/
def new (limits : RegistryLimits) (fingerprint : RegistryGap → UInt64) : Coordinator Pin Owner :=
  { adapter := .new limits.maxCallers, registry := { tables := .new limits fingerprint } }

def run (limits : RegistryLimits) (fingerprint : RegistryGap → UInt64)
    (steps : List (Step Pin Owner)) : Option (Coordinator Pin Owner) :=
  steps.foldlM step (new limits fingerprint)

end Coordinator

/-! ## What a reconcile reports -/

/-- The event reports the end of incarnation `id`. -/
def CallerEvent.ends (id : CallerId) : CallerEvent → Prop
  | .exited other _ | .retired other _ | .execRetired other _ | .reused other _ => other = id
  | .admitted _ | .admitFailed _ _ _ => False

/-- The event says that a pid whose incarnation ended got no successor. -/
def CallerEvent.readmissionFailed : CallerEvent → Prop
  | .admitFailed _ reason _ => ∃ cause, reason = postExec ++ cause ∨ reason = postReuse ++ cause
  | _ => False

namespace CallerAdapter

variable {Pin : Type} {adapter before after last : CallerAdapter Pin}

def Retired (adapter : CallerAdapter Pin) (id : CallerId) : Prop :=
  ∃ tracked, adapter.callers[id]? = some tracked ∧ tracked.retired = true

theorem retired_insert_iff {other : CallerId} {tracked : TrackedCaller Pin} :
    (∃ found, (adapter.callers.insert id tracked)[other]? = some found ∧ found.retired = true) ↔
      if id = other then tracked.retired = true else adapter.Retired other := by
  rw [getElem?_insert_ite]
  split
  · simp
  · rfl

/-- An admission retires nobody. -/
theorem install_retired {tracked : TrackedCaller Pin} (fresh : tracked.retired = false)
    (retired : (adapter.install tracked).1.Retired id) : adapter.Retired id := by
  unfold install at retired
  split at retired
  · have known := retired_insert_iff.mp retired
    split at known
    · rw [fresh] at known
      cases known
    · exact known
  · exact retired

theorem tryAdmit_retired {seen : Readings Pin} (retired : (adapter.tryAdmit pid seen).1.Retired id)
    : adapter.Retired id := by
  unfold tryAdmit at retired
  split at retired
  · exact retired
  · split at retired
    · exact retired
    · exact install_retired rfl retired

theorem commitRetainedSuccessor_retired {pin : Option Pin} {seen : Readings Pin}
    (retired : (adapter.commitRetainedSuccessor pid pin seen).1.Retired id) :
    adapter.Retired id := by
  unfold commitRetainedSuccessor at retired
  split at retired
  · exact retired
  split at retired
  · exact retired
  · split at retired
    · exact retired
    · split at retired
      · exact retired
      · exact install_retired rfl retired

theorem retire_retired {other : CallerId} {lifecycle : CallerLifecycle} {reason : String}
    (retired : (adapter.retire id lifecycle reason).Retired other) :
    id = other ∨ adapter.Retired other := by
  unfold retire at retired
  split at retired
  · exact .inr retired
  have known := retired_insert_iff.mp retired
  split at known
  · next same => exact .inl same
  · exact .inr known

theorem admission_retired {succeeded : CallerId → CallerEvent} {failed : String}
    {result : CallerAdapter Pin × Except AdmitFailure CallerId}
    (retired : (admission pid succeeded failed result).1.Retired id) : result.1.Retired id := by
  unfold admission at retired
  split at retired <;> exact retired

/-- A stretch of a reconcile: every incarnation it retires is named by an event, or
an event says that a successor failed. -/
def Reports (before after : CallerAdapter Pin) (events : List CallerEvent) : Prop :=
  ∀ id, after.Retired id → before.Retired id ∨
    ∃ event ∈ events, event.ends id ∨ event.readmissionFailed

theorem Reports.trans {events later : List CallerEvent} (first : before.Reports after events)
    (second : after.Reports last later) : before.Reports last (events ++ later) := by
  intro id retired
  rcases second id retired with there | ⟨event, listed, names⟩
  · rcases first id there with old | ⟨event, listed, names⟩
    · exact .inl old
    · exact .inr ⟨event, mem_append_left _ listed, names⟩
  · exact .inr ⟨event, mem_append_right _ listed, names⟩

theorem sweep_reports {α : Type}
    {visit : α → CallerAdapter Pin → CallerAdapter Pin × List CallerEvent}
    (one : ∀ item adapter, Reports adapter (visit item adapter).1 (visit item adapter).2)
    (items : List α) (adapter : CallerAdapter Pin) :
    adapter.Reports (sweep visit items adapter).1 (sweep visit items adapter).2 := by
  induction items generalizing adapter with
  | nil => exact fun _ retired => .inl retired
  | cons item rest ih => exact (one item adapter).trans (ih _)

theorem admission_told (pid : UInt32) {succeeded : CallerId → CallerEvent} {failed : String}
    (result : CallerAdapter Pin × Except AdmitFailure CallerId)
    (names : ∀ new, (succeeded new).ends id) (text : failed = postExec ∨ failed = postReuse) :
    ∃ event ∈ (admission pid succeeded failed result).2,
      event.ends id ∨ event.readmissionFailed := by
  unfold admission
  split
  · exact ⟨_, mem_singleton_self _, .inl (names _)⟩
  rename_i failure
  refine ⟨_, mem_singleton_self _, .inr ⟨failure.reason, ?_⟩⟩
  rcases text with rfl | rfl
  · exact .inl rfl
  · exact .inr rfl

/-- A visit that retires one incarnation and is about it. -/
theorem reports_retire {lifecycle : CallerLifecycle} {reason : String} {events : List CallerEvent}
    (told : ∃ event ∈ events, event.ends id ∨ event.readmissionFailed)
    (kept : ∀ other, after.Retired other → (adapter.retire id lifecycle reason).Retired other) :
    adapter.Reports after events := by
  intro other retired
  rcases retire_retired (kept other retired) with rfl | old
  · exact .inr told
  · exact .inl old

theorem reconcileLive_reports (scene : Scene Pin) (entry : UInt32 × CallerId)
    (adapter : CallerAdapter Pin) : adapter.Reports (reconcileLive scene entry adapter).1
      (reconcileLive scene entry adapter).2 := by
  obtain ⟨pid, id⟩ := entry
  simp only [reconcileLive]
  split
  · split
    · cases scene.scope with
      | scopedDenied =>
        exact reports_retire ⟨_, mem_singleton_self _, .inl rfl⟩ fun _ retired => retired
      | unrestricted =>
        exact reports_retire (admission_told pid _ (fun _ => rfl) (.inl rfl))
          fun _ retired => commitRetainedSuccessor_retired (admission_retired retired)
    · exact fun _ => .inl
  · split
    · exact reports_retire ⟨_, mem_singleton_self _, .inl rfl⟩ fun _ retired => retired
    · cases scene.scope with
      | scopedDenied =>
        exact reports_retire ⟨_, mem_singleton_self _, .inl rfl⟩ fun _ retired => retired
      | unrestricted =>
        exact reports_retire (admission_told pid _ (fun _ => rfl) (.inr rfl))
          fun _ retired => tryAdmit_retired (admission_retired retired)

theorem reconcileInner_reports (adapter : CallerAdapter Pin) (scene : Scene Pin) :
    adapter.Reports (adapter.reconcileInner scene).1 (adapter.reconcileInner scene).2 := by
  refine Reports.trans (sweep_reports (fun entry adapter => ?_) _ adapter)
    (sweep_reports (fun pid adapter id retired => Or.inl ?_) _ _)
  · intro id retired
    have same : (moveCursor scene entry.1 adapter).callers = adapter.callers := by
      unfold moveCursor
      split <;> rfl
    rcases reconcileLive_reports scene entry _ id retired with old | named
    · rw [Retired, same] at old
      exact .inl old
    · exact .inr named
  · unfold reconcileObserved at retired
    split at retired
    · exact retired
    · exact tryAdmit_retired (admission_retired retired)

end CallerAdapter

/-! ## Publication ends the edges of the retired -/

theorem mapEdge_retired (registry : CallerRegistry) (caller : CallerId) (module : ModuleId)
    (pid : UInt32) (doubleLoaded : Bool) :
    (registry.mapEdge caller module pid doubleLoaded).retired = registry.retired := by
  have latched : ∀ registry : CallerRegistry,
      (registry.applyDoubleLoad caller module pid doubleLoaded).retired = registry.retired := by
    intro registry
    unfold CallerRegistry.applyDoubleLoad
    repeat' split
    all_goals rfl
  unfold CallerRegistry.mapEdge
  split
  · exact latched registry
  · split
    · rfl
    · exact latched _

theorem resolveModule_retired {registry : CallerRegistry} {caller : CallerId} {info : ModuleInfo}
    {resolved : CallerRegistry × Option ModuleId}
    (found : registry.resolveModule caller pid info = some resolved) :
    resolved.1.retired = registry.retired := by
  unfold CallerRegistry.resolveModule at found
  split at found
  · obtain ⟨record, -, resolves⟩ := bind_eq_some_iff.mp found
    cases resolves
    unfold CallerRegistry.followAdmission
    dsimp only
    repeat' split
    all_goals rfl
  · cases found
    unfold CallerRegistry.registerModule
    dsimp only
    repeat' split
    all_goals rfl

/-- A mapping note retires nobody. -/
theorem applyMapping_retired {registry after : CallerRegistry} {caller : CallerId}
    {info : ModuleInfo} (applied : registry.applyMapping caller pid info = some after) :
    after.retired = registry.retired := by
  have entered : (registry.admitCaller caller pid).1.retired = registry.retired := by
    unfold CallerRegistry.admitCaller
    repeat' split
    all_goals rfl
  unfold CallerRegistry.applyMapping at applied
  split at applied
  · cases applied
    rfl
  split at applied
  · next result =>
    cases applied
    rw [result] at entered
    exact entered
  · next admitted result =>
    rw [result] at entered
    have noted : (admitted.noteUncertainty caller pid info).retired = registry.retired := by
      unfold CallerRegistry.noteUncertainty
      split <;> exact entered
    obtain ⟨resolved, found, rest⟩ := bind_eq_some_iff.mp applied
    have same := (resolveModule_retired found).trans noted
    split at rest
    · cases rest
      exact same
    · cases rest
      exact (mapEdge_retired _ _ _ _ _).trans same

namespace MappingRegistry

variable {registry after : MappingRegistry}

/-- No edge of a retired caller is mapped or uncertain. -/
def Quiet (registry : MappingRegistry) : Prop :=
  ∀ caller ∈ registry.tables.retired, ∀ (module : ModuleId) (state : MappingState),
    registry.mapping[(caller, module)]? = some state → state = .ended

theorem apply_quiet (quiet : registry.Quiet) {fact : Fact}
    (applied : registry.apply fact = some after) :
    after.Quiet ∧ (∀ caller ∈ registry.tables.retired, caller ∈ after.tables.retired) ∧
      ∀ caller, fact = .retireCaller caller → caller ∈ after.tables.retired := by
  cases fact with
  | noteMapping caller pid info =>
    obtain ⟨tables, mapped, rest⟩ := bind_eq_some_iff.mp applied
    have same := applyMapping_retired mapped
    have noted : after.tables = tables ∧ ∀ (other : CallerId) (module : ModuleId),
        other ∈ tables.retired →
        after.mapping[(other, module)]? = registry.mapping[(other, module)]? := by
      split at rest
      · next edge kept =>
        cases rest
        refine ⟨rfl, fun other module member => ?_⟩
        obtain ⟨listed, allowed⟩ := filter_eq_some_iff.mp kept
        obtain ⟨module', -, rfl⟩ := map_eq_some_iff.mp listed
        rw [getElem?_insert_ite, if_neg]
        rintro ⟨⟩
        simp [contains_iff_mem.mpr member] at allowed
      · cases rest
        exact ⟨rfl, fun _ _ _ => rfl⟩
    obtain ⟨rfl, kept⟩ := noted
    refine ⟨fun other member module state found => ?_, fun _ member => same ▸ member,
      by rintro _ ⟨⟩⟩
    rw [kept other module member] at found
    exact quiet other (same ▸ member) module state found
  | retireCaller caller =>
    cases applied
    refine ⟨fun other member module state found => ?_, fun other member => ?_, ?_⟩
    · rw [ExtTreeMap.getElem?_map, map_eq_some_iff] at found
      obtain ⟨was, before, rfl⟩ := found
      split
      · rfl
      · next differs =>
        rcases Lib.TreeSet.mem_insert_iff.mp member with same | old
        · exact absurd same.symm differs
        · exact quiet other old module was before
    · exact mem_insert.mpr (.inr member)
    · rintro _ ⟨⟩
      exact mem_insert_self
  | noteModuleAbsent caller module completeScan =>
    cases applied
    refine ⟨fun other member module' state found => ?_, fun _ member => member, by rintro _ ⟨⟩⟩
    rw [ExtTreeMap.getElem?_modify] at found
    split at found
    · next same =>
      obtain ⟨was, before, rfl⟩ := map_eq_some_iff.mp found
      rw [LawfulEqOrd.compare_eq_iff_eq.mp same] at before
      rw [if_pos (.inr (quiet other member module' was before))]
    · exact quiet other member module' state found
  | noteMemberUnscanned caller =>
    cases applied
    refine ⟨fun other member module state found => ?_, fun _ member => member, by rintro _ ⟨⟩⟩
    rw [ExtTreeMap.getElem?_map, map_eq_some_iff] at found
    obtain ⟨was, before, rfl⟩ := found
    rw [quiet other member module was before]
    simp
  | recordGap gap =>
    cases applied
    exact ⟨quiet, fun _ member => member, by rintro _ ⟨⟩⟩

/-- A publication ends every edge of the callers retired before or by it. -/
theorem publish_quiet {staged : List Fact} (quiet : registry.Quiet)
    (published : registry.publish staged = some after) :
    after.Quiet ∧ ∀ caller, caller ∈ registry.tables.retired ∨ .retireCaller caller ∈ staged →
      caller ∈ after.tables.retired := by
  unfold publish at published
  induction staged generalizing registry with
  | nil =>
    cases published
    exact ⟨quiet, fun caller member => member.resolve_right not_mem_nil⟩
  | cons fact rest ih =>
    obtain ⟨next, applied, later⟩ := bind_eq_some_iff.mp published
    obtain ⟨quietNext, kept, retires⟩ := apply_quiet quiet applied
    obtain ⟨last, ends⟩ := ih quietNext later
    refine ⟨last, fun caller member => ends caller ?_⟩
    rcases member with old | listed
    · exact .inl (kept caller old)
    · rcases mem_cons.mp listed with here | later
      · exact .inl (retires caller here.symm)
      · exact .inr later

end MappingRegistry

/-! ## Event application -/

namespace Outbox

variable {Owner : Type} {before after last : Outbox Owner}

/-- Events add to what is staged, and what they add to the retirements is staged. -/
structure Stages (before after : Outbox Owner) : Prop where
  kept : before.staged ⊆ after.staged
  more : ∀ id ∈ before.stagedRetirements, id ∈ after.stagedRetirements
  added : ∀ id ∈ after.stagedRetirements,
    id ∈ before.stagedRetirements ∨ .retireCaller id ∈ after.staged

theorem Stages.trans (first : before.Stages after) (second : after.Stages last) :
    before.Stages last where
  kept := List.Subset.trans first.kept second.kept
  more id member := second.more id (first.more id member)
  added id member := by
    rcases second.added id member with old | staged
    · exact (first.added id old).imp_right fun staged => second.kept staged
    · exact .inr staged

theorem Stages.of_same (kept : before.staged ⊆ after.staged)
    (same : after.stagedRetirements = before.stagedRetirements) : before.Stages after :=
  ⟨kept, fun _ member => same ▸ member, fun _ member => .inl (same ▸ member)⟩

variable (outbox : Outbox Owner)

theorem Stages.refl : outbox.Stages outbox :=
  .of_same (List.Subset.refl _) rfl

theorem bindOwner_stages (id : CallerId) (pid : Option UInt32) :
    outbox.Stages (outbox.bindOwner id pid) := by
  unfold bindOwner
  split
  · exact .refl outbox
  · exact .of_same (List.Subset.refl _) rfl

theorem retireCaller_stages (id : CallerId) :
    outbox.Stages (outbox.retireCaller id) ∧ id ∈ (outbox.retireCaller id).stagedRetirements := by
  unfold retireCaller
  split
  · next staged => exact ⟨.refl outbox, contains_iff_mem.mp staged⟩
  refine ⟨⟨subset_append_left _ _, fun other member => ?_, fun other member => ?_⟩, mem_insert_self⟩
  · exact mem_insert.mpr (.inr member)
  · rcases Lib.TreeSet.mem_insert_iff.mp member with rfl | old
    · exact .inr (mem_append_right _ (mem_singleton_self _))
    · exact .inl old

variable (pidOf : CallerId → Option UInt32)

/-- An event stages the retirement of the incarnation it ends. -/
theorem applyEvent_stages (outbox : Outbox Owner) (event : CallerEvent) :
    outbox.Stages (outbox.applyEvent pidOf event) ∧
      ∀ id, event.ends id → id ∈ (outbox.applyEvent pidOf event).stagedRetirements := by
  have ending := retireCaller_stages outbox
  have bound : ∀ old new, _ := fun old new =>
    bindOwner_stages (outbox.retireCaller old) new (pidOf new)
  cases event with
  | admitted id => exact ⟨bindOwner_stages _ _ _, fun _ impossible => impossible.elim⟩
  | exited id | retired id => exact ⟨(ending id).1, fun _ same => same ▸ (ending id).2⟩
  | execRetired old new | reused old new =>
    exact ⟨(ending old).1.trans (bound old new),
      fun _ same => same ▸ (bound old new).more old (ending old).2⟩
  | admitFailed pid reason budget =>
    refine ⟨?_, fun _ impossible => impossible.elim⟩
    simp only [applyEvent]
    split
    · exact .of_same (subset_append_left _ _) rfl
    · exact .refl outbox

theorem recordFailures_stages (group : List Failure) :
    outbox.Stages (outbox.recordFailures group) := by
  unfold recordFailures
  split
  · exact .refl outbox
  · exact .of_same (subset_append_left _ _) rfl
  · exact .of_same (subset_append_left _ _) rfl

theorem applyReconcileEvents_stages (events : List CallerEvent) :
    outbox.Stages (outbox.applyReconcileEvents pidOf events) ∧ ∀ event ∈ events, ∀ id,
      event.ends id → id ∈ (outbox.applyReconcileEvents pidOf events).stagedRetirements := by
  have applied : outbox.Stages (events.foldl (applyEvent pidOf) outbox) ∧ ∀ event ∈ events, ∀ id,
      event.ends id → id ∈ (events.foldl (applyEvent pidOf) outbox).stagedRetirements := by
    induction events generalizing outbox with
    | nil => exact ⟨.refl outbox, nofun⟩
    | cons event rest ih =>
      obtain ⟨first, staged⟩ := applyEvent_stages pidOf outbox event
      obtain ⟨later, others⟩ := ih (outbox.applyEvent pidOf event)
      refine ⟨first.trans later, fun other listed id ends => ?_⟩
      rcases mem_cons.mp listed with rfl | inRest
      · exact later.more id (staged id ends)
      · exact others other inRest id ends
  have recorded : (events.foldl (applyEvent pidOf) outbox).Stages
      (outbox.applyReconcileEvents pidOf events) :=
    (recordFailures_stages _ _).trans (recordFailures_stages _ _)
  exact ⟨applied.1.trans recorded,
    fun event listed id ends => recorded.more id (applied.2 event listed id ends)⟩

end Outbox

/-! ## Runs -/

namespace Coordinator

variable {Pin Owner : Type} {coordinator after : Coordinator Pin Owner}

/-- `told`: unless a re-admission failed, every retired incarnation has been staged. -/
structure Settled (coordinator : Coordinator Pin Owner) : Prop where
  quiet : coordinator.registry.Quiet
  staged : ∀ id ∈ coordinator.outbox.stagedRetirements,
    id ∈ coordinator.registry.tables.retired ∨ .retireCaller id ∈ coordinator.outbox.staged
  told : (∀ event ∈ coordinator.reported, ¬ event.readmissionFailed) → ∀ id,
    coordinator.adapter.Retired id → id ∈ coordinator.outbox.stagedRetirements

theorem settled_new (limits : RegistryLimits) (fingerprint : RegistryGap → UInt64) :
    (new limits fingerprint : Coordinator Pin Owner).Settled where
  quiet caller member := by simp [new, CallerRegistry.new] at member
  staged := by simp [new]
  told := by simp [new, CallerAdapter.new, Retired]

section

variable (settled : coordinator.Settled)
include settled

theorem Settled.reconcile (scene : Scene Pin) : (coordinator.reconcile scene).Settled := by
  have reports := reconcileInner_reports coordinator.adapter scene
  obtain ⟨stages, named⟩ := coordinator.outbox.applyReconcileEvents_stages
    (fun id => (coordinator.adapter.reconcileInner scene).1.callers[id]?.map TrackedCaller.pid)
    (coordinator.adapter.reconcileInner scene).2
  refine ⟨settled.quiet, fun id member => ?_, fun fine id retired => ?_⟩
  · rcases stages.added id member with old | staged
    · exact (settled.staged id old).imp_right fun staged => stages.kept staged
    · exact .inr staged
  · rcases reports id retired with old | ⟨event, listed, ends | failed⟩
    · refine stages.more id (settled.told (fun event member => ?_) id old)
      exact fine event (mem_append_left _ member)
    · exact named event listed id ends
    · exact absurd failed (fine event (mem_append_right _ listed))

theorem Settled.step {step : Step Pin Owner} (stepped : coordinator.step step = some after) :
    after.Settled := by
  cases step with
  | reconcile scene =>
    cases stepped
    exact settled.reconcile scene
  | stage fact =>
    cases stepped
    refine ⟨settled.quiet, fun id member => (settled.staged id member).imp_right ?_, settled.told⟩
    exact fun staged => mem_append_left _ staged
  | openOwner pid owner =>
    cases stepped
    exact { settled with }
  | publish =>
    obtain ⟨registry, applied, rest⟩ := bind_eq_some_iff.mp stepped
    cases rest
    obtain ⟨quiet, ends⟩ := MappingRegistry.publish_quiet settled.quiet applied
    exact ⟨quiet, fun id member => .inl (ends id (settled.staged id member)), settled.told⟩

theorem Settled.run {steps : List (Step Pin Owner)}
    (ran : steps.foldlM Coordinator.step coordinator = some after) : after.Settled := by
  induction steps generalizing coordinator with
  | nil =>
    cases ran
    exact settled
  | cons step rest ih =>
    obtain ⟨next, stepped, later⟩ := bind_eq_some_iff.mp ran
    exact ih (settled.step stepped) later

end

/-- A pass in which pid 7 is alive under its pin with the executable `ino`. -/
def alive (ino : UInt64) : Scene Unit where
  scope := .unrestricted
  observed := ExtTreeSet.ofList [(7 : UInt32)]
  granted := 0
  charged := 0
  shown _ := ⟨true, some 1, some ⟨1, ino, 0, 0, none⟩, false, answers⟩
  arrivals _ := answers
where
  answers : Readings Unit :=
    ⟨.ok (), false, .ok none, true, true, some 1, some ⟨1, ino, 0, 0, none⟩, true⟩

/-- Pid 7 is admitted, maps a module and executes another image. -/
def execRun (maxCallers : Nat) : Option (Coordinator Unit Unit) :=
  run { RegistryLimits.default with maxCallers } (fun _ => 0)
    [.reconcile (alive 1), .stage (.noteMapping 0 7 ⟨"/lib/p.so", .physical 8 1 5 none, false,
      .admitted, none, []⟩), .publish, .reconcile (alive 2)]

end Coordinator

end P11Scope.Callers
