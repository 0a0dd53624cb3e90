import P11Scope.Semantics.Steps

/-!
# Public operations as runs

Completed and asynchronous calls are runs of steps, a fork is a run of fork
steps closed by the peak, and a plan change may clear the statistics after its
run.  Whatever holds of steps then holds along every sequence of operations.
-/

namespace P11Scope.Semantics

open Std Lib Lib.TreeMap Kinds Relation

variable {forgotten : Option Process} {scopes : Process → ModuleId → Prop}

/-- What a run amounts to, for marked ids as well. -/
theorem Tracked.effect {s t : State} (run : Tracked (Step forgotten) scopes s t) :
    Effect forgotten false s t ∧ Spares scopes s t :=
  ⟨.steps run.runs, run.spares⟩

theorem Tracked.fork {s t : State} (run : Tracked ForkStep scopes s t) :
    Effect forgotten false s t.updatePeak ∧ Spares scopes s t.updatePeak :=
  ⟨.fork run.runs, run.spares.trans (.of_eq rfl)⟩

theorem Tracked.purge {s t : State} (run : Tracked (Step none) scopes s t) (changed : Bool) :
    Effect forgotten true s (t.clearStatistics.countReconciliation changed) ∧
      Spares scopes s (t.clearStatistics.countReconciliation changed) :=
  ⟨.purge run.runs changed, run.spares.trans (.of_eq rfl)⟩

theorem Tended.forks {s t : State} (kept : Tended scopes s t) : Tracked ForkStep scopes s t :=
  .single ⟨.step (.upkeep kept.upkeep), kept.spares⟩

/-- A result that ends its module's scope: of a finalization, or for want of an
initialization. -/
def endsScope (rv : UInt64) (slot : SlotMeta) : Prop :=
  rv = CkRv.cryptokiNotInitialized ∨ rv = CkRv.ok ∧ slot.semantics.lifecycle = .finalize

namespace State

/-- The calls an event may complete: the one at its slot and the stored ones. -/
def Names (s : State) (event : Event) (slot : SlotMeta) : Prop :=
  s.slotAt event.slot = some slot ∨
    (∃ (key : Process × SessionRef × UInt32) (pending : Pending),
      s.pending[key]? = some pending ∧ pending.slot = slot) ∨
    ∃ (key : DetachedKey) (detached : Detached),
      s.detached[key]? = some detached ∧ detached.pending.slot = slot

/-- The scopes of which a call may let marked ids go: one that it ends, and any
when it is queued beyond the bound. -/
def callFrees (s : State) (caller : Process) (event : Event) (process : Process)
    (moduleId : ModuleId) : Prop :=
  (process = caller ∧ ∃ slot, s.Names event slot ∧ endsScope event.rv slot ∧
      slot.moduleId = moduleId) ∨
    event.rv = CkRv.pending ∧ maxPending ≤ s.asyncRecords

variable (s : State)

/-! ## Completed calls -/

variable (process : Process) (event : Event) (slot : SlotMeta)

section

variable (ends : endsScope event.rv slot → scopes process slot.moduleId)
include ends

theorem reconcileConclusive_steps :
    Tracked (Step forgotten) scopes s (s.reconcileConclusive process event slot).1 := by
  unfold reconcileConclusive
  split
  · have removed : Tended scopes s _ := s.removeOperations_upkeep process
      (slot.session event.session) (operationBits slot.semantics.operations)
    split
    · exact ((removed.trans (removeFind_upkeep _ _ _)).trans
        (countReconciliation_upkeep _ _)).steps
    · exact (removed.trans (countReconciliation_upkeep _ _)).steps
  split
  · exact (s.retireSession_steps process _).trans (countReconciliation_upkeep _ _).steps
  split
  case isTrue uninitialized =>
    exact (s.clearScope_steps process (some slot.moduleId) true nofun fun _ same =>
      of_decide_eq_true same ▸ ends (.inl uninitialized)).trans
        (countReconciliation_upkeep _ _).steps
  · exact .refl

theorem applyLifecycle_steps :
    Tracked (Step forgotten) scopes s (s.applyLifecycle process event slot) := by
  have guarded (condition : Prop) [Decidable condition] {t : State}
      (run : condition → Tracked (Step forgotten) scopes s t) :
      Tracked (Step forgotten) scopes s (if condition then t else s) := by
    split
    case isTrue holds => exact run holds
    · exact .refl
  unfold applyLifecycle
  split
  · exact guarded _ fun _ => s.openSession_steps process event slot
  · exact guarded _ fun _ => s.closeSession_steps process _
  · exact guarded _ fun _ => s.closeAllSessions_steps process event slot
  case h_4 finalizes =>
    exact guarded _ fun ok => s.clearScope_steps process (some slot.moduleId) true nofun
      fun _ same => of_decide_eq_true same ▸ ends (.inr ⟨ok, finalizes⟩)
  · exact (s.applyAuth_upkeep process event slot).steps
  · exact (s.applyAuth_upkeep process event slot).steps
  · exact guarded _ fun _ => (s.findInit_upkeep process _).steps
  · exact guarded _ fun _ => (s.removeFind_upkeep process _).steps
  · exact (s.applySessionCancel_upkeep process event _).steps
  · exact guarded _ fun _ => (s.importOperationState_upkeep process _).steps
  · exact .refl

theorem applyCompleted_steps (wasPending : Bool) :
    Tracked (Step forgotten) scopes s (s.applyCompleted process event slot wasPending) := by
  have recorded : Tracked (Step forgotten) scopes s _ :=
    (s.recordStatistics_upkeep event slot wasPending).steps
  have reconciled := recorded.trans (reconcileConclusive_steps _ process event slot ends)
  unfold applyCompleted
  dsimp only
  split
  · exact reconciled
  · exact (reconciled.trans (applyLifecycle_steps _ process event slot ends)).trans
      (applyOperation_upkeep _ process event slot).steps

end

/-! ## Asynchronous calls -/

theorem completePending_steps (pending : Pending) (returned : event.rv ≠ CkRv.pending)
    (ends : endsScope event.rv pending.slot → scopes process pending.slot.moduleId) :
    Tracked (Step forgotten) scopes s (s.completePending process event pending) := by
  unfold completePending
  dsimp only
  split
  case isTrue queued => exact absurd queued returned
  · exact s.applyCompleted_steps process (completedEvent event pending) pending.slot ends true

theorem callFrees_of_names {event : Event} {slot : SlotMeta} (named : s.Names event slot)
    (process : Process) (ends : endsScope event.rv slot) :
    s.callFrees process event process slot.moduleId :=
  .inl ⟨rfl, slot, named, ends, rfl⟩

theorem asyncComplete_steps (session : SessionRef) :
    Tracked (Step forgotten) (s.callFrees process event) s
      (s.asyncComplete process event session) := by
  have orphaned : Tended (s.callFrees process event) s s.countAsyncOrphan := quiet_upkeep rfl rfl
  unfold asyncComplete
  split
  · exact .refl
  rename_i returned
  split
  case h_1 pending stored =>
    have taken : Tended (s.callFrees process event) s { s with
        pending := s.pending.erase (process, session, event.targetFunction) } :=
      ⟨Growth.upkeep ⟨.of_eq rfl, rfl, Nat.le_refl _,
        Nat.add_le_add_right ExtTreeMap.size_erase_le _⟩, .of_eq rfl⟩
    have named : s.Names event pending.slot := Or.inr (.inl ⟨_, _, stored, rfl⟩)
    exact taken.steps.trans (completePending_steps _ process event pending returned
      (s.callFrees_of_names named process))
  split
  · exact orphaned.steps
  case h_2 key detached found =>
    have stored : s.detached[key]? = some detached :=
      ExtTreeMap.mem_toList_iff_getElem?_eq_some.mp (List.mem_of_find?_eq_some found)
    split
    · exact orphaned.steps
    case isFalse clear =>
      have taken : Tended (s.callFrees process event) s { s with
          detached := s.detached.erase key } :=
        ⟨Growth.upkeep ⟨.of_eq rfl, rfl, Nat.le_refl _,
          Nat.add_le_add_left ExtTreeMap.size_erase_le _⟩, .erase rfl fun same collided => by
            cases stored.symm.trans same
            exact absurd collided clear⟩
      have named : s.Names event detached.pending.slot := Or.inr (.inr ⟨_, _, stored, rfl⟩)
      exact taken.steps.trans (completePending_steps _ process event detached.pending returned
        (s.callFrees_of_names named process))

theorem observeAsync_steps :
    Tracked (Step forgotten) (s.callFrees process event) s (s.observeAsync process event) := by
  have failed : Tended (s.callFrees process event) s s.countAsyncTargetFailure :=
    quiet_upkeep rfl rfl
  unfold observeAsync
  split
  · exact failed.steps
  split
  · exact failed.steps
  split
  · exact .refl
  split
  · exact s.asyncComplete_steps process event _
  · split
    · exact (s.asyncGetId_upkeep process event _).steps
    · exact .refl
  · split
    · exact (s.asyncJoin_upkeep process event _).steps
    · exact .refl
  · exact .refl

/-! ## Calls -/

theorem observeSlot_steps (found : s.slotAt event.slot = some slot) :
    Tracked (Step forgotten) (s.callFrees process event) s (s.observeSlot process event slot) := by
  have noted : Tracked (Step forgotten) (s.callFrees process event) s _ :=
    (s.noteInherited_upkeep process event slot).steps
  have same : (s.noteInherited process event slot).callFrees process event =
      s.callFrees process event := by
    unfold noteInherited
    dsimp only
    split <;> rfl
  unfold observeSlot
  split
  · exact noted.trans (same ▸ observeAsync_steps _ process event)
  split
  case isTrue queued =>
    exact noted.trans (queuePending_upkeep _ process event slot fun full _ _ =>
      same ▸ .inr ⟨queued, full⟩).steps
  · exact noted.trans (applyCompleted_steps _ process event slot
      (callFrees_of_names _ (Or.inl found) process) false)

theorem callFrees_whenAdmitted {newKeys : Nat} {update : State → State}
    (same : ∀ t, (update t).callFrees process event = t.callFrees process event) :
    (whenAdmitted (s.admitKeys newKeys) update).callFrees process event =
      s.callFrees process event := by
  rcases s.admitKeys_cases newKeys with ⟨granted, _⟩ | ⟨refused, _⟩
  · rw [granted]
    exact same _
  · rw [refused]
    rfl

theorem observeCall_steps :
    Tracked (Step forgotten) (s.callFrees process event) s (s.observeCall process event) := by
  have counted : Tracked (Step forgotten) (s.callFrees process event) s _ :=
    (s.recordHistory_steps process).trans (countCgroup_upkeep _ (· + 1) event).steps
  have same : ((s.recordHistory process).countCgroup (· + 1) event).callFrees process event =
      s.callFrees process event := by
    trans (s.recordHistory process).callFrees process event
    · unfold countCgroup
      split
      · exact callFrees_whenAdmitted _ _ _ fun _ => rfl
      · rfl
    · unfold recordHistory
      split
      · rfl
      · exact s.callFrees_whenAdmitted _ _ fun _ => rfl
  unfold observeCall
  dsimp only
  split
  · exact counted
  case h_2 slot found =>
    split
    · exact counted
    · exact counted.trans (same ▸ observeSlot_steps _ process event slot found)

theorem observeProcess_steps (key : ProcessKey) (event : Event) :
    Tracked (Step forgotten) (s.callFrees key.identity event) s (s.observeProcess key event) := by
  unfold observeProcess
  split
  · exact (s.rejectHistory_upkeep event).steps
  · exact s.observeCall_steps key.identity event

/-! ## Forks -/

theorem inheritSession_runs (parent child : Process)
    (operations : SessionRef → List (UInt16 × Binding)) (entry : SessionRef × SessionInfo) :
    Tracked ForkStep scopes s (s.inheritSession parent child operations entry) := by
  have held (t : State) : Tended scopes t
      (((operations entry.1).foldl
        (fun t operation => t.inheritOperation child entry.1 operation) t).inheritFind parent
          child entry.1) :=
    (Tended.foldl id (fun t operation => t.inheritOperation_upkeep child entry.1 operation) t).trans
      (inheritFind_upkeep _ parent child entry.1)
  unfold inheritSession
  split
  · exact (s.markAmbiguous_upkeep child entry.1).forks
  change Tracked ForkStep scopes s (whenAdmitted (s.admitKeys (s.inheritedKeys child entry.1)) _)
  rcases s.admitKeys_cases (s.inheritedKeys child entry.1) with
    ⟨granted, fits⟩ | ⟨refused, _⟩
  · rw [granted]
    exact .trans (.single ⟨.inherited child entry.1 entry.2.slot entry.2.forkSafe fits,
      .of_eq rfl⟩) (held _).forks
  · rw [refused]
    exact s.refuseKeys_upkeep.forks

theorem forkProcess_effect (parent child : ProcessKey) :
    Effect forgotten false s (s.forkProcess parent child) ∧
      Spares scopes s (s.forkProcess parent child) := by
  have still : Effect forgotten false s s ∧ Spares scopes s s := Tracked.effect .refl
  unfold forkProcess
  split
  · exact still
  split
  · exact still
  rename_i absent
  rw [Bool.not_eq_true] at absent
  rcases s.admitKeys_cases 1 with ⟨granted, fits⟩ | ⟨refused, _⟩
  · rw [granted]
    have known : Tracked ForkStep scopes s _ := .single ⟨.step (.history child.identity absent
      (fits.resolve_left Nat.one_ne_zero)), .of_eq rfl⟩
    exact Tracked.fork (known.trans (runs_foldl id (fun entry _ t =>
      t.inheritSession_runs parent.identity child.identity _ entry) _))
  · rw [refused]
    exact s.refuseKeys_upkeep.steps.effect

/-! ## Plan changes -/

theorem clearScopes_steps (listed : List (Process × ModuleId))
    (retired : ∀ scope ∈ listed, scopes scope.1 scope.2) :
    Tracked (Step forgotten) scopes s (s.clearScopes listed).1 := by
  refine runs_foldl Prod.fst (fun scope member pair => ?_) (s, false)
  exact pair.1.clearScope_steps scope.1 (some scope.2) false nofun fun _ same =>
    of_decide_eq_true same ▸ retired scope member

theorem purgeModules_effect (modules : ExtTreeSet ModuleId)
    (retired : ∀ process, ∀ moduleId ∈ modules, scopes process moduleId) :
    Effect forgotten (!modules.isEmpty) s (s.purgeModules modules) ∧
      Spares scopes s (s.purgeModules modules) := by
  unfold purgeModules
  cases modules.isEmpty with
  | true =>
    exact Tracked.effect .refl
  | false =>
    rw [if_neg Bool.false_ne_true]
    have cleared : Tracked (Step none) scopes s _ := s.clearScopes_steps
      (s.processes.toList.flatMap fun process =>
        modules.toList.map fun moduleId => (process, moduleId)) (by
          intro scope member
          obtain ⟨process, -, listed⟩ := List.mem_flatMap.mp member
          obtain ⟨moduleId, purged, rfl⟩ := List.mem_map.mp listed
          exact retired process moduleId (ExtTreeSet.mem_toList.mp purged))
    exact cleared.purge _

end State

/-- Upkeep before an operation is part of it. -/
theorem Effect.after_upkeep {clears : Bool} {s t u : State}
    (kept : Upkeep s t) (effect : Effect forgotten clears t u) :
    Effect forgotten clears s u := by
  cases effect with
  | steps run => exact .steps (.head (.upkeep kept) run)
  | fork run => exact .fork (.head (.step (.upkeep kept)) run)
  | purge run changed => exact .purge (.head (.upkeep kept) run) changed

/-- An invariant of the steps, of the peak and of a purge is one of operations. -/
theorem Effect.invariant {clears : Bool} {s t : State}
    (effect : Effect forgotten clears s t) (property : State → Prop)
    (step : ∀ {s t}, Step forgotten s t → property s → property t)
    (forkStep : ∀ {s t}, ForkStep s t → property s → property t)
    (peak : ∀ {s : State}, property s → property s.updatePeak)
    (purge : ∀ {s : State} (changed : Bool), property s →
      property (s.clearStatistics.countReconciliation changed)) (holds : property s) :
    property t := by
  cases effect with
  | steps run => exact runs_invariant property step run holds
  | fork run => exact peak (runs_invariant property forkStep run holds)
  | purge run changed =>
    exact purge changed (runs_invariant property (fun taken => forkStep (.step taken)) run holds)

/-! ## Sequences of operations -/

inductive Action where
  | observe (event : Event)
  | observeProcess (key : ProcessKey) (event : Event)
  | rejectHistory (event : Event)
  | forkProcess (parent child : ProcessKey)
  | retireProcess (key : ProcessKey)
  | syncPlan (plan : AttachPlan)
  | purgeModules (modules : ExtTreeSet ModuleId)

/-- The process whose pseudonym counter an operation ends. -/
def Action.forgets : Action → Option Process
  | .retireProcess key => some key.identity
  | .observe _ => none
  | .observeProcess _ _ => none
  | .rejectHistory _ => none
  | .forkProcess _ _ => none
  | .syncPlan _ => none
  | .purgeModules _ => none

namespace State

def act (s : State) : Action → State
  | .observe event => s.observe event
  | .observeProcess key event => s.observeProcess key event
  | .rejectHistory event => s.rejectHistory event
  | .forkProcess parent child => s.forkProcess parent child
  | .retireProcess key => (s.retireProcess key).1
  | .syncPlan plan => s.syncPlan plan
  | .purgeModules modules => s.purgeModules modules

def run (s : State) (actions : List Action) : State := actions.foldl act s

/-- Whether an operation clears the statistics. -/
def clears (s : State) : Action → Bool
  | .syncPlan plan => !(affectedModules s.slots (slotMetadata plan) plan).isEmpty
  | .purgeModules modules => !modules.isEmpty
  | .observe _ => false
  | .observeProcess _ _ => false
  | .rejectHistory _ => false
  | .forkProcess _ _ => false
  | .retireProcess _ => false

/-- The scopes of which an operation may let marked ids go. -/
def frees (s : State) : Action → Process → ModuleId → Prop
  | .observe event =>
    s.callFrees (ProcessKey.fromPid (event.pidTgid >>> 32).toUInt32).identity event
  | .observeProcess key event => s.callFrees key.identity event
  | .rejectHistory _ => fun _ _ => False
  | .forkProcess _ _ => fun _ _ => False
  | .retireProcess key => fun process _ => process = key.identity
  | .syncPlan plan => fun _ moduleId => moduleId ∈ affectedModules s.slots (slotMetadata plan) plan
  | .purgeModules modules => fun _ moduleId => moduleId ∈ modules

/-- What each public operation amounts to. -/
theorem act_outcome (s : State) (action : Action) :
    Effect action.forgets (s.clears action) s (s.act action) ∧
      Spares (s.frees action) s (s.act action) := by
  cases action with
  | observe event =>
    unfold act observe
    dsimp only
    split
    · exact s.forkProcess_effect _ _
    split
    · exact Tracked.effect .refl
    · exact (s.observeProcess_steps _ event).effect
  | observeProcess key event => exact (s.observeProcess_steps key event).effect
  | rejectHistory event => exact (s.rejectHistory_upkeep event).steps.effect
  | forkProcess parent child => exact s.forkProcess_effect parent child
  | retireProcess key =>
    exact (s.clearScope_steps key.identity none true (fun _ => rfl) fun _ _ => rfl).effect
  | syncPlan plan =>
    have replanned : Tended (s.frees (.syncPlan plan)) s { s with slots := slotMetadata plan } :=
      quiet_upkeep rfl rfl
    obtain ⟨effect, spares⟩ := purgeModules_effect { s with slots := slotMetadata plan }
      (affectedModules s.slots (slotMetadata plan) plan) fun _ _ member => member
    exact ⟨effect.after_upkeep replanned.upkeep, replanned.spares.trans spares⟩
  | purgeModules modules => exact s.purgeModules_effect modules fun _ _ member => member

theorem act_effect (s : State) (action : Action) :
    Effect action.forgets (s.clears action) s (s.act action) :=
  (s.act_outcome action).1

/-- An invariant of operations holds along every sequence of them. -/
theorem run_invariant (property : State → Prop)
    (kept : ∀ {s t forgotten clears}, Effect forgotten clears s t → property s → property t)
    (actions : List Action) {s : State} (holds : property s) : property (s.run actions) :=
  List.foldlRecOn (motive := property) actions act holds fun t holds action _ =>
    kept (t.act_effect action) holds

end State

end P11Scope.Semantics
