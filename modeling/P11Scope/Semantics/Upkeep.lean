import P11Scope.Lib.TreeSet
import P11Scope.Semantics.Reducer

/-!
# Upkeep: everything but openings

Most of a transition updates statistics, operation bindings, searches and
stored calls.  None of that opens or closes a session, and it retains no key
that was not charged to the budget first.
-/

namespace P11Scope.Semantics

open Std Lib Lib.TreeMap Kinds ExtTreeMap

namespace State

/-- Keys of the capture-wide statistics. -/
def statisticKeys (s : State) : Nat :=
  s.mechanisms.size + sumBy (fun _ stat => stat.paramCombos.size) s.mechanisms +
    s.templates.size + sumBy (fun _ stat => stat.attrTypes.size) s.templates +
    s.logins.size + s.cgroups.size + sumBy (fun _ cell => cell.mechanisms.size) s.cgroups

/-- Retained keys other than histories, counters and openings. -/
def restKeys (s : State) : Nat :=
  s.activeOps.size + s.findActive.size + s.inheritedAmbiguous.size + s.statisticKeys

/-- Stored asynchronous calls. -/
def asyncRecords (s : State) : Nat := s.pending.size + s.detached.size

end State

/-- Agreement on histories, pseudonyms, openings and their counters. -/
structure SameSessions (before after : State) : Prop where
  reducedHistories : after.reducedHistories = before.reducedHistories
  nextPseudonym : after.nextPseudonym = before.nextPseudonym
  openSessions : after.openSessions = before.openSessions
  sessions : after.sessions = before.sessions
  drawn : after.drawn = before.drawn
  stateKeyLimit : after.stateKeyLimit = before.stateKeyLimit

variable {added : Nat} {after before : State}

theorem SameSessions.of_eq
    (same : (after.reducedHistories, after.nextPseudonym, after.openSessions, after.sessions,
        after.drawn, after.stateKeyLimit) =
      (before.reducedHistories, before.nextPseudonym, before.openSessions, before.sessions,
        before.drawn, before.stateKeyLimit)) : SameSessions before after := by
  simp only [Prod.mk.injEq] at same
  obtain ⟨histories, pseudonyms, openings, sessions, drawn, limit⟩ := same
  exact ⟨histories, pseudonyms, openings, sessions, drawn, limit⟩

variable {first second third : State}

theorem SameSessions.trans (left : SameSessions first second)
    (right : SameSessions second third) : SameSessions first third where
  reducedHistories := right.reducedHistories.trans left.reducedHistories
  nextPseudonym := right.nextPseudonym.trans left.nextPseudonym
  openSessions := right.openSessions.trans left.openSessions
  sessions := right.sessions.trans left.sessions
  drawn := right.drawn.trans left.drawn
  stateKeyLimit := right.stateKeyLimit.trans left.stateKeyLimit

/-! ## Issued ids -/

namespace State

/-- An id with an owner is recorded under the owner's process. -/
def Owned (s : State) : Prop :=
  ∀ ⦃key : DetachedKey⦄ ⦃detached : Detached⦄ ⦃process : Process⦄ ⦃session : SessionRef⦄,
    s.detached[key]? = some detached → detached.owner = some (process, session) →
      detached.process = process

/-- A record as it was, save that its owner may be gone. -/
def Holds (s : State) (key : DetachedKey) (detached : Detached) : Prop :=
  ∃ owner, (owner = detached.owner ∨ owner = none) ∧
    s.detached[key]? = some { detached with owner := owner }

end State

/-- Marked ids stay, those of the given scopes apart. -/
structure Spares (scopes : Process → ModuleId → Prop) (before after : State) : Prop where
  owned : before.Owned → after.Owned
  marked : ∀ {key : DetachedKey} {detached : Detached},
    before.detached[key]? = some detached → detached.collided = true →
      after.Holds key detached ∨ scopes detached.process key.1

namespace Spares

variable {scopes : Process → ModuleId → Prop}

/-- Ids only go, and the marked ones among them with their scope. -/
theorem narrow
    (narrows : ∀ {key : DetachedKey} {detached : Detached},
      after.detached[key]? = some detached → before.detached[key]? = some detached)
    (marked : ∀ {key : DetachedKey} {detached : Detached},
      before.detached[key]? = some detached → detached.collided = true →
        after.detached[key]? = some detached ∨ scopes detached.process key.1) :
    Spares scopes before after where
  owned owned _ _ _ _ stored := owned (narrows stored)
  marked stored collided := (marked stored collided).imp_left fun kept => ⟨_, .inl rfl, kept⟩

theorem of_eq (same : after.detached = before.detached) : Spares scopes before after :=
  narrow (fun stored => same ▸ stored) fun stored _ => .inl (same ▸ stored)

theorem trans (left : Spares scopes first second)
    (right : Spares scopes second third) : Spares scopes first third where
  owned owned := right.owned (left.owned owned)
  marked := by
    intro key detached stored collided
    rcases left.marked stored collided with ⟨owner, origin, kept⟩ | retired
    · refine (right.marked kept collided).imp_left ?_
      rintro ⟨later, same, held⟩
      refine ⟨later, ?_, held⟩
      rcases same with rfl | gone
      · exact origin
      · exact .inr gone
    · exact .inr retired

end Spares

/-! ## Upkeep -/

/-- A change that opens and closes nothing and retains no uncharged key. -/
structure Upkeep (before after : State) : Prop where
  same : SameSessions before after
  keys : before.stateKeys ≤ after.stateKeys
  bounded : after.stateKeys ≤ max before.stateKeys before.stateKeyLimit
  retained : after.restKeys + before.stateKeys ≤ before.restKeys + after.stateKeys
  async : after.asyncRecords ≤ max before.asyncRecords maxPending

namespace Upkeep

theorem refl (s : State) : Upkeep s s :=
  ⟨.of_eq rfl, Nat.le_refl _, Nat.le_max_left _ _, Nat.le_refl _, Nat.le_max_left _ _⟩

theorem trans (left : Upkeep first second) (right : Upkeep second third) : Upkeep first third := by
  have limit := left.same.stateKeyLimit
  obtain ⟨sameLeft, keysLeft, boundedLeft, retainedLeft, asyncLeft⟩ := left
  obtain ⟨sameRight, keysRight, boundedRight, retainedRight, asyncRight⟩ := right
  exact ⟨sameLeft.trans sameRight, by omega, by omega, by omega, by omega⟩

end Upkeep

/-- Upkeep that leaves the marked ids of other scopes in place. -/
structure Tended (scopes : Process → ModuleId → Prop) (before after : State) : Prop where
  upkeep : Upkeep before after
  spares : Spares scopes before after

variable {scopes : Process → ModuleId → Prop}

namespace Tended

theorem refl (s : State) : Tended scopes s s := ⟨.refl s, .of_eq rfl⟩

theorem trans (left : Tended scopes first second)
    (right : Tended scopes second third) : Tended scopes first third :=
  ⟨left.upkeep.trans right.upkeep, left.spares.trans right.spares⟩

/-- A fold of upkeep steps is upkeep. -/
theorem foldl {Item Carrier : Type} (view : Carrier → State) {advance : Carrier → Item → Carrier}
    {items : List Item}
    (each : ∀ carrier item, Tended scopes (view carrier) (view (advance carrier item)))
    (start : Carrier) : Tended scopes (view start) (view (items.foldl advance start)) :=
  List.foldlRecOn (motive := fun carrier => Tended scopes (view start) (view carrier)) items
    advance (.refl _) fun carrier kept item _ => kept.trans (each carrier item)

end Tended

/-- A change that retains at most `added` keys beyond those it had. -/
structure Growth (added : Nat) (before after : State) : Prop where
  same : SameSessions before after
  stateKeys : after.stateKeys = before.stateKeys
  retained : after.restKeys ≤ before.restKeys + added
  async : after.asyncRecords ≤ before.asyncRecords

/-- A change that retains nothing new is upkeep. -/
theorem Growth.upkeep (growth : Growth 0 before after) : Upkeep before after where
  same := growth.same
  keys := growth.stateKeys.ge
  bounded := growth.stateKeys.le.trans (Nat.le_max_left _ _)
  retained := by
    have retained := growth.retained
    have keys := growth.stateKeys
    omega
  async := growth.async.trans (Nat.le_max_left _ _)

/-- What neither statistics nor bindings touch. -/
def State.settled (s : State) :=
  (s.reducedHistories, s.nextPseudonym, s.openSessions, s.sessions, s.drawn, s.stateKeyLimit,
    s.stateKeys, s.pending, s.detached)

/-- A change of statistics and bindings that retains at most `added` keys more. -/
structure Grown (added : Nat) (before after : State) : Prop where
  settled : after.settled = before.settled
  retained : after.restKeys ≤ before.restKeys + added

theorem Grown.growth (grown : Grown added before after) : Growth added before after := by
  obtain ⟨settled, retained⟩ := grown
  simp only [State.settled, Prod.mk.injEq] at settled
  obtain ⟨histories, pseudonyms, openings, sessions, drawn, limit, keys, calls, ids⟩ := settled
  refine ⟨⟨histories, pseudonyms, openings, sessions, drawn, limit⟩, keys, retained, ?_⟩
  rw [State.asyncRecords, calls, ids]
  exact Nat.le_refl _

theorem Grown.detached (grown : Grown added before after) : after.detached = before.detached :=
  congrArg (fun settled => settled.2.2.2.2.2.2.2.2) grown.settled

theorem Grown.upkeep (grown : Grown 0 before after) : Tended scopes before after :=
  ⟨grown.growth.upkeep, .of_eq grown.detached⟩

/-- Evidence, counters and history variables carry no key. -/
theorem quiet_upkeep (settled : after.settled = before.settled)
    (rest : after.restKeys = before.restKeys) : Tended scopes before after :=
  Grown.upkeep ⟨settled, rest.le⟩

namespace State

variable (s : State)

/-! ## Admission -/

/-- An admission charges all new keys or refuses them all. -/
theorem admitKeys_cases (newKeys : Nat) :
    (s.admitKeys newKeys = ({ s with stateKeys := s.stateKeys + newKeys }, true) ∧
      (newKeys = 0 ∨ s.stateKeys + newKeys ≤ s.stateKeyLimit)) ∨
    (s.admitKeys newKeys = (s.refuseKeys, false) ∧ s.stateKeyLimit < s.stateKeys + newKeys) := by
  unfold admitKeys
  split
  case isTrue nothing =>
    subst nothing
    exact .inl ⟨rfl, .inl rfl⟩
  split
  case isTrue fits => exact .inl ⟨rfl, .inr fits⟩
  case isFalse exceeds => exact .inr ⟨rfl, Nat.not_le.mp exceeds⟩

theorem refuseKeys_upkeep : Tended scopes s s.refuseKeys := quiet_upkeep rfl rfl

variable {update : State → State}

/-- An update that retains no more than the admitted keys. -/
theorem whenAdmitted_upkeep {newKeys : Nat}
    (grows : ∀ keys, Grown newKeys { s with stateKeys := keys }
      (update { s with stateKeys := keys })) :
    Tended scopes s (whenAdmitted (s.admitKeys newKeys) update) := by
  rcases s.admitKeys_cases newKeys with ⟨granted, fits⟩ | ⟨refused, _⟩
  · let charged : State := { s with stateKeys := s.stateKeys + newKeys }
    have grown : Grown newKeys charged (update charged) := grows _
    have growth := grown.growth
    have start : SameSessions s charged := .of_eq rfl
    have keys : (update charged).stateKeys = s.stateKeys + newKeys := growth.stateKeys
    have retained : (update charged).restKeys ≤ s.restKeys + newKeys := growth.retained
    rw [granted]
    change Tended scopes s (update charged)
    exact ⟨⟨start.trans growth.same, by omega, by omega, by omega,
      growth.async.trans (Nat.le_max_left _ _)⟩, .of_eq grown.detached⟩
  · rw [refused]
    exact s.refuseKeys_upkeep

/-- The same for a single key that may already be held. -/
theorem whenAdmittedUnless_upkeep {held : Bool}
    (grows : ∀ keys, Grown (!held).toNat { s with stateKeys := keys }
      (update { s with stateKeys := keys })) :
    Tended scopes s (whenAdmitted (s.admitUnless held) update) := by
  cases held with
  | true => exact (grows s.stateKeys).upkeep
  | false => exact s.whenAdmitted_upkeep grows

/-- What follows an admitted update may do upkeep of its own. -/
theorem whenAdmitted_then {result : State × Bool}
    (first : Tended scopes s (whenAdmitted result update)) (later : State → State)
    (rest : ∀ t, Tended scopes (update t) (later (update t))) :
    Tended scopes s (whenAdmitted result fun t => later (update t)) := by
  obtain ⟨admitted, granted⟩ := result
  cases granted with
  | true => exact first.trans (rest _)
  | false => exact first

/-! ## Statistics -/

theorem countCgroup_upkeep (bump : Nat → Nat) (event : Event) :
    Tended scopes s (s.countCgroup bump event) := by
  unfold countCgroup
  split
  case h_1 absent =>
    refine s.whenAdmitted_upkeep fun keys => ⟨rfl, ?_⟩
    simp only [restKeys, statisticKeys, size_insert_of_absent absent,
      sumBy_insert_of_absent _ absent, size_empty]
    omega
  case h_2 cell stored =>
    have cells := sumBy_insert_of_present (fun _ cell => cell.mechanisms.size) stored
      { cell with
        calls := bump cell.calls
        errors := if isError event.rv then bump cell.errors else cell.errors }
    refine Grown.upkeep ⟨rfl, ?_⟩
    simp only [restKeys, statisticKeys, size_insert_of_present stored]
    dsimp only at cells
    omega

variable (event : Event)

theorem rejectHistory_upkeep : Tended scopes s (s.rejectHistory event) := by
  have counted : Tended scopes s s.countHistoryDrop := quiet_upkeep rfl rfl
  unfold rejectHistory
  split
  · exact counted
  · exact counted.trans (countCgroup_upkeep _ _ _)

/-- An update of one mechanism row that adds parameter combinations. -/
theorem updateMechanism_growth (mechanism : UInt64) (update : MechStat → MechStat) (added : Nat)
    (combos : (update ((s.mechanisms[mechanism]?).getD {})).paramCombos.size ≤
      ((s.mechanisms[mechanism]?).getD {}).paramCombos.size + added) :
    Grown ((!s.mechanisms.contains mechanism).toNat + added) s
      (s.updateMechanism mechanism update) := by
  refine ⟨rfl, ?_⟩
  unfold updateMechanism restKeys statisticKeys
  cases stored : s.mechanisms[mechanism]? with
  | none =>
    rw [stored] at combos
    have absent : s.mechanisms.contains mechanism = false := by
      rw [contains_eq_isSome_getElem?, stored]
      rfl
    rw [size_insert_of_absent stored, sumBy_insert_of_absent _ stored, absent]
    simp only [Option.getD_none, size_empty, Bool.not_false, Bool.toNat_true] at combos ⊢
    omega
  | some old =>
    rw [stored] at combos
    have rows := sumBy_insert_of_present (fun _ stat => stat.paramCombos.size) stored (update old)
    rw [size_insert_of_present stored]
    simp only [Option.getD_some] at combos ⊢
    omega

theorem recordCgroupMechanism_upkeep (cgroupId mechanism rv : UInt64) (unregistered : Bool) :
    Tended scopes s (s.recordCgroupMechanism cgroupId mechanism rv unregistered) := by
  unfold recordCgroupMechanism
  split
  · exact .refl s
  rename_i cell stored
  refine s.whenAdmittedUnless_upkeep fun keys => ⟨rfl, ?_⟩
  have cells := sumBy_insert_of_present (fun _ cell => cell.mechanisms.size) stored
    { cell with
      mechanisms := cell.mechanisms.insert mechanism
        { unregistered := ((cell.mechanisms[mechanism]?).getD {}).unregistered || unregistered
          calls := ((cell.mechanisms[mechanism]?).getD {}).calls + 1
          errors :=
            if isError rv then ((cell.mechanisms[mechanism]?).getD {}).errors + 1
            else ((cell.mechanisms[mechanism]?).getD {}).errors } }
  simp only [TreeMap.size_insert_eq] at cells
  simp only [restKeys, statisticKeys, size_insert_of_present stored]
  omega

theorem contains_updateMechanism (mechanism : UInt64) (update : MechStat → MechStat) :
    (s.updateMechanism mechanism update).mechanisms.contains mechanism = true := by
  rw [contains_eq_isSome_getElem?]
  exact congrArg Option.isSome getElem?_insert_self

theorem recordCombo_upkeep {mechanism : UInt64} (held : s.mechanisms.contains mechanism = true)
    (event : Event) : Tended scopes s (s.recordCombo mechanism event) := by
  unfold recordCombo
  split
  · have growth := s.updateMechanism_growth mechanism
      (fun stat => { stat with initNoShape := stat.initNoShape + 1 }) 0 (Nat.le_refl _)
    rw [held] at growth
    exact growth.upkeep
  refine s.whenAdmittedUnless_upkeep fun keys => ?_
  have growth := updateMechanism_growth { s with stateKeys := keys } mechanism
    (comboStat event)
    (!((s.mechanisms[mechanism]?).getD {}).paramCombos.contains (parameterCombo event)).toNat
    (by
      exact (TreeMap.size_insert_eq _ _ _).le)
  rw [held, Bool.not_true, Bool.toNat_false, Nat.zero_add] at growth
  exact growth

theorem attributeOpCall_upkeep (mechanism : UInt64) (unregistered : Bool) :
    Tended scopes s (s.attributeOpCall event mechanism unregistered) := by
  refine Tended.trans ?_ (recordCgroupMechanism_upkeep _ _ _ _ _)
  refine s.whenAdmittedUnless_upkeep fun keys => ?_
  exact updateMechanism_growth { s with stateKeys := keys } mechanism
    (attributedStat event unregistered) 0 (Nat.le_refl _)

theorem recordRequestDetails_upkeep {mechanism : UInt64}
    (held : s.mechanisms.contains mechanism = true) (event : Event) :
    Tended scopes s (s.recordRequestDetails mechanism event) := by
  refine Tended.trans ?_ (recordCgroupMechanism_upkeep _ _ _ _ _)
  split
  · exact s.recordCombo_upkeep held event
  · exact .refl s

variable (slot : SlotMeta)

theorem recordRequestedMechanism_upkeep :
    Tended scopes s (s.recordRequestedMechanism event slot) := by
  unfold recordRequestedMechanism
  split
  case h_1 mechanism _ =>
    have row : Tended scopes s (whenAdmitted (s.admitUnless (s.mechanisms.contains mechanism))
        fun t => t.updateMechanism mechanism (requestedStat event slot)) :=
      s.whenAdmittedUnless_upkeep fun keys =>
        updateMechanism_growth { s with stateKeys := keys } mechanism _ 0 (Nat.le_refl _)
    exact s.whenAdmitted_then row (·.recordRequestDetails mechanism event) fun t =>
      recordRequestDetails_upkeep _ (t.contains_updateMechanism mechanism _) event
  all_goals exact .refl s

theorem size_mergeTemplate (cell : TemplateStat) (captured : TemplateCapture) (addTypes : Bool) :
    (mergeTemplate cell captured addTypes).attrTypes.size ≤
      cell.attrTypes.size + if addTypes then (missingTypes cell captured).size else 0 := by
  unfold mergeTemplate
  cases addTypes with
  | false => exact Nat.le_refl _
  | true =>
    rw [if_pos rfl, TreeSet.size_foldl_insert (TreeSet.nodup_toList _),
      ← ExtTreeSet.length_toList (t := missingTypes cell captured)]
    exact Nat.add_le_add_left List.countP_le_length _

theorem storeTemplate_upkeep {key : UInt32 × UInt8} {cell : TemplateStat}
    (stored : s.templates[key]? = some cell) (captured : TemplateCapture) :
    Tended scopes s (s.storeTemplate key cell captured) := by
  unfold storeTemplate
  have merged := size_mergeTemplate cell captured (s.admitKeys (missingTypes cell captured).size).2
  have cells := sumBy_insert_of_present (fun _ stat => stat.attrTypes.size) stored
    (mergeTemplate cell captured (s.admitKeys (missingTypes cell captured).size).2)
  rcases s.admitKeys_cases (missingTypes cell captured).size with
    ⟨granted, fits⟩ | ⟨refused, _⟩
  · rw [granted] at merged cells ⊢
    simp only [if_true] at merged
    dsimp only at cells
    refine ⟨⟨.of_eq rfl, Nat.le_add_right _ _, ?_, ?_, Nat.le_max_left _ _⟩, .of_eq rfl⟩
    · change s.stateKeys + _ ≤ _
      omega
    · simp only [restKeys, statisticKeys, size_insert_of_present stored]
      omega
  · rw [refused] at merged cells ⊢
    simp only [Bool.false_eq_true, if_false] at merged
    dsimp only at cells
    refine Grown.upkeep ⟨rfl, ?_⟩
    simp only [restKeys, statisticKeys, refuseKeys, size_insert_of_present stored]
    omega

theorem recordTemplate_upkeep (key : UInt32 × UInt8) (role : Option String) (slot : SlotMeta)
    (captured : TemplateCapture) : Tended scopes s (s.recordTemplate key role slot captured) := by
  have cell : Tended scopes s (whenAdmitted (s.admitUnless (s.templates.contains key))
      fun t => { t with templates := t.templates.insert key (s.templateCell key role slot) }) := by
    refine s.whenAdmittedUnless_upkeep fun keys => ⟨rfl, ?_⟩
    unfold templateCell restKeys statisticKeys
    cases stored : s.templates[key]? with
    | none =>
      rw [size_insert_of_absent stored, sumBy_insert_of_absent _ stored,
        contains_eq_isSome_getElem?, stored]
      simp only [Option.getD_none, ExtTreeSet.size_empty, Option.isSome_none, Bool.not_false,
        Bool.toNat_true]
      omega
    | some cell =>
      have cells := sumBy_insert_of_present (fun _ stat => stat.attrTypes.size) stored cell
      rw [size_insert_of_present stored]
      simp only [Option.getD_some]
      omega
  exact s.whenAdmitted_then cell
    (·.storeTemplate key (s.templateCell key role slot) captured)
    fun t => storeTemplate_upkeep _ getElem?_insert_self _

theorem observeTemplates_upkeep : Tended scopes s (s.observeTemplates event slot) := by
  unfold observeTemplates
  split
  · exact .refl s
  have first : Tended scopes s (s.observeTemplate0 event slot) := by
    unfold observeTemplate0
    split
    · exact s.recordTemplate_upkeep _ _ _ _
    · exact .refl s
  refine first.trans ?_
  unfold observeTemplate1
  split
  · exact recordTemplate_upkeep _ _ _ _ _
  · exact .refl _

theorem recordLogin_upkeep : Tended scopes s (s.recordLogin event slot) := by
  unfold recordLogin
  split
  · refine s.whenAdmittedUnless_upkeep fun keys => ⟨rfl, ?_⟩
    simp only [restKeys, statisticKeys, TreeMap.size_insert_eq]
    omega
  · exact .refl s

theorem recordStatistics_upkeep (wasPending : Bool) :
    Tended scopes s (s.recordStatistics event slot wasPending) := by
  refine Tended.trans ((s.observeTemplates_upkeep event slot).trans ?_) (recordLogin_upkeep _ _ _)
  split
  · exact recordRequestedMechanism_upkeep _ _ _
  · exact .refl _

end State

end P11Scope.Semantics
