import P11Scope.Semantics.Upkeep

/-!
# Upkeep of what sessions hold

Operation bindings, searches, inherited marks and stored asynchronous calls,
up to a completed call's lifecycle.
-/

namespace P11Scope.Semantics

open Std Lib Lib.TreeMap Kinds ExtTreeMap

variable {scopes : Process → ModuleId → Prop}

/-- Sessions that hold less leave the statistics alone. -/
theorem State.restKeys_le {before after : State}
    (statistics : after.statisticKeys = before.statisticKeys)
    (operations : after.activeOps.size ≤ before.activeOps.size)
    (finds : after.findActive.size ≤ before.findActive.size)
    (marks : after.inheritedAmbiguous.size ≤ before.inheritedAmbiguous.size) :
    after.restKeys ≤ before.restKeys := by
  unfold State.restKeys
  omega

namespace Spares

variable {before after : State} {key : DetachedKey}

/-- Ids left out by a filter. -/
theorem filter {keep : DetachedKey → Detached → Bool}
    (same : after.detached = before.detached.filter keep)
    (kept : ∀ {key : DetachedKey} {detached : Detached}, detached.collided = true →
      keep key detached = false → scopes detached.process key.1) : Spares scopes before after := by
  refine narrow (fun stored => ?_) fun {key detached} stored collided => ?_
  · rw [same] at stored
    exact (getElem?_filter_eq_some_iff.mp stored).1
  · cases keeps : keep key detached with
    | true =>
      rw [same]
      exact .inl (getElem?_filter_eq_some_iff.mpr ⟨stored, keeps⟩)
    | false => exact .inr (kept collided keeps)

theorem erase (same : after.detached = before.detached.erase key)
    (kept : ∀ {detached : Detached}, before.detached[key]? = some detached →
      detached.collided = true → scopes detached.process key.1) : Spares scopes before after := by
  refine narrow (fun stored => ?_) fun stored collided => ?_
  · rw [same, getElem?_erase_ite] at stored
    exact (Option.ite_none_left_eq_some.mp stored).2
  · rw [same, getElem?_erase_ite]
    split
    case isTrue here => exact .inr (here ▸ kept (here ▸ stored) collided)
    case isFalse => exact .inl stored

theorem insert {record : Detached} (same : after.detached = before.detached.insert key record)
    (owned : before.Owned → ∀ process session, record.owner = some (process, session) →
      record.process = process)
    (clear : ∀ {detached : Detached}, before.detached[key]? = some detached →
      detached.collided = true → record = detached) : Spares scopes before after where
  owned before := by
    intro other detached process session stored owner
    rw [same, getElem?_insert_ite] at stored
    split at stored
    · cases stored
      exact owned before process session owner
    · exact before stored owner
  marked := by
    intro other detached stored collided
    refine .inl ⟨_, .inl rfl, ?_⟩
    rw [same, getElem?_insert_ite]
    split
    · next here =>
      subst here
      rw [clear stored collided]
    · exact stored

/-- A cleared session no longer owns ids, which stay. -/
theorem disown {process : Process} {session : SessionRef}
    (same : after.detached = before.detached.map fun _ detached =>
      if detached.owner = some (process, session) then { detached with owner := none }
      else detached) : Spares scopes before after where
  owned owned := by
    intro key detached other held stored owner
    rw [same, getElem?_map, Option.map_eq_some_iff] at stored
    obtain ⟨record, found, rfl⟩ := stored
    by_cases own : record.owner = some (process, session)
    · rw [if_pos own] at owner
      cases owner
    · rw [if_neg own] at owner ⊢
      exact owned found owner
  marked := by
    intro key detached stored collided
    refine .inl ?_
    rw [State.Holds, same, getElem?_map, stored, Option.map_some]
    split
    · exact ⟨none, .inr rfl, rfl⟩
    · exact ⟨_, .inl rfl, rfl⟩

end Spares

namespace State

variable (s : State)

/-! ## Bindings, searches and marks -/

section

variable (process : Process)
include process

variable (session : SessionRef)

theorem clearOperations_upkeep (mask : UInt16) :
    Tended scopes s (s.clearOperations process session mask).1 :=
  Grown.upkeep ⟨rfl, restKeys_le rfl size_filter_le_size (Nat.le_refl _) (Nat.le_refl _)⟩

theorem clearSessionState_upkeep : Tended scopes s (s.clearSessionState process session).1 := by
  refine (s.clearOperations_upkeep process session 0xFFFF).trans
    ⟨Growth.upkeep ⟨.of_eq rfl, rfl, ?_, ?_⟩, .disown rfl⟩
  · exact restKeys_le rfl (Nat.le_refl _) ExtTreeSet.size_erase_le ExtTreeSet.size_erase_le
  · change (s.pending.filter _).size + (s.detached.map _).size ≤ s.pending.size + s.detached.size
    rw [size_map]
    exact Nat.add_le_add_right size_filter_le_size _

theorem sweepScope_upkeep {moduleId : Option ModuleId}
    (retired : ∀ id, moduleId.all (id = ·) → scopes process id) :
    Tended scopes s (s.sweepScope process moduleId) := by
  refine ⟨Growth.upkeep ⟨.of_eq rfl, rfl, restKeys_le rfl size_filter_le_size
    ExtTreeSet.size_filter_le_size ExtTreeSet.size_filter_le_size,
    Nat.add_le_add size_filter_le_size size_filter_le_size⟩, ?_⟩
  refine .filter rfl fun {key detached} _ dropped => ?_
  obtain ⟨rfl, inside⟩ : detached.process = process ∧ moduleId.all (key.1 = ·) := by
    simpa [inScopeDetached] using dropped
  exact retired key.1 inside

theorem removeOperation_upkeep (operation : UInt16) :
    Tended scopes s (s.removeOperation process session operation) :=
  Grown.upkeep ⟨rfl, restKeys_le rfl size_erase_le (Nat.le_refl _) (Nat.le_refl _)⟩

theorem removeOperations_upkeep (bits : List (UInt16 × String)) :
    Tended scopes s (s.removeOperations process session bits) := by
  exact Tended.foldl id (fun t _ => t.removeOperation_upkeep process session _) s

theorem removeFind_upkeep : Tended scopes s (s.removeFind process session) :=
  Grown.upkeep ⟨rfl, restKeys_le rfl (Nat.le_refl _) ExtTreeSet.size_erase_le (Nat.le_refl _)⟩

end

/-- A binding stored under an admitted or held key. -/
theorem bindOperation_upkeep (key : Process × SessionRef × UInt16) (binding : Binding) :
    Tended scopes s (whenAdmitted (s.admitUnless (s.activeOps.contains key))
      fun t => { t with activeOps := t.activeOps.insert key binding }) := by
  refine s.whenAdmittedUnless_upkeep fun keys => ⟨rfl, ?_⟩
  simp only [restKeys, statisticKeys, TreeMap.size_insert_eq]
  omega

theorem findInit_upkeep (process : Process) (session : SessionRef) :
    Tended scopes s (s.findInit process session) := by
  refine s.whenAdmittedUnless_upkeep fun keys => ⟨rfl, ?_⟩
  simp only [restKeys, statisticKeys, TreeSet.size_insert_eq]
  omega

theorem markAmbiguous_upkeep (child : Process) (session : SessionRef) :
    Tended scopes s (s.markAmbiguous child session) := by
  refine s.whenAdmittedUnless_upkeep fun keys => ⟨rfl, ?_⟩
  simp only [restKeys, statisticKeys, TreeSet.size_insert_eq]
  omega

section

variable (process : Process) (event : Event) (slot : SlotMeta)

theorem noteInherited_upkeep : Tended scopes s (s.noteInherited process event slot) := by
  unfold noteInherited
  dsimp only
  split
  · exact Grown.upkeep ⟨rfl, restKeys_le rfl (Nat.le_refl _) (Nat.le_refl _)
      ExtTreeSet.size_erase_le⟩
  · exact .refl s

theorem applyInitBit_upkeep (operation : UInt16) :
    Tended scopes s (s.applyInitBit process event slot operation) := by
  unfold applyInitBit
  split
  · exact s.bindOperation_upkeep _ _
  · have removed : Tended scopes s _ :=
      s.removeOperation_upkeep process (slot.session event.session) operation
    split
    · exact removed.trans (quiet_upkeep rfl rfl)
    · exact removed
  · exact s.removeOperation_upkeep _ _ _
  · exact s.removeOperation_upkeep _ _ _

theorem applyInit_upkeep : Tended scopes s (s.applyInit process event slot) := by
  unfold applyInit
  split
  · exact .refl s
  · exact Tended.foldl id (fun t _ => t.applyInitBit_upkeep process event slot _) s

theorem applyOperations_upkeep : Tended scopes s (s.applyOperations process event slot) := by
  unfold applyOperations
  have orphaned : Tended scopes s { s with
      orphanOps := s.orphanOps + s.unboundBits process (slot.session event.session)
        (operationBits slot.semantics.operations) } := quiet_upkeep rfl rfl
  have attributed (touched : List (UInt64 × Bool)) (t : State) :
      Tended scopes t (touched.foldl (fun t entry => t.attributeOpCall event entry.1 entry.2) t) :=
    Tended.foldl id (fun t _ => t.attributeOpCall_upkeep event _ _) t
  split
  · exact orphaned.trans (attributed _ _)
  · exact (orphaned.trans (attributed _ _)).trans (removeOperations_upkeep _ _ _ _)

theorem applyOperation_upkeep : Tended scopes s (s.applyOperation process event slot) := by
  unfold applyOperation
  split
  · exact s.applyInit_upkeep process event slot
  split
  · exact s.applyOperations_upkeep process event slot
  · exact .refl s

end

/-! ## Authentication, cancellation and imports -/

section

variable (process : Process)
include process

theorem clearSessions_upkeep (sessions : List SessionRef) :
    Tended scopes s (s.clearSessions process sessions).1 := by
  refine Tended.foldl Prod.fst (fun pair session => ?_) (s, false)
  exact pair.1.clearSessionState_upkeep process session

theorem applyAuth_upkeep (event : Event) (slot : SlotMeta) :
    Tended scopes s (s.applyAuth process event slot) := by
  unfold applyAuth
  dsimp only
  split
  · exact .refl s
  split
  · exact .refl s
  split
  · exact .refl s
  · exact (s.clearSessions_upkeep process _).trans (quiet_upkeep rfl rfl)

variable (session : SessionRef)

theorem clearSelected_upkeep (flags : UInt64) :
    Tended scopes s (s.clearSelected process session flags) := by
  have operations : Tended scopes s _ :=
    s.clearOperations_upkeep process session (cancelOperationMask flags)
  have swept (t : State) : Tended scopes t { t with
      pending := t.pending.filter fun key pending =>
        !(key.1 = process && key.2.1 = session && cancels flags pending)
      detached := t.detached.filter fun _ detached =>
        detached.collided ||
          !(detached.owner = some (process, session) && cancels flags detached.pending) } :=
    ⟨Growth.upkeep ⟨.of_eq rfl, rfl, Nat.le_refl _,
      Nat.add_le_add size_filter_le_size size_filter_le_size⟩,
      .filter rfl fun collided dropped => by simp [collided] at dropped⟩
  unfold clearSelected
  split
  · exact (operations.trans (removeFind_upkeep _ process session)).trans (swept _)
  · exact operations.trans (swept _)

theorem applySessionCancel_upkeep (event : Event) (session : SessionRef) :
    Tended scopes s (s.applySessionCancel process event session) := by
  have counted : Tended scopes s (s.countUnknownCancelFlags event.flags) := by
    unfold countUnknownCancelFlags
    split
    · exact quiet_upkeep rfl rfl
    · exact .refl s
  unfold applySessionCancel
  split
  · exact (counted.trans (clearSelected_upkeep _ process session event.flags)).trans
      (quiet_upkeep rfl rfl)
  split
  · exact counted.trans (clearSelected_upkeep _ process session event.flags)
  · exact counted

theorem importOperationState_upkeep : Tended scopes s (s.importOperationState process session) :=
  (s.clearOperations_upkeep process session 0xFFFF).trans (quiet_upkeep rfl rfl)

end

/-! ## Stored asynchronous calls -/

/-- An eviction drops one stored call when there are more than the bound. -/
theorem evictPendingIfNeeded_cases :
    (s.evictPendingIfNeeded = s ∧ s.asyncRecords ≤ maxPending) ∨ maxPending < s.asyncRecords ∧
    ((∃ key record, s.pending[key]? = some record ∧ s.evictPendingIfNeeded =
      ({ s with pending := s.pending.erase key } : State).countEviction) ∨
    ∃ key record, s.detached[key]? = some record ∧ s.evictPendingIfNeeded =
      ({ s with detached := s.detached.erase key } : State).countEviction) := by
  unfold evictPendingIfNeeded
  split
  case isTrue fits => exact .inl ⟨rfl, fits⟩
  rename_i full
  refine .inr ⟨Nat.lt_of_not_le full, ?_⟩
  split
  case h_1 calls ids =>
    split
    · exact .inl ⟨_, _, getElem?_of_argmin calls, rfl⟩
    · exact .inr ⟨_, _, getElem?_of_argmin ids, rfl⟩
  case h_2 calls _ => exact .inl ⟨_, _, getElem?_of_argmin calls, rfl⟩
  case h_3 _ ids => exact .inr ⟨_, _, getElem?_of_argmin ids, rfl⟩
  case h_4 calls ids =>
    rw [← length_toList, ← length_toList, List.argmin_eq_none.mp calls,
      List.argmin_eq_none.mp ids] at full
    exact absurd (Nat.zero_le _) full

section

variable (process : Process) (event : Event) (slot : SlotMeta)
  (full : maxPending ≤ s.asyncRecords → ∀ owner id, scopes owner id)
include full

/-- Only a call beyond the bound costs another its place. -/
theorem storePending_upkeep (function : UInt32) :
    Tended scopes s (s.storePending process event slot function) := by
  unfold storePending
  dsimp only
  have stored (t : State) (same : SameSessions s t) (keys : t.stateKeys = s.stateKeys)
      (rest : t.restKeys = s.restKeys) (records : t.asyncRecords ≤ s.asyncRecords + 1)
      (ids : t.detached = s.detached) : Tended scopes s t.evictPendingIfNeeded := by
    rcases t.evictPendingIfNeeded_cases with
      ⟨kept, fits⟩ | ⟨excess, ⟨key, record, present, dropped⟩ | ⟨key, record, present, dropped⟩⟩
    · rw [kept]
      exact ⟨⟨same, by omega, by omega, by omega, by omega⟩, .of_eq ids⟩
    all_goals
      have removed := size_erase_of_present present
      rw [dropped]
      refine ⟨⟨same.trans (.of_eq rfl), keys.ge, keys.le.trans (Nat.le_max_left _ _), ?_, ?_⟩, ?_⟩
      · change t.restKeys + s.stateKeys ≤ s.restKeys + t.stateKeys
        omega
    · change (t.pending.erase key).size + t.detached.size ≤ _
      rw [asyncRecords] at records
      omega
    · exact .of_eq ids
    · change t.pending.size + (t.detached.erase key).size ≤ _
      rw [asyncRecords] at records
      omega
    · refine .erase (congrArg (·.erase key) ids) fun _ _ => full ?_ _ _
      omega
  have records (record : Pending) :
      (s.pending.insert (process, slot.session event.session, function) record).size +
        s.detached.size ≤ s.asyncRecords + 1 := by
    have size := size_insert_le (t := s.pending)
      (k := (process, slot.session event.session, function)) (v := record)
    unfold asyncRecords
    omega
  split
  · exact stored _ (.of_eq rfl) rfl rfl (records _) rfl
  · exact stored _ (.of_eq rfl) rfl rfl (records _) rfl

theorem queuePending_upkeep : Tended scopes s (s.queuePending process event slot) := by
  unfold queuePending
  split
  · exact quiet_upkeep rfl rfl
  split
  · exact quiet_upkeep rfl rfl
  · exact s.storePending_upkeep process event slot full _

end

/-- A stored call moved to an issued id stays one record. -/
theorem issueDetached_upkeep {taken : Process × SessionRef × UInt32} {pending : Pending}
    (stored : s.pending[taken]? = some pending) (process : Process) (session : SessionRef)
    (key : DetachedKey) :
    Tended scopes s (({ s with pending := s.pending.erase taken } : State).issueDetached process
      session key pending) := by
  have calls := size_erase_of_present stored
  have moved (detached : Detached) (evidence : SemanticEvidence) :
      Upkeep s { s with
        pending := s.pending.erase taken, detached := s.detached.insert key detached
        evidence := evidence } := by
    have ids := size_insert_le (t := s.detached) (k := key) (v := detached)
    refine Growth.upkeep ⟨.of_eq rfl, rfl, Nat.le_refl _, ?_⟩
    change (s.pending.erase _).size + (s.detached.insert _ _).size ≤
      s.pending.size + s.detached.size
    omega
  unfold issueDetached
  split
  case h_1 existing found =>
    split
    · refine ⟨moved _ _, .insert rfl ?_ ?_⟩
      · intro owned process session owner
        have recorded : existing.process = process := owned found owner
        exact recorded
      · intro detached same collided
        cases found.symm.trans same
        rw [← collided]
    split
    · refine ⟨Growth.upkeep ⟨.of_eq rfl, rfl, Nat.le_refl _, ?_⟩, .of_eq rfl⟩
      exact Nat.add_le_add_right size_erase_le _
    case isFalse clear =>
      refine ⟨moved _ _, .insert rfl ?_ ?_⟩
      · rintro - _ _ ⟨⟩
        rfl
      · intro detached same collided
        cases found.symm.trans same
        exact absurd collided clear
  case h_2 absent =>
    refine ⟨moved _ _, .insert rfl ?_ ?_⟩
    · rintro - _ _ ⟨⟩
      rfl
    · intro detached same
      cases absent.symm.trans same

theorem asyncGetId_upkeep (process : Process) (event : Event) (session : SessionRef) :
    Tended scopes s (s.asyncGetId process event session) := by
  unfold asyncGetId
  split
  · exact quiet_upkeep rfl rfl
  split
  · exact quiet_upkeep rfl rfl
  case h_2 stored => exact s.issueDetached_upkeep stored process session _

theorem asyncJoin_upkeep (process : Process) (event : Event) (session : SessionRef) :
    Tended scopes s (s.asyncJoin process event session) := by
  unfold asyncJoin
  split
  · exact quiet_upkeep rfl rfl
  dsimp only
  split
  case h_1 detached stored =>
    split
    · exact quiet_upkeep rfl rfl
    case isFalse clear =>
      refine ⟨Growth.upkeep ⟨.of_eq rfl, rfl, Nat.le_refl _,
        Nat.add_le_add_left (size_insert_of_present stored _).le _⟩, .insert rfl ?_ ?_⟩
      · rintro - _ _ ⟨⟩
        rfl
      · intro other same collided
        cases stored.symm.trans same
        exact absurd collided clear
  · exact quiet_upkeep rfl rfl

/-! ## Inherited holdings -/

theorem inheritOperation_upkeep (child : Process) (session : SessionRef)
    (operation : UInt16 × Binding) :
    Tended scopes s (s.inheritOperation child session operation) := by
  unfold inheritOperation
  split
  · exact s.bindOperation_upkeep _ _
  · exact s.markAmbiguous_upkeep child session

theorem inheritFind_upkeep (parent child : Process) (session : SessionRef) :
    Tended scopes s (s.inheritFind parent child session) := by
  unfold inheritFind
  split
  · exact s.findInit_upkeep child session
  · exact .refl s

end State

end P11Scope.Semantics
