import P11Scope.Edge.Steps

/-!
# Reducer functions as runs of steps

One lemma per reducer function: its result is reached by steps within the
stated budget.  Functions that never split the reservation are within zero.
-/

namespace P11Scope.Edge

open Std Lib Lib.TreeMap Kinds

namespace World

variable (w : World)

theorem quiet_within {w next : World} (same : next.core = w.core) : Within Step w 0 next :=
  .single (.quiet (.of_eq same))

/-! ## Ending machines -/

variable (session : UInt64)

theorem endMachine_within (bit : UInt16) (ended : EndState) (origin : EffectOrigin) :
    Within Step w 0 (w.endMachine session bit (categoryName bit) ended origin).1 := by
  unfold endMachine
  cases live : w.active[(session, bit)]? with
  | none => exact .refl _ _
  | some machine => exact .single (.finish live ended origin)

theorem endMachines_within (keys : List (UInt64 × UInt16)) (ended : EndState)
    (origin : EffectOrigin) : Within Step w 0 (w.endMachines keys ended origin) :=
  Within.foldl_free id (fun key _ w => w.endMachine_within key.1 key.2 ended origin) w

variable (ended : EndState) (origin : EffectOrigin)

theorem endSessionMachines_within : Within Step w 0 (w.endSessionMachines session ended origin).1 :=
  w.endMachines_within _ ended origin

/-- Popping a duplicate-free list of live entries ends each of them while it is
still live. -/
theorem finishEntries_within (entries : List ((UInt64 × UInt16) × OpMachine))
    (distinct : (entries.map Prod.fst).Nodup) (w : World)
    (live : ∀ entry ∈ entries, w.active[entry.1]? = some entry.2) :
    Within Step w 0 (entries.foldl
      (fun w entry => w.finishMachine entry.1 entry.2 (categoryName entry.1.2) ended origin)
      w) := by
  induction entries generalizing w with
  | nil => exact .refl _ _
  | cons entry rest ih =>
    rw [List.map_cons, List.nodup_cons] at distinct
    have first := live entry List.mem_cons_self
    refine (Within.single (.finish first ended origin)).trans_free (ih distinct.2 _ ?_)
    intro other member
    have apart : entry.1 ≠ other.1 := fun same =>
      distinct.1 (same ▸ List.mem_map_of_mem member)
    have kept : (w.active.erase entry.1)[other.1]? = w.active[other.1]? := by
      simp [ExtTreeMap.getElem?_erase, apart]
    cases ended <;> exact kept.trans (live other (List.mem_cons_of_mem _ member))

theorem endSessionMachinesAll_within :
    Within Step w 0 (w.endSessionMachinesAll ended origin).1 := by
  refine finishEntries_within ended origin _ ?_ w ?_
  · rw [ExtTreeMap.map_fst_toList_eq_keys]
    exact ExtTreeMap.nodup_keys
  · intro entry member
    exact ExtTreeMap.mem_toList_iff_getElem?_eq_some.mp member

theorem categoryName_of_mem_operationBits {mask : UInt16} {entry : UInt16 × String}
    (selected : entry ∈ operationBits mask) : categoryName entry.1 = entry.2 := by
  have known : ∀ entry ∈ operations, categoryName entry.1 = entry.2 := by decide
  exact known entry (List.mem_of_mem_filter selected)

theorem endBits_within (mask : UInt16) (ended : EndState) (origin : EffectOrigin) :
    Within Step w 0 (w.endBits session (operationBits mask) ended origin).1 := by
  refine Within.foldl_free Prod.fst ?_ (w, false)
  intro entry selected pair
  rw [← categoryName_of_mem_operationBits selected]
  exact pair.1.endMachine_within session entry.1 ended origin

theorem endOriginMachines_within (origin : CallOrigin) (effectOrigin : EffectOrigin) :
    Within Step w 0 (w.endOriginMachines session origin effectOrigin) := by
  refine Within.foldl_free id ?_ w
  intro entry _ w
  split
  · exact w.endMachine_within session entry.1 .unknown effectOrigin
  · exact .refl _ _

/-! ## Custody sweeps and retirement -/

theorem floatSessionAsync_within : Within Step w 0 (w.floatSessionAsync session).1 := by
  have reowned := Step.reown (w := w) fun _ id =>
    if id.owner = some session then none else id.owner
  have same : (fun (_ : UInt64 × UInt32 × UInt64) (id : AsyncId) =>
      if id.owner = some session then { id with owner := none } else id) =
      fun _ id => { id with owner := if id.owner = some session then none else id.owner } := by
    funext _ id
    split <;> rfl
  unfold floatSessionAsync
  rw [same]
  exact .single reowned

theorem clearAsyncPayloads_within : Within Step w 0 w.clearAsyncPayloads :=
  (Within.single (.retainPending w _)).trans_free (.single (.retainDetached _ _))

theorem removeOpen_within : Within Step w 0 (w.removeOpen session).1 := by
  unfold removeOpen
  split
  case isTrue bound =>
    rw [ExtTreeMap.contains_eq_isSome_getElem?, Option.isSome_iff_exists] at bound
    obtain ⟨slotId, found⟩ := bound
    exact .single (.unbindOpen found)
  case isFalse => exact .refl _ _

theorem dropSessionPending_within : Within Step w 0 (w.dropSessionPending session).1 :=
  .single (.retainPending w _)

theorem retireSession_within : Within Step w 0 (w.retireSession session ended origin).1 :=
  (((w.removeOpen_within session).trans_free
    (endSessionMachines_within _ session ended origin)).trans_free
      (dropSessionPending_within _ session)).trans_free (floatSessionAsync_within _ session)

theorem retireAll_within : Within Step w 0 (w.retireAll ended origin).1 :=
  ((Within.single (.clearOpen w)).trans_free
    (endSessionMachinesAll_within _ ended origin)).trans_free (clearAsyncPayloads_within _)

theorem invalidateWithEffects_within : Within Step w 0 w.invalidateWithEffects :=
  ((w.endSessionMachinesAll_within .unknown _).trans_free
    (clearAsyncPayloads_within _)).trans_free (.single (.clearOpen _))

/-! ## Reconciliation and lifecycle -/

theorem countReconciliation_within (changed : Bool) :
    Within Step w 0 (w.countReconciliation changed) := by
  cases changed
  · exact .refl _ _
  · exact quiet_within (by rfl)

variable (call : SemanticCall) (descriptor : SlotSemantics) (origin : EffectOrigin)

theorem reconcileConclusive_within :
    Within Step w 0 (w.reconcileConclusive call descriptor origin).1 := by
  unfold reconcileConclusive
  split
  · exact (w.endBits_within call.session _ .unknown origin).trans_free
      (countReconciliation_within _ _)
  split
  · exact (w.retireSession_within call.session .cancelled origin).trans_free
      (countReconciliation_within _ _)
  split
  · exact (w.retireAll_within .cancelled origin).trans_free (countReconciliation_within _ _)
  · exact .refl _ _

variable (origin : EffectOrigin)

theorem closeSession_within : Within Step w 0 (w.closeSession session origin).1 :=
  (((w.removeOpen_within session).trans_free
    (endSessionMachines_within _ session .cancelled origin)).trans_free
      (dropSessionPending_within _ session)).trans_free (floatSessionAsync_within _ session)

theorem closeAllSessions_within : Within Step w 0 (w.closeAllSessions call origin) :=
  (Within.foldl_free id (fun session _ w => w.closeSession_within session origin) w).trans_free
    (Within.foldl_free id (fun session _ w => w.retireSession_within session .unknown origin) _)

theorem clearSessionOperations_within :
    Within Step w 0 (w.clearSessionOperations session origin).1 :=
  ((w.endSessionMachines_within session .cancelled origin).trans_free
    (dropSessionPending_within _ session)).trans_free (floatSessionAsync_within _ session)

theorem clearOperationsOf_within (sessions : List UInt64) (origin : EffectOrigin) :
    Within Step w 0 (w.clearOperationsOf sessions origin).1 := by
  refine Within.foldl_free Prod.fst ?_ (w, false)
  intro session _ pair
  exact pair.1.clearSessionOperations_within session origin

theorem countAuthAmbiguity_within (changed : Bool) :
    Within Step w 0 (w.countAuthAmbiguity changed) := by
  cases changed
  · exact .refl _ _
  · exact quiet_within (by rfl)

theorem applyAuth_within : Within Step w 0 (w.applyAuth call origin) := by
  unfold applyAuth
  split
  · exact .refl _ _
  split
  · exact .refl _ _
  split
  · exact .refl _ _
  · exact (w.clearOperationsOf_within _ origin).trans_free (countAuthAmbiguity_within _ _)

theorem clearSelected_within (session flags : UInt64) (origin : EffectOrigin) :
    Within Step w 0 (w.clearSelected session flags origin) :=
  ((w.endMachines_within _ .cancelled origin).trans_free
    (.single (.retainPending _ _))).trans_free (.single (.retainDetached _ _))

theorem countUnknownCancelFlags_within (flags : UInt64) :
    Within Step w 0 (w.countUnknownCancelFlags flags) := by
  unfold countUnknownCancelFlags
  split
  · exact quiet_within (by rfl)
  · exact .refl _ _

theorem applySessionCancel_within : Within Step w 0 (w.applySessionCancel call origin) := by
  refine (w.countUnknownCancelFlags_within call.flags).trans_free ?_
  have cleared := fun w : World => w.clearSelected_within call.session call.flags origin
  dsimp only [applySessionCancel]
  split
  · exact (cleared _).trans_free (quiet_within (by rfl))
  split
  · exact cleared _
  · exact .refl _ _

/-- Everything a lifecycle action does except binding a new session is free. -/
theorem applyLifecycle_within (notOpen : descriptor.lifecycle ≠ .openSession) :
    Within Step w 0 (w.applyLifecycle call descriptor origin) := by
  unfold applyLifecycle
  split
  case h_1 opens => exact absurd opens notOpen
  case h_2 =>
    split
    · refine (w.closeSession_within call.session origin).trans_free ?_
      dsimp only
      split
      · exact .refl _ _
      · exact quiet_within (by rfl)
    · exact .refl _ _
  case h_3 =>
    split
    · exact w.closeAllSessions_within call origin
    · exact .refl _ _
  case h_4 =>
    split
    · exact w.retireAll_within .cancelled origin
    · exact .refl _ _
  case h_5 => exact w.applyAuth_within call origin
  case h_6 => exact w.applyAuth_within call origin
  case h_7 => exact w.applySessionCancel_within call origin
  case h_8 =>
    split
    · exact (w.endSessionMachines_within call.session .cancelled origin).trans_free
        (quiet_within (by rfl))
    · exact .refl _ _
  case h_9 => exact .refl _ _

end World

end P11Scope.Edge
