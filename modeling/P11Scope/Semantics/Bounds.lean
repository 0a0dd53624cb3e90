import P11Scope.Lib.TreeSet
import P11Scope.Semantics.Actions

/-!
# Bounded semantic state

The admitted keys pay for every retained key.  Each step keeps that relation,
the limit and the bound on stored calls; so does every operation, whatever the
events, forks and plans are.
-/

variable {forgotten : Option Process}

namespace P11Scope.Semantics

open Std Lib Lib.TreeMap

namespace State

/-- Everything the capture retains under a key that events choose. -/
def retainedDynamicKeys (s : State) : Nat :=
  s.reducedHistories.size + s.nextPseudonym.size + s.openSessions.size + s.activeOps.size +
    s.findActive.size + s.inheritedAmbiguous.size + s.mechanisms.size +
    sumBy (fun _ stat => stat.paramCombos.size) s.mechanisms + s.templates.size +
    sumBy (fun _ stat => stat.attrTypes.size) s.templates + s.logins.size + s.cgroups.size +
    sumBy (fun _ cell => cell.mechanisms.size) s.cgroups

theorem retainedDynamicKeys_eq (s : State) :
    s.retainedDynamicKeys =
      s.reducedHistories.size + s.nextPseudonym.size + s.openSessions.size + s.restKeys := by
  unfold retainedDynamicKeys restKeys statisticKeys
  omega

end State

/-- The keys are paid for, within the limit, and stored calls are bounded. -/
structure Held (limit : Nat) (s : State) : Prop where
  limited : s.stateKeyLimit = limit
  paid : s.retainedDynamicKeys ≤ s.stateKeys
  bounded : s.stateKeys ≤ limit
  async : s.asyncRecords ≤ maxPending

namespace Held

variable {limit : Nat} {s t : State}

/-- A change that charges what it retains stays within the limit. -/
theorem grow (held : Held limit s) (newKeys : Nat)
    (limited : t.stateKeyLimit = s.stateKeyLimit) (charged : t.stateKeys = s.stateKeys + newKeys)
    (fits : newKeys = 0 ∨ s.stateKeys + newKeys ≤ s.stateKeyLimit)
    (retained : t.retainedDynamicKeys ≤ s.retainedDynamicKeys + newKeys)
    (async : t.asyncRecords = s.asyncRecords) : Held limit t := by
  obtain ⟨sameLimit, paid, bounded, records⟩ := held
  refine ⟨limited.trans sameLimit, ?_, ?_, async.le.trans records⟩
  · omega
  · rcases fits with nothing | fits
    · omega
    · omega

theorem shrink (held : Held limit s) (limited : t.stateKeyLimit = s.stateKeyLimit)
    (charged : t.stateKeys = s.stateKeys)
    (retained : t.retainedDynamicKeys ≤ s.retainedDynamicKeys)
    (async : t.asyncRecords = s.asyncRecords) : Held limit t :=
  held.grow 0 limited charged (.inl rfl) retained async

theorem upkeep (held : Held limit s) (kept : Upkeep s t) : Held limit t := by
  obtain ⟨limited, paid, bounded, async⟩ := held
  obtain ⟨same, keys, within, retained, records⟩ := kept
  rw [State.retainedDynamicKeys_eq] at paid
  refine ⟨same.stateKeyLimit.trans limited, ?_, ?_, by omega⟩
  · rw [State.retainedDynamicKeys_eq, same.reducedHistories, same.nextPseudonym,
      same.openSessions]
    omega
  · omega

/-- Drawing a pseudonym retains its counter and its opening. -/
theorem retainedDynamicKeys_drawSession (process : Process) (session : SessionRef)
    (slot : UInt64) (forkSafe : Bool) :
    (s.drawSession process session slot forkSafe).retainedDynamicKeys =
      s.retainedDynamicKeys + s.inheritedKeys process session := by
  have counters := size_insert_eq s.nextPseudonym process ((s.nextPseudonym[process]?).getD 0 + 1)
  have openings := size_insert_eq s.openSessions (process, session)
    { pseudonym := (s.nextPseudonym[process]?).getD 0 + 1, slot := slot, forkSafe := forkSafe }
  rw [State.retainedDynamicKeys_eq, State.retainedDynamicKeys_eq]
  unfold State.inheritedKeys
  change s.reducedHistories.size + (s.nextPseudonym.insert _ _).size +
    (s.openSessions.insert _ _).size + s.restKeys = _
  omega

variable (held : Held limit s)
include held

theorem step (taken : Step forgotten s t) : Held limit t := by
  cases taken with
  | upkeep kept => exact held.upkeep kept
  | history process absent fits =>
    refine held.grow 1 rfl rfl (.inr fits) ?_ rfl
    have histories := TreeSet.size_insert_eq s.reducedHistories process
    rw [absent] at histories
    rw [State.retainedDynamicKeys_eq, State.retainedDynamicKeys_eq]
    change (s.reducedHistories.insert process).size + s.nextPseudonym.size +
      s.openSessions.size + s.restKeys ≤ _
    rw [histories]
    change s.reducedHistories.size + 1 + _ + _ + _ ≤ _
    omega
  | refused event => exact held.shrink rfl rfl (Nat.le_refl _) rfl
  | opened event process session slot forkSafe fits =>
    refine held.grow (s.openingKeys process) rfl rfl (.inr fits) ?_ rfl
    have drawn := retainedDynamicKeys_drawSession (s := s) process session slot forkSafe
    have single := Bool.toNat_le (!s.openSessions.contains (process, session))
    change (s.drawSession process session slot forkSafe).retainedDynamicKeys ≤ _
    unfold State.inheritedKeys at drawn
    unfold State.openingKeys
    omega
  | closed key counted =>
    have openings := ExtTreeMap.size_erase_le (t := s.openSessions) (k := key)
    have smaller : ({ s with openSessions := s.openSessions.erase key } :
        State).retainedDynamicKeys ≤ s.retainedDynamicKeys := by
      rw [State.retainedDynamicKeys_eq, State.retainedDynamicKeys_eq]
      exact Nat.add_le_add_right (Nat.add_le_add_left openings _) _
    unfold State.closeOpening
    cases s.openSessions.contains key && counted with
    | true | false => exact held.shrink rfl rfl smaller rfl
  | forget process allowed alone =>
    have counters := ExtTreeMap.size_erase_le (t := s.nextPseudonym) (k := process)
    refine held.shrink rfl rfl ?_ rfl
    rw [State.retainedDynamicKeys_eq, State.retainedDynamicKeys_eq]
    exact Nat.add_le_add_right (Nat.add_le_add_right (Nat.add_le_add_left counters _) _) _

theorem forkStep (taken : ForkStep s t) : Held limit t := by
  cases taken with
  | step taken => exact held.step taken
  | inherited child session slot forkSafe fits =>
    refine held.grow (s.inheritedKeys child session) rfl rfl fits ?_ rfl
    exact (retainedDynamicKeys_drawSession (s := s) child session slot forkSafe).le

/-- Clearing the statistics refunds nothing and retains less. -/
theorem clearStatistics (changed : Bool) :
    Held limit (s.clearStatistics.countReconciliation changed) := by
  refine held.shrink rfl rfl ?_ rfl
  rw [State.retainedDynamicKeys_eq, State.retainedDynamicKeys_eq]
  refine Nat.add_le_add_left (Nat.add_le_add_left ?_ _) _
  have cleared : s.clearStatistics.statisticKeys = 0 := by
    unfold State.statisticKeys State.clearStatistics
    simp only [ExtTreeMap.size_empty, sumBy_empty]
  exact cleared.le.trans (Nat.zero_le _)

theorem effect {clears : Bool} (effect : Effect forgotten clears s t) : Held limit t :=
  effect.invariant (Held limit) (fun taken held => held.step taken)
    (fun taken held => held.forkStep taken) (fun held => held.shrink rfl rfl (Nat.le_refl _) rfl)
    (fun changed held => held.clearStatistics changed) held

end Held

/-! ## The budget is monotone -/

theorem Step.stateKeys_le {s t : State} (taken : Step forgotten s t) :
    s.stateKeys ≤ t.stateKeys := by
  cases taken with
  | upkeep kept => exact kept.keys
  | history process absent fits => exact Nat.le_add_right _ _
  | refused event => exact Nat.le_refl _
  | opened event process session slot forkSafe fits => exact Nat.le_add_right _ _
  | closed key counted =>
    unfold State.closeOpening
    cases s.openSessions.contains key && counted with
    | true | false => exact Nat.le_refl _
  | forget process allowed alone => exact Nat.le_refl _

theorem ForkStep.stateKeys_le {s t : State} (taken : ForkStep s t) : s.stateKeys ≤ t.stateKeys := by
  cases taken with
  | step taken => exact taken.stateKeys_le
  | inherited child session slot forkSafe fits => exact Nat.le_add_right _ _

theorem Effect.stateKeys_le {clears : Bool} {s t : State} (effect : Effect forgotten clears s t) :
    s.stateKeys ≤ t.stateKeys :=
  effect.invariant (s.stateKeys ≤ State.stateKeys ·)
    (fun taken below => below.trans taken.stateKeys_le)
    (fun taken below => below.trans taken.stateKeys_le) id (fun _ => id) (Nat.le_refl _)

namespace State

/-- A capture's first state, with or without an anchored domain. -/
def initial (plan : AttachPlan) (policy : CapturePolicy) (limit : Nat) (domain : Option UInt64) :
    State :=
  { withKeyLimit plan policy limit with eventsDomain := domain }

theorem initial_held (plan : AttachPlan) (policy : CapturePolicy) (limit : Nat)
    (domain : Option UInt64) : Held limit (initial plan policy limit domain) where
  limited := rfl
  paid := by
    rw [retainedDynamicKeys_eq]
    unfold restKeys statisticKeys initial withKeyLimit
    exact Nat.le_refl _
  bounded := Nat.zero_le _
  async := by
    unfold asyncRecords initial withKeyLimit
    exact Nat.zero_le _

/-- Along any operations the retained keys stay within the admitted ones, these
within the limit and never falling, and the stored calls within their bound. -/
theorem bounded_semantic_state (plan : AttachPlan) (policy : CapturePolicy) (limit : Nat)
    (domain : Option UInt64) (earlier later : List Action) :
    let s := (initial plan policy limit domain).run earlier
    let t := s.run later
    t.retainedDynamicKeys ≤ t.stateKeys ∧ t.stateKeys ≤ limit ∧ s.stateKeys ≤ t.stateKeys ∧
      t.pending.size + t.detached.size ≤ maxPending := by
  intro s t
  have reached : Held limit s :=
    run_invariant (Held limit) (fun effect held => held.effect effect) earlier
      (initial_held plan policy limit domain)
  have held : Held limit t :=
    run_invariant (Held limit) (fun effect held => held.effect effect) later reached
  have rising : s.stateKeys ≤ t.stateKeys :=
    run_invariant (s.stateKeys ≤ State.stateKeys ·)
      (fun effect below => below.trans effect.stateKeys_le) later (Nat.le_refl _)
  exact ⟨held.paid, held.bounded, rising, held.async⟩

end State

end P11Scope.Semantics
