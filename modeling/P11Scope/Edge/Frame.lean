import P11Scope.Edge.Reducer

/-!
# What ending machines leaves alone

Ending machines touches the live machines, the outcome counters, the leases and
the effect stream, and nothing else.
-/

namespace P11Scope.Edge

open Std

/-- Agreement outside the machines, their outcomes, their leases and effects. -/
structure MachinesOnly (before after : World) : Prop where
  openBindings : after.openBindings = before.openBindings
  mechs : after.mechs = before.mechs
  pending : after.pending = before.pending
  detached : after.detached = before.detached
  machineSeq : after.machineSeq = before.machineSeq
  idExhaustions : after.idExhaustions = before.idExhaustions
  started : after.started = before.started
  orphans : after.orphans = before.orphans
  dropped : after.dropped = before.dropped

namespace MachinesOnly

theorem refl (w : World) : MachinesOnly w w :=
  ⟨rfl, rfl, rfl, rfl, rfl, rfl, rfl, rfl, rfl⟩

theorem trans {before middle after : World} (first : MachinesOnly before middle)
    (second : MachinesOnly middle after) : MachinesOnly before after where
  openBindings := second.openBindings.trans first.openBindings
  mechs := second.mechs.trans first.mechs
  pending := second.pending.trans first.pending
  detached := second.detached.trans first.detached
  machineSeq := second.machineSeq.trans first.machineSeq
  idExhaustions := second.idExhaustions.trans first.idExhaustions
  started := second.started.trans first.started
  orphans := second.orphans.trans first.orphans
  dropped := second.dropped.trans first.dropped

theorem foldl {Item : Type} {advance : World → Item → World}
    (each : ∀ w item, MachinesOnly w (advance w item)) (items : List Item) (w : World) :
    MachinesOnly w (items.foldl advance w) := by
  induction items generalizing w with
  | nil => exact .refl w
  | cons item rest ih => exact (each w item).trans (ih _)

end MachinesOnly

namespace World

variable (w : World) (session : UInt64)

theorem endMachine_frame (bit : UInt16) (category : String) (ended : EndState)
    (origin : EffectOrigin) :
    MachinesOnly w (w.endMachine session bit category ended origin).1 := by
  unfold endMachine
  split
  · cases ended <;> exact ⟨rfl, rfl, rfl, rfl, rfl, rfl, rfl, rfl, rfl⟩
  · exact .refl w

theorem endMachines_frame (keys : List (UInt64 × UInt16)) (ended : EndState)
    (origin : EffectOrigin) : MachinesOnly w (w.endMachines keys ended origin) := by
  refine MachinesOnly.foldl ?_ keys w
  intro w key
  exact w.endMachine_frame key.1 key.2 _ ended origin

theorem endSessionMachines_frame (ended : EndState) (origin : EffectOrigin) :
    MachinesOnly w (w.endSessionMachines session ended origin).1 :=
  w.endMachines_frame _ ended origin

/-! ## Open bindings after retirement -/

theorem removeOpen_openBindings :
    (w.removeOpen session).1.openBindings = w.openBindings.erase session := by
  unfold removeOpen
  split
  · rfl
  rename_i absent
  refine ExtTreeMap.ext_getElem? fun other => ?_
  rw [ExtTreeMap.getElem?_erase]
  split
  case isTrue same =>
    rw [LawfulEqOrd.compare_eq_iff_eq] at same
    subst same
    exact ExtTreeMap.getElem?_eq_none (mt ExtTreeMap.contains_iff_mem.mpr absent)
  case isFalse => rfl

theorem retireSession_openBindings (ended : EndState) (origin : EffectOrigin) :
    (w.retireSession session ended origin).1.openBindings = w.openBindings.erase session := by
  change ((w.removeOpen session).1.endSessionMachines session ended origin).1.openBindings = _
  rw [(endSessionMachines_frame _ session ended origin).openBindings, removeOpen_openBindings]

end World

end P11Scope.Edge
