import P11Scope.Semantics.Bounds

/-!
# Issued async ids

An id that two processes were given for different calls names neither.  Its
record is marked and stays, whatever the calls of either process are, until its
scope is retired or it is evicted.
-/

namespace P11Scope.Semantics

open Std Lib Lib.TreeMap Kinds

namespace State

variable (s : State)

/-- A second process that is issued an id in use marks it. -/
theorem asyncGetId_marks {process : Process} {event : Event} {session : SessionRef}
    {info : SessionInfo} {pending : Pending} {existing : Detached}
    (opening : s.openSessions[(process, session)]? = some info)
    (stored : s.pending[(process, session, event.targetFunction)]? = some pending)
    (issued : s.detached[detachedKey process session info.slot event]? = some existing)
    (foreign : existing.process ≠ process) :
    (s.asyncGetId process event session).detached[detachedKey process session info.slot event]? =
      some { existing with collided := true } := by
  simp only [asyncGetId, opening, stored, issueDetached, issued]
  rw [if_pos foreign]
  exact ExtTreeMap.getElem?_insert_self

/-! ## Retired scopes -/

variable (process : Process) (moduleId : Option ModuleId)

/-- A sweep leaves at most open sessions of the scope. -/
theorem hasScopeState_sweepScope : (s.sweepScope process moduleId).hasScopeState process moduleId =
    s.openSessions.keys.any fun key => inScope process moduleId key.1 key.2 := by
  unfold hasScopeState sweepScope
  grind [ExtTreeSet.mem_toList]

/-- Nothing of a scope is left when it is cleared. -/
theorem hasScopeState_clearScope (closes : Bool) :
    (s.clearScope process moduleId closes).1.hasScopeState process moduleId = false := by
  have unread (t : State) : ((if moduleId.isNone then
      { t with nextPseudonym := t.nextPseudonym.erase process } else t) : State).hasScopeState
        process moduleId = t.hasScopeState process moduleId := by
    split <;> rfl
  unfold clearScope
  rw [unread, hasScopeState_sweepScope, List.any_eq_false]
  rintro ⟨owner, session⟩ listed inside
  obtain rfl : owner = process := by
    unfold inScope at inside
    simp at inside
    exact inside.1
  have gone := s.getElem?_dropSessions owner (s.scopeSessions owner moduleId) closes
    (by
      cases opening : s.openSessions[(owner, session)]? with
      | none => exact .inr rfl
      | some info => exact .inl (s.mem_scopeSessions opening inside))
  rw [ExtTreeMap.mem_keys, ExtTreeMap.mem_iff_isSome_getElem?, gone] at listed
  cases listed

end State

/-- One module with a call that may go on in the background. -/
def asyncPlan : AttachPlan where
  slots := ["C_OpenSession", "C_Sign", "C_AsyncGetID", "C_AsyncJoin"].zipIdx.map fun entry =>
    { index := entry.2.toUInt32, descriptorIndex := entry.2.toUInt32 + 1, names := [entry.1]
      aliased := false, semantics := descriptorOrCountOnly entry.1, forkSafe := true
      moduleIds := [⟨0⟩] }
  aggregateOwners := List.replicate 4 (.sole ⟨0⟩)

/-- One process is issued an id for its call, another joins it and is then
issued the same id for a call of its own. -/
def joinedThenIssued : List Action :=
  let call (pid : UInt32) (slot : UInt32) (rv : UInt64) (tsNs : Nat) : Action :=
    .observeProcess (.fromPid pid) { session := 5, slot := slot, rv := rv, tsNs := tsNs
                                     targetFunction := (functionId "C_Sign").getD 0 }
  [call 7 0 CkRv.ok 0, call 7 1 CkRv.pending 10, call 7 2 CkRv.ok 0, call 8 0 CkRv.ok 0,
    call 8 3 CkRv.ok 0, call 8 1 CkRv.pending 20, call 8 2 CkRv.ok 0]

namespace State

/-- The process of an issued id, the time of its call and its mark. -/
def issued (s : State) (key : DetachedKey) : Option (UInt32 × Nat × Bool) :=
  (s.detached[key]?).map fun detached =>
    (detached.process.pid, detached.pending.event.tsNs, detached.collided)

end State

end P11Scope.Semantics
