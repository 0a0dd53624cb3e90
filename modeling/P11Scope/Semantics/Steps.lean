import P11Scope.Lib.Budget
import P11Scope.Semantics.Holdings

/-!
# What a transition can do to sessions and keys

Every public operation is a run of a few atomic steps.  Besides upkeep a step
admits a history, counts, opens or closes a session, or forgets the pseudonym
counter of a process that has no session left.
-/

namespace P11Scope.Semantics

open Std Lib Lib.TreeMap Kinds Relation

namespace State

/-- Charge keys to the budget. -/
def charge (s : State) (newKeys : Nat) : State :=
  { s with stateKeys := s.stateKeys + newKeys }

/-- Keys a new opening of a process needs. -/
def openingKeys (s : State) (process : Process) : Nat :=
  1 + (!s.nextPseudonym.contains process).toNat

/-- Keys an inherited opening needs; it may replace one of the child's own. -/
def inheritedKeys (s : State) (child : Process) (session : SessionRef) : Nat :=
  (!s.nextPseudonym.contains child).toNat + (!s.openSessions.contains (child, session)).toNat

/-- Remove an opening, counting it as closed when asked to. -/
def closeOpening (s : State) (key : Process × SessionRef) (counted : Bool) : State :=
  ({ s with openSessions := s.openSessions.erase key } : State).countClosed
    (s.openSessions.contains key && counted)

def countInherited (s : State) : State :=
  { s with sessions := { s.sessions with inherited := satAdd s.sessions.inherited 1 } }

end State

/-- One atomic step.  Only the pseudonym counter of `forgotten` may go. -/
inductive Step (forgotten : Option Process) : State → State → Prop
  | upkeep {s t : State} (kept : Upkeep s t) : Step forgotten s t
  | history {s : State} (process : Process)
      (absent : s.reducedHistories.contains process = false)
      (fits : s.stateKeys + 1 ≤ s.stateKeyLimit) :
      Step forgotten s
        { s.charge 1 with reducedHistories := s.reducedHistories.insert process }
  | refused {s : State} (event : Event) : Step forgotten s (s.countOpened event)
  | opened {s : State} (event : Event) (process : Process) (session : SessionRef)
      (slot : UInt64) (forkSafe : Bool)
      (fits : s.stateKeys + s.openingKeys process ≤ s.stateKeyLimit) :
      Step forgotten s
        ((((s.countOpened event).charge (s.openingKeys process)).drawSession process session
          slot forkSafe).updatePeak)
  | closed {s : State} (key : Process × SessionRef) (counted : Bool) :
      Step forgotten s (s.closeOpening key counted)
  | forget {s : State} (process : Process) (allowed : forgotten = some process)
      (alone : ∀ session : SessionRef, s.openSessions[(process, session)]? = none) :
      Step forgotten s { s with nextPseudonym := s.nextPseudonym.erase process }

/-- A step of a fork, which may also copy a session of the parent. -/
inductive ForkStep : State → State → Prop
  | step {s t : State} (step : Step none s t) : ForkStep s t
  | inherited {s : State} (child : Process) (session : SessionRef) (slot : UInt64)
      (forkSafe : Bool)
      (fits : s.inheritedKeys child session = 0 ∨
        s.stateKeys + s.inheritedKeys child session ≤ s.stateKeyLimit) :
      ForkStep s
        ((s.charge (s.inheritedKeys child session)).drawSession child session slot
          forkSafe).countInherited

/-- What one public operation amounts to, and whether it clears the statistics. -/
inductive Effect (forgotten : Option Process) : Bool → State → State → Prop
  | steps {s t : State} (run : ReflTransGen (Step forgotten) s t) : Effect forgotten false s t
  | fork {s t : State} (run : ReflTransGen ForkStep s t) : Effect forgotten false s t.updatePeak
  | purge {s t : State} (run : ReflTransGen (Step none) s t) (changed : Bool) :
      Effect forgotten true s (t.clearStatistics.countReconciliation changed)

/-- Runs whose steps spare the marked ids of other scopes. -/
abbrev Tracked (relation : State → State → Prop) (scopes : Process → ModuleId → Prop) :
    State → State → Prop :=
  ReflTransGen fun s t => relation s t ∧ Spares scopes s t

variable {relation : State → State → Prop} {scopes : Process → ModuleId → Prop} {s t : State}
  {forgotten : Option Process}

theorem Tracked.runs (run : Tracked relation scopes s t) : ReflTransGen relation s t :=
  run.lift id fun _ _ taken => taken.1

theorem Tracked.spares (run : Tracked relation scopes s t) : Spares scopes s t := by
  induction run with
  | refl => exact .of_eq rfl
  | tail _ taken ih => exact ih.trans taken.2

theorem Tended.steps (kept : Tended scopes s t) : Tracked (Step forgotten) scopes s t :=
  .single ⟨.upkeep kept.upkeep, kept.spares⟩

namespace State

variable (s : State)

/-! ## Closing -/

variable (process : Process) (session : SessionRef)

/-- The closed counter is no business of what the session holds. -/
theorem countClosed_clearSessionState (counted : Bool) :
    (s.clearSessionState process session).1.countClosed counted =
      ((s.countClosed counted).clearSessionState process session).1 := by
  cases counted <;> rfl

theorem detached_countClosed (existed : Bool) : (s.countClosed existed).detached = s.detached := by
  cases existed <;> rfl

theorem dropSession_steps (counted : Bool) : Tracked (Step forgotten) scopes s
      ((s.dropSession process session).1.countClosed
        ((s.dropSession process session).2 && counted)) := by
  have closed : Tracked (Step forgotten) scopes s (s.closeOpening (process, session) counted) :=
    .single ⟨.closed _ _, .of_eq (detached_countClosed _ _)⟩
  unfold dropSession
  rw [countClosed_clearSessionState]
  exact closed.trans (clearSessionState_upkeep _ process session).steps

theorem retireSession_steps :
    Tracked (Step forgotten) scopes s (s.retireSession process session).1 := by
  have dropped : Tracked (Step forgotten) scopes s _ := s.dropSession_steps process session true
  rw [Bool.and_true] at dropped
  exact dropped

/-- What is absent stays absent, and the listed sessions go. -/
theorem getElem?_dropSessions (sessions : List SessionRef) (closes : Bool) {session : SessionRef}
    (gone : session ∈ sessions ∨ s.openSessions[(process, session)]? = none) : (sessions.foldl
      (fun s session =>
        let (s, existed) := s.dropSession process session
        s.countClosed (existed && closes)) s).openSessions[(process, session)]? = none := by
  induction sessions generalizing s with
  | nil => exact gone.resolve_left List.not_mem_nil
  | cons head rest ih =>
    refine ih _ ?_
    have openings (counted : Bool) : ((s.dropSession process head).1.countClosed
        counted).openSessions = s.openSessions.erase (process, head) := by
      cases counted <;> rfl
    rcases gone with member | absent
    · rcases List.mem_cons.mp member with here | later
      · subst here
        exact .inr (by rw [openings, ExtTreeMap.getElem?_erase_self])
      · exact .inl later
    · refine .inr ?_
      rw [openings, ExtTreeMap.getElem?_erase, absent]
      exact ite_self _

theorem mem_scopeSessions {process : Process} {session : SessionRef} {info : SessionInfo}
    (opening : s.openSessions[(process, session)]? = some info) {moduleId : Option ModuleId}
    (inside : inScope process moduleId process session = true) :
    session ∈ s.scopeSessions process moduleId := by
  have key : (process, session) ∈ s.openSessions.keys := by
    rw [ExtTreeMap.mem_keys, ExtTreeMap.mem_iff_isSome_getElem?, opening]
    rfl
  exact List.mem_map.mpr ⟨(process, session), List.mem_filter.mpr ⟨key, inside⟩, rfl⟩

/-- Clearing a scope; without a module the process's counter is forgotten. -/
theorem clearScope_steps (moduleId : Option ModuleId) (closes : Bool)
    (allowed : moduleId = none → forgotten = some process)
    (retired : ∀ id, moduleId.all (id = ·) → scopes process id) :
    Tracked (Step forgotten) scopes s (s.clearScope process moduleId closes).1 := by
  have dropped : Tracked (Step forgotten) scopes s _ :=
    runs_foldl id (fun session (_ : session ∈ s.scopeSessions process moduleId) t =>
      t.dropSession_steps process session closes) s
  have swept := dropped.trans (sweepScope_upkeep _ process retired).steps
  unfold clearScope
  cases moduleId with
  | some id => exact swept
  | none =>
    refine swept.tail ⟨.forget process (allowed rfl) fun session => ?_, .of_eq rfl⟩
    -- Every session of the process is in the scope, so none is left.
    refine s.getElem?_dropSessions process _ closes ?_
    cases opening : s.openSessions[(process, session)]? with
    | none => exact .inr rfl
    | some info => exact .inl (s.mem_scopeSessions opening (by simp [inScope]))

/-! ## Histories and openings -/

theorem recordHistory_steps : Tracked (Step forgotten) scopes s (s.recordHistory process) := by
  unfold recordHistory
  split
  · exact .refl
  rename_i absent
  rw [Bool.not_eq_true] at absent
  rcases s.admitKeys_cases 1 with ⟨granted, fits⟩ | ⟨refused, _⟩
  · rw [granted]
    exact .single ⟨.history process absent (fits.resolve_left Nat.one_ne_zero), .of_eq rfl⟩
  · rw [refused]
    exact s.refuseKeys_upkeep.steps

variable (event : Event)

/-- An opening is counted whether or not its keys are admitted. -/
theorem countedOpening_steps (process : Process) (session : SessionRef) (forkSafe : Bool) :
    Tracked (Step forgotten) scopes s
      (whenAdmitted ((s.countOpened event).admitKeys (s.openingKeys process)) fun t =>
        (t.drawSession process session event.slotId forkSafe).updatePeak) := by
  rcases (s.countOpened event).admitKeys_cases (s.openingKeys process) with
    ⟨granted, fits⟩ | ⟨refused, _⟩
  · rw [granted]
    refine .single ⟨.opened event process session event.slotId forkSafe ?_, .of_eq rfl⟩
    exact fits.resolve_left (by unfold openingKeys; omega)
  · rw [refused]
    exact .trans (.single ⟨.refused event, .of_eq rfl⟩) (refuseKeys_upkeep _).steps

theorem countReconciliation_upkeep (changed : Bool) :
    Tended scopes s (s.countReconciliation changed) :=
  quiet_upkeep rfl rfl

theorem openSession_steps (slot : SlotMeta) :
    Tracked (Step forgotten) scopes s (s.openSession process event slot) := by
  have retired : Tracked (Step forgotten) scopes s _ :=
    s.retireSession_steps process (slot.session event.session)
  unfold openSession
  dsimp only
  split
  · exact (retired.trans (countReconciliation_upkeep _ true).steps).trans
      (countedOpening_steps _ event process _ slot.forkSafe)
  · exact retired.trans (countedOpening_steps _ event process _ slot.forkSafe)

theorem closeSession_steps :
    Tracked (Step forgotten) scopes s (s.closeSession process session) := by
  have unmatched (t : State) (existed : Bool) :
      Tended scopes t (t.countUnmatchedClose existed) := by
    cases existed with
    | true => exact .refl t
    | false => exact quiet_upkeep rfl rfl
  exact (s.retireSession_steps process session).trans (unmatched _ _).steps

theorem closeAllSessions_steps (slot : SlotMeta) :
    Tracked (Step forgotten) scopes s (s.closeAllSessions process event slot) := by
  exact runs_foldl id (fun session _ t => t.retireSession_steps process session) s

end State

end P11Scope.Semantics
