import P11Scope.Semantics.Bounds

/-!
# Session bookkeeping

Openings and inheritances pay for what is closed and what is still open.  A plan
change that purges a module clears the counters but keeps the other modules'
sessions, so the law carries the sessions that were open at the last purge.
-/

variable {forgotten : Option Process}

namespace P11Scope.Semantics

open Std Lib Lib.TreeMap Kinds ExtTreeMap

/-- The law of the session counters, with `carried` sessions already open when
they last started from zero. -/
def Balanced (carried : Nat) (s : State) : Prop :=
  s.sessions.opened < u64Max → s.sessions.inherited < u64Max →
    s.sessions.closed + s.openSessions.size ≤
      s.sessions.opened + s.sessions.inherited + carried

/-- The peak covers what is open, up to the carried sessions. -/
def Peaked (carried : Nat) (s : State) : Prop :=
  s.openSessions.size ≤ max s.sessions.peakConcurrent carried

namespace Balanced

variable {carried : Nat} {s t : State}

section

variable (balanced : Balanced carried s)
include balanced

theorem congr (openings : t.openSessions = s.openSessions) (sessions : t.sessions = s.sessions) :
    Balanced carried t := by
  unfold Balanced
  rw [openings, sessions]
  exact balanced

/-- The law does not read the peak. -/
theorem updatePeak : Balanced carried s.updatePeak := balanced

theorem refused (event : Event) : Balanced carried (s.countOpened event) := by
  intro opened inherited
  change satAdd s.sessions.opened 1 < u64Max at opened
  change _ ≤ satAdd s.sessions.opened 1 + s.sessions.inherited + carried
  have exactly := satAdd_eq_of_lt opened
  have law := balanced (by omega) inherited
  change s.sessions.closed + s.openSessions.size ≤ _
  omega

/-- One more opening is paid for by the counter that rises with it. -/
theorem opened (event : Event) (rises : t.openSessions.size ≤ s.openSessions.size + 1)
    (opened : t.sessions.opened = (s.countOpened event).sessions.opened)
    (inherited : t.sessions.inherited = s.sessions.inherited)
    (closed : t.sessions.closed = s.sessions.closed) : Balanced carried t := by
  intro unsaturated few
  rw [opened] at unsaturated ⊢
  rw [inherited] at few ⊢
  change satAdd s.sessions.opened 1 < u64Max at unsaturated
  have exactly := satAdd_eq_of_lt unsaturated
  have law := balanced (by omega) few
  change _ ≤ satAdd s.sessions.opened 1 + _ + _
  omega

theorem inherited (rises : t.openSessions.size ≤ s.openSessions.size + 1)
    (opened : t.sessions.opened = s.sessions.opened)
    (inherited : t.sessions.inherited = satAdd s.sessions.inherited 1)
    (closed : t.sessions.closed = s.sessions.closed) : Balanced carried t := by
  intro few unsaturated
  rw [opened] at few ⊢
  rw [inherited] at unsaturated ⊢
  have exactly := satAdd_eq_of_lt unsaturated
  have law := balanced few (by omega)
  omega

theorem closeOpening (key : Process × SessionRef) (counted : Bool) :
    Balanced carried (s.closeOpening key counted) := by
  have smaller := size_erase_le (t := s.openSessions) (k := key)
  unfold State.closeOpening
  cases present : s.openSessions.contains key && counted with
  | false =>
    intro opened inherited
    exact (Nat.add_le_add_left smaller _).trans (balanced opened inherited)
  | true =>
    rw [Bool.and_eq_true, contains_eq_isSome_getElem?, Option.isSome_iff_exists] at present
    obtain ⟨⟨info, stored⟩, _⟩ := present
    have removed := size_erase_of_present stored
    have counts := satAdd_le_add s.sessions.closed 1
    intro opened inherited
    have law := balanced opened inherited
    change satAdd s.sessions.closed 1 + (s.openSessions.erase key).size ≤
      s.sessions.opened + s.sessions.inherited + carried
    omega

theorem step (taken : Step forgotten s t) : Balanced carried t := by
  cases taken with
  | upkeep kept => exact balanced.congr kept.same.openSessions kept.same.sessions
  | history process absent fits => exact balanced.congr rfl rfl
  | refused event => exact balanced.refused event
  | opened event process session slot forkSafe fits =>
    exact balanced.opened event size_insert_le rfl rfl rfl
  | closed key counted => exact balanced.closeOpening key counted
  | forget process allowed alone => exact balanced.congr rfl rfl

theorem forkStep (taken : ForkStep s t) : Balanced carried t := by
  cases taken with
  | step taken => exact balanced.step taken
  | inherited child session slot forkSafe fits =>
    exact balanced.inherited size_insert_le rfl rfl rfl

end

end Balanced

namespace Peaked

variable {carried : Nat} {s t : State}

theorem congr (peaked : Peaked carried s) (openings : t.openSessions.size ≤ s.openSessions.size)
    (peak : t.sessions.peakConcurrent = s.sessions.peakConcurrent) : Peaked carried t := by
  unfold Peaked
  rw [peak]
  exact openings.trans peaked

/-- The peak is brought up to date whatever happened before. -/
theorem updatePeak (s : State) : Peaked carried s.updatePeak := by
  change s.openSessions.size ≤ max (max s.sessions.peakConcurrent s.openSessions.size) carried
  omega

theorem step (peaked : Peaked carried s) (taken : Step forgotten s t) : Peaked carried t := by
  cases taken with
  | upkeep kept =>
    refine peaked.congr ?_ ?_
    · rw [kept.same.openSessions]
    · rw [kept.same.sessions]
  | history | refused => exact peaked.congr (Nat.le_refl _) rfl
  | opened event process session slot forkSafe fits => exact updatePeak _
  | closed key counted =>
    have smaller := size_erase_le (t := s.openSessions) (k := key)
    unfold State.closeOpening
    cases s.openSessions.contains key && counted with
    | true | false => exact peaked.congr smaller rfl
  | forget process allowed alone => exact peaked.congr (Nat.le_refl _) rfl

end Peaked

/-- An operation keeps the law; one that clears the counters carries what it
leaves open. -/
theorem Effect.bookkeeping {clears : Bool} {s t : State} (effect : Effect forgotten clears s t)
    {carried : Nat} (balanced : Balanced carried s) (peaked : Peaked carried s) :
    Balanced (if clears then t.openSessions.size else carried) t ∧
      Peaked (if clears then t.openSessions.size else carried) t := by
  cases effect with
  | steps run =>
    have law := runs_invariant (Balanced carried) (fun taken law => law.step taken) run balanced
    have peak := runs_invariant (Peaked carried) (fun taken peak => peak.step taken) run peaked
    exact ⟨law, peak⟩
  | fork run =>
    -- The copies outrun the peak, which the end of the fork brings up to date.
    have law := runs_invariant (Balanced carried) (fun taken law => law.forkStep taken) run balanced
    exact ⟨law.updatePeak, Peaked.updatePeak _⟩
  | purge run changed =>
    refine ⟨fun _ _ => ?_, Nat.le_max_right _ _⟩
    exact Nat.le_refl (0 + _)

namespace State

/-- The sessions that stayed open when the counters were last cleared. -/
def carriedOver (s : State) (carried : Nat) : List Action → Nat
  | [] => carried
  | action :: rest =>
    (s.act action).carriedOver
      (if s.clears action then (s.act action).openSessions.size else carried) rest

/-- The law along any operations. -/
theorem run_bookkeeping {s : State} {carried : Nat} (balanced : Balanced carried s)
    (peaked : Peaked carried s) (actions : List Action) :
    Balanced (s.carriedOver carried actions) (s.run actions) ∧
      Peaked (s.carriedOver carried actions) (s.run actions) := by
  induction actions generalizing s carried with
  | nil => exact ⟨balanced, peaked⟩
  | cons action rest ih =>
    obtain ⟨law, peak⟩ := (s.act_effect action).bookkeeping balanced peaked
    exact ih law peak

/-- What is closed or open was opened, inherited or carried over the last purge,
and the peak covers what is open unless it was carried. -/
theorem session_bookkeeping (plan : AttachPlan) (policy : CapturePolicy) (limit : Nat)
    (domain : Option UInt64) (actions : List Action) :
    let start := initial plan policy limit domain
    let s := start.run actions
    let carried := start.carriedOver 0 actions
    s.sessions.opened < u64Max → s.sessions.inherited < u64Max →
      s.sessions.closed + s.openSessions.size ≤
          s.sessions.opened + s.sessions.inherited + carried ∧
        s.openSessions.size ≤ max s.sessions.peakConcurrent carried := by
  intro start s carried opened inherited
  have fresh : start.openSessions.size = 0 := size_empty
  have balanced : Balanced 0 start := fun _ _ => fresh.le
  have peaked : Peaked 0 start := fresh.le.trans (Nat.zero_le _)
  obtain ⟨law, peak⟩ := run_bookkeeping balanced peaked actions
  exact ⟨law opened inherited, peak⟩

end State

/-- Two modules: the first opens sessions, the second closes them. -/
def twoModulePlan (closes : SlotSemantics) : AttachPlan where
  slots :=
    [{ index := 0, descriptorIndex := 1, names := ["C_OpenSession"], aliased := false
       semantics := descriptorOrCountOnly "C_OpenSession", forkSafe := true
       moduleIds := [⟨0⟩] },
     { index := 1, descriptorIndex := 2, names := ["C_CloseSession"], aliased := false
       semantics := closes, forkSafe := true, moduleIds := [⟨1⟩] }]
  aggregateOwners := [.sole ⟨0⟩, .sole ⟨1⟩]

/-- A session opened on the first module, then a plan that changes the second. -/
def openThenReplan : List Action :=
  [.observeProcess (.fromPid 7) { session := 5, slot := 0 }, .syncPlan (twoModulePlan .countOnly)]

namespace State

theorem session_bookkeeping_openThenReplan :
    let start := initial (twoModulePlan (descriptorOrCountOnly "C_CloseSession")) .allowlisted
      maxStateKeys none
    let s := start.run openThenReplan
    (s.openSessions.size = 1 ∧ start.carriedOver 0 openThenReplan = 1) ∧
      s.sessions.closed + s.openSessions.size ≤
          s.sessions.opened + s.sessions.inherited + start.carriedOver 0 openThenReplan ∧
        s.openSessions.size ≤ max s.sessions.peakConcurrent (start.carriedOver 0 openThenReplan) :=
  ⟨by decide +kernel, session_bookkeeping _ _ _ _ openThenReplan (by decide +kernel)
    (by decide +kernel)⟩

/-- The purge forgets the opening of a session that stays open. -/
theorem purge_unbalances_sessions :
    let s := (initial (twoModulePlan (descriptorOrCountOnly "C_CloseSession")) .allowlisted
      maxStateKeys none).run openThenReplan
    s.sessions.opened < u64Max ∧ s.sessions.inherited < u64Max ∧ s.sessions.closed < u64Max ∧
      s.sessions.opened + s.sessions.inherited < s.sessions.closed + s.openSessions.size ∧
      s.sessions.peakConcurrent < s.openSessions.size := by
  decide +kernel

end State

end P11Scope.Semantics
