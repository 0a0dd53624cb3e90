import P11Scope.Semantics.Bookkeeping

/-!
# Pseudonyms

Every opening draws the next number of its process.  The counter outlives
handles, modules and plans and goes only with the process itself, so no number is
drawn twice while the process lasts.
-/

variable {forgotten : Option Process} {process : Process}

namespace P11Scope.Semantics

open Std Lib Lib.TreeMap ExtTreeMap

/-- The open sessions of a process carry distinct numbers its counter has passed,
each of them on record. -/
structure Named (s : State) : Prop where
  counted : ∀ {process : Process} {session : SessionRef} {info : SessionInfo},
    s.openSessions[(process, session)]? = some info →
      ∃ counter, s.nextPseudonym[process]? = some counter ∧
        1 ≤ info.pseudonym ∧ info.pseudonym ≤ counter
  distinct : ∀ {process : Process} {first second : SessionRef} {left right : SessionInfo},
    s.openSessions[(process, first)]? = some left →
      s.openSessions[(process, second)]? = some right →
        left.pseudonym = right.pseudonym → first = second
  recorded : ∀ {process : Process} {session : SessionRef} {info : SessionInfo},
    s.openSessions[(process, session)]? = some info →
      (process, session, info.pseudonym) ∈ s.drawn

namespace Named

variable {s t : State}

/-- Nothing but closing happens to sessions. -/
theorem narrow (named : Named s)
    (openings : ∀ {key : Process × SessionRef} {info : SessionInfo},
      t.openSessions[key]? = some info → s.openSessions[key]? = some info)
    (counters : t.nextPseudonym = s.nextPseudonym) (drawn : t.drawn = s.drawn) : Named t where
  counted := fun opening => counters ▸ named.counted (openings opening)
  distinct := fun left right => named.distinct (openings left) (openings right)
  recorded := fun opening => drawn ▸ named.recorded (openings opening)

theorem congr (named : Named s) (openings : t.openSessions = s.openSessions)
    (counters : t.nextPseudonym = s.nextPseudonym) (drawn : t.drawn = s.drawn) : Named t :=
  named.narrow (fun opening => openings ▸ opening) counters drawn

/-- An opening after a draw is the new one or an old one under another key. -/
theorem openSessions_drawSession {session : SessionRef} {slot : UInt64} {forkSafe : Bool}
    {key : Process × SessionRef} {info : SessionInfo}
    (opening : (s.drawSession process session slot forkSafe).openSessions[key]? = some info) :
    (key = (process, session) ∧ info.pseudonym = (s.nextPseudonym[process]?).getD 0 + 1) ∨
      (key ≠ (process, session) ∧ s.openSessions[key]? = some info) := by
  change (s.openSessions.insert (process, session) _)[key]? = some info at opening
  rw [getElem?_insert] at opening
  split at opening
  case isTrue same =>
    cases opening
    exact .inl ⟨(LawfulEqOrd.eq_of_compare same).symm, rfl⟩
  rename_i other
  refine .inr ⟨fun same => other ?_, opening⟩
  rw [same]
  exact ReflOrd.compare_self

/-- A counter after a draw covers the counter before it. -/
theorem nextPseudonym_drawSession {owner : Process} {session : SessionRef} {slot : UInt64}
    {forkSafe : Bool} {counter : Nat} (before : s.nextPseudonym[owner]? = some counter) :
    ∃ next, (s.drawSession process session slot forkSafe).nextPseudonym[owner]? = some next ∧
      counter ≤ next := by
  change ∃ next, (s.nextPseudonym.insert process _)[owner]? = some next ∧ _
  rw [getElem?_insert]
  split
  case isTrue same =>
    have owned := LawfulEqOrd.eq_of_compare same
    subst owned
    rw [before]
    exact ⟨_, rfl, Nat.le_succ _⟩
  case isFalse => exact ⟨counter, before, Nat.le_refl _⟩

section

variable (named : Named s)
include named

theorem drawSession (process : Process) (session : SessionRef) (slot : UInt64) (forkSafe : Bool) :
    Named (s.drawSession process session slot forkSafe) where
  counted := by
    intro owner other info opening
    rcases openSessions_drawSession opening with ⟨here, pseudonym⟩ | ⟨_, old⟩
    · cases here
      refine ⟨_, getElem?_insert_self, ?_, pseudonym.le⟩
      omega
    · obtain ⟨counter, before, positive, below⟩ := named.counted old
      obtain ⟨next, after, rises⟩ := nextPseudonym_drawSession before
      exact ⟨next, after, positive, below.trans rises⟩
  distinct := by
    -- A session already open stands at or below the counter, the new one above it.
    have apart {owner : Process} {first second : SessionRef} {left right : SessionInfo}
        (here : (owner, first) = (process, session))
        (pseudonym : left.pseudonym = (s.nextPseudonym[process]?).getD 0 + 1)
        (old : s.openSessions[(owner, second)]? = some right) :
        left.pseudonym ≠ right.pseudonym := by
      cases here
      obtain ⟨counter, before, _, below⟩ := named.counted old
      rw [before, Option.getD_some] at pseudonym
      omega
    intro owner first second left right leftOpen rightOpen same
    rcases openSessions_drawSession leftOpen with ⟨leftHere, leftDrawn⟩ | ⟨_, leftOld⟩
    · rcases openSessions_drawSession rightOpen with ⟨rightHere, _⟩ | ⟨_, rightOld⟩
      · exact (Prod.mk.inj (leftHere.trans rightHere.symm)).2
      · exact absurd same (apart leftHere leftDrawn rightOld)
    · rcases openSessions_drawSession rightOpen with ⟨rightHere, rightDrawn⟩ | ⟨_, rightOld⟩
      · exact absurd same.symm (apart rightHere rightDrawn leftOld)
      · exact named.distinct leftOld rightOld same
  recorded := by
    intro owner other info opening
    refine List.mem_append.mpr ?_
    rcases openSessions_drawSession opening with ⟨here, pseudonym⟩ | ⟨_, old⟩
    · cases here
      rw [pseudonym]
      exact .inr List.mem_cons_self
    · exact .inl (named.recorded old)

theorem closeOpening (key : Process × SessionRef) (counted : Bool) :
    Named (s.closeOpening key counted) := by
  have erased {other : Process × SessionRef} {info : SessionInfo}
      (opening : (s.openSessions.erase key)[other]? = some info) :
      s.openSessions[other]? = some info := by
    rw [getElem?_erase] at opening
    split at opening
    · cases opening
    · exact opening
  unfold State.closeOpening
  cases s.openSessions.contains key && counted with
  | true | false => exact named.narrow erased rfl rfl

/-- Forgetting the counter of a process without sessions names no one twice. -/
theorem forget (alone : ∀ session : SessionRef, s.openSessions[(process, session)]? = none) :
    Named { s with nextPseudonym := s.nextPseudonym.erase process } where
  counted := by
    intro owner session info opening
    obtain ⟨counter, before, bounds⟩ := named.counted opening
    refine ⟨counter, ?_, bounds⟩
    rw [getElem?_erase]
    split
    case isTrue same =>
      have owned := LawfulEqOrd.eq_of_compare same
      subst owned
      exact absurd ((alone session).symm.trans opening) nofun
    case isFalse => exact before
  distinct := named.distinct
  recorded := named.recorded

theorem step (taken : Step forgotten s t) : Named t := by
  cases taken with
  | upkeep kept =>
    exact named.congr kept.same.openSessions kept.same.nextPseudonym kept.same.drawn
  | history | refused => exact named.congr rfl rfl rfl
  | opened event process session slot forkSafe fits =>
    have counted : Named ((s.countOpened event).charge (s.openingKeys process)) :=
      named.congr rfl rfl rfl
    exact (counted.drawSession process session slot forkSafe).congr rfl rfl rfl
  | closed key counted => exact named.closeOpening key counted
  | forget process allowed alone => exact named.forget alone

theorem forkStep (taken : ForkStep s t) : Named t := by
  cases taken with
  | step taken => exact named.step taken
  | inherited child session slot forkSafe fits =>
    have charged : Named (s.charge (s.inheritedKeys child session)) := named.congr rfl rfl rfl
    exact (charged.drawSession child session slot forkSafe).congr rfl rfl rfl

theorem effect {clears : Bool} (effect : Effect forgotten clears s t) : Named t :=
  effect.invariant Named (fun taken named => named.step taken)
    (fun taken named => named.forkStep taken) (fun named => named.congr rfl rfl rfl)
    (fun _ named => named.congr rfl rfl rfl) named

end

end Named

/-! ## What a process draws while it lasts -/

/-- The numbers a list of draws gave to a process, in order. -/
def pseudonymsOf (process : Process) (draws : List (Process × SessionRef × Nat)) : List Nat :=
  (draws.filter fun draw => draw.1 = process).map fun draw => draw.2.2

/-- Since `start` the process drew rising numbers, the last at its counter. -/
def Rising (process : Process) (start s : State) : Prop :=
  ∃ fresh, s.drawn = start.drawn ++ fresh ∧
    (pseudonymsOf process fresh).Pairwise (· < ·) ∧
      ∀ number ∈ pseudonymsOf process fresh, number ≤ (s.nextPseudonym[process]?).getD 0

namespace Rising

variable {start s t : State}

theorem refl (process : Process) (s : State) : Rising process s s :=
  ⟨[], (List.append_nil _).symm, .nil, nofun⟩

section

variable (rising : Rising process start s)
include rising

theorem congr (counters : t.nextPseudonym[process]? = s.nextPseudonym[process]?)
    (drawn : t.drawn = s.drawn) : Rising process start t := by
  obtain ⟨fresh, since, ordered, below⟩ := rising
  exact ⟨fresh, drawn.trans since, ordered, counters ▸ below⟩

theorem drawSession (owner : Process) (session : SessionRef) (slot : UInt64) (forkSafe : Bool) :
    Rising process start (s.drawSession owner session slot forkSafe) := by
  obtain ⟨fresh, since, ordered, below⟩ := rising
  let pseudonym := (s.nextPseudonym[owner]?).getD 0 + 1
  refine ⟨fresh ++ [(owner, session, pseudonym)], ?_, ?_⟩
  · change s.drawn ++ _ = _
    rw [since, List.append_assoc]
  change (pseudonymsOf process (fresh ++ _)).Pairwise _ ∧
    ∀ number ∈ pseudonymsOf process (fresh ++ _),
      number ≤ ((s.nextPseudonym.insert owner pseudonym)[process]?).getD 0
  by_cases own : owner = process
  · subst own
    have split : pseudonymsOf owner (fresh ++ [(owner, session, pseudonym)]) =
        pseudonymsOf owner fresh ++ [pseudonym] := by
      simp [pseudonymsOf]
    rw [split, getElem?_insert_self]
    refine ⟨List.pairwise_append.mpr ⟨ordered, List.pairwise_singleton _ _, ?_⟩, ?_⟩
    · intro earlier member latest here
      rw [List.mem_singleton.mp here]
      exact Nat.lt_succ_of_le (below earlier member)
    · intro number member
      rcases List.mem_append.mp member with earlier | here
      · exact (below number earlier).trans (Nat.le_succ _)
      · exact (List.mem_singleton.mp here).le
  · have same : pseudonymsOf process (fresh ++ [(owner, session, pseudonym)]) =
        pseudonymsOf process fresh := by
      simp [pseudonymsOf, own]
    have apart : ¬ compare owner process = .eq := fun same => own (LawfulEqOrd.eq_of_compare same)
    rw [same, getElem?_insert, if_neg apart]
    exact ⟨ordered, below⟩

theorem step (kept : forgotten ≠ some process) (taken : Step forgotten s t) :
    Rising process start t := by
  cases taken with
  | upkeep same =>
    exact rising.congr (by rw [same.same.nextPseudonym]) same.same.drawn
  | history | refused => exact rising.congr rfl rfl
  | opened event owner session slot forkSafe fits =>
    have counted : Rising process start ((s.countOpened event).charge (s.openingKeys owner)) :=
      rising.congr rfl rfl
    exact (counted.drawSession owner session slot forkSafe).congr rfl rfl
  | closed key counted =>
    unfold State.closeOpening
    cases s.openSessions.contains key && counted with
    | true | false => exact rising.congr rfl rfl
  | forget owner allowed alone =>
    refine rising.congr ?_ rfl
    have apart : ¬ compare owner process = .eq := fun same =>
      kept (allowed.trans (congrArg some (LawfulEqOrd.eq_of_compare same)))
    exact getElem?_erase.trans (if_neg apart)

theorem forkStep (taken : ForkStep s t) : Rising process start t := by
  cases taken with
  | step taken => exact rising.step (Option.some_ne_none process).symm taken
  | inherited child session slot forkSafe fits =>
    have charged : Rising process start (s.charge (s.inheritedKeys child session)) :=
      rising.congr rfl rfl
    exact (charged.drawSession child session slot forkSafe).congr rfl rfl

theorem effect {clears : Bool} (kept : forgotten ≠ some process)
    (effect : Effect forgotten clears s t) : Rising process start t :=
  effect.invariant (Rising process start) (fun taken rising => rising.step kept taken)
    (fun taken rising => rising.forkStep taken) (fun rising => rising.congr rfl rfl)
    (fun _ rising => rising.congr rfl rfl) rising

end

end Rising

namespace State

/-- While no operation retires the process its numbers keep rising. -/
theorem run_rising (s : State) {actions : List Action}
    (kept : ∀ action ∈ actions, action.forgets ≠ some process) : Rising process s (s.run actions) :=
  List.foldlRecOn (motive := Rising process s) actions act (.refl process s)
    fun t rising action member => rising.effect (kept action member) (t.act_effect action)

theorem initial_named (plan : AttachPlan) (policy : CapturePolicy) (limit : Nat)
    (domain : Option UInt64) : Named (initial plan policy limit domain) := by
  have closed (key : Process × SessionRef) :
      (initial plan policy limit domain).openSessions[key]? = none := getElem?_empty
  exact ⟨fun opening => absurd ((closed _).symm.trans opening) nofun,
    fun opening => absurd ((closed _).symm.trans opening) nofun,
    fun opening => absurd ((closed _).symm.trans opening) nofun⟩

/-- Open sessions of one process are told apart by numbers within its counter,
and between two retirements the process draws no number twice. -/
theorem pseudonym_uniqueness (plan : AttachPlan) (policy : CapturePolicy) (limit : Nat)
    (domain : Option UInt64) (earlier later : List Action) (key : ProcessKey)
    (between : ∀ retired, .retireProcess retired ∈ later → retired.identity ≠ key.identity) :
    let process := key.identity
    let s := (initial plan policy limit domain).run earlier
    let t := s.run later
    (∀ (first second : SessionRef) (left right : SessionInfo),
      t.openSessions[(process, first)]? = some left →
      t.openSessions[(process, second)]? = some right → first ≠ second →
        left.pseudonym ≠ right.pseudonym) ∧
    (∀ (session : SessionRef) (info : SessionInfo),
      t.openSessions[(process, session)]? = some info →
      (process, session, info.pseudonym) ∈ t.drawn ∧
        ∃ counter, t.nextPseudonym[process]? = some counter ∧
          1 ≤ info.pseudonym ∧ info.pseudonym ≤ counter) ∧
    ∃ fresh, t.drawn = s.drawn ++ fresh ∧ (pseudonymsOf process fresh).Nodup := by
  intro process s t
  have reached : Named s := run_invariant Named (fun effect named => named.effect effect) earlier
    (initial_named plan policy limit domain)
  have named : Named t := run_invariant Named (fun effect named => named.effect effect) later
    reached
  have kept : ∀ action ∈ later, action.forgets ≠ some process := by
    intro action member forgets
    cases action with
    | retireProcess retired => exact between retired member (Option.some.inj forgets)
    | _ => cases forgets
  obtain ⟨fresh, since, ordered, _⟩ := s.run_rising kept
  refine ⟨?_, ?_, fresh, since, ordered.imp Nat.ne_of_lt⟩
  · intro first second left right leftOpen rightOpen apart same
    exact apart (named.distinct leftOpen rightOpen same)
  · intro session info opening
    exact ⟨named.recorded opening, named.counted opening⟩

/-- A handle opened, closed and opened again draws 1 and then 2. -/
def reopened : List Action :=
  [.observeProcess (.fromPid 7) { session := 5, slot := 0 },
    .observeProcess (.fromPid 7) { session := 5, slot := 0 }]

theorem pseudonym_uniqueness_reopened :
    let s := (initial (twoModulePlan .countOnly) .allowlisted maxStateKeys none).run []
    let t := s.run reopened
    let process := (ProcessKey.fromPid 7).identity
    t.drawn.map (fun draw => draw.2.2) = [1, 2] ∧
      ∃ fresh, t.drawn = s.drawn ++ fresh ∧ (pseudonymsOf process fresh).Nodup :=
  ⟨by decide +kernel,
    (pseudonym_uniqueness (twoModulePlan .countOnly) .allowlisted maxStateKeys none [] reopened
      (.fromPid 7) (by simp [reopened])).2.2⟩

end State

end P11Scope.Semantics
