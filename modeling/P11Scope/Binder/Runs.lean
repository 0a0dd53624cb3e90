import P11Scope.Binder.Evidence

/-!
# Runs of one domain and of the binder

A domain's run depends on its own events only, and the binder's log is the
interleaving of the domains' logs.  Over every run an image keeps the
incarnation that first bound it, and that binding is attested by the evidence.
-/

namespace P11Scope.Binder

open Std List

/-! ## Rows of a trace -/

def Posting.seenRow? : Posting → Option WitnessRow
  | .seen row => some row
  | _ => none

def Posting.decision? : Posting → Option Decision
  | .decided decision _ => some decision
  | _ => none

def seenRows (trace : List Posting) : List WitnessRow := trace.filterMap Posting.seenRow?

def decisions (trace : List Posting) : List Decision := trace.filterMap Posting.decision?

@[simp]
theorem seenRows_nil : seenRows [] = [] := rfl

@[simp]
theorem decisions_nil : decisions [] = [] := rfl

@[simp]
theorem seenRows_cons (posting : Posting) (rest : List Posting) :
    seenRows (posting :: rest) = posting.seenRow?.toList ++ seenRows rest := by
  cases posting <;> rfl

@[simp]
theorem decisions_cons (posting : Posting) (rest : List Posting) :
    decisions (posting :: rest) = posting.decision?.toList ++ decisions rest := by
  cases posting <;> rfl

variable (first second : List Posting)

@[simp]
theorem seenRows_append : seenRows (first ++ second) = seenRows first ++ seenRows second :=
  filterMap_append ..

@[simp]
theorem decisions_append : decisions (first ++ second) = decisions first ++ decisions second :=
  filterMap_append ..

/-- Rows waiting before and rows arriving are the rows decided and the rows
waiting after; the waiting count follows the queue postings, and rows join the
queue before others leave it. -/
structure Balanced (before after : List Pending) (postings : List Posting) : Prop where
  rows : (seenRows postings ++ before.map Pending.row).Perm
    ((decisions postings).map Decision.row ++ after.map Pending.row)
  waiting : after.length + postings.count .dequeued = before.length + postings.count .queued
  ordered : ∃ arriving leaving, postings = arriving ++ leaving ∧
    arriving.count .dequeued = 0 ∧ leaving.count .queued = 0

/-- Proved transitions carry no rows. -/
theorem proved_rows (transitions : List ExecTransition) :
    seenRows (transitions.map .proved) = [] ∧ decisions (transitions.map .proved) = [] ∧
    (transitions.map Posting.proved).count .queued = 0 ∧
    (transitions.map Posting.proved).count .dequeued = 0 := by
  induction transitions with
  | nil => exact ⟨rfl, rfl, rfl, rfl⟩
  | cons transition rest ih =>
    obtain ⟨unseen, undecided, unqueued, undequeued⟩ := ih
    simp [Posting.seenRow?, Posting.decision?, unseen, undecided, unqueued, undequeued]

variable (evidence : Evidence)

theorem decideReady_rows (tables : Tables) (waiting : List Pending) :
    seenRows (decideReady evidence tables waiting).postings = [] ∧
    (decisions (decideReady evidence tables waiting).postings).map Decision.row ++
      (decideReady evidence tables waiting).pending.map Pending.row = waiting.map Pending.row ∧
    (decideReady evidence tables waiting).postings.count .queued = 0 ∧
    (decideReady evidence tables waiting).pending.length +
      (decideReady evidence tables waiting).postings.count .dequeued = waiting.length := by
  induction waiting generalizing tables with
  | nil => simp [decideReady]
  | cons head rest ih =>
    unfold decideReady
    split
    · simp
    obtain ⟨unseen, rows, unqueued, length⟩ := ih (decide evidence tables head).tables
    obtain ⟨proofUnseen, proofUndecided, proofUnqueued, proofUndequeued⟩ :=
      proved_rows (decide evidence tables head).transition.toList
    refine ⟨?_, ?_, ?_, ?_⟩
    · simp [Posting.seenRow?, proofUnseen, unseen]
    · simp [Posting.decision?, proofUndecided, rows]
    · simp [proofUnqueued, unqueued]
    · simp [proofUndequeued]
      omega

variable (limits : BinderLimits) (readNs : Option Nat)

theorem absorbRow_rows (tables : Tables) (pending : List Pending) (offered : Offered) :
    Balanced pending (absorbRow limits readNs tables pending offered).pending
      (absorbRow limits readNs tables pending offered).postings ∧
    (absorbRow limits readNs tables pending offered).postings.count .dequeued = 0 := by
  rcases absorbRow_cases limits readNs tables pending offered with
    ⟨caller, -, same⟩ | same | same
  all_goals
    rw [same]
    refine ⟨⟨?_, by simp, ⟨_, [], (append_nil _).symm, by simp, rfl⟩⟩, by simp⟩
  · simp [Posting.seenRow?, Posting.decision?]
  · simp [Posting.seenRow?, Posting.decision?]
  · simpa [Posting.seenRow?, Posting.decision?] using
      (perm_append_singleton offered.row (pending.map Pending.row)).symm

theorem absorbRows_rows (rows : List Offered) (tables : Tables) (pending : List Pending) :
    (seenRows (absorbRows limits readNs tables pending rows).postings ++
        pending.map Pending.row).Perm
      ((decisions (absorbRows limits readNs tables pending rows).postings).map Decision.row ++
        (absorbRows limits readNs tables pending rows).pending.map Pending.row) ∧
    (absorbRows limits readNs tables pending rows).postings.count .dequeued = 0 ∧
    (absorbRows limits readNs tables pending rows).pending.length =
      pending.length + (absorbRows limits readNs tables pending rows).postings.count .queued := by
  induction rows generalizing tables pending with
  | nil => simp [absorbRows]
  | cons offered rest ih =>
    obtain ⟨first, stays⟩ := absorbRow_rows limits readNs tables pending offered
    obtain ⟨perm, undequeued, length⟩ := ih (absorbRow limits readNs tables pending offered).tables
      (absorbRow limits readNs tables pending offered).pending
    have count := first.waiting
    simp only [absorbRows, seenRows_append, decisions_append, map_append, count_append]
    refine ⟨?_, by omega, by omega⟩
    -- First the row itself, then the rest of the read.
    calc (seenRows _ ++ seenRows _) ++ pending.map Pending.row
        _ |>.Perm (seenRows _ ++ (seenRows _ ++ pending.map Pending.row)) := by
          rw [← append_assoc]
          exact perm_append_comm.append_right _
        _ |>.Perm (seenRows _ ++ (_ ++ _)) := first.rows.append_left _
        _ |>.Perm (_ ++ (seenRows _ ++ _)) := by
          rw [← append_assoc, ← append_assoc]
          exact perm_append_comm.append_right _
        _ |>.Perm (_ ++ (_ ++ _)) := perm.append_left _
        _ |>.Perm _ := by rw [append_assoc]

theorem finishRows_rows (waiting : List Pending) :
    seenRows (finishRows evidence waiting) = [] ∧
    (decisions (finishRows evidence waiting)).map Decision.row = waiting.map Pending.row ∧
    (finishRows evidence waiting).count .queued = 0 ∧
    (finishRows evidence waiting).count .dequeued = waiting.length := by
  induction waiting with
  | nil => simp [finishRows]
  | cons head rest ih =>
    obtain ⟨unseen, rows, unqueued, length⟩ := ih
    simp [finishRows, Posting.seenRow?, Posting.decision?, unseen, rows, unqueued, length]

/-! ## One call -/

/-- New rows, then the decision loop. -/
theorem DomainState.settle_balanced (state : DomainState) (evidence : Evidence) (before : Progress)
    (arrived : (seenRows before.postings ++ state.pending.map Pending.row).Perm
      ((decisions before.postings).map Decision.row ++ before.pending.map Pending.row))
    (undequeued : before.postings.count .dequeued = 0)
    (length : before.pending.length = state.pending.length + before.postings.count .queued) :
    Balanced state.pending (state.settle evidence before).1.pending
      (state.settle evidence before).2 := by
  obtain ⟨unseen, rows, unqueued, left⟩ := decideReady_rows evidence before.tables before.pending
  simp only [settle]
  refine ⟨?_, ?_, ⟨_, _, rfl, undequeued, unqueued⟩⟩
  · rw [seenRows_append, unseen, append_nil, decisions_append, map_append,
      append_assoc, rows]
    exact arrived
  · rw [count_append, count_append]
    omega

theorem DomainState.progress_balanced (state : DomainState) (evidence : Evidence) :
    Balanced state.pending (state.settle evidence state.progress).1.pending
      (state.settle evidence state.progress).2 :=
  state.settle_balanced evidence state.progress (List.Perm.refl _) rfl rfl

/-- Every call decides rows that arrived or waited, each once. -/
theorem DomainState.step_balanced (state : DomainState) (event : Event) :
    Balanced state.pending (state.step limits event).1.pending (state.step limits event).2 := by
  cases event with
  | coverage domain startNs => exact state.progress_balanced _
  | revalidation domain passStartNs revalidated =>
    simp only [step, noteRevalidation]
    split
    · exact ⟨List.Perm.refl _, rfl, ⟨[], [], rfl, rfl, rfl⟩⟩
    · exact state.progress_balanced _
  | lifecycle batch => exact state.progress_balanced _
  | witnesses batch =>
    obtain ⟨perm, undequeued, length⟩ := absorbRows_rows limits (stamp batch.rowsReadNs)
      batch.rows state.tables state.pending
    refine state.settle_balanced _ _ ?_ ?_ ?_
    · simpa [Posting.seenRow?, Posting.decision?] using perm
    · simpa using undequeued
    · simpa using length
  | finish domain =>
    obtain ⟨unseen, rows, unqueued, dequeued⟩ := finishRows_rows state.evidence state.pending
    refine ⟨?_, ?_, ⟨[], _, rfl, rfl, unqueued⟩⟩
    · change (seenRows (finishRows state.evidence state.pending) ++ _).Perm
        ((decisions (finishRows state.evidence state.pending)).map Decision.row ++ [])
      rw [unseen, rows, append_nil, nil_append]
    · change 0 + (finishRows state.evidence state.pending).count .dequeued =
        state.pending.length + (finishRows state.evidence state.pending).count .queued
      omega

theorem seenRows_absorbRows (rows : List Offered) (tables : Tables) (pending : List Pending) :
    seenRows (absorbRows limits readNs tables pending rows).postings = rows.map Offered.row := by
  induction rows generalizing tables pending with
  | nil => rfl
  | cons offered rest ih =>
    rw [absorbRows, seenRows_append, ih]
    rcases absorbRow_cases limits readNs tables pending offered with
      ⟨caller, -, same⟩ | same | same
    · rw [same]; rfl
    · rw [same]; rfl
    · rw [same]; rfl

/-- The rows a call brings in are those of its batch. -/
def Event.rows : Event → List WitnessRow
  | .witnesses batch => batch.rows.map Offered.row
  | _ => []

theorem DomainState.seenRows_settle (state : DomainState) (evidence : Evidence)
    (before : Progress) :
    seenRows (state.settle evidence before).2 = seenRows before.postings := by
  rw [settle, seenRows_append, (decideReady_rows evidence before.tables before.pending).1,
    append_nil]

theorem DomainState.seenRows_step (state : DomainState) (event : Event) :
    seenRows (state.step limits event).2 = event.rows := by
  cases event with
  | coverage domain startNs => exact state.seenRows_settle _ _
  | revalidation domain passStartNs revalidated =>
    simp only [step, noteRevalidation]
    split
    · rfl
    · exact state.seenRows_settle _ _
  | lifecycle batch => exact state.seenRows_settle _ _
  | witnesses batch =>
    refine (state.seenRows_settle _ _).trans ?_
    exact seenRows_absorbRows limits _ batch.rows state.tables state.pending
  | finish domain => exact (finishRows_rows state.evidence state.pending).1

theorem Event.rows_domain (event : Event) : ∀ row ∈ event.rows, row.domain = event.domain := by
  cases event with
  | witnesses batch =>
    intro row member
    obtain ⟨offered, present, rfl⟩ := mem_map.mp member
    exact batch.tagged offered present
  | coverage | revalidation | lifecycle | finish => intro row member; cases member

/-! ## Runs of one domain -/

/-- The domain's events in order, with everything they post. -/
def DomainState.run (limits : BinderLimits) (state : DomainState) :
    List Event → DomainState × List Posting
  | [] => (state, [])
  | event :: rest =>
    let next := state.step limits event
    let later := next.1.run limits rest
    (later.1, next.2 ++ later.2)

/-- Tables, trace and evidence agree with the events so far. -/
structure Sound (Good : Pending → CallerId → Prop) (events : List Event) (state : DomainState)
    (trace : List Posting) : Prop where
  knows : state.evidence.Knows events
  traced : Traced Good trace state.tables

variable {Good : Pending → CallerId → Prop} {events : List Event} {state : DomainState}
  {trace : List Posting}

theorem Sound.empty : Sound Good [] {} [] := ⟨.empty, .empty⟩

section

variable {event : Event}
  (good : ∀ evidence : Evidence, evidence.Knows (events ++ [event]) → ∀ pending sighting,
    Passes evidence pending sighting → Good pending sighting.caller)
include good

theorem Sound.settle {evidence : Evidence} {before : Progress}
    (knows : evidence.Knows (events ++ [event]))
    (traced : Traced Good (trace ++ before.postings) before.tables) :
    Sound Good (events ++ [event]) (state.settle evidence before).1
      (trace ++ (state.settle evidence before).2) := by
  refine ⟨knows, ?_⟩
  have settled := decideReady_traced before.pending traced fun pending _ sighting =>
    good evidence knows pending sighting
  rw [append_assoc] at settled
  exact settled

/-- One call keeps the agreement, if rows that pass the rules are good. -/
theorem Sound.step (sound : Sound Good events state trace) (limits : BinderLimits) :
    Sound Good (events ++ [event]) (state.step limits event).1
      (trace ++ (state.step limits event).2) := by
  have waiting : Traced Good (trace ++ state.progress.postings) state.progress.tables := by
    simpa [DomainState.progress] using sound.traced
  cases event with
  | coverage domain startNs =>
    exact .settle good (sound.knows.record nofun nofun) waiting
  | revalidation domain passStartNs revalidated =>
    simp only [DomainState.step, DomainState.noteRevalidation]
    split
    · rw [append_nil]
      exact ⟨sound.knows.ignore nofun nofun rfl, sound.traced⟩
    rename_i due
    simp only [Bool.or_eq_true, not_or, Option.all_eq_true, decide_eq_true_eq] at due
    obtain ⟨start, covered, order⟩ : ∃ start, state.evidence.coverageNs = some start ∧
        start ≤ passStartNs := by
      by_contra missing
      refine due.2 fun start covered => ?_
      by_contra late
      exact missing ⟨start, covered, by omega⟩
    exact .settle good (sound.knows.noteRevalidation domain revalidated covered order) waiting
  | lifecycle batch =>
    exact .settle good (sound.knows.absorbLifecycle limits.execTgids batch) waiting
  | witnesses batch =>
    refine .settle good (sound.knows.absorbHealth batch) ?_
    have counted : Traced Good (trace ++ [.invalid batch.integrity.length]) state.tables := by
      refine sound.traced.append (fun _ _ => rfl) rfl ?_
      rintro posting member cookie exec caller ⟨row, rule, rfl, -⟩
      simp at member
    have absorbed := absorbRows_traced limits (stamp batch.rowsReadNs) batch.rows state.pending
      counted
    simpa using absorbed
  | finish domain =>
    refine ⟨sound.knows.ignore nofun nofun rfl, ?_⟩
    refine sound.traced.append (fun _ _ => rfl) rfl ?_
    intro posting member cookie exec caller binds
    exact absurd binds (not_binds_of_mem_finishRows member cookie exec caller)

end

/-- A whole run keeps the agreement. -/
theorem Sound.run (sound : Sound Good events state trace) (limits : BinderLimits)
    (rest : List Event)
    (good : ∀ seen, seen <+: events ++ rest → ∀ evidence : Evidence, evidence.Knows seen →
      ∀ pending sighting, Passes evidence pending sighting → Good pending sighting.caller) :
    Sound Good (events ++ rest) (state.run limits rest).1 (trace ++ (state.run limits rest).2) := by
  induction rest generalizing events state trace with
  | nil => simpa [DomainState.run] using sound
  | cons event rest ih =>
    have regroup : events ++ event :: rest = (events ++ [event]) ++ rest := by simp
    have next := sound.step (good (events ++ [event]) (regroup ▸ ⟨rest, rfl⟩)) limits
    have later := ih next (regroup ▸ good)
    simpa [DomainState.run] using later

/-- The rows of a domain's run are those of its events. -/
theorem DomainState.run_balanced (state : DomainState) (events : List Event) :
    (events.flatMap Event.rows ++ state.pending.map Pending.row).Perm
      ((decisions (state.run limits events).2).map Decision.row ++
        (state.run limits events).1.pending.map Pending.row) := by
  induction events generalizing state with
  | nil => simp [run]
  | cons event rest ih =>
    have first := (state.step_balanced limits event).rows
    rw [state.seenRows_step] at first
    have later := ih (state.step limits event).1
    simp only [run, flatMap_cons, decisions_append, map_append, append_assoc]
    calc event.rows ++ (rest.flatMap Event.rows ++ state.pending.map Pending.row)
        _ |>.Perm (rest.flatMap Event.rows ++ (event.rows ++ state.pending.map Pending.row)) := by
          rw [← append_assoc, ← append_assoc]
          exact perm_append_comm.append_right _
        _ |>.Perm (rest.flatMap Event.rows ++ (_ ++ _)) := first.append_left _
        _ |>.Perm (_ ++ (rest.flatMap Event.rows ++ _)) := by
          rw [← append_assoc, ← append_assoc]
          exact perm_append_comm.append_right _
        _ |>.Perm _ := later.append_left _

end P11Scope.Binder
