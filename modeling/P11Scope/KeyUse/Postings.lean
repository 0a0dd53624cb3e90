import P11Scope.KeyUse.Reducer
import P11Scope.Lib.Tally
import P11Scope.Lib.Updates

/-!
# What the key-use reducer posts

Every change of a counter is an entry in a book.  Each routine of the reducer
posts a list of entries that its arguments determine, and the counters move by
the number of entries that name them.
-/

namespace P11Scope.KeyUse

open Std Edge Lib List

/-- One movement of one counter of a row or of a summary. -/
inductive Meter where
  | started (key : AggKey)
  | ended (key : AggKey) (outcome : OperationOutcome)
  | joinLost (key : AggKey)
  | opened (key : AggKey)
  | closed (key : AggKey)
  | settled (index : Fin unknownBuckets) (outcome : OperationOutcome)
  | raised (index : Fin unknownBuckets)
  | lowered (index : Fin unknownBuckets)
  deriving DecidableEq

namespace Meter

/-- The aggregate row an entry belongs to. -/
def row : Meter → Option AggKey
  | started key | ended key _ | joinLost key | opened key | closed key => some key
  | settled _ _ | raised _ | lowered _ => none

/-- The unknown summary an entry belongs to. -/
def summary : Meter → Option (Fin unknownBuckets)
  | settled index _ | raised index | lowered index => some index
  | started _ | ended _ _ | joinLost _ | opened _ | closed _ => none

end Meter

variable (counters : AggCounters)

def AggCounters.get : OperationOutcome → Nat
  | .completed => counters.completed
  | .cancelled => counters.cancelled
  | .failed => counters.failed
  | .unknown => counters.unknown

def UnknownCounters.get (counters : UnknownCounters) : OperationOutcome → Nat
  | .completed => counters.completed
  | .cancelled => counters.cancelled
  | .failed => counters.failed
  | .unknown => counters.unknown

/-- A row's counters, all zero before its first reservation. -/
def KeyUseReducer.agg (reducer : KeyUseReducer) (key : AggKey) : AggCounters :=
  reducer.aggregates[key]?.getD {}

/-- A row moved by the entries that name it.  A list of entries opens or closes a
row's activity, never both. -/
structure RowMoved (key : AggKey) (entries : List Meter) (before after : AggCounters) : Prop where
  started : Rises u64Max before.started (entries.count (.started key)) after.started
  ended : ∀ outcome,
    Rises u64Max (before.get outcome) (entries.count (.ended key outcome)) (after.get outcome)
  joinLost : Rises u64Max before.keyJoinLost (entries.count (.joinLost key)) after.keyJoinLost
  opening : entries.count (.closed key) = 0 →
    Rises u64Max before.active (entries.count (.opened key)) after.active
  closing : entries.count (.opened key) = 0 →
    after.active = before.active - entries.count (.closed key)

structure SummaryMoved (index : Fin unknownBuckets) (entries : List Meter)
    (before after : UnknownCounters) : Prop where
  settled : ∀ outcome,
    Rises u64Max (before.get outcome) (entries.count (.settled index outcome)) (after.get outcome)
  raising : entries.count (.lowered index) = 0 →
    Rises u64Max before.active (entries.count (.raised index)) after.active
  lowering : entries.count (.raised index) = 0 →
    after.active = before.active - entries.count (.lowered index)

/-- The counters moved by exactly these entries and nothing else changed. -/
structure Posted (entries : List Meter) (before after : KeyUseReducer) : Prop where
  rows : ∀ key, RowMoved key entries (before.agg key) (after.agg key)
  summaries : ∀ index : Fin unknownBuckets,
    SummaryMoved index entries (getElem before.unknown index index.2)
      (getElem after.unknown index index.2)
  kept : ∀ key, key ∈ before.aggregates → key ∈ after.aggregates
  reserved : ∀ key, key ∈ after.aggregates → key ∈ before.aggregates ∨ .started key ∈ entries
  stored : ∀ key, .started key ∈ entries → key ∈ after.aggregates
  opens : after.opens = before.opens
  refused : after.refused = before.refused
  capacity : after.capacity = before.capacity

section

variable {key : AggKey} {index : Fin unknownBuckets} {entries more : List Meter}

theorem RowMoved.refl (unnamed : ∀ entry ∈ entries, entry.row ≠ some key)
    (counters : AggCounters) : RowMoved key entries counters counters := by
  have absent : ∀ entry : Meter, entry.row = some key → entries.count entry = 0 :=
    fun entry named => count_eq_zero.mpr fun member => unnamed entry member named
  constructor
  · rw [absent _ rfl]
    exact .refl _ _
  · intro outcome
    rw [absent _ rfl]
    exact .refl _ _
  · rw [absent _ rfl]
    exact .refl _ _
  · rw [absent (.opened key) rfl]
    exact fun _ => .refl _ _
  · rw [absent (.closed key) rfl]
    exact fun _ => rfl

theorem SummaryMoved.refl (unnamed : ∀ entry ∈ entries, entry.summary ≠ some index)
    (counters : UnknownCounters) : SummaryMoved index entries counters counters := by
  have absent : ∀ entry : Meter, entry.summary = some index → entries.count entry = 0 :=
    fun entry named => count_eq_zero.mpr fun member => unnamed entry member named
  constructor
  · intro outcome
    rw [absent _ rfl]
    exact .refl _ _
  · rw [absent (.raised index) rfl]
    exact fun _ => .refl _ _
  · rw [absent (.lowered index) rfl]
    exact fun _ => rfl

theorem RowMoved.trans {first second third : AggCounters}
    (moved : RowMoved key entries first second) (again : RowMoved key more second third) :
    RowMoved key (entries ++ more) first third := by
  constructor
  · rw [count_append]
    exact moved.started.trans again.started
  · intro outcome
    rw [count_append]
    exact (moved.ended outcome).trans (again.ended outcome)
  · rw [count_append]
    exact moved.joinLost.trans again.joinLost
  · rw [count_append, count_append]
    intro none
    exact (moved.opening (by omega)).trans (again.opening (by omega))
  · rw [count_append, count_append]
    intro none
    rw [again.closing (by omega), moved.closing (by omega)]
    omega

theorem SummaryMoved.trans {first second third : UnknownCounters}
    (moved : SummaryMoved index entries first second)
    (again : SummaryMoved index more second third) :
    SummaryMoved index (entries ++ more) first third := by
  constructor
  · intro outcome
    rw [count_append]
    exact (moved.settled outcome).trans (again.settled outcome)
  · rw [count_append, count_append]
    intro none
    exact (moved.raising (by omega)).trans (again.raising (by omega))
  · rw [count_append, count_append]
    intro none
    rw [again.lowering (by omega), moved.lowering (by omega)]
    omega

end

namespace Posted

variable {entries more : List Meter} {first second third : KeyUseReducer}

theorem refl (reducer : KeyUseReducer) : Posted [] reducer reducer where
  rows _ := .refl (fun _ member => by cases member) _
  summaries _ := .refl (fun _ member => by cases member) _
  kept _ := id
  reserved _ := .inl
  stored _ member := by cases member
  opens := rfl
  refused := rfl
  capacity := rfl

theorem trans (posted : Posted entries first second) (again : Posted more second third) :
    Posted (entries ++ more) first third where
  rows key := (posted.rows key).trans (again.rows key)
  summaries index := (posted.summaries index).trans (again.summaries index)
  kept key present := again.kept key (posted.kept key present)
  reserved key present := by
    rcases again.reserved key present with held | started
    · exact (posted.reserved key held).imp_right (mem_append_left _)
    · exact .inr (mem_append_right _ started)
  stored key member := by
    rcases mem_append.mp member with first | second
    · exact again.kept key (posted.stored key first)
    · exact again.stored key second
  opens := again.opens.trans posted.opens
  refused := again.refused.trans posted.refused
  capacity := again.capacity.trans posted.capacity

/-- Evidence is no counter of the book. -/
theorem withEvidence (posted : Posted entries first second) (evidence : KeyUseEvidence) :
    Posted entries first { second with evidence := evidence } :=
  { posted with }

theorem afterEvidence {evidence : KeyUseEvidence}
    (posted : Posted entries { first with evidence := evidence } second) :
    Posted entries first second :=
  { posted with }

/-- One row is written. -/
theorem ofRow {reducer : KeyUseReducer} {key : AggKey} {counters : AggCounters}
    (moved : RowMoved key entries (reducer.agg key) counters)
    (only : ∀ entry ∈ entries, entry.row = some key)
    (held : key ∈ reducer.aggregates ∨ .started key ∈ entries) :
    Posted entries reducer
      { reducer with aggregates := reducer.aggregates.insert key counters } where
  rows other := by
    unfold KeyUseReducer.agg
    rw [ExtTreeMap.getElem?_insert]
    by_cases same : key = other
    · subst same
      rw [if_pos (by simp)]
      exact moved
    · rw [if_neg (by simpa using same)]
      exact .refl (fun entry member named =>
        same (Option.some.inj ((only entry member).symm.trans named))) _
  summaries index := by
    refine .refl (fun entry member named => ?_) _
    have rowed := only entry member
    cases entry <;> cases rowed <;> cases named
  kept other present := by
    rw [ExtTreeMap.mem_insert]
    exact .inr present
  reserved other present := by
    rw [ExtTreeMap.mem_insert] at present
    rcases present with same | there
    · rw [← LawfulEqOrd.eq_of_compare same]
      exact held
    · exact .inl there
  stored other member := by
    rw [← Option.some.inj ((only _ member).symm.trans rfl), ExtTreeMap.mem_insert]
    exact .inl ReflCmp.compare_self
  opens := rfl
  refused := rfl
  capacity := rfl

/-- One summary is written. -/
theorem ofSummary {reducer : KeyUseReducer} {index : Fin unknownBuckets}
    {update : UnknownCounters → UnknownCounters}
    (moved : SummaryMoved index entries (getElem reducer.unknown index index.2)
      (update (getElem reducer.unknown index index.2)))
    (only : ∀ entry ∈ entries, entry.summary = some index) :
    Posted entries reducer (reducer.updateUnknown index update) where
  rows key := by
    refine .refl (fun entry member named => ?_) _
    have summed := only entry member
    cases entry <;> cases summed <;> cases named
  summaries other := by
    have written :=
      congrFun (vector_set reducer.unknown index (update reducer.unknown[index])) other
    change SummaryMoved other entries reducer.unknown[other]
      (reducer.unknown.set index (update reducer.unknown[index]))[other]
    rw [written, Function.update_apply]
    by_cases same : other = index
    · subst same
      rw [if_pos rfl]
      exact moved
    · rw [if_neg same]
      exact .refl (fun entry member named =>
        same (Option.some.inj (named.symm.trans (only entry member)))) _
  kept _ := id
  reserved _ := .inl
  stored key member := by cases only _ member
  opens := rfl
  refused := rfl
  capacity := rfl

end Posted

/-! ## Single counters -/

variable (outcome other : OperationOutcome)

theorem AggCounters.get_add : (counters.add outcome).get other =
      if outcome = other then satAdd (counters.get other) 1 else counters.get other := by
  cases outcome <;> cases other <;> rfl

variable (outcome : OperationOutcome)

theorem AggCounters.add_started : (counters.add outcome).started = counters.started := by
  cases outcome <;> rfl

theorem AggCounters.add_active : (counters.add outcome).active = counters.active := by
  cases outcome <;> rfl

theorem AggCounters.add_keyJoinLost :
    (counters.add outcome).keyJoinLost = counters.keyJoinLost := by
  cases outcome <;> rfl

variable (counters : UnknownCounters)

theorem UnknownCounters.get_add :
    (counters.add outcome).get other =
      if outcome = other then satAdd (counters.get other) 1 else counters.get other := by
  cases outcome <;> cases other <;> rfl

theorem UnknownCounters.add_active (outcome : OperationOutcome) :
    (counters.add outcome).active = counters.active := by
  cases outcome <;> rfl

namespace KeyUseReducer

variable (reducer : KeyUseReducer) (index : Fin unknownBuckets)

theorem unknownAdd_posted (outcome : OperationOutcome) :
    Posted [.settled index outcome] reducer (reducer.unknownAdd index outcome) := by
  have posted : Posted [.settled index outcome] (reducer.markLive index)
      (reducer.unknownAdd index outcome) := by
    refine .ofSummary ⟨fun other => ?_, fun _ => ?_, fun _ => ?_⟩ (by simp [Meter.summary])
    · rw [UnknownCounters.get_add]
      by_cases same : outcome = other
      · subst same
        rw [if_pos rfl]
        exact .of_min (by simp)
      · rw [if_neg same]
        exact .of_zero (by simp [count_eq_zero, Ne.symm same])
    · rw [UnknownCounters.add_active]
      exact .of_zero (by simp)
    · simp [UnknownCounters.add_active]
  exact { posted with }

theorem unknownActivate_posted :
    Posted [.raised index] reducer (reducer.unknownActivate index) := by
  have posted : Posted [.raised index] (reducer.markLive index)
      (reducer.unknownActivate index) := by
    refine .ofSummary ⟨fun other => ?_, fun _ => .of_min (by simp), fun none => ?_⟩
      (by simp [Meter.summary])
    · cases other <;> exact .of_zero (by simp)
    · simp at none
  exact { posted with }

theorem unknownDeactivate_posted :
    Posted [.lowered index] reducer (reducer.unknownDeactivate index) := by
  refine .ofSummary ⟨fun other => ?_, fun none => ?_, fun _ => ?_⟩ (by simp [Meter.summary])
  · cases other <;> exact .of_zero (by simp)
  · simp at none
  · simp

end KeyUseReducer

/-! ## Entries of one association -/

def ResolvedAssoc.openEntries (slot : ResolvedAssoc) : List Meter :=
  match slot.bucket with
  | .proved key => [.started key, .opened key]
  | .unknown index => [.raised index]

def ResolvedAssoc.directEntries (slot : ResolvedAssoc) : List Meter :=
  match slot.bucket with
  | .proved key => [.started key, .ended key .completed]
  | .unknown index => if slot.primary then [.settled index .completed] else []

def OpenAssoc.closeEntries (category : String) (outcome : OperationOutcome) (assoc : OpenAssoc) :
    List Meter :=
  (match assoc.bucket with
    | .proved key => if assoc.lost then [] else [.closed key, .ended key outcome]
    | .unknown index =>
      .lowered index :: if assoc.primary && !assoc.lost then [.settled index outcome] else []) ++
    if assoc.primary && assoc.lost then
      [.settled (unknownIndex category "key_join_lost") outcome]
    else []

def AssocBucket.lostEntries : AssocBucket → List Meter
  | .proved key => [.closed key, .joinLost key]
  | .unknown _ => []

/-- The row an association's terminal writes. -/
def OpenAssoc.liveRow (assoc : OpenAssoc) : Option AggKey :=
  match assoc.bucket with
  | .proved key => if assoc.lost then none else some key
  | .unknown _ => none

def AssocBucket.row : AssocBucket → Option AggKey
  | .proved key => some key
  | .unknown _ => none

namespace KeyUseReducer

variable (reducer : KeyUseReducer) (slot : ResolvedAssoc)

theorem openBucket_posted : Posted slot.openEntries reducer (reducer.openBucket slot) := by
  unfold openBucket ResolvedAssoc.openEntries
  cases slot.bucket with
  | unknown index => exact reducer.unknownActivate_posted index
  | proved key =>
    refine .ofRow ⟨.of_min (by simp), fun other => ?_, .of_zero (by simp),
      fun _ => .of_min (by simp), fun none => ?_⟩ (by simp [Meter.row])
      (.inr mem_cons_self)
    · cases other <;> exact .of_zero (by simp)
    · simp at none

theorem completeDirect_posted :
    Posted slot.directEntries reducer (reducer.completeDirect slot) := by
  unfold completeDirect ResolvedAssoc.directEntries
  cases slot.bucket with
  | unknown index =>
    dsimp only
    split
    · exact reducer.unknownAdd_posted index .completed
    · exact .refl reducer
  | proved key =>
    refine .ofRow ⟨.of_min (by simp), fun other => ?_, .of_zero (by simp),
      fun _ => .of_zero (by simp), fun _ => by simp [AggCounters.add, KeyUseReducer.agg]⟩
      (by simp [Meter.row]) (.inr mem_cons_self)
    cases other
    case completed => exact .of_min (by simp)
    all_goals exact .of_zero (by simp)

/-- A row that is present takes the update. -/
theorem updateReserved_posted (entries : List Meter) {key : AggKey}
    (update : AggCounters → AggCounters) (present : key ∈ reducer.aggregates)
    (moved : ∀ counters, RowMoved key entries counters (update counters))
    (only : ∀ entry ∈ entries, entry.row = some key) :
    ∃ after, reducer.updateReserved key update = some after ∧ Posted entries reducer after := by
  obtain ⟨counters, stored⟩ := Option.isSome_iff_exists.mp
    (ExtTreeMap.isSome_getElem?_iff_mem.mpr present)
  refine ⟨{ reducer with aggregates := reducer.aggregates.insert key (update counters) }, ?_,
    .ofRow ?_ only (.inl present)⟩
  · rw [updateReserved, stored]
    rfl
  · rw [agg, stored]
    exact moved counters

theorem closeAssoc_posted (category : String) (outcome : OperationOutcome) (assoc : OpenAssoc)
    (ready : ∀ key ∈ assoc.liveRow, key ∈ reducer.aggregates) :
    ∃ after, closeAssoc category outcome reducer assoc = some after ∧
      Posted (assoc.closeEntries category outcome) reducer after := by
  obtain ⟨bucket, key, lost, primary⟩ := assoc
  -- A lost primary routes its outcome after the bucket is closed.
  have route : ∀ {entries : List Meter} {closed : KeyUseReducer}, Posted entries reducer closed →
      Posted (entries ++ if primary && lost then
          [.settled (unknownIndex category "key_join_lost") outcome] else []) reducer
        (if primary && lost then
          closed.unknownAdd (unknownIndex category "key_join_lost") outcome else closed) := by
    intro entries closed posted
    split
    · exact posted.trans (closed.unknownAdd_posted _ outcome)
    · exact posted.trans (.refl closed)
  cases bucket with
  | unknown index =>
    have idle := reducer.unknownDeactivate_posted index
    refine ⟨_, rfl, route ?_⟩
    dsimp only
    split
    · exact idle.trans (KeyUseReducer.unknownAdd_posted _ index outcome)
    · exact idle
  | proved row =>
    cases lost with
    | true => exact ⟨_, rfl, route (.refl reducer)⟩
    | false =>
      obtain ⟨closed, done, posted⟩ := reducer.updateReserved_posted
        [.closed row, .ended row outcome]
        (fun counters =>
          ({ counters with active := counters.active - 1 } : AggCounters).add outcome)
        (ready row rfl) (fun counters => by
          refine ⟨?_, fun other => ?_, ?_, fun none => ?_, fun _ => ?_⟩
          · rw [AggCounters.add_started]
            exact .of_zero (by simp)
          · rw [AggCounters.get_add]
            by_cases same : outcome = other
            · subst same
              cases outcome <;> exact .of_min (by simp)
            · rw [if_neg same]
              cases other <;> exact .of_zero (by simp [count_eq_zero, Ne.symm same])
          · rw [AggCounters.add_keyJoinLost]
            exact .of_zero (by simp)
          · simp at none
          · rw [AggCounters.add_active]
            simp)
        (by simp [Meter.row])
      refine ⟨_, ?_, route posted⟩
      exact bind_done done rfl

theorem closeLostBucket_posted (bucket : AssocBucket)
    (ready : ∀ key ∈ bucket.row, key ∈ reducer.aggregates) :
    ∃ after, reducer.closeLostBucket bucket = some after ∧
      Posted bucket.lostEntries reducer after := by
  cases bucket with
  | unknown index => exact ⟨_, rfl, (Posted.refl reducer).withEvidence _⟩
  | proved row =>
    let counted : KeyUseReducer := { reducer with evidence := { reducer.evidence with
      joinLost := satAdd reducer.evidence.joinLost 1 } }
    obtain ⟨after, done, posted⟩ := counted.updateReserved_posted
      [.closed row, .joinLost row]
      (fun counters => { counters with
        active := counters.active - 1, keyJoinLost := satAdd counters.keyJoinLost 1 })
      (ready row rfl) (fun counters => by
        refine ⟨.of_zero (by simp), fun other => ?_, .of_min (by simp), fun none => ?_,
          fun _ => by simp⟩
        · cases other <;> exact .of_zero (by simp)
        · simp at none)
      (by simp [Meter.row])
    exact ⟨after, done, posted.afterEvidence⟩

/-! ## Loops -/

section

variable {Item : Type} {entriesOf : Item → List Meter}

theorem posted_foldl {step : KeyUseReducer → Item → KeyUseReducer}
    (each : ∀ reducer item, Posted (entriesOf item) reducer (step reducer item))
    (items : List Item) : Posted (items.flatMap entriesOf) reducer (items.foldl step reducer) := by
  induction items generalizing reducer with
  | nil => exact .refl reducer
  | cons item rest ih => exact (each reducer item).trans (ih (step reducer item))

/-- A loop succeeds when every row it will write is present before it starts. -/
theorem posted_foldlM {step : KeyUseReducer → Item → Option KeyUseReducer}
    {needs : Item → Option AggKey}
    (each : ∀ (reducer : KeyUseReducer) item, (∀ key ∈ needs item, key ∈ reducer.aggregates) →
      ∃ after, step reducer item = some after ∧ Posted (entriesOf item) reducer after)
    (items : List Item)
    (ready : ∀ item ∈ items, ∀ key ∈ needs item, key ∈ reducer.aggregates) :
    ∃ after, items.foldlM step reducer = some after ∧
      Posted (items.flatMap entriesOf) reducer after := by
  induction items generalizing reducer with
  | nil => exact ⟨reducer, rfl, .refl reducer⟩
  | cons item rest ih =>
    obtain ⟨middle, done, posted⟩ := each reducer item (ready item mem_cons_self)
    obtain ⟨after, finished, later⟩ := ih middle fun other member key needed =>
      posted.kept key (ready other (mem_cons_of_mem _ member) key needed)
    refine ⟨after, ?_, posted.trans later⟩
    rw [foldlM_cons, done]
    exact finished

end

end KeyUseReducer

end P11Scope.KeyUse
