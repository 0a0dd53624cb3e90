import P11Scope.Lib.Lifetimes
import P11Scope.Edge.Conservation

/-!
# Faithfulness of the effect stream

The effects a reducer emits form a coherent lifetime log: started machines are
opened lifetimes, ended machines closed ones, direct operations points.  The
live lifetimes are the live machines, and the counters are the tallies of the
stream up to the operations that found no identity left.
-/

namespace P11Scope.Edge

open Std Lib Lib.TreeMap Lib.Lifetimes List

variable {active : ExtTreeMap (UInt64 × UInt16) OpMachine}

/-- The lifetime event an effect stands for. -/
def OperationEffect.event : OperationEffect → Event String
  | .started id category _ _ _ => .opened id category
  | .ended id category _ _ => .closed id category
  | .directCompleted id _ _ _ _ => .point id

/-- The lifetime log of an effect stream. -/
def lifetimes (log : List OperationEffect) : List (Event String) :=
  log.map OperationEffect.event

def OperationEffect.isStarted : OperationEffect → Bool
  | .started .. => true
  | _ => false

def OperationEffect.isDirect : OperationEffect → Bool
  | .directCompleted .. => true
  | _ => false

variable (outcome : OperationOutcome)

def OperationEffect.isEnded : OperationEffect → Bool
  | .ended _ _ actual _ => actual = outcome
  | _ => false

def startedCount (log : List OperationEffect) : Nat := log.countP OperationEffect.isStarted

def directCount (log : List OperationEffect) : Nat := log.countP OperationEffect.isDirect

def endedCount (log : List OperationEffect) : Nat :=
  log.countP (OperationEffect.isEnded outcome)

/-- The counters are the tallies of the stream.  Of the operations without an
identity, `direct` completed and `untracked` ended unknown. -/
structure Tallied (edge : EdgeSemantics) (log : List OperationEffect) (direct untracked : Nat) :
    Prop where
  exhausted : direct + untracked = edge.idExhaustions
  started : edge.started = startedCount log + directCount log + edge.idExhaustions
  completed : edge.completed = endedCount .completed log + directCount log + direct
  cancelled : edge.cancelled = endedCount .cancelled log
  failed : edge.failed = endedCount .failed log
  unknown : edge.unknown = endedCount .unknown log + untracked

/-- The counters agree with the stream unless the start counter has saturated. -/
def TalliedIfUnsaturated (edge : EdgeSemantics) (log : List OperationEffect) : Prop :=
  edge.started < u64Max → ∃ direct untracked, Tallied edge log direct untracked

/-- The stream, the machines and the counters agree. -/
structure Faithful (edge : EdgeSemantics) (log : List OperationEffect) : Prop where
  conserved : Conserved edge
  coherent : Coherent (lifetimes log) edge.machineSeq
  live : ∀ id category, Live (lifetimes log) id category ↔
    ∃ (key : UInt64 × UInt16) (machine : OpMachine), edge.active[key]? = some machine ∧
      machine.generation = id ∧ categoryName key.2 = category
  distinct : ∀ {first second : UInt64 × UInt16} {machine other : OpMachine},
    edge.active[first]? = some machine → edge.active[second]? = some other →
      machine.generation = other.generation → first = second
  tallied : TalliedIfUnsaturated edge log

theorem lifetimes_snoc (log : List OperationEffect) (effect : OperationEffect) :
    lifetimes (log ++ [effect]) = lifetimes log ++ [effect.event] :=
  map_append

variable {key : UInt64 × UInt16} {machine : OpMachine}

/-- Live generations never exceed the allocation counter. -/
theorem Faithful.generation_le {edge : EdgeSemantics} {log : List OperationEffect}
    (faithful : Faithful edge log) (live : edge.active[key]? = some machine) :
    machine.generation ≤ edge.machineSeq := by
  have alive := (faithful.live machine.generation (categoryName key.2)).mpr
    ⟨key, machine, live, rfl, rfl⟩
  exact faithful.coherent.bounded _ (mem_identities_of_opened alive.1)

/-- Agreement on the outcome counters and on the exhaustion count. -/
structure SameOutcomes (before after : EdgeSemantics) : Prop where
  idExhaustions : after.idExhaustions = before.idExhaustions
  completed : after.completed = before.completed
  cancelled : after.cancelled = before.cancelled
  failed : after.failed = before.failed
  unknown : after.unknown = before.unknown

variable {after before : EdgeSemantics}

theorem SameOutcomes.of_eq
    (same : (after.idExhaustions, after.completed, after.cancelled, after.failed,
        after.unknown) =
      (before.idExhaustions, before.completed, before.cancelled, before.failed,
        before.unknown)) : SameOutcomes before after := by
  simp only [Prod.mk.injEq] at same
  obtain ⟨exhausted, completed, cancelled, failed, unknown⟩ := same
  exact ⟨exhausted, completed, cancelled, failed, unknown⟩

theorem TalliedIfUnsaturated.congr {log : List OperationEffect}
    (tallied : TalliedIfUnsaturated before log) (started : after.started = before.started)
    (same : SameOutcomes before after) : TalliedIfUnsaturated after log := by
  unfold TalliedIfUnsaturated
  rw [started]
  intro unsaturated
  obtain ⟨direct, untracked, counts⟩ := tallied unsaturated
  exact ⟨direct, untracked, same.idExhaustions ▸ counts.exhausted,
    by rw [started, same.idExhaustions, counts.started],
    by rw [same.completed, counts.completed], by rw [same.cancelled, counts.cancelled],
    by rw [same.failed, counts.failed], by rw [same.unknown, counts.unknown]⟩

/-- Faithfulness only reads the machines, the counters and the allocator. -/
theorem Faithful.congr {log : List OperationEffect} (faithful : Faithful before log)
    (active : after.active = before.active) (machineSeq : after.machineSeq = before.machineSeq)
    (started : after.started = before.started) (same : SameOutcomes before after) :
    Faithful after log where
  conserved := faithful.conserved.congr active started (by
    rw [endedTotal, same.completed, same.cancelled, same.failed, same.unknown, endedTotal])
  coherent := machineSeq ▸ faithful.coherent
  live := active ▸ faithful.live
  distinct := active ▸ faithful.distinct
  tallied := faithful.tallied.congr started same

/-! ## Tallies of an extended stream -/

section

variable (log : List OperationEffect) (effect : OperationEffect)
include log effect

@[simp] theorem startedCount_snoc :
    startedCount (log ++ [effect]) = startedCount log + if effect.isStarted then 1 else 0 := by
  rw [startedCount, countP_append, countP_singleton, startedCount]

@[simp] theorem directCount_snoc :
    directCount (log ++ [effect]) = directCount log + if effect.isDirect then 1 else 0 := by
  rw [directCount, countP_append, countP_singleton, directCount]

@[simp] theorem endedCount_snoc : endedCount outcome (log ++ [effect]) =
      endedCount outcome log + if effect.isEnded outcome then 1 else 0 := by
  rw [endedCount, countP_append, countP_singleton, endedCount]

end

variable {w : World} {log : List OperationEffect}

/-- One more end adds one to the tally of its outcome. -/
theorem Tallied.countEnd {direct untracked : Nat}
    (tallied : Tallied w.toEdgeSemantics log direct untracked)
    (below : endedTotal w.toEdgeSemantics < u64Max) (id : Nat) (category : String)
    (ended : EndState) (origin : EffectOrigin) : Tallied (w.countEnd ended).toEdgeSemantics
      (log ++ [.ended id category ended.outcome origin]) direct untracked := by
  obtain ⟨exhausted, started, completed, cancelled, failed, unknown⟩ := tallied
  unfold endedTotal at below
  have nextCompleted := satAdd_one_of_lt (show w.completed < u64Max by omega)
  have nextCancelled := satAdd_one_of_lt (show w.cancelled < u64Max by omega)
  have nextFailed := satAdd_one_of_lt (show w.failed < u64Max by omega)
  have nextUnknown := satAdd_one_of_lt (show w.unknown < u64Max by omega)
  cases ended <;> constructor <;>
    simp [World.countEnd, EndState.outcome, OperationEffect.isStarted, OperationEffect.isDirect,
      OperationEffect.isEnded] <;> omega

/-! ## Closing and opening lifetimes -/

theorem getElem?_erase_eq_some_iff {other : UInt64 × UInt16} :
    (active.erase key)[other]? = some machine ↔ other ≠ key ∧ active[other]? = some machine := by
  by_cases same : other = key
  · subst same
    simp
  · simp [ExtTreeMap.getElem?_erase, same, Ne.symm same]

theorem getElem?_insert_eq_some_iff {other : UInt64 × UInt16} {stored : OpMachine} :
    (active.insert key stored)[other]? = some machine ↔
      (other = key ∧ machine = stored) ∨ (other ≠ key ∧ active[other]? = some machine) := by
  by_cases same : other = key
  · subst same
    simp [eq_comm]
  · simp [ExtTreeMap.getElem?_insert, same, Ne.symm same]

/-- Removing a live machine and emitting its terminal keeps the stream faithful. -/
theorem Faithful.close (faithful : Faithful before log)
    (live : before.active[key]? = some machine) (outcome : OperationOutcome) (origin : EffectOrigin)
    (active : after.active = before.active.erase key)
    (machineSeq : after.machineSeq = before.machineSeq) (conserved : Conserved after)
    (tallied : TalliedIfUnsaturated after
      (log ++ [.ended machine.generation (categoryName key.2) outcome origin])) :
    Faithful after (log ++ [.ended machine.generation (categoryName key.2) outcome origin]) := by
  have alive := (faithful.live machine.generation (categoryName key.2)).mpr
    ⟨key, machine, live, rfl, rfl⟩
  refine ⟨conserved, ?_, ?_, ?_, tallied⟩
  · rw [machineSeq, lifetimes_snoc]
    exact faithful.coherent.snoc_close alive
  · intro id category
    rw [active, lifetimes_snoc, OperationEffect.event, live_snoc_close, faithful.live]
    constructor
    · rintro ⟨⟨other, found, stored, rfl, rfl⟩, apart⟩
      have moved : other ≠ key := by
        rintro rfl
        rw [live] at stored
        cases stored
        exact apart rfl
      exact ⟨other, found, getElem?_erase_eq_some_iff.mpr ⟨moved, stored⟩, rfl, rfl⟩
    · rintro ⟨other, found, stored, rfl, rfl⟩
      obtain ⟨moved, kept⟩ := getElem?_erase_eq_some_iff.mp stored
      exact ⟨⟨other, found, kept, rfl, rfl⟩, fun same => moved (faithful.distinct kept live same)⟩
  · intro first second one two firstStored secondStored same
    rw [active, getElem?_erase_eq_some_iff] at firstStored secondStored
    exact faithful.distinct firstStored.2 secondStored.2 same

/-- Inserting a machine of the next generation and emitting its start keeps the
stream faithful. -/
theorem Faithful.start (machine : OpMachine)
    (faithful : Faithful before log) (free : before.active[key]? = none) (mechanism : Option UInt64)
    (receipt : Option KeyReceipt) (origin : EffectOrigin)
    (next : machine.generation = before.machineSeq + 1)
    (active : after.active = before.active.insert key machine)
    (machineSeq : after.machineSeq = before.machineSeq + 1) (conserved : Conserved after)
    (tallied : TalliedIfUnsaturated after
      (log ++ [.started machine.generation (categoryName key.2) mechanism receipt origin])) :
    Faithful after
      (log ++ [.started machine.generation (categoryName key.2) mechanism receipt origin]) := by
  have fresh : before.machineSeq < machine.generation := by omega
  refine ⟨conserved, ?_, ?_, ?_, tallied⟩
  · rw [machineSeq, ← next, lifetimes_snoc]
    exact faithful.coherent.snoc_fresh rfl fresh
  · intro id category
    rw [active, lifetimes_snoc, OperationEffect.event, faithful.coherent.live_snoc_open fresh,
      faithful.live]
    constructor
    · rintro (⟨other, found, stored, rfl, rfl⟩ | ⟨rfl, rfl⟩)
      · have moved : other ≠ key := by
          rintro rfl
          rw [free] at stored
          cases stored
        exact ⟨other, found, getElem?_insert_eq_some_iff.mpr (.inr ⟨moved, stored⟩), rfl, rfl⟩
      · exact ⟨key, machine, getElem?_insert_eq_some_iff.mpr (.inl ⟨rfl, rfl⟩), rfl, rfl⟩
    · rintro ⟨other, found, stored, rfl, rfl⟩
      rcases getElem?_insert_eq_some_iff.mp stored with ⟨rfl, rfl⟩ | ⟨-, kept⟩
      · exact .inr ⟨rfl, rfl⟩
      · exact .inl ⟨other, found, kept, rfl, rfl⟩
  · intro first second one two firstStored secondStored same
    rw [active, getElem?_insert_eq_some_iff] at firstStored secondStored
    -- A new generation is above every live one.
    rcases firstStored with ⟨rfl, rfl⟩ | ⟨-, oldFirst⟩
    · rcases secondStored with ⟨rfl, rfl⟩ | ⟨-, oldSecond⟩
      · rfl
      · have := faithful.generation_le oldSecond
        omega
    rcases secondStored with ⟨rfl, rfl⟩ | ⟨-, oldSecond⟩
    · have := faithful.generation_le oldFirst
      omega
    · exact faithful.distinct oldFirst oldSecond same

/-! ## One mutation -/

/-- Ending a live machine closes its lifetime. -/
theorem finishMachine_faithful (live : w.active[key]? = some machine)
    (ended : EndState) (origin : EffectOrigin) (faithful : Faithful w.toEdgeSemantics log) :
    Faithful (w.finishMachine key machine (categoryName key.2) ended origin).toEdgeSemantics
      (log ++ [.ended machine.generation (categoryName key.2) ended.outcome origin]) := by
  let released : World :=
    { w with active := w.active.erase key }.releaseResourceCharge activeMachineCharge
  have active : (released.countEnd ended).active = w.active.erase key := by cases ended <;> rfl
  have machineSeq : (released.countEnd ended).machineSeq = w.machineSeq := by
    cases ended <;> rfl
  have started : (released.countEnd ended).started = w.started := by cases ended <;> rfl
  refine faithful.close live ended.outcome origin active machineSeq
    (finishMachine_conserved live _ ended origin faithful.conserved) ?_
  change TalliedIfUnsaturated (released.countEnd ended).toEdgeSemantics _
  rw [TalliedIfUnsaturated, started]
  intro unsaturated
  obtain ⟨direct, untracked, tallied⟩ := faithful.tallied unsaturated
  have total := faithful.conserved unsaturated
  have before : Tallied released.toEdgeSemantics log direct untracked := { tallied with }
  exact ⟨direct, untracked, before.countEnd
    (show endedTotal w.toEdgeSemantics < u64Max by omega) _ _ ended origin⟩

theorem tallied_start (tallied : TalliedIfUnsaturated before log)
    (same : SameOutcomes before after) (started : after.started = satAdd before.started 1)
    (id : Nat) (category : String) (mechanism : Option UInt64) (receipt : Option KeyReceipt)
    (origin : EffectOrigin) : TalliedIfUnsaturated after
      (log ++ [.started id category mechanism receipt origin]) := by
  intro unsaturated
  rw [started] at unsaturated
  have next := satAdd_eq_of_lt unsaturated
  obtain ⟨direct, untracked, counts⟩ := tallied (by omega)
  obtain ⟨idExhaustions, completed, cancelled, failed, unknown⟩ := same
  refine ⟨direct, untracked, idExhaustions ▸ counts.exhausted, ?_, ?_, ?_, ?_, ?_⟩
  · have begun := counts.started
    simp [OperationEffect.isStarted, OperationEffect.isDirect]
    omega
  · simp [completed, counts.completed, OperationEffect.isEnded, OperationEffect.isDirect]
  · simp [cancelled, counts.cancelled, OperationEffect.isEnded]
  · simp [failed, counts.failed, OperationEffect.isEnded]
  · simp [unknown, counts.unknown, OperationEffect.isEnded]

theorem startFresh_faithful (free : w.active[key]? = none)
    (mechanism : Option UInt64) (receipt : Option KeyReceipt) (origin : EffectOrigin)
    (faithful : Faithful w.toEdgeSemantics log) :
    Faithful (w.startFresh key mechanism receipt origin).toEdgeSemantics
      (log ++ [.started (w.machineSeq + 1) (categoryName key.2) mechanism receipt origin]) :=
  Faithful.start
    { mechanism := mechanism, state := .initialized, generation := w.machineSeq + 1
      key := receipt } faithful free mechanism receipt origin rfl rfl rfl
    (startFresh_conserved free mechanism receipt origin faithful.conserved)
    (tallied_start faithful.tallied (.of_eq (by rfl)) rfl _ _ _ _ _)

/-- A replacement closes the old lifetime before it opens the new one. -/
theorem startOver_faithful {old : OpMachine}
    (live : w.active[key]? = some old) (mechanism : Option UInt64) (receipt : Option KeyReceipt)
    (origin : EffectOrigin) (faithful : Faithful w.toEdgeSemantics log) :
    Faithful (w.startOver key old mechanism receipt origin).toEdgeSemantics
      (log ++ [.ended old.generation (categoryName key.2) .cancelled origin] ++
        [.started (w.machineSeq + 1) (categoryName key.2) mechanism receipt origin]) := by
  have closed := finishMachine_faithful live .cancelled origin faithful
  refine Faithful.start
    { mechanism := mechanism, state := .initialized, generation := w.machineSeq + 1
      key := receipt } closed ExtTreeMap.getElem?_erase_self mechanism receipt origin rfl
    (insert_erase_self w.active key _).symm rfl
    (startOver_conserved live mechanism receipt origin faithful.conserved)
    (tallied_start closed.tallied (.of_eq (by rfl)) rfl _ _ _ _ _)

section

variable (faithful : Faithful w.toEdgeSemantics log)
include faithful

/-- Operations without an identity leave the stream as it is. -/
theorem exhausted_faithful (active : after.active = w.active)
    (machineSeq : after.machineSeq = w.machineSeq) (conserved : Conserved after)
    (tallied : TalliedIfUnsaturated after log) : Faithful after log :=
  ⟨conserved, machineSeq ▸ faithful.coherent, active ▸ faithful.live,
    active ▸ faithful.distinct, tallied⟩

/-- A start below the ceiling leaves every tallied counter room for one more. -/
theorem Faithful.one_more (unsaturated : satAdd w.started 1 < u64Max) :
    ∃ direct untracked, Tallied w.toEdgeSemantics log direct untracked ∧
      satAdd w.started 1 = w.started + 1 ∧ satAdd w.idExhaustions 1 = w.idExhaustions + 1 ∧
      satAdd w.completed 1 = w.completed + 1 ∧ satAdd w.unknown 1 = w.unknown + 1 := by
  have next := satAdd_eq_of_lt unsaturated
  obtain ⟨direct, untracked, counts⟩ := faithful.tallied (by omega)
  have total := faithful.conserved (by omega)
  have started := counts.started
  unfold endedTotal at total
  exact ⟨direct, untracked, counts, next, satAdd_one_of_lt (by omega),
    satAdd_one_of_lt (by omega), satAdd_one_of_lt (by omega)⟩

theorem startExhausted_faithful : Faithful w.startExhausted.toEdgeSemantics log := by
  refine exhausted_faithful faithful rfl rfl
    (startEnded_conserved .unknown faithful.conserved rfl rfl rfl) ?_
  intro unsaturated
  obtain ⟨direct, untracked, counts, next, exhaustions, -, unknowns⟩ :=
    faithful.one_more unsaturated
  obtain ⟨exhausted, started, completed, cancelled, failed, unknown⟩ := counts
  refine ⟨direct, untracked + 1, ?_⟩
  constructor <;> simp only [World.startExhausted] <;> omega

theorem directExhausted_faithful : Faithful w.directExhausted.toEdgeSemantics log := by
  refine exhausted_faithful faithful rfl rfl
    (startEnded_conserved .completed faithful.conserved rfl rfl rfl) ?_
  intro unsaturated
  obtain ⟨direct, untracked, counts, next, exhaustions, completions, -⟩ :=
    faithful.one_more unsaturated
  obtain ⟨exhausted, started, completed, cancelled, failed, unknown⟩ := counts
  refine ⟨direct + 1, untracked, ?_⟩
  constructor <;> simp only [World.directExhausted] <;> omega

end

/-- A direct operation is a point of the next identity. -/
theorem completeDirect_faithful (category : String)
    (mechanism : Option UInt64) (receipts : List KeyReceipt) (origin : EffectOrigin)
    (faithful : Faithful w.toEdgeSemantics log) :
    Faithful (w.completeDirect category mechanism receipts origin).toEdgeSemantics
      (log ++ [.directCompleted (w.machineSeq + 1) category mechanism receipts origin]) := by
  refine ⟨startEnded_conserved .completed faithful.conserved rfl rfl rfl, ?_, ?_,
    faithful.distinct, ?_⟩
  · rw [lifetimes_snoc]
    exact faithful.coherent.snoc_fresh rfl (Nat.lt_succ_self _)
  · intro id tag
    rw [lifetimes_snoc, OperationEffect.event, live_snoc_point]
    exact faithful.live id tag
  · intro unsaturated
    obtain ⟨direct, untracked, counts, next, -, completions, -⟩ :=
      faithful.one_more unsaturated
    obtain ⟨exhausted, started, completed, cancelled, failed, unknown⟩ := counts
    refine ⟨direct, untracked, ?_⟩
    constructor <;> simp [World.completeDirect, World.emit, OperationEffect.isStarted,
      OperationEffect.isDirect, OperationEffect.isEnded] <;> omega

/-- Advancing a live machine changes neither its identity nor its key. -/
theorem advance_faithful (live : w.active[key]? = some machine)
    (state : OpState) (faithful : Faithful w.toEdgeSemantics log) : Faithful ({ w with
      active := w.active.insert key { machine with state := state } } : World).toEdgeSemantics
      log := by
  have generations : ∀ other : UInt64 × UInt16,
      ((w.active.insert key { machine with state := state })[other]?).map OpMachine.generation =
        (w.active[other]?).map OpMachine.generation := by
    intro other
    rw [getElem?_insert_ite]
    split
    case isTrue same =>
      rw [← same, live]
      rfl
    case isFalse => rfl
  refine ⟨(Step.advance live state).conserved faithful.conserved, faithful.coherent, ?_, ?_,
    faithful.tallied.congr rfl (.of_eq rfl)⟩
  · intro id category
    rw [faithful.live]
    refine exists_congr fun other => ?_
    simp only [← and_assoc, exists_and_right, ← Option.map_eq_some_iff, generations other]
  · intro first second one two firstStored secondStored same
    have firstOld := (generations first).symm.trans (congrArg _ firstStored)
    have secondOld := (generations second).symm.trans (congrArg _ secondStored)
    obtain ⟨firstMachine, firstLive, firstSame⟩ := Option.map_eq_some_iff.mp firstOld
    obtain ⟨secondMachine, secondLive, secondSame⟩ := Option.map_eq_some_iff.mp secondOld
    exact faithful.distinct firstLive secondLive (firstSame.trans (same.trans secondSame.symm))

/-- A world whose recording sink is faithful to its reducer. -/
def Recording (w : World) : Prop := ∃ log, w.sink = some log ∧ Faithful w.toEdgeSemantics log

theorem emit_sink (recorded : w.sink = some log)
    (effect : OperationEffect) : (w.emit effect).sink = some (log ++ [effect]) := by
  simp [World.emit, recorded]

variable {next : World}

/-- Every mutation keeps a recording sink faithful. -/
theorem Step.recording {cost : Nat} (taken : Step w cost next) (recording : Recording w) :
    Recording next := by
  obtain ⟨log, recorded, faithful⟩ := recording
  cases taken with
  | quiet same =>
    exact ⟨log, same.sink.trans recorded, faithful.congr same.active same.machineSeq
      same.started ⟨same.idExhaustions, same.completed, same.cancelled, same.failed,
        same.unknown⟩⟩
  | finish live ended origin =>
    refine ⟨_, ?_, finishMachine_faithful live ended origin faithful⟩
    exact emit_sink (by cases ended <;> exact recorded) _
  | advance live state => exact ⟨log, recorded, advance_faithful live state faithful⟩
  | startFresh free _ mechanism receipt origin =>
    exact ⟨_, emit_sink recorded _, startFresh_faithful free mechanism receipt origin faithful⟩
  | startOver live _ mechanism receipt origin =>
    exact ⟨_, emit_sink (emit_sink recorded _) _,
      startOver_faithful live mechanism receipt origin faithful⟩
  | startExhausted => exact ⟨log, recorded, startExhausted_faithful faithful⟩
  | completeDirect _ category mechanism receipts origin =>
    exact ⟨_, emit_sink recorded _,
      completeDirect_faithful category mechanism receipts origin faithful⟩
  | directExhausted => exact ⟨log, recorded, directExhausted_faithful faithful⟩
  | growRow | bindOpen | unbindOpen | clearOpen | queue | retainPending | retainDetached | detach
  | reown => exact ⟨log, recorded, faithful.congr rfl rfl rfl (.of_eq rfl)⟩

theorem Recording.congr {after : World} (recording : Recording w) (sink : after.sink = w.sink)
    (active : after.active = w.active) (machineSeq : after.machineSeq = w.machineSeq)
    (started : after.started = w.started)
    (same : SameOutcomes w.toEdgeSemantics after.toEdgeSemantics) : Recording after := by
  obtain ⟨log, recorded, faithful⟩ := recording
  exact ⟨log, sink.trans recorded, faithful.congr active machineSeq started same⟩

theorem recording_of_steps {budget : Nat} (run : Within Step w budget next)
    (recording : Recording w) : Recording next :=
  run.invariant Recording (fun taken before => taken.recording before) recording

theorem CallStep.recording {cost : Nat} (taken : CallStep w cost next) (recording : Recording w) :
    Recording next := by
  cases taken with
  | step taken => exact taken.recording recording
  | consumePending _ run | consumeDetached _ run =>
    have taken := recording_of_steps run (recording.congr rfl rfl rfl rfl (.of_eq rfl))
    exact taken.congr rfl rfl rfl rfl (.of_eq rfl)

theorem recording_of_within {budget : Nat} (run : Within CallStep w budget next)
    (recording : Recording w) : Recording next :=
  run.invariant Recording (fun taken before => taken.recording before) recording

/-! ## Recorded runs -/

/-- The public operations that deliver every effect to the given sink. -/
inductive RecordingAction where
  | observeWithEffects (call : SemanticCall) (origin : EffectOrigin)
  | observeJoint (call : SemanticCall) (origin : EffectOrigin) (keys : List KeyReceipt)
  | invalidateWithEffects

def RecordingAction.action : RecordingAction → Action
  | .observeWithEffects call origin => .observeWithEffects call origin
  | .observeJoint call origin keys => .observeJoint call origin keys
  | .invalidateWithEffects => .invalidateWithEffects

/-- A reducer driven through recording operations only, with all effects so far. -/
inductive Recorded : EdgeSemantics → List OperationEffect → Prop where
  | default : Recorded {} []
  | withResources {pool after : SharedPool} {edge : EdgeSemantics}
      (admitted : withResources pool = (after, .ok edge)) : Recorded edge []
  | act {edge : EdgeSemantics} {log : List OperationEffect} (before : Recorded edge log)
      (pool : SharedPool) (step : RecordingAction) :
      Recorded ((edge.load pool (some log)).act step.action).toEdgeSemantics
        (((edge.load pool (some log)).act step.action).sink.getD [])

theorem RecordingAction.recording (step : RecordingAction) (recording : Recording w) :
    Recording (w.act step.action) := by
  cases step with
  | observeWithEffects call origin =>
    exact recording_of_within (w.observeInner_within call origin []) recording
  | observeJoint call origin keys =>
    exact recording_of_within (w.observeInner_within call origin keys) recording
  | invalidateWithEffects =>
    exact recording_of_steps w.invalidateWithEffects_within recording

/-- A fresh reducer has emitted nothing and started nothing. -/
theorem faithful_fresh (owner : Option Nat) : Faithful { resourceOwner := owner } [] where
  conserved := fun _ => rfl
  coherent := coherent_nil 0
  live := by
    intro id category
    constructor
    · rintro ⟨opened, -⟩
      exact absurd opened not_mem_nil
    · rintro ⟨key, machine, stored, -, -⟩
      exact absurd stored (by simp)
  distinct := by
    intro first second machine other stored
    exact absurd stored (by simp)
  tallied := fun _ => ⟨0, 0, rfl, rfl, rfl, rfl, rfl, rfl⟩

theorem faithful_of_recorded {edge : EdgeSemantics} {log : List OperationEffect}
    (recorded : Recorded edge log) : Faithful edge log := by
  induction recorded with
  | default => exact faithful_fresh none
  | withResources admitted =>
    rw [(withResources_ok admitted).1]
    exact faithful_fresh _
  | @act edge log before pool step ih =>
    obtain ⟨after, sink, faithful⟩ := step.recording (w := edge.load pool (some log)) ⟨log, rfl, ih⟩
    rw [sink]
    exact faithful

/-- Identities drawn by the started and direct effects of a stream, in order. -/
def drawnIds (log : List OperationEffect) : List Nat :=
  log.filterMap fun
    | .started id _ _ _ _ => some id
    | .directCompleted id _ _ _ _ => some id
    | .ended _ _ _ _ => none

theorem drawnIds_eq_identities (log : List OperationEffect) :
    drawnIds log = identities (lifetimes log) := by
  unfold drawnIds identities lifetimes
  rw [filterMap_map]
  refine filterMap_congr fun effect _ => ?_
  cases effect <;> rfl

theorem opened_mem_lifetimes {log : List OperationEffect} {id : Nat} {category : String} :
    .opened id category ∈ lifetimes log ↔
      ∃ mechanism receipt origin, .started id category mechanism receipt origin ∈ log := by
  constructor
  · intro member
    obtain ⟨effect, stored, event⟩ := mem_map.mp member
    cases effect <;> cases event
    exact ⟨_, _, _, stored⟩
  · rintro ⟨mechanism, receipt, origin, stored⟩
    exact mem_map_of_mem stored

theorem closed_mem_lifetimes {log : List OperationEffect} {id : Nat} :
    (∃ category, .closed id category ∈ lifetimes log) ↔
      ∃ category outcome origin, .ended id category outcome origin ∈ log := by
  constructor
  · rintro ⟨category, member⟩
    obtain ⟨effect, stored, event⟩ := mem_map.mp member
    cases effect <;> cases event
    exact ⟨_, _, _, stored⟩
  · rintro ⟨category, outcome, origin, stored⟩
    exact ⟨category, mem_map_of_mem stored⟩

/-- The recorded stream of any run: identities of starts and direct completions
strictly increase; every terminal names a start of the same category before it
that had not ended; the started and not ended identities are the generations of
the live machines; and the tallies reproduce the counters, the operations
without an identity being split between completed and unknown. -/
theorem recorded_stream_faithful {edge : EdgeSemantics} {log : List OperationEffect}
    (recorded : Recorded edge log) (unsaturated : edge.started < u64Max) :
    (drawnIds log).Pairwise (· < ·) ∧
    (∀ before id category outcome origin after,
      log = before ++ .ended id category outcome origin :: after →
        (∃ mechanism receipt start, .started id category mechanism receipt start ∈ before) ∧
          ¬ ∃ category outcome origin, .ended id category outcome origin ∈ before) ∧
    (∀ id, ((∃ category mechanism receipt start,
          .started id category mechanism receipt start ∈ log) ∧
        ¬ ∃ category outcome origin, .ended id category outcome origin ∈ log) ↔
      ∃ (key : UInt64 × UInt16) (machine : OpMachine),
        edge.active[key]? = some machine ∧ machine.generation = id) ∧
    startedCount log + directCount log + edge.idExhaustions = edge.started ∧
    ∃ direct untracked, direct + untracked = edge.idExhaustions ∧
      edge.completed = endedCount .completed log + directCount log + direct ∧
      edge.cancelled = endedCount .cancelled log ∧
      edge.failed = endedCount .failed log ∧
      edge.unknown = endedCount .unknown log + untracked := by
  have faithful := faithful_of_recorded recorded
  obtain ⟨direct, untracked, counts⟩ := faithful.tallied unsaturated
  refine ⟨?_, ?_, ?_, counts.started.symm, direct, untracked, counts.exhausted,
    counts.completed, counts.cancelled, counts.failed, counts.unknown⟩
  · rw [drawnIds_eq_identities]
    exact faithful.coherent.increasing
  · intro before id category outcome origin after equation
    have alive := faithful.coherent.closes (lifetimes before) id category (lifetimes after) (by
      rw [equation]
      simp [lifetimes, OperationEffect.event])
    refine ⟨opened_mem_lifetimes.mp alive.1, ?_⟩
    rw [← closed_mem_lifetimes]
    rintro ⟨other, closed⟩
    exact alive.2 other closed
  · intro id
    rw [← closed_mem_lifetimes]
    constructor
    · rintro ⟨⟨category, opened⟩, unclosed⟩
      have alive : Live (lifetimes log) id category :=
        ⟨opened_mem_lifetimes.mpr opened, fun other closed => unclosed ⟨other, closed⟩⟩
      obtain ⟨key, machine, stored, named, -⟩ := (faithful.live id category).mp alive
      exact ⟨key, machine, stored, named⟩
    · rintro ⟨key, machine, stored, named⟩
      have alive := (faithful.live id (categoryName key.2)).mpr ⟨key, machine, stored, named, rfl⟩
      exact ⟨⟨_, opened_mem_lifetimes.mp alive.1⟩, fun ⟨other, closed⟩ => alive.2 other closed⟩

/-- The world after a recorded signing initialization and a loss boundary. -/
def signThenLoss : World :=
  let started := (EdgeSemantics.load {} defaultPool (some [])).act
    (.observeWithEffects signInitCall (.ofCall signInitCall))
  (started.toEdgeSemantics.load defaultPool (some (started.sink.getD []))).act
    .invalidateWithEffects

theorem recorded_stream_faithful_signThenLoss :
    drawnIds (signThenLoss.sink.getD []) = [1] ∧
      endedCount .unknown (signThenLoss.sink.getD []) = 1 ∧
      startedCount (signThenLoss.sink.getD []) + directCount (signThenLoss.sink.getD []) +
        signThenLoss.idExhaustions = signThenLoss.started :=
  ⟨by decide +kernel, by decide +kernel,
    (recorded_stream_faithful
      (.act (.act .default defaultPool
        (.observeWithEffects signInitCall (.ofCall signInitCall))) defaultPool
          .invalidateWithEffects) (by decide +kernel)).2.2.2.1⟩

end P11Scope.Edge
