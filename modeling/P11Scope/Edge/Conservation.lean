import P11Scope.Edge.Actions
import P11Scope.Edge.Observation

/-!
# Conservation of operations

Every started operation is live or has ended in exactly one way.  The law is an
invariant of every mutation, hence of every reducer reached through the public
operations.
-/

namespace P11Scope.Edge

open Std Lib Lib.TreeMap

/-- Operations that have ended, in whichever way. -/
def endedTotal (edge : EdgeSemantics) : Nat :=
  edge.completed + edge.cancelled + edge.failed + edge.unknown

/-- Started operations are the ended ones plus the live ones, unless the start
counter has saturated. -/
def Conserved (edge : EdgeSemantics) : Prop :=
  edge.started < u64Max → edge.started = endedTotal edge + edge.active.size

/-- Conservation only reads the machines and the operation counters. -/
theorem Conserved.congr {before after : EdgeSemantics} (holds : Conserved before)
    (active : after.active = before.active) (started : after.started = before.started)
    (total : endedTotal after = endedTotal before) : Conserved after := by
  unfold Conserved
  rw [active, started, total]
  exact holds

theorem satAdd_one_of_lt {counter : Nat} (below : counter < u64Max) :
    satAdd counter 1 = counter + 1 := by
  unfold satAdd
  omega

variable {w : World}

/-- One more end counts once, since no outcome counter is above the total. -/
theorem endedTotal_countEnd (below : endedTotal w.toEdgeSemantics < u64Max) (ended : EndState) :
    endedTotal (w.countEnd ended).toEdgeSemantics = endedTotal w.toEdgeSemantics + 1 := by
  unfold endedTotal at below ⊢
  cases ended
  all_goals
    dsimp only [World.countEnd]
    rw [satAdd_one_of_lt (by omega)]
    omega

/-! ## One mutation -/

variable {key : UInt64 × UInt16}

/-- Ending a live machine moves it from the live count to one outcome count. -/
theorem finishMachine_conserved {machine : OpMachine} (live : w.active[key]? = some machine)
    (category : String) (ended : EndState) (origin : EffectOrigin)
    (holds : Conserved w.toEdgeSemantics) :
    Conserved (w.finishMachine key machine category ended origin).toEdgeSemantics := by
  let released : World :=
    { w with active := w.active.erase key }.releaseResourceCharge activeMachineCharge
  have size := size_erase_of_present live
  have active : (released.countEnd ended).active = w.active.erase key := by cases ended <;> rfl
  have started : (released.countEnd ended).started = w.started := by cases ended <;> rfl
  change Conserved (released.countEnd ended).toEdgeSemantics
  unfold Conserved
  rw [active, started]
  intro unsaturated
  have total := holds unsaturated
  have counted := endedTotal_countEnd (w := released)
    (show endedTotal w.toEdgeSemantics < u64Max by omega) ended
  have before : endedTotal released.toEdgeSemantics = endedTotal w.toEdgeSemantics := rfl
  omega

/-- A fresh start adds one started and one live operation. -/
theorem startFresh_conserved (free : w.active[key]? = none) (mechanism : Option UInt64)
    (receipt : Option KeyReceipt) (origin : EffectOrigin) (holds : Conserved w.toEdgeSemantics) :
    Conserved (w.startFresh key mechanism receipt origin).toEdgeSemantics := by
  intro unsaturated
  change satAdd w.started 1 < u64Max at unsaturated
  change satAdd w.started 1 = endedTotal w.toEdgeSemantics + (w.active.insert key _).size
  have exactly := satAdd_eq_of_lt unsaturated
  rw [size_insert_of_absent free]
  have total := holds (by omega)
  omega

/-- A replacement ends one operation and starts another. -/
theorem startOver_conserved {old : OpMachine} (live : w.active[key]? = some old)
    (mechanism : Option UInt64) (receipt : Option KeyReceipt) (origin : EffectOrigin)
    (holds : Conserved w.toEdgeSemantics) :
    Conserved (w.startOver key old mechanism receipt origin).toEdgeSemantics := by
  intro unsaturated
  change satAdd w.started 1 < u64Max at unsaturated
  change satAdd w.started 1 = endedTotal (w.countEnd .cancelled).toEdgeSemantics +
    (w.active.insert key _).size
  have exactly := satAdd_eq_of_lt unsaturated
  have total := holds (by omega)
  rw [size_insert_of_present live, endedTotal_countEnd (by omega)]
  omega

/-- A direct operation, or one without an identity left for it, ends where it starts. -/
theorem startEnded_conserved {after : World} (ended : EndState)
    (holds : Conserved w.toEdgeSemantics)
    (active : after.active = w.active) (started : after.started = satAdd w.started 1)
    (total : endedTotal after.toEdgeSemantics = endedTotal (w.countEnd ended).toEdgeSemantics) :
    Conserved after.toEdgeSemantics := by
  unfold Conserved
  rw [active, started, total]
  intro unsaturated
  have exactly := satAdd_eq_of_lt unsaturated
  have before := holds (by omega)
  rw [endedTotal_countEnd (by omega)]
  omega

variable {next : World}

/-- Every mutation conserves operations. -/
theorem Step.conserved {cost : Nat} (taken : Step w cost next) (holds : Conserved w.toEdgeSemantics)
    : Conserved next.toEdgeSemantics := by
  cases taken with
  | quiet same =>
    refine holds.congr same.active same.started ?_
    unfold endedTotal
    rw [same.completed, same.cancelled, same.failed, same.unknown]
  | finish live ended origin => exact finishMachine_conserved live _ ended origin holds
  | advance live state =>
    unfold Conserved
    rw [show ({ w with active := w.active.insert _ _ } : World).active.size = w.active.size from
      size_insert_of_present live _]
    exact holds
  | startFresh free _ mechanism receipt origin =>
    exact startFresh_conserved free mechanism receipt origin holds
  | startOver live _ mechanism receipt origin =>
    exact startOver_conserved live mechanism receipt origin holds
  | startExhausted => exact startEnded_conserved .unknown holds rfl rfl rfl
  | completeDirect | directExhausted => exact startEnded_conserved .completed holds rfl rfl rfl
  | growRow | bindOpen | unbindOpen | clearOpen | queue | retainPending | retainDetached | detach
  | reown => exact holds

/-- Every run of mutations conserves operations. -/
theorem conserved_of_steps {budget : Nat} (run : Within Step w budget next)
    (holds : Conserved w.toEdgeSemantics) : Conserved next.toEdgeSemantics :=
  run.invariant (fun w => Conserved w.toEdgeSemantics)
    (fun taken before => taken.conserved before) holds

theorem CallStep.conserved {cost : Nat} (taken : CallStep w cost next)
    (holds : Conserved w.toEdgeSemantics) : Conserved next.toEdgeSemantics := by
  cases taken with
  | step taken => exact taken.conserved holds
  | consumePending _ run | consumeDetached _ run =>
    have consumed := conserved_of_steps run holds
    exact consumed

/-! ## Every public operation -/

variable (call : SemanticCall)

theorem observeInner_conserved (origin : EffectOrigin) (keys : List KeyReceipt)
    (holds : Conserved w.toEdgeSemantics) :
    Conserved (w.observeInner call origin keys).1.toEdgeSemantics :=
  (w.observeInner_within call origin keys).invariant (fun w => Conserved w.toEdgeSemantics)
    (fun taken before => taken.conserved before) holds

theorem invalidate_conserved (holds : Conserved w.toEdgeSemantics) :
    Conserved w.invalidate.toEdgeSemantics := by
  change Conserved { w with sink := none }.invalidateWithEffects.toEdgeSemantics
  exact conserved_of_steps (World.invalidateWithEffects_within _) holds

theorem observeResourced_conserved {run : World → World × Nat}
    (each : ∀ w : World, Conserved w.toEdgeSemantics → Conserved (run w).1.toEdgeSemantics)
    (holds : Conserved w.toEdgeSemantics) :
    Conserved (w.observeResourced call run).1.toEdgeSemantics := by
  have prepared := w.prepareResourceTransition_edge call
  unfold World.observeResourced
  split
  case h_1 refused equation =>
    rw [equation] at prepared
    exact invalidate_conserved (prepared ▸ holds)
  rename_i ready reservation equation
  rw [equation] at prepared
  have before : Conserved ready.toEdgeSemantics := prepared ▸ holds
  exact each (ready.installTransition reservation) before

theorem act_conserved (action : Action) (holds : Conserved w.toEdgeSemantics) :
    Conserved (w.act action).toEdgeSemantics := by
  have observed : ∀ (call : SemanticCall) (w : World), Conserved w.toEdgeSemantics →
      Conserved (w.observe call).1.toEdgeSemantics := fun call w before =>
    observeInner_conserved (w := { w with sink := none }) call .placeholder [] before
  cases action with
  | observe call => exact observed call w holds
  | observeWithEffects call origin => exact observeInner_conserved call origin [] holds
  | observeJoint call origin keys => exact observeInner_conserved call origin keys holds
  | observeWithResources call => exact observeResourced_conserved call (observed call) holds
  | observeWithResourcesAndEffects call origin =>
    exact observeResourced_conserved call
      (fun _ before => observeInner_conserved call origin [] before) holds
  | observeJointWithResources call origin keys =>
    have prepared := w.prepareResourceTransition_edge call
    change Conserved (w.observeJointWithResources call origin keys).1.toEdgeSemantics
    unfold World.observeJointWithResources
    split
    · exact observeInner_conserved call origin keys holds
    split
    case h_1 equation =>
      rw [equation] at prepared
      exact prepared ▸ holds
    rename_i ready reservation equation
    rw [equation] at prepared
    have before : Conserved ready.toEdgeSemantics := prepared ▸ holds
    exact observeInner_conserved (w := ready.installTransition reservation) call origin keys before
  | invalidate => exact invalidate_conserved holds
  | invalidateWithEffects =>
    exact conserved_of_steps w.invalidateWithEffects_within holds
  | markDoubleLoad => exact invalidate_conserved holds
  | clearDoubleLoad => exact holds

theorem conserved_of_reached {edge : EdgeSemantics} (reached : Reached edge) : Conserved edge := by
  induction reached with
  | default => exact fun _ => rfl
  | withResources admitted =>
    rw [(withResources_ok admitted).1]
    exact fun _ => rfl
  | act before pool sink action ih =>
    exact act_conserved (w := EdgeSemantics.load _ pool sink) action ih

/-- In every reached reducer whose start counter has not saturated, the started
operations are the completed, cancelled, failed, unknown and live ones.  No
other counter can saturate before the start counter does. -/
theorem started_eq_ended_add_live {edge : EdgeSemantics} (reached : Reached edge)
    (unsaturated : edge.started < u64Max) :
    edge.started =
      edge.completed + edge.cancelled + edge.failed + edge.unknown + edge.active.size :=
  conserved_of_reached reached unsaturated

/-- A signing operation initialized on session 7 with mechanism 64. -/
def signInitCall : SemanticCall :=
  { function := "C_SignInit", session := 7, mechanism := 64, capture := Capture.mechanismValue }

/-- A pool of the default limit. -/
def defaultPool : SharedPool := .new semanticResourceLimit (by decide)

theorem started_eq_ended_add_live_signInit :
    let edge :=
      ((EdgeSemantics.load {} defaultPool none).act (.observe signInitCall)).toEdgeSemantics
    edge.started = 1 ∧ edge.started =
      edge.completed + edge.cancelled + edge.failed + edge.unknown + edge.active.size :=
  ⟨by decide +kernel, started_eq_ended_add_live (.act .default _ _ _) (by decide +kernel)⟩

end P11Scope.Edge
