import P11Scope.Lib.Budget
import P11Scope.Edge.Rows

/-!
# What one mutation of the reducer can do

`Step` lists every mutation of the tracked state together with the bytes it
splits off the reservation.  Each reducer function is a run of such steps
within a stated budget, so an invariant is proved once per mutation and holds
after every call.
-/

namespace P11Scope.Edge

open Std Lib Lib.TreeMap Kinds

/-- The charge a stored call was queued with. -/
def storedCharge (call : SemanticCall) : Nat :=
  asyncCharge call (descriptorOrCountOnly call.function)

/-- Agreement on everything the accounting and the effect stream depend on. -/
structure SameCore (before after : World) : Prop where
  openBindings : after.openBindings = before.openBindings
  active : after.active = before.active
  mechs : after.mechs = before.mechs
  pending : after.pending = before.pending
  detached : after.detached = before.detached
  machineSeq : after.machineSeq = before.machineSeq
  idExhaustions : after.idExhaustions = before.idExhaustions
  started : after.started = before.started
  completed : after.completed = before.completed
  cancelled : after.cancelled = before.cancelled
  failed : after.failed = before.failed
  unknown : after.unknown = before.unknown
  resourceTransition : after.resourceTransition = before.resourceTransition
  resourceOwner : after.resourceOwner = before.resourceOwner
  pool : after.pool = before.pool
  sink : after.sink = before.sink
  held : after.held = before.held
  panicked : after.panicked = before.panicked

/-- A world without the counters outside its core. -/
def World.core (w : World) : World :=
  { w with
    sequence := 0, calls := 0, orphans := 0, dropped := 0, lastSeenNs := 0, evidence := {}
    unauthorizedCalls := 0, ambiguousCalls := 0, countOnlyCalls := 0, unattributableCalls := 0
    doubleLoadDetected := false, seenClaimCapable := false }

theorem SameCore.of_eq {before after : World} (same : after.core = before.core) :
    SameCore before after where
  openBindings := congrArg (·.openBindings) same
  active := congrArg (·.active) same
  mechs := congrArg (·.mechs) same
  pending := congrArg (·.pending) same
  detached := congrArg (·.detached) same
  machineSeq := congrArg (·.machineSeq) same
  idExhaustions := congrArg (·.idExhaustions) same
  started := congrArg (·.started) same
  completed := congrArg (·.completed) same
  cancelled := congrArg (·.cancelled) same
  failed := congrArg (·.failed) same
  unknown := congrArg (·.unknown) same
  resourceTransition := congrArg (·.resourceTransition) same
  resourceOwner := congrArg (·.resourceOwner) same
  pool := congrArg (·.pool) same
  sink := congrArg (·.sink) same
  held := congrArg (·.held) same
  panicked := congrArg (·.panicked) same

namespace World

variable (w : World)

/-- Start a machine under a free key. -/
def startFresh (key : UInt64 × UInt16) (mechanism : Option UInt64) (receipt : Option KeyReceipt)
    (origin : EffectOrigin) : World :=
  let generation := w.machineSeq + 1
  let w := { w with machineSeq := generation }.retainResourceCharge activeMachineCharge
  let w := { w with
    active := w.active.insert key
      { mechanism := mechanism, state := .initialized, generation := generation, key := receipt }
    started := satAdd w.started 1 }
  w.emit (.started generation (categoryName key.2) mechanism receipt origin)

/-- Start a machine over the live machine `old`, which ends cancelled first. -/
def startOver (key : UInt64 × UInt16) (old : OpMachine) (mechanism : Option UInt64)
    (receipt : Option KeyReceipt) (origin : EffectOrigin) : World :=
  let generation := w.machineSeq + 1
  let w := { w with
    machineSeq := generation
    active := w.active.insert key
      { mechanism := mechanism, state := .initialized, generation := generation, key := receipt }
    cancelled := satAdd w.cancelled 1
    started := satAdd w.started 1 }
  (w.emit (.ended old.generation (categoryName key.2) .cancelled origin)).emit
    (.started generation (categoryName key.2) mechanism receipt origin)

/-- Count an operation that found no identity left. -/
def startExhausted : World :=
  { w with
    started := satAdd w.started 1
    unknown := satAdd w.unknown 1
    idExhaustions := satAdd w.idExhaustions 1 }

/-- Start and complete a direct operation. -/
def completeDirect (category : String) (mechanism : Option UInt64) (receipts : List KeyReceipt)
    (origin : EffectOrigin) : World :=
  { w with
    started := satAdd w.started 1
    completed := satAdd w.completed 1
    machineSeq := w.machineSeq + 1 }.emit
      (.directCompleted (w.machineSeq + 1) category mechanism receipts origin)

/-- Count a direct operation that found no identity left. -/
def directExhausted : World :=
  { w with
    started := satAdd w.started 1
    completed := satAdd w.completed 1
    idExhaustions := satAdd w.idExhaustions 1 }

/-- Store a row, retaining the bytes it grew by. -/
def growRow (mechanism : UInt64) (row : EdgeMechStat) (bytes : Nat) : World :=
  { w.retainResourceCharge bytes with mechs := w.mechs.insert mechanism row }

/-- Bind an open session. -/
def bindOpen (session slotId : UInt64) : World :=
  { w.retainResourceCharge openBindingCharge with
    openBindings := w.openBindings.insert session slotId }

/-- Forget an open session. -/
def unbindOpen (session : UInt64) : World :=
  { w with openBindings := w.openBindings.erase session }.releaseResourceCharge
    openBindingCharge

/-- Store a queued call with the lease split off for it. -/
def queueRecord (key : UInt64 × UInt32) (record : PendingCall) (bytes : Nat) : World :=
  { (w.takeResourceCharge bytes).1 with
    pending := w.pending.insert key
      { record with resource := (w.takeResourceCharge bytes).2 } }

end World

/-- One mutation, with the bytes it splits off the reservation. -/
inductive Step : World → Nat → World → Prop where
  | quiet {w next : World} (same : SameCore w next) : Step w 0 next
  | finish {w : World} {key : UInt64 × UInt16} {machine : OpMachine}
      (live : w.active[key]? = some machine) (ended : EndState) (origin : EffectOrigin) :
      Step w 0 (w.finishMachine key machine (categoryName key.2) ended origin)
  | advance {w : World} {key : UInt64 × UInt16} {machine : OpMachine}
      (live : w.active[key]? = some machine) (state : OpState) :
      Step w 0 { w with active := w.active.insert key { machine with state := state } }
  | startFresh {w : World} {key : UInt64 × UInt16} (free : w.active[key]? = none)
      (room : w.machineSeq < u64Max) (mechanism : Option UInt64) (receipt : Option KeyReceipt)
      (origin : EffectOrigin) :
      Step w activeMachineCharge (w.startFresh key mechanism receipt origin)
  | startOver {w : World} {key : UInt64 × UInt16} {old : OpMachine}
      (live : w.active[key]? = some old) (room : w.machineSeq < u64Max)
      (mechanism : Option UInt64) (receipt : Option KeyReceipt) (origin : EffectOrigin) :
      Step w 0 (w.startOver key old mechanism receipt origin)
  | startExhausted (w : World) : Step w 0 w.startExhausted
  | completeDirect {w : World} (room : w.machineSeq < u64Max) (category : String)
      (mechanism : Option UInt64) (receipts : List KeyReceipt) (origin : EffectOrigin) :
      Step w 0 (w.completeDirect category mechanism receipts origin)
  | directExhausted (w : World) : Step w 0 w.directExhausted
  | growRow {w : World} {mechanism : UInt64} {row : EdgeMechStat} {bytes : Nat}
      (grown : rowCharge row = rowCharge? w.mechs[mechanism]? + bytes) :
      Step w bytes (w.growRow mechanism row bytes)
  | bindOpen {w : World} {session : UInt64} (free : w.openBindings[session]? = none)
      (slotId : UInt64) : Step w openBindingCharge (w.bindOpen session slotId)
  | unbindOpen {w : World} {session slotId : UInt64}
      (bound : w.openBindings[session]? = some slotId) : Step w 0 (w.unbindOpen session)
  | clearOpen (w : World) : Step w 0 w.clearOpen
  | queue {w : World} {key : UInt64 × UInt32} (record : PendingCall)
      (free : w.pending[key]? = none) :
      Step w (storedCharge record.call)
        (w.queueRecord key record (storedCharge record.call))
  | retainPending (w : World) (keep : UInt64 × UInt32 → PendingCall → Bool) :
      Step w 0 (w.retainPending keep)
  | retainDetached (w : World) (keep : UInt64 × UInt32 × UInt64 → AsyncId → Bool) :
      Step w 0 (w.retainDetached keep)
  | detach {w : World} {key : UInt64 × UInt32} {record : PendingCall}
      {detachedKey : UInt64 × UInt32 × UInt64} (id : AsyncId)
      (stored : w.pending[key]? = some record) (free : w.detached[detachedKey]? = none)
      (sameCall : id.call = record.call) (sameLease : id.resource = record.resource) :
      Step w 0 { w with
        pending := w.pending.erase key, detached := w.detached.insert detachedKey id }
  | reown {w : World} (update : UInt64 × UInt32 × UInt64 → AsyncId → Option UInt64) :
      Step w 0 { w with
        detached := w.detached.map fun key id => { id with owner := update key id } }

/-- No such mutation touches the leases held in local variables. -/
theorem Step.held {w next : World} {cost : Nat} (taken : Step w cost next) :
    next.held = w.held := by
  cases taken with
  | quiet same => exact same.held
  | finish _ ended => cases ended <;> rfl
  | _ => rfl

/-- A mutation, or the completion or eviction of a stored record: its lease
moves to a local variable, a run of mutations follows, the lease is dropped. -/
inductive CallStep : World → Nat → World → Prop where
  | step {w next : World} {cost : Nat} (taken : Step w cost next) : CallStep w cost next
  | consumePending {w next : World} {cost : Nat} {key : UInt64 × UInt32}
      {record : PendingCall} (stored : w.pending[key]? = some record)
      (run : Within Step (w.takePending key record) cost next) : CallStep w cost next.dropHeld
  | consumeDetached {w next : World} {cost : Nat} {key : UInt64 × UInt32 × UInt64}
      {record : AsyncId} (stored : w.detached[key]? = some record)
      (run : Within Step (w.takeDetached key record) cost next) : CallStep w cost next.dropHeld

/-- Runs of mutations are runs of call steps. -/
theorem callRun {w next : World} {budget : Nat} (run : Within Step w budget next) :
    Within CallStep w budget next :=
  run.lift .step

/-- No lease stays in a local variable past the call that took it. -/
theorem CallStep.unheld {w next : World} {cost : Nat} (taken : CallStep w cost next)
    (unheld : w.held = 0) : next.held = 0 := by
  cases taken with
  | step taken => exact taken.held.trans unheld
  | consumePending | consumeDetached => rfl

theorem unheld_of_within {w next : World} {budget : Nat} (run : Within CallStep w budget next)
    (unheld : w.held = 0) : next.held = 0 :=
  run.invariant (fun w => w.held = 0) (fun taken before => taken.unheld before) unheld

end P11Scope.Edge
