import P11Scope.Edge.Growth

/-!
# Leases, machine ends and retirement

The operations that only take state away: every lease movement, the one end
site of a machine, the sweeps over pending and detached records, and the
retirement of a session, of the whole edge scope, and at a loss boundary.  A
`retain` is a filter that refunds the leases of the dropped records; a
`pop_first` loop is a fold over the entries in key order.
-/

namespace P11Scope.Edge

open Std Lib.TreeMap Kinds

/-- Category name of a live machine's bit. -/
def categoryName (bit : UInt16) : String := (operationName bit).getD "operation"

/-- Remember a function name within its bound, or flag the truncation. -/
def recordFunction (stat : EdgeMechStat) (function : String) : EdgeMechStat :=
  if stat.functions.contains function then stat
  else if maxEdgeProvenanceFunctions ≤ stat.functions.size then { stat with truncated := true }
  else { stat with functions := stat.functions.insert function }

/-- Remember a return code within its bound, or flag the truncation. -/
def recordReturn (stat : EdgeMechStat) (rv : UInt64) : EdgeMechStat :=
  if stat.returns.contains rv then stat
  else if maxEdgeProvenanceReturns ≤ stat.returns.size then { stat with truncated := true }
  else { stat with returns := stat.returns.insert rv }

/-- Provenance of one attributed call. -/
def recordProvenance (stat : EdgeMechStat) (call : SemanticCall) : EdgeMechStat :=
  recordReturn (recordFunction stat call.function) call.rv

/-- Bytes of the lease a stored record holds. -/
def leaseBytes (resource : Option Nat) : Nat := resource.getD 0

namespace World

/-! ## Leases -/

variable (w : World)

def takeResourceCharge (bytes : Nat) : World × Option Nat :=
  ({ w with
      resourceTransition := w.resourceTransition.map (· - bytes)
      panicked := w.panicked || w.resourceTransition.any (· < bytes) },
    w.resourceTransition.map fun _ => bytes)

/-- Split `bytes` off the reservation and absorb them into the owner lease. -/
def retainResourceCharge (bytes : Nat) : World :=
  { w with
    resourceTransition := w.resourceTransition.map (· - bytes)
    resourceOwner :=
      if w.resourceTransition.isSome then w.resourceOwner.map (· + bytes) else w.resourceOwner
    panicked := w.panicked || w.resourceTransition.any fun reservation =>
      decide (reservation < bytes) || w.resourceOwner.all (usizeMax < · + bytes) }

def releaseResourceCharge (bytes : Nat) : World :=
  { w with
    resourceOwner := w.resourceOwner.map (· - bytes)
    pool := if w.resourceOwner.isSome then w.pool.refund bytes else w.pool
    panicked := w.panicked || w.resourceOwner.any fun owner =>
      decide (owner < bytes) || decide (w.pool.charged < bytes) }

/-- Drop leases of `bytes` in total. -/
def dropLeases (bytes : Nat) : World :=
  { w with
    pool := w.pool.refund bytes
    panicked := w.panicked || decide (w.pool.charged < bytes) }

/-- Drop the leases held in local variables. -/
def dropHeld : World :=
  { w.dropLeases w.held with held := 0 }

/-! ## Ending machines -/

def emit (effect : OperationEffect) : World :=
  { w with sink := w.sink.map (· ++ [effect]) }

/-- The effect origin a consumer sees; without a consumer none is built. -/
def effectOrigin (origin : EffectOrigin) : EffectOrigin :=
  if w.sink.isSome then origin else .placeholder

def countEnd : EndState → World
  | .completed => { w with completed := satAdd w.completed 1 }
  | .cancelled => { w with cancelled := satAdd w.cancelled 1 }
  | .failed => { w with failed := satAdd w.failed 1 }
  | .unknown => { w with unknown := satAdd w.unknown 1 }

/-- Remove a live machine, refund its charge, count and emit its terminal. -/
def finishMachine (key : UInt64 × UInt16) (machine : OpMachine) (category : String)
    (ended : EndState) (origin : EffectOrigin) : World :=
  let w := { w with active := w.active.erase key }
  let w := w.releaseResourceCharge activeMachineCharge
  let w := w.countEnd ended
  w.emit (.ended machine.generation category ended.outcome origin)

variable (session : UInt64)

def endMachine (bit : UInt16) (category : String) (ended : EndState) (origin : EffectOrigin) :
    World × Bool :=
  match w.active[(session, bit)]? with
  | some machine => (w.finishMachine (session, bit) machine category ended origin, true)
  | none => (w, false)

/-- End each listed machine through the one end site. -/
def endMachines (keys : List (UInt64 × UInt16)) (ended : EndState) (origin : EffectOrigin) :
    World :=
  keys.foldl (fun w key => (w.endMachine key.1 key.2 (categoryName key.2) ended origin).1) w

def endSessionMachines (ended : EndState) (origin : EffectOrigin) : World × Bool :=
  let doomed := w.active.keys.filter fun key => key.1 = session
  (w.endMachines doomed ended origin, !doomed.isEmpty)

/-- End every machine, popped in key order rather than through `endMachine`. -/
def endSessionMachinesAll (ended : EndState) (origin : EffectOrigin) : World × Bool :=
  (w.active.toList.foldl
      (fun w entry => w.finishMachine entry.1 entry.2 (categoryName entry.1.2) ended origin) w,
    !w.active.isEmpty)

/-! ## Asynchronous custody -/

/-- `pending.retain`: dropped records refund their leases. -/
def retainPending (keep : UInt64 × UInt32 → PendingCall → Bool) : World :=
  let released := sumBy (fun _ record => leaseBytes record.resource)
    (w.pending.filter fun key record => !keep key record)
  { w with pending := w.pending.filter keep }.dropLeases released

/-- `detached.retain`: dropped records refund their leases. -/
def retainDetached (keep : UInt64 × UInt32 × UInt64 → AsyncId → Bool) : World :=
  let released := sumBy (fun _ record => leaseBytes record.resource)
    (w.detached.filter fun key record => !keep key record)
  { w with detached := w.detached.filter keep }.dropLeases released

/-- Float one session's async ids: detached and joinable. -/
def floatSessionAsync : World × Bool :=
  ({ w with
      detached := w.detached.map fun _ id =>
        if id.owner = some session then { id with owner := none } else id },
    w.detached.toList.any fun entry => entry.2.owner = some session)

def clearAsyncPayloads : World :=
  (w.retainPending fun _ _ => false).retainDetached fun _ _ => false

/-- Remove a pending record; its lease moves to a local variable. -/
def takePending (key : UInt64 × UInt32) (record : PendingCall) : World :=
  { w with pending := w.pending.erase key, held := w.held + leaseBytes record.resource }

/-- Remove a detached record; its lease moves to a local variable. -/
def takeDetached (key : UInt64 × UInt32 × UInt64) (record : AsyncId) : World :=
  { w with detached := w.detached.erase key, held := w.held + leaseBytes record.resource }

/-! ## Retirement -/

/-- Forget one open binding; the flag tells whether it existed. -/
def removeOpen : World × Bool :=
  if w.openBindings.contains session then
    ({ w with openBindings := w.openBindings.erase session }.releaseResourceCharge
        openBindingCharge, true)
  else (w, false)

def clearOpen : World :=
  { w with openBindings := ∅ }.releaseResourceCharge (w.openBindings.size * openBindingCharge)

/-- Whether `retain` with the session predicate dropped a record. -/
def dropSessionPending : World × Bool :=
  let after := w.retainPending fun key _ => key.1 ≠ session
  (after, after.pending.size != w.pending.size)

def retireSession (ended : EndState) (origin : EffectOrigin) : World × Bool :=
  let (w, closed) := w.removeOpen session
  let (w, endedAny) := w.endSessionMachines session ended origin
  let (w, dropped) := w.dropSessionPending session
  let (w, floated) := w.floatSessionAsync session
  (w, closed || endedAny || dropped || floated)

def retireAll (sessionEnd : EndState) (origin : EffectOrigin) : World × Bool :=
  let heldOpen := !w.openBindings.isEmpty
  let w := w.clearOpen
  let (w, endedAny) := w.endSessionMachinesAll sessionEnd origin
  let heldAsync := !w.pending.isEmpty || !w.detached.isEmpty
  (w.clearAsyncPayloads, heldOpen || endedAny || heldAsync)

/-- The loss boundary: every live machine ends unknown, custody and bindings die. -/
def invalidateWithEffects : World :=
  let origin := w.effectOrigin
    { function := "loss", session := sessionNone, tsNs := w.lastSeenNs }
  let (w, _) := w.endSessionMachinesAll .unknown origin
  let w := w.clearAsyncPayloads
  w.clearOpen

end World

end P11Scope.Edge
