import P11Scope.Registry.State

/-!
# The caller adapter

Caller incarnations under a reconcile: retirement on exit, exec and PID reuse, and
admission of the successor.  What the operating system answers is arbitrary and
arrives with each call.
-/

namespace P11Scope.Callers

open Std
open Binder (CallerId)
open Registry (BudgetRefusal callerLabel)

structure ExeIdentity where
  dev : UInt64
  ino : UInt64
  mtimeSecs : Int
  mtimeNanos : Int
  path : Option String
  deriving DecidableEq, Repr

inductive CallerLifecycle where
  | mapped
  | exited
  | execRetired
  | unknown
  deriving DecidableEq, Repr

/-- A caller's record with the pin it holds. -/
structure TrackedCaller (Pin : Type) where
  pid : UInt32
  startTime : Option UInt64
  exe : Option ExeIdentity
  lifecycle : CallerLifecycle := .mapped
  lifecycleReason : Option String := none
  retired : Bool := false
  pin : Option Pin

inductive CallerEvent where
  | admitted (id : CallerId)
  | exited (id : CallerId) (reason : String)
  | retired (id : CallerId) (reason : String)
  | execRetired (old new : CallerId)
  | reused (old new : CallerId)
  | admitFailed (pid : UInt32) (reason : String) (budget : Option BudgetRefusal)
  deriving DecidableEq, Repr

inductive SuccessorAdmission where
  | unrestricted
  | scopedDenied
  deriving DecidableEq, Repr

structure AdmitFailure where
  reason : String
  budget : Option BudgetRefusal := none
  deriving DecidableEq, Repr

def exeChangedReason : String := "executable image changed while the generation pin held (exec)"
def exitedReason : String := "process exited (pid names no live process)"
def goneReason : String := "no live process with that pid (it exited)"
def postExec : String := "post-exec re-admission failed: "
def postReuse : String := "post-reuse re-admission failed: "

/-! ## What the system answers -/

/-- The answers during one admission.  `coldExe` is asked of a zombie only;
`returned`: the cold reading gave the pin back; `storage`: its custody was paid. -/
structure Readings (Pin : Type) where
  opened : Except String Pin
  gone : Bool
  coldExe : Except String (Option ExeIdentity)
  returned : Bool
  storage : Bool
  startTime : Option UInt64
  exe : Option ExeIdentity
  same : Bool

/-- The answers about one live caller during a reconcile. -/
structure Visit (Pin : Type) where
  same : Bool
  startTime : Option UInt64
  exe : Option ExeIdentity
  gone : Bool
  again : Readings Pin

variable {Pin : Type}

def pinFailure (pid : UInt32) (reason : String) : AdmitFailure :=
  { reason := "cannot pin caller pid " ++ toString pid.toNat ++ ": " ++ reason }

/-- The image of a freshly opened pin; a zombie leader with one survivor is
admitted cold. -/
def Readings.image (seen : Readings Pin) (pid : UInt32) :
    Except AdmitFailure (Option ExeIdentity) :=
  if seen.gone then
    match seen.coldExe with
    | .ok (some exe) =>
      if seen.returned then .ok (some exe)
      else .error (pinFailure pid "cold admission retained its original")
    | .ok none => .error (pinFailure pid goneReason)
    | .error named =>
      .error { reason := "cannot admit caller pid " ++ toString pid.toNat ++ ": " ++ named }
  else .ok seen.exe

/-- A new pin with the image it serves. -/
def Readings.pinned (seen : Readings Pin) (pid : UInt32) :
    Except AdmitFailure (Pin × Option ExeIdentity) :=
  match seen.opened with
  | .error error => .error (pinFailure pid error)
  | .ok pin =>
    match seen.image pid with
    | .error failure => .error failure
    | .ok exe =>
      if seen.storage then .ok (pin, exe.or seen.exe)
      else .error { reason := "original process custody storage refused before allocation" }

/-! ## The table -/

structure CallerAdapter (Pin : Type) where
  nextId : CallerId := 0
  callers : ExtTreeMap CallerId (TrackedCaller Pin) := ∅
  liveByPid : ExtTreeMap UInt32 CallerId := ∅
  maxCallers : Nat
  scopedRetireCursor : Option UInt32 := none

namespace CallerAdapter

def new (maxCallers : Nat) : CallerAdapter Pin := { maxCallers := max maxCallers 1 }

variable (adapter : CallerAdapter Pin)

/-- The common end of every admission: mint an id and insert the live incarnation. -/
def install (tracked : TrackedCaller Pin) : CallerAdapter Pin × Except AdmitFailure CallerId :=
  if adapter.nextId.toNat + 1 < 2 ^ 32 then
    ({ adapter with
        nextId := adapter.nextId + 1
        callers := adapter.callers.insert adapter.nextId tracked
        liveByPid := adapter.liveByPid.insert tracked.pid adapter.nextId }, .ok adapter.nextId)
  else (adapter, .error { reason := "caller ID space exhausted" })

/-- The two refusals every unscoped admission starts with. -/
def refused (adapter : CallerAdapter Pin) (pid : UInt32) : Option AdmitFailure :=
  match adapter.liveByPid[pid]? with
  | some live => some
      { reason := "pid " ++ toString pid.toNat ++ " already has live caller " ++ callerLabel live }
  | none =>
    if adapter.maxCallers ≤ adapter.callers.size then some
      { reason := "caller budget exhausted: the registry retains at most " ++
          toString adapter.maxCallers ++ " callers (requested caller " ++
          toString (adapter.callers.size + 1) ++ "); the admission was refused"
        budget := some ⟨"callers", adapter.maxCallers, adapter.callers.size + 1⟩ }
    else none

def tryAdmit (pid : UInt32) (seen : Readings Pin) :
    CallerAdapter Pin × Except AdmitFailure CallerId :=
  match adapter.refused pid with
  | some failure => (adapter, .error failure)
  | none =>
    match seen.pinned pid with
    | .error failure => (adapter, .error failure)
    | .ok (pin, exe) => adapter.install { pid, startTime := seen.startTime, exe, pin := some pin }

def retire (id : CallerId) (lifecycle : CallerLifecycle) (reason : String) : CallerAdapter Pin :=
  match adapter.callers[id]? with
  | none => adapter
  | some tracked =>
    { adapter with
      callers := adapter.callers.insert id
        { tracked with lifecycle, lifecycleReason := some reason, retired := true, pin := none }
      liveByPid := adapter.liveByPid.erase tracked.pid }

/-- The retained-custody commit of an exec successor: the moved pin, never a new one. -/
def commitRetainedSuccessor (pid : UInt32) (pin : Option Pin) (seen : Readings Pin) :
    CallerAdapter Pin × Except AdmitFailure CallerId :=
  match pin with
  | none => (adapter, .error
      { reason := "no retained process custody for the exec successor (the successor is never " ++
          "reopened by scalar PID)" })
  | some pin =>
    if !seen.same then (adapter, .error
      { reason := "original process custody lost: the process exited or the pid was reused" })
    else
      match adapter.refused pid with
      | some failure => (adapter, .error failure)
      | none =>
        if seen.gone then (adapter, .error (pinFailure pid goneReason))
        else adapter.install
          { pid, startTime := seen.startTime, exe := seen.exe, pin := some pin }

def retiredEvent (id : CallerId) : CallerEvent :=
  .retired id ((adapter.callers[id]?.bind fun tracked => tracked.lifecycleReason).getD
    "caller retired")

/-- The event of an admission. -/
def admission (pid : UInt32) (succeeded : CallerId → CallerEvent) (failed : String)
    (result : CallerAdapter Pin × Except AdmitFailure CallerId) :
    CallerAdapter Pin × List CallerEvent :=
  match result with
  | (next, .ok new) => (next, [succeeded new])
  | (next, .error failure) => (next, [.admitFailed pid (failed ++ failure.reason) failure.budget])

/-! ## Reconciling -/

/-- How an incarnation ended whose pid answers for another one. -/
def turnover (previous current : Option UInt64) : CallerLifecycle × String :=
  match previous, current with
  | some was, some is_ =>
    if was ≠ is_ then
      (.exited, "pid reused: start-time changed from " ++ toString was.toNat ++ " to " ++
        toString is_.toNat ++ " clock ticks")
    else (.exited, "pid reused: the tracked generation ended and the pid names a live process")
  | none, some _ =>
    (.exited, "pid reused: the tracked generation ended and the pid names a live process")
  | _, none =>
    (.unknown, "the tracked generation ended but the pid's current state is unreadable")

def exeChanged (previous current : Option ExeIdentity) : Bool :=
  match previous, current with
  | some previous, some current => current != previous
  | _, _ => false

/-- What a reconcile sees: `granted` and `charged` count how often the work budget
of a scoped pass agreed. -/
structure Scene (Pin : Type) where
  scope : SuccessorAdmission
  observed : ExtTreeSet UInt32
  granted : Nat
  charged : Nat
  shown : UInt32 → Visit Pin
  arrivals : UInt32 → Readings Pin

variable (scene : Scene Pin)

/-- One live caller against what the system shows of it. -/
def reconcileLive (entry : UInt32 × CallerId) (adapter : CallerAdapter Pin) :
    CallerAdapter Pin × List CallerEvent :=
  let (pid, id) := entry
  let shown := scene.shown pid
  let tracked := adapter.callers[id]?
  let held := tracked.bind fun tracked => tracked.pin
  if held.isSome && shown.same then
    if exeChanged (tracked.bind fun tracked => tracked.exe) shown.exe then
      let retired := adapter.retire id .execRetired exeChangedReason
      match scene.scope with
      | .scopedDenied => (retired, [retired.retiredEvent id])
      | .unrestricted => admission pid (.execRetired id) postExec
          (retired.commitRetainedSuccessor pid held shown.again)
    else (adapter, [])
  else if shown.gone then (adapter.retire id .exited exitedReason, [.exited id exitedReason])
  else
    let ended := turnover (tracked.bind fun tracked => tracked.startTime) shown.startTime
    let retired := adapter.retire id ended.1 ended.2
    match scene.scope with
    | .scopedDenied => (retired, [retired.retiredEvent id])
    | .unrestricted => admission pid (.reused id) postReuse (retired.tryAdmit pid shown.again)

/-- One observed pid. -/
def reconcileObserved (pid : UInt32) (adapter : CallerAdapter Pin) :
    CallerAdapter Pin × List CallerEvent :=
  if adapter.liveByPid.contains pid then (adapter, [])
  else admission pid .admitted "" (adapter.tryAdmit pid (scene.arrivals pid))

/-- One visit after the other, the events in order. -/
def sweep {α : Type} (visit : α → CallerAdapter Pin → CallerAdapter Pin × List CallerEvent) :
    List α → CallerAdapter Pin → CallerAdapter Pin × List CallerEvent
  | [], adapter => (adapter, [])
  | item :: rest, adapter =>
    let first := visit item adapter
    let later := sweep visit rest first.1
    (later.1, first.2 ++ later.2)

/-- The live callers one reconcile gets to: all of them, or up to 128 from the cursor
on while the work budget agrees. -/
def visited (adapter : CallerAdapter Pin) : List (UInt32 × CallerId) :=
  let live := adapter.liveByPid.toList
  let rotated : List (UInt32 × CallerId) := match adapter.scopedRetireCursor with
    | none => live
    | some cursor => live.filter (fun entry => cursor < entry.1) ++
        live.filter fun entry => entry.1 ≤ cursor
  match scene.scope with
  | .unrestricted => live
  | .scopedDenied => ((rotated.take 128).take scene.granted).take scene.charged

def moveCursor (pid : UInt32) (adapter : CallerAdapter Pin) : CallerAdapter Pin :=
  match scene.scope with
  | .unrestricted => adapter
  | .scopedDenied => { adapter with scopedRetireCursor := some pid }

def reconcileInner : CallerAdapter Pin × List CallerEvent :=
  let ended := sweep (fun entry adapter =>
    reconcileLive scene entry (moveCursor scene entry.1 adapter)) (visited scene adapter) adapter
  let grown := sweep (reconcileObserved scene) scene.observed.toList ended.1
  (grown.1, ended.2 ++ grown.2)

end CallerAdapter

end P11Scope.Callers
