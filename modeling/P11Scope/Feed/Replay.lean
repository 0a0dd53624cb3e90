import P11Scope.Feed.Staging

/-!
# Staging, replay and disposal

Every route by which a payload enters a feed's queue or leaves it.  The outer
`none` of an operation is a failed expectation of the source or a ledger that
was not lent.
-/

namespace P11Scope.Feed

open Edge Journal KeyUse Objects

namespace JointStaging

variable {State : Type}

/-! ## Admission -/

/-- Charge a staged position: a collected one under its own domain. -/
def chargeStaged (allocation : Allocation) (native : Option NativeDomainId)
    (position bytes : UInt64) (resource : Option JointResourceOrigin) (desk : Desk) :
    Option (Except LedgerRefusal (Option StagedResourceOrigin) × Desk) :=
  match native with
  | some native =>
    (desk.chargeCollected allocation native position bytes resource).map fun (reply, desk) =>
      (reply.map some, desk)
  | none =>
    (desk.charge allocation position bytes).map fun (reply, desk) => (reply.map fun _ => none, desk)

def stagingRefusal : LedgerRefusal → StagingRefusal
  | .full => .full
  | .replayRefused => .replayRefused

variable (layout : FeedLayout)

/-- The payload of a new entry lands only once its charge is granted. -/
def land (succeeds : Bool) (call : StagedCall) (resource : Option JointResourceOrigin)
    (feed : JointStaging) (ledgers : Ledgers) :
    Option (Except StagingRefusal Unit × JointStaging × Ledgers) := do
  let ledger ← ledgers.shared
  let (reply, desk) ← chargeStaged ⟨layout.slotBytes, succeeds⟩ call.resourceNative call.position
    (call.chargedBytes layout) resource { ledger, pool := ledgers.pool }
  match reply with
  | .error refusal => some (.error (stagingRefusal refusal), feed, ledgers.putBack .shared desk)
  | .ok origin =>
    some (.ok (),
      { feed with
        staged := feed.staged ++ [{ call with resourceOrigin := origin }]
        accepted := feed.accepted ++ [call.position] }, ledgers.putBack .shared desk)

/-- Stage one payload in admission order.  `call` comes without a resource origin. -/
def stageInner (succeeds : Bool) (call : StagedCall) (resource : Option JointResourceOrigin)
    (feed : JointStaging) (ledgers : Ledgers) :
    Option (Except StagingRefusal Unit × JointStaging × Ledgers) := do
  let (feed, ledgers) ← feed.flushPendingReleases ledgers
  if feed.mode ≠ .joint then some (.error .notJoint, feed, ledgers)
  else
    let endpoint := (Kinds.functionId call.facts.function).bind endpointClass
    if endpoint ≠ some .modeledAffecting then
      some (.error .unsealable,
        if endpoint ≠ some .provedIrrelevant then
          { feed with unsealableDirect := satAdd feed.unsealableDirect 1 }
        else feed, ledgers)
    else if call.position ≤ feed.frontier ∨
        (feed.staged.getLast?.any fun tail => call.position ≤ tail.position) then
      some (.error .replayRefused, feed, ledgers)
    else if feed.staged.length ≥ jointStagingCapacity then some (.error .full, feed, ledgers)
    else feed.land layout succeeds { call with resourceOrigin := none } resource ledgers

/-! ## Disposal -/

/-- Take every staged payload out at the watchdog trip; its release pends. -/
def takeOutAll (layout : FeedLayout) : List StagedCall → JointStaging → JointStaging
  | [], feed => feed.pop []
  | head :: rest, feed =>
    let popped := feed.pop rest
    let pended := { popped with pendingReleases := popped.pendingReleases ++
      [(head.resourceNative, head.position, head.chargedBytes layout)] }
    takeOutAll layout rest
      ((pended.moveFrontier (max pended.frontier head.position)).noteTakenOut head.position)

/-- Note the watchdog trip once; the segment closes for good. -/
def noteWatchdogTrip (feed : JointStaging) : Bool × JointStaging :=
  if feed.watchdogTripped then (false, feed)
  else
    let emptied := takeOutAll layout feed.staged { feed with watchdogTripped := true }
    let wasJoint : Bool := emptied.mode = .joint
    if wasJoint || emptied.selectedReceipt.isSome then
      (wasJoint, { emptied with
        mode := .s1Only, segmentResumable := false, degradedWindow := some .watchdog })
    else (wasJoint, emptied)

/-- Dispose one popped head as history. -/
def disposeHead (head : StagedCall) (feed : JointStaging) (ledgers : Ledgers) :
    Option (JointStaging × Ledgers) := do
  let (feed, ledgers) ← feed.releaseOrPend ledgers head.position (head.chargedBytes layout)
    head.resourceNative
  some ((feed.moveFrontier (max feed.frontier head.position)).noteDisposed head.position, ledgers)

/-- Dispose the staged payloads at or below a barrier, or all without one. -/
def disposeBelow (layout : FeedLayout) (barrier : Option UInt64) :
    List StagedCall → Nat → JointStaging → Ledgers → Option (Nat × JointStaging × Ledgers)
  | [], disposed, feed, ledgers => some (disposed, feed.pop [], ledgers)
  | head :: rest, disposed, feed, ledgers =>
    if barrier.all fun level => head.position ≤ level then do
      let (feed, ledgers) ← (feed.pop rest).disposeHead layout head ledgers
      disposeBelow layout barrier rest (disposed + 1) feed ledgers
    else some (disposed, feed.pop (head :: rest), ledgers)

def disposeBelowBarrier (barrier : Option UInt64) (feed : JointStaging) (ledgers : Ledgers) :
    Option (Nat × JointStaging × Ledgers) :=
  disposeBelow layout barrier feed.staged 0 feed ledgers

/-- Dispose every retained payload once as history. -/
def drainStaged (feed : JointStaging) (ledgers : Ledgers) : Option (Nat × JointStaging × Ledgers) :=
  disposeBelow layout none feed.staged 0 feed ledgers

/-! ## Replay -/

/-- Replay a popped head once; a resource refusal invalidates the live operations
and makes the head history. -/
def replayHead (setting : Setting State) (head : StagedCall) (receipts : List KeyReceipt)
    (feed : JointStaging) (borrowed : Borrowed State) :
    Option (Option Nat × JointStaging × Borrowed State) := do
  let (result, borrowed) ← borrowed.observeJoint setting head.facts head.origin receipts
    head.resourceOrigin
  match result with
  | .ok count => some (some count, feed.noteReduced head.position, borrowed)
  | .error () => do
      let borrowed ← borrowed.invalidateWithEffects setting head.resourceOrigin
      some (none, feed.noteDisposed head.position, borrowed)

/-- Return a head's charge, unless it went back already. -/
def returnHead (already : Bool) (head : StagedCall) (feed : JointStaging)
    (borrowed : Borrowed State) : Option (JointStaging × Borrowed State) :=
  if already then some (feed, borrowed)
  else
    (feed.releaseOrPend borrowed.ledgers head.position (head.chargedBytes layout)
      head.resourceNative).map fun (feed, ledgers) => (feed, { borrowed with ledgers })

/-- Replay every retained payload in order, without receipts.  A legacy head with
no ledger at hand pends its release before its replay. -/
def replayFrom (setting : Setting State) :
    List StagedCall → Nat → Nat → JointStaging → Borrowed State →
      Option ((Nat × Nat) × JointStaging × Borrowed State)
  | [], replayed, refused, feed, borrowed =>
    some ((replayed, refused), feed.pop [], borrowed)
  | head :: rest, replayed, refused, feed, borrowed => do
      let popped := (feed.pop rest).moveFrontier (max feed.frontier head.position)
      -- A lent ledger always has its reserver.
      let early := head.resourceOrigin.isNone && !borrowed.ledgers.shared.isSome
      let (feed, borrowed) ← popped.returnHead setting.layout (!early) head borrowed
      let (outcome, feed, borrowed) ← feed.replayHead setting head [] borrowed
      let (feed, borrowed) ← feed.returnHead setting.layout early head borrowed
      match outcome with
      | some count =>
        replayFrom setting rest (replayed + 1) (satAdd refused count)
          { feed with fallbackReplayed := satAdd feed.fallbackReplayed 1 } borrowed
      | none => do
          let (_, feed, ledgers) ← feed.drainStaged setting.layout borrowed.ledgers
          some ((replayed, refused), feed, { borrowed with ledgers })

/-- Replay the whole queue through ordinary S1, then continue S1-only. -/
def orderedFallback (setting : Setting State) (feed : JointStaging) (borrowed : Borrowed State) :
    Option ((Nat × Nat) × JointStaging × Borrowed State) := do
  let (counts, feed, borrowed) ← replayFrom setting feed.staged 0 0 feed borrowed
  some (counts, feed.closeSegment false true, borrowed)

end JointStaging

end P11Scope.Feed
