import P11Scope.Edge.Custody

/-!
# The per-edge reducer

Mechanism claims, reconciliation, lifecycle, operation machines, asynchronous
calls and the public entry points, branch by branch as the source has them.
Loops over a collected key list are folds over that list.
-/

namespace P11Scope.Edge

open Std Lib.TreeMap Kinds

namespace World

/-! ## Mechanism claims -/

/-- Counters and categories of a mechanism claim, before its provenance. -/
def claimRow (stat : EdgeMechStat) (call : SemanticCall) (descriptor : SlotSemantics) :
    EdgeMechStat :=
  recordProvenance
    { stat with
      calls := satAdd stat.calls 1
      ops := (claimedCategories descriptor).foldl (fun ops name => ops.insert name) stat.ops
      lastSeenNs := max stat.lastSeenNs call.tsNs } call

/-- Counters of one attributed operational call, before its provenance. -/
def attributedRow (stat : EdgeMechStat) (call : SemanticCall) : EdgeMechStat :=
  recordProvenance
    { stat with
      calls := satAdd stat.calls 1
      errors := if call.rv ≠ CkRv.ok then satAdd stat.errors 1 else stat.errors
      lastSeenNs := max stat.lastSeenNs call.tsNs } call

variable (w : World)

def refuseKey : World := { w with dropped := satAdd w.dropped 1 }

def countOrphans (amount : Nat) : World :=
  { w with orphans := satAdd w.orphans amount }

/-- `mechs.entry(id).or_default()` updated in place. -/
def updateRow (mechanism : UInt64) (update : EdgeMechStat → EdgeMechStat) : World :=
  { w with mechs := w.mechs.insert mechanism (update ((w.mechs[mechanism]?).getD {})) }

variable (call : SemanticCall) (descriptor : SlotSemantics)

def recordInitMechanism : World :=
  if call.rv ≠ CkRv.ok ∨ call.mechanismCapture ≠ Capture.mechanismValue then w
  else if ¬ w.mechs.contains call.mechanism ∧ maxEdgeMechanisms ≤ w.mechs.size then w.refuseKey
  else
    let charge := w.provenanceGrowth call.mechanism call call.rv +
      categoryGrowth w.mechs[call.mechanism]? descriptor
    (w.retainResourceCharge charge).updateRow call.mechanism fun stat =>
      claimRow stat call descriptor

def attributeOpCall (mechanism : UInt64) : World :=
  if ¬ w.mechs.contains mechanism ∧ maxEdgeMechanisms ≤ w.mechs.size then w.refuseKey
  else
    (w.retainResourceCharge (w.provenanceGrowth mechanism call call.rv)).updateRow mechanism
      fun stat => attributedRow stat call

/-! ## Reconciliation and lifecycle -/

def countReconciliation (changed : Bool) : World :=
  if changed then
    { w with evidence := { w.evidence with
        stateReconciliations := satAdd w.evidence.stateReconciliations 1 } }
  else w

variable (session : UInt64) (bits : List (UInt16 × String))

/-- End the machines of the listed bits; the flag tells whether any was live. -/
def endBits (ended : EndState) (origin : EffectOrigin) : World × Bool :=
  bits.foldl
    (fun acc entry =>
      let next := acc.1.endMachine session entry.1 entry.2 ended origin
      (next.1, acc.2 || next.2)) (w, false)

variable (origin : EffectOrigin)

/-- Conclusive module evidence that contradicts tracked state; the flag tells
whether the call ends here. -/
def reconcileConclusive : World × Bool :=
  if call.rv = CkRv.operationNotInitialized then
    let (w, changed) := w.endBits call.session (operationBits descriptor.operations) .unknown
      origin
    (w.countReconciliation changed, true)
  else if call.rv = CkRv.sessionClosed ∨ call.rv = CkRv.sessionHandleInvalid then
    let (w, changed) := w.retireSession call.session .cancelled origin
    (w.countReconciliation changed, true)
  else if call.rv = CkRv.cryptokiNotInitialized then
    let (w, changed) := w.retireAll .cancelled origin
    (w.countReconciliation changed, true)
  else (w, false)

/-- An observed end of one session scope: the binding goes, machines are
cancelled, pending calls dropped and async ids floated. -/
def closeSession (origin : EffectOrigin) : World × Bool :=
  let (w, existed) := w.removeOpen session
  let w := (w.endSessionMachines session .cancelled origin).1
  let w := (w.dropSessionPending session).1
  ((w.floatSessionAsync session).1, existed)

/-- Sessions on this PKCS#11 slot id. -/
def slotSessions (slotId : UInt64) : List UInt64 :=
  (w.openBindings.toList.filter fun entry => entry.2 = slotId).map Prod.fst

/-- Tracked sessions with no observed open. -/
def unprovenSessions : List UInt64 :=
  let tracked := w.active.keys.map Prod.fst ++ w.pending.keys.map Prod.fst ++
    w.detached.toList.filterMap fun entry => entry.2.owner
  (ExtTreeSet.ofList (tracked.filter fun session => !w.openBindings.contains session)).toList

def openSession : World :=
  let (w, changed) := w.retireSession call.session .unknown origin
  let w := w.countReconciliation changed
  if ¬ w.openBindings.contains call.session ∧ maxEdgeSessions ≤ w.openBindings.size then
    w.refuseKey
  else
    let w := w.retainResourceCharge openBindingCharge
    { w with openBindings := w.openBindings.insert call.session call.slotId }

def closeAllSessions : World :=
  -- Both lists are read before the proven path changes the bindings.
  let unproven := w.unprovenSessions
  let owned := w.slotSessions call.slotId
  let w := owned.foldl (fun w session => (w.closeSession session origin).1) w
  unproven.foldl (fun w session => (w.retireSession session .unknown origin).1) w

/-- Clear the operations of one session without closing it. -/
def clearSessionOperations (origin : EffectOrigin) : World × Bool :=
  let (w, endedAny) := w.endSessionMachines session .cancelled origin
  let (w, dropped) := w.dropSessionPending session
  let (w, floated) := w.floatSessionAsync session
  (w, endedAny || dropped || floated)

/-- Clear the operations of every listed session; the flag tells whether any
held state. -/
def clearOperationsOf (sessions : List UInt64) (origin : EffectOrigin) : World × Bool :=
  sessions.foldl
    (fun acc session =>
      let next := acc.1.clearSessionOperations session origin
      (next.1, acc.2 || next.2)) (w, false)

def countAuthAmbiguity (changed : Bool) : World :=
  if changed then
    { w with evidence := { w.evidence with
        authStateAmbiguities := satAdd w.evidence.authStateAmbiguities 1 } }
  else w

def applyAuth : World :=
  if call.function = "C_Login" ∧ call.userType = 2 ∧ call.rv = CkRv.ok then w
  else if call.rv ≠ CkRv.ok ∧ call.rv ≠ CkRv.pinLocked then w
  else
    match w.openBindings[call.session]? with
    | none => w
    | some slot =>
      let (w, changed) := w.clearOperationsOf (w.slotSessions slot) origin
      w.countAuthAmbiguity changed

/-- Whether a cancel leaves a stored call alone. -/
def survivesCancel (mask : UInt16) (flags : UInt64) : Bool :=
  let descriptor := descriptorOrCountOnly call.function
  descriptor.operations &&& mask = 0 ∧ directCancelFlag descriptor.direct &&& flags = 0

def clearSelected (flags : UInt64) (origin : EffectOrigin) : World :=
  let mask := cancelOperationMask flags
  let doomed := w.active.keys.filter fun key => key.1 = session ∧ mask &&& key.2 ≠ 0
  let w := w.endMachines doomed .cancelled origin
  let w := w.retainPending fun key record =>
    key.1 ≠ session || survivesCancel record.call mask flags
  w.retainDetached fun _ id =>
    id.owner ≠ some session || survivesCancel id.call mask flags

def countUnknownCancelFlags (flags : UInt64) : World :=
  if flags &&& ~~~ knownCancelFlags ≠ 0 then
    { w with evidence := { w.evidence with
        sessionCancelUnknownFlags := satAdd w.evidence.sessionCancelUnknownFlags 1 } }
  else w

def applySessionCancel : World :=
  let w := w.countUnknownCancelFlags call.flags
  if call.rv = CkRv.operationCancelFailed ∧ 1 < selectedCancelFlags call.flags then
    let w := w.clearSelected call.session call.flags origin
    { w with evidence := { w.evidence with
        sessionCancelAmbiguities := satAdd w.evidence.sessionCancelAmbiguities 1 } }
  else if call.rv = CkRv.ok then w.clearSelected call.session call.flags origin
  else w

def applyLifecycle : World :=
  match descriptor.lifecycle with
  | .openSession =>
    if call.rv = CkRv.ok ∧ call.session ≠ sessionNone then w.openSession call origin else w
  | .closeSession =>
    if call.rv = CkRv.ok then
      let (w, existed) := w.closeSession call.session origin
      if existed then w
      else
        { w with evidence := { w.evidence with
            unmatchedCloses := satAdd w.evidence.unmatchedCloses 1 } }
    else w
  | .closeAllSessions => if call.rv = CkRv.ok then w.closeAllSessions call origin else w
  | .finalize => if call.rv = CkRv.ok then (w.retireAll .cancelled origin).1 else w
  | .login => w.applyAuth call origin
  | .logout => w.applyAuth call origin
  | .sessionCancel => w.applySessionCancel call origin
  | .setOperationState =>
    if call.rv = CkRv.ok then
      let w := (w.endSessionMachines call.session .cancelled origin).1
      { w with evidence := { w.evidence with
          operationStateImports := satAdd w.evidence.operationStateImports 1 } }
    else w
  | _ => w

/-! ## Starting, advancing and completing operations -/

/-- Checked identity allocation: the next ordinal, or `none` past the last one. -/
def allocGeneration : World × Option Nat :=
  if w.machineSeq < u64Max then
    ({ w with machineSeq := w.machineSeq + 1 }, some (w.machineSeq + 1))
  else (w, none)

/-- Start or replace one operation machine. -/
def startMachine (bit : UInt16) (category : String) (mechanism : Option UInt64)
    (keyReceipt : Option KeyReceipt) (origin : EffectOrigin) : World :=
  let key := (session, bit)
  if ¬ w.active.contains key ∧ maxEdgeActiveOps ≤ w.active.size then w.refuseKey
  else
    match w.allocGeneration with
    | (w, none) =>
      let w := (w.endMachine session bit category .cancelled origin).1
      { w with
        started := satAdd w.started 1
        unknown := satAdd w.unknown 1
        idExhaustions := satAdd w.idExhaustions 1 }
    | (w, some generation) =>
      let replaced := w.active[key]?
      let w := if replaced.isNone then w.retainResourceCharge activeMachineCharge else w
      let w := { w with
        active := w.active.insert key
          { mechanism := mechanism, state := .initialized, generation := generation,
            key := keyReceipt } }
      let w :=
        match replaced with
        | some old =>
          { w with cancelled := satAdd w.cancelled 1 }.emit
            (.ended old.generation category .cancelled origin)
        | none => w
      let w := { w with started := satAdd w.started 1 }
      let stored := (w.active[key]?).bind OpMachine.key
      w.emit (.started generation category mechanism stored origin)

/-- Bind one operation bit of a successful `*Init`: a captured value starts a
machine, NULL cancels where the descriptor says so, anything else starts a
machine of unknown mechanism. -/
def applyInitBit (receipt : Option KeyReceipt) (entry : UInt16 × String) : World :=
  if call.mechanismCapture = Capture.mechanismValue then
    w.startMachine call.session entry.1 entry.2 (some call.mechanism) receipt origin
  else if call.mechanismCapture = Capture.mechanismNull then
    if descriptor.semanticFlags &&& SemanticFlags.nullMechanismCancel ≠ 0 then
      (w.endMachine call.session entry.1 entry.2 .cancelled origin).1
    else
      { w with evidence := { w.evidence with
          semanticCaptureFailures := satAdd w.evidence.semanticCaptureFailures 1 }
        }.startMachine call.session entry.1 entry.2 none receipt origin
  else w.startMachine call.session entry.1 entry.2 none receipt origin

variable (keys : List KeyReceipt)

def applyInit : World :=
  if call.rv ≠ CkRv.ok ∨ call.session = sessionNone then w
  else
    (operationBits descriptor.operations).foldl
      (fun w entry => w.applyInitBit call descriptor origin keys.head? entry) w

/-- Whether an operational call leaves its machines live. -/
def retains (transition : Transition) (call : SemanticCall) : Bool :=
  match transition with
  | .continue => call.rv = CkRv.ok
  | .updateWithOutput => call.rv = CkRv.ok || call.rv = CkRv.bufferTooSmall
  | .finishWithOutput =>
    call.rv = CkRv.bufferTooSmall ||
      (call.rv = CkRv.ok && call.capture &&& Capture.outputMask = Capture.outputNull)
  | .finishAlways => false
  | .retainAlways => true
  | .finishOnSuccess => call.rv ≠ CkRv.ok
  | _ => true

/-- Mark a live machine as in progress. -/
def advanceMachine (bit : UInt16) : World :=
  match w.active[(session, bit)]? with
  | some machine =>
    { w with active := w.active.insert (session, bit) { machine with state := .inProgress } }
  | none => w

/-- The bound mechanisms an operational call touches, in id order. -/
def touchedMechanisms : List UInt64 :=
  (ExtTreeSet.ofList (bits.filterMap fun entry =>
    (w.active[(session, entry.1)]?).bind OpMachine.mechanism)).toList

/-- The number of bits an operational call names without a live machine. -/
def unmatchedBits : Nat :=
  bits.countP fun entry => !w.active.contains (session, entry.1)

/-- Attribute one call to every listed mechanism. -/
def attributeAll (mechanisms : List UInt64) : World :=
  mechanisms.foldl (fun w mechanism => w.attributeOpCall call mechanism) w

/-- Run the transition of an operational call on its machines. -/
def transitionBits : World :=
  let bits := operationBits descriptor.operations
  if retains descriptor.transition call then
    bits.foldl (fun w entry => w.advanceMachine call.session entry.1) w
  else
    let ended := if call.rv = CkRv.ok then EndState.completed else EndState.failed
    (w.endBits call.session bits ended origin).1

def applyOperations : World :=
  let bits := operationBits descriptor.operations
  let mechanisms := w.touchedMechanisms call.session bits
  let w := w.countOrphans (w.unmatchedBits call.session bits)
  let w := w.attributeAll call mechanisms
  w.transitionBits call descriptor origin

def applyDirect : World :=
  if call.rv ≠ CkRv.ok then w
  else
    let w := { w with started := satAdd w.started 1, completed := satAdd w.completed 1 }
    match w.allocGeneration with
    | (w, none) => { w with idExhaustions := satAdd w.idExhaustions 1 }
    | (w, some generation) =>
      let mechanism :=
        if call.mechanismCapture = Capture.mechanismValue then some call.mechanism else none
      w.emit (.directCompleted generation ((directName descriptor.direct).getD "direct")
        mechanism keys origin)

/-- The mechanism claim of an `*Init` or direct call. -/
def claimMechanism : World :=
  if descriptor.transition = .initializeOperation ∨ descriptor.direct ≠ .none then
    w.recordInitMechanism call descriptor
  else w

/-- The init, operational or direct effect of a completed call. -/
def applyOperation : World :=
  if descriptor.transition = .initializeOperation then w.applyInit call descriptor origin keys
  else if descriptor.direct = .none ∧ descriptor.operations ≠ 0 then
    w.applyOperations call descriptor origin
  else if descriptor.direct ≠ .none then w.applyDirect call descriptor origin keys
  else w

/-- The completed-call pipeline: claim, reconciliation, lifecycle, operation. -/
def applyCompleted : World :=
  let claimed := w.claimMechanism call descriptor
  let (reconciled, ends) := claimed.reconcileConclusive call descriptor origin
  if ends then reconciled
  else (reconciled.applyLifecycle call descriptor origin).applyOperation call descriptor origin
    keys

/-! ## Asynchronous calls -/

def captureOrigin (descriptor : SlotSemantics) : CallOrigin :=
  { bits := (operationBits descriptor.operations).map fun entry =>
      (entry.1, (w.active[(session, entry.1)]?).map OpMachine.generation) }

/-- End the still-live machines an evicted record was bound to. -/
def endOriginMachines (origin : CallOrigin) (effectOrigin : EffectOrigin) : World :=
  origin.bits.foldl
    (fun w entry =>
      if entry.2.isSome ∧ (w.active[(session, entry.1)]?).map OpMachine.generation = entry.2 then
        (w.endMachine session entry.1 (categoryName entry.1) .unknown effectOrigin).1
      else w) w

/-- Account for one evicted record whose lease is held locally. -/
def finishEviction (call : SemanticCall) (origin : CallOrigin) : World :=
  let w := w.endOriginMachines session origin (w.effectOrigin (.ofCall call))
  { w with evidence := { w.evidence with
      asyncEvictions := satAdd w.evidence.asyncEvictions 1 } }.dropHeld

variable (key : UInt64 × UInt32)

def evictPending (record : PendingCall) : World :=
  (w.takePending key record).finishEviction key.1 record.call record.origin

def evictDetached (key : UInt64 × UInt32 × UInt64) (record : AsyncId) : World :=
  (w.takeDetached key record).finishEviction record.call.session record.call record.origin

/-- Oldest-first async eviction past the bound. -/
def evictAsyncIfNeeded : World :=
  if w.pending.size + w.detached.size ≤ maxEdgePending then w
  else
    match w.pending.toList.argmin (fun entry => entry.2.sequence),
        w.detached.toList.argmin (fun entry => entry.2.sequence) with
    | some (key, record), some (detachedKey, id) =>
      if record.sequence ≤ id.sequence then w.evictPending key record
      else w.evictDetached detachedKey id
    | some (key, record), none => w.evictPending key record
    | none, some (detachedKey, id) => w.evictDetached detachedKey id
    | none, none => w

def countAsyncDuplicate : World :=
  { w with evidence := { w.evidence with
      asyncDuplicates := satAdd w.evidence.asyncDuplicates 1 } }

/-- Store a routed call with its queue-time origin and lease. -/
def queueFresh (function : UInt32) (descriptor : SlotSemantics) (charge : Nat) : World :=
  let w := { w with sequence := wrappingSucc w.sequence }
  let sequence := w.sequence
  let (w, resource) := w.takeResourceCharge charge
  let origin := w.captureOrigin call.session descriptor
  let w := { w with
    pending := w.pending.insert (call.session, function)
      { call := call, origin := origin, originPos := none, sequence := sequence,
        resource := resource } }
  w.evictAsyncIfNeeded

def queuePending : World :=
  match w.routePending call with
  | .unroutable => w.countOrphans 1
  | .duplicate => w.countAsyncDuplicate.countOrphans 1
  | .fresh function descriptor charge => w.queueFresh call function descriptor charge

/-- Replay a stored call with the completion's return, session and time, if the
completing session still holds the originating lifetime on every bit. -/
def completePending (completion : SemanticCall) (pending : SemanticCall) (origin : CallOrigin) :
    World :=
  if !w.originMatches completion.session origin then w.countOrphans (max origin.bits.length 1)
  else
    let effectOrigin := w.effectOrigin (.ofCall pending)
    let completed := { pending with
      rv := completion.rv, session := completion.session, tsNs := completion.tsNs }
    w.applyCompleted completed (descriptorOrCountOnly completed.function) effectOrigin []

/-- Complete a pending record; its lease is dropped after the replay. -/
def consumePending (record : PendingCall) : World :=
  ((w.takePending key record).completePending call record.call record.origin).dropHeld

/-- Complete a detached record; its lease is dropped after the replay. -/
def consumeDetached (key : UInt64 × UInt32 × UInt64) (record : AsyncId) : World :=
  ((w.takeDetached key record).completePending call record.call record.origin).dropHeld

def asyncComplete : World :=
  if call.rv = CkRv.pending then w
  else
    match w.completeEligible call.session call.targetFunction with
    | .zero => w.countOrphans 1
    | .many => (w.countOrphans 1).countAsyncDuplicate
    | .pending key =>
      match w.pending[key]? with
      | some record => w.consumePending call key record
      | none => { w with panicked := true }
    | .detached key =>
      match w.detached[key]? with
      | some record => w.consumeDetached call key record
      | none => { w with panicked := true }

/-- Move custody of a pending record to an issued async id. -/
def detachPending (detachedKey : UInt64 × UInt32 × UInt64) (pending : PendingCall) : World :=
  let w := { w with pending := w.pending.erase key, sequence := wrappingSucc w.sequence }
  let w := { w with
    detached := w.detached.insert detachedKey
      { owner := some call.session, call := pending.call, origin := pending.origin,
        originPos := pending.originPos, sequence := w.sequence, resource := pending.resource } }
  w.evictAsyncIfNeeded

def asyncGetId : World :=
  match w.openBindings[call.session]? with
  | none => w.countOrphans 1
  | some slot =>
    let detachedKey := (slot, call.targetFunction, call.asyncValue)
    if w.detached.contains detachedKey then (w.countOrphans 1).countAsyncDuplicate
    else
      let key := (call.session, call.targetFunction)
      match w.pending[key]? with
      | none => w.countOrphans 1
      | some pending => w.detachPending call key detachedKey pending

def asyncJoin : World :=
  match w.openBindings[call.session]? with
  | none => w.countOrphans 1
  | some slot =>
    let detachedKey := (slot, call.targetFunction, call.asyncValue)
    match w.detached[detachedKey]? with
    | some id =>
      { w with detached :=
          w.detached.insert detachedKey { id with owner := some call.session } }
    | none => w.countOrphans 1

def observeAsync : World :=
  if call.targetFunction = functionNone then w.countOrphans 1
  else if call.capture &&& Capture.asyncValueUnreadable ≠ 0 then w.countOrphans 1
  else
    match (descriptorOrCountOnly call.function).lifecycle with
    | .asyncComplete => w.asyncComplete call
    | .asyncGetId => if call.rv = CkRv.ok then w.asyncGetId call else w
    | .asyncJoin => if call.rv = CkRv.ok then w.asyncJoin call else w
    | _ => w

/-! ## Entry points -/

/-- The downgrade gates: only authorized, unambiguous, attributable calls with
effective semantic content pass. -/
def gate : World × Option SlotSemantics :=
  if !call.attributable then
    ({ w with unattributableCalls := satAdd w.unattributableCalls 1 }, none)
  else if !call.authorized then
    ({ w with unauthorizedCalls := satAdd w.unauthorizedCalls 1 }, none)
  else if !call.unambiguous then
    ({ w with ambiguousCalls := satAdd w.ambiguousCalls 1 }, none)
  else if call.countOnly then
    ({ w with countOnlyCalls := satAdd w.countOnlyCalls 1 }, none)
  else
    let descriptor := descriptorOrCountOnly call.function
    if descriptor = .countOnly then
      ({ w with countOnlyCalls := satAdd w.countOnlyCalls 1 }, none)
    else ({ w with seenClaimCapable := true }, some descriptor)

/-- Count an observed call and remember its time. -/
def countCall : World :=
  { w with calls := satAdd w.calls 1, lastSeenNs := max w.lastSeenNs call.tsNs }

/-- Route a gated call: asynchronous, pending or completed. -/
def dispatch : World :=
  if descriptor.lifecycle = .asyncComplete ∨ descriptor.lifecycle = .asyncGetId ∨
      descriptor.lifecycle = .asyncJoin then
    w.observeAsync call
  else if call.rv = CkRv.pending then w.queuePending call
  else w.applyCompleted call descriptor origin keys

/-- One observation; the number is the count of keys this call was refused. -/
def observeInner : World × Nat :=
  match w.gate call with
  | (gated, none) => (gated, 0)
  | (gated, some descriptor) =>
    let after := (gated.countCall call).dispatch call descriptor origin keys
    (after, after.dropped - w.dropped)

def invalidate : World :=
  { { w with sink := none }.invalidateWithEffects with sink := w.sink }

def observeWithEffects : World × Nat :=
  w.observeInner call origin []

def observe : World × Nat :=
  let (after, refused) := { w with sink := none }.observeWithEffects call .placeholder
  ({ after with sink := w.sink }, refused)

def observeJoint : World × Nat :=
  w.observeInner call origin keys

def markDoubleLoad : World :=
  { w.invalidate with doubleLoadDetected := true }

def clearDoubleLoad : World :=
  { w with doubleLoadDetected := false }

/-- Borrow the scratch and reserve the predicted growth before a call runs. -/
def prepareResourceTransition : World × Except SemanticResourceRefusal Nat :=
  if w.resourceOwner.isNone then ({ w with panicked := true }, .ok 0)
  else
    match w.pool.scratch with
    | (pool, .error refusal) => ({ w with pool := pool }, .error refusal)
    | (pool, .ok _) =>
      match pool.acquire (w.preflightGrowth call) with
      | (pool, .error refusal) =>
        ({ w with pool := pool.returnScratch }, .error refusal)
      | (pool, .ok reservation) => ({ w with pool := pool }, .ok reservation)

/-- `assert!(resource_transition.is_none())`, then install the reservation. -/
def installTransition (reservation : Nat) : World :=
  { w with
    resourceTransition := some reservation
    panicked := w.panicked || w.resourceTransition.isSome }

/-- `drop(resource_transition.take())`: refund what is left, return the scratch. -/
def dropTransition : World :=
  let w := { w.dropLeases (w.resourceTransition.getD 0) with resourceTransition := none }
  { w with pool := w.pool.returnScratch }

/-- A resourced observation through `run`; a refusal invalidates the reducer. -/
def observeResourced (run : World → World × Nat) : World × Except SemanticResourceRefusal Nat :=
  match w.prepareResourceTransition call with
  | (w, .error refusal) => (w.invalidate, .error refusal)
  | (w, .ok reservation) =>
    let (w, refused) := run (w.installTransition reservation)
    (w.dropTransition, .ok refused)

def observeWithResources : World × Except SemanticResourceRefusal Nat :=
  w.observeResourced call fun w => w.observe call

def observeWithResourcesAndEffects : World × Except SemanticResourceRefusal Nat :=
  w.observeResourced call fun w => w.observeWithEffects call origin

/-- Joint replay reserves first; a refusal leaves the reducer as it was, and a
reducer without a pool replays unresourced. -/
def observeJointWithResources : World × Except SemanticResourceRefusal Nat :=
  if w.resourceOwner.isNone then
    let (w, refused) := w.observeInner call origin keys
    (w, .ok refused)
  else
    match w.prepareResourceTransition call with
    | (w, .error refusal) => (w, .error refusal)
    | (w, .ok reservation) =>
      let (w, refused) := (w.installTransition reservation).observeInner call origin keys
      (w.dropTransition, .ok refused)

/-- Destruction: custody first, then history, then the owner lease. -/
def drop : World :=
  let w := { w.invalidate with mechs := ∅ }
  { w.dropLeases (w.resourceOwner.getD 0) with resourceOwner := none }

end World

/-- A reducer holding the base charge of a pool, or the pool's refusal. -/
def withResources (pool : SharedPool) :
    SharedPool × Except SemanticResourceRefusal EdgeSemantics :=
  match pool.acquire reducerBaseCharge with
  | (pool, .error refusal) => (pool, .error refusal)
  | (pool, .ok owner) => (pool, .ok { resourceOwner := some owner })

end P11Scope.Edge
