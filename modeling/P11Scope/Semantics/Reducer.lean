import P11Scope.Semantics.State

/-!
# The capture-wide reducer

Admission, statistics, operation bindings, lifecycle, asynchronous calls, forks
and plan changes, branch by branch as the source has them.  Loops over a
collected key list are folds over that list.
-/

namespace P11Scope.Semantics

open Std Lib.TreeMap Kinds

/-! ## Plans -/

/-- The reducer's view of one plan slot. -/
def slotMeta (plan : AttachPlan) (slot : Slot) : SlotMeta where
  names := slot.names
  aliased := slot.aliased
  semantics := plan.effectiveSemantics slot
  functionId :=
    match slot.names with
    | [name] => functionId name
    | _ => none
  forkSafe := slot.forkSafe
  moduleId := (plan.moduleOfSlot slot.index).getD moduleUnresolved
  moduleIds := slot.moduleIds

/-- Store at an index, growing the table with empty entries when needed. -/
def storeSlot (slots : List (Option SlotMeta)) (index : Nat) (value : SlotMeta) :
    List (Option SlotMeta) :=
  (slots ++ List.replicate (index + 1 - slots.length) none).set index (some value)

def slotMetadata (plan : AttachPlan) : List (Option SlotMeta) :=
  plan.slots.foldl
    (fun slots slot => storeSlot slots slot.index.toNat (slotMeta plan slot)) []

def slotSemanticsChanged (previous : SlotMeta) (next : Option SlotMeta) : Bool :=
  match next with
  | none => true
  | some next =>
    let presentationOnly := previous.semantics = .countOnly ∧ next.semantics = .countOnly
    previous.semantics ≠ next.semantics ||
      (¬ presentationOnly && previous.functionId ≠ next.functionId) ||
      previous.forkSafe ≠ next.forkSafe || previous.moduleId ≠ next.moduleId ||
      previous.moduleIds ≠ next.moduleIds

/-- The predicate of every inScope query and sweep. -/
def inScope (process : Process) (moduleId : Option ModuleId) (owner : Process)
    (session : SessionRef) : Bool :=
  owner = process && moduleId.all fun id => session.moduleId = id

/-- The same question for the map of issued async ids. -/
def inScopeDetached (process : Process) (moduleId : Option ModuleId) (id : ModuleId)
    (detached : Detached) : Bool :=
  detached.process = process && moduleId.all fun wanted => id = wanted

namespace State

variable (plan : AttachPlan) (policy : CapturePolicy)

def withKeyLimit (limit : Nat) : State :=
  { policy := policy, slots := slotMetadata plan, stateKeyLimit := limit }

def withPolicy : State :=
  withKeyLimit plan policy maxStateKeys

def forCapture (domain : UInt64) : State :=
  { withPolicy plan policy with eventsDomain := some domain }

variable (s : State)

def acceptsDomain (domain : UInt64) : Bool :=
  s.eventsDomain.all fun anchor => anchor = domain

def slotAt (slot : UInt32) : Option SlotMeta :=
  (s.slots[slot.toNat]?).join

/-! ## Admission -/

def refuseKeys : State :=
  { s with evidence := { s.evidence with
      semanticStateDrops := satAdd s.evidence.semanticStateDrops 1 } }

/-- Charge new keys to the monotone budget, or count the refusal. -/
def admitKeys (newKeys : Nat) : State × Bool :=
  if newKeys = 0 then (s, true)
  else if s.stateKeys + newKeys ≤ s.stateKeyLimit then
    ({ s with stateKeys := s.stateKeys + newKeys }, true)
  else (s.refuseKeys, false)

/-- Charge one key unless it is already held. -/
def admitUnless (held : Bool) : State × Bool :=
  if held then (s, true) else s.admitKeys 1

/-- The update of an admitted key; a refused one changes nothing else. -/
def whenAdmitted (result : State × Bool) (update : State → State) : State :=
  if result.2 then update result.1 else result.1

/-! ## Evidence -/

def countReconciliation (changed : Bool) : State :=
  { s with evidence := { s.evidence with
      stateReconciliations := satAdd s.evidence.stateReconciliations changed.toNat } }

def countAsyncTargetFailure : State :=
  { s with evidence := { s.evidence with
      asyncTargetFailures := satAdd s.evidence.asyncTargetFailures 1 } }

def countAsyncOrphan : State :=
  { s with evidence := { s.evidence with
      asyncOrphans := satAdd s.evidence.asyncOrphans 1 } }

def countAsyncDuplicate : State :=
  { s with evidence := { s.evidence with
      asyncDuplicates := satAdd s.evidence.asyncDuplicates 1 } }

/-! ## Cgroups and histories -/

/-- Count one event in its cgroup cell, admitting the cell when it is new.
`bump` is `saturating_add(1)` or `+= 1`, as the caller has it. -/
def countCgroup (bump : Nat → Nat) (event : Event) : State :=
  match s.cgroups[event.cgroupId]? with
  | none =>
    whenAdmitted (s.admitKeys 1) fun s =>
      { s with
        cgroups := s.cgroups.insert event.cgroupId
          { calls := 1, errors := (isError event.rv).toNat, mechanisms := ∅ } }
  | some cell =>
    { s with
      cgroups := s.cgroups.insert event.cgroupId
        { cell with
          calls := bump cell.calls
          errors := if isError event.rv then bump cell.errors else cell.errors } }

def countHistoryDrop : State :=
  { s with evidence := { s.evidence with
      semanticHistoryDrops := satAdd s.evidence.semanticHistoryDrops 1 } }

variable (event : Event)

/-- Count-only evidence of a call outside the capture's domain. -/
def rejectHistory : State :=
  let s := s.countHistoryDrop
  if event.eventType ≠ EventType.call then s
  else s.countCgroup (satAdd · 1) event

variable (process : Process)

def recordHistory : State :=
  if s.reducedHistories.contains process then s
  else
    whenAdmitted (s.admitKeys 1) fun s =>
      { s with reducedHistories := s.reducedHistories.insert process }

/-! ## Mechanism statistics -/

def recordCall (stat : MechStat) (event : Event) : MechStat :=
  { stat with
    calls := stat.calls + 1
    errors := if event.rv ≠ CkRv.ok then stat.errors + 1 else stat.errors
    buckets := stat.buckets.set (bucketOf event.durationNs)
      (stat.buckets.get (bucketOf event.durationNs) + 1)
    totalNs := satAdd stat.totalNs event.durationNs
    maxNs := max stat.maxNs event.durationNs }

variable (mechanism : UInt64)

/-- `mechanisms.entry(id).or_default()` updated in place. -/
def updateMechanism (update : MechStat → MechStat) : State :=
  { s with mechanisms :=
      s.mechanisms.insert mechanism (update ((s.mechanisms[mechanism]?).getD {})) }

/-- Counters of one attributed call and its registry flag. -/
def attributedStat (unregistered : Bool) (stat : MechStat) : MechStat :=
  recordCall { stat with unregistered := stat.unregistered || unregistered } event

variable (slot : SlotMeta)

/-- An attributed call that also names its operation categories. -/
def requestedStat (stat : MechStat) : MechStat :=
  let stat := attributedStat event event.unregistered stat
  let names := (operationBits slot.semantics.operations).map Prod.snd ++
    (directName slot.semantics.direct).toList
  { stat with ops := names.foldl (fun ops name => ops.insert name) stat.ops }

def recordCgroupMechanism (cgroupId mechanism rv : UInt64) (unregistered : Bool) : State :=
  match s.cgroups[cgroupId]? with
  | none => s
  | some cell =>
    whenAdmitted (s.admitUnless (cell.mechanisms.contains mechanism)) fun s =>
      let stat := (cell.mechanisms[mechanism]?).getD {}
      { s with
        cgroups := s.cgroups.insert cgroupId
          { cell with
            mechanisms := cell.mechanisms.insert mechanism
              { unregistered := stat.unregistered || unregistered
                calls := stat.calls + 1
                errors := if isError rv then stat.errors + 1 else stat.errors } } }

def parameterCombo : UInt32 × UInt64 × UInt64 × UInt64 :=
  (event.shape, event.p0, event.p1, event.p2)

/-- Count one parameter combination of a mechanism. -/
def comboStat (stat : MechStat) : MechStat :=
  let combo := parameterCombo event
  { stat with
    paramCombos := stat.paramCombos.insert combo ((stat.paramCombos[combo]?).getD 0 + 1) }

/-- The parameter combination of an unsafe-policy request. -/
def recordCombo (event : Event) : State :=
  if event.shape = shapeNone then
    s.updateMechanism mechanism fun stat => { stat with initNoShape := stat.initNoShape + 1 }
  else
    let combos := ((s.mechanisms[mechanism]?).getD {}).paramCombos
    whenAdmitted (s.admitUnless (combos.contains (parameterCombo event))) fun s =>
      s.updateMechanism mechanism (comboStat event)

/-- What an admitted request records beyond its row. -/
def recordRequestDetails (event : Event) : State :=
  let s := if s.policy.usesUnsafeDecoders then s.recordCombo mechanism event else s
  s.recordCgroupMechanism event.cgroupId mechanism event.rv event.unregistered

def recordRequestedMechanism : State :=
  match event.mechanismCapture with
  | .value mechanism =>
    whenAdmitted (s.admitUnless (s.mechanisms.contains mechanism)) fun s =>
      (s.updateMechanism mechanism (requestedStat event slot)).recordRequestDetails
        mechanism event
  | .absent => s
  | .null => s
  | .unreadable => s

/-! ## Clearing session state -/

variable (session : SessionRef)

def clearOperations (mask : UInt16) : State × Bool :=
  let kept := s.activeOps.filter fun key _ =>
    !(key.1 = process && key.2.1 = session && mask &&& key.2.2 ≠ 0)
  ({ s with activeOps := kept }, kept.size != s.activeOps.size)

/-- Everything a session holds apart from its own opening. -/
def clearSessionState : State × Bool :=
  let (s, operations) := s.clearOperations process session 0xFFFF
  let kept := s.pending.filter fun key _ => !(key.1 = process && key.2.1 = session)
  let owned := s.detached.toList.any fun entry => entry.2.owner = some (process, session)
  let changed := operations || s.findActive.contains (process, session) ||
    s.inheritedAmbiguous.contains (process, session) || kept.size != s.pending.size || owned
  ({ s with
      findActive := s.findActive.erase (process, session)
      inheritedAmbiguous := s.inheritedAmbiguous.erase (process, session)
      pending := kept
      detached := s.detached.map fun _ detached =>
        if detached.owner = some (process, session) then { detached with owner := none }
        else detached },
    changed)

def countClosed (existed : Bool) : State :=
  if existed then
    { s with sessions := { s.sessions with closed := satAdd s.sessions.closed 1 } }
  else s

/-- Remove an opening and what the session holds; the flag tells whether it
was open. -/
def dropSession : State × Bool :=
  let existed := s.openSessions.contains (process, session)
  let s := { s with openSessions := s.openSessions.erase (process, session) }
  ((s.clearSessionState process session).1, existed)

def retireSession : State × Bool :=
  let (s, existed) := s.dropSession process session
  (s.countClosed existed, existed)

variable (moduleId : Option ModuleId)

def hasScopeState : Bool :=
  (s.openSessions.keys.any fun key => inScope process moduleId key.1 key.2) ||
  (s.activeOps.keys.any fun key => inScope process moduleId key.1 key.2.1) ||
  (s.findActive.toList.any fun key => inScope process moduleId key.1 key.2) ||
  (s.pending.keys.any fun key => inScope process moduleId key.1 key.2.1) ||
  (s.detached.toList.any fun entry => inScopeDetached process moduleId entry.1.1 entry.2) ||
  (s.inheritedAmbiguous.toList.any fun key => inScope process moduleId key.1 key.2)

/-- Sweep what a scope holds beyond its open sessions. -/
def sweepScope : State :=
  { s with
    activeOps := s.activeOps.filter fun key _ => !inScope process moduleId key.1 key.2.1
    findActive := s.findActive.filter fun key => !inScope process moduleId key.1 key.2
    inheritedAmbiguous :=
      s.inheritedAmbiguous.filter fun key => !inScope process moduleId key.1 key.2
    pending := s.pending.filter fun key _ => !inScope process moduleId key.1 key.2.1
    detached := s.detached.filter fun key detached =>
      !inScopeDetached process moduleId key.1 detached }

/-- The open sessions of a scope, in key order. -/
def scopeSessions : List SessionRef :=
  (s.openSessions.keys.filter fun key => inScope process moduleId key.1 key.2).map Prod.snd

/-- Drop a scope's state; without a module the pseudonym counter goes too.  The
flag tells whether the scope held any state. -/
def clearScope (closes : Bool) : State × Bool :=
  let hadState := s.hasScopeState process moduleId
  let s := (s.scopeSessions process moduleId).foldl
    (fun s session =>
      let (s, existed) := s.dropSession process session
      s.countClosed (existed && closes)) s
  let s := s.sweepScope process moduleId
  let s := if moduleId.isNone then
      { s with nextPseudonym := s.nextPseudonym.erase process }
    else s
  (s, hadState)

def retireScope : State × Bool :=
  s.clearScope process moduleId true

/-! ## Operations -/

def removeOperation (operation : UInt16) : State :=
  { s with activeOps := s.activeOps.erase (process, session, operation) }

/-- Bind one operation bit of a successful `*Init`. -/
def applyInitBit (event : Event) (slot : SlotMeta) (operation : UInt16) : State :=
  let session := slot.session event.session
  match event.mechanismCapture with
  | .value mechanism =>
    whenAdmitted (s.admitUnless (s.activeOps.contains (process, session, operation)))
      fun s =>
        { s with
          activeOps := s.activeOps.insert (process, session, operation)
            { mechanism := mechanism, forkSafe := slot.forkSafe
              unregistered := event.unregistered } }
  | .null =>
    let s := s.removeOperation process session operation
    if slot.semantics.semanticFlags &&& SemanticFlags.nullMechanismCancel = 0 then
      { s with evidence := { s.evidence with
          semanticCaptureFailures := satAdd s.evidence.semanticCaptureFailures 1 } }
    else s
  | .unreadable => s.removeOperation process session operation
  | .absent => s.removeOperation process session operation

def applyInit (event : Event) (slot : SlotMeta) : State :=
  if event.rv ≠ CkRv.ok ∨ event.session = sessionNone then s
  else
    (operationBits slot.semantics.operations).foldl
      (fun s entry => s.applyInitBit process event slot entry.1) s

variable (bits : List (UInt16 × String))

/-- The bindings an operational call touches, by mechanism. -/
def touchedBindings : ExtTreeMap UInt64 Bool :=
  bits.foldl
    (fun touched entry =>
      match s.activeOps[(process, session, entry.1)]? with
      | some binding =>
        touched.insert binding.mechanism
          ((touched[binding.mechanism]?).getD false || binding.unregistered)
      | none => touched) ∅

/-- How many operation bits of a call have no binding. -/
def unboundBits : Nat :=
  (bits.filter fun entry => !s.activeOps.contains (process, session, entry.1)).length

/-- Attribute an operational call to one mechanism; a refused row still counts
in its cgroup. -/
def attributeOpCall (unregistered : Bool) : State :=
  let s := whenAdmitted (s.admitUnless (s.mechanisms.contains mechanism)) fun s =>
    s.updateMechanism mechanism (attributedStat event unregistered)
  s.recordCgroupMechanism event.cgroupId mechanism event.rv unregistered

/-- Whether an operational call leaves its bindings in place. -/
def retains (transition : Transition) (event : Event) : Bool :=
  match transition with
  | .continue => event.rv = CkRv.ok
  | .updateWithOutput => event.rv = CkRv.ok || event.rv = CkRv.bufferTooSmall
  | .finishWithOutput =>
    event.rv = CkRv.bufferTooSmall ||
      (event.rv = CkRv.ok && event.capture &&& Capture.outputMask = Capture.outputNull)
  | .finishAlways => false
  | .retainAlways => true
  | .finishOnSuccess => event.rv ≠ CkRv.ok
  | _ => true

def removeOperations : State :=
  bits.foldl (fun s entry => s.removeOperation process session entry.1) s

def applyOperations (event : Event) (slot : SlotMeta) : State :=
  let session := slot.session event.session
  let bits := operationBits slot.semantics.operations
  let touched := s.touchedBindings process session bits
  let s := { s with orphanOps := s.orphanOps + s.unboundBits process session bits }
  let s := touched.toList.foldl
    (fun s entry => s.attributeOpCall event entry.1 entry.2) s
  if retains slot.semantics.transition event then s
  else s.removeOperations process session bits

/-! ## Reconciliation and lifecycle -/

/-- Whether an operation bit of the call is bound. -/
def anyBound : Bool :=
  bits.any fun entry => s.activeOps.contains (process, session, entry.1)

def removeFind : State :=
  { s with findActive := s.findActive.erase (process, session) }

/-- Module evidence that contradicts tracked state; the flag tells whether the
call ends here. -/
def reconcileConclusive (event : Event) (slot : SlotMeta) : State × Bool :=
  let session := slot.session event.session
  if event.rv = CkRv.operationNotInitialized then
    let bits := operationBits slot.semantics.operations
    let bound := s.anyBound process session bits
    let s := s.removeOperations process session bits
    if slot.semantics.lifecycle = .findOperation ∨ slot.semantics.lifecycle = .findFinal then
      let found := s.findActive.contains (process, session)
      ((s.removeFind process session).countReconciliation (bound || found), true)
    else (s.countReconciliation bound, true)
  else if event.rv = CkRv.sessionClosed ∨ event.rv = CkRv.sessionHandleInvalid then
    let (s, changed) := s.retireSession process session
    (s.countReconciliation changed, true)
  else if event.rv = CkRv.cryptokiNotInitialized then
    let (s, changed) := s.retireScope process (some slot.moduleId)
    (s.countReconciliation changed, true)
  else (s, false)

def updatePeak : State :=
  { s with sessions := { s.sessions with
      peakConcurrent := max s.sessions.peakConcurrent s.openSessions.size } }

/-- Draw the next pseudonym of a process for a session and open it. -/
def drawSession (slot : UInt64) (forkSafe : Bool) : State :=
  let pseudonym := (s.nextPseudonym[process]?).getD 0 + 1
  { s with
    nextPseudonym := s.nextPseudonym.insert process pseudonym
    openSessions := s.openSessions.insert (process, session)
      { pseudonym := pseudonym, slot := slot, forkSafe := forkSafe }
    drawn := s.drawn ++ [(process, session, pseudonym)] }

/-- Count an opening, whether or not its keys are admitted. -/
def countOpened : State :=
  { s with sessions := { s.sessions with
      opened := satAdd s.sessions.opened 1
      asyncOpened := satAdd s.sessions.asyncOpened
        (decide (event.capture &&& Capture.asyncSession ≠ 0)).toNat } }

def openSession (event : Event) (slot : SlotMeta) : State :=
  let session := slot.session event.session
  let (s, replaced) := s.retireSession process session
  let s := if replaced then s.countReconciliation true else s
  let s := s.countOpened event
  let counterNew := !s.nextPseudonym.contains process
  whenAdmitted (s.admitKeys (1 + counterNew.toNat)) fun s =>
    (s.drawSession process session event.slotId slot.forkSafe).updatePeak

/-- The open sessions of a scope on one PKCS#11 slot, in key order. -/
def slotSessions (moduleId : ModuleId) (slot : UInt64) : List SessionRef :=
  (s.openSessions.toList.filter fun entry =>
    inScope process (some moduleId) entry.1.1 entry.1.2 && entry.2.slot = slot).map
      fun entry => entry.1.2

def countUnmatchedClose (existed : Bool) : State :=
  if existed then s else { s with unmatchedCloses := s.unmatchedCloses + 1 }

def closeSession : State :=
  let (s, existed) := s.retireSession process session
  s.countUnmatchedClose existed

def closeAllSessions (event : Event) (slot : SlotMeta) : State :=
  (s.slotSessions process slot.moduleId event.slotId).foldl
    (fun s session => (s.retireSession process session).1) s

/-- Clear the listed sessions; the flag tells whether anything was held. -/
def clearSessions (sessions : List SessionRef) : State × Bool :=
  sessions.foldl
    (fun acc session =>
      let (s, changed) := acc.1.clearSessionState process session
      (s, acc.2 || changed)) (s, false)

def countAuthAmbiguity (changed : Bool) : State :=
  { s with evidence := { s.evidence with
      authStateAmbiguities := satAdd s.evidence.authStateAmbiguities changed.toNat } }

def applyAuth (event : Event) (slot : SlotMeta) : State :=
  let contextSpecific := slot.names.contains "C_Login" ∧ event.userType = 2 ∧
    event.rv = CkRv.ok
  if contextSpecific then s
  else if event.rv ≠ CkRv.ok ∧ event.rv ≠ CkRv.pinLocked then s
  else
    match s.openSessions[(process, slot.session event.session)]? with
    | none => s
    | some info =>
      let (s, changed) := s.clearSessions process
        (s.slotSessions process slot.moduleId info.slot)
      s.countAuthAmbiguity changed

/-- Whether a stored call is among the operations a cancel selects. -/
def cancels (flags : UInt64) (pending : Pending) : Bool :=
  pending.slot.semantics.operations &&& cancelOperationMask flags ≠ 0 ||
    directCancelFlag pending.slot.semantics.direct &&& flags ≠ 0 ||
    (pending.slot.semantics.lifecycle = .findInit && flags &&& Ckf.findObjects ≠ 0)

def clearSelected (flags : UInt64) : State :=
  let s := (s.clearOperations process session (cancelOperationMask flags)).1
  let s := if flags &&& Ckf.findObjects ≠ 0 then s.removeFind process session else s
  { s with
    pending := s.pending.filter fun key pending =>
      !(key.1 = process && key.2.1 = session && cancels flags pending)
    detached := s.detached.filter fun _ detached =>
      detached.collided ||
        !(detached.owner = some (process, session) && cancels flags detached.pending) }

def countUnknownCancelFlags (flags : UInt64) : State :=
  if flags &&& ~~~knownCancelFlags ≠ 0 then
    { s with evidence := { s.evidence with
        sessionCancelUnknownFlags := satAdd s.evidence.sessionCancelUnknownFlags 1 } }
  else s

def applySessionCancel (event : Event) (session : SessionRef) : State :=
  let s := s.countUnknownCancelFlags event.flags
  if event.rv = CkRv.operationCancelFailed ∧ 1 < selectedCancelFlags event.flags then
    let s := s.clearSelected process session event.flags
    { s with evidence := { s.evidence with
        sessionCancelAmbiguities := satAdd s.evidence.sessionCancelAmbiguities 1 } }
  else if event.rv = CkRv.ok then s.clearSelected process session event.flags
  else s

def findInit : State :=
  whenAdmitted (s.admitUnless (s.findActive.contains (process, session))) fun s =>
    { s with findActive := s.findActive.insert (process, session) }

def importOperationState : State :=
  let s := (s.clearOperations process session 0xFFFF).1
  { s with evidence := { s.evidence with
      operationStateImports := satAdd s.evidence.operationStateImports 1 } }

def applyLifecycle (event : Event) (slot : SlotMeta) : State :=
  let session := slot.session event.session
  match slot.semantics.lifecycle with
  | .openSession =>
    if event.rv = CkRv.ok ∧ event.session ≠ sessionNone then s.openSession process event slot
    else s
  | .closeSession =>
    if event.rv = CkRv.ok then s.closeSession process session else s
  | .closeAllSessions =>
    if event.rv = CkRv.ok then s.closeAllSessions process event slot else s
  | .finalize =>
    if event.rv = CkRv.ok then (s.retireScope process (some slot.moduleId)).1 else s
  | .login => s.applyAuth process event slot
  | .logout => s.applyAuth process event slot
  | .findInit => if event.rv = CkRv.ok then s.findInit process session else s
  | .findFinal => if event.rv = CkRv.ok then s.removeFind process session else s
  | .sessionCancel => s.applySessionCancel process event session
  | .setOperationState =>
    if event.rv = CkRv.ok then s.importOperationState process session else s
  | _ => s

/-! ## Templates -/

def templateCell (key : UInt32 × UInt8) (role : Option String) (slot : SlotMeta) : TemplateStat :=
  (s.templates[key]?).getD { names := slot.names, aliased := slot.aliased, role := role }

/-- The captured attribute types a cell does not list yet. -/
def missingTypes (cell : TemplateStat) (captured : TemplateCapture) : ExtTreeSet UInt64 :=
  ExtTreeSet.ofList
    ((captured.types.toList.take captured.count.toNat).filter fun attrType =>
      !cell.attrTypes.contains attrType)

/-- Merge one capture into a cell; refused types leave only the flags. -/
def mergeTemplate (cell : TemplateStat) (captured : TemplateCapture) (addTypes : Bool) :
    TemplateStat :=
  { cell with
    attrTypes :=
      if addTypes then
        (missingTypes cell captured).toList.foldl (fun types attrType => types.insert attrType)
          cell.attrTypes
      else cell.attrTypes
    boolsTrue := cell.boolsTrue ||| captured.bools &&& captured.boolsSeen
    boolsFalse := cell.boolsFalse ||| captured.boolsSeen &&& ~~~captured.bools
    truncated := cell.truncated || captured.count < captured.total }

/-- Merge a capture into an admitted cell, admitting its new types together. -/
def storeTemplate (key : UInt32 × UInt8) (cell : TemplateStat) (captured : TemplateCapture) :
    State :=
  let (s, addTypes) := s.admitKeys (missingTypes cell captured).size
  { s with templates := s.templates.insert key (mergeTemplate cell captured addTypes) }

def recordTemplate (key : UInt32 × UInt8) (role : Option String) (slot : SlotMeta)
    (captured : TemplateCapture) : State :=
  let cell := s.templateCell key role slot
  whenAdmitted (s.admitUnless (s.templates.contains key)) fun s =>
    ({ s with templates := s.templates.insert key cell } : State).storeTemplate key cell captured

/-- The first template argument, `public` when a second one follows. -/
def observeTemplate0 : State :=
  if slot.semantics.template0Arg ≠ argNone then
    s.recordTemplate (event.slot, 0)
      (if slot.semantics.template1Arg ≠ argNone then some "public" else none) slot
      event.template0
  else s

/-- The second template argument. -/
def observeTemplate1 : State :=
  if slot.semantics.template1Arg ≠ argNone then
    s.recordTemplate (event.slot, 1) (some "private") slot event.template1
  else s

def observeTemplates : State :=
  if !s.policy.usesUnsafeDecoders then s
  else (s.observeTemplate0 event slot).observeTemplate1 event slot

/-! ## Completed calls -/

def recordLogin : State :=
  if slot.semantics.lifecycle = .login ∧ event.rv = CkRv.ok ∧ event.userType ≠ userTypeNone then
    whenAdmitted (s.admitUnless (s.logins.contains event.userType)) fun s =>
      { s with
        logins := s.logins.insert event.userType ((s.logins[event.userType]?).getD 0 + 1) }
  else s

/-- The statistics a completed call updates before its state transitions. -/
def recordStatistics (wasPending : Bool) : State :=
  let s := s.observeTemplates event slot
  let s :=
    if (slot.semantics.transition = .initializeOperation ∨ slot.semantics.direct ≠ .none) ∧
        (s.policy.usesUnsafeDecoders ∨ wasPending ∨ event.rv = CkRv.ok) then
      s.recordRequestedMechanism event slot
    else s
  s.recordLogin event slot

/-- Bindings and attribution, after the lifecycle. -/
def applyOperation (event : Event) (slot : SlotMeta) : State :=
  if slot.semantics.transition = .initializeOperation then s.applyInit process event slot
  else if slot.semantics.direct = .none ∧ slot.semantics.operations ≠ 0 then
    s.applyOperations process event slot
  else s

def applyCompleted (event : Event) (slot : SlotMeta) (wasPending : Bool) : State :=
  let s := s.recordStatistics event slot wasPending
  let (s, conclusive) := s.reconcileConclusive process event slot
  if conclusive then s
  else (s.applyLifecycle process event slot).applyOperation process event slot

/-! ## Asynchronous calls -/

def countEviction : State :=
  { s with evidence := { s.evidence with
      asyncEvictions := satAdd s.evidence.asyncEvictions 1 } }

/-- Oldest-first eviction of one stored call past the bound. -/
def evictPendingIfNeeded : State :=
  if s.pending.size + s.detached.size ≤ maxPending then s
  else
    match s.pending.toList.argmin (fun entry => entry.2.sequence),
        s.detached.toList.argmin (fun entry => entry.2.pending.sequence) with
    | some (key, record), some (detachedKey, detached) =>
      if record.sequence ≤ detached.pending.sequence then
        { s with pending := s.pending.erase key }.countEviction
      else { s with detached := s.detached.erase detachedKey }.countEviction
    | some (key, _), none => { s with pending := s.pending.erase key }.countEviction
    | none, some (detachedKey, _) =>
      { s with detached := s.detached.erase detachedKey }.countEviction
    | none, none => s

/-- Store a pending call under its function, replacing an older one. -/
def storePending (event : Event) (slot : SlotMeta) (function : UInt32) : State :=
  let s := { s with sequence := wrappingSucc s.sequence }
  let key := (process, slot.session event.session, function)
  let replaced := s.pending.contains key
  let s := { s with
    pending := s.pending.insert key
      { event := event, slot := slot, startedNs := event.tsNs - event.durationNs
        sequence := s.sequence } }
  let s := if replaced then s.countAsyncDuplicate else s
  s.evictPendingIfNeeded

def queuePending (event : Event) (slot : SlotMeta) : State :=
  match slot.functionId with
  | none => s.countAsyncTargetFailure
  | some function =>
    if slot.semantics.lifecycle = .openSession ∧ event.session = sessionNone then
      s.countAsyncTargetFailure
    else s.storePending process event slot function

/-- The event a stored call completes with. -/
def completedEvent (completion : Event) (pending : Pending) : Event :=
  { pending.event with
    session := completion.session
    rv := completion.rv
    tsNs := completion.tsNs
    durationNs := completion.tsNs - pending.startedNs }

def completePending (event : Event) (pending : Pending) : State :=
  let completed := completedEvent event pending
  if completed.rv = CkRv.pending then s.queuePending process completed pending.slot
  else s.applyCompleted process completed pending.slot true

/-- The first issued id a session owns for a function, in key order. -/
def ownedDetached (function : UInt32) : Option (DetachedKey × Detached) :=
  s.detached.toList.find? fun entry =>
    entry.2.owner = some (process, session) ∧
      entry.2.pending.slot.functionId = some function

def asyncComplete (event : Event) (session : SessionRef) : State :=
  if event.rv = CkRv.pending then s
  else
    match s.pending[(process, session, event.targetFunction)]? with
    | some pending =>
      let s := { s with
        pending := s.pending.erase (process, session, event.targetFunction) }
      s.completePending process event pending
    | none =>
      match s.ownedDetached process session event.targetFunction with
      | none => s.countAsyncOrphan
      | some (key, detached) =>
        if detached.collided then s.countAsyncOrphan
        else
          let s := { s with detached := s.detached.erase key }
          s.completePending process event detached.pending

/-- Issue an async id for a stored call whose pending record is consumed. -/
def issueDetached (key : DetachedKey) (pending : Pending) : State :=
  let issued : Detached :=
    { pending := pending, owner := some (process, session), process := process
      collided := false }
  match s.detached[key]? with
  | some existing =>
    if existing.process ≠ process then
      { s with
        detached := s.detached.insert key { existing with collided := true }
        }.countAsyncDuplicate
    else if existing.collided then s.countAsyncDuplicate
    else { s with detached := s.detached.insert key issued }.countAsyncDuplicate
  | none => { s with detached := s.detached.insert key issued }

def detachedKey (slot : UInt64) (event : Event) : DetachedKey :=
  (session.moduleId, slot, event.targetFunction, event.asyncValue, process.domain)

def asyncGetId (event : Event) (session : SessionRef) : State :=
  match s.openSessions[(process, session)]? with
  | none => s.countAsyncTargetFailure
  | some info =>
    match s.pending[(process, session, event.targetFunction)]? with
    | none => s.countAsyncOrphan
    | some pending =>
      let s := { s with
        pending := s.pending.erase (process, session, event.targetFunction) }
      s.issueDetached process session (detachedKey process session info.slot event) pending

def asyncJoin (event : Event) (session : SessionRef) : State :=
  match s.openSessions[(process, session)]? with
  | none => s.countAsyncTargetFailure
  | some info =>
    let key := detachedKey process session info.slot event
    match s.detached[key]? with
    | some detached =>
      if detached.collided then s.countAsyncOrphan
      else
        { s with
          detached := s.detached.insert key
            { detached with owner := some (process, session), process := process } }
    | none => s.countAsyncOrphan

def observeAsync (event : Event) : State :=
  if event.targetFunction = functionNone then s.countAsyncTargetFailure
  else if event.capture &&& Capture.asyncValueUnreadable ≠ 0 then s.countAsyncTargetFailure
  else
    match s.slotAt event.slot with
    | none => s
    | some slot =>
      let session := slot.session event.session
      match slot.semantics.lifecycle with
      | .asyncComplete => s.asyncComplete process event session
      | .asyncGetId =>
        if event.rv = CkRv.ok then s.asyncGetId process event session else s
      | .asyncJoin =>
        if event.rv = CkRv.ok then s.asyncJoin process event session else s
      | _ => s

/-! ## Public operations -/

/-- A handle whose inherited state was ambiguous is used by the child itself. -/
def noteInherited (event : Event) (slot : SlotMeta) : State :=
  let key := (process, slot.session event.session)
  if event.session ≠ sessionNone ∧ s.inheritedAmbiguous.contains key then
    { s with
      inheritedAmbiguous := s.inheritedAmbiguous.erase key
      evidence := { s.evidence with
        forkStateAmbiguities := satAdd s.evidence.forkStateAmbiguities 1 } }
  else s

def asyncLifecycle (lifecycle : Lifecycle) : Bool :=
  lifecycle = .asyncComplete || lifecycle = .asyncGetId || lifecycle = .asyncJoin

/-- The semantic path of a call at a slot with semantics. -/
def observeSlot (event : Event) (slot : SlotMeta) : State :=
  let s := s.noteInherited process event slot
  if asyncLifecycle slot.semantics.lifecycle then s.observeAsync process event
  else if event.rv = CkRv.pending then s.queuePending process event slot
  else s.applyCompleted process event slot false

/-- The call of one process, within the capture's domain. -/
def observeCall (event : Event) : State :=
  let s := s.recordHistory process
  let s := s.countCgroup (· + 1) event
  match s.slotAt event.slot with
  | none => s
  | some slot =>
    if slot.semantics = .countOnly then s else s.observeSlot process event slot

def observeProcess (key : ProcessKey) (event : Event) : State :=
  if !s.acceptsDomain key.domain then s.rejectHistory event
  else s.observeCall key.identity event

def retireProcess (key : ProcessKey) : State × Bool :=
  s.retireScope key.identity none

def markAmbiguous (child : Process) (session : SessionRef) : State :=
  whenAdmitted (s.admitUnless (s.inheritedAmbiguous.contains (child, session))) fun s =>
    { s with inheritedAmbiguous := s.inheritedAmbiguous.insert (child, session) }

/-- One live operation of an inherited session. -/
def inheritOperation (child : Process) (session : SessionRef) (operation : UInt16 × Binding) :
    State :=
  if operation.2.forkSafe then
    whenAdmitted (s.admitUnless (s.activeOps.contains (child, session, operation.1))) fun s =>
      { s with
        activeOps := s.activeOps.insert (child, session, operation.1) operation.2 }
  else s.markAmbiguous child session

/-- A live object search of an inherited session. -/
def inheritFind (parent child : Process) (session : SessionRef) : State :=
  if s.findActive.contains (parent, session) then s.findInit child session else s

/-- Copy one session of the parent to the child. -/
def inheritSession (parent child : Process) (operations : SessionRef → List (UInt16 × Binding))
    (entry : SessionRef × SessionInfo) : State :=
  if !entry.2.forkSafe then s.markAmbiguous child entry.1
  else
    let needed := (!s.nextPseudonym.contains child).toNat +
      (!s.openSessions.contains (child, entry.1)).toNat
    whenAdmitted (s.admitKeys needed) fun s =>
      let s := s.drawSession child entry.1 entry.2.slot entry.2.forkSafe
      let s := { s with sessions := { s.sessions with
        inherited := satAdd s.sessions.inherited 1 } }
      let s := (operations entry.1).foldl
        (fun s operation => s.inheritOperation child entry.1 operation) s
      s.inheritFind parent child entry.1

/-- The open sessions of a process, in key order. -/
def processSessions : List (SessionRef × SessionInfo) :=
  (s.openSessions.toList.filter fun entry => entry.1.1 = process).map
    fun entry => (entry.1.2, entry.2)

/-- The live operations of one session of a process, in key order. -/
def sessionOperations : List (UInt16 × Binding) :=
  (s.activeOps.toList.filter fun entry => entry.1.1 = process ∧ entry.1.2.1 = session).map
    fun entry => (entry.1.2.2, entry.2)

/-- A birth fork copies the parent's sessions once, before any call of the child. -/
def forkProcess (parent child : ProcessKey) : State :=
  if parent.domain ≠ child.domain ∨ !s.acceptsDomain parent.domain then s
  else if s.reducedHistories.contains child.identity then s
  else
    whenAdmitted (s.admitKeys 1) fun s =>
      let s := { s with reducedHistories := s.reducedHistories.insert child.identity }
      -- The parent's operations are grouped before the first session is copied.
      let operations := s.sessionOperations parent.identity
      ((s.processSessions parent.identity).foldl
        (fun s entry => s.inheritSession parent.identity child.identity operations entry)
        s).updatePeak

/-- The legacy entry point, which names processes by pid alone. -/
def observe : State :=
  let pid := (event.pidTgid >>> 32).toUInt32
  if event.eventType = EventType.fork then
    s.forkProcess (.fromPid pid) (.fromPid event.session.toUInt32)
  else if event.eventType = EventType.forkIntoCgroup then s
  else s.observeProcess (.fromPid pid) event

/-! ## Plan changes -/

/-- Every process some map still names. -/
def processes : ExtTreeSet Process :=
  ExtTreeSet.ofList
    (s.reducedHistories.toList ++ s.nextPseudonym.keys ++
      s.openSessions.keys.map Prod.fst ++ s.activeOps.keys.map Prod.fst ++
      s.findActive.toList.map Prod.fst ++ s.inheritedAmbiguous.toList.map Prod.fst ++
      s.pending.keys.map Prod.fst ++ s.detached.toList.map fun entry => entry.2.process)

/-- Clear every listed module in every listed process; the flag tells whether
anything was held. -/
def clearScopes (scopes : List (Process × ModuleId)) : State × Bool :=
  scopes.foldl
    (fun acc scope =>
      let (s, held) := acc.1.clearScope scope.1 (some scope.2) false
      (s, acc.2 || held)) (s, false)

def holdsStatistics : Bool :=
  !s.mechanisms.isEmpty || !s.templates.isEmpty || !s.logins.isEmpty || !s.cgroups.isEmpty ||
    s.sessions ≠ {} || s.orphanOps ≠ 0 || s.unmatchedCloses ≠ 0

/-- Statistics have no module dimension, so a purge clears them all. -/
def clearStatistics : State :=
  { s with
    mechanisms := ∅, templates := ∅, logins := ∅, cgroups := ∅, sessions := {}
    orphanOps := 0, unmatchedCloses := 0 }

def purgeModules (modules : ExtTreeSet ModuleId) : State :=
  if modules.isEmpty then s
  else
    let scopes := s.processes.toList.flatMap fun process =>
      modules.toList.map fun moduleId => (process, moduleId)
    let (s, held) := s.clearScopes scopes
    let changed := held || s.holdsStatistics
    s.clearStatistics.countReconciliation changed

/-- A slot whose semantics the new plan hides behind a latched ambiguity. -/
def hidesAmbiguity (index : Nat) (previous : SlotMeta) (next : Option SlotMeta) : Bool :=
  previous.semantics ≠ .countOnly &&
    (next.any fun next => next.semantics = .countOnly) &&
    (plan.slots[index]?).any fun slot =>
      slot.descriptorIndex ≠ 0 && slot.semantics ≠ .countOnly &&
        slot.moduleIds.length < 2 && plan.slotIsModuleAmbiguous slot.index

/-- The modules whose state one slot's change invalidates. -/
def affectedBySlot (previous : SlotMeta) (next : Option SlotMeta) : List ModuleId :=
  if slotSemanticsChanged previous next then
    previous.moduleIds ++ (next.map SlotMeta.moduleIds).getD []
  else []

/-- The modules a plan change invalidates. -/
def affectedModules (previous next : List (Option SlotMeta)) (plan : AttachPlan) :
    ExtTreeSet ModuleId :=
  let old := previous.zipIdx.filterMap fun entry => entry.1.map fun slot => (entry.2, slot)
  let changed := old.flatMap fun entry => affectedBySlot entry.2 (next[entry.1]?).join
  let hidden := old.any fun entry => hidesAmbiguity plan entry.1 entry.2 (next[entry.1]?).join
  let every := (previous ++ next).flatMap fun slot => (slot.map SlotMeta.moduleIds).getD []
  ExtTreeSet.ofList (if hidden then changed ++ every else changed)

def syncPlan (plan : AttachPlan) : State :=
  let slots := slotMetadata plan
  let affected := affectedModules s.slots slots plan
  { s with slots := slots }.purgeModules affected

end State

end P11Scope.Semantics
