import P11Scope.Edge.State

/-!
# Growth prediction

What the reducer reserves before a call runs, read off the state before the
call.  The routing and eligibility decisions here are the ones the call itself
takes later.
-/

namespace P11Scope.Edge

open Std Lib.TreeMap Kinds

/-- Charge of one stored asynchronous call. -/
def asyncCharge (call : SemanticCall) (descriptor : SlotSemantics) : Nat :=
  let count := countOnes descriptor.operations.toNat
  let origin :=
    if count = 0 then 0 else max (2 ^ Nat.clog 2 count) 4 * 24 + ownedAllocationPadding
  asyncFactCharge + call.function.utf8ByteSize + ownedAllocationPadding + origin

/-- The categories a claim of this descriptor names: its operation bits, then
its direct kind. -/
def claimedCategories (descriptor : SlotSemantics) : List String :=
  (operationBits descriptor.operations).map Prod.snd ++ (directName descriptor.direct).toList

/-- Charge of the categories a claim of this descriptor adds to a row. -/
def categoryGrowth (prior : Option EdgeMechStat) (descriptor : SlotSemantics) : Nat :=
  (claimedCategories descriptor).foldl
    (fun bytes name =>
      if prior.all (fun stat => !stat.ops.contains name) then bytes + categoryCharge else bytes)
    0

namespace EdgeSemantics

variable (edge : EdgeSemantics) (call : SemanticCall)

def routePending : PendingRoute :=
  let descriptor := descriptorOrCountOnly call.function
  match functionId call.function with
  | none => .unroutable
  | some function =>
    if descriptor.lifecycle = .openSession ∧ call.session = sessionNone then .unroutable
    else if edge.pending.contains (call.session, function) then .duplicate
    else .fresh function descriptor (asyncCharge call descriptor)

variable (session : UInt64)

/-- Exactly-one completion eligibility: the pending record of the session plus
the detached ids it owns for the target. -/
def completeEligible (target : UInt32) : CompleteEligible :=
  let hasPending := edge.pending.contains (session, target)
  let owned := edge.detached.toList.filter fun entry =>
    entry.2.owner = some session ∧ entry.1.2.1 = target
  let eligible := hasPending.toNat + owned.length
  if eligible ≠ 1 then
    if 2 ≤ eligible then .many else .zero
  else if hasPending then .pending (session, target)
  else
    match owned.getLast? with
    | some entry => .detached entry.1
    | none => .zero

/-- Whether the completing session still holds every originating lifetime. -/
def originMatches (origin : CallOrigin) : Bool :=
  origin.bits.all fun entry =>
    (edge.active[(session, entry.1)]?).map OpMachine.generation = entry.2

def provenanceGrowth (mechanism : UInt64) (call : SemanticCall) (rv : UInt64) : Nat :=
  let stat := edge.mechs[mechanism]?
  if stat.isNone ∧ maxEdgeMechanisms ≤ edge.mechs.size then 0
  else
    (if stat.isNone then mechanismCharge else 0) +
      (if stat.all (fun s => !s.functions.contains call.function &&
          s.functions.size < maxEdgeProvenanceFunctions) then
        functionCharge + call.function.utf8ByteSize + ownedAllocationPadding
      else 0) +
      (if stat.all (fun s => !s.returns.contains rv &&
          s.returns.size < maxEdgeProvenanceReturns) then
        returnCharge
      else 0)

/-- Whether a return code ends the pipeline in reconciliation. -/
def reconciles (rv : UInt64) : Bool :=
  rv = CkRv.operationNotInitialized || rv = CkRv.sessionClosed ||
    rv = CkRv.sessionHandleInvalid || rv = CkRv.cryptokiNotInitialized

variable (descriptor : SlotSemantics)

/-- Bytes the mechanism claim of a completed call may retain. -/
def claimGrowth (rv : UInt64) : Nat :=
  if (descriptor.transition = .initializeOperation ∨ descriptor.direct ≠ .none) ∧
      rv = CkRv.ok ∧ call.mechanismCapture = Capture.mechanismValue ∧
      (edge.mechs.contains call.mechanism ∨ edge.mechs.size < maxEdgeMechanisms) then
    edge.provenanceGrowth call.mechanism call rv +
      categoryGrowth edge.mechs[call.mechanism]? descriptor
  else 0

/-- Bytes the open binding of a completed call may retain. -/
def bindingGrowth (session : UInt64) (rv : UInt64) : Nat :=
  if descriptor.lifecycle = .openSession ∧ rv = CkRv.ok ∧ session ≠ sessionNone ∧
      (edge.openBindings.contains session ∨ edge.openBindings.size < maxEdgeSessions) then
    openBindingCharge
  else 0

/-- Bytes and machine count added by the operation bits of an `*Init`. -/
def machineGrowth (bits : List (UInt16 × String)) : Nat × Nat :=
  bits.foldl
    (fun (bytes, additions) entry =>
      if ¬ edge.active.contains (session, entry.1) ∧
          edge.active.size + additions < maxEdgeActiveOps then
        (bytes + activeMachineCharge, additions + 1)
      else (bytes, additions)) (0, 0)

/-- Bytes retained by attributing one call to each distinct touched mechanism. -/
def attributionGrowth (rv : UInt64) (bits : List (UInt16 × String)) : Nat × List UInt64 :=
  bits.foldl
    (fun (bytes, seen) entry =>
      match (edge.active[(session, entry.1)]?).bind OpMachine.mechanism with
      | some mechanism =>
        if seen.contains mechanism then (bytes, seen)
        else (bytes + edge.provenanceGrowth mechanism call rv, seen ++ [mechanism])
      | none => (bytes, seen)) (0, [])

/-- Growth of the open binding and of the machines or rows a call touches. -/
def scopedGrowth (session : UInt64) (rv : UInt64) : Nat :=
  edge.bindingGrowth descriptor session rv +
    if descriptor.transition = .initializeOperation ∧ rv = CkRv.ok ∧ session ≠ sessionNone ∧
        ¬ (call.mechanismCapture = Capture.mechanismNull ∧
          descriptor.semanticFlags &&& SemanticFlags.nullMechanismCancel ≠ 0) then
      (edge.machineGrowth session (operationBits descriptor.operations)).1
    else if descriptor.transition ≠ .initializeOperation ∧ descriptor.direct = .none ∧
        descriptor.operations ≠ 0 then
      (edge.attributionGrowth call session rv (operationBits descriptor.operations)).1
    else 0

/-- Predicted growth of a completed call under the given session and return.
Claims precede reconciliation, and a reconciled call grows nothing else. -/
def completedGrowth (rv : UInt64) : Nat :=
  let descriptor := descriptorOrCountOnly call.function
  let claim := edge.claimGrowth call descriptor rv
  if reconciles rv then claim else claim + edge.scopedGrowth call descriptor session rv

/-- The one stored call a completion would consume. -/
def eligibleOriginal (target : UInt32) : Option (SemanticCall × CallOrigin) :=
  match edge.completeEligible session target with
  | .pending key => (edge.pending[key]?).map fun record => (record.call, record.origin)
  | .detached key => (edge.detached[key]?).map fun record => (record.call, record.origin)
  | .zero => none
  | .many => none

/-- Predicted growth of a `C_AsyncComplete`: the replay of its unique original. -/
def completionGrowth : Nat :=
  if call.rv = CkRv.pending ∨ call.targetFunction = functionNone ∨
      call.capture &&& Capture.asyncValueUnreadable ≠ 0 then 0
  else
    match edge.eligibleOriginal call.session call.targetFunction with
    | none => 0
    | some (stored, origin) =>
      if edge.originMatches call.session origin then
        edge.completedGrowth stored call.session call.rv
      else 0

/-- Predicted growth of a call, read off the state before it. -/
def preflightGrowth : Nat :=
  if !call.attributable || !call.authorized || !call.unambiguous || call.countOnly then 0
  else
    let descriptor := descriptorOrCountOnly call.function
    if descriptor = .countOnly then 0
    else if descriptor.lifecycle = .asyncComplete then edge.completionGrowth call
    else if descriptor.lifecycle = .asyncGetId ∨ descriptor.lifecycle = .asyncJoin then 0
    else if call.rv = CkRv.pending then
      match edge.routePending call with
      | .fresh _ _ charge => charge
      | .unroutable => 0
      | .duplicate => 0
    else edge.completedGrowth call call.session call.rv

end EdgeSemantics

end P11Scope.Edge
