import P11Scope.Journal.Ledger
import P11Scope.Objects.Endpoints

/-!
# Seals and failures as a feed receives them

A seal retains the settled calls, the replay steps with their effect spans, and
an index of terminal steps.  A failure retains up to three original negatives.
Delivery walks the effects of either with a cursor that survives between slices.
-/

namespace P11Scope.Feed

open Edge Journal Objects

/-! ## Gaps -/

inductive JournalGap where
  | faultChanged
  | faultUnreadable
  | faultSaturated
  | malformed
  | counterUnprovable
  | resourceUnavailable
  | h3Pending
  | h3Loss
  | adapterInvalidated
  | domainTainted
  | imageTainted
  | frontierRegression
  | bootstrapMismatch
  | boundNotReady
  | modelRefused
  | domainEnded
  | closureStale
  | stopped
  | drainMismatch
  | h3Exhausted
  | discarded
  | cutExhausted
  | claimUnmatched
  deriving DecidableEq, Repr

inductive SealFailureDisposition where
  | historyLoss
  | fallback
  | retry
  deriving DecidableEq, Repr

/-- Endings that name the authority itself have no clean point on their feed. -/
def segmentResumableAfter : JournalGap → Bool
  | .domainTainted | .imageTainted | .domainEnded | .adapterInvalidated | .stopped
  | .bootstrapMismatch | .faultChanged | .faultUnreadable | .faultSaturated => false
  | _ => true

def dispositionOf : JournalGap → SealFailureDisposition
  | .faultChanged | .faultUnreadable | .faultSaturated | .malformed | .counterUnprovable
  | .h3Loss | .h3Exhausted | .discarded => .historyLoss
  | .h3Pending | .boundNotReady | .frontierRegression => .retry
  | .modelRefused | .bootstrapMismatch | .closureStale | .domainTainted | .imageTainted
  | .domainEnded | .adapterInvalidated | .stopped | .drainMismatch | .cutExhausted
  | .resourceUnavailable | .claimUnmatched => .fallback

/-! ## Sealed calls -/

/-- One settled call: its ticket, function, cuts and correlation fingerprint. -/
structure SealedCall where
  ticket : CallToken
  key : CallKey
  function : UInt32
  endCut : Option UInt64
  abandoned : Bool
  session : HandleInput
  mechanism : MechClass
  deriving DecidableEq, Repr

def mechanismClass (capture : UInt32) : MechClass :=
  let bits := capture &&& Capture.mechanismMask
  if bits = Capture.mechanismValue then .value
  else if bits = Capture.mechanismNull then .null
  else if bits = Capture.mechanismUnreadable then .unreadable
  else .notCaptured

/-- Whether a sealed call is a staged head's own call, up to the words the
producer rewrites on return. -/
def SealedCall.matchesHead (call : SealedCall) (function : UInt32) (session : UInt64)
    (capture : UInt32) (position : UInt64) : Bool :=
  if call.key ≠ position then false
  else if call.function ≠ function then false
  else
    let semantics := slotSemantics function
    let sessionMatches :=
      match call.session with
      | .value handle => handle = session
      | .absent => session = sessionNone || semantics.any fun semantics =>
          semantics.sessionArg = argNone && semantics.lifecycle = .openSession
      | .unreadable => false
    if !sessionMatches then false
    else
      let mechanism := mechanismClass capture
      call.mechanism = mechanism ||
        ((semantics.any fun semantics => semantics.mechanismArg ≠ argNone) &&
          (call.mechanism = .notCaptured || call.mechanism = .unreadable) &&
          (mechanism = .value || mechanism = .unreadable))

/-! ## Seals -/

inductive SealReplayPhase where
  | conversion
  | settlementPrelude
  | begin
  | finish
  | boundedLoss
  | settlementTail
  deriving DecidableEq, Repr

/-- One replay step over the effects from `start` to before `stop`.  Its call, if
any, is a one-based index of the settled table. -/
structure SealReplayStep where
  phase : SealReplayPhase
  call : Option Nat
  cut : Option UInt64
  start : Nat
  stop : Nat
  deriving DecidableEq, Repr

/-- Where one original call and its terminal step stand, one-based. -/
structure CallLocator where
  key : CallKey
  token : CallToken
  index : Nat
  terminal : Option Nat
  deriving DecidableEq, Repr

/-- A passing seal.  `locate` is the index's binary search by admission; a seal
without an index has none. -/
structure SealSuccess where
  domain : ObjectDomain
  settled : List SealedCall
  replaySteps : List SealReplayStep
  locate : Option (UInt64 → Option CallLocator)
  effects : List ObjectEffect

structure SealReplayCursor where
  step : Nat := 0
  effect : Nat := 0
  deriving DecidableEq, Repr

namespace SealSuccess

variable (success : SealSuccess)

def callForStep (step : SealReplayStep) : Option SealedCall := do
  success.settled[(← step.call) - 1]?

/-- The retained terminal step of an admission, whether or not it is ready. -/
def indexedTerminal (admission : UInt64) : Option (Nat × SealReplayStep) := do
  let entry ← (← success.locate) admission
  let original ← success.settled[entry.index - 1]?
  if original.key ≠ entry.key ∨ original.ticket ≠ entry.token then none
  else
    let position := (← entry.terminal) - 1
    let step ← success.replaySteps[position]?
    if (step.phase = .finish ∨ step.phase = .boundedLoss) ∧
        success.callForStep step = some original then
      some (position, step)
    else none

variable (cursor : SealReplayCursor)

/-- A terminal is ready only after its own effect span passed. -/
def readyTerminal (admission : UInt64) : Option SealReplayStep := do
  let (index, step) ← success.indexedTerminal admission
  if index < cursor.step then some step else none

def effectsComplete : Bool :=
  cursor.step = success.replaySteps.length && cursor.effect = success.effects.length

/-- One unit of work: one effect, or one empty span. -/
def advanceEffect : Option (Option ObjectEffect × SealReplayCursor) := do
  let step ← success.replaySteps[cursor.step]?
  if cursor.effect < step.start ∨ cursor.effect > step.stop then none
  else if cursor.effect < step.stop then
    let effect ← success.effects[cursor.effect]?
    let next := { cursor with effect := cursor.effect + 1 }
    some (some effect,
      if next.effect = step.stop then { next with step := next.step + 1 } else next)
  else some (none, { cursor with step := cursor.step + 1 })

def effectsForStep (step : SealReplayStep) : Option (List ObjectEffect) :=
  if step.start ≤ step.stop ∧ step.stop ≤ success.effects.length then
    some ((success.effects.drop step.start).take (step.stop - step.start))
  else none

end SealSuccess

/-! ## Failures -/

inductive SealFailureScope where
  | unqualified
  | domain (owned : ObjectDomain)
  | affectedDomains (owned : List ObjectDomain)
  deriving DecidableEq, Repr

structure SealFailure where
  scope : SealFailureScope
  gap : JournalGap
  effects : List ObjectEffect
  deriving DecidableEq, Repr

def SealFailure.affectsDomain (failure : SealFailure) (domain : ObjectDomain) : Bool :=
  match failure.scope with
  | .unqualified => false
  | .domain owned => owned = domain
  | .affectedDomains owned => owned.contains domain

inductive H3DispositionEvidence where
  | clean (stagedMax : UInt64) (pendingFloor : Option UInt64)
  | stagedLoss (barrier : UInt64)
  | exhausted
  deriving DecidableEq, Repr

/-- Borrowed negative authority: the deciding failure, the originals that affect
the domain, and what the audit recorded of H3 and of the ledger it came from. -/
structure AuditedFailure where
  failure : SealFailure
  originals : List (Option SealFailure)
  h3 : H3DispositionEvidence
  resourceRefused : Bool
  ledger : LedgerGeneration
  domain : ObjectDomain

namespace AuditedFailure

def matchesLedger (audited : AuditedFailure) (ledger : StagingLedger) : Bool :=
  ledger.generation = some audited.ledger

def disposition (audited : AuditedFailure) : SealFailureDisposition :=
  let negatives := audited.originals.filterMap id
  let lossy : Bool :=
    match audited.h3 with
    | .clean .. => false
    | .stagedLoss _ | .exhausted => true
  if negatives.any (fun failure => dispositionOf failure.gap = .historyLoss) ||
      (audited.resourceRefused &&
        negatives.any fun failure => failure.gap = .resourceUnavailable) || lossy then
    .historyLoss
  else dispositionOf audited.failure.gap

end AuditedFailure

structure FailureReplayCursor where
  slot : Nat := 0
  effect : Nat := 0
  invalidated : Bool := false
  resourceFailed : Bool := false
  deriving DecidableEq, Repr

structure NegativeDelivered where
  domain : ObjectDomain
  disposition : SealFailureDisposition
  deriving DecidableEq, Repr

namespace AuditedFailure

variable (audited : AuditedFailure) (cursor : FailureReplayCursor)

def effectsComplete : Bool := (audited.originals.drop cursor.slot).all Option.isNone

def negativeDelivered : Option NegativeDelivered :=
  if audited.effectsComplete cursor &&
      (audited.disposition ≠ .historyLoss || cursor.invalidated) then
    some { domain := audited.domain, disposition := audited.disposition }
  else none

/-- Walk the originals from a slot on, skipping the ones that do not apply. -/
def advanceOver : List (Option SealFailure) → FailureReplayCursor →
    Option (Option ObjectEffect) × FailureReplayCursor
  | [], cursor => (none, cursor)
  | none :: rest, cursor => advanceOver rest { cursor with slot := cursor.slot + 1 }
  | some failure :: _, cursor =>
    let close (next : FailureReplayCursor) : FailureReplayCursor :=
      if next.effect = failure.effects.length then { next with slot := next.slot + 1, effect := 0 }
      else next
    match failure.effects[cursor.effect]? with
    | some effect => (some (some effect), close { cursor with effect := cursor.effect + 1 })
    | none => if cursor.effect = 0 then (some none, close cursor) else (none, cursor)

def advanceEffect : Option (Option ObjectEffect) × FailureReplayCursor :=
  advanceOver (audited.originals.drop cursor.slot) cursor

end AuditedFailure

end P11Scope.Feed
