import P11Scope.Feed.Replay

/-!
# Seal and failure batches

Delivery of one retained seal or failure under a work budget.  Effect emission and
the admission head advance independently; every unit of work is paid from the
budget, and a slice that runs out yields with its cursor.
-/

namespace P11Scope.Feed

open Edge Journal KeyUse Objects

inductive SealBatchProgress where
  | complete (replayed disposed : Nat)
  | yielded (replayed disposed : Nat)
  | held
  deriving DecidableEq, Repr

inductive FailureApplyOutcome where
  | retried
  | fellBack (replayed : Nat)
  | degraded (disposed : Nat)
  | heldForCompleteness
  deriving DecidableEq, Repr

inductive FailureBatchProgress where
  | complete (outcome : FailureApplyOutcome)
  | negativeDelivered (delivered : NegativeDelivered)
  | yielded
  | held
  deriving DecidableEq, Repr

/-- The session the object model currently attributes an object to. -/
abbrev Attribution := ObjectId → Option SessionIncarnation

section

variable {State : Type}

/-- Live operations end with their terminals teed, without a staged source. -/
def disposeAsLoss (setting : Setting State) (borrowed : Borrowed State) : Option (Borrowed State) :=
  borrowed.invalidateWithEffects setting none

/-- An effect of a span; an empty span has none. -/
def applyEffect (attributed : Attribution) (effect : Option ObjectEffect)
    (keyuse : KeyUseReducer) : Option KeyUseReducer :=
  match effect with
  | some effect => keyuse.applyInvalidation attributed effect
  | none => some keyuse

/-- `head.release(ledger)` on the lent ledger. -/
def releaseHead (head : StagedCall) (borrowed : Borrowed State) : Option (Borrowed State) :=
  (releaseStaged borrowed.ledgers head.resourceNative head.position).map fun ledgers =>
    { borrowed with ledgers }

/-! ## Seals -/

/-- The variables of one seal slice. -/
structure SealSlice (State : Type) where
  replayed : Nat
  disposed : Nat
  refused : Nat
  cursor : SealReplayCursor
  feed : JointStaging
  borrowed : Borrowed State

/-- What a ready terminal step permits for the exact head. -/
inductive Terminal where
  | finish (effects : List ObjectEffect)
  | loss

/-- Whether a ready step is the head's own end or bounded loss; otherwise the
slice is held, a mismatch counted. -/
def checkTerminal (success : SealSuccess) (head : StagedCall) (step : SealReplayStep) :
    Option SealedCall × Except Bool Terminal :=
  match success.callForStep step with
  | none => (none, .error false)
  | some call =>
    let exactCall := (Kinds.functionId head.facts.function).any fun function =>
      call.matchesHead function head.facts.session head.facts.capture head.position
    let finish := step.phase = .finish && !call.abandoned && call.endCut.isSome &&
      step.cut = call.endCut
    let loss := step.phase = .boundedLoss && call.abandoned && call.endCut.isNone && step.cut.isSome
    if !exactCall || (!finish && !loss) then (some call, .error true)
    else
      match success.effectsForStep step with
      | none => (some call, .error false)
      | some effects => (some call, .ok (if loss then .loss else .finish effects))

namespace SealSlice

variable (setting : Setting State)

/-- The head is disposed as bounded loss. -/
def loseHead (head : StagedCall) (rest : List StagedCall) (slice : SealSlice State) :
    Option (SealSlice State) := do
  let popped := (slice.feed.pop rest).moveFrontier head.position
  let borrowed ← disposeAsLoss setting slice.borrowed
  let feed := popped.noteDisposed head.position
  let borrowed ← releaseHead head borrowed
  some { slice with disposed := slice.disposed + 1, feed, borrowed }

/-- The head is redeemed: replayed with this step's receipts, then released. -/
def redeemHead (call : SealedCall) (effects : List ObjectEffect) (head : StagedCall)
    (rest : List StagedCall) (slice : SealSlice State) : Option (SealSlice State) := do
  let popped := (slice.feed.pop rest).moveFrontier head.position
  let redeemed := { popped with redeemed := satAdd popped.redeemed 1 }
  let (receipts, keyuse) := KeyUseReducer.receiptsForEffects functionName effects call.ticket
    call.function head.position slice.borrowed.keyuse
  let (outcome, feed, borrowed) ← redeemed.replayHead setting head receipts
    { slice.borrowed with keyuse }
  let borrowed ← releaseHead head borrowed
  match outcome with
  | some count =>
    some { slice with
      replayed := slice.replayed + 1, refused := satAdd slice.refused count, feed, borrowed }
  | none => some { slice with disposed := slice.disposed + 1, feed, borrowed }

/-- One pass of the delivery loop: a progress ends it, otherwise one unit is spent. -/
def turn (attributed : Attribution) (success : SealSuccess) (slice : SealSlice State) :
    Option (Option SealBatchProgress × SealSlice State) := do
  let ready : Option (StagedCall × List StagedCall × SealReplayStep) :=
    match slice.feed.staged with
    | [] => none
    | head :: rest =>
      (success.readyTerminal slice.cursor head.position).map fun step => (head, rest, step)
  match ready with
  | some (head, rest, step) =>
    match checkTerminal success head step with
    | (none, _) | (_, .error false) => some (some .held, slice)
    | (some _, .error true) =>
      some (some .held, { slice with feed := { slice.feed with
        correlationRefusals := satAdd slice.feed.correlationRefusals 1 } })
    | (some _, .ok .loss) => (slice.loseHead setting head rest).map fun slice => (none, slice)
    | (some call, .ok (.finish effects)) =>
      (slice.redeemHead setting call effects head rest).map fun slice => (none, slice)
  | none =>
    match success.advanceEffect slice.cursor with
    | none => some (some .held, slice)
    | some (effect, cursor) => do
        let keyuse ← applyEffect attributed effect slice.borrowed.keyuse
        some (none, { slice with cursor, borrowed := { slice.borrowed with keyuse } })

def deliver (setting : Setting State) (attributed : Attribution) (success : SealSuccess)
    (remaining : Nat) (slice : SealSlice State) :
    Option (SealBatchProgress × Nat × SealSlice State) :=
  if slice.feed.staged.isEmpty && success.effectsComplete slice.cursor then
    some (.complete slice.replayed slice.disposed, remaining, slice)
  else
    match remaining with
    | 0 => some (.yielded slice.replayed slice.disposed, 0, slice)
    | remaining + 1 =>
      match slice.turn setting attributed success with
      | none => none
      | some (some progress, slice) => some (progress, remaining + 1, slice)
      | some (none, slice) => deliver setting attributed success remaining slice

end SealSlice

namespace JointStaging

/-- One slice of a seal's delivery: progress, refusals, the budget left, and the
cursor for the next slice. -/
def applySealBatch (setting : Setting State) (attributed : Attribution) (success : SealSuccess)
    (cursor : SealReplayCursor) (remaining : Nat) (feed : JointStaging)
    (borrowed : Borrowed State) : Option (SealBatchProgress × Nat × SealSlice State) := do
  if !feed.acceptsSeal success || feed.mode ≠ .joint then
    some (.held, remaining, { replayed := 0, disposed := 0, refused := 0, cursor, feed, borrowed })
  else
    let (feed, ledgers) ← feed.flushPendingReleases borrowed.ledgers
    SealSlice.deliver setting attributed success remaining
      { replayed := 0, disposed := 0, refused := 0, cursor, feed
        borrowed := { borrowed with ledgers } }

end JointStaging

/-! ## Failures -/

/-- The variables of one failure slice. -/
structure FailureSlice (State : Type) where
  cursor : FailureReplayCursor
  remaining : Nat
  feed : JointStaging
  borrowed : Borrowed State

namespace FailureSlice

/-- Walk the originals' effects; a progress ends the slice early. -/
def walkEffects (attributed : Attribution) (audited : AuditedFailure) :
    Nat → FailureReplayCursor → KeyUseReducer →
      Option (Option FailureBatchProgress × Nat × FailureReplayCursor × KeyUseReducer)
  | remaining, cursor, keyuse =>
    if audited.effectsComplete cursor then some (none, remaining, cursor, keyuse)
    else
      match remaining with
      | 0 => some (some .yielded, 0, cursor, keyuse)
      | remaining + 1 =>
        match audited.advanceEffect cursor with
        | (none, cursor) => some (some .held, remaining + 1, cursor, keyuse)
        | (some effect, cursor) =>
          match applyEffect attributed effect keyuse with
          | none => none
          | some keyuse => walkEffects attributed audited remaining cursor keyuse

variable (setting : Setting State)

/-- Loss ends the live operations once, before any head is disposed. -/
def startLoss (slice : FailureSlice State) :
    Option (Option FailureBatchProgress × FailureSlice State) :=
  if slice.cursor.invalidated then some (none, slice)
  else
    match slice.remaining with
    | 0 => some (some .yielded, slice)
    | remaining + 1 =>
      (disposeAsLoss setting slice.borrowed).map fun borrowed =>
        (none, { slice with
          remaining, borrowed
          cursor := { slice.cursor with invalidated := true } })

/-- The exact head is disposed after a loss or a resource refusal, else replayed
without receipts; its charge is released either way. -/
def settleHead (loss : Bool) (head : StagedCall) (rest : List StagedCall)
    (slice : FailureSlice State) : Option (Bool × Nat × FailureSlice State) := do
  let popped := (slice.feed.pop rest).moveFrontier head.position
  if loss || slice.cursor.resourceFailed then
    let feed := popped.noteDisposed head.position
    let borrowed ← releaseHead head slice.borrowed
    some (false, 0, { slice with feed, borrowed })
  else
    let (outcome, feed, borrowed) ← popped.replayHead setting head [] slice.borrowed
    let borrowed ← releaseHead head borrowed
    match outcome with
    | some count =>
      some (true, count, { slice with
        feed := { feed with fallbackReplayed := satAdd feed.fallbackReplayed 1 }
        borrowed })
    | none =>
      some (false, 0, { slice with
        feed, borrowed
        cursor := { slice.cursor with resourceFailed := true } })

/-- The part of a slice after the effects are walked and any loss has started. -/
def settle (audited : AuditedFailure) (slice : FailureSlice State) :
    Option (FailureBatchProgress × Nat × FailureSlice State) := do
  let loss : Bool := audited.disposition = .historyLoss
  let resumable := segmentResumableAfter audited.failure.gap
  if slice.feed.mode = .s1Only then
    let feed := if loss then
      { slice.feed with degradedLoss := true, degradedWindow := some .loss } else slice.feed
    some ((audited.negativeDelivered slice.cursor).elim .held .negativeDelivered, 0,
      { slice with feed })
  else
    match slice.feed.staged with
    | [] =>
      some (.complete (if loss then .degraded 0 else .fellBack 0), 0,
        { slice with feed := slice.feed.closeSegment loss resumable })
    | head :: rest =>
      match slice.remaining with
      | 0 => some (.yielded, 0, slice)
      | remaining + 1 => do
          let (replayed, refused, slice) ←
            settleHead setting loss head rest { slice with remaining }
          if slice.feed.staged.isEmpty then
            some (.complete (if loss then .degraded 1 else .fellBack (if replayed then 1 else 0)),
              refused, { slice with feed := slice.feed.closeSegment loss resumable })
          else some (.yielded, refused, slice)

end FailureSlice

namespace JointStaging

/-- One slice of a failure's delivery. -/
def applyFailureBatch (setting : Setting State) (attributed : Attribution)
    (audited : AuditedFailure) (cursor : FailureReplayCursor) (remaining : Nat)
    (feed : JointStaging) (borrowed : Borrowed State) :
    Option (FailureBatchProgress × Nat × FailureSlice State) := do
  let ledger ← borrowed.ledgers.shared
  if feed.selectedReceipt.map (·.domain) ≠ some audited.domain ∨ !audited.matchesLedger ledger ∨
      !feed.acceptsFailure audited.failure ∨ (feed.mode = .s1Only ∧ !feed.staged.isEmpty) then
    some (.held, 0, { cursor, remaining, feed, borrowed })
  else
    let covered :=
      match audited.h3 with
      | .clean stagedMax none => feed.coveredBy stagedMax
      | _ => false
    let (feed, ledgers) ← feed.flushPendingReleases borrowed.ledgers
    let borrowed := { borrowed with ledgers }
    match ← FailureSlice.walkEffects attributed audited remaining cursor borrowed.keyuse with
    | (some progress, remaining, cursor, keyuse) =>
      some (progress, 0, { cursor, remaining, feed, borrowed := { borrowed with keyuse } })
    | (none, remaining, cursor, keyuse) =>
      let slice : FailureSlice State :=
        { cursor, remaining, feed, borrowed := { borrowed with keyuse } }
      if feed.mode = .joint ∧ audited.disposition = .retry then
        some (.complete .retried, 0, slice)
      else if feed.mode = .joint ∧ audited.disposition = .fallback ∧ !covered then
        some (.complete .heldForCompleteness, 0, slice)
      else if audited.disposition = .historyLoss then
        match ← slice.startLoss setting with
        | (some progress, slice) => some (progress, 0, slice)
        | (none, slice) => slice.settle setting audited
      else slice.settle setting audited

end JointStaging

end

end P11Scope.Feed
