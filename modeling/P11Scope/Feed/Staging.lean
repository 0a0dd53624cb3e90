import P11Scope.Feed.Delivery
import P11Scope.KeyUse.Runs

/-!
# The joint feed

One feed per instance and era: it stages admitted payloads in admission order and
replays each through the one reducer as its sealed call settles, or disposes it.
The reducer's own behaviour is a parameter; the key-use reducer and the ledgers
its effects reach are the ones modelled elsewhere.
-/

namespace P11Scope.Feed

open Edge Journal KeyUse Objects

/-! ## What a quantum borrows -/

/-- One thing the reducer does while it handles a payload: an effect that its
tee passes on, whose mint may have to allocate a table, or a move of its own
share of the pool. -/
inductive ReactionStep where
  | emit (effect : OperationEffect) (succeeds : Bool)
  | acquire (bytes : Nat)
  | refund (bytes : Nat)

/-- How the reducer handles one payload: its refusal count, or a resource refusal. -/
structure Reaction where
  steps : List ReactionStep
  result : Except Unit Nat

/-- The one reducer behind a feed, whatever it does with its own state. -/
structure OneReducer (State : Type) where
  observe : State → SharedPool → SemanticCall → EffectOrigin → List KeyReceipt → Reaction × State
  invalidate : State → SharedPool → List ReactionStep × State

/-- The state one quantum borrows: the reducer, the key-use reducer, the ledgers
lent to it and what the pool's other holders have. -/
structure Borrowed (State : Type) where
  edge : State
  keyuse : KeyUseReducer
  ledgers : Ledgers
  others : Nat

/-- Sizes the source takes with `size_of`. -/
structure FeedLayout extends Layout where
  stagedCall : Nat

/-- What a feed's operations are given besides their state. -/
structure Setting (State : Type) where
  layout : FeedLayout
  reducer : OneReducer State
  instanceId : RegistryInstanceId

namespace Borrowed

variable {State : Type} (setting : Setting State)

/-- One step of the reducer, its effects teed into the key-use reducer. -/
def react (source : Option StagedResourceOrigin) (borrowed : Borrowed State) :
    ReactionStep → Option (Borrowed State)
  | .emit effect succeeds => do
      let (keyuse, ledgers) ←
        borrowed.keyuse.observeEffectFromStage setting.layout.toLayout succeeds
        setting.instanceId effect source borrowed.ledgers
      some { borrowed with keyuse, ledgers }
  | .acquire bytes =>
    match borrowed.ledgers.pool.acquire bytes with
    | (pool, .error _) => some { borrowed with ledgers := { borrowed.ledgers with pool } }
    | (pool, .ok lease) =>
      some { borrowed with
        ledgers := { borrowed.ledgers with pool }
        others := borrowed.others + lease }
  | .refund bytes =>
    -- No holder drops more than it leased.
    let lease := min bytes borrowed.others
    some { borrowed with
      ledgers := { borrowed.ledgers with pool := borrowed.ledgers.pool.refund lease }
      others := borrowed.others - lease }

def observeJoint (facts : SemanticCall) (origin : EffectOrigin) (receipts : List KeyReceipt)
    (source : Option StagedResourceOrigin) (borrowed : Borrowed State) :
    Option (Except Unit Nat × Borrowed State) := do
  let (reaction, edge) := setting.reducer.observe borrowed.edge borrowed.ledgers.pool facts origin
    receipts
  let after ← reaction.steps.foldlM (react setting source) { borrowed with edge }
  some (reaction.result, after)

def invalidateWithEffects (source : Option StagedResourceOrigin) (borrowed : Borrowed State) :
    Option (Borrowed State) := do
  let (steps, edge) := setting.reducer.invalidate borrowed.edge borrowed.ledgers.pool
  steps.foldlM (react setting source) { borrowed with edge }

end Borrowed

/-- A loan whose open key uses have their rows and whose ledgers back their
memberships beside the pool's other holders. -/
structure Loan (State : Type) (slotBytes : Nat) extends Borrowed State where
  rooted : keyuse.Rooted
  backed : ledgers.Backed slotBytes others

/-- The ledgers agree in every role but associations. -/
def SameLanes (before after : Ledgers) : Prop :=
  ∀ keeper role, role ≠ .association →
    (after.ledger keeper).map (·.lane role) = (before.ledger keeper).map (·.lane role)

section

variable {State : Type} {setting : Setting State} (source : Option StagedResourceOrigin)

/-- A fresh reducer's first loan. -/
def Loan.first {slotBytes : Nat} (edge : State) (lent : LentLedgers slotBytes) (capacity : Nat) :
    Loan State slotBytes :=
  ⟨⟨edge, _, lent.ledgers, lent.others⟩, Account.opened_rooted capacity, lent.backed⟩

/-- The pool's other holders come and go. -/
def Loan.elsewhere {slotBytes : Nat} (loan : Loan State slotBytes) (pool : SharedPool)
    (others : Nat) (moved : loan.others ≤ loan.ledgers.pool.charged →
      pool.charged + loan.others = loan.ledgers.pool.charged + others) : Loan State slotBytes where
  toBorrowed := { loan.toBorrowed with ledgers := { loan.ledgers with pool }, others }
  rooted := loan.rooted
  backed keeper ledger lent := by
    have before := loan.backed keeper ledger (by cases keeper <;> exact lent)
    have charged := before.charged
    refine ⟨before.unpaid, before.paid, before.leased, ?_⟩
    cases keeper <;> (dsimp only [Ledgers.held, Keeper.other, Ledgers.ledger] at charged ⊢; omega)

theorem react_returns (loan : Loan State setting.layout.slotBytes) (step : ReactionStep) :
    ∃ after : Loan State setting.layout.slotBytes,
      loan.react setting source step = some after.toBorrowed ∧
        SameLanes loan.ledgers after.ledgers := by
  have lanes (pool : SharedPool) : SameLanes loan.ledgers { loan.ledgers with pool } :=
    fun keeper _ _ => by cases keeper <;> rfl
  cases step with
  | emit effect succeeds =>
    obtain ⟨keyuse, ledgers, done, only, rooted, -⟩ :=
      KeyUseReducer.observeEffectFromStage_reaches loan.rooted loan.backed
        setting.layout.toLayout rfl succeeds setting.instanceId effect source
    refine ⟨⟨{ loan.toBorrowed with keyuse, ledgers }, rooted, only.backed⟩, ?_, only.lanes⟩
    rw [Borrowed.react, done]
    rfl
  | acquire bytes =>
    rcases asked : loan.ledgers.pool.acquire bytes with ⟨pool, refused | lease⟩
    · have charged := (acquire_error asked).charged
      exact ⟨loan.elsewhere pool _ fun _ => by rw [charged], by rw [Borrowed.react, asked]; rfl,
        lanes pool⟩
    · obtain ⟨rfl, granted⟩ := acquire_ok asked
      have charged := granted.charged
      exact ⟨loan.elsewhere pool (loan.others + lease) fun _ => by omega,
        by rw [Borrowed.react, asked]; rfl, lanes pool⟩
  | refund bytes =>
    refine ⟨loan.elsewhere _ _ fun _ => ?_, rfl, lanes _⟩
    dsimp only [SharedPool.refund]
    omega

/-- Whatever the reducer does, no expectation of the tee fails, the pool stays
charged with what its holders have, and only associations move in the ledgers. -/
theorem reaction_returns (setting : Setting State) (source : Option StagedResourceOrigin)
    (steps : List ReactionStep) (loan : Loan State setting.layout.slotBytes) :
    ∃ after : Loan State setting.layout.slotBytes,
      steps.foldlM (Borrowed.react setting source) loan.toBorrowed = some after.toBorrowed ∧
        SameLanes loan.ledgers after.ledgers := by
  induction steps generalizing loan with
  | nil => exact ⟨loan, rfl, fun _ _ _ => rfl⟩
  | cons step rest ih =>
    obtain ⟨middle, done, first⟩ := react_returns source loan step
    obtain ⟨after, later, second⟩ := ih middle
    refine ⟨after, ?_, fun keeper role other =>
      (second keeper role other).trans (first keeper role other)⟩
    rw [List.foldlM_cons, done]
    exact later

end

/-! ## Staged payloads -/

/-- One staged payload.  The two capacities are those of its function-name heaps. -/
structure StagedCall where
  facts : SemanticCall
  origin : EffectOrigin
  position : UInt64
  resourceNative : Option NativeDomainId
  resourceOrigin : Option StagedResourceOrigin
  factsCapacity : Nat
  originCapacity : Nat

def StagedCall.chargedBytes (layout : FeedLayout) (call : StagedCall) : UInt64 :=
  UInt64.ofNat (layout.stagedCall + call.factsCapacity + call.originCapacity)

inductive FeedMode where
  | s1Only
  | joint
  deriving DecidableEq, Repr

inductive DegradedWindow where
  | fallback
  | loss
  | watchdog
  deriving DecidableEq, Repr

inductive StagingRefusal where
  | notJoint
  | full
  | replayRefused
  | unsealable
  deriving DecidableEq, Repr

/-- A selection's receipt, read for its domain only. -/
structure BootstrapReceipt where
  domain : ObjectDomain
  deriving DecidableEq, Repr

/-- How a payload left the queue. -/
inductive Fate where
  | reduced
  | disposed
  | takenOut
  deriving DecidableEq, Repr

/-- The staging queue with its consumed frontier.  `accepted` and `consumed` are
history variables: the positions ever staged, and how each one left, in order. -/
structure JointStaging where
  mode : FeedMode
  selectedReceipt : Option BootstrapReceipt := none
  staged : List StagedCall := []
  frontier : UInt64 := 0
  redeemed : Nat := 0
  reduced : Nat := 0
  historyDisposed : Nat := 0
  fallbackReplayed : Nat := 0
  unsealableDirect : Nat := 0
  preAttachDirect : Nat := 0
  degradedFallbackDirect : Nat := 0
  degradedLossDirect : Nat := 0
  degradedWindow : Option DegradedWindow := none
  watchdogUnsealed : Nat := 0
  watchdogTripped : Bool := false
  correlationRefusals : Nat := 0
  degradedLoss : Bool := false
  fellBack : Bool := false
  segmentResumable : Bool := false
  pendingReleases : List (Option NativeDomainId × UInt64 × UInt64) := []
  accepted : List UInt64 := []
  consumed : List (UInt64 × Fate) := []

def jointStagingCapacity : Nat := maxUnsettledStaged

/-- Whether the frozen endpoint table proves a function irrelevant to key proof. -/
def provedIrrelevant (function : String) : Bool :=
  (Kinds.functionId function).bind endpointClass = some .provedIrrelevant

namespace JointStaging

def selectS1Only : JointStaging where
  mode := .s1Only

/-- Without a receipt the feed is S1-only at once. -/
def selectJoint (receipt : Option BootstrapReceipt) : JointStaging :=
  match receipt with
  | some receipt => { mode := .joint, selectedReceipt := some receipt }
  | none => selectS1Only

variable (feed : JointStaging)

def acceptsSeal (success : SealSuccess) : Bool :=
  feed.selectedReceipt.map (·.domain) = some success.domain

def acceptsFailure (failure : SealFailure) : Bool :=
  feed.selectedReceipt.any fun receipt => failure.affectsDomain receipt.domain

/-- Re-enter Joint at a clean point. -/
def resumeJoint : Bool × JointStaging :=
  if feed.mode = .s1Only && !feed.watchdogTripped && feed.selectedReceipt.isSome &&
      feed.segmentResumable && feed.staged.isEmpty then
    (true, { feed with mode := .joint, segmentResumable := false, degradedWindow := none })
  else (false, feed)

def closeSegment (loss resumable : Bool) : JointStaging :=
  if loss then
    { feed with mode := .s1Only, segmentResumable := resumable, degradedLoss := true
                degradedWindow := some .loss }
  else
    { feed with mode := .s1Only, segmentResumable := resumable, fellBack := true
                degradedWindow := some .fallback }

/-- Count one direct reduction under the reason that kept it from attribution. -/
def noteDirectReduction (function : String) : JointStaging :=
  if provedIrrelevant function then feed
  else if feed.selectedReceipt.isNone then
    { feed with preAttachDirect := satAdd feed.preAttachDirect 1 }
  else
    match feed.degradedWindow with
    | some .fallback =>
      { feed with degradedFallbackDirect := satAdd feed.degradedFallbackDirect 1 }
    | some .loss => { feed with degradedLossDirect := satAdd feed.degradedLossDirect 1 }
    | some .watchdog => { feed with watchdogUnsealed := satAdd feed.watchdogUnsealed 1 }
    | none => feed

def coveredBy (stagedMax : UInt64) : Bool :=
  feed.staged.getLast?.all fun call => call.position ≤ stagedMax

end JointStaging

/-! ## Ledger contact -/

/-- Release one staged position's charge to the shared ledger. -/
def releaseStaged (ledgers : Ledgers) (native : Option NativeDomainId) (position : UInt64) :
    Option Ledgers := do
  let ledger ← ledgers.shared
  let desk : Desk := { ledger, pool := ledgers.pool }
  let after ← match native with
    | some native => desk.releaseCollected native position
    | none => desk.release position
  some (ledgers.putBack .shared after)

namespace JointStaging

variable (feed : JointStaging)

/-- Ledger contact flushes the pended releases. -/
def flushPendingReleases (ledgers : Ledgers) : Option (JointStaging × Ledgers) := do
  let ledgers ← feed.pendingReleases.foldlM
    (fun ledgers (native, ticket, _) => releaseStaged ledgers native ticket) ledgers
  some ({ feed with pendingReleases := [] }, ledgers)

/-- Release a popped head's charge when a ledger is lent, else pend it. -/
def releaseOrPend (ledgers : Ledgers) (position bytes : UInt64) (native : Option NativeDomainId) :
    Option (JointStaging × Ledgers) :=
  if ledgers.shared.isSome then
    (releaseStaged ledgers native position).map fun ledgers => (feed, ledgers)
  else
    some ({ feed with pendingReleases := feed.pendingReleases ++ [(native, position, bytes)] },
      ledgers)

/-- The head leaves the queue. -/
def pop (rest : List StagedCall) : JointStaging :=
  { feed with staged := rest }

def moveFrontier (frontier : UInt64) : JointStaging :=
  { feed with frontier }

def noteReduced (position : UInt64) : JointStaging :=
  { feed with
    reduced := satAdd feed.reduced 1
    consumed := feed.consumed ++ [(position, .reduced)] }

def noteDisposed (position : UInt64) : JointStaging :=
  { feed with
    historyDisposed := satAdd feed.historyDisposed 1
    consumed := feed.consumed ++ [(position, .disposed)] }

def noteTakenOut (position : UInt64) : JointStaging :=
  { feed with
    watchdogUnsealed := satAdd feed.watchdogUnsealed 1
    consumed := feed.consumed ++ [(position, .takenOut)] }

end JointStaging

end P11Scope.Feed
