import P11Scope.Capture.Descriptor
import P11Scope.Journal.Ledger
import P11Scope.Lib.TreeMap
import P11Scope.Objects.Vocabulary

/-!
# Key-use aggregation

The reducer that joins the operation-effect stream to positional receipts.
Receipts with a usable label land in bounded aggregate buckets, everything else
in fixed unknown summaries.  The ledgers that a caller lends are explicit; the
outer `none` of an operation is a failed expectation of the source.
-/

namespace P11Scope.KeyUse

open Std Edge Journal Objects Lib.TreeMap

/-! ## Categories, units and labels -/

def notApplicableCategories : List String :=
  ["generate_key", "generate_key_pair", "digest", "direct"]

def roleUnavailableCategories : List String := ["encapsulate", "decapsulate"]

def bindsKeys (category : String) : Bool := !notApplicableCategories.contains category

/-- The unknown-key reason of a receipt-less terminal. -/
def unboundReasonFor (category : String) : String :=
  if roleUnavailableCategories.contains category then "role_unavailable"
  else if notApplicableCategories.contains category then "not_applicable"
  else "unbound"

def roleLabel : KeyRole → String
  | .operationKey => "key"
  | .wrappingKey => "wrapping_key"
  | .wrappedKey => "wrapped_object"
  | .baseKey => "base_key"
  | .unwrappingKey => "unwrapping_key"
  | .encapsulationKey => "encapsulation_key"
  | .decapsulationKey => "decapsulation_key"
  | .other => "other"

def metadataLabel : KeyLabel → String
  | .rsa modulusBits =>
    if modulusBits = 1024 then "rsa_1024"
    else if modulusBits = 2048 then "rsa_2048"
    else if modulusBits = 3072 then "rsa_3072"
    else if modulusBits = 4096 then "rsa_4096"
    else "rsa_other"
  | .aes valueLen =>
    if valueLen = 16 then "aes_128"
    else if valueLen = 24 then "aes_192"
    else if valueLen = 32 then "aes_256"
    else "aes_other"
  | .ec .secp256r1 => "ec_p256"
  | .ec .secp384r1 => "ec_p384"
  | .ec .secp521r1 => "ec_p521"

/-- The metadata fields a label rests on. -/
def requiredFields (label : KeyLabel) : UInt8 :=
  let bit (kind : Capture.SafeAttributeKind) : UInt8 := 1 <<< UInt8.ofNat (fieldIndex kind)
  match label with
  | .aes _ => bit .objectClass ||| bit .keyType ||| bit .valueLen
  | .rsa _ => bit .objectClass ||| bit .keyType ||| bit .modulusBits
  | .ec _ => bit .objectClass ||| bit .keyType ||| bit .ecParams

def usableLabel (receipt : KeyReceipt) : Option String :=
  if !receipt.attributionValid then none
  else
    match receipt.label with
    | none => none
    | some label =>
      if receipt.metadata.conflicted &&& requiredFields label ≠ 0 then none
      else some (metadataLabel label)

def metadataUnknown : String := "unknown"

/-- The label a receipt rows under: a usable one, or the honest unknown of a
first-observed object. -/
def rowLabel (receipt : KeyReceipt) : Option String :=
  match usableLabel receipt with
  | some label => some label
  | none =>
    if receipt.firstObserved && receipt.attributionValid && receipt.label.isNone &&
        receipt.metadata.conflicted = 0 then
      some metadataUnknown
    else none

def metadataReason (receipt : KeyReceipt) : String :=
  if receipt.metadata.conflicted ≠ 0 then "metadata_conflicting" else "metadata_unknown"

/-! ## Buckets -/

abbrev RegistryInstanceId := UInt32
abbrev OperationId := Nat

/-- One retained proved-key aggregate bucket key. -/
structure AggKey where
  instanceId : RegistryInstanceId
  object : UInt64
  category : String
  role : String
  metadata : String
  deriving DecidableEq, Repr

def AggKey.fields (key : AggKey) : UInt32 × UInt64 × String × String × String :=
  (key.instanceId, key.object, key.category, key.role, key.metadata)

instance : Ord AggKey := ⟨compareOn AggKey.fields⟩

instance : TransOrd AggKey := inferInstanceAs (TransCmp (compareOn AggKey.fields))

instance : LawfulEqOrd AggKey where
  eq_of_compare := eq_of_compareOn fun first second same => by
    cases first
    cases second
    simpa [AggKey.fields] using same

structure AggCounters where
  started : Nat := 0
  completed : Nat := 0
  failed : Nat := 0
  cancelled : Nat := 0
  unknown : Nat := 0
  active : Nat := 0
  keyJoinLost : Nat := 0
  deriving DecidableEq, Repr

def AggCounters.add (counters : AggCounters) : OperationOutcome → AggCounters
  | .completed => { counters with completed := satAdd counters.completed 1 }
  | .failed => { counters with failed := satAdd counters.failed 1 }
  | .cancelled => { counters with cancelled := satAdd counters.cancelled 1 }
  | .unknown => { counters with unknown := satAdd counters.unknown 1 }

/-- One fixed unknown-key summary's counters. -/
structure UnknownCounters where
  completed : Nat := 0
  failed : Nat := 0
  cancelled : Nat := 0
  unknown : Nat := 0
  active : Nat := 0
  deriving DecidableEq, Repr

def UnknownCounters.add (counters : UnknownCounters) : OperationOutcome → UnknownCounters
  | .completed => { counters with completed := satAdd counters.completed 1 }
  | .failed => { counters with failed := satAdd counters.failed 1 }
  | .cancelled => { counters with cancelled := satAdd counters.cancelled 1 }
  | .unknown => { counters with unknown := satAdd counters.unknown 1 }

def unknownCategories : List String :=
  ["digest", "sign", "verify", "encrypt", "decrypt", "sign_recover", "verify_recover",
   "message_encrypt", "message_decrypt", "message_sign", "message_verify", "generate_key",
   "generate_key_pair", "wrap", "unwrap", "derive", "encapsulate", "decapsulate",
   "wrap_authenticated", "unwrap_authenticated", "operation", "direct", "unknown"]

def unknownReasons : List String :=
  ["unbound", "key_join_lost", "metadata_unknown", "metadata_conflicting", "role_unavailable",
   "not_applicable"]

abbrev unknownBuckets : Nat := 23 * 6

/-- The fixed-summary index of a category and a reason; texts outside the two
tables fold into the unknown category and the unbound reason. -/
def unknownIndex (category reason : String) : Fin unknownBuckets :=
  let place := (unknownCategories.finIdxOf? category).getD ⟨22, by decide⟩
  let why := (unknownReasons.finIdxOf? reason).getD ⟨0, by decide⟩
  ⟨place * 6 + why, by
    have placed : place.val < 23 := place.isLt
    have reasoned : why.val < 6 := why.isLt
    change place.val * 6 + why.val < 23 * 6
    omega⟩

/-- The summary of an operation without a bound receipt. -/
def unboundIndex (category : String) : Fin unknownBuckets :=
  unknownIndex category (unboundReasonFor category)

structure KeyUseEvidence where
  unknownKeyRows : Nat := 0
  orphanEnds : Nat := 0
  unclassifiedRoles : Nat := 0
  incomplete : Bool := false
  rowsRefused : Nat := 0
  refusedTerminals : Nat := 0
  droppedReceipts : Nat := 0
  joinLost : Nat := 0
  duplicateStarts : Nat := 0
  deriving DecidableEq, Repr

inductive AssocBucket where
  | proved (bucket : AggKey)
  | unknown (index : Fin unknownBuckets)
  deriving DecidableEq, Repr

/-- One open association: the bucket its terminal closes and the key it
references. -/
structure OpenAssoc where
  bucket : AssocBucket
  key : ObjectId
  lost : Bool
  primary : Bool
  deriving DecidableEq, Repr

/-- One receipt resolved to its bucket at admission. -/
structure ResolvedAssoc where
  bucket : AssocBucket
  primary : Bool
  deriving DecidableEq, Repr

/-- One started, unterminated key association. -/
structure OpenKeyUse where
  instanceId : RegistryInstanceId
  category : String
  mechanism : Option UInt64
  startedTsNs : Nat
  associations : List OpenAssoc
  bound : Bool
  ticket : UInt64
  ticketShared : Bool
  deriving DecidableEq, Repr

structure RefusedOpen where
  instanceId : RegistryInstanceId
  category : String
  startedTsNs : Nat
  deriving DecidableEq, Repr

abbrev OperationKey := RegistryInstanceId × OperationId

/-- The source's `open` map is `opens`. -/
structure KeyUseReducer where
  opens : ExtTreeMap OperationKey OpenKeyUse
  refused : ExtTreeMap OperationKey RefusedOpen
  aggregates : ExtTreeMap AggKey AggCounters
  unknown : Vector UnknownCounters unknownBuckets
  unknownEverLive : Vector Bool unknownBuckets
  capacity : Nat
  evidence : KeyUseEvidence
  pendingSharedReleases : List UInt64

/-! ## Lent ledgers -/

/-- Sizes the source takes with `size_of`. -/
structure Layout where
  slotBytes : Nat
  openKeyUse : Nat
  openAssoc : Nat

/-- Which of the two lent ledgers an association's ticket comes from. -/
inductive Keeper where
  | shared
  | fallback
  deriving DecidableEq, Repr

/-- The ledgers lent to one observation and the pool behind both. -/
structure Ledgers where
  pool : SharedPool
  shared : Option StagingLedger
  fallback : Option StagingLedger

namespace Ledgers

def ledger (ledgers : Ledgers) : Keeper → Option StagingLedger
  | .shared => ledgers.shared
  | .fallback => ledgers.fallback

/-- Put a desk's ledger and pool back. -/
def putBack (ledgers : Ledgers) (keeper : Keeper) (desk : Desk) : Ledgers :=
  match keeper with
  | .shared => { ledgers with pool := desk.pool, shared := some desk.ledger }
  | .fallback => { ledgers with pool := desk.pool, fallback := some desk.ledger }

/-- The shared ledger mints when present, else the fallback. -/
def target (ledgers : Ledgers) : Option Keeper :=
  if ledgers.shared.isSome then some .shared
  else if ledgers.fallback.isSome then some .fallback
  else none

def releaseKeyassoc (ledgers : Ledgers) (keeper : Keeper) (ticket : UInt64) : Option Ledgers :=
  match ledgers.ledger keeper with
  | none => some ledgers
  | some ledger =>
    (Desk.releaseKeyassoc ticket { ledger := ledger, pool := ledgers.pool }).map
      (ledgers.putBack keeper)

def mintKeyassocFromStage (allocation : Allocation) (ledgers : Ledgers) (keeper : Keeper)
    (bytes : UInt64) (source : Option StagedResourceOrigin) :
    Option (Except LedgerRefusal UInt64 × Ledgers) :=
  match ledgers.ledger keeper with
  | none => none
  | some ledger => do
      let (reply, desk) ← Desk.mintKeyassocFromStage allocation bytes source
        { ledger := ledger, pool := ledgers.pool }
      some (reply, ledgers.putBack keeper desk)

end Ledgers

/-! ## The reducer -/

namespace KeyUseReducer

def withCapacity (capacity : Nat) : KeyUseReducer where
  opens := ∅
  refused := ∅
  aggregates := ∅
  unknown := Vector.replicate unknownBuckets {}
  unknownEverLive := Vector.replicate unknownBuckets false
  capacity := capacity
  evidence := {}
  pendingSharedReleases := []

variable (reducer : KeyUseReducer) (index : Fin unknownBuckets)

def updateUnknown (update : UnknownCounters → UnknownCounters) : KeyUseReducer :=
  { reducer with unknown := reducer.unknown.set index (update reducer.unknown[index]) }

def markLive : KeyUseReducer :=
  { reducer with unknownEverLive := reducer.unknownEverLive.set index true }

/-- Mark a summary ever-live and add a terminal outcome. -/
def unknownAdd (outcome : OperationOutcome) : KeyUseReducer :=
  (reducer.markLive index).updateUnknown index fun counters => counters.add outcome

/-- Mark a summary ever-live and count live activity. -/
def unknownActivate : KeyUseReducer :=
  (reducer.markLive index).updateUnknown index fun counters =>
    { counters with active := satAdd counters.active 1 }

def unknownDeactivate : KeyUseReducer :=
  reducer.updateUnknown index fun counters => { counters with active := counters.active - 1 }

def flushPendingSharedReleases (ledgers : Ledgers) : Option (KeyUseReducer × Ledgers) := do
  let ledgers ← reducer.pendingSharedReleases.foldlM
    (fun ledgers ticket => ledgers.releaseKeyassoc .shared ticket) ledgers
  some ({ reducer with pendingSharedReleases := [] }, ledgers)

/-- Bind receipts for one category: at most two, and none where keys never bind. -/
def boundSlice (category : String) (receipts : List KeyReceipt) (evidence : KeyUseEvidence) :
    List KeyReceipt × KeyUseEvidence :=
  if !bindsKeys category then
    ([], { evidence with droppedReceipts := satAdd evidence.droppedReceipts receipts.length })
  else if receipts.length > 2 then
    (receipts.take 2,
      { evidence with
        droppedReceipts := satAdd evidence.droppedReceipts (receipts.length - 2) })
  else (receipts, evidence)

variable (instanceId : RegistryInstanceId)

def bucketOf (category : String) (receipt : KeyReceipt) : AssocBucket :=
  match rowLabel receipt with
  | some label =>
    .proved { instanceId := instanceId, object := receipt.key, category := category,
              role := roleLabel receipt.role, metadata := label }
  | none => .unknown (unknownIndex category (metadataReason receipt))

/-- The first receipt that is not a wrapped object carries the terminal. -/
def resolve (category : String) (receipts : List KeyReceipt) : List ResolvedAssoc :=
  let primary := receipts.findIdx? fun receipt => receipt.role ≠ .wrappedKey
  (receipts.take 2).mapIdx fun index receipt =>
    { bucket := bucketOf instanceId category receipt, primary := some index = primary }

variable (resolved : List ResolvedAssoc)

/-- Proved buckets of one resolution that are not retained yet. -/
def freshBuckets : Nat :=
  resolved.zipIdx.countP fun (slot, place) =>
    match slot.bucket with
    | .proved bucket =>
      !(resolved.take place).any (fun earlier => earlier.bucket = .proved bucket) &&
        !reducer.aggregates.contains bucket
    | .unknown _ => false

def admits : Bool :=
  reducer.aggregates.size + reducer.freshBuckets resolved ≤ reducer.capacity

/-- `aggregates.entry(bucket).or_default()` with an update. -/
def updateEntry (bucket : AggKey) (update : AggCounters → AggCounters) : KeyUseReducer :=
  { reducer with
    aggregates := reducer.aggregates.insert bucket (update (reducer.aggregates[bucket]?.getD {})) }

/-- `aggregates.get_mut(bucket).expect(..)` with an update. -/
def updateReserved (bucket : AggKey) (update : AggCounters → AggCounters) :
    Option KeyUseReducer := do
  let counters ← reducer.aggregates[bucket]?
  some { reducer with aggregates := reducer.aggregates.insert bucket (update counters) }

def openBucket (slot : ResolvedAssoc) : KeyUseReducer :=
  match slot.bucket with
  | .proved bucket =>
    reducer.updateEntry bucket fun counters =>
      { counters with started := satAdd counters.started 1, active := satAdd counters.active 1 }
  | .unknown index => reducer.unknownActivate index

def openBuckets : KeyUseReducer :=
  resolved.foldl openBucket reducer

/-- Count one refused start. -/
def refuse (key : OperationKey) (category : String) (startedTsNs : Nat) : KeyUseReducer :=
  let record : RefusedOpen :=
    { instanceId := key.1, category := category, startedTsNs := startedTsNs }
  let tracked := { reducer with refused := reducer.refused.insert key record }
  let active := tracked.unknownActivate (unboundIndex category)
  { active with evidence := { active.evidence with
      rowsRefused := satAdd active.evidence.rowsRefused 1, incomplete := true } }

/-- Close one association: a live proved bucket takes the outcome, a lost primary
routes it to the join-lost summary. -/
def closeAssoc (category : String) (outcome : OperationOutcome) (reducer : KeyUseReducer)
    (assoc : OpenAssoc) : Option KeyUseReducer := do
  let closed ←
    match assoc.bucket with
    | .proved bucket =>
      if assoc.lost then some reducer
      else
        reducer.updateReserved bucket fun counters =>
          ({ counters with active := counters.active - 1 } : AggCounters).add outcome
    | .unknown index =>
      let idle := reducer.unknownDeactivate index
      some (if assoc.primary && !assoc.lost then idle.unknownAdd index outcome else idle)
  some (if assoc.primary && assoc.lost then
      closed.unknownAdd (unknownIndex category "key_join_lost") outcome
    else closed)

def closeOpen (use : OpenKeyUse) (outcome : OperationOutcome) : Option KeyUseReducer := do
  if !use.bound then
    let counted := { reducer with evidence := { reducer.evidence with
      unknownKeyRows := satAdd reducer.evidence.unknownKeyRows 1 } }
    some ((counted.unknownDeactivate (unboundIndex use.category)).unknownAdd
      (unboundIndex use.category) outcome)
  else
    let closed ← use.associations.foldlM (closeAssoc use.category outcome) reducer
    some (if use.associations.any (·.primary) then closed
      else closed.unknownAdd (unboundIndex use.category) outcome)

def observeStarted (layout : Layout) (succeeds : Bool) (instanceId : RegistryInstanceId)
    (id : OperationId) (category : String) (mechanism : Option UInt64)
    (keyReceipt : Option KeyReceipt) (origin : EffectOrigin)
    (source : Option StagedResourceOrigin) (reducer : KeyUseReducer) (ledgers : Ledgers) :
    Option (KeyUseReducer × Ledgers) := do
  let key := (instanceId, id)
  if reducer.opens.contains key || reducer.refused.contains key then
    some ({ reducer with evidence := { reducer.evidence with
      duplicateStarts := satAdd reducer.evidence.duplicateStarts 1 } }, ledgers)
  else
    let (receipts, evidence) := boundSlice category keyReceipt.toList reducer.evidence
    let reducer := { reducer with evidence := evidence }
    let resolved := resolve instanceId category receipts
    if !reducer.admits resolved then some (reducer.refuse key category origin.tsNs, ledgers)
    else
      match ledgers.target with
      | none => some (reducer.refuse key category origin.tsNs, ledgers)
      | some keeper =>
        let bytes := UInt64.ofNat (layout.openKeyUse + resolved.length * layout.openAssoc)
        match ← ledgers.mintKeyassocFromStage ⟨layout.slotBytes, succeeds⟩ keeper bytes
            (if keeper = .shared then source else none) with
        | (.error _, ledgers) => some (reducer.refuse key category origin.tsNs, ledgers)
        | (.ok ticket, ledgers) =>
          let opened := reducer.openBuckets resolved
          let associations := List.zipWith (fun (slot : ResolvedAssoc) (receipt : KeyReceipt) =>
            ({ bucket := slot.bucket, key := receipt.key, lost := false,
               primary := slot.primary } : OpenAssoc)) resolved receipts
          let active :=
            if receipts.isEmpty then opened.unknownActivate (unboundIndex category) else opened
          let use : OpenKeyUse :=
            { instanceId := instanceId, category := category, mechanism := mechanism,
              startedTsNs := origin.tsNs, associations := associations,
              bound := !receipts.isEmpty, ticket := ticket,
              ticketShared := keeper = .shared }
          some ({ active with opens := active.opens.insert key use }, ledgers)

/-- The ticket returns to its minting ledger, or pends without the shared one. -/
def returnTicket (ledgers : Ledgers) (use : OpenKeyUse) : Option (KeyUseReducer × Ledgers) :=
  if use.ticketShared then
    if ledgers.shared.isSome then
      (ledgers.releaseKeyassoc .shared use.ticket).map fun ledgers => (reducer, ledgers)
    else
      some ({ reducer with
        pendingSharedReleases := reducer.pendingSharedReleases ++ [use.ticket] }, ledgers)
  else
    (ledgers.releaseKeyassoc .fallback use.ticket).map fun ledgers => (reducer, ledgers)

def observeEnded (id : OperationId) (outcome : OperationOutcome) (reducer : KeyUseReducer)
    (ledgers : Ledgers) : Option (KeyUseReducer × Ledgers) := do
  let key := (instanceId, id)
  match reducer.opens[key]? with
  | some use =>
    let forgotten := { reducer with opens := reducer.opens.erase key }
    let closed ← forgotten.closeOpen use outcome
    closed.returnTicket ledgers use
  | none =>
    match reducer.refused[key]? with
    | some refused =>
      let slot := unboundIndex refused.category
      let forgotten := { reducer with refused := reducer.refused.erase key }
      let settled := (forgotten.unknownDeactivate slot).unknownAdd slot outcome
      some ({ settled with evidence := { settled.evidence with
        refusedTerminals := satAdd settled.evidence.refusedTerminals 1 } }, ledgers)
    | none =>
      let counted := { reducer with evidence := { reducer.evidence with
        orphanEnds := satAdd reducer.evidence.orphanEnds 1 } }
      some (counted.unknownAdd (unknownIndex "unknown" "unbound") outcome, ledgers)

/-- One association of an admitted direct. -/
def completeDirect (slot : ResolvedAssoc) : KeyUseReducer :=
  match slot.bucket with
  | .proved bucket =>
    reducer.updateEntry bucket fun counters =>
      ({ counters with started := satAdd counters.started 1 } : AggCounters).add .completed
  | .unknown index => if slot.primary then reducer.unknownAdd index .completed else reducer

def observeDirect (category : String) (keyReceipts : List KeyReceipt) (reducer : KeyUseReducer) :
    KeyUseReducer :=
  let (receipts, evidence) := boundSlice category keyReceipts reducer.evidence
  let reducer := { reducer with evidence := evidence }
  let resolved := resolve instanceId category receipts
  if !reducer.admits resolved then
    let settled := reducer.unknownAdd (unboundIndex category) .completed
    { settled with evidence := { settled.evidence with
        rowsRefused := satAdd settled.evidence.rowsRefused 1
        incomplete := true
        refusedTerminals := satAdd settled.evidence.refusedTerminals 1 } }
  else if receipts.isEmpty then
    let counted := { reducer with evidence := { reducer.evidence with
      unknownKeyRows := satAdd reducer.evidence.unknownKeyRows 1 } }
    counted.unknownAdd (unboundIndex category) .completed
  else
    let completed := resolved.foldl completeDirect reducer
    if resolved.any (·.primary) then completed
    else completed.unknownAdd (unboundIndex category) .completed

def observeEffectFromStage (layout : Layout) (succeeds : Bool) (instanceId : RegistryInstanceId)
    (effect : OperationEffect) (source : Option StagedResourceOrigin) (reducer : KeyUseReducer)
    (ledgers : Ledgers) : Option (KeyUseReducer × Ledgers) := do
  -- Contact with the shared ledger returns the tickets that closed without it.
  let (reducer, ledgers) ←
    if ledgers.shared.isSome then reducer.flushPendingSharedReleases ledgers
    else some (reducer, ledgers)
  match effect with
  | .started id category mechanism keyReceipt origin =>
    reducer.observeStarted layout succeeds instanceId id category mechanism keyReceipt origin
      source ledgers
  | .ended id _ outcome _ => reducer.observeEnded instanceId id outcome ledgers
  | .directCompleted _ category _ keyReceipts _ =>
    some (reducer.observeDirect instanceId category keyReceipts, ledgers)

/-! ## Retirement -/

variable (ends : ObjectId → Bool)

/-- The buckets an operation loses when the joins a test names end. -/
def newlyLost (use : OpenKeyUse) : List AssocBucket :=
  (use.associations.filter fun assoc => ends assoc.key && !assoc.lost).map (·.bucket)

def loseJoins (use : OpenKeyUse) : OpenKeyUse :=
  { use with associations := use.associations.map fun assoc =>
      if ends assoc.key && !assoc.lost then { assoc with lost := true } else assoc }

def closeLostBucket (bucket : AssocBucket) : Option KeyUseReducer :=
  let counted := { reducer with evidence := { reducer.evidence with
    joinLost := satAdd reducer.evidence.joinLost 1 } }
  match bucket with
  | .proved key =>
    counted.updateReserved key fun counters =>
      { counters with
        active := counters.active - 1
        keyJoinLost := satAdd counters.keyJoinLost 1 }
  | .unknown _ => some counted

def closeLostBuckets (lost : List AssocBucket) : Option KeyUseReducer :=
  lost.foldlM closeLostBucket reducer

/-- End the join of every open association whose key a test names. -/
def retire : Option KeyUseReducer :=
  let marked := { reducer with opens := reducer.opens.map fun _ => loseJoins ends }
  marked.closeLostBuckets (reducer.opens.toList.flatMap fun entry => newlyLost ends entry.2)

def retireObject (object : ObjectId) : Option KeyUseReducer :=
  reducer.retire fun key => key = object

/-- `attributed` is the session of the model's current snapshot of an object. -/
def retireSession (session : SessionIncarnation) (attributed : ObjectId → Option SessionIncarnation)
    : Option KeyUseReducer :=
  reducer.retire fun key => attributed key = some session

def applyInvalidation (attributed : ObjectId → Option SessionIncarnation) :
    ObjectEffect → Option KeyUseReducer
  | .destroyed _ object | .retired object _ | .accessEnded object _ | .downgraded object _
  | .metadataInvalidated object _ | .metadataConflict _ object _ => reducer.retireObject object
  | .sessionEnded session _ => reducer.retireSession session attributed
  | _ => some reducer

/-! ## Receipts of a settled call -/

/-- The role of one input, from its function and ordinal. -/
def classifyRole (functionName : UInt32 → Option String) (reducer : KeyUseReducer)
    (function : UInt32) (ordinal : UInt8) : KeyRole × KeyUseReducer :=
  let name := functionName function
  let action : Option Capture.ObjectAction :=
    (Capture.objectDescriptor functionName function).map fun descriptor => descriptor.action
  if name = some "C_WrapKey" ∧ ordinal = 0 then (.wrappingKey, reducer)
  else if name = some "C_WrapKey" ∧ ordinal = 1 then (.wrappedKey, reducer)
  else if name = some "C_DeriveKey" then (.baseKey, reducer)
  else if name = some "C_UnwrapKey" then (.unwrappingKey, reducer)
  else if name = some "C_EncapsulateKey" then (.encapsulationKey, reducer)
  else if name = some "C_DecapsulateKey" then (.decapsulationKey, reducer)
  else if action = some .access ∧ ordinal = 0 then (.operationKey, reducer)
  else
    (.other, { reducer with evidence := { reducer.evidence with
      unclassifiedRoles := satAdd reducer.evidence.unclassifiedRoles 1 } })

/-- The receipts of the references one settled call's effects hold. -/
def receiptsForEffects (functionName : UInt32 → Option String) (effects : List ObjectEffect)
    (ticket : CallToken) (function : UInt32) (position : UInt64) (reducer : KeyUseReducer) :
    List KeyReceipt × KeyUseReducer :=
  effects.foldl (fun (receipts, reducer) effect =>
    match effect with
    | .referenced call object _ (some input) metadata label attributionValid firstObserved =>
      if call = ticket then
        let (role, reducer) := reducer.classifyRole functionName function input
        (receipts ++ [{ key := object, function := function, input := input, role := role,
                        position := position, metadata := metadata, label := label,
                        attributionValid := attributionValid,
                        firstObserved := firstObserved, lost := false }], reducer)
      else (receipts, reducer)
    | _ => (receipts, reducer)) ([], reducer)

end KeyUseReducer

end P11Scope.KeyUse
