import P11Scope.Edge.State
import P11Scope.Journal.Reservations

/-!
# The staging ledger

Capture resource reservations backed by the registry's pool.  The fixed table is
paid before its first allocation; each membership keeps its own pool lease.  A
`Desk` is a ledger together with the pool its leases were taken from.
-/

namespace P11Scope.Journal

open Edge

def maxUnsettledStaged : Nat := 1024

structure LedgerGeneration where
  value : UInt64
  deriving DecidableEq, Repr

/-- `Role::Model` namespace for deferred-origin charges. -/
def deferredNamespace : UInt64 := 1

structure ExistingReservation where
  generation : LedgerGeneration
  id : ReservationId
  rawKey : Option RoleKey
  deriving DecidableEq, Repr

/-- Returned only by a successful staged membership insertion. -/
structure StagedResourceOrigin where
  generation : LedgerGeneration
  id : ReservationId
  key : RoleKey
  deriving DecidableEq, Repr

/-- One loaded object's identity domain. -/
structure NativeDomainId where
  journalTag : UInt64
  deriving DecidableEq, Repr

structure JointResourceOrigin where
  reservation : ExistingReservation
  native : NativeDomainId
  deriving DecidableEq, Repr

inductive LedgerRefusal where
  | full
  | replayRefused
  deriving DecidableEq, Repr

def LedgerRefusal.ofRefusal : Refusal → LedgerRefusal
  | .full => .full
  | .replay | .foreign => .replayRefused

/-- A membership's charge is the size of its pool lease. -/
abbrev StagingTable := ReservationTable Nat maxUnsettledStaged

structure StagingLedger where
  table : Option StagingTable
  tableStorage : Option Nat
  nextKeyassoc : UInt64
  nextRaw : UInt64
  generation : Option LedgerGeneration
  byteLimit : Nat

/-- A ledger and the pool it reserves from. -/
structure Desk where
  ledger : StagingLedger
  pool : SharedPool

/-- What the allocator and the layout contribute: the size of one table slot,
and whether the table's one allocation succeeds. -/
structure Allocation where
  slotBytes : Nat
  succeeds : Bool

namespace StagingLedger

def withResources (generation : Option LedgerGeneration) : StagingLedger where
  table := none
  tableStorage := none
  nextKeyassoc := 0
  nextRaw := 0
  generation := generation
  byteLimit := semanticResourceLimit

variable (ledger : StagingLedger)

def chargedBytes : Nat := ledger.table.elim 0 fun table => table.bytes

def key (value : UInt64) : RoleKey := { keySpace := 0, value := value }

def deferredKey (value : UInt64) : RoleKey := { keySpace := deferredNamespace, value := value }

def collectedKey (native : NativeDomainId) (ticket : UInt64) : RoleKey :=
  { keySpace := native.journalTag, value := ticket }

def matchesReservation (reservation : ExistingReservation) : Bool :=
  ledger.generation = some reservation.generation

def checkedExisting (reservation : ExistingReservation) : Except LedgerRefusal ReservationId :=
  if ledger.matchesReservation reservation then .ok reservation.id else .error .replayRefused

end StagingLedger

namespace Desk

/-- The bytes one lease of a membership takes. -/
def leaseBytes (bytes : Nat) : Nat := bytes + ownedAllocationPadding

/-- Requested bytes of the table's one allocation, if they fit a `usize`. -/
def storageBytes (slotBytes : Nat) : Option Nat :=
  if maxUnsettledStaged * slotBytes + ownedAllocationPadding ≤ usizeMax then
    some (maxUnsettledStaged * slotBytes + ownedAllocationPadding)
  else none

variable (allocation : Allocation)

def prepareCapacity (desk : Desk) : Except LedgerRefusal Unit × Desk :=
  match desk.ledger.table with
  | some _ => (.ok (), desk)
  | none =>
    match storageBytes allocation.slotBytes with
    | none => (.error .full, desk)
    | some bytes =>
      match desk.pool.acquire bytes with
      | (pool, .error _) => (.error .full, { desk with pool := pool })
      | (pool, .ok storage) =>
        if allocation.succeeds then
          (.ok (), {
            pool := pool
            ledger := { desk.ledger with
              table := some (ReservationTable.tryNew Nat maxUnsettledStaged)
              tableStorage := some storage } })
        -- The storage lease is dropped with the failed allocation.
        else (.error .full, { desk with pool := pool.refund storage })

/-- Reserve the prospective copy's budget, then insert the membership. -/
def insertCharged (desk : Desk) (table : StagingTable) (role : Role) (key : RoleKey)
    (existing : Option ReservationId) (bytes : Nat) :
    Option (Except LedgerRefusal ReservationId × Desk) := do
  match ← table.preflight role key existing bytes with
  | .error refusal => some (.error (.ofRefusal refusal), desk)
  | .ok () =>
    if leaseBytes bytes > usizeMax then some (.error .full, desk)
    else
      match desk.pool.acquire (leaseBytes bytes) with
      | (pool, .error _) => some (.error .full, { desk with pool := pool })
      | (pool, .ok charge) =>
        match ← table.insert role key existing bytes charge with
        | (.error refusal, table) =>
          some (.error (.ofRefusal refusal), {
            pool := pool.refund charge, ledger := { desk.ledger with table := some table } })
        | (.ok id, table) =>
          some (.ok id, { pool := pool, ledger := { desk.ledger with table := some table } })

def chargeRoleWithCredit (role : Role) (key : RoleKey) (existing : Option ReservationId)
    (bytes : UInt64) (credit : Nat) (desk : Desk) :
    Option (Except LedgerRefusal ReservationId × Desk) := do
  let total := desk.ledger.chargedBytes - credit + bytes.toNat
  if total > u64Max then some (.error .full, desk)
  else if total > desk.ledger.byteLimit then some (.error .full, desk)
  else if existing.isSome ∧ desk.ledger.table.isNone then some (.error .replayRefused, desk)
  else
    match desk.prepareCapacity allocation with
    | (.error refusal, desk) => some (.error refusal, desk)
    | (.ok (), desk) =>
      let table ← desk.ledger.table
      desk.insertCharged table role key existing bytes.toNat

def chargeRole (role : Role) (key : RoleKey) (existing : Option ReservationId) (bytes : UInt64)
    (desk : Desk) : Option (Except LedgerRefusal ReservationId × Desk) :=
  desk.chargeRoleWithCredit allocation role key existing bytes 0

variable (native : NativeDomainId)

def reserveRaw (desk : Desk) : Option (Except LedgerRefusal ExistingReservation × Desk) := do
  match desk.ledger.generation with
  | none => some (.error .full, desk)
  | some generation =>
    if desk.ledger.nextRaw = UInt64.ofNat u64Max then some (.error .full, desk)
    else
      let next := desk.ledger.nextRaw + 1
      let rawKey : RoleKey := { keySpace := native.journalTag, value := next }
      match ← desk.chargeRole allocation .raw rawKey none 0 with
      | (.error refusal, desk) => some (.error refusal, desk)
      | (.ok id, desk) =>
        some (.ok { generation := generation, id := id, rawKey := some rawKey },
          { desk with ledger := { desk.ledger with nextRaw := next } })

/-- Charge a role under a reservation of this ledger's own generation. -/
def chargeUnder (role : Role) (key : RoleKey) (bytes : UInt64) (reservation : ExistingReservation)
    (desk : Desk) : Option (Except LedgerRefusal ReservationId × Desk) :=
  match desk.ledger.checkedExisting reservation with
  | .error refusal => some (.error refusal, desk)
  | .ok id => desk.chargeRole allocation role key (some id) bytes

def chargeH8openFromRaw (ordinal bytes : UInt64) (reservation : ExistingReservation) (desk : Desk) :
    Option (Except LedgerRefusal ReservationId × Desk) :=
  desk.chargeUnder allocation .h8Open (StagingLedger.key ordinal) bytes reservation

def chargeModelFromOpen (token bytes : UInt64) (reservation : ExistingReservation) (desk : Desk) :
    Option (Except LedgerRefusal ReservationId × Desk) :=
  desk.chargeUnder allocation .model (StagingLedger.key token) bytes reservation

def charge (ticket bytes : UInt64) (desk : Desk) :
    Option (Except LedgerRefusal ReservationId × Desk) :=
  desk.chargeRole allocation .h9Staged (StagingLedger.key ticket) none bytes

def chargeCollected (ticket bytes : UInt64) (origin : Option JointResourceOrigin) (desk : Desk) :
    Option (Except LedgerRefusal StagedResourceOrigin × Desk) := do
  match desk.ledger.generation with
  | none => some (.error .full, desk)
  | some generation =>
    let existing : Except LedgerRefusal (Option ReservationId) :=
      match origin with
      | none => .ok none
      | some origin =>
        if origin.native ≠ native then .error .replayRefused
        else (desk.ledger.checkedExisting origin.reservation).map some
    match existing with
    | .error refusal => some (.error refusal, desk)
    | .ok existing =>
      let key := StagingLedger.collectedKey native ticket
      match ← desk.chargeRole allocation .h9Staged key existing bytes with
      | (.error refusal, desk) => some (.error refusal, desk)
      | (.ok id, desk) => some (.ok { generation := generation, id := id, key := key }, desk)

def chargeH8open (ordinal bytes : UInt64) (desk : Desk) :
    Option (Except LedgerRefusal ReservationId × Desk) :=
  desk.chargeRole allocation .h8Open (StagingLedger.key ordinal) none bytes

def chargeModel (token bytes : UInt64) (desk : Desk) :
    Option (Except LedgerRefusal ReservationId × Desk) :=
  desk.chargeRole allocation .model (StagingLedger.key token) none bytes

def chargeDeferred (token bytes : UInt64) (desk : Desk) :
    Option (Except LedgerRefusal ReservationId × Desk) :=
  desk.chargeRole allocation .model (StagingLedger.deferredKey token) none bytes

/-- The staged member's bytes that its replay releases right after the mint. -/
def stagedCredit (ledger : StagingLedger) (source : StagedResourceOrigin) :
    Option (Except LedgerRefusal Nat) := do
  if ledger.generation ≠ some source.generation then some (.error .replayRefused)
  else
    match ledger.table with
    | none => some (.error .replayRefused)
    | some table =>
      let found ← table.reservation .h9Staged source.key
      if found ≠ some source.id then some (.error .replayRefused)
      else
        let bytes ← table.memberBytes .h9Staged source.key
        some (.ok (bytes.getD 0))

def mintKeyassocFromStage (bytes : UInt64) (source : Option StagedResourceOrigin) (desk : Desk) :
    Option (Except LedgerRefusal UInt64 × Desk) := do
  let credit ← match source with
    | none => some (.ok 0)
    | some source => stagedCredit desk.ledger source
  match credit with
  | .error refusal => some (.error refusal, desk)
  | .ok credit =>
    if desk.ledger.nextKeyassoc = UInt64.ofNat u64Max then some (.error .full, desk)
    else
      let ticket := desk.ledger.nextKeyassoc + 1
      match ← desk.chargeRoleWithCredit allocation .association (StagingLedger.key ticket)
          (source.map (·.id)) bytes credit with
      | (.error refusal, desk) => some (.error refusal, desk)
      | (.ok _, desk) =>
        some (.ok ticket, { desk with ledger := { desk.ledger with nextKeyassoc := ticket } })

def mintKeyassoc (bytes : UInt64) (desk : Desk) : Option (Except LedgerRefusal UInt64 × Desk) :=
  desk.mintKeyassocFromStage allocation bytes none

/-! ## Releases -/

/-- Dropping a released membership refunds its lease. -/
def releaseRole (role : Role) (key : RoleKey) (desk : Desk) : Option Desk := do
  match desk.ledger.table with
  | none => some desk
  | some table =>
    match ← table.release role key with
    | (none, table) => some { desk with ledger := { desk.ledger with table := some table } }
    | (some (_, charge), table) =>
      some { pool := desk.pool.refund charge
             ledger := { desk.ledger with table := some table } }

def releaseRaw (reservation : ExistingReservation) (desk : Desk) : Option Desk :=
  if desk.ledger.matchesReservation reservation then
    match reservation.rawKey with
    | some key => desk.releaseRole .raw key
    | none => some desk
  else some desk

def releaseCollected (ticket : UInt64) (desk : Desk) : Option Desk :=
  desk.releaseRole .h9Staged (StagingLedger.collectedKey native ticket)

def release (ticket : UInt64) (desk : Desk) : Option Desk :=
  desk.releaseRole .h9Staged (StagingLedger.key ticket)

def releaseH8open (ordinal : UInt64) (desk : Desk) : Option Desk :=
  desk.releaseRole .h8Open (StagingLedger.key ordinal)

/-- The leases of a role's memberships, slot by slot. -/
def roleCharges (table : StagingTable) (role : Role) : Nat :=
  ((List.finRange maxUnsettledStaged).map fun place =>
    (table.slots[place].member? role.index).elim 0 (·.charge)).sum

def releaseAllH8open (desk : Desk) : Option Desk := do
  match desk.ledger.table with
  | none => some desk
  | some table =>
    let after ← table.releaseRole .h8Open
    some { pool := desk.pool.refund (roleCharges table .h8Open)
           ledger := { desk.ledger with table := some after } }

def releaseModel (token : UInt64) (desk : Desk) : Option Desk :=
  desk.releaseRole .model (StagingLedger.key token)

def releaseDeferred (token : UInt64) (desk : Desk) : Option Desk :=
  desk.releaseRole .model (StagingLedger.deferredKey token)

def releaseKeyassoc (ticket : UInt64) (desk : Desk) : Option Desk :=
  desk.releaseRole .association (StagingLedger.key ticket)

/-- Dropping the ledger drops its memberships, then the table's storage lease. -/
def drop (desk : Desk) : SharedPool :=
  let memberships := desk.ledger.table.elim 0 fun table =>
    ((List.finRange roleCount).map fun lane => roleCharges table (Role.atLane lane)).sum
  (desk.pool.refund memberships).refund (desk.ledger.tableStorage.getD 0)

end Desk

end P11Scope.Journal
