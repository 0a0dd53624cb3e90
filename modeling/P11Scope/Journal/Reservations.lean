import P11Scope.Vocabulary
import P11Scope.Lib.Chains

/-!
# The reservation table

Fixed resource bookkeeping: a slot holds one operation with at most one
membership per role and the reservation ids merged into it.  Tables of at most
1024 slots are indexed by two hash-chain planes and a free list whose links live
in the slots.  An outer `none` is a failed assertion, a failed `expect`, an
underflow, an index out of bounds or a walk without end.
-/

namespace P11Scope.Journal

open Lib

/-! ## Nodes and buckets -/

abbrev roleCount : Nat := 5
abbrev maxIndexed : Nat := 1024
abbrev indexBuckets : Nat := 1024

/-- Empty chain head or link: outside the node-code range. -/
def indexNone : UInt16 := 0xFFFF

/-- More steps than any chain of an indexed table has nodes. -/
def walkFuel : Nat := roleCount * maxIndexed + 1

def nodeCode (slot : Nat) (lane : Fin roleCount) : UInt16 :=
  UInt16.ofNat (slot * roleCount + lane)

def nodeSlot (code : UInt16) : Nat := code.toNat / roleCount

def nodeLane (code : UInt16) : Fin roleCount :=
  ⟨code.toNat % roleCount, Nat.mod_lt _ (by decide)⟩

def indexSeed : UInt64 := 0x517cc1b727220a95

def rotateLeft5 (word : UInt64) : UInt64 := (word <<< 5) ||| (word >>> 59)

/-- Deterministic hash of the index. -/
def indexHash (parts : List UInt64) : UInt64 :=
  parts.foldl (fun hash part => rotateLeft5 (hash + part) * indexSeed) indexSeed

def bucketOf (hash : UInt64) : Fin indexBuckets :=
  ⟨hash.toNat % indexBuckets, Nat.mod_lt _ (by decide)⟩

inductive Role where
  | raw
  | h8Open
  | model
  | h9Staged
  | association
  deriving DecidableEq, Repr

namespace Role

instance neZeroRoleCount : NeZero roleCount := ⟨by decide⟩

def index : Role → Fin roleCount
  | raw => 0
  | h8Open => 1
  | model => 2
  | h9Staged => 3
  | association => 4

theorem index_lt (role : Role) : role.index.val < roleCount := role.index.2

def atLane : Fin roleCount → Role
  | 0 => raw
  | 1 => h8Open
  | 2 => model
  | 3 => h9Staged
  | 4 => association

end Role

structure RoleKey where
  keySpace : UInt64
  value : UInt64
  deriving DecidableEq, Repr

structure ReservationId where
  value : UInt64
  deriving DecidableEq, Repr

inductive Refusal where
  | full
  | replay
  | foreign
  deriving DecidableEq, Repr

def keyBucket (role : Role) (key : RoleKey) : Fin indexBuckets :=
  bucketOf (indexHash [UInt64.ofNat role.index, key.keySpace, key.value])

def idBucket (id : ReservationId) : Fin indexBuckets := bucketOf (indexHash [id.value])

/-! ## Slots -/

structure Membership (C : Type) where
  key : RoleKey
  bytes : Nat
  charge : C
  deriving DecidableEq, Repr

structure Operation (C : Type) where
  /-- At most one provisional reservation per role can later merge here. -/
  aliases : Vector (Option ReservationId) roleCount
  roles : Vector (Option (Membership C)) roleCount
  deriving DecidableEq, Repr

/-- Link planes inside each slot: key chains and id chains. -/
inductive Plane where
  | keyLinks
  | idLinks
  deriving DecidableEq, Repr

structure TableSlot (C : Type) where
  operation : Option (Operation C) := none
  keyNext : Vector UInt16 roleCount := Vector.replicate roleCount indexNone
  idNext : Vector UInt16 roleCount := Vector.replicate roleCount indexNone
  /-- Meaningful only while the slot is vacant. -/
  freeNext : UInt16 := indexNone
  deriving DecidableEq, Repr

variable {C : Type} {capacity : Nat}

namespace TableSlot

variable (slot : TableSlot C)

def next : Plane → Vector UInt16 roleCount
  | .keyLinks => slot.keyNext
  | .idLinks => slot.idNext

def setNext (plane : Plane) (lane : Fin roleCount) (value : UInt16) : TableSlot C :=
  match plane with
  | .keyLinks => { slot with keyNext := slot.keyNext.set lane value }
  | .idLinks => { slot with idNext := slot.idNext.set lane value }

def member? (lane : Fin roleCount) : Option (Membership C) :=
  slot.operation.bind fun operation => operation.roles[lane]

def alias? (lane : Fin roleCount) : Option ReservationId :=
  slot.operation.bind fun operation => operation.aliases[lane]

end TableSlot

abbrev Slots (C : Type) (capacity : Nat) := Vector (TableSlot C) capacity

abbrev Heads := Vector UInt16 indexBuckets

/-! ## Chains -/

variable (slots : Slots C capacity)

def readLink (plane : Plane) (code : UInt16) : Option UInt16 :=
  if inside : nodeSlot code < capacity then
    some ((slots[nodeSlot code].next plane)[nodeLane code])
  else none

def writeLink (plane : Plane) (code value : UInt16) : Option (Slots C capacity) :=
  if inside : nodeSlot code < capacity then
    some (slots.set (nodeSlot code)
      (slots[nodeSlot code].setNext plane (nodeLane code) value))
  else none

/-- Push a node onto its bucket chain. -/
def chainLink (heads : Heads) (slots : Slots C capacity) (plane : Plane)
    (bucket : Fin indexBuckets) (node : UInt16) : Option (Heads × Slots C capacity) := do
  let slots ← writeLink slots plane node heads[bucket]
  some (heads.set bucket node, slots)

/-- Drop a node from its bucket chain. -/
def chainUnlink (heads : Heads) (slots : Slots C capacity) (plane : Plane)
    (bucket : Fin indexBuckets) (node : UInt16) : Option (Heads × Slots C capacity) := do
  if heads[bucket] = node then
    let after ← readLink slots plane node
    some (heads.set bucket after, slots)
  else
    let previous ← predecessor indexNone (readLink slots plane) node walkFuel heads[bucket]
    let after ← readLink slots plane node
    let slots ← writeLink slots plane previous after
    some (heads, slots)

def writeFree (place : Fin capacity) (value : UInt16) : Slots C capacity :=
  slots.set place { slots[place] with freeNext := value }

/-- Pop the first vacant slot; an empty list is a failed `expect` of the caller. -/
def freePop (head : UInt16) (slots : Slots C capacity) :
    Option (UInt16 × Slots C capacity × Fin capacity) :=
  if head = indexNone then none
  else if inside : head.toNat < capacity then
    let place : Fin capacity := ⟨head.toNat, inside⟩
    some (slots[place].freeNext, writeFree slots place indexNone, place)
  else none

/-- Return a vacated slot to the free list. -/
def freePush (head : UInt16) (slots : Slots C capacity) (place : Fin capacity) :
    UInt16 × Slots C capacity :=
  (UInt16.ofNat place, writeFree slots place head)

/-! ## The table -/

structure ReservationTable (C : Type) (capacity : Nat) where
  slots : Slots C capacity
  next : UInt64 := 0
  live : Nat := 0
  bytes : Nat := 0
  populations : Vector Nat roleCount := Vector.replicate roleCount 0
  keyHeads : Heads := Vector.replicate indexBuckets indexNone
  idHeads : Heads := Vector.replicate indexBuckets indexNone
  freeHead : UInt16 := indexNone
  deriving DecidableEq, Repr

/-- A subtraction that must not underflow. -/
def checkedSub (total part : Nat) : Option Nat :=
  if part ≤ total then some (total - part) else none

namespace ReservationTable

/-- The free chain of a fresh table pops slot 0 first. -/
def tryNew (C : Type) (capacity : Nat) : ReservationTable C capacity :=
  let vacant : Slots C capacity := Vector.replicate capacity {}
  if capacity ≤ maxIndexed then
    let (head, slots) := (List.finRange capacity).reverse.foldl
      (fun (head, slots) place => freePush head slots place) (indexNone, vacant)
    { slots := slots, freeHead := head }
  else { slots := vacant }

def indexed (_table : ReservationTable C capacity) : Bool := capacity ≤ maxIndexed

def holdsKey (slot : TableSlot C) (lane : Fin roleCount) (key : RoleKey) : Bool :=
  (slot.member? lane).any fun member => member.key = key

def holdsId (slot : TableSlot C) (id : ReservationId) : Bool :=
  slot.operation.any fun operation => operation.aliases.contains (some id)

variable (table : ReservationTable C capacity) (role : Role) (key : RoleKey)

def keySlotLinear : Option (Fin capacity) :=
  (List.finRange capacity).find? fun place => holdsKey table.slots[place] role.index key

def idSlotLinear (id : ReservationId) : Option (Fin capacity) :=
  (List.finRange capacity).find? fun place => holdsId table.slots[place] id

/-- The slot of a key node that answers a key search. -/
def keyNode (slots : Slots C capacity) (role : Role) (key : RoleKey) (code : UInt16) :
    Option (Fin capacity) :=
  if inside : nodeSlot code < capacity then
    -- Buckets mix lanes on collision, so the lane must match exactly.
    if nodeLane code = role.index ∧ holdsKey slots[nodeSlot code] (nodeLane code) key then
      some ⟨nodeSlot code, inside⟩
    else none
  else none

def idNode (slots : Slots C capacity) (id : ReservationId) (code : UInt16) :
    Option (Fin capacity) :=
  if inside : nodeSlot code < capacity then
    if slots[nodeSlot code].alias? (nodeLane code) = some id then some ⟨nodeSlot code, inside⟩
    else none
  else none

def keySlot : Option (Option (Fin capacity)) :=
  if table.indexed then
    walk indexNone (readLink table.slots .keyLinks) (keyNode table.slots role key) walkFuel
      table.keyHeads[keyBucket role key]
  else some (table.keySlotLinear role key)

def idSlot (id : ReservationId) : Option (Option (Fin capacity)) :=
  if table.indexed then
    walk indexNone (readLink table.slots .idLinks) (idNode table.slots id) walkFuel
      table.idHeads[idBucket id]
  else some (table.idSlotLinear id)

/-! ### Index maintenance -/

variable (place : Fin capacity)

def linkKey (role : Role) (key : RoleKey) : Option (ReservationTable C capacity) := do
  if table.indexed then
    let (heads, slots) ← chainLink table.keyHeads table.slots .keyLinks (keyBucket role key)
      (nodeCode place role.index)
    some { table with keyHeads := heads, slots := slots }
  else some table

def unlinkKey (role : Role) (key : RoleKey) : Option (ReservationTable C capacity) := do
  if table.indexed then
    let (heads, slots) ← chainUnlink table.keyHeads table.slots .keyLinks (keyBucket role key)
      (nodeCode place role.index)
    some { table with keyHeads := heads, slots := slots }
  else some table

def linkId (lane : Fin roleCount) (id : ReservationId) : Option (ReservationTable C capacity) := do
  if table.indexed then
    let (heads, slots) ← chainLink table.idHeads table.slots .idLinks (idBucket id)
      (nodeCode place lane)
    some { table with idHeads := heads, slots := slots }
  else some table

def unlinkId (lane : Fin roleCount) (id : ReservationId) :
    Option (ReservationTable C capacity) := do
  if table.indexed then
    let (heads, slots) ← chainUnlink table.idHeads table.slots .idLinks (idBucket id)
      (nodeCode place lane)
    some { table with idHeads := heads, slots := slots }
  else some table

def pushFree : ReservationTable C capacity :=
  if table.indexed then
    let pushed := freePush table.freeHead table.slots place
    { table with freeHead := pushed.1, slots := pushed.2 }
  else table

def setOperation (operation : Option (Operation C)) : ReservationTable C capacity :=
  { table with slots := table.slots.set place { table.slots[place] with operation := operation } }

/-- Unlink every alias of an operation that leaves its slot. -/
def unlinkAliases (aliases : Vector (Option ReservationId) roleCount) :
    Option (ReservationTable C capacity) :=
  (List.finRange roleCount).foldlM (fun table lane =>
    match aliases[lane] with
    | none => some table
    | some id => table.unlinkId place lane id) table

/-- Take one membership out of its operation, which stays in its slot. -/
def takeRole (role : Role) (operation : Operation C) : ReservationTable C capacity :=
  table.setOperation place (some { operation with roles := operation.roles.set role.index none })

/-- Stop counting a membership that was taken out. -/
def uncount (bytes : Nat) : Option (ReservationTable C capacity) := do
  let left ← checkedSub table.bytes bytes
  let population ← checkedSub table.populations[role.index] 1
  some { table with bytes := left, populations := table.populations.set role.index population }

/-- Empty a slot whose operation has no role left. -/
def vacate : Option (ReservationTable C capacity) := do
  match table.slots[place].operation with
  | none => some table
  | some operation =>
    if operation.roles.all Option.isNone then
      let live ← checkedSub table.live 1
      let table := { table.setOperation place none with live := live }
      let table ← table.unlinkAliases place operation.aliases
      some (table.pushFree place)
    else some table

/-! ### Queries -/

def census : Nat := table.live

def population : Nat :=
  table.populations[role.index]

def reservation : Option (Option ReservationId) := do
  match ← table.keySlot role key with
  | none => some none
  | some place => some (table.slots[place].alias? 0)

def memberBytes : Option (Option Nat) := do
  match ← table.keySlot role key with
  | none => some none
  | some place => some ((table.slots[place].member? role.index).map (·.bytes))

/-- A minted id is released once its whole operation left the table. -/
def reservationIsReleased (id : ReservationId) : Option Bool := do
  if id.value ≠ 0 ∧ id.value ≤ table.next then
    let found ← table.idSlot id
    some found.isNone
  else some false

/-! ### Operations -/

variable (existing : Option ReservationId)

def preflight (bytes : Nat) : Option (Except Refusal Unit) := do
  if (← table.keySlot role key).isSome then some (.error .replay)
  else if table.bytes + bytes > u64Max then some (.error .full)
  else
    match existing with
    | some id =>
      match ← table.idSlot id with
      | none => some (.error .foreign)
      | some place =>
        let operation ← table.slots[place].operation
        if operation.roles[role.index].isSome then some (.error .replay) else some (.ok ())
    | none =>
      if table.live ≥ capacity ∨ table.next = UInt64.ofNat u64Max then some (.error .full)
      else some (.ok ())

/-- A vacant slot: the free list's first, or the first one found by scanning. -/
def takeVacant : Option (ReservationTable C capacity × Fin capacity) := do
  if table.indexed then
    let (head, slots, place) ← freePop table.freeHead table.slots
    some ({ table with freeHead := head, slots := slots }, place)
  else
    let place ← (List.finRange capacity).find? fun place => table.slots[place].operation.isNone
    some (table, place)

/-- Put a fresh operation with its own id into a vacant slot. -/
def mint : Option (ReservationTable C capacity × Fin capacity) := do
  let id : ReservationId := ⟨table.next + 1⟩
  let (table, place) ← table.takeVacant
  let table := { table.setOperation place
      (some { aliases := (Vector.replicate roleCount none).set 0 (some id)
              roles := Vector.replicate roleCount none }) with
    next := id.value, live := table.live + 1 }
  let table ← table.linkId place 0 id
  some (table, place)

def locate : Option (ReservationTable C capacity × Fin capacity) :=
  match existing with
  | some id => do
      let place ← (← table.idSlot id)
      some (table, place)
  | none => table.mint

/-- Store and link a membership at an occupied place; its first alias is returned. -/
def store (role : Role) (member : Membership C) :
    Option (ReservationId × ReservationTable C capacity) := do
  let operation ← table.slots[place].operation
  let table := { table.setOperation place
      (some { operation with roles := operation.roles.set role.index (some member) }) with
    populations := table.populations.set role.index (table.populations[role.index] + 1)
    bytes := table.bytes + member.bytes }
  let head ← operation.aliases[0]
  let table ← table.linkKey place role member.key
  some (head, table)

def insert (bytes : Nat) (charge : C) :
    Option (Except Refusal ReservationId × ReservationTable C capacity) := do
  match ← table.preflight role key existing bytes with
  | .error refusal => some (.error refusal, table)
  | .ok () =>
    let (table, place) ← table.locate existing
    let (head, table) ← table.store place role { key := key, bytes := bytes, charge := charge }
    some (.ok head, table)

def release : Option (Option (Nat × C) × ReservationTable C capacity) := do
  match ← table.keySlot role key with
  | none => some (none, table)
  | some place =>
    let table ← table.unlinkKey place role key
    let operation ← table.slots[place].operation
    let member ← operation.roles[role.index]
    let table ← (table.takeRole place role operation).uncount role member.bytes
    let table ← table.vacate place
    some (some (member.bytes, member.charge), table)

/-- Drop the role's membership at one place, if it holds one. -/
def dropRoleAt (table : ReservationTable C capacity) (place : Fin capacity) :
    Option (ReservationTable C capacity) := do
  match table.slots[place].operation with
  | none => some table
  | some operation =>
    match operation.roles[role.index] with
    | none => some table
    | some member =>
      let table ← (table.takeRole place role operation).unlinkKey place role member.key
      table.uncount role member.bytes

def releaseRoleAt (table : ReservationTable C capacity) (place : Fin capacity) :
    Option (ReservationTable C capacity) := do
  let table ← dropRoleAt role table place
  table.vacate place

def releaseRole : Option (ReservationTable C capacity) :=
  (List.finRange capacity).foldlM (releaseRoleAt role) table

variable (roles : Vector (Option (Membership C)) roleCount)

/-- Unlink every membership of an operation that leaves its slot. -/
def unlinkRoles : Option (ReservationTable C capacity) :=
  (List.finRange roleCount).foldlM (fun table lane =>
    match roles[lane] with
    | none => some table
    | some member => table.unlinkKey place (Role.atLane lane) member.key) table

def linkRoles : Option (ReservationTable C capacity) :=
  (List.finRange roleCount).foldlM (fun table lane =>
    match roles[lane] with
    | none => some table
    | some member => table.linkKey place (Role.atLane lane) member.key) table

/-- Put ids into the free alias lanes, in order; the lanes taken are returned. -/
def placeAliases (aliases : Vector (Option ReservationId) roleCount) :
    List ReservationId →
      Option (Vector (Option ReservationId) roleCount × List (Fin roleCount × ReservationId))
  | [] => some (aliases, [])
  | id :: rest => do
      let lane ← (List.finRange roleCount).find? fun lane => aliases[lane].isNone
      let (aliases, moved) ← placeAliases (aliases.set lane (some id)) rest
      some (aliases, (lane, id) :: moved)

def linkIds (moved : List (Fin roleCount × ReservationId)) : Option (ReservationTable C capacity) :=
  moved.foldlM (fun table (lane, id) => table.linkId place lane id) table

def aliasList (operation : Operation C) : List ReservationId :=
  operation.aliases.toList.filterMap id

def mergeRoles (left right : Operation C) : Vector (Option (Membership C)) roleCount :=
  Vector.ofFn fun lane => right.roles[lane].or left.roles[lane]

/-- Move the right operation into the left one.  Every refusal was checked
before. -/
def mergeInto (leftPlace rightPlace : Fin capacity) (left right : Operation C) :
    Option (ReservationId × ReservationTable C capacity) := do
  let table ← table.unlinkRoles rightPlace right.roles
  let table ← table.unlinkAliases rightPlace right.aliases
  let table := table.setOperation rightPlace none
  let (aliases, moved) ← placeAliases left.aliases (aliasList right)
  let table := table.setOperation leftPlace
    (some { aliases := aliases, roles := mergeRoles left right })
  let head ← aliases[0]
  let live ← checkedSub table.live 1
  let table := { table with live := live }
  let table ← table.linkRoles leftPlace right.roles
  let table ← table.linkIds leftPlace moved
  some (head, table.pushFree rightPlace)

def merge (left right : ReservationId) :
    Option (Except Refusal ReservationId × ReservationTable C capacity) := do
  match ← table.idSlot left with
  | none => some (.error .foreign, table)
  | some leftPlace =>
    match ← table.idSlot right with
    | none => some (.error .foreign, table)
    | some rightPlace =>
      let leftOperation ← table.slots[leftPlace].operation
      if leftPlace = rightPlace then
        let head ← leftOperation.aliases[0]
        some (.ok head, table)
      else
        let rightOperation ← table.slots[rightPlace].operation
        if (List.finRange roleCount).any fun lane =>
            leftOperation.roles[lane].isSome && rightOperation.roles[lane].isSome then
          some (.error .replay, table)
        else if (aliasList leftOperation).length + (aliasList rightOperation).length >
            roleCount then
          some (.error .full, table)
        else
          let (head, table) ←
            table.mergeInto leftPlace rightPlace leftOperation rightOperation
          some (.ok head, table)

def transfer (source : Role) (sourceKey : RoleKey) (target : Role) (targetKey : RoleKey)
    (bytes : Nat) (charge : C) :
    Option (Except Refusal (ReservationId × Nat × C) × ReservationTable C capacity) := do
  match ← table.keySlot source sourceKey with
  | none => some (.error .foreign, table)
  | some place =>
    let operation ← table.slots[place].operation
    let clash ← if source = target then some true else do
      let found ← table.keySlot target targetKey
      some (found.isSome || operation.roles[target.index].isSome)
    if clash then some (.error .replay, table)
    else
      let old ← operation.roles[source.index]
      if table.bytes < old.bytes ∨ table.bytes - old.bytes + bytes > u64Max then
        some (.error .full, table)
      else
        let member : Membership C := { key := targetKey, bytes := bytes, charge := charge }
        let total := table.bytes - old.bytes + bytes
        let table := table.setOperation place (some { operation with
          roles := (operation.roles.set source.index none).set target.index (some member) })
        let drained ← checkedSub table.populations[source.index] 1
        let populations := table.populations.set source.index drained
        let table := { table with
          populations := populations.set target.index (populations[target.index] + 1)
          bytes := total }
        let head ← operation.aliases[0]
        let table ← table.unlinkKey place source sourceKey
        let table ← table.linkKey place target targetKey
        some (.ok (head, old.bytes, old.charge), table)

end ReservationTable

end P11Scope.Journal
