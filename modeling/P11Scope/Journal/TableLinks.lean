import P11Scope.Lib.Updates
import P11Scope.Journal.Reservations

/-!
# The table's links

What the slots hold is read through three views: the membership and the alias at
each node, and whether a place is occupied.  The links are stated against what
should be linked, so that an operation may change links and contents in any
order.
-/

namespace P11Scope.Journal

open Lib Function

variable {C : Type} {capacity : Nat} {Stored : Type}

/-- A lane of a slot. -/
abbrev Node (capacity : Nat) := Fin capacity × Fin roleCount

namespace Node

def code (node : Node capacity) : UInt16 := nodeCode node.1 node.2

end Node

/-! ## Node codes -/

/-- What a function of nodes says at a code. -/
def atCode (stored : Node capacity → Option Stored) (code : UInt16) : Option Stored :=
  if inside : nodeSlot code < capacity then stored (⟨nodeSlot code, inside⟩, nodeLane code)
  else none

/-- What a function of places says at a code. -/
def atSlot (stored : Fin capacity → Option Stored) (code : UInt16) : Option Stored :=
  if inside : code.toNat < capacity then stored ⟨code.toNat, inside⟩ else none

theorem nodeCode_toNat {slot : Nat} (small : slot < maxIndexed) (lane : Fin roleCount) :
    (nodeCode slot lane).toNat = slot * roleCount + lane := by
  exact Nat.mod_eq_of_lt (by simp only [maxIndexed, roleCount] at *; omega)

section

variable (small : capacity ≤ maxIndexed) (node : Node capacity)
include small node

theorem nodeSlot_code : nodeSlot node.code = node.1 := by
  rw [nodeSlot, Node.code, nodeCode_toNat (node.1.isLt.trans_le small)]
  simp only [roleCount] at *
  omega

theorem nodeLane_code : nodeLane node.code = node.2 := by
  apply Fin.ext
  change (nodeCode node.1 node.2).toNat % roleCount = node.2
  rw [nodeCode_toNat (node.1.isLt.trans_le small)]
  simp only [roleCount] at *
  omega

theorem code_inside : nodeSlot node.code < capacity := by
  rw [nodeSlot_code small]
  exact node.1.isLt

theorem code_ne_indexNone : node.code ≠ indexNone := by
  intro same
  have value := nodeCode_toNat (node.1.isLt.trans_le small) node.2
  change node.code.toNat = _ at value
  rw [same] at value
  have last : indexNone.toNat = 65535 := by decide
  simp only [roleCount, maxIndexed] at *
  omega

end

/-- A code whose slot exists is the code of that node. -/
theorem code_eq (code : UInt16) (inside : nodeSlot code < capacity) :
    Node.code ((⟨nodeSlot code, inside⟩, nodeLane code) : Node capacity) = code := by
  apply UInt16.toNat_inj.mp
  change (UInt16.ofNat (code.toNat / roleCount * roleCount + code.toNat % roleCount)).toNat = _
  rw [Nat.div_add_mod', UInt16.ofNat_toNat]

theorem atCode_code (small : capacity ≤ maxIndexed) (stored : Node capacity → Option Stored)
    (node : Node capacity) : atCode stored node.code = stored node := by
  rw [atCode, dif_pos (code_inside small node)]
  congr 1
  exact Prod.ext (Fin.ext (nodeSlot_code small node)) (nodeLane_code small node)

theorem atCode_update (small : capacity ≤ maxIndexed) (stored : Node capacity → Option Stored)
    (node : Node capacity) (value : Option Stored) :
    update (atCode stored) node.code value = atCode (update stored node value) := by
  funext code
  by_cases same : code = node.code
  · rw [same, update_self, atCode_code small, update_self]
  rw [update_of_ne same]
  unfold atCode
  split
  case isTrue inside =>
    rw [update_of_ne]
    rintro rfl
    exact same (code_eq code inside).symm
  case isFalse => rfl

theorem atCode_inside {stored : Node capacity → Option Stored} {code : UInt16} {value : Stored}
    (present : atCode stored code = some value) : nodeSlot code < capacity := by
  unfold atCode at present
  split at present
  case isTrue inside => exact inside
  case isFalse => cases present

section

variable (small : capacity ≤ maxIndexed)
include small

/-- No chain of an indexed table outlives the walk's fuel. -/
theorem atCode_enough (stored : Node capacity → Option Stored) :
    Indexed.Enough (atCode stored) walkFuel := by
  intro codes distinct present
  have inside : codes.map UInt16.toNat ⊆ List.range (roleCount * maxIndexed) := by
    intro value member
    obtain ⟨code, held, rfl⟩ := List.mem_map.mp member
    obtain ⟨bucket, found⟩ := Option.isSome_iff_exists.mp (present code held)
    have bound := atCode_inside found
    simp only [nodeSlot, roleCount, maxIndexed] at *
    exact List.mem_range.mpr (by omega)
  have apart : (codes.map UInt16.toNat).Nodup :=
    distinct.map fun _ _ same => UInt16.toNat_inj.mp same
  have short := (apart.subperm inside).length_le
  rw [List.length_map, List.length_range] at short
  exact Nat.lt_succ_of_le short

theorem ofNat_toNat (place : Fin capacity) : (UInt16.ofNat place).toNat = place := by
  exact Nat.mod_eq_of_lt (by simp only [maxIndexed] at *; omega)

variable (stored : Fin capacity → Option Stored)

theorem atSlot_ofNat (place : Fin capacity) :
    atSlot stored (UInt16.ofNat place) = stored place := by
  have value := ofNat_toNat small place
  have inside := value.trans_lt place.isLt
  rw [atSlot, dif_pos inside]
  congr 1
  exact Fin.ext value

theorem atSlot_update (place : Fin capacity) (value : Option Stored) :
    update (atSlot stored) (UInt16.ofNat place) value =
      atSlot (update stored place value) := by
  funext code
  by_cases same : code = UInt16.ofNat place
  · rw [same, update_self, atSlot_ofNat small, update_self]
  rw [update_of_ne same]
  unfold atSlot
  split
  case isTrue inside =>
    rw [update_of_ne]
    rintro rfl
    exact same UInt16.ofNat_toNat.symm
  case isFalse => rfl

end

/-! ## Writing links -/

/-- The free-list link of a slot. -/
def readFree (slots : Slots C capacity) (code : UInt16) : Option UInt16 :=
  if inside : code.toNat < capacity then some slots[code.toNat].freeNext else none

/-- Only one plane's links changed. -/
structure OnlyPlane (plane : Plane) (before after : Slots C capacity) : Prop where
  other : ∀ kept, kept ≠ plane → readLink after kept = readLink before kept
  free : readFree after = readFree before
  operation : ∀ place : Fin capacity,
    (getElem after place place.2).operation = (getElem before place place.2).operation

section

variable (slot : TableSlot C) (plane : Plane) (lane : Fin roleCount) (value : UInt16)

@[simp] theorem setNext_operation : (slot.setNext plane lane value).operation = slot.operation := by
  cases plane <;> rfl

@[simp] theorem setNext_freeNext : (slot.setNext plane lane value).freeNext = slot.freeNext := by
  cases plane <;> rfl

theorem setNext_next :
    (slot.setNext plane lane value).next plane = (slot.next plane).set lane value lane.2 := by
  cases plane <;> rfl

end

/-- Slots that agree on a field agree on what is read from it. -/
theorem readLink_congr {before after : Slots C capacity} {plane : Plane}
    (same : ∀ place : Fin capacity,
      (getElem after place place.2).next plane = (getElem before place place.2).next plane) :
    readLink after plane = readLink before plane := by
  funext code
  unfold readLink
  split
  case isTrue inside =>
    exact congrArg (fun lanes : Vector UInt16 roleCount => some lanes[nodeLane code])
      (same ⟨nodeSlot code, inside⟩)
  case isFalse => rfl

theorem readFree_congr {before after : Slots C capacity}
    (same : ∀ place : Fin capacity,
      (getElem after place place.2).freeNext = (getElem before place place.2).freeNext) :
    readFree after = readFree before := by
  funext code
  unfold readFree
  split
  case isTrue inside => exact congrArg some (same ⟨code.toNat, inside⟩)
  case isFalse => rfl

/-- A field of every slot after one slot was replaced. -/
theorem getElem_set_field {Field : Type} (field : TableSlot C → Field) (slots : Slots C capacity)
    (place : Fin capacity) (slot : TableSlot C)
    (same : field slot = field (getElem slots place place.2)) (other : Fin capacity) :
    field (getElem (slots.set place slot place.2) other other.2) =
      field (getElem slots other other.2) := by
  by_cases here : other = place
  · subst here
    simpa using same
  · have apart : place.val ≠ other.val := fun same => here (Fin.ext same.symm)
    simp [Vector.getElem_set_ne, apart]

theorem writeLink_spec (slots : Slots C capacity) (plane : Plane) {code : UInt16}
    (inside : nodeSlot code < capacity) (value : UInt16) :
    ∃ after, writeLink slots plane code value = some after ∧
      readLink after plane = update (readLink slots plane) code (some value) ∧
      OnlyPlane plane slots after := by
  let place : Fin capacity := ⟨nodeSlot code, inside⟩
  refine ⟨_, dif_pos inside, ?_, ?_, ?_, ?_⟩
  · funext other
    by_cases same : other = code
    · subst same
      simp [readLink, inside, setNext_next]
    rw [update_of_ne same]
    unfold readLink
    split
    case isFalse => rfl
    rename_i there
    by_cases slot : nodeSlot code = nodeSlot other
    · have lane : (nodeLane code).val ≠ (nodeLane other).val := by
        intro lane
        apply same
        rw [← code_eq other there, ← code_eq code inside]
        exact congrArg Node.code (Prod.ext (Fin.ext slot.symm) (Fin.ext lane.symm))
      simp [slot, setNext_next, Vector.getElem_set_ne, lane]
    · simp [Vector.getElem_set_ne, slot]
  · intro kept apart
    exact readLink_congr (getElem_set_field (·.next kept) slots place _ (by
      cases plane <;> cases kept <;> first | rfl | exact absurd rfl apart))
  · exact readFree_congr (getElem_set_field (·.freeNext) slots place _ (setNext_freeNext ..))
  · exact getElem_set_field (·.operation) slots place _ (setNext_operation ..)

/-! ## One plane -/

namespace OnlyPlane

variable {plane : Plane} {before after : Slots C capacity}

theorem refl (plane : Plane) (slots : Slots C capacity) : OnlyPlane plane slots slots :=
  ⟨fun _ _ => rfl, rfl, fun _ => rfl⟩

end OnlyPlane

/-- The chains of one plane hold exactly the stored nodes. -/
def PlaneIndex (heads : Heads) (slots : Slots C capacity) (plane : Plane)
    (stored : Node capacity → Option (Fin indexBuckets)) : Prop :=
  Indexed indexNone (fun bucket : Fin indexBuckets => getElem heads bucket bucket.2)
    (readLink slots plane) (atCode stored)

section Plane

variable {heads : Heads} {slots : Slots C capacity} {plane : Plane}
variable {stored : Node capacity → Option (Fin indexBuckets)} {node : Node capacity}

theorem chainLink_spec (small : capacity ≤ maxIndexed)
    (index : PlaneIndex heads slots plane stored) (fresh : stored node = none)
    (bucket : Fin indexBuckets) :
    ∃ heads' slots', chainLink heads slots plane bucket node.code = some (heads', slots') ∧
      PlaneIndex heads' slots' plane (update stored node (some bucket)) ∧
      OnlyPlane plane slots slots' := by
  obtain ⟨after, written, links, only⟩ :=
    writeLink_spec slots plane (code_inside small node) heads[bucket]
  refine ⟨heads.set bucket node.code, after, ?_, ?_, only⟩
  · rw [chainLink, written]
    rfl
  · rw [PlaneIndex, vector_set, links, ← atCode_update small]
    refine index.link (code_ne_indexNone small node) ?_ bucket
    rw [atCode_code small, fresh]

theorem chainUnlink_spec (small : capacity ≤ maxIndexed)
    (index : PlaneIndex heads slots plane stored) {bucket : Fin indexBuckets}
    (present : stored node = some bucket) :
    ∃ heads' slots', chainUnlink heads slots plane bucket node.code = some (heads', slots') ∧
      PlaneIndex heads' slots' plane (update stored node none) ∧
      OnlyPlane plane slots slots' := by
  have linked : atCode stored node.code = some bucket := (atCode_code small ..).trans present
  obtain ⟨after, link⟩ := index.readable linked
  by_cases first : heads[bucket] = node.code
  case pos =>
    refine ⟨heads.set bucket after, slots, ?_, ?_, OnlyPlane.refl ..⟩
    · rw [chainUnlink, if_pos first, link]
      rfl
    · rw [PlaneIndex, vector_set, ← atCode_update small]
      exact index.unlink_head first linked link
  case neg =>
    obtain ⟨previous, found, held, shorter⟩ :=
      index.unlink_behind first linked link (atCode_enough small stored)
    obtain ⟨slots', written, links, only⟩ :=
      writeLink_spec slots plane (atCode_inside held) after
    refine ⟨heads, slots', ?_, ?_, only⟩
    · rw [chainUnlink, if_neg first]
      refine bind_done found ?_
      refine bind_done link ?_
      exact bind_done written rfl
    · rw [PlaneIndex, links, ← atCode_update small]
      exact shorter

end Plane

/-! ## All links of a table -/

/-- The links of an indexed table hold exactly these nodes and places. -/
structure Linked (table : ReservationTable C capacity)
    (keys ids : Node capacity → Option (Fin indexBuckets)) (free : Fin capacity → Option Unit) :
    Prop where
  keyIndex : capacity ≤ maxIndexed → PlaneIndex table.keyHeads table.slots .keyLinks keys
  idIndex : capacity ≤ maxIndexed → PlaneIndex table.idHeads table.slots .idLinks ids
  freeIndex : capacity ≤ maxIndexed →
    Indexed indexNone (fun _ : Unit => table.freeHead) (readFree table.slots) (atSlot free)

/-- Only links changed. -/
structure Relinked (before after : ReservationTable C capacity) : Prop where
  operation : ∀ place : Fin capacity,
    (getElem after.slots place place.2).operation = (getElem before.slots place place.2).operation
  next : after.next = before.next
  live : after.live = before.live
  bytes : after.bytes = before.bytes
  populations : after.populations = before.populations

namespace Relinked

variable {before middle after : ReservationTable C capacity}

theorem refl (table : ReservationTable C capacity) : Relinked table table :=
  ⟨fun _ => rfl, rfl, rfl, rfl, rfl⟩

theorem trans (first : Relinked before middle) (second : Relinked middle after) :
    Relinked before after where
  operation place := (second.operation place).trans (first.operation place)
  next := second.next.trans first.next
  live := second.live.trans first.live
  bytes := second.bytes.trans first.bytes
  populations := second.populations.trans first.populations

end Relinked

namespace ReservationTable

variable {table : ReservationTable C capacity}
variable {keys ids : Node capacity → Option (Fin indexBuckets)} {free : Fin capacity → Option Unit}
variable {place : Fin capacity}

theorem indexed_iff : table.indexed = true ↔ capacity ≤ maxIndexed := decide_eq_true_iff

/-- A table past the index keeps no links. -/
theorem linked_of_large (large : ¬ capacity ≤ maxIndexed) (table : ReservationTable C capacity)
    (keys ids : Node capacity → Option (Fin indexBuckets)) (free : Fin capacity → Option Unit) :
    Linked table keys ids free :=
  ⟨fun small => absurd small large, fun small => absurd small large,
    fun small => absurd small large⟩

section

variable (linked : Linked table keys ids free)
include linked

variable {chained : Option (Heads × Slots C capacity)}

/-- Key chains that changed on their own plane only. -/
theorem rekeyed {keys' : Node capacity → Option (Fin indexBuckets)}
    (chain : capacity ≤ maxIndexed → ∃ heads slots, chained = some (heads, slots) ∧
      PlaneIndex heads slots .keyLinks keys' ∧ OnlyPlane .keyLinks table.slots slots) : ∃ after, (do
        if table.indexed then
          let (heads, slots) ← chained
          some { table with keyHeads := heads, slots := slots }
        else some table) = some after ∧
      Linked after keys' ids free ∧ Relinked table after := by
  by_cases small : capacity ≤ maxIndexed
  · obtain ⟨heads, slots, done, index, only⟩ := chain small
    rw [if_pos (indexed_iff.mpr small), done]
    refine ⟨_, rfl, ⟨fun _ => index, fun small => ?_, fun small => ?_⟩, only.operation, rfl, rfl,
      rfl, rfl⟩
    · rw [PlaneIndex, only.other .idLinks (by decide)]
      exact linked.idIndex small
    · rw [only.free]
      exact linked.freeIndex small
  · rw [if_neg (mt indexed_iff.mp small)]
    exact ⟨table, rfl, linked_of_large small .., Relinked.refl table⟩

/-- Id chains that changed on their own plane only. -/
theorem renamed {ids' : Node capacity → Option (Fin indexBuckets)}
    (chain : capacity ≤ maxIndexed → ∃ heads slots, chained = some (heads, slots) ∧
      PlaneIndex heads slots .idLinks ids' ∧ OnlyPlane .idLinks table.slots slots) : ∃ after, (do
        if table.indexed then
          let (heads, slots) ← chained
          some { table with idHeads := heads, slots := slots }
        else some table) = some after ∧
      Linked after keys ids' free ∧ Relinked table after := by
  by_cases small : capacity ≤ maxIndexed
  · obtain ⟨heads, slots, done, index, only⟩ := chain small
    rw [if_pos (indexed_iff.mpr small), done]
    refine ⟨_, rfl, ⟨fun small => ?_, fun _ => index, fun small => ?_⟩, only.operation, rfl, rfl,
      rfl, rfl⟩
    · rw [PlaneIndex, only.other .keyLinks (by decide)]
      exact linked.keyIndex small
    · rw [only.free]
      exact linked.freeIndex small
  · rw [if_neg (mt indexed_iff.mp small)]
    exact ⟨table, rfl, linked_of_large small .., Relinked.refl table⟩

section

variable {role : Role} {lane : Fin roleCount} (here : role.index = lane)
include here

theorem linkKey_spec (key : RoleKey) (fresh : keys (place, lane) = none) :
    ∃ after, table.linkKey place role key = some after ∧
      Linked after (update keys (place, lane) (some (keyBucket role key))) ids free ∧
      Relinked table after := by
  subst here
  exact rekeyed linked fun small => chainLink_spec small (linked.keyIndex small) fresh _

theorem unlinkKey_spec {key : RoleKey}
    (present : keys (place, lane) = some (keyBucket role key)) :
    ∃ after, table.unlinkKey place role key = some after ∧
      Linked after (update keys (place, lane) none) ids free ∧
      Relinked table after := by
  subst here
  exact rekeyed linked fun small => chainUnlink_spec small (linked.keyIndex small) present

end

theorem linkId_spec {lane : Fin roleCount} (id : ReservationId) (fresh : ids (place, lane) = none) :
    ∃ after, table.linkId place lane id = some after ∧
      Linked after keys (update ids (place, lane) (some (idBucket id))) free ∧
      Relinked table after :=
  renamed linked fun small => chainLink_spec small (linked.idIndex small) fresh _

end

/-! ### The free list -/

/-- The places the free list should hold. -/
def vacancy (table : ReservationTable C capacity) (place : Fin capacity) : Option Unit :=
  if (getElem table.slots place place.2).operation.isNone then some () else none

theorem writeFree_links (slots : Slots C capacity) (place : Fin capacity) (value : UInt16)
    (plane : Plane) : readLink (writeFree slots place value) plane = readLink slots plane :=
  readLink_congr fun other =>
    getElem_set_field (·.next plane) slots place { slots[place] with freeNext := value }
      (by cases plane <;> rfl) other

theorem writeFree_free (small : capacity ≤ maxIndexed) (slots : Slots C capacity)
    (place : Fin capacity) (value : UInt16) :
    readFree (writeFree slots place value) =
      update (readFree slots) (UInt16.ofNat place) (some value) := by
  have code := ofNat_toNat small place
  funext other
  by_cases same : other = UInt16.ofNat place
  · subst same
    simp [readFree, writeFree, code]
  have apart : place.val ≠ other.toNat := by
    intro equal
    apply same
    rw [equal, UInt16.ofNat_toNat]
  rw [update_of_ne same]
  unfold readFree
  split
  case isTrue inside => simp [writeFree, Vector.getElem_set_ne, apart]
  case isFalse => rfl

/-- A free list that changed on its own. -/
theorem refreed (linked : Linked table keys ids free) {head : UInt16} {value : UInt16}
    {free' : Fin capacity → Option Unit}
    (index : Indexed indexNone (fun _ : Unit => head) (readFree (writeFree table.slots place value))
      (atSlot free')) :
    Linked { table with freeHead := head, slots := writeFree table.slots place value } keys ids
        free' ∧
      Relinked table
        { table with freeHead := head, slots := writeFree table.slots place value } := by
  refine ⟨⟨fun small => ?_, fun small => ?_, fun _ => index⟩,
    getElem_set_field (·.operation) table.slots place
      { table.slots[place] with freeNext := value } rfl, rfl, rfl, rfl, rfl⟩
  · rw [PlaneIndex, writeFree_links]
    exact linked.keyIndex small
  · rw [PlaneIndex, writeFree_links]
    exact linked.idIndex small

theorem pushFree_spec (linked : Linked table keys ids free) (taken : free place = none) :
    Linked (table.pushFree place) keys ids (update free place (some ())) ∧
      Relinked table (table.pushFree place) := by
  unfold pushFree
  by_cases small : capacity ≤ maxIndexed
  case pos =>
    rw [if_pos (indexed_iff.mpr small)]
    have proper : UInt16.ofNat place ≠ indexNone := by
      intro same
      have value := congrArg UInt16.toNat same
      have last : indexNone.toNat = 65535 := by decide
      rw [ofNat_toNat small] at value
      simp only [maxIndexed] at *
      omega
    have pushed := (linked.freeIndex small).link proper
      ((atSlot_ofNat small free place).trans taken) ()
    refine refreed linked ?_
    rw [writeFree_free small, ← atSlot_update small]
    exact pushed
  case neg =>
    rw [if_neg (mt indexed_iff.mp small)]
    exact ⟨linked_of_large small .., Relinked.refl table⟩

theorem takeVacant_spec (linked : Linked table keys ids table.vacancy)
    (vacant : ∃ place : Fin capacity, (getElem table.slots place place.2).operation = none) :
    ∃ after place, table.takeVacant = some (after, place) ∧
      (getElem table.slots place place.2).operation = none ∧
      Linked after keys ids (update table.vacancy place none) ∧
      Relinked table after := by
  obtain ⟨somewhere, empty⟩ := vacant
  unfold takeVacant
  by_cases small : capacity ≤ maxIndexed
  case pos =>
    have index := linked.freeIndex small
    have stored : atSlot table.vacancy (UInt16.ofNat somewhere) = some () := by
      rw [atSlot_ofNat small, vacancy, empty]
      rfl
    obtain ⟨proper, first⟩ := index.head_stored stored
    have inside : table.freeHead.toNat < capacity := by
      unfold atSlot at first
      split at first
      case isTrue inside => exact inside
      case isFalse => cases first
    let place : Fin capacity := ⟨table.freeHead.toNat, inside⟩
    have code : UInt16.ofNat place = table.freeHead := UInt16.ofNat_toNat
    have removed : update (atSlot table.vacancy) table.freeHead none =
        atSlot (update table.vacancy place none) := by
      rw [← atSlot_update small, code]
    have popped := index.unlink_head rfl first (dif_pos inside)
    rw [removed] at popped
    have unread : Indexed indexNone (fun _ : Unit => table.slots[place].freeNext)
        (readFree (writeFree table.slots place indexNone))
        (atSlot (update table.vacancy place none)) := by
      refine popped.congr fun other present => ?_
      rw [writeFree_free small, update_of_ne]
      rintro rfl
      rw [atSlot_ofNat small, update_self] at present
      cases present
    refine ⟨_, place, ?_, ?_, refreed linked unread⟩
    · rw [if_pos (indexed_iff.mpr small), freePop, if_neg proper, dif_pos inside]
      rfl
    · rw [← code, atSlot_ofNat small, vacancy] at first
      split at first
      case isTrue none => exact Option.isNone_iff_eq_none.mp none
      case isFalse => cases first
  case neg =>
    obtain ⟨place, found⟩ : ∃ place, (List.finRange capacity).find?
        (fun place => table.slots[place].operation.isNone) = some place := by
      refine Option.isSome_iff_exists.mp (List.find?_isSome.mpr ⟨somewhere, ?_⟩)
      exact ⟨List.mem_finRange _, by rw [empty]; rfl⟩
    refine ⟨table, place, ?_, ?_, linked_of_large small .., Relinked.refl table⟩
    · rw [if_neg (mt indexed_iff.mp small), found]
      rfl
    · have none := List.find?_some found
      exact Option.isNone_iff_eq_none.mp none

/-! ### Loops over lanes -/

/-- What is stored at every lane of one place. -/
def replaceLanes (place : Fin capacity) (lanes : Fin roleCount → Option Stored)
    (stored : Node capacity → Option Stored) (node : Node capacity) : Option Stored :=
  if node.1 = place then lanes node.2 else stored node

theorem lanes_nodup (place : Fin capacity) :
    ((List.finRange roleCount).map fun lane => (place, lane)).Nodup :=
  (List.nodup_finRange _).map fun _ _ same => (Prod.mk.inj same).2

theorem updateAll_lanes (place : Fin capacity) (lanes : Fin roleCount → Option Stored)
    (stored : Node capacity → Option Stored) :
    updateAll (fun lane => (place, lane)) lanes (List.finRange roleCount) stored =
      replaceLanes place lanes stored := by
  funext node
  obtain ⟨there, lane⟩ := node
  unfold replaceLanes
  by_cases same : there = place
  · subst same
    rw [if_pos rfl]
    exact updateAll_of_mem (lanes_nodup _) (List.mem_finRange lane)
  · rw [if_neg same]
    exact updateAll_of_notMem fun other _ equal => same (Prod.mk.inj equal).1.symm

/-- A loop over the lanes of one place, each step changing what its lane stores. -/
theorem lanes_spec
    (Holds : ReservationTable C capacity → (Node capacity → Option Stored) → Prop)
    {step : ReservationTable C capacity → Fin roleCount → Option (ReservationTable C capacity)}
    {stored : Node capacity → Option Stored} {lanes : Fin roleCount → Option Stored}
    (steps : ∀ lane state changed, Holds state changed →
      changed (place, lane) = stored (place, lane) →
      (step state lane = some state ∧ lanes lane = stored (place, lane)) ∨
      ∃ after, step state lane = some after ∧
        Holds after (update changed (place, lane) (lanes lane)) ∧ Relinked state after)
    (holds : Holds table stored) :
    ∃ after, (List.finRange roleCount).foldlM step table = some after ∧
      Holds after (replaceLanes place lanes stored) ∧ Relinked table after := by
  have each : ∀ lane ∈ List.finRange roleCount, ∀ state changed,
      Holds state changed ∧ Relinked table state →
      changed (place, lane) = stored (place, lane) →
      ∃ after, step state lane = some after ∧
        Holds after (update changed (place, lane) (lanes lane)) ∧
        Relinked table after := by
    intro lane _ state changed held kept
    rcases steps lane state changed held.1 kept with ⟨idle, same⟩ | ⟨after, done, links, only⟩
    · rw [same, ← kept, update_eq_self]
      exact ⟨state, idle, held⟩
    · exact ⟨after, done, links, held.2.trans only⟩
  obtain ⟨after, done, links, only⟩ := foldlM_updateAll stored (lanes_nodup place) each
    ⟨holds, Relinked.refl table⟩ fun _ _ => rfl
  rw [updateAll_lanes] at links
  exact ⟨after, done, links, only⟩

theorem unlinkAliases_spec (linked : Linked table keys ids free)
    {aliases : Vector (Option ReservationId) roleCount}
    (present : ∀ lane : Fin roleCount,
      ids (place, lane) = (getElem aliases lane lane.2).map idBucket) :
    ∃ after, table.unlinkAliases place aliases = some after ∧
      Linked after keys (replaceLanes place (fun _ => none) ids) free ∧
      Relinked table after := by
  refine lanes_spec (fun state stored => Linked state keys stored free)
    (fun lane state stored held kept => ?_) linked
  rw [present] at kept ⊢
  cases named : aliases[lane] with
  | none => exact .inl ⟨rfl, rfl⟩
  | some id =>
    rw [named] at kept
    exact .inr (renamed held fun small => chainUnlink_spec small (held.idIndex small) kept)

theorem atLane_index (lane : Fin roleCount) : (Role.atLane lane).index = lane := by
  fin_cases lane <;> rfl

theorem index_atLane (role : Role) : Role.atLane role.index = role := by
  cases role <;> rfl

/-- The bucket of the membership at a lane. -/
def memberBucket (lane : Fin roleCount) (member : Membership C) : Fin indexBuckets :=
  keyBucket (Role.atLane lane) member.key

section

variable (linked : Linked table keys ids free)
include linked

variable {roles : Vector (Option (Membership C)) roleCount}

theorem unlinkRoles_spec
    (present : ∀ lane : Fin roleCount,
      keys (place, lane) = (getElem roles lane lane.2).map (memberBucket lane)) :
    ∃ after, table.unlinkRoles place roles = some after ∧
      Linked after (replaceLanes place (fun _ => none) keys) ids free ∧
      Relinked table after := by
  refine lanes_spec (fun state stored => Linked state stored ids free)
    (fun lane state stored held kept => ?_) linked
  rw [present] at kept ⊢
  cases held' : roles[lane] with
  | none => exact .inl ⟨rfl, rfl⟩
  | some member =>
    rw [held'] at kept
    exact .inr (unlinkKey_spec held (atLane_index lane) kept)

theorem linkRoles_spec
    (absent : ∀ lane : Fin roleCount,
      (getElem roles lane lane.2).isSome → keys (place, lane) = none) :
    ∃ after, table.linkRoles place roles = some after ∧
      Linked after (replaceLanes place
        (fun lane => ((getElem roles lane lane.2).map (memberBucket lane)).or
          (keys (place, lane))) keys) ids free ∧
      Relinked table after := by
  refine lanes_spec (fun state stored => Linked state stored ids free)
    (fun lane state stored held kept => ?_) linked
  cases held' : roles[lane] with
  | none => exact .inl ⟨rfl, rfl⟩
  | some member =>
    rw [absent lane (by rw [held']; rfl)] at kept
    exact .inr (linkKey_spec held (atLane_index lane) member.key kept)

theorem linkIds_spec {moved : List (Fin roleCount × ReservationId)}
    (apart : (moved.map Prod.fst).Nodup) (absent : ∀ pair ∈ moved, ids (place, pair.1) = none) :
    ∃ after, table.linkIds place moved = some after ∧
      Linked after keys (updateAll (fun pair => (place, pair.1))
        (fun pair => some (idBucket pair.2)) moved ids) free ∧
      Relinked table after := by
  have distinct : (moved.map fun pair => (place, pair.1)).Nodup := by
    have paired := apart.map (f := fun lane => (place, lane)) fun _ _ same =>
      (Prod.mk.inj same).2
    rw [List.map_map] at paired
    exact paired
  have each : ∀ pair ∈ moved, ∀ state stored,
      Linked state keys stored free ∧ Relinked table state →
      stored (place, pair.1) = none →
      ∃ after, ReservationTable.linkId state place pair.1 pair.2 = some after ∧
        Linked after keys (update stored (place, pair.1) (some (idBucket pair.2))) free ∧
        Relinked table after := by
    intro pair _ state stored held vacant
    obtain ⟨after, done, links, only⟩ := linkId_spec held.1 pair.2 vacant
    exact ⟨after, done, links, held.2.trans only⟩
  exact foldlM_updateAll (fun _ => none) distinct each ⟨linked, Relinked.refl table⟩ absent

end

/-! ### Contents -/

@[simp] theorem setOperation_operation (table : ReservationTable C capacity)
    (place other : Fin capacity) (operation : Option (Operation C)) :
    (getElem (table.setOperation place operation).slots other other.2).operation =
      if other = place then operation else (getElem table.slots other other.2).operation := by
  unfold setOperation
  by_cases same : other = place
  · subst same
    simp
  · have apart : place.val ≠ other.val := fun equal => same (Fin.ext equal.symm)
    simp [same, Vector.getElem_set_ne, apart]

theorem setOperation_linked (linked : Linked table keys ids free) (place : Fin capacity)
    (operation : Option (Operation C)) :
    Linked (table.setOperation place operation) keys ids free := by
  let slot : TableSlot C := { table.slots[place] with operation := operation }
  have links : ∀ plane, readLink (table.setOperation place operation).slots plane =
      readLink table.slots plane := fun plane =>
    readLink_congr fun other => getElem_set_field (·.next plane) table.slots place slot
      (by cases plane <;> rfl) other
  refine ⟨fun small => ?_, fun small => ?_, fun small => ?_⟩
  · rw [PlaneIndex, links]
    exact linked.keyIndex small
  · rw [PlaneIndex, links]
    exact linked.idIndex small
  · have same : readFree (table.setOperation place operation).slots = readFree table.slots :=
      readFree_congr fun other => getElem_set_field (·.freeNext) table.slots place slot rfl other
    rw [same]
    exact linked.freeIndex small

/-! ### The fresh table -/

/-- Chains of an index that stores nothing. -/
theorem indexed_empty {Bucket : Type} (next : UInt16 → Option UInt16) :
    Indexed indexNone (fun _ : Bucket => indexNone) next (fun _ => none) := by
  intro bucket
  refine ⟨[], rfl, List.nodup_nil, fun node => ?_⟩
  constructor
  · intro member
    cases member
  · intro stored
    cases stored

theorem foldl_pushFree_spec {places : List (Fin capacity)} (apart : places.Nodup)
    (linked : Linked table keys ids free) (taken : ∀ place ∈ places, free place = none) :
    Linked (places.foldl pushFree table) keys ids
        (updateAll (fun place => place) (fun _ => some ()) places free) ∧
      Relinked table (places.foldl pushFree table) := by
  induction places generalizing table free with
  | nil => exact ⟨linked, Relinked.refl table⟩
  | cons place rest ih =>
    obtain ⟨fresh, apart⟩ := List.nodup_cons.mp apart
    obtain ⟨pushed, only⟩ := pushFree_spec linked (taken place List.mem_cons_self)
    have later := ih apart pushed fun other present => by
      rw [update_of_ne (ne_of_mem_of_not_mem present fresh)]
      exact taken other (List.mem_cons_of_mem _ present)
    exact ⟨later.1, only.trans later.2⟩

/-- Nothing placed and nothing linked, not even on the free list. -/
def blank (C : Type) (capacity : Nat) : ReservationTable C capacity :=
  { slots := Vector.replicate capacity {} }

theorem blank_linked :
    Linked (blank C capacity) (fun _ => none) (fun _ => none) (fun _ => none) := by
  have noCode : atCode (fun _ : Node capacity => (none : Option (Fin indexBuckets))) =
      fun _ => none := by
    funext code
    simp [atCode]
  have noSlot : atSlot (fun _ : Fin capacity => (none : Option Unit)) = fun _ => none := by
    funext code
    simp [atSlot]
  have heads : (fun bucket : Fin indexBuckets =>
      (Vector.replicate indexBuckets indexNone)[bucket]) = fun _ => indexNone := by
    simp
  have plane (slots : Slots C capacity) (plane : Plane) :
      PlaneIndex (Vector.replicate indexBuckets indexNone) slots plane fun _ => none := by
    rw [PlaneIndex, noCode]
    exact heads ▸ indexed_empty _
  exact ⟨fun _ => plane _ _, fun _ => plane _ _, fun _ => noSlot ▸ indexed_empty _⟩

theorem tryNew_eq :
    tryNew C capacity = (List.finRange capacity).reverse.foldl pushFree (blank C capacity) := by
  unfold tryNew
  by_cases small : capacity ≤ maxIndexed
  case pos =>
    rw [if_pos small]
    refine (List.foldl_hom (fun pair : UInt16 × Slots C capacity =>
      ({ slots := pair.2, freeHead := pair.1 } : ReservationTable C capacity)) ?_).symm
    intro pair place
    rw [pushFree, if_pos (indexed_iff.mpr small)]
  case neg =>
    have still : ∀ (table : ReservationTable C capacity) place, table.pushFree place = table := by
      intro table place
      rw [pushFree, if_neg (mt indexed_iff.mp small)]
    rw [if_neg small]
    induction (List.finRange capacity).reverse with
    | nil => rfl
    | cons place rest ih => rw [List.foldl_cons, still, ← ih]

theorem tryNew_linked :
    Linked (tryNew C capacity) (fun _ => none) (fun _ => none) (fun _ => some ()) ∧
      Relinked (blank C capacity) (tryNew C capacity) := by
  have apart : (List.finRange capacity).reverse.Nodup :=
    List.nodup_reverse.mpr (List.nodup_finRange capacity)
  have everywhere : updateAll (fun place => place) (fun _ => some ())
      (List.finRange capacity).reverse (fun _ : Fin capacity => none) = fun _ => some () := by
    funext place
    refine updateAll_of_mem (by simpa using apart) ?_
    exact List.mem_reverse.mpr (List.mem_finRange place)
  have listed := foldl_pushFree_spec apart (blank_linked (C := C)) fun _ _ => rfl
  rw [everywhere, ← tryNew_eq] at listed
  exact listed

end ReservationTable

end P11Scope.Journal
