import P11Scope.Journal.Register

/-!
# Table operations on the register

Every operation of a sound table succeeds, keeps it sound, and changes its
register as stated.
-/

namespace P11Scope.Journal

open Lib Function Option

variable {C : Type} {capacity : Nat}

namespace Register

variable (register : Register C capacity) (node : Node capacity)

/-- The key bucket of each stored membership. -/
def keys : Option (Fin indexBuckets) :=
  (register.members node).map (ReservationTable.memberBucket node.2)

/-- The id bucket of each stored alias. -/
def ids : Option (Fin indexBuckets) :=
  (register.aliases node).map idBucket

theorem map_update {Value Stored : Type} (value : Option Value)
    (stored : Node capacity → Option Value) (bucket : Fin roleCount → Value → Stored) :
    (fun other : Node capacity =>
      (update stored node value other).map (bucket other.2)) =
      update (fun other => (stored other).map (bucket other.2)) node
        (value.map (bucket node.2)) := by
  funext other
  by_cases same : other = node
  · subst same
    simp
  · simp [update_of_ne same]

theorem keys_take (member : Membership C) :
    (register.take node member).keys = update register.keys node none :=
  map_update ..

theorem keys_put (place : Fin capacity) (role : Role) (member : Membership C) :
    (register.put (place, role.index) member).keys =
      update register.keys (place, role.index) (some (keyBucket role member.key)) := by
  refine (map_update ..).trans ?_
  rw [map_some, ReservationTable.memberBucket, ReservationTable.index_atLane]
  rfl

end Register

namespace ReservationTable

/-- A table's contents and counters. -/
def register (table : ReservationTable C capacity) : Register C capacity where
  members node := (getElem table.slots node.1 node.1.2).member? node.2
  aliases node := (getElem table.slots node.1 node.1.2).alias? node.2
  vacant := table.vacancy
  next := table.next
  live := table.live
  bytes := table.bytes
  populations lane := getElem table.populations lane lane.2

/-- The links hold exactly what the table holds. -/
def Tied (table : ReservationTable C capacity) : Prop :=
  Linked table table.register.keys table.register.ids table.vacancy

structure Sound (table : ReservationTable C capacity) : Prop where
  tied : table.Tied
  filed : table.register.Filed

variable {table : ReservationTable C capacity} {place : Fin capacity} {role : Role}

theorem tied_of {register : Register C capacity} (same : table.register = register)
    (links : Linked table register.keys register.ids register.vacant) : table.Tied := by
  subst same
  exact links

variable {key : RoleKey} {id : ReservationId}

theorem Tied.sound {register : Register C capacity} (tied : table.Tied)
    (same : table.register = register) (filed : register.Filed) : table.Sound :=
  ⟨tied, same ▸ filed⟩

theorem relinked_register {before after : ReservationTable C capacity}
    (only : Relinked before after) : after.register = before.register := by
  unfold ReservationTable.register ReservationTable.vacancy TableSlot.member? TableSlot.alias?
  simp only [only.operation, only.next, only.live, only.bytes, only.populations]

/-! ## Reading -/

theorem vacancy_eq_none : table.vacancy place = none ↔
    ∃ operation, (getElem table.slots place place.2).operation = some operation := by
  unfold vacancy
  cases table.slots[place].operation <;> simp

theorem vacancy_eq_some : table.vacancy place = some () ↔
    (getElem table.slots place place.2).operation = none := by
  unfold vacancy
  cases table.slots[place].operation <;> simp

variable {operation : Operation C}

section

variable (held : (getElem table.slots place place.2).operation = some operation)
include held

variable (lane : Fin roleCount)

theorem members_eq :
    table.register.members (place, lane) = getElem operation.roles lane lane.2 := by
  change table.slots[place].member? lane = _
  rw [TableSlot.member?, held]
  rfl

theorem aliases_eq :
    table.register.aliases (place, lane) = getElem operation.aliases lane lane.2 := by
  change table.slots[place].alias? lane = _
  rw [TableSlot.alias?, held]
  rfl

end

variable {lane : Fin roleCount} {member : Membership C}

theorem operation_of_member (stored : table.register.members (place, lane) = some member) :
    ∃ operation, (getElem table.slots place place.2).operation = some operation ∧
      getElem operation.roles lane lane.2 = some member :=
  bind_eq_some_iff.mp stored

theorem operation_of_alias (named : table.register.aliases (place, lane) = some id) :
    ∃ operation, (getElem table.slots place place.2).operation = some operation ∧
      getElem operation.aliases lane lane.2 = some id :=
  bind_eq_some_iff.mp named

theorem holdsKey_iff : holdsKey (getElem table.slots place place.2) lane key ↔
    ∃ member, table.register.members (place, lane) = some member ∧ member.key = key := by
  change (table.slots[place].member? lane).any _ = true ↔ ∃ member,
    table.slots[place].member? lane = some member ∧ _
  simp [any_eq_true]

theorem holdsId_iff : holdsId (getElem table.slots place place.2) id ↔
    ∃ lane, table.register.aliases (place, lane) = some id := by
  change Option.any _ _ = true ↔ ∃ lane, (table.slots[place].operation.bind _) = some id
  cases table.slots[place].operation with
  | none => simp
  | some operation =>
    simp only [any_some, Vector.contains_iff_mem, bind_some]
    constructor
    · intro member
      obtain ⟨lane, inside, found⟩ := Vector.getElem_of_mem member
      exact ⟨⟨lane, inside⟩, found⟩
    · rintro ⟨lane, found⟩
      exact found ▸ Vector.getElem_mem lane.isLt

/-! ## Lookups -/

/-- The linear scan finds the only place that satisfies the test. -/
theorem scan_eq_some_iff {test : Fin capacity → Bool}
    (unique : ∀ place other, test place → test other → place = other) :
    (List.finRange capacity).find? test = some place ↔ test place := by
  constructor
  · exact fun found => List.find?_some found
  · intro holds
    cases found : (List.finRange capacity).find? test with
    | none => exact absurd holds (List.find?_eq_none.mp found place (List.mem_finRange place))
    | some other => rw [unique other place (List.find?_some found) holds]

theorem keySlotLinear_eq_some_iff (filed : table.register.Filed) :
    table.keySlotLinear role key = some place ↔
      ∃ member, table.register.members (place, role.index) = some member ∧ member.key = key := by
  rw [← holdsKey_iff]
  refine scan_eq_some_iff fun first second here there => ?_
  obtain ⟨member, stored, same⟩ := holdsKey_iff.mp here
  obtain ⟨other, also, equal⟩ := holdsKey_iff.mp there
  exact filed.keysApart role.index first second member other stored also (same.trans equal.symm)

theorem idSlotLinear_eq_some_iff (filed : table.register.Filed) :
    table.idSlotLinear id = some place ↔
      ∃ lane, table.register.aliases (place, lane) = some id := by
  rw [← holdsId_iff]
  refine scan_eq_some_iff fun first second here there => ?_
  obtain ⟨lane, named⟩ := holdsId_iff.mp here
  obtain ⟨other, also⟩ := holdsId_iff.mp there
  exact congrArg Prod.fst (filed.idsApart _ _ id named also)

theorem keyNode_eq_some {code : UInt16} :
    keyNode table.slots role key code = some place ↔
      ∃ inside : nodeSlot code < capacity, place = ⟨nodeSlot code, inside⟩ ∧
        nodeLane code = role.index ∧
        ∃ member, table.register.members (place, role.index) = some member ∧ member.key = key := by
  unfold keyNode
  split
  case isFalse outside => simp [outside]
  rename_i inside
  constructor
  · intro found
    split at found
    case isFalse => cases found
    rename_i holds
    cases found
    obtain ⟨lane, holds⟩ := holds
    rw [lane] at holds
    exact ⟨inside, rfl, lane, holdsKey_iff.mp holds⟩
  · rintro ⟨_, rfl, lane, found⟩
    have held : holdsKey table.slots[nodeSlot code] (nodeLane code) key := by
      rw [lane]
      exact holdsKey_iff.mpr found
    rw [if_pos ⟨lane, held⟩]

theorem keySlot_eq (sound : table.Sound) (role : Role) (key : RoleKey) :
    table.keySlot role key = some (table.keySlotLinear role key) := by
  unfold keySlot
  by_cases small : capacity ≤ maxIndexed
  case neg => rw [if_neg (mt indexed_iff.mp small)]
  rw [if_pos (indexed_iff.mpr small)]
  refine (sound.tied.keyIndex small).walk_eq _ (atCode_enough small _) _
    (fun code place visited => ?_) fun place found => ?_
  · obtain ⟨_, _, _, stored⟩ := keyNode_eq_some.mp visited
    exact (keySlotLinear_eq_some_iff sound.filed).mpr stored
  · -- The member's own node answers.
    obtain ⟨member, stored, same⟩ := (keySlotLinear_eq_some_iff sound.filed).mp found
    let node : Node capacity := (place, role.index)
    refine ⟨node.code, ?_, keyNode_eq_some.mpr ⟨code_inside small node,
      Fin.ext (nodeSlot_code small node).symm, nodeLane_code small node, member, stored, same⟩⟩
    rw [atCode_code small, Register.keys, stored, map_some, memberBucket, index_atLane, same]

theorem idNode_eq_some {code : UInt16} :
    idNode table.slots id code = some place ↔
      ∃ inside : nodeSlot code < capacity, place = ⟨nodeSlot code, inside⟩ ∧
        table.register.aliases (place, nodeLane code) = some id := by
  unfold idNode
  split
  case isFalse outside => simp [outside]
  rename_i inside
  constructor
  · intro found
    split at found
    case isFalse => cases found
    case isTrue holds =>
      cases found
      exact ⟨inside, rfl, holds⟩
  · rintro ⟨_, rfl, named⟩
    exact if_pos named

theorem idSlot_eq (sound : table.Sound) (id : ReservationId) :
    table.idSlot id = some (table.idSlotLinear id) := by
  unfold idSlot
  by_cases small : capacity ≤ maxIndexed
  case neg => rw [if_neg (mt indexed_iff.mp small)]
  rw [if_pos (indexed_iff.mpr small)]
  refine (sound.tied.idIndex small).walk_eq _ (atCode_enough small _) _
    (fun code place visited => ?_) fun place found => ?_
  · obtain ⟨_, _, named⟩ := idNode_eq_some.mp visited
    exact (idSlotLinear_eq_some_iff sound.filed).mpr ⟨_, named⟩
  · obtain ⟨lane, named⟩ := (idSlotLinear_eq_some_iff sound.filed).mp found
    let node : Node capacity := (place, lane)
    refine ⟨node.code, ?_, idNode_eq_some.mpr ⟨code_inside small node,
      Fin.ext (nodeSlot_code small node).symm, ?_⟩⟩
    · rw [atCode_code small, Register.ids, named]
      rfl
    · rw [nodeLane_code small]
      exact named

/-! ## One membership -/

/-- The register after the lanes of one place were replaced. -/
theorem register_setOperation (table : ReservationTable C capacity) (place : Fin capacity)
    (operation : Option (Operation C)) :
    (table.setOperation place operation).register = { table.register with
      members := replaceLanes place (fun lane => operation.bind fun operation =>
        getElem operation.roles lane lane.2) table.register.members
      aliases := replaceLanes place (fun lane => operation.bind fun operation =>
        getElem operation.aliases lane lane.2) table.register.aliases
      vacant := update table.vacancy place
        (if operation.isNone then some () else none) } := by
  unfold register vacancy TableSlot.member? TableSlot.alias? replaceLanes
  congr 1
  · funext node
    rw [setOperation_operation]
    split <;> rfl
  · funext node
    rw [setOperation_operation]
    split <;> rfl
  · funext other
    rw [setOperation_operation, update_apply]
    split <;> rfl

theorem replaceLanes_self {Stored : Type} {stored : Node capacity → Option Stored}
    {lanes : Fin roleCount → Option Stored} (same : ∀ lane, stored (place, lane) = lanes lane) :
    replaceLanes place lanes stored = stored := by
  funext ⟨there, lane⟩
  unfold replaceLanes
  split
  · rename_i here
    cases here
    exact (same lane).symm
  · rfl

theorem replaceLanes_update {Stored : Type} {stored : Node capacity → Option Stored}
    {lanes : Fin roleCount → Option Stored} {lane : Fin roleCount}
    (same : ∀ other ≠ lane, stored (place, other) = lanes other) :
    replaceLanes place lanes stored = update stored (place, lane) (lanes lane) := by
  funext ⟨there, other⟩
  unfold replaceLanes
  by_cases here : there = place
  · subst here
    rw [if_pos rfl]
    by_cases equal : other = lane
    · rw [equal, update_self]
    · rw [update_of_ne fun same => equal (Prod.mk.inj same).2, same other equal]
  · rw [if_neg here, update_of_ne fun same => here (Prod.mk.inj same).1]

/-- One role of an operation replaced. -/
theorem register_setRole (held : (getElem table.slots place place.2).operation = some operation)
    (lane : Fin roleCount) (member : Option (Membership C)) : (table.setOperation place
      (some { operation with roles := operation.roles.set lane member lane.2 })).register =
      { table.register with
        members := update table.register.members (place, lane) member } := by
  rw [register_setOperation]
  have vacant : update table.vacancy place none = table.vacancy := by
    rw [← vacancy_eq_none.mpr ⟨operation, held⟩, update_eq_self]
  have aliases : replaceLanes place (fun lane => operation.aliases[lane])
      table.register.aliases = table.register.aliases :=
    replaceLanes_self (aliases_eq held)
  have members : replaceLanes place
      (fun other => (operation.roles.set lane member)[other]) table.register.members =
      update table.register.members (place, lane) member := by
    have others : ∀ other ≠ lane, table.register.members (place, other) =
        (operation.roles.set lane member)[other] := by
      intro other apart
      rw [members_eq held]
      exact (Vector.getElem_set_ne _ _ fun same => apart (Fin.ext same.symm)).symm
    rw [replaceLanes_update others]
    simp
  simp only [bind_some, isNone_some, Bool.false_eq_true, ↓reduceIte, vacant, aliases, members]
  rfl

/-- The counters take no part in the links. -/
theorem linked_recount {keys ids : Node capacity → Option (Fin indexBuckets)}
    {free : Fin capacity → Option Unit} (linked : Linked table keys ids free)
    (next : UInt64) (live bytes : Nat) (populations : Vector Nat roleCount) :
    Linked { table with
      next := next, live := live, bytes := bytes, populations := populations } keys ids free :=
  { linked with }

theorem store_spec (tied : table.Tied) {head : ReservationId}
    (headed : table.register.aliases (place, 0) = some head)
    (free : table.register.members (place, role.index) = none) (member : Membership C) :
    ∃ after, table.store place role member = some (head, after) ∧ after.Tied ∧
      after.register = table.register.put (place, role.index) member := by
  obtain ⟨operation, held, named⟩ := operation_of_alias headed
  let middle : ReservationTable C capacity := { table.setOperation place
      (some { operation with roles := operation.roles.set role.index (some member) }) with
    populations := table.populations.set role.index (table.populations[role.index] + 1)
    bytes := table.bytes + member.bytes }
  have shape : middle.register = table.register.put (place, role.index) member := by
    have roles := register_setRole held role.index (some member)
    have counts := vector_set table.populations role.index (table.populations[role.index] + 1)
    exact congrArg₂ (fun register populations =>
      { register with bytes := table.bytes + member.bytes, populations := populations })
      roles counts
  have linked : Linked middle table.register.keys table.register.ids table.vacancy :=
    linked_recount (setOperation_linked tied place _) ..
  have absent : table.register.keys (place, role.index) = none := by
    rw [Register.keys, free]
    rfl
  obtain ⟨after, done, links, only⟩ := linkKey_spec linked rfl member.key absent
  have register := (relinked_register only).trans shape
  refine ⟨after, ?_, tied_of register ?_, register⟩
  · refine bind_done held ?_
    refine bind_done named ?_
    exact bind_done done rfl
  · rw [Register.keys_put]
    exact links

theorem checkedSub_of_le {whole part : Nat} (enough : part ≤ whole) :
    checkedSub whole part = some (whole - part) :=
  if_pos enough

/-- A membership that was unlinked and taken out, in either order, is uncounted. -/
theorem uncount_spec (filed : table.register.Filed)
    (stored : table.register.members (place, role.index) = some member)
    {bare : ReservationTable C capacity}
    (links : Linked bare (update table.register.keys (place, role.index) none)
      table.register.ids table.vacancy)
    (shape : bare.register = { table.register with
      members := update table.register.members (place, role.index) none }) :
    ∃ after, bare.uncount role member.bytes = some after ∧ after.Tied ∧
      after.register = table.register.take (place, role.index) member := by
  have bytes : bare.bytes = table.bytes := congrArg Register.bytes shape
  have population : bare.populations[role.index] = table.populations[role.index] :=
    congrFun (congrArg Register.populations shape) role.index
  let after : ReservationTable C capacity := { bare with
    bytes := bare.bytes - member.bytes
    populations := bare.populations.set role.index (bare.populations[role.index] - 1) }
  have register : after.register = table.register.take (place, role.index) member := by
    have counts := vector_set bare.populations role.index (bare.populations[role.index] - 1)
    have same := congrArg₂ (fun register populations =>
      { register with bytes := bare.bytes - member.bytes, populations := populations }) shape
      counts
    refine same.trans ?_
    have before : (fun lane : Fin roleCount => bare.populations[lane]) =
      table.register.populations := congrArg Register.populations shape
    rw [before, bytes, population]
    rfl
  refine ⟨after, ?_, tied_of register ?_, register⟩
  · have enough : member.bytes ≤ bare.bytes := bytes ▸ filed.bytes_le stored
    have counted : 1 ≤ bare.populations[role.index] := population ▸ filed.population_pos stored
    refine bind_done (checkedSub_of_le enough) ?_
    exact bind_done (checkedSub_of_le counted) rfl
  · rw [Register.keys_take]
    exact linked_recount links ..

theorem keys_stored (stored : table.register.members (place, role.index) = some member) :
    table.register.keys (place, role.index) = some (keyBucket role member.key) := by
  rw [Register.keys, stored, map_some, memberBucket, index_atLane]

/-- Unlink a membership, then take it out. -/
theorem takeRole_spec (sound : table.Sound)
    (stored : table.register.members (place, role.index) = some member) :
    ∃ middle, table.unlinkKey place role member.key = some middle ∧
      ∃ operation, (getElem middle.slots place place.2).operation = some operation ∧
        getElem operation.roles role.index role.index.2 = some member ∧
        ∃ after, (middle.takeRole place role operation).uncount role member.bytes = some after ∧
          after.Tied ∧ after.register = table.register.take (place, role.index) member := by
  obtain ⟨middle, done, links, only⟩ := unlinkKey_spec sound.tied rfl (keys_stored stored)
  obtain ⟨operation, held, roles⟩ := operation_of_member stored
  have here : middle.slots[place].operation = some operation :=
    (only.operation place).trans held
  refine ⟨middle, done, operation, here, roles, ?_⟩
  refine uncount_spec sound.filed stored (setOperation_linked links place _) ?_
  rw [takeRole, register_setRole here, relinked_register only]

/-- Take a membership out, then unlink it. -/
theorem dropRoleAt_stored (sound : table.Sound)
    (stored : table.register.members (place, role.index) = some member) :
    ∃ after, dropRoleAt role table place = some after ∧ after.Tied ∧
      after.register = table.register.take (place, role.index) member := by
  obtain ⟨operation, held, roles⟩ := operation_of_member stored
  have links := setOperation_linked sound.tied place
    (some { operation with roles := operation.roles.set role.index none })
  obtain ⟨middle, done, unlinked, only⟩ := unlinkKey_spec links rfl (keys_stored stored)
  have shape : middle.register = { table.register with
      members := update table.register.members (place, role.index) none } := by
    rw [relinked_register only, register_setRole held]
  obtain ⟨after, counted, result⟩ := uncount_spec sound.filed stored unlinked shape
  refine ⟨after, ?_, result⟩
  rw [dropRoleAt, held]
  dsimp only
  rw [roles]
  change ((table.takeRole place role operation).unlinkKey place role member.key).bind _ = _
  rw [show (table.takeRole place role operation).unlinkKey place role member.key = some middle
    from done]
  exact counted

theorem dropRoleAt_absent (absent : table.register.members (place, role.index) = none) :
    dropRoleAt role table place = some table := by
  unfold dropRoleAt
  cases held : table.slots[place].operation with
  | none => rfl
  | some operation =>
    dsimp only
    rw [(members_eq held role.index).symm.trans absent]

/-! ## One operation -/

theorem roles_all_none (roles : Vector (Option (Membership C)) roleCount) :
    roles.all Option.isNone ↔ ∀ lane : Fin roleCount, (getElem roles lane lane.2).isNone := by
  rw [Vector.all_eq_true]
  exact ⟨fun each lane => each lane.val lane.isLt, fun each lane inside => each ⟨lane, inside⟩⟩

theorem ids_lanes (held : (getElem table.slots place place.2).operation = some operation)
    (lane : Fin roleCount) :
    table.register.ids (place, lane) = (getElem operation.aliases lane lane.2).map idBucket := by
  rw [Register.ids, aliases_eq held]

theorem map_replaceLanes {Value Stored : Type} (lanes : Fin roleCount → Option Value)
    (stored : Node capacity → Option Value) (bucket : Value → Stored) :
    (fun node => (replaceLanes place lanes stored node).map bucket) =
      replaceLanes place (fun lane => (lanes lane).map bucket)
        fun node => (stored node).map bucket := by
  funext node
  unfold replaceLanes
  split <;> rfl

theorem vacate_spec (sound : table.Sound) (place : Fin capacity) :
    ∃ after, table.vacate place = some after ∧ after.Tied ∧
      after.register = table.register.tidy place := by
  unfold vacate
  cases held : table.slots[place].operation with
  | none =>
    refine ⟨table, rfl, sound.tied, ?_⟩
    rw [Register.tidy, if_neg]
    rintro ⟨occupied, _⟩
    obtain ⟨operation, present⟩ := vacancy_eq_none.mp occupied
    rw [held] at present
    cases present
  | some operation =>
    have occupied := vacancy_eq_none.mpr ⟨operation, held⟩
    by_cases bare : operation.roles.all Option.isNone
    case neg =>
      refine ⟨table, if_neg bare, sound.tied, ?_⟩
      rw [Register.tidy, if_neg]
      rintro ⟨_, unused⟩
      refine bare ((roles_all_none _).mpr fun lane => ?_)
      rw [← members_eq held]
      exact unused lane
    case pos =>
      have unused : ∀ lane, table.register.members (place, lane) = none := fun lane => by
        rw [members_eq held]
        exact isNone_iff_eq_none.mp ((roles_all_none _).mp bare lane)
      let emptied : ReservationTable C capacity :=
        { table.setOperation place none with live := table.live - 1 }
      have links : Linked emptied table.register.keys table.register.ids table.vacancy :=
        linked_recount (setOperation_linked sound.tied place _) ..
      obtain ⟨middle, done, unlinked, only⟩ := unlinkAliases_spec links (ids_lanes held)
      obtain ⟨pushed, freed⟩ := pushFree_spec unlinked occupied
      have shape : emptied.register = table.register.close place := by
        have contents := register_setOperation table place none
        have same := congrArg (fun register : Register C capacity =>
          { register with live := table.live - 1 }) contents
        refine same.trans ?_
        simp only [bind_none, replaceLanes_self unused]
        rfl
      have register : (middle.pushFree place).register = table.register.close place := by
        rw [relinked_register freed, relinked_register only, shape]
      refine ⟨middle.pushFree place, ?_, tied_of register ?_, ?_⟩
      · have counted : 1 ≤ table.live := sound.filed.live_pos occupied
        change (if operation.roles.all Option.isNone then _ else _) = _
        rw [if_pos bare]
        refine bind_done (checkedSub_of_le counted) ?_
        exact bind_done done rfl
      · have ids : (table.register.close place).ids =
            replaceLanes place (fun _ => none) table.register.ids :=
          map_replaceLanes (fun _ => none) table.register.aliases idBucket
        rw [ids]
        exact pushed
      · rw [register, Register.tidy, if_pos]
        exact ⟨occupied, fun lane => isNone_iff_eq_none.mpr (unused lane)⟩

theorem exists_vacant (filed : table.register.Filed) (room : table.live < capacity) :
    ∃ place : Fin capacity, (getElem table.slots place place.2).operation = none := by
  by_contra full
  have everywhere : Register.occupied table.vacancy = Finset.univ := by
    refine Finset.eq_univ_of_forall fun place => Register.mem_occupied.mpr ?_
    refine vacancy_eq_none.mpr (ne_none_iff_exists'.mp fun empty => ?_)
    exact full ⟨place, empty⟩
  have count : table.live = _ := filed.live
  rw [show table.register.vacant = table.vacancy from rfl, everywhere, Finset.card_fin] at count
  omega

theorem mint_spec (sound : table.Sound) (room : table.live < capacity) :
    ∃ after place, table.mint = some (after, place) ∧ table.vacancy place = some () ∧
      after.Tied ∧ after.register = table.register.occupy place := by
  obtain ⟨popped, place, taken, empty, links, only⟩ :=
    takeVacant_spec sound.tied (exists_vacant sound.filed room)
  have vacant := vacancy_eq_some.mpr empty
  let id : ReservationId := ⟨table.next + 1⟩
  let operation : Operation C :=
    { aliases := (Vector.replicate roleCount none).set 0 (some id)
      roles := Vector.replicate roleCount none }
  let opened : ReservationTable C capacity :=
    { popped.setOperation place (some operation) with
      next := id.value, live := popped.live + 1 }
  have bare := sound.filed.empty place vacant
  have shape : opened.register = table.register.occupy place := by
    have contents := register_setOperation popped place (some operation)
    rw [relinked_register only, show popped.vacancy = table.vacancy from
      congrArg Register.vacant (relinked_register only)] at contents
    have same := congrArg (fun register : Register C capacity =>
      { register with next := id.value, live := popped.live + 1 }) contents
    refine same.trans ?_
    have members : replaceLanes place (fun lane => operation.roles[lane])
        table.register.members = table.register.members :=
      replaceLanes_self fun lane => by
        rw [(bare lane).1]
        simp [operation]
    have aliases : replaceLanes place (fun lane => operation.aliases[lane])
        table.register.aliases =
        update table.register.aliases (place, 0) (some id) := by
      refine replaceLanes_update fun lane apart => ?_
      fin_cases lane <;> simp [operation, (bare _).2] at apart ⊢
    simp only [bind_some, isNone_some, Bool.false_eq_true, ↓reduceIte, members, aliases, only.live]
    rfl
  have linked : Linked opened table.register.keys table.register.ids
      (update table.vacancy place none) :=
    linked_recount (setOperation_linked links place _) ..
  have unnamed : table.register.ids (place, 0) = none := by
    rw [Register.ids, (bare 0).2]
    rfl
  obtain ⟨after, done, named, relinked⟩ := linkId_spec linked id unnamed
  have register := (relinked_register relinked).trans shape
  refine ⟨after, place, ?_, vacant, tied_of register ?_, register⟩
  · refine bind_done taken ?_
    exact bind_done done rfl
  · have ids : (table.register.occupy place).ids =
        update table.register.ids (place, 0) (some (idBucket id)) :=
      Register.map_update _ _ _ fun _ => idBucket
    rw [ids]
    exact named

end ReservationTable

end P11Scope.Journal
