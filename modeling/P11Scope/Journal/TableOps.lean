import P11Scope.Journal.TableMerge

/-!
# The five operations on a sound table

Each operation either refuses and leaves the table alone, or changes the
register by the steps stated here.
-/

variable {existing : Option ReservationId}

namespace P11Scope.Journal

open Lib Function Option

variable {C : Type} {capacity : Nat}

namespace ReservationTable

variable {table after : ReservationTable C capacity} {place : Fin capacity} {role : Role}
variable {key : RoleKey} {id : ReservationId}

/-! ## Lookups on the register -/

section

variable (sound : table.Sound)
include sound

theorem keySlot_some (found : table.keySlot role key = some (some place)) :
    ∃ member, table.register.members (place, role.index) = some member ∧ member.key = key := by
  rw [keySlot_eq sound] at found
  exact (keySlotLinear_eq_some_iff sound.filed).mp (Option.some.inj found)

theorem keySlot_none (found : table.keySlot role key = some none) :
    ∀ place, ∀ member ∈ table.register.members (place, role.index), member.key ≠ key := by
  intro place member stored same
  rw [keySlot_eq sound] at found
  have present := (keySlotLinear_eq_some_iff sound.filed).mpr ⟨member, stored, same⟩
  rw [Option.some.inj found] at present
  cases present

theorem keySlot_cases (role : Role) (key : RoleKey) : (table.keySlot role key = some none) ∨
      ∃ place, table.keySlot role key = some (some place) := by
  rw [keySlot_eq sound]
  cases table.keySlotLinear role key with
  | none => exact .inl rfl
  | some place => exact .inr ⟨place, rfl⟩

theorem idSlot_some (found : table.idSlot id = some (some place)) :
    ∃ lane, table.register.aliases (place, lane) = some id := by
  rw [idSlot_eq sound] at found
  exact (idSlotLinear_eq_some_iff sound.filed).mp (Option.some.inj found)

theorem idSlot_cases (id : ReservationId) :
    (table.idSlot id = some none) ∨ ∃ place, table.idSlot id = some (some place) := by
  rw [idSlot_eq sound]
  cases table.idSlotLinear id with
  | none => exact .inl rfl
  | some place => exact .inr ⟨place, rfl⟩

/-- The operation and first alias of a place that holds an alias. -/
theorem headed_operation {lane : Fin roleCount}
    (named : table.register.aliases (place, lane) = some id) :
    ∃ operation head, (getElem table.slots place place.2).operation = some operation ∧
      operation.aliases[(0 : Fin roleCount)] = some head ∧
      table.register.aliases (place, 0) = some head := by
  obtain ⟨operation, held, _⟩ := operation_of_alias named
  obtain ⟨head, first⟩ := isSome_iff_exists.mp
    (sound.filed.headed place (vacancy_eq_none.mpr ⟨operation, held⟩))
  exact ⟨operation, head, held, (aliases_eq held 0).symm.trans first, first⟩

end

/-! ## Insert -/

/-- Where an admitted membership goes. -/
inductive Admission (register : Register C capacity) (role : Role) (key : RoleKey) :
    Option ReservationId → Prop where
  | joins (id : ReservationId) (place : Fin capacity) (lane : Fin roleCount)
      (named : register.aliases (place, lane) = some id)
      (free : register.members (place, role.index) = none) : Admission register role key (some id)
  | fresh (room : register.live < capacity) (unspent : register.next ≠ UInt64.ofNat u64Max) :
      Admission register role key none

theorem preflight_spec (sound : table.Sound) (role : Role) (key : RoleKey)
    (existing : Option ReservationId) (bytes : Nat) :
    ∃ result, table.preflight role key existing bytes = some result ∧
      (result = .ok () → table.keySlot role key = some none ∧ table.bytes + bytes ≤ u64Max ∧
        Admission table.register role key existing) := by
  unfold preflight
  rcases keySlot_cases sound role key with missing | ⟨place, found⟩
  case inr =>
    rw [found]
    exact ⟨.error .replay, rfl, nofun⟩
  rw [missing]
  by_cases overflow : table.bytes + bytes > u64Max
  case pos => exact ⟨.error .full, if_pos overflow, nofun⟩
  have fits := Nat.le_of_not_lt overflow
  cases existing with
  | none =>
    by_cases full : table.live ≥ capacity ∨ table.next = UInt64.ofNat u64Max
    · exact ⟨.error .full, (if_neg overflow).trans (if_pos full), nofun⟩
    · obtain ⟨room, unspent⟩ := not_or.mp full
      exact ⟨.ok (), (if_neg overflow).trans (if_neg full),
        fun _ => ⟨rfl, fits, .fresh (Nat.lt_of_not_le room) unspent⟩⟩
  | some id =>
    rcases idSlot_cases sound id with absent | ⟨place, found⟩
    · refine ⟨.error .foreign, (if_neg overflow).trans ?_, nofun⟩
      exact bind_done absent rfl
    obtain ⟨lane, named⟩ := idSlot_some sound found
    obtain ⟨operation, held, _⟩ := operation_of_alias named
    by_cases taken : operation.roles[role.index].isSome
    · refine ⟨.error .replay, (if_neg overflow).trans ?_, nofun⟩
      refine bind_done found ?_
      refine bind_done held ?_
      exact if_pos taken
    refine ⟨.ok (), (if_neg overflow).trans ?_, fun _ => ⟨rfl, fits, ?_⟩⟩
    · refine bind_done found ?_
      refine bind_done held ?_
      exact if_neg taken
    · refine .joins id place lane named ((members_eq held _).trans ?_)
      exact not_isSome_iff_eq_none.mp taken

/-- What an admitted insertion does to the register. -/
inductive Inserted (before : Register C capacity) (role : Role) (member : Membership C) :
    Option ReservationId → ReservationId → Register C capacity → Prop where
  | joined (id head : ReservationId) (place : Fin capacity) (lane : Fin roleCount)
      (named : before.aliases (place, lane) = some id)
      (headed : before.aliases (place, 0) = some head)
      (free : before.members (place, role.index) = none) :
      Inserted before role member (some id) head (before.put (place, role.index) member)
  | fresh (place : Fin capacity) (vacant : before.vacant place = some ())
      (unspent : before.next ≠ UInt64.ofNat u64Max) :
      Inserted before role member none ⟨before.next + 1⟩
        ((before.occupy place).put (place, role.index) member)

theorem insert_admitted (sound : table.Sound) {bytes : Nat}
    (admitted : table.preflight role key existing bytes = some (.ok ())) (charge : C) :
    ∃ head after, table.insert role key existing bytes charge = some (.ok head, after) ∧
      after.Sound ∧
      Inserted table.register role { key := key, bytes := bytes, charge := charge } existing head
        after.register := by
  let member : Membership C := { key := key, bytes := bytes, charge := charge }
  obtain ⟨result, checked, outcome⟩ := preflight_spec sound role key existing bytes
  rw [admitted] at checked
  cases checked
  obtain ⟨missing, _, admission⟩ := outcome rfl
  have unused := keySlot_none sound missing
  cases admission with
  | joins id place lane named free =>
    obtain ⟨operation, head, held, first, headed⟩ := headed_operation sound named
    have occupied : table.register.vacant place = none := vacancy_eq_none.mpr ⟨operation, held⟩
    obtain ⟨after, stored, tied, register⟩ := store_spec sound.tied headed free member
    have found : table.idSlot id = some (some place) := by
      rw [idSlot_eq sound, (idSlotLinear_eq_some_iff sound.filed).mpr ⟨lane, named⟩]
    refine ⟨head, after, ?_, tied.sound register (sound.filed.put occupied free unused), ?_⟩
    · refine bind_done admitted ?_
      refine bind_done (bind_done found rfl) ?_
      exact bind_done stored rfl
    · rw [register]
      exact .joined id head place lane named headed free
  | fresh room unspent =>
    obtain ⟨opened, place, minted, vacant, tied, shape⟩ := mint_spec sound room
    have filed : opened.register.Filed := by
      rw [shape]
      exact sound.filed.occupy unspent vacant
    have headed : opened.register.aliases (place, 0) = some ⟨table.next + 1⟩ := by
      rw [shape]
      exact update_self ..
    have members : opened.register.members = table.register.members := by
      rw [shape]
      rfl
    have free : opened.register.members (place, role.index) = none := by
      rw [members]
      exact (sound.filed.empty place vacant role.index).1
    obtain ⟨after, stored, tied, register⟩ := store_spec tied headed free member
    refine ⟨⟨table.next + 1⟩, after, ?_, ⟨tied, ?_⟩, ?_⟩
    · refine bind_done admitted ?_
      refine bind_done minted ?_
      exact bind_done stored rfl
    · rw [register]
      refine filed.put ?_ free ?_
      · rw [shape]
        exact update_self ..
      · rw [members]
        exact unused
    · rw [register, shape]
      exact .fresh place vacant unspent

/-! ## Release -/

theorem release_absent (missing : table.keySlot role key = some none) :
    table.release role key = some (none, table) := by
  rw [release, missing]
  rfl

theorem release_spec (sound : table.Sound) {member : Membership C}
    (stored : table.register.members (place, role.index) = some member)
    (same : member.key = key) :
    ∃ after, table.release role key = some (some (member.bytes, member.charge), after) ∧
      after.Sound ∧
      after.register = (table.register.take (place, role.index) member).tidy place := by
  have found : table.keySlot role key = some (some place) := by
    rw [keySlot_eq sound, (keySlotLinear_eq_some_iff sound.filed).mpr ⟨member, stored, same⟩]
  subst same
  obtain ⟨middle, unlinked, operation, held, roles, bare, counted, tied, shape⟩ :=
    takeRole_spec sound stored
  have bared := tied.sound shape (sound.filed.take stored)
  obtain ⟨after, vacated, tied, register⟩ := vacate_spec bared place
  refine ⟨after, ?_, tied.sound register (bared.filed.tidy place), ?_⟩
  · refine bind_done found ?_
    refine bind_done unlinked ?_
    refine bind_done held ?_
    refine bind_done roles ?_
    refine bind_done counted ?_
    exact bind_done vacated rfl
  · rw [register, shape]

/-- What dropping a role does at one place. -/
inductive Dropped (before : Register C capacity) (role : Role) (place : Fin capacity) :
    Register C capacity → Prop where
  | absent (none : before.members (place, role.index) = none) :
      Dropped before role place (before.tidy place)
  | taken (member : Membership C)
      (stored : before.members (place, role.index) = some member) :
      Dropped before role place ((before.take (place, role.index) member).tidy place)

theorem releaseRoleAt_spec (sound : table.Sound) (role : Role) (place : Fin capacity) :
    ∃ after, releaseRoleAt role table place = some after ∧ after.Sound ∧
      Dropped table.register role place after.register := by
  have tidied {middle : ReservationTable C capacity} (sound : middle.Sound)
      (dropped : dropRoleAt role table place = some middle)
      (stated : Dropped table.register role place (middle.register.tidy place)) :
      ∃ after, releaseRoleAt role table place = some after ∧ after.Sound ∧
        Dropped table.register role place after.register := by
    obtain ⟨after, vacated, tied, register⟩ := vacate_spec sound place
    refine ⟨after, ?_, tied.sound register (sound.filed.tidy place), ?_⟩
    · rw [releaseRoleAt, dropped]
      exact vacated
    · rw [register]
      exact stated
  cases stored : table.register.members (place, role.index) with
  | none => exact tidied sound (dropRoleAt_absent stored) (.absent stored)
  | some member =>
    obtain ⟨middle, dropped, tied, shape⟩ := dropRoleAt_stored sound stored
    refine tidied (tied.sound shape (sound.filed.take stored)) dropped ?_
    rw [shape]
    exact .taken member stored

theorem Dropped.members {before after : Register C capacity}
    (dropped : Dropped before role place after) (node : Node capacity) :
    after.members node = if node = (place, role.index) then none else before.members node := by
  cases dropped with
  | absent absent =>
    rw [Register.tidy_members]
    split
    · rename_i same
      rw [same, absent]
    · rfl
  | taken member stored =>
    rw [Register.tidy_members, Register.take_members, update_apply]

theorem releaseRole_members (role : Role) (places : List (Fin capacity)) (sound : table.Sound) :
    ∃ after, places.foldlM (releaseRoleAt role) table = some after ∧ after.Sound ∧
      ∀ node, after.register.members node =
        if node.1 ∈ places ∧ node.2 = role.index then none else table.register.members node := by
  induction places generalizing table with
  | nil => exact ⟨table, rfl, sound, fun node => by simp⟩
  | cons place rest ih =>
    obtain ⟨middle, done, soundMiddle, dropped⟩ := releaseRoleAt_spec sound role place
    obtain ⟨after, later, soundAfter, members⟩ := ih soundMiddle
    refine ⟨after, ?_, soundAfter, fun node => ?_⟩
    · rw [List.foldlM_cons, done]
      exact later
    · rw [members, dropped.members]
      obtain ⟨there, lane⟩ := node
      by_cases inRest : there ∈ rest <;> by_cases here : there = place <;>
        by_cases same : lane = role.index <;> simp [inRest, here, same]

theorem releaseRole_spec (sound : table.Sound) (role : Role) :
    ∃ after, table.releaseRole role = some after ∧ after.Sound ∧
      ∀ node, after.register.members node =
        if node.2 = role.index then none else table.register.members node := by
  obtain ⟨after, done, soundAfter, members⟩ :=
    releaseRole_members role (List.finRange capacity) sound
  refine ⟨after, done, soundAfter, fun node => ?_⟩
  rw [members]
  simp [List.mem_finRange]

/-! ## Merge -/

/-- What a merge does to the register. -/
inductive Merged (before : Register C capacity) (left right : ReservationId) :
    Except Refusal ReservationId → Register C capacity → Prop where
  | refused (refusal : Refusal) : Merged before left right (.error refusal) before
  | same (head : ReservationId) (place : Fin capacity) (leftLane rightLane : Fin roleCount)
      (leftNamed : before.aliases (place, leftLane) = some left)
      (rightNamed : before.aliases (place, rightLane) = some right) :
      Merged before left right (.ok head) before
  | joined (head : ReservationId) (leftPlace rightPlace : Fin capacity)
      (leftLane rightLane : Fin roleCount) (lanes : Fin roleCount → Option ReservationId)
      (distinct : leftPlace ≠ rightPlace)
      (leftNamed : before.aliases (leftPlace, leftLane) = some left)
      (rightNamed : before.aliases (rightPlace, rightLane) = some right)
      (clear : ∀ lane, (before.members (rightPlace, lane)).isSome →
        before.members (leftPlace, lane) = none)
      (gathered : Register.Filed.Gathered before leftPlace rightPlace lanes) :
      Merged before left right (.ok head) (before.join leftPlace rightPlace lanes)

theorem merge_spec (sound : table.Sound) (left right : ReservationId) :
    ∃ answer after, table.merge left right = some (answer, after) ∧ after.Sound ∧
      Merged table.register left right answer after.register ∧
      (∀ refusal, answer = .error refusal → after = table) := by
  unfold merge
  rcases idSlot_cases sound left with absent | ⟨leftPlace, leftFound⟩
  case inl =>
    rw [absent]
    exact ⟨.error .foreign, table, rfl, sound, .refused .foreign, fun _ _ => rfl⟩
  rcases idSlot_cases sound right with absent | ⟨rightPlace, rightFound⟩
  case inl =>
    rw [leftFound, absent]
    exact ⟨.error .foreign, table, rfl, sound, .refused .foreign, fun _ _ => rfl⟩
  obtain ⟨leftLane, leftNamed⟩ := idSlot_some sound leftFound
  obtain ⟨rightLane, rightNamed⟩ := idSlot_some sound rightFound
  obtain ⟨leftOperation, head, leftHeld, first, _⟩ := headed_operation sound leftNamed
  obtain ⟨rightOperation, rightHeld, _⟩ := operation_of_alias rightNamed
  rw [leftFound, rightFound]
  change ∃ answer after, (table.slots[leftPlace].operation).bind _ = _ ∧ _
  rw [leftHeld, bind_some]
  by_cases same : leftPlace = rightPlace
  case pos =>
    subst same
    refine ⟨.ok head, table, ?_, sound, .same head leftPlace leftLane rightLane leftNamed
      rightNamed, fun _ refused => by cases refused⟩
    rw [if_pos rfl]
    exact bind_done first rfl
  rw [if_neg same, rightHeld]
  simp only [bind_eq_bind, bind_some]
  split
  case isTrue => exact ⟨.error .replay, table, rfl, sound, .refused .replay, fun _ _ => rfl⟩
  rename_i free
  split
  case isTrue => exact ⟨.error .full, table, rfl, sound, .refused .full, fun _ _ => rfl⟩
  rename_i fits
  have clear : ∀ lane, (table.register.members (rightPlace, lane)).isSome →
      table.register.members (leftPlace, lane) = none := by
    intro lane moved
    rw [members_eq rightHeld] at moved
    rw [members_eq leftHeld]
    by_contra taken
    refine free (List.any_eq_true.mpr ⟨lane, List.mem_finRange lane, ?_⟩)
    rw [moved, Bool.and_true]
    exact isSome_iff_ne_none.mpr taken
  obtain ⟨head, after, lanes, merged, _, gathered, tied, register⟩ :=
    mergeInto_spec same leftHeld rightHeld clear sound (Nat.le_of_not_lt fits)
  have filed := sound.filed.join (vacancy_eq_none.mpr ⟨_, leftHeld⟩)
    (vacancy_eq_none.mpr ⟨_, rightHeld⟩) clear gathered
  refine ⟨.ok head, after, ?_, tied.sound register filed, ?_, fun _ refused => by cases refused⟩
  · rw [merged]
    rfl
  · rw [register]
    exact .joined head leftPlace rightPlace leftLane rightLane lanes same leftNamed
      rightNamed clear gathered

/-! ## Transfer -/

/-- What a transfer does to the register. -/
inductive Moved (before : Register C capacity) (source : Role) (sourceKey : RoleKey)
    (target : Role) (member : Membership C) :
    Except Refusal (ReservationId × Nat × C) → Register C capacity → Prop where
  | refused (refusal : Refusal) :
      Moved before source sourceKey target member (.error refusal) before
  | moved (head : ReservationId) (place : Fin capacity) (old : Membership C)
      (stored : before.members (place, source.index) = some old) (same : old.key = sourceKey)
      (apart : source ≠ target) (free : before.members (place, target.index) = none)
      (unused : ∀ other, ∀ present ∈ before.members (other, target.index),
        present.key ≠ member.key) :
      Moved before source sourceKey target member (.ok (head, old.bytes, old.charge))
        ((before.take (place, source.index) old).put (place, target.index) member)

theorem index_injective {first second : Role} (apart : first ≠ second) :
    first.index ≠ second.index := by
  intro same
  apply apart
  rw [← index_atLane first, same, index_atLane]

theorem setOperation_twice (table : ReservationTable C capacity) (place : Fin capacity)
    (first second : Option (Operation C)) :
    (table.setOperation place first).setOperation place second =
      table.setOperation place second := by
  simp [setOperation]

/-- The contents once a role moved within its operation. -/
theorem register_moveRole {operation : Operation C}
    (held : (getElem table.slots place place.2).operation = some operation)
    (source target : Fin roleCount) (member : Membership C) :
    (table.setOperation place (some { operation with
      roles := (operation.roles.set source none source.2).set target (some member)
        target.2 })).register =
      { table.register with
        members := update (update table.register.members (place, source) none)
          (place, target) (some member) } := by
  have taken := register_setRole held source none
  have here : (table.setOperation place (some { operation with
      roles := operation.roles.set source none })).slots[place].operation =
      some { operation with roles := operation.roles.set source none } := by
    rw [setOperation_operation, if_pos rfl]
  have placed := register_setRole here target (some member)
  rw [setOperation_twice, taken] at placed
  exact placed

/-- The table while a transfer has moved a membership but not its links. -/
def shifted (table : ReservationTable C capacity) (place : Fin capacity) (operation : Operation C)
    (source target : Role) (old member : Membership C) : ReservationTable C capacity :=
  let populations :=
    table.populations.set source.index
      (getElem table.populations source.index source.index_lt - 1) source.index_lt
  { table.setOperation place (some { operation with
      roles := (operation.roles.set source.index none source.index_lt).set target.index
        (some member) target.index_lt }) with
    populations := populations.set target.index
      (getElem populations target.index target.index_lt + 1) target.index_lt
    bytes := table.bytes - old.bytes + member.bytes }

variable {operation : Operation C} {source target : Role} {old : Membership C}

theorem register_shifted (held : (getElem table.slots place place.2).operation = some operation)
    (member : Membership C) :
    (table.shifted place operation source target old member).register =
      (table.register.take (place, source.index) old).put (place, target.index) member := by
  have moved := register_moveRole held source.index target.index member
  let drained := table.populations.set source.index (table.populations[source.index] - 1)
  have counts : (fun lane : Fin roleCount =>
      (drained.set target.index (drained[target.index] + 1))[lane]) =
      (((table.register.take (place, source.index) old).put
        (place, target.index) member).populations) := by
    rw [vector_set, vector_set]
    have there := congrFun (vector_set table.populations source.index
      (table.populations[source.index] - 1)) target.index
    exact congrArg (fun count => update _ target.index (count + 1)) there
  exact congrArg₂ (fun register populations =>
    { register with
      bytes := table.bytes - old.bytes + member.bytes, populations := populations }) moved counts

theorem shifted_relinked (sound : table.Sound)
    (held : (getElem table.slots place place.2).operation = some operation)
    (apart : source ≠ target)
    (stored : table.register.members (place, source.index) = some old)
    (free : table.register.members (place, target.index) = none) (member : Membership C) :
    ∃ bare after,
      (table.shifted place operation source target old member).unlinkKey place source old.key =
        some bare ∧
      bare.linkKey place target member.key = some after ∧ after.Tied ∧
      after.register =
        (table.register.take (place, source.index) old).put (place, target.index) member := by
  have links : Linked (table.shifted place operation source target old member)
      table.register.keys table.register.ids table.vacancy :=
    linked_recount (setOperation_linked sound.tied place _) ..
  obtain ⟨bare, unlinked, links, only⟩ := unlinkKey_spec links rfl (keys_stored stored)
  have vacant : update table.register.keys (place, source.index) none
      (place, target.index) = none := by
    rw [update_of_ne fun same => index_injective apart (Prod.mk.inj same).2.symm,
      Register.keys, free]
    rfl
  obtain ⟨after, linked, links, also⟩ := linkKey_spec links rfl member.key vacant
  have register : after.register =
      (table.register.take (place, source.index) old).put (place, target.index) member := by
    rw [relinked_register also, relinked_register only, register_shifted held]
  refine ⟨bare, after, unlinked, linked, tied_of register ?_, register⟩
  rw [Register.keys_put, Register.keys_take]
  exact links

theorem transfer_spec (sound : table.Sound) (source : Role) (sourceKey : RoleKey)
    (target : Role) (targetKey : RoleKey) (bytes : Nat) (charge : C) :
    ∃ answer after,
      table.transfer source sourceKey target targetKey bytes charge = some (answer, after) ∧
      after.Sound ∧
      Moved table.register source sourceKey target
        { key := targetKey, bytes := bytes, charge := charge } answer after.register ∧
      (∀ refusal, answer = .error refusal → after = table) := by
  let member : Membership C := { key := targetKey, bytes := bytes, charge := charge }
  unfold transfer
  rcases keySlot_cases sound source sourceKey with missing | ⟨place, found⟩
  case inl =>
    rw [missing]
    exact ⟨.error .foreign, table, rfl, sound, .refused .foreign, fun _ _ => rfl⟩
  obtain ⟨old, stored, same⟩ := keySlot_some sound found
  obtain ⟨operation, held, roles⟩ := operation_of_member stored
  rw [found]
  simp only [bind_eq_bind, bind_some, held]
  by_cases equal : source = target
  case pos =>
    rw [if_pos equal]
    exact ⟨.error .replay, table, rfl, sound, .refused .replay, fun _ _ => rfl⟩
  rw [if_neg equal]
  rcases keySlot_cases sound target targetKey with missing | ⟨other, present⟩
  case inr =>
    rw [present]
    exact ⟨.error .replay, table, rfl, sound, .refused .replay, fun _ _ => rfl⟩
  rw [missing]
  simp only [bind_some, isSome_none, Bool.false_or]
  split
  case isTrue => exact ⟨.error .replay, table, rfl, sound, .refused .replay, fun _ _ => rfl⟩
  rename_i untaken
  have free : table.register.members (place, target.index) = none :=
    (members_eq held _).trans (not_isSome_iff_eq_none.mp untaken)
  rw [roles]
  simp only [bind_some]
  split
  case isTrue => exact ⟨.error .full, table, rfl, sound, .refused .full, fun _ _ => rfl⟩
  have occupied : table.register.vacant place = none := vacancy_eq_none.mpr ⟨_, held⟩
  obtain ⟨head, named⟩ := isSome_iff_exists.mp (sound.filed.headed place occupied)
  have first : operation.aliases[(0 : Fin roleCount)] = some head :=
    (aliases_eq held 0).symm.trans named
  have counted : 1 ≤ table.populations[source.index] := sound.filed.population_pos stored
  obtain ⟨bare, after, unlinked, linked, tied, register⟩ :=
    shifted_relinked sound held equal stored free member
  have lanes : (place, target.index) ≠ (place, source.index) := fun same =>
    index_injective equal (Prod.mk.inj same).2.symm
  have unused : ∀ place, ∀ present ∈ table.register.members (place, target.index),
    present.key ≠ targetKey := keySlot_none sound missing
  refine ⟨.ok (head, old.bytes, old.charge), after, ?_, ⟨tied, ?_⟩, ?_, nofun⟩
  · refine bind_done (checkedSub_of_le counted) ?_
    refine bind_done first ?_
    rw [← same]
    refine bind_done unlinked ?_
    exact bind_done linked rfl
  · rw [register]
    refine (sound.filed.take stored).put occupied ?_ fun other present => ?_
    · rw [Register.take_members, update_of_ne lanes, free]
    · rw [Register.take_members, update_of_ne fun same =>
        index_injective equal (Prod.mk.inj same).2.symm]
      exact unused other present
  · rw [register]
    exact .moved head place old stored same equal free unused

end ReservationTable

end P11Scope.Journal
