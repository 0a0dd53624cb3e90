import P11Scope.Edge.Actions
import P11Scope.Journal.Refinement
import P11Scope.Journal.Ledger

/-!
# Conservation of the staging ledger

The pool bytes a ledger holds are its table's prepaid storage plus one padded
lease per present membership, whatever is charged, refused or released.
-/

namespace P11Scope.Journal

open Edge Lib Function Option Finset

/-- The memberships of a ledger, if it has a table yet. -/
def StagingLedger.members (ledger : StagingLedger) (node : Node maxUnsettledStaged) :
    Option (Membership Nat) :=
  ledger.table.bind fun table => table.register.members node

theorem StagingLedger.members_eq {ledger : StagingLedger}
    {table : ReservationTable Nat maxUnsettledStaged} (present : ledger.table = some table) :
    ledger.members = table.register.members := by
  funext node
  rw [members, present]
  rfl

/-- What a ledger's leases amount to. -/
def StagingLedger.held (ledger : StagingLedger) : Nat :=
  ledger.tableStorage.getD 0 +
    Register.total (fun _ member => Desk.leaseBytes member.bytes) ledger.members

namespace Desk

variable {slotBytes others : Nat} {desk after : Desk} {role : Role} {key : RoleKey}

/-- Bytes of the table's one allocation. -/
def storage (slotBytes : Nat) : Nat := maxUnsettledStaged * slotBytes + ownedAllocationPadding

/-- The table is sound and paid for, every lease is its membership's, and the
pool's charge is what this ledger holds besides everyone else's. -/
structure Backed (slotBytes others : Nat) (desk : Desk) : Prop where
  unpaid : desk.ledger.table = none → desk.ledger.tableStorage = none
  paid : ∀ table, desk.ledger.table = some table →
    desk.ledger.tableStorage = some (storage slotBytes) ∧ table.Sound
  leased : ∀ node member, desk.ledger.members node = some member →
    member.charge = leaseBytes member.bytes
  charged : desk.pool.charged = others + desk.ledger.held

theorem Backed.chargedBytes_eq (backed : Backed slotBytes others desk) :
    desk.ledger.chargedBytes = Register.total (fun _ member => member.bytes)
      desk.ledger.members := by
  unfold StagingLedger.chargedBytes StagingLedger.members
  cases present : desk.ledger.table with
  | none => simp [Register.total]
  | some table => exact (backed.paid table present).2.filed.bytes

/-- A refused call changed nothing but, at most, prepaid the table. -/
inductive Untouched (slotBytes : Nat) (desk after : Desk) : Prop where
  | same (ledger : after.ledger = desk.ledger)
      (charged : after.pool.charged = desk.pool.charged)
  | prepaid (absent : desk.ledger.table = none)
      (ledger : after.ledger = { desk.ledger with
        table := some (ReservationTable.tryNew Nat maxUnsettledStaged)
        tableStorage := some (storage slotBytes) })
      (charged : after.pool.charged = desk.pool.charged + storage slotBytes)

theorem tryNew_members (node : Node maxUnsettledStaged) :
    (ReservationTable.tryNew Nat maxUnsettledStaged).register.members node = none := by
  rw [ReservationTable.tryNew_register]
  rfl

theorem Untouched.members (untouched : Untouched slotBytes desk after) :
    after.ledger.members = desk.ledger.members := by
  cases untouched with
  | same ledger => rw [ledger]
  | prepaid absent ledger =>
    funext node
    rw [ledger, StagingLedger.members, StagingLedger.members, absent]
    exact tryNew_members node

theorem Untouched.byteLimit (untouched : Untouched slotBytes desk after) :
    after.ledger.byteLimit = desk.ledger.byteLimit := by
  cases untouched with
  | same ledger | prepaid _ ledger => rw [ledger]

theorem Backed.untouched (backed : Backed slotBytes others desk)
    (untouched : Untouched slotBytes desk after) : Backed slotBytes others after := by
  have members := untouched.members
  cases untouched with
  | same ledger charged =>
    refine ⟨?_, ?_, ?_, ?_⟩
    · rw [ledger]
      exact backed.unpaid
    · rw [ledger]
      exact backed.paid
    · rw [ledger]
      exact backed.leased
    · rw [charged, ledger]
      exact backed.charged
  | prepaid absent ledger charged =>
    refine ⟨?_, ?_, ?_, ?_⟩
    · rw [ledger]
      intro none
      cases none
    · rw [ledger]
      intro table same
      rw [← Option.some.inj same]
      exact ⟨rfl, ReservationTable.tryNew_faithful.sound⟩
    · rw [members]
      exact backed.leased
    · rw [charged, backed.charged, StagingLedger.held, StagingLedger.held, members,
        backed.unpaid absent, ledger]
      simp only [getD_none, getD_some]
      omega

theorem prepareCapacity_spec (slotBytes : Nat) (succeeds : Bool) (desk : Desk) :
    ∃ reply after, desk.prepareCapacity ⟨slotBytes, succeeds⟩ = (reply, after) ∧
      Untouched slotBytes desk after ∧
      (reply = .ok () → ∃ table, after.ledger.table = some table) := by
  unfold prepareCapacity
  cases present : desk.ledger.table with
  | some table => exact ⟨.ok (), desk, rfl, .same rfl rfl, fun _ => ⟨table, present⟩⟩
  | none =>
    by_cases fits : storage slotBytes ≤ usizeMax
    case neg =>
      have bytes : storageBytes slotBytes = none := if_neg fits
      rw [bytes]
      exact ⟨.error .full, desk, rfl, .same rfl rfl, nofun⟩
    have bytes : storageBytes slotBytes = some (storage slotBytes) := if_pos fits
    rw [bytes]
    dsimp only
    cases acquired : desk.pool.acquire (storage slotBytes) with
    | mk pool answer =>
      cases answer with
      | error refusal =>
        exact ⟨.error .full, { desk with pool := pool }, rfl,
          .same rfl (acquire_error acquired).charged, nofun⟩
      | ok lease =>
        obtain ⟨rfl, granted⟩ := acquire_ok acquired
        cases succeeds with
        | true =>
          exact ⟨.ok (), _, rfl, .prepaid present rfl granted.charged, fun _ => ⟨_, rfl⟩⟩
        | false =>
          refine ⟨.error .full, _, rfl, .same rfl ?_, nofun⟩
          change pool.charged - storage slotBytes = desk.pool.charged
          rw [granted.charged]
          omega

/-- One membership was charged in full. -/
structure Charged (desk after : Desk) (role : Role) (key : RoleKey) (bytes : Nat) : Prop where
  added : ∃ place, desk.ledger.members (place, role.index) = none ∧
    after.ledger.members = update desk.ledger.members (place, role.index)
      (some { key := key, bytes := bytes, charge := leaseBytes bytes })
  byteLimit : after.ledger.byteLimit = desk.ledger.byteLimit

theorem inserted_members {table after : StagingTable} {member : Membership Nat}
    {existing : Option ReservationId} {head : ReservationId} (sound : table.Sound)
    (inserted : ReservationTable.Inserted table.register role member existing head after.register) :
    ∃ place, table.register.members (place, role.index) = none ∧
      after.register.members = update table.register.members (place, role.index) (some member) := by
  generalize after.register = changed at inserted
  cases inserted with
  | joined id head place lane named headed free => exact ⟨place, free, rfl⟩
  | fresh place vacant unspent =>
    exact ⟨place, (sound.filed.empty place vacant role.index).1, rfl⟩

theorem insertCharged_spec (backed : Backed slotBytes others desk) {table : StagingTable}
    (present : desk.ledger.table = some table) (role : Role) (key : RoleKey)
    (existing : Option ReservationId) (bytes : Nat) :
    ∃ reply after, desk.insertCharged table role key existing bytes = some (reply, after) ∧
      (∀ refusal, reply = .error refusal → Untouched slotBytes desk after) ∧
      (∀ id, reply = .ok id → Backed slotBytes others after ∧
        Charged desk after role key bytes) := by
  obtain ⟨paid, sound⟩ := backed.paid table present
  obtain ⟨result, checked, _⟩ := ReservationTable.preflight_spec sound role key existing bytes
  unfold insertCharged
  rw [checked]
  cases result with
  | error refusal =>
    exact ⟨.error (.ofRefusal refusal), desk, rfl, fun _ _ => .same rfl rfl, nofun⟩
  | ok _ =>
    by_cases large : leaseBytes bytes > usizeMax
    case pos =>
      exact ⟨.error .full, desk, if_pos large, fun _ _ => .same rfl rfl, nofun⟩
    rw [if_neg large]
    cases acquired : desk.pool.acquire (leaseBytes bytes) with
    | mk pool answer =>
      cases answer with
      | error refusal =>
        exact ⟨.error .full, { desk with pool := pool }, rfl,
          fun _ _ => .same rfl (acquire_error acquired).charged, nofun⟩
      | ok lease =>
        obtain ⟨rfl, granted⟩ := acquire_ok acquired
        obtain ⟨head, changed, done, soundAfter, inserted⟩ :=
          ReservationTable.insert_admitted sound checked (leaseBytes bytes)
        obtain ⟨place, free, members⟩ := inserted_members sound inserted
        have before := StagingLedger.members_eq present
        let charged : Desk :=
          { pool := pool, ledger := { desk.ledger with table := some changed } }
        have added : charged.ledger.members =
            update desk.ledger.members (place, role.index)
              (some { key := key, bytes := bytes, charge := leaseBytes bytes }) := by
          rw [before, ← members]
          rfl
        have vacant : desk.ledger.members (place, role.index) = none := by
          rw [before, free]
        refine ⟨.ok head, charged, ?_, nofun, fun _ _ =>
          ⟨⟨nofun, ?_, ?_, ?_⟩,
            ⟨place, vacant, added⟩, rfl⟩⟩
        · dsimp only
          rw [done]
          rfl
        · rintro other ⟨⟩
          exact ⟨paid, soundAfter⟩
        · intro node member stored
          rw [added, update_apply] at stored
          split at stored
          · cases stored
            rfl
          · exact backed.leased node member stored
        · have sum := Register.total_update
            (fun _ member => leaseBytes member.bytes) desk.ledger.members
            (place, role.index)
            (some { key := key, bytes := bytes, charge := leaseBytes bytes })
          rw [vacant] at sum
          rw [StagingLedger.held, added]
          change pool.charged = others + (desk.ledger.tableStorage.getD 0 + _)
          rw [granted.charged, backed.charged, StagingLedger.held]
          simp only [elim_none, elim_some] at sum
          omega

theorem Untouched.trans {middle : Desk} (first : Untouched slotBytes desk middle)
    (second : Untouched slotBytes middle after) : Untouched slotBytes desk after := by
  cases first with
  | same ledger charged =>
    cases second with
    | same ledger' charged' => exact .same (ledger'.trans ledger) (charged'.trans charged)
    | prepaid absent ledger' charged' =>
      rw [ledger] at absent ledger'
      rw [charged] at charged'
      exact .prepaid absent ledger' charged'
  | prepaid absent ledger charged =>
    cases second with
    | same ledger' charged' =>
      exact .prepaid absent (ledger'.trans ledger) (charged'.trans charged)
    | prepaid absent' =>
      rw [ledger] at absent'
      cases absent'

theorem chargeRoleWithCredit_spec (backed : Backed slotBytes others desk) (succeeds : Bool)
    (role : Role) (key : RoleKey) (existing : Option ReservationId) (bytes : UInt64)
    (credit : Nat) :
    ∃ reply after, desk.chargeRoleWithCredit ⟨slotBytes, succeeds⟩ role key existing bytes
        credit = some (reply, after) ∧
      (∀ refusal, reply = .error refusal → Untouched slotBytes desk after) ∧
      (∀ id, reply = .ok id → Backed slotBytes others after ∧
        Charged desk after role key bytes.toNat ∧
        desk.ledger.chargedBytes - credit + bytes.toNat ≤ desk.ledger.byteLimit) := by
  unfold chargeRoleWithCredit
  dsimp only
  split
  case isTrue =>
    exact ⟨.error .full, desk, rfl, fun _ _ => .same rfl rfl, nofun⟩
  split
  case isTrue =>
    exact ⟨.error .full, desk, rfl, fun _ _ => .same rfl rfl, nofun⟩
  rename_i within
  split
  case isTrue =>
    exact ⟨.error .replayRefused, desk, rfl, fun _ _ => .same rfl rfl, nofun⟩
  obtain ⟨answer, middle, prepared, untouched, paid⟩ :=
    prepareCapacity_spec slotBytes succeeds desk
  rw [prepared]
  cases answer with
  | error refusal =>
    exact ⟨.error refusal, middle, rfl, fun _ _ => untouched, nofun⟩
  | ok _ =>
    obtain ⟨table, present⟩ := paid rfl
    obtain ⟨reply, after, done, refused, granted⟩ := insertCharged_spec
      (backed.untouched untouched) present role key existing bytes.toNat
    refine ⟨reply, after, ?_, fun refusal error => untouched.trans (refused refusal error),
      fun id ok => ?_⟩
    · refine bind_done present ?_
      exact done
    · obtain ⟨backedAfter, ⟨place, vacant, added⟩, byteLimit⟩ := granted id ok
      rw [untouched.members] at vacant added
      exact ⟨backedAfter, ⟨⟨place, vacant, added⟩, byteLimit.trans untouched.byteLimit⟩,
        Nat.le_of_not_lt within⟩

/-! ## Releases -/

/-- What a release may do to the memberships: nothing, or take one out. -/
inductive Released (desk after : Desk) (role : Role) (key : RoleKey) : Prop where
  | absent (members : after.ledger.members = desk.ledger.members)
      (missing : ∀ place member, desk.ledger.members (place, role.index) = some member →
        member.key ≠ key)
  | taken (place : Fin maxUnsettledStaged) (member : Membership Nat)
      (stored : desk.ledger.members (place, role.index) = some member) (same : member.key = key)
      (members : after.ledger.members =
        update desk.ledger.members (place, role.index) none)

theorem releaseRole_spec (backed : Backed slotBytes others desk) (role : Role) (key : RoleKey) :
    ∃ after, desk.releaseRole role key = some after ∧ Backed slotBytes others after ∧
      Released desk after role key ∧ after.ledger.byteLimit = desk.ledger.byteLimit := by
  unfold releaseRole
  cases present : desk.ledger.table with
  | none =>
    refine ⟨desk, rfl, backed, .absent rfl fun place member stored => ?_, rfl⟩
    rw [StagingLedger.members, present] at stored
    cases stored
  | some table =>
    obtain ⟨paid, sound⟩ := backed.paid table present
    have before := StagingLedger.members_eq present
    rcases ReservationTable.keySlot_cases sound role key with missing | ⟨place, found⟩
    · have unchanged : ({ desk with ledger := { desk.ledger with table := some table } } : Desk) =
          desk := by
        rw [← present]
      refine ⟨desk, ?_, backed, .absent rfl fun place member stored => ?_, rfl⟩
      · dsimp only
        rw [ReservationTable.release_absent missing]
        exact congrArg some unchanged
      · rw [before] at stored
        exact ReservationTable.keySlot_none sound missing place member stored
    · obtain ⟨member, stored, same⟩ := ReservationTable.keySlot_some sound found
      obtain ⟨changed, done, soundAfter, register⟩ :=
        ReservationTable.release_spec sound stored same
      let after : Desk := { pool := desk.pool.refund member.charge
                            ledger := { desk.ledger with table := some changed } }
      have members : after.ledger.members =
          update desk.ledger.members (place, role.index) none := by
        rw [before, ← Register.take_members table.register (place, role.index) member,
          ← Register.tidy_members _ place, ← register]
        rfl
      have storedView : desk.ledger.members (place, role.index) = some member := by
        rw [before, stored]
      refine ⟨after, ?_, ⟨nofun, ?_, ?_, ?_⟩, .taken place member storedView same members, rfl⟩
      · dsimp only
        rw [done]
        rfl
      · rintro other ⟨⟩
        exact ⟨paid, soundAfter⟩
      · intro node other held
        rw [members, update_apply] at held
        split at held
        · cases held
        · exact backed.leased node other held
      · have sum := Register.total_update (fun _ member => leaseBytes member.bytes)
          desk.ledger.members (place, role.index) none
        have lease := backed.leased _ member storedView
        rw [storedView] at sum
        rw [StagingLedger.held, members]
        change desk.pool.charged - member.charge = others + (desk.ledger.tableStorage.getD 0 + _)
        rw [backed.charged, StagingLedger.held]
        simp only [elim_none, elim_some] at sum
        omega

/-- The sum over memberships without one lane. -/
theorem total_without {members changed : Node maxUnsettledStaged → Option (Membership Nat)}
    {lane : Fin roleCount} (weight : Fin roleCount → Membership Nat → Nat)
    (dropped : ∀ node, changed node = if node.2 = lane then none else members node) :
    Register.total weight changed +
        ∑ place, (members (place, lane)).elim 0 (weight lane) =
      Register.total weight members := by
  unfold Register.total
  rw [Fintype.sum_prod_type, Fintype.sum_prod_type, ← sum_add_distrib]
  refine sum_congr rfl fun place _ => ?_
  rw [← sum_erase_add _ _ (mem_univ lane),
    ← sum_erase_add Finset.univ
      (fun other => (members (place, other)).elim 0 (weight other)) (mem_univ lane)]
  have rest : ∑ other ∈ Finset.univ.erase lane, (changed (place, other)).elim 0 (weight other) =
      ∑ other ∈ Finset.univ.erase lane, (members (place, other)).elim 0 (weight other) := by
    refine sum_congr rfl fun other member => ?_
    rw [dropped, if_neg (ne_of_mem_erase member)]
  rw [rest, dropped]
  simp

theorem roleCharges_eq (table : StagingTable) (role : Role) :
    roleCharges table role = ∑ place,
      (table.register.members (place, role.index)).elim 0 fun member => member.charge :=
  (Fin.sum_univ_def _).symm

section

variable (backed : Backed slotBytes others desk)
include backed

theorem Backed.total_charge : Register.total (fun _ member => member.charge) desk.ledger.members =
      Register.total (fun _ member => leaseBytes member.bytes) desk.ledger.members := by
  refine sum_congr rfl fun node _ => ?_
  cases stored : desk.ledger.members node with
  | none => rfl
  | some member => exact backed.leased node member stored

theorem releaseAllH8open_spec :
    ∃ after, desk.releaseAllH8open = some after ∧ Backed slotBytes others after ∧
      (∀ node, after.ledger.members node =
        if node.2 = Role.h8Open.index then none else desk.ledger.members node) ∧
      after.ledger.byteLimit = desk.ledger.byteLimit := by
  unfold releaseAllH8open
  cases present : desk.ledger.table with
  | none =>
    refine ⟨desk, rfl, backed, fun node => ?_, rfl⟩
    rw [StagingLedger.members, present]
    split <;> rfl
  | some table =>
    obtain ⟨paid, sound⟩ := backed.paid table present
    have before := StagingLedger.members_eq present
    obtain ⟨changed, done, soundAfter, members⟩ :=
      ReservationTable.releaseRole_spec sound .h8Open
    let after : Desk := { pool := desk.pool.refund (roleCharges table .h8Open)
                          ledger := { desk.ledger with table := some changed } }
    have dropped : ∀ node, after.ledger.members node =
        if node.2 = Role.h8Open.index then none else desk.ledger.members node := by
      rw [before]
      exact members
    have backedAfter : ∀ node member, after.ledger.members node = some member →
        member.charge = leaseBytes member.bytes := by
      intro node member held
      rw [dropped] at held
      split at held
      · cases held
      · exact backed.leased node member held
    refine ⟨after, ?_, ⟨nofun, ?_, backedAfter, ?_⟩, dropped, rfl⟩
    · dsimp only
      rw [done]
      rfl
    · rintro other ⟨⟩
      exact ⟨paid, soundAfter⟩
    · have all := total_without (fun _ member => leaseBytes member.bytes) dropped
      have leases : roleCharges table .h8Open = ∑ place,
          (desk.ledger.members (place, Role.h8Open.index)).elim 0
            fun member => leaseBytes member.bytes := by
        rw [roleCharges_eq, ← before]
        refine sum_congr rfl fun place _ => ?_
        cases stored : desk.ledger.members (place, Role.h8Open.index) with
        | none => rfl
        | some member => exact backed.leased _ member stored
      change desk.pool.charged - roleCharges table .h8Open =
        others + (desk.ledger.tableStorage.getD 0 + _)
      rw [backed.charged, StagingLedger.held]
      omega

/-- Dropping the ledger returns exactly what it held. -/
theorem drop_charged : desk.drop.charged = others := by
  have memberships : (desk.ledger.table.elim 0 fun table =>
      ((List.finRange roleCount).map fun lane => roleCharges table (Role.atLane lane)).sum) =
      Register.total (fun _ member => leaseBytes member.bytes) desk.ledger.members := by
    rw [← backed.total_charge]
    unfold StagingLedger.members
    cases desk.ledger.table with
    | none => simp [Register.total]
    | some table =>
      change ((List.finRange roleCount).map _).sum = Register.total _ table.register.members
      rw [← Fin.sum_univ_def, Register.total, Fintype.sum_prod_type, sum_comm]
      refine sum_congr rfl fun lane _ => ?_
      rw [roleCharges_eq, ReservationTable.atLane_index]
  change desk.pool.charged - _ - desk.ledger.tableStorage.getD 0 = others
  rw [backed.charged, StagingLedger.held]
  omega

end

/-! ## The byte limit -/

/-- Within the limit, or above it by no more than the staged source that the
last mint from a stage still waits to release. -/
def Within (desk : Desk) (window : Option RoleKey) : Prop :=
  desk.ledger.chargedBytes ≤ desk.ledger.byteLimit ∨
    ∃ key place member, window = some key ∧
      desk.ledger.members (place, Role.h9Staged.index) = some member ∧ member.key = key ∧
      desk.ledger.chargedBytes ≤ desk.ledger.byteLimit + member.bytes

variable {window : Option RoleKey}

theorem Within.untouched (within : Within desk window) (backed : Backed slotBytes others desk)
    (untouched : Untouched slotBytes desk after) : Within after window := by
  unfold Within
  rw [(backed.untouched untouched).chargedBytes_eq, untouched.members, untouched.byteLimit,
    ← backed.chargedBytes_eq]
  exact within

theorem Charged.chargedBytes_eq {bytes : Nat} (charged : Charged desk after role key bytes)
    (backed : Backed slotBytes others desk) (backedAfter : Backed slotBytes others after) :
    after.ledger.chargedBytes = desk.ledger.chargedBytes + bytes := by
  obtain ⟨place, vacant, added⟩ := charged.added
  have sum := Register.total_update (fun _ member => member.bytes) desk.ledger.members
    (place, role.index) (some { key := key, bytes := bytes, charge := leaseBytes bytes })
  rw [vacant, ← added, ← backedAfter.chargedBytes_eq, ← backed.chargedBytes_eq] at sum
  simp only [elim_none, elim_some] at sum
  omega

theorem Backed.keysApart (backed : Backed slotBytes others desk) {lane : Fin roleCount}
    {place other : Fin maxUnsettledStaged} {member held : Membership Nat}
    (stored : desk.ledger.members (place, lane) = some member)
    (also : desk.ledger.members (other, lane) = some held) (same : member.key = held.key) :
    place = other := by
  unfold StagingLedger.members at stored also
  cases present : desk.ledger.table with
  | none =>
    rw [present] at stored
    cases stored
  | some table =>
    rw [present] at stored also
    exact (backed.paid table present).2.filed.keysApart lane place other member held stored also
      same

/-- Releasing a staged key closes its own window. -/
def closeWindow (window : Option RoleKey) (role : Role) (key : RoleKey) : Option RoleKey :=
  if role = .h9Staged ∧ window = some key then none else window

theorem Within.released (within : Within desk window) (backed : Backed slotBytes others desk)
    (backedAfter : Backed slotBytes others after) (released : Released desk after role key)
    (byteLimit : after.ledger.byteLimit = desk.ledger.byteLimit) :
    Within after (closeWindow window role key) := by
  have bytesAfter := backedAfter.chargedBytes_eq
  cases released with
  | absent members missing =>
    rw [members, ← backed.chargedBytes_eq] at bytesAfter
    unfold Within
    rw [bytesAfter, byteLimit, members]
    rcases within with small | ⟨held, place, member, opened, stored, same, bound⟩
    · exact .inl small
    refine .inr ⟨held, place, member, ?_, stored, same, bound⟩
    rw [closeWindow, if_neg, opened]
    rintro ⟨rfl, equal⟩
    rw [opened] at equal
    exact missing place member stored (same.trans (Option.some.inj equal))
  | taken place member stored same members =>
    have sum := Register.total_update (fun _ member => member.bytes) desk.ledger.members
      (place, role.index) none
    rw [stored, ← members, ← backed.chargedBytes_eq] at sum
    simp only [elim_none, elim_some] at sum
    unfold Within
    rcases within with small | ⟨held, there, waiting, opened, staged, named, bound⟩
    · exact .inl (by omega)
    by_cases here : (there, Role.h9Staged.index) = (place, role.index)
    · rw [here, stored] at staged
      cases staged
      exact .inl (by omega)
    · refine .inr ⟨held, there, waiting, ?_, ?_, named, by omega⟩
      · rw [closeWindow, if_neg, opened]
        rintro ⟨rfl, equal⟩
        rw [opened] at equal
        have keys : waiting.key = member.key :=
          named.trans ((Option.some.inj equal).trans same.symm)
        exact here (by rw [backed.keysApart staged stored keys])
      · rw [members, update_of_ne here, staged]

theorem Within.releasedAll (within : Within desk window) (backed : Backed slotBytes others desk)
    (backedAfter : Backed slotBytes others after)
    (dropped : ∀ node, after.ledger.members node =
      if node.2 = Role.h8Open.index then none else desk.ledger.members node)
    (byteLimit : after.ledger.byteLimit = desk.ledger.byteLimit) : Within after window := by
  have all := total_without (fun _ member => member.bytes) dropped
  rw [← backedAfter.chargedBytes_eq, ← backed.chargedBytes_eq] at all
  unfold Within
  rcases within with small | ⟨held, place, member, opened, stored, same, bound⟩
  · exact .inl (by omega)
  · refine .inr ⟨held, place, member, opened, ?_, same, by omega⟩
    rw [dropped, if_neg (show Role.h9Staged.index ≠ Role.h8Open.index by decide), stored]

end Desk

end P11Scope.Journal
