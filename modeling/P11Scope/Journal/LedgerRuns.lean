import P11Scope.Journal.LedgerConservation

/-!
# Runs of the staging ledger

Every call on a ledger bound to a pool, in any order and with the pool's other
holders acting in between.  No call gets stuck, a refused one changes nothing but
the one-time prepayment, and what the ledger holds stays what its memberships cost.
-/

namespace P11Scope.Journal

open Edge Lib

inductive LedgerCall where
  | prepareCapacity
  | reserveRaw (native : NativeDomainId)
  | releaseRaw (reservation : ExistingReservation)
  | chargeH8openFromRaw (ordinal bytes : UInt64) (reservation : ExistingReservation)
  | chargeModelFromOpen (token bytes : UInt64) (reservation : ExistingReservation)
  | charge (ticket bytes : UInt64)
  | chargeCollected (native : NativeDomainId) (ticket bytes : UInt64)
      (origin : Option JointResourceOrigin)
  | releaseCollected (native : NativeDomainId) (ticket : UInt64)
  | release (ticket : UInt64)
  | chargeH8open (ordinal bytes : UInt64)
  | releaseH8open (ordinal : UInt64)
  | releaseAllH8open
  | chargeModel (token bytes : UInt64)
  | releaseModel (token : UInt64)
  | chargeDeferred (token bytes : UInt64)
  | releaseDeferred (token : UInt64)
  | mintKeyassoc (bytes : UInt64)
  | mintKeyassocFromStage (bytes : UInt64) (source : Option StagedResourceOrigin)
  | releaseKeyassoc (ticket : UInt64)

namespace Desk

variable {slotBytes others : Nat} {desk after : Desk} {role : Role} {key : RoleKey}
variable {window : Option RoleKey}

/-- The outcome of a call without the token it hands out. -/
def outcome {Value : Type} (result : Option (Except LedgerRefusal Value × Desk)) :
    Option (Except LedgerRefusal Unit × Desk) :=
  result.map fun (reply, desk) => (reply.map fun _ => (), desk)

def done (result : Option Desk) : Option (Except LedgerRefusal Unit × Desk) :=
  result.map fun desk => (.ok (), desk)

def perform (allocation : Allocation) (desk : Desk) :
    LedgerCall → Option (Except LedgerRefusal Unit × Desk)
  | .prepareCapacity => some (desk.prepareCapacity allocation)
  | .reserveRaw native => outcome (desk.reserveRaw allocation native)
  | .releaseRaw reservation => done (desk.releaseRaw reservation)
  | .chargeH8openFromRaw ordinal bytes reservation =>
    outcome (desk.chargeH8openFromRaw allocation ordinal bytes reservation)
  | .chargeModelFromOpen token bytes reservation =>
    outcome (desk.chargeModelFromOpen allocation token bytes reservation)
  | .charge ticket bytes => outcome (desk.charge allocation ticket bytes)
  | .chargeCollected native ticket bytes origin =>
    outcome (desk.chargeCollected allocation native ticket bytes origin)
  | .releaseCollected native ticket => done (desk.releaseCollected native ticket)
  | .release ticket => done (desk.release ticket)
  | .chargeH8open ordinal bytes => outcome (desk.chargeH8open allocation ordinal bytes)
  | .releaseH8open ordinal => done (desk.releaseH8open ordinal)
  | .releaseAllH8open => done desk.releaseAllH8open
  | .chargeModel token bytes => outcome (desk.chargeModel allocation token bytes)
  | .releaseModel token => done (desk.releaseModel token)
  | .chargeDeferred token bytes => outcome (desk.chargeDeferred allocation token bytes)
  | .releaseDeferred token => done (desk.releaseDeferred token)
  | .mintKeyassoc bytes => outcome (desk.mintKeyassoc allocation bytes)
  | .mintKeyassocFromStage bytes source =>
    outcome (desk.mintKeyassocFromStage allocation bytes source)
  | .releaseKeyassoc ticket => done (desk.releaseKeyassoc ticket)

/-- The staged source whose release a caller owes, if any. -/
def noteWindow (window : Option RoleKey) (reply : Except LedgerRefusal Unit) :
    LedgerCall → Option RoleKey
  | .mintKeyassocFromStage _ (some source) =>
    match reply with
    | .ok () => some source.key
    | .error _ => window
  | .releaseCollected native ticket =>
    closeWindow window .h9Staged (StagingLedger.collectedKey native ticket)
  | .release ticket => closeWindow window .h9Staged (StagingLedger.key ticket)
  | _ => window

/-- What every call keeps: the books, the limit, and everything on a refusal. -/
structure Performed (slotBytes others : Nat) (desk : Desk) (window : Option RoleKey)
    (reply : Except LedgerRefusal Unit) (after : Desk) : Prop where
  backed : Backed slotBytes others after
  within : Within after window
  refused : ∀ refusal, reply = .error refusal → Untouched slotBytes desk after

/-- A charge result with the books it leaves. -/
def Settles {Value : Type} (slotBytes others : Nat) (desk : Desk) (window : Option RoleKey)
    (result : Option (Except LedgerRefusal Value × Desk)) : Prop :=
  ∃ reply after, result = some (reply, after) ∧
    Performed slotBytes others desk window (reply.map fun _ => ()) after

theorem Settles.outcome {Value : Type} {result : Option (Except LedgerRefusal Value × Desk)}
    (settles : Settles slotBytes others desk window result) :
    ∃ reply after, outcome result = some (reply, after) ∧
      Performed slotBytes others desk window reply after := by
  obtain ⟨reply, after, rfl, performed⟩ := settles
  exact ⟨_, after, rfl, performed⟩

variable (backed : Backed slotBytes others desk) (within : Within desk window)

include backed within

theorem refuses {Value : Type} (refusal : LedgerRefusal) :
    Settles slotBytes others desk window
      (some (.error refusal, desk) : Option (Except LedgerRefusal Value × Desk)) :=
  ⟨.error refusal, desk, rfl, backed, within, fun _ _ => .same rfl rfl⟩

variable (succeeds : Bool) (role : Role) (key : RoleKey)

theorem chargeRole_settles (existing : Option ReservationId) (bytes : UInt64) :
    Settles slotBytes others desk window
      (desk.chargeRole ⟨slotBytes, succeeds⟩ role key existing bytes) := by
  obtain ⟨reply, after, done, refused, granted⟩ :=
    chargeRoleWithCredit_spec backed succeeds role key existing bytes 0
  refine ⟨reply, after, done, ?_⟩
  cases reply with
  | error refusal =>
    have untouched := refused refusal rfl
    exact ⟨backed.untouched untouched, within.untouched backed untouched, fun _ _ => untouched⟩
  | ok id =>
    obtain ⟨backedAfter, charged, small⟩ := granted id rfl
    refine ⟨backedAfter, .inl ?_, nofun⟩
    rw [charged.chargedBytes_eq backed backedAfter, charged.byteLimit]
    exact small

variable (bytes : UInt64) (reservation : ExistingReservation)

theorem chargeUnder_settles :
    Settles slotBytes others desk window
      (desk.chargeUnder ⟨slotBytes, succeeds⟩ role key bytes reservation) := by
  unfold chargeUnder
  cases desk.ledger.checkedExisting reservation with
  | error refusal => exact refuses backed within refusal
  | ok id => exact chargeRole_settles backed within succeeds role key (some id) bytes

variable (native : NativeDomainId)

theorem reserveRaw_settles :
    Settles slotBytes others desk window (desk.reserveRaw ⟨slotBytes, succeeds⟩ native) := by
  unfold reserveRaw
  cases desk.ledger.generation with
  | none => exact refuses backed within .full
  | some generation =>
    dsimp only
    split
    case isTrue => exact refuses backed within .full
    obtain ⟨reply, after, done, performed⟩ := chargeRole_settles backed within succeeds .raw
      { keySpace := native.journalTag, value := desk.ledger.nextRaw + 1 } none 0
    rw [done]
    cases reply with
    | error refusal => exact ⟨.error refusal, after, rfl, performed⟩
    | ok id =>
      -- Handing out a ticket changes neither the books nor the limit.
      obtain ⟨backed, within, -⟩ := performed
      exact ⟨.ok _, _, rfl, { backed with }, within, nofun⟩

theorem chargeCollected_settles (ticket bytes : UInt64) (origin : Option JointResourceOrigin) :
    Settles slotBytes others desk window
      (desk.chargeCollected ⟨slotBytes, succeeds⟩ native ticket bytes origin) := by
  unfold chargeCollected
  cases desk.ledger.generation with
  | none => exact refuses backed within .full
  | some generation =>
    dsimp only
    split
    case h_1 refusal _ => exact refuses backed within refusal
    rename_i existing _
    obtain ⟨reply, after, done, performed⟩ := chargeRole_settles backed within succeeds
      .h9Staged (StagingLedger.collectedKey native ticket) existing bytes
    rw [done]
    cases reply with
    | error refusal => exact ⟨.error refusal, after, rfl, performed⟩
    | ok id => exact ⟨.ok _, after, rfl, performed⟩

omit within in
/-- A staged credit is the bytes of a present staged membership. -/
theorem stagedCredit_spec (source : StagedResourceOrigin) :
    ∃ reply, stagedCredit desk.ledger source = some reply ∧
      ∀ credit, reply = .ok credit → ∃ place member,
        desk.ledger.members (place, Role.h9Staged.index) = some member ∧
        member.key = source.key ∧ member.bytes = credit := by
  unfold stagedCredit
  split
  case isTrue => exact ⟨.error .replayRefused, rfl, nofun⟩
  cases present : desk.ledger.table with
  | none => exact ⟨.error .replayRefused, rfl, nofun⟩
  | some table =>
    obtain ⟨paid, sound⟩ := backed.paid table present
    dsimp only
    unfold ReservationTable.reservation ReservationTable.memberBytes
    rcases ReservationTable.keySlot_cases sound .h9Staged source.key with missing | ⟨place, found⟩
    · rw [missing]
      exact ⟨.error .replayRefused, rfl, nofun⟩
    obtain ⟨member, stored, same⟩ := ReservationTable.keySlot_some sound found
    rw [found]
    change ∃ reply, (if table.slots[place].alias? 0 ≠ some source.id then _ else _) = some reply ∧ _
    split
    case isTrue => exact ⟨.error .replayRefused, rfl, nofun⟩
    refine ⟨.ok member.bytes, ?_, fun credit ok => ⟨place, member, ?_, same, ?_⟩⟩
    · change some (Except.ok
        (((table.register.members (place, Role.h9Staged.index)).map (·.bytes)).getD 0)) = _
      rw [stored]
      rfl
    · rw [StagingLedger.members, present]
      exact stored
    · exact Except.ok.inj ok

/-- The credit of a mint: the bytes of its staged source, nothing without one. -/
def Credited (desk : Desk) (source : Option StagedResourceOrigin) (credit : Nat) : Prop :=
  match source with
  | none => credit = 0
  | some source => ∃ place member,
      desk.ledger.members (place, Role.h9Staged.index) = some member ∧
        member.key = source.key ∧ member.bytes = credit

/-- A mint once its credit is known. -/
def mintCredited (allocation : Allocation) (bytes : UInt64) (existing : Option ReservationId)
    (credited : Except LedgerRefusal Nat) (desk : Desk) :
    Option (Except LedgerRefusal UInt64 × Desk) := do
  match credited with
  | .error refusal => some (.error refusal, desk)
  | .ok credit =>
    if desk.ledger.nextKeyassoc = UInt64.ofNat u64Max then some (.error .full, desk)
    else
      let ticket := desk.ledger.nextKeyassoc + 1
      match ← desk.chargeRoleWithCredit allocation .association (StagingLedger.key ticket)
          existing bytes credit with
      | (.error refusal, desk) => some (.error refusal, desk)
      | (.ok _, desk) =>
        some (.ok ticket, { desk with ledger := { desk.ledger with nextKeyassoc := ticket } })

omit within in
theorem mintKeyassocFromStage_credited (allocation : Allocation) (bytes : UInt64)
    (source : Option StagedResourceOrigin) :
    ∃ credited, desk.mintKeyassocFromStage allocation bytes source =
        desk.mintCredited allocation bytes (source.map (·.id)) credited ∧
      ∀ credit, credited = .ok credit → Credited desk source credit := by
  cases source with
  | none => exact ⟨.ok 0, rfl, fun credit ok => (Except.ok.inj ok).symm⟩
  | some source =>
    obtain ⟨credited, found, covered⟩ := stagedCredit_spec backed source
    refine ⟨credited, ?_, covered⟩
    rw [mintKeyassocFromStage]
    dsimp only
    rw [found]
    rfl

variable (source : Option StagedResourceOrigin)

omit within in
/-- A mint completes: refused it leaves the desk, granted it charges its ticket. -/
theorem mintKeyassocFromStage_spec :
    ∃ reply after,
      desk.mintKeyassocFromStage ⟨slotBytes, succeeds⟩ bytes source = some (reply, after) ∧
      (∀ refusal, reply = .error refusal → Untouched slotBytes desk after) ∧
      ∀ ticket, reply = .ok ticket → Backed slotBytes others after ∧
        Charged desk after .association (StagingLedger.key ticket) bytes.toNat ∧
        ∃ credit, Credited desk source credit ∧
          desk.ledger.chargedBytes - credit + bytes.toNat ≤ desk.ledger.byteLimit := by
  obtain ⟨credited, same, covered⟩ :=
    mintKeyassocFromStage_credited backed ⟨slotBytes, succeeds⟩ bytes source
  rw [same]
  unfold mintCredited
  cases credited with
  | error refusal =>
    exact ⟨.error refusal, desk, rfl, fun _ _ => .same rfl rfl, nofun⟩
  | ok credit =>
    dsimp only
    split
    case isTrue =>
      exact ⟨.error .full, desk, rfl, fun _ _ => .same rfl rfl, nofun⟩
    obtain ⟨reply, after, done, refused, granted⟩ := chargeRoleWithCredit_spec backed succeeds
      .association (StagingLedger.key (desk.ledger.nextKeyassoc + 1)) (source.map (·.id)) bytes
      credit
    rw [done]
    cases reply with
    | error refusal =>
      exact ⟨.error refusal, after, rfl, fun _ _ => refused refusal rfl, nofun⟩
    | ok id =>
      obtain ⟨backedAfter, charged, small⟩ := granted id rfl
      refine ⟨.ok _, _, rfl, nofun, fun ticket minted => ?_⟩
      cases minted
      exact ⟨{ backedAfter with },
        ⟨charged.added, charged.byteLimit⟩, credit, covered credit rfl, small⟩

theorem mintKeyassocFromStage_settles :
    ∃ reply after,
      outcome (desk.mintKeyassocFromStage ⟨slotBytes, succeeds⟩ bytes source) =
        some (reply, after) ∧
      Performed slotBytes others desk
        (noteWindow window reply (.mintKeyassocFromStage bytes source)) reply after := by
  obtain ⟨reply, after, done, refused, granted⟩ :=
    mintKeyassocFromStage_spec backed succeeds bytes source
  rw [done]
  refine ⟨reply.map fun _ => (), after, rfl, ?_⟩
  cases reply with
  | error refusal =>
    have untouched := refused refusal rfl
    have same : noteWindow window (.error refusal) (.mintKeyassocFromStage bytes source) =
        window := by
      cases source <;> rfl
    change Performed slotBytes others desk (noteWindow window (.error refusal) _) _ after
    rw [same]
    exact ⟨backed.untouched untouched, within.untouched backed untouched, fun _ _ => untouched⟩
  | ok ticket =>
    obtain ⟨backedAfter, charged, credit, credited, small⟩ := granted ticket rfl
    refine ⟨backedAfter, ?_, nofun⟩
    cases source with
    | none =>
      refine .inl ?_
      rw [charged.chargedBytes_eq backed backedAfter, charged.byteLimit]
      have free : credit = 0 := credited
      omega
    | some source =>
      -- A mint under a staged source exceeds the limit by that source at most.
      obtain ⟨place, member, stored, same, rfl⟩ := credited
      obtain ⟨there, vacant, added⟩ := charged.added
      refine .inr ⟨source.key, place, member, rfl, ?_, same, ?_⟩
      · rw [added, Function.update_of_ne fun equal => absurd (Prod.mk.inj equal).2 (by decide),
          stored]
      · rw [charged.chargedBytes_eq backed backedAfter, charged.byteLimit]
        omega

theorem releaseRole_settles :
    ∃ reply after, done (desk.releaseRole role key) = some (reply, after) ∧
      Performed slotBytes others desk (closeWindow window role key) reply after := by
  obtain ⟨after, released, backedAfter, change, byteLimit⟩ := releaseRole_spec backed role key
  rw [released]
  exact ⟨.ok (), after, rfl, backedAfter, within.released backed backedAfter change byteLimit,
    nofun⟩

theorem releaseRaw_settles :
    ∃ reply after, done (desk.releaseRaw reservation) = some (reply, after) ∧
      Performed slotBytes others desk window reply after := by
  have kept : ∃ reply after, done (some desk) = some (reply, after) ∧
      Performed slotBytes others desk window reply after :=
    ⟨.ok (), desk, rfl, backed, within, nofun⟩
  unfold releaseRaw
  split
  case isFalse => exact kept
  cases reservation.rawKey with
  | none => exact kept
  | some key => exact releaseRole_settles backed within .raw key

theorem releaseAllH8open_settles :
    ∃ reply after, done desk.releaseAllH8open = some (reply, after) ∧
      Performed slotBytes others desk window reply after := by
  obtain ⟨after, released, backedAfter, dropped, byteLimit⟩ := releaseAllH8open_spec backed
  rw [released]
  exact ⟨.ok (), after, rfl, backedAfter, within.releasedAll backed backedAfter dropped byteLimit,
    nofun⟩

theorem prepareCapacity_settles :
    ∃ reply after, some (desk.prepareCapacity ⟨slotBytes, succeeds⟩) = some (reply, after) ∧
      Performed slotBytes others desk window reply after := by
  obtain ⟨reply, after, done, untouched, _⟩ := prepareCapacity_spec slotBytes succeeds desk
  exact ⟨reply, after, congrArg some done, backed.untouched untouched,
    within.untouched backed untouched, fun _ _ => untouched⟩

/-- Every call completes and keeps the books. -/
theorem perform_settles (call : LedgerCall) :
    ∃ reply after, desk.perform ⟨slotBytes, succeeds⟩ call = some (reply, after) ∧
      Performed slotBytes others desk (noteWindow window reply call) reply after := by
  cases call with
  | prepareCapacity => exact prepareCapacity_settles backed within succeeds
  | reserveRaw native => exact (reserveRaw_settles backed within succeeds native).outcome
  | releaseRaw reservation => exact releaseRaw_settles backed within reservation
  | chargeH8openFromRaw ordinal bytes reservation =>
    exact (chargeUnder_settles backed within succeeds .h8Open _ bytes reservation).outcome
  | chargeModelFromOpen token bytes reservation =>
    exact (chargeUnder_settles backed within succeeds .model _ bytes reservation).outcome
  | charge ticket bytes =>
    exact (chargeRole_settles backed within succeeds .h9Staged _ none bytes).outcome
  | chargeCollected native ticket bytes origin =>
    exact (chargeCollected_settles backed within succeeds native ticket bytes origin).outcome
  | releaseCollected | release => exact releaseRole_settles backed within .h9Staged _
  | chargeH8open ordinal bytes =>
    exact (chargeRole_settles backed within succeeds .h8Open _ none bytes).outcome
  | releaseH8open ordinal => exact releaseRole_settles backed within .h8Open _
  | releaseAllH8open => exact releaseAllH8open_settles backed within
  | chargeModel token bytes =>
    exact (chargeRole_settles backed within succeeds .model _ none bytes).outcome
  | releaseModel token => exact releaseRole_settles backed within .model _
  | chargeDeferred token bytes =>
    exact (chargeRole_settles backed within succeeds .model _ none bytes).outcome
  | releaseDeferred token => exact releaseRole_settles backed within .model _
  | mintKeyassoc bytes => exact mintKeyassocFromStage_settles backed within succeeds bytes none
  | mintKeyassocFromStage bytes source =>
    exact mintKeyassocFromStage_settles backed within succeeds bytes source
  | releaseKeyassoc ticket => exact releaseRole_settles backed within .association _

end Desk

/-! ## Runs -/

/-- A desk with what the pool's other holders have and the mint still waiting
for its staged source to be released. -/
structure Books where
  desk : Desk
  others : Nat
  window : Option RoleKey

/-- What may happen to the pool: a call on the ledger, whose table allocation
may fail, or another holder's lease taken or dropped. -/
inductive LedgerEvent where
  | call (succeeds : Bool) (call : LedgerCall)
  | othersAcquire (bytes : Nat)
  | othersRefund (bytes : Nat)

namespace Books

def advance (slotBytes : Nat) (books : Books) : LedgerEvent → Option Books
  | .call succeeds call => do
      let (reply, desk) ← books.desk.perform ⟨slotBytes, succeeds⟩ call
      some { books with desk := desk, window := Desk.noteWindow books.window reply call }
  | .othersAcquire bytes =>
    match books.desk.pool.acquire bytes with
    | (pool, .error _) => some { books with desk := { books.desk with pool := pool } }
    | (pool, .ok lease) =>
      some { books with desk := { books.desk with pool := pool }, others := books.others + lease }
  | .othersRefund bytes =>
    -- No holder drops more than it leased.
    let lease := min bytes books.others
    some { books with
      desk := { books.desk with pool := books.desk.pool.refund lease }
      others := books.others - lease }

def run (slotBytes : Nat) (books : Books) (events : List LedgerEvent) : Option Books :=
  events.foldlM (advance slotBytes) books

/-- A ledger just bound to a pool that others already use. -/
def opened (generation : Option LedgerGeneration) (pool : SharedPool) : Books where
  desk := { ledger := StagingLedger.withResources generation, pool := pool }
  others := pool.charged
  window := none

/-- What holds between any two calls. -/
structure Sound (slotBytes : Nat) (books : Books) : Prop where
  backed : books.desk.Backed slotBytes books.others
  within : books.desk.Within books.window

variable {slotBytes : Nat} {books after : Books}

theorem opened_sound (slotBytes : Nat) (generation : Option LedgerGeneration)
    (pool : SharedPool) : (opened generation pool).Sound slotBytes where
  backed := {
    unpaid := fun _ => rfl
    paid := nofun
    leased := nofun
    charged := by simp [opened, StagingLedger.held, StagingLedger.members, Register.total,
      StagingLedger.withResources] }
  within := .inl (Nat.zero_le _)

/-- Another holder moves the pool's charge and its own share alike. -/
theorem Sound.elsewhere (sound : books.Sound slotBytes) {pool : SharedPool} {others : Nat}
    (moved : pool.charged + books.others = books.desk.pool.charged + others) :
    ({ books with desk := { books.desk with pool := pool }, others := others } : Books).Sound
      slotBytes := by
  refine ⟨⟨sound.backed.unpaid, sound.backed.paid, sound.backed.leased, ?_⟩, sound.within⟩
  have charged := sound.backed.charged
  change pool.charged = others + books.desk.ledger.held
  omega

theorem advance_sound (sound : books.Sound slotBytes) (event : LedgerEvent) :
    ∃ after, books.advance slotBytes event = some after ∧ after.Sound slotBytes := by
  cases event with
  | call succeeds call =>
    obtain ⟨reply, desk, done, performed⟩ :=
      Desk.perform_settles sound.backed sound.within succeeds call
    refine ⟨{ books with desk := desk, window := Desk.noteWindow books.window reply call }, ?_,
      performed.backed, performed.within⟩
    rw [advance, done]
    rfl
  | othersAcquire bytes =>
    dsimp only [advance]
    cases acquired : books.desk.pool.acquire bytes with
    | mk pool answer =>
      cases answer with
      | error refusal =>
        have charged := (acquire_error acquired).charged
        exact ⟨_, rfl, sound.elsewhere (congrArg (· + books.others) charged)⟩
      | ok lease =>
        obtain ⟨rfl, granted⟩ := acquire_ok acquired
        have moved : pool.charged + books.others =
            books.desk.pool.charged + (books.others + lease) := by
          rw [granted.charged]
          omega
        exact ⟨_, rfl, sound.elsewhere moved⟩
  | othersRefund bytes =>
    have charged := sound.backed.charged
    have moved : (books.desk.pool.refund (min bytes books.others)).charged + books.others =
        books.desk.pool.charged + (books.others - min bytes books.others) := by
      change books.desk.pool.charged - min bytes books.others + _ = _
      omega
    exact ⟨_, rfl, sound.elsewhere moved⟩

theorem run_sound (events : List LedgerEvent) (sound : books.Sound slotBytes) :
    ∃ after, books.run slotBytes events = some after ∧ after.Sound slotBytes := by
  induction events generalizing books with
  | nil => exact ⟨books, rfl, sound⟩
  | cons event events ih =>
    obtain ⟨middle, done, soundMiddle⟩ := advance_sound sound event
    obtain ⟨after, rest, soundAfter⟩ := ih soundMiddle
    refine ⟨after, ?_, soundAfter⟩
    rw [run, List.foldlM_cons, done]
    exact rest

/-- The ledger's books seen from outside. -/
structure Conserved (slotBytes : Nat) (books : Books) : Prop where
  storage : books.desk.ledger.tableStorage =
    books.desk.ledger.table.map fun _ => Desk.storage slotBytes
  charged : books.desk.pool.charged = books.others + (books.desk.ledger.tableStorage.getD 0 +
    ∑ place, ∑ lane, (books.desk.ledger.members (place, lane)).elim 0 fun member =>
      member.bytes + ownedAllocationPadding)
  calls : ∀ succeeds call, ∃ reply after,
    books.desk.perform ⟨slotBytes, succeeds⟩ call = some (reply, after) ∧
      ∀ refusal, reply = .error refusal → books.desk.Untouched slotBytes after
  limited : books.window = none → books.desk.ledger.chargedBytes ≤ books.desk.ledger.byteLimit
  transient : ∀ key, books.window = some key → ∃ staged,
    books.desk.ledger.chargedBytes ≤ books.desk.ledger.byteLimit + staged ∧
      (staged = 0 ∨ ∃ place member, member.key = key ∧ member.bytes = staged ∧
        books.desk.ledger.members (place, Role.h9Staged.index) = some member)
  dropped : books.desk.drop.charged = books.others

theorem Sound.conserved (sound : books.Sound slotBytes) : books.Conserved slotBytes where
  storage := by
    cases present : books.desk.ledger.table with
    | none => exact sound.backed.unpaid present
    | some table => exact (sound.backed.paid table present).1
  charged := by
    rw [sound.backed.charged, StagingLedger.held, Register.total, Fintype.sum_prod_type]
    rfl
  calls succeeds call := by
    obtain ⟨reply, after, done, performed⟩ :=
      Desk.perform_settles sound.backed sound.within succeeds call
    exact ⟨reply, after, done, performed.refused⟩
  limited closed := by
    rcases sound.within with small | ⟨key, place, member, waiting, _⟩
    · exact small
    · rw [closed] at waiting
      cases waiting
  transient key opened := by
    rcases sound.within with small | ⟨held, place, member, same, stored, named, bound⟩
    · exact ⟨0, small, .inl rfl⟩
    · rw [opened] at same
      exact ⟨member.bytes, bound, .inr ⟨place, member, named.trans (Option.some.inj same).symm, rfl,
        stored⟩⟩
  dropped := Desk.drop_charged sound.backed

/-- From any pool, every sequence of calls and of other holders' leases runs to
its end and leaves the ledger's books conserved. -/
theorem run_conserved (slotBytes : Nat) (generation : Option LedgerGeneration)
    (pool : SharedPool) (events : List LedgerEvent) :
    ∃ books, (opened generation pool).run slotBytes events = some books ∧
      books.Conserved slotBytes := by
  obtain ⟨books, done, sound⟩ := run_sound events (opened_sound slotBytes generation pool)
  exact ⟨books, done, sound.conserved⟩

end Books

end P11Scope.Journal
