import P11Scope.Lib.Classes
import P11Scope.Journal.TableOps

/-!
# Custody of reservations

What the callers of a reservation table know from its answers alone: the ids
they were handed, the id each membership was placed under, and the merges that
were accepted.  Slots, aliases and links take no part in it.
-/

namespace P11Scope.Journal

open Lib Function

variable {C : Type} {capacity : Nat}

/-! ## Commands and answers -/

inductive Command (C : Type) where
  | insert (role : Role) (key : RoleKey) (existing : Option ReservationId) (bytes : Nat)
      (charge : C)
  | release (role : Role) (key : RoleKey)
  | merge (left right : ReservationId)
  | transfer (source : Role) (sourceKey : RoleKey) (target : Role) (targetKey : RoleKey)
      (bytes : Nat) (charge : C)
  | releaseRole (role : Role)

inductive Answer (C : Type) where
  | refused (refusal : Refusal)
  | reserved (id : ReservationId)
  | released (bytes : Nat) (charge : C)
  | absent
  | moved (id : ReservationId) (bytes : Nat) (charge : C)
  | dropped

/-- Answers that must leave the table alone. -/
def Answer.Declines : Answer C → Prop
  | .refused _ | .absent => True
  | _ => False

namespace ReservationTable

def execute (table : ReservationTable C capacity) :
    Command C → Option (Answer C × ReservationTable C capacity)
  | .insert role key existing bytes charge =>
    (table.insert role key existing bytes charge).map fun
      | (.ok id, after) => (.reserved id, after)
      | (.error refusal, after) => (.refused refusal, after)
  | .release role key =>
    (table.release role key).map fun
      | (some (bytes, charge), after) => (.released bytes charge, after)
      | (none, after) => (.absent, after)
  | .merge left right =>
    (table.merge left right).map fun
      | (.ok id, after) => (.reserved id, after)
      | (.error refusal, after) => (.refused refusal, after)
  | .transfer source sourceKey target targetKey bytes charge =>
    (table.transfer source sourceKey target targetKey bytes charge).map fun
      | (.ok (id, bytes, charge), after) => (.moved id bytes charge, after)
      | (.error refusal, after) => (.refused refusal, after)
  | .releaseRole role => (table.releaseRole role).map fun after => (.dropped, after)

end ReservationTable

/-! ## The history -/

structure Custody where
  /-- Ids handed out for fresh operations, newest first. -/
  minted : List ReservationId := []
  /-- The id each present membership was placed under. -/
  held : Role × RoleKey → Option ReservationId := fun _ => none
  /-- Accepted merges, newest first. -/
  merges : List (ReservationId × ReservationId) := []

namespace Custody

def hold (custody : Custody) (role : Role) (key : RoleKey) (id : Option ReservationId) :
    Custody :=
  { custody with held := update custody.held (role, key) id }

def note (custody : Custody) : Command C → Answer C → Custody
  | .insert role key none _ _, .reserved id =>
    { custody.hold role key (some id) with minted := id :: custody.minted }
  | .insert role key (some id) _ _, .reserved _ => custody.hold role key (some id)
  | .release role key, .released _ _ => custody.hold role key none
  | .merge left right, .reserved _ => { custody with merges := (left, right) :: custody.merges }
  | .transfer source sourceKey target targetKey _ _, .moved _ _ _ =>
    (custody.hold source sourceKey none).hold target targetKey
      (custody.held (source, sourceKey))
  | .releaseRole role, .dropped =>
    { custody with held := fun pair => if pair.1 = role then none else custody.held pair }
  | _, _ => custody

end Custody

/-! ## The register against the history -/

namespace Register

variable {register : Register C capacity} {custody : Custody} {place : Fin capacity}
variable {role : Role} {id : ReservationId}

/-- An id is an alias of the operation at a place. -/
def At (register : Register C capacity) (place : Fin capacity) (id : ReservationId) : Prop :=
  ∃ lane, register.aliases (place, lane) = some id

theorem Filed.at_unique (filed : Filed register) {other : Fin capacity}
    (here : register.At place id) (there : register.At other id) : place = other := by
  obtain ⟨lane, named⟩ := here
  obtain ⟨lane', named'⟩ := there
  exact congrArg Prod.fst (filed.idsApart _ _ id named named')

/-- The register holds exactly what the history says. -/
structure Kept (register : Register C capacity) (custody : Custody) : Prop where
  classes : ∀ place id other, register.At place id →
    (SameClass custody.merges id other ↔ register.At place other)
  listed : ∀ place (role : Role) member, register.members (place, role.index) = some member →
    ∃ id, custody.held (role, member.key) = some id ∧ register.At place id
  backed : ∀ (role : Role) key id, custody.held (role, key) = some id →
    ∃ place member, register.members (place, role.index) = some member ∧ member.key = key ∧
      register.At place id
  minted : ∀ id, id ∈ custody.minted ↔ id.value ≠ 0 ∧ id.value ≤ register.next
  once : custody.minted.Nodup
  merged : ∀ pair ∈ custody.merges, pair.1 ∈ custody.minted ∧ pair.2 ∈ custody.minted

theorem Kept.minted_of_at (kept : Kept register custody) (filed : Filed register)
    (here : register.At place id) : id ∈ custody.minted := by
  obtain ⟨lane, named⟩ := here
  exact (kept.minted id).mpr (filed.minted _ id named)

/-- The released ids are the minted ones whose class holds no membership. -/
theorem Kept.released_iff (kept : Kept register custody) (used : Used register)
    (filed : Filed register) (id : ReservationId) :
    ((id.value ≠ 0 ∧ id.value ≤ register.next) ∧ ∀ place, ¬ register.At place id) ↔
      id ∈ custody.minted ∧
        ∀ role key other, custody.held (role, key) = some other →
          ¬ SameClass custody.merges id other := by
  rw [kept.minted]
  refine and_congr_right fun _ => ⟨fun gone role key other held joined => ?_,
    fun free place here => ?_⟩
  · obtain ⟨place, member, _, _, there⟩ := kept.backed role key other held
    exact gone place ((kept.classes place other id there).mp joined.symm)
  · obtain ⟨lane, named⟩ := here
    have occupied : register.vacant place = none := by
      cases vacant : register.vacant place with
      | none => rfl
      | some _ =>
        rw [(filed.empty place vacant lane).2] at named
        cases named
    obtain ⟨role, present⟩ := used place occupied
    obtain ⟨member, stored⟩ := Option.isSome_iff_exists.mp present
    rw [← ReservationTable.atLane_index role] at stored
    obtain ⟨other, held, there⟩ := kept.listed place _ member stored
    exact free _ _ other held ((kept.classes place id other ⟨lane, named⟩).mpr there)

/-! ### Steps -/

theorem eq_of_index {first second : Role} (same : first.index = second.index) : first = second := by
  by_contra apart
  exact ReservationTable.index_injective apart same

namespace Kept

variable {member : Membership C}

section

variable (kept : Kept register custody)
include kept

theorem put (here : register.At place id) (free : register.members (place, role.index) = none)
    (unused : ∀ other, ∀ present ∈ register.members (other, role.index), present.key ≠ member.key) :
    Kept (register.put (place, role.index) member) (custody.hold role member.key (some id)) where
  classes := kept.classes
  minted := kept.minted
  once := kept.once
  merged := kept.merged
  listed other role' present stored := by
    change update _ _ _ _ = _ at stored
    by_cases same : (other, role'.index) = (place, role.index)
    · obtain ⟨rfl, lane⟩ := Prod.mk.inj same
      cases eq_of_index lane
      rw [update_self] at stored
      cases stored
      exact ⟨id, update_self .., here⟩
    · rw [update_of_ne same] at stored
      obtain ⟨holder, held, there⟩ := kept.listed other role' present stored
      refine ⟨holder, (update_of_ne ?_ ..).trans held, there⟩
      intro clash
      obtain ⟨rfl, key⟩ := Prod.mk.inj clash
      exact unused other present stored key
  backed role' key other held := by
    change update _ _ _ _ = _ at held
    by_cases same : (role', key) = (role, member.key)
    · obtain ⟨rfl, rfl⟩ := Prod.mk.inj same
      rw [update_self] at held
      cases held
      exact ⟨place, member, update_self .., rfl, here⟩
    rw [update_of_ne same] at held
    obtain ⟨there, present, stored, named, at_⟩ := kept.backed role' key other held
    refine ⟨there, present, (update_of_ne ?_ ..).trans stored, named, at_⟩
    intro clash
    rw [clash, free] at stored
    cases stored

theorem take (filed : Filed register) (stored : register.members (place, role.index) = some member)
    : Kept (register.take (place, role.index) member) (custody.hold role member.key none) where
  classes := kept.classes
  minted := kept.minted
  once := kept.once
  merged := kept.merged
  listed other role' present found := by
    change update _ _ _ _ = _ at found
    by_cases same : (other, role'.index) = (place, role.index)
    · rw [same, update_self] at found
      cases found
    rw [update_of_ne same] at found
    obtain ⟨holder, held, there⟩ := kept.listed other role' present found
    refine ⟨holder, (update_of_ne ?_ ..).trans held, there⟩
    intro clash
    obtain ⟨rfl, key⟩ := Prod.mk.inj clash
    exact same (by rw [filed.keysApart _ other place present member found stored key])
  backed role' key other held := by
    change update _ _ _ _ = _ at held
    by_cases same : (role', key) = (role, member.key)
    · rw [same, update_self] at held
      cases held
    rw [update_of_ne same] at held
    obtain ⟨there, present, found, named, at_⟩ := kept.backed role' key other held
    refine ⟨there, present, (update_of_ne ?_ ..).trans found, named, at_⟩
    intro clash
    rw [clash, stored] at found
    cases found
    exact same (Prod.ext (eq_of_index (Prod.mk.inj clash).2) named.symm)

theorem close (bare : ∀ lane, register.members (place, lane) = none) :
    Kept (register.close place) custody := by
  have at_iff : ∀ other id, (register.close place).At other id ↔
      other ≠ place ∧ register.At other id := by
    intro other id
    unfold At
    simp only [Register.close, ReservationTable.replaceLanes]
    by_cases same : other = place
    · simp [same]
    · simp [same]
  have elsewhere : ∀ {other lane present}, register.members (other, lane) = some present →
      other ≠ place := by
    rintro other lane present stored rfl
    rw [bare lane] at stored
    cases stored
  refine ⟨fun other id joined here => ?_, fun other role present stored => ?_,
    fun role key id held => ?_, kept.minted, kept.once, kept.merged⟩
  · obtain ⟨apart, here⟩ := (at_iff other id).mp here
    rw [at_iff, kept.classes other id joined here]
    exact ⟨fun there => ⟨apart, there⟩, And.right⟩
  · obtain ⟨holder, held, there⟩ := kept.listed other role present stored
    exact ⟨holder, held, (at_iff other holder).mpr ⟨elsewhere stored, there⟩⟩
  · obtain ⟨other, present, stored, named, there⟩ := kept.backed role key id held
    exact ⟨other, present, stored, named, (at_iff other id).mpr ⟨elsewhere stored, there⟩⟩

theorem tidy (place : Fin capacity) : Kept (register.tidy place) custody := by
  unfold Register.tidy
  split
  · rename_i done
    exact kept.close fun lane => Option.isNone_iff_eq_none.mp (done.2 lane)
  · exact kept

theorem occupy (filed : Filed register) (unspent : register.next ≠ UInt64.ofNat u64Max)
    (vacant : register.vacant place = some ()) : Kept (register.occupy place)
      { custody with minted := ⟨register.next + 1⟩ :: custody.minted } := by
  let fresh : ReservationId := ⟨register.next + 1⟩
  have grown := Filed.next_grows unspent
  have unminted : fresh ∉ custody.minted := by
    intro member
    have bound := UInt64.le_iff_toNat_le.mp ((kept.minted fresh).mp member).2
    rw [grown] at bound
    omega
  have unnamed : ∀ id, ¬ register.At place id := by
    rintro id ⟨lane, named⟩
    rw [(filed.empty place vacant lane).2] at named
    cases named
  have at_iff : ∀ other id, (register.occupy place).At other id ↔
      register.At other id ∨ (other = place ∧ id = fresh) := by
    intro other id
    constructor
    · rintro ⟨lane, named⟩
      change update _ _ _ _ = _ at named
      by_cases same : (other, lane) = (place, 0)
      · rw [same, update_self] at named
        cases named
        exact .inr ⟨(Prod.mk.inj same).1, rfl⟩
      · rw [update_of_ne same] at named
        exact .inl ⟨lane, named⟩
    · rintro (⟨lane, named⟩ | ⟨rfl, rfl⟩)
      · refine ⟨lane, (update_of_ne ?_ ..).trans named⟩
        rintro ⟨⟩
        exact unnamed id ⟨0, named⟩
      · exact ⟨0, update_self ..⟩
  refine ⟨fun other id joined here => ?_, fun other role present stored => ?_,
    fun role key id held => ?_, fun id => ?_, List.nodup_cons.mpr ⟨unminted, kept.once⟩,
    fun pair member => ?_⟩
  · rw [at_iff] at here ⊢
    rcases here with here | ⟨rfl, rfl⟩
    · rw [kept.classes other id joined here]
      refine ⟨.inl, fun either => either.resolve_right ?_⟩
      rintro ⟨rfl, _⟩
      exact unnamed id here
    -- The fresh id is in no merge, so its class is itself.
    constructor
    · intro class_
      rcases SameClass.eq_or_known kept.merged class_ with rfl | known
      · exact .inr ⟨rfl, rfl⟩
      · exact absurd known.1 unminted
    · rintro (there | ⟨_, rfl⟩)
      · exact absurd there (unnamed joined)
      · exact SameClass.refl _
  · obtain ⟨holder, held, there⟩ := kept.listed other role present stored
    exact ⟨holder, held, (at_iff other holder).mpr (.inl there)⟩
  · obtain ⟨other, present, stored, named, there⟩ := kept.backed role key id held
    exact ⟨other, present, stored, named, (at_iff other id).mpr (.inl there)⟩
  · rw [List.mem_cons, kept.minted]
    change _ ↔ id.value ≠ 0 ∧ id.value ≤ register.next + 1
    obtain ⟨value⟩ := id
    simp only [ReservationId.mk.injEq, ne_eq, ← UInt64.toNat_inj, UInt64.le_iff_toNat_le, grown,
      UInt64.toNat_zero]
    omega
  · obtain ⟨first, second⟩ := kept.merged pair member
    exact ⟨List.mem_cons_of_mem _ first, List.mem_cons_of_mem _ second⟩

end

/-! ### Merges -/

variable {left right : ReservationId} {leftPlace rightPlace : Fin capacity}

section

variable (kept : Kept register custody) (filed : Filed register)
include kept filed

/-- One more merge, seen from an alias of a place. -/
theorem classes_merged (leftAt : register.At leftPlace left)
    (rightAt : register.At rightPlace right) (here : register.At place id) (other : ReservationId) :
    SameClass ((left, right) :: custody.merges) id other ↔
      register.At place other ∨ (place = leftPlace ∧ register.At rightPlace other) ∨
        (place = rightPlace ∧ register.At leftPlace other) := by
  have toLeft : SameClass custody.merges id left ↔ place = leftPlace := by
    rw [kept.classes place id left here]
    exact ⟨fun there => filed.at_unique there leftAt, fun same => same ▸ leftAt⟩
  have toRight : SameClass custody.merges id right ↔ place = rightPlace := by
    rw [kept.classes place id right here]
    exact ⟨fun there => filed.at_unique there rightAt, fun same => same ▸ rightAt⟩
  rw [SameClass.cons_iff, toLeft, toRight, kept.classes place id other here,
    kept.classes rightPlace right other rightAt, kept.classes leftPlace left other leftAt]

theorem merged_cons (leftAt : register.At leftPlace left) (rightAt : register.At rightPlace right) :
    ∀ pair ∈ (left, right) :: custody.merges,
      pair.1 ∈ custody.minted ∧ pair.2 ∈ custody.minted := by
  intro pair member
  rcases List.mem_cons.mp member with rfl | inside
  · exact ⟨kept.minted_of_at filed leftAt, kept.minted_of_at filed rightAt⟩
  · exact kept.merged pair inside

/-- Merging two ids of one operation. -/
theorem merge_same (leftAt : register.At place left) (rightAt : register.At place right) :
    Kept register { custody with merges := (left, right) :: custody.merges } where
  classes there id other here := by
    rw [kept.classes_merged filed leftAt rightAt here]
    constructor
    · rintro (same | ⟨rfl, same⟩ | ⟨rfl, same⟩) <;> exact same
    · exact .inl
  listed := kept.listed
  backed := kept.backed
  minted := kept.minted
  once := kept.once
  merged := kept.merged_cons filed leftAt rightAt

end

variable {lanes : Fin roleCount → Option ReservationId}

theorem join_at (distinct : leftPlace ≠ rightPlace)
    (gathered : Filed.Gathered register leftPlace rightPlace lanes) (there : Fin capacity)
    (id : ReservationId) :
    (register.join leftPlace rightPlace lanes).At there id ↔
      (there = leftPlace ∧ (register.At leftPlace id ∨ register.At rightPlace id)) ∨
        (there ≠ leftPlace ∧ there ≠ rightPlace ∧ register.At there id) := by
  constructor
  · rintro ⟨lane, named⟩
    rcases Filed.join_alias named with ⟨here, placed⟩ | ⟨notLeft, notRight, named⟩
    · exact .inl ⟨here, (gathered.origin id).mp ⟨lane, placed⟩⟩
    · exact .inr ⟨notLeft, notRight, lane, named⟩
  · simp only [At, Register.join, ReservationTable.replaceLanes]
    rintro (⟨rfl, named⟩ | ⟨notLeft, notRight, lane, named⟩)
    · obtain ⟨lane, placed⟩ := (gathered.origin id).mpr named
      exact ⟨lane, by rw [if_neg distinct, if_pos rfl, placed]⟩
    · exact ⟨lane, by rw [if_neg notRight, if_neg notLeft, named]⟩

/-- Where a membership came from, and where it went. -/
theorem join_members (distinct : leftPlace ≠ rightPlace)
    (clear : ∀ lane, (register.members (rightPlace, lane)).isSome →
      register.members (leftPlace, lane) = none) (there : Fin capacity) (lane : Fin roleCount) :
    (register.join leftPlace rightPlace lanes).members (there, lane) = some member ↔
      (there ≠ rightPlace ∧ register.members (there, lane) = some member) ∨
        (there = leftPlace ∧ register.members (rightPlace, lane) = some member) := by
  change register.members (register.source leftPlace rightPlace (there, lane)) = some member ↔ _
  by_cases onRight : there = rightPlace
  · subst onRight
    rw [Filed.source_right clear]
    simp [Ne.symm distinct]
  by_cases onLeft : there = leftPlace
  · subst onLeft
    by_cases moved : (register.members (rightPlace, lane)).isSome
    · rw [Register.source, if_pos moved, clear lane moved]
      simp
    · rw [Register.source, Option.not_isSome_iff_eq_none.mp moved]
      simp [onRight]
  · rw [Filed.source_elsewhere onLeft onRight]
    simp [onRight, onLeft]

theorem join (kept : Kept register custody) (filed : Filed register)
    (distinct : leftPlace ≠ rightPlace) (leftAt : register.At leftPlace left)
    (rightAt : register.At rightPlace right)
    (clear : ∀ lane, (register.members (rightPlace, lane)).isSome →
      register.members (leftPlace, lane) = none)
    (gathered : Filed.Gathered register leftPlace rightPlace lanes) :
    Kept (register.join leftPlace rightPlace lanes)
      { custody with merges := (left, right) :: custody.merges } where
  minted := kept.minted
  once := kept.once
  merged := kept.merged_cons filed leftAt rightAt
  classes there id other here := by
    rw [join_at distinct gathered] at here ⊢
    rcases here with ⟨rfl, here | here⟩ | ⟨notLeft, notRight, here⟩
    · rw [kept.classes_merged filed leftAt rightAt here]
      simp [distinct]
    · rw [kept.classes_merged filed leftAt rightAt here]
      simp [Ne.symm distinct, or_comm]
    · rw [kept.classes_merged filed leftAt rightAt here]
      simp [notLeft, notRight]
  listed there role present stored := by
    rcases (join_members distinct clear there _).mp stored with ⟨notRight, found⟩ | ⟨rfl, found⟩
    · obtain ⟨holder, held, at_⟩ := kept.listed there role present found
      refine ⟨holder, held, (join_at distinct gathered there holder).mpr ?_⟩
      by_cases onLeft : there = leftPlace
      · exact .inl ⟨onLeft, .inl (onLeft ▸ at_)⟩
      · exact .inr ⟨onLeft, notRight, at_⟩
    · obtain ⟨holder, held, at_⟩ := kept.listed rightPlace role present found
      exact ⟨holder, held, (join_at distinct gathered _ holder).mpr (.inl ⟨rfl, .inr at_⟩)⟩
  backed role key id held := by
    obtain ⟨there, present, stored, named, at_⟩ := kept.backed role key id held
    by_cases onRight : there = rightPlace
    · subst onRight
      exact ⟨leftPlace, present,
        (join_members distinct clear leftPlace _).mpr (.inr ⟨rfl, stored⟩), named,
        (join_at distinct gathered leftPlace id).mpr (.inl ⟨rfl, .inr at_⟩)⟩
    refine ⟨there, present,
      (join_members distinct clear there _).mpr (.inl ⟨onRight, stored⟩), named,
      (join_at distinct gathered there id).mpr ?_⟩
    by_cases onLeft : there = leftPlace
    · exact .inl ⟨onLeft, .inl (onLeft ▸ at_)⟩
    · exact .inr ⟨onLeft, onRight, at_⟩

end Kept

end Register

end P11Scope.Journal
