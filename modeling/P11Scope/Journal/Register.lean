import P11Scope.Journal.TableLinks

/-!
# What a table holds

The contents and the counters of a table, without its links.  A register is
filed when its counters are the true counts and no key or id stands twice.
-/

namespace P11Scope.Journal

open Lib Function Finset

variable {C : Type} {capacity : Nat}

structure Register (C : Type) (capacity : Nat) where
  members : Node capacity → Option (Membership C)
  aliases : Node capacity → Option ReservationId
  vacant : Fin capacity → Option Unit
  next : UInt64
  live : Nat
  bytes : Nat
  populations : Fin roleCount → Nat

namespace Register

variable {register : Register C capacity} {place : Fin capacity} {node : Node capacity}
  (weight : Fin roleCount → Membership C → Nat) (members : Node capacity → Option (Membership C))

/-- Sum a weight over the stored memberships. -/
def total : Nat :=
  ∑ node, (members node).elim 0 (weight node.2)

theorem total_update (node : Node capacity) (value : Option (Membership C)) :
    total weight (update members node value) + (members node).elim 0 (weight node.2) =
      total weight members + value.elim 0 (weight node.2) := by
  unfold total
  rw [← add_sum_erase _ _ (mem_univ node), update_self,
    ← add_sum_erase Finset.univ (fun node => (members node).elim 0 (weight node.2))
      (mem_univ node)]
  have rest : ∑ other ∈ Finset.univ.erase node,
        (update members node value other).elim 0 (weight other.2) =
      ∑ other ∈ Finset.univ.erase node, (members other).elim 0 (weight other.2) := by
    refine sum_congr rfl fun other member => ?_
    rw [update_of_ne (ne_of_mem_erase member)]
  omega

/-- Places that hold an operation. -/
def occupied (vacant : Fin capacity → Option Unit) : Finset (Fin capacity) :=
  Finset.univ.filter fun place => vacant place = none

theorem mem_occupied {vacant : Fin capacity → Option Unit} :
    place ∈ occupied vacant ↔ vacant place = none := by
  simp [occupied]

/-- The counters are the true counts; keys and ids are unique; every operation
has a first alias. -/
structure Filed (register : Register C capacity) : Prop where
  live : register.live = (occupied register.vacant).card
  bytes : register.bytes = total (fun _ member => member.bytes) register.members
  populations : ∀ lane, register.populations lane =
    total (fun other _ => if other = lane then 1 else 0) register.members
  keysApart : ∀ lane place other member held, register.members (place, lane) = some member →
    register.members (other, lane) = some held → member.key = held.key → place = other
  idsApart : ∀ node other id, register.aliases node = some id →
    register.aliases other = some id → node = other
  minted : ∀ node id, register.aliases node = some id → id.value ≠ 0 ∧ id.value ≤ register.next
  headed : ∀ place, register.vacant place = none → (register.aliases (place, 0)).isSome
  empty : ∀ place, register.vacant place = some () → ∀ lane,
    register.members (place, lane) = none ∧ register.aliases (place, lane) = none

/-- Every operation has a role present. -/
def Used (register : Register C capacity) : Prop :=
  ∀ place, register.vacant place = none → ∃ lane, (register.members (place, lane)).isSome

/-! ## Changes -/

def put (register : Register C capacity) (node : Node capacity) (member : Membership C) :
    Register C capacity :=
  { register with
    members := update register.members node (some member)
    bytes := register.bytes + member.bytes
    populations := update register.populations node.2 (register.populations node.2 + 1) }

def take (register : Register C capacity) (node : Node capacity) (member : Membership C) :
    Register C capacity :=
  { register with
    members := update register.members node none
    bytes := register.bytes - member.bytes
    populations := update register.populations node.2 (register.populations node.2 - 1) }

theorem take_members (register : Register C capacity) (node : Node capacity)
    (member : Membership C) : (register.take node member).members =
      update register.members node none := rfl

def occupy (register : Register C capacity) (place : Fin capacity) : Register C capacity :=
  { register with
    aliases := update register.aliases (place, 0) (some ⟨register.next + 1⟩)
    vacant := update register.vacant place none
    next := register.next + 1
    live := register.live + 1 }

def close (register : Register C capacity) (place : Fin capacity) : Register C capacity :=
  { register with
    aliases := ReservationTable.replaceLanes place (fun _ => none) register.aliases
    vacant := update register.vacant place (some ())
    live := register.live - 1 }

/-- Close a place whose operation has no role left. -/
def tidy (register : Register C capacity) (place : Fin capacity) : Register C capacity :=
  if register.vacant place = none ∧ ∀ lane, (register.members (place, lane)).isNone then
    register.close place
  else register

theorem tidy_members (register : Register C capacity) (place : Fin capacity) :
    (register.tidy place).members = register.members := by
  unfold tidy
  split <;> rfl

/-- Where a membership is found once the right operation moved into the left. -/
def source (register : Register C capacity) (left right : Fin capacity) (node : Node capacity) :
    Node capacity :=
  if (register.members (right, node.2)).isSome then (Equiv.swap left right node.1, node.2)
  else node

/-- Move the right operation into the left one, whose aliases are then `lanes`. -/
def join (register : Register C capacity) (left right : Fin capacity)
    (lanes : Fin roleCount → Option ReservationId) : Register C capacity :=
  { register with
    members := fun node => register.members (register.source left right node)
    aliases := ReservationTable.replaceLanes right (fun _ => none)
      (ReservationTable.replaceLanes left lanes register.aliases)
    vacant := update register.vacant right (some ())
    live := register.live - 1 }

namespace Filed

/-- Writing one lane: the counters follow what was and what is stored there. -/
theorem write (filed : Filed register) {value : Option (Membership C)} {bytes population : Nat}
    (held : value.isSome → register.vacant node.1 = none)
    (sum : bytes + (register.members node).elim 0 (fun member => member.bytes) =
      register.bytes + value.elim 0 fun member => member.bytes)
    (count : population + (register.members node).elim 0 (fun _ => 1) =
      register.populations node.2 + value.elim 0 fun _ => 1)
    (fresh : ∀ member ∈ value, ∀ other, ∀ present ∈ register.members (other, node.2),
      present.key ≠ member.key) :
    Filed { register with
      members := update register.members node value
      bytes := bytes
      populations := update register.populations node.2 population } := by
  refine { filed with bytes := ?_, populations := ?_, keysApart := ?_, empty := ?_ }
  · have whole := total_update (fun _ member => member.bytes) register.members node value
    have before := filed.bytes
    dsimp only at whole ⊢
    omega
  · intro lane
    have whole := total_update (fun other _ => if other = lane then 1 else 0) register.members node
      value
    have before := filed.populations lane
    dsimp only at whole ⊢
    by_cases same : lane = node.2
    · subst same
      simp only [↓reduceIte] at whole
      rw [update_self]
      omega
    have nothing : ∀ stored : Option (Membership C), stored.elim 0 (fun _ => 0) = 0 := by
      rintro (_ | _) <;> rfl
    simp only [if_neg (Ne.symm same), nothing] at whole
    rw [update_of_ne same]
    omega
  · intro lane place other first second
    simp only [update_apply]
    split <;> split
    · rename_i here there
      intro _ _ _
      exact congrArg Prod.fst (here.trans there.symm)
    · rename_i here _
      intro stored present same
      subst here
      exact absurd same.symm (fresh first stored other second present)
    · rename_i _ there
      intro present stored same
      subst there
      exact absurd same (fresh second stored place first present)
    · intro present also same
      exact filed.keysApart lane place other first second present also same
  · intro place vacant lane
    obtain ⟨none, bare⟩ := filed.empty place vacant lane
    refine ⟨?_, bare⟩
    change update _ _ _ _ = _
    rw [update_apply]
    split
    · rename_i here
      refine Option.not_isSome_iff_eq_none.mp fun some => ?_
      rw [← here] at held
      exact absurd ((held some).symm.trans vacant) (by simp)
    · exact none

theorem put (filed : Filed register) {member : Membership C}
    (held : register.vacant node.1 = none) (free : register.members node = none)
    (fresh : ∀ other, ∀ present ∈ register.members (other, node.2), present.key ≠ member.key) :
    Filed (register.put node member) := by
  refine filed.write (fun _ => held) ?_ ?_ ?_
  · rw [free]
    rfl
  · rw [free]
    rfl
  · rintro _ ⟨⟩
    exact fresh

variable {member : Membership C}

section

variable (filed : Filed register)
include filed

theorem bytes_le (held : register.members node = some member) : member.bytes ≤ register.bytes := by
  have sum := total_update (fun _ member => member.bytes) register.members node none
  rw [held] at sum
  rw [filed.bytes]
  exact Nat.le.intro ((Nat.add_comm ..).trans sum)

theorem population_pos (held : register.members node = some member) :
    1 ≤ register.populations node.2 := by
  have sum := total_update (fun other _ => if other = node.2 then 1 else 0) register.members node
    none
  rw [held] at sum
  rw [filed.populations]
  simp only [Option.elim_some, Option.elim_none, ↓reduceIte] at sum
  omega

theorem live_pos (held : register.vacant place = none) : 1 ≤ register.live := by
  rw [filed.live]
  exact card_pos.mpr ⟨place, mem_occupied.mpr held⟩

theorem take (held : register.members node = some member) : Filed (register.take node member) := by
  refine filed.write nofun ?_ ?_ nofun
  · rw [held]
    exact Nat.sub_add_cancel (filed.bytes_le held)
  · rw [held]
    exact Nat.sub_add_cancel (filed.population_pos held)

end

theorem next_grows (room : register.next ≠ UInt64.ofNat u64Max) :
    (register.next + 1).toNat = register.next.toNat + 1 := by
  have apart : register.next.toNat ≠ u64Max := fun same => room (by
    apply UInt64.toNat_inj.mp
    rw [same]
    rfl)
  have below := register.next.toNat_lt
  rw [UInt64.toNat_add]
  simp only [u64Max, UInt64.toNat_one] at *
  omega

variable {id : ReservationId}

section

variable (filed : Filed register)
include filed

/-- A fresh id is larger than every alias. -/
theorem next_fresh (room : register.next ≠ UInt64.ofNat u64Max)
    (named : register.aliases node = some id) : id ≠ ⟨register.next + 1⟩ := by
  rintro rfl
  have bound := UInt64.le_iff_toNat_le.mp (filed.minted _ _ named).2
  rw [next_grows room] at bound
  omega

theorem occupy (room : register.next ≠ UInt64.ofNat u64Max) (free : register.vacant place = some ())
    : Filed (register.occupy place) := by
  have grown := next_grows room
  refine { filed with
    live := ?_, idsApart := ?_, minted := ?_, headed := ?_, empty := ?_ }
  · have places : occupied (update register.vacant place none) =
        insert place (occupied register.vacant) := by
      ext other
      rw [mem_insert, mem_occupied, mem_occupied, update_apply]
      split <;> simp_all
    change register.live + 1 = (occupied (update register.vacant place none)).card
    rw [places, card_insert_of_notMem, filed.live]
    rw [mem_occupied, free]
    simp
  · intro node other id
    simp only [Register.occupy, update_apply]
    split <;> split
    · rename_i here there
      intro _ _
      exact here.trans there.symm
    · rintro ⟨⟩ named
      exact absurd rfl (filed.next_fresh room named)
    · rintro named ⟨⟩
      exact absurd rfl (filed.next_fresh room named)
    · exact filed.idsApart node other id
  · intro node id
    simp only [Register.occupy, update_apply]
    split
    · rintro ⟨⟩
      refine ⟨fun zero => ?_, UInt64.le_refl _⟩
      have value := congrArg UInt64.toNat zero
      rw [grown] at value
      cases value
    · intro named
      obtain ⟨proper, below⟩ := filed.minted node id named
      refine ⟨proper, ?_⟩
      rw [UInt64.le_iff_toNat_le] at below ⊢
      omega
  · intro other held
    simp only [Register.occupy, update_apply] at held ⊢
    split
    · rfl
    · rename_i apart
      refine filed.headed other ?_
      rwa [if_neg fun same => apart (by rw [same])] at held
  · intro other vacant lane
    simp only [Register.occupy, update_apply] at vacant ⊢
    split at vacant
    · cases vacant
    · rename_i apart
      rw [if_neg fun same => apart (congrArg Prod.fst same)]
      exact filed.empty other vacant lane

variable (held : register.vacant place = none)
include held

theorem live_release :
    register.live - 1 = (occupied (update register.vacant place (some ()))).card := by
  have places : occupied (update register.vacant place (some ())) =
      (occupied register.vacant).erase place := by
    ext other
    rw [mem_erase, mem_occupied, mem_occupied, update_apply]
    split <;> simp_all
  rw [places, card_erase_of_mem (mem_occupied.mpr held), filed.live]

theorem close (bare : ∀ lane, register.members (place, lane) = none) :
    Filed (register.close place) := by
  have kept : ∀ node id, ReservationTable.replaceLanes place (fun _ => none) register.aliases
      node = some id → register.aliases node = some id := by
    intro node id
    unfold ReservationTable.replaceLanes
    split
    · intro absent
      cases absent
    · exact fun named => named
  refine { filed with
    live := filed.live_release held
    idsApart := fun node other id first second =>
      filed.idsApart node other id (kept _ _ first) (kept _ _ second)
    minted := fun node id named => filed.minted node id (kept _ _ named)
    headed := ?_, empty := ?_ }
  · intro other occupied
    simp only [Register.close, update_apply] at occupied ⊢
    split at occupied
    · cases occupied
    rename_i apart
    unfold ReservationTable.replaceLanes
    rw [if_neg apart]
    exact filed.headed other occupied
  · intro other vacant lane
    simp only [Register.close, update_apply, ReservationTable.replaceLanes] at vacant ⊢
    split
    · rename_i same
      subst same
      exact ⟨bare lane, rfl⟩
    · rename_i apart
      rw [if_neg apart] at vacant
      exact filed.empty other vacant lane

end

variable (left right : Fin capacity)

theorem source_involutive : Function.Involutive (register.source left right) := by
  intro node
  by_cases moved : (register.members (right, node.2)).isSome
  · have once : register.source left right node = (Equiv.swap left right node.1, node.2) :=
      if_pos moved
    rw [once, source, if_pos moved, Equiv.swap_apply_self]
  · have still : register.source left right node = node := if_neg moved
    rw [still, still]

theorem source_lane (node : Node capacity) : (register.source left right node).2 = node.2 := by
  unfold source
  split <;> rfl

/-- Moving memberships between places changes no sum. -/
theorem total_source (weight : Fin roleCount → Membership C → Nat) (left right : Fin capacity) :
    total weight (fun node => register.members (register.source left right node)) =
      total weight register.members := by
  unfold total
  have swapped : Function.Involutive (register.source left right) :=
    source_involutive left right
  have moved := Equiv.sum_comp swapped.toPerm
    fun node => (register.members node).elim 0 (weight node.2)
  rw [← moved]
  simp only [Function.Involutive.coe_toPerm, source_lane]

/-- What the merged aliases must be: the left ones where they were, and the
right ones, each once. -/
structure Gathered (register : Register C capacity) (left right : Fin capacity)
    (lanes : Fin roleCount → Option ReservationId) : Prop where
  head : lanes 0 = register.aliases (left, 0)
  apart : ∀ lane other id, lanes lane = some id → lanes other = some id → lane = other
  origin : ∀ id, (∃ lane, lanes lane = some id) ↔
    (∃ lane, register.aliases (left, lane) = some id) ∨
      ∃ lane, register.aliases (right, lane) = some id

variable {left right : Fin capacity} {lanes : Fin roleCount → Option ReservationId}

/-- An alias after the join. -/
theorem join_alias (named : (register.join left right lanes).aliases node = some id) :
    (node.1 = left ∧ lanes node.2 = some id) ∨
      (node.1 ≠ left ∧ node.1 ≠ right ∧ register.aliases node = some id) := by
  simp only [Register.join, ReservationTable.replaceLanes] at named
  split at named
  · cases named
  split at named
  · rename_i here
    exact .inl ⟨here, named⟩
  · rename_i there here
    exact .inr ⟨here, there, named⟩

/-- Every alias after the join was an alias before it, at the left or the right
place if it is at the left one now. -/
theorem Gathered.before (gathered : Gathered register left right lanes) {lane : Fin roleCount}
    (placed : lanes lane = some id) :
    ∃ other, register.aliases other = some id ∧ (other.1 = left ∨ other.1 = right) := by
  rcases (gathered.origin id).mp ⟨lane, placed⟩ with ⟨lane, found⟩ | ⟨lane, found⟩
  · exact ⟨_, found, .inl rfl⟩
  · exact ⟨_, found, .inr rfl⟩

theorem join_idsApart (filed : Filed register) (gathered : Gathered register left right lanes)
    {node other : Node capacity} (first : (register.join left right lanes).aliases node = some id)
    (second : (register.join left right lanes).aliases other = some id) : node = other := by
  -- An id at the left place now was at one of the two places before.
  have outside : ∀ {here there : Node capacity}, lanes here.2 = some id →
      there.1 ≠ left → there.1 ≠ right → register.aliases there ≠ some id := by
    intro here there placed notLeft notRight named
    obtain ⟨old, found, where_⟩ := gathered.before placed
    have same := filed.idsApart old there id found named
    subst same
    exact where_.elim notLeft notRight
  rcases join_alias first with ⟨here, placed⟩ | ⟨notLeft, notRight, named⟩
  · rcases join_alias second with ⟨there, also⟩ | ⟨notLeft, notRight, named⟩
    · exact Prod.ext (here.trans there.symm) (gathered.apart _ _ id placed also)
    · exact absurd named (outside placed notLeft notRight)
  · rcases join_alias second with ⟨there, also⟩ | ⟨_, _, also⟩
    · exact absurd named (outside also notLeft notRight)
    · exact filed.idsApart node other id named also

/-- What the source of a node holds at the place the join leaves vacant. -/
theorem source_right (clear : ∀ lane, (register.members (right, lane)).isSome →
      register.members (left, lane) = none) (lane : Fin roleCount) :
    register.members (register.source left right (right, lane)) = none := by
  by_cases moved : (register.members (right, lane)).isSome
  · rw [source, if_pos moved, Equiv.swap_apply_right]
    exact clear lane moved
  · rw [source, if_neg moved]
    exact Option.not_isSome_iff_eq_none.mp moved

theorem source_elsewhere (notLeft : node.1 ≠ left) (notRight : node.1 ≠ right) :
    register.source left right node = node := by
  unfold source
  split
  · rw [Equiv.swap_apply_of_ne_of_ne notLeft notRight]
  · rfl

theorem join (filed : Filed register) (heldLeft : register.vacant left = none)
    (heldRight : register.vacant right = none)
    (clear : ∀ lane, (register.members (right, lane)).isSome → register.members (left, lane) = none)
    (gathered : Gathered register left right lanes) :
    Filed (register.join left right lanes) where
  live := filed.live_release heldRight
  bytes := filed.bytes.trans (total_source _ left right).symm
  populations lane := (filed.populations lane).trans (total_source _ left right).symm
  idsApart _ _ _ first second := filed.join_idsApart gathered first second
  keysApart lane place other member held first second same := by
    have found : ∀ place, register.source left right (place, lane) =
        ((register.source left right (place, lane)).1, lane) := fun place =>
      Prod.ext rfl (source_lane left right _)
    change register.members (register.source left right (place, lane)) = _ at first
    change register.members (register.source left right (other, lane)) = _ at second
    rw [found] at first second
    have equal := filed.keysApart lane _ _ member held first second same
    have nodes : register.source left right (place, lane) =
        register.source left right (other, lane) := by
      rw [found place, found other, equal]
    exact congrArg Prod.fst ((source_involutive left right).injective nodes)
  minted node id named := by
    rcases join_alias named with ⟨_, placed⟩ | ⟨_, _, named⟩
    · obtain ⟨old, found, _⟩ := gathered.before placed
      exact filed.minted old id found
    · exact filed.minted node id named
  headed place held := by
    have apart : place ≠ right := by
      rintro rfl
      change update register.vacant place _ place = none at held
      rw [update_self] at held
      cases held
    change update register.vacant right _ place = none at held
    rw [update_of_ne apart] at held
    simp only [Register.join, ReservationTable.replaceLanes, if_neg apart]
    split
    · rename_i here
      rw [gathered.head, ← here]
      exact filed.headed place held
    · exact filed.headed place held
  empty place vacant lane := by
    by_cases here : place = right
    · subst here
      exact ⟨source_right clear lane, if_pos rfl⟩
    change update register.vacant right _ place = _ at vacant
    rw [update_of_ne here] at vacant
    have apart : place ≠ left := by
      rintro rfl
      rw [heldLeft] at vacant
      cases vacant
    obtain ⟨bare, unnamed⟩ := filed.empty place vacant lane
    refine ⟨?_, ?_⟩
    · change register.members (register.source left right (place, lane)) = none
      rw [source_elsewhere apart here, bare]
    · simp only [Register.join, ReservationTable.replaceLanes, if_neg here, if_neg apart]
      exact unnamed

theorem tidy (filed : Filed register) (place : Fin capacity) : Filed (register.tidy place) := by
  unfold Register.tidy
  split
  · rename_i done
    exact filed.close done.1 fun lane => Option.isNone_iff_eq_none.mp (done.2 lane)
  · exact filed

end Filed

end Register

end P11Scope.Journal
