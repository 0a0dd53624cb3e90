import P11Scope.Journal.Custody

/-!
# The reservation table refines its history

One command on a faithful table never gets stuck, keeps it faithful, and changes
nothing when it declines; so does every sequence of commands on a fresh table.
-/

namespace P11Scope.Journal

open Lib Function Option

variable {C : Type} {capacity : Nat}

namespace Register

variable {register : Register C capacity} {place : Fin capacity} {lane : Fin roleCount}

/-- Every operation has a role present, one place apart. -/
def UsedElsewhere (register : Register C capacity) (place : Fin capacity) : Prop :=
  ∀ other, other ≠ place → register.vacant other = none →
    ∃ lane, (register.members (other, lane)).isSome

theorem UsedElsewhere.put (used : UsedElsewhere register place) (member : Membership C) :
    Used (register.put (place, lane) member) := by
  intro other occupied
  by_cases same : other = place
  · subst same
    exact ⟨lane, by simp [Register.put]⟩
  obtain ⟨held, present⟩ := used other same occupied
  refine ⟨held, ?_⟩
  change (update register.members (place, lane) _ (other, held)).isSome
  rwa [update_of_ne fun equal => same (Prod.mk.inj equal).1]

theorem Used.elsewhere (used : Used register) (place : Fin capacity) :
    UsedElsewhere register place := fun other _ => used other

theorem Used.occupy (used : Used register) (place : Fin capacity) :
    UsedElsewhere (register.occupy place) place := by
  intro other apart occupied
  refine used other ?_
  change update register.vacant place none other = none at occupied
  rwa [update_of_ne apart] at occupied

theorem Used.take (used : Used register) (member : Membership C) :
    UsedElsewhere (register.take (place, lane) member) place := by
  intro other apart occupied
  obtain ⟨held, present⟩ := used other occupied
  refine ⟨held, ?_⟩
  rwa [take_members, update_of_ne fun equal => apart (Prod.mk.inj equal).1]

theorem UsedElsewhere.tidy (used : UsedElsewhere register place) : Used (register.tidy place) := by
  unfold Register.tidy
  split
  · intro other occupied
    change update register.vacant place (some ()) other = none at occupied
    by_cases same : other = place
    · rw [same, update_self] at occupied
      cases occupied
    · rw [update_of_ne same] at occupied
      exact used other same occupied
  · rename_i unfinished
    intro other occupied
    by_cases same : other = place
    · subst same
      by_contra bare
      refine unfinished ⟨occupied, fun lane => isNone_iff_eq_none.mpr ?_⟩
      exact not_isSome_iff_eq_none.mp fun present => bare ⟨lane, present⟩
    · exact used other same occupied

theorem Used.join (used : Used register) {left right : Fin capacity}
    {lanes : Fin roleCount → Option ReservationId} (distinct : left ≠ right)
    (clear : ∀ lane, (register.members (right, lane)).isSome →
      register.members (left, lane) = none) :
    Used (register.join left right lanes) := by
  intro other occupied
  change update register.vacant right (some ()) other = none at occupied
  by_cases same : other = right
  · rw [same, update_self] at occupied
    cases occupied
  rw [update_of_ne same] at occupied
  obtain ⟨lane, present⟩ := used other occupied
  obtain ⟨member, stored⟩ := isSome_iff_exists.mp present
  have kept : (register.join left right lanes).members (other, lane) = some member :=
    (Kept.join_members distinct clear other lane).mpr (.inl ⟨same, stored⟩)
  exact ⟨lane, isSome_iff_exists.mpr ⟨member, kept⟩⟩

end Register

namespace ReservationTable

variable {table : ReservationTable C capacity} {custody : Custody} {role : Role} {key : RoleKey}

/-- A sound table without spent operations that holds what the history says. -/
structure Faithful (table : ReservationTable C capacity) (custody : Custody) : Prop where
  sound : table.Sound
  used : table.register.Used
  kept : table.register.Kept custody

/-- What a command does: never stuck, still faithful, nothing changed when it
declines, and a fresh id that was never handed out before. -/
def Behaves (table : ReservationTable C capacity) (custody : Custody) (command : Command C) :
    Prop :=
  ∃ answer after, table.execute command = some (answer, after) ∧
    Faithful after (custody.note command answer) ∧
    (answer.Declines → after = table) ∧
    ∀ role key bytes charge id, command = .insert role key none bytes charge →
      answer = .reserved id → id ∉ custody.minted

section

variable (faithful : Faithful table custody)
include faithful

theorem insert_behaves (role : Role) (key : RoleKey) (existing : Option ReservationId) (bytes : Nat)
    (charge : C) : Behaves table custody (.insert role key existing bytes charge) := by
  obtain ⟨sound, used, kept⟩ := faithful
  obtain ⟨result, checked, outcome⟩ := preflight_spec sound role key existing bytes
  cases result with
  | error refusal =>
    refine ⟨.refused refusal, table, ?_, ?_, fun _ => rfl, fun _ _ _ _ _ _ absurd => ?_⟩
    · rw [execute, insert, checked]
      rfl
    · cases existing <;> exact ⟨sound, used, kept⟩
    · cases absurd
  | ok _ =>
    obtain ⟨missing, _, _⟩ := outcome rfl
    have unused := keySlot_none sound missing
    obtain ⟨head, after, done, soundAfter, inserted⟩ := insert_admitted sound checked charge
    generalize shape : after.register = changed at inserted
    refine ⟨.reserved head, after, ?_, ?_, fun declined => declined.elim, ?_⟩
    · rw [execute, done]
      rfl
    · cases inserted with
      | joined id head place lane named headed free =>
        refine ⟨soundAfter, ?_, ?_⟩
        · rw [shape]
          exact (used.elsewhere place).put _
        · rw [shape]
          exact kept.put ⟨lane, named⟩ free unused
      | fresh place vacant unspent =>
        refine ⟨soundAfter, ?_, ?_⟩
        · rw [shape]
          exact (used.occupy place).put _
        · rw [shape]
          exact (kept.occupy sound.filed unspent vacant).put ⟨0, update_self ..⟩
            (sound.filed.empty place vacant role.index).1 unused
    · rintro _ _ _ _ id ⟨⟩ ⟨⟩
      cases inserted with
      | fresh place vacant unspent =>
        exact (List.nodup_cons.mp (kept.occupy sound.filed unspent vacant).once).1

theorem release_behaves (role : Role) (key : RoleKey) :
    Behaves table custody (.release role key) := by
  obtain ⟨sound, used, kept⟩ := faithful
  rcases keySlot_cases sound role key with missing | ⟨place, found⟩
  · refine ⟨.absent, table, ?_, ⟨sound, used, kept⟩, fun _ => rfl, nofun⟩
    · rw [execute, release_absent missing]
      rfl
  obtain ⟨member, stored, same⟩ := keySlot_some sound found
  obtain ⟨after, done, soundAfter, register⟩ := release_spec sound stored same
  refine ⟨.released member.bytes member.charge, after, ?_, ⟨soundAfter, ?_, ?_⟩,
    fun declined => declined.elim, nofun⟩
  · rw [execute, done]
    rfl
  · rw [register]
    exact (used.take member).tidy
  · rw [register, ← same]
    exact (kept.take sound.filed stored).tidy place

theorem merge_behaves (left right : ReservationId) : Behaves table custody (.merge left right) := by
  obtain ⟨sound, used, kept⟩ := faithful
  obtain ⟨answer, after, done, soundAfter, merged, still⟩ := merge_spec sound left right
  generalize shape : after.register = changed at merged
  cases merged with
  | refused refusal =>
    have same := still refusal rfl
    refine ⟨.refused refusal, after, ?_, ?_, fun _ => same, nofun⟩
    · rw [execute, done]
      rfl
    · rw [same]
      exact ⟨sound, used, kept⟩
  | same head place leftLane rightLane leftNamed rightNamed =>
    refine ⟨.reserved head, after, ?_, ⟨soundAfter, ?_, ?_⟩, fun declined => declined.elim, nofun⟩
    · rw [execute, done]
      rfl
    · rw [shape]
      exact used
    · rw [shape]
      exact kept.merge_same sound.filed ⟨leftLane, leftNamed⟩ ⟨rightLane, rightNamed⟩
  | joined head leftPlace rightPlace leftLane rightLane lanes distinct leftNamed rightNamed clear
      gathered =>
      refine ⟨.reserved head, after, ?_, ⟨soundAfter, ?_, ?_⟩, fun declined => declined.elim, nofun⟩
      · rw [execute, done]
        rfl
      · rw [shape]
        exact used.join distinct clear
      · rw [shape]
        exact kept.join sound.filed distinct ⟨leftLane, leftNamed⟩ ⟨rightLane, rightNamed⟩ clear
          gathered

theorem transfer_behaves (source : Role) (sourceKey : RoleKey) (target : Role) (targetKey : RoleKey)
    (bytes : Nat) (charge : C) :
    Behaves table custody (.transfer source sourceKey target targetKey bytes charge) := by
  obtain ⟨sound, used, kept⟩ := faithful
  obtain ⟨answer, after, done, soundAfter, moved, still⟩ :=
    transfer_spec sound source sourceKey target targetKey bytes charge
  generalize shape : after.register = changed at moved
  cases moved with
  | refused refusal =>
    have same := still refusal rfl
    refine ⟨.refused refusal, after, ?_, ?_, fun _ => same, nofun⟩
    · rw [execute, done]
      rfl
    · rw [same]
      exact ⟨sound, used, kept⟩
  | moved head place old stored same apart free unused =>
    refine ⟨.moved head old.bytes old.charge, after, ?_, ⟨soundAfter, ?_, ?_⟩,
      fun declined => declined.elim, nofun⟩
    · rw [execute, done]
      rfl
    · rw [shape]
      exact (used.take old).put _
    · obtain ⟨holder, held, here⟩ := kept.listed place source old stored
      have lanes : ∀ {other}, (other, target.index) ≠ (place, source.index) := fun equal =>
        index_injective apart (Prod.mk.inj equal).2.symm
      have taken := kept.take sound.filed stored
      rw [shape, Custody.note, ← same, held]
      refine taken.put here ?_ fun other present => ?_
      · rw [Register.take_members, update_of_ne lanes, free]
      · rw [Register.take_members, update_of_ne lanes]
        exact unused other present

end

/-- A history in which a role's memberships at some places were dropped. -/
structure PartlyDropped (role : Role) (before after : Custody) : Prop where
  minted : after.minted = before.minted
  merges : after.merges = before.merges
  others : ∀ other key, other ≠ role → after.held (other, key) = before.held (other, key)

theorem releaseRoleAt_behaves (faithful : Faithful table custody) (role : Role)
    (place : Fin capacity) :
    ∃ after custody', releaseRoleAt role table place = some after ∧
      Faithful after custody' ∧ PartlyDropped role custody custody' := by
  obtain ⟨sound, used, kept⟩ := faithful
  obtain ⟨after, done, soundAfter, dropped⟩ := releaseRoleAt_spec sound role place
  generalize shape : after.register = changed at dropped
  cases dropped with
  | absent absent =>
    refine ⟨after, custody, done, ⟨soundAfter, ?_, ?_⟩, rfl, rfl, fun _ _ _ => rfl⟩
    · rw [shape]
      exact (used.elsewhere place).tidy
    · rw [shape]
      exact kept.tidy place
  | taken member stored =>
    refine ⟨after, custody.hold role member.key none, done, ⟨soundAfter, ?_, ?_⟩, rfl, rfl,
      fun other key apart => ?_⟩
    · rw [shape]
      exact (used.take member).tidy
    · rw [shape]
      exact (kept.take sound.filed stored).tidy place
    · exact update_of_ne (fun equal => apart (Prod.mk.inj equal).1) ..

theorem releaseRole_loop (role : Role) (places : List (Fin capacity))
    (faithful : Faithful table custody) :
    ∃ after custody', places.foldlM (releaseRoleAt role) table = some after ∧
      Faithful after custody' ∧ PartlyDropped role custody custody' := by
  induction places generalizing table custody with
  | nil => exact ⟨table, custody, rfl, faithful, rfl, rfl, fun _ _ _ => rfl⟩
  | cons place rest ih =>
    obtain ⟨middle, first, done, good, partly⟩ := releaseRoleAt_behaves faithful role place
    obtain ⟨after, last, later, goodAfter, further⟩ := ih good
    refine ⟨after, last, ?_, goodAfter, further.minted.trans partly.minted,
      further.merges.trans partly.merges, fun other key apart =>
        (further.others other key apart).trans (partly.others other key apart)⟩
    rw [List.foldlM_cons, done]
    exact later

theorem releaseRole_behaves (faithful : Faithful table custody) (role : Role) :
    Behaves table custody (.releaseRole role) := by
  obtain ⟨after, done, _, members⟩ := releaseRole_spec faithful.sound role
  obtain ⟨_, dropped, also, good, partly⟩ :=
    releaseRole_loop role (List.finRange capacity) faithful
  cases Option.some.inj (done.symm.trans also)
  -- The role is nowhere present any more, so nothing can back a held key.
  have same : dropped = custody.note (.releaseRole role : Command C) .dropped := by
    obtain ⟨minted, held, merges⟩ := dropped
    obtain ⟨sameMinted, sameMerges, others⟩ := partly
    congr 1
    funext ⟨other, key⟩
    by_cases here : other = role
    · subst here
      rw [if_pos rfl]
      cases present : held (other, key) with
      | none => rfl
      | some id =>
        obtain ⟨place, member, stored, _⟩ := good.kept.backed other key id present
        rw [members, if_pos rfl] at stored
        cases stored
    · rw [if_neg here]
      exact others other key here
  refine ⟨.dropped, after, ?_, same ▸ good, fun declined => declined.elim, nofun⟩
  · rw [execute, done]
    rfl

theorem execute_behaves (faithful : Faithful table custody) (command : Command C) :
    Behaves table custody command := by
  cases command with
  | insert role key existing bytes charge =>
    exact insert_behaves faithful role key existing bytes charge
  | release role key => exact release_behaves faithful role key
  | merge left right => exact merge_behaves faithful left right
  | transfer source sourceKey target targetKey bytes charge =>
    exact transfer_behaves faithful source sourceKey target targetKey bytes charge
  | releaseRole role => exact releaseRole_behaves faithful role

/-! ## Runs -/

/-- Nothing placed, every place vacant. -/
def freshRegister (C : Type) (capacity : Nat) : Register C capacity where
  members _ := none
  aliases _ := none
  vacant _ := some ()
  next := 0
  live := 0
  bytes := 0
  populations _ := 0

theorem freshRegister_filed : (freshRegister C capacity).Filed where
  live := by simp [freshRegister, Register.occupied]
  bytes := by simp [freshRegister, Register.total]
  populations lane := by simp [freshRegister, Register.total]
  keysApart _ _ _ _ _ stored := by cases stored
  idsApart _ _ _ named := by cases named
  minted _ _ named := by cases named
  headed _ occupied := by cases occupied
  empty _ _ _ := ⟨rfl, rfl⟩

theorem freshRegister_kept : (freshRegister C capacity).Kept {} where
  classes _ _ _ here := by
    obtain ⟨_, named⟩ := here
    cases named
  listed _ _ _ stored := by cases stored
  backed _ _ _ held := by cases held
  minted id := by
    constructor
    · intro absent
      cases absent
    · rintro ⟨proper, bound⟩
      refine absurd (UInt64.toNat_inj.mp ?_) proper
      exact Nat.le_zero.mp (UInt64.le_iff_toNat_le.mp bound)
  once := List.nodup_nil
  merged _ absent := by cases absent

theorem tryNew_register : (tryNew C capacity).register = freshRegister C capacity := by
  have vacant : ∀ place : Fin capacity, (blank C capacity).slots[place].operation = none := by
    simp [blank]
  rw [relinked_register tryNew_linked.2]
  unfold ReservationTable.register vacancy TableSlot.member? TableSlot.alias? freshRegister
  simp [blank]

theorem tryNew_faithful : Faithful (tryNew C capacity) {} := by
  have register : (tryNew C capacity).register = freshRegister C capacity := tryNew_register
  refine ⟨⟨?_, register ▸ freshRegister_filed⟩, ?_, register ▸ freshRegister_kept⟩
  · exact tied_of register tryNew_linked.1
  · rw [register]
    intro place occupied
    cases occupied

/-- Execute commands in order, noting each answer. -/
def runCommands (table : ReservationTable C capacity) (custody : Custody)
    (commands : List (Command C)) : Option (ReservationTable C capacity × Custody) :=
  commands.foldlM (fun (table, custody) command =>
    (table.execute command).map fun (answer, after) => (after, custody.note command answer))
    (table, custody)

theorem runCommands_faithful (commands : List (Command C)) (faithful : Faithful table custody) :
    ∃ after history, runCommands table custody commands = some (after, history) ∧
      Faithful after history := by
  induction commands generalizing table custody with
  | nil => exact ⟨table, custody, rfl, faithful⟩
  | cons command rest ih =>
    obtain ⟨answer, middle, done, good, _⟩ := execute_behaves faithful command
    obtain ⟨after, history, later, final⟩ := ih good
    refine ⟨after, history, ?_, final⟩
    refine bind_done (congrArg (Option.map _) done) ?_
    exact later

theorem reservationIsReleased_iff (faithful : Faithful table custody) (id : ReservationId) :
    ∃ released, table.reservationIsReleased id = some released ∧
      (released = true ↔ id ∈ custody.minted ∧
        ∀ role key other, custody.held (role, key) = some other →
          ¬ SameClass custody.merges id other) := by
  obtain ⟨sound, used, kept⟩ := faithful
  rw [← kept.released_iff used sound.filed id]
  change ∃ released, _ ∧ (_ ↔ (id.value ≠ 0 ∧ id.value ≤ table.next) ∧ _)
  unfold reservationIsReleased
  by_cases known : id.value ≠ 0 ∧ id.value ≤ table.next
  case neg =>
    simp [known]
  refine ⟨(table.idSlotLinear id).isNone, ?_, ?_⟩
  · rw [if_pos known, idSlot_eq sound]
    rfl
  · rw [isNone_iff_eq_none, eq_none_iff_forall_ne_some]
    refine ⟨fun gone => ⟨known, fun place here => ?_⟩, fun gone place found => ?_⟩
    · exact gone place ((idSlotLinear_eq_some_iff sound.filed).mpr here)
    · exact gone.2 place ((idSlotLinear_eq_some_iff sound.filed).mp found)

/-- The table answers like a linear scan, its links and counters are exact, its
next command cannot get stuck, and an id is released exactly when its merged
operation holds no role. -/
structure Refines (table : ReservationTable C capacity) (custody : Custody) : Prop where
  keyLookup : ∀ role key, table.keySlot role key = some (table.keySlotLinear role key)
  idLookup : ∀ id, table.idSlot id = some (table.idSlotLinear id)
  linked : Linked table table.register.keys table.register.ids table.vacancy
  live : table.live = (Finset.univ.filter fun place : Fin capacity =>
    (getElem table.slots place place.2).operation.isSome).card
  bytes : table.bytes = ∑ node : Node capacity,
    ((getElem table.slots node.1 node.1.2).member? node.2).elim 0 fun member => member.bytes
  populations : ∀ role, table.population role = (Finset.univ.filter fun place : Fin capacity =>
    ((getElem table.slots place place.2).member? role.index).isSome).card
  commands : ∀ command, ∃ answer after, table.execute command = some (answer, after) ∧
    (answer.Declines → after = table) ∧
    ∀ role key bytes charge id, command = .insert role key none bytes charge →
      answer = .reserved id → id ∉ custody.minted
  once : custody.minted.Nodup
  released : ∀ id, ∃ released, table.reservationIsReleased id = some released ∧
    (released = true ↔ id ∈ custody.minted ∧
      ∀ role key other, custody.held (role, key) = some other →
        ¬ SameClass custody.merges id other)

/-- The places that hold a role, counted through the nodes. -/
theorem total_lane (members : Node capacity → Option (Membership C)) (lane : Fin roleCount) :
    Register.total (fun other _ => if other = lane then 1 else 0) members =
      (Finset.univ.filter fun place => (members (place, lane)).isSome).card := by
  unfold Register.total
  rw [Fintype.sum_prod_type, Finset.card_filter]
  refine Finset.sum_congr rfl fun place _ => ?_
  rw [Finset.sum_eq_single lane]
  · cases members (place, lane) <;> simp
  · intro other _ apart
    cases members (place, other) <;> simp [apart]
  · intro absent
    exact absurd (Finset.mem_univ lane) absent

theorem Faithful.refines (faithful : Faithful table custody) : Refines table custody where
  keyLookup := keySlot_eq faithful.sound
  idLookup := idSlot_eq faithful.sound
  linked := faithful.sound.tied
  live := by
    refine faithful.sound.filed.live.trans (congrArg Finset.card ?_)
    ext place
    rw [Register.mem_occupied, Finset.mem_filter, isSome_iff_exists]
    exact vacancy_eq_none.trans (by simp)
  bytes := faithful.sound.filed.bytes
  populations role := (faithful.sound.filed.populations role.index).trans (total_lane _ _)
  commands command := by
    obtain ⟨answer, after, done, _, still, fresh⟩ := execute_behaves faithful command
    exact ⟨answer, after, done, still, fresh⟩
  once := faithful.kept.once
  released := reservationIsReleased_iff faithful

/-- Every sequence of commands on a fresh table of any capacity runs to its end
and leaves a table that refines the history of its answers. -/
theorem runCommands_refines (C : Type) (capacity : Nat) (commands : List (Command C)) :
    ∃ table custody, runCommands (tryNew C capacity) {} commands = some (table, custody) ∧
      Refines table custody := by
  obtain ⟨table, custody, done, faithful⟩ := runCommands_faithful commands tryNew_faithful
  exact ⟨table, custody, done, faithful.refines⟩

end ReservationTable

end P11Scope.Journal
