import P11Scope.Journal.TableSteps

/-!
# Merging two operations

The right operation's aliases take spare lanes of the left one, its memberships
keep their lanes, and its slot becomes vacant.
-/

namespace P11Scope.Journal

open Lib Function Option

variable {C : Type} {capacity : Nat}

namespace ReservationTable

variable {table : ReservationTable C capacity} {id : ReservationId}

/-! ## Placing aliases -/

variable (operation : Operation C)

theorem aliasList_eq :
    aliasList operation =
      (List.finRange roleCount).filterMap fun lane => getElem operation.aliases lane lane.2 := by
  have lanes : operation.aliases.toList =
      (List.finRange roleCount).map fun lane => operation.aliases[lane] := by
    apply List.ext_getElem
    · simp
    · simp
  rw [aliasList, lanes]
  rfl

theorem mem_aliasList {operation : Operation C} :
    id ∈ aliasList operation ↔
      ∃ lane : Fin roleCount, getElem operation.aliases lane lane.2 = some id := by
  rw [aliasList_eq, List.mem_filterMap]
  exact ⟨fun ⟨lane, _, named⟩ => ⟨lane, named⟩,
    fun ⟨lane, named⟩ => ⟨lane, List.mem_finRange lane, named⟩⟩

/-- The lanes an alias may still be put in. -/
def spareLanes (aliases : Vector (Option ReservationId) roleCount) : Finset (Fin roleCount) :=
  Finset.univ.filter fun lane => getElem aliases lane lane.2 = none

theorem aliasList_length :
    (aliasList operation).length + (spareLanes operation.aliases).card = roleCount := by
  have named : (aliasList operation).length =
      (Finset.univ.filter fun lane : Fin roleCount => ¬ operation.aliases[lane] = none).card := by
    have apart : ((List.finRange roleCount).filter
        fun lane => operation.aliases[lane].isSome).Nodup := (List.nodup_finRange _).filter _
    rw [aliasList_eq, List.length_filterMap_eq_countP, List.countP_eq_length_filter,
      ← List.toFinset_card_of_nodup apart]
    congr 1
    simp [isSome_iff_ne_none]
  have split := Finset.card_filter_add_card_filter_not (s := (Finset.univ : Finset (Fin roleCount)))
    fun lane => operation.aliases[lane] = none
  rw [named, spareLanes, Nat.add_comm, split, Finset.card_fin]

variable {aliases : Vector (Option ReservationId) roleCount}

theorem spareLanes_set {lane : Fin roleCount} (spare : getElem aliases lane lane.2 = none)
    (id : ReservationId) :
    (spareLanes (aliases.set lane (some id) lane.2)).card + 1 = (spareLanes aliases).card := by
  have erased : spareLanes (aliases.set lane (some id)) = (spareLanes aliases).erase lane := by
    ext other
    by_cases same : other = lane
    · subst same
      simp [spareLanes]
    · have apart : lane.val ≠ other.val := fun equal => same (Fin.ext equal.symm)
      simp [spareLanes, same, Vector.getElem_set_ne, apart]
  have member : lane ∈ spareLanes aliases := by simpa [spareLanes] using spare
  rw [erased, Finset.card_erase_add_one member]

/-- What placing a list of ids does: each takes a lane that was spare. -/
structure Placed (aliases after : Vector (Option ReservationId) roleCount)
    (ids : List ReservationId) (moved : List (Fin roleCount × ReservationId)) : Prop where
  ids : moved.map Prod.snd = ids
  apart : (moved.map Prod.fst).Nodup
  spare : ∀ pair ∈ moved, getElem aliases pair.1 pair.1.2 = none
  lanes : (fun lane : Fin roleCount => getElem after lane lane.2) =
    updateAll Prod.fst (fun pair => some pair.2) moved fun lane => getElem aliases lane lane.2

theorem placeAliases_spec (ids : List ReservationId) (room : ids.length ≤ (spareLanes aliases).card)
    : ∃ after moved, placeAliases aliases ids = some (after, moved) ∧
      Placed aliases after ids moved := by
  induction ids generalizing aliases with
  | nil =>
    refine ⟨aliases, [], rfl, rfl, List.nodup_nil, fun pair absent => ?_, rfl⟩
    cases absent
  | cons id rest ih =>
    obtain ⟨somewhere, member⟩ := Finset.card_pos.mp (Nat.zero_lt_of_lt room)
    obtain ⟨lane, found⟩ : ∃ lane, (List.finRange roleCount).find?
        (fun lane => aliases[lane].isNone) = some lane := by
      refine isSome_iff_exists.mp (List.find?_isSome.mpr ⟨somewhere, ?_⟩)
      exact ⟨List.mem_finRange _, by simpa [spareLanes] using member⟩
    have free := List.find?_some found
    have spare : aliases[lane] = none := isNone_iff_eq_none.mp free
    have less : rest.length ≤ (spareLanes (aliases.set lane (some id))).card := by
      have counted := spareLanes_set spare id
      simp only [List.length_cons] at room
      omega
    obtain ⟨after, moved, done, placed⟩ := ih less
    -- The lane just taken is not spare any more, so no later id takes it.
    have later : ∀ pair ∈ moved, pair.1 ≠ lane := by
      rintro pair member rfl
      have vacant := placed.spare pair member
      simp at vacant
    refine ⟨after, (lane, id) :: moved, ?_, ?_, ?_, ?_, ?_⟩
    · refine bind_done found ?_
      exact bind_done done rfl
    · exact congrArg (id :: ·) placed.ids
    · refine List.nodup_cons.mpr ⟨fun member => ?_, placed.apart⟩
      obtain ⟨pair, present, same⟩ := List.mem_map.mp member
      exact later pair present same
    · intro pair member
      rcases List.mem_cons.mp member with rfl | inside
      · exact spare
      have vacant := placed.spare pair inside
      have elsewhere := congrFun (vector_set aliases lane (some id)) pair.1
      rw [update_of_ne (later pair inside)] at elsewhere
      exact elsewhere.symm.trans vacant
    · rw [placed.lanes, vector_set]
      rfl

variable {moved : List (Fin roleCount × ReservationId)}

/-- An alias after placing was there before or was placed. -/
theorem Placed.alias_iff {after : Vector (Option ReservationId) roleCount}
    {ids : List ReservationId} (placed : Placed aliases after ids moved) (lane : Fin roleCount)
    (id : ReservationId) :
    getElem after lane lane.2 = some id ↔
      (lane, id) ∈ moved ∨ getElem aliases lane lane.2 = some id := by
  have value := congrFun placed.lanes lane
  by_cases taken : ∃ pair ∈ moved, pair.1 = lane
  · obtain ⟨pair, member, rfl⟩ := taken
    have put : after[pair.1] = some pair.2 := value.trans (updateAll_of_mem placed.apart member)
    rw [put, placed.spare pair member]
    constructor
    · rintro ⟨⟩
      exact .inl member
    · rintro (also | absent)
      · exact congrArg some (congrArg Prod.snd
          (List.inj_on_of_nodup_map placed.apart member also rfl))
      · cases absent
  · have kept : after[lane] = aliases[lane] :=
      value.trans (updateAll_of_notMem fun pair member same => taken ⟨pair, member, same⟩)
    rw [kept]
    exact ⟨.inr, fun either => either.resolve_left fun member => taken ⟨_, member, rfl⟩⟩

variable {left right : Fin capacity} {leftOperation rightOperation : Operation C}

theorem placed_gathered (filed : table.register.Filed) (distinct : left ≠ right)
    (heldLeft : (getElem table.slots left left.2).operation = some leftOperation)
    (heldRight : (getElem table.slots right right.2).operation = some rightOperation)
    (placed : Placed leftOperation.aliases aliases (aliasList rightOperation) moved) :
    Register.Filed.Gathered table.register left right fun lane => getElem aliases lane lane.2 := by
  have fromRight : ∀ lane id, (lane, id) ∈ moved →
      ∃ other, table.register.aliases (right, other) = some id := by
    intro lane id member
    have listed : id ∈ aliasList rightOperation := by
      rw [← placed.ids]
      exact List.mem_map_of_mem member
    obtain ⟨other, named⟩ := mem_aliasList.mp listed
    exact ⟨other, (aliases_eq heldRight other).trans named⟩
  have fromLeft : ∀ lane id, leftOperation.aliases[lane] = some id →
      table.register.aliases (left, lane) = some id := fun lane id named =>
    (aliases_eq heldLeft lane).trans named
  have once : (moved.map Prod.snd).Nodup := by
    rw [placed.ids, aliasList_eq]
    refine (List.nodup_finRange _).filterMap fun lane other id first second => ?_
    exact congrArg Prod.snd (filed.idsApart (right, lane) (right, other) id
      ((aliases_eq heldRight lane).trans first) ((aliases_eq heldRight other).trans second))
  refine ⟨?_, ?_, ?_⟩
  · -- The first lane is taken, so nothing was placed there.
    have occupied := vacancy_eq_none.mpr ⟨_, heldLeft⟩
    obtain ⟨head, named⟩ := isSome_iff_exists.mp (filed.headed left occupied)
    rw [named]
    exact (placed.alias_iff 0 head).mpr (.inr ((aliases_eq heldLeft 0).symm.trans named))
  · intro lane other id first second
    rcases (placed.alias_iff lane id).mp first with here | here <;>
      rcases (placed.alias_iff other id).mp second with there | there
    · exact congrArg Prod.fst (List.inj_on_of_nodup_map once here there rfl)
    · obtain ⟨old, named⟩ := fromRight lane id here
      exact absurd (congrArg Prod.fst (filed.idsApart _ _ id (fromLeft other id there) named))
        distinct
    · obtain ⟨old, named⟩ := fromRight other id there
      exact absurd (congrArg Prod.fst (filed.idsApart _ _ id (fromLeft lane id here) named))
        distinct
    · exact congrArg Prod.snd (filed.idsApart _ _ id (fromLeft lane id here)
        (fromLeft other id there))
  · intro id
    constructor
    · rintro ⟨lane, named⟩
      rcases (placed.alias_iff lane id).mp named with moved | kept
      · exact .inr (fromRight lane id moved)
      · exact .inl ⟨lane, fromLeft lane id kept⟩
    · rintro (⟨lane, named⟩ | ⟨lane, named⟩)
      · exact ⟨lane, (placed.alias_iff lane id).mpr
          (.inr ((aliases_eq heldLeft lane).symm.trans named))⟩
      · have listed : id ∈ moved.map Prod.snd := by
          rw [placed.ids, mem_aliasList]
          exact ⟨lane, (aliases_eq heldRight lane).symm.trans named⟩
        obtain ⟨pair, member, rfl⟩ := List.mem_map.mp listed
        exact ⟨pair.1, (placed.alias_iff pair.1 pair.2).mpr (.inl member)⟩

/-! ## Moving the right operation -/

/-- The lanes of two places replaced, in either order. -/
theorem replaceLanes_comm {Stored : Type} (distinct : left ≠ right)
    (lanes others : Fin roleCount → Option Stored) (stored : Node capacity → Option Stored) :
    replaceLanes left lanes (replaceLanes right others stored) =
      replaceLanes right others (replaceLanes left lanes stored) := by
  funext node
  unfold replaceLanes
  by_cases here : node.1 = left
  · rw [if_pos here, if_neg fun same => distinct (here.symm.trans same)]
    simp [here]
  · rw [if_neg here, if_neg here]

/-- Updates at the lanes of one place. -/
theorem updateAll_place {Item Stored : Type} (place : Fin capacity) (lane : Item → Fin roleCount)
    (value : Item → Option Stored) (items : List Item) (stored : Node capacity → Option Stored) :
    updateAll (fun item => (place, lane item)) value items stored =
      replaceLanes place (updateAll lane value items fun lane => stored (place, lane)) stored := by
  induction items generalizing stored with
  | nil => exact (replaceLanes_self fun _ => rfl).symm
  | cons item rest ih =>
    refine (ih _).trans ?_
    have lanes : (fun other => update stored (place, lane item) (value item)
        (place, other)) =
        update (fun other => stored (place, other)) (lane item) (value item) := by
      funext other
      simp [update_apply]
    funext node
    unfold replaceLanes
    split
    · rw [lanes]
      rfl
    · rename_i elsewhere
      exact update_of_ne (fun same => elsewhere (congrArg Prod.fst same)) ..

theorem updateAll_map {Item Value Stored : Type} (lane : Item → Fin roleCount)
    (value : Item → Option Value) (bucket : Value → Stored) (items : List Item)
    (stored : Fin roleCount → Option Value) :
    (fun other => (updateAll lane value items stored other).map bucket) =
      updateAll lane (fun item => (value item).map bucket) items
        fun other => (stored other).map bucket := by
  induction items generalizing stored with
  | nil => rfl
  | cons item rest ih =>
    refine (ih _).trans (congrArg (updateAll lane _ rest) ?_)
    funext other
    by_cases same : other = lane item
    · subst same
      simp
    · simp [update_of_ne same]

theorem ids_joined (distinct : left ≠ right)
    (heldLeft : (getElem table.slots left left.2).operation = some leftOperation)
    {ids : List ReservationId} (placed : Placed leftOperation.aliases aliases ids moved) :
    (table.register.join left right fun lane => getElem aliases lane lane.2).ids =
      updateAll (fun pair => (left, pair.1)) (fun pair => some (idBucket pair.2)) moved
        (replaceLanes right (fun _ => none) table.register.ids) := by
  have lanes : (fun lane : Fin roleCount => aliases[lane].map idBucket) =
      updateAll Prod.fst (fun pair => some (idBucket pair.2)) moved
        fun lane => replaceLanes right (fun _ => none) table.register.ids (left, lane) := by
    have before : (fun lane => replaceLanes right (fun _ => none) table.register.ids (left, lane)) =
        fun lane : Fin roleCount => leftOperation.aliases[lane].map idBucket := by
      funext lane
      rw [replaceLanes, if_neg distinct]
      exact ids_lanes heldLeft lane
    rw [before]
    refine Eq.trans ?_ (updateAll_map Prod.fst (fun pair => some pair.2) idBucket moved _)
    rw [← placed.lanes]
  rw [updateAll_place, ← lanes]
  refine (map_replaceLanes (fun _ => none) (replaceLanes left (fun lane => aliases[lane])
    table.register.aliases) idBucket).trans ?_
  rw [map_replaceLanes, replaceLanes_comm distinct]
  rfl

section Joined

variable (distinct : left ≠ right)
  (heldLeft : (getElem table.slots left left.2).operation = some leftOperation)
  (heldRight : (getElem table.slots right right.2).operation = some rightOperation)
  (clear : ∀ lane, (table.register.members (right, lane)).isSome →
    table.register.members (left, lane) = none)
include distinct heldLeft heldRight clear

theorem members_joined :
    replaceLanes left (fun lane => getElem (mergeRoles leftOperation rightOperation) lane lane.2)
        (replaceLanes right (fun _ => none) table.register.members) =
      fun node => table.register.members (table.register.source left right node) := by
  funext ⟨place, lane⟩
  unfold replaceLanes
  by_cases here : place = left
  · subst here
    rw [mergeRoles]
    simp only [Fin.getElem_fin, Vector.getElem_ofFn]
    change rightOperation.roles[lane].or leftOperation.roles[lane] = _
    rw [← members_eq heldLeft, ← members_eq heldRight]
    by_cases moved : (table.register.members (right, lane)).isSome
    · rw [Register.source, if_pos moved, Equiv.swap_apply_left]
      exact or_of_isSome moved
    · rw [Register.source, not_isSome_iff_eq_none.mp moved]
      rfl
  · rw [if_neg here]
    by_cases there : place = right
    · subst there
      rw [if_pos rfl, Register.Filed.source_right clear]
    · rw [if_neg there, Register.Filed.source_elsewhere here there]

/-- The contents once the right operation stands in the left place. -/
theorem register_joined {nameless : ReservationTable C capacity}
    (same : nameless.register = table.register)
    (aliases : Vector (Option ReservationId) roleCount) :
    ((nameless.setOperation right none).setOperation left
        (some { aliases := aliases, roles := mergeRoles leftOperation rightOperation })).register =
      { table.register.join left right (fun lane => getElem aliases lane lane.2) with
        live := table.live } := by
  have vacated : (nameless.setOperation right none).register = { table.register with
      members := replaceLanes right (fun _ => none) table.register.members
      aliases := replaceLanes right (fun _ => none) table.register.aliases
      vacant := update table.vacancy right (some ()) } := by
    have vacancy : nameless.vacancy = table.vacancy := congrArg Register.vacant same
    rw [register_setOperation, same, vacancy]
    rfl
  have vacancy : (nameless.setOperation right none).vacancy =
      update table.vacancy right (some ()) := congrArg Register.vacant vacated
  have still : update (update table.vacancy right (some ())) left none =
      update table.vacancy right (some ()) := by
    have occupied : update table.vacancy right (some ()) left = none := by
      rw [update_of_ne distinct]
      exact vacancy_eq_none.mpr ⟨_, heldLeft⟩
    rw [← occupied, update_eq_self]
  rw [register_setOperation, vacated, vacancy]
  simp only [bind_some, isNone_some, Bool.false_eq_true, ↓reduceIte, still,
    members_joined distinct heldLeft heldRight clear, replaceLanes_comm distinct]
  rfl

theorem keys_joined (lanes : Fin roleCount → Option ReservationId) :
    (table.register.join left right lanes).keys =
      replaceLanes left (fun lane =>
          ((getElem rightOperation.roles lane lane.2).map (memberBucket lane)).or
            (replaceLanes right (fun _ => none) table.register.keys (left, lane)))
        (replaceLanes right (fun _ => none) table.register.keys) := by
  funext node
  have joined := congrFun (members_joined distinct heldLeft heldRight clear) node
  change Option.map _ (table.register.members (table.register.source left right node)) = _
  rw [← joined]
  unfold replaceLanes
  by_cases here : node.1 = left
  · rw [if_pos here, if_pos here, mergeRoles]
    simp only [Fin.getElem_fin, Vector.getElem_ofFn, map_or, if_neg distinct]
    rw [Register.keys, members_eq heldLeft]
    rfl
  · rw [if_neg here]
    split <;> rfl

theorem mergeInto_spec (sound : table.Sound)
    (room : (aliasList leftOperation).length + (aliasList rightOperation).length ≤ roleCount) :
    ∃ head after lanes,
      table.mergeInto left right leftOperation rightOperation = some (head, after) ∧
      table.register.aliases (left, 0) = some head ∧
      Register.Filed.Gathered table.register left right lanes ∧ after.Tied ∧
      after.register = table.register.join left right lanes := by
  have occupiedLeft := vacancy_eq_none.mpr ⟨_, heldLeft⟩
  have occupiedRight := vacancy_eq_none.mpr ⟨_, heldRight⟩
  have spare : (aliasList rightOperation).length ≤ (spareLanes leftOperation.aliases).card := by
    have count := aliasList_length leftOperation
    omega
  obtain ⟨aliases, moved, chosen, placed⟩ := placeAliases_spec _ spare
  have gathered := placed_gathered sound.filed distinct heldLeft heldRight placed
  obtain ⟨head, named⟩ := isSome_iff_exists.mp (sound.filed.headed left occupiedLeft)
  have first : aliases[(0 : Fin roleCount)] = some head := gathered.head.trans named
  have keysRight : ∀ lane, table.register.keys (right, lane) =
      rightOperation.roles[lane].map (memberBucket lane) := fun lane => by
    rw [Register.keys, members_eq heldRight]
  -- Unlink everything the right operation holds.
  obtain ⟨bare, unlinked, links, only⟩ := unlinkRoles_spec sound.tied keysRight
  obtain ⟨nameless, unnamed, links, also⟩ := unlinkAliases_spec links (ids_lanes heldRight)
  let emptied := nameless.setOperation right none
  let joined := emptied.setOperation left
    (some { aliases := aliases, roles := mergeRoles leftOperation rightOperation })
  let counted : ReservationTable C capacity := { joined with live := joined.live - 1 }
  have joinedShape := register_joined distinct heldLeft heldRight clear
    ((relinked_register also).trans (relinked_register only)) aliases
  have live : joined.live = table.live := congrArg Register.live joinedShape
  have shape : counted.register = table.register.join left right fun lane => aliases[lane] := by
    have same := congrArg (fun register : Register C capacity =>
      { register with live := joined.live - 1 }) joinedShape
    rw [live] at same
    refine Eq.trans ?_ same
    rw [← live]
    rfl
  have countedLinks : Linked counted _ _ _ :=
    linked_recount (setOperation_linked (setOperation_linked links right none) left _) ..
  -- Link it again under the left place.
  obtain ⟨keyed, relinked, links, only⟩ := linkRoles_spec countedLinks fun lane moved => by
    rw [replaceLanes, if_neg distinct, Register.keys, clear lane (by rwa [members_eq heldRight])]
    rfl
  obtain ⟨renamed, reNamed, links, also⟩ := linkIds_spec links placed.apart fun pair member => by
    rw [replaceLanes, if_neg distinct]
    exact (ids_lanes heldLeft pair.1).trans (congrArg _ (placed.spare pair member))
  obtain ⟨links, freed⟩ := pushFree_spec links occupiedRight
  have register : (renamed.pushFree right).register =
      table.register.join left right fun lane => aliases[lane] := by
    rw [relinked_register freed, relinked_register also, relinked_register only, shape]
  refine ⟨head, renamed.pushFree right, _, ?_, named, gathered, ?_, register⟩
  · have enough : 1 ≤ joined.live := live ▸ sound.filed.live_pos occupiedLeft
    refine bind_done unlinked ?_
    refine bind_done unnamed ?_
    refine bind_done chosen ?_
    refine bind_done first ?_
    refine bind_done (checkedSub_of_le enough) ?_
    refine bind_done relinked ?_
    exact bind_done reNamed rfl
  · refine tied_of register ?_
    rw [keys_joined distinct heldLeft heldRight clear, ids_joined distinct heldLeft placed]
    exact links

end Joined

end ReservationTable

end P11Scope.Journal
