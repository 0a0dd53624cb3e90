import P11Scope.Capture.GetEntry

/-!
# Both returns publish the same list

The verdict on a template index depends only on the retained list and the
memory at return.  The reference collects the verdicts by index; the shipped
loop writes them while it walks the retained slots.
-/

variable {place : Nat} {kind : SafeAttributeKind} {slot : GetSlot} {index : UInt64}
  {addresses : HeaderAddresses}

namespace P11Scope.Capture

open Lib Lib.Flags
open List hiding Vector

/-! ## Packed scalars -/

theorem decodeGetSlotLayout_encodeGetSlotLayout (inside : place < 8) (layout : LinuxLayout) :
    decodeGetSlotLayout (encodeGetSlotLayout (UInt64.ofNat place) layout) =
      (UInt64.ofNat place, layout) := by
  interval_cases place <;> cases layout <;> decide

theorem decodeGetSlotResult_encodeGetSlotResult (flow : GetSlotFlow) (contributed : UInt32) :
    decodeGetSlotResult (encodeGetSlotResult flow contributed) = (flow, contributed) := by
  obtain ⟨tag, small, encoded⟩ : ∃ tag : UInt64, Packed.Holds tag tag.toNat 2 ∧
      encodeGetSlotResult flow contributed = tag ||| contributed.toUInt64 <<< 2 ∧
      (if tag = 0 then GetSlotFlow.break else if tag = 1 then .continue
        else if tag = 2 then .done else .break) = flow := by
    cases flow with
    | «break» => exact ⟨0, ⟨rfl, by decide⟩, UInt64.or_comm _ _, rfl⟩
    | «continue» => exact ⟨1, ⟨rfl, by decide⟩, UInt64.or_comm _ _, rfl⟩
    | done => exact ⟨2, ⟨rfl, by decide⟩, UInt64.or_comm _ _, rfl⟩
  have whole := (small.or_shiftLeft (Packed.Holds.ofUInt32 contributed) 2 2 (by decide)).value_eq
  rw [← encoded.1] at whole
  have below := small.fits
  have bound := contributed.toNat_lt
  have low : encodeGetSlotResult flow contributed &&& 0x03 = tag := by
    apply UInt64.toNat_inj.mp
    rw [Packed.toNat_and_mask _ _ 2 rfl]
    omega
  have high : (encodeGetSlotResult flow contributed >>> 2).toUInt32 = contributed := by
    apply UInt32.toNat_inj.mp
    simp [whole]
    omega
  rw [decodeGetSlotResult, low, high, encoded.2]

theorem aliasCapacityHit_eq (build : Build) (ptr len otherPtr otherCap : UInt64)
    (layout : LinuxLayout) :
    aliasCapacityHit build ptr len otherPtr otherCap layout =
      aliasCapacityCore ptr len otherPtr otherCap layout := by
  cases build with
  | host => rfl
  | bpf =>
    have decoded : decodeAliasCapacityLayout layout.wordBytes = some layout := by
      cases layout <;> rfl
    simp only [aliasCapacityHit, aliasCapacityPacked, decoded]
    cases aliasCapacityCore ptr len otherPtr otherCap layout <;> rfl

/-! ## Retained places -/

section Places

variable {state : GetEntryState} {side : ObjectStart} {kept : List GetSlot} {inspected : Nat}

theorem padWith_toList {α : Type} (filler : α) {items : List α} (room : items.length ≤ 8) :
    (padWith filler items).toList = items ++ List.replicate (8 - items.length) filler := by
  refine ext_getElem (by simp [room]) fun place inside _ => ?_
  rw [getElem_append]
  simp only [padWith]
  split
  case isTrue listed => simp [listed]
  case isFalse free => simp [getElem?_eq_none (Nat.le_of_not_lt free)]

section

variable (agree : EntriesAgree state side kept) (slots : KeptSlots inspected kept)
include agree slots

/-- The reference's retained places are the kept slots. -/
theorem EntriesAgree.retained : state.slots.toList.take (min state.slotCount.toNat 8) = kept := by
  rw [agree.slots, agree.counted, toNat_ofNat_length slots.room, Nat.min_eq_left slots.room,
    padWith_toList _ slots.room, take_left']
  rfl

/-- The selected prefix of the owner row is the kept slots. -/
theorem EntriesAgree.selected :
    (side.slots.toList.zipIdx.takeWhile fun other => slotKindSelected other.1.kind) =
      (kept.map GetSlot.toSide).zipIdx := by
  have room : (kept.map GetSlot.toSide).length ≤ 8 := by rw [length_map]; exact slots.room
  rw [agree.dense, padWith_toList _ room, zipIdx_append, takeWhile_append_of_pos]
  · have rest (more place : Nat) :
        ((List.replicate more ({} : ObjectAttributeSlot)).zipIdx place).takeWhile
          (fun other => slotKindSelected other.1.kind) = [] := by
      cases more with
      | zero | succ => rfl
    rw [rest, append_nil]
  · intro entry member
    obtain ⟨slot, source, same⟩ := mem_map.mp (fst_mem_of_mem_zipIdx member)
    rw [slotKindSelected_iff, ← same]
    exact slots.known slot source

/-- A template index has at most one retained slot. -/
theorem EntriesAgree.retainedFor_eq (found : kept[place]? = some slot) :
    retainedFor state slot.slotIndex.toNat = some (slot, place) := by
  obtain ⟨inside, same⟩ := List.getElem?_eq_some_iff.mp found
  rw [retainedFor, agree.retained slots, find?_eq_some_iff_getElem]
  refine ⟨decide_eq_true rfl, place, by simpa using inside, by simp [same], ?_⟩
  intro other earlier
  have below := pairwise_iff_getElem.mp slots.rising other place (earlier.trans inside) inside
    earlier
  rw [same] at below
  simpa using below.ne

theorem EntriesAgree.retainedFor_none {index : Nat}
    (absent : index ∉ kept.map fun slot => slot.slotIndex.toNat) :
    retainedFor state index = none := by
  rw [retainedFor, agree.retained slots, find?_eq_none]
  intro entry member
  have source := fst_mem_of_mem_zipIdx member
  simp only [decide_eq_true_eq]
  exact fun same => absent (same ▸ mem_map_of_mem source)

/-- Both alias passes weigh a value against the same capacities. -/
theorem EntriesAgree.capacityAliases_eq (build : Build) (place : Nat) (ptr len : UInt64)
    (layout : LinuxLayout) : capacityAliases build side place ptr len layout =
      returnAliases state layout ptr len place := by
  rw [capacityAliases, returnAliases, agree.base, agree.headerEnd, agree.selected slots,
    agree.retained slots, zipIdx_map, any_map]
  congr 2
  funext other
  simp only [Function.comp_apply, aliasCapacityHit_eq, aliasCapacityCore]
  refine Bool.eq_iff_iff.mpr ?_
  simp only [Prod.map_fst, Prod.map_snd, id_eq, Bool.and_eq_true, decide_eq_true_eq, and_assoc]
  exact and_congr_right fun _ => alias_guard_iff ptr len _ _ layout

end

end Places

/-! ## One retained slot -/

section Slots

variable (memory : (query : ReadQuery) → ReadAnswer query)
variable {state : GetEntryState} {side : ObjectStart} {kept : List GetSlot} {inspected : Nat}
variable {layout : LinuxLayout}

/-- The reference's verdict on one template index. -/
def verdictAt (entry : GetEntryState) (layout : LinuxLayout) (index : UInt64) :
    AttrCell × UInt32 :=
  (settleReturned entry layout
    ((rereadHeader entry layout index).against memory, index)).against memory

/-- An index without a retained slot stays empty. -/
theorem verdictAt_absent (absent : retainedFor state index.toNat = none) :
    verdictAt memory state layout index = ({}, 0) := by
  simp [verdictAt, rereadHeader, absent, settleReturned]

theorem eq_safeKindCode {code : UInt8} (known : kindFromCode code = some kind) :
    code = safeKindCode kind := by
  have every : ∀ word : UInt8, ∀ found ∈ kindFromCode word, word = safeKindCode found := by
    decide +kernel
  exact every code kind known

variable (build : Build)

/-- A value is read again and rechecked by both in the same way. -/
theorem readReturnedCell_against {base ptr len : UInt64}
    (inside : attributeHeaderAddresses base index layout = some addresses) :
    (readReturnedCell base layout index kind ptr len).against memory =
      (stableAttributeCell build base index kind ptr len layout
        { kind := safeKindCode kind }).against memory := by
  unfold readReturnedCell stableAttributeCell
  rw [stableCell_eq]
  unfold stableCellCore
  simp only [inside, Asking.against_bind]
  have rechecked (value : Option UInt16) :
      (readReturnedCell.recheck layout kind ptr len addresses value).against memory =
        (let cell := (stableCellCore.recheck base index kind ptr len layout value).against memory
        ({ kind := safeKindCode kind, status := cell.status
           value := if cell.writeValue then cell.value else 0 }, cell.contributed)) := by
    unfold readReturnedCell.recheck stableCellCore.recheck
    simp only [inside, Asking.against_bind, readWord_against]
    cases wordAt memory addresses.selector layout with
    | none => rfl
    | some selector =>
      cases wordAt memory addresses.pointer layout with
      | none => rfl
      | some pointer =>
        cases wordAt memory addresses.length layout with
        | none => rfl
        | some length =>
          dsimp only
          split
          · cases value <;> rfl
          · rfl
  cases (readClassifiedValue kind ptr len layout).against memory with
  | ok value => exact rechecked (some value)
  | error status =>
    by_cases unsupported : status = AttrStatus.unsupported
    · simp only [unsupported, ↓reduceIte]
      exact rechecked none
    · simp [unsupported, kindCell]

/-- The ordered checks of both passes are those of the one pass. -/
theorem settleReturned_judged (agree : EntriesAgree state side kept)
    (slots : KeptSlots inspected kept) (known : kindFromCode slot.kind = some kind)
    (inside : attributeHeaderAddresses state.templateBase index layout = some addresses)
    (place : Nat) (selector ptr len : UInt64) : (settleReturned state layout
        (judgeReturned slot kind place layout selector ptr len, index)).against memory =
      match getSlotStatus build side slot.toSide kind place layout selector ptr len with
      | some (status, contributed) => ({ kind := slot.kind, status := status }, contributed)
      | none => (stableAttributeCell build side.getTemplateBase index kind ptr len layout
          { kind := slot.kind }).against memory := by
  have named := eq_safeKindCode known
  unfold judgeReturned getSlotStatus
  by_cases selected : selector = selectorForKind kind
  case neg =>
    simp [safeAttributeKind_eq_some_iff, selected, settleReturned, changedCell]
  by_cases sizeOnly : slot.valuePtr = 0
  case pos =>
    simp [safeAttributeKind_eq_some_iff, selected, sizeOnly, settleReturned, settledCell,
      GetSlot.toSide]
  by_cases same : ptr = slot.valuePtr
  case neg =>
    simp [safeAttributeKind_eq_some_iff, selected, sizeOnly, same, settleReturned, changedCell,
      GetSlot.toSide]
  subst same
  simp only [safeAttributeKind_eq_some_iff, selected, sizeOnly, ne_eq, not_true_eq_false,
    ↓reduceIte, GetSlot.toSide]
  by_cases unavailable : len = unavailableLen layout
  case pos => simp [unavailable, settleReturned, settledCell]
  by_cases short : slot.entryCapacity < minExactLen kind layout
  case pos => simp [unavailable, short, settleReturned, settledCell]
  by_cases invalid : len > slot.entryCapacity ∨ !validSafeAttributeLength kind len layout
  case pos =>
    simp only [unavailable, short, invalid, ↓reduceIte]
    rfl
  simp only [unavailable, short, invalid, ↓reduceIte]
  by_cases outside : (validateTargetSpan slot.valuePtr len layout).isNone
  case pos => simp [outside, settleReturned, settledCell]
  simp only [outside, ↓reduceIte, Bool.false_eq_true, agree.capacityAliases_eq slots,
    settleReturned]
  cases returnAliases state layout slot.valuePtr len place with
  | true => simp [kindCell, named]
  | false =>
    simp only [Bool.false_eq_true, ↓reduceIte, agree.base, named]
    exact readReturnedCell_against memory build inside

variable (layout) in
/-- The shipped verdict on a retained slot is the reference's on its index. -/
theorem classifySelected_against (agree : EntriesAgree state side kept)
    (slots : KeptSlots inspected kept) (found : kept[place]? = some slot)
    (known : kindFromCode slot.kind = some kind) : ∃ flow, flow ≠ GetSlotFlow.break ∧
      (classifySelected build side slot.toSide kind place layout {}).against memory =
        (flow, (verdictAt memory state layout slot.slotIndex.toUInt64).2,
          (verdictAt memory state layout slot.slotIndex.toUInt64).1) := by
  have retained : retainedFor state slot.slotIndex.toUInt64.toNat = some (slot, place) := by
    rw [UInt8.toNat_toUInt64]
    exact agree.retainedFor_eq slots found
  have same : slot.toSide.slotIndex = slot.slotIndex := rfl
  unfold classifySelected verdictAt rereadHeader
  simp only [retained, known, agree.base, same]
  cases inside : attributeHeaderAddresses state.templateBase slot.slotIndex.toUInt64 layout with
  | none => exact ⟨.continue, nofun, rfl⟩
  | some addresses =>
    simp only [Asking.against_bind, readWord_against]
    cases wordAt memory addresses.selector layout with
    | none => exact ⟨.continue, nofun, rfl⟩
    | some selector =>
      cases wordAt memory addresses.pointer layout with
      | none => exact ⟨.continue, nofun, rfl⟩
      | some ptr =>
        cases wordAt memory addresses.length layout with
        | none => exact ⟨.continue, nofun, rfl⟩
        | some len =>
          simp only [Asking.against_pure]
          rw [settleReturned_judged memory build agree slots known inside]
          refine ⟨.done, nofun, ?_⟩
          rw [agree.base]
          cases getSlotStatus build side slot.toSide kind place layout selector ptr len with
          | none => exact Asking.against_bind memory _ _
          | some status => rfl

/-! ## The walk over the retained slots -/

/-- The cells of the listed slots, each at its template index. -/
def cellsOf (entry : GetEntryState) (layout : LinuxLayout) (listed : List GetSlot) :
    Vector AttrCell 8 :=
  Vector.ofFn fun place =>
    if place.val ∈ listed.map (fun slot => slot.slotIndex.toNat) then
      (verdictAt memory entry layout (UInt64.ofNat place.val)).1
    else {}

/-- The contributions of the listed slots. -/
def contributionsOf (entry : GetEntryState) (layout : LinuxLayout) (listed : List GetSlot) :
    UInt32 :=
  mergeObjectFlags (listed.map fun slot =>
    (verdictAt memory entry layout slot.slotIndex.toUInt64).2)

theorem min_eight {inspected : UInt8} (bounded : inspected.toNat ≤ 8) :
    min inspected 8 = inspected :=
  if_pos (UInt8.le_iff_toNat_le.mpr bounded)

theorem and_seven {index : UInt8} (small : index.toNat < 8) :
    (index &&& 7).toNat = index.toNat := by
  exact (Nat.and_two_pow_sub_one_eq_mod index.toNat 3).trans (Nat.mod_eq_of_lt small)

theorem toNat_ofNat_place (below : place < 8) : (UInt64.ofNat place).toNat = place := by
  rw [UInt64.toNat_ofNat', Nat.mod_eq_of_lt (by omega)]

/-- A turn of the loop at a retained slot writes the verdict at its index. -/
theorem classifyNext_kept (agree : EntriesAgree state side kept)
    (slots : KeptSlots state.inspected.toNat kept) (found : kept[place]? = some slot)
    {walk : GetReturnWalk} (going : walk.stopped = false)
    (free : walk.out.cells[slot.slotIndex.toNat]? = some {}) :
    (classifyNext build side layout walk place).against memory =
      { out := { walk.out with
          cells := walk.out.cells.setIfInBounds slot.slotIndex.toNat
            (verdictAt memory state layout slot.slotIndex.toUInt64).1 }
        contributed := walk.contributed |||
          (verdictAt memory state layout slot.slotIndex.toUInt64).2
        stopped := false } := by
  have member := mem_of_getElem? found
  have inside := slots.inside slot member
  obtain ⟨kind, known⟩ := Option.isSome_iff_exists.mp (slots.known slot member)
  have below : place < 8 :=
    (List.getElem?_eq_some_iff.mp found).1.trans_le slots.room
  have held : (side.slots[place]?).getD {} = slot.toSide := by
    rw [agree.dense]
    simp [padWith, below, found]
  have bounded : ¬ slot.toSide.slotIndex ≥ min side.getInspected 8 := by
    rw [agree.inspected, min_eight slots.bounded, ge_iff_le]
    exact Nat.not_le_of_lt inside
  have masked : (slot.toSide.slotIndex &&& 7).toNat = slot.slotIndex.toNat :=
    and_seven (inside.trans_le slots.bounded)
  have kinded : kindFromCode slot.toSide.kind = some kind := known
  obtain ⟨flow, onward, verdict⟩ :=
    classifySelected_against memory layout build agree slots found known
  have classified : (classifyGetSlot build side
      (encodeGetSlotLayout (UInt64.ofNat place) layout) walk.out).against memory =
      (encodeGetSlotResult flow (verdictAt memory state layout slot.slotIndex.toUInt64).2,
        { walk.out with
          cells := walk.out.cells.setIfInBounds slot.slotIndex.toNat
            (verdictAt memory state layout slot.slotIndex.toUInt64).1 }) := by
    simp only [classifyGetSlot, decodeGetSlotLayout_encodeGetSlotLayout below,
      toNat_ofNat_place below, held, kinded, bounded, masked, free, ↓reduceIte, ne_eq,
      not_true_eq_false, Asking.against_bind, verdict, Asking.against_pure]
  simp only [classifyNext, going, Bool.false_eq_true, ↓reduceIte, Asking.against_bind, classified,
    Asking.against_pure, decodeGetSlotResult_encodeGetSlotResult, onward, decide_false]

/-- A turn past the retained slots ends the loop. -/
theorem classifyNext_past (agree : EntriesAgree state side kept) (past : kept.length ≤ place)
    (below : place < 8) (walk : GetReturnWalk) :
    (classifyNext build side layout walk place).against memory = { walk with stopped := true } := by
  have held : (side.slots[place]?).getD {} = {} := by
    rw [agree.dense, padWith_getElem?_free _ _ (by simpa using past) below]
    rfl
  obtain ⟨out, contributed, stopped⟩ := walk
  cases stopped with
  | true => rfl
  | false =>
    have ended : kindFromCode ({} : ObjectAttributeSlot).kind = none := rfl
    simp only [classifyNext, classifyGetSlot, decodeGetSlotLayout_encodeGetSlotLayout below,
      toNat_ofNat_place below, held, ended, Bool.false_eq_true, ↓reduceIte, Asking.against_bind,
      Asking.against_pure, decodeGetSlotResult_encodeGetSlotResult, UInt32.or_zero, decide_true]

theorem cellsOf_nil : cellsOf memory state layout [] = Vector.replicate 8 {} := by
  ext1 place inside
  simp [cellsOf]

theorem cellsOf_concat (listed : List GetSlot) (slot : GetSlot) :
    cellsOf memory state layout (listed ++ [slot]) =
      (cellsOf memory state layout listed).setIfInBounds slot.slotIndex.toNat
        (verdictAt memory state layout slot.slotIndex.toUInt64).1 := by
  ext1 place inside
  simp only [cellsOf, Vector.getElem_ofFn, Vector.getElem_setIfInBounds, map_append,
    map_cons, map_nil, mem_append, mem_singleton]
  by_cases same : slot.slotIndex.toNat = place
  · subst same
    simp
  · simp [same, Ne.symm same]

/-- The indices of later retained slots are new. -/
theorem KeptSlots.fresh (slots : KeptSlots inspected kept) (more : place < kept.length) :
    kept[place].slotIndex.toNat ∉ (kept.take place).map fun slot => slot.slotIndex.toNat := by
  intro member
  obtain ⟨slot, earlier, same⟩ := mem_map.mp member
  have rising := slots.rising
  rw [← take_append_drop place kept, pairwise_append] at rising
  have later : kept[place] ∈ kept.drop place := by
    rw [drop_eq_getElem_cons more]
    exact mem_cons_self
  exact absurd same (rising.2.2 slot earlier _ later).ne

variable (agree : EntriesAgree state side kept) (slots : KeptSlots state.inspected.toNat kept)
include agree slots

variable (layout) in
/-- The whole loop leaves the verdicts of the retained slots. -/
theorem classifyNext_foldl (out : ObjectAttributeListWire)
    (clear : out.cells = Vector.replicate 8 {}) : ∃ stopped, (List.range 8).foldl
      (fun walk place => (classifyNext build side layout walk place).against memory)
        { out := out } =
      { out := { out with cells := cellsOf memory state layout kept }
        contributed := contributionsOf memory state layout kept, stopped := stopped } := by
  -- Up to the retained count every turn writes one more verdict.
  have upTo : ∀ count, count ≤ kept.length → (List.range count).foldl
      (fun walk place => (classifyNext build side layout walk place).against memory)
        { out := out } =
      { out := { out with cells := cellsOf memory state layout (kept.take count) }
        contributed := contributionsOf memory state layout (kept.take count) } := by
    intro count
    induction count with
    | zero =>
      intro _
      rw [take_zero, cellsOf_nil, ← clear]
      rfl
    | succ count ih =>
      intro more
      have found : kept[count]? = some kept[count] := getElem?_eq_getElem more
      have inside := slots.inside _ (getElem_mem more)
      have free : (cellsOf memory state layout (kept.take count))[
          kept[count].slotIndex.toNat]? = some {} := by
        have below : kept[count].slotIndex.toNat < 8 := inside.trans_le slots.bounded
        rw [Vector.getElem?_eq_getElem below, cellsOf, Vector.getElem_ofFn,
          if_neg (slots.fresh more)]
      rw [range_succ, foldl_append, foldl_cons, foldl_nil, ih (by omega),
        classifyNext_kept memory build agree slots found rfl free,
        take_succ_eq_append_getElem more, cellsOf_concat]
      congr 2
      simp only [contributionsOf, map_append, map_singleton]
      exact (merge_concat 0 _ _).symm
  -- Past it nothing changes any more.
  have split : List.range 8 = List.range kept.length ++
      (List.range (8 - kept.length)).map (kept.length + ·) := by
    rw [← range_add, Nat.add_sub_cancel' slots.room]
  rw [split, foldl_append, upTo _ le_rfl, take_length]
  refine List.foldlRecOn _ _ (motive := fun walk : GetReturnWalk => ∃ stopped, walk =
    { out := { out with cells := cellsOf memory state layout kept }
      contributed := contributionsOf memory state layout kept, stopped := stopped }) ⟨false, rfl⟩ ?_
  rintro walk ⟨stopped, rfl⟩ place listed
  obtain ⟨more, bound, rfl⟩ := mem_map.mp listed
  rw [mem_range] at bound
  exact ⟨true, classifyNext_past memory build agree (Nat.le_add_right _ _) (by omega) _⟩

/-! ## Both returns -/

omit agree slots in
theorem mem_inspectedIndices {inspected : UInt8} :
    index ∈ inspectedIndices inspected ↔ index.toNat < min inspected.toNat 8 := by
  simp only [inspectedIndices, mem_map, mem_range]
  constructor
  · rintro ⟨place, inside, rfl⟩
    rwa [toNat_ofNat_place (by omega)]
  · intro inside
    exact ⟨index.toNat, inside, UInt64.ofNat_toNat⟩

/-- The listed cells of the reference are those of the retained slots. -/
theorem padCells_verdicts :
    padCells ((inspectedIndices state.inspected).map fun index =>
        (verdictAt memory state layout index).1) =
      cellsOf memory state layout kept := by
  ext1 place inside
  simp only [padCells, padWith, cellsOf, Vector.getElem_ofFn, inspectedIndices, map_map,
    getElem?_map]
  by_cases retained : place ∈ kept.map fun slot => slot.slotIndex.toNat
  · obtain ⟨slot, member, same⟩ := mem_map.mp retained
    have listed := slots.inside slot member
    rw [if_pos retained, getElem?_range (by omega)]
    rfl
  rw [if_neg retained]
  by_cases listed : place < min state.inspected.toNat 8
  · have absent := agree.retainedFor_none slots retained
    rw [← toNat_ofNat_place inside] at absent
    rw [getElem?_range listed, Option.map_some, Option.getD_some, Function.comp_apply,
      verdictAt_absent memory absent]
  · rw [getElem?_eq_none (by simpa using Nat.le_of_not_gt listed)]
    rfl

/-- The merged contributions are those of the retained slots. -/
theorem mergeObjectFlags_verdicts :
    mergeObjectFlags ((inspectedIndices state.inspected).map fun index =>
        (verdictAt memory state layout index).2) =
      contributionsOf memory state layout kept := by
  have bounded := slots.bounded
  have zero (whole : UInt32) : Under 0 whole := UInt32.zero_or
  refine Under.antisymm (under_merge_iff.mpr ⟨zero _, ?_⟩) (under_merge_iff.mpr ⟨zero _, ?_⟩)
  · intro flag listed
    obtain ⟨index, _, rfl⟩ := mem_map.mp listed
    by_cases retained : index.toNat ∈ kept.map fun slot => slot.slotIndex.toNat
    · obtain ⟨slot, member, same⟩ := mem_map.mp retained
      have index_eq : slot.slotIndex.toUInt64 = index := by
        apply UInt64.toNat_inj.mp
        rw [UInt8.toNat_toUInt64, same]
      rw [← index_eq]
      exact under_merge_of_mem (mem_map_of_mem member)
    · rw [verdictAt_absent memory (agree.retainedFor_none slots retained)]
      exact zero _
  · intro flag listed
    obtain ⟨slot, member, rfl⟩ := mem_map.mp listed
    refine under_merge_of_mem (mem_map_of_mem (mem_inspectedIndices.mpr ?_))
    have inside := slots.inside slot member
    rw [UInt8.toNat_toUInt64]
    omega

omit agree slots in
/-- The reference's accepted return lists the verdicts by index. -/
theorem captureGetReturn_against {rv : UInt64} {authority : ReturnAuthority}
    (accepted : ¬ (!returnAcceptsGetResults rv || !authority.isAuthorized) = true)
    (state : GetEntryState) :
    (captureGetReturn state rv authority layout).against memory =
      { cells := padCells ((inspectedIndices state.inspected).map fun index =>
          (verdictAt memory state layout index).1)
        inspected := min state.inspected 8
        flags := (state.entryFlags &&& 0x0F) |||
          (if min state.inspected 8 > 0 then AttrListFlag.present else 0)
        objectFlags := mergeObjectFlags ((inspectedIndices state.inspected).map fun index =>
          (verdictAt memory state layout index).2) } := by
  have paired := zip_map' (f := fun index =>
    (rereadHeader state layout index).against memory) (g := id)
    (l := inspectedIndices state.inspected)
  rw [map_id] at paired
  unfold captureGetReturn
  rw [if_neg accepted]
  simp only [Asking.against_bind, Asking.against_mapM, Asking.against_pure, paired, map_map]
  rfl

/-- Agreeing entries make both returns publish the same list and contributions. -/
theorem captureGetReturn_agree (rv : UInt64) (authority : ReturnAuthority)
    (out : ObjectAttributeListWire) :
    (captureGetReturnInto build side rv authority layout out).against memory =
      (((captureGetReturn state rv authority layout).against memory).toWire,
        ((captureGetReturn state rv authority layout).against memory).objectFlags) := by
  by_cases refused : (!returnAcceptsGetResults rv || !authority.isAuthorized) = true
  · unfold captureGetReturnInto captureGetReturn
    rw [if_pos refused, if_pos refused]
    rfl
  obtain ⟨stopped, walked⟩ := classifyNext_foldl memory layout build agree slots
    { inspected := min state.inspected 8
      flags := (state.entryFlags &&& 0x0F) |||
        (if min state.inspected 8 > 0 then AttrListFlag.present else 0) } rfl
  rw [captureGetReturn_against memory refused, padCells_verdicts memory agree slots,
    mergeObjectFlags_verdicts memory agree slots]
  unfold captureGetReturnInto
  simp only [refused, Bool.false_eq_true, ↓reduceIte, agree.marked, ne_eq, not_true_eq_false,
    agree.inspected, agree.flags, clearAttributeList, Asking.against_bind,
    Asking.against_foldlM, Asking.against_pure, walked, AttributeListOutcome.toWire]

end Slots

/-- Over any memory at entry and any other at return, the shipped path retains
the slots of the reference and publishes its list and its flag contributions. -/
theorem get_attributes_eq_reference (build : Build)
    (entryMemory returnMemory : (query : ReadQuery) → ReadAnswer query) (layout : LinuxLayout)
    (templatePtr count rv : UInt64) (authority : ReturnAuthority) (state : GetEntryState)
    (side : ObjectStart) (out : ObjectAttributeListWire) :
    let reference := (captureGetEntry templatePtr count layout state).against entryMemory
    let shipped := (captureGetEntryInto templatePtr count layout side).against entryMemory
    let outcome := (captureGetReturn reference.1 rv authority layout).against returnMemory
    shipped.2 = reference.2 ∧
      shipped.1.slots = reference.1.slots.map GetSlot.toSide ∧
      (captureGetReturnInto build shipped.1 rv authority layout out).against returnMemory =
        (outcome.toWire, outcome.objectFlags) := by
  obtain ⟨kept, agree, slots, verdict⟩ :=
    captureGetEntry_agree entryMemory templatePtr count layout state side
  refine ⟨verdict, ?_, captureGetReturn_agree returnMemory build agree slots rv authority out⟩
  rw [agree.dense, agree.slots]
  ext1 place inside
  simp only [padWith, Vector.getElem_ofFn, Vector.getElem_map, getElem?_map]
  cases kept[place]? with
  | none | some => rfl

end P11Scope.Capture
