import P11Scope.Capture.Authorization
import P11Scope.Capture.Snapshot
import P11Scope.Capture.Get

/-!
# Both entries retain the same headers

Over a fixed memory the reference and the shipped entry keep the same list of
retained headers: the reference with an explicit count, the owner row densely
from its first place.
-/

namespace P11Scope.Capture

open Lib Lib.Flags List

section

variable (memory : (query : ReadQuery) → ReadAnswer query)

/-- What the entry keeps of one complete header. -/
def Header.getSlot (header : Header) (index : UInt64) : GetSlot where
  valuePtr := header.ptr
  entryCapacity := header.len
  kind := safeKindCode header.kind
  slotIndex := index.toUInt8

/-- The same header in the owner row. -/
def GetSlot.toSide (slot : GetSlot) : ObjectAttributeSlot where
  valuePtr := slot.valuePtr
  entryCapacity := slot.entryCapacity
  kind := slot.kind
  slotIndex := slot.slotIndex

/-- The headers retained of a list of template slots, in order. -/
def keptAt (base : UInt64) (layout : LinuxLayout) (indices : List UInt64) : List GetSlot :=
  indices.filterMap fun index =>
    (slotAt memory base layout index).header.map fun header => header.getSlot index

/-- The flags of the headers that could not be read. -/
def flagsAt (base : UInt64) (layout : LinuxLayout) (indices : List UInt64) : UInt8 :=
  mergeFlags (indices.map fun index => (slotAt memory base layout index).flags)

theorem keptAt_length_le (base : UInt64) (layout : LinuxLayout) (indices : List UInt64) :
    (keptAt memory base layout indices).length ≤ indices.length :=
  length_filterMap_le _ _

theorem toNat_ofNat_length {α : Type} {items : List α} (room : items.length ≤ 8) :
    (UInt8.ofNat items.length).toNat = items.length := by
  rw [UInt8.toNat_ofNat', Nat.mod_eq_of_lt (by omega)]

theorem keptAt_concat (base : UInt64) (layout : LinuxLayout) (indices : List UInt64)
    (index : UInt64) :
    keptAt memory base layout (indices ++ [index]) =
      keptAt memory base layout indices ++
        ((slotAt memory base layout index).header.map fun header =>
          header.getSlot index).toList := by
  simp only [keptAt, filterMap_append, filterMap_cons, filterMap_nil]
  cases (slotAt memory base layout index).header with
  | none | some => rfl

theorem flagsAt_concat (base : UInt64) (layout : LinuxLayout) (indices : List UInt64)
    (index : UInt64) :
    flagsAt memory base layout (indices ++ [index]) =
      flagsAt memory base layout indices ||| (slotAt memory base layout index).flags := by
  simp only [flagsAt, mergeFlags, map_append, map_cons, map_nil, merge_concat]

variable {base : UInt64} {layout : LinuxLayout}

/-- The reference's loop retains the complete headers in order. -/
theorem retainHeader_foldl {start : GetEntryState} (empty : start.slots = padWith {} [])
    (none : start.slotCount = 0) (indices : List UInt64) (room : indices.length ≤ 8) :
    indices.foldl (fun state index => (retainHeader base layout state index).against memory)
        start =
      { start with
        slots := padWith {} (keptAt memory base layout indices)
        slotCount := UInt8.ofNat (keptAt memory base layout indices).length
        entryFlags := start.entryFlags ||| flagsAt memory base layout indices } := by
  induction indices using List.reverseRecOn with
  | nil =>
    obtain ⟨templateBase, headerEnd, slots, slotCount, inspected, entryFlags⟩ := start
    cases none
    simp [keptAt, flagsAt, mergeFlags, ← empty]
  | append_singleton rest index ih =>
    have shorter : rest.length < 8 := by simpa using room
    have fits : (keptAt memory base layout rest).length ≤ 8 :=
      (keptAt_length_le memory base layout rest).trans shorter.le
    have place := toNat_ofNat_length fits
    have same : (readOwnSlot base layout index).against memory =
      slotAt memory base layout index := rfl
    have shows := slotAt_shows memory base layout index
    rw [foldl_append, ih shorter.le, keptAt_concat, flagsAt_concat]
    simp only [foldl_cons, foldl_nil, retainHeader, Asking.against_bind, same]
    generalize slotAt memory base layout index = slot at shows
    cases shows with
    | complete inside selected kinded pointed sized =>
      simp [padWith_concat, place, Header.getSlot]
    | _ => simp [UInt8.or_assoc]

/-- The places after the listed ones hold the filler. -/
theorem padWith_getElem?_free {α : Type} (filler : α) (items : List α) {place : Nat}
    (free : items.length ≤ place) (inside : place < 8) :
    (padWith filler items)[place]? = some filler := by
  simp [padWith, inside, getElem?_eq_none free]

/-- The shipped loop writes the same headers densely into the owner row. -/
theorem retainHeaderInto_foldl {start : GetEntryWalk} (empty : start.side.slots = padWith {} [])
    (none : start.verdict.slotCount = 0) (going : start.stopped = false) (indices : List UInt64)
    (room : indices.length ≤ 8) :
    indices.foldl (fun walk index => (retainHeaderInto base layout walk index).against memory)
        start =
      { side := { start.side with
          slots := padWith {} ((keptAt memory base layout indices).map GetSlot.toSide) }
        verdict := { start.verdict with
          slotCount := UInt8.ofNat (keptAt memory base layout indices).length
          entryFlags := start.verdict.entryFlags ||| flagsAt memory base layout indices } } := by
  induction indices using List.reverseRecOn with
  | nil =>
    obtain ⟨side, ⟨inspected, slotCount, entryFlags⟩, stopped⟩ := start
    cases none
    cases going
    simp [keptAt, flagsAt, mergeFlags, ← empty]
  | append_singleton rest index ih =>
    have shorter : rest.length < 8 := by simpa using room
    have fewer : (keptAt memory base layout rest).length < 8 :=
      (keptAt_length_le memory base layout rest).trans_lt shorter
    have place := toNat_ofNat_length fewer.le
    have free := padWith_getElem?_free ({} : ObjectAttributeSlot)
      ((keptAt memory base layout rest).map GetSlot.toSide) (length_map _).le fewer
    have same : (readOwnSlot base layout index).against memory =
      slotAt memory base layout index := rfl
    have shows := slotAt_shows memory base layout index
    rw [foldl_append, ih shorter.le, keptAt_concat, flagsAt_concat]
    simp only [foldl_cons, foldl_nil, retainHeaderInto, Asking.against_bind,
      Bool.false_eq_true, ↓reduceIte, same]
    generalize slotAt memory base layout index = slot at shows
    cases shows with
    | complete inside selected kinded pointed sized =>
      simp [GetEntryWalk.retain, padWith_concat, place, free, Header.getSlot, GetSlot.toSide]
    | _ => simp [UInt8.or_assoc]

/-! ## The retained slots -/

/-- The retained slots: known kinds, at rising template indices. -/
structure KeptSlots (inspected : Nat) (kept : List GetSlot) : Prop where
  bounded : inspected ≤ 8
  room : kept.length ≤ 8
  known : ∀ slot ∈ kept, (kindFromCode slot.kind).isSome
  inside : ∀ slot ∈ kept, slot.slotIndex.toNat < inspected
  rising : kept.Pairwise fun first second => first.slotIndex.toNat < second.slotIndex.toNat

theorem KeptSlots.empty : KeptSlots 0 [] :=
  ⟨Nat.zero_le 8, Nat.zero_le 8, nofun, nofun, List.Pairwise.nil⟩

variable (count : UInt64)

theorem slotIndices_pairwise :
    (slotIndices count).Pairwise fun first second => first.toNat < second.toNat := by
  rw [slotIndices, pairwise_map]
  have bound := (inspectedSlots count).toNat_lt
  refine List.Pairwise.imp_of_mem ?_ pairwise_lt_range
  intro first second firstIn secondIn below
  rw [mem_range] at firstIn secondIn
  rw [UInt64.toNat_ofNat', UInt64.toNat_ofNat', Nat.mod_eq_of_lt (firstIn.trans bound),
    Nat.mod_eq_of_lt (secondIn.trans bound)]
  exact below

theorem toNat_toUInt8_of_lt {index : UInt64} (small : index < 8) :
    index.toUInt8.toNat = index.toNat := by
  have below := UInt64.lt_iff_toNat_lt.mp small
  change index.toNat < 8 at below
  rw [UInt64.toNat_toUInt8, Nat.mod_eq_of_lt (by omega)]

theorem mem_keptAt {indices : List UInt64} {slot : GetSlot}
    (member : slot ∈ keptAt memory base layout indices) :
    ∃ index ∈ indices, ∃ header : Header, slot = header.getSlot index := by
  obtain ⟨index, listed, found⟩ := mem_filterMap.mp member
  obtain ⟨header, _, same⟩ := Option.map_eq_some_iff.mp found
  exact ⟨index, listed, header, same.symm⟩

theorem keptAt_keptSlots (base count : UInt64) (layout : LinuxLayout) :
    KeptSlots (inspectedSlots count).toNat (keptAt memory base layout (slotIndices count)) where
  bounded := by
    rw [toNat_inspectedSlots]
    exact Nat.min_le_right _ _
  room := (keptAt_length_le memory base layout _).trans (slotIndices_length_le count)
  known := by
    intro slot member
    obtain ⟨index, _, header, rfl⟩ := mem_keptAt memory member
    exact (kindFromCode_isSome header.kind).resolve_left (safeKindCode_ne_zero header.kind)
  inside := by
    intro slot member
    obtain ⟨index, listed, header, rfl⟩ := mem_keptAt memory member
    change index.toUInt8.toNat < _
    rw [toNat_toUInt8_of_lt (lt_eight_of_mem_slotIndices listed)]
    exact UInt64.lt_iff_toNat_lt.mp (mem_slotIndices.mp listed)
  rising := by
    rw [keptAt, pairwise_filterMap]
    refine List.Pairwise.imp_of_mem ?_ (slotIndices_pairwise count)
    intro first second firstIn secondIn below one found two other
    obtain ⟨_, _, rfl⟩ := Option.map_eq_some_iff.mp found
    obtain ⟨_, _, rfl⟩ := Option.map_eq_some_iff.mp other
    change first.toUInt8.toNat < second.toUInt8.toNat
    rw [toNat_toUInt8_of_lt (lt_eight_of_mem_slotIndices firstIn),
      toNat_toUInt8_of_lt (lt_eight_of_mem_slotIndices secondIn)]
    exact below

/-! ## Both entries -/

/-- The flags an entry can leave: never the bit that marks an uninspected list. -/
def entryFlagSet : UInt8 := 0x0E

variable {flags : UInt8}

theorem entryFlags_clear (entry : Under flags entryFlagSet) :
    flags &&& 1 = 0 ∧ flags &&& 0x0F = flags := by
  have every : ∀ word : UInt8, word ||| 0x0E = 0x0E → word &&& 1 = 0 ∧ word &&& 0x0F = word := by
    decide +kernel
  exact every flags entry

/-- What both entries leave: the same base, end, count, flags and retained list. -/
structure EntriesAgree (state : GetEntryState) (side : ObjectStart) (kept : List GetSlot) :
    Prop where
  base : side.getTemplateBase = state.templateBase
  headerEnd : side.inspectedHeaderEnd = state.headerEnd
  inspected : side.getInspected = state.inspected
  slots : state.slots = padWith {} kept
  counted : state.slotCount = UInt8.ofNat kept.length
  dense : side.slots = padWith {} (kept.map GetSlot.toSide)
  flags : ((side.flags &&& getEntryFlagsMask) >>> getEntryFlagsShift).toUInt8 =
    state.entryFlags &&& 0x0F
  marked : side.flags &&& getEntryUninspected = 0

/-- The private bits return the entry's flags. -/
theorem private_flags (row : UInt16) (flags : UInt8) :
    ((((row &&& ~~~getEntryFlagsMask) ||| (flags.toUInt16 <<< getEntryFlagsShift)) &&&
      getEntryFlagsMask) >>> getEntryFlagsShift).toUInt8 = flags &&& 0x0F := by
  apply UInt8.toBitVec_inj.mp
  apply BitVec.eq_of_getLsbD_eq
  intro place inside
  interval_cases place <;> simp [getEntryFlagsMask, getEntryFlagsShift]

theorem private_unmarked (row : UInt16) (clear : flags &&& 1 = 0) :
    ((row &&& ~~~getEntryFlagsMask) ||| (flags.toUInt16 <<< getEntryFlagsShift)) &&&
      getEntryUninspected = 0 := by
  have bit : flags.toBitVec.getLsbD 0 = false := by
    have masked := congrArg (fun word => word.toBitVec.getLsbD 0) clear
    simpa using masked
  apply UInt16.toBitVec_inj.mp
  apply BitVec.eq_of_getLsbD_eq
  intro place inside
  interval_cases place <;>
    simp_all [getEntryFlagsMask, getEntryFlagsShift, getEntryUninspected]

/-- A truncated table leaves room for its inspected headers. -/
theorem checkedAdd_headerBytes_of_truncated {count : UInt64}
    (accepted : tableValid base count layout) (long : count > maxAttributeSlots) :
    (checkedAdd base (headerBytes count layout)).isSome := by
  have more : 8 < count.toNat := UInt64.lt_iff_toNat_lt.mp long
  have bytes := toNat_headerBytes count layout
  have below : base.toNat + headerSize layout count < 2 ^ 64 := by
    obtain ⟨table, total, valid⟩ := tableValid_span accepted
    have space := addressSpace_le layout
    have fits := validateTargetSpan_isSome valid
    have size : 0 < 3 * wordSize layout := by cases layout <;> decide
    have larger : headerSize layout count < table.toNat := by
      rw [total]
      exact Nat.mul_lt_mul_of_pos_right (by omega) size
    rcases fits with empty | inside
    · rw [empty] at larger
      exact absurd larger (Nat.not_lt_zero _)
    · omega
  rw [checkedAdd, bytes, if_pos below]
  rfl

theorem truncatedFlag_under : Under (truncatedFlag count) entryFlagSet := by
  unfold truncatedFlag
  split
  · exact (by decide : AttrListFlag.truncated ||| entryFlagSet = entryFlagSet)
  · exact under_zero entryFlagSet

theorem flagsAt_under (base : UInt64) (layout : LinuxLayout) (indices : List UInt64) :
    Under (flagsAt memory base layout indices) entryFlagSet := by
  refine under_mergeFlags_iff.mpr fun flag listed => ?_
  obtain ⟨index, _, rfl⟩ := mem_map.mp listed
  rcases (slotAt_shows memory base layout index).headerFlag with none | failed
  · rw [none]
    exact under_zero entryFlagSet
  · rw [failed]
    exact (by decide : AttrListFlag.headerReadFailure ||| entryFlagSet = entryFlagSet)

theorem inspectedSlots_toUInt8 :
    (inspectedSlots count).toUInt8.toNat = (inspectedSlots count).toNat := by
  have bound := toNat_inspectedSlots count
  rw [UInt64.toNat_toUInt8, Nat.mod_eq_of_lt (by omega)]

theorem zeroSlots_eq : Vector.replicate 8 ({} : GetSlot) = padWith {} [] := by decide

theorem zeroSideSlots_eq : Vector.replicate 8 ({} : ObjectAttributeSlot) = padWith {} [] := by
  decide

/-- A state and a row with the same parts agree. -/
theorem EntriesAgree.of_parts (side : ObjectStart) (base headerEnd : UInt64) (inspected : UInt8)
    (kept : List GetSlot) (entry : Under flags entryFlagSet) : EntriesAgree
      { templateBase := base, headerEnd := headerEnd, slots := padWith {} kept
        slotCount := UInt8.ofNat kept.length, inspected := inspected, entryFlags := flags }
      { clearGetEntry side with
        getTemplateBase := base, inspectedHeaderEnd := headerEnd, getInspected := inspected
        slots := padWith {} (kept.map GetSlot.toSide)
        flags := (clearGetEntry side).flags ||| (flags.toUInt16 <<< getEntryFlagsShift) }
      kept where
  base := rfl
  headerEnd := rfl
  inspected := rfl
  slots := rfl
  counted := rfl
  dense := rfl
  flags := private_flags side.flags flags
  marked := private_unmarked side.flags (entryFlags_clear entry).1

/-- Both entries leave agreeing records and the same verdict. -/
theorem captureGetEntry_agree (templatePtr count : UInt64) (layout : LinuxLayout)
    (state : GetEntryState) (side : ObjectStart) :
    ∃ kept, EntriesAgree ((captureGetEntry templatePtr count layout state).against memory).1
        ((captureGetEntryInto templatePtr count layout side).against memory).1 kept ∧
      KeptSlots ((captureGetEntry templatePtr count layout state).against memory).1.inspected.toNat
        kept ∧
      ((captureGetEntryInto templatePtr count layout side).against memory).2 =
        ((captureGetEntry templatePtr count layout state).against memory).2 := by
  have invalid : Under AttrListFlag.invalidSpan entryFlagSet :=
    (by decide : AttrListFlag.invalidSpan ||| entryFlagSet = entryFlagSet)
  have refused := EntriesAgree.of_parts side 0 0 0 [] invalid
  unfold captureGetEntry captureGetEntryInto
  cases accepted : tableValid templatePtr count layout with
  | false => exact ⟨[], refused, KeptSlots.empty, rfl⟩
  | true =>
    cases headers : checkedAdd templatePtr (headerBytes count layout) with
    | none =>
      -- An overflow of the inspected headers rules a truncation out.
      have short : truncatedFlag count = 0 := by
        refine if_neg fun long => ?_
        have room := checkedAdd_headerBytes_of_truncated accepted long
        rw [headers] at room
        cases room
      simp only [short, UInt8.zero_or]
      exact ⟨[], refused, KeptSlots.empty, rfl⟩
    | some headerEnd =>
      have room := slotIndices_length_le count
      have entry : Under (truncatedFlag count |||
          flagsAt memory templatePtr layout (slotIndices count)) entryFlagSet :=
        (truncatedFlag_under count).or (flagsAt_under memory templatePtr layout _)
      have kept := keptAt_keptSlots memory templatePtr count layout
      rw [← inspectedSlots_toUInt8] at kept
      have agreed := EntriesAgree.of_parts side templatePtr headerEnd
        (inspectedSlots count).toUInt8 (keptAt memory templatePtr layout (slotIndices count))
        entry
      refine ⟨keptAt memory templatePtr layout (slotIndices count), ?_⟩
      simp only [Bool.not_true, Bool.false_eq_true, ↓reduceIte, Asking.against_bind,
        Asking.against_foldlM, Asking.against_pure]
      rw [retainHeader_foldl memory zeroSlots_eq rfl _ room,
        retainHeaderInto_foldl memory zeroSideSlots_eq rfl rfl _ room]
      exact ⟨agreed, kept, rfl⟩

end

end P11Scope.Capture
