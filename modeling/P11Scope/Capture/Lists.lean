import P11Scope.Capture.Publication
import P11Scope.Capture.GetReturn
import P11Scope.Capture.TailForm

/-!
# Published lists are well formed

Whatever the observed process answers, a request list and a result list have one
of the two honest shapes, and only public object flags are contributed.
-/

namespace P11Scope.Capture

open Lib Lib.Flags

variable {honest : (query : ReadQuery) → ReadAnswer query → Prop}

/-- Only public object flags. -/
def PublicFlags (flags : UInt32) : Prop := Under flags objectFlagsMask

instance (flags : UInt32) : Decidable (PublicFlags flags) :=
  inferInstanceAs (Decidable (flags ||| objectFlagsMask = objectFlagsMask))

theorem PublicFlags.zero : PublicFlags 0 := by decide

theorem PublicFlags.or {first second : UInt32} (one : PublicFlags first)
    (two : PublicFlags second) : PublicFlags (first ||| second) := Under.or one two

theorem PublicFlags.ite {condition : Prop} [Decidable condition] {first second : UInt32}
    (one : PublicFlags first) (two : PublicFlags second) :
    PublicFlags (if condition then first else second) := by
  split
  · exact one
  · exact two

theorem mergeObjectFlags_public {flags : List UInt32} (each : ∀ flag ∈ flags, PublicFlags flag) :
    PublicFlags (mergeObjectFlags flags) :=
  under_merge_iff.mpr ⟨PublicFlags.zero, each⟩

/-! ## Request lists -/

theorem SoundFacts.public {facts : RequestCellFacts} (sound : SoundFacts facts) :
    PublicFlags facts.objectFlags := by
  rcases sound.objectFlags with none | aliased | changed
  · rw [none]
    exact PublicFlags.zero
  · rw [aliased]
    decide
  · rw [changed]
    decide

/-- A known kind code is finite. -/
theorem kind_le_max {code : UInt8} (known : code = 0 ∨ (kindFromCode code).isSome) :
    code ≤ attrKindMax := by
  have every : ∀ word : UInt8, word = 0 ∨ (kindFromCode word).isSome → word ≤ 6 := by
    decide +kernel
  exact every code known

theorem InspectedCell.empty (inspected : UInt8) (place : Fin 8) :
    InspectedCell inspected place {} :=
  ⟨by decide, by decide, .inr rfl, fun _ => rfl⟩

/-- A longer template inspects eight slots. -/
theorem inspectedSlots_of_long {count : UInt64} (long : count > maxAttributeSlots) :
    (inspectedSlots count).toUInt8 = 8 := by
  have more : 8 < count.toNat := UInt64.lt_iff_toNat_lt.mp long
  apply UInt8.toNat_inj.mp
  rw [inspectedSlots_toUInt8, toNat_inspectedSlots]
  exact Nat.min_eq_right more.le

variable {flags : UInt8}

/-- List flags from a count, with a header failure at most. -/
theorem listFlags_form (count : UInt64) (header : HeaderFlag flags) :
    listFlags count ||| flags < 16 ∧
      ((inspectedSlots count).toUInt8 > 0 → (listFlags count ||| flags) &&& 1 ≠ 0) ∧
      ((listFlags count ||| flags) &&& 2 ≠ 0 → (inspectedSlots count).toUInt8 = 8) := by
  have small := inspectedSlots_toUInt8 count
  unfold listFlags
  by_cases long : count > maxAttributeSlots
  · have eight := inspectedSlots_of_long long
    have some : inspectedSlots count > 0 := by
      refine UInt64.lt_iff_toNat_lt.mpr ?_
      rw [← small, eight]
      decide
    rw [if_pos some, if_pos long, eight]
    rcases header with rfl | rfl <;> decide
  · rw [if_neg long]
    by_cases some : inspectedSlots count > 0
    · rw [if_pos some]
      rcases header with rfl | rfl <;>
        exact ⟨by decide, fun _ => by decide, fun bit => absurd rfl bit⟩
    · have zero : ¬ (inspectedSlots count).toUInt8 > 0 := by
        intro more
        have above := UInt8.lt_iff_toNat_lt.mp more
        rw [small] at above
        exact some (UInt64.lt_iff_toNat_lt.mpr above)
      rw [if_neg some]
      rcases header with rfl | rfl <;>
        exact ⟨by decide, fun more => absurd more zero, fun bit => absurd rfl bit⟩

/-- A list filled from the front by sound cells. -/
theorem InspectedList.of_listed (count : UInt64) (header : HeaderFlag flags)
    {facts : List RequestCellFacts} (sized : facts.length = (slotIndices count).length)
    (sound : ∀ fact ∈ facts, SoundFacts fact) : InspectedList
      { cells := padCells (facts.map RequestCellFacts.cell)
        inspected := (inspectedSlots count).toUInt8
        flags := listFlags count ||| flags } := by
  have counted := toNat_inspectedSlots count
  have small := inspectedSlots_toUInt8 count
  obtain ⟨bits, present, truncated⟩ := listFlags_form count header
  refine ⟨?_, rfl, bits, present, truncated, fun place => ?_⟩
  · refine UInt8.le_iff_toNat_le.mpr ?_
    rw [small, counted]
    exact Nat.min_le_right _ _
  · simp only [padCells, padWith, Fin.getElem_fin, Vector.getElem_ofFn, List.getElem?_map]
    cases found : facts[place.val]? with
    | none => exact InspectedCell.empty _ place
    | some fact =>
      have inside := (List.getElem?_eq_some_iff.mp found).1
      rw [sized, slotIndices_length, ← small] at inside
      have held := sound fact (List.mem_of_getElem? found)
      exact ⟨kind_le_max held.kind, held.status, held.value.symm.imp_left And.left,
        fun past => absurd inside (Nat.not_lt_of_le past)⟩

variable (templatePtr count : UInt64) (peer : Option (UInt64 × UInt64)) (layout : LinuxLayout)

theorem walkSlots_form :
    (walkSlots templatePtr count peer layout).Yields honest fun out =>
      InspectedList out.1 ∧ PublicFlags out.2 := by
  refine (peerAliasScan_yields .host peer 0 0 layout).bind fun other otherFlag => ?_
  have each : ((slotIndices count).mapM fun index =>
      requestCellCore .host templatePtr count index peer layout).Yields honest fun facts =>
        ∀ fact ∈ facts, SoundFacts fact :=
    Asking.Yields.mapM fun index listed => requestCellCore_yields .host templatePtr count peer
      layout (lt_eight_of_mem_slotIndices listed)
  refine (each.and (Asking.Yields.mapM_length _ _)).bind fun facts holds => ?_
  obtain ⟨sound, sized⟩ := holds
  have header : HeaderFlag (other.2 ||| mergeFlags (facts.map RequestCellFacts.listFlags)) := by
    refine otherFlag.or (mergeFlags_headerFlag fun flag listed => ?_)
    obtain ⟨fact, member, rfl⟩ := List.mem_map.mp listed
    exact (sound fact member).listFlags
  rw [UInt8.or_assoc]
  refine ⟨InspectedList.of_listed count header sized sound, ?_⟩
  refine mergeObjectFlags_public fun flag listed => ?_
  obtain ⟨fact, member, rfl⟩ := List.mem_map.mp listed
  exact (sound fact member).public

/-- A list without cells. -/
theorem InspectedList.bare (bits : flags < 16) (short : flags &&& 2 = 0) :
    InspectedList { flags := flags } where
  inspected := (by decide : (0 : UInt8) ≤ 8)
  reserved := rfl
  flags := bits
  present counted := absurd counted (by decide : ¬ (0 : UInt8) > 0)
  truncated long := absurd short long
  cells place := by
    rw [Fin.getElem_fin, Vector.getElem_replicate]
    exact InspectedCell.empty 0 place

variable (build : Build)

theorem inspectRequestTemplateInto_form (out : ObjectAttributeListWire) :
    (inspectRequestTemplateInto build templatePtr count peer layout out).Yields honest fun out =>
      InspectedList out.1 ∧ PublicFlags out.2 := by
  rw [inspectRequestTemplateInto_eq]
  split
  case isTrue =>
    split
    case isTrue empty =>
      obtain ⟨bits, _, truncated⟩ := listFlags_form count (.inl rfl)
      rw [UInt8.or_zero] at bits truncated
      refine ⟨InspectedList.bare bits (not_not.mp fun long => ?_), PublicFlags.zero⟩
      have eight := truncated long
      rw [empty] at eight
      exact absurd eight (by decide)
    case isFalse => exact walkSlots_form templatePtr count peer layout
  case isFalse =>
    have bits : AttrListFlag.invalidSpan < 16 := by decide
    exact ⟨InspectedList.bare bits rfl, PublicFlags.zero⟩

/-! ## Get entry -/

/-- A truncated entry inspected all eight slots. -/
def EntryForm (side : ObjectStart) : Prop :=
  ((side.flags &&& getEntryFlagsMask) >>> getEntryFlagsShift).toUInt8 &&& 2 ≠ 0 →
    side.getInspected = 8

theorem readOwnSlot_yields (base : UInt64) (layout : LinuxLayout) (index : UInt64) :
    (readOwnSlot base layout index).Yields honest fun slot => HeaderFlag slot.flags := by
  unfold readOwnSlot
  cases attributeHeaderAddresses base index layout with
  | none => exact .inr rfl
  | some addresses =>
    refine yields_readWord fun selector _ => ?_
    cases selector with
    | none => exact .inr rfl
    | some selector =>
      dsimp only
      cases safeAttributeKind selector with
      | none => exact .inl rfl
      | some kind =>
        refine yields_readWord fun pointer _ => ?_
        cases pointer with
        | none => exact .inr rfl
        | some ptr =>
          refine yields_readWord fun length _ => ?_
          cases length with
          | none => exact .inr rfl
          | some len => exact .inl rfl

/-- What a turn of the entry loop leaves alone. -/
structure EntryTurn (before after : GetEntryWalk) : Prop where
  side : after.side = { before.side with slots := after.side.slots }
  truncated : after.verdict.entryFlags &&& 2 = before.verdict.entryFlags &&& 2

theorem EntryTurn.refl (walk : GetEntryWalk) : EntryTurn walk walk := ⟨rfl, rfl⟩

theorem EntryTurn.trans {first second third : GetEntryWalk} (one : EntryTurn first second)
    (two : EntryTurn second third) : EntryTurn first third := by
  refine ⟨?_, two.truncated.trans one.truncated⟩
  have same := two.side
  rw [one.side] at same
  exact same

theorem HeaderFlag.truncated_eq (header : HeaderFlag flags) (word : UInt8) :
    (word ||| flags) &&& 2 = word &&& 2 := by
  have every : ∀ other : UInt8, (other ||| 4) &&& 2 = other &&& 2 := by decide +kernel
  rcases header with none | failed
  · rw [none, UInt8.or_zero]
  · rw [failed]
    exact every word

theorem retainHeaderInto_yields (base : UInt64) (layout : LinuxLayout) (walk : GetEntryWalk)
    (index : UInt64) :
    (retainHeaderInto base layout walk index).Yields honest (EntryTurn walk) := by
  have failed : HeaderFlag AttrListFlag.headerReadFailure := .inr rfl
  unfold retainHeaderInto
  split
  · exact EntryTurn.refl walk
  refine (readOwnSlot_yields base layout index).bind fun slot header => ?_
  cases slot.header with
  | none => exact ⟨rfl, header.truncated_eq _⟩
  | some found =>
    change EntryTurn walk (walk.retain index found)
    unfold GetEntryWalk.retain
    split
    · exact ⟨rfl, failed.truncated_eq _⟩
    · exact ⟨rfl, rfl⟩

/-- The entry changes only the Get fields, and a truncation stays recorded. -/
structure EntryCaptured (side captured : ObjectStart) : Prop where
  rest : captured = { side with
    getTemplateBase := captured.getTemplateBase, inspectedHeaderEnd := captured.inspectedHeaderEnd
    getInspected := captured.getInspected, slots := captured.slots, flags := captured.flags }
  form : EntryForm captured

variable {side : ObjectStart}

theorem entryForm_of_flags (row : UInt16)
    (stored : side.flags =
      (row &&& ~~~getEntryFlagsMask) ||| (flags.toUInt16 <<< getEntryFlagsShift))
    (truncated : flags &&& 2 ≠ 0 → side.getInspected = 8) : EntryForm side := by
  have every : ∀ word : UInt8, (word &&& 0x0F) &&& 2 = word &&& 2 := by decide +kernel
  unfold EntryForm
  rw [stored, private_flags, every]
  exact truncated

theorem truncatedFlag_inspected {count : UInt64} (truncated : truncatedFlag count &&& 2 ≠ 0) :
    (inspectedSlots count).toUInt8 = 8 := by
  unfold truncatedFlag at truncated
  split at truncated
  case isTrue long => exact inspectedSlots_of_long long
  case isFalse => exact absurd rfl truncated

theorem captureGetEntryInto_yields (side : ObjectStart) :
    (captureGetEntryInto templatePtr count layout side).Yields honest fun out =>
      EntryCaptured side out.1 := by
  have invalid : ¬ AttrListFlag.invalidSpan &&& 2 ≠ 0 := by decide
  unfold captureGetEntryInto
  split
  · exact ⟨rfl, entryForm_of_flags side.flags rfl fun long => absurd long invalid⟩
  cases checkedAdd templatePtr (headerBytes count layout) with
  | none => exact ⟨rfl, entryForm_of_flags side.flags rfl fun long => absurd long invalid⟩
  | some headerEnd =>
    refine (Asking.Yields.foldlM (EntryTurn _) (fun index _ walk turn =>
      (retainHeaderInto_yields templatePtr layout walk index).mono fun _ next =>
        turn.trans next) (EntryTurn.refl _)).bind fun walk turn => ?_
    obtain ⟨walked, verdict, stopped⟩ := walk
    obtain ⟨same, truncated⟩ := turn
    generalize walked.slots = slots at same
    subst same
    refine ⟨rfl, entryForm_of_flags side.flags rfl fun long => ?_⟩
    rw [truncated] at long
    exact truncatedFlag_inspected long

/-! ## Get return -/

/-- A classified cell: a known kind and at most an approved value. -/
structure ClassifiedCell (kind : UInt8) (cell : AttrCell) : Prop where
  kind : cell.kind = kind
  status : cell.status ≤ attrStatusMax
  value : cell.status = 1 ∨ cell.value = 0

theorem ClassifiedCell.plain (kind : UInt8) {status : UInt8} (finite : status ≤ attrStatusMax) :
    ClassifiedCell kind { kind := kind, status := status } := ⟨rfl, finite, .inr rfl⟩

/-- A status that was decided without the value. -/
def DecidedStatus (status : UInt8) (contributed : UInt32) : Prop :=
  status ≤ attrStatusMax ∧ PublicFlags contributed

theorem getSlotStatus_decided {build : Build} {slot : ObjectAttributeSlot}
    {kind : SafeAttributeKind} {place : Nat} {layout : LinuxLayout} {selector ptr len : UInt64}
    {status : UInt8} {contributed : UInt32}
    (decided : getSlotStatus build side slot kind place layout selector ptr len =
      some (status, contributed)) : DecidedStatus status contributed := by
  have changed : DecidedStatus AttrStatus.changed ObjectFlag.changedMetadata :=
    ⟨by decide, by decide⟩
  have aliased : DecidedStatus AttrStatus.aliased ObjectFlag.aliased :=
    ⟨by decide, by decide⟩
  unfold getSlotStatus at decided
  repeat' split at decided
  all_goals cases decided
  all_goals first | exact changed | exact aliased | exact ⟨by decide, PublicFlags.zero⟩

theorem stableAttributeCell_yields (base index : UInt64) (kind : SafeAttributeKind)
    (ptr len : UInt64) (layout : LinuxLayout) {out : AttrCell} (blank : out.value = 0) :
    (stableAttributeCell build base index kind ptr len layout out).Yields honest fun found =>
      ClassifiedCell out.kind found.1 ∧ PublicFlags found.2 := by
  unfold stableAttributeCell
  rw [stableCell_eq]
  refine (stableCellCore_yields base index kind ptr len layout).bind fun cell sound => ?_
  refine ⟨⟨rfl, sound.status, ?_⟩, ?_⟩
  · split
    · exact sound.value.symm.imp_left And.left
    · exact .inr blank
  · rcases sound.contributed with none | changed
    · rw [none]
      exact PublicFlags.zero
    · rw [changed]
      exact (by decide : PublicFlags ObjectFlag.changedMetadata)

theorem classifySelected_yields (side : ObjectStart) (slot : ObjectAttributeSlot)
    (kind : SafeAttributeKind) (place : Nat) (layout : LinuxLayout) :
    (classifySelected build side slot kind place layout {}).Yields honest fun found =>
      ClassifiedCell slot.kind found.2.2 ∧ PublicFlags found.2.1 := by
  have outside : AttrStatus.invalidSpan ≤ attrStatusMax := by decide
  have unread : AttrStatus.unreadable ≤ attrStatusMax := by decide
  unfold classifySelected
  dsimp only
  cases attributeHeaderAddresses side.getTemplateBase slot.slotIndex.toUInt64 layout with
  | none => exact ⟨ClassifiedCell.plain slot.kind outside, PublicFlags.zero⟩
  | some addresses =>
    refine yields_readWord fun selector _ => ?_
    refine yields_readWord fun pointer _ => ?_
    refine yields_readWord fun length _ => ?_
    cases selector with
    | none => exact ⟨ClassifiedCell.plain slot.kind unread, PublicFlags.zero⟩
    | some selector =>
      cases pointer with
      | none => exact ⟨ClassifiedCell.plain slot.kind unread, PublicFlags.zero⟩
      | some ptr =>
        cases length with
        | none => exact ⟨ClassifiedCell.plain slot.kind unread, PublicFlags.zero⟩
        | some len =>
          dsimp only
          cases decided : getSlotStatus build side slot kind place layout selector ptr len with
          | some found =>
            have finite := getSlotStatus_decided decided
            exact ⟨ClassifiedCell.plain slot.kind finite.1, finite.2⟩
          | none =>
            refine (stableAttributeCell_yields build _ _ kind ptr len layout rfl).bind ?_
            exact fun found good => good

/-- A result list while it is filled: its header is fixed and unwritten cells are
zero. -/
structure FillingList (count bits : UInt8) (out : ObjectAttributeListWire) : Prop where
  inspected : out.inspected = count
  flags : out.flags = bits
  reserved : out.reserved = 0
  cells : ∀ place : Fin 8, InspectedCell count place (getElem out.cells place place.2)
  unwritten : ∀ place : Fin 8, (getElem out.cells place place.2).kind = 0 →
    getElem out.cells place place.2 = {}

theorem FillingList.write {inspected : UInt8} {out : ObjectAttributeListWire}
    (filling : FillingList inspected flags out) {index : Nat} (inside : index < inspected.toNat)
    {kind : UInt8} (known : (kindFromCode kind).isSome) {cell : AttrCell}
    (classified : ClassifiedCell kind cell) :
    FillingList inspected flags { out with cells := out.cells.setIfInBounds index cell } := by
  have finite : kind ≤ attrKindMax := kind_le_max (.inr known)
  have written : cell.kind ≠ 0 := by
    rw [classified.kind]
    rintro rfl
    cases known
  refine ⟨filling.inspected, filling.flags, filling.reserved, fun place => ?_, fun place => ?_⟩
  · simp only [Fin.getElem_fin, Vector.getElem_setIfInBounds]
    split
    case isTrue same =>
      refine ⟨classified.kind ▸ finite, classified.status, classified.value, fun past => ?_⟩
      omega
    case isFalse => exact filling.cells place
  · simp only [Fin.getElem_fin, Vector.getElem_setIfInBounds]
    split
    case isTrue => exact fun blank => absurd blank written
    case isFalse => exact filling.unwritten place

theorem classifyGetSlot_yields (side : ObjectStart) (slotLayout : UInt64)
    {out : ObjectAttributeListWire} (filling : FillingList (min side.getInspected 8) flags out) :
    (classifyGetSlot build side slotLayout out).Yields honest fun found =>
      FillingList (min side.getInspected 8) flags found.2 ∧
        ∃ flow contributed, found.1 = encodeGetSlotResult flow contributed ∧
          PublicFlags contributed := by
  unfold classifyGetSlot
  dsimp only
  split
  case h_1 => exact ⟨filling, .break, 0, rfl, PublicFlags.zero⟩
  rename_i kind known
  split
  case isTrue => exact ⟨filling, .continue, 0, rfl, PublicFlags.zero⟩
  rename_i inside
  split
  case h_1 => exact ⟨filling, .continue, 0, rfl, PublicFlags.zero⟩
  rename_i cell found
  split
  case isTrue => exact ⟨filling, .continue, 0, rfl, PublicFlags.zero⟩
  rename_i free
  have below := (Vector.getElem?_eq_some_iff.mp found).1
  have blank : cell = {} := by
    obtain ⟨_, same⟩ := Vector.getElem?_eq_some_iff.mp found
    subst same
    exact filling.unwritten ⟨_, below⟩ (not_not.mp free)
  subst blank
  refine (classifySelected_yields build side _ kind _ _).bind fun result good => ?_
  refine ⟨filling.write ?_ (Option.isSome_of_eq_some known) good.1, _, _, rfl, good.2⟩
  rw [UInt8.not_le] at inside
  refine lt_of_le_of_lt ?_ inside
  exact Nat.and_le_left

theorem classifyNext_yields (side : ObjectStart) (layout : LinuxLayout) {walk : GetReturnWalk}
    (filling : FillingList (min side.getInspected 8) flags walk.out)
    (flagged : PublicFlags walk.contributed) (place : Nat) :
    (classifyNext build side layout walk place).Yields honest fun after =>
      FillingList (min side.getInspected 8) flags after.out ∧ PublicFlags after.contributed := by
  unfold classifyNext
  split
  · exact ⟨filling, flagged⟩
  refine (classifyGetSlot_yields build side _ filling).bind fun found good => ?_
  obtain ⟨kept, flow, contributed, packed, more⟩ := good
  refine ⟨kept, ?_⟩
  change PublicFlags (walk.contributed ||| (decodeGetSlotResult found.1).2)
  rw [packed, decodeGetSlotResult_encodeGetSlotResult]
  exact flagged.or more

theorem listed_lt (flags : UInt16) :
    ((flags &&& getEntryFlagsMask) >>> getEntryFlagsShift).toUInt8 < 16 := by
  have bound : (flags &&& getEntryFlagsMask).toNat ≤ 0xF00 := by
    exact Nat.and_le_right
  change (flags &&& getEntryFlagsMask).toNat >>> 8 % 256 < 16
  omega

/-- The header of an inspected result list. -/
theorem resultFlags_form (entry : EntryForm side) {listed : UInt8}
    (same : ((side.flags &&& getEntryFlagsMask) >>> getEntryFlagsShift).toUInt8 = listed) :
    let flags := listed ||| (if min side.getInspected 8 > 0 then AttrListFlag.present else 0)
    flags < 16 ∧ (min side.getInspected 8 > 0 → flags &&& 1 ≠ 0) ∧
      (flags &&& 2 ≠ 0 → min side.getInspected 8 = 8) := by
  have bits := listed_lt side.flags
  unfold EntryForm at entry
  rw [same] at bits entry
  have every : ∀ word : UInt8, word < 16 → (word ||| 1) < 16 ∧ (word ||| 1) &&& 1 ≠ 0 ∧
      (word ||| 1) &&& 2 = word &&& 2 := by decide +kernel
  obtain ⟨small, present, kept⟩ := every listed bits
  have long (truncated : listed &&& 2 ≠ 0) : min side.getInspected 8 = 8 := by
    rw [entry truncated]
    rfl
  split
  case isTrue => exact ⟨small, fun _ => present, fun bit => long (kept ▸ bit)⟩
  case isFalse none =>
    rw [UInt8.or_zero]
    exact ⟨bits, fun counted => absurd counted none, long⟩

theorem captureGetReturnInto_form (entry : EntryForm side) (rv : UInt64)
    (authority : ReturnAuthority) (layout : LinuxLayout) (out : ObjectAttributeListWire) :
    (captureGetReturnInto build side rv authority layout out).Yields honest fun found =>
      (found.1 = uninspectedList ∨ InspectedList found.1) ∧ PublicFlags found.2 := by
  unfold captureGetReturnInto
  split
  · exact ⟨.inr (InspectedList.bare (by decide) rfl), PublicFlags.zero⟩
  split
  · exact ⟨.inl rfl, PublicFlags.zero⟩
  · obtain ⟨bits, present, truncated⟩ := resultFlags_form entry rfl
    have every : ∀ word : UInt8, min word 8 ≤ 8 := by decide +kernel
    refine (Asking.Yields.foldlM (fun walk : GetReturnWalk =>
      FillingList (min side.getInspected 8) _ walk.out ∧ PublicFlags walk.contributed)
      (fun place _ walk good => classifyNext_yields build side layout good.1 good.2 place)
      ⟨⟨rfl, rfl, rfl, fun place => ?_, fun place _ => ?_⟩, PublicFlags.zero⟩).bind
        fun walk good => ?_
    · change InspectedCell _ place (Vector.replicate 8 ({} : AttrCell))[place]
      rw [Fin.getElem_fin, Vector.getElem_replicate]
      exact InspectedCell.empty _ place
    · change (Vector.replicate 8 ({} : AttrCell))[place] = {}
      rw [Fin.getElem_fin, Vector.getElem_replicate]
    · obtain ⟨filled, flagged⟩ := good
      refine ⟨.inr ?_, flagged⟩
      have count := filled.inspected
      have flags := filled.flags
      exact
        { inspected := count ▸ every side.getInspected
          reserved := filled.reserved
          flags := flags ▸ bits
          present := count ▸ flags ▸ present
          truncated := count ▸ flags ▸ truncated
          cells := count ▸ filled.cells }

end P11Scope.Capture
