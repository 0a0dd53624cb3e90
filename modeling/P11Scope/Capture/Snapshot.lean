import P11Scope.Capture.Publication

/-!
# The streamed walker computes the reference

Over a memory that does not change, every reread of a header sees the same slot,
so each verdict of the streamed walk is the reference's verdict on that slot.
-/

namespace P11Scope.Capture

open Lib Lib.Flags List

/-! ## Slots of a fixed memory -/

section

variable (memory : (query : ReadQuery) → ReadAnswer query)

def wordAt (address : UInt64) (layout : LinuxLayout) : Option UInt64 :=
  memory (ReadQuery.word address layout)

@[simp]
theorem readWord_against (address : UInt64) (layout : LinuxLayout) :
    (readWord address layout).against memory = wordAt memory address layout := rfl

/-- How the header of one slot reads, with what the first phase keeps of it. -/
inductive Shows (base : UInt64) (layout : LinuxLayout) (index : UInt64) : OwnSlot → Prop
  | unaddressed (outside : attributeHeaderAddresses base index layout = none) :
      Shows base layout index { flags := AttrListFlag.headerReadFailure }
  | unreadable {addresses : HeaderAddresses}
      (inside : attributeHeaderAddresses base index layout = some addresses)
      (selected : wordAt memory addresses.selector layout = none) :
      Shows base layout index { flags := AttrListFlag.headerReadFailure }
  | unknown {addresses : HeaderAddresses} {selector : UInt64}
      (inside : attributeHeaderAddresses base index layout = some addresses)
      (selected : wordAt memory addresses.selector layout = some selector)
      (kinded : safeAttributeKind selector = none) : Shows base layout index {}
  | noPointer {addresses : HeaderAddresses} {selector : UInt64} {kind : SafeAttributeKind}
      (inside : attributeHeaderAddresses base index layout = some addresses)
      (selected : wordAt memory addresses.selector layout = some selector)
      (kinded : safeAttributeKind selector = some kind)
      (pointed : wordAt memory addresses.pointer layout = none) :
      Shows base layout index
        { cell := kindCell kind AttrStatus.unreadable, flags := AttrListFlag.headerReadFailure }
  | noLength {addresses : HeaderAddresses} {selector ptr : UInt64} {kind : SafeAttributeKind}
      (inside : attributeHeaderAddresses base index layout = some addresses)
      (selected : wordAt memory addresses.selector layout = some selector)
      (kinded : safeAttributeKind selector = some kind)
      (pointed : wordAt memory addresses.pointer layout = some ptr)
      (sized : wordAt memory addresses.length layout = none) :
      Shows base layout index
        { cell := kindCell kind AttrStatus.unreadable, flags := AttrListFlag.headerReadFailure }
  | complete {addresses : HeaderAddresses} {header : Header}
      (inside : attributeHeaderAddresses base index layout = some addresses)
      (selected : wordAt memory addresses.selector layout = some header.selector)
      (kinded : safeAttributeKind header.selector = some header.kind)
      (pointed : wordAt memory addresses.pointer layout = some header.ptr)
      (sized : wordAt memory addresses.length layout = some header.len) :
      Shows base layout index { header := some header }

/-- The slot a fixed memory shows. -/
def slotAt (base : UInt64) (layout : LinuxLayout) (index : UInt64) : OwnSlot :=
  (readOwnSlot base layout index).against memory

theorem slotAt_shows (base : UInt64) (layout : LinuxLayout) (index : UInt64) :
    Shows memory base layout index (slotAt memory base layout index) := by
  unfold slotAt readOwnSlot
  cases inside : attributeHeaderAddresses base index layout with
  | none => exact .unaddressed inside
  | some addresses =>
    simp only [Asking.against_bind, readWord_against]
    cases selected : wordAt memory addresses.selector layout with
    | none => exact .unreadable inside selected
    | some selector =>
      dsimp only
      cases kinded : safeAttributeKind selector with
      | none => exact .unknown inside selected kinded
      | some kind =>
        simp only [Asking.against_bind, readWord_against]
        cases pointed : wordAt memory addresses.pointer layout with
        | none => exact .noPointer inside selected kinded pointed
        | some ptr =>
          simp only [Asking.against_bind, readWord_against]
          cases sized : wordAt memory addresses.length layout with
          | none => exact .noLength inside selected kinded pointed sized
          | some len => exact .complete inside selected kinded pointed sized

variable {base count index : UInt64} {layout : LinuxLayout} {slot : OwnSlot}

theorem Shows.headerFlag (shows : Shows memory base layout index slot) : HeaderFlag slot.flags := by
  cases shows with
  | unknown | complete => exact .inl rfl
  | _ => exact .inr rfl

/-! ## Rereads by the scans -/

variable (header : Header)

theorem scanNeighbour_against (shows : Shows memory base layout index slot) :
    (scanNeighbour base header.ptr header.len layout index).against memory =
      (overlapsSlot header layout slot, slot.flags) := by
  unfold scanNeighbour
  cases shows with
  | unaddressed outside => rw [outside]; rfl
  | @complete addresses other inside selected kinded pointed sized =>
    simp only [inside, Asking.against_bind, readWord_against, selected, kinded, pointed, sized,
      Asking.against_pure, overlapsSlot]
    refine Prod.ext (Bool.eq_iff_iff.mpr ?_) rfl
    simp only [Bool.and_eq_true, decide_eq_true_eq, and_assoc]
    exact alias_guard_iff header.ptr header.len other.ptr other.len layout
  | _ => simp [*, overlapsSlot]

theorem readPeerSlot_against (shows : Shows memory base layout index slot) :
    ((readPeerSlot base layout index).against memory).flags = slot.flags ∧
      (((readPeerSlot base layout index).against memory).span.any fun span =>
        spansOverlap header.ptr header.len span.1 span.2) = overlapsSlot header layout slot := by
  unfold readPeerSlot
  cases shows with
  | unaddressed outside => rw [outside]; exact ⟨rfl, rfl⟩
  | @complete addresses other inside selected kinded pointed sized =>
    simp only [inside, Asking.against_bind, readWord_against, selected, kinded, pointed, sized,
      Asking.against_ite, Asking.against_pure, overlapsSlot]
    split
    case isTrue stated => simp [stated]
    rename_i unstated
    refine ⟨rfl, (Bool.eq_false_iff.mpr fun overlap => unstated ?_).symm⟩
    simp only [Bool.and_eq_true, decide_eq_true_eq, and_assoc] at overlap
    exact ⟨overlap.1, overlap.2.1, overlap.2.2.1⟩
  | _ => simp [*, overlapsSlot]

/-! ## Scans of whole tables -/

/-- The own slots a fixed memory shows. -/
def ownAt (base count : UInt64) (layout : LinuxLayout) : List OwnSlot :=
  (slotIndices count).map (slotAt memory base layout)

/-- The peer table a fixed memory shows. -/
def peerAt (peer : Option (UInt64 × UInt64)) (layout : LinuxLayout) : PeerTable :=
  (readPeerTable peer layout).against memory

theorem ownAt_zipIdx (base count : UInt64) (layout : LinuxLayout) :
    (ownAt memory base count layout).zipIdx =
      (slotIndices count).map fun index => (slotAt memory base layout index, index.toNat) := by
  refine ext_getElem (by simp [ownAt]) fun place inside _ => ?_
  have bound : place < (inspectedSlots count).toNat := by
    simpa [ownAt, slotIndices] using inside
  have small : place % 18446744073709551616 = place :=
    Nat.mod_eq_of_lt (bound.trans (inspectedSlots count).toNat_lt)
  simp [ownAt, slotIndices, small]

theorem ownScan_against (index : UInt64) (accepted : tableValid base count layout) :
    (aliasScanCore base count index header.ptr header.len layout).against memory =
      (spansOverlap header.ptr header.len base (headerBytes count layout) ||
        (ownAt memory base count layout).zipIdx.any fun entry =>
          entry.2 ≠ index.toNat && overlapsSlot header layout entry.1,
        mergeFlags (((slotIndices count).filter fun other => other ≠ index).map fun other =>
          (slotAt memory base layout other).flags)) := by
  have scans (other : UInt64) := scanNeighbour_against memory header
    (slotAt_shows memory base layout other)
  unfold aliasScanCore
  simp only [accepted, Bool.not_true, Bool.false_eq_true, ↓reduceIte, Asking.against_bind,
    Asking.against_mapM, Asking.against_pure, scans, ownAt_zipIdx, any_map, map_map,
    any_filter, Function.comp_def, ne_eq, UInt64.toNat_inj]

theorem peerScan_against (peer : Option (UInt64 × UInt64)) (layout : LinuxLayout)
    (header : Header) :
    (peerAliasScan .host peer header.ptr header.len layout).against memory =
      (spansOverlap header.ptr header.len (peerAt memory peer layout).headerBase
          (peerAt memory peer layout).headerLen ||
        ((peerAt memory peer layout).slots.any fun slot =>
          slot.span.any fun span => spansOverlap header.ptr header.len span.1 span.2),
        mergeFlags ((peerAt memory peer layout).slots.map PeerSlot.flags)) := by
  unfold peerAt
  cases peer with
  | none => simp [peerAliasScan, readPeerTable, spansOverlap, mergeFlags]
  | some table =>
    obtain ⟨peerBase, peerCount⟩ := table
    unfold peerAliasScan readPeerTable requestAliasScan aliasScanCore
    cases accepted : tableValid peerBase peerCount layout with
    | false => simp [accepted, spansOverlap, mergeFlags]
    | true =>
      have every : ((slotIndices peerCount).filter fun other => other ≠ noSkip) =
          slotIndices peerCount := by
        refine filter_eq_self.mpr fun other listed => decide_eq_true ?_
        rintro rfl
        exact absurd (lt_eight_of_mem_slotIndices listed) (by decide)
      have scans (other : UInt64) := scanNeighbour_against memory header
        (slotAt_shows memory peerBase layout other)
      have flags (other : UInt64) := (readPeerSlot_against memory header
        (slotAt_shows memory peerBase layout other)).1
      have spans (other : UInt64) := (readPeerSlot_against memory header
        (slotAt_shows memory peerBase layout other)).2
      simp only [accepted, Bool.not_true, Bool.false_eq_true, ↓reduceIte, every,
        Asking.against_bind, Asking.against_mapM, Asking.against_pure, scans, flags, spans,
        any_map, map_map, Function.comp_def]

/-! ## Slots -/

variable {peer : Option (UInt64 × UInt64)}

/-- A stable header makes both value reads publish the same cell. -/
theorem readValueCell_against {header : Header} (shows : Shows memory base layout index slot)
    (passed : slot.header = some header) {cell : StableCell}
    (read : (stableCellCore base index header.kind header.ptr header.len layout).against memory =
      cell) :
    (readValueCell base layout index header).against memory =
      ({ kind := safeKindCode header.kind, status := cell.status
         value := if cell.writeValue then cell.value else 0 }, cell.contributed) := by
  subst read
  cases shows with
  | complete inside selected kinded pointed sized =>
    cases passed
    unfold readValueCell stableCellCore
    simp only [inside, Asking.against_bind]
    cases (readClassifiedValue header.kind header.ptr header.len layout).against memory with
    | ok value =>
      simp [readValueCell.recheck, stableCellCore.recheck, inside, selected, kinded, pointed, sized]
    | error status =>
      by_cases unsupported : status = AttrStatus.unsupported
      · simp [unsupported, readValueCell.recheck, stableCellCore.recheck, inside, selected, kinded,
          pointed, sized, kindCell]
      · simp [unsupported, kindCell]
  | _ => cases passed

theorem under_zero (whole : UInt8) : Under 0 whole := UInt8.zero_or

theorem under_mergeFlags_iff {flags : List UInt8} {whole : UInt8} :
    Under (mergeFlags flags) whole ↔ ∀ flag ∈ flags, Under flag whole :=
  under_merge_iff.trans (and_iff_right (under_zero whole))

/-- The list flags of both tables. -/
def tableFlags (base count : UInt64) (peer : Option (UInt64 × UInt64)) (layout : LinuxLayout) :
    UInt8 :=
  mergeFlags ((ownAt memory base count layout).map OwnSlot.flags) |||
    mergeFlags ((peerAt memory peer layout).slots.map PeerSlot.flags)

/-- A slot's own scan only merges flags of listed slots. -/
theorem filtered_flags_under (skips : UInt64 → Bool) :
    Under (mergeFlags (((slotIndices count).filter skips).map fun other =>
        (slotAt memory base layout other).flags))
      (mergeFlags ((ownAt memory base count layout).map OwnSlot.flags)) := by
  refine under_mergeFlags_iff.mpr fun flag listed => ?_
  obtain ⟨other, kept, rfl⟩ := mem_map.mp listed
  refine under_mergeFlags_iff.mp UInt8.or_self _ (mem_map_of_mem ?_)
  exact mem_map_of_mem (mem_of_mem_filter kept)

/-- What the judgement of a passed header publishes. -/
theorem judgeCell_against {header : Header} (accepted : tableValid base count layout)
    (shows : Shows memory base layout index slot) (passed : slot.header = some header)
    {facts : RequestCellFacts}
    (judged : (judgeCell .host base count index peer layout header).against memory = facts) :
    (if aliases base count layout (ownAt memory base count layout) (peerAt memory peer layout)
          index.toNat header then
        (pure (kindCell header.kind AttrStatus.aliased, ObjectFlag.aliased) :
          Reading (AttrCell × UInt32))
      else readValueCell base layout index header).against memory =
        (facts.cell, facts.objectFlags) ∧
      Under facts.listFlags (tableFlags memory base count peer layout) := by
  have verdict : aliases base count layout (ownAt memory base count layout)
      (peerAt memory peer layout) index.toNat header =
      (((aliasScanCore base count index header.ptr header.len layout).against memory).1 ||
        ((peerAliasScan .host peer header.ptr header.len layout).against memory).1) := by
    rw [ownScan_against memory header index accepted, peerScan_against, aliases]
    simp only [Bool.or_assoc, Bool.or_comm, Bool.or_left_comm]
  have flags : Under
      (((aliasScanCore base count index header.ptr header.len layout).against memory).2 |||
        ((peerAliasScan .host peer header.ptr header.len layout).against memory).2)
      (tableFlags memory base count peer layout) := by
    rw [ownScan_against memory header index accepted, peerScan_against]
    exact ((filtered_flags_under memory _).trans (.left _ _)).or (.right _ _)
  subst judged
  rw [verdict]
  unfold judgeCell requestAliasScan stableCell
  simp only [Asking.against_bind, Asking.against_ite, Asking.against_pure]
  split
  · exact ⟨rfl, flags⟩
  · exact ⟨readValueCell_against memory shows passed rfl, flags⟩

/-- The streamed facts of a slot are the reference's verdict on it, and their
flags lie between the slot's own and those of all tables. -/
theorem requestCellCore_against (accepted : tableValid base count layout)
    (listed : index ∈ slotIndices count) {facts : RequestCellFacts}
    (walked : (requestCellCore .host base count index peer layout).against memory = facts) :
    (judgeSlot base count layout (ownAt memory base count layout) (peerAt memory peer layout)
        (slotAt memory base layout index, index.toNat)).against memory =
        (facts.cell, facts.objectFlags) ∧
      Under (slotAt memory base layout index).flags facts.listFlags ∧
      Under facts.listFlags (tableFlags memory base count peer layout) := by
  have own : Under (slotAt memory base layout index).flags
      (tableFlags memory base count peer layout) := by
    refine (under_mergeFlags_iff.mp UInt8.or_self _ (mem_map_of_mem ?_)).trans (.left _ _)
    exact mem_map_of_mem listed
  have shows := slotAt_shows memory base layout index
  generalize slotAt memory base layout index = slot at own shows ⊢
  subst walked
  unfold requestCellCore judgeSlot
  cases shows with
  | @complete addresses header inside selected kinded pointed sized =>
    have shows := Shows.complete inside selected kinded pointed sized
    simp only [inside, Asking.against_bind, readWord_against, selected, kinded, pointed, sized]
    cases ruled : spanStatus header layout with
    | some status => exact ⟨rfl, UInt8.or_self, under_zero _⟩
    | none =>
      have judged : (judgeCell .host base count index peer layout header).against memory = _ :=
        rfl
      obtain ⟨cells, flags⟩ := judgeCell_against memory accepted shows rfl judged
      rw [UInt64.ofNat_toNat]
      exact ⟨cells, under_zero _, flags⟩
  | _ =>
    simp only [*, Asking.against_bind, readWord_against]
    exact ⟨rfl, UInt8.or_self, own⟩

/-! ## The whole walk -/

/-- The facts the streamed walk collects over a fixed memory. -/
def factsAt (base count : UInt64) (peer : Option (UInt64 × UInt64)) (layout : LinuxLayout) :
    List RequestCellFacts :=
  (slotIndices count).map fun index =>
    (requestCellCore .host base count index peer layout).against memory

variable (peer)

section

variable (accepted : tableValid base count layout)
include accepted

theorem judged_eq_facts : ((ownAt memory base count layout).zipIdx.map fun entry =>
        (judgeSlot base count layout (ownAt memory base count layout)
          (peerAt memory peer layout) entry).against memory) =
      (factsAt memory base count peer layout).map fun facts => (facts.cell, facts.objectFlags) := by
  rw [ownAt_zipIdx, factsAt, map_map, map_map]
  exact map_congr_left fun index listed =>
    (requestCellCore_against memory accepted listed rfl).1

theorem merged_flags : mergeFlags ((peerAt memory peer layout).slots.map PeerSlot.flags) |||
        mergeFlags ((factsAt memory base count peer layout).map RequestCellFacts.listFlags) =
      tableFlags memory base count peer layout := by
  refine Under.antisymm ((Under.right _ _).or ?_) (Under.or ?_ (.left _ _))
  · refine under_mergeFlags_iff.mpr fun flag listed => ?_
    obtain ⟨facts, member, rfl⟩ := mem_map.mp listed
    obtain ⟨index, visited, rfl⟩ := mem_map.mp member
    exact (requestCellCore_against memory accepted visited rfl).2.2
  · refine under_mergeFlags_iff.mpr fun flag listed => ?_
    obtain ⟨slot, member, rfl⟩ := mem_map.mp listed
    obtain ⟨index, visited, rfl⟩ := mem_map.mp member
    have walked : (requestCellCore .host base count index peer layout).against memory = _ := rfl
    refine (requestCellCore_against memory accepted visited walked).2.1.trans ?_
    refine (under_mergeFlags_iff.mp UInt8.or_self _ ?_).trans (.right _ _)
    exact mem_map_of_mem (mem_map_of_mem visited)

/-- The walk over an accepted table, in the reference's terms. -/
theorem walkSlots_against : (walkSlots base count peer layout).against memory =
      ({ cells := padCells ((factsAt memory base count peer layout).map RequestCellFacts.cell)
         inspected := (inspectedSlots count).toUInt8
         flags := listFlags count ||| tableFlags memory base count peer layout },
        mergeObjectFlags
          ((factsAt memory base count peer layout).map RequestCellFacts.objectFlags)) := by
  have scanned := peerScan_against memory peer layout
    { kind := .token, selector := 0, ptr := 0, len := 0 }
  rw [← merged_flags memory peer accepted, ← UInt8.or_assoc]
  simp only [walkSlots, Asking.against_bind, Asking.against_mapM, Asking.against_pure, scanned]
  rfl

end

end

theorem checkedAdd_headerBytes_of_empty (base : UInt64) {count : UInt64} (layout : LinuxLayout)
    (empty : inspectedSlots count = 0) : (checkedAdd base (headerBytes count layout)).isSome := by
  have zero : headerBytes count layout = 0 := by
    rw [headerBytes, empty]
    cases layout <;> rfl
  rw [zero, checkedAdd, if_pos]
  · rfl
  · exact base.toNat_lt

/-- Over any fixed memory the streamed walk writes the reference's list and
contributes the reference's object flags, in either build. -/
theorem streamed_walk_eq_reference (build : Build) (memory : (query : ReadQuery) → ReadAnswer query)
    (templatePtr count : UInt64) (peer : Option (UInt64 × UInt64)) (layout : LinuxLayout)
    (out : ObjectAttributeListWire) :
    (inspectRequestTemplateInto build templatePtr count peer layout out).against memory =
      (((inspectRequestTemplate templatePtr count peer layout).against memory).toWire,
        ((inspectRequestTemplate templatePtr count peer layout).against memory).objectFlags) := by
  rw [inspectRequestTemplateInto_eq]
  unfold inspectRequestTemplate
  cases accepted : tableValid templatePtr count layout with
  | false => rfl
  | true =>
    by_cases empty : inspectedSlots count = 0
    · have headers := checkedAdd_headerBytes_of_empty templatePtr layout empty
      simp [empty, headers, AttributeListOutcome.toWire]
    cases headers : checkedAdd templatePtr (headerBytes count layout) with
    | none => simp [empty, AttributeListOutcome.toWire]
    | some headerEnd =>
      have judged := judged_eq_facts memory peer accepted
      have owns : ((slotIndices count).map fun index =>
          (readOwnSlot templatePtr layout index).against memory) =
          ownAt memory templatePtr count layout := rfl
      have peers : (readPeerTable peer layout).against memory = peerAt memory peer layout :=
        rfl
      rw [if_pos ⟨rfl, rfl⟩, if_neg empty, walkSlots_against memory peer accepted, tableFlags,
        ← UInt8.or_assoc]
      simp only [empty, Bool.not_true, Bool.false_eq_true, ↓reduceIte, Asking.against_bind,
        Asking.against_mapM, Asking.against_pure, AttributeListOutcome.toWire, owns, peers,
        judged, map_map]
      rfl

end P11Scope.Capture
