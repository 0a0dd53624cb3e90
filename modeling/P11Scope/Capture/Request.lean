import P11Scope.Capture.Reads

/-!
# Request templates: the reference and the streamed walker

The reference reads all own headers, then the peer's, judges spans and aliases
over the retained headers and reads values last.  The streamed walker handles one
slot at a time, rereads the neighbours and passes its facts through packed
scalars.  Loops over slots are `mapM` over the inspected indices.
-/

namespace P11Scope.Capture

open Lib

variable (count : UInt64)

/-- How many slots of a table are inspected. -/
def inspectedSlots : UInt64 := min count maxAttributeSlots

/-- The inspected indices in order. -/
def slotIndices : List UInt64 :=
  (List.range (inspectedSlots count).toNat).map UInt64.ofNat

theorem toNat_inspectedSlots : (inspectedSlots count).toNat = min count.toNat 8 := by
  rw [inspectedSlots, UInt64.toNat_min]
  rfl

theorem mem_slotIndices {count index : UInt64} :
    index ∈ slotIndices count ↔ index < inspectedSlots count := by
  simp only [slotIndices, List.mem_map, List.mem_range, UInt64.lt_iff_toNat_lt]
  constructor
  · rintro ⟨place, inside, rfl⟩
    have bound := UInt64.toNat_lt (inspectedSlots count)
    rw [UInt64.toNat_ofNat', Nat.mod_eq_of_lt (inside.trans bound)]
    exact inside
  · intro inside
    exact ⟨index.toNat, inside, UInt64.ofNat_toNat⟩

theorem lt_eight_of_mem_slotIndices {count index : UInt64} (listed : index ∈ slotIndices count) :
    index < 8 := by
  have inside := UInt64.lt_iff_toNat_lt.mp (mem_slotIndices.mp listed)
  rw [toNat_inspectedSlots] at inside
  exact UInt64.lt_iff_toNat_lt.mpr (inside.trans_le (Nat.min_le_right _ _))

/-- Bytes of the inspected headers. -/
def headerBytes (layout : LinuxLayout) : UInt64 :=
  inspectedSlots count * 3 * layout.wordBytes

/-- Whether the whole claimed table lies in the target's address space. -/
def tableValid (base count : UInt64) (layout : LinuxLayout) : Bool :=
  match attributeTableSpan count layout with
  | none => false
  | some table => (validateTargetSpan base table layout).isSome

/-- The flags of a list whose table was accepted. -/
def listFlags : UInt8 :=
  (if inspectedSlots count > 0 then AttrListFlag.present else 0) |||
    (if count > maxAttributeSlots then AttrListFlag.truncated else 0)

/-! ## The reference -/

/-- A header whose selector is known and whose words were read. -/
structure Header where
  kind : SafeAttributeKind
  selector : UInt64
  ptr : UInt64
  len : UInt64
  deriving DecidableEq, Repr

/-- What the first phase leaves for one own slot. -/
structure OwnSlot where
  header : Option Header := none
  cell : AttrCell := {}
  flags : UInt8 := 0
  deriving DecidableEq, Repr

def kindCell (kind : SafeAttributeKind) (status : UInt8) : AttrCell :=
  { kind := safeKindCode kind, status := status, value := 0 }

/-- Phase A for one slot: the pointer and the length only of a known selector. -/
def readOwnSlot (base : UInt64) (layout : LinuxLayout) (index : UInt64) : Reading OwnSlot := do
  match attributeHeaderAddresses base index layout with
  | none => pure { flags := AttrListFlag.headerReadFailure }
  | some addresses =>
    match ← readWord addresses.selector layout with
    | none => pure { flags := AttrListFlag.headerReadFailure }
    | some selector =>
      match safeAttributeKind selector with
      | none => pure {}
      | some kind =>
        match ← readWord addresses.pointer layout with
        | none =>
          pure { cell := kindCell kind AttrStatus.unreadable
                 flags := AttrListFlag.headerReadFailure }
        | some ptr =>
          match ← readWord addresses.length layout with
          | none =>
            pure { cell := kindCell kind AttrStatus.unreadable
                   flags := AttrListFlag.headerReadFailure }
          | some len =>
            let header : Header :=
              { kind := kind, selector := selector, ptr := ptr, len := len }
            pure { header := some header }

/-- What the second phase learns of one peer slot. -/
structure PeerSlot where
  span : Option (UInt64 × UInt64) := none
  flags : UInt8 := 0
  deriving DecidableEq, Repr

/-- Phase B for one slot: both words are read even when the first fails. -/
def readPeerSlot (base : UInt64) (layout : LinuxLayout) (index : UInt64) : Reading PeerSlot := do
  match attributeHeaderAddresses base index layout with
  | none => pure { flags := AttrListFlag.headerReadFailure }
  | some addresses =>
    match ← readWord addresses.selector layout with
    | none => pure { flags := AttrListFlag.headerReadFailure }
    | some selector =>
      match safeAttributeKind selector with
      | none => pure {}
      | some _ =>
        let ptr ← readWord addresses.pointer layout
        let len ← readWord addresses.length layout
        match ptr, len with
        | some ptr, some len =>
          if ptr ≠ 0 ∧ len ≠ 0 ∧ (validateTargetSpan ptr len layout).isSome then
            pure { span := some (ptr, len) }
          else pure {}
        | _, _ => pure { flags := AttrListFlag.headerReadFailure }

/-- The peer's inspected header span and its slots. -/
structure PeerTable where
  headerBase : UInt64 := 0
  headerLen : UInt64 := 0
  slots : List PeerSlot := []
  deriving DecidableEq, Repr

def readPeerTable (peer : Option (UInt64 × UInt64)) (layout : LinuxLayout) :
    Reading PeerTable := do
  match peer with
  | none => pure {}
  | some (base, count) =>
    if tableValid base count layout then
      let slots ← (slotIndices count).mapM (readPeerSlot base layout)
      pure { headerBase := base, headerLen := headerBytes count layout, slots := slots }
    else pure {}

/-- Phase C for one header: the status that rules a value read out. -/
def spanStatus (header : Header) (layout : LinuxLayout) : Option UInt8 :=
  if header.ptr = 0 then some AttrStatus.unavailable
  else if !validSafeAttributeLength header.kind header.len layout then
    some AttrStatus.invalidLength
  else if (validateTargetSpan header.ptr header.len layout).isNone then
    some AttrStatus.invalidSpan
  else none

/-- Whether a value overlaps another slot's stated span. -/
def overlapsSlot (header : Header) (layout : LinuxLayout) (other : OwnSlot) : Bool :=
  match other.header with
  | none => false
  | some neighbour =>
    neighbour.ptr ≠ 0 && neighbour.len ≠ 0 &&
      (validateTargetSpan neighbour.ptr neighbour.len layout).isSome &&
      spansOverlap header.ptr header.len neighbour.ptr neighbour.len

/-- The alias pass for one viable slot: own headers, peer headers, peer values and
the other own values. -/
def aliases (base count : UInt64) (layout : LinuxLayout) (own : List OwnSlot) (peer : PeerTable)
    (index : Nat) (header : Header) : Bool :=
  spansOverlap header.ptr header.len base (headerBytes count layout) ||
    spansOverlap header.ptr header.len peer.headerBase peer.headerLen ||
    (peer.slots.any fun slot =>
      slot.span.any fun span => spansOverlap header.ptr header.len span.1 span.2) ||
    own.zipIdx.any fun entry => entry.2 ≠ index && overlapsSlot header layout entry.1

/-- Phase D for one slot: the value, then the header again. -/
def readValueCell (base : UInt64) (layout : LinuxLayout) (index : UInt64) (header : Header) :
    Reading (AttrCell × UInt32) := do
  match attributeHeaderAddresses base index layout with
  | none => pure (kindCell header.kind AttrStatus.invalidSpan, 0)
  | some addresses =>
    let classified ← readClassifiedValue header.kind header.ptr header.len layout
    match classified with
    | .error status =>
      if status = AttrStatus.unsupported then
        recheck addresses none
      else pure (kindCell header.kind status, 0)
    | .ok value => recheck addresses (some value)
where
  recheck (addresses : HeaderAddresses) (value : Option UInt16) : Reading (AttrCell × UInt32) := do
    let selector ← readWord addresses.selector layout
    let ptr ← readWord addresses.pointer layout
    let len ← readWord addresses.length layout
    match selector, ptr, len with
    | some selector, some ptr, some len =>
      if selector = header.selector ∧ ptr = header.ptr ∧ len = header.len then
        match value with
        | some value =>
          pure ({ kind := safeKindCode header.kind, status := AttrStatus.value
                  value := value }, 0)
        | none => pure (kindCell header.kind AttrStatus.unsupported, 0)
      else pure (kindCell header.kind AttrStatus.changed, ObjectFlag.changedMetadata)
    | _, _, _ => pure (kindCell header.kind AttrStatus.unreadable, 0)

/-- The phases after the headers for one slot: its cell and object flags. -/
def judgeSlot (base count : UInt64) (layout : LinuxLayout) (own : List OwnSlot)
    (peer : PeerTable) (entry : OwnSlot × Nat) : Reading (AttrCell × UInt32) := do
  match entry.1.header with
  | none => pure (entry.1.cell, 0)
  | some header =>
    match spanStatus header layout with
    | some status => pure (kindCell header.kind status, 0)
    | none =>
      if aliases base count layout own peer entry.2 header then
        pure (kindCell header.kind AttrStatus.aliased, ObjectFlag.aliased)
      else readValueCell base layout (UInt64.ofNat entry.2) header

def inspectRequestTemplate (templatePtr count : UInt64) (peer : Option (UInt64 × UInt64))
    (layout : LinuxLayout) : Reading AttributeListOutcome := do
  if !tableValid templatePtr count layout then pure { flags := AttrListFlag.invalidSpan }
  else if inspectedSlots count = 0 then pure { flags := listFlags count }
  else
    match checkedAdd templatePtr (headerBytes count layout) with
    | none => pure { flags := AttrListFlag.invalidSpan }
    | some _ =>
      let own ← (slotIndices count).mapM (readOwnSlot templatePtr layout)
      let peerTable ← readPeerTable peer layout
      let cells ← own.zipIdx.mapM (judgeSlot templatePtr count layout own peerTable)
      pure
        { cells := padCells (cells.map Prod.fst)
          inspected := (inspectedSlots count).toUInt8
          flags := listFlags count ||| mergeFlags (own.map OwnSlot.flags) |||
            mergeFlags (peerTable.slots.map PeerSlot.flags)
          objectFlags := mergeObjectFlags (cells.map Prod.snd) }

/-! ## The streamed walker -/

/-- The host build runs the shared cores directly; the BPF build calls them across
packed scalars. -/
inductive Build where
  | host
  | bpf
  deriving DecidableEq, Repr

def packAliasScan (aliased : Bool) (flags : UInt8) : UInt64 :=
  aliased.toUInt64 ||| (flags.toUInt64 <<< 8)

def unpackAliasScan (packed : UInt64) : Bool × UInt8 :=
  (packed &&& 1 ≠ 0, (packed >>> 8).toUInt8)

def aliasSkipTagBit : UInt64 := (1 : UInt64) <<< 63
def aliasSkipValueMask : UInt64 := aliasSkipTagBit - 1

def encodeAliasSkipLayout (skip : UInt64) (layout : LinuxLayout) : UInt64 :=
  (skip &&& aliasSkipValueMask) |||
    match layout with
    | .lp64 => 0
    | .ilp32 => aliasSkipTagBit

def decodeAliasSkipLayout (code : UInt64) : UInt64 × LinuxLayout :=
  (code &&& aliasSkipValueMask, if code &&& aliasSkipTagBit = 0 then .lp64 else .ilp32)

/-- No slot is skipped. -/
def noSkip : UInt64 := 0xFFFFFFFFFFFFFFFF

/-- One neighbour's header; the length is read even after a failed pointer read. -/
def scanNeighbour (base ptr len : UInt64) (layout : LinuxLayout) (index : UInt64) :
    Reading (Bool × UInt8) := do
  match attributeHeaderAddresses base index layout with
  | none => pure (false, AttrListFlag.headerReadFailure)
  | some addresses =>
    match ← readWord addresses.selector layout with
    | none => pure (false, AttrListFlag.headerReadFailure)
    | some selector =>
      match safeAttributeKind selector with
      | none => pure (false, 0)
      | some _ =>
        match ← readWord addresses.pointer layout with
        | none =>
          let _ ← readWord addresses.length layout
          pure (false, AttrListFlag.headerReadFailure)
        | some otherPtr =>
          match ← readWord addresses.length layout with
          | none => pure (false, AttrListFlag.headerReadFailure)
          | some otherLen =>
            pure ((otherPtr ||| otherLen) ≠ 0 &&
              (validateTargetSpan otherPtr otherLen layout).isSome &&
              spansOverlap ptr len otherPtr otherLen, 0)

/-- Scan bounded selected header spans without reading values. -/
def aliasScanCore (base count skip ptr len : UInt64) (layout : LinuxLayout) :
    Reading (Bool × UInt8) := do
  if !tableValid base count layout then pure (false, 0)
  else
    let found ← ((slotIndices count).filter fun index => index ≠ skip).mapM
      (scanNeighbour base ptr len layout)
    pure (spansOverlap ptr len base (headerBytes count layout) || found.any Prod.fst,
      mergeFlags (found.map Prod.snd))

def aliasScanPacked (base count skipTag ptr len : UInt64) : Reading UInt64 := do
  let (skip, layout) := decodeAliasSkipLayout skipTag
  let (aliased, flags) ← aliasScanCore base count skip ptr len layout
  pure (packAliasScan aliased flags)

variable (build : Build)

def requestAliasScan (base count skip ptr len : UInt64) (layout : LinuxLayout) :
    Reading (Bool × UInt8) :=
  match build with
  | .host => aliasScanCore base count skip ptr len layout
  | .bpf => unpackAliasScan <$>
      aliasScanPacked base count (encodeAliasSkipLayout skip layout) ptr len

/-- What one value read publishes. -/
structure StableCell where
  status : UInt8
  value : UInt16
  writeValue : Bool
  contributed : UInt32
  deriving DecidableEq, Repr

def packStableCell (cell : StableCell) : UInt64 :=
  cell.status.toUInt64 ||| (cell.value.toUInt64 <<< 8) ||| (cell.writeValue.toUInt64 <<< 24) |||
    (cell.contributed.toUInt64 <<< 32)

def unpackStableCell (packed : UInt64) : StableCell where
  status := packed.toUInt8
  value := (packed >>> 8).toUInt16
  writeValue := (packed >>> 24) &&& 1 ≠ 0
  contributed := (packed >>> 32).toUInt32

def encodeStableKindLayout (kind : SafeAttributeKind) (layout : LinuxLayout) : UInt64 :=
  let layoutCode : UInt64 :=
    match layout with
    | .lp64 => 0
    | .ilp32 => 1
  (layoutCode <<< 8) ||| (safeKindCode kind).toUInt64

def decodeStableKindLayout (code : UInt64) : Option (SafeAttributeKind × LinuxLayout) :=
  if code >>> 8 > 1 then none
  else (kindFromCode code.toUInt8).map fun kind =>
    (kind, if code >>> 8 = 1 then .ilp32 else .lp64)

def stableCellPoison : UInt64 :=
  packStableCell { status := AttrStatus.unreadable, value := 0, writeValue := false
                   contributed := 0 }

/-- Read one authorized value, then recheck its header before publishing. -/
def stableCellCore (base index : UInt64) (kind : SafeAttributeKind) (ptr len : UInt64)
    (layout : LinuxLayout) : Reading StableCell := do
  let classified ← readClassifiedValue kind ptr len layout
  match classified with
  | .ok value => recheck (some value)
  | .error status =>
    if status = AttrStatus.unsupported then recheck none
    else pure { status := status, value := 0, writeValue := false, contributed := 0 }
where
  recheck (value : Option UInt16) : Reading StableCell := do
    match attributeHeaderAddresses base index layout with
    | none =>
      pure { status := AttrStatus.invalidSpan, value := 0, writeValue := false
             contributed := 0 }
    | some addresses =>
      let selectorWord ← readWord addresses.selector layout
      let ptrWord ← readWord addresses.pointer layout
      let lenWord ← readWord addresses.length layout
      match selectorWord, ptrWord, lenWord with
      | some selector, some ptr2, some len2 =>
        if safeAttributeKind selector = some kind ∧ ptr2 = ptr ∧ len2 = len then
          match value with
          | some value =>
            pure { status := AttrStatus.value, value := value, writeValue := true
                   contributed := 0 }
          | none =>
            pure { status := AttrStatus.unsupported, value := 0, writeValue := true
                   contributed := 0 }
        else
          pure { status := AttrStatus.changed, value := 0, writeValue := false
                 contributed := ObjectFlag.changedMetadata }
      | _, _, _ =>
        pure { status := AttrStatus.unreadable, value := 0, writeValue := false
               contributed := 0 }

def stableCellPacked (base index kindLayout ptr len : UInt64) : Reading UInt64 := do
  match decodeStableKindLayout kindLayout with
  | none => pure stableCellPoison
  | some (kind, layout) => packStableCell <$> stableCellCore base index kind ptr len layout

def stableCell (base index : UInt64) (kind : SafeAttributeKind) (ptr len : UInt64)
    (layout : LinuxLayout) : Reading StableCell :=
  match build with
  | .host => stableCellCore base index kind ptr len layout
  | .bpf => unpackStableCell <$>
      stableCellPacked base index (encodeStableKindLayout kind layout) ptr len

/-- The publication facts of one slot. -/
structure RequestCellFacts where
  kind : UInt8 := 0
  status : UInt8 := 0
  value : UInt16 := 0
  listFlags : UInt8 := 0
  objectFlags : UInt32 := 0
  deriving DecidableEq, Repr

def requestCellFactsValid (facts : RequestCellFacts) : Bool :=
  (facts.kind = 0 || (kindFromCode facts.kind).isSome) &&
    facts.status ≤ AttrStatus.insufficientCapacity &&
    (facts.value = 0 || (facts.kind ≠ 0 && facts.status = AttrStatus.value)) &&
    facts.listFlags &&& ~~~AttrListFlag.headerReadFailure = 0 &&
    facts.objectFlags &&& ~~~(ObjectFlag.aliased ||| ObjectFlag.changedMetadata) = 0

def packRequestCell (facts : RequestCellFacts) : Option UInt64 :=
  if !requestCellFactsValid facts then none
  else some (facts.kind.toUInt64 ||| (facts.status.toUInt64 <<< 8) |||
    (facts.value.toUInt64 <<< 16) ||| (facts.listFlags.toUInt64 <<< 32) |||
    (facts.objectFlags.toUInt64 <<< 40))

/-- The checked inverse; reserved bits refuse. -/
def unpackRequestCell (packed : UInt64) : Option RequestCellFacts :=
  if packed >>> 48 ≠ 0 then none
  else
    let facts : RequestCellFacts :=
      { kind := packed.toUInt8
        status := (packed >>> 8).toUInt8
        value := (packed >>> 16).toUInt16
        listFlags := (packed >>> 32).toUInt8
        objectFlags := (packed >>> 40).toUInt8.toUInt32 }
    if requestCellFactsValid facts then some facts else none

def requestCellPoison : UInt64 := AttrListFlag.headerReadFailure.toUInt64 <<< 32

def encodeRequestCellTag (index : UInt64) (layout : LinuxLayout) (peer : Bool) : Option UInt64 :=
  if index ≥ maxAttributeSlots then none
  else some (index ||| ((layout == .ilp32).toUInt64 <<< 8) ||| (peer.toUInt64 <<< 9))

def decodeRequestCellTag (tag : UInt64) : Option (UInt64 × LinuxLayout × Bool) :=
  if tag &&& ~~~0x307 ≠ 0 then none
  else some (tag &&& 7, if tag &&& 0x100 = 0 then .lp64 else .ilp32, tag &&& 0x200 ≠ 0)

/-- The scan of the peer's table, when there is one. -/
def peerAliasScan (peer : Option (UInt64 × UInt64)) (ptr len : UInt64) (layout : LinuxLayout) :
    Reading (Bool × UInt8) :=
  match peer with
  | none => pure (false, 0)
  | some (peerBase, peerCount) => requestAliasScan build peerBase peerCount noSkip ptr len layout

/-- A slot whose header passed: rescan both tables, then read the value. -/
def judgeCell (base count index : UInt64) (peer : Option (UInt64 × UInt64)) (layout : LinuxLayout)
    (header : Header) : Reading RequestCellFacts := do
  let own ← requestAliasScan build base count index header.ptr header.len layout
  let other ← peerAliasScan build peer header.ptr header.len layout
  let kind := safeKindCode header.kind
  let flags := own.2 ||| other.2
  if own.1 || other.1 then
    pure { kind := kind, status := AttrStatus.aliased, listFlags := flags
           objectFlags := ObjectFlag.aliased }
  else
    let cell ← stableCell build base index header.kind header.ptr header.len layout
    pure { kind := kind, status := cell.status
           value := if cell.writeValue then cell.value else 0
           listFlags := flags, objectFlags := cell.contributed }

/-- One slot of the streamed walk. -/
def requestCellCore (base count index : UInt64) (peer : Option (UInt64 × UInt64))
    (layout : LinuxLayout) : Reading RequestCellFacts := do
  match attributeHeaderAddresses base index layout with
  | none => pure { listFlags := AttrListFlag.headerReadFailure }
  | some addresses =>
    match ← readWord addresses.selector layout with
    | none => pure { listFlags := AttrListFlag.headerReadFailure }
    | some selector =>
      match safeAttributeKind selector with
      | none => pure {}
      | some kind =>
        match ← readWord addresses.pointer layout with
        | none =>
          pure { kind := safeKindCode kind, status := AttrStatus.unreadable
                 listFlags := AttrListFlag.headerReadFailure }
        | some ptr =>
          match ← readWord addresses.length layout with
          | none =>
            pure { kind := safeKindCode kind, status := AttrStatus.unreadable
                   listFlags := AttrListFlag.headerReadFailure }
          | some len =>
            let header : Header :=
              { kind := kind, selector := selector, ptr := ptr, len := len }
            match spanStatus header layout with
            | some status => pure { kind := safeKindCode kind, status := status }
            | none => judgeCell build base count index peer layout header

/-- The five-scalar body: it checks the whole own span and the index again. -/
def requestCellPacked (base count tag peerBase peerCount : UInt64) : Reading UInt64 := do
  match decodeRequestCellTag tag with
  | none => pure requestCellPoison
  | some (index, layout, hasPeer) =>
    if !tableValid base count layout || index ≥ inspectedSlots count ||
        (checkedAdd base (headerBytes count layout)).isNone then
      pure requestCellPoison
    else
      let peer := if hasPeer then some (peerBase, peerCount) else none
      let facts ← requestCellCore build base count index peer layout
      pure ((packRequestCell facts).getD requestCellPoison)

def requestCell (base count index : UInt64) (peer : Option (UInt64 × UInt64)) (layout : LinuxLayout)
    : Reading RequestCellFacts := do
  match encodeRequestCellTag index layout peer.isSome with
  | none => pure { listFlags := AttrListFlag.headerReadFailure }
  | some tag =>
    let (peerBase, peerCount) := peer.getD (0, 0)
    let packed ← requestCellPacked build base count tag peerBase peerCount
    pure ((unpackRequestCell packed).getD { listFlags := AttrListFlag.headerReadFailure })

def clearAttributeList (_ : ObjectAttributeListWire) : ObjectAttributeListWire := {}

/-- Publish one slot's facts in place. -/
def publishFacts (out : ObjectAttributeListWire × UInt32) (index : UInt64)
    (facts : RequestCellFacts) : ObjectAttributeListWire × UInt32 :=
  ({ out.1 with
      cells := out.1.cells.setIfInBounds index.toNat
        { kind := facts.kind, status := facts.status, value := facts.value }
      flags := out.1.flags ||| facts.listFlags },
    out.2 ||| facts.objectFlags)

/-- The streamed walk: the published list and the contributed object flags. -/
def inspectRequestTemplateInto (templatePtr count : UInt64) (peer : Option (UInt64 × UInt64))
    (layout : LinuxLayout) (out : ObjectAttributeListWire) :
    Reading (ObjectAttributeListWire × UInt32) := do
  let out := clearAttributeList out
  if !tableValid templatePtr count layout then
    pure ({ out with flags := AttrListFlag.invalidSpan }, 0)
  else if (checkedAdd templatePtr (headerBytes count layout)).isNone then
    pure ({ out with flags := AttrListFlag.invalidSpan }, 0)
  else
    let out := { out with
      inspected := (inspectedSlots count).toUInt8
      flags := out.flags ||| listFlags count }
    if inspectedSlots count = 0 then pure (out, 0)
    else
      -- Peer header failures stay visible even if no own value is viable.
      let other ← peerAliasScan build peer 0 0 layout
      (slotIndices count).foldlM
        (fun out index => do
          pure (publishFacts out index
            (← requestCell build templatePtr count index peer layout)))
        ({ out with flags := out.flags ||| other.2 }, 0)

end P11Scope.Capture
