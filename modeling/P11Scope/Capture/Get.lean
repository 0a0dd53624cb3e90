import P11Scope.Capture.Request
import P11Scope.Capture.Wire

/-!
# Attribute values: entry and return

The reference keeps an entry state with an explicit count and judges all slots
in two passes.  The shipped path keeps the retained headers densely in the owner
row, finds their number from the kinds, and passes each slot's verdict through
packed scalars.
-/

namespace P11Scope.Capture

open Lib

/-! ## The reference entry -/

structure GetSlot where
  valuePtr : UInt64 := 0
  entryCapacity : UInt64 := 0
  kind : UInt8 := 0
  slotIndex : UInt8 := 0
  deriving DecidableEq, Repr

structure GetEntryState where
  templateBase : UInt64 := 0
  headerEnd : UInt64 := 0
  slots : Vector GetSlot 8 := Vector.replicate 8 {}
  slotCount : UInt8 := 0
  inspected : UInt8 := 0
  entryFlags : UInt8 := 0
  deriving DecidableEq, Repr

structure GetEntryVerdict where
  inspected : UInt8 := 0
  slotCount : UInt8 := 0
  entryFlags : UInt8 := 0
  deriving DecidableEq, Repr

/-- The verdict repeats the state's counts and flags. -/
def GetEntryState.verdict (state : GetEntryState) : GetEntryVerdict where
  inspected := state.inspected
  slotCount := state.slotCount
  entryFlags := state.entryFlags

def truncatedFlag (count : UInt64) : UInt8 :=
  if count > maxAttributeSlots then AttrListFlag.truncated else 0

/-- One turn of the entry loop; the header is read as a request's own slot is. -/
def retainHeader (base : UInt64) (layout : LinuxLayout) (state : GetEntryState) (index : UInt64) :
    Reading GetEntryState := do
  let slot ← readOwnSlot base layout index
  match slot.header with
  | none => pure { state with entryFlags := state.entryFlags ||| slot.flags }
  | some header =>
    let retained : GetSlot :=
      { valuePtr := header.ptr, entryCapacity := header.len, kind := safeKindCode header.kind
        slotIndex := index.toUInt8 }
    pure { state with
      slots := state.slots.setIfInBounds state.slotCount.toNat retained
      slotCount := state.slotCount + 1 }

def captureGetEntry (templatePtr count : UInt64) (layout : LinuxLayout) (_ : GetEntryState) :
    Reading (GetEntryState × GetEntryVerdict) := do
  let state ←
    if !tableValid templatePtr count layout then
      pure { entryFlags := AttrListFlag.invalidSpan }
    else
      match checkedAdd templatePtr (headerBytes count layout) with
      | none => pure { entryFlags := truncatedFlag count ||| AttrListFlag.invalidSpan }
      | some headerEnd =>
        (slotIndices count).foldlM (retainHeader templatePtr layout)
          { templateBase := templatePtr, headerEnd := headerEnd
            inspected := (inspectedSlots count).toUInt8, entryFlags := truncatedFlag count }
  pure (state, state.verdict)

/-! ## The reference return -/

variable (entry : GetEntryState)

/-- The first retained slot of a template index, with its place. -/
def retainedFor (index : Nat) : Option (GetSlot × Nat) :=
  (entry.slots.toList.take (min entry.slotCount.toNat 8)).zipIdx.find? fun found =>
    found.1.slotIndex.toNat = index

/-- What the first pass leaves for one template index. -/
inductive ReturnedSlot where
  | absent
  | settled (cell : AttrCell) (flags : UInt32)
  | viable (kind : SafeAttributeKind) (ptr len : UInt64) (place : Nat)
  deriving DecidableEq, Repr

def settledCell (slot : GetSlot) (status : UInt8) : ReturnedSlot :=
  .settled { kind := slot.kind, status := status, value := 0 } 0

def changedCell (slot : GetSlot) : ReturnedSlot :=
  .settled { kind := slot.kind, status := AttrStatus.changed, value := 0 }
    ObjectFlag.changedMetadata

/-- The checks on one reread header, in order. -/
def judgeReturned (slot : GetSlot) (kind : SafeAttributeKind) (place : Nat) (layout : LinuxLayout)
    (selector ptr len : UInt64) : ReturnedSlot :=
  if safeAttributeKind selector ≠ some kind then changedCell slot
  else if slot.valuePtr = 0 then settledCell slot AttrStatus.sizeOnly
  else if ptr ≠ slot.valuePtr then changedCell slot
  else if len = unavailableLen layout then settledCell slot AttrStatus.unavailable
  else if slot.entryCapacity < minExactLen kind layout then
    settledCell slot AttrStatus.insufficientCapacity
  else if len > slot.entryCapacity ∨ !validSafeAttributeLength kind len layout then
    settledCell slot AttrStatus.invalidLength
  else if (validateTargetSpan slot.valuePtr len layout).isNone then
    settledCell slot AttrStatus.invalidSpan
  else .viable kind slot.valuePtr len place

/-- Phase 1 for one template index. -/
def rereadHeader (layout : LinuxLayout) (index : UInt64) : Reading ReturnedSlot := do
  match retainedFor entry index.toNat with
  | none => pure .absent
  | some (slot, place) =>
    match kindFromCode slot.kind with
    | none => pure .absent
    | some kind =>
      match attributeHeaderAddresses entry.templateBase index layout with
      | none => pure (settledCell slot AttrStatus.invalidSpan)
      | some addresses =>
        let selectorWord ← readWord addresses.selector layout
        let ptrWord ← readWord addresses.pointer layout
        let lenWord ← readWord addresses.length layout
        match selectorWord, ptrWord, lenWord with
        | some selector, some ptr, some len =>
          pure (judgeReturned slot kind place layout selector ptr len)
        | _, _, _ => pure (settledCell slot AttrStatus.unreadable)

/-- The alias pass for one viable slot. -/
def returnAliases (layout : LinuxLayout) (ptr len : UInt64) (place : Nat) : Bool :=
  spansOverlap ptr len entry.templateBase (saturatingSub entry.headerEnd entry.templateBase) ||
    (entry.slots.toList.take (min entry.slotCount.toNat 8)).zipIdx.any fun other =>
      other.2 ≠ place && other.1.valuePtr ≠ 0 && other.1.entryCapacity ≠ 0 &&
        (validateTargetSpan other.1.valuePtr other.1.entryCapacity layout).isSome &&
        spansOverlap ptr len other.1.valuePtr other.1.entryCapacity

/-- Phase 2 for one viable slot: the value, then the header again. -/
def readReturnedCell (base : UInt64) (layout : LinuxLayout) (index : UInt64)
    (kind : SafeAttributeKind) (ptr len : UInt64) : Reading (AttrCell × UInt32) := do
  match attributeHeaderAddresses base index layout with
  | none => pure (kindCell kind AttrStatus.invalidSpan, 0)
  | some addresses =>
    let classified ← readClassifiedValue kind ptr len layout
    match classified with
    | .ok value => recheck addresses (some value)
    | .error status =>
      if status = AttrStatus.unsupported then recheck addresses none
      else pure (kindCell kind status, 0)
where
  recheck (addresses : HeaderAddresses) (value : Option UInt16) : Reading (AttrCell × UInt32) := do
    let selectorWord ← readWord addresses.selector layout
    let ptrWord ← readWord addresses.pointer layout
    let lenWord ← readWord addresses.length layout
    match selectorWord, ptrWord, lenWord with
    | some selector, some ptr2, some len2 =>
      if safeAttributeKind selector = some kind ∧ ptr2 = ptr ∧ len2 = len then
        match value with
        | some value =>
          pure ({ kind := safeKindCode kind, status := AttrStatus.value, value := value }, 0)
        | none => pure (kindCell kind AttrStatus.unsupported, 0)
      else pure (kindCell kind AttrStatus.changed, ObjectFlag.changedMetadata)
    | _, _, _ => pure (kindCell kind AttrStatus.unreadable, 0)

/-- The passes after the first for one template index. -/
def settleReturned (layout : LinuxLayout) (found : ReturnedSlot × UInt64) :
    Reading (AttrCell × UInt32) :=
  match found.1 with
  | .absent => pure ({}, 0)
  | .settled cell flags => pure (cell, flags)
  | .viable kind ptr len place =>
    if returnAliases entry layout ptr len place then
      pure (kindCell kind AttrStatus.aliased, ObjectFlag.aliased)
    else readReturnedCell entry.templateBase layout found.2 kind ptr len

/-- The template indices below the inspected count. -/
def inspectedIndices (inspected : UInt8) : List UInt64 :=
  (List.range (min inspected.toNat 8)).map UInt64.ofNat

def captureGetReturn (rv : UInt64) (authority : ReturnAuthority) (layout : LinuxLayout) :
    Reading AttributeListOutcome := do
  if !returnAcceptsGetResults rv || !authority.isAuthorized then pure {}
  else
    let indices := inspectedIndices entry.inspected
    let reread ← indices.mapM (rereadHeader entry layout)
    let cells ← (reread.zip indices).mapM (settleReturned entry layout)
    pure
      { cells := padCells (cells.map Prod.fst)
        inspected := min entry.inspected 8
        flags := (entry.entryFlags &&& 0x0F) |||
          (if min entry.inspected 8 > 0 then AttrListFlag.present else 0)
        objectFlags := mergeObjectFlags (cells.map Prod.snd) }

/-! ## The shipped entry -/

/-- The owner row and the verdict while the headers are read; `stopped` is the
loop's early exit. -/
structure GetEntryWalk where
  side : ObjectStart
  verdict : GetEntryVerdict
  stopped : Bool := false
  deriving DecidableEq, Repr

/-- Write one header at the dense end of the retained slots. -/
def GetEntryWalk.retain (walk : GetEntryWalk) (index : UInt64) (header : Header) :
    GetEntryWalk :=
  match walk.side.slots[walk.verdict.slotCount.toNat]? with
  | none =>
    { walk with
      verdict := { walk.verdict with
        entryFlags := walk.verdict.entryFlags ||| AttrListFlag.headerReadFailure }
      stopped := true }
  | some slot =>
    let retained : ObjectAttributeSlot :=
      { slot with
        valuePtr := header.ptr, entryCapacity := header.len, kind := safeKindCode header.kind
        slotIndex := index.toUInt8 }
    { walk with
      side := { walk.side with
        slots := walk.side.slots.setIfInBounds walk.verdict.slotCount.toNat retained }
      verdict := { walk.verdict with slotCount := walk.verdict.slotCount + 1 } }

/-- One turn of the shipped entry loop. -/
def retainHeaderInto (base : UInt64) (layout : LinuxLayout) (walk : GetEntryWalk)
    (index : UInt64) : Reading GetEntryWalk := do
  if walk.stopped then pure walk
  else
    let slot ← readOwnSlot base layout index
    match slot.header with
    | none =>
      pure { walk with
        verdict := { walk.verdict with entryFlags := walk.verdict.entryFlags ||| slot.flags } }
    | some header => pure (walk.retain index header)

def clearGetEntry (side : ObjectStart) : ObjectStart :=
  { side with
    getTemplateBase := 0, inspectedHeaderEnd := 0, getInspected := 0
    flags := side.flags &&& ~~~getEntryFlagsMask, slots := Vector.replicate 8 {} }

def captureGetEntryInto (templatePtr count : UInt64) (layout : LinuxLayout) (side : ObjectStart) :
    Reading (ObjectStart × GetEntryVerdict) := do
  let side := clearGetEntry side
  let walk ←
    if !tableValid templatePtr count layout then
      pure { side := side, verdict := { entryFlags := AttrListFlag.invalidSpan } }
    else
      match checkedAdd templatePtr (headerBytes count layout) with
      | none => pure { side := side, verdict := { entryFlags := AttrListFlag.invalidSpan } }
      | some headerEnd =>
        (slotIndices count).foldlM (retainHeaderInto templatePtr layout)
          { side := { side with
              getTemplateBase := templatePtr, inspectedHeaderEnd := headerEnd
              getInspected := (inspectedSlots count).toUInt8 }
            verdict :=
              { inspected := (inspectedSlots count).toUInt8, entryFlags := truncatedFlag count } }
  let flags := walk.side.flags ||| (walk.verdict.entryFlags.toUInt16 <<< getEntryFlagsShift)
  pure ({ walk.side with flags := flags }, walk.verdict)

/-! ## The shipped return -/

inductive GetSlotFlow where
  | break
  | continue
  | done
  deriving DecidableEq, Repr

def getSlotLayoutBit : UInt64 := 1 <<< (8 : UInt64)

def encodeGetSlotLayout (slotIndex : UInt64) (layout : LinuxLayout) : UInt64 :=
  (slotIndex &&& 0x07) |||
    match layout with
    | .lp64 => 0
    | .ilp32 => getSlotLayoutBit

def decodeGetSlotLayout (code : UInt64) : UInt64 × LinuxLayout :=
  (code &&& 0x07, if code &&& getSlotLayoutBit = 0 then .lp64 else .ilp32)

def encodeGetSlotResult (flow : GetSlotFlow) (contributed : UInt32) : UInt64 :=
  let tag : UInt64 :=
    match flow with
    | .break => 0
    | .continue => 1
    | .done => 2
  (contributed.toUInt64 <<< 2) ||| tag

/-- The unreachable tag stops the scan. -/
def decodeGetSlotResult (code : UInt64) : GetSlotFlow × UInt32 :=
  let tag := code &&& 0x03
  (if tag = 0 then .break else if tag = 1 then .continue else if tag = 2 then .done else .break,
    (code >>> 2).toUInt32)

def decodeAliasCapacityLayout (wordBytes : UInt64) : Option LinuxLayout :=
  if wordBytes = 4 then some .ilp32 else if wordBytes = 8 then some .lp64 else none

def aliasCapacityCore (ptr len otherPtr otherCap : UInt64) (layout : LinuxLayout) : Bool :=
  (otherPtr ||| otherCap) ≠ 0 && (validateTargetSpan otherPtr otherCap layout).isSome &&
    spansOverlap ptr len otherPtr otherCap

def aliasCapacityPacked (ptr len otherPtr otherCap wordBytes : UInt64) : UInt64 :=
  match decodeAliasCapacityLayout wordBytes with
  | none => 0
  | some layout => (aliasCapacityCore ptr len otherPtr otherCap layout).toUInt64

variable (build : Build)

def aliasCapacityHit (ptr len otherPtr otherCap : UInt64) (layout : LinuxLayout) : Bool :=
  match build with
  | .host => aliasCapacityCore ptr len otherPtr otherCap layout
  | .bpf => aliasCapacityPacked ptr len otherPtr otherCap layout.wordBytes ≠ 0

/-- Whether the value overlaps the headers or another retained capacity; the scan
of the slots ends at the first unselected kind. -/
def capacityAliases (side : ObjectStart) (place : Nat) (ptr len : UInt64) (layout : LinuxLayout) :
    Bool :=
  spansOverlap ptr len side.getTemplateBase
      (saturatingSub side.inspectedHeaderEnd side.getTemplateBase) ||
    (side.slots.toList.zipIdx.takeWhile fun other => slotKindSelected other.1.kind).any
      fun other => other.2 ≠ place &&
        aliasCapacityHit build ptr len other.1.valuePtr other.1.entryCapacity layout

/-- The ordered checks on one reread header; `none` lets the value be read. -/
def getSlotStatus (side : ObjectStart) (slot : ObjectAttributeSlot) (kind : SafeAttributeKind)
    (place : Nat) (layout : LinuxLayout) (selector ptr len : UInt64) : Option (UInt8 × UInt32) :=
  if selector ≠ selectorForKind kind then some (AttrStatus.changed, ObjectFlag.changedMetadata)
  else if slot.valuePtr = 0 then some (AttrStatus.sizeOnly, 0)
  else if ptr ≠ slot.valuePtr then some (AttrStatus.changed, ObjectFlag.changedMetadata)
  else if len = unavailableLen layout then some (AttrStatus.unavailable, 0)
  else if slot.entryCapacity < minExactLen kind layout then
    some (AttrStatus.insufficientCapacity, 0)
  else if len > slot.entryCapacity ∨ !validSafeAttributeLength kind len layout then
    some (AttrStatus.invalidLength, 0)
  else if (validateTargetSpan ptr len layout).isNone then some (AttrStatus.invalidSpan, 0)
  else if capacityAliases build side place ptr len layout then
    some (AttrStatus.aliased, ObjectFlag.aliased)
  else none

/-- Publish one stable cell over the present one. -/
def stableAttributeCell (base index : UInt64) (kind : SafeAttributeKind) (ptr len : UInt64)
    (layout : LinuxLayout) (out : AttrCell) : Reading (AttrCell × UInt32) := do
  let cell ← stableCell build base index kind ptr len layout
  pure ({ out with
      status := cell.status, value := if cell.writeValue then cell.value else out.value },
    cell.contributed)

/-- One retained slot: its flow, its cell and its contribution. -/
def classifySelected (side : ObjectStart) (slot : ObjectAttributeSlot) (kind : SafeAttributeKind)
    (place : Nat) (layout : LinuxLayout) (cell : AttrCell) :
    Reading (GetSlotFlow × UInt32 × AttrCell) := do
  let index := slot.slotIndex.toUInt64
  let cell := { cell with kind := slot.kind }
  match attributeHeaderAddresses side.getTemplateBase index layout with
  | none => pure (.continue, 0, { cell with status := AttrStatus.invalidSpan })
  | some addresses =>
    let selectorWord ← readWord addresses.selector layout
    let ptrWord ← readWord addresses.pointer layout
    let lenWord ← readWord addresses.length layout
    match selectorWord, ptrWord, lenWord with
    | some selector, some ptr, some len =>
      match getSlotStatus build side slot kind place layout selector ptr len with
      | some (status, contributed) =>
        pure (.done, contributed, { cell with status := status })
      | none =>
        let (cell, contributed) ←
          stableAttributeCell build side.getTemplateBase index kind ptr len layout cell
        pure (.done, contributed, cell)
    | _, _, _ => pure (.continue, 0, { cell with status := AttrStatus.unreadable })

def classifyGetSlot (side : ObjectStart) (slotLayout : UInt64) (out : ObjectAttributeListWire) :
    Reading (UInt64 × ObjectAttributeListWire) := do
  let (slotIndex, layout) := decodeGetSlotLayout slotLayout
  let slot := (side.slots[slotIndex.toNat]?).getD {}
  match kindFromCode slot.kind with
  | none => pure (encodeGetSlotResult .break 0, out)
  | some kind =>
    if slot.slotIndex ≥ min side.getInspected 8 then
      pure (encodeGetSlotResult .continue 0, out)
    else
      let place := (slot.slotIndex &&& 7).toNat
      match out.cells[place]? with
      | none => pure (encodeGetSlotResult .continue 0, out)
      | some cell =>
        -- The first retained slot of an index keeps its cell.
        if cell.kind ≠ 0 then pure (encodeGetSlotResult .continue 0, out)
        else
          let (flow, contributed, cell) ←
            classifySelected build side slot kind slotIndex.toNat layout cell
          pure (encodeGetSlotResult flow contributed,
            { out with cells := out.cells.setIfInBounds place cell })

/-- The return loop's state; `stopped` is its early exit. -/
structure GetReturnWalk where
  out : ObjectAttributeListWire
  contributed : UInt32 := 0
  stopped : Bool := false
  deriving DecidableEq, Repr

def classifyNext (side : ObjectStart) (layout : LinuxLayout) (walk : GetReturnWalk) (place : Nat) :
    Reading GetReturnWalk := do
  if walk.stopped then pure walk
  else
    let (packed, out) ← classifyGetSlot build side
      (encodeGetSlotLayout (UInt64.ofNat place) layout) walk.out
    let (flow, contributed) := decodeGetSlotResult packed
    pure
      { out := out, contributed := walk.contributed ||| contributed
        stopped := flow = .break }

def captureGetReturnInto (side : ObjectStart) (rv : UInt64) (authority : ReturnAuthority)
    (layout : LinuxLayout) (out : ObjectAttributeListWire) :
    Reading (ObjectAttributeListWire × UInt32) := do
  let out := clearAttributeList out
  if !returnAcceptsGetResults rv || !authority.isAuthorized then pure (out, 0)
  else if side.flags &&& getEntryUninspected ≠ 0 then
    pure ({ out with flags := AttrListFlag.uninspected }, 0)
  else
    let inspected := min side.getInspected 8
    let listed := ((side.flags &&& getEntryFlagsMask) >>> getEntryFlagsShift).toUInt8
    let out := { out with
      inspected := inspected
      flags := listed ||| (if inspected > 0 then AttrListFlag.present else 0) }
    let walk ← (List.range 8).foldlM (classifyNext build side layout) { out := out }
    pure (walk.out, walk.contributed)

end P11Scope.Capture
