import P11Scope.Capture.Get
import P11Scope.Capture.Tail

/-!
# The adapters of one object call

The entry steps fill the owner row of a call, the return steps fill its tail.  A
step that answers `none` is a refused adapter, and the caller abandons the call.
A word of the target is read through the same queries as attribute headers; the
arguments of the call are data.
-/

namespace P11Scope.Capture

open Lib

/-- The facts of an entry beside the row and the target's memory. -/
structure EntryFacts where
  fetchArg : UInt8 → Option UInt64
  stackPointer : UInt64
  nullCancel : Bool
  outputNonNull : Bool

/-- An accepted step leads on, a refused one ends the chain. -/
def andThen {α β : Type} (step : Reading (Option α)) (next : α → Reading (Option β)) :
    Reading (Option β) := do
  match ← step with
  | none => pure none
  | some value => next value

def targetWordEnd (address : UInt64) (layout : LinuxLayout) : Option UInt64 :=
  match layout with
  | .lp64 => checkedAdd address 7
  | .ilp32 => if address ≤ 0xFFFFFFFF - 3 then some (address + 3) else none

variable (row : ObjectDescriptorWire)

/-- The row checks every adapter repeats. -/
def rowAccepted (descriptor : UInt32) : Bool :=
  row.function = descriptor - 1 && row.action ≠ ActionCode.none && row.action ≤ ActionCode.max &&
    row.guard ≠ GuardCode.none && row.guard ≤ GuardCode.scalarDerive

def isKem (action : UInt8) : Bool :=
  action = ActionCode.encapsulate || action = ActionCode.decapsulate

namespace Phase

def entry : UInt8 := 1
def ready : UInt8 := 2
def returning : UInt8 := 3

end Phase

/-- The zeroed row with its binding and the recorded entry layout. -/
def boundSide (image : ImageIdentity) (entryNs : UInt64) (descriptor : UInt32)
    (row : ObjectDescriptorWire) (layout : LinuxLayout) : ObjectStart where
  image := image
  entryNs := entryNs
  descriptorIndex := descriptor
  action := row.action
  layout := layout.code
  phase := Phase.entry

/-! ## Entry: input handles -/

/-- Status, word and flags of one fetched handle. -/
structure HandleVerdict where
  status : UInt8
  word : UInt64 := 0
  flags : UInt32 := 0
  deriving DecidableEq, Repr

def handleVerdict (layout : LinuxLayout) (zero : UInt8) (fetched : Option UInt64) :
    HandleVerdict :=
  match fetched with
  | none => { status := HandleStatus.unreadable, flags := ObjectFlag.argReadFailure }
  | some word =>
    if word = 0 then { status := zero }
    else if layout = .ilp32 ∧ word > 0xFFFFFFFF then { status := HandleStatus.invalidSpan }
    else { status := HandleStatus.value, word := word }

variable (facts : EntryFacts)

def inputVerdict (row : ObjectDescriptorWire) (layout : LinuxLayout) (arg : UInt8) :
    HandleVerdict :=
  if arg = argNone then { status := HandleStatus.absent }
  else
    handleVerdict layout
      (if row.action = ActionCode.importState then HandleStatus.absent
        else HandleStatus.invalidZero)
      (facts.fetchArg arg)

/-- A cancelled mechanism suppresses value inputs. -/
def suppressed (nullCancel : Bool) (verdict : HandleVerdict) : HandleVerdict :=
  if nullCancel ∧ verdict.status = HandleStatus.value then
    { verdict with status := HandleStatus.suppressed, word := 0 }
  else verdict

def objectFillEntry (row : ObjectDescriptorWire) (layout : LinuxLayout) (side : ObjectStart) :
    Option ObjectStart :=
  if !rowAccepted row side.descriptorIndex then none
  else if isKem row.action then some side
  else
    let first := suppressed facts.nullCancel (inputVerdict facts row layout row.inputArgs[0])
    let second := suppressed facts.nullCancel (inputVerdict facts row layout row.inputArgs[1])
    let flags := first.flags ||| second.flags |||
      (if facts.nullCancel then ObjectFlag.nullMechanismCancel else 0)
    some { side with
      inputs := #v[first.word, second.word]
      inputStatuses := #v[first.status, second.status]
      flags := side.flags ||| flags.toUInt16
      phase := Phase.ready }

/-! ## Entry: derive -/

inductive ScalarDeriveMechanism where
  | dhPkcs
  | sha256
  | ecdh1
  | ecdh1Cofactor
  deriving DecidableEq, Repr

inductive DeriveEntry where
  | accepted (mechanism : ScalarDeriveMechanism)
  | unavailable
  deriving DecidableEq, Repr

def DeriveEntry.code : DeriveEntry → UInt8
  | .accepted .dhPkcs => 1
  | .accepted .sha256 => 2
  | .accepted .ecdh1 => 3
  | .accepted .ecdh1Cofactor => 4
  | .unavailable => deriveUnavailable

def DeriveEntry.ofCode (code : UInt8) : DeriveEntry :=
  if code = 1 then .accepted .dhPkcs
  else if code = 2 then .accepted .sha256
  else if code = 3 then .accepted .ecdh1
  else if code = 4 then .accepted .ecdh1Cofactor
  else .unavailable

def deriveMechanismCode : ScalarDeriveMechanism → UInt64
  | .dhPkcs => 0x21
  | .sha256 => 0x393
  | .ecdh1 => 0x1050
  | .ecdh1Cofactor => 0x1051

/-- Full-width membership only. -/
def deriveResultProtocol (mechanism : UInt64) : DeriveEntry :=
  if mechanism = 0x21 then .accepted .dhPkcs
  else if mechanism = 0x393 then .accepted .sha256
  else if mechanism = 0x1050 then .accepted .ecdh1
  else if mechanism = 0x1051 then .accepted .ecdh1Cofactor
  else .unavailable

def classifyDeriveMechanism (mechanismPtr : UInt64) (layout : LinuxLayout) :
    Reading DeriveEntry := do
  if mechanismPtr = 0 ∨ (targetWordEnd mechanismPtr layout).isNone then pure .unavailable
  else
    match ← readWord mechanismPtr layout with
    | none => pure .unavailable
    | some mechanism => pure (deriveResultProtocol mechanism)

/-- The result pointer is fetched only for an accepted mechanism. -/
def adapterDeriveEntry (row : ObjectDescriptorWire) (layout : LinuxLayout) (side : ObjectStart) :
    Reading (Option ObjectStart) := do
  if !rowAccepted row side.descriptorIndex then pure none
  else if row.action ≠ ActionCode.derive then pure (some side)
  else if row.resultArgs ≠ ⟨#[5, argNone], by decide⟩ then pure none
  else
    let derive ← classifyDeriveMechanism ((facts.fetchArg 1).getD 0) layout
    let retained :=
      match derive with
      | .accepted _ => facts.fetchArg 5
      | .unavailable => none
    pure (some { side with derive := derive.code, resultPtrs := #v[retained.getD 0, 0] })

/-! ## Entry: results, find and the key-encapsulation pair -/

def objectResultArg7Address (stackPointer : UInt64) (layout : LinuxLayout) : Option UInt64 :=
  let namedSeven := row.action = ActionCode.pair || row.action = ActionCode.unwrap ||
    isKem row.action
  if !namedSeven || !(row.resultArgs[0] = 7 || row.resultArgs[1] = 7) then none
  else do
    let address ←
      match layout with
      | .lp64 => checkedAdd stackPointer 16
      | .ilp32 => checkedAdd (stackPointer &&& 0xFFFFFFFF) 32
    let _ ← targetWordEnd address layout
    pure address

/-- One retained result pointer; argument seven lies on the target's stack. -/
def retainResult (row : ObjectDescriptorWire) (layout : LinuxLayout) (arg : UInt8) :
    Reading (Option UInt64) := do
  if arg = argNone then pure (some 0)
  else if arg = 7 then
    match objectResultArg7Address row facts.stackPointer layout with
    | none => pure none
    | some address => return some ((← readWord address layout).getD 0)
  else pure (some ((facts.fetchArg arg).getD 0))

def objectEntryResults (row : ObjectDescriptorWire) (layout : LinuxLayout) (side : ObjectStart) :
    Reading (Option ObjectStart) :=
  if !rowAccepted row side.descriptorIndex then pure none
  else if row.action = ActionCode.derive ∨ isKem row.action then pure (some side)
  else
    andThen (retainResult facts row layout row.resultArgs[0]) fun first =>
    andThen (retainResult facts row layout row.resultArgs[1]) fun second =>
      pure (some { side with resultPtrs := #v[first, second] })

def objectEntryFind (row : ObjectDescriptorWire) (side : ObjectStart) : Option ObjectStart :=
  if !rowAccepted row side.descriptorIndex then none
  else if row.action ≠ ActionCode.find then some side
  else
    let fetched (arg : UInt8) : UInt64 := if arg = argNone then 0 else (facts.fetchArg arg).getD 0
    some { side with
      findCapacity := fetched row.findCapacityArg
      findCountPtr := fetched row.findCountArg }

/-- The spans a result cell must avoid, from argument scalars alone. -/
def kemSpansClear (encapsulate : Bool) (layout : LinuxLayout) (cell : UInt64) : Bool :=
  let wordLen := layout.wordBytes
  (match facts.fetchArg 3, facts.fetchArg 4 with
    | some templatePtr, some templateCount =>
      let templateLen := (attributeTableSpan templateCount layout).getD 0
      templateCount = 0 ||
        (templateLen ≠ 0 && (validateTargetSpan templatePtr templateLen layout).isSome &&
          !spansOverlap cell wordLen templatePtr templateLen)
    | _, _ => false) &&
  (!encapsulate ||
    match facts.fetchArg 6 with
    | none => false
    | some lengthCell =>
      lengthCell = 0 || ((targetWordEnd lengthCell layout).isSome &&
        !spansOverlap cell wordLen lengthCell wordLen)) &&
  match facts.fetchArg 5 with
  | none => false
  | some ciphertext =>
    if ciphertext = 0 then !encapsulate
    else
      match checkedAdd cell wordLen with
      | none => false
      | some cellEnd => cellEnd ≤ ciphertext

/-- The result pointer of a key-encapsulation call; zero is withheld. -/
def kemResult (row : ObjectDescriptorWire) (layout : LinuxLayout) : Reading (Option UInt64) := do
  let encapsulate := row.action = ActionCode.encapsulate
  if encapsulate && !facts.outputNonNull then pure (some 0)
  else
    match objectResultArg7Address row facts.stackPointer layout with
    | none => pure none
    | some arg7 =>
      match ← readWord arg7 layout with
      | none => pure (some 0)
      | some cell =>
        if (targetWordEnd cell layout).isNone then pure (some cell)
        else pure (some (if kemSpansClear facts encapsulate layout cell then cell else 0))

def adapterKemEntry (wired : Bool) (facts : EntryFacts) (row : ObjectDescriptorWire)
    (layout : LinuxLayout) (side : ObjectStart) : Reading (Option ObjectStart) := do
  if !rowAccepted row side.descriptorIndex then pure none
  else if !isKem row.action then pure (some side)
  else if row.inputArgs ≠ ⟨#[2, argNone], by decide⟩ ∨
      row.resultArgs ≠ ⟨#[7, argNone], by decide⟩ ∨
      row.templateArgs ≠ ⟨#[argNone, argNone, argNone, argNone], by decide⟩ ∨
      row.findCapacityArg ≠ argNone ∨ row.findCountArg ≠ argNone then pure none
  else if !wired then
    pure (some { side with
      inputs := #v[0, 0]
      inputStatuses := #v[HandleStatus.protocolUnavailable, HandleStatus.absent]
      resultPtrs := #v[0, 0]
      phase := Phase.ready })
  else
    let fetched := handleVerdict layout HandleStatus.invalidZero (facts.fetchArg 2)
    let input := suppressed facts.nullCancel fetched
    let flags := fetched.flags |||
      (if facts.nullCancel ∧ fetched.status = HandleStatus.value then
        ObjectFlag.nullMechanismCancel else 0)
    let side := { side with
      inputs := #v[input.word, 0]
      inputStatuses := #v[input.status, HandleStatus.absent]
      flags := flags.toUInt16 }
    andThen (kemResult facts row layout) fun result =>
      pure (some { side with resultPtrs := #v[result, 0], phase := Phase.ready })

/-! ## Entry: attributes -/

def captureGetTemplate (row : ObjectDescriptorWire) (layout : LinuxLayout) (side : ObjectStart) :
    Reading ObjectStart := do
  let ptrArg := getElem row.templateArgs 0 zero_lt_four
  let countArg := getElem row.templateArgs 1 one_lt_four
  if ptrArg = argNone ∨ countArg = argNone then pure side
  else
    match facts.fetchArg ptrArg, facts.fetchArg countArg with
    | some ptr, some count => Prod.fst <$> captureGetEntryInto ptr count layout side
    | _, _ =>
      let (side, _) ← captureGetEntryInto 0 0 layout side
      pure { side with
        flags := side.flags ||| (ObjectFlag.argReadFailure.toUInt16 ||| getEntryUninspected) }

/-- Mark the present pairs as never inspected. -/
def markUninspected (side : ObjectStart) : ObjectStart :=
  let marked (pair : Fin 2) : ObjectAttributeListWire :=
    if row.pairPresent pair then
      { getElem side.requested pair pair.2 with flags := AttrListFlag.uninspected }
    else getElem side.requested pair pair.2
  { side with requested := #v[marked 0, marked 1] }

/-- The scalars of one template pair, when both were fetched. -/
def fetchPair (row : ObjectDescriptorWire) (pair : Fin 2) : Option (UInt64 × UInt64) :=
  if row.pairPresent pair then
    match pair with
    | 0 => (facts.fetchArg (getElem row.templateArgs 0 zero_lt_four)).bind fun ptr =>
      (facts.fetchArg (getElem row.templateArgs 1 one_lt_four)).map fun count => (ptr, count)
    | 1 => (facts.fetchArg (getElem row.templateArgs 2 two_lt_four)).bind fun ptr =>
      (facts.fetchArg (getElem row.templateArgs 3 three_lt_four)).map fun count => (ptr, count)
  else none

variable (build : Build)

/-- Inspect one fetched pair with the other as its alias peer. -/
def inspectPair (layout : LinuxLayout) (pair peer : Option (UInt64 × UInt64))
    (list : ObjectAttributeListWire) : Reading (ObjectAttributeListWire × UInt32) :=
  match pair with
  | none => pure (list, 0)
  | some (ptr, count) => inspectRequestTemplateInto build ptr count peer layout list

def captureRequestPairs (facts : EntryFacts) (row : ObjectDescriptorWire) (layout : LinuxLayout)
    (side : ObjectStart) : Reading ObjectStart := do
  if row.action = ActionCode.derive ∧ side.derive = deriveUnavailable then
    pure (markUninspected row side)
  else
    let pair0 := fetchPair facts row 0
    let pair1 := fetchPair facts row 1
    if (row.pairPresent 0 ∧ pair0.isNone) ∨ (row.pairPresent 1 ∧ pair1.isNone) then
      let side := markUninspected row side
      pure { side with flags := side.flags ||| ObjectFlag.argReadFailure.toUInt16 }
    else
      let (first, flags0) ← inspectPair build layout pair0 pair1 side.requested[0]
      let (second, flags1) ← inspectPair build layout pair1 pair0 side.requested[1]
      pure { side with
        requested := #v[first, second]
        flags := side.flags ||| (flags0 ||| flags1).toUInt16 }

def adapterAttributesEntry (wired : Bool) (facts : EntryFacts) (row : ObjectDescriptorWire)
    (layout : LinuxLayout) (side : ObjectStart) : Reading (Option ObjectStart) :=
  if !rowAccepted row side.descriptorIndex then pure none
  else if !wired then pure (some side)
  else if row.action = ActionCode.get then some <$> captureGetTemplate facts row layout side
  else some <$> captureRequestPairs build facts row layout side

/-- The entry steps in the order of the entry probe. -/
def objectEntry (wired : Bool) (facts : EntryFacts) (row : ObjectDescriptorWire)
    (layout : LinuxLayout) (side : ObjectStart) : Reading (Option ObjectStart) :=
  andThen (pure (objectFillEntry facts row layout side)) fun side =>
  andThen (adapterDeriveEntry facts row layout side) fun side =>
  andThen (objectEntryResults facts row layout side) fun side =>
  andThen (adapterKemEntry wired facts row layout side) fun side =>
  andThen (pure (objectEntryFind facts row side)) fun side =>
  adapterAttributesEntry build wired facts row layout side

/-! ## Return: result handles -/

/-- What the return probe observed beside the row and the target's memory. -/
structure ReturnFacts where
  rv : UInt64
  mechStatus : UInt32
  mech : UInt64
  joined : Bool

def authorizeDeriveReturn (entry : DeriveEntry) (facts : ReturnFacts) : Bool :=
  match entry with
  | .unavailable => false
  | .accepted accepted =>
    facts.rv = 0 && facts.mechStatus = Capture.mechanismValue &&
      facts.mech = deriveMechanismCode accepted

/-- Whether a slot may be read, and its status otherwise. -/
def slotGate (arg action : UInt8) (deriveOk : Bool) : Bool × UInt8 :=
  if arg = argNone then (false, HandleStatus.absent)
  else if action = ActionCode.derive ∧ !deriveOk then (false, HandleStatus.protocolUnavailable)
  else (true, HandleStatus.absent)

def slotSpan (ptr : UInt64) (layout : LinuxLayout) : Bool × UInt8 :=
  if ptr = 0 then (false, HandleStatus.unreadable)
  else if (targetWordEnd ptr layout).isNone then (false, HandleStatus.invalidSpan)
  else (true, HandleStatus.absent)

def wordVerdict (layout : LinuxLayout) (observed : Option UInt64) : UInt8 × UInt64 :=
  match observed with
  | none => (HandleStatus.unreadable, 0)
  | some word =>
    if word = 0 then (HandleStatus.invalidZero, 0)
    else if layout = .ilp32 ∧ word > 0xFFFFFFFF then (HandleStatus.invalidSpan, 0)
    else (HandleStatus.value, word)

/-- One result slot: whether it was gated in, its status and its word. -/
structure ResultSlot where
  gated : Bool
  status : UInt8
  word : UInt64 := 0
  deriving DecidableEq, Repr

def gateSlot (arg action : UInt8) (deriveOk : Bool) : ResultSlot :=
  { gated := (slotGate arg action deriveOk).1, status := (slotGate arg action deriveOk).2 }

def gateFlag (arg action : UInt8) (deriveOk : Bool) : UInt32 :=
  if action = ActionCode.derive ∧ !deriveOk ∧ arg ≠ argNone then ObjectFlag.unavailableResult
  else 0

/-- A gated slot with an invalid span takes the span's status. -/
def spanSlot (slot : ResultSlot) (ptr : UInt64) (layout : LinuxLayout) : Bool × ResultSlot :=
  if slot.gated then
    ((slotSpan ptr layout).1,
      if (slotSpan ptr layout).1 then slot else { slot with status := (slotSpan ptr layout).2 })
  else (false, slot)

def readSlot (readable : Bool) (slot : ResultSlot) (ptr : UInt64) (layout : LinuxLayout) :
    Reading ResultSlot := do
  if readable then
    let (status, word) := wordVerdict layout (← readWord ptr layout)
    pure { slot with status := status, word := word }
  else pure slot

/-- Equal values are duplicates; one value of two is a partial result. -/
def crossCheck (first second : ResultSlot) : ResultSlot × ResultSlot × UInt32 :=
  let duplicate := first.status = HandleStatus.value ∧ second.status = HandleStatus.value ∧
    first.word = second.word
  let settled (slot : ResultSlot) : ResultSlot :=
    if duplicate then { slot with status := HandleStatus.duplicate, word := 0 } else slot
  let valued (slot : ResultSlot) : Bool := (settled slot).status = HandleStatus.value
  (settled first, settled second,
    (if duplicate then ObjectFlag.duplicateResult else 0) |||
      (if first.gated ∧ second.gated ∧ valued first ≠ valued second then
        ObjectFlag.partialResult else 0))

def readResults (layout : LinuxLayout) (ptrs : Vector UInt64 2) (first second : ResultSlot) :
    Reading (ResultSlot × ResultSlot × UInt32) := do
  let (readable0, first) := spanSlot first ptrs[0] layout
  let (readable1, second) := spanSlot second ptrs[1] layout
  if readable0 && readable1 && spansOverlap ptrs[0] layout.wordBytes ptrs[1] layout.wordBytes then
    pure ({ first with status := HandleStatus.aliased },
      { second with status := HandleStatus.aliased }, ObjectFlag.aliased)
  else
    let first ← readSlot readable0 first ptrs[0] layout
    let second ← readSlot readable1 second ptrs[1] layout
    pure (crossCheck first second)

def resultSlots (facts : ReturnFacts) (row : ObjectDescriptorWire) (layout : LinuxLayout)
    (side : ObjectStart) : Reading (ResultSlot × ResultSlot × UInt32) := do
  let deriveOk := row.action ≠ ActionCode.derive ||
    authorizeDeriveReturn (DeriveEntry.ofCode side.derive) facts
  let first := gateSlot row.resultArgs[0] row.action deriveOk
  let second := gateSlot row.resultArgs[1] row.action deriveOk
  let flags := gateFlag row.resultArgs[0] row.action deriveOk |||
    gateFlag row.resultArgs[1] row.action deriveOk
  if !first.gated && !second.gated then pure (first, second, flags)
  else if facts.rv ≠ 0 then
    let refused (slot : ResultSlot) : ResultSlot :=
      if slot.gated then { slot with status := HandleStatus.protocolUnavailable } else slot
    pure (refused first, refused second, flags)
  else
    let (first, second, more) ← readResults layout side.resultPtrs first second
    pure (first, second, flags ||| more)

def adapterFillReturn (facts : ReturnFacts) (row : ObjectDescriptorWire) (layout : LinuxLayout)
    (side : ObjectStart) : Reading (Option ObjectStart) := do
  if !facts.joined then pure none
  else if side.phase ≠ Phase.ready then pure none
  else if !rowAccepted row side.descriptorIndex then pure none
  else if row.action = ActionCode.find then pure (some { side with phase := Phase.returning })
  else
    let (first, second, flags) ← resultSlots facts row layout side
    pure (some { side with
      resultPtrs := #v[first.word, second.word]
      resultStatuses := #v[first.status, second.status]
      flags := side.flags ||| flags.toUInt16
      phase := Phase.returning })

/-! ## Return: the tail -/

def requestedTail (wired : Bool) (row : ObjectDescriptorWire) (side : ObjectStart)
    (pair : Fin 2) : ObjectAttributeListWire :=
  if row.pairPresent pair then
    if wired then getElem side.requested pair pair.2
    else { getElem side.requested pair pair.2 with flags := AttrListFlag.uninspected }
  else {}

def adapterTailFill (wired : Bool) (descriptor : UInt32) (row : ObjectDescriptorWire)
    (side : ObjectStart) : Option ObjectCallWire :=
  if side.phase ≠ Phase.returning ∨ side.descriptorIndex ≠ descriptor then none
  else if !rowAccepted row descriptor then none
  else
    let finds := row.action = ActionCode.find
    some
      { version := objectCallVersion
        bytes := objectCallBytes
        descriptorIndex := descriptor
        flags := side.flags.toUInt32 &&& objectFlagsMask
        layout := side.layout
        action := row.action
        entryDerive := side.derive
        inputHandles := side.inputs
        inputStatus := side.inputStatuses
        -- A Find keeps its array base in the result pointers, never a handle.
        resultHandles := if finds then #v[0, 0] else side.resultPtrs
        resultStatus :=
          if finds then #v[HandleStatus.protocolUnavailable, HandleStatus.absent]
          else side.resultStatuses
        requested := #v[requestedTail wired row side 0, requestedTail wired row side 1]
        resultAttributes :=
          if row.action = ActionCode.get then { flags := AttrListFlag.uninspected } else {} }

/-! ## Return: Find -/

def zeroFindCells (tail : ObjectCallWire) : ObjectCallWire :=
  { tail with
    findHandles := Vector.replicate 8 0, findStatus := Vector.replicate 8 0
    findLen := 0, findValid := 0 }

def wordShift : LinuxLayout → UInt64
  | .lp64 => 3
  | .ilp32 => 2

/-- The element loop; `refused` is its early exit. -/
structure FindWalk where
  tail : ObjectCallWire
  flags : UInt8
  refused : Bool := false
  deriving DecidableEq, Repr

def FindWalk.element (walk : FindWalk) (layout : LinuxLayout) (index : Nat)
    (observed : Option UInt64) : FindWalk :=
  let (status, word) := wordVerdict layout observed
  { walk with
    tail := { walk.tail with
      findStatus := walk.tail.findStatus.setIfInBounds index status
      findHandles :=
        if status = HandleStatus.value then walk.tail.findHandles.setIfInBounds index word
        else walk.tail.findHandles }
    flags :=
      if observed.isNone then walk.flags ||| FindFlag.unreadableElement else walk.flags }

def findElement (arrayPtr : UInt64) (layout : LinuxLayout) (walk : FindWalk) (index : Nat) :
    Reading FindWalk := do
  if walk.refused then pure walk
  else
    match checkedAdd arrayPtr (UInt64.ofNat index <<< wordShift layout) with
    | none =>
      pure
        { tail := { zeroFindCells walk.tail with findFlags := FindFlag.invalidSpan }
          flags := walk.flags, refused := true }
    | some address => return walk.element layout index (← readWord address layout)

/-- The checks before the elements; a refusal is its flag. -/
def findRefusal (side : ObjectStart) (layout : LinuxLayout) (count : UInt64) : Option UInt8 :=
  let arrayPtr := side.resultPtrs[0]
  let arrayLen := count <<< wordShift layout
  if layout = .ilp32 ∧ count > 0xFFFFFFFF then some FindFlag.invalidCount
  else if count > side.findCapacity then some FindFlag.invalidCount
  else if count > 0xFFFFFFFFFFFFFFFF >>> wordShift layout then some FindFlag.invalidSpan
  else if (validateTargetSpan arrayPtr arrayLen layout).isNone then some FindFlag.invalidSpan
  else if spansOverlap arrayPtr arrayLen side.findCountPtr (1 <<< wordShift layout) then
    some FindFlag.countAlias
  else none

/-- The elements, then the count once more. -/
def emitElements (side : ObjectStart) (layout : LinuxLayout) (count : UInt64)
    (tail : ObjectCallWire) : Reading ObjectCallWire := do
  let take := if count > 8 then 8 else count
  let walk ← (List.range take.toNat).foldlM (findElement side.resultPtrs[0] layout)
    { tail := tail, flags := if count > 8 then FindFlag.truncated else 0 }
  if walk.refused then pure walk.tail
  else
    let again ← readWord side.findCountPtr layout
    if again = some count then
      pure { walk.tail with findLen := take.toUInt8, findFlags := walk.flags, findValid := 1 }
    else pure { zeroFindCells walk.tail with findFlags := FindFlag.changedCount }

def adapterEmitFind (facts : ReturnFacts) (descriptor : UInt32) (row : ObjectDescriptorWire)
    (layout : LinuxLayout) (side : ObjectStart) (tail : ObjectCallWire) :
    Reading (Option ObjectCallWire) := do
  if !facts.joined then pure none
  else if side.phase ≠ Phase.returning ∨ side.descriptorIndex ≠ descriptor then pure none
  else if row.function ≠ descriptor - 1 then pure none
  else if row.action ≠ ActionCode.find then pure (some tail)
  else if facts.rv ≠ 0 then pure (some tail)
  else if side.findCountPtr = 0 ∨ (targetWordEnd side.findCountPtr layout).isNone then
    pure (some { tail with findFlags := FindFlag.invalidCount })
  else
    match ← readWord side.findCountPtr layout with
    | none => pure (some { tail with findFlags := FindFlag.invalidCount })
    | some count =>
      match findRefusal side layout count with
      | some flag => pure (some { tail with findFlags := flag })
      | none => some <$> emitElements side layout count tail

/-! ## Return: attributes -/

def ReturnAuthority.authorized : ReturnAuthority where
  ownerLive := true
  phaseReady := true
  continuityJoined := true

def adapterEmitGetAttributes (wired : Bool) (facts : ReturnFacts) (descriptor : UInt32)
    (row : ObjectDescriptorWire) (layout : LinuxLayout) (side : ObjectStart) (tail : ObjectCallWire)
    : Reading (Option ObjectCallWire) := do
  if !facts.joined then pure none
  else if side.phase ≠ Phase.returning ∨ side.descriptorIndex ≠ descriptor then pure none
  else if !rowAccepted row descriptor then pure none
  else if row.action ≠ ActionCode.get then pure (some tail)
  else if !returnAcceptsGetResults facts.rv then pure (some tail)
  else if !wired then
    pure (some { tail with
      resultAttributes := { tail.resultAttributes with flags := AttrListFlag.uninspected } })
  else
    let (list, contributed) ← captureGetReturnInto build side facts.rv .authorized layout
      tail.resultAttributes
    pure (some { tail with
      resultAttributes := list
      flags := if contributed ≠ 0 then tail.flags ||| contributed else tail.flags })

/-- The return steps: the fill, the tail, then the two emissions. -/
def objectReturn (wired : Bool) (facts : ReturnFacts) (descriptor : UInt32)
    (row : ObjectDescriptorWire) (layout : LinuxLayout) (side : ObjectStart) :
    Reading (Option ObjectCallWire) :=
  andThen (adapterFillReturn facts row layout side) fun side =>
  andThen (pure (adapterTailFill wired descriptor row side)) fun tail =>
  andThen (adapterEmitFind facts descriptor row layout side tail) fun tail =>
  adapterEmitGetAttributes build wired facts descriptor row layout side tail

end P11Scope.Capture
