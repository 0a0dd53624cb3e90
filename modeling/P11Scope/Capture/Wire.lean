import P11Scope.Capture.Reads

/-!
# Object wire records

The owner row that a call keeps between entry and return.  A retained slot holds
the words of one selected attribute header.
-/

namespace P11Scope.Capture

/-! ## Return authority -/

namespace GetRv

def ok : UInt64 := 0
def attributeSensitive : UInt64 := 17
def attributeTypeInvalid : UInt64 := 18
def bufferTooSmall : UInt64 := 336

end GetRv

/-- The return codes whose per-attribute results are processed. -/
def returnAcceptsGetResults (rv : UInt64) : Bool :=
  rv = GetRv.ok || rv = GetRv.attributeSensitive || rv = GetRv.attributeTypeInvalid ||
    rv = GetRv.bufferTooSmall

structure ReturnAuthority where
  ownerLive : Bool
  phaseReady : Bool
  continuityJoined : Bool
  deriving DecidableEq, Repr

def ReturnAuthority.isAuthorized (authority : ReturnAuthority) : Bool :=
  authority.ownerLive && authority.phaseReady && authority.continuityJoined

/-! ## The owner row -/

structure ImageIdentity where
  taskCookie : UInt64 := 0
  execId : UInt64 := 0
  deriving DecidableEq, Repr

/-- One retained attribute header. -/
structure ObjectAttributeSlot where
  valuePtr : UInt64 := 0
  entryCapacity : UInt64 := 0
  returnedLen : UInt64 := 0
  kind : UInt8 := 0
  slotIndex : UInt8 := 0
  status : UInt8 := 0
  reserved : Vector UInt8 5 := Vector.replicate 5 0
  deriving DecidableEq, Repr

/-- The owner row of one call. -/
structure ObjectStart where
  image : ImageIdentity := {}
  entryNs : UInt64 := 0
  descriptorIndex : UInt32 := 0
  layout : UInt8 := 0
  action : UInt8 := 0
  derive : UInt8 := 0
  phase : UInt8 := 0
  inputs : Vector UInt64 2 := Vector.replicate 2 0
  resultPtrs : Vector UInt64 2 := Vector.replicate 2 0
  getTemplateBase : UInt64 := 0
  inspectedHeaderEnd : UInt64 := 0
  findCapacity : UInt64 := 0
  findCountPtr : UInt64 := 0
  slots : Vector ObjectAttributeSlot 8 := Vector.replicate 8 {}
  requested : Vector ObjectAttributeListWire 2 := Vector.replicate 2 {}
  inputStatuses : Vector UInt8 2 := Vector.replicate 2 0
  resultStatuses : Vector UInt8 2 := Vector.replicate 2 0
  flags : UInt16 := 0
  getInspected : UInt8 := 0
  reserved : UInt8 := 0
  deriving DecidableEq, Repr

/-- The private bits of the four entry-list flags. -/
def getEntryFlagsShift : UInt16 := 8
def getEntryFlagsMask : UInt16 := 0x0F <<< getEntryFlagsShift

/-- The entry never stores the present flag; its bit marks a list that was not
inspected. -/
def getEntryUninspected : UInt16 := 1 <<< getEntryFlagsShift

end P11Scope.Capture
