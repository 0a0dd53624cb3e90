import P11Scope.Vocabulary
import P11Scope.Lib.Asking

/-!
# Object capture: policy, spans and reads

The attribute vocabulary, checked address arithmetic and the two kinds of read
that the object protocols make in the memory of the observed process.
-/

namespace P11Scope.Capture

open Lib

/-! ## Layouts and attribute kinds -/

inductive LinuxLayout where
  | lp64
  | ilp32
  deriving DecidableEq, Repr

def LinuxLayout.wordBytes : LinuxLayout → UInt64
  | .lp64 => 8
  | .ilp32 => 4

/-- The entire allowed attribute-selector vocabulary. -/
inductive SafeAttributeKind where
  | objectClass
  | keyType
  | token
  | valueLen
  | modulusBits
  | ecParams
  deriving DecidableEq, Repr

def safeAttributeKind (raw : UInt64) : Option SafeAttributeKind :=
  if raw = 0x0000 then some .objectClass
  else if raw = 0x0001 then some .token
  else if raw = 0x0100 then some .keyType
  else if raw = 0x0121 then some .modulusBits
  else if raw = 0x0161 then some .valueLen
  else if raw = 0x0180 then some .ecParams
  else none

variable (kind : SafeAttributeKind)

def validSafeAttributeLength (len : UInt64) (layout : LinuxLayout) : Bool :=
  match kind with
  | .token => len = 1
  | .ecParams => len = 7 || len = 10
  | _ => len = layout.wordBytes

/-- The approved values of each scalar kind. -/
def approvedScalars : SafeAttributeKind → List UInt64
  | .objectClass => [0, 1, 2, 3, 4]
  | .keyType => [0x00, 0x01, 0x02, 0x03, 0x04, 0x10, 0x1f, 0x40, 0x41]
  | .token => [0, 1]
  | .valueLen => [16, 24, 32]
  | .modulusBits => [1024, 2048, 3072, 4096, 8192]
  | .ecParams => []

def classifyAttributeScalar (value : UInt64) : Option UInt16 :=
  if value ∈ approvedScalars kind then some value.toUInt16 else none

/-- Exact complete-byte equality only. -/
def classifyEcParams (bytes : List UInt8) : Option SafeCurve :=
  if bytes = [0x06, 0x08, 0x2a, 0x86, 0x48, 0xce, 0x3d, 0x03, 0x01, 0x07] then some .secp256r1
  else if bytes = [0x06, 0x05, 0x2b, 0x81, 0x04, 0x00, 0x22] then some .secp384r1
  else if bytes = [0x06, 0x05, 0x2b, 0x81, 0x04, 0x00, 0x23] then some .secp521r1
  else none

def safeCurveCode : SafeCurve → UInt16
  | .secp256r1 => 1
  | .secp384r1 => 2
  | .secp521r1 => 3

def safeKindCode : SafeAttributeKind → UInt8
  | .objectClass => 1
  | .keyType => 2
  | .token => 3
  | .valueLen => 4
  | .modulusBits => 5
  | .ecParams => 6

def kindFromCode (code : UInt8) : Option SafeAttributeKind :=
  if code = 1 then some .objectClass
  else if code = 2 then some .keyType
  else if code = 3 then some .token
  else if code = 4 then some .valueLen
  else if code = 5 then some .modulusBits
  else if code = 6 then some .ecParams
  else none

/-- The single exact selector of a kind. -/
def selectorForKind : SafeAttributeKind → UInt64
  | .objectClass => 0x0000
  | .keyType => 0x0100
  | .token => 0x0001
  | .valueLen => 0x0161
  | .modulusBits => 0x0121
  | .ecParams => 0x0180

/-- Membership of the consecutive kind codes by one subtraction. -/
def slotKindSelected (code : UInt8) : Bool := code - 1 < 6

def minExactLen (layout : LinuxLayout) : UInt64 :=
  match kind with
  | .token => 1
  | .ecParams => 7
  | _ => layout.wordBytes

/-- The all-ones length that marks unavailable information. -/
def unavailableLen : LinuxLayout → UInt64
  | .lp64 => 0xFFFFFFFFFFFFFFFF
  | .ilp32 => 0xFFFFFFFF

@[simp]
theorem kindFromCode_safeKindCode : kindFromCode (safeKindCode kind) = some kind := by
  cases kind <;> rfl

theorem slotKindSelected_iff (code : UInt8) :
    slotKindSelected code = (kindFromCode code).isSome := by
  revert code
  decide +kernel

/-- A selector names a kind exactly when it is the kind's own. -/
theorem safeAttributeKind_eq_some_iff {raw : UInt64} {kind : SafeAttributeKind} :
    safeAttributeKind raw = some kind ↔ raw = selectorForKind kind := by
  constructor
  · intro named
    unfold safeAttributeKind at named
    repeat' split at named
    all_goals cases named
    all_goals assumption
  · intro same
    subst same
    cases kind <;> rfl

/-! ## Finite codes -/

namespace AttrStatus

def absent : UInt8 := 0
def value : UInt8 := 1
def unsupported : UInt8 := 2
def unreadable : UInt8 := 3
def sizeOnly : UInt8 := 4
def unavailable : UInt8 := 5
def invalidLength : UInt8 := 6
def changed : UInt8 := 7
def aliased : UInt8 := 8
def invalidSpan : UInt8 := 9
def insufficientCapacity : UInt8 := 10

end AttrStatus

namespace AttrListFlag

def present : UInt8 := 1
def truncated : UInt8 := 2
def headerReadFailure : UInt8 := 4
def invalidSpan : UInt8 := 8
def uninspected : UInt8 := 16

end AttrListFlag

namespace ObjectFlag

def argReadFailure : UInt32 := 1
def unavailableResult : UInt32 := 2
def aliased : UInt32 := 4
def duplicateResult : UInt32 := 8
def changedMetadata : UInt32 := 16
def partialResult : UInt32 := 32
def nullMechanismCancel : UInt32 := 64
def captureUnavailable : UInt32 := 128

end ObjectFlag

def maxAttributeSlots : UInt64 := 8

end P11Scope.Capture
