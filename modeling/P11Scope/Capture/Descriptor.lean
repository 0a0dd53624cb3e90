import P11Scope.Capture.Wire

/-!
# Object protocol rows

The frozen policy names, for each function of the catalog, which arguments an
object call may contribute.  A canonical row is the policy's wire encoding.  The
catalog's own table of function names belongs to another crate and stays a
parameter.
-/

namespace P11Scope.Capture

/-! ## The policy -/

inductive ObjectAction where
  | create
  | copy
  | generate
  | generatePair
  | derive
  | unwrap
  | destroy
  | access
  | operationImport
  | find
  | getAttributes
  | setAttributes
  | encapsulate
  | decapsulate
  deriving DecidableEq, Repr

inductive ResultProtocolGuard where
  | namedFunction
  | scalarDeriveMechanism
  deriving DecidableEq, Repr

/-- Argument positions; `argNone` marks an unused one. -/
structure ObjectCaptureDescriptor where
  inputArgs : Vector UInt8 2 := #v[argNone, argNone]
  resultPointerArgs : Vector UInt8 2 := #v[argNone, argNone]
  templateArgs : Vector (UInt8 × UInt8) 2 := #v[(argNone, argNone), (argNone, argNone)]
  findCapacityArg : UInt8 := argNone
  findCountPtrArg : UInt8 := argNone
  action : ObjectAction
  resultProtocolGuard : ResultProtocolGuard := .namedFunction
  deriving DecidableEq, Repr

/-- The named combinations; every other name has no object protocol. -/
def namedDescriptor (name : String) : Option ObjectCaptureDescriptor :=
  match name with
  | "C_CreateObject" => some
      { action := .create, resultPointerArgs := #v[3, argNone]
        templateArgs := #v[(1, 2), (argNone, argNone)] }
  | "C_CopyObject" => some
      { action := .copy, inputArgs := #v[1, argNone], resultPointerArgs := #v[4, argNone]
        templateArgs := #v[(2, 3), (argNone, argNone)] }
  | "C_GenerateKey" => some
      { action := .generate, resultPointerArgs := #v[4, argNone]
        templateArgs := #v[(2, 3), (argNone, argNone)] }
  | "C_GenerateKeyPair" => some
      { action := .generatePair, resultPointerArgs := #v[6, 7]
        templateArgs := #v[(2, 3), (4, 5)] }
  | "C_DeriveKey" => some
      { action := .derive, inputArgs := #v[2, argNone], resultPointerArgs := #v[5, argNone]
        templateArgs := #v[(3, 4), (argNone, argNone)]
        resultProtocolGuard := .scalarDeriveMechanism }
  | "C_UnwrapKey" => some
      { action := .unwrap, inputArgs := #v[2, argNone], resultPointerArgs := #v[7, argNone]
        templateArgs := #v[(5, 6), (argNone, argNone)] }
  | "C_EncapsulateKey" => some
      { action := .encapsulate, inputArgs := #v[2, argNone]
        resultPointerArgs := #v[7, argNone] }
  | "C_DecapsulateKey" => some
      { action := .decapsulate, inputArgs := #v[2, argNone]
        resultPointerArgs := #v[7, argNone] }
  | "C_DestroyObject" => some { action := .destroy, inputArgs := #v[1, argNone] }
  | "C_GetObjectSize" | "C_DigestKey" => some { action := .access, inputArgs := #v[1, argNone] }
  | "C_GetAttributeValue" => some
      { action := .getAttributes, inputArgs := #v[1, argNone]
        templateArgs := #v[(2, 3), (argNone, argNone)] }
  | "C_SetAttributeValue" => some { action := .setAttributes, inputArgs := #v[1, argNone] }
  | "C_EncryptInit" | "C_DecryptInit" | "C_SignInit" | "C_SignRecoverInit" | "C_VerifyInit"
  | "C_VerifyRecoverInit" | "C_MessageEncryptInit" | "C_MessageDecryptInit"
  | "C_MessageSignInit" | "C_MessageVerifyInit" | "C_VerifySignatureInit" => some
      { action := .access, inputArgs := #v[2, argNone] }
  | "C_WrapKey" => some { action := .access, inputArgs := #v[2, 3] }
  | "C_SetOperationState" => some { action := .operationImport, inputArgs := #v[3, 4] }
  | "C_FindObjects" => some
      { action := .find, resultPointerArgs := #v[1, argNone], findCapacityArg := 2
        findCountPtrArg := 3 }
  | _ => none

variable (functionName : UInt32 → Option String)

/-- Unknown ordinals and unlisted names fail closed. -/
def objectDescriptor (function : UInt32) : Option ObjectCaptureDescriptor :=
  (functionName function).bind namedDescriptor

/-! ## Canonical rows -/

namespace ActionCode

def none : UInt8 := 0
def create : UInt8 := 1
def copy : UInt8 := 2
def generate : UInt8 := 3
def pair : UInt8 := 4
def derive : UInt8 := 5
def unwrap : UInt8 := 6
def destroy : UInt8 := 7
def access : UInt8 := 8
def importState : UInt8 := 9
def find : UInt8 := 10
def get : UInt8 := 11
def set : UInt8 := 12
def encapsulate : UInt8 := 13
def decapsulate : UInt8 := 14
def max : UInt8 := decapsulate

end ActionCode

namespace GuardCode

def none : UInt8 := 0
def named : UInt8 := 1
def scalarDerive : UInt8 := 2

end GuardCode

def ObjectAction.code : ObjectAction → UInt8
  | .create => ActionCode.create
  | .copy => ActionCode.copy
  | .generate => ActionCode.generate
  | .generatePair => ActionCode.pair
  | .derive => ActionCode.derive
  | .unwrap => ActionCode.unwrap
  | .encapsulate => ActionCode.encapsulate
  | .decapsulate => ActionCode.decapsulate
  | .destroy => ActionCode.destroy
  | .access => ActionCode.access
  | .operationImport => ActionCode.importState
  | .find => ActionCode.find
  | .getAttributes => ActionCode.get
  | .setAttributes => ActionCode.set

def ResultProtocolGuard.code : ResultProtocolGuard → UInt8
  | .namedFunction => GuardCode.named
  | .scalarDeriveMechanism => GuardCode.scalarDerive

/-- One frozen protocol row. -/
structure ObjectDescriptorWire where
  function : UInt32 := functionNone
  inputArgs : Vector UInt8 2 := #v[argNone, argNone]
  resultArgs : Vector UInt8 2 := #v[argNone, argNone]
  templateArgs : Vector UInt8 4 := #v[argNone, argNone, argNone, argNone]
  findCapacityArg : UInt8 := argNone
  findCountArg : UInt8 := argNone
  action : UInt8 := ActionCode.none
  guard : UInt8 := GuardCode.none
  deriving DecidableEq, Repr

def noneObjectWire : ObjectDescriptorWire := {}

/-- Canonical wire encoding of one function's protocol. -/
def canonicalObjectWire (function : UInt32) : ObjectDescriptorWire :=
  match objectDescriptor functionName function with
  | none => noneObjectWire
  | some policy =>
    { function := function
      inputArgs := policy.inputArgs
      resultArgs := policy.resultPointerArgs
      templateArgs := #v[(getElem policy.templateArgs 0 Nat.two_pos).1,
        (getElem policy.templateArgs 0 Nat.two_pos).2,
        (getElem policy.templateArgs 1 Nat.one_lt_two).1,
        (getElem policy.templateArgs 1 Nat.one_lt_two).2]
      findCapacityArg := policy.findCapacityArg
      findCountArg := policy.findCountPtrArg
      action := policy.action.code
      guard := policy.resultProtocolGuard.code }

def maxDescriptors : UInt32 := 105

/-! ## What every canonical row satisfies -/

theorem zero_lt_four : 0 < 4 := by decide

theorem one_lt_four : 1 < 4 := by decide

theorem two_lt_four : 2 < 4 := by decide

theorem three_lt_four : 3 < 4 := by decide

/-- Both positions of a template pair are used, or neither. -/
def ObjectDescriptorWire.pairPresent (row : ObjectDescriptorWire) (pair : Fin 2) : Bool :=
  match pair with
  | 0 => row.templateArgs[0] ≠ argNone && row.templateArgs[1] ≠ argNone
  | 1 => row.templateArgs[2] ≠ argNone && row.templateArgs[3] ≠ argNone

/-- What the emission relies on beyond the checks it makes itself. -/
structure CanonicalRow (row : ObjectDescriptorWire) : Prop where
  firstPair : row.templateArgs[0] = argNone ↔ row.templateArgs[1] = argNone
  secondPair : row.templateArgs[2] = argNone ↔ row.templateArgs[3] = argNone
  findResults : row.action = ActionCode.find →
    getElem row.resultArgs 0 Nat.two_pos ≠ argNone ∧
      getElem row.resultArgs 1 Nat.one_lt_two = argNone

/-- The same facts about the policy a row encodes. -/
structure SoundPolicy (policy : ObjectCaptureDescriptor) : Prop where
  firstPair : (getElem policy.templateArgs 0 Nat.two_pos).1 = argNone ↔
    (getElem policy.templateArgs 0 Nat.two_pos).2 = argNone
  secondPair : (getElem policy.templateArgs 1 Nat.one_lt_two).1 = argNone ↔
    (getElem policy.templateArgs 1 Nat.one_lt_two).2 = argNone
  findResults : policy.action = .find →
    getElem policy.resultPointerArgs 0 Nat.two_pos ≠ argNone ∧
      getElem policy.resultPointerArgs 1 Nat.one_lt_two = argNone

theorem namedDescriptor_sound {name : String} {policy : ObjectCaptureDescriptor}
    (named : namedDescriptor name = some policy) : SoundPolicy policy := by
  unfold namedDescriptor at named
  split at named <;> cases named <;> exact ⟨by decide, by decide, by decide⟩

theorem ObjectAction.eq_find {action : ObjectAction} (coded : action.code = ActionCode.find) :
    action = .find := by
  revert coded
  cases action <;> decide

theorem canonicalObjectWire_canonical (function : UInt32) :
    CanonicalRow (canonicalObjectWire functionName function) := by
  unfold canonicalObjectWire
  cases described : objectDescriptor functionName function with
  | none =>
    have empty : CanonicalRow noneObjectWire := ⟨by decide, by decide, by decide⟩
    exact empty
  | some policy =>
    obtain ⟨name, _, named⟩ := Option.bind_eq_some_iff.mp described
    have sound := namedDescriptor_sound named
    exact ⟨sound.firstPair, sound.secondPair, fun finds =>
      sound.findResults (ObjectAction.eq_find finds)⟩

end P11Scope.Capture
