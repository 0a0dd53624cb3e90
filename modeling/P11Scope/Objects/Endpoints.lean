import P11Scope.Capture.Descriptor
import P11Scope.Objects.Vocabulary

/-!
# Endpoint classification

What the object model makes of a catalog function, and what the journal owes it:
full tracking, negative uncertainty, or nothing.
-/

namespace P11Scope.Objects

variable (function : UInt32)

/-- The catalog name at a function's position. -/
def functionName : Option String :=
  Kinds.catalog[function.toNat]?.map Prod.fst

/-- `DESCRIPTORS.get(function + 1)`: the table starts with the count-only row. -/
def slotSemantics : Option SlotSemantics :=
  Kinds.catalog[function.toNat]?.map Prod.snd

/-- Calls that mint no references and change nothing the proof relies on but take
part in its ordering. -/
def neutralS1Functions : List String :=
  ["C_DigestInit", "C_Encrypt", "C_Decrypt", "C_Digest", "C_Sign", "C_SignRecover", "C_Verify",
   "C_VerifyRecover", "C_EncryptUpdate", "C_DecryptUpdate", "C_DigestUpdate", "C_SignUpdate",
   "C_VerifyUpdate", "C_EncryptFinal", "C_DecryptFinal", "C_DigestFinal", "C_SignFinal",
   "C_VerifyFinal", "C_DigestEncryptUpdate", "C_DecryptDigestUpdate", "C_SignEncryptUpdate",
   "C_DecryptVerifyUpdate", "C_EncryptMessage", "C_EncryptMessageBegin", "C_EncryptMessageNext",
   "C_DecryptMessage", "C_DecryptMessageBegin", "C_DecryptMessageNext", "C_SignMessage",
   "C_SignMessageBegin", "C_SignMessageNext", "C_VerifyMessage", "C_VerifyMessageBegin",
   "C_VerifyMessageNext", "C_MessageEncryptFinal", "C_MessageDecryptFinal",
   "C_MessageSignFinal", "C_MessageVerifyFinal", "C_VerifySignature",
   "C_VerifySignatureUpdate", "C_VerifySignatureFinal"]

def isNeutralFunction : Bool :=
  match functionName function with
  | none => false
  | some name => neutralS1Functions.contains name

/-- What the model does with a function it accepts. -/
inductive CallKind where
  | object (action : Capture.ObjectAction)
  | neutral
  | lifecycle (action : Lifecycle)
  deriving DecidableEq, Repr

def modeledLifecycle : Lifecycle → Bool
  | .openSession | .closeSession | .closeAllSessions | .finalize | .login | .logout | .findInit
  | .findFinal | .sessionCancel | .cryptokiInitialize => true
  | _ => false

def callKind : Option CallKind :=
  match Capture.objectDescriptor functionName function with
  | some descriptor => some (.object descriptor.action)
  | none =>
    if isNeutralFunction function then some .neutral
    else do
      let slot ← Kinds.descriptor (← functionName function)
      if modeledLifecycle slot.lifecycle then some (.lifecycle slot.lifecycle) else none

def isModeledFunction : Bool := (callKind function).isSome

inductive EndpointClass where
  | modeledAffecting
  | negativeOnlyAffecting
  | provedIrrelevant
  deriving DecidableEq, Repr

def negativeOnlyFunctions : List String :=
  ["C_InitToken", "C_WrapKeyAuthenticated", "C_UnwrapKeyAuthenticated", "C_AsyncComplete",
   "C_AsyncGetID", "C_AsyncJoin"]

def provedIrrelevantFunctions : List String :=
  ["C_GetInfo", "C_GetFunctionList", "C_GetSlotList", "C_GetSlotInfo", "C_GetTokenInfo",
   "C_GetMechanismList", "C_GetMechanismInfo", "C_InitPIN", "C_SetPIN", "C_GetSessionInfo",
   "C_GetOperationState", "C_GenerateRandom", "C_SeedRandom", "C_GetFunctionStatus",
   "C_CancelFunction", "C_WaitForSlotEvent", "C_GetInterfaceList", "C_GetInterface",
   "C_GetSessionValidationFlags"]

/-- Unlisted names are negative-only, never irrelevant by omission. -/
def endpointClass : Option EndpointClass :=
  if isModeledFunction function then some .modeledAffecting
  else do
    let name ← functionName function
    if negativeOnlyFunctions.contains name then some .negativeOnlyAffecting
    else if provedIrrelevantFunctions.contains name then some .provedIrrelevant
    else some .negativeOnlyAffecting

end P11Scope.Objects
