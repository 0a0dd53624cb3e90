import P11Scope.Vocabulary

/-!
# The function catalog

The 104 published functions in function-list order, each with its capture and
state-machine descriptor.  A function's catalog id is its position.
-/

namespace P11Scope.Kinds

def session (operations : UInt16) (transition : Transition) : SlotSemantics :=
  { SlotSemantics.countOnly with
    operations := operations, transition := transition, sessionArg := 0 }

def init (operation : UInt16) (nullCancel : Bool) : SlotSemantics :=
  { SlotSemantics.countOnly with
    operations := operation
    transition := .initializeOperation
    semanticFlags := if nullCancel then SemanticFlags.nullMechanismCancel else 0
    sessionArg := 0
    mechanismArg := 1 }

def lifecycleOnly (action : Lifecycle) : SlotSemantics :=
  { SlotSemantics.countOnly with lifecycle := action }

/-- A lifecycle action whose first argument is the session handle. -/
def sessionLifecycle (action : Lifecycle) : SlotSemantics :=
  { lifecycleOnly action with sessionArg := 0 }

/-- A call that only names its PKCS#11 slot. -/
def slotArgument : SlotSemantics :=
  { SlotSemantics.countOnly with slotArg := 0 }

def directOperation (kind : Direct) : SlotSemantics :=
  { SlotSemantics.countOnly with direct := kind, sessionArg := 0, mechanismArg := 1 }

def withTemplate (value : SlotSemantics) (template count : UInt8) : SlotSemantics :=
  { value with template0Arg := template, templateCount0Arg := count }

def withOutput (value : SlotSemantics) (output : UInt8) : SlotSemantics :=
  { value with outputArg := output }

/-- The published functions in function-list order. -/
def catalog : List (String × SlotSemantics) :=
  [("C_Initialize", lifecycleOnly .cryptokiInitialize),
   ("C_Finalize", lifecycleOnly .finalize),
   ("C_GetInfo", .countOnly),
   ("C_GetFunctionList", .countOnly),
   ("C_GetSlotList", .countOnly),
   ("C_GetSlotInfo", slotArgument),
   ("C_GetTokenInfo", slotArgument),
   ("C_GetMechanismList", slotArgument),
   ("C_GetMechanismInfo", slotArgument),
   ("C_InitToken", slotArgument),
   ("C_InitPIN", session 0 .none),
   ("C_SetPIN", session 0 .none),
   ("C_OpenSession", { lifecycleOnly .openSession with
      slotArg := 0, flagsArg := 1, outputArg := 4 }),
   ("C_CloseSession", sessionLifecycle .closeSession),
   ("C_CloseAllSessions", { lifecycleOnly .closeAllSessions with slotArg := 0 }),
   ("C_GetSessionInfo", session 0 .none),
   ("C_GetOperationState", session 0 .none),
   ("C_SetOperationState", sessionLifecycle .setOperationState),
   ("C_Login", { sessionLifecycle .login with userTypeArg := 1 }),
   ("C_Logout", sessionLifecycle .logout),
   ("C_CreateObject", withTemplate (session 0 .none) 1 2),
   ("C_CopyObject", withTemplate (session 0 .none) 2 3),
   ("C_DestroyObject", session 0 .none),
   ("C_GetObjectSize", session 0 .none),
   ("C_GetAttributeValue", { withTemplate (session 0 .none) 2 3 with
      semanticFlags := SemanticFlags.template0TypesOnly }),
   ("C_SetAttributeValue", withTemplate (session 0 .none) 2 3),
   ("C_FindObjectsInit", { withTemplate (session 0 .none) 1 2 with lifecycle := .findInit }),
   ("C_FindObjects", sessionLifecycle .findOperation),
   ("C_FindObjectsFinal", sessionLifecycle .findFinal),
   ("C_EncryptInit", init Operation.encrypt true),
   ("C_Encrypt", withOutput (session Operation.encrypt .finishWithOutput) 3),
   ("C_EncryptUpdate", withOutput (session Operation.encrypt .updateWithOutput) 3),
   ("C_EncryptFinal", withOutput (session Operation.encrypt .finishWithOutput) 1),
   ("C_DecryptInit", init Operation.decrypt true),
   ("C_Decrypt", withOutput (session Operation.decrypt .finishWithOutput) 3),
   ("C_DecryptUpdate", withOutput (session Operation.decrypt .updateWithOutput) 3),
   ("C_DecryptFinal", withOutput (session Operation.decrypt .finishWithOutput) 1),
   ("C_DigestInit", init Operation.digest true),
   ("C_Digest", withOutput (session Operation.digest .finishWithOutput) 3),
   ("C_DigestUpdate", session Operation.digest .continue),
   ("C_DigestKey", session Operation.digest .retainAlways),
   ("C_DigestFinal", withOutput (session Operation.digest .finishWithOutput) 1),
   ("C_SignInit", init Operation.sign true),
   ("C_Sign", withOutput (session Operation.sign .finishWithOutput) 3),
   ("C_SignUpdate", session Operation.sign .continue),
   ("C_SignFinal", withOutput (session Operation.sign .finishWithOutput) 1),
   ("C_SignRecoverInit", init Operation.signRecover true),
   ("C_SignRecover", withOutput (session Operation.signRecover .finishWithOutput) 3),
   ("C_VerifyInit", init Operation.verify true),
   ("C_Verify", session Operation.verify .finishAlways),
   ("C_VerifyUpdate", session Operation.verify .continue),
   ("C_VerifyFinal", session Operation.verify .finishAlways),
   ("C_VerifyRecoverInit", init Operation.verifyRecover true),
   ("C_VerifyRecover", withOutput (session Operation.verifyRecover .finishWithOutput) 3),
   ("C_DigestEncryptUpdate",
      withOutput (session (Operation.digest ||| Operation.encrypt) .retainAlways) 3),
   ("C_DecryptDigestUpdate",
      withOutput (session (Operation.decrypt ||| Operation.digest) .retainAlways) 3),
   ("C_SignEncryptUpdate",
      withOutput (session (Operation.sign ||| Operation.encrypt) .retainAlways) 3),
   ("C_DecryptVerifyUpdate",
      withOutput (session (Operation.decrypt ||| Operation.verify) .retainAlways) 3),
   ("C_GenerateKey", withTemplate (directOperation .generateKey) 2 3),
   ("C_GenerateKeyPair", { withTemplate (directOperation .generateKeyPair) 2 3 with
      template1Arg := 4, templateCount1Arg := 5 }),
   ("C_WrapKey", withOutput (directOperation .wrap) 4),
   ("C_UnwrapKey", withTemplate (directOperation .unwrap) 5 6),
   ("C_DeriveKey", withTemplate (directOperation .derive) 3 4),
   ("C_SeedRandom", session 0 .none),
   ("C_GenerateRandom", session 0 .none),
   ("C_GetFunctionStatus", session 0 .none),
   ("C_CancelFunction", session 0 .none),
   ("C_WaitForSlotEvent", { SlotSemantics.countOnly with flagsArg := 0 }),
   ("C_GetInterfaceList", .countOnly),
   ("C_GetInterface", .countOnly),
   ("C_LoginUser", { sessionLifecycle .login with userTypeArg := 1 }),
   ("C_SessionCancel", { sessionLifecycle .sessionCancel with flagsArg := 1 }),
   ("C_MessageEncryptInit", init Operation.messageEncrypt true),
   ("C_EncryptMessage", session Operation.messageEncrypt .retainAlways),
   ("C_EncryptMessageBegin", session Operation.messageEncrypt .retainAlways),
   ("C_EncryptMessageNext", session Operation.messageEncrypt .retainAlways),
   ("C_MessageEncryptFinal", session Operation.messageEncrypt .finishOnSuccess),
   ("C_MessageDecryptInit", init Operation.messageDecrypt false),
   ("C_DecryptMessage", session Operation.messageDecrypt .retainAlways),
   ("C_DecryptMessageBegin", session Operation.messageDecrypt .retainAlways),
   ("C_DecryptMessageNext", session Operation.messageDecrypt .retainAlways),
   ("C_MessageDecryptFinal", session Operation.messageDecrypt .finishOnSuccess),
   ("C_MessageSignInit", init Operation.messageSign false),
   ("C_SignMessage", session Operation.messageSign .retainAlways),
   ("C_SignMessageBegin", session Operation.messageSign .retainAlways),
   ("C_SignMessageNext", session Operation.messageSign .retainAlways),
   ("C_MessageSignFinal", session Operation.messageSign .finishOnSuccess),
   ("C_MessageVerifyInit", init Operation.messageVerify false),
   ("C_VerifyMessage", session Operation.messageVerify .retainAlways),
   ("C_VerifyMessageBegin", session Operation.messageVerify .retainAlways),
   ("C_VerifyMessageNext", session Operation.messageVerify .retainAlways),
   ("C_MessageVerifyFinal", session Operation.messageVerify .finishOnSuccess),
   ("C_EncapsulateKey", withOutput (withTemplate (directOperation .encapsulate) 3 4) 5),
   ("C_DecapsulateKey", withTemplate (directOperation .decapsulate) 3 4),
   ("C_VerifySignatureInit", init Operation.verify true),
   ("C_VerifySignature", session Operation.verify .finishAlways),
   ("C_VerifySignatureUpdate", session Operation.verify .continue),
   ("C_VerifySignatureFinal", session Operation.verify .finishAlways),
   ("C_GetSessionValidationFlags", session 0 .none),
   ("C_AsyncComplete", { sessionLifecycle .asyncComplete with asyncNameArg := 1 }),
   ("C_AsyncGetID", { sessionLifecycle .asyncGetId with
      asyncNameArg := 1, asyncValueArg := 2 }),
   ("C_AsyncJoin", { sessionLifecycle .asyncJoin with
      asyncNameArg := 1, asyncValueArg := 2 }),
   ("C_WrapKeyAuthenticated", withOutput (directOperation .wrapAuthenticated) 6),
   ("C_UnwrapKeyAuthenticated", withTemplate (directOperation .unwrapAuthenticated) 5 6)]

/-- The descriptor of a published function name. -/
def descriptor (name : String) : Option SlotSemantics :=
  (catalog.find? fun entry => entry.1 = name).map Prod.snd

/-- The catalog position of a published function name. -/
def functionId (name : String) : Option UInt32 :=
  (catalog.findIdx? fun entry => entry.1 = name).map UInt32.ofNat

/-- `descriptor(name).unwrap_or(COUNT_ONLY)`, as every reducer reads it. -/
def descriptorOrCountOnly (name : String) : SlotSemantics :=
  (descriptor name).getD .countOnly

/-! ## Facts about the whole catalog -/

/-- A descriptor acts in one way only: through its operation bits, directly, or
through a lifecycle action. -/
structure SingleRole (value : SlotSemantics) : Prop where
  operations_lifecycle : value.operations ≠ 0 → value.lifecycle = .none
  operations_direct : value.operations ≠ 0 → value.direct = .none
  direct_lifecycle : value.direct ≠ .none → value.lifecycle = .none
  initialize_operations :
    value.transition = .initializeOperation → (operationBits value.operations).length = 1

instance (value : SlotSemantics) : Decidable (SingleRole value) :=
  decidable_of_iff
    ((value.operations ≠ 0 → value.lifecycle = .none) ∧
      (value.operations ≠ 0 → value.direct = .none) ∧
      (value.direct ≠ .none → value.lifecycle = .none) ∧
      (value.transition = .initializeOperation → (operationBits value.operations).length = 1))
    ⟨fun ⟨a, b, c, d⟩ => ⟨a, b, c, d⟩, fun ⟨a, b, c, d⟩ => ⟨a, b, c, d⟩⟩

/-- What holds of every catalog row and of the count-only descriptor holds of
every descriptor a reducer reads. -/
theorem descriptorOrCountOnly_property {property : SlotSemantics → Prop}
    (rows : ∀ entry ∈ catalog, property entry.2) (fallback : property .countOnly)
    (name : String) : property (descriptorOrCountOnly name) := by
  unfold descriptorOrCountOnly descriptor
  cases found : catalog.find? (fun entry => entry.1 = name) with
  | none => exact fallback
  | some entry => exact rows entry (List.mem_of_find?_eq_some found)

theorem descriptorOrCountOnly_singleRole (name : String) :
    SingleRole (descriptorOrCountOnly name) := by
  refine descriptorOrCountOnly_property ?_ (by decide) name
  decide

example : functionId "C_GetFunctionStatus" = some 65 := by decide

end P11Scope.Kinds
