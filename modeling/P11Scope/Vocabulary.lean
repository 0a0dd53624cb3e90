import Mathlib

/-!
# Shared capture vocabulary

Operation bits, transitions, lifecycle actions, direct kinds, capture bits and
return codes, together with the helpers that both semantic reducers read them
through.  Every table has the order and the texts of the source.
-/

namespace P11Scope

/-- Largest value of a 64-bit counter. -/
def u64Max : Nat := 2 ^ 64 - 1

/-- `saturating_add` on a 64-bit counter. -/
def satAdd (counter amount : Nat) : Nat := min (counter + amount) u64Max

/-- `wrapping_add(1)` on a 64-bit sequence number. -/
def wrappingSucc (counter : Nat) : Nat := (counter + 1) % 2 ^ 64

theorem satAdd_le_add (counter amount : Nat) : satAdd counter amount ≤ counter + amount :=
  Nat.min_le_left _ _

/-- A counter below its ceiling after an increment lost nothing by the increment. -/
theorem satAdd_eq_of_lt {counter amount : Nat} (unsaturated : satAdd counter amount < u64Max) :
    satAdd counter amount = counter + amount := by
  unfold satAdd at *
  omega

inductive Transition where
  | none
  | initializeOperation
  | continue
  | updateWithOutput
  | finishWithOutput
  | finishAlways
  | retainAlways
  | finishOnSuccess
  deriving DecidableEq, Repr

inductive Lifecycle where
  | none
  | openSession
  | closeSession
  | closeAllSessions
  | finalize
  | login
  | logout
  | findInit
  | findFinal
  | sessionCancel
  | setOperationState
  | asyncComplete
  | asyncGetId
  | asyncJoin
  | findOperation
  | cryptokiInitialize
  deriving DecidableEq, Repr

inductive Direct where
  | none
  | generateKey
  | generateKeyPair
  | wrap
  | unwrap
  | derive
  | encapsulate
  | decapsulate
  | wrapAuthenticated
  | unwrapAuthenticated
  deriving DecidableEq, Repr

/-- The named curves whose parameters may be published. -/
inductive SafeCurve where
  | secp256r1
  | secp384r1
  | secp521r1
  deriving DecidableEq, Repr

/-! ## Operation bits -/

namespace Operation

def digest : UInt16 := 1
def sign : UInt16 := 2
def verify : UInt16 := 4
def encrypt : UInt16 := 8
def decrypt : UInt16 := 16
def signRecover : UInt16 := 32
def verifyRecover : UInt16 := 64
def messageEncrypt : UInt16 := 128
def messageDecrypt : UInt16 := 256
def messageSign : UInt16 := 512
def messageVerify : UInt16 := 1024

end Operation

/-- No argument is captured for this descriptor field. -/
def argNone : UInt8 := 255

/-- Per-slot capture and state-machine description. -/
structure SlotSemantics where
  operations : UInt16
  transition : Transition
  lifecycle : Lifecycle
  direct : Direct
  semanticFlags : UInt8
  sessionArg : UInt8
  slotArg : UInt8
  mechanismArg : UInt8
  outputArg : UInt8
  flagsArg : UInt8
  userTypeArg : UInt8
  template0Arg : UInt8
  templateCount0Arg : UInt8
  template1Arg : UInt8
  templateCount1Arg : UInt8
  asyncNameArg : UInt8
  asyncValueArg : UInt8
  deriving DecidableEq, Repr

/-- The descriptor that claims nothing beyond the call itself. -/
def SlotSemantics.countOnly : SlotSemantics where
  operations := 0
  transition := .none
  lifecycle := .none
  direct := .none
  semanticFlags := 0
  sessionArg := argNone
  slotArg := argNone
  mechanismArg := argNone
  outputArg := argNone
  flagsArg := argNone
  userTypeArg := argNone
  template0Arg := argNone
  templateCount0Arg := argNone
  template1Arg := argNone
  templateCount1Arg := argNone
  asyncNameArg := argNone
  asyncValueArg := argNone

namespace SemanticFlags

/-- A successful NULL mechanism pointer cancels the named operation. -/
def nullMechanismCancel : UInt8 := 1

/-- Template values are outputs; only attribute types are captured. -/
def template0TypesOnly : UInt8 := 2

end SemanticFlags

/-! ## Capture bits and sentinels -/

namespace Capture

def mechanismMask : UInt32 := 3
def mechanismNone : UInt32 := 0
def mechanismNull : UInt32 := 1
def mechanismUnreadable : UInt32 := 2
def mechanismValue : UInt32 := 3
def outputMask : UInt32 := 12
def outputNone : UInt32 := 0
def outputNull : UInt32 := 4
def argReadFailure : UInt32 := 16
def asyncSession : UInt32 := 32
def asyncValueUnreadable : UInt32 := 64
def mechanismUnregistered : UInt32 := 128

end Capture

def sessionNone : UInt64 := 0xFFFFFFFFFFFFFFFF
def userTypeNone : UInt32 := 0xFFFFFFFF
def functionNone : UInt32 := 0xFFFFFFFF

namespace CkRv

def ok : UInt64 := 0
def operationNotInitialized : UInt64 := 0x91
def pinLocked : UInt64 := 0xA4
def sessionClosed : UInt64 := 0xB0
def sessionHandleInvalid : UInt64 := 0xB3
def bufferTooSmall : UInt64 := 0x150
def cryptokiNotInitialized : UInt64 := 0x190
def operationCancelFailed : UInt64 := 0x202
def pending : UInt64 := 0x204

end CkRv

/-! ## Operation and direct categories -/

/-- The operation bits with the category names both reducers record. -/
def operations : List (UInt16 × String) :=
  [(Operation.digest, "digest"),
   (Operation.sign, "sign"),
   (Operation.verify, "verify"),
   (Operation.encrypt, "encrypt"),
   (Operation.decrypt, "decrypt"),
   (Operation.signRecover, "sign_recover"),
   (Operation.verifyRecover, "verify_recover"),
   (Operation.messageEncrypt, "message_encrypt"),
   (Operation.messageDecrypt, "message_decrypt"),
   (Operation.messageSign, "message_sign"),
   (Operation.messageVerify, "message_verify")]

/-- The operation bits selected by a mask, with their category names. -/
def operationBits (mask : UInt16) : List (UInt16 × String) :=
  operations.filter fun entry => mask &&& entry.1 ≠ 0

def operationName (bit : UInt16) : Option String :=
  operations.findSome? fun entry => if entry.1 = bit then some entry.2 else none

def directName : Direct → Option String
  | .none => none
  | .generateKey => some "generate_key"
  | .generateKeyPair => some "generate_key_pair"
  | .wrap => some "wrap"
  | .unwrap => some "unwrap"
  | .derive => some "derive"
  | .encapsulate => some "encapsulate"
  | .decapsulate => some "decapsulate"
  | .wrapAuthenticated => some "wrap_authenticated"
  | .unwrapAuthenticated => some "unwrap_authenticated"

/-! ## Session cancel flags -/

namespace Ckf

def messageEncrypt : UInt64 := 0x00000002
def messageDecrypt : UInt64 := 0x00000004
def messageSign : UInt64 := 0x00000008
def messageVerify : UInt64 := 0x00000010
def findObjects : UInt64 := 0x00000040
def encrypt : UInt64 := 0x00000100
def decrypt : UInt64 := 0x00000200
def digest : UInt64 := 0x00000400
def sign : UInt64 := 0x00000800
def signRecover : UInt64 := 0x00001000
def verify : UInt64 := 0x00002000
def verifyRecover : UInt64 := 0x00004000
def generate : UInt64 := 0x00008000
def generateKeyPair : UInt64 := 0x00010000
def wrap : UInt64 := 0x00020000
def unwrap : UInt64 := 0x00040000
def derive : UInt64 := 0x00080000
def encapsulate : UInt64 := 0x10000000
def decapsulate : UInt64 := 0x20000000

end Ckf

def knownCancelFlags : UInt64 :=
  Ckf.messageEncrypt ||| Ckf.messageDecrypt ||| Ckf.messageSign ||| Ckf.messageVerify |||
    Ckf.findObjects ||| Ckf.encrypt ||| Ckf.decrypt ||| Ckf.digest ||| Ckf.sign |||
    Ckf.signRecover ||| Ckf.verify ||| Ckf.verifyRecover ||| Ckf.generate |||
    Ckf.generateKeyPair ||| Ckf.wrap ||| Ckf.unwrap ||| Ckf.derive ||| Ckf.encapsulate |||
    Ckf.decapsulate

def directCancelFlag : Direct → UInt64
  | .none => 0
  | .generateKey => Ckf.generate
  | .generateKeyPair => Ckf.generateKeyPair
  | .wrap => Ckf.wrap
  | .wrapAuthenticated => Ckf.wrap
  | .unwrap => Ckf.unwrap
  | .unwrapAuthenticated => Ckf.unwrap
  | .derive => Ckf.derive
  | .encapsulate => Ckf.encapsulate
  | .decapsulate => Ckf.decapsulate

def cancelFlagOperations : List (UInt64 × UInt16) :=
  [(Ckf.messageEncrypt, Operation.messageEncrypt),
   (Ckf.messageDecrypt, Operation.messageDecrypt),
   (Ckf.messageSign, Operation.messageSign),
   (Ckf.messageVerify, Operation.messageVerify),
   (Ckf.encrypt, Operation.encrypt),
   (Ckf.decrypt, Operation.decrypt),
   (Ckf.digest, Operation.digest),
   (Ckf.sign, Operation.sign),
   (Ckf.signRecover, Operation.signRecover),
   (Ckf.verify, Operation.verify),
   (Ckf.verifyRecover, Operation.verifyRecover)]

/-- The operation mask a `C_SessionCancel` flag word selects. -/
def cancelOperationMask (flags : UInt64) : UInt16 :=
  cancelFlagOperations.foldl
    (fun mask entry => if flags &&& entry.1 ≠ 0 then mask ||| entry.2 else mask) 0

/-- `count_ones` of a word. -/
def countOnes (word : Nat) : Nat :=
  ((List.range 64).filter word.testBit).length

/-- Whether a flag word selects more than one known cancel flag. -/
def selectedCancelFlags (flags : UInt64) : Nat :=
  countOnes (flags &&& knownCancelFlags).toNat

end P11Scope
