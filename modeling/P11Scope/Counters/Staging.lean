import P11Scope.Lib.Asking

/-!
# Staging counter banks

A stage extends the published counter slots by one extent: banks and routes are
inserted, links attached, and one commit entry publishes the whole.  What the
native operations answer is arbitrary.
-/

namespace P11Scope.Counters

open P11Scope.Lib

inductive CounterMode where
  | counts
  | timestamps
  | latency
  deriving DecidableEq, Repr

/-- The causes this layer gives; native operations report `other` ones. -/
inductive BankShapeCause where
  | extentBounds
  | planBudgetMismatch
  | planNotCounters
  | slotOutsideLimit
  | stagedExtentMismatch
  | other (name : String)
  deriving DecidableEq, Repr

inductive BankRefusal where
  | shape (cause : BankShapeCause)
  | topology
  | allocated
  | exhausted
  | budget
  | budgetExhausted (resource : String) (needed available : UInt64)
  | native
  | ownership
  | links
  | commit
  | quarantined
  deriving DecidableEq, Repr

structure BankGeometry where
  mode : CounterMode
  banks : Nat
  cells : Nat
  configuration : UInt64
  deriving DecidableEq, Repr

namespace BankGeometry

def legacy : BankGeometry := ⟨.counts, 2, 1, 0x18000102⟩

def limit (geometry : BankGeometry) : Nat := geometry.banks * geometry.cells

def locate (geometry : BankGeometry) (slot : Nat) : Except BankRefusal (Nat × Nat) :=
  if geometry.limit ≤ slot then .error (.shape .slotOutsideLimit)
  else .ok (slot / geometry.cells, slot % geometry.cells)

end BankGeometry

structure BankExtent where
  first : Nat
  stop : Nat
  deriving DecidableEq, Repr

def BankExtent.checked (first stop limit : Nat) : Except BankRefusal BankExtent :=
  if stop ≤ first ∨ limit < stop then .error (.shape .extentBounds) else .ok ⟨first, stop⟩

/-! ## The plan -/

structure AttachKey where
  object : UInt32
  fileOffset : UInt64
  deriving DecidableEq, Repr

structure Slot where
  index : Nat
  object : UInt32
  fileOffset : UInt64
  deriving DecidableEq, Repr

/-- The physical target of a slot. -/
def Slot.physical (slot : Slot) : AttachKey := ⟨slot.object, slot.fileOffset⟩

/-- A counter policy carries its endpoint limit. -/
inductive AdmissionPolicy where
  | detailed
  | inventory
  | counters (budget : Nat)
  deriving DecidableEq, Repr

structure AttachPlan where
  admissionPolicy : AdmissionPolicy
  slots : List Slot
  retiredSlots : Finset Nat
  counterConsumedEnd : Nat

namespace AttachPlan

def isActive (plan : AttachPlan) (slot : Nat) : Bool :=
  decide (slot < plan.slots.length) && decide (slot ∉ plan.retiredSlots)

/-- The fresh tail is consumed exactly once. -/
def consumeCounterExtent (plan : AttachPlan) (extent : BankExtent) : Option AttachPlan :=
  match plan.admissionPolicy with
  | .counters budget =>
    if extent.stop ≤ extent.first ∨ extent.stop ≠ plan.slots.length ∨ budget < extent.stop ∨
        extent.first ≠ plan.counterConsumedEnd ∨ plan.slots.zipIdx.any fun (slot, position) =>
          slot.index ≠ position || decide (extent.first ≤ position) && !plan.isActive slot.index
    then none
    else some { plan with counterConsumedEnd := extent.stop }
  | _ => none

def deactivate (plan : AttachPlan) (slot : Nat) : AttachPlan :=
  if plan.isActive slot then { plan with retiredSlots := insert slot plan.retiredSlots } else plan

end AttachPlan

/-! ## Native operations -/

structure CountsBankRoute where
  transaction : Nat
  extent : BankExtent
  bank : Nat
  cell : Nat
  innerId : UInt32
  reservedZero : UInt32
  deriving DecidableEq, Repr

structure CountsBankCommit where
  extent : BankExtent
  configuration : UInt64
  deriving DecidableEq, Repr

structure StagedExtent where
  transaction : Nat
  commit : CountsBankCommit
  routes : List (Nat × CountsBankRoute)
  bankIds : List (Nat × UInt32)

/-- Every bank and every slot of the extent once, in order, as the geometry places
them. -/
def StagedExtent.checkedWith (geometry : BankGeometry) (staged : StagedExtent) :
    Except BankRefusal StagedExtent := do
  let commit := staged.commit
  let extent ← BankExtent.checked commit.extent.first commit.extent.stop geometry.limit
  let (firstBank, _) ← geometry.locate extent.first
  let (lastBank, _) ← geometry.locate (extent.stop - 1)
  if commit.configuration ≠ geometry.configuration ∨
      staged.routes.length ≠ extent.stop - extent.first ∨
      staged.bankIds.length ≠ lastBank - firstBank + 1 then
    .error (.shape .stagedExtentMismatch)
  else if staged.bankIds.zipIdx.any (fun ((bank, id), index) => bank ≠ firstBank + index ||
      id = 0 || ((staged.bankIds.take index).any fun old => old.2 = id)) then .error .ownership
  else if staged.routes.zipIdx.any (fun ((slot, route), index) => slot ≠ extent.first + index ||
      route.transaction ≠ staged.transaction || route.extent ≠ extent ||
      (geometry.locate slot).toOption ≠ some (route.bank, route.cell) || route.reservedZero ≠ 0 ||
      (staged.bankIds[route.bank - firstBank]?.map Prod.snd) ≠ some route.innerId) then
    .error .ownership
  else .ok staged

inductive CandidateCheck where
  | exact
  | contradictory
  | unreadable
  deriving DecidableEq, Repr

inductive CommitObservation where
  | absent
  | exact
  | contradictory
  | unreadable
  deriving DecidableEq, Repr

inductive Removal where
  | route (slot : Nat) (expected : CountsBankRoute)
  | links (slots : List Slot)
  | bank (bank : Nat) (expectedId : UInt32)
  deriving DecidableEq

/-- `reserve` stands for the resource checks and charges before native work. -/
inductive BankQuery where
  | reserve (extent : BankExtent)
  | validateTargets (slots : List Slot) (published : List Nat) (fresh : BankExtent)
  | allocateBank (bank : Nat) (allSlots : List Slot)
  | insertInner (bank : Nat) (expectedId : UInt32)
  | insertRoute (slot : Nat) (route : CountsBankRoute)
  | attachInactive (slots : List Slot)
  | verifyCandidate (expected : StagedExtent) (allSlots : List Slot) (published : List Nat)
  | insertCommit (transaction : Nat) (commit : CountsBankCommit)
  | observeCommit (transaction : Nat) (expected : CountsBankCommit)
  | remove (removal : Removal)

def BankAnswer : BankQuery → Type
  | .allocateBank _ _ => Except BankRefusal UInt32
  | .verifyCandidate _ _ _ => CandidateCheck
  | .observeCommit _ _ => CommitObservation
  | _ => Except BankRefusal Unit

abbrev Staging := Asking BankQuery BankAnswer

def bankIo (query : BankQuery) : Staging (BankAnswer query) := Asking.query query

/-! ## The directory -/

inductive PositionState where
  | pending
  | published (route : CountsBankRoute)
  | neverPublishedRetired
  deriving DecidableEq, Repr

structure BankPosition where
  key : AttachKey
  state : PositionState
  deriving DecidableEq, Repr

structure BankDirectory where
  geometry : BankGeometry
  positions : List BankPosition := []
  bankIds : List (Option UInt32) := []
  nextTransaction : Option Nat := some 1
  quarantined : Bool := false
  budget : Option Nat := none

inductive BankPublication where
  | published (transaction : Nat) (extent : BankExtent)
  | rolledBack (transaction : Nat) (extent : BankExtent) (reason : BankRefusal)
  | quarantined (transaction : Nat) (extent : BankExtent)
  | refused (reason : BankRefusal)
  deriving DecidableEq, Repr

/-- What a stage did so far; the candidate is there once its commit was attempted. -/
structure Draft where
  bankIds : List (Option UInt32)
  ids : List (Nat × UInt32) := []
  insertedBanks : List (Nat × UInt32) := []
  routes : List (Nat × CountsBankRoute) := []
  linksAttempted : Bool := false
  candidate : Option StagedExtent := none

namespace BankDirectory

def isPublished (position : BankPosition) : Bool :=
  match position.state with
  | .published _ => true
  | _ => false

variable (directory : BankDirectory)

def publishedIndices : List Nat :=
  (directory.positions.zipIdx.filter fun entry => isPublished entry.1).map Prod.snd

def validatePlan (plan : AttachPlan) : Except BankRefusal Nat :=
  match plan.admissionPolicy with
  | .counters budget =>
    if budget < plan.slots.length ∨ directory.geometry.limit < plan.slots.length then
      .error (.shape .planBudgetMismatch)
    else if directory.budget.any (fun old => old ≠ budget) ∨
        plan.counterConsumedEnd ≠ directory.positions.length ∨
        plan.slots.length < directory.positions.length ∨
        plan.slots.zipIdx.any (fun (slot, index) => slot.index ≠ index ||
          decide (directory.positions.length ≤ index) && !plan.isActive slot.index ||
          directory.positions[index]?.any fun old => old.key ≠ slot.physical) then .error .topology
    else .ok budget
  | _ => .error (.shape .planNotCounters)

/-- Whether a read may trust the positions: each is published and still planned, or
was retired unpublished and is no longer active. -/
def validateReadPlan (plan : AttachPlan) : Except BankRefusal Unit :=
  let legacy := decide (directory.geometry = .legacy)
  if directory.quarantined then .error .quarantined
  else if directory.budget.all (fun budget => plan.admissionPolicy ≠ .counters budget) ∨
      directory.positions.length < plan.slots.length ∨
      (!legacy && plan.slots.length ≠ directory.positions.length) then .error .topology
  else if directory.positions.zipIdx.any (fun (position, index) =>
      plan.slots[index]?.any (fun slot => slot.index ≠ index || slot.physical ≠ position.key) ||
      match position.state with
      | .published _ => plan.slots[index]?.isNone
      | .neverPublishedRetired => plan.slots[index]?.isSome && (legacy || plan.isActive index)
      | .pending => true) then .error .topology
  else .ok ()

end BankDirectory

/-! ## One stage -/

/-- What a stage fixes before native work starts. -/
structure Begun where
  directory : BankDirectory
  plan : AttachPlan
  extent : BankExtent
  transaction : Nat
  published : List Nat

namespace Begun

variable (begun : Begun)

def commit : CountsBankCommit :=
  ⟨begun.extent, begun.directory.geometry.configuration⟩

def slots (begun : Begun) : List Slot :=
  (begun.plan.slots.take begun.extent.stop).drop begun.extent.first

/-- The draft, and why it stopped. -/
abbrev Step := Staging (Draft × Option BankRefusal)

def andThen (step : Step) (next : Draft → Step) : Step := do
  match ← step with
  | (draft, none) => next draft
  | (draft, some reason) => pure (draft, some reason)

def stageBanks (begun : Begun) : List Nat → Draft → Step
  | [], draft => pure (draft, none)
  | bank :: rest, draft =>
    match draft.bankIds[bank]?.join with
    | some id => begun.stageBanks rest { draft with ids := draft.ids ++ [(bank, id)] }
    | none => do
      match ← bankIo (.allocateBank bank begun.plan.slots) with
      | .error reason => pure (draft, some reason)
      | .ok id =>
        if id = 0 ∨ some id ∈ draft.bankIds then pure (draft, some .quarantined)
        else
          match ← bankIo (.insertInner bank id) with
          | .error reason => pure (draft, some reason)
          | .ok () => begun.stageBanks rest { draft with
              insertedBanks := draft.insertedBanks ++ [(bank, id)]
              bankIds := draft.bankIds.set bank (some id)
              ids := draft.ids ++ [(bank, id)] }

def stageRoutes (begun : Begun) : List Slot → Draft → Step
  | [], draft => pure (draft, none)
  | slot :: rest, draft =>
    match begun.directory.geometry.locate slot.index with
    | .error reason => pure (draft, some reason)
    | .ok (bank, cell) =>
      match draft.bankIds[bank]?.join with
      | none => pure (draft, some .ownership)
      | some innerId => do
        let route := ⟨begun.transaction, begun.extent, bank, cell, innerId, 0⟩
        match ← bankIo (.insertRoute slot.index route) with
        | .error reason => pure (draft, some reason)
        | .ok () =>
          begun.stageRoutes rest { draft with routes := draft.routes ++ [(slot.index, route)] }

def verify (expected : StagedExtent) : Staging CandidateCheck :=
  bankIo (.verifyCandidate expected begun.plan.slots begun.published)

variable (draft : Draft)

/-- Attach the links, verify the whole candidate, and attempt its commit. -/
def stageCommit : Step := do
  let draft := { draft with linksAttempted := true }
  match ← bankIo (.attachInactive begun.slots) with
  | .error reason => pure (draft, some reason)
  | .ok () =>
    match StagedExtent.checkedWith begun.directory.geometry
        ⟨begun.transaction, begun.commit, draft.routes, draft.ids⟩ with
    | .error _ => pure (draft, some .quarantined)
    | .ok expected =>
      match ← begun.verify expected with
      | .exact =>
        match ← bankIo (.insertCommit expected.transaction expected.commit) with
        | .error reason => pure ({ draft with candidate := some expected }, some reason)
        | .ok () => pure ({ draft with candidate := some expected }, none)
      | _ => pure (draft, some .quarantined)

/-- The known banks, one entry for each bank of the geometry. -/
def firstIds : List (Option UInt32) :=
  let banks := begun.directory.geometry.banks
  (begun.directory.bankIds ++ List.replicate banks none).take banks

def build : Step :=
  let geometry := begun.directory.geometry
  let draft : Draft := { bankIds := begun.firstIds }
  match geometry.locate begun.extent.first, geometry.locate (begun.extent.stop - 1) with
  | .error reason, _ => pure (draft, some reason)
  | _, .error reason => pure (draft, some reason)
  | .ok (firstBank, _), .ok (lastBank, _) =>
    andThen (begun.stageBanks (List.range' firstBank (lastBank + 1 - firstBank)) draft) fun draft =>
      andThen (begun.stageRoutes begun.slots draft) begun.stageCommit

abbrev Outcome := BankDirectory × AttachPlan × BankPublication

def quarantine : Outcome :=
  ({ begun.directory with quarantined := true }, begun.plan,
    .quarantined begun.transaction begun.extent)

def markPublished (positions : List BankPosition) (pair : Nat × CountsBankRoute) :
    List BankPosition :=
  positions.modify pair.1 fun position => { position with state := .published pair.2 }

def publish (expected : StagedExtent) : Outcome :=
  ({ begun.directory with
      positions := expected.routes.foldl markPublished begun.directory.positions
      bankIds := draft.bankIds },
    begun.plan, .published begun.transaction begun.extent)

def removals : List Removal :=
  draft.routes.reverse.map (fun (slot, route) => .route slot route) ++
    (if draft.linksAttempted then [.links begun.slots] else []) ++
    draft.insertedBanks.reverse.map fun (bank, id) => .bank bank id

/-- Every removal is tried; the answer is whether all succeeded. -/
def removeAll : List Removal → Staging Bool
  | [] => pure true
  | removal :: rest => do
    match ← bankIo (.remove removal) with
    | .ok () => removeAll rest
    | .error _ => do
      let _ ← removeAll rest
      pure false

variable (failure : Option BankRefusal)

def retire : Outcome :=
  ({ begun.directory with
      positions := begun.directory.positions.mapIdx fun index position =>
        if begun.extent.first ≤ index ∧ index < begun.extent.stop then
          { position with state := .neverPublishedRetired } else position },
    (List.range' begun.extent.first (begun.extent.stop - begun.extent.first)).foldl
      AttachPlan.deactivate begun.plan,
    .rolledBack begun.transaction begun.extent (failure.getD .commit))

/-- What the commit is observed to be decides. -/
def conclude : Staging Outcome := do
  match ← bankIo (.observeCommit begun.transaction begun.commit), draft.candidate with
  | .exact, some expected => pure (begun.publish draft expected)
  | .absent, _ => do
    if ← removeAll (begun.removals draft) then pure (begun.retire failure)
    else pure begun.quarantine
  | _, _ => pure begun.quarantine

/-- A commit that may have been written is believed only while the candidate still
verifies. -/
def settle : Staging Outcome := do
  let intact ← match draft.candidate with
    | none => pure true
    | some expected => do pure (decide ((← begun.verify expected) = .exact))
  if !intact ∨ failure = some .quarantined then pure begun.quarantine
  else begun.conclude draft failure

def perform : Staging Outcome := do
  let (draft, failure) ← begun.build
  begun.settle draft failure

end Begun

namespace BankDirectory

variable (directory : BankDirectory)

/-- The directory once the extent is consumed: it keeps it whatever happens next. -/
def consume (budget : Nat) (slots : List Slot) (transaction : Nat) : BankDirectory :=
  { directory with
    positions := directory.positions ++
      (slots.drop directory.positions.length).map fun slot => ⟨slot.physical, .pending⟩
    budget := some budget
    nextTransaction := if transaction + 1 < 2 ^ 64 then some (transaction + 1) else none }

/-- The targets of the plan, without those that were retired unpublished. -/
def liveKeys (slots : List Slot) : List AttachKey :=
  (slots.filter fun slot => (directory.positions[slot.index]?.map BankPosition.state) ≠
    some .neverPublishedRetired).map Slot.physical

def stageWith (plan : AttachPlan) : Staging Begun.Outcome := do
  let refuse := fun reason => (directory, plan, BankPublication.refused reason)
  let published := directory.publishedIndices
  if directory.quarantined then pure (refuse .quarantined)
  else
    match directory.validatePlan plan with
    | .error reason => pure (refuse reason)
    | .ok budget =>
      if directory.positions.length = plan.slots.length ∨
          directory.positions.zipIdx.any (fun (position, index) =>
            position.state = .neverPublishedRetired &&
              (decide (directory.geometry = .legacy) || plan.isActive index)) then
        pure (refuse .allocated)
      else
        match BankExtent.checked directory.positions.length plan.slots.length
            directory.geometry.limit, directory.nextTransaction with
        | .error reason, _ => pure (refuse reason)
        | .ok _, none => pure (refuse .exhausted)
        | .ok extent, some transaction =>
          match ← bankIo (.reserve extent) with
          | .error reason => pure (refuse reason)
          | .ok () =>
            if ¬ (directory.liveKeys plan.slots).Nodup then pure (refuse .topology)
            else
              match ← bankIo (.validateTargets plan.slots published extent) with
              | .error reason => pure (refuse reason)
              | .ok () =>
                match ← bankIo (.observeCommit transaction
                    ⟨extent, directory.geometry.configuration⟩) with
                | .absent =>
                  match plan.consumeCounterExtent extent with
                  | none => pure (refuse .topology)
                  | some consumed =>
                    Begun.perform ⟨directory.consume budget plan.slots transaction, consumed,
                      extent, transaction, published⟩
                | _ => pure ({ directory with quarantined := true }, plan, .refused .quarantined)

end BankDirectory

end P11Scope.Counters
