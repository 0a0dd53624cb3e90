import P11Scope.Identity.Accepted

/-!
# Accepting an anchor run

A candidate whose page was installed, or aliases an installed candidate's page,
expects the root's slot under each of its keys; every other candidate sends its
keys to the userspace proof.
-/

namespace P11Scope.Identity

open Std Lib.TreeMap

/-! ## Candidates -/

structure ObjectKey where
  major : UInt64
  minor : UInt64
  inode : UInt64
  deriving DecidableEq, Repr

def ObjectKey.fields (key : ObjectKey) : UInt64 × UInt64 × UInt64 :=
  (key.major, key.minor, key.inode)

instance : Ord ObjectKey := ⟨compareOn ObjectKey.fields⟩

instance : TransOrd ObjectKey := inferInstanceAs (TransCmp (compareOn ObjectKey.fields))

instance : LawfulEqOrd ObjectKey where
  eq_of_compare := eq_of_compareOn fun first second same => by
    cases first
    cases second
    simpa [ObjectKey.fields] using same

abbrev PinnedObjectId := UInt32

inductive AnchorFile where
  | pinned (id : PinnedObjectId)
  | examined
  deriving DecidableEq, Repr

structure Candidate where
  keys : ExtTreeSet ObjectKey
  slot : UInt32
  file : AnchorFile

inductive AnchorDeny where
  | fdHeadroom
  | anchorCap
  | anchorNotInstalled
  | captureWatched
  deriving DecidableEq, Repr

abbrev Slots := ExtTreeSet UInt32

structure AnchorPass where
  arenaLen : Option UInt64
  candidates : List Candidate
  fallback : ExtTreeMap ObjectKey AnchorDeny
  expectedMatches : ExtTreeMap (ObjectKey × PinnedObjectId) Slots
  expectedExamined : ExtTreeMap ObjectKey Slots

/-! ## Acceptance -/

/-- The slot a candidate's page is known under in the run. -/
def Candidate.root (candidate : Candidate) (run : Run) : Option UInt32 :=
  match run.anchors[candidate.slot]? with
  | some .ok => some candidate.slot
  | some (.dup root) => some root
  | _ => none

def AnchorPass.deny (pass : AnchorPass) (keys : ExtTreeSet ObjectKey) : AnchorPass :=
  { pass with fallback := keys.toList.foldl (·.insert · .anchorNotInstalled) pass.fallback }

def addSlot {Key : Type} [Ord Key] [TransOrd Key] (expected : ExtTreeMap Key Slots) (key : Key)
    (slot : UInt32) : ExtTreeMap Key Slots :=
  expected.insert key ((expected[key]?.getD {}).insert slot)

def AnchorPass.expectSlot (pass : AnchorPass) (candidate : Candidate) (slot : UInt32) :
    AnchorPass :=
  candidate.keys.toList.foldl
    (fun pass key =>
      match candidate.file with
      | .pinned id =>
        { pass with expectedMatches := addSlot pass.expectedMatches (key, id) slot }
      | .examined => { pass with expectedExamined := addSlot pass.expectedExamined key slot })
    pass

def AnchorPass.acceptCandidate (run : Run) (pass : AnchorPass) (candidate : Candidate) :
    AnchorPass :=
  match candidate.root run with
  | none => pass.deny candidate.keys
  | some root =>
    if pass.candidates.any (·.slot = root) then pass.expectSlot candidate root
    else pass.deny candidate.keys

/-- What the anchor run must prove; its records carry slots, so the scope is unused. -/
def AnchorPass.anchorExpect (pass : AnchorPass) (processId : UInt32) (generation : UInt64) :
    Expect :=
  { generation := generation
    slots := (pass.arenaLen.map (· / anchorStride)).getD 0 |>.toUInt32
    scope := ({} : ExtTreeSet UInt32).insert processId
    enforceScope := true
    mode := .perPid
    run := .anchor }

def AnchorPass.acceptAnchorRun (pass : AnchorPass) (processId : UInt32) (bytes : List UInt8)
    (generation : UInt64) : Except String AnchorPass :=
  match parse bytes (pass.anchorExpect processId generation) with
  | .error _ => .error "anchor installation stream is invalid"
  | .ok run =>
    let accepted := pass.candidates.foldl (AnchorPass.acceptCandidate run)
      { pass with expectedMatches := {}, expectedExamined := {} }
    .ok { accepted with
      expectedMatches := accepted.expectedMatches.filter
        fun expected _ => ¬ accepted.fallback.contains expected.1
      expectedExamined := accepted.expectedExamined.filter
        fun key _ => ¬ accepted.fallback.contains key }

/-- The slots a key expects in a role. -/
def AnchorPass.expected (pass : AnchorPass) (key : ObjectKey) : AnchorFile → Slots
  | .pinned id => pass.expectedMatches[(key, id)]?.getD {}
  | .examined => pass.expectedExamined[key]?.getD {}

/-- Every expected slot is the root of a candidate with that key in that role. -/
def Backed (candidates : List Candidate) (run : Run) (pass : AnchorPass) : Prop :=
  ∀ key file slot, slot ∈ pass.expected key file →
    ∃ candidate ∈ candidates, key ∈ candidate.keys ∧ candidate.file = file ∧
      candidate.root run = some slot

variable {slot : UInt32}

theorem mem_addSlot {Key : Type} [Ord Key] [TransOrd Key] [LawfulEqOrd Key]
    {expected : ExtTreeMap Key Slots} {key other : Key} {wanted : UInt32}
    (member : wanted ∈ ((addSlot expected key slot)[other]?.getD {} : Slots)) :
    (key = other ∧ slot = wanted) ∨ wanted ∈ (expected[other]?.getD {} : Slots) := by
  unfold addSlot at member
  rw [ExtTreeMap.getElem?_insert] at member
  split at member
  next same =>
    obtain rfl := LawfulEqOrd.eq_of_compare same
    exact (Lib.TreeSet.mem_insert_iff.mp member).imp_left fun added => ⟨rfl, added⟩
  next => exact Or.inr member

variable {candidates : List Candidate} {pass : AnchorPass} {run : Run}

section

variable (held : Backed candidates run pass)
include held

theorem Backed.deny (keys : ExtTreeSet ObjectKey) : Backed candidates run (pass.deny keys) := by
  intro key file slot member
  cases file with
  | pinned id => exact held key (.pinned id) slot member
  | examined => exact held key .examined slot member

theorem Backed.expectSlot {candidate : Candidate} {root : UInt32} (listed : candidate ∈ candidates)
    (rooted : candidate.root run = some root) :
    Backed candidates run (pass.expectSlot candidate root) := by
  refine List.foldlRecOn (motive := Backed candidates run) _ _ held ?_
  intro grown held key member key' file slot expected
  have own : key ∈ candidate.keys := ExtTreeSet.mem_toList.mp member
  cases role : candidate.file with
  | pinned id =>
    rw [role] at expected
    cases file with
    | pinned id' =>
      rcases mem_addSlot expected with ⟨same, rfl⟩ | before
      · cases same
        exact ⟨candidate, listed, own, role, rooted⟩
      · exact held key' (.pinned id') slot before
    | examined => exact held key' .examined slot expected
  | examined =>
    rw [role] at expected
    cases file with
    | pinned id' => exact held key' (.pinned id') slot expected
    | examined =>
      rcases mem_addSlot expected with ⟨rfl, rfl⟩ | before
      · exact ⟨candidate, listed, own, role, rooted⟩
      · exact held key' .examined slot before

theorem Backed.acceptCandidate {candidate : Candidate} (listed : candidate ∈ candidates) :
    Backed candidates run (pass.acceptCandidate run candidate) := by
  unfold AnchorPass.acceptCandidate
  cases rooted : candidate.root run with
  | none => exact held.deny candidate.keys
  | some root =>
    dsimp only
    split
    · exact held.expectSlot listed rooted
    · exact held.deny candidate.keys

end

/-- A slot dropped by the fallback filter is not expected any more; the others were
expected before. -/
theorem mem_filter_slots {Key : Type} [Ord Key] [TransOrd Key] [LawfulEqOrd Key]
    {expected : ExtTreeMap Key Slots} {keep : Key → Slots → Bool} {key : Key}
    (member : slot ∈ ((expected.filter keep)[key]?.getD {} : Slots)) :
    slot ∈ (expected[key]?.getD {} : Slots) := by
  cases found : (expected.filter keep)[key]? with
  | none =>
    rw [found] at member
    exact absurd member ExtTreeSet.not_mem_empty
  | some slots =>
    rw [found] at member
    rw [(getElem?_filter_eq_some_iff.mp found).1]
    exact member

/-- What an accepted run makes a key expect is the root of one of its candidates. -/
theorem acceptAnchorRun_expected {accepted : AnchorPass} {processId : UInt32} {bytes : List UInt8}
    {generation : UInt64} {key : ObjectKey} {file : AnchorFile}
    (run : pass.acceptAnchorRun processId bytes generation = .ok accepted)
    (expected : slot ∈ accepted.expected key file) :
    ∃ parsed, parse bytes (pass.anchorExpect processId generation) = .ok parsed ∧
      ∃ candidate ∈ pass.candidates, key ∈ candidate.keys ∧ candidate.file = file ∧
        candidate.root parsed = some slot := by
  unfold AnchorPass.acceptAnchorRun at run
  cases parsed : parse bytes (pass.anchorExpect processId generation) with
  | error invalid => rw [parsed] at run; cases run
  | ok parsedRun =>
    rw [parsed] at run
    refine ⟨parsedRun, rfl, ?_⟩
    have backed : Backed pass.candidates parsedRun
        (pass.candidates.foldl (AnchorPass.acceptCandidate parsedRun)
          { pass with expectedMatches := {}, expectedExamined := {} }) := by
      refine List.foldlRecOn (motive := Backed pass.candidates parsedRun) _ _ ?_ ?_
      · intro key file slot member
        cases file with
        | pinned | examined => simp [AnchorPass.expected] at member
      · intro grown held candidate listed
        exact held.acceptCandidate listed
    rw [← Except.ok.inj run] at expected
    apply backed
    cases file with
    | pinned | examined => exact mem_filter_slots expected

end P11Scope.Identity
