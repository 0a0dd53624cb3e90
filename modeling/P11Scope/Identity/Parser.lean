import P11Scope.Identity.Wire

/-!
# The run parser

One pass over the records of a stream, failing at the first anomaly, and the
resolution of aliases after it.
-/

namespace P11Scope.Identity

open Std Lib.TreeMap

/-! ## What a run must prove -/

inductive RunKind where
  | target
  | anchor
  deriving DecidableEq, Repr

inductive RunMode where
  | wholeSystem
  | perPid
  deriving DecidableEq, Repr

structure Expect where
  generation : UInt64
  slots : UInt32
  scope : ExtTreeSet UInt32
  enforceScope : Bool
  mode : RunMode
  run : RunKind

inductive TargetVerdict where
  | slot (slot : UInt32)
  | unmatched
  deriving DecidableEq, Repr

inductive AnchorOutcome where
  | ok
  | dup (root : UInt32)
  | full
  | badShape
  | conflict
  deriving DecidableEq, Repr

inductive Invalid where
  | length
  | magic
  | version
  | kind
  | gen
  | missingEnd
  | endNotLast
  | rangeOrder
  | rangeAlign
  | pointerShape
  | verdictRange
  | tgidScope
  | tgidOrder
  | wrongRunKind
  | multiTgid
  | endPayload
  | anchorPayload
  | expectSlots
  | expectGen
  | alias
  deriving DecidableEq, Repr

abbrev Outcomes := ExtTreeMap UInt32 AnchorOutcome

structure Run where
  byPid : ExtTreeMap UInt32 (ExtTreeMap (UInt64 × UInt64) TargetVerdict) := {}
  anchors : Outcomes := {}
  outerBadShape : ExtTreeSet UInt32 := {}
  demotedPids : ExtTreeSet UInt32 := {}

/-- The parsed verdict of one range. -/
def Run.verdictOf (run : Run) (pid : UInt32) (range : UInt64 × UInt64) : Option TargetVerdict :=
  run.byPid[pid]?.bind (·[range]?)

/-- The run built so far and what the walk has named. -/
structure Progress where
  run : Run := {}
  lastTgid : Option UInt32 := none
  onlyTgid : Option UInt32 := none

/-! ## One record -/

def Record.parsedVerdict (record : Record) (expect : Expect) : Except Invalid TargetVerdict :=
  if record.verdict = verdictNone then .ok .unmatched
  else if record.verdict < expect.slots then .ok (.slot record.verdict)
  else .error .verdictRange

/-- The walk's shape: whole-system runs ascend, per-pid runs name one group. -/
def Progress.follow (progress : Progress) (expect : Expect) (tgid : UInt32) :
    Except Invalid Progress :=
  match expect.mode with
  | .wholeSystem =>
    if progress.lastTgid.any (tgid < ·) then .error .tgidOrder
    else .ok { progress with lastTgid := some tgid }
  | .perPid =>
    match progress.onlyTgid with
    | none => .ok { progress with onlyTgid := some tgid }
    | some first => if first = tgid then .ok progress else .error .multiTgid

/-- Record a verdict; a range answered twice differently drops its pid. -/
def Run.keep (run : Run) (pid : UInt32) (range : UInt64 × UInt64) (parsed : TargetVerdict) :
    Run :=
  if pid ∈ run.demotedPids then run
  else if (run.verdictOf pid range).any (· ≠ parsed) then
    { run with byPid := run.byPid.erase pid, demotedPids := run.demotedPids.insert pid }
  else
    { run with byPid := run.byPid.insert pid (((run.byPid[pid]?).getD {}).insert range parsed) }

def Progress.vma (progress : Progress) (expect : Expect) (record : Record) :
    Except Invalid Progress :=
  if expect.run ≠ .target then .error .wrongRunKind
  else if record.start ≥ record.stop then .error .rangeOrder
  else if record.start &&& (pageGranule - 1) ≠ 0 ∨ record.stop &&& (pageGranule - 1) ≠ 0 then
    .error .rangeAlign
  else if record.start ≥ pointerGuard ∨ record.stop ≥ pointerGuard then .error .pointerShape
  else
    match record.parsedVerdict expect with
    | .error invalid => .error invalid
    | .ok parsed =>
      if expect.enforceScope ∧ record.a ∉ expect.scope then .error .tgidScope
      else
        match progress.follow expect record.a with
        | .error invalid => .error invalid
        | .ok progress =>
          .ok { progress with
            run := progress.run.keep record.a (record.start, record.stop) parsed }

/-- An outcome without a payload, for a slot of the pass. -/
def Record.plainOutcome (record : Record) (expect : Expect) (outcome : AnchorOutcome) :
    Except Invalid AnchorOutcome :=
  if record.start ≠ 0 ∨ record.stop ≠ 0 then .error .anchorPayload
  else if record.a ≥ expect.slots then .error .verdictRange
  else .ok outcome

/-- The outcome of an anchor record that is no diagnostic outside the slots. -/
def Record.anchorOutcome (record : Record) (expect : Expect) : Except Invalid AnchorOutcome :=
  if record.verdict = anchorOk then record.plainOutcome expect .ok
  else if record.verdict = anchorDup then
    if record.stop ≠ 0 then .error .anchorPayload
    else if record.a ≥ expect.slots ∨ record.start ≥ expect.slots.toUInt64 then
      .error .verdictRange
    else .ok (.dup record.start.toUInt32)
  else if record.verdict = anchorFull then record.plainOutcome expect .full
  else if record.verdict = anchorBadShape then
    if record.start ≠ 0 ∨ record.stop ≠ 0 then .error .anchorPayload else .ok .badShape
  else if record.verdict = anchorConflict then record.plainOutcome expect .conflict
  else .error .verdictRange

/-- Repeats must agree: a slot reported two ways is never installed. -/
def collapse (anchors : Outcomes) (slot : UInt32) (outcome : AnchorOutcome) : Outcomes :=
  match anchors[slot]? with
  | none => anchors.insert slot outcome
  | some previous => if previous = outcome then anchors else anchors.insert slot .badShape

/-- A shape diagnostic outside the installed slots. -/
def Record.outer (record : Record) (expect : Expect) : Prop :=
  record.verdict = anchorBadShape ∧ record.a ≥ expect.slots

instance (record : Record) (expect : Expect) : Decidable (record.outer expect) :=
  inferInstanceAs (Decidable (_ ∧ _))

def Progress.anchor (progress : Progress) (expect : Expect) (record : Record) :
    Except Invalid Progress :=
  if expect.run ≠ .anchor then .error .wrongRunKind
  else if record.start ≥ pointerGuard ∨ record.stop ≥ pointerGuard then .error .pointerShape
  else if record.outer expect then
    if record.start ≠ 0 ∨ record.stop ≠ 0 then .error .anchorPayload
    else .ok { progress with run := { progress.run with
      outerBadShape := progress.run.outerBadShape.insert record.a } }
  else
    match record.anchorOutcome expect with
    | .error invalid => .error invalid
    | .ok outcome => .ok { progress with run := { progress.run with
        anchors := collapse progress.run.anchors record.a outcome } }

/-- One record of the run; `last` says that no record follows. -/
def Progress.record (progress : Progress) (expect : Expect) (last : Bool) (record : Record) :
    Except Invalid Progress :=
  if record.magic ≠ recordMagic then .error .magic
  else if record.version ≠ recordVersion then .error .version
  else if record.gen ≠ expect.generation.toUInt32 then .error .gen
  else if record.kind = kindEnd then
    if last = false then .error .endNotLast
    else if record.a ≠ 0 ∨ record.start ≠ 0 ∨ record.stop ≠ 0 ∨ record.verdict ≠ 0 then
      .error .endPayload
    else .ok progress
  else if record.kind = kindVma then progress.vma expect record
  else if record.kind = kindAnchor then progress.anchor expect record
  else .error .kind

def Progress.records (expect : Expect) : List Record → Progress → Except Invalid Progress
  | [], progress => .ok progress
  | record :: rest, progress =>
    match progress.record expect rest.isEmpty record with
    | .error invalid => .error invalid
    | .ok progress => Progress.records expect rest progress

/-! ## Aliases -/

/-- Follow a slot to its installed root. The fuel is one more than the slots that
can be visited before one repeats. -/
def resolveFrom (anchors : Outcomes) : Nat → ExtTreeSet UInt32 → UInt32 → Except Invalid UInt32
  | 0, _, _ => .error .alias
  | fuel + 1, seen, at_ =>
    if at_ ∈ seen then .error .alias
    else
      match anchors[at_]? with
      | some (.dup next) =>
        if next = at_ then .error .alias
        else resolveFrom anchors fuel (seen.insert at_) next
      | some .ok => .ok at_
      | _ => .error .alias

def resolveAnchorRoot (anchors : Outcomes) (slot : UInt32) : Except Invalid UInt32 :=
  resolveFrom anchors (anchors.size + 1) {} slot

def AnchorOutcome.isDup : AnchorOutcome → Bool
  | .dup _ => true
  | _ => false

def resolveAll : List UInt32 → Outcomes → Except Invalid Outcomes
  | [], anchors => .ok anchors
  | slot :: rest, anchors =>
    match resolveAnchorRoot anchors slot with
    | .error invalid => .error invalid
    | .ok root => resolveAll rest (anchors.insert slot (.dup root))

/-- The aliasing slots, in order. -/
def dupSlots (anchors : Outcomes) : List UInt32 :=
  (anchors.toList.filter (·.2.isDup)).map (·.1)

/-- Parse one run's bytes. -/
def parse (bytes : List UInt8) (expect : Expect) : Except Invalid Run :=
  if expect.slots > anchorSlots then .error .expectSlots
  else if expect.generation > 0xFFFFFFFF then .error .expectGen
  else if bytes.length % recordLen ≠ 0 then .error .length
  else if bytes = [] then .error .missingEnd
  else
    match Progress.records expect (recordsOf bytes) {} with
    | .error invalid => .error invalid
    | .ok progress =>
      if ((recordsOf bytes).getLast?.map (·.kind)) ≠ some kindEnd then .error .missingEnd
      else
        match resolveAll (dupSlots progress.run.anchors) progress.run.anchors with
        | .error invalid => .error invalid
        | .ok anchors => .ok { progress.run with anchors := anchors }

end P11Scope.Identity
