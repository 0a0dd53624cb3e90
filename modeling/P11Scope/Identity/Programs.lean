import P11Scope.Identity.Wire

/-!
# The two iterator programs

The anchor program binds the inode of each arena page to the page's slot; the
target program answers a mapping with the slot its inode is bound to. The maps
outlive a pass, so an entry counts only when it carries the pass's generation.
-/

namespace P11Scope.Identity

open Std

/-! ## Configuration, maps and context -/

structure IdentityConfig where
  generation : UInt64
  arenaBase : UInt64
  arenaLen : UInt64
  slots : UInt32
  observerTgid : UInt32
  targetTgid : UInt32
  targetTid : UInt32
  deriving DecidableEq, Repr

structure AnchorEntry where
  slot : UInt32
  generation : UInt64
  deriving DecidableEq, Repr

/-- The kernel-only maps. Cells exist below `anchorSlots`. -/
structure Maps where
  anchors : ExtTreeMap UInt64 AnchorEntry
  slots : UInt32 → UInt64
  observed : UInt32 → UInt64

structure Task where
  pid : Int32
  tgid : Int32
  deriving DecidableEq, Repr

/-- A mapping as the programs read it: `file` is the inode pointer of the mapped
file, and `flags` is absent where the kernel has no such field. -/
structure Vma where
  start : UInt64
  stop : UInt64
  flags : Option UInt64
  file : Option UInt64
  deriving DecidableEq, Repr

structure Context where
  task : Option Task
  vma : Option Vma
  deriving DecidableEq, Repr

def scopeWords : UInt32 := 65536
def vmExec : UInt64 := 4

variable (config : IdentityConfig)

def IdentityConfig.record (kind : UInt8) (a : UInt32) (start stop : UInt64) (verdict : UInt32) :
    Record :=
  { magic := recordMagic
    version := recordVersion
    kind := kind
    a := a
    start := start
    stop := stop
    verdict := verdict
    gen := config.generation.toUInt32 }

def Task.isLeader (task : Task) : Bool := ¬ (task.tgid < 0) ∧ task.pid = task.tgid

/-! ## The anchor program -/

/-- The stride quotient of a mapping that starts in the arena. -/
def IdentityConfig.quotient (vma : Vma) : UInt64 :=
  (vma.start - config.arenaBase) / anchorStride

def IdentityConfig.badShape (vma : Vma) : Bool :=
  vma.stop - vma.start ≠ pageGranule ∨
    (vma.start - config.arenaBase) % anchorStride ≠ 0 ∨
    config.quotient vma ≥ config.slots.toUInt64 ∨
    vma.stop > config.arenaBase + config.arenaLen

/-- A quotient that no slot field can hold is reported saturated. -/
def IdentityConfig.diagnostic (vma : Vma) : UInt32 :=
  if config.quotient vma > 0xFFFFFFFF then 0xFFFFFFFF else (config.quotient vma).toUInt32

def IdentityConfig.anchorRecord (slot : UInt32) (start : UInt64) (verdict : UInt32) : Record :=
  config.record kindAnchor slot start 0 verdict

variable (maps : Maps)

/-- The entry of an address, if this pass made it. -/
def Maps.bound (generation address : UInt64) : Option UInt32 :=
  (maps.anchors[address]?.filter (·.generation = generation)).map (·.slot)

/-- The anchors without the slot's entry of an earlier pass. -/
def Maps.withoutStale (generation : UInt64) (slot : UInt32) (address : UInt64) :
    ExtTreeMap UInt64 AnchorEntry :=
  let old := maps.slots slot
  if old ≠ 0 ∧ old ≠ address then
    match maps.anchors[old]? with
    | some stale => if stale.generation ≠ generation then maps.anchors.erase old else maps.anchors
    | none => maps.anchors
  else maps.anchors

/-- Note the address the slot was observed with in this pass. -/
def Maps.observe (generation : UInt64) (slot : UInt32) (address : UInt64) : Maps :=
  { maps with
    slots := Function.update maps.slots slot address
    observed := Function.update maps.observed slot (generation + 1) }

/-- The page of a slot was shown with an address; `accepted` is the map's answer to
an update. -/
def IdentityConfig.observeSlot (slot : UInt32) (address : UInt64) (accepted : Bool) :
    Maps × Record :=
  let generation := config.generation
  let old := maps.slots slot
  if maps.observed slot = generation + 1 ∧ old ≠ address then
    (maps, config.anchorRecord slot 0 anchorConflict)
  else if old ≠ 0 ∧ old ≠ address ∧ maps.anchors[old]? = some ⟨slot, generation⟩ then
    (maps, config.anchorRecord slot 0 anchorConflict)
  else
    let cleared : Maps := { maps with anchors := maps.withoutStale generation slot address }
    match (cleared.bound generation address).filter (· ≠ slot) with
    | some owner =>
      (cleared.observe generation slot address,
        config.anchorRecord slot owner.toUInt64 anchorDup)
    | none =>
      if accepted then
        let inserted : Maps :=
          { cleared with anchors := cleared.anchors.insert address ⟨slot, generation⟩ }
        (inserted.observe generation slot address, config.anchorRecord slot 0 anchorOk)
      else
        (cleared.observe generation slot address, config.anchorRecord slot 0 anchorFull)

/-- A file mapping that starts in the arena. -/
def IdentityConfig.showFile (vma : Vma) (address : UInt64) (accepted : Bool) : Maps × Record :=
  if config.badShape vma then
    (maps, config.anchorRecord (config.diagnostic vma) 0 anchorBadShape)
  else
    let slot := (config.quotient vma).toUInt32
    if address = 0 ∨ slot ≥ anchorSlots then (maps, config.anchorRecord slot 0 anchorBadShape)
    else config.observeSlot maps slot address accepted

/-- The observer's own leader task; a zero `observerTgid` matches every group. -/
def IdentityConfig.admitsAnchor (task : Task) : Bool :=
  task.isLeader ∧ (config.observerTgid = 0 ∨ task.tgid.toUInt32 = config.observerTgid)

def IdentityConfig.inArena (vma : Vma) : Bool :=
  ¬ (vma.start < config.arenaBase ∨ vma.start ≥ config.arenaBase + config.arenaLen)

def IdentityConfig.anchorVma (context : Context) (accepted : Bool) : Maps × Option Record :=
  match context.vma with
  | none => (maps, some (config.record kindEnd 0 0 0 0))
  | some vma =>
    if context.task.any config.admitsAnchor ∧ config.inArena vma then
      match vma.file with
      | none => (maps, none)
      | some address =>
        let (shown, record) := config.showFile maps vma address accepted
        (shown, some record)
    else (maps, none)

/-! ## The target program -/

def IdentityConfig.admitsTarget (scope : UInt32 → UInt64) (task : Task) : Bool :=
  let tgid := task.tgid.toUInt32
  if task.tgid < 0 then false
  else if config.targetTid ≠ 0 then
    task.pid.toUInt32 = config.targetTid ∧ tgid = config.targetTgid
  else
    task.pid = task.tgid ∧ tgid >>> 6 < scopeWords ∧
      scope (tgid >>> 6) &&& ((1 : UInt64) <<< (tgid &&& 63).toUInt64) ≠ 0

def Vma.executable (vma : Vma) : Bool := vma.flags.all fun flags => flags &&& vmExec ≠ 0

def IdentityConfig.identityVma (scope : UInt32 → UInt64) (maps : Maps) (context : Context) :
    Option Record :=
  match context.vma with
  | none => some (config.record kindEnd 0 0 0 0)
  | some vma =>
    match context.task with
    | none => none
    | some task =>
      if config.admitsTarget scope task then
        match vma.file with
        | none => none
        | some address =>
          if vma.executable = false ∨ address = 0 then none
          else some (config.record kindVma task.tgid.toUInt32 vma.start vma.stop
            ((maps.bound config.generation address).getD verdictNone))
      else none

/-! ## What a show can do -/

/-- Clearing a slot's entry of an earlier pass leaves this pass's entries. -/
theorem bound_withoutStale (generation : UInt64) (slot : UInt32) (address other : UInt64) :
    Maps.bound { maps with anchors := maps.withoutStale generation slot address } generation other =
      maps.bound generation other := by
  unfold Maps.withoutStale Maps.bound
  dsimp only
  split
  · split
    next stale found =>
      split
      next earlier =>
        rw [ExtTreeMap.getElem?_erase]
        split
        next same =>
          rw [← Std.compare_eq_iff_eq.mp same, found]
          simp [earlier]
        next => rfl
      next => rfl
    next => rfl
  · rfl

theorem bound_insert (generation address other : UInt64) (slot : UInt32) :
    Maps.bound { maps with anchors := maps.anchors.insert address ⟨slot, generation⟩ }
      generation other =
      if address = other then some slot else maps.bound generation other := by
  unfold Maps.bound
  rw [Lib.TreeMap.getElem?_insert_ite]
  split
  · simp
  · rfl

/-- A slot noted in this pass: it had this address if it was noted before, and has it
from now on. -/
structure Noted (slot : UInt32) (address : UInt64) (next : Maps) : Prop where
  steady : maps.observed slot = config.generation + 1 → maps.slots slot = address
  slots : next.slots = Function.update maps.slots slot address
  observed : next.observed = Function.update maps.observed slot (config.generation + 1)

/-- What showing a slot's page can do. -/
inductive SlotShown (config : IdentityConfig) (maps : Maps) (slot : UInt32) (address : UInt64) :
    Maps → Record → Prop where
  | contested : SlotShown config maps slot address maps (config.anchorRecord slot 0 anchorConflict)
  | aliased {next : Maps} {owner : UInt32} (noted : Noted config maps slot address next)
      (held : maps.bound config.generation address = some owner) (other : owner ≠ slot)
      (same : ∀ at_, next.bound config.generation at_ = maps.bound config.generation at_) :
      SlotShown config maps slot address next
        (config.anchorRecord slot owner.toUInt64 anchorDup)
  | installed {next : Maps} (noted : Noted config maps slot address next)
      (free : ∀ owner, maps.bound config.generation address = some owner → owner = slot)
      (bound : ∀ at_, next.bound config.generation at_ =
        if address = at_ then some slot else maps.bound config.generation at_) :
      SlotShown config maps slot address next (config.anchorRecord slot 0 anchorOk)
  | refused {next : Maps} (noted : Noted config maps slot address next)
      (same : ∀ at_, next.bound config.generation at_ = maps.bound config.generation at_) :
      SlotShown config maps slot address next (config.anchorRecord slot 0 anchorFull)

theorem observeSlot_shown (slot : UInt32) (address : UInt64) (accepted : Bool) :
    SlotShown config maps slot address (config.observeSlot maps slot address accepted).1
      (config.observeSlot maps slot address accepted).2 := by
  unfold IdentityConfig.observeSlot
  dsimp only
  split
  next => exact .contested
  rename_i steady
  split
  next => exact .contested
  have noted : ∀ anchors, Noted config maps slot address
      (Maps.observe { maps with anchors := anchors } config.generation slot address) := by
    intro anchors
    refine ⟨fun again => ?_, rfl, rfl⟩
    by_contra changed
    exact steady ⟨again, changed⟩
  split
  next owner found =>
    rw [bound_withoutStale, Option.filter_eq_some_iff] at found
    obtain ⟨held, other⟩ := found
    exact .aliased (noted _) held (of_decide_eq_true other)
      fun at_ => bound_withoutStale maps _ slot address at_
  next found =>
    rw [bound_withoutStale] at found
    split
    · refine .installed (noted _) ?_ ?_
      · intro owner held
        rw [held, Option.filter_eq_none_iff] at found
        by_contra other
        exact found owner rfl (decide_eq_true other)
      · intro at_
        have inserted := bound_insert
          { maps with anchors := maps.withoutStale config.generation slot address }
          config.generation address at_ slot
        rw [bound_withoutStale] at inserted
        exact inserted
    · exact .refused (noted _) fun at_ => bound_withoutStale maps _ slot address at_

/-- What one call of the anchor program can do. -/
inductive AnchorShown (config : IdentityConfig) (maps : Maps) (context : Context) :
    Maps → Option Record → Prop where
  | skipped : AnchorShown config maps context maps none
  | ended : AnchorShown config maps context maps (some (config.record kindEnd 0 0 0 0))
  | misshapen (slot : UInt32) :
      AnchorShown config maps context maps (some (config.anchorRecord slot 0 anchorBadShape))
  | page {vma : Vma} {address : UInt64} {next : Maps} {record : Record}
      (admitted : context.task.any config.admitsAnchor = true) (shown : context.vma = some vma)
      (inside : config.inArena vma = true) (shape : config.badShape vma = false)
      (file : vma.file = some address) (present : address ≠ 0)
      (slot : SlotShown config maps (config.quotient vma).toUInt32 address next record) :
      AnchorShown config maps context next (some record)

theorem anchorVma_shown (context : Context) (accepted : Bool) :
    AnchorShown config maps context (config.anchorVma maps context accepted).1
      (config.anchorVma maps context accepted).2 := by
  unfold IdentityConfig.anchorVma
  split
  next => exact .ended
  rename_i vma shown
  split
  next admitted =>
    split
    next => exact .skipped
    rename_i address file
    unfold IdentityConfig.showFile
    by_cases shape : config.badShape vma = true
    · rw [if_pos shape]
      exact .misshapen _
    · rw [if_neg shape]
      dsimp only
      split
      next => exact .misshapen _
      next valid =>
        exact .page admitted.1 shown admitted.2 (Bool.eq_false_of_not_eq_true shape) file
          (fun zero => valid (Or.inl zero)) (observeSlot_shown config maps _ address accepted)
  next => exact .skipped

/-- A target record names the mapping shown and the slot its inode is bound to. -/
theorem identityVma_shown {config : IdentityConfig} {scope : UInt32 → UInt64} {maps : Maps}
    {context : Context} {record : Record}
    (emitted : config.identityVma scope maps context = some record)
    (kind : record.kind = kindVma) :
    ∃ vma address, context.vma = some vma ∧ vma.file = some address ∧ address ≠ 0 ∧
      record.start = vma.start ∧ record.stop = vma.stop ∧
      record.verdict = (maps.bound config.generation address).getD verdictNone := by
  unfold IdentityConfig.identityVma at emitted
  split at emitted
  next =>
    rw [← Option.some.inj emitted] at kind
    cases kind
  rename_i vma shown
  split at emitted
  next => cases emitted
  split at emitted
  next =>
    split at emitted
    next => cases emitted
    rename_i address file
    split at emitted
    next => cases emitted
    next valid =>
      rw [← Option.some.inj emitted]
      exact ⟨vma, address, shown, file, fun zero => valid (Or.inr zero), rfl, rfl, rfl⟩
  next => cases emitted

end P11Scope.Identity
