import P11Scope.Identity.Acceptance
import P11Scope.Identity.Programs

/-!
# One identity pass

Inodes are objects that live at an address for as long as they live; an address
may be reused after that. The pass shows mappings in any order, with shows whose
output is discarded, updates the map refuses and pages remapped under the walk.
-/

namespace P11Scope.Identity

open Std Function Finset

/-! ## The world a pass runs in -/

abbrev Inode := Nat

/-- The inodes alive, those that ever lived, what the anchor pages hold, and the
inodes an anchor page was shown with in this pass. -/
structure World where
  live : Finset Inode
  past : Finset Inode
  pages : UInt32 → Option Inode
  anchored : Finset Inode

/-- A mapping of a task; the inode of its file may be unreadable. -/
structure Mapping where
  start : UInt64
  stop : UInt64
  flags : Option UInt64
  file : Option (Option Inode)
  deriving DecidableEq

structure Show where
  task : Option Task
  mapping : Option Mapping
  kept : Bool
  deriving DecidableEq

/-- The pass's configuration, the observer it names and where inodes live. -/
structure Setting where
  address : Inode → UInt64
  config : IdentityConfig
  observer : Int32
  named : config.observerTgid = 0 ∨ config.observerTgid = observer.toUInt32

def Mapping.vma (mapping : Mapping) (address : Inode → UInt64) : Vma :=
  { start := mapping.start
    stop := mapping.stop
    flags := mapping.flags
    file := mapping.file.map fun inode => inode.elim 0 address }

def Show.context (shown : Show) (address : Inode → UInt64) : Context :=
  { task := shown.task
    vma := shown.mapping.map (·.vma address) }

def Show.inode (shown : Show) : Option Inode :=
  (shown.mapping.bind (·.file)).join

/-- The slot whose page is shown, if the show is one of the observer's pages. -/
def Setting.pageOf (setting : Setting) (shown : Show) : Option UInt32 :=
  match shown.mapping.map (·.vma setting.address) with
  | none => none
  | some vma =>
    if shown.task.any (·.tgid = setting.observer) ∧ setting.config.inArena vma ∧
        setting.config.badShape vma = false then
      some (setting.config.quotient vma).toUInt32
    else none

/-! ## Events -/

inductive Happening where
  | born (inode : Inode)
  | died (inode : Inode)

inductive AnchorEvent where
  | world (happening : Happening)
  | remap (slot : UInt32) (inode : Option Inode)
  | shown (shown : Show) (accepted : Bool)

inductive TargetEvent where
  | world (happening : Happening)
  | shown (shown : Show)

structure TargetRun where
  targetTgid : UInt32
  targetTid : UInt32
  scope : UInt32 → UInt64
  events : List TargetEvent

/-- An emitted record with the inode of the mapping it is about and, for a page, the
inode the page held. -/
structure Shown where
  inode : Option Inode
  held : Option Inode
  record : Record
  kept : Bool
  deriving DecidableEq

structure State where
  world : World
  maps : Maps
  log : List Shown

def State.kept (state : State) : List Record :=
  (state.log.filter (·.kept)).map (·.record)

def World.happen (world : World) : Happening → World
  | .born inode =>
    { world with live := insert inode world.live, past := insert inode world.past }
  | .died inode => { world with live := world.live.erase inode }

def State.emit (state : State) (shown : Show) (held : Option Inode) (record : Option Record) :
    State :=
  { state with log := state.log ++
      (record.map fun record => ⟨shown.inode, held, record, shown.kept⟩).toList }

def State.anchorStep (setting : Setting) (state : State) : AnchorEvent → State
  | .world happening => { state with world := state.world.happen happening }
  | .remap slot inode =>
    { state with world :=
        { state.world with pages := update state.world.pages slot inode } }
  | .shown shown accepted =>
    let called := setting.config.anchorVma state.maps (shown.context setting.address) accepted
    let held := (setting.pageOf shown).bind state.world.pages
    let noted : World := { state.world with
      anchored := state.world.anchored ∪ (held.elim ∅ fun inode => {inode}) }
    State.emit ⟨noted, called.1, state.log⟩ shown held called.2

def Setting.targetConfig (setting : Setting) (run : TargetRun) : IdentityConfig :=
  { setting.config with targetTgid := run.targetTgid, targetTid := run.targetTid }

def State.targetStep (setting : Setting) (run : TargetRun) (state : State) :
    TargetEvent → State
  | .world happening => { state with world := state.world.happen happening }
  | .shown shown =>
    state.emit shown none
      ((setting.targetConfig run).identityVma run.scope state.maps
        (shown.context setting.address))

/-- A run writes to a stream of its own. -/
def State.opened (state : State) : State := { state with log := [] }

def State.anchorRun (setting : Setting) (state : State) (events : List AnchorEvent) : State :=
  events.foldl (State.anchorStep setting) state.opened

def State.targetRun (setting : Setting) (state : State) (run : TargetRun) : State :=
  run.events.foldl (State.targetStep setting run) state.opened

/-! ## What may happen -/

/-- The pages hold living inodes, and living inodes lie apart. -/
structure World.Sound (world : World) (address : Inode → UInt64) : Prop where
  apart : ∀ first ∈ world.live, ∀ second ∈ world.live,
    address first = address second → first = second
  mapped : ∀ slot inode, world.pages slot = some inode → inode ∈ world.live
  lived : world.live ⊆ world.past

/-- Inodes that live on while an anchor page holds them. -/
def World.holdsMapped (world : World) (inode : Inode) : Prop :=
  ∃ slot, world.pages slot = some inode

/-- Inodes that live on until the pass ends once an anchor page was shown with them. -/
def World.holdsShown (world : World) (inode : Inode) : Prop :=
  world.holdsMapped inode ∨ inode ∈ world.anchored

def Happening.Permitted (address : Inode → UInt64) (holds : World → Inode → Prop)
    (world : World) : Happening → Prop
  | .born inode => inode ∉ world.past ∧ ∀ other ∈ world.live, address other ≠ address inode
  | .died inode => ¬ holds world inode

def AnchorEvent.Permitted (setting : Setting) (holds : World → Inode → Prop) (world : World) :
    AnchorEvent → Prop
  | .world happening => happening.Permitted setting.address holds world
  | .remap _ inode => ∀ held, inode = some held → held ∈ world.live
  | .shown seen _ =>
    (setting.config.observerTgid = 0 →
      ∀ task, seen.task = some task → task.tgid = setting.observer) ∧
    ∀ slot inode, setting.pageOf seen = some slot → seen.inode = some inode →
      world.pages slot = some inode

def TargetEvent.Permitted (setting : Setting) (holds : World → Inode → Prop) (world : World) :
    TargetEvent → Prop
  | .world happening => happening.Permitted setting.address holds world
  | .shown seen => ∀ inode, seen.inode = some inode → inode ∈ world.live

/-- Every event of a run is permitted where it happens. -/
def AllPermitted {Event : Type} (permitted : World → Event → Prop)
    (step : State → Event → State) : State → List Event → Prop
  | _, [] => True
  | state, event :: rest =>
    permitted state.world event ∧ AllPermitted permitted step (step state event) rest

def TargetsPermitted (setting : Setting) (holds : World → Inode → Prop) :
    State → List TargetRun → Prop
  | _, [] => True
  | state, run :: rest =>
    AllPermitted (TargetEvent.Permitted setting holds) (State.targetStep setting run)
        state.opened run.events ∧
      TargetsPermitted setting holds (state.targetRun setting run) rest

/-- Nothing in the maps carries the generation yet. -/
structure Maps.Fresh (maps : Maps) (generation : UInt64) : Prop where
  unbound : ∀ address, maps.bound generation address = none
  unobserved : ∀ slot, maps.observed slot ≠ generation + 1

/-- A pass: the anchor run, then target runs in any number. -/
structure Passes (setting : Setting) (holds : World → Inode → Prop) (state : State)
    (events : List AnchorEvent) (runs : List TargetRun) : Prop where
  sound : state.world.Sound setting.address
  unshown : state.world.anchored = ∅
  fresh : state.maps.Fresh setting.config.generation
  anchors : AllPermitted (AnchorEvent.Permitted setting holds) (State.anchorStep setting)
    state.opened events
  targets : TargetsPermitted setting holds (state.anchorRun setting events) runs

/-- A rule that a step keeps holds after a run. -/
theorem AllPermitted.foldl {Event : Type} {permitted : World → Event → Prop}
    {step : State → Event → State} (rule : State → Prop)
    (keeps : ∀ state event, permitted state.world event → rule state → rule (step state event))
    (events : List Event) : ∀ state, AllPermitted permitted step state events → rule state →
      rule (events.foldl step state) := by
  induction events with
  | nil =>
    intro state _ holds
    exact holds
  | cons event rest ih =>
    intro state all holds
    exact ih (step state event) all.2 (keeps state event all.1 holds)

/-! ## The world keeps sound -/

/-- What the inodes shown on anchor pages owe to the rule that keeps them. -/
structure World.Keeping (world : World) (address : Inode → UInt64) : Prop
    extends world.Sound address where
  anchoredLive : world.anchored ⊆ world.live

variable {address : Inode → UInt64} {world : World}

section

variable (keeping : world.Keeping address)
include keeping

theorem World.Keeping.happen {happening : Happening}
    (permitted : happening.Permitted address World.holdsShown world) :
    (world.happen happening).Keeping address := by
  cases happening with
  | born inode =>
    obtain ⟨new, free⟩ := permitted
    refine ⟨⟨?_, ?_, ?_⟩, ?_⟩
    · intro first memberFirst second memberSecond same
      rcases mem_insert.mp memberFirst with isNew | old
      · rcases mem_insert.mp memberSecond with isNew' | old'
        · rw [isNew, isNew']
        · rw [isNew] at same
          exact absurd same.symm (free second old')
      rcases mem_insert.mp memberSecond with isNew' | old'
      · rw [isNew'] at same
        exact absurd same (free first old)
      · exact keeping.apart first old second old' same
    · intro slot held mapped
      exact mem_insert_of_mem (keeping.mapped slot held mapped)
    · exact insert_subset_insert inode keeping.lived
    · exact fun held member => mem_insert_of_mem (keeping.anchoredLive member)
  | died inode =>
    refine ⟨⟨?_, ?_, ?_⟩, ?_⟩
    · intro first memberFirst second memberSecond same
      exact keeping.apart first (mem_of_mem_erase memberFirst) second
        (mem_of_mem_erase memberSecond) same
    · intro slot held mapped
      refine mem_erase.mpr ⟨?_, keeping.mapped slot held mapped⟩
      rintro rfl
      exact permitted (Or.inl ⟨slot, mapped⟩)
    · exact fun held member => keeping.lived (mem_of_mem_erase member)
    · intro held member
      refine mem_erase.mpr ⟨?_, keeping.anchoredLive member⟩
      rintro rfl
      exact permitted (Or.inr member)

theorem World.Keeping.remap (slot : UInt32) {inode : Option Inode}
    (living : ∀ held, inode = some held → held ∈ world.live) :
    World.Keeping { world with pages := update world.pages slot inode } address := by
  refine ⟨⟨keeping.apart, ?_, keeping.lived⟩, keeping.anchoredLive⟩
  intro other held mapped
  change update world.pages slot inode other = some held at mapped
  by_cases same : other = slot
  · rw [same, update_self] at mapped
    exact living held mapped
  · rw [update_of_ne same] at mapped
    exact keeping.mapped other held mapped

theorem World.Keeping.note {held : Option Inode}
    (living : ∀ inode, held = some inode → inode ∈ world.live) : World.Keeping { world with
      anchored := world.anchored ∪ (held.elim ∅ fun inode => {inode}) } address := by
  refine ⟨{ keeping with }, ?_⟩
  intro inode member
  rcases mem_union.mp member with before | added
  · exact keeping.anchoredLive before
  cases held with
  | none => exact absurd added (notMem_empty inode)
  | some other =>
    rw [mem_singleton.mp added]
    exact living other rfl

end

/-! ## What the anchor run establishes -/

/-- The pass's bindings and what the emitted anchor records say about them. -/
structure Bound (setting : Setting) (state : State) : Prop where
  owned : ∀ address slot, state.maps.bound setting.config.generation address = some slot →
    state.maps.slots slot = address ∧
      state.maps.observed slot = setting.config.generation + 1
  told : ∀ entry ∈ state.log, entry.record.kind = kindAnchor →
    entry.record.verdict = anchorOk ∨ entry.record.verdict = anchorDup →
      ∃ inode owner, entry.inode = some inode ∧ entry.held = some inode ∧
        inode ∈ state.world.anchored ∧
        state.maps.observed entry.record.a = setting.config.generation + 1 ∧
        state.maps.slots entry.record.a = setting.address inode ∧
        state.maps.bound setting.config.generation (setting.address inode) = some owner ∧
        (entry.record.verdict = anchorOk → owner = entry.record.a) ∧
        (entry.record.verdict = anchorDup →
          owner ≠ entry.record.a ∧ entry.record.start.toUInt32 = owner)

variable {next : Maps}

/-- An observed slot keeps its address and its mark. -/
theorem Noted.keeps {config : IdentityConfig} {maps : Maps} {slot other : UInt32} {address : UInt64}
    (noted : Noted config maps slot address next)
    (observed : maps.observed other = config.generation + 1) :
    next.slots other = maps.slots other ∧ next.observed other = config.generation + 1 := by
  rw [noted.slots, noted.observed]
  by_cases same : other = slot
  · subst same
    rw [update_self, update_self]
    exact ⟨(noted.steady observed).symm, rfl⟩
  · rw [update_of_ne same, update_of_ne same]
    exact ⟨rfl, observed⟩

variable {setting : Setting} {state : State}

/-- The entries so far stay true while bindings are only added. -/
theorem Bound.told_mono (bound : Bound setting state) (next : State)
    (anchored : state.world.anchored ⊆ next.world.anchored)
    (observed : ∀ slot, state.maps.observed slot = setting.config.generation + 1 →
      next.maps.slots slot = state.maps.slots slot ∧
        next.maps.observed slot = setting.config.generation + 1)
    (bindings : ∀ address slot,
      state.maps.bound setting.config.generation address = some slot →
        next.maps.bound setting.config.generation address = some slot) {entry : Shown}
    (member : entry ∈ state.log) (kind : entry.record.kind = kindAnchor)
    (verdict : entry.record.verdict = anchorOk ∨ entry.record.verdict = anchorDup) :
    ∃ inode owner, entry.inode = some inode ∧ entry.held = some inode ∧
      inode ∈ next.world.anchored ∧
      next.maps.observed entry.record.a = setting.config.generation + 1 ∧
      next.maps.slots entry.record.a = setting.address inode ∧
      next.maps.bound setting.config.generation (setting.address inode) = some owner ∧
      (entry.record.verdict = anchorOk → owner = entry.record.a) ∧
      (entry.record.verdict = anchorDup →
        owner ≠ entry.record.a ∧ entry.record.start.toUInt32 = owner) := by
  obtain ⟨inode, owner, named, held, isAnchored, seen, slot, binding, rest⟩ :=
    bound.told entry member kind verdict
  obtain ⟨sameSlot, sameObserved⟩ := observed entry.record.a seen
  exact ⟨inode, owner, named, held, anchored isAnchored, sameObserved, sameSlot.trans slot,
    bindings _ _ binding, rest⟩

/-- A show that leaves the maps alone and reports no binding. -/
theorem Bound.quiet (bound : Bound setting state) (anchored : state.world.anchored ⊆ world.anchored)
    (shown : Show) (held : Option Inode) (record : Option Record)
    (silent : ∀ told ∈ record, told.kind = kindAnchor →
      told.verdict ≠ anchorOk ∧ told.verdict ≠ anchorDup) :
    Bound setting (State.emit ⟨world, state.maps, state.log⟩ shown held record) := by
  refine ⟨bound.owned, ?_⟩
  intro entry member kind verdict
  rcases List.mem_append.mp member with before | added
  · exact bound.told_mono ⟨world, state.maps, []⟩ anchored (fun _ seen => ⟨rfl, seen⟩)
      (fun _ _ binding => binding) before kind verdict
  cases record with
  | none => cases added
  | some told =>
    rw [List.mem_singleton.mp added] at kind verdict
    obtain ⟨notOk, notDup⟩ := silent told rfl kind
    rcases verdict with ok | dup
    · exact absurd ok notOk
    · exact absurd dup notDup

variable {shown : Show}

/-- A shown page is the observer's, with the inode the page holds. -/
theorem page_inode {holds : World → Inode → Prop} {accepted : Bool} {vma : Vma} {address : UInt64}
    (permitted : (AnchorEvent.shown shown accepted).Permitted setting holds world)
    (admitted : shown.task.any setting.config.admitsAnchor = true)
    (context : (shown.context setting.address).vma = some vma)
    (inside : setting.config.inArena vma = true) (shape : setting.config.badShape vma = false)
    (file : vma.file = some address) (present : address ≠ 0) :
    ∃ inode, shown.inode = some inode ∧ address = setting.address inode ∧
      (setting.pageOf shown).bind world.pages = some inode ∧
      world.pages (setting.config.quotient vma).toUInt32 = some inode := by
  obtain ⟨bound, holdsPage⟩ := permitted
  cases mapping : shown.mapping with
  | none => simp [Show.context, mapping] at context
  | some mapped =>
    simp only [Show.context, mapping, Option.map_some, Option.some.injEq] at context
    subst context
    obtain ⟨inode, named, rfl⟩ : ∃ inode, mapped.file = some (some inode) ∧
        setting.address inode = address := by
      simp only [Mapping.vma, Option.map_eq_some_iff] at file
      obtain ⟨pointer, named, at_⟩ := file
      cases pointer with
      | none => exact absurd at_.symm present
      | some inode => exact ⟨inode, named, at_⟩
    have observer : shown.task.any (·.tgid = setting.observer) = true := by
      cases walked : shown.task with
      | none => simp [walked] at admitted
      | some task =>
        simp only [walked, Option.any_some, IdentityConfig.admitsAnchor, Bool.decide_and,
          Bool.and_eq_true, decide_eq_true_eq, Bool.decide_or, Bool.or_eq_true] at admitted
        simp only [Option.any_some, decide_eq_true_eq]
        by_cases any : setting.config.observerTgid = 0
        · exact bound any task walked
        · have exactly := admitted.2.resolve_left any
          rw [setting.named.resolve_left any] at exactly
          exact congrArg Int32.ofUInt32 exactly
    have page : setting.pageOf shown =
        some (setting.config.quotient (mapped.vma setting.address)).toUInt32 := by
      simp only [Setting.pageOf, mapping, Option.map_some]
      exact if_pos ⟨observer, inside, shape⟩
    have seen : shown.inode = some inode := by
      simp [Show.inode, mapping, named]
    have held := holdsPage _ inode page seen
    refine ⟨inode, seen, rfl, ?_, held⟩
    rw [page, Option.bind_some, held]

/-- A noted page: the bindings grow by at most the page's own, and its record says
which binding its inode has. -/
theorem Bound.noted (bound : Bound setting state) (anchored : state.world.anchored ⊆ world.anchored)
    {inode : Inode} {record : Record} (seen : shown.inode = some inode)
    (isAnchored : inode ∈ world.anchored)
    (noted : Noted setting.config state.maps record.a (setting.address inode) next)
    (grows : ∀ at_ slot, state.maps.bound setting.config.generation at_ = some slot →
      next.bound setting.config.generation at_ = some slot)
    (only : ∀ at_ slot, next.bound setting.config.generation at_ = some slot →
      state.maps.bound setting.config.generation at_ = some slot ∨
        (at_ = setting.address inode ∧ slot = record.a))
    (tells : record.verdict = anchorOk ∨ record.verdict = anchorDup →
      ∃ owner, next.bound setting.config.generation (setting.address inode) = some owner ∧
        (record.verdict = anchorOk → owner = record.a) ∧
        (record.verdict = anchorDup → owner ≠ record.a ∧ record.start.toUInt32 = owner)) :
    Bound setting (State.emit ⟨world, next, state.log⟩ shown (some inode) (some record)) := by
  have atSlot : next.slots record.a = setting.address inode ∧
      next.observed record.a = setting.config.generation + 1 := by
    rw [noted.slots, noted.observed, update_self, update_self]
    exact ⟨rfl, rfl⟩
  constructor
  · intro address owner binding
    rcases only address owner binding with before | ⟨rfl, rfl⟩
    · obtain ⟨at_, observed⟩ := bound.owned address owner before
      obtain ⟨sameSlot, sameObserved⟩ := noted.keeps observed
      exact ⟨sameSlot.trans at_, sameObserved⟩
    · exact atSlot
  · intro entry member kind verdict
    rcases List.mem_append.mp member with before | added
    · exact bound.told_mono ⟨world, next, []⟩ anchored (fun _ observed => noted.keeps observed)
        grows before kind verdict
    · obtain rfl := List.mem_singleton.mp added
      obtain ⟨owner, binding, ok, dup⟩ := tells verdict
      exact ⟨inode, owner, seen, rfl, isAnchored, atSlot.2, atSlot.1, binding, ok, dup⟩

/-- A page shown: every outcome keeps the bindings one to one. -/
theorem Bound.page (bound : Bound setting state) (anchored : state.world.anchored ⊆ world.anchored)
    {inode : Inode} {slot : UInt32} {record : Record} (seen : shown.inode = some inode)
    (isAnchored : inode ∈ world.anchored)
    (slotShown : SlotShown setting.config state.maps slot (setting.address inode) next record) :
    Bound setting (State.emit ⟨world, next, state.log⟩ shown (some inode) (some record)) := by
  cases slotShown with
  | contested =>
    refine bound.quiet anchored shown (some inode) (some _) ?_
    rintro told ⟨⟩ -
    change anchorConflict ≠ anchorOk ∧ anchorConflict ≠ anchorDup
    decide
  | refused noted same =>
    refine bound.noted anchored seen isAnchored noted ?_ ?_ ?_
    · intro at_ owner binding
      exact (same at_).trans binding
    · intro at_ owner binding
      exact Or.inl ((same at_).symm.trans binding)
    · intro verdict
      change anchorFull = anchorOk ∨ anchorFull = anchorDup at verdict
      exact absurd verdict (by decide)
  | @aliased _ owner noted held other same =>
    refine bound.noted anchored seen isAnchored noted ?_ ?_ ?_
    · intro at_ owner binding
      exact (same at_).trans binding
    · intro at_ owner binding
      exact Or.inl ((same at_).symm.trans binding)
    · intro _
      refine ⟨owner, (same _).trans held, ?_, fun _ => ⟨other, ?_⟩⟩
      · intro ok
        change anchorDup = anchorOk at ok
        exact absurd ok (by decide)
      · exact UInt32.toUInt32_toUInt64 owner
  | installed noted free binds =>
    refine bound.noted anchored seen isAnchored noted ?_ ?_ ?_
    · intro at_ owner binding
      rw [binds]
      split
      next same =>
        rw [← same] at binding
        rw [free owner binding]
      next => exact binding
    · intro at_ owner binding
      rw [binds] at binding
      split at binding
      next same => exact Or.inr ⟨same.symm, (Option.some.inj binding).symm⟩
      next => exact Or.inl binding
    · intro _
      refine ⟨slot, by rw [binds, if_pos rfl], fun _ => rfl, ?_⟩
      intro dup
      change anchorOk = anchorDup at dup
      exact absurd dup (by decide)

/-- One event of the anchor run. -/
theorem Bound.anchorStep {event : AnchorEvent}
    (permitted : event.Permitted setting World.holdsShown state.world)
    (held : state.world.Keeping setting.address ∧ Bound setting state) :
    (state.anchorStep setting event).world.Keeping setting.address ∧
      Bound setting (state.anchorStep setting event) := by
  obtain ⟨keeping, bound⟩ := held
  cases event with
  | world happening =>
    refine ⟨keeping.happen permitted, bound.owned, ?_⟩
    cases happening with
    | born | died => exact bound.told
  | remap slot inode => exact ⟨keeping.remap slot permitted, bound.owned, bound.told⟩
  | shown shown accepted =>
    have living : ∀ inode, (setting.pageOf shown).bind state.world.pages = some inode →
        inode ∈ state.world.live := by
      intro inode found
      obtain ⟨slot, -, mapped⟩ := Option.bind_eq_some_iff.mp found
      exact keeping.mapped slot inode mapped
    refine ⟨keeping.note living, ?_⟩
    have grows : ∀ held : Option Inode, state.world.anchored ⊆
        state.world.anchored ∪ (held.elim ∅ fun inode => {inode}) :=
      fun _ => subset_union_left
    have called := anchorVma_shown setting.config state.maps (shown.context setting.address)
      accepted
    unfold State.anchorStep
    dsimp only
    generalize setting.config.anchorVma state.maps (shown.context setting.address) accepted =
      result at called
    obtain ⟨next, record⟩ := result
    cases called with
    | skipped =>
      refine bound.quiet (grows _) shown _ none ?_
      rintro told ⟨⟩
    | ended =>
      refine bound.quiet (grows _) shown _ (some _) ?_
      rintro told ⟨⟩ kind
      cases kind
    | misshapen slot =>
      refine bound.quiet (grows _) shown _ (some _) ?_
      rintro told ⟨⟩ -
      change anchorBadShape ≠ anchorOk ∧ anchorBadShape ≠ anchorDup
      decide
    | page admitted context inside shape file present slotShown =>
      obtain ⟨inode, seen, rfl, held, -⟩ :=
        page_inode permitted admitted context inside shape file present
      rw [held]
      refine bound.page (grows (some inode)) seen ?_ slotShown
      exact mem_union_right _ (mem_singleton_self inode)

theorem Bound.fresh (fresh : state.maps.Fresh setting.config.generation) :
    Bound setting state.opened where
  owned := by
    intro address slot binding
    have none := fresh.unbound address
    rw [show state.opened.maps = state.maps from rfl, none] at binding
    cases binding
  told := by
    intro entry member
    cases member

/-- What holds when the anchor run ends. -/
theorem Passes.anchored {events : List AnchorEvent} {runs : List TargetRun}
    (passes : Passes setting World.holdsShown state events runs) :
    (state.anchorRun setting events).world.Keeping setting.address ∧
      Bound setting (state.anchorRun setting events) := by
  refine AllPermitted.foldl
    (fun state => state.world.Keeping setting.address ∧ Bound setting state)
    (fun _ _ permitted held => Bound.anchorStep permitted held) events state.opened
    passes.anchors ⟨⟨passes.sound, ?_⟩, Bound.fresh passes.fresh⟩
  change state.world.anchored ⊆ _
  rw [passes.unshown]
  exact empty_subset _

end P11Scope.Identity
