import P11Scope.Identity.Pass

/-!
# Slot proofs name inodes

If the inodes shown on anchor pages live until the pass ends, a slot answered in
an accepted target run is the inode that an expecting candidate's page held.
-/

variable {holds : World → Inode → Prop}

namespace P11Scope.Identity

open Std

/-! ## Target runs -/

/-- Target runs leave the maps alone; a verdict names the slot the shown inode is bound
to, and that inode is told apart from every other anchored one. -/
structure Answering (setting : Setting) (anchored : State) (state : State) : Prop where
  keeping : state.world.Keeping setting.address
  maps : state.maps = anchored.maps
  kept : state.world.anchored = anchored.world.anchored
  answers : ∀ entry ∈ state.log, entry.record.kind = kindVma →
    ∃ inode, entry.inode = some inode ∧
      entry.record.verdict = (anchored.maps.bound setting.config.generation
        (setting.address inode)).getD verdictNone ∧
      ∀ other ∈ anchored.world.anchored,
        setting.address other = setting.address inode → other = inode

variable {anchored : State} {setting : Setting} {state : State}

theorem Answering.targetStep {run : TargetRun} {event : TargetEvent}
    (permitted : event.Permitted setting World.holdsShown state.world)
    (held : Answering setting anchored state) :
    Answering setting anchored (state.targetStep setting run event) := by
  cases event with
  | world happening =>
    have same : (state.world.happen happening).anchored = state.world.anchored := by
      cases happening with
      | born | died => rfl
    exact ⟨held.keeping.happen permitted, held.maps, same.trans held.kept, held.answers⟩
  | shown shown =>
    refine ⟨held.keeping, held.maps, held.kept, ?_⟩
    intro entry member kind
    rcases List.mem_append.mp member with before | added
    · exact held.answers entry before kind
    cases emitted : (setting.targetConfig run).identityVma run.scope state.maps
        (shown.context setting.address) with
    | none =>
      rw [emitted] at added
      cases added
    | some record =>
      rw [emitted] at added
      obtain rfl := List.mem_singleton.mp added
      obtain ⟨vma, address, context, file, present, -, -, verdict⟩ :=
        identityVma_shown emitted kind
      obtain ⟨inode, seen, at_⟩ : ∃ inode, shown.inode = some inode ∧
          address = setting.address inode := by
        obtain ⟨mapping, found, rfl⟩ := Option.map_eq_some_iff.mp context
        obtain ⟨pointer, named, at_⟩ := Option.map_eq_some_iff.mp file
        cases pointer with
        | none => exact absurd at_.symm present
        | some inode => exact ⟨inode, by simp [Show.inode, found, named], at_.symm⟩
      refine ⟨inode, seen, ?_, ?_⟩
      · rw [← at_, ← held.maps]
        exact verdict
      · intro other isAnchored same
        refine held.keeping.apart other ?_ inode (permitted inode seen) same
        exact held.keeping.anchoredLive (held.kept ▸ isAnchored)

theorem Answering.opened (held : Answering setting anchored state) :
    Answering setting anchored state.opened where
  keeping := held.keeping
  maps := held.maps
  kept := held.kept
  answers := by
    intro entry member
    cases member

theorem Answering.targetRun {run : TargetRun} (held : Answering setting anchored state.opened)
    (permitted : AllPermitted (TargetEvent.Permitted setting World.holdsShown)
      (State.targetStep setting run) state.opened run.events) :
    Answering setting anchored (state.targetRun setting run) :=
  AllPermitted.foldl (Answering setting anchored)
    (fun _ _ permitted held => held.targetStep permitted) run.events state.opened permitted
    held

/-- Every target run of the pass answers from the anchor run's bindings. -/
theorem Answering.targetRuns (run : TargetRun) (before : List TargetRun) :
    ∀ state, Answering setting anchored state.opened →
      TargetsPermitted setting World.holdsShown state (before ++ [run]) →
      Answering setting anchored
        ((before.foldl (State.targetRun setting) state).targetRun setting run) := by
  induction before with
  | nil =>
    intro state held permitted
    exact held.targetRun permitted.1
  | cons first rest ih =>
    intro state held permitted
    exact ih (state.targetRun setting first) (held.targetRun permitted.1).opened permitted.2

/-! ## Candidates -/

theorem mem_kept {record : Record} (member : record ∈ state.kept) :
    ∃ entry ∈ state.log, entry.kept = true ∧ entry.record = record := by
  obtain ⟨entry, found, rfl⟩ := List.mem_map.mp member
  obtain ⟨logged, kept⟩ := List.mem_filter.mp found
  exact ⟨entry, logged, kept, rfl⟩

theorem kept_mem {entry : Shown} (member : entry ∈ state.log) (kept : entry.kept = true) :
    entry.record ∈ state.kept :=
  List.mem_map.mpr ⟨entry, List.mem_filter.mpr ⟨member, kept⟩, rfl⟩

/-- The kept records about a slot's page. -/
def State.About (state : State) (slot : UInt32) (entry : Shown) : Prop :=
  entry ∈ state.log ∧ entry.kept = true ∧ entry.record.kind = kindAnchor ∧
    entry.record.a = slot

/-- The kept verdicts about a range of a process. -/
def State.Answers (state : State) (pid : UInt32) (range : UInt64 × UInt64) (entry : Shown) :
    Prop :=
  entry ∈ state.log ∧ entry.kept = true ∧ entry.record.kind = kindVma ∧
    entry.record.a = pid ∧ (entry.record.start, entry.record.stop) = range

/-- A candidate's root is the slot its page's inode is bound to. -/
theorem Bound.rooted (bound : Bound setting state) {expect : Expect} {run : Run}
    (accepted : parse (stream state.kept) expect = .ok run) {candidate : Candidate} {slot : UInt32}
    (root : candidate.root run = some slot) : (∃ entry, state.About candidate.slot entry) ∧
      ∀ entry, state.About candidate.slot entry →
        ∃ inode ∈ state.world.anchored, entry.inode = some inode ∧ entry.held = some inode ∧
          state.maps.bound setting.config.generation (setting.address inode) = some slot := by
  unfold Candidate.root at root
  have about : ∀ record ∈ recordsOf (stream state.kept), record.kind = kindAnchor →
      record.a = candidate.slot → ∃ entry, state.About candidate.slot entry := by
    intro record member kind at_
    rw [recordsOf_stream] at member
    obtain ⟨entry, logged, kept, rfl⟩ := mem_kept member
    exact ⟨entry, logged, kept, kind, at_⟩
  cases outcome : run.anchors[candidate.slot]? with
  | none => rw [outcome] at root; cases root
  | some outcome' =>
    rw [outcome] at root
    cases outcome' with
    | ok =>
      obtain ⟨⟨record, member, kind, at_⟩, all⟩ := parse_installed accepted outcome
      refine ⟨about record member kind at_, ?_⟩
      rintro entry ⟨logged, kept, kind, at_⟩
      have ok := all entry.record (by rw [recordsOf_stream]; exact kept_mem logged kept) kind at_
      obtain ⟨inode, owner, seen, held, isAnchored, -, -, binding, own, -⟩ :=
        bound.told entry logged kind (Or.inl ok)
      refine ⟨inode, isAnchored, seen, held, ?_⟩
      rw [binding, own ok, at_]
      exact root
    | dup next =>
      cases root
      obtain ⟨next, ⟨record, member, kind, at_⟩, all, hop⟩ := parse_alias accepted outcome
      refine ⟨about record member kind at_, ?_⟩
      rintro entry ⟨logged, kept, kind, at_⟩
      obtain ⟨dup, named⟩ := all entry.record
        (by rw [recordsOf_stream]; exact kept_mem logged kept) kind at_
      obtain ⟨inode, owner, seen, held, isAnchored, -, -, binding, -, own⟩ :=
        bound.told entry logged kind (Or.inr dup)
      obtain ⟨-, start⟩ := own dup
      rw [named] at start
      subst start
      refine ⟨inode, isAnchored, seen, held, ?_⟩
      rcases hop with same | ⟨later, member, kind, at_, dup⟩
      · rw [binding, same]
      -- the owner of a binding never aliases another slot
      rw [recordsOf_stream] at member
      obtain ⟨other, logged, -, rfl⟩ := mem_kept member
      obtain ⟨inode', owner', -, -, -, -, slot', binding', -, own'⟩ :=
        bound.told other logged kind (Or.inr dup)
      have address : setting.address inode' = setting.address inode := by
        rw [← slot', at_]
        exact (bound.owned _ _ binding).1
      rw [address, binding] at binding'
      exact absurd ((Option.some.inj binding').symm.trans at_.symm) (own' dup).1
    | full | badShape | conflict => cases root

/-- An expected slot that is answered names the inode of an expecting candidate's page:
every kept record of the page was shown with it, while the page held it, and so was
every kept record of the range. -/
def SameInode (pass accepted : AnchorPass) (parsed : Run) (anchored answered : State) : Prop :=
  ∀ key file slot pid range, slot ∈ accepted.expected key file →
    parsed.verdictOf pid range = some (.slot slot) →
      ∃ candidate ∈ pass.candidates, key ∈ candidate.keys ∧ candidate.file = file ∧
        ∃ inode, (∃ entry, anchored.About candidate.slot entry) ∧
          (∀ entry, anchored.About candidate.slot entry →
            entry.inode = some inode ∧ entry.held = some inode) ∧
          (∃ entry, answered.Answers pid range entry) ∧
          ∀ entry, answered.Answers pid range entry → entry.inode = some inode

/-- Installations, kept or discarded, pair slots with inodes. -/
def OneToOne (anchored : State) : Prop :=
  ∀ first ∈ anchored.log, ∀ second ∈ anchored.log,
    first.record.kind = kindAnchor → first.record.verdict = anchorOk →
    second.record.kind = kindAnchor → second.record.verdict = anchorOk →
      (first.record.a = second.record.a ↔ first.inode = second.inode)

theorem Bound.oneToOne (bound : Bound setting state) (keeping : state.world.Keeping setting.address)
    : OneToOne state := by
  intro first memberFirst second memberSecond kindFirst okFirst kindSecond okSecond
  obtain ⟨inode, owner, seen, -, isAnchored, -, slot, binding, own, -⟩ :=
    bound.told first memberFirst kindFirst (Or.inl okFirst)
  obtain ⟨inode', owner', seen', -, isAnchored', -, slot', binding', own', -⟩ :=
    bound.told second memberSecond kindSecond (Or.inl okSecond)
  constructor
  · intro same
    rw [same, slot'] at slot
    rw [seen, seen', keeping.apart inode' (keeping.anchoredLive isAnchored') inode
      (keeping.anchoredLive isAnchored) slot]
  · intro same
    rw [seen, seen', Option.some.injEq] at same
    subst same
    rw [← own okFirst, ← own' okSecond]
    exact Option.some.inj (binding.symm.trans binding')

theorem Answering.sameInode {answered : State} (held : Answering setting anchored answered)
    (bound : Bound setting anchored) {pass accepted : AnchorPass} {processId : UInt32}
    {generation : UInt64} {expect : Expect} {parsed : Run}
    (accepts : pass.acceptAnchorRun processId (stream anchored.kept) generation = .ok accepted)
    (parses : parse (stream answered.kept) expect = .ok parsed) :
    SameInode pass accepted parsed anchored answered := by
  intro key file slot pid range expected told
  obtain ⟨run, ran, candidate, listed, own, role, root⟩ :=
    acceptAnchorRun_expected accepts expected
  obtain ⟨page, pages⟩ := bound.rooted ran root
  obtain ⟨matched, ⟨record, member, kind, samePid, sameRange⟩, all⟩ := parse_verdict parses told
  rw [recordsOf_stream] at member
  obtain ⟨shown, logged, kept, rfl⟩ := mem_kept member
  -- every page and every answer have the address the slot is bound to
  have agree : ∀ entry, anchored.About candidate.slot entry →
      ∀ answer, answered.Answers pid range answer →
        ∃ inode, entry.inode = some inode ∧ entry.held = some inode ∧
          answer.inode = some inode := by
    rintro entry about answer ⟨logged, kept, kind, samePid, sameRange⟩
    obtain ⟨inode, isAnchored, seen, held', binding⟩ := pages entry about
    obtain ⟨inode', seen', verdict, apart⟩ := held.answers answer logged kind
    have named := all answer.record (by rw [recordsOf_stream]; exact kept_mem logged kept) kind
      samePid sameRange
    rw [named] at verdict
    have binding' : anchored.maps.bound setting.config.generation (setting.address inode') =
        some slot := by
      cases found : anchored.maps.bound setting.config.generation (setting.address inode') with
      | none =>
        rw [found] at verdict
        exact absurd verdict matched
      | some owner =>
        rw [found] at verdict
        exact congrArg some verdict.symm
    have address : setting.address inode = setting.address inode' :=
      (bound.owned _ _ binding).1.symm.trans (bound.owned _ _ binding').1
    refine ⟨inode, seen, held', ?_⟩
    rw [seen', apart inode isAnchored address]
  obtain ⟨first, about⟩ := page
  obtain ⟨inode, seen, held', answer⟩ :=
    agree first about shown ⟨logged, kept, kind, samePid, sameRange⟩
  refine ⟨candidate, listed, own, role, inode, ⟨first, about⟩, ?_,
    ⟨shown, logged, kept, kind, samePid, sameRange⟩, ?_⟩
  · intro entry other
    obtain ⟨inode', seen', held'', answer'⟩ :=
      agree entry other shown ⟨logged, kept, kind, samePid, sameRange⟩
    rw [answer] at answer'
    rw [Option.some.inj answer']
    exact ⟨seen', held''⟩
  · intro entry other
    obtain ⟨inode', seen', -, answer'⟩ := agree first about entry other
    rw [seen] at seen'
    rw [answer', Option.some.inj seen']

/-- In every pass with a fresh generation whose shown page inodes live to its end, an
accepted slot proof means the same inode, and installations are one to one. -/
theorem slot_proof_same_inode {setting : Setting} {state : State} {events : List AnchorEvent}
    {before : List TargetRun} {run : TargetRun} {pass accepted : AnchorPass}
    {processId : UInt32} {expect : Expect} {parsed : Run}
    (passes : Passes setting World.holdsShown state events (before ++ [run]))
    (accepts : pass.acceptAnchorRun processId (stream (state.anchorRun setting events).kept)
      setting.config.generation = .ok accepted)
    (parses : parse (stream ((before.foldl (State.targetRun setting)
      (state.anchorRun setting events)).targetRun setting run).kept) expect = .ok parsed) :
    SameInode pass accepted parsed (state.anchorRun setting events)
        ((before.foldl (State.targetRun setting) (state.anchorRun setting events)).targetRun
          setting run) ∧
      OneToOne (state.anchorRun setting events) := by
  obtain ⟨keeping, bound⟩ := passes.anchored
  have unanswered : Answering setting (state.anchorRun setting events)
      (state.anchorRun setting events).opened :=
    ⟨keeping, rfl, rfl, nofun⟩
  have answering := Answering.targetRuns run before _ unanswered passes.targets
  exact ⟨answering.sameInode bound accepts parses, bound.oneToOne keeping⟩

/-! ## A reused address -/

/-- Two inodes share an address, one after the other. -/
def reusing : Setting where
  address := fun inode => if inode = 0 then 0x1000 else 0x2000
  config := ⟨1, 0x10000, 0x2000, 1, 7, 0, 0⟩
  observer := 7
  named := Or.inr (by decide)

def emptyMaps : Maps := ⟨{}, fun _ => 0, fun _ => 0⟩

/-- The page of slot 0 holds inode 0, and inode 1 lives. -/
def beforePass : State :=
  ⟨⟨{0, 1}, {0, 1}, fun slot => if slot = 0 then some 0 else none, ∅⟩, emptyMaps, []⟩

def shownPage (inode : Inode) : Show :=
  ⟨some ⟨7, 7⟩, some ⟨0x10000, 0x11000, none, some (some inode)⟩, true⟩

def shownTarget (inode : Inode) : Show :=
  ⟨some ⟨42, 42⟩, some ⟨0x4000, 0x5000, some 4, some (some inode)⟩, true⟩

def shownEnd : Show := ⟨none, none, true⟩

def soleKey : ObjectKey := ⟨8, 1, 99⟩

/-- One candidate, pinned, on slot 0. -/
def soleCandidate : AnchorPass where
  arenaLen := some 0x2000
  candidates := [⟨({} : ExtTreeSet ObjectKey).insert soleKey, 0, .pinned 5⟩]
  fallback := {}
  expectedMatches := {}
  expectedExamined := {}

def targetExpect : Expect where
  generation := 1
  slots := 1
  scope := ({} : ExtTreeSet UInt32).insert 42
  enforceScope := true
  mode := .wholeSystem
  run := .target

/-- The page is shown with inode 1 between two remaps. -/
def remapped : List AnchorEvent :=
  [.remap 0 (some 1), .shown (shownPage 1) true, .remap 0 (some 0), .shown shownEnd true]

/-- After the anchor run inode 1 dies and inode 2 is born where it lived. -/
def reborn : TargetRun :=
  ⟨0, 0, fun _ => (1 : UInt64) <<< 42,
    [.world (.died 1), .world (.born 2), .shown (shownTarget 2), .shown shownEnd]⟩

def steady : List AnchorEvent := [.shown (shownPage 0) true, .shown shownEnd true]

def mappedOnce : TargetRun :=
  ⟨0, 0, fun _ => (1 : UInt64) <<< 42, [.shown (shownTarget 0), .shown shownEnd]⟩

/-- The slots that a key expects after accepting the stream. -/
def acceptedSlots (bytes : List UInt8) : Option (List UInt32) :=
  (soleCandidate.acceptAnchorRun 7 bytes 1).toOption.map
    fun accepted => (accepted.expected soleKey (.pinned 5)).toList

def answeredSlot (bytes : List UInt8) : Option TargetVerdict :=
  (parse bytes targetExpect).toOption.bind fun parsed => parsed.verdictOf 42 (0x4000, 0x5000)

theorem acceptedSlots_some {bytes : List UInt8} {slots : List UInt32}
    (told : acceptedSlots bytes = some slots) :
    ∃ accepted, soleCandidate.acceptAnchorRun 7 bytes 1 = .ok accepted ∧
      ∀ slot ∈ slots, slot ∈ accepted.expected soleKey (.pinned 5) := by
  unfold acceptedSlots at told
  cases accepts : soleCandidate.acceptAnchorRun 7 bytes 1 with
  | error message => rw [accepts] at told; cases told
  | ok accepted =>
    rw [accepts] at told
    refine ⟨accepted, rfl, fun slot member => ExtTreeSet.mem_toList.mp ?_⟩
    rw [← Option.some.inj told] at member
    exact member

theorem answeredSlot_some {bytes : List UInt8} {verdict : TargetVerdict}
    (told : answeredSlot bytes = some verdict) :
    ∃ parsed, parse bytes targetExpect = .ok parsed ∧
      parsed.verdictOf 42 (0x4000, 0x5000) = some verdict := by
  unfold answeredSlot at told
  cases parses : parse bytes targetExpect with
  | error invalid => rw [parses] at told; cases told
  | ok parsed =>
    rw [parses] at told
    exact ⟨parsed, rfl, told⟩

theorem acceptedSlots_remapped :
    acceptedSlots (stream (beforePass.anchorRun reusing remapped).kept) = some [0] := by
  decide +kernel

theorem answeredSlot_reborn :
    answeredSlot (stream ((beforePass.anchorRun reusing remapped).targetRun reusing reborn).kept)
      = some (.slot 0) := by
  decide +kernel

theorem beforePass_sound : beforePass.world.Sound reusing.address where
  apart := by decide +kernel
  mapped := by
    intro slot inode mapped
    change (if slot = 0 then some 0 else none) = some inode at mapped
    split at mapped
    · rw [← Option.some.inj mapped]
      decide
    · cases mapped
  lived := Finset.Subset.refl _

theorem emptyMaps_fresh : emptyMaps.Fresh 1 where
  unbound := by
    simp [Maps.bound, emptyMaps]
  unobserved := by
    intro slot
    change (0 : UInt64) ≠ 1 + 1
    decide

theorem shownPage_permitted {world : World} {inode : Inode} (page : world.pages 0 = some inode)
    (first : reusing.pageOf (shownPage inode) = some 0) (accepted : Bool) :
    (AnchorEvent.shown (shownPage inode) accepted).Permitted reusing holds world := by
  constructor
  · intro any
    exact absurd any (by decide)
  · intro slot held at_ seen
    rw [first] at at_
    rw [← Option.some.inj at_, ← seen]
    exact page

theorem shownEnd_permitted {world : World} (accepted : Bool) :
    (AnchorEvent.shown shownEnd accepted).Permitted reusing holds world := by
  constructor
  · intro any
    exact absurd any (by decide)
  · intro slot held _ seen
    cases seen

/-- Where inodes are kept alive only while they are mapped, the pass may go this way. -/
theorem reborn_passes : Passes reusing World.holdsMapped beforePass remapped [reborn] where
  sound := beforePass_sound
  unshown := rfl
  fresh := emptyMaps_fresh
  anchors := by
    refine ⟨?_, shownPage_permitted rfl (by decide +kernel) true, ?_, shownEnd_permitted true,
      trivial⟩
    · rintro held ⟨⟩
      decide
    · rintro held ⟨⟩
      decide
  targets := by
    refine ⟨⟨?_, ⟨by decide +kernel, by decide +kernel⟩, ?_, ?_, trivial⟩, trivial⟩
    · rintro ⟨slot, mapped⟩
      change Function.update (Function.update beforePass.world.pages 0 (some 1)) 0 (some 0) slot =
        some 1 at mapped
      by_cases first : slot = 0
      · rw [first] at mapped
        cases mapped
      rw [Function.update_of_ne first, Function.update_of_ne first] at mapped
      change (if slot = 0 then some 0 else none) = some 1 at mapped
      rw [if_neg first] at mapped
      cases mapped
    · rintro inode ⟨⟩
      decide +kernel
    · rintro inode ⟨⟩

/-- Reusing an address deceives a pass whose shown inodes die: the slot a candidate
expects is answered for inode 2, which no anchor page ever held. -/
theorem slot_proof_reused_address :
    Passes reusing World.holdsMapped beforePass remapped [reborn] ∧
      (∃ accepted, soleCandidate.acceptAnchorRun 7
          (stream (beforePass.anchorRun reusing remapped).kept) 1 = .ok accepted ∧
        0 ∈ accepted.expected soleKey (.pinned 5)) ∧
      (∃ parsed, parse (stream
          ((beforePass.anchorRun reusing remapped).targetRun reusing reborn).kept) targetExpect =
            .ok parsed ∧
        parsed.verdictOf 42 (0x4000, 0x5000) = some (.slot 0)) ∧
      ((beforePass.anchorRun reusing remapped).targetRun reusing reborn).log.map (·.inode) =
        [some 2, none] ∧
      (∀ slot, beforePass.world.pages slot ≠ some 2) ∧
      ∀ slot inode, AnchorEvent.remap slot inode ∈ remapped → inode ≠ some 2 := by
  refine ⟨reborn_passes, ?_, ?_, by decide +kernel, ?_, ?_⟩
  · obtain ⟨accepted, accepts, expected⟩ := acceptedSlots_some acceptedSlots_remapped
    exact ⟨accepted, accepts, expected 0 (List.mem_singleton.mpr rfl)⟩
  · exact answeredSlot_some answeredSlot_reborn
  · intro slot
    change (if slot = 0 then some 0 else none) ≠ some 2
    split
    · decide
    · decide
  · intro slot inode member
    simp only [remapped, List.mem_cons, AnchorEvent.remap.injEq, reduceCtorEq, List.not_mem_nil,
      or_false, false_or] at member
    rcases member with ⟨-, rfl⟩ | ⟨-, rfl⟩
    · decide
    · decide

theorem steady_passes : Passes reusing World.holdsShown beforePass steady [mappedOnce] where
  sound := beforePass_sound
  unshown := rfl
  fresh := emptyMaps_fresh
  anchors := ⟨shownPage_permitted rfl (by decide +kernel) true, shownEnd_permitted true, trivial⟩
  targets := by
    refine ⟨⟨?_, ?_, trivial⟩, trivial⟩
    · rintro inode ⟨⟩
      decide +kernel
    · rintro inode ⟨⟩

/-- A pass in which the page's file is found mapped. -/
theorem slot_proof_same_inode_steady :
    ∃ accepted parsed, 0 ∈ accepted.expected soleKey (.pinned 5) ∧
      parsed.verdictOf 42 (0x4000, 0x5000) = some (.slot 0) ∧
      SameInode soleCandidate accepted parsed (beforePass.anchorRun reusing steady)
        ((beforePass.anchorRun reusing steady).targetRun reusing mappedOnce) := by
  have expects : acceptedSlots (stream (beforePass.anchorRun reusing steady).kept) =
      some [0] := by decide +kernel
  have answers : answeredSlot (stream
      ((beforePass.anchorRun reusing steady).targetRun reusing mappedOnce).kept) =
        some (.slot 0) := by decide +kernel
  obtain ⟨accepted, accepts, expected⟩ := acceptedSlots_some expects
  obtain ⟨parsed, parses, told⟩ := answeredSlot_some answers
  have shown : Passes reusing World.holdsShown beforePass steady ([] ++ [mappedOnce]) :=
    steady_passes
  exact ⟨accepted, parsed, expected 0 (List.mem_singleton.mpr rfl), told,
    (slot_proof_same_inode shown accepts parses).1⟩

end P11Scope.Identity
