import P11Scope.Counters.Staging

/-!
# Staging as a transaction

A stage ends published, rolled back, quarantined, or refused before it changed
anything.  The exchanges with the native operations say which, whatever those
operations answer.
-/

namespace P11Scope.Counters

open P11Scope.Lib List

abbrev BankExchange := Asking.Exchange BankQuery BankAnswer

/-- What an exchange leaves to be removed.  An attempt to attach links may leave some
behind even when it fails. -/
def owed : BankExchange → Option Removal
  | ⟨.insertRoute slot route, .ok _⟩ => some (.route slot route)
  | ⟨.insertInner bank id, .ok _⟩ => some (.bank bank id)
  | ⟨.attachInactive slots, _⟩ => some (.links slots)
  | _ => none

def removed : BankExchange → Option Removal
  | ⟨.remove removal, .ok _⟩ => some removal
  | _ => none

/-- Whether the operation may change native state. -/
def mutates : BankExchange → Bool
  | ⟨.reserve _, _⟩ | ⟨.validateTargets _ _ _, _⟩ | ⟨.verifyCandidate _ _ _, _⟩
  | ⟨.observeCommit _ _, _⟩ => false
  | _ => true

/-! ## One stage -/

/-- The number and the extent a stage consumed, if it began. -/
def BankPublication.consumed : BankPublication → Option (Nat × BankExtent)
  | .published transaction extent => some (transaction, extent)
  | .rolledBack transaction extent _ => some (transaction, extent)
  | .quarantined transaction extent => some (transaction, extent)
  | .refused _ => none

/-- A stage that happened. -/
structure Stage where
  before : BankDirectory
  plan : AttachPlan
  exchanges : List BankExchange
  after : BankDirectory
  planAfter : AttachPlan
  outcome : BankPublication

def Stage.consumed (stage : Stage) : Option (Nat × BankExtent) := stage.outcome.consumed

/-- What the outcome of a stage says about its exchanges with the native operations. -/
def Stage.Settled (stage : Stage) : Prop :=
  match stage.outcome with
  | .published transaction extent => ∃ earlier expected allSlots published reply,
      expected.checkedWith stage.before.geometry = .ok expected ∧
      expected.transaction = transaction ∧ expected.commit.extent = extent ∧
      (∀ pair ∈ expected.routes, .route pair.1 pair.2 ∈ earlier.filterMap owed) ∧
      stage.exchanges = earlier ++
        [⟨.verifyCandidate expected allSlots published, CandidateCheck.exact⟩,
          ⟨.insertCommit transaction expected.commit, reply⟩,
          ⟨.verifyCandidate expected allSlots published, CandidateCheck.exact⟩,
          ⟨.observeCommit transaction expected.commit, CommitObservation.exact⟩]
  | .rolledBack transaction extent _ => ∃ earlier trace,
      stage.exchanges = earlier ++ ⟨.observeCommit transaction
        ⟨extent, stage.before.geometry.configuration⟩, CommitObservation.absent⟩ :: trace ∧
      ∀ removal ∈ earlier.filterMap owed, removal ∈ trace.filterMap removed
  | .quarantined _ _ => stage.after.quarantined = true
  | .refused _ => (∀ exchange ∈ stage.exchanges, mutates exchange = false) ∧
      stage.planAfter = stage.plan ∧
      (stage.after = stage.before ∨ stage.after = { stage.before with quarantined := true })

/-- What a stage that began did to the directory. -/
structure Advances (before after : BankDirectory) (transaction : Nat) (extent : BankExtent) :
    Prop where
  number : before.nextTransaction = some transaction
  next : ∀ later, after.nextTransaction = some later → transaction < later
  first : extent.first = before.positions.length
  nonempty : extent.first < extent.stop
  stop : after.positions.length = extent.stop
  kept : ∀ index < extent.first, after.positions[index]? = before.positions[index]?

/-- Every stage settles; it advances the directory or leaves its positions alone; a
quarantined directory refuses it at once. -/
structure Stage.Sound (stage : Stage) : Prop where
  settled : stage.Settled
  advances : ∀ transaction extent, stage.consumed = some (transaction, extent) →
    Advances stage.before stage.after transaction extent
  refused : stage.consumed = none → stage.after.positions = stage.before.positions ∧
    stage.after.nextTransaction = stage.before.nextTransaction
  stuck : stage.before.quarantined = true → stage.outcome = .refused .quarantined ∧
    stage.exchanges = [] ∧ stage.after = stage.before

namespace Begun

variable {begun : Begun} {draft : Draft} {before : List BankExchange}

/-- The draft knows everything that is owed, and its commit was not attempted. -/
structure Tracks (begun : Begun) (exchanges : List BankExchange) (draft : Draft) : Prop where
  owed : ∀ removal, removal ∈ exchanges.filterMap owed ↔ removal ∈ begun.removals draft
  unattempted : draft.candidate = none

/-- An attempted commit is that of a complete candidate verified just before; `since`
is what happened after it. -/
structure Built (begun : Begun) (exchanges : List BankExchange) (draft : Draft)
    (since : StagedExtent → List BankExchange) : Prop where
  owed : ∀ removal, removal ∈ exchanges.filterMap owed ↔ removal ∈ begun.removals draft
  attempted : ∀ expected, draft.candidate = some expected →
    expected.checkedWith begun.directory.geometry = .ok expected ∧
    expected = ⟨begun.transaction, begun.commit, draft.routes, draft.ids⟩ ∧
    ∃ earlier reply, exchanges = earlier ++
      ⟨.verifyCandidate expected begun.plan.slots begun.published, CandidateCheck.exact⟩ ::
      ⟨.insertCommit begun.transaction begun.commit, reply⟩ :: since expected

section

variable (tracks : begun.Tracks before draft)
include tracks

theorem Tracks.built {since : StagedExtent → List BankExchange} :
    begun.Built before draft since where
  owed := tracks.owed
  attempted expected some := by simp [tracks.unattempted] at some

theorem Tracks.silent (exchange : BankExchange) (free : Counters.owed exchange = none) :
    begun.Tracks (before ++ [exchange]) draft where
  owed removal := by simp [free, ← tracks.owed]
  unattempted := tracks.unattempted

theorem Tracks.owing {exchange : BankExchange} {removal : Removal} {later : Draft}
    (owes : Counters.owed exchange = some removal)
    (noted : ∀ other, other ∈ begun.removals later ↔ other ∈ begun.removals draft ∨ other = removal)
    (unattempted : later.candidate = none) : begun.Tracks (before ++ [exchange]) later where
  owed other := by
    rw [noted, ← tracks.owed, filterMap_append]
    simp [owes]
  unattempted := unattempted

end

/-- Tracked steps in a row; a step that stops leaves its draft as it is. -/
theorem always_andThen {step : Step} {next : Draft → Step}
    {middle last : List BankExchange → Draft → Prop}
    (first : step.Always (fun after result => middle after result.1) before)
    (stop : ∀ after draft, middle after draft → last after draft)
    (rest : ∀ after draft, middle after draft →
      (next draft).Always (fun later result => last later result.1) after) :
    (andThen step next).Always (fun after result => last after result.1) before := by
  refine first.bind fun after result good => ?_
  obtain ⟨draft, _ | reason⟩ := result
  · exact rest after draft good
  · exact stop after draft good

theorem stageBanks_tracks (banks : List Nat) (tracks : begun.Tracks before draft) :
    (begun.stageBanks banks draft).Always (fun after result => begun.Tracks after result.1)
      before := by
  induction banks generalizing draft before with
  | nil => exact tracks
  | cons bank rest ih =>
    rw [stageBanks]
    split
    · exact ih { tracks with }
    refine Asking.Always.query_bind fun allocated => ?_
    have tracks := tracks.silent ⟨.allocateBank bank begun.plan.slots, allocated⟩ rfl
    rcases allocated with reason | id
    · exact tracks
    dsimp only
    split
    · exact tracks
    refine Asking.Always.query_bind fun inserted => ?_
    rcases inserted with reason | _
    · exact tracks.silent _ rfl
    · refine ih (tracks.owing rfl (fun other => ?_) tracks.unattempted)
      simp only [removals]
      grind

theorem stageRoutes_tracks (slots : List Slot) (tracks : begun.Tracks before draft) :
    (begun.stageRoutes slots draft).Always (fun after result => begun.Tracks after result.1)
      before := by
  induction slots generalizing draft before with
  | nil => exact tracks
  | cons slot rest ih =>
    rw [stageRoutes]
    split
    · exact tracks
    split
    · exact tracks
    · refine Asking.Always.query_bind fun inserted => ?_
      rcases inserted with reason | _
      · exact tracks.silent _ rfl
      · refine ih (tracks.owing rfl (fun other => ?_) tracks.unattempted)
        simp only [removals]
        grind

theorem checkedWith_spec {geometry : BankGeometry} {staged expected : StagedExtent}
    (passes : staged.checkedWith geometry = .ok expected) :
    expected = staged ∧ ∀ pair ∈ staged.routes, staged.commit.extent.first ≤ pair.1 := by
  simp only [StagedExtent.checkedWith, BankExtent.checked, bind, Except.bind] at passes
  split_ifs at passes with outside
  dsimp only at passes
  split at passes
  · cases passes
  split at passes
  · cases passes
  · split_ifs at passes with _ _ misplaced
    refine ⟨(Except.ok.inj passes).symm, fun pair member => ?_⟩
    obtain ⟨index, listed⟩ := getElem?_of_mem member
    rw [any_eq_true] at misplaced
    have placed := not_exists.mp misplaced (pair, index)
    simp only [mk_mem_zipIdx_iff_getElem?, listed, true_and, Bool.or_eq_true, not_or,
      decide_eq_true_eq, not_not] at placed
    omega

theorem stageCommit_built (tracks : begun.Tracks before draft) :
    (begun.stageCommit draft).Always (fun after result => begun.Built after result.1 fun _ => [])
      before := by
  refine Asking.Always.query_bind fun attached => ?_
  have linked : begun.Tracks (before ++ [⟨.attachInactive begun.slots, attached⟩])
      { draft with linksAttempted := true } := by
    refine tracks.owing rfl (fun other => ?_) tracks.unattempted
    simp only [removals]
    grind
  rcases attached with reason | _
  · exact linked.built
  dsimp only
  split
  · exact linked.built
  rename_i expected passes
  refine Asking.Always.query_bind fun check => ?_
  have checked := linked.silent
    ⟨.verifyCandidate expected begun.plan.slots begun.published, check⟩ rfl
  cases check with
  | exact =>
    have ⟨staged, _⟩ := checkedWith_spec passes
    refine Asking.Always.query_bind fun reply => ?_
    have committed := checked.silent ⟨.insertCommit expected.transaction expected.commit, reply⟩ rfl
    have built : begun.Built _
        { draft with linksAttempted := true, candidate := some expected } fun _ => [] :=
      { owed := committed.owed
        attempted := by
          rintro _ ⟨⟩
          subst staged
          exact ⟨passes, rfl, _, reply, append_assoc _ _ _⟩ }
    rcases reply with reason | _
    · exact built
    · exact built
  | contradictory | unreadable => exact checked.built

theorem build_built (tracks : begun.Tracks before { bankIds := begun.firstIds }) :
    begun.build.Always (fun after result => begun.Built after result.1 fun _ => []) before := by
  rw [build]
  split
  · exact tracks.built
  · exact tracks.built
  · refine always_andThen (stageBanks_tracks _ tracks) (fun _ _ tracks => tracks.built) ?_
    intro after draft tracks
    refine always_andThen (stageRoutes_tracks _ tracks) (fun _ _ tracks => tracks.built) ?_
    exact fun later draft tracks => stageCommit_built tracks

/-! ## How a stage settles -/

theorem removeAll_always (removals : List Removal) :
    (removeAll removals).Always (fun after clean => ∃ trace, after = before ++ trace ∧
      (clean = true → ∀ removal ∈ removals, removal ∈ trace.filterMap removed)) before := by
  induction removals generalizing before with
  | nil => exact ⟨[], (append_nil before).symm, fun _ _ => id⟩
  | cons removal rest ih =>
    refine Asking.Always.query_bind fun answer => ?_
    rcases answer with reason | _
    · refine ih.bind fun after clean tail => ?_
      obtain ⟨trace, rfl, -⟩ := tail
      exact ⟨_, append_assoc _ _ _, nofun⟩
    refine ih.mono fun after clean tail => ?_
    obtain ⟨trace, rfl, all⟩ := tail
    refine ⟨_, append_assoc _ _ _, fun good => ?_⟩
    refine forall_mem_cons.mpr ⟨mem_cons_self, fun other member => ?_⟩
    exact mem_cons_of_mem _ (all good other member)

/-- The stage a run of `stageWith` makes. -/
def made (directory : BankDirectory) (plan : AttachPlan) (exchanges : List BankExchange)
    (outcome : Outcome) : Stage :=
  ⟨directory, plan, exchanges, outcome.1, outcome.2.1, outcome.2.2⟩

/-- Native work starts from a directory that consumed the extent. -/
structure Begins (directory : BankDirectory) (begun : Begun) : Prop where
  live : directory.quarantined = false
  geometry : begun.directory.geometry = directory.geometry
  advances : Advances directory begun.directory begun.transaction begun.extent

variable {directory : BankDirectory} {plan : AttachPlan}

/-- Any end of a stage that began, if it settles and changes no earlier position. -/
theorem Begins.sound (begins : Begins directory begun) {outcome : Outcome}
    (settled : (made directory plan before outcome).Settled)
    (consumed : outcome.2.2.consumed = some (begun.transaction, begun.extent))
    (number : outcome.1.nextTransaction = begun.directory.nextTransaction)
    (length : outcome.1.positions.length = begun.directory.positions.length)
    (kept : ∀ index < begun.extent.first,
      outcome.1.positions[index]? = begun.directory.positions[index]?) :
    (made directory plan before outcome).Sound where
  settled := settled
  advances transaction extent same := by
    obtain ⟨rfl, rfl⟩ := Prod.mk.inj (Option.some.inj (consumed.symm.trans same))
    exact { begins.advances with
      next := number ▸ begins.advances.next
      stop := length.trans begins.advances.stop
      kept := fun index below => (kept index below).trans (begins.advances.kept index below) }
  refused none := by simp [made, Stage.consumed, consumed] at none
  stuck quarantined := by simp [made, begins.live] at quarantined

theorem quarantine_sound (begins : Begins directory begun) :
    (made directory plan before begun.quarantine).Sound :=
  begins.sound rfl rfl rfl rfl fun _ _ => rfl

theorem published_positions (routes : List (Nat × CountsBankRoute)) (first : Nat)
    (late : ∀ pair ∈ routes, first ≤ pair.1) (positions : List BankPosition) :
    (routes.foldl markPublished positions).length = positions.length ∧
      ∀ index < first, (routes.foldl markPublished positions)[index]? = positions[index]? := by
  induction routes generalizing positions with
  | nil => exact ⟨rfl, fun _ _ => rfl⟩
  | cons pair rest ih =>
    have ⟨length, kept⟩ := ih (fun other member => late other (mem_cons_of_mem _ member))
      (markPublished positions pair)
    refine ⟨length.trans (length_modify _ _ _), fun index below => ?_⟩
    have apart := Nat.ne_of_gt (below.trans_le (late pair mem_cons_self))
    exact (kept index below).trans (getElem?_modify_ne _ _ apart)

section

variable (begins : Begins directory begun)
include begins

theorem publish_sound
    (built : begun.Built before draft fun expected =>
      [⟨.verifyCandidate expected begun.plan.slots begun.published, CandidateCheck.exact⟩])
    {expected : StagedExtent} (candidate : draft.candidate = some expected) :
    (made directory plan (before ++ [⟨.observeCommit begun.transaction begun.commit,
      CommitObservation.exact⟩]) (begun.publish draft expected)).Sound := by
  obtain ⟨complete, staged, earlier, reply, rfl⟩ := built.attempted expected candidate
  subst staged
  have ⟨length, kept⟩ :=
    published_positions _ _ (checkedWith_spec complete).2 begun.directory.positions
  refine begins.sound ⟨earlier, _, begun.plan.slots, begun.published, reply,
    begins.geometry ▸ complete, rfl, rfl, fun pair member => ?_, append_assoc _ _ _⟩ rfl rfl
    length kept
  have noted : Removal.route pair.1 pair.2 ∈ begun.removals draft := by simp [removals, member]
  rw [← built.owed, filterMap_append] at noted
  exact (mem_append.mp noted).resolve_right not_mem_nil

variable (failure : Option BankRefusal)

theorem conclude_sound
    (built : begun.Built before draft fun expected =>
      [⟨.verifyCandidate expected begun.plan.slots begun.published, CandidateCheck.exact⟩]) :
    (begun.conclude draft failure).Always
      (fun after outcome => (made directory plan after outcome).Sound) before := by
  refine Asking.Always.query_bind fun observed => ?_
  cases observed with
  | exact =>
    cases candidate : draft.candidate with
    | none => exact quarantine_sound begins
    | some expected => exact publish_sound begins built candidate
  | absent =>
    refine (removeAll_always (begun.removals draft)).bind fun after clean trace => ?_
    obtain ⟨trace, rfl, all⟩ := trace
    cases clean with
    | false => exact quarantine_sound begins
    | true =>
      rw [append_assoc]
      refine begins.sound ⟨_, _, ?_, fun removal due => all rfl removal ((built.owed removal).mp
        due)⟩ rfl rfl length_mapIdx fun index below => ?_
      · rw [commit, begins.geometry]
        rfl
      · simp [retire, Nat.not_le.mpr below]
  | contradictory | unreadable => exact quarantine_sound begins

theorem settle_sound (built : begun.Built before draft fun _ => []) :
    (begun.settle draft failure).Always
      (fun after outcome => (made directory plan after outcome).Sound) before := by
  rw [settle]
  cases candidate : draft.candidate with
  | none =>
    change Asking.Always _ _ (if _ then _ else _)
    split
    · exact quarantine_sound begins
    · refine conclude_sound begins failure ⟨built.owed, fun expected some => ?_⟩
      simp [candidate] at some
  | some expected =>
    refine Asking.Always.query_bind fun check => ?_
    cases check with
    | exact =>
      change Asking.Always _ _ (if _ then _ else _)
      split
      · exact quarantine_sound begins
      refine conclude_sound begins failure ⟨fun removal => ?_, fun other same => ?_⟩
      · rw [← built.owed removal, filterMap_append]
        exact mem_append.trans (or_iff_left not_mem_nil)
      · obtain ⟨complete, staged, earlier, reply, rfl⟩ := built.attempted other same
        obtain rfl : expected = other := Option.some.inj (candidate.symm.trans same)
        exact ⟨complete, staged, earlier, reply, append_assoc _ _ _⟩
    | contradictory | unreadable => exact quarantine_sound begins

theorem perform_sound (silent : ∀ exchange ∈ before, owed exchange = none) :
    begun.perform.Always (fun after outcome => (made directory plan after outcome).Sound)
      before := by
  have tracks : begun.Tracks before { bankIds := begun.firstIds } :=
    { owed := fun removal => by simp [filterMap_eq_nil_iff.mpr silent, removals]
      unattempted := rfl }
  exact (build_built tracks).bind fun after result built => settle_sound begins result.2 built

end

end Begun

namespace BankDirectory

variable {directory : BankDirectory} {plan : AttachPlan}

theorem refused_sound {exchanges : List BankExchange} {after : BankDirectory}
    {reason : BankRefusal} (live : directory.quarantined = false)
    (idle : ∀ exchange ∈ exchanges, mutates exchange = false)
    (same : after = directory ∨ after = { directory with quarantined := true }) :
    (Begun.made directory plan exchanges (after, plan, .refused reason)).Sound where
  settled := ⟨idle, rfl, same⟩
  advances _ _ began := by cases began
  refused _ := by rcases same with rfl | rfl <;> exact ⟨rfl, rfl⟩
  stuck quarantined := by simp [Begun.made, live] at quarantined

theorem consume_begins {budget transaction : Nat} {extent : BankExtent} {consumed : AttachPlan}
    (live : directory.quarantined = false)
    (checked : BankExtent.checked directory.positions.length plan.slots.length
      directory.geometry.limit = .ok extent)
    (number : directory.nextTransaction = some transaction) :
    Begun.Begins directory ⟨directory.consume budget plan.slots transaction, consumed, extent,
      transaction, directory.publishedIndices⟩ := by
  rw [BankExtent.checked] at checked
  split_ifs at checked with outside
  cases checked
  refine ⟨live, rfl, number, fun later next => ?_, rfl, by dsimp only; omega, ?_, ?_⟩
  · simp only [consume] at next
    split_ifs at next
    exact Option.some.inj next ▸ Nat.lt_succ_self transaction
  · simp only [consume, length_append, length_map, length_drop]
    omega
  · exact fun index below => getElem?_append_left below

theorem stageWith_sound :
    (directory.stageWith plan).Always
      (fun after outcome => (Begun.made directory plan after outcome).Sound) [] := by
  rw [stageWith]
  split
  · next quarantined =>
    exact ⟨⟨fun _ => nofun, rfl, .inl rfl⟩, nofun, fun _ => ⟨rfl, rfl⟩, fun _ => ⟨rfl, rfl, rfl⟩⟩
  rename_i live
  rw [Bool.not_eq_true] at live
  split
  · exact refused_sound live nofun (.inl rfl)
  split
  · exact refused_sound live nofun (.inl rfl)
  · split
    · exact refused_sound live nofun (.inl rfl)
    · exact refused_sound live nofun (.inl rfl)
    · next extent transaction checked number =>
      refine Asking.Always.query_bind fun reserved => ?_
      rcases reserved with reason | _
      · exact refused_sound live (by simp [mutates]) (.inl rfl)
      dsimp only
      split
      · exact refused_sound live (by simp [mutates]) (.inl rfl)
      refine Asking.Always.query_bind fun validated => ?_
      rcases validated with reason | _
      · exact refused_sound live (by simp [mutates]) (.inl rfl)
      refine Asking.Always.query_bind fun observed => ?_
      cases observed with
      | absent =>
        dsimp only
        split
        · exact refused_sound live (by simp [mutates]) (.inl rfl)
        · exact Begun.perform_sound (consume_begins live checked number) (by simp [owed])
      | exact | contradictory | unreadable =>
        exact refused_sound live (by simp [mutates]) (.inr rfl)

/-! ## Runs of stages -/

/-- A plan to stage, and what the native operations answer after what was exchanged. -/
abbrev Turn := AttachPlan × (List BankExchange → (query : BankQuery) → BankAnswer query)

def respond (answer : List BankExchange → (query : BankQuery) → BankAnswer query)
    (history : List BankExchange) (query : BankQuery) : BankAnswer query × List BankExchange :=
  (answer history query, history ++ [⟨query, answer history query⟩])

def stage (directory : BankDirectory) (turn : Turn) : Stage :=
  let (outcome, exchanges) := (directory.stageWith turn.1).play (respond turn.2) []
  Begun.made directory turn.1 exchanges outcome

def run : BankDirectory → List Turn → List Stage
  | _, [] => []
  | directory, turn :: rest => directory.stage turn :: (directory.stage turn).after.run rest

variable (directory : BankDirectory)

theorem stage_sound (turn : Turn) : (directory.stage turn).Sound :=
  stageWith_sound.play (respond turn.2) []

/-- Published positions keep their key, state and route, and a quarantined directory
is never left. -/
structure Onward (before after : BankDirectory) : Prop where
  published : ∀ (index : Nat) (position : BankPosition),
    before.positions[index]? = some position → isPublished position = true →
    after.positions[index]? = some position
  stuck : before.quarantined = true → after = before

theorem Onward.trans {first middle last : BankDirectory} (one : Onward first middle)
    (two : Onward middle last) : Onward first last where
  published index position listed live :=
    two.published index position (one.published index position listed live) live
  stuck quarantined := by
    have same := one.stuck quarantined
    exact (two.stuck (same ▸ quarantined)).trans same

theorem stage_onward (turn : Turn) : Onward directory (directory.stage turn).after where
  published index position listed _ := by
    have sound := directory.stage_sound turn
    cases began : (directory.stage turn).consumed with
    | none => exact (sound.refused began).1 ▸ listed
    | some consumed =>
      have advances := sound.advances consumed.1 consumed.2 began
      obtain ⟨below, -⟩ := List.getElem?_eq_some_iff.mp listed
      exact (advances.kept index (advances.first ▸ below)).trans listed
  stuck quarantined := ((directory.stage_sound turn).stuck quarantined).2.2

variable (turns : List Turn)

theorem run_sound : ∀ stage ∈ directory.run turns, stage.Sound := by
  induction turns generalizing directory with
  | nil => exact fun _ member => absurd member not_mem_nil
  | cons turn rest ih => exact forall_mem_cons.mpr ⟨directory.stage_sound turn, ih _⟩

theorem run_onward : (directory :: (directory.run turns).map Stage.after).Pairwise Onward := by
  induction turns generalizing directory with
  | nil => exact pairwise_singleton _ _
  | cons turn rest ih =>
    have step := directory.stage_onward turn
    have later := ih (directory.stage turn).after
    refine pairwise_cons.mpr ⟨forall_mem_cons.mpr ⟨step, fun last member => ?_⟩, later⟩
    exact step.trans (rel_of_pairwise_cons later member)

/-- Numbers grow from `bound` on, and each extent starts where the one before it
stopped. -/
def Successive : Nat → Nat → List (Nat × BankExtent) → Prop
  | _, _, [] => True
  | bound, first, (number, extent) :: rest => bound ≤ number ∧ extent.first = first ∧
      extent.first < extent.stop ∧ Successive (number + 1) extent.stop rest

theorem run_successive (bound : Nat)
    (least : ∀ next, directory.nextTransaction = some next → bound ≤ next) :
    Successive bound directory.positions.length
      ((directory.run turns).filterMap Stage.consumed) := by
  induction turns generalizing directory bound with
  | nil => trivial
  | cons turn rest ih =>
    have sound := directory.stage_sound turn
    cases began : (directory.stage turn).consumed with
    | none =>
      have ⟨positions, number⟩ := sound.refused began
      have later := ih (directory.stage turn).after bound (number ▸ least)
      rw [run, filterMap_cons_none began]
      exact positions ▸ later
    | some consumed =>
      have advances := sound.advances consumed.1 consumed.2 began
      rw [run, filterMap_cons_some began]
      have later := ih (directory.stage turn).after _ advances.next
      exact ⟨least _ advances.number, advances.first, advances.nonempty, advances.stop ▸ later⟩

end BankDirectory

end P11Scope.Counters
