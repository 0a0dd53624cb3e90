import P11Scope.Journal.Lanes
import P11Scope.Journal.LedgerRuns
import P11Scope.KeyUse.Retirement

/-!
# Runs of the key-use reducer

Every stream of operation effects and invalidations, whatever ledgers each
observation lends and whatever they refuse, keeps the reducer's books and gives
each terminal one destination.
-/

namespace P11Scope.KeyUse

open Std Edge Journal Objects Lib ExtTreeMap Option

/-! ## Lent ledgers -/

def Keeper.other : Keeper → Keeper
  | .shared => .fallback
  | .fallback => .shared

theorem Keeper.eq_or_other (which keeper : Keeper) : which = keeper ∨ which = keeper.other := by
  cases which <;> cases keeper <;> simp [other]

namespace Ledgers

variable {slotBytes others : Nat} {ledgers : Ledgers} {keeper : Keeper}

def held (ledgers : Ledgers) (keeper : Keeper) : Nat :=
  (ledgers.ledger keeper).elim 0 StagingLedger.held

/-- Each lent ledger backs its memberships, next to the other one and to the
pool's remaining holders. -/
def Backed (slotBytes others : Nat) (ledgers : Ledgers) : Prop :=
  ∀ keeper ledger, ledgers.ledger keeper = some ledger →
    Desk.Backed slotBytes (others + ledgers.held keeper.other)
      { ledger := ledger, pool := ledgers.pool }

variable (desk : Desk)

theorem ledger_putBack_self : (ledgers.putBack keeper desk).ledger keeper = some desk.ledger := by
  cases keeper <;> rfl

theorem ledger_putBack_other :
    (ledgers.putBack keeper desk).ledger keeper.other = ledgers.ledger keeper.other := by
  cases keeper <;> rfl

theorem pool_putBack : (ledgers.putBack keeper desk).pool = desk.pool := by
  cases keeper <;> rfl

theorem Backed.putBack (backed : ledgers.Backed slotBytes others) {desk : Desk}
    (kept : Desk.Backed slotBytes (others + ledgers.held keeper.other) desk) :
    (ledgers.putBack keeper desk).Backed slotBytes others := by
  have twice : keeper.other.other = keeper := by cases keeper <;> rfl
  intro which found stored
  rcases which.eq_or_other keeper with rfl | rfl
  · rw [ledger_putBack_self] at stored
    cases stored
    rw [held, ledger_putBack_other, pool_putBack]
    exact kept
  · rw [ledger_putBack_other] at stored
    have before := backed keeper.other found stored
    refine ⟨before.unpaid, before.paid, before.leased, ?_⟩
    have first : ledgers.held keeper.other = found.held := by rw [held, stored, elim_some]
    have second : (ledgers.putBack keeper desk).held keeper = desk.ledger.held := by
      rw [held, ledger_putBack_self, elim_some]
    have charged := kept.charged
    rw [first] at charged
    rw [pool_putBack, twice, second, charged]
    exact Nat.add_right_comm _ _ _

/-- Nothing but associations moved: the ledgers stay backed, and what they hold
in every other role stays. -/
structure OnlyAssociations (slotBytes others : Nat) (ledgers kept : Ledgers) : Prop where
  backed : kept.Backed slotBytes others
  lanes : ∀ keeper role, role ≠ .association →
    (kept.ledger keeper).map (·.lane role) = (ledgers.ledger keeper).map (·.lane role)

theorem OnlyAssociations.refl (backed : ledgers.Backed slotBytes others) :
    OnlyAssociations slotBytes others ledgers ledgers :=
  ⟨backed, fun _ _ _ => rfl⟩

theorem OnlyAssociations.trans {middle kept : Ledgers}
    (first : OnlyAssociations slotBytes others ledgers middle)
    (second : OnlyAssociations slotBytes others middle kept) :
    OnlyAssociations slotBytes others ledgers kept :=
  ⟨second.backed, fun keeper role other =>
    (second.lanes keeper role other).trans (first.lanes keeper role other)⟩

section

variable (backed : ledgers.Backed slotBytes others)
include backed

/-- A lent ledger that moved associations only, put back in its place. -/
theorem Backed.onlyAssociations {ledger : StagingLedger}
    (lent : ledgers.ledger keeper = some ledger) {desk : Desk}
    (kept : Desk.Backed slotBytes (others + ledgers.held keeper.other) desk)
    (lanes : ∀ role, role ≠ .association → desk.ledger.lane role = ledger.lane role) :
    OnlyAssociations slotBytes others ledgers (ledgers.putBack keeper desk) := by
  refine ⟨backed.putBack kept, fun which role other => ?_⟩
  rcases which.eq_or_other keeper with rfl | rfl
  · rw [ledger_putBack_self, lent, map_some, map_some, lanes role other]
  · rw [ledger_putBack_other]

theorem releaseKeyassoc_spec (keeper : Keeper) (ticket : UInt64) :
    ∃ kept, ledgers.releaseKeyassoc keeper ticket = some kept ∧
      OnlyAssociations slotBytes others ledgers kept := by
  unfold releaseKeyassoc
  cases lent : ledgers.ledger keeper with
  | none => exact ⟨ledgers, rfl, .refl backed⟩
  | some ledger =>
    obtain ⟨after, done, backedAfter, released, _⟩ := Desk.releaseRole_spec
      (backed keeper ledger lent) .association (StagingLedger.key ticket)
    refine ⟨ledgers.putBack keeper after, ?_,
      backed.onlyAssociations lent backedAfter fun role other => released.lane_other other⟩
    dsimp only
    rw [show Desk.releaseKeyassoc ticket _ = _ from done]
    rfl

theorem releaseAll_spec (tickets : List UInt64) :
    ∃ kept, tickets.foldlM (fun ledgers ticket => releaseKeyassoc ledgers .shared ticket)
        ledgers = some kept ∧ OnlyAssociations slotBytes others ledgers kept := by
  induction tickets generalizing ledgers with
  | nil => exact ⟨ledgers, rfl, .refl backed⟩
  | cons ticket rest ih =>
    obtain ⟨middle, done, first⟩ := releaseKeyassoc_spec backed .shared ticket
    obtain ⟨kept, finished, second⟩ := ih first.backed
    refine ⟨kept, ?_, first.trans second⟩
    rw [List.foldlM_cons, done]
    exact finished

theorem mintKeyassocFromStage_spec (succeeds : Bool) (lent : ledgers.target = some keeper)
    (bytes : UInt64) (source : Option StagedResourceOrigin) :
    ∃ reply kept, ledgers.mintKeyassocFromStage ⟨slotBytes, succeeds⟩ keeper bytes source =
        some (reply, kept) ∧ OnlyAssociations slotBytes others ledgers kept := by
  obtain ⟨ledger, present⟩ := isSome_iff_exists.mp
    (show (ledgers.ledger keeper).isSome by grind [target, Ledgers.ledger])
  have here := backed keeper ledger present
  obtain ⟨reply, after, done, refused, granted⟩ :=
    Desk.mintKeyassocFromStage_spec here succeeds bytes source
  refine ⟨reply, ledgers.putBack keeper after, ?_, ?_⟩
  · unfold mintKeyassocFromStage
    rw [present]
    dsimp only
    rw [done]
    rfl
  · cases reply with
    | error refusal =>
      have untouched := refused refusal rfl
      exact backed.onlyAssociations present (here.untouched untouched) fun role _ =>
        untouched.lane role
    | ok ticket =>
      obtain ⟨backedAfter, charged, _⟩ := granted ticket rfl
      exact backed.onlyAssociations present backedAfter fun role other =>
        charged.lane_other other

end

end Ledgers

/-! ## One effect -/

namespace KeyUseReducer

variable {reducer : KeyUseReducer} {history later : History} {slotBytes others : Nat}
variable {ledgers : Ledgers}

/-- Evidence and pended tickets are outside the books. -/
theorem Sound.aside (sound : reducer.Sound history) (evidence : KeyUseEvidence)
    (pending : List UInt64) :
    ({ reducer with evidence := evidence, pendingSharedReleases := pending } :
      KeyUseReducer).Sound history :=
  { sound with }

theorem Rooted.aside (rooted : reducer.Rooted) (evidence : KeyUseEvidence)
    (pending : List UInt64) :
    ({ reducer with evidence := evidence, pendingSharedReleases := pending } :
      KeyUseReducer).Rooted :=
  ⟨rooted.formed, rooted.present⟩

/-- An operation returns and moves nothing but associations in the lent ledgers.
It keeps every live row and, as long as no counter saturates, the books with the
history it adds to. -/
def Reaches (slotBytes others : Nat) (reducer : KeyUseReducer) (ledgers : Ledgers)
    (noted : History → History) (result : Option (KeyUseReducer × Ledgers)) : Prop :=
  ∃ after kept, result = some (after, kept) ∧
    Ledgers.OnlyAssociations slotBytes others ledgers kept ∧ after.Rooted ∧
    ∀ history, reducer.Sound history → after.Unsaturated → after.Sound (noted history)

theorem observeStarted_reaches (rooted : reducer.Rooted)
    (backed : ledgers.Backed slotBytes others) (layout : Layout)
    (slots : layout.slotBytes = slotBytes) (succeeds : Bool) (instanceId : RegistryInstanceId)
    (id : OperationId) (category : String) (mechanism : Option UInt64)
    (keyReceipt : Option KeyReceipt) (origin : EffectOrigin)
    (source : Option StagedResourceOrigin) :
    Reaches slotBytes others reducer ledgers (fun history => history)
      (reducer.observeStarted layout succeeds instanceId id category mechanism keyReceipt origin
        source ledgers) := by
  unfold observeStarted
  dsimp only
  split
  case isTrue =>
    exact ⟨_, ledgers, rfl, .refl backed, rooted.aside _ _, fun _ sound _ => sound.aside _ _⟩
  rename_i fresh
  rw [Bool.or_eq_true, not_or] at fresh
  obtain ⟨unopened, unrefused⟩ := fresh
  have absent : reducer.opens[(instanceId, id)]? = none :=
    getElem?_eq_none fun member => unopened (contains_iff_mem.mpr member)
  have untracked : reducer.refused[(instanceId, id)]? = none :=
    getElem?_eq_none fun member => unrefused (contains_iff_mem.mpr member)
  generalize bound : boundSlice category keyReceipt.toList reducer.evidence = slice
  have short : slice.1.length ≤ 2 := by
    rw [← bound, boundSlice]
    split
    · simp
    split
    · simp
    · dsimp only
      omega
  obtain ⟨receipts, evidence⟩ := slice
  dsimp only at short ⊢
  have once := resolve_once instanceId category receipts
  have enough : (resolve instanceId category receipts).length = receipts.length := by
    simp only [resolve, List.length_mapIdx, List.length_take]
    omega
  generalize resolve instanceId category receipts = resolved at once enough ⊢
  let noted : KeyUseReducer := { reducer with evidence := evidence }
  have notedSound : ∀ history, reducer.Sound history → noted.Sound history :=
    fun _ sound => sound.aside evidence reducer.pendingSharedReleases
  have notedRooted : noted.Rooted := rooted.aside evidence reducer.pendingSharedReleases
  -- A refused start is tracked on its own, whatever refused it.
  have refusal : ∀ kept : Ledgers, Ledgers.OnlyAssociations slotBytes others ledgers kept →
      Reaches slotBytes others reducer ledgers (fun history => history)
        (some (noted.refuse (instanceId, id) category origin.tsNs, kept)) := fun kept only =>
    ⟨_, kept, rfl, only, notedRooted.of_opens (fun _ _ held => held) (fun _ held => held),
      fun history sound below => refuse_sound (notedSound history sound) untracked below⟩
  split
  case isTrue => exact refusal ledgers (.refl backed)
  rename_i admitted
  cases lent : ledgers.target with
  | none => exact refusal ledgers (.refl backed)
  | some keeper =>
    obtain ⟨reply, kept, done, only⟩ := Ledgers.mintKeyassocFromStage_spec backed succeeds lent
      (UInt64.ofNat (layout.openKeyUse + resolved.length * layout.openAssoc))
      (if keeper = .shared then source else none)
    dsimp only
    rw [slots, done]
    cases reply with
    | error _ => exact refusal kept only
    | ok ticket =>
      let use : OpenKeyUse :=
        { instanceId := instanceId, category := category, mechanism := mechanism,
          startedTsNs := origin.tsNs, associations := startedAssociations resolved receipts,
          bound := !receipts.isEmpty, ticket := ticket, ticketShared := keeper = .shared }
      have opened : Reaches slotBytes others reducer ledgers (fun history => history)
          (some (noted.started (instanceId, id) resolved use, kept)) :=
        ⟨_, kept, rfl, only, started_rooted notedRooted once enough rfl rfl,
          fun history sound below => started_sound (notedSound history sound) absent
            (by simpa using admitted) enough rfl below⟩
      cases receipts with
      | nil | cons => exact opened

theorem returnTicket_spec (reducer : KeyUseReducer) (backed : ledgers.Backed slotBytes others)
    (use : OpenKeyUse) :
    ∃ pending kept, reducer.returnTicket ledgers use =
        some ({ reducer with pendingSharedReleases := pending }, kept) ∧
      Ledgers.OnlyAssociations slotBytes others ledgers kept := by
  unfold returnTicket
  split
  · split
    · obtain ⟨kept, done, only⟩ := Ledgers.releaseKeyassoc_spec backed .shared use.ticket
      exact ⟨reducer.pendingSharedReleases, kept, by rw [done]; rfl, only⟩
    · exact ⟨_, ledgers, rfl, .refl backed⟩
  · obtain ⟨kept, done, only⟩ := Ledgers.releaseKeyassoc_spec backed .fallback use.ticket
    exact ⟨reducer.pendingSharedReleases, kept, by rw [done]; rfl, only⟩

theorem observeEnded_reaches (rooted : reducer.Rooted)
    (backed : ledgers.Backed slotBytes others) (instanceId : RegistryInstanceId)
    (id : OperationId) (category : String) (outcome : OperationOutcome) (origin : EffectOrigin) :
    Reaches slotBytes others reducer ledgers
      (fun history => history.note reducer instanceId (.ended id category outcome origin))
      (reducer.observeEnded instanceId id outcome ledgers) := by
  unfold observeEnded History.note
  dsimp only
  cases stored : reducer.opens[(instanceId, id)]? with
  | some use =>
    let forgotten : KeyUseReducer :=
      { reducer with opens := reducer.opens.erase (instanceId, id) }
    have formed := rooted.formed _ use stored
    obtain ⟨closed, done, posted⟩ := forgotten.closeOpen_posted use outcome formed
      (rooted.present _ use stored)
    obtain ⟨pending, kept, returned, only⟩ := closed.returnTicket_spec backed use
    refine ⟨{ closed with pendingSharedReleases := pending }, kept, ?_, only, ?_,
      fun history sound below => ?_⟩
    · dsimp only
      rw [done]
      exact returned
    · refine (rooted.of_opens (fun key found held => ?_) posted.kept).aside closed.evidence pending
      rw [posted.opens, getElem?_erase] at held
      split at held
      · cases held
      · exact held
    · have closedSound := closed_sound sound stored formed posted
        ⟨below.rows, below.summaries⟩
      exact closedSound.aside closed.evidence pending
  | none =>
    cases tracked : reducer.refused[(instanceId, id)]? with
    | some refused =>
      let forgotten : KeyUseReducer :=
        { reducer with refused := reducer.refused.erase (instanceId, id) }
      have idle := forgotten.unknownDeactivate_posted (unboundIndex refused.category)
      have posted := (idle.trans (unknownAdd_posted _ (unboundIndex refused.category)
        outcome)).withEvidence
      exact ⟨_, ledgers, rfl, .refl backed,
        rooted.of_opens (fun _ _ held => held) (fun _ held => held),
        fun history sound below => refusedEnd_sound sound tracked (posted _) below⟩
    | none =>
      have posted := KeyUseReducer.unknownAdd_posted
        { reducer with evidence := { reducer.evidence with
          orphanEnds := satAdd reducer.evidence.orphanEnds 1 } }
        (unknownIndex "unknown" "unbound") outcome
      exact ⟨_, ledgers, rfl, .refl backed,
        rooted.of_opens (fun _ _ held => held) (fun _ held => held),
        fun history sound below =>
          settledAlone_sound sound _ outcome posted.afterEvidence below⟩

theorem observeDirect_sound (sound : reducer.Sound history) (instanceId : RegistryInstanceId)
    (id : OperationId) (category : String) (mechanism : Option UInt64)
    (keyReceipts : List KeyReceipt) (origin : EffectOrigin)
    (below : (reducer.observeDirect instanceId category keyReceipts).Unsaturated) :
    (reducer.observeDirect instanceId category keyReceipts).Sound
      (history.note reducer instanceId
        (.directCompleted id category mechanism keyReceipts origin)) := by
  unfold observeDirect at below ⊢
  unfold History.note
  dsimp only at below ⊢
  generalize bound : boundSlice category keyReceipts reducer.evidence = slice at below ⊢
  obtain ⟨receipts, evidence⟩ := slice
  let noted : KeyUseReducer := { reducer with evidence := evidence }
  have notedSound : noted.Sound history := sound.aside evidence reducer.pendingSharedReleases
  cases admitted : reducer.admits (resolve instanceId category receipts) with
  | false =>
    rw [if_pos (show (!noted.admits _) = true by rw [show noted.admits _ = _ from admitted]; rfl)]
      at below ⊢
    have posted := noted.unknownAdd_posted (unboundIndex category) .completed
    exact settledAlone_sound notedSound _ .completed (posted.withEvidence _) below
  | true =>
    rw [if_neg (show ¬ (!noted.admits _) = true by
      rw [show noted.admits _ = _ from admitted]; simp)] at below ⊢
    split at below
    case isTrue empty =>
      have none : receipts = [] := List.isEmpty_iff.mp empty
      subst none
      exact settledAlone_sound notedSound _ .completed
        (KeyUseReducer.unknownAdd_posted _ (unboundIndex category) .completed).afterEvidence below
    case isFalse nonempty =>
      rw [if_neg nonempty]
      have once := resolve_once instanceId category receipts
      generalize resolve instanceId category receipts = resolved at admitted below once ⊢
      have completed := noted.posted_foldl completeDirect_posted resolved
      refine direct_sound notedSound admitted once ?_ below
      unfold directEntries
      split
      · exact completed.trans (.refl _)
      · exact completed.trans (KeyUseReducer.unknownAdd_posted _ _ .completed)

/-- A direct keeps the open operations and every row. -/
theorem observeDirect_rooted (rooted : reducer.Rooted) (instanceId : RegistryInstanceId)
    (category : String) (keyReceipts : List KeyReceipt) :
    (reducer.observeDirect instanceId category keyReceipts).Rooted := by
  unfold observeDirect
  dsimp only
  generalize boundSlice category keyReceipts reducer.evidence = slice
  have noted := rooted.aside slice.2 reducer.pendingSharedReleases
  have alone : ∀ {entries : List Meter} {after : KeyUseReducer},
      Posted entries { reducer with evidence := slice.2 } after → after.Rooted :=
    fun posted => noted.of_opens (fun _ _ held => posted.opens ▸ held) posted.kept
  have completed := KeyUseReducer.posted_foldl { reducer with evidence := slice.2 }
    completeDirect_posted (resolve instanceId category slice.1)
  split
  · exact (alone (KeyUseReducer.unknownAdd_posted _ (unboundIndex category) .completed)).aside _ _
  split
  · exact alone (KeyUseReducer.unknownAdd_posted _ (unboundIndex category)
      .completed).afterEvidence
  split
  · exact alone completed
  · exact alone (completed.trans
      (KeyUseReducer.unknownAdd_posted _ (unboundIndex category) .completed))

/-- What an effect does once the pended tickets are returned. -/
def settleEffect (layout : Layout) (succeeds : Bool) (instanceId : RegistryInstanceId)
    (effect : OperationEffect) (source : Option StagedResourceOrigin) (reducer : KeyUseReducer)
    (ledgers : Ledgers) : Option (KeyUseReducer × Ledgers) :=
  match effect with
  | .started id category mechanism keyReceipt origin =>
    reducer.observeStarted layout succeeds instanceId id category mechanism keyReceipt origin
      source ledgers
  | .ended id _ outcome _ => reducer.observeEnded instanceId id outcome ledgers
  | .directCompleted _ category _ keyReceipts _ =>
    some (reducer.observeDirect instanceId category keyReceipts, ledgers)

/-- Contact with the shared ledger leaves the books as they are. -/
theorem observeEffectFromStage_contacted (backed : ledgers.Backed slotBytes others)
    (layout : Layout) (succeeds : Bool) (instanceId : RegistryInstanceId)
    (effect : OperationEffect) (source : Option StagedResourceOrigin) :
    ∃ pending kept,
      reducer.observeEffectFromStage layout succeeds instanceId effect source ledgers =
        settleEffect layout succeeds instanceId effect source
          { reducer with pendingSharedReleases := pending } kept ∧
      Ledgers.OnlyAssociations slotBytes others ledgers kept := by
  unfold observeEffectFromStage
  by_cases lent : ledgers.shared.isSome = true
  · obtain ⟨kept, done, only⟩ := Ledgers.releaseAll_spec backed reducer.pendingSharedReleases
    refine ⟨[], kept, ?_, only⟩
    rw [if_pos lent, flushPendingSharedReleases, done]
    rfl
  · refine ⟨reducer.pendingSharedReleases, ledgers, ?_, .refl backed⟩
    rw [if_neg lent]
    rfl

theorem Reaches.after {contacted : Ledgers} {pending : List UInt64} {noted : History → History}
    {result : Option (KeyUseReducer × Ledgers)}
    (reaches : Reaches slotBytes others { reducer with pendingSharedReleases := pending } contacted
      noted result)
    (only : Ledgers.OnlyAssociations slotBytes others ledgers contacted) :
    Reaches slotBytes others reducer ledgers noted result := by
  obtain ⟨after, kept, done, later, rooted, keeps⟩ := reaches
  exact ⟨after, kept, done, only.trans later, rooted, fun history sound below =>
    keeps history (sound.aside reducer.evidence pending) below⟩

theorem observeEffectFromStage_reaches (rooted : reducer.Rooted)
    (backed : ledgers.Backed slotBytes others) (layout : Layout)
    (slots : layout.slotBytes = slotBytes) (succeeds : Bool) (instanceId : RegistryInstanceId)
    (effect : OperationEffect) (source : Option StagedResourceOrigin) :
    Reaches slotBytes others reducer ledgers
      (fun history => history.note reducer instanceId effect)
      (reducer.observeEffectFromStage layout succeeds instanceId effect source ledgers) := by
  obtain ⟨pending, contacted, done, only⟩ := observeEffectFromStage_contacted
    backed layout succeeds instanceId effect source
  have flushed := rooted.aside reducer.evidence pending
  rw [done]
  have settled : Reaches slotBytes others { reducer with pendingSharedReleases := pending }
      contacted (fun history => history.note reducer instanceId effect)
      (settleEffect layout succeeds instanceId effect source
        { reducer with pendingSharedReleases := pending } contacted) := by
    cases effect with
    | started id category mechanism keyReceipt origin =>
      exact observeStarted_reaches flushed only.backed layout slots succeeds instanceId id
        category mechanism keyReceipt origin source
    | ended id category outcome origin =>
      exact observeEnded_reaches flushed only.backed instanceId id category outcome origin
    | directCompleted id category mechanism keyReceipts origin =>
      exact ⟨_, contacted, rfl, .refl only.backed,
        observeDirect_rooted flushed instanceId category keyReceipts, fun history sound below =>
        observeDirect_sound sound instanceId id category mechanism keyReceipts origin below⟩
  exact settled.after only

/-- Classifying a settled call's receipts counts evidence only. -/
theorem receiptsForEffects_aside (functionName : UInt32 → Option String)
    (effects : List ObjectEffect) (ticket : CallToken) (function : UInt32) (position : UInt64)
    (reducer : KeyUseReducer) :
    ∃ evidence, (receiptsForEffects functionName effects ticket function position reducer).2 =
      { reducer with evidence := evidence } := by
  refine List.foldlRecOn (motive := fun state : List KeyReceipt × KeyUseReducer => ∃ evidence,
    state.2 = { reducer with evidence := evidence }) effects _ ⟨reducer.evidence, rfl⟩ ?_
  rintro ⟨receipts, counted⟩ ⟨evidence, same⟩ effect _
  dsimp only at same ⊢
  subst same
  split
  case h_2 => exact ⟨evidence, rfl⟩
  split
  case isFalse => exact ⟨evidence, rfl⟩
  unfold classifyRole
  dsimp only
  (repeat' split) <;> exact ⟨_, rfl⟩

end KeyUseReducer

/-! ## Runs -/

/-- Ledgers that back their memberships, as a caller lends them. -/
structure LentLedgers (slotBytes : Nat) where
  ledgers : Ledgers
  others : Nat
  backed : ledgers.Backed slotBytes others

/-- A ledger after any run of its own is fit to be lent. -/
def LentLedgers.ofBooks {slotBytes : Nat} (books : Journal.Books) (sound : books.Sound slotBytes) :
    LentLedgers slotBytes where
  ledgers := { pool := books.desk.pool, shared := some books.desk.ledger, fallback := none }
  others := books.others
  backed keeper ledger lent := by
    cases keeper with
    | shared =>
      cases lent
      exact sound.backed
    | fallback => cases lent

/-- What a reducer is called for.  Each observation lends whatever ledgers its
caller has at hand, and the table allocation of the minting one may fail. -/
inductive KeyUseEvent (slotBytes : Nat) where
  | observe (lent : LentLedgers slotBytes) (succeeds : Bool) (instanceId : RegistryInstanceId)
      (effect : OperationEffect) (source : Option StagedResourceOrigin)
  | flush (lent : LentLedgers slotBytes)
  | invalidate (attributed : ObjectId → Option SessionIncarnation) (effect : ObjectEffect)
  | classify (functionName : UInt32 → Option String) (effects : List ObjectEffect)
      (ticket : CallToken) (function : UInt32) (position : UInt64)

/-- An end or a completed direct. -/
def KeyUseEvent.terminal {slotBytes : Nat} : KeyUseEvent slotBytes → Bool
  | .observe _ _ _ (.ended ..) _ | .observe _ _ _ (.directCompleted ..) _ => true
  | _ => false

/-- A reducer and the terminals it was shown. -/
structure Account where
  reducer : KeyUseReducer
  history : History

namespace Account

def opened (capacity : Nat) : Account where
  reducer := .withCapacity capacity
  history := {}

def handle (layout : Layout) (account : Account) :
    KeyUseEvent layout.slotBytes → Option Account
  | .observe lent succeeds instanceId effect source => do
      let (reducer, _) ← account.reducer.observeEffectFromStage layout succeeds instanceId effect
        source lent.ledgers
      some { reducer := reducer, history := account.history.note account.reducer instanceId effect }
  | .flush lent => do
      let (reducer, _) ← account.reducer.flushPendingSharedReleases lent.ledgers
      some { account with reducer := reducer }
  | .invalidate attributed effect => do
      let reducer ← account.reducer.applyInvalidation attributed effect
      some { account with reducer := reducer }
  | .classify functionName effects ticket function position =>
    let (_, reducer) := KeyUseReducer.receiptsForEffects functionName effects ticket function
      position account.reducer
    some { account with reducer := reducer }

def run (layout : Layout) (account : Account) (events : List (KeyUseEvent layout.slotBytes)) :
    Option Account :=
  events.foldlM (handle layout) account

variable {layout : Layout} {account : Account}

/-- One call returns, keeps the books and records its terminal. -/
theorem handle_spec (rooted : account.reducer.Rooted)
    (sound : account.reducer.Sound account.history) (event : KeyUseEvent layout.slotBytes) :
    ∃ after, account.handle layout event = some after ∧ after.reducer.Rooted ∧
      (after.reducer.Unsaturated → after.reducer.Sound after.history) ∧
      after.history.terminals.length =
        account.history.terminals.length + if event.terminal then 1 else 0 := by
  cases event with
  | observe lent succeeds instanceId effect source =>
    obtain ⟨reducer, kept, done, _, rootedAfter, keeps⟩ :=
      KeyUseReducer.observeEffectFromStage_reaches rooted lent.backed layout rfl succeeds
        instanceId effect source
    refine ⟨{ reducer := reducer,
              history := account.history.note account.reducer instanceId effect }, ?_,
      rootedAfter, keeps account.history sound, ?_⟩
    · rw [handle, done]
      rfl
    · unfold History.note History.add
      cases effect with
      | started => rfl
      | ended =>
        dsimp only
        split
        · simp [KeyUseEvent.terminal]
        · split <;> simp [KeyUseEvent.terminal]
      | directCompleted =>
        dsimp only
        split <;> simp [KeyUseEvent.terminal]
  | flush lent =>
    obtain ⟨kept, done, _⟩ :=
      Ledgers.releaseAll_spec lent.backed account.reducer.pendingSharedReleases
    refine ⟨{ account with reducer := { account.reducer with pendingSharedReleases := [] } }, ?_,
      rooted.aside _ _, fun _ => sound.aside _ _, rfl⟩
    rw [handle, KeyUseReducer.flushPendingSharedReleases, done]
    rfl
  | invalidate attributed effect =>
    obtain ⟨reducer, done, rootedAfter, keeps⟩ :=
      KeyUseReducer.applyInvalidation_spec rooted attributed effect
    refine ⟨{ account with reducer := reducer }, ?_, rootedAfter, keeps account.history sound, rfl⟩
    rw [handle, done]
    rfl
  | classify functionName effects ticket function position =>
    obtain ⟨evidence, same⟩ := KeyUseReducer.receiptsForEffects_aside functionName effects ticket
      function position account.reducer
    refine ⟨{ account with reducer := { account.reducer with evidence := evidence } }, ?_,
      rooted.aside evidence _, fun _ => sound.aside evidence _, rfl⟩
    rw [← same]
    rfl

/-- No counter saturates at any point of a run. -/
def StaysBelow (layout : Layout) (account : Account)
    (events : List (KeyUseEvent layout.slotBytes)) : Prop :=
  ∀ early after, early <+: events → account.run layout early = some after →
    after.reducer.Unsaturated

theorem run_spec (rooted : account.reducer.Rooted)
    (sound : account.reducer.Sound account.history) (events : List (KeyUseEvent layout.slotBytes))
    (below : StaysBelow layout account events) :
    ∃ after, account.run layout events = some after ∧ after.reducer.Sound after.history ∧
      after.history.terminals.length =
        account.history.terminals.length + events.countP KeyUseEvent.terminal := by
  induction events generalizing account with
  | nil => exact ⟨account, rfl, sound, rfl⟩
  | cons event rest ih =>
    obtain ⟨middle, done, rootedMiddle, keeps, counted⟩ := handle_spec rooted sound event
    have one : account.run layout [event] = some middle := by
      rw [run, List.foldlM_cons, done]
      rfl
    have unsaturated := below [event] middle (List.prefix_append [event] rest) one
    have later : StaysBelow layout middle rest := by
      intro early after shorter reached
      refine below (event :: early) after (List.cons_prefix_cons.mpr ⟨rfl, shorter⟩) ?_
      rw [run, List.foldlM_cons, done]
      exact reached
    obtain ⟨after, finished, soundAfter, length⟩ := ih rootedMiddle (keeps unsaturated) later
    refine ⟨after, ?_, soundAfter, ?_⟩
    · rw [run, List.foldlM_cons, done]
      exact finished
    · rw [length, List.countP_cons]
      omega

theorem opened_rooted (capacity : Nat) : (opened capacity).reducer.Rooted := by
  refine ⟨fun key use stored => ?_, fun key use stored => ?_⟩
  all_goals
    change (∅ : ExtTreeMap OperationKey OpenKeyUse)[key]? = some use at stored
    rw [getElem?_empty] at stored
    cases stored

theorem opened_sound (capacity : Nat) :
    (opened capacity).reducer.Sound (opened capacity).history := by
  have row : ∀ key, (opened capacity).reducer.agg key = {} := by
    intro key
    change (∅ : ExtTreeMap AggKey AggCounters)[key]?.getD ({} : AggCounters) = _
    rw [getElem?_empty, getD_none]
  have summary : ∀ index : Fin unknownBuckets, (opened capacity).reducer.unknown[index] = {} :=
    fun index => Vector.getElem_replicate _
  refine ⟨fun key => ?_, fun key => ?_, fun index => ?_, Nat.zero_le _,
    fun index outcome => ?_, fun key outcome => ?_⟩
  · rfl
  · rfl
  · rw [summary]
    rfl
  · rw [summary]
    cases outcome <;> rfl
  · cases outcome <;> rfl

/-- The books of a reducer with the terminals it was shown. -/
structure Conserved (account : Account) : Prop where
  balanced : ∀ (key : AggKey) (counters : AggCounters),
    account.reducer.aggregates[key]? = some counters →
      counters.started = counters.completed + counters.failed + counters.cancelled +
          counters.unknown + counters.active + counters.keyJoinLost ∧
        counters.active = account.reducer.openJoins key
  fits : account.reducer.aggregates.size ≤ account.reducer.capacity
  held : ∀ index : Fin unknownBuckets,
    account.reducer.unknown[index].active = account.reducer.unknownHeld index
  /-- A row takes the outcomes of the terminals destined for it, and those of the
  operations in which it is secondary. -/
  ended : ∀ (key : AggKey) (counters : AggCounters) (outcome : OperationOutcome),
    account.reducer.aggregates[key]? = some counters →
      counters.get outcome = account.history.terminals.count (.aggregate key, outcome) +
        account.history.secondaries.count (key, outcome)
  homed : ∀ (key : AggKey) (outcome : OperationOutcome),
    (.aggregate key, outcome) ∈ account.history.terminals → key ∈ account.reducer.aggregates
  settled : ∀ (index : Fin unknownBuckets) (outcome : OperationOutcome),
    account.reducer.unknown[index].get outcome =
      account.history.terminals.count (.summary index, outcome)

theorem conserved_of_sound (sound : account.reducer.Sound account.history) : account.Conserved := by
  have stored : ∀ {key counters}, account.reducer.aggregates[key]? = some counters →
      account.reducer.agg key = counters := fun present => by
    rw [KeyUseReducer.agg, present, getD_some]
  refine ⟨fun key counters present => ?_, sound.fits, sound.held,
    fun key counters outcome present => ?_, fun key outcome member => ?_, sound.settled⟩
  · rw [← stored present]
    exact ⟨sound.balanced key, sound.joined key⟩
  · rw [← stored present]
    exact sound.ended key outcome
  · by_contra absent
    have empty : account.reducer.agg key = {} := by
      rw [KeyUseReducer.agg, getElem?_eq_none absent, getD_none]
    have ended := sound.ended key outcome
    have positive := List.count_pos_iff.mpr member
    have zero : ({} : AggCounters).get outcome = 0 := by cases outcome <;> rfl
    rw [empty] at ended
    omega

/-- Every stream of effects, retirements and lent ledgers runs to its end and
conserves key use: each terminal reaches one destination. -/
theorem keyUse_conserved (layout : Layout) (capacity : Nat)
    (events : List (KeyUseEvent layout.slotBytes))
    (below : StaysBelow layout (opened capacity) events) :
    ∃ account, (opened capacity).run layout events = some account ∧ account.Conserved ∧
      account.history.terminals.length = events.countP KeyUseEvent.terminal := by
  obtain ⟨account, done, sound, length⟩ := run_spec (opened_rooted capacity)
    (opened_sound capacity) events below
  refine ⟨account, done, conserved_of_sound sound, length.trans ?_⟩
  change 0 + _ = _
  rw [Nat.zero_add]

/-- A direct signature with one first-observed key, and a shared ledger lent. -/
def directSign : KeyUseEvent 64 :=
  .observe
    (.ofBooks
      (.opened none { limit := 0, charged := 0, peak := 0, refused := 0, scratchBorrowed := false
                      limit_le_usizeMax := Nat.zero_le _ })
      (Journal.Books.opened_sound 64 none _))
    true 1
    (.directCompleted 7 "sign" none
      [{ key := 5, function := 3, input := 0, role := .operationKey, position := 9
         metadata := { requested := 0, established := 0, conflicted := 0 }, label := none
         attributionValid := true, firstObserved := true, lost := false }]
      { function := "C_Sign", session := 2, tsNs := 40 })
    none

theorem keyUse_conserved_directSign :
    ∃ account, (opened 1).run ⟨64, 32, 16⟩ [directSign] = some account ∧ account.Conserved ∧
      account.history.terminals.length = 1 := by
  refine keyUse_conserved ⟨64, 32, 16⟩ 1 [directSign] fun early after shorter reached => ?_
  have summary : ∀ index : Fin unknownBuckets, (opened 1).reducer.unknown[index].Below := by
    intro index
    rw [show (opened 1).reducer.unknown[index] = {} from Vector.getElem_replicate _]
    exact ⟨fun outcome => by cases outcome <;> decide, by decide⟩
  rcases List.prefix_cons_iff.mp shorter with rfl | ⟨rest, rfl, empty⟩
  · cases reached
    refine ⟨fun key counters stored => ?_, summary⟩
    change (∅ : ExtTreeMap AggKey AggCounters)[key]? = some counters at stored
    rw [getElem?_empty] at stored
    cases stored
  · cases List.prefix_nil.mp empty
    cases reached
    refine ⟨fun key counters stored => ?_, summary⟩
    change ((∅ : ExtTreeMap AggKey AggCounters).insert ⟨1, 5, "sign", "key", "unknown"⟩
      { started := 1, completed := 1 })[key]? = some counters at stored
    rw [getElem?_insert] at stored
    split at stored
    · cases stored
      exact ⟨by decide, fun outcome => by cases outcome <;> decide, by decide, by decide⟩
    · cases stored

end Account

end P11Scope.KeyUse
