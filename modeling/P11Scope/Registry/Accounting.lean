import P11Scope.Binder.Soundness
import P11Scope.Registry.Placement

/-!
# Exact witness accounting

The binder's census, its outbox of decisions, the registry's staged notes and
the published placement count the same rows.  The coordinator takes decisions
from the outbox, stages one note for each and publishes; every other mutation
may be staged in between.
-/

namespace P11Scope.Binder

open Std Lib.TreeMap List

/-! ## The census -/

/-- Rows with a decision. -/
def BindingCensus.decided (census : BindingCensus) : Nat := census.bound + census.unboundTotal

theorem BindingCensus.decided_record (census : BindingCensus) (binding : Binding) :
    (census.record binding).decided = census.decided + 1 := by
  cases binding with
  | bound caller =>
    simp only [record, decided, unboundTotal]
    omega
  | unbound reason =>
    have updated : ∑ other, Function.update census.unbound reason (census.unbound reason + 1)
        other = (∑ other, census.unbound other) + 1 := by
      rw [Finset.sum_update_of_mem (Finset.mem_univ reason),
        ← Finset.add_sum_erase _ _ (Finset.mem_univ reason), Finset.sdiff_singleton_eq_erase]
      omega
    simp only [record, decided, unboundTotal, updated]
    omega

namespace NativeBinder

/-- Rows waiting in all domains. -/
def waiting (binder : NativeBinder) : Nat :=
  sumBy (fun _ state => state.pending.length) binder.domains

variable (postings : List Posting) (binder : NativeBinder)

theorem rows_foldl_post :
    (postings.foldl post binder).census.rows = binder.census.rows + (seenRows postings).length := by
  induction postings generalizing binder with
  | nil => rfl
  | cons posting rest ih =>
    rw [foldl_cons, ih, seenRows_cons, length_append]
    cases posting with
    | decided decision rule =>
      cases decision with
      | mk row binding => cases binding <;> simp [post, BindingCensus.record, Posting.seenRow?]
    | seen row =>
      simp only [post, Posting.seenRow?, Option.toList_some, length_singleton]
      omega
    | invalid | queued | dequeued | proved => simp [post, Posting.seenRow?]

theorem decided_foldl_post :
    (postings.foldl post binder).census.decided =
        binder.census.decided + (decisions postings).length ∧
      (postings.foldl post binder).decided = binder.decided ++ decisions postings := by
  induction postings generalizing binder with
  | nil => exact ⟨rfl, (append_nil _).symm⟩
  | cons posting rest ih =>
    obtain ⟨count, outbox⟩ := ih (binder.post posting)
    rw [foldl_cons, count, outbox, decisions_cons, length_append]
    cases posting with
    | decided decision rule =>
      constructor
      · simp only [post, BindingCensus.decided_record, Posting.decision?, Option.toList_some,
          length_singleton]
        omega
      · simp [post, Posting.decision?]
    | _ => exact ⟨by simp [post, Posting.decision?, BindingCensus.decided,
        BindingCensus.unboundTotal], by simp [post, Posting.decision?]⟩

theorem pending_record (census : BindingCensus) (binding : Binding) :
    (census.record binding).pending = census.pending := by
  cases binding <;> rfl

/-- Rows that only arrive raise the waiting count, rows that only leave lower it. -/
theorem pending_foldl {postings : List Posting}
    (oneWay : postings.count .dequeued = 0 ∨ postings.count .queued = 0) (binder : NativeBinder) :
    (postings.foldl post binder).census.pending =
      binder.census.pending + postings.count .queued - postings.count .dequeued := by
  induction postings generalizing binder with
  | nil => rfl
  | cons posting rest ih =>
    rw [count_cons, count_cons] at oneWay
    rw [foldl_cons, ih (by omega), count_cons, count_cons]
    cases posting with
    | queued | dequeued =>
      simp [post] at oneWay ⊢
      omega
    | decided decision rule => simp [post, pending_record]
    | seen | invalid | proved => simp [post]

/-- The census agrees with the queues. -/
structure Census (binder : NativeBinder) : Prop where
  pending : binder.census.pending = binder.waiting
  rows : binder.census.rows = binder.census.decided + binder.census.pending

theorem census_new (limits : BinderLimits) : (new limits).Census where
  pending := (sumBy_empty _).symm
  rows := by simp [new, BindingCensus.decided, BindingCensus.unboundTotal]

theorem state_pending_length (domain : NativeDomainId) :
    (binder.domains[domain]?).elim 0 (fun state => state.pending.length) =
      (binder.state domain).pending.length := by
  rw [state, ExtTreeMap.getD_eq_getD_getElem?]
  cases binder.domains[domain]? <;> rfl

/-- One call moves the census with its domain's queue, and puts its decisions in
the outbox. -/
theorem Census.step {binder : NativeBinder} (census : binder.Census) (event : Event) :
    (binder.step event).Census ∧
    (binder.step event).census.decided + binder.decided.length =
      binder.census.decided + (binder.step event).decided.length := by
  have balanced := (binder.state event.domain).step_balanced binder.limits event
  have placed := sumBy_insert (fun _ (state : DomainState) =>
    state.pending.length) binder.domains event.domain
      ((binder.state event.domain).step binder.limits event).1
  rw [state_pending_length] at placed
  have lengths := balanced.rows.length_eq
  obtain ⟨arriving, leaving, split, undequeued, unqueued⟩ := balanced.ordered
  have moved := balanced.waiting
  have before := census.pending
  have rows := census.rows
  simp only [NativeBinder.step]
  generalize (binder.state event.domain).step binder.limits event = after at *
  have seen := rows_foldl_post after.2
    { binder with domains := binder.domains.insert event.domain after.1 }
  obtain ⟨decided, outbox⟩ := decided_foldl_post after.2
    { binder with domains := binder.domains.insert event.domain after.1 }
  have queue : (after.2.foldl post
      { binder with domains := binder.domains.insert event.domain after.1 }).census.pending =
        binder.census.pending + after.2.count .queued - after.2.count .dequeued := by
    rw [split, foldl_append, pending_foldl (.inr unqueued), pending_foldl (.inl undequeued),
      count_append, count_append]
    simp only
    omega
  have held : (after.2.foldl post
      { binder with domains := binder.domains.insert event.domain after.1 }).waiting =
        sumBy (fun _ state => state.pending.length)
          (binder.domains.insert event.domain after.1) := by
    rw [waiting, domains_foldl_post]
  have part : (binder.state event.domain).pending.length ≤ binder.waiting := by
    have emptied := sumBy_insert (fun _ (state : DomainState) =>
      state.pending.length) binder.domains event.domain {}
    rw [state_pending_length] at emptied
    unfold waiting
    change _ = _ + 0 at emptied
    omega
  simp only [length_append, length_map] at lengths
  unfold waiting at before part
  refine ⟨⟨?_, ?_⟩, ?_⟩
  · omega
  · rw [seen, decided]
    simp only
    omega
  · rw [decided, outbox, length_append]
    simp only
    omega

end NativeBinder

end P11Scope.Binder

namespace P11Scope.Registry

open Std Lib.TreeMap Binder List

/-! ## The coordinator -/

variable (modules : WitnessRow → Option (List ModuleKey))

/-- One note per decision: unresolved when the endpoint names no admitted
module, otherwise by the verdict.  `entries` is the count the dropped pair held. -/
def stageWitness (entries : WitnessRow → Nat) (decision : Decision) : Mutation :=
  match modules decision.row with
  | none => .noteUnresolvedWitness
  | some keys =>
    match decision.binding with
    | .bound caller => .noteBoundWitness caller keys decision.row.recordedAtNs
    | .unbound reason =>
      .noteUnboundWitness keys decision.row.recordedAtNs reason (entries decision.row)

theorem notes_stageWitness (entries : WitnessRow → Nat) (decision : Decision) :
    (stageWitness modules entries decision).notes = 1 := by
  unfold stageWitness
  cases modules decision.row with
  | none => rfl
  | some keys => cases decision.binding <;> rfl

/-- Binder calls, staging of its output, staging of anything else, publication. -/
inductive Call where
  | binder (event : Event)
  | stageOutput (modules : WitnessRow → Option (List ModuleKey)) (entries : WitnessRow → Nat)
  | stageOther (mutation : { mutation : Mutation // mutation.notes = 0 })
  | publish

/-- `absorbed` and `applied` are history: the events the binder got, and the
decisions whose notes were published. -/
structure Coordinator where
  binder : NativeBinder
  registry : CallerRegistry
  absorbed : List Event := []
  applied : Nat := 0

namespace Coordinator

def new (limits : BinderLimits) (maxGaps : Option Nat) (fingerprint : RegistryGap → UInt64) :
    Coordinator :=
  { binder := .new limits, registry := .new (registryLimits maxGaps) fingerprint }

def stageOutput (coordinator : Coordinator) (modules : WitnessRow → Option (List ModuleKey))
    (entries : WitnessRow → Nat) : Coordinator :=
  let taken := coordinator.binder.takeDecisions
  { coordinator with
    binder := taken.1
    registry := taken.2.foldl (fun registry decision =>
      registry.stage (stageWitness modules entries decision)) coordinator.registry }

def step (coordinator : Coordinator) : Call → Option Coordinator
  | .binder event =>
    some { coordinator with
      binder := coordinator.binder.step event, absorbed := coordinator.absorbed ++ [event] }
  | .stageOutput modules entries => some (coordinator.stageOutput modules entries)
  | .stageOther mutation =>
    some { coordinator with registry := coordinator.registry.stage mutation.val }
  | .publish => do
      let published ← coordinator.registry.publish
      some { coordinator with
        registry := published
        applied := coordinator.applied + CallerRegistry.notesOf coordinator.registry.staged }

def run (coordinator : Coordinator) (calls : List Call) : Option Coordinator :=
  calls.foldlM step coordinator

/-- Every row is in one place: waiting, in the outbox, staged or published. -/
structure Accounted (limits : BinderLimits) (coordinator : Coordinator) : Prop where
  census : coordinator.binder.Census
  registry : coordinator.registry.Exact
  outbox : coordinator.binder.census.decided = coordinator.applied +
    CallerRegistry.notesOf coordinator.registry.staged + coordinator.binder.decided.length
  placed : coordinator.registry.witnessPlacement.total = coordinator.applied
  limits_eq : coordinator.binder.limits = limits
  replayed : ∀ domain, coordinator.binder.state domain =
    (DomainState.run limits {} (own domain coordinator.absorbed)).1

variable (limits : BinderLimits)

theorem accounted_new (maxGaps : Option Nat) (fingerprint : RegistryGap → UInt64) :
    Accounted limits (new limits maxGaps fingerprint) where
  census := NativeBinder.census_new limits
  registry := CallerRegistry.exact_new maxGaps fingerprint
  outbox := by simp [new, NativeBinder.new, CallerRegistry.new, CallerRegistry.notesOf,
    BindingCensus.decided, BindingCensus.unboundTotal]
  placed := rfl
  limits_eq := rfl
  replayed := by
    simp [new, NativeBinder.new, NativeBinder.state, own, DomainState.run]

theorem notesOf_append (first second : List Mutation) :
    CallerRegistry.notesOf (first ++ second) =
      CallerRegistry.notesOf first + CallerRegistry.notesOf second := by
  simp [CallerRegistry.notesOf]

theorem exact_stage {registry : CallerRegistry} (sound : registry.Exact) (mutation : Mutation) :
    (registry.stage mutation).Exact :=
  sound.congr rfl rfl rfl rfl rfl

/-- Staging one note per decision. -/
theorem stageAll_spec (modules : WitnessRow → Option (List ModuleKey)) (entries : WitnessRow → Nat)
    (decisions : List Decision) {registry : CallerRegistry} (sound : registry.Exact) :
    (decisions.foldl (fun registry decision =>
        registry.stage (stageWitness modules entries decision)) registry).Exact ∧
    (decisions.foldl (fun registry decision =>
        registry.stage (stageWitness modules entries decision)) registry).witnessPlacement =
      registry.witnessPlacement ∧
    CallerRegistry.notesOf (decisions.foldl (fun registry decision =>
        registry.stage (stageWitness modules entries decision)) registry).staged =
      CallerRegistry.notesOf registry.staged + decisions.length := by
  induction decisions generalizing registry with
  | nil => exact ⟨sound, rfl, rfl⟩
  | cons decision rest ih =>
    obtain ⟨laterSound, placement, notes⟩ :=
      ih (exact_stage sound (stageWitness modules entries decision))
    refine ⟨laterSound, placement, ?_⟩
    rw [foldl_cons, notes, CallerRegistry.stage, notesOf_append, length_cons]
    have one : CallerRegistry.notesOf [stageWitness modules entries decision] = 1 := by
      simp [CallerRegistry.notesOf, notes_stageWitness]
    omega

theorem run_append_singleton (state : DomainState) (events : List Event) (event : Event) :
    (state.run limits (events ++ [event])).1 =
      ((state.run limits events).1.step limits event).1 := by
  induction events generalizing state with
  | nil => rfl
  | cons first rest ih => exact ih _

theorem own_append_singleton (domain : NativeDomainId) (events : List Event) (event : Event) :
    own domain (events ++ [event]) =
      if event.domain = domain then own domain events ++ [event] else own domain events := by
  unfold own
  by_cases mine : event.domain = domain
  · simp [mine]
  · simp [mine]

theorem Accounted.step {limits : BinderLimits} {coordinator after : Coordinator}
    (accounted : Accounted limits coordinator) {call : Call}
    (stepped : coordinator.step call = some after) : Accounted limits after := by
  cases call with
  | binder event =>
    cases stepped
    obtain ⟨census, outbox⟩ := accounted.census.step event
    refine ⟨census, accounted.registry, ?_, accounted.placed,
      (NativeBinder.limits_step _ _).trans accounted.limits_eq, ?_⟩
    · have before := accounted.outbox
      simp only
      omega
    · intro domain
      rw [NativeBinder.state_step, own_append_singleton, accounted.limits_eq]
      split
      · rw [run_append_singleton, ← accounted.replayed]
      · exact accounted.replayed domain
  | stageOutput modules entries =>
    cases stepped
    obtain ⟨sound, placement, notes⟩ := stageAll_spec modules entries
      coordinator.binder.decided accounted.registry
    refine ⟨⟨accounted.census.pending, accounted.census.rows⟩, sound, ?_, ?_,
      accounted.limits_eq, accounted.replayed⟩
    · have before := accounted.outbox
      simp only [Coordinator.stageOutput, NativeBinder.takeDecisions, length_nil] at notes ⊢
      omega
    · simp only [Coordinator.stageOutput, NativeBinder.takeDecisions]
      rw [placement]
      exact accounted.placed
  | stageOther mutation =>
    cases stepped
    refine ⟨accounted.census, exact_stage accounted.registry mutation.val, ?_, accounted.placed,
      accounted.limits_eq, accounted.replayed⟩
    have before := accounted.outbox
    have silent : CallerRegistry.notesOf [mutation.val] = 0 := by
      simp [CallerRegistry.notesOf, mutation.property]
    simp only [CallerRegistry.stage, notesOf_append]
    omega
  | publish =>
    have emptied : ({ coordinator.registry with staged := [] } : CallerRegistry).Exact :=
      accounted.registry.congr rfl rfl rfl rfl rfl
    have placed := CallerRegistry.applyAll_places emptied coordinator.registry.staged
    simp only [Coordinator.step, CallerRegistry.publish] at stepped
    cases published : coordinator.registry.staged.foldlM CallerRegistry.apply
        { coordinator.registry with staged := [] } with
    | none =>
      rw [published] at stepped
      cases stepped
    | some registry =>
      rw [published] at stepped placed
      cases stepped
      obtain ⟨sound, -, staged, total⟩ := placed
      have before := accounted.outbox
      have applied := accounted.placed
      refine ⟨accounted.census, sound, ?_, ?_, accounted.limits_eq, accounted.replayed⟩
      · simp only [staged]
        change _ = coordinator.applied + _ + 0 + _
        omega
      · rw [total]
        exact congrArg (· + _) applied

theorem Accounted.run {limits : BinderLimits} {coordinator after : Coordinator}
    (accounted : Accounted limits coordinator) {calls : List Call}
    (reached : coordinator.run calls = some after) : Accounted limits after := by
  induction calls generalizing coordinator with
  | nil =>
    cases reached
    exact accounted
  | cons call rest ih =>
    rw [Coordinator.run, foldlM_cons] at reached
    cases stepped : coordinator.step call with
    | none =>
      rw [stepped] at reached
      cases reached
    | some next =>
      rw [stepped] at reached
      exact ih (accounted.step stepped) reached

/-- At every moment of every run: the census adds up; each row that a domain's
reads brought in has exactly one decision or still waits; each decision is in
the outbox, staged or applied; the published placement adds up to the decisions
applied, its module part to the modules' rows, and their rows to their reasons;
and a publication fails only when a 64-bit counter would overflow. -/
theorem witness_accounting_exact (limits : BinderLimits) (maxGaps : Option Nat)
    (fingerprint : RegistryGap → UInt64) (calls : List Call) (coordinator : Coordinator)
    (reached : (new limits maxGaps fingerprint).run calls = some coordinator) :
    coordinator.binder.census.rows = coordinator.binder.census.bound +
      coordinator.binder.census.unboundTotal + coordinator.binder.census.pending ∧
    (∀ domain, ((own domain coordinator.absorbed).flatMap Event.rows).Perm
      ((decisions (domainTrace limits domain coordinator.absorbed)).map Decision.row ++
        (coordinator.binder.state domain).pending.map Pending.row)) ∧
    coordinator.binder.census.bound + coordinator.binder.census.unboundTotal =
      coordinator.applied + CallerRegistry.notesOf coordinator.registry.staged +
        coordinator.binder.decided.length ∧
    coordinator.registry.witnessPlacement.edge + coordinator.registry.witnessPlacement.module +
      coordinator.registry.witnessPlacement.ambiguous +
      coordinator.registry.witnessPlacement.unresolved = coordinator.applied ∧
    coordinator.registry.witnessPlacement.module = coordinator.registry.moduleRows ∧
    (∀ (id : ModuleId) record use, coordinator.registry.modules[id]? = some record →
      record.unboundUse = some use → sumBy (fun _ count => count) use.reasons = use.rows) ∧
    (coordinator.applied + CallerRegistry.notesOf coordinator.registry.staged ≤ u64Max →
      ∃ published, coordinator.registry.publish = some published) := by
  have accounted := (accounted_new limits maxGaps fingerprint).run reached
  refine ⟨accounted.census.rows, ?_, accounted.outbox, accounted.placed,
    accounted.registry.module, ?_, ?_⟩
  · intro domain
    have balanced := DomainState.run_balanced limits {} (own domain coordinator.absorbed)
    rw [← accounted.replayed] at balanced
    simpa [domainTrace] using balanced
  · intro id record use stored known
    exact accounted.registry.summed id record stored use known
  · intro fits
    have emptied : ({ coordinator.registry with staged := [] } : CallerRegistry).Exact :=
      accounted.registry.congr rfl rfl rfl rfl rfl
    have placed := CallerRegistry.applyAll_places emptied coordinator.registry.staged
    unfold CallerRegistry.publish
    cases published : coordinator.registry.staged.foldlM CallerRegistry.apply
        { coordinator.registry with staged := [] } with
    | some registry => exact ⟨registry, rfl⟩
    | none =>
      rw [published] at placed
      have total := accounted.placed
      change u64Max < coordinator.registry.witnessPlacement.total + _ at placed
      omega

/-- A read brings two rows of one image whose module no mapping note named, then
both horizons; the mapping note comes with the notes and is published first. -/
def mappedCapture : List Call :=
  [.stageOther ⟨.noteMapping 0 7
      ⟨"/usr/lib/module.so", .physical 8 1 42 none, false, .admitted, some 3, []⟩, rfl⟩,
    .binder (.coverage 1 30), .binder (.revalidation 1 40 (ExtTreeSet.ofList [(0 : CallerId)])),
    .binder (.witnesses (cleanRead 1 60 61
      [⟨useRow 0 50, some useSighting⟩, ⟨useRow 1 5, none⟩] (by decide))),
    .binder (.lifecycle (cleanDrain 1 70 [])),
    .binder (.witnesses emptyRead),
    .stageOutput (fun row =>
      if row.object = 0 then some [.physical 8 1 42 none] else none) (fun _ => 0),
    .publish]

theorem mappedCapture_applied :
    ((new .default none fun _ => 0).run mappedCapture).map Coordinator.applied = some 2 := by
  decide +kernel

theorem witness_accounting_exact_mappedCapture :
    ∃ coordinator, (new .default none fun _ => 0).run mappedCapture = some coordinator ∧
      coordinator.registry.witnessPlacement.edge + coordinator.registry.witnessPlacement.module +
        coordinator.registry.witnessPlacement.ambiguous +
        coordinator.registry.witnessPlacement.unresolved = 2 := by
  obtain ⟨coordinator, reached, applied⟩ := Option.map_eq_some_iff.mp mappedCapture_applied
  refine ⟨coordinator, reached, ?_⟩
  have accounts := witness_accounting_exact .default none (fun _ => 0) mappedCapture coordinator
    reached
  rw [accounts.2.2.2.1, applied]

end Coordinator

end P11Scope.Registry
