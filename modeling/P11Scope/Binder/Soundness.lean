import P11Scope.Binder.Runs

/-!
# Soundness of native binding

The binder interleaves independent domain runs.  Its whole log binds images and
incarnations one to one, rests every binding on the attested row that bound the
image first, and shows each domain exactly what its own events decide.
-/

variable {execs : UInt32 → Nat → Prop}

namespace P11Scope.Binder

open Std List

/-! ## The binder as an interleaving -/

namespace NativeBinder

variable (postings : List Posting) (binder : NativeBinder)

theorem domains_foldl_post : (postings.foldl post binder).domains = binder.domains := by
  induction postings generalizing binder with
  | nil => rfl
  | cons posting rest ih =>
    rw [foldl_cons, ih]
    cases posting <;> rfl

theorem limits_foldl_post : (postings.foldl post binder).limits = binder.limits := by
  induction postings generalizing binder with
  | nil => rfl
  | cons posting rest ih =>
    rw [foldl_cons, ih]
    cases posting <;> rfl

variable (binder : NativeBinder)

theorem limits_step (event : Event) : (binder.step event).limits = binder.limits :=
  limits_foldl_post _ _

/-- A call changes the state of its own domain only. -/
theorem state_step (event : Event) (domain : NativeDomainId) : (binder.step event).state domain =
      if event.domain = domain then ((binder.state domain).step binder.limits event).1
      else binder.state domain := by
  unfold step state
  simp only [domains_foldl_post, ExtTreeMap.getD_insert, LawfulEqOrd.compare_eq_iff_eq]
  by_cases same : event.domain = domain
  · subst same
    simp
  · simp [same]

/-- What a call posts, tagged with its domain. -/
def posted (event : Event) : List (NativeDomainId × Posting) :=
  ((binder.state event.domain).step binder.limits event).2.map (Prod.mk event.domain)

/-- A run of calls and everything it posted. -/
def run (binder : NativeBinder) : List Event → NativeBinder × List (NativeDomainId × Posting)
  | [] => (binder, [])
  | event :: rest =>
    let later := (binder.step event).run rest
    (later.1, binder.posted event ++ later.2)

theorem filter_map_mk (domain other : NativeDomainId) (postings : List Posting) :
    (postings.map (Prod.mk other)).filter (fun entry => entry.1 = domain) =
      if other = domain then postings.map (Prod.mk other) else [] := by
  by_cases same : other = domain
  · simp [filter_map, Function.comp_def, same]
  · simp [filter_map, Function.comp_def, same]

/-- One domain's part of a run is the run of its own events. -/
theorem run_domain (events : List Event) (domain : NativeDomainId) :
    (binder.run events).1.state domain =
        ((binder.state domain).run binder.limits
          (events.filter fun event => event.domain = domain)).1 ∧
      (binder.run events).2.filter (fun entry => entry.1 = domain) =
        ((binder.state domain).run binder.limits
          (events.filter fun event => event.domain = domain)).2.map (Prod.mk domain) := by
  induction events generalizing binder with
  | nil => exact ⟨rfl, rfl⟩
  | cons event rest ih =>
    obtain ⟨state, log⟩ := ih (binder.step event)
    rw [limits_step, state_step] at state log
    simp only [run, filter_append, posted, filter_map_mk]
    by_cases same : event.domain = domain
    · subst same
      rw [if_pos rfl] at state log
      rw [filter_cons_of_pos (by simp)]
      simp only [DomainState.run, map_append]
      exact ⟨state, congrArg _ log⟩
    · rw [if_neg same] at state log
      rw [if_neg same, filter_cons_of_neg (by simpa using same)]
      exact ⟨state, log⟩

end NativeBinder

/-- Everything a fresh binder posts over a run, tagged by domain. -/
def log (limits : BinderLimits) (events : List Event) : List (NativeDomainId × Posting) :=
  ((NativeBinder.new limits).run events).2

variable (domain : NativeDomainId)

/-- The events of one domain. -/
def own (events : List Event) : List Event :=
  events.filter fun event => event.domain = domain

/-- What one domain posts, from its own events. -/
def domainTrace (limits : BinderLimits) (domain : NativeDomainId) (events : List Event) :
    List Posting :=
  (DomainState.run limits {} (own domain events)).2

theorem filter_log (limits : BinderLimits) (events : List Event) (domain : NativeDomainId) :
    (log limits events).filter (fun entry => entry.1 = domain) =
      (domainTrace limits domain events).map (Prod.mk domain) := by
  have part := ((NativeBinder.new limits).run_domain events domain).2
  have fresh : (NativeBinder.new limits).state domain = {} := by
    simp [NativeBinder.new, NativeBinder.state]
  exact part

variable {events : List Event} {limits : BinderLimits}

theorem mem_log_iff {domain : NativeDomainId} {posting : Posting} :
    (domain, posting) ∈ log limits events ↔ posting ∈ domainTrace limits domain events := by
  have part := filter_log limits events domain
  constructor
  · intro member
    have kept : (domain, posting) ∈ (log limits events).filter (fun entry => entry.1 = domain) :=
      mem_filter.mpr ⟨member, by simp⟩
    rw [part] at kept
    obtain ⟨found, present, same⟩ := mem_map.mp kept
    cases same
    exact present
  · intro member
    have kept := mem_map_of_mem (f := Prod.mk domain) member
    rw [← part] at kept
    exact (mem_filter.mp kept).1

/-- The evidence of one domain decides nothing in another. -/
theorem filter_log_eq_log_own (limits : BinderLimits) (events : List Event)
    (domain : NativeDomainId) :
    (log limits events).filter (fun entry => entry.1 = domain) =
      log limits (own domain events) := by
  have everything : (log limits (own domain events)).filter (fun entry => entry.1 = domain) =
      log limits (own domain events) := by
    refine filter_eq_self.mpr ?_
    intro entry member
    by_contra apart
    -- Another domain has no events among these, so it posts nothing.
    have silent : own entry.1 (own domain events) = [] := by
      refine filter_eq_nil_iff.mpr ?_
      intro event present other
      have mine := (mem_filter.mp present).2
      simp only [decide_eq_true_eq] at mine other apart
      exact apart (other.symm.trans mine)
    have nothing : entry.2 ∈ domainTrace limits entry.1 (own domain events) := mem_log_iff.mp member
    rw [domainTrace, silent] at nothing
    cases nothing
  have idempotent : own domain (own domain events) = own domain events := by
    unfold own
    rw [filter_filter]
    congr 1
    simp
  rw [← everything, filter_log, filter_log, domainTrace, domainTrace, idempotent]

theorem domainTrace_sound {Good : Pending → CallerId → Prop} (limits : BinderLimits)
    (domain : NativeDomainId) (events : List Event)
    (good : ∀ seen, seen <+: own domain events → ∀ evidence : Evidence, evidence.Knows seen →
      ∀ pending sighting, Passes evidence pending sighting → Good pending sighting.caller) :
    ∃ tables, Traced Good (domainTrace limits domain events) tables := by
  have sound := Sound.run (Sound.empty : Sound Good [] {} []) limits (own domain events) good
  exact ⟨_, sound.traced⟩

/-- Decided rows of a domain's trace are rows of that domain. -/
theorem domain_of_decided {domain : NativeDomainId} {decision : Decision} {rule : Option Pending}
    (member : .decided decision rule ∈ domainTrace limits domain events) :
    decision.row.domain = domain := by
  have perm := DomainState.run_balanced limits {} (own domain events)
  have decided : decision ∈ decisions (domainTrace limits domain events) :=
    mem_filterMap.mpr ⟨_, member, rfl⟩
  have row := perm.mem_iff.mpr (mem_append_left _ (mem_map_of_mem (f := Decision.row) decided))
  have nonePending : ([] : List Pending).map Pending.row = [] := rfl
  rw [nonePending, append_nil] at row
  obtain ⟨event, present, arrived⟩ := mem_flatMap.mp row
  have mine := (mem_filter.mp present).2
  rw [event.rows_domain _ arrived]
  simpa using mine

/-! ## The soundness theorem -/

/-- A row of the log is bound to an incarnation. -/
def BindsRow (limits : BinderLimits) (events : List Event) (row : WitnessRow)
    (caller : CallerId) : Prop :=
  ∃ domain rule, (domain, Posting.decided ⟨row, .bound caller⟩ rule) ∈ log limits events

/-- Images and incarnations of one domain are bound one to one, permanently. -/
theorem bindsRow_unique {first second : WitnessRow} {caller other : CallerId}
    (left : BindsRow limits events first caller) (right : BindsRow limits events second other) :
    (first.cookie = second.cookie → first.execId = second.execId → caller = other) ∧
    (first.domain = second.domain → caller = other →
      first.cookie = second.cookie ∧ first.execId = second.execId) := by
  obtain ⟨leftDomain, leftRule, leftIn⟩ := left
  obtain ⟨rightDomain, rightRule, rightIn⟩ := right
  rw [mem_log_iff] at leftIn rightIn
  have leftOwn : first.domain = leftDomain := domain_of_decided leftIn
  have rightOwn : second.domain = rightDomain := domain_of_decided rightIn
  have anything : ∃ tables,
      Traced (fun _ _ => True) (domainTrace limits leftDomain events) tables :=
    domainTrace_sound limits leftDomain events fun _ _ _ _ _ _ _ => trivial
  obtain ⟨tables, traced⟩ := anything
  have leftHeld := traced.recorded _ leftIn first.cookie first.execId caller
    ⟨first, leftRule, rfl, rfl, rfl⟩
  have rightHeld : first.domain = second.domain →
      tables.boundTo second.cookie second.execId = some other := by
    intro sameDomain
    rw [← rightOwn, ← sameDomain, leftOwn] at rightIn
    exact traced.recorded _ rightIn second.cookie second.execId other
      ⟨second, rightRule, rfl, rfl, rfl⟩
  constructor
  · intro sameCookie sameExec
    have held := rightHeld (congrArg DomainCookie.domain sameCookie)
    rw [← sameCookie, ← sameExec, leftHeld] at held
    exact Option.some.inj held
  · intro sameDomain sameCaller
    have held := (traced.linked _ _ _).mp (rightHeld sameDomain)
    rw [← sameCaller, (traced.linked _ _ _).mp leftHeld] at held
    exact Prod.mk.inj (Option.some.inj held)

/-- Under a faithful capture of the domain's events, every bound image was bound
first by an attested row. -/
theorem bindsRow_attested {row : WitnessRow} {caller : CallerId}
    (faithful : Faithful execs (own row.domain events)) (bound : BindsRow limits events row caller)
    : ∃ pending, FirstBound (domainTrace limits row.domain events) row.cookie row.execId caller
        pending ∧ Attested execs (own row.domain events) pending caller := by
  obtain ⟨domain, rule, member⟩ := bound
  rw [mem_log_iff] at member
  have mine : row.domain = domain := domain_of_decided member
  subst mine
  obtain ⟨tables, traced⟩ := domainTrace_sound limits row.domain events
    fun seen early evidence knows pending sighting passes =>
      passes.attested knows early faithful
  exact traced.grounded _ _ _ (traced.recorded _ member _ _ caller ⟨row, rule, rfl, rfl, rfl⟩)

/-- Over every run: images and incarnations are bound one to one for good; under
a faithful capture each bound row's image was first bound by a row that the
admission precedes, with no exec of its process between the admission (or the
coverage start, for a revalidated earlier admission) and the read of that row;
and each domain's log depends on its own events only. -/
theorem native_binding_sound (limits : BinderLimits) (events : List Event) :
    (∀ first second caller other, BindsRow limits events first caller →
      BindsRow limits events second other →
        (first.cookie = second.cookie → first.execId = second.execId → caller = other) ∧
        (first.domain = second.domain → caller = other →
          first.cookie = second.cookie ∧ first.execId = second.execId)) ∧
    (∀ execs row caller, Faithful execs (own row.domain events) →
      BindsRow limits events row caller → ∃ pending,
        FirstBound (domainTrace limits row.domain events) row.cookie row.execId caller pending ∧
          Attested execs (own row.domain events) pending caller) ∧
    ∀ domain, (log limits events).filter (fun entry => entry.1 = domain) =
      log limits (own domain events) := by
  refine ⟨?_, ?_, ?_⟩
  · intro first second caller other left right
    exact bindsRow_unique left right
  · intro execs row caller faithful bound
    exact bindsRow_attested faithful bound
  · exact filter_log_eq_log_own limits events

/-! ## Two scripted captures -/

/-- A clean read of one domain's health and rows. -/
def cleanRead (healthReadNs rowsReadNs : Nat) (rows : List Offered)
    (tagged : ∀ offered ∈ rows, offered.row.domain = domain) : WitnessBatch where
  domain := domain
  phase := .active
  rows := rows
  integrity := []
  health := ⟨some (0, 0, 0, 0, 0), [], 0⟩
  healthRegression := none
  healthUnproven := none
  healthReadNs := healthReadNs
  rowsReadNs := rowsReadNs
  unsettled := false
  tagged := tagged

/-- A complete drain of one domain. -/
def cleanDrain (startedNs : Nat) (records : List DiscoveryRecord) : DiscoveryBatch :=
  ⟨domain, startedNs, startedNs, records, false, false, none, false⟩

/-- Process 7 uses an object, under ticket 5 and exec sequence 1. -/
def useRow (object : UInt32) (recordedAtNs : Nat) : WitnessRow :=
  ⟨1, 5, 1, object, object, 7, recordedAtNs, 1⟩

/-- Incarnation 0 of process 7, admitted at 10, answers ticket 5. -/
def useSighting : Sighting := ⟨0, 10, .cookie ⟨1, 5⟩⟩

def emptyRead : WitnessBatch := cleanRead 1 80 81 [] (by decide)

/-- Coverage begins at 30, after the admission; the pass at 40 finds the
incarnation unchanged; the read at 61 brings a use at 50 and one at 5. -/
def revalidatedCapture : List Event :=
  [.coverage 1 30, .revalidation 1 40 (ExtTreeSet.ofList [(0 : CallerId)]),
    .witnesses (cleanRead 1 60 61
      [⟨useRow 0 50, some useSighting⟩, ⟨useRow 1 5, some useSighting⟩] (by decide)),
    .lifecycle (cleanDrain 1 70 []), .witnesses emptyRead]

/-- Coverage precedes the admission; the drain at 70 delivers an exec of process
8 at 65. -/
def deliveredCapture : List Event :=
  [.coverage 1 0,
    .witnesses (cleanRead 1 60 61 [⟨useRow 0 50, some useSighting⟩] (by decide)),
    .lifecycle (cleanDrain 1 70 [⟨discoveryKindExec, (8 : UInt64) <<< 32, 65⟩]),
    .witnesses emptyRead]

theorem deliveredCapture_bindsRow :
    BindsRow .default deliveredCapture (useRow 0 50) useSighting.caller := by
  refine ⟨1, some ⟨useRow 0 50, some 61, some useSighting⟩, ?_⟩
  rw [mem_log_iff]
  decide +kernel

theorem deliveredCapture_faithful :
    Faithful (fun tgid ns => tgid = 8 ∧ ns = 65) (own 1 deliveredCapture) := by
  rintro seen early start - tgid ns ⟨rfl, rfl⟩ - ⟨batch, started, member, -⟩ -
  left
  have whole : own 1 deliveredCapture = deliveredCapture := rfl
  have drain := early.subset member
  rw [whole] at drain
  simp only [deliveredCapture, mem_cons, reduceCtorEq, false_or, or_false,
    Event.lifecycle.injEq, not_mem_nil] at drain
  subst drain
  exact ⟨_, _, member, mem_cons_self, rfl, rfl, rfl⟩

theorem native_binding_sound_deliveredCapture :
    Faithful (fun tgid ns => tgid = 8 ∧ ns = 65) (own 1 deliveredCapture) ∧
    BindsRow .default deliveredCapture (useRow 0 50) useSighting.caller ∧
    ∃ pending, FirstBound (domainTrace .default 1 deliveredCapture) (useRow 0 50).cookie
        (useRow 0 50).execId useSighting.caller pending ∧
      Attested (fun tgid ns => tgid = 8 ∧ ns = 65) (own 1 deliveredCapture) pending
        useSighting.caller :=
  ⟨deliveredCapture_faithful, deliveredCapture_bindsRow,
    (native_binding_sound .default deliveredCapture).2.1 _ (useRow 0 50) _
      deliveredCapture_faithful deliveredCapture_bindsRow⟩

/-- A capture is faithful to execs before its coverage start, whatever it shows. -/
theorem faithful_of_early {start : Nat} (covered : coverageStart events = some start)
    (early : ∀ tgid ns, execs tgid ns → ns < start) : Faithful execs events := by
  intro seen before found known tgid ns happened since
  have same := coverageStart_prefix before known
  rw [covered] at same
  cases same
  have order := early tgid ns happened
  omega

theorem domainTrace_revalidatedCapture :
    domainTrace .default 1 revalidatedCapture =
      [.invalid 0, .seen (useRow 0 50), .queued, .seen (useRow 1 5), .queued, .invalid 0,
        .dequeued, .decided ⟨useRow 0 50, .bound 0⟩ (some ⟨useRow 0 50, some 61, some useSighting⟩),
        .dequeued, .decided ⟨useRow 1 5, .bound 0⟩
          (some ⟨useRow 1 5, some 61, some useSighting⟩)] := by
  decide +kernel

/-- The process re-executes its binary at 20, between the admission at 10 and
the coverage start.  Its use at 5, before the admission, is bound through the
image's cached binding, and so is the image across the exec. -/
theorem revalidatedCapture_binds_early_use :
    Faithful (fun tgid ns => tgid = 7 ∧ ns = 20) (own 1 revalidatedCapture) ∧
    BindsRow .default revalidatedCapture (useRow 1 5) useSighting.caller ∧
    (useRow 1 5).recordedAtNs < useSighting.firstSeenNs ∧
    FirstBound (domainTrace .default 1 revalidatedCapture) (useRow 1 5).cookie (useRow 1 5).execId
      useSighting.caller ⟨useRow 0 50, some 61, some useSighting⟩ ∧
    useSighting.firstSeenNs ≤ 20 ∧ 20 ≤ 61 := by
  refine ⟨?_, ⟨1, some ⟨useRow 1 5, some 61, some useSighting⟩, ?_⟩, by decide, ?_, by decide,
    by decide⟩
  · refine faithful_of_early (show coverageStart (own 1 revalidatedCapture) = some 30 from rfl) ?_
    rintro tgid ns ⟨-, rfl⟩
    decide
  · rw [mem_log_iff, domainTrace_revalidatedCapture]
    decide
  · refine ⟨?_, rfl, rfl⟩
    rw [domainTrace_revalidatedCapture]
    refine ⟨[.invalid 0, .seen (useRow 0 50), .queued, .seen (useRow 1 5), .queued, .invalid 0,
      .dequeued], _, rfl, ?_⟩
    rintro posting member other ⟨row, rule, rfl, -⟩
    simp at member

end P11Scope.Binder
