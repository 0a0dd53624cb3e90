import P11Scope.Lib.TreeMap
import P11Scope.Vocabulary

/-!
# Native caller binding

Witness rows name an image (a domain-tagged task cookie and an exec sequence).
The binder ties an image to one caller incarnation, once the lifecycle and the
health evidence cover the read of the row, or leaves the row unbound with a
reason.  One domain's evidence and tables are kept in separate records: the
rules read the evidence and write the tables.
-/

namespace P11Scope.Binder

open Std Lib.TreeMap

/-! ## Identities and batches -/

abbrev NativeDomainId := UInt64
abbrev CallerId := UInt32

/-- A task cookie together with the domain that issued it. -/
structure DomainCookie where
  domain : NativeDomainId
  ticket : UInt64
  deriving DecidableEq, Repr

def DomainCookie.fields (cookie : DomainCookie) : UInt64 × UInt64 :=
  (cookie.domain, cookie.ticket)

instance : Ord DomainCookie := ⟨compareOn DomainCookie.fields⟩

instance : TransOrd DomainCookie := inferInstanceAs (TransCmp (compareOn DomainCookie.fields))

instance : LawfulEqOrd DomainCookie where
  eq_of_compare := eq_of_compareOn fun first second same => by
    cases first
    cases second
    simpa [DomainCookie.fields] using same

inductive CookieQuery where
  | cookie (answered : DomainCookie)
  | noCookie
  | exited
  | unavailable (reason : String)
  deriving DecidableEq, Repr

/-- A validated physical-use witness. -/
structure WitnessRow where
  domain : NativeDomainId
  taskCookie : UInt64
  execSequence : UInt64
  object : UInt32
  endpoint : UInt32
  hostTgid : UInt32
  recordedAtNs : Nat
  entryCount : Nat
  deriving DecidableEq, Repr

def WitnessRow.cookie (row : WitnessRow) : DomainCookie := ⟨row.domain, row.taskCookie⟩

def WitnessRow.execId (row : WitnessRow) : UInt64 := row.execSequence

/-- What the live incarnation of the row's tgid was, and what the cookie query
through its pin answered, when the row was read. -/
structure Sighting where
  caller : CallerId
  firstSeenNs : Nat
  query : CookieQuery
  deriving DecidableEq, Repr

/-- A row of a read with the answer that `live_caller` and `query_cookie` give
if the binder asks for it. -/
structure Offered where
  row : WitnessRow
  sighting : Option Sighting
  deriving DecidableEq, Repr

inductive CapturePhase where
  | prepared
  | active
  | retiring
  | retired
  deriving DecidableEq, Repr

structure CaptureHealth where
  discoveryCounters : Option (Nat × Nat × Nat × Nat × Nat)
  failures : List String
  malformedDiscovery : Nat
  deriving DecidableEq, Repr

/-- One bounded witness read plus its health snapshot.  The facade tags every
row with the domain it read. -/
structure WitnessBatch where
  domain : NativeDomainId
  phase : CapturePhase
  rows : List Offered
  integrity : List String
  health : CaptureHealth
  healthRegression : Option String
  healthUnproven : Option String
  healthReadNs : Nat
  rowsReadNs : Nat
  unsettled : Bool
  tagged : ∀ offered ∈ rows, offered.row.domain = domain

structure DiscoveryRecord where
  kind : UInt8
  pidTgid : UInt64
  hookTsNs : Nat
  deriving DecidableEq, Repr

def discoveryKindExec : UInt8 := 5

def DiscoveryRecord.tgid (record : DiscoveryRecord) : UInt32 := (record.pidTgid >>> 32).toUInt32

/-- One bounded quantum of lifecycle records. -/
structure DiscoveryBatch where
  domain : NativeDomainId
  startedNs : Nat
  finishedNs : Nat
  records : List DiscoveryRecord
  recordBoundReached : Bool
  deadlineReached : Bool
  failure : Option String
  headPending : Bool
  deriving DecidableEq, Repr

def DiscoveryBatch.drained (batch : DiscoveryBatch) : Bool :=
  !batch.recordBoundReached && !batch.deadlineReached && batch.failure.isNone &&
    !batch.headPending

/-- A facade stamp, or nothing when the clock read failed. -/
def stamp (ns : Nat) : Option Nat := if ns = u64Max then none else some ns

/-- New loss: a ring-loss counter above what was already seen. -/
def ringLossRose (seen : Nat) (counters : Option (Nat × Nat × Nat × Nat × Nat)) : Option Nat :=
  match counters with
  | none => none
  | some read => if seen < read.1 then some read.1 else none

/-! ## Verdicts -/

inductive UnboundReason where
  | noLiveCaller
  | callerExited
  | cookieUnavailable
  | cookieMismatch
  | beforeAdmission
  | execAfterAdmission
  | lifecycleLoss
  | execAmbiguous
  | execTransition
  | execCoverageGap
  | evidenceIncomplete
  | capacity
  deriving DecidableEq, Repr

instance : Fintype UnboundReason where
  elems := {.noLiveCaller, .callerExited, .cookieUnavailable, .cookieMismatch, .beforeAdmission,
    .execAfterAdmission, .lifecycleLoss, .execAmbiguous, .execTransition, .execCoverageGap,
    .evidenceIncomplete, .capacity}
  complete reason := by cases reason <;> decide

def UnboundReason.code : UnboundReason → String
  | .noLiveCaller => "no_live_caller"
  | .callerExited => "caller_exited"
  | .cookieUnavailable => "cookie_unavailable"
  | .cookieMismatch => "cookie_mismatch"
  | .beforeAdmission => "before_admission"
  | .execAfterAdmission => "exec_after_admission"
  | .lifecycleLoss => "lifecycle_loss"
  | .execAmbiguous => "exec_ambiguous"
  | .execTransition => "exec_transition"
  | .execCoverageGap => "exec_coverage_gap"
  | .evidenceIncomplete => "evidence_incomplete"
  | .capacity => "capacity"

def UnboundReason.text : UnboundReason → String
  | .noLiveCaller => "no live caller incarnation held the tgid when the row was read"
  | .callerExited => "the pinned caller exited before its cookie could be queried"
  | .cookieUnavailable => "the native cookie query was unavailable"
  | .cookieMismatch =>
    "the pinned caller holds another task cookie (pid reuse or nonleader exec)"
  | .beforeAdmission => "the row predates the caller incarnation's admission"
  | .execAfterAdmission => "an exec of the tgid was seen after the admission"
  | .lifecycleLoss => "lifecycle evidence was lost after the admission"
  | .execAmbiguous => "several images of one task cookie compete"
  | .execTransition => "the row proved an exec; its successor was admitted later"
  | .execCoverageGap => "the caller predates exec coverage and no later scan revalidated it"
  | .evidenceIncomplete => "the lifecycle or health horizon after the read never came"
  | .capacity => "a native binder table bound was reached"

inductive Binding where
  | bound (caller : CallerId)
  | unbound (reason : UnboundReason)
  deriving DecidableEq, Repr

structure Decision where
  row : WitnessRow
  binding : Binding
  deriving DecidableEq, Repr

/-- Proof that one incarnation's image ended. -/
structure ExecTransition where
  caller : CallerId
  pid : UInt32
  old : Option (DomainCookie × UInt64)
  new : Option (DomainCookie × UInt64)
  deriving DecidableEq, Repr

def ExecTransition.rowProven (caller : CallerId) (pid : UInt32) (old new : DomainCookie × UInt64) :
    ExecTransition :=
  ⟨caller, pid, some old, some new⟩

structure BinderLimits where
  pending : Nat
  cookies : Nat
  execTgids : Nat
  deriving DecidableEq, Repr

def defaultBinderLimit : Nat := 65536

def BinderLimits.default : BinderLimits :=
  ⟨defaultBinderLimit, defaultBinderLimit, defaultBinderLimit⟩

/-! ## One domain -/

/-- A sighted row that waits for its horizons.  `readNs` is when the read of
the row finished. -/
structure Pending where
  row : WitnessRow
  readNs : Option Nat
  sighting : Option Sighting
  deriving DecidableEq, Repr

/-- What one domain's batches and notes have shown so far. -/
structure Evidence where
  lifecycleNs : Option Nat := none
  healthNs : Option Nat := none
  metadataHealthNs : Option Nat := none
  metadataHealthProven : Bool := false
  coverageNs : Option Nat := none
  revalidated : Option (ExtTreeSet CallerId) := none
  ringLoss : Nat := 0
  malformed : Nat := 0
  lossNs : Option Nat := none
  execNs : ExtTreeMap UInt32 Nat := ∅

/-- One exec sequence of one ticket: who holds it, and its latest row. -/
structure ExecSeen where
  bound : Option CallerId := none
  lastT0Ns : Nat := 0
  deriving DecidableEq, Repr

/-- The images of one domain and the incarnations they are bound to. -/
structure Tables where
  cookies : ExtTreeMap DomainCookie (ExtTreeMap UInt64 ExecSeen) := ∅
  callers : ExtTreeMap CallerId (DomainCookie × UInt64) := ∅
  ended : ExtTreeSet CallerId := ∅

structure DomainState where
  finished : Bool := false
  evidence : Evidence := {}
  tables : Tables := {}
  pending : List Pending := []

/-- The later of a remembered instant and a new one. -/
def latest (was : Option Nat) (ns : Nat) : Option Nat := some (was.elim ns fun was => max was ns)

variable (evidence : Evidence)

def Evidence.noteLoss (atNs : Nat) : Evidence :=
  { evidence with lossNs := latest evidence.lossNs atNs }

/-- Both horizons started strictly after the row's read finished. -/
def Evidence.horizonsCover (pending : Pending) : Bool :=
  pending.readNs.any fun readNs =>
    evidence.lifecycleNs.any (fun ns => readNs < ns) && evidence.healthNs.any fun ns => readNs < ns

def Evidence.predatesCoverage (firstSeenNs : Nat) : Bool :=
  evidence.coverageNs.all fun start => firstSeenNs < start

def Evidence.awaitsRevalidation (pending : Pending) : Bool :=
  evidence.coverageNs.isSome && evidence.revalidated.isNone &&
    pending.sighting.any fun sighting => evidence.predatesCoverage sighting.firstSeenNs

variable (tables : Tables)

/-- The incarnation an image is bound to. -/
def Tables.boundTo (cookie : DomainCookie) (exec : UInt64) : Option CallerId :=
  ((tables.cookies[cookie]?.bind fun execs => execs[exec]?).bind fun seen => seen.bound)

/-- The row's `ExecSeen` entry, created when absent, after an update. -/
def Tables.touch (cookie : DomainCookie) (exec : UInt64) (update : ExecSeen → ExecSeen) : Tables :=
  let execs := tables.cookies.getD cookie ∅
  { tables with
    cookies := tables.cookies.insert cookie (execs.insert exec (update (execs.getD exec {}))) }

/-- An image takes its incarnation. -/
def Tables.bind (cookie : DomainCookie) (exec : UInt64) (caller : CallerId) : Tables :=
  let seen := tables.touch cookie exec fun seen => { seen with bound := some caller }
  { seen with callers := seen.callers.insert caller (cookie, exec) }

/-- Another image of the ticket that may be the incarnation's: every later
sequence, and an unheld earlier one with a row since the admission. -/
def Tables.competing (cookie : DomainCookie) (exec : UInt64) (firstSeenNs : Nat) : Bool :=
  tables.cookies[cookie]?.any fun execs => execs.toList.any fun entry =>
    entry.1 ≠ exec && (exec < entry.1 ||
      (entry.2.bound.isNone && firstSeenNs ≤ entry.2.lastT0Ns))

/-- Rules 3 to 5: why a sighted row with the right cookie is not bound to its
unbound incarnation. -/
def refusal (row : WitnessRow) (sighting : Sighting) : Option UnboundReason :=
  if row.recordedAtNs < sighting.firstSeenNs then some .beforeAdmission
  else if evidence.predatesCoverage sighting.firstSeenNs &&
      !evidence.revalidated.any fun revalidated => revalidated.contains sighting.caller then
    some .execCoverageGap
  else if evidence.execNs[row.hostTgid]?.any fun ns => sighting.firstSeenNs ≤ ns then
    some .execAfterAdmission
  else if evidence.lossNs.any fun ns => sighting.firstSeenNs ≤ ns then some .lifecycleLoss
  else if tables.competing row.cookie row.execId sighting.firstSeenNs then some .execAmbiguous
  else none

structure Verdict where
  binding : Binding
  tables : Tables
  transition : Option ExecTransition := none

/-- The incarnation already holds an image here, so this row is not it. -/
def heldVerdict (row : WitnessRow) (caller : CallerId) (held : DomainCookie × UInt64) : Verdict :=
  if held.1 ≠ row.cookie || held.2 < row.execId then
    if tables.ended.contains caller then ⟨.unbound .execTransition, tables, none⟩
    else
      ⟨.unbound .execTransition, { tables with ended := tables.ended.insert caller },
        some (.rowProven caller row.hostTgid held (row.cookie, row.execId))⟩
  else ⟨.unbound .execAmbiguous, tables, none⟩

/-- The binding rules for one sighted row whose horizons arrived. -/
def decide (pending : Pending) : Verdict :=
  let row := pending.row
  match tables.boundTo row.cookie row.execId with
  | some caller => ⟨.bound caller, tables, none⟩
  | none =>
    match pending.sighting with
    | none => ⟨.unbound .noLiveCaller, tables, none⟩
    | some sighting =>
      match sighting.query with
      | .noCookie => ⟨.unbound .cookieMismatch, tables, none⟩
      | .exited => ⟨.unbound .callerExited, tables, none⟩
      | .unavailable _ => ⟨.unbound .cookieUnavailable, tables, none⟩
      | .cookie answered =>
        if answered ≠ row.cookie then ⟨.unbound .cookieMismatch, tables, none⟩
        else
          match tables.callers[sighting.caller]? with
          | some held => heldVerdict tables row sighting.caller held
          | none =>
            match refusal evidence tables row sighting with
            | some reason => ⟨.unbound reason, tables, none⟩
            | none =>
              ⟨.bound sighting.caller,
                tables.bind row.cookie row.execId sighting.caller, none⟩

/-! ## Postings

Every call changes one domain and posts to the shared census and outboxes. -/

/-- `decided` remembers the waiting row a verdict was reached from; a cached
image, a full table and a finish decide without the rules. -/
inductive Posting where
  | seen (row : WitnessRow)
  | invalid (count : Nat)
  | queued
  | dequeued
  | decided (decision : Decision) (rule : Option Pending)
  | proved (transition : ExecTransition)
  deriving DecidableEq, Repr

structure Progress where
  tables : Tables
  pending : List Pending
  postings : List Posting

/-- The loop of `decide_ready`: rows are decided from the front until one still
waits. -/
def decideReady (evidence : Evidence) (tables : Tables) : List Pending → Progress
  | [] => ⟨tables, [], []⟩
  | head :: rest =>
    if !evidence.horizonsCover head || evidence.awaitsRevalidation head then
      ⟨tables, head :: rest, []⟩
    else
      let verdict := decide evidence tables head
      let later := decideReady evidence verdict.tables rest
      ⟨later.tables, later.pending,
        .dequeued :: (verdict.transition.toList.map .proved ++
          .decided ⟨head.row, verdict.binding⟩ (some head) :: later.postings)⟩

variable (limits : BinderLimits)

/-- One row of a read: a cached image decides it at once, a full table refuses
it, otherwise it is sighted and waits. -/
def absorbRow (readNs : Option Nat) (tables : Tables) (pending : List Pending) (offered : Offered) :
    Progress :=
  let row := offered.row
  match tables.boundTo row.cookie row.execId with
  | some caller => ⟨tables, pending, [.seen row, .decided ⟨row, .bound caller⟩ none]⟩
  | none =>
    if (!tables.cookies.contains row.cookie && limits.cookies ≤ tables.cookies.size) ||
        limits.pending ≤ pending.length then
      ⟨tables, pending, [.seen row, .decided ⟨row, .unbound .capacity⟩ none]⟩
    else
      ⟨tables.touch row.cookie row.execId fun seen =>
          { seen with lastT0Ns := max seen.lastT0Ns row.recordedAtNs },
        pending ++ [⟨row, readNs, offered.sighting⟩], [.seen row, .queued]⟩

def absorbRows (limits : BinderLimits) (readNs : Option Nat) (tables : Tables)
    (pending : List Pending) : List Offered → Progress
  | [] => ⟨tables, pending, []⟩
  | offered :: rest =>
    let first := absorbRow limits readNs tables pending offered
    let later := absorbRows limits readNs first.tables first.pending rest
    ⟨later.tables, later.pending, first.postings ++ later.postings⟩

/-- Every waiting row of a finished domain stays unbound. -/
def finishRows (evidence : Evidence) : List Pending → List Posting
  | [] => []
  | head :: rest =>
    let reason := if evidence.awaitsRevalidation head then UnboundReason.execCoverageGap
      else .evidenceIncomplete
    .dequeued :: .decided ⟨head.row, .unbound reason⟩ none :: finishRows evidence rest

/-! ## Evidence of a batch -/

/-- One exec record: the latest instant of its tgid, or a loss when the table
cannot remember it. -/
def Evidence.noteRecord (limit : Nat) (evidence : Evidence) (record : DiscoveryRecord) : Evidence :=
  if record.kind ≠ discoveryKindExec then evidence
  else if !evidence.execNs.contains record.tgid && limit ≤ evidence.execNs.size then
    evidence.noteLoss record.hookTsNs
  else
    { evidence with
      execNs := evidence.execNs.insert record.tgid
        (max (evidence.execNs.getD record.tgid record.hookTsNs) record.hookTsNs) }

def Evidence.noteFailure (batch : DiscoveryBatch) : Evidence :=
  if batch.failure.isSome then evidence.noteLoss batch.finishedNs else evidence

def Evidence.noteDrain (batch : DiscoveryBatch) : Evidence :=
  match stamp batch.startedNs with
  | some started =>
    if batch.drained then { evidence with lifecycleNs := latest evidence.lifecycleNs started }
    else evidence
  | none => evidence

def Evidence.absorbLifecycle (limit : Nat) (evidence : Evidence) (batch : DiscoveryBatch) :
    Evidence :=
  ((batch.records.foldl (Evidence.noteRecord limit) evidence).noteFailure batch).noteDrain batch

variable (batch : WitnessBatch)

def WitnessBatch.metadataHealth : Bool :=
  batch.phase = .active && batch.health.failures.isEmpty &&
    batch.health.discoveryCounters.isSome && batch.healthUnproven.isNone &&
    batch.healthRegression.isNone && !batch.unsettled

def Evidence.noteMetadataHealth : Evidence :=
  match stamp batch.healthReadNs with
  | some read =>
    if evidence.metadataHealthNs.all fun previous => previous < read then
      { evidence with
        metadataHealthNs := some read, metadataHealthProven := batch.metadataHealth }
    else if evidence.metadataHealthNs = some read && !batch.metadataHealth then
      { evidence with metadataHealthProven := false }
    else evidence
  | none => { evidence with metadataHealthProven := false }

/-- The loss counters of a readable health read: a rise is dated at the read. -/
def Evidence.noteCounters (ringLoss : Nat) : Evidence :=
  let risen :=
    if (ringLossRose evidence.ringLoss batch.health.discoveryCounters).isSome ||
        evidence.malformed < batch.health.malformedDiscovery then
      evidence.noteLoss batch.healthReadNs
    else evidence
  { risen with
    ringLoss := max evidence.ringLoss ringLoss
    malformed := max evidence.malformed batch.health.malformedDiscovery
    healthNs := match stamp batch.healthReadNs with
      | some read => latest evidence.healthNs read
      | none => evidence.healthNs }

def Evidence.absorbHealth : Evidence :=
  let noted := evidence.noteMetadataHealth batch
  match batch.health.discoveryCounters with
  | some counters => noted.noteCounters batch counters.1
  | none => noted

/-! ## Calls -/

inductive Event where
  | coverage (domain : NativeDomainId) (startNs : Nat)
  | revalidation (domain : NativeDomainId) (passStartNs : Nat) (revalidated : ExtTreeSet CallerId)
  | lifecycle (batch : DiscoveryBatch)
  | witnesses (batch : WitnessBatch)
  | finish (domain : NativeDomainId)

def Event.domain : Event → NativeDomainId
  | .coverage domain _ => domain
  | .revalidation domain _ _ => domain
  | .lifecycle batch => batch.domain
  | .witnesses batch => batch.domain
  | .finish domain => domain

/-- `decide_ready` after new evidence and new rows. -/
def DomainState.settle (state : DomainState) (evidence : Evidence) (before : Progress) :
    DomainState × List Posting :=
  let settled := decideReady evidence before.tables before.pending
  ({ state with evidence := evidence, tables := settled.tables, pending := settled.pending },
    before.postings ++ settled.postings)

/-- What the domain has in hand before new rows arrive. -/
def DomainState.progress (state : DomainState) : Progress := ⟨state.tables, state.pending, []⟩

def DomainState.noteExecCoverage (state : DomainState) (startNs : Nat) :
    DomainState × List Posting :=
  state.settle { state.evidence with coverageNs := state.evidence.coverageNs.or (some startNs) }
    state.progress

def DomainState.noteRevalidation (state : DomainState) (passStartNs : Nat)
    (revalidated : ExtTreeSet CallerId) : DomainState × List Posting :=
  if state.evidence.revalidated.isSome ||
      state.evidence.coverageNs.all (fun start => passStartNs < start) then (state, [])
  else state.settle { state.evidence with revalidated := some revalidated } state.progress

def DomainState.absorbLifecycle (limits : BinderLimits) (state : DomainState)
    (batch : DiscoveryBatch) : DomainState × List Posting :=
  state.settle (state.evidence.absorbLifecycle limits.execTgids batch) state.progress

def DomainState.absorbWitnesses (state : DomainState) (batch : WitnessBatch) :
    DomainState × List Posting :=
  let rows := absorbRows limits (stamp batch.rowsReadNs) state.tables state.pending batch.rows
  state.settle (state.evidence.absorbHealth batch)
    { rows with postings := .invalid batch.integrity.length :: rows.postings }

def DomainState.finish (state : DomainState) : DomainState × List Posting :=
  ({ state with finished := true, pending := [] }, finishRows state.evidence state.pending)

def DomainState.step (state : DomainState) : Event → DomainState × List Posting
  | .coverage _ startNs => state.noteExecCoverage startNs
  | .revalidation _ passStartNs revalidated => state.noteRevalidation passStartNs revalidated
  | .lifecycle batch => state.absorbLifecycle limits batch
  | .witnesses batch => state.absorbWitnesses limits batch
  | .finish _ => state.finish

/-! ## The binder -/

/-- A reason without an entry reads zero. -/
structure BindingCensus where
  rows : Nat := 0
  bound : Nat := 0
  unbound : UnboundReason → Nat := fun _ => 0
  pending : Nat := 0
  integrity : Nat := 0

def BindingCensus.unboundTotal (census : BindingCensus) : Nat := ∑ reason, census.unbound reason

def BindingCensus.record (census : BindingCensus) : Binding → BindingCensus
  | .bound _ => { census with bound := census.bound + 1 }
  | .unbound reason =>
    { census with unbound := Function.update census.unbound reason (census.unbound reason + 1) }

/-- The binder: per-domain states, the outboxes of decisions and transitions,
and the census. -/
structure NativeBinder where
  limits : BinderLimits
  domains : ExtTreeMap NativeDomainId DomainState := ∅
  decided : List Decision := []
  transitions : List ExecTransition := []
  census : BindingCensus := {}

def NativeBinder.new : NativeBinder := { limits := limits }

variable (binder : NativeBinder)

/-- `domain_index`: the domain's state, fresh when the domain is new. -/
def NativeBinder.state (domain : NativeDomainId) : DomainState :=
  binder.domains.getD domain {}

def NativeBinder.post : Posting → NativeBinder
  | .seen _ => { binder with census := { binder.census with rows := binder.census.rows + 1 } }
  | .invalid count =>
    { binder with census := { binder.census with integrity := binder.census.integrity + count } }
  | .queued => { binder with census := { binder.census with pending := binder.census.pending + 1 } }
  | .dequeued =>
    { binder with census := { binder.census with pending := binder.census.pending - 1 } }
  | .decided decision _ =>
    { binder with
      census := binder.census.record decision.binding, decided := binder.decided ++ [decision] }
  | .proved transition => { binder with transitions := binder.transitions ++ [transition] }

def NativeBinder.step (binder : NativeBinder) (event : Event) : NativeBinder :=
  let after := (binder.state event.domain).step binder.limits event
  after.2.foldl NativeBinder.post
    { binder with domains := binder.domains.insert event.domain after.1 }

def NativeBinder.takeDecisions : NativeBinder × List Decision :=
  ({ binder with decided := [] }, binder.decided)

def NativeBinder.takeTransitions : NativeBinder × List ExecTransition :=
  ({ binder with transitions := [] }, binder.transitions)

end P11Scope.Binder
