import P11Scope.KeyUse.Postings

/-!
# Conservation of key use

Which open associations a row or a summary stands for, where a terminal goes,
and the books that every posting keeps balanced.
-/

namespace P11Scope.KeyUse

open Std Edge Lib Lib.TreeMap List

/-! ## Open associations -/

/-- The live joins of one operation on a row. -/
def OpenKeyUse.liveJoins (use : OpenKeyUse) (key : AggKey) : Nat :=
  use.associations.countP fun assoc => assoc.liveRow = some key

/-- What one operation keeps active in a summary: itself without receipts, and
its unknown-bucket associations. -/
def OpenKeyUse.summaryHolds (use : OpenKeyUse) (index : Fin unknownBuckets) : Nat :=
  (if !use.bound && unboundIndex use.category = index then 1 else 0) +
    use.associations.countP fun assoc => assoc.bucket = .unknown index

def RefusedOpen.summaryHolds (refused : RefusedOpen) (index : Fin unknownBuckets) : Nat :=
  if unboundIndex refused.category = index then 1 else 0

namespace KeyUseReducer

/-- The open, not lost associations of a row. -/
def openJoins (reducer : KeyUseReducer) (key : AggKey) : Nat :=
  sumBy (fun _ use => use.liveJoins key) reducer.opens

/-- The receipt-less opens, refused opens and unknown-bucket associations of a
summary. -/
def unknownHeld (reducer : KeyUseReducer) (index : Fin unknownBuckets) : Nat :=
  sumBy (fun _ use => use.summaryHolds index) reducer.opens +
    sumBy (fun _ refused => refused.summaryHolds index) reducer.refused

end KeyUseReducer

/-! ## Terminals -/

/-- Where a terminal's outcome is counted in the primary partition. -/
inductive Destination where
  | aggregate (key : AggKey)
  | summary (index : Fin unknownBuckets)
  deriving DecidableEq

def AssocBucket.destination : AssocBucket → Destination
  | .proved key => .aggregate key
  | .unknown index => .summary index

/-- A lost primary routes to the join-lost summary, any other to its bucket. -/
def OpenAssoc.route (category : String) (assoc : OpenAssoc) : Destination :=
  if assoc.lost then .summary (unknownIndex category "key_join_lost")
  else assoc.bucket.destination

def OpenKeyUse.destination (use : OpenKeyUse) : Destination :=
  match use.associations.find? (·.primary) with
  | some assoc => assoc.route use.category
  | none => .summary (unboundIndex use.category)

/-- The rows that also take the outcome, besides the primary partition. -/
def OpenKeyUse.secondaries (use : OpenKeyUse) : List AggKey :=
  (use.associations.filter (!·.primary)).filterMap OpenAssoc.liveRow

def ResolvedAssoc.opened (slot : ResolvedAssoc) : OpenAssoc :=
  { bucket := slot.bucket, key := 0, lost := false, primary := slot.primary }

/-- A direct settles like an operation that is opened and closed at once. -/
def directUse (category : String) (resolved : List ResolvedAssoc) : OpenKeyUse where
  instanceId := 0
  category := category
  mechanism := none
  startedTsNs := 0
  associations := resolved.map ResolvedAssoc.opened
  bound := !resolved.isEmpty
  ticket := 0
  ticketShared := false

/-- The terminals observed so far, each with its one destination. -/
structure History where
  terminals : List (Destination × OperationOutcome) := []
  secondaries : List (AggKey × OperationOutcome) := []

namespace History

variable (history : History)

def add (destination : Destination) (outcome : OperationOutcome) (secondaries : List AggKey) :
    History where
  terminals := history.terminals ++ [(destination, outcome)]
  secondaries := history.secondaries ++ secondaries.map fun key => (key, outcome)

/-- A terminal takes the destination that the reducer's state gives it. -/
def note (reducer : KeyUseReducer) (instanceId : RegistryInstanceId) : OperationEffect → History
  | .started .. => history
  | .ended id _ outcome _ =>
    match reducer.opens[(instanceId, id)]? with
    | some use => history.add use.destination outcome use.secondaries
    | none =>
      match reducer.refused[(instanceId, id)]? with
      | some refused =>
        history.add (.summary (unboundIndex refused.category)) outcome []
      | none => history.add (.summary (unknownIndex "unknown" "unbound")) outcome []
  | .directCompleted _ category _ keyReceipts _ =>
    let receipts := (KeyUseReducer.boundSlice category keyReceipts reducer.evidence).1
    let resolved := KeyUseReducer.resolve instanceId category receipts
    if reducer.admits resolved then
      history.add (directUse category resolved).destination .completed
        (directUse category resolved).secondaries
    else history.add (.summary (unboundIndex category)) .completed []

theorem count_terminals_add (destination other : Destination) (outcome wanted : OperationOutcome)
    (secondaries : List AggKey) :
    (history.add destination outcome secondaries).terminals.count (other, wanted) =
      history.terminals.count (other, wanted) +
        if destination = other ∧ outcome = wanted then 1 else 0 := by
  change (history.terminals ++ [(destination, outcome)]).count _ = _
  rw [count_append, count_singleton]
  simp

theorem count_secondaries_add (destination : Destination) (key : AggKey)
    (outcome wanted : OperationOutcome) (secondaries : List AggKey) :
    (history.add destination outcome secondaries).secondaries.count (key, wanted) =
      history.secondaries.count (key, wanted) +
        if outcome = wanted then secondaries.count key else 0 := by
  change (history.secondaries ++ _).count _ = _
  rw [count_append]
  congr 1
  by_cases same : outcome = wanted
  · subst same
    rw [if_pos rfl]
    exact count_map_of_injective _ _ (fun first second equal => (Prod.mk.inj equal).1) key
  rw [if_neg same, count_eq_zero]
  intro member
  obtain ⟨other, _, equal⟩ := mem_map.mp member
  exact same (Prod.mk.inj equal).2

end History

/-! ## The books -/

def AggCounters.Balanced (counters : AggCounters) : Prop :=
  counters.started = counters.completed + counters.failed + counters.cancelled +
    counters.unknown + counters.active + counters.keyJoinLost

/-- No counter of a row has reached its ceiling. -/
structure AggCounters.Below (counters : AggCounters) : Prop where
  started : counters.started < u64Max
  ended : ∀ outcome, counters.get outcome < u64Max
  active : counters.active < u64Max
  keyJoinLost : counters.keyJoinLost < u64Max

structure UnknownCounters.Below (counters : UnknownCounters) : Prop where
  settled : ∀ outcome, counters.get outcome < u64Max
  active : counters.active < u64Max

structure KeyUseReducer.Unsaturated (reducer : KeyUseReducer) : Prop where
  rows : ∀ (key : AggKey) (counters : AggCounters), reducer.aggregates[key]? = some counters →
    counters.Below
  summaries : ∀ index : Fin unknownBuckets, (getElem reducer.unknown index index.2).Below

theorem KeyUseReducer.Unsaturated.agg {reducer : KeyUseReducer} (below : reducer.Unsaturated)
    (key : AggKey) : (reducer.agg key).Below := by
  unfold KeyUseReducer.agg
  cases stored : reducer.aggregates[key]? with
  | none => exact ⟨by decide, fun outcome => by cases outcome <;> decide, by decide, by decide⟩
  | some counters => exact below.rows key counters stored

/-- The entries a start may post. -/
def Meter.opens : Meter → Bool
  | .started _ | .opened _ | .raised _ => true
  | _ => false

/-- Entries that keep a row's equation. -/
def BalancedEntries (entries : List Meter) (key : AggKey) : Prop :=
  entries.count (.started key) + entries.count (.closed key) =
    entries.count (.ended key .completed) + entries.count (.ended key .failed) +
      entries.count (.ended key .cancelled) + entries.count (.ended key .unknown) +
      entries.count (.joinLost key) + entries.count (.opened key)

/-- An operation carries at most one primary, and associations only when bound. -/
structure OpenKeyUse.WellFormed (use : OpenKeyUse) : Prop where
  once : use.associations.countP (·.primary) ≤ 1
  unbound : use.bound = false → use.associations = []

namespace KeyUseReducer

/-- Every open operation is well formed and its live associations have their rows. -/
structure Rooted (reducer : KeyUseReducer) : Prop where
  formed : ∀ (key : OperationKey) (use : OpenKeyUse), reducer.opens[key]? = some use →
    use.WellFormed
  present : ∀ (key : OperationKey) (use : OpenKeyUse), reducer.opens[key]? = some use →
    ∀ assoc ∈ use.associations, ∀ row ∈ assoc.liveRow, row ∈ reducer.aggregates

/-- What the counters stand for, as long as none of them saturates. -/
structure Sound (reducer : KeyUseReducer) (history : History) : Prop where
  balanced : ∀ key, (reducer.agg key).Balanced
  joined : ∀ key, (reducer.agg key).active = reducer.openJoins key
  held : ∀ index : Fin unknownBuckets,
    (getElem reducer.unknown index index.2).active = reducer.unknownHeld index
  fits : reducer.aggregates.size ≤ reducer.capacity
  settled : ∀ (index : Fin unknownBuckets) (outcome : OperationOutcome),
    (getElem reducer.unknown index index.2).get outcome =
      history.terminals.count (.summary index, outcome)
  ended : ∀ (key : AggKey) (outcome : OperationOutcome),
    (reducer.agg key).get outcome = history.terminals.count (.aggregate key, outcome) +
      history.secondaries.count (key, outcome)

/-- The entries of one event and what they stand for among the open operations. -/
structure Books (entries : List Meter) (before after : KeyUseReducer) (history later : History) :
    Prop where
  rows : ∀ key, RowMoved key entries (before.agg key) (after.agg key)
  summaries : ∀ index : Fin unknownBuckets,
    SummaryMoved index entries (getElem before.unknown index index.2)
      (getElem after.unknown index index.2)
  balanced : ∀ key, BalancedEntries entries key
  oneWay : ∀ key, entries.count (.closed key) = 0 ∨ entries.count (.opened key) = 0
  oneWaySummary : ∀ index,
    entries.count (.lowered index) = 0 ∨ entries.count (.raised index) = 0
  joins : ∀ key, after.openJoins key + entries.count (.closed key) =
    before.openJoins key + entries.count (.opened key)
  holds : ∀ index, after.unknownHeld index + entries.count (.lowered index) =
    before.unknownHeld index + entries.count (.raised index)
  settled : ∀ index outcome, later.terminals.count (.summary index, outcome) =
    history.terminals.count (.summary index, outcome) + entries.count (.settled index outcome)
  ended : ∀ key outcome, later.terminals.count (.aggregate key, outcome) +
      later.secondaries.count (key, outcome) =
    history.terminals.count (.aggregate key, outcome) + history.secondaries.count (key, outcome) +
      entries.count (.ended key outcome)

variable {entries : List Meter} {before after : KeyUseReducer} {history later : History}

/-- Balanced entries keep the books as long as no counter saturates. -/
theorem Sound.post (sound : before.Sound history) (books : Books entries before after history later)
    (fits : after.aggregates.size ≤ after.capacity) (below : after.Unsaturated) :
    after.Sound later := by
  have activity : ∀ key, (after.agg key).active + entries.count (.closed key) =
      (before.agg key).active + entries.count (.opened key) := by
    intro key
    have moved := books.rows key
    have joins := books.joins key
    have joined := sound.joined key
    rcases books.oneWay key with none | none
    · have rise := moved.opening none (below.agg key).active
      omega
    · have fall := moved.closing none
      omega
  constructor
  · intro key
    have moved := books.rows key
    have bounds := below.agg key
    have old := sound.balanced key
    have even := books.balanced key
    have active := activity key
    have started := moved.started bounds.started
    have lost := moved.joinLost bounds.keyJoinLost
    have completed := moved.ended .completed (bounds.ended _)
    have failed := moved.ended .failed (bounds.ended _)
    have cancelled := moved.ended .cancelled (bounds.ended _)
    have unknown := moved.ended .unknown (bounds.ended _)
    simp only [AggCounters.get] at completed failed cancelled unknown
    unfold AggCounters.Balanced BalancedEntries at *
    omega
  · intro key
    have active := activity key
    have joins := books.joins key
    have joined := sound.joined key
    omega
  · intro index
    have moved := books.summaries index
    have holds := books.holds index
    have held := sound.held index
    rcases books.oneWaySummary index with none | none
    · have rise := moved.raising none (below.summaries index).active
      omega
    · have fall := moved.lowering none
      omega
  · exact fits
  · intro index outcome
    rw [(books.summaries index).settled outcome ((below.summaries index).settled outcome),
      sound.settled, books.settled]
  · intro key outcome
    rw [(books.rows key).ended outcome ((below.agg key).ended outcome), sound.ended, books.ended]

/-- Operations that only go away, over rows that stay, keep their rows. -/
theorem Rooted.of_opens (rooted : before.Rooted)
    (opens : ∀ (key : OperationKey) (use : OpenKeyUse), after.opens[key]? = some use →
      before.opens[key]? = some use)
    (kept : ∀ row, row ∈ before.aggregates → row ∈ after.aggregates) : after.Rooted where
  formed key use stored := rooted.formed key use (opens key use stored)
  present key use stored assoc member row live :=
    kept row (rooted.present key use (opens key use stored) assoc member row live)

/-! ## Capacity -/

/-- New rows are counted by the fresh buckets of the resolution that opened them. -/
theorem size_le_of_fresh (before after : KeyUseReducer) (resolved : List ResolvedAssoc)
    (opened : ∀ key, key ∈ after.aggregates → key ∈ before.aggregates ∨
      ∃ slot ∈ resolved, slot.bucket = .proved key) :
    after.aggregates.size ≤ before.aggregates.size + before.freshBuckets resolved := by
  have counted : ∀ fresh : List (ResolvedAssoc × Nat), (after.aggregates.keys ⊆
      before.aggregates.keys ++ fresh.filterMap fun entry => entry.1.bucket.row) →
      after.aggregates.size ≤ before.aggregates.size + fresh.length := by
    intro fresh inside
    have lengths := (subperm_of_subset ExtTreeMap.nodup_keys inside).length_le
    have mapped := length_filterMap_le (fun entry => entry.1.bucket.row) fresh
    rw [length_append, ExtTreeMap.length_keys, ExtTreeMap.length_keys] at lengths
    omega
  rw [freshBuckets, countP_eq_length_filter]
  refine counted _ fun key member => ?_
  rw [ExtTreeMap.mem_keys] at member
  rw [mem_append, ExtTreeMap.mem_keys]
  refine or_iff_not_imp_left.mpr fun absent => ?_
  obtain ⟨slot, present, proved⟩ := (opened key member).resolve_left absent
  -- The first slot with this bucket is the fresh one.
  let place := resolved.findIdx fun slot => slot.bucket = .proved key
  have inRange : place < resolved.length :=
    findIdx_lt_length_of_exists ⟨slot, present, by simpa using proved⟩
  have found : resolved[place].bucket = .proved key := by
    simpa using findIdx_getElem (w := inRange)
  refine mem_filterMap.mpr ⟨(resolved[place], place), mem_filter.mpr ⟨?_, ?_⟩, by rw [found]; rfl⟩
  · simp [mk_mem_zipIdx_iff_getElem?, inRange]
  · simp only [found, Bool.and_eq_true, Bool.not_eq_eq_eq_not, Bool.not_true,
      any_eq_false, decide_eq_true_eq]
    refine ⟨fun earlier early same => ?_,
      Bool.eq_false_iff.mpr (mt ExtTreeMap.mem_iff_contains.mpr absent)⟩
    obtain ⟨sooner, here, rfl⟩ := mem_take_iff_getElem.mp early
    have none := not_of_lt_findIdx (show sooner < place by omega)
    exact of_decide_eq_false none same

end KeyUseReducer

/-! ## Counting entries -/

variable {entry : Meter}

section Counts

variable (slots : List ResolvedAssoc) (key : AggKey) (index : Fin unknownBuckets)

theorem count_open_proved (row : entry = .opened key ∨ entry = .started key) :
    (slots.flatMap ResolvedAssoc.openEntries).count entry =
      slots.countP fun slot => slot.bucket = .proved key := by
  refine count_flatMap_eq_countP fun slot _ => ?_
  unfold ResolvedAssoc.openEntries
  rcases row with rfl | rfl <;> cases slot.bucket <;> simp [count_cons]

theorem count_open_raised :
    (slots.flatMap ResolvedAssoc.openEntries).count (.raised index) =
      slots.countP fun slot => slot.bucket = .unknown index := by
  refine count_flatMap_eq_countP fun slot _ => ?_
  unfold ResolvedAssoc.openEntries
  cases slot.bucket <;> simp [count_cons]

/-- Opening posts starts, openings and raises only. -/
theorem count_open_other (other : entry.opens = false) :
    (slots.flatMap ResolvedAssoc.openEntries).count entry = 0 := by
  refine count_flatMap_eq_zero fun slot _ member => ?_
  have opens : ∀ posted ∈ slot.openEntries, posted.opens = true := by
    unfold ResolvedAssoc.openEntries
    cases slot.bucket <;> simp [Meter.opens]
  rw [opens entry member] at other
  cases other

end Counts

/-! ## Starts -/

namespace KeyUseReducer

/-- At most one receipt is the primary. -/
theorem resolve_once (instanceId : RegistryInstanceId) (category : String)
    (receipts : List KeyReceipt) :
    (resolve instanceId category receipts).countP (·.primary) ≤ 1 := by
  unfold resolve
  generalize receipts.findIdx? _ = primary
  match receipts with
  | [] => simp
  | [only] => exact (countP_le_length).trans (by simp)
  | first :: second :: rest =>
    have apart : ¬ (some 0 = primary ∧ some 1 = primary) := by
      rintro ⟨rfl, same⟩
      cases same
    simp only [take_succ_cons, take_zero, mapIdx_cons, mapIdx_nil, countP_cons, countP_nil]
    split <;> split <;> simp_all

variable {reducer : KeyUseReducer} {history : History} {key : OperationKey}
  (resolved : List ResolvedAssoc)

/-- The associations of a started operation. -/
def startedAssociations (receipts : List KeyReceipt) : List OpenAssoc :=
  List.zipWith (fun (slot : ResolvedAssoc) (receipt : KeyReceipt) =>
    ({ bucket := slot.bucket, key := receipt.key, lost := false,
       primary := slot.primary } : OpenAssoc)) resolved receipts

theorem startedAssociations_liveRow (receipts : List KeyReceipt)
    (enough : resolved.length = receipts.length) (row : AggKey) :
    (startedAssociations resolved receipts).countP (fun assoc => assoc.liveRow = some row) =
      resolved.countP fun slot => slot.bucket = .proved row := by
  refine countP_zipWith (fun slot receipt => ?_) enough.le
  cases slot.bucket <;> simp [OpenAssoc.liveRow]

/-- The state after an admitted start. -/
def started (reducer : KeyUseReducer) (key : OperationKey) (resolved : List ResolvedAssoc)
    (use : OpenKeyUse) : KeyUseReducer :=
  let opened := reducer.openBuckets resolved
  let active := if use.bound then opened else opened.unknownActivate (unboundIndex use.category)
  { active with opens := active.opens.insert key use }

def startEntries (use : OpenKeyUse) : List Meter :=
  resolved.flatMap ResolvedAssoc.openEntries ++
    if use.bound then [] else [.raised (unboundIndex use.category)]

theorem count_startEntries_raised (use : OpenKeyUse) (index : Fin unknownBuckets) :
    (startEntries resolved use).count (.raised index) =
      (if !use.bound && unboundIndex use.category = index then 1 else 0) +
        resolved.countP fun slot => slot.bucket = .unknown index := by
  unfold startEntries
  rw [count_append, count_open_raised, Nat.add_comm]
  cases use.bound <;> simp [count_cons]

theorem count_startEntries_row (rowed : entry.summary = none)
    (resolved : List ResolvedAssoc) (use : OpenKeyUse) :
    (startEntries resolved use).count entry =
      (resolved.flatMap ResolvedAssoc.openEntries).count entry := by
  unfold startEntries
  rw [count_append, Nat.add_eq_left]
  split
  · rfl
  · refine count_eq_zero.mpr fun member => ?_
    rw [mem_singleton.mp member] at rowed
    cases rowed

theorem count_startEntries_other (other : entry.opens = false)
    (resolved : List ResolvedAssoc) (use : OpenKeyUse) :
    (startEntries resolved use).count entry = 0 := by
  unfold startEntries
  rw [count_append, count_open_other _ other, Nat.zero_add]
  split
  · rfl
  · refine count_eq_zero.mpr fun member => ?_
    rw [mem_singleton.mp member] at other
    cases other

theorem started_posted (reducer : KeyUseReducer) (resolved : List ResolvedAssoc)
    (use : OpenKeyUse) :
    Posted (startEntries resolved use) reducer
      (if use.bound then reducer.openBuckets resolved
        else (reducer.openBuckets resolved).unknownActivate (unboundIndex use.category)) := by
  have opened : Posted (resolved.flatMap ResolvedAssoc.openEntries) reducer
      (reducer.openBuckets resolved) :=
    reducer.posted_foldl openBucket_posted resolved
  unfold startEntries
  split
  · exact opened.trans (.refl _)
  · exact opened.trans (KeyUseReducer.unknownActivate_posted _ _)

theorem started_opens {resolved : List ResolvedAssoc} {use : OpenKeyUse} :
    (reducer.started key resolved use).opens = reducer.opens.insert key use := by
  change (ite _ _ _ : KeyUseReducer).opens.insert key use = _
  rw [(started_posted reducer resolved use).opens]

/-- An admitted start opens as many joins and holds as it posts. -/
theorem started_sound (sound : reducer.Sound history) {resolved : List ResolvedAssoc}
    {receipts : List KeyReceipt} {use : OpenKeyUse} (absent : reducer.opens[key]? = none)
    (admitted : reducer.admits resolved = true)
    (enough : resolved.length = receipts.length)
    (associations : use.associations = startedAssociations resolved receipts)
    (below : (reducer.started key resolved use).Unsaturated) :
    (reducer.started key resolved use).Sound history := by
  have posted := started_posted reducer resolved use
  have refused : (reducer.started key resolved use).refused = reducer.refused := posted.refused
  have live : ∀ row, use.liveJoins row = resolved.countP fun slot => slot.bucket = .proved row := by
    intro row
    unfold OpenKeyUse.liveJoins
    rw [associations]
    exact startedAssociations_liveRow resolved receipts enough row
  have unknown : ∀ index, use.associations.countP (fun assoc => assoc.bucket = .unknown index) =
      resolved.countP fun slot => slot.bucket = .unknown index := by
    intro index
    rw [associations]
    refine countP_zipWith (fun slot receipt => ?_) enough.le
    rfl
  have none : ∀ entry : Meter, entry.opens = false →
      (startEntries resolved use).count entry = 0 := fun entry other =>
    count_startEntries_other other resolved use
  have books : Books (startEntries resolved use) reducer (reducer.started key resolved use)
      history history := by
    refine ⟨posted.rows, posted.summaries, fun row => ?_, fun row => .inl (none _ rfl),
      fun index => .inl (none _ rfl), fun row => ?_, fun index => ?_, fun index outcome => ?_,
      fun row outcome => ?_⟩
    · grind [BalancedEntries, Meter.opens, count_startEntries_row, Meter.summary, count_open_proved]
    · rw [none (.closed row) rfl, count_startEntries_row rfl, count_open_proved _ row (.inl rfl),
        ← live row, openJoins, openJoins, started_opens, sumBy_insert_of_absent _ absent]
      omega
    · rw [none (.lowered index) rfl, count_startEntries_raised, ← unknown index, unknownHeld,
        unknownHeld, started_opens, refused, sumBy_insert_of_absent _ absent,
        OpenKeyUse.summaryHolds]
      omega
    · rw [none (.settled index outcome) rfl]
      rfl
    · rw [none (.ended row outcome) rfl]
      rfl
  refine sound.post books ?_ below
  have bounded := size_le_of_fresh reducer (reducer.started key resolved use) resolved ?_
  · have room := of_decide_eq_true admitted
    have same : (reducer.started key resolved use).capacity = reducer.capacity := posted.capacity
    omega
  · intro row present
    refine (posted.reserved row present).imp_right fun started => ?_
    have positive := count_pos_iff.mpr started
    rw [count_startEntries_row rfl, count_open_proved _ row (.inr rfl)] at positive
    simpa using positive

/-- The joins of an admitted start have the rows it reserved. -/
theorem started_rooted (rooted : reducer.Rooted) {resolved : List ResolvedAssoc}
    {receipts : List KeyReceipt} {use : OpenKeyUse} (once : resolved.countP (·.primary) ≤ 1)
    (enough : resolved.length = receipts.length)
    (associations : use.associations = startedAssociations resolved receipts)
    (bound : use.bound = !receipts.isEmpty) : (reducer.started key resolved use).Rooted := by
  have posted := started_posted reducer resolved use
  refine ⟨fun other found stored => ?_, fun other found stored assoc member row live => ?_⟩
  · rw [started_opens, ExtTreeMap.getElem?_insert] at stored
    split at stored
    · cases stored
      refine ⟨?_, fun unbound => ?_⟩
      · rw [associations]
        refine Nat.le_trans (Nat.le_of_eq (countP_zipWith (fun slot receipt => ?_) enough.le)) once
        rfl
      · have empty : receipts = [] := by simpa [bound] using unbound
        rw [associations, startedAssociations, empty, zipWith_nil_right]
    · exact rooted.formed other found stored
  · rw [started_opens, ExtTreeMap.getElem?_insert] at stored
    split at stored
    · cases stored
      refine posted.stored row ?_
      rw [← count_pos_iff, count_startEntries_row rfl, count_open_proved _ row (.inr rfl),
        ← startedAssociations_liveRow resolved receipts enough, countP_pos_iff, ← associations]
      exact ⟨assoc, member, by simpa using live⟩
    · exact posted.kept row (rooted.present other found stored assoc member row live)

/-! ## Summaries alone -/

/-- Rows are only retained, never dropped or added, without a start among the
entries. -/
theorem size_le_of_posted {entries : List Meter} {after : KeyUseReducer}
    (posted : Posted entries reducer after) (unstarted : ∀ row, .started row ∉ entries) :
    after.aggregates.size ≤ reducer.aggregates.size := by
  have bound := size_le_of_fresh reducer after [] fun row present =>
    .inl ((posted.reserved row present).resolve_right (unstarted row))
  exact bound

/-- Entries that name no row leave the rows, their joins and their terminals. -/
theorem Sound.postSummaries (sound : reducer.Sound history) {entries : List Meter}
    {start after : KeyUseReducer} {later : History} (posted : Posted entries start after)
    (aggregates : start.aggregates = reducer.aggregates)
    (unknown : start.unknown = reducer.unknown) (capacity : start.capacity = reducer.capacity)
    (rowless : ∀ entry ∈ entries, entry.row = none)
    (oneWay : ∀ index, entries.count (.lowered index) = 0 ∨ entries.count (.raised index) = 0)
    (joins : ∀ row, after.openJoins row = reducer.openJoins row)
    (holds : ∀ index, after.unknownHeld index + entries.count (.lowered index) =
      reducer.unknownHeld index + entries.count (.raised index))
    (settled : ∀ index outcome, later.terminals.count (.summary index, outcome) =
      history.terminals.count (.summary index, outcome) + entries.count (.settled index outcome))
    (ended : ∀ row outcome, later.terminals.count (.aggregate row, outcome) +
        later.secondaries.count (row, outcome) =
      history.terminals.count (.aggregate row, outcome) +
        history.secondaries.count (row, outcome))
    (below : after.Unsaturated) : after.Sound later := by
  have none : ∀ entry : Meter, entry.row.isSome → entries.count entry = 0 := by
    intro entry named
    refine count_eq_zero.mpr fun member => ?_
    rw [rowless entry member] at named
    cases named
  have books : Books entries reducer after history later := by
    refine ⟨fun row => ?_, unknown ▸ posted.summaries, fun row => ?_,
      fun row => .inl (none _ rfl), oneWay, fun row => ?_, holds, settled, fun row outcome => ?_⟩
    · rw [agg, ← aggregates]
      exact posted.rows row
    · grind [BalancedEntries, Meter.row]
    · rw [none (.closed row) rfl, none (.opened row) rfl, joins]
    · rw [none (.ended row outcome) rfl, ended]
      rfl
  refine sound.post books ?_ below
  have size := size_le_of_posted posted fun row member => by cases rowless _ member
  rw [posted.capacity, capacity]
  exact size.trans (aggregates ▸ sound.fits)

theorem refuse_sound (sound : reducer.Sound history) {category : String} {startedTsNs : Nat}
    (absent : reducer.refused[key]? = none)
    (below : (reducer.refuse key category startedTsNs).Unsaturated) :
    (reducer.refuse key category startedTsNs).Sound history := by
  have posted : Posted [.raised (unboundIndex category)]
      { reducer with refused := reducer.refused.insert key ⟨key.1, category, startedTsNs⟩ }
      (reducer.refuse key category startedTsNs) :=
    (KeyUseReducer.unknownActivate_posted _ _).withEvidence _
  refine sound.postSummaries posted rfl rfl rfl (by simp [Meter.row])
    (fun index => .inl (by simp)) (fun row => rfl) (fun index => ?_)
    (fun index outcome => by simp) (fun row outcome => rfl) below
  rw [unknownHeld, posted.refused, sumBy_insert_of_absent _ absent]
  change sumBy _ reducer.opens + (RefusedOpen.summaryHolds _ index + _) + _ = _
  simp only [RefusedOpen.summaryHolds, count_cons, count_nil, unknownHeld,
    beq_iff_eq, Meter.raised.injEq, reduceCtorEq, if_false]
  omega

/-! ## Ends -/

end KeyUseReducer

/-- What the terminal of an open operation posts. -/
def OpenKeyUse.closeEntries (use : OpenKeyUse) (outcome : OperationOutcome) : List Meter :=
  (if use.bound then [] else [.lowered (unboundIndex use.category)]) ++
    use.associations.flatMap (OpenAssoc.closeEntries use.category outcome) ++
    if use.associations.any (·.primary) then []
    else [.settled (unboundIndex use.category) outcome]

/-- The entries a terminal may post. -/
def Meter.closes : Meter → Bool
  | .closed _ | .ended _ _ | .lowered _ | .settled _ _ => true
  | _ => false

namespace OpenKeyUse

variable (use : OpenKeyUse) (outcome wanted : OperationOutcome) (row : AggKey)
  (index : Fin unknownBuckets)

theorem count_closeEntries (entry : Meter) :
    (use.closeEntries outcome).count entry =
      (if !use.bound && decide (.lowered (unboundIndex use.category) = entry) then 1 else 0) +
        (use.associations.flatMap (OpenAssoc.closeEntries use.category outcome)).count entry +
        if !use.associations.any (·.primary) &&
          decide (.settled (unboundIndex use.category) outcome = entry) then 1 else 0 := by
  unfold closeEntries
  rw [count_append, count_append, count_unless, count_unless]

/-- An entry that every association posts at most once. -/
theorem count_closeEntries_of (posts : OpenAssoc → Bool)
    (each : ∀ assoc : OpenAssoc, (assoc.closeEntries use.category outcome).count entry =
      if posts assoc then 1 else 0) :
    (use.closeEntries outcome).count entry =
      (if !use.bound && decide (.lowered (unboundIndex use.category) = entry) then 1 else 0) +
        use.associations.countP posts +
        if !use.associations.any (·.primary) &&
          decide (.settled (unboundIndex use.category) outcome = entry) then 1 else 0 := by
  rw [count_closeEntries, count_flatMap_eq_countP fun assoc _ => each assoc]

theorem count_closed : (use.closeEntries outcome).count (.closed row) = use.liveJoins row := by
  rw [use.count_closeEntries_of outcome fun assoc => assoc.liveRow = some row]
  · simp [liveJoins]
  · rintro ⟨bucket, key, lost, primary⟩
    cases bucket <;> cases lost <;> cases primary <;>
      simp [OpenAssoc.closeEntries, OpenAssoc.liveRow, count_cons]

theorem count_ended :
    (use.closeEntries outcome).count (.ended row wanted) =
      if outcome = wanted then use.liveJoins row else 0 := by
  rw [use.count_closeEntries_of outcome fun assoc =>
    decide (outcome = wanted) && decide (assoc.liveRow = some row)]
  · by_cases same : outcome = wanted <;> simp [same, liveJoins]
  · rintro ⟨bucket, key, lost, primary⟩
    cases bucket <;> cases lost <;> cases primary <;>
      simp [OpenAssoc.closeEntries, OpenAssoc.liveRow, count_cons, and_comm]

theorem count_lowered : (use.closeEntries outcome).count (.lowered index) =
    use.summaryHolds index := by
  rw [use.count_closeEntries_of outcome fun assoc => assoc.bucket = .unknown index]
  · simp [summaryHolds]
  · rintro ⟨bucket, key, lost, primary⟩
    cases bucket <;> cases lost <;> cases primary <;>
      simp [OpenAssoc.closeEntries, count_cons]

/-- A terminal settles in its destination and nowhere else. -/
theorem count_settled (formed : use.WellFormed) :
    (use.closeEntries outcome).count (.settled index wanted) =
      if use.destination = .summary index ∧ outcome = wanted then 1 else 0 := by
  have each : ∀ assoc : OpenAssoc,
      (assoc.closeEntries use.category outcome).count (.settled index wanted) =
      if decide (assoc.route use.category = .summary index ∧ outcome = wanted) && assoc.primary
        then 1 else 0 := by
    rintro ⟨bucket, key, lost, primary⟩
    cases bucket <;> cases lost <;> cases primary <;>
      simp [OpenAssoc.closeEntries, OpenAssoc.route, AssocBucket.destination, count_cons]
  rw [use.count_closeEntries_of outcome _ each, ← countP_filter,
    filter_eq_find?_toList formed.once, destination]
  cases found : use.associations.find? (·.primary) with
  | none =>
    have unmarked : use.associations.any (·.primary) = false := by
      simpa using find?_eq_none.mp found
    simp [unmarked]
  | some assoc =>
    have marked : use.associations.any (·.primary) = true :=
      any_eq_true.mpr ⟨assoc, mem_of_find?_eq_some found,
        by simpa using find?_some found⟩
    simp [marked, countP_cons]

theorem count_closeEntries_other (other : entry.closes = false) :
    (use.closeEntries outcome).count entry = 0 := by
  rw [use.count_closeEntries_of outcome fun _ => false]
  · cases entry <;> simp [Meter.closes] at other ⊢
  · rintro ⟨bucket, key, lost, primary⟩
    cases bucket <;> cases lost <;> cases primary <;> cases entry <;>
      simp [OpenAssoc.closeEntries, Meter.closes] at other ⊢

end OpenKeyUse

namespace KeyUseReducer

variable {reducer : KeyUseReducer} {history : History} {key : OperationKey}

theorem closeOpen_posted (use : OpenKeyUse) (outcome : OperationOutcome)
    (formed : use.WellFormed)
    (ready : ∀ assoc ∈ use.associations, ∀ row ∈ assoc.liveRow, row ∈ reducer.aggregates) :
    ∃ after, reducer.closeOpen use outcome = some after ∧
      Posted (use.closeEntries outcome) reducer after := by
  unfold closeOpen OpenKeyUse.closeEntries
  cases bound : use.bound with
  | false =>
    rw [formed.unbound bound]
    have idle := reducer.unknownDeactivate_posted (unboundIndex use.category)
    exact ⟨_, rfl, (idle.trans (KeyUseReducer.unknownAdd_posted _ _ outcome)).withEvidence _⟩
  | true =>
    obtain ⟨closed, done, posted⟩ := reducer.posted_foldlM
      (fun reducer assoc => reducer.closeAssoc_posted use.category outcome assoc)
      use.associations ready
    refine ⟨_, by rw [done]; rfl, ?_⟩
    rw [if_pos rfl]
    split
    · exact posted.trans (.refl closed)
    · exact posted.trans (closed.unknownAdd_posted _ outcome)

/-- The live joins of a row split into the primary's and the secondaries'. -/
theorem liveJoins_split (use : OpenKeyUse) (formed : use.WellFormed) (row : AggKey) :
    use.liveJoins row =
      (if use.destination = .aggregate row then 1 else 0) + use.secondaries.count row := by
  have secondary : use.secondaries.count row =
      (use.associations.filter (!·.primary)).countP fun assoc => assoc.liveRow = some row := by
    unfold OpenKeyUse.secondaries
    rw [count_filterMap]
    exact countP_congr fun assoc _ => by simp
  have primary : (use.associations.filter (·.primary)).countP
      (fun assoc => assoc.liveRow = some row) =
      if use.destination = .aggregate row then 1 else 0 := by
    rw [filter_eq_find?_toList formed.once, OpenKeyUse.destination]
    cases use.associations.find? (·.primary) with
    | none => simp
    | some assoc =>
      obtain ⟨bucket, key, lost, primary⟩ := assoc
      cases bucket <;> cases lost <;>
        simp [OpenAssoc.liveRow, OpenAssoc.route, AssocBucket.destination, countP_cons]
  rw [secondary, ← primary]
  unfold OpenKeyUse.liveJoins
  induction use.associations with
  | nil => rfl
  | cons assoc rest ih =>
    cases marked : assoc.primary <;> simp [marked, countP_cons] <;> omega

variable (sound : reducer.Sound history)
include sound

/-- A terminal closes what its operation held open. -/
theorem closed_sound {use : OpenKeyUse} {after : KeyUseReducer} {outcome : OperationOutcome}
    (stored : reducer.opens[key]? = some use) (formed : use.WellFormed)
    (posted : Posted (use.closeEntries outcome)
      { reducer with opens := reducer.opens.erase key } after) (below : after.Unsaturated) :
    after.Sound (history.add use.destination outcome use.secondaries) := by
  have opens : after.opens = reducer.opens.erase key := posted.opens
  have refused : after.refused = reducer.refused := posted.refused
  have none : ∀ entry : Meter, entry.closes = false →
      (use.closeEntries outcome).count entry = 0 := fun entry other =>
    use.count_closeEntries_other outcome other
  have books : Books (use.closeEntries outcome) reducer after history
      (history.add use.destination outcome use.secondaries) := by
    refine ⟨posted.rows, posted.summaries, fun row => ?_, fun row => .inr (none _ rfl),
      fun index => .inr (none _ rfl), fun row => ?_, fun index => ?_, fun index wanted => ?_,
      fun row wanted => ?_⟩
    · cases outcome <;> grind [BalancedEntries, Meter.closes, use.count_closed, use.count_ended]
    · have share := sumBy_erase_of_present (fun _ use => OpenKeyUse.liveJoins use row) stored
      rw [none (.opened row) rfl, use.count_closed, openJoins, openJoins, opens]
      omega
    · have share := sumBy_erase_of_present
        (fun _ use => OpenKeyUse.summaryHolds use index) stored
      rw [none (.raised index) rfl, use.count_lowered, unknownHeld, unknownHeld, opens, refused]
      omega
    · rw [History.count_terminals_add, use.count_settled _ _ _ formed]
    · rw [History.count_terminals_add, History.count_secondaries_add, use.count_ended,
        liveJoins_split use formed]
      by_cases same : outcome = wanted
      · simp only [same, and_true, if_true]
        omega
      · simp [same]
  refine sound.post books ?_ below
  have size := size_le_of_posted posted fun row => count_eq_zero.mp (none (.started row) rfl)
  have capacity : after.capacity = reducer.capacity := posted.capacity
  exact Nat.le_trans size (capacity ▸ sound.fits)

/-- An outcome that goes straight to one summary. -/
theorem settledAlone_sound (index : Fin unknownBuckets) (outcome : OperationOutcome)
    {after : KeyUseReducer} (posted : Posted [.settled index outcome] reducer after)
    (below : after.Unsaturated) : after.Sound (history.add (.summary index) outcome []) := by
  refine sound.postSummaries posted rfl rfl rfl (by simp [Meter.row])
    (fun other => .inl (by simp)) (fun row => ?_) (fun other => ?_) (fun other wanted => ?_)
    (fun row wanted => ?_) below
  · rw [openJoins, openJoins, posted.opens]
  · rw [unknownHeld, unknownHeld, posted.opens, posted.refused]
    simp
  · rw [History.count_terminals_add, count_singleton]
    simp
  · rw [History.count_terminals_add, History.count_secondaries_add]
    simp

/-- The terminal of a refused start. -/
theorem refusedEnd_sound {refused : RefusedOpen} {outcome : OperationOutcome}
    {after : KeyUseReducer} (stored : reducer.refused[key]? = some refused)
    (posted : Posted [.lowered (unboundIndex refused.category),
        .settled (unboundIndex refused.category) outcome]
      { reducer with refused := reducer.refused.erase key } after) (below : after.Unsaturated) :
    after.Sound (history.add (.summary (unboundIndex refused.category)) outcome []) := by
  have opens : after.opens = reducer.opens := posted.opens
  refine sound.postSummaries posted rfl rfl rfl (by simp [Meter.row])
    (fun other => .inr (by simp)) (fun row => ?_) (fun other => ?_) (fun other wanted => ?_)
    (fun row wanted => ?_) below
  · rw [openJoins, openJoins, opens]
  · have share := sumBy_erase_of_present
      (fun _ refused => RefusedOpen.summaryHolds refused other) stored
    rw [unknownHeld, unknownHeld, opens, posted.refused, share]
    simp only [RefusedOpen.summaryHolds, count_cons, count_nil, beq_iff_eq,
      Meter.lowered.injEq, reduceCtorEq, if_false]
    omega
  · rw [History.count_terminals_add, count_cons_of_ne (by simp), count_singleton]
    simp
  · rw [History.count_terminals_add, History.count_secondaries_add]
    simp

end KeyUseReducer

end P11Scope.KeyUse
