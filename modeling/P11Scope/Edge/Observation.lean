import P11Scope.Edge.Preflight

/-!
# A whole observation within its preflight

Asynchronous custody and replay, the gates, and the result for one observed
call: it is a run of steps within `preflightGrowth` of the state before it.
-/

namespace P11Scope.Edge

open Std Lib Lib.TreeMap Kinds ExtTreeMap

namespace World

variable (w : World)

/-! ## Eviction -/

theorem evictPending_within {key : UInt64 × UInt32} {record : PendingCall}
    (stored : w.pending[key]? = some record) : Within CallStep w 0 (w.evictPending key record) :=
  .single (.consumePending stored
    ((endOriginMachines_within _ key.1 record.origin _).trans_free (quiet_within (by rfl))))

variable {key : UInt64 × UInt32 × UInt64}

theorem evictDetached_within {record : AsyncId} (stored : w.detached[key]? = some record) :
    Within CallStep w 0 (w.evictDetached key record) :=
  .single (.consumeDetached stored
    ((endOriginMachines_within _ record.call.session record.origin _).trans_free
      (quiet_within (by rfl))))

theorem evictAsyncIfNeeded_within : Within CallStep w 0 w.evictAsyncIfNeeded := by
  unfold evictAsyncIfNeeded
  split
  · exact .refl _ _
  split
  case h_1 pending detached =>
    split
    · exact w.evictPending_within (getElem?_of_argmin pending)
    · exact w.evictDetached_within (getElem?_of_argmin detached)
  case h_2 pending _ => exact w.evictPending_within (getElem?_of_argmin pending)
  case h_3 _ detached => exact w.evictDetached_within (getElem?_of_argmin detached)
  case h_4 => exact .refl _ _

/-! ## Queueing -/

variable {call : SemanticCall} {edge : EdgeSemantics}

/-- A fresh route names a free key and the charge of the call it stores. -/
theorem routePending_fresh {function : UInt32} {descriptor : SlotSemantics} {charge : Nat}
    (route : edge.routePending call = .fresh function descriptor charge) :
    edge.pending[(call.session, function)]? = none ∧ charge = storedCharge call := by
  unfold EdgeSemantics.routePending at route
  dsimp only at route
  split at route
  · cases route
  split at route
  · cases route
  split at route
  · cases route
  rename_i absent
  cases route
  exact ⟨getElem?_eq_none (mt contains_iff_mem.mpr absent), rfl⟩

theorem queueFresh_within {function : UInt32} (free : w.pending[(call.session, function)]? = none)
    (descriptor : SlotSemantics) : Within CallStep w (storedCharge call)
      (w.queueFresh call function descriptor (storedCharge call)) := by
  let sequenced : World := { w with sequence := wrappingSucc w.sequence }
  let record : PendingCall :=
    { call := call, origin := sequenced.captureOrigin call.session descriptor, originPos := none
      sequence := sequenced.sequence, resource := none }
  have queued : Within CallStep w (storedCharge call)
      (sequenced.queueRecord (call.session, function) record (storedCharge call)) :=
    (callRun ((quiet_within (by rfl)).trans
      (.single (.queue (w := sequenced) record free)))).mono (Nat.zero_add _).le
  exact (queued.trans (evictAsyncIfNeeded_within _)).mono (Nat.add_zero _).le

/-- Bytes a routed pending call takes. -/
def routeCharge : PendingRoute → Nat
  | .fresh _ _ charge => charge
  | .unroutable => 0
  | .duplicate => 0

theorem queuePending_within (call : SemanticCall) :
    Within CallStep w (routeCharge (w.routePending call)) (w.queuePending call) := by
  unfold queuePending
  split
  · exact callRun (w.countOrphans_within 1 _)
  · exact callRun ((quiet_within (by rfl)).trans_free (countOrphans_within _ 1 0)) |>.mono
      (Nat.zero_le _)
  case h_3 function descriptor charge route =>
    obtain ⟨free, charged⟩ := routePending_fresh route
    subst charged
    rw [route]
    exact w.queueFresh_within free descriptor

/-! ## Completion -/

/-- The pending record a completion consumes is stored. -/
theorem completeEligible_pending {session : UInt64} {target : UInt32} {key : UInt64 × UInt32}
    (eligible : edge.completeEligible session target = .pending key) :
    ∃ record, edge.pending[key]? = some record := by
  unfold EdgeSemantics.completeEligible at eligible
  dsimp only at eligible
  split at eligible
  · split at eligible <;> cases eligible
  split at eligible
  case isTrue known =>
    cases eligible
    rw [contains_eq_isSome_getElem?, Option.isSome_iff_exists] at known
    exact known
  case isFalse => split at eligible <;> cases eligible

/-- The detached record a completion consumes is stored. -/
theorem completeEligible_detached {session : UInt64} {target : UInt32}
    (eligible : edge.completeEligible session target = .detached key) :
    ∃ record, edge.detached[key]? = some record := by
  unfold EdgeSemantics.completeEligible at eligible
  dsimp only at eligible
  split at eligible
  · split at eligible <;> cases eligible
  split at eligible
  · cases eligible
  split at eligible
  case h_1 entry last =>
    cases eligible
    have member := List.mem_of_mem_filter (List.mem_of_getLast? last)
    exact ⟨entry.2, mem_toList_iff_getElem?_eq_some.mp member⟩
  case h_2 => cases eligible

/-- Bytes the replay of a stored call may retain. -/
def replayGrowth (edge : EdgeSemantics) (call stored : SemanticCall) (origin : CallOrigin) : Nat :=
  if edge.originMatches call.session origin then
    edge.completedGrowth stored call.session call.rv
  else 0

theorem completePending_within (completion stored : SemanticCall) (origin : CallOrigin) :
    Within Step w (replayGrowth w.toEdgeSemantics completion stored origin)
      (w.completePending completion stored origin) := by
  unfold completePending replayGrowth
  cases held : w.originMatches completion.session origin with
  | false => exact w.countOrphans_within _ _
  | true =>
    exact w.applyCompleted_within
      { stored with
        rv := completion.rv, session := completion.session, tsNs := completion.tsNs } _ []

theorem asyncComplete_within (call : SemanticCall)
    (readable : ¬ (call.targetFunction = functionNone ∨
      call.capture &&& Capture.asyncValueUnreadable ≠ 0)) :
    Within CallStep w (w.completionGrowth call) (w.asyncComplete call) := by
  unfold asyncComplete
  split
  · exact .refl _ _
  rename_i returned
  rw [EdgeSemantics.completionGrowth, if_neg fun skipped => skipped.elim returned readable,
    EdgeSemantics.eligibleOriginal]
  cases eligible : w.completeEligible call.session call.targetFunction with
  | zero => exact callRun (w.countOrphans_within 1 _)
  | many => exact callRun ((w.countOrphans_within 1 0).trans_free (quiet_within (by rfl)))
  | pending key =>
    obtain ⟨record, stored⟩ := completeEligible_pending eligible
    simp only [stored]
    exact .single (.consumePending stored
      (completePending_within (w.takePending key record) call record.call record.origin))
  | detached key =>
    obtain ⟨record, stored⟩ := completeEligible_detached eligible
    simp only [stored]
    exact .single (.consumeDetached stored
      (completePending_within (w.takeDetached key record) call record.call record.origin))

theorem asyncGetId_within (call : SemanticCall) : Within CallStep w 0 (w.asyncGetId call) := by
  unfold asyncGetId
  split
  · exact callRun (w.countOrphans_within 1 0)
  dsimp only
  split
  · exact callRun ((w.countOrphans_within 1 0).trans_free (quiet_within (by rfl)))
  rename_i unnamed
  have absent := getElem?_eq_none (mt contains_iff_mem.mpr unnamed)
  split
  · exact callRun (w.countOrphans_within 1 0)
  rename_i pending stored
  let sequenced : World := { w with sequence := wrappingSucc w.sequence }
  have moved : Within Step w 0 _ := (quiet_within (by rfl)).trans_free
    (.single (.detach (w := sequenced)
      { owner := some call.session, call := pending.call, origin := pending.origin
        originPos := pending.originPos, sequence := sequenced.sequence
        resource := pending.resource } stored absent rfl rfl))
  exact (callRun moved).trans_free (evictAsyncIfNeeded_within _)

/-- Assigning one stored id to a session only changes owners. -/
theorem insert_owner_eq_map {detached : ExtTreeMap (UInt64 × UInt32 × UInt64) AsyncId}
    {id : AsyncId} (stored : detached[key]? = some id) (owner : Option UInt64) :
    detached.insert key { id with owner := owner } =
      detached.map fun other record =>
        { record with owner := if other = key then owner else record.owner } := by
  refine ext_getElem? fun other => ?_
  simp only [getElem?_insert, getElem?_map, LawfulEqOrd.compare_eq_iff_eq]
  by_cases same : key = other
  · subst same
    simp [stored]
  · simp [same, Ne.symm same]

theorem asyncJoin_within (call : SemanticCall) : Within CallStep w 0 (w.asyncJoin call) := by
  unfold asyncJoin
  split
  · exact callRun (w.countOrphans_within 1 0)
  dsimp only
  split
  case h_1 id stored =>
    rw [insert_owner_eq_map stored]
    exact .single (.step (.reown fun other record =>
      if other = _ then some call.session else record.owner))
  case h_2 => exact callRun (w.countOrphans_within 1 0)

theorem observeAsync_within (call : SemanticCall) {budget : Nat}
    (covered : (descriptorOrCountOnly call.function).lifecycle = .asyncComplete →
      w.completionGrowth call ≤ budget) :
    Within CallStep w budget (w.observeAsync call) := by
  unfold observeAsync
  split
  · exact callRun (w.countOrphans_within 1 _)
  rename_i named
  split
  · exact callRun (w.countOrphans_within 1 _)
  rename_i readable
  split
  case h_1 completes =>
    exact (w.asyncComplete_within call (fun skipped => skipped.elim named readable)).mono
      (covered completes)
  case h_2 =>
    split
    · exact (w.asyncGetId_within call).mono (Nat.zero_le _)
    · exact .refl _ _
  case h_3 =>
    split
    · exact (w.asyncJoin_within call).mono (Nat.zero_le _)
    · exact .refl _ _
  case h_4 => exact .refl _ _

/-! ## One observation -/

/-- Whether a call passes the downgrade gates. -/
def passesGate (call : SemanticCall) : Bool :=
  call.attributable && call.authorized && call.unambiguous && !call.countOnly &&
    descriptorOrCountOnly call.function ≠ .countOnly

/-- A refused call only changes the downgrade counters. -/
theorem gate_refused (refused : passesGate call = false) :
    Within CallStep w 0 (w.gate call).1 ∧ (w.gate call).2 = none := by
  unfold gate
  dsimp only
  repeat' split
  case isFalse.isFalse.isFalse.isFalse.isFalse => simp_all [passesGate]
  all_goals exact ⟨callRun (quiet_within (by rfl)), rfl⟩

theorem gate_passed (passed : passesGate call = true) : w.gate call =
      ({ w with seenClaimCapable := true }, some (descriptorOrCountOnly call.function)) := by
  simp only [passesGate, Bool.and_eq_true, Bool.not_eq_true', decide_eq_true_eq] at passed
  obtain ⟨⟨⟨⟨attributable, authorized⟩, unambiguous⟩, counted⟩, content⟩ := passed
  simp [gate, attributable, authorized, unambiguous, counted, content]

theorem preflightGrowth_of_passed (edge : EdgeSemantics) (passed : passesGate call = true) :
    edge.preflightGrowth call =
      if (descriptorOrCountOnly call.function).lifecycle = .asyncComplete then
        edge.completionGrowth call
      else if (descriptorOrCountOnly call.function).lifecycle = .asyncGetId ∨
          (descriptorOrCountOnly call.function).lifecycle = .asyncJoin then 0
      else if call.rv = CkRv.pending then routeCharge (edge.routePending call)
      else edge.completedGrowth call call.session call.rv := by
  simp only [passesGate, Bool.and_eq_true, Bool.not_eq_true', decide_eq_true_eq] at passed
  obtain ⟨⟨⟨⟨attributable, authorized⟩, unambiguous⟩, counted⟩, content⟩ := passed
  simp only [EdgeSemantics.preflightGrowth, attributable, authorized, unambiguous, counted, content]
  rfl

theorem dispatch_within (passed : passesGate call = true) (origin : EffectOrigin)
    (keys : List KeyReceipt) : Within CallStep w (w.preflightGrowth call)
      (w.dispatch call (descriptorOrCountOnly call.function) origin keys) := by
  have predicted := preflightGrowth_of_passed w.toEdgeSemantics passed
  unfold dispatch
  split
  case isTrue async =>
    refine w.observeAsync_within call fun completes => ?_
    rw [predicted, if_pos completes]
  rename_i sync
  rw [not_or] at sync
  rw [predicted, if_neg sync.1, if_neg sync.2]
  split
  · exact w.queuePending_within call
  · exact callRun (w.applyCompleted_within call origin keys)

/-- One observed call is a run within the growth predicted before it. -/
theorem observeInner_within (call : SemanticCall) (origin : EffectOrigin)
    (keys : List KeyReceipt) :
    Within CallStep w (w.preflightGrowth call) (w.observeInner call origin keys).1 := by
  unfold observeInner
  cases passed : passesGate call with
  | false =>
    obtain ⟨counted, refused⟩ := w.gate_refused passed
    rw [← Prod.eta (w.gate call), refused]
    exact counted.mono (Nat.zero_le _)
  | true =>
    rw [w.gate_passed passed]
    have counted : Within CallStep w 0 ({ w with seenClaimCapable := true }.countCall call) :=
      callRun (quiet_within (by rfl))
    exact (counted.trans (dispatch_within _ passed origin keys)).mono (Nat.zero_add _).le

end World

end P11Scope.Edge
