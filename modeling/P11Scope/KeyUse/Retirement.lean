import P11Scope.KeyUse.Conservation

/-!
# Directs and lost joins

A direct operation starts and completes in one event.  A retirement ends joins
of operations that stay open: it takes the live joins it ends out of their rows
and leaves the terminals to come.
-/

namespace P11Scope.KeyUse

open Std Edge Objects Lib Lib.TreeMap List

/-! ## Directs -/

/-- What an admitted direct posts. -/
def directEntries (category : String) (resolved : List ResolvedAssoc) : List Meter :=
  resolved.flatMap ResolvedAssoc.directEntries ++
    if resolved.any (·.primary) then [] else [.settled (unboundIndex category) .completed]

section Directs

variable {entry : Meter} (category : String) (resolved : List ResolvedAssoc)

theorem directUse_wellFormed (once : resolved.countP (·.primary) ≤ 1) :
    (directUse category resolved).WellFormed where
  once := by
    change (resolved.map ResolvedAssoc.opened).countP (·.primary) ≤ 1
    rw [countP_map]
    exact once
  unbound unbound := by
    have empty : resolved = [] := by simpa [directUse] using unbound
    change resolved.map ResolvedAssoc.opened = []
    rw [empty, map_nil]

/-- A direct's outcome entries are those of the operation opened and closed at once. -/
theorem count_directEntries_outcome
    (outcome : (∃ row, entry = .ended row .completed) ∨ ∃ index, entry = .settled index .completed)
    : (directEntries category resolved).count entry =
      ((directUse category resolved).closeEntries .completed).count entry := by
  have each : ∀ slot : ResolvedAssoc, slot.directEntries.count entry =
      (slot.opened.closeEntries category .completed).count entry := by
    rintro ⟨bucket, primary⟩
    rcases outcome with ⟨row, rfl⟩ | ⟨index, rfl⟩ <;> cases bucket <;> cases primary <;>
      simp [ResolvedAssoc.directEntries, OpenAssoc.closeEntries, ResolvedAssoc.opened, count_cons]
  have associations : (resolved.flatMap ResolvedAssoc.directEntries).count entry =
      ((directUse category resolved).associations.flatMap
        (OpenAssoc.closeEntries category .completed)).count entry := by
    change _ = ((resolved.map ResolvedAssoc.opened).flatMap _).count entry
    rw [flatMap_map]
    exact count_flatMap_congr each resolved
  have marked : (directUse category resolved).associations.any (·.primary) =
      resolved.any (·.primary) := by
    change (resolved.map ResolvedAssoc.opened).any _ = _
    rw [any_map]
    rfl
  rw [directEntries, count_append, count_unless, associations,
    OpenKeyUse.count_closeEntries, marked]
  rcases outcome with ⟨row, rfl⟩ | ⟨index, rfl⟩ <;> simp [directUse]

theorem count_directEntries_started (row : AggKey) :
    (directEntries category resolved).count (.started row) =
      (directUse category resolved).liveJoins row := by
  have associations : (resolved.flatMap ResolvedAssoc.directEntries).count (.started row) =
      resolved.countP fun slot => slot.opened.liveRow = some row := by
    refine count_flatMap_eq_countP fun slot _ => ?_
    obtain ⟨bucket, primary⟩ := slot
    cases bucket <;> cases primary <;>
      simp [ResolvedAssoc.directEntries, ResolvedAssoc.opened, OpenAssoc.liveRow, count_cons]
  rw [directEntries, count_append, count_unless, associations]
  change _ = (resolved.map ResolvedAssoc.opened).countP _
  simp [Function.comp_def]

/-- The entries of a direct: its joins start and complete at once. -/
def Meter.directs : Meter → Bool
  | .started _ => true
  | .ended _ outcome | .settled _ outcome => outcome = .completed
  | _ => false

/-- A direct opens and closes nothing. -/
theorem count_directEntries_other (other : entry.directs = false) :
    (directEntries category resolved).count entry = 0 := by
  refine count_eq_zero.mpr fun member => ?_
  rcases mem_append.mp member with inside | last
  · obtain ⟨slot, _, posted⟩ := mem_flatMap.mp inside
    unfold ResolvedAssoc.directEntries at posted
    cases bucket : slot.bucket with
    | proved row =>
      simp only [bucket, mem_cons, not_mem_nil, or_false] at posted
      rcases posted with rfl | rfl <;> cases other
    | unknown index =>
      cases marked : slot.primary <;> simp [bucket, marked] at posted
      subst posted
      cases other
  · split at last
    · cases last
    · rw [mem_singleton.mp last] at other
      cases other

end Directs

/-- The entries of a retirement: its joins close and are lost. -/
def Meter.loses : Meter → Bool
  | .closed _ | .joinLost _ => true
  | _ => false

namespace KeyUseReducer

variable {reducer after : KeyUseReducer} {history : History}

/-- An admitted direct starts and completes its joins. -/
theorem direct_sound (sound : reducer.Sound history) {category : String}
    {resolved : List ResolvedAssoc} (admitted : reducer.admits resolved = true)
    (once : resolved.countP (·.primary) ≤ 1)
    (posted : Posted (directEntries category resolved) reducer after)
    (below : after.Unsaturated) :
    after.Sound (history.add (directUse category resolved).destination .completed
      (directUse category resolved).secondaries) := by
  have formed := directUse_wellFormed category resolved once
  have started := count_directEntries_started category resolved
  have completed : ∀ row, (directEntries category resolved).count (.ended row .completed) =
      (directUse category resolved).liveJoins row := fun row => by
    rw [count_directEntries_outcome category resolved (.inl ⟨row, rfl⟩), OpenKeyUse.count_ended,
      if_pos rfl]
  have none : ∀ entry : Meter, entry.directs = false →
      (directEntries category resolved).count entry = 0 := fun entry other =>
    count_directEntries_other category resolved other
  have books : Books (directEntries category resolved) reducer after history
      (history.add (directUse category resolved).destination .completed
        (directUse category resolved).secondaries) := by
    refine ⟨posted.rows, posted.summaries, fun row => ?_, fun row => .inl (none _ rfl),
      fun index => .inl (none _ rfl), fun row => ?_, fun index => ?_, fun index wanted => ?_,
      fun row wanted => ?_⟩
    · grind [BalancedEntries, Meter.directs]
    · rw [none (.opened row) rfl, none (.closed row) rfl, openJoins, openJoins, posted.opens]
    · rw [none (.raised index) rfl, none (.lowered index) rfl, unknownHeld, unknownHeld,
        posted.opens, posted.refused]
    · rw [History.count_terminals_add]
      by_cases same : wanted = .completed
      · subst same
        rw [count_directEntries_outcome category resolved (.inr ⟨index, rfl⟩),
          OpenKeyUse.count_settled _ _ _ _ formed]
      · rw [none (.settled index wanted) (decide_eq_false same),
          if_neg fun both => same both.2.symm]
    · rw [History.count_terminals_add, History.count_secondaries_add]
      by_cases same : wanted = .completed
      · subst same
        rw [completed, liveJoins_split _ formed]
        simp only [and_true, if_true]
        omega
      · rw [none (.ended row wanted) (decide_eq_false same),
          if_neg fun both => same both.2.symm, if_neg (Ne.symm same)]
        rfl
  refine sound.post books ?_ below
  have bounded := size_le_of_fresh reducer after resolved ?_
  · have room := of_decide_eq_true admitted
    have same := posted.capacity
    omega
  · intro row present
    refine (posted.reserved row present).imp_right fun member => ?_
    have positive := count_pos_iff.mpr member
    rw [started, OpenKeyUse.liveJoins, countP_pos_iff] at positive
    obtain ⟨assoc, inside, live⟩ := positive
    obtain ⟨slot, here, rfl⟩ := mem_map.mp inside
    refine ⟨slot, here, ?_⟩
    cases bucket : slot.bucket <;> simp_all [OpenAssoc.liveRow, ResolvedAssoc.opened]

/-! ## Retirement -/

section Retirement

variable (ends : ObjectId → Bool) (use : OpenKeyUse)

/-- The live joins of a row are those that end and those that stay. -/
theorem liveJoins_loseJoins (row : AggKey) :
    use.liveJoins row = (loseJoins ends use).liveJoins row +
      (newlyLost ends use).countP fun bucket => bucket = .proved row := by
  unfold OpenKeyUse.liveJoins loseJoins newlyLost
  induction use.associations with
  | nil => rfl
  | cons assoc rest ih =>
    obtain ⟨bucket, key, lost, primary⟩ := assoc
    by_cases named : ends key = true <;> cases lost <;> cases bucket <;>
      simp [OpenAssoc.liveRow, countP_cons, named] at ih ⊢ <;> omega

theorem summaryHolds_loseJoins (index : Fin unknownBuckets) :
    (loseJoins ends use).summaryHolds index = use.summaryHolds index := by
  unfold OpenKeyUse.summaryHolds loseJoins
  rw [countP_map]
  congr 2
  funext assoc
  dsimp only [Function.comp_apply]
  split <;> rfl

theorem loseJoins_wellFormed (formed : use.WellFormed) : (loseJoins ends use).WellFormed where
  once := by
    refine Nat.le_trans (Nat.le_of_eq ?_) formed.once
    unfold loseJoins
    rw [countP_map]
    congr 1
    funext assoc
    dsimp only [Function.comp_apply]
    split <;> rfl
  unbound unbound := by
    have none := formed.unbound unbound
    unfold loseJoins
    rw [none]
    rfl

/-- A join that ends was live before. -/
theorem live_of_newlyLost {bucket : AssocBucket} {row : AggKey}
    (member : bucket ∈ newlyLost ends use) (named : bucket.row = some row) :
    ∃ assoc ∈ use.associations, assoc.liveRow = some row := by
  obtain ⟨assoc, kept, rfl⟩ := mem_map.mp member
  obtain ⟨inside, test⟩ := mem_filter.mp kept
  refine ⟨assoc, inside, ?_⟩
  obtain ⟨held, key, lost, primary⟩ := assoc
  cases held <;> cases named
  simp_all [OpenAssoc.liveRow]

end Retirement

variable (lost : List AssocBucket)

theorem count_lost_proved {row : AggKey} (moved : entry = .closed row ∨ entry = .joinLost row) :
    (lost.flatMap AssocBucket.lostEntries).count entry =
      lost.countP fun bucket => bucket = .proved row := by
  refine count_flatMap_eq_countP fun bucket _ => ?_
  rcases moved with rfl | rfl <;> cases bucket <;> simp [AssocBucket.lostEntries, count_cons]

theorem count_lost_other (other : entry.loses = false) :
    (lost.flatMap AssocBucket.lostEntries).count entry = 0 := by
  refine count_flatMap_eq_zero fun bucket _ member => ?_
  cases bucket with
  | unknown index => cases member
  | proved row =>
    simp only [AssocBucket.lostEntries, mem_cons, not_mem_nil, or_false] at member
    rcases member with rfl | rfl <;> cases other

/-- Retired joins move from a row's activity to its lost joins. -/
theorem retired_sound (sound : reducer.Sound history) (ends : ObjectId → Bool)
    (posted : Posted
      ((reducer.opens.toList.flatMap fun entry => newlyLost ends entry.2).flatMap
        AssocBucket.lostEntries)
      { reducer with opens := reducer.opens.map fun _ => loseJoins ends } after)
    (below : after.Unsaturated) : after.Sound history := by
  generalize same : reducer.opens.toList.flatMap (fun entry => newlyLost ends entry.2) = lost
    at posted
  have opens : after.opens = reducer.opens.map fun _ => loseJoins ends := posted.opens
  have refused : after.refused = reducer.refused := posted.refused
  have none : ∀ entry : Meter, entry.loses = false →
      (lost.flatMap AssocBucket.lostEntries).count entry = 0 := fun entry other =>
    count_lost_other lost other
  have books : Books (lost.flatMap AssocBucket.lostEntries) reducer after history history := by
    refine ⟨posted.rows, posted.summaries, fun row => ?_, fun row => .inr (none _ rfl),
      fun index => .inr (none _ rfl), fun row => ?_, fun index => ?_, fun index wanted => ?_,
      fun row wanted => ?_⟩
    · grind [BalancedEntries, Meter.loses, count_lost_proved]
    · have ended : lost.countP (fun bucket => bucket = .proved row) =
          sumBy (fun _ use => (newlyLost ends use).countP fun bucket => bucket = .proved row)
            reducer.opens := by
        rw [← same, countP_flatMap]
        rfl
      rw [count_lost_proved lost (.inl rfl), none (.opened row) rfl, ended, openJoins, opens,
        sumBy_map, ← sumBy_add]
      exact sumBy_congr _ fun _ use => (liveJoins_loseJoins ends use row).symm
    · rw [none (.lowered index) rfl, none (.raised index) rfl, unknownHeld, opens, refused,
        sumBy_map]
      congr 2
      exact sumBy_congr _ fun _ use => summaryHolds_loseJoins ends use index
    · rw [none (.settled index wanted) rfl]
      rfl
    · rw [none (.ended row wanted) rfl]
      rfl
  refine sound.post books ?_ below
  have size := size_le_of_posted posted fun row => count_eq_zero.mp (none (.started row) rfl)
  have capacity : after.capacity = reducer.capacity := posted.capacity
  exact Nat.le_trans size (capacity ▸ sound.fits)

/-- Retirement never meets a missing row, and moves its joins to the lost ones. -/
theorem retire_spec (rooted : reducer.Rooted) (ends : ObjectId → Bool) :
    ∃ after, reducer.retire ends = some after ∧ after.Rooted ∧
      ∀ history, reducer.Sound history → after.Unsaturated → after.Sound history := by
  let lost := reducer.opens.toList.flatMap fun entry => newlyLost ends entry.2
  let marked : KeyUseReducer :=
    { reducer with opens := reducer.opens.map fun _ => loseJoins ends }
  have ready : ∀ bucket ∈ lost, ∀ row ∈ bucket.row, row ∈ marked.aggregates := by
    intro bucket member row named
    obtain ⟨⟨key, use⟩, inside, ended⟩ := mem_flatMap.mp member
    have stored : reducer.opens[key]? = some use :=
      ExtTreeMap.mem_toList_iff_getElem?_eq_some.mp inside
    obtain ⟨assoc, here, live⟩ := live_of_newlyLost ends use ended named
    exact rooted.present key use stored assoc here row live
  obtain ⟨after, done, posted⟩ := marked.posted_foldlM closeLostBucket_posted lost ready
  have opens : after.opens = reducer.opens.map fun _ => loseJoins ends := posted.opens
  have before : ∀ (key : OperationKey) (found : OpenKeyUse), after.opens[key]? = some found →
      ∃ use, reducer.opens[key]? = some use ∧ loseJoins ends use = found := by
    intro key found stored
    rw [opens, ExtTreeMap.getElem?_map] at stored
    exact Option.map_eq_some_iff.mp stored
  refine ⟨after, done, ⟨fun key found stored => ?_, fun key found stored assoc member row live =>
    ?_⟩, fun history sound below => retired_sound sound ends posted below⟩
  · obtain ⟨use, held, rfl⟩ := before key found stored
    exact loseJoins_wellFormed ends use (rooted.formed key use held)
  · obtain ⟨use, held, rfl⟩ := before key found stored
    -- Losing joins takes live rows away and adds none.
    obtain ⟨old, inside, rfl⟩ := mem_map.mp member
    refine posted.kept row (rooted.present key use held old inside row ?_)
    split at live
    · cases bucket : old.bucket <;> simp [OpenAssoc.liveRow, bucket] at live
    · exact live

theorem applyInvalidation_spec (rooted : reducer.Rooted)
    (attributed : ObjectId → Option SessionIncarnation) (effect : ObjectEffect) :
    ∃ after, reducer.applyInvalidation attributed effect = some after ∧ after.Rooted ∧
      ∀ history, reducer.Sound history → after.Unsaturated → after.Sound history := by
  unfold applyInvalidation
  split
  case h_8 => exact ⟨reducer, rfl, rooted, fun _ sound _ => sound⟩
  all_goals exact retire_spec rooted _

end KeyUseReducer

end P11Scope.KeyUse
