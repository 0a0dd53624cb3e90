import Mathlib.Data.Finset.Card
import Mathlib.Data.Finset.Dedup

/-!
# Rotation of discovery candidates

Sorted candidates are served starting after the last attempted one.  Whatever
the candidate sets of later ticks, the cursor never passes a candidate that
stays present, so no other candidate has two turns between two of its own.
-/

namespace P11Scope.Discovery

open Std List

inductive InventoryScanClass where
  | retained
  | newcomer
  deriving DecidableEq, Repr

/-- The cursors and pass counts that a pressure service pass must not consume. -/
structure FairnessCheckpoint where
  overCapPasses : Nat := 0
  cursor : Option UInt32 := none
  reconcileSweeps : Nat := 0
  newViewCursor : Option UInt32 := none
  retainedViewCursor : Option UInt32 := none
  firstScanClass : InventoryScanClass := .retained
  tickScanStarted : Bool := false
  tickDeadlineNs : Option Nat := none
  underCapTicks : Nat := 0
  pollCursor : Option UInt32 := none

/-- The schedule.  Its accounting is one part, since a checkpoint saves and restores
every field of it and nothing else. -/
structure DiscoveryScheduler extends FairnessCheckpoint where
  cooling : ExtTreeMap UInt32 Nat := ∅

/-- The candidates after the cursor, then the others.  `ids` is sorted, so the
partition point is where the test first fails. -/
def rotatedAfter (ids : List UInt32) : Option UInt32 → List UInt32
  | none => ids
  | some cursor => ids.dropWhile (· ≤ cursor) ++ ids.takeWhile (· ≤ cursor)

/-- One service pass of a tick: it attempts a prefix of the rotated order. -/
structure Tick where
  scanned : InventoryScanClass
  candidates : List UInt32
  sorted : candidates.Pairwise (· < ·)
  taken : Nat

namespace DiscoveryScheduler

variable (scheduler : DiscoveryScheduler)

def newViewOrder (ids : List UInt32) : List UInt32 := rotatedAfter ids scheduler.newViewCursor

def retainedViewOrder (ids : List UInt32) : List UInt32 :=
  rotatedAfter ids scheduler.retainedViewCursor

/-- The class that starts a tick gives the other one the next first chance. -/
def noteScanAttempt (scanned : InventoryScanClass) : DiscoveryScheduler :=
  if scheduler.tickScanStarted then scheduler
  else
    { scheduler with
      tickScanStarted := true
      firstScanClass :=
        match scanned with
        | .retained => .newcomer
        | .newcomer => .retained }

def noteNewViewAttempt (id : UInt32) : DiscoveryScheduler :=
  noteScanAttempt { scheduler with newViewCursor := some id } .newcomer

def noteRetainedViewAttempt (id : UInt32) : DiscoveryScheduler :=
  noteScanAttempt { scheduler with retainedViewCursor := some id } .retained

def viewOrder : InventoryScanClass → List UInt32 → List UInt32
  | .retained => scheduler.retainedViewOrder
  | .newcomer => scheduler.newViewOrder

def noteAttempt : InventoryScanClass → UInt32 → DiscoveryScheduler
  | .retained => scheduler.noteRetainedViewAttempt
  | .newcomer => scheduler.noteNewViewAttempt

def fairnessCheckpoint : FairnessCheckpoint := scheduler.toFairnessCheckpoint

/-- Cooling entries are facts, not shares, and stay. -/
def restoreFairness (checkpoint : FairnessCheckpoint) : DiscoveryScheduler :=
  { scheduler with toFairnessCheckpoint := checkpoint }

/-- The attempts of one tick, in order. -/
def attempted (tick : Tick) : List UInt32 :=
  (scheduler.viewOrder tick.scanned tick.candidates).take tick.taken

def serve (tick : Tick) : DiscoveryScheduler :=
  (scheduler.attempted tick).foldl (fun scheduler id => scheduler.noteAttempt tick.scanned id)
    scheduler

/-- Every attempt a run makes in one class. -/
def attempts (scanned : InventoryScanClass) : DiscoveryScheduler → List Tick → List UInt32
  | _, [] => []
  | scheduler, tick :: rest =>
    (if tick.scanned = scanned then scheduler.attempted tick else []) ++
      attempts scanned (scheduler.serve tick) rest

end DiscoveryScheduler

/-! ## Chasing one candidate -/

/-- The ids passed on the way up from the cursor to `id`, once around at most;
without a cursor the way starts above the highest id. -/
def gap (cursor : Option UInt32) (id : UInt32) : UInt32 := id - cursor.getD 0xFFFFFFFF - 1

/-- Every attempt stands at or before `id` on the way up from its cursor. -/
def Chases (id : UInt32) : Option UInt32 → List UInt32 → Prop
  | _, [] => True
  | cursor, first :: rest => gap cursor first ≤ gap cursor id ∧ Chases id (some first) rest

def cursorAfter (cursor : Option UInt32) (attempts : List UInt32) : Option UInt32 :=
  attempts.foldl (fun _ id => some id) cursor

section Chase

variable {id : UInt32} {cursor : Option UInt32} {attempts more : List UInt32}

/-- The rotated order follows the gaps. -/
theorem rotatedAfter_pairwise {ids : List UInt32} (sorted : ids.Pairwise (· < ·))
    (cursor : Option UInt32) : (rotatedAfter ids cursor).Pairwise fun first second =>
      gap cursor first < gap cursor second := by
  cases cursor with
  | none => exact sorted.imp fun before => by grind [gap]
  | some cursor =>
    have above : ∀ id ∈ ids.dropWhile (· ≤ cursor), cursor < id := by
      induction sorted with
      | nil => nofun
      | cons before sorted ih => grind [dropWhile_cons]
    have below : ∀ id ∈ ids.takeWhile (· ≤ cursor), id ≤ cursor := fun id member => by
      simpa using all_eq_true.mp all_takeWhile id member
    refine pairwise_append.mpr ⟨(sorted.sublist (dropWhile_sublist _)).imp_of_mem ?_,
      (sorted.sublist (takeWhile_sublist _)).imp_of_mem ?_, ?_⟩
    all_goals grind [gap]

theorem chases_append : Chases id cursor (attempts ++ more) ↔
    Chases id cursor attempts ∧ Chases id (cursorAfter cursor attempts) more := by
  induction attempts generalizing cursor with
  | nil => exact (true_and _).symm ▸ Iff.rfl
  | cons first rest ih =>
    rw [cons_append, Chases, Chases, ih, and_assoc]
    rfl

/-- An order by gaps chases each of its own members, and whatever follows them all. -/
theorem Chases.ofOrder
    (ordered : attempts.Pairwise fun first second => gap cursor first < gap cursor second)
    (standing : id ∈ attempts ∨ ∀ other ∈ attempts, gap cursor other ≤ gap cursor id) :
    Chases id cursor attempts := by
  induction attempts generalizing cursor with
  | nil => trivial
  | cons first rest ih =>
    obtain ⟨before, ordered⟩ := pairwise_cons.mp ordered
    have next : rest.Pairwise fun one two => gap (some first) one < gap (some first) two :=
      ordered.imp_of_mem fun here _ less => by grind [gap]
    rcases standing with member | behind
    · rcases mem_cons.mp member with rfl | later
      · exact ⟨UInt32.le_refl _, ih next (.inr fun other _ => by grind [gap])⟩
      · exact ⟨UInt32.le_of_lt (before id later), ih next (.inl later)⟩
    · refine ⟨behind first mem_cons_self, ih next (.inr fun other here => ?_)⟩
      have := behind other (mem_cons_of_mem _ here)
      grind [gap]

/-- Until `id` has its turn every attempt stands before it, and none comes twice. -/
theorem Chases.distinct (chases : Chases id cursor attempts) (waiting : id ∉ attempts) :
    (∀ other ∈ attempts, gap cursor other < gap cursor id) ∧ attempts.Nodup := by
  induction attempts generalizing cursor with
  | nil => exact ⟨nofun, nodup_nil⟩
  | cons first rest ih =>
    rw [mem_cons, not_or] at waiting
    obtain ⟨between, nodup⟩ := ih chases.2 waiting.2
    have ahead : gap cursor first < gap cursor id := by
      have := chases.1
      grind [gap]
    refine ⟨fun other member => ?_, nodup_cons.mpr ⟨fun again => ?_, nodup⟩⟩
    · rcases mem_cons.mp member with rfl | later
      · exact ahead
      · have := between other later
        grind [gap]
    · have := between first again
      grind [gap]

end Chase

/-! ## Runs -/

namespace DiscoveryScheduler

variable (scheduler : DiscoveryScheduler) {scanned : InventoryScanClass}

def viewCursor : InventoryScanClass → Option UInt32
  | .retained => scheduler.retainedViewCursor
  | .newcomer => scheduler.newViewCursor

theorem viewOrder_eq (ids : List UInt32) :
    scheduler.viewOrder scanned ids = rotatedAfter ids (scheduler.viewCursor scanned) := by
  cases scanned <;> rfl

theorem noteAttempt_viewCursor (other : InventoryScanClass) (id : UInt32) :
    (scheduler.noteAttempt other id).viewCursor scanned =
      if other = scanned then some id else scheduler.viewCursor scanned := by
  cases other <;> cases scanned <;> cases started : scheduler.tickScanStarted <;>
    simp [noteAttempt, noteRetainedViewAttempt, noteNewViewAttempt, noteScanAttempt, viewCursor,
      started]

theorem serve_viewCursor (tick : Tick) : (scheduler.serve tick).viewCursor scanned =
    if tick.scanned = scanned then
      cursorAfter (scheduler.viewCursor scanned) (scheduler.attempted tick)
    else scheduler.viewCursor scanned := by
  unfold serve cursorAfter
  generalize scheduler.attempted tick = attempted
  induction attempted generalizing scheduler with
  | nil => simp
  | cons id rest ih =>
    rw [foldl_cons, ih, noteAttempt_viewCursor]
    split <;> rfl

theorem mem_viewOrder {ids : List UInt32} {id : UInt32} :
    id ∈ scheduler.viewOrder scanned ids ↔ id ∈ ids := by
  rw [viewOrder_eq]
  cases scheduler.viewCursor scanned with
  | none => exact Iff.rfl
  | some cursor =>
    rw [rotatedAfter, mem_append, or_comm, ← mem_append, takeWhile_append_dropWhile]

/-- A run chases a candidate that every tick of its class is offered. -/
theorem attempts_chases {ticks : List Tick} {id : UInt32}
    (present : ∀ tick ∈ ticks, tick.scanned = scanned → id ∈ tick.candidates) :
    Chases id (scheduler.viewCursor scanned) (scheduler.attempts scanned ticks) := by
  induction ticks generalizing scheduler with
  | nil => trivial
  | cons tick rest ih =>
    obtain ⟨now, present⟩ := forall_mem_cons.mp present
    have later := ih (scheduler.serve tick) present
    rw [serve_viewCursor] at later
    unfold attempts
    split at later
    case isFalse other =>
      rw [if_neg other]
      exact later
    case isTrue same =>
      -- The tick attempts a prefix of an order that chases as a whole.
      have order := rotatedAfter_pairwise tick.sorted (scheduler.viewCursor scanned)
      rw [← viewOrder_eq] at order
      have whole := Chases.ofOrder order (.inl (scheduler.mem_viewOrder.mpr (now same)))
      rw [← take_append_drop tick.taken (scheduler.viewOrder _ _), chases_append] at whole
      rw [if_pos same, chases_append]
      refine ⟨?_, later⟩
      rw [attempted, same]
      exact whole.1

theorem attempts_offered {ticks : List Tick} : ∀ id ∈ scheduler.attempts scanned ticks,
    id ∈ ticks.flatMap fun tick => if tick.scanned = scanned then tick.candidates else [] := by
  induction ticks generalizing scheduler with
  | nil => nofun
  | cons tick rest ih =>
    intro id member
    rw [flatMap_cons, mem_append]
    refine (mem_append.mp member).imp (fun now => ?_) (ih _ id)
    grind [attempted, mem_viewOrder, mem_of_mem_take]

/-- The cursor of a class decides every later attempt in it. -/
theorem attempts_congr {one two : DiscoveryScheduler} (ticks : List Tick)
    (same : one.viewCursor scanned = two.viewCursor scanned) :
    one.attempts scanned ticks = two.attempts scanned ticks := by
  induction ticks generalizing one two with
  | nil => rfl
  | cons tick rest ih =>
    have now : tick.scanned = scanned → one.attempted tick = two.attempted tick := by
      rintro rfl
      rw [attempted, attempted, viewOrder_eq, viewOrder_eq, same]
    have next : (one.serve tick).viewCursor scanned = (two.serve tick).viewCursor scanned := by
      grind [serve_viewCursor]
    rw [attempts, attempts, ih next]
    grind

/-- A candidate that every tick is offered is attempted before another one has two
turns, and a checkpoint restored around a pass leaves every later order alone. -/
theorem rotation_not_overtaken (scheduler : DiscoveryScheduler) (scanned : InventoryScanClass)
    (ticks : List Tick) (id : UInt32)
    (present : ∀ tick ∈ ticks, tick.scanned = scanned → id ∈ tick.candidates) :
    (∀ earlier waiting later, scheduler.attempts scanned ticks = earlier ++ waiting ++ later →
      id ∉ waiting → waiting.Nodup ∧ waiting.length ≤ ((ticks.flatMap fun tick =>
        if tick.scanned = scanned then tick.candidates else []).toFinset.erase id).card) ∧
    ∀ passed restored : DiscoveryScheduler,
      passed.restoreFairness scheduler.fairnessCheckpoint = restored →
      restored.fairnessCheckpoint = scheduler.fairnessCheckpoint ∧
        (∀ other ids, restored.viewOrder other ids = scheduler.viewOrder other ids) ∧
        ∀ other later, restored.attempts other later = scheduler.attempts other later := by
  refine ⟨fun earlier waiting later whole absent => ?_, fun passed restored back => ?_⟩
  · have chases := scheduler.attempts_chases present
    rw [whole, append_assoc, chases_append, chases_append] at chases
    have nodup := (chases.2.1.distinct absent).2
    refine ⟨nodup, ?_⟩
    rw [← toFinset_card_of_nodup nodup]
    refine Finset.card_le_card fun other member => ?_
    rw [mem_toFinset] at member
    rw [Finset.mem_erase, mem_toFinset]
    refine ⟨fun same => absent (same ▸ member), scheduler.attempts_offered other ?_⟩
    rw [whole]
    simp [member]
  · have cursors other : restored.viewCursor other = scheduler.viewCursor other := by
      rw [← back]
      cases other <;> rfl
    refine ⟨by rw [← back]; rfl, fun other ids => ?_,
      fun other later => attempts_congr later (cursors other)⟩
    rw [viewOrder_eq, viewOrder_eq, cursors]

/-- A tick that attempts two of three newcomers. -/
def twoOfThree : Tick :=
  { scanned := .newcomer, candidates := [1, 2, 3], sorted := by decide, taken := 2 }

/-- The third newcomer waits for the two before it. -/
theorem rotation_not_overtaken_twoOfThree :
    ({} : DiscoveryScheduler).attempts .newcomer [twoOfThree, twoOfThree] = [1, 2, 3, 1] ∧
      ([1, 2] : List UInt32).Nodup :=
  ⟨by decide +kernel, ((rotation_not_overtaken {} .newcomer [twoOfThree, twoOfThree] 3
    (by decide)).1 [] [1, 2] [3, 1] (by decide +kernel) (by decide)).1⟩

end DiscoveryScheduler

end P11Scope.Discovery
