import Mathlib

/-!
# Runs within a budget

A step relation whose steps carry a cost, and the states reachable by steps
whose total cost stays within a budget.  Functions that transform a state are
described by the budget their result is within; invariants are proved once for
a step and follow for every run.
-/

namespace P11Scope.Lib

variable {State Item : Type} {step : State → Nat → State → Prop}

/-- `Within step start budget finish`: steps of total cost at most `budget` lead
from `start` to `finish`. -/
inductive Within (step : State → Nat → State → Prop) : State → Nat → State → Prop where
  | refl (state : State) (budget : Nat) : Within step state budget state
  | tail {start middle finish : State} {spent cost budget : Nat} :
      Within step start spent middle → step middle cost finish → spent + cost ≤ budget →
        Within step start budget finish

namespace Within

variable {finish start : State}

theorem single {cost : Nat} (taken : step start cost finish) : Within step start cost finish :=
  .tail (.refl start 0) taken (Nat.zero_add cost).le

variable {budget : Nat}

theorem mono {larger : Nat} (run : Within step start budget finish) (le : budget ≤ larger) :
    Within step start larger finish := by
  cases run with
  | refl => exact .refl _ _
  | tail run taken within => exact .tail run taken (within.trans le)

theorem trans {middle : State} {first second : Nat} (left : Within step start first middle)
    (right : Within step middle second finish) : Within step start (first + second) finish := by
  induction right with
  | refl => exact left.mono (Nat.le_add_right _ _)
  | tail _ taken within ih => exact .tail ih taken (by omega)

/-- Runs of a relation are runs of any larger one. -/
theorem lift {larger : State → Nat → State → Prop}
    (included : ∀ {state cost next}, step state cost next → larger state cost next)
    (run : Within step start budget finish) : Within larger start budget finish := by
  induction run with
  | refl => exact .refl _ _
  | tail _ taken within ih => exact .tail ih (included taken) within

/-- Two free runs in sequence are a free run. -/
theorem trans_free {middle : State} (left : Within step start 0 middle)
    (right : Within step middle 0 finish) : Within step start 0 finish :=
  left.trans right

/-- A fold whose every step is a free run is a free run. -/
theorem foldl_free {Carrier : Type} (view : Carrier → State) {advance : Carrier → Item → Carrier}
    {items : List Item}
    (each : ∀ item ∈ items, ∀ carrier, Within step (view carrier) 0 (view (advance carrier item)))
    (start : Carrier) : Within step (view start) 0 (view (items.foldl advance start)) := by
  induction items generalizing start with
  | nil => exact .refl _ _
  | cons item rest ih =>
    have rests := ih fun other member => each other (List.mem_cons_of_mem _ member)
    exact (each item List.mem_cons_self start).trans_free (rests _)

variable (property : State → Prop)

/-- An invariant of the steps is an invariant of every run. -/
theorem invariant
    (kept : ∀ {state cost next}, step state cost next → property state → property next)
    (run : Within step start budget finish) (holds : property start) : property finish := by
  induction run with
  | refl => exact holds
  | tail _ taken _ ih => exact kept taken ih

/-- An invariant that needs the cost of each step to be available, for a measure
of what is available that falls by no more than that cost. -/
theorem funded {available : State → Nat}
    (kept : ∀ {state cost next}, step state cost next → cost ≤ available state →
      property state → property next ∧ available state ≤ available next + cost)
    (run : Within step start budget finish) (enough : budget ≤ available start)
    (holds : property start) : property finish ∧ available start ≤ available finish + budget := by
  induction run with
  | refl => exact ⟨holds, Nat.le_add_right _ _⟩
  | tail _ taken within ih =>
    obtain ⟨before, left⟩ := ih (by omega)
    obtain ⟨after, rest⟩ := kept taken (by omega) before
    exact ⟨after, by omega⟩

end Within

/-! ## Runs without a cost -/

section

open Relation

variable {relation : State → State → Prop}

/-- A fold whose every step is a run is a run. -/
theorem runs_foldl {Carrier : Type} (view : Carrier → State) {advance : Carrier → Item → Carrier}
    {items : List Item}
    (each : ∀ item ∈ items, ∀ carrier,
      ReflTransGen relation (view carrier) (view (advance carrier item)))
    (start : Carrier) :
    ReflTransGen relation (view start) (view (items.foldl advance start)) :=
  List.foldlRecOn (motive := fun carrier => ReflTransGen relation (view start) (view carrier))
    items advance .refl fun carrier run item member => run.trans (each item member carrier)

/-- An invariant of the relation is an invariant of its runs. -/
theorem runs_invariant (property : State → Prop)
    (kept : ∀ {state next}, relation state next → property state → property next)
    {start finish : State} (run : ReflTransGen relation start finish)
    (holds : property start) : property finish := by
  induction run with
  | refl => exact holds
  | tail _ taken ih => exact kept taken ih

end

end P11Scope.Lib
