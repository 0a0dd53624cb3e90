import P11Scope.Lib.TreeMap

/-!
# Tallies

Counters with a ceiling, and counts of the entries a list of items posts.  A
counter that is still below its ceiling rose by exactly what was added to it, so
the rises of successive steps add up.
-/

namespace P11Scope.Lib

open List

/-- Below the ceiling, the counter rose by exactly this amount. -/
def Rises (ceiling before amount after : Nat) : Prop :=
  after < ceiling → after = before + amount

variable {ceiling first second third amount more : Nat}

theorem Rises.refl (ceiling value : Nat) : Rises ceiling value 0 value := fun _ => rfl

theorem Rises.of_zero (none : amount = 0) : Rises ceiling first amount first := fun _ => by omega

theorem Rises.trans (rise : Rises ceiling first amount second)
    (again : Rises ceiling second more third) : Rises ceiling first (amount + more) third := by
  intro below
  have last := again below
  have middle := rise (by omega)
  omega

theorem Rises.of_min {added : Nat} (same : amount = added) :
    Rises ceiling first amount (min (first + added) ceiling) := by
  intro below
  omega

section Lists

variable {Item Entry : Type} [DecidableEq Entry]
  {entry : Entry} {items : List Item} {post : Item → List Entry}

/-- Items that post an entry at most once each are counted by a test. -/
theorem count_flatMap_eq_countP {test : Item → Bool}
    (each : ∀ item ∈ items, (post item).count entry = if test item then 1 else 0) :
    (items.flatMap post).count entry = items.countP test := by
  induction items with
  | nil => rfl
  | cons item rest ih =>
    have later := ih fun other member => each other (mem_cons_of_mem _ member)
    rw [flatMap_cons, count_append, each item mem_cons_self, countP_cons]
    omega

/-- Items that never post an entry leave its count at zero. -/
theorem count_flatMap_eq_zero (never : ∀ item ∈ items, entry ∉ post item) :
    (items.flatMap post).count entry = 0 := by
  refine count_eq_zero.mpr fun member => ?_
  obtain ⟨item, inside, posted⟩ := mem_flatMap.mp member
  exact never item inside posted

theorem count_flatMap_congr {other : Item → List Entry}
    (same : ∀ item, (post item).count entry = (other item).count entry) (items : List Item) :
    (items.flatMap post).count entry = (items.flatMap other).count entry := by
  induction items with
  | nil => rfl
  | cons item rest ih =>
    rw [flatMap_cons, flatMap_cons, count_append, count_append, same, ih]

/-- An entry posted unless a flag is set. -/
theorem count_unless (flag : Bool) (posted entry : Entry) :
    (if flag then [] else [posted]).count entry =
      if !flag && decide (posted = entry) then 1 else 0 := by
  cases flag <;> simp [count_cons]

/-- Zipping with a long enough list keeps what a test sees of the first one. -/
theorem countP_zipWith {Other Pair : Type} {pair : Item → Other → Pair} {test : Pair → Bool}
    {seen : Item → Bool} (same : ∀ item other, test (pair item other) = seen item)
    {others : List Other} (enough : items.length ≤ others.length) :
    (List.zipWith pair items others).countP test = items.countP seen := by
  induction items generalizing others with
  | nil => rfl
  | cons item rest ih =>
    cases others with
    | nil => simp at enough
    | cons other more =>
      rw [zipWith_cons_cons, countP_cons, countP_cons, same, ih (by simpa using enough)]

/-- With at most one marked item, the filter finds what the search finds. -/
theorem filter_eq_find?_toList {marked : Item → Bool} (once : items.countP marked ≤ 1) :
    items.filter marked = (items.find? marked).toList := by
  induction items with
  | nil => rfl
  | cons item rest ih =>
    by_cases here : marked item = true
    · rw [countP_cons_of_pos here] at once
      have none : rest.countP marked = 0 := by omega
      rw [filter_cons_of_pos here, find?_cons_of_pos here,
        filter_eq_nil_iff.mpr (countP_eq_zero.mp none)]
      rfl
    · rw [countP_cons_of_neg here] at once
      rw [filter_cons_of_neg here, find?_cons_of_neg here, ih once]

end Lists

namespace TreeMap

open Std

variable {K V W : Type} [Ord K] [TransOrd K]

/-- The weight of updated values, summed over the map before the update. -/
theorem sumBy_map (update : K → V → W) (weight : K → W → Nat) (map : ExtTreeMap K V) :
    sumBy weight (map.map update) = sumBy (fun key value => weight key (update key value)) map := by
  unfold sumBy
  rw [ExtTreeMap.toList_map, map_map]
  rfl

theorem sumBy_add (weight extra : K → V → Nat) (map : ExtTreeMap K V) :
    sumBy (fun key value => weight key value + extra key value) map =
      sumBy weight map + sumBy extra map :=
  sum_map_add

theorem sumBy_congr {weight other : K → V → Nat} (map : ExtTreeMap K V)
    (same : ∀ key value, weight key value = other key value) :
    sumBy weight map = sumBy other map :=
  congrArg List.sum (map_congr_left fun entry _ => same entry.1 entry.2)

end TreeMap

end P11Scope.Lib
