import Mathlib

/-!
# Ordered sets: sums over members and repeated insertion

What an accounting proof needs on top of `Std.ExtTreeSet`: a sum over the
members and the size after a list of insertions.
-/

namespace P11Scope.Lib.TreeSet

open Std Std.ExtTreeSet

variable {K : Type} [Ord K] [TransOrd K]

theorem nodup_toList (set : ExtTreeSet K) : set.toList.Nodup := by
  refine (distinct_toList (t := set)).imp ?_
  intro first second distinct same
  rw [same] at distinct
  exact distinct ReflOrd.compare_self

theorem size_insert_eq (set : ExtTreeSet K) (key : K) :
    (set.insert key).size = set.size + (!set.contains key).toNat := by
  rw [size_insert]
  cases set.contains key <;> rfl

variable [LawfulEqOrd K]

theorem mem_insert_iff {set : ExtTreeSet K} {key other : K} :
    other ∈ set.insert key ↔ key = other ∨ other ∈ set := by
  rw [mem_insert, LawfulEqOrd.compare_eq_iff_eq]

/-- The members of a set that every step of a fold inserts one key into. -/
theorem mem_foldl_insert {Carrier Item : Type} (view : Carrier → ExtTreeSet K) (key : Item → K)
    {step : Carrier → Item → Carrier}
    (inserts : ∀ carrier item, view (step carrier item) = (view carrier).insert (key item))
    {items : List Item} {start : Carrier} {wanted : K} :
    wanted ∈ view (items.foldl step start) ↔ wanted ∈ view start ∨ wanted ∈ items.map key := by
  induction items generalizing start with
  | nil => simp
  | cons item rest ih =>
    rw [List.foldl_cons, ih, inserts, mem_insert_iff, List.map_cons, List.mem_cons,
      eq_comm (a := key item)]
    tauto

/-- Two duplicate-free lists with the same members have the same sum. -/
theorem sum_map_eq_of_mem_iff {Item : Type} {first second : List Item} (weight : Item → Nat)
    (firstNodup : first.Nodup) (secondNodup : second.Nodup)
    (same : ∀ item, item ∈ first ↔ item ∈ second) :
    (first.map weight).sum = (second.map weight).sum :=
  (((List.perm_ext_iff_of_nodup firstNodup secondNodup).mpr same).map weight).sum_eq

theorem sum_toList_insert_of_absent (weight : K → Nat) {set : ExtTreeSet K} {key : K}
    (absent : set.contains key = false) :
    ((set.insert key).toList.map weight).sum = weight key + (set.toList.map weight).sum := by
  have missing : key ∉ set.toList := by
    rw [mem_toList, mem_iff_contains, absent]
    exact Bool.false_ne_true
  have distinct : (key :: set.toList).Nodup := List.nodup_cons.mpr ⟨missing, nodup_toList _⟩
  rw [sum_map_eq_of_mem_iff weight (nodup_toList _) distinct]
  · simp
  · intro item
    simp only [mem_toList, mem_insert_iff, List.mem_cons]
    rw [eq_comm (a := key)]

/-- Inserting a duplicate-free list adds one member per item not yet present. -/
theorem size_foldl_insert {items : List K} (distinct : items.Nodup) (set : ExtTreeSet K) :
    (items.foldl (fun set item => set.insert item) set).size =
      set.size + items.countP fun item => !set.contains item := by
  induction items generalizing set with
  | nil => rfl
  | cons item rest ih =>
    obtain ⟨fresh, restDistinct⟩ := List.nodup_cons.mp distinct
    have unchanged : rest.countP (fun other => !(set.insert item).contains other) =
        rest.countP fun other => !set.contains other := by
      refine List.countP_congr ?_
      intro other member
      have apart : item ≠ other := fun same => fresh (same ▸ member)
      simp [contains_insert, apart]
    rw [List.foldl_cons, ih restDistinct, unchanged, size_insert, List.countP_cons]
    cases set.contains item with
    | true => simp
    | false => simp; omega

end P11Scope.Lib.TreeSet
