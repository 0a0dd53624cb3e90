import Mathlib

/-!
# Ordered maps: sums over entries and sweeps

`Std.ExtTreeMap` supplies the ordered map, its lookups and its sizes.  This
module adds what an accounting proof needs on top of it: the lexicographic key
order, the sum of a weight over all entries, and the effect of an insertion, an
erasure, a filter and a value update on that sum.
-/

namespace P11Scope.Lib.TreeMap

open Std ExtTreeMap

/-- Pairs of keys are ordered lexicographically, first component first. -/
@[reducible]
instance ordProd {α β : Type} [Ord α] [Ord β] : Ord (α × β) := lexOrd

/-- Keys compared through an injective view are equal when they compare equal. -/
theorem eq_of_compareOn {α β : Type} [Ord β] [LawfulEqOrd β] {view : α → β}
    (injective : Function.Injective view) {first second : α}
    (same : compareOn view first second = .eq) : first = second :=
  injective (LawfulEqOrd.eq_of_compare same)

variable {K V W : Type} [Ord K] [TransOrd K] [LawfulEqOrd K]

theorem getElem?_insert_ite [DecidableEq K] {map : ExtTreeMap K V} {key other : K} {value : V} :
    (map.insert key value)[other]? = if key = other then some value else map[other]? := by
  rw [getElem?_insert]
  exact if_congr LawfulEqOrd.compare_eq_iff_eq rfl rfl

theorem getElem?_erase_ite [DecidableEq K] {map : ExtTreeMap K V} {key other : K} :
    (map.erase key)[other]? = if key = other then none else map[other]? := by
  rw [getElem?_erase]
  exact if_congr LawfulEqOrd.compare_eq_iff_eq rfl rfl

variable (weight : K → V → Nat)

/-- Total weight of the entries of a map. -/
def sumBy (map : ExtTreeMap K V) : Nat :=
  (map.toList.map fun entry => weight entry.1 entry.2).sum

omit [LawfulEqOrd K] in
theorem nodup_toList (map : ExtTreeMap K V) : map.toList.Nodup := by
  refine (distinct_keys_toList (t := map)).imp ?_
  intro first second distinct same
  rw [same] at distinct
  exact distinct ReflOrd.compare_self

variable {key : K} {map : ExtTreeMap K V}

theorem toList_insert_perm_of_absent (absent : map[key]? = none) (value : V) :
    (map.insert key value).toList.Perm ((key, value) :: map.toList) := by
  refine (List.perm_ext_iff_of_nodup (nodup_toList _) ?_).mpr ?_
  · refine List.nodup_cons.mpr ⟨?_, nodup_toList _⟩
    intro member
    rw [mem_toList_iff_getElem?_eq_some, absent] at member
    cases member
  · rintro ⟨other, found⟩
    simp only [mem_toList_iff_getElem?_eq_some, getElem?_insert,
      List.mem_cons, LawfulEqOrd.compare_eq_iff_eq, Prod.mk.injEq]
    by_cases same : key = other
    · subst same
      simp [absent, eq_comm]
    · simp [same, Ne.symm same]

variable {value : V}

theorem toList_perm_erase_of_present (present : map[key]? = some value) :
    map.toList.Perm ((key, value) :: (map.erase key).toList) := by
  have absent : (map.erase key)[key]? = none := getElem?_erase_self
  have restored : (map.erase key).insert key value = map := by
    refine ext_getElem? fun other => ?_
    simp only [getElem?_insert, getElem?_erase, LawfulEqOrd.compare_eq_iff_eq]
    by_cases same : key = other
    · subst same
      simp [present]
    · simp [same]
  have inserted := toList_insert_perm_of_absent absent value
  rwa [restored] at inserted

omit [LawfulEqOrd K] in
@[simp]
theorem sumBy_empty : sumBy weight (∅ : ExtTreeMap K V) = 0 := by
  have nothing : (∅ : ExtTreeMap K V).toList = [] :=
    toList_eq_nil_iff.mpr rfl
  simp [sumBy, nothing]

theorem sumBy_insert_of_absent (absent : map[key]? = none) (value : V) :
    sumBy weight (map.insert key value) = weight key value + sumBy weight map := by
  have permuted := (toList_insert_perm_of_absent absent value).map
    (fun entry => weight entry.1 entry.2)
  simpa [sumBy] using permuted.sum_eq

theorem sumBy_erase_of_present (present : map[key]? = some value) :
    sumBy weight map = weight key value + sumBy weight (map.erase key) := by
  have permuted := (toList_perm_erase_of_present present).map (fun entry => weight entry.1 entry.2)
  simpa [sumBy] using permuted.sum_eq

theorem erase_insert_self (map : ExtTreeMap K V) (key : K) (value : V) :
    (map.insert key value).erase key = map.erase key := by
  refine ext_getElem? fun other => ?_
  simp only [getElem?_erase, getElem?_insert]
  split <;> rfl

theorem insert_erase_self (map : ExtTreeMap K V) (key : K) (value : V) :
    (map.erase key).insert key value = map.insert key value := by
  refine ext_getElem? fun other => ?_
  simp only [getElem?_erase, getElem?_insert]
  split <;> rfl

/-- Replacing a present value trades its weight for the weight of the new one. -/
theorem sumBy_insert_of_present {old : V} (present : map[key]? = some old) (value : V) :
    sumBy weight (map.insert key value) + weight key old = sumBy weight map + weight key value := by
  have replaced : (map.insert key value)[key]? = some value := getElem?_insert_self
  rw [sumBy_erase_of_present weight replaced, sumBy_erase_of_present weight present,
    erase_insert_self]
  omega

/-- Storing a value trades the weight of whatever was stored for the new one. -/
theorem sumBy_insert (map : ExtTreeMap K V) (key : K) (value : V) :
    sumBy weight (map.insert key value) + (map[key]?).elim 0 (weight key) =
      sumBy weight map + weight key value := by
  cases stored : map[key]? with
  | none => rw [sumBy_insert_of_absent weight stored, Option.elim_none]; omega
  | some old => exact sumBy_insert_of_present weight stored value

omit [LawfulEqOrd K] in
/-- Updating values without changing their weights keeps the sum. -/
theorem sumBy_map_of_weight_eq (update : K → V → V) (weight : K → V → Nat)
    (same : ∀ key value, weight key (update key value) = weight key value)
    (map : ExtTreeMap K V) : sumBy weight (map.map update) = sumBy weight map := by
  unfold sumBy
  rw [toList_map, List.map_map]
  refine congrArg List.sum (List.map_congr_left fun entry _ => ?_)
  exact same entry.1 entry.2

omit [LawfulEqOrd K] in
/-- A filter and its complement split the sum. -/
theorem sumBy_filter_add (keep : K → V → Bool) (map : ExtTreeMap K V) :
    sumBy weight (map.filter keep) + sumBy weight (map.filter fun key value => !keep key value) =
      sumBy weight map := by
  simp only [sumBy, toList_filter]
  induction map.toList with
  | nil => rfl
  | cons entry rest ih =>
    cases kept : keep entry.1 entry.2 <;> simp [kept] <;> omega

/-- A kept entry was stored before and passed the filter. -/
theorem getElem?_filter_eq_some_iff {keep : K → V → Bool} :
    (map.filter keep)[key]? = some value ↔ map[key]? = some value ∧ keep key value = true := by
  rw [getElem?_filter', Option.filter_eq_some_iff]

/-! ## Sizes -/

omit [LawfulEqOrd K] in
theorem size_insert_of_absent (absent : map[key]? = none) (value : V) :
    (map.insert key value).size = map.size + 1 := by
  rw [size_insert, contains_eq_isSome_getElem?, absent]
  rfl

omit [LawfulEqOrd K] in
theorem size_insert_of_present {old : V} (present : map[key]? = some old) (value : V) :
    (map.insert key value).size = map.size := by
  rw [size_insert, contains_eq_isSome_getElem?, present]
  rfl

omit [LawfulEqOrd K] in
theorem size_insert_eq (map : ExtTreeMap K V) (key : K) (value : V) :
    (map.insert key value).size = map.size + (!map.contains key).toNat := by
  rw [size_insert]
  cases map.contains key <;> rfl

theorem size_erase_of_present (present : map[key]? = some value) :
    (map.erase key).size + 1 = map.size := by
  have permuted := (toList_perm_erase_of_present present).length_eq
  rw [List.length_cons, length_toList, length_toList] at permuted
  exact permuted.symm

/-- The least entry of a map is stored in it. -/
theorem getElem?_of_argmin {weight : K × V → Nat}
    (least : map.toList.argmin weight = some (key, value)) : map[key]? = some value :=
  mem_toList_iff_getElem?_eq_some.mp (List.argmin_mem least)

end P11Scope.Lib.TreeMap
