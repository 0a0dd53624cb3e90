import P11Scope.Lib.TreeMap
import P11Scope.Lib.TreeSet

/-!
# Sorting, ranking and grouping

Canonical presentations of unordered data: a sorted list stands for a multiset,
the position in the sorted set of all keys stands for a key, and a map of
accumulators stands for a list grouped by key.
-/

namespace P11Scope.Lib.Sorting

open Std Lib.TreeMap List

/-! ## Sorting -/

section Sorted

variable {α K : Type} [Ord K] (key : α → K)

def AtMost (first second : α) : Prop :=
  (compare (key first) (key second)).isLE = true

instance (key : α → K) : DecidableRel (AtMost key) :=
  fun first second => inferInstanceAs (Decidable ((compare (key first) (key second)).isLE = true))

/-- Stable sort by a key. -/
def sortBy (items : List α) : List α :=
  items.insertionSort (AtMost key)

def sorted (items : List K) : List K := sortBy id items

theorem sortBy_perm (items : List α) : (sortBy key items).Perm items :=
  perm_insertionSort _ items

@[simp]
theorem mem_sortBy {items : List α} {item : α} : item ∈ sortBy key items ↔ item ∈ items :=
  (sortBy_perm key items).mem_iff

variable [TransOrd K]

instance (key : α → K) : IsTrans α (AtMost key) where
  trans _ _ _ first second := TransCmp.isLE_trans first second

instance (key : α → K) : Std.Total (AtMost key) where
  total first second := by
    have swapped : compare (key second) (key first) = (compare (key first) (key second)).swap :=
      OrientedCmp.eq_swap
    unfold AtMost
    rw [swapped]
    cases compare (key first) (key second) <;> simp

theorem sortBy_pairwise (items : List α) : (sortBy key items).Pairwise (AtMost key) :=
  pairwise_insertionSort _ items

variable [LawfulEqOrd K]

theorem AtMost.antisymm {key : α → K} {first second : α}
    (up : AtMost key first second) (down : AtMost key second first) :
    key first = key second :=
  LawfulEqOrd.eq_of_compare (OrientedCmp.isLE_antisymm up down)

/-- Sorting by a key that separates the items depends on their multiset only. -/
theorem sortBy_eq_of_perm {key : α → K} {first second : List α}
    (separates : ∀ a ∈ first, ∀ b ∈ first, key a = key b → a = b) (same : first.Perm second) :
    sortBy key first = sortBy key second := by
  refine List.Perm.eq_of_pairwise ?_ (sortBy_pairwise key first) (sortBy_pairwise key second)
    ((sortBy_perm key first).trans (same.trans (sortBy_perm key second).symm))
  intro a b memberA memberB up down
  have inFirst : a ∈ first := (mem_sortBy key).mp memberA
  have inSecond : b ∈ first := same.mem_iff.mpr ((mem_sortBy key).mp memberB)
  exact separates a inFirst b inSecond (up.antisymm down)

theorem sorted_eq_iff_perm {first second : List K} :
    sorted first = sorted second ↔ first.Perm second := by
  constructor
  · intro same
    have presented := sortBy_perm id first
    rw [show sortBy id first = sortBy id second from same] at presented
    exact presented.symm.trans (sortBy_perm id second)
  · exact sortBy_eq_of_perm fun _ _ _ _ same => same

end Sorted

/-! ## Multisets determined by a coarser one -/

/-- Renamed items that show the same value show it equally often. -/
theorem perm_map_renamed {ι κ β : Type} {first : List ι} {second : List κ} {rename : κ → ι}
    {g : ι → β} {g' : κ → β} (moved : first.Perm (second.map rename))
    (same : ∀ x ∈ second, g (rename x) = g' x) : (first.map g).Perm (second.map g') := by
  refine (moved.map g).trans (List.Perm.of_eq ?_)
  rw [map_map]
  exact map_congr_left same

theorem perm_filterMap_renamed {ι κ β : Type} {first : List ι} {second : List κ}
    {rename : κ → ι} {g : ι → Option β} {g' : κ → Option β}
    (moved : first.Perm (second.map rename)) (same : ∀ x ∈ second, g (rename x) = g' x) :
    (first.filterMap g).Perm (second.filterMap g') := by
  refine (moved.filterMap g).trans (List.Perm.of_eq ?_)
  rw [filterMap_map]
  exact filterMap_congr same

/-- Where one description of the items determines another, equal multisets of
the first give equal multisets of the second. -/
theorem perm_map_of_determined {ι κ α β : Type} {first : List ι} {second : List κ}
    {f : ι → α} {f' : κ → α} {g : ι → β} {g' : κ → β}
    (across : ∀ x ∈ first, ∀ y ∈ second, f x = f' y → g x = g' y)
    (same : (first.map f).Perm (second.map f')) : (first.map g).Perm (second.map g') := by
  induction first generalizing second with
  | nil =>
    rw [map_eq_nil_iff.mp same.symm.eq_nil]
    exact .nil
  | cons x rest ih =>
    -- Some item shows what the first one shows; the rest show the same without them.
    obtain ⟨y, member, agrees⟩ := mem_map.mp (same.mem_iff.mp mem_cons_self)
    obtain ⟨before, after, rfl⟩ := append_of_mem member
    have moved : (before ++ y :: after).Perm (y :: (before ++ after)) := perm_middle
    have rests := same.trans (moved.map f')
    rw [map_cons, map_cons, agrees] at rests
    have later := ih (fun x' inRest y' inSecond => across x' (mem_cons_of_mem _ inRest) y'
      (moved.mem_iff.mpr (mem_cons_of_mem _ inSecond))) rests.cons_inv
    refine List.Perm.trans ?_ (moved.map g').symm
    rw [map_cons, map_cons, across x mem_cons_self y member agrees.symm]
    exact later.cons _

/-- Two descriptions that determine each other have equal multisets together. -/
theorem perm_map_iff_of_determined {ι κ α β : Type} {first : List ι} {second : List κ}
    {f : ι → α} {f' : κ → α} {g : ι → β} {g' : κ → β}
    (across : ∀ x ∈ first, ∀ y ∈ second, f x = f' y ↔ g x = g' y) :
    (first.map f).Perm (second.map f') ↔ (first.map g).Perm (second.map g') := by
  constructor
  · exact perm_map_of_determined fun x inFirst y inSecond => (across x inFirst y inSecond).mp
  · exact perm_map_of_determined fun x inFirst y inSecond => (across x inFirst y inSecond).mpr

variable (positions : Equiv.Perm Nat)

/-- Positions of a list read at permuted positions. -/
theorem range_perm_of_reindexed {α : Type} {first second : List α}
    (same : ∀ i, second[positions i]? = first[i]?) :
    (List.range second.length).Perm ((List.range first.length).map positions) := by
  have inside : ∀ i, positions i < second.length ↔ i < first.length := by
    intro i
    rw [← Nat.not_le, ← Nat.not_le, ← getElem?_eq_none_iff, ← getElem?_eq_none_iff, same]
  refine (perm_ext_iff_of_nodup nodup_range (nodup_range.map positions.injective)).mpr fun j => ?_
  obtain ⟨i, rfl⟩ := positions.surjective j
  simp only [mem_range, mem_map, inside, EmbeddingLike.apply_eq_iff_eq, exists_eq_right]

/-- A list read at permuted positions is a permutation of it. -/
theorem perm_of_reindexed {α : Type} {first second : List α}
    (same : ∀ i, second[positions i]? = first[i]?) : second.Perm first := by
  have listed : ∀ items : List α,
      (List.range items.length).filterMap (fun i => items[i]?) = items := by
    intro items
    induction items with
    | nil => rfl
    | cons head rest ih =>
      rw [length_cons, range_succ_eq_map]
      simpa [Function.comp_def] using ih
  have read : first = ((List.range first.length).map positions).filterMap fun j => second[j]? := by
    rw [filterMap_map]
    conv_lhs => rw [← listed first]
    exact filterMap_congr fun i _ => (same i).symm
  conv_lhs => rw [← listed second]
  conv_rhs => rw [read]
  exact (range_perm_of_reindexed positions same).filterMap _

/-! ## Ranks -/

section Ranks

variable {K : Type} [Ord K] [TransOrd K] [LawfulEqOrd K] [DecidableEq K]

theorem mem_ofList {keys : List K} {key : K} : key ∈ ExtTreeSet.ofList keys ↔ key ∈ keys := by
  rw [ExtTreeSet.mem_ofList, contains_iff_mem]

theorem ofList_eq_of_mem_iff {first second : List K}
    (same : ∀ key, key ∈ first ↔ key ∈ second) :
    ExtTreeSet.ofList first = ExtTreeSet.ofList second := by
  refine ExtTreeSet.ext_mem ?_
  intro key
  rw [mem_ofList, mem_ofList]
  exact same key

theorem mem_toList_ofList {keys : List K} {key : K} :
    key ∈ (ExtTreeSet.ofList keys).toList ↔ key ∈ keys := by
  rw [ExtTreeSet.mem_toList, mem_ofList]

theorem toList_ofList_eq_nil {keys : List K} :
    (ExtTreeSet.ofList keys).toList = [] ↔ keys = [] := by
  simp only [eq_nil_iff_forall_not_mem, mem_toList_ofList]

theorem eq_of_size_ofList_le_one {keys : List K} (small : ¬(ExtTreeSet.ofList keys).size > 1)
    {first second : K} (one : first ∈ keys) (other : second ∈ keys) : first = second := by
  have oneListed := mem_toList_ofList.mpr one
  have otherListed := mem_toList_ofList.mpr other
  rw [← ExtTreeSet.length_toList] at small
  match listed : (ExtTreeSet.ofList keys).toList, small with
  | [], _ => simp [listed] at oneListed
  | [only], _ =>
    rw [listed, mem_singleton] at oneListed otherListed
    rw [oneListed, otherListed]
  | _ :: _ :: _, small => simp [listed] at small

/-- Position of a key in the ordered set of all keys. -/
def rank (table : ExtTreeSet K) (key : K) : Nat := table.toList.idxOf key

theorem rank_inj {table : ExtTreeSet K} {first second : K} (known : first ∈ table) :
    rank table first = rank table second ↔ first = second :=
  idxOf_inj (ExtTreeSet.mem_toList.mpr known)

end Ranks

/-! ## Grouping -/

section Groups

variable {K V A : Type} [Ord K] [TransOrd K]

/-- Adds each entry to the accumulator of its key, which starts empty. -/
def groupInto (add : A → V → A) (empty : A) (entries : List (K × V)) : ExtTreeMap K A :=
  entries.foldl
    (fun groups entry =>
      groups.alter entry.1 fun held => some (add (held.getD empty) entry.2))
    ∅

variable [LawfulEqOrd K] [DecidableEq K]

/-- The entries of one key, in order. -/
def entriesOf (key : K) (entries : List (K × V)) : List V :=
  (entries.filter fun entry => entry.1 = key).map Prod.snd

variable (add : A → V → A)

theorem getElem?_foldl_alter (empty : A) (entries : List (K × V)) (groups : ExtTreeMap K A)
    (key : K) :
    (entries.foldl
        (fun groups entry =>
          groups.alter entry.1 fun held => some (add (held.getD empty) entry.2))
        groups)[key]? =
      if entriesOf key entries = [] then groups[key]?
      else some ((entriesOf key entries).foldl add (groups[key]?.getD empty)) := by
  induction entries generalizing groups with
  | nil => simp [entriesOf]
  | cons entry rest ih =>
    rw [foldl_cons, ih, ExtTreeMap.getElem?_alter]
    by_cases own : entry.1 = key
    · have cons : entriesOf key (entry :: rest) = entry.2 :: entriesOf key rest := by
        simp [entriesOf, own]
      rw [cons, own]
      split
      · next none => simp [none]
      · simp
    · have skip : entriesOf key (entry :: rest) = entriesOf key rest := by
        simp [entriesOf, own]
      rw [skip, if_neg fun same => own (LawfulEqOrd.eq_of_compare same)]

theorem getElem?_groupInto (empty : A) (entries : List (K × V)) (key : K) :
    (groupInto add empty entries)[key]? =
      if entriesOf key entries = [] then none
      else some ((entriesOf key entries).foldl add empty) := by
  rw [groupInto, getElem?_foldl_alter]
  simp

omit [Ord K] [TransOrd K] [LawfulEqOrd K] in
theorem entriesOf_filterMap {ι : Type} (items : List ι) (entry : ι → Option (K × V)) (key : K) :
    entriesOf key (items.filterMap entry) =
      items.filterMap fun item =>
        (entry item).bind fun found => if found.1 = key then some found.2 else none := by
  unfold entriesOf
  rw [filter_filterMap, map_filterMap]
  refine filterMap_congr ?_
  intro item _
  cases entry item with
  | none => rfl
  | some found => by_cases own : found.1 = key <;> simp [own, Option.filter]

omit [Ord K] [TransOrd K] [LawfulEqOrd K] in
theorem entriesOf_eq_nil {key : K} {entries : List (K × V)} :
    entriesOf key entries = [] ↔ ∀ entry ∈ entries, entry.1 ≠ key := by
  simp [entriesOf]

end Groups

end P11Scope.Lib.Sorting
