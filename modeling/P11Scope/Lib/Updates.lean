import Mathlib

/-!
# Runs of point updates

A fallible loop whose every step changes a described function at one key, each
key once.  The whole loop then succeeds and performs all the updates.
-/

namespace P11Scope.Lib

open Function

variable {State Item Key Value : Type}

/-- A fallible step that succeeds hands its value on. -/
theorem bind_done {Next : Type} {step : Option Value} {value : Value}
    {next : Value → Option Next} {result : Option Next} (done : step = some value)
    (rest : next value = result) : step.bind next = result := by
  subst done
  exact rest

/-- A write to a vector is a point update of its entries. -/
theorem vector_set {size : Nat} (values : Vector Value size) (index : Fin size) (value : Value) :
    (fun other : Fin size => getElem (values.set index value index.2) other other.2) =
      update (fun other : Fin size => getElem values other other.2) index value := by
  funext other
  by_cases same : other = index
  · subst same
    simp
  · have apart : index.val ≠ other.val := fun equal => same (Fin.ext equal.symm)
    simp [update_of_ne same, Vector.getElem_set_ne, apart]

variable [DecidableEq Key]

/-- All updates of a list, in order. -/
def updateAll (key : Item → Key) (value : Item → Value) (items : List Item)
    (stored : Key → Value) : Key → Value :=
  items.foldl (fun stored item => update stored (key item) (value item)) stored

variable {key : Item → Key} {value : Item → Value} {items : List Item} {stored : Key → Value}

theorem updateAll_of_notMem {other : Key} (absent : ∀ item ∈ items, key item ≠ other) :
    updateAll key value items stored other = stored other := by
  induction items generalizing stored with
  | nil => rfl
  | cons item rest ih =>
    have later : ∀ member ∈ rest, key member ≠ other := fun member present =>
      absent member (List.mem_cons_of_mem _ present)
    exact (ih later).trans (update_of_ne (absent item List.mem_cons_self).symm ..)

theorem updateAll_of_mem (apart : (items.map key).Nodup) {item : Item} (member : item ∈ items) :
    updateAll key value items stored (key item) = value item := by
  induction items generalizing stored with
  | nil => cases member
  | cons first rest ih =>
    obtain ⟨fresh, apart⟩ := List.nodup_cons.mp apart
    rcases List.mem_cons.mp member with rfl | inside
    · have kept : ∀ other ∈ rest, key other ≠ key item := fun other present same =>
        fresh (same ▸ List.mem_map_of_mem present)
      exact (updateAll_of_notMem kept).trans (update_self (key item) _ stored)
    · exact ih apart inside

/-- Each step succeeds while its key is still as it was at first. -/
theorem foldlM_updateAll (first : Key → Value) {step : State → Item → Option State}
    {Holds : State → (Key → Value) → Prop} (apart : (items.map key).Nodup)
    (steps : ∀ item ∈ items, ∀ state stored, Holds state stored →
      stored (key item) = first (key item) →
      ∃ after, step state item = some after ∧
        Holds after (update stored (key item) (value item))) {state : State}
    (holds : Holds state stored) (same : ∀ item ∈ items, stored (key item) = first (key item)) :
    ∃ after, items.foldlM step state = some after ∧
      Holds after (updateAll key value items stored) := by
  induction items generalizing state stored with
  | nil => exact ⟨state, rfl, holds⟩
  | cons item rest ih =>
    obtain ⟨fresh, apart⟩ := List.nodup_cons.mp apart
    obtain ⟨middle, done, held⟩ := steps item List.mem_cons_self state stored holds
      (same item List.mem_cons_self)
    obtain ⟨after, later, final⟩ := ih apart
      (fun member present => steps member (List.mem_cons_of_mem _ present)) held
      fun member present => by
        rw [update_of_ne, same member (List.mem_cons_of_mem _ present)]
        intro equal
        exact fresh (equal ▸ List.mem_map_of_mem present)
    refine ⟨after, ?_, final⟩
    rw [List.foldlM_cons, done]
    exact later

end P11Scope.Lib
