import P11Scope.Lib.TreeSet
import P11Scope.Edge.Reducer

/-!
# Charges of mechanism rows

The charge of a row, and that the growth predicted for a claim or an attributed
call is exactly what the row grows by.
-/

namespace P11Scope.Edge

open Std Lib Kinds

variable (stat : EdgeMechStat)

/-- Charge of one mechanism row. -/
def rowCharge : Nat :=
  mechanismCharge + categoryCharge * stat.ops.size +
    (stat.functions.toList.map fun function =>
      functionCharge + function.utf8ByteSize + ownedAllocationPadding).sum +
    returnCharge * stat.returns.size

/-- Charge of a row that may be absent. -/
def rowCharge? : Option EdgeMechStat → Nat
  | none => 0
  | some stat => rowCharge stat

/-- Bytes one call's function name adds to a row. -/
def functionGrowth (function : String) : Nat :=
  if !stat.functions.contains function &&
      stat.functions.size < maxEdgeProvenanceFunctions then
    functionCharge + function.utf8ByteSize + ownedAllocationPadding
  else 0

/-- Bytes one return code adds to a row. -/
def returnGrowth (rv : UInt64) : Nat :=
  if !stat.returns.contains rv && stat.returns.size < maxEdgeProvenanceReturns then
    returnCharge
  else 0

theorem rowCharge_getD (stat : Option EdgeMechStat) :
    rowCharge (stat.getD {}) = rowCharge? stat + if stat.isNone then mechanismCharge else 0 := by
  cases stat <;> rfl

theorem rowCharge_recordFunction (function : String) :
    rowCharge (recordFunction stat function) = rowCharge stat + functionGrowth stat function := by
  unfold recordFunction functionGrowth
  cases known : stat.functions.contains function with
  | true => simp
  | false =>
    by_cases full : maxEdgeProvenanceFunctions ≤ stat.functions.size
    · simp [full, Nat.not_lt.mpr full, rowCharge]
    simp only [rowCharge, Bool.false_eq_true, if_false, full, Bool.not_false, Bool.true_and,
      decide_eq_true_eq, Nat.not_le.mp full, if_true,
      TreeSet.sum_toList_insert_of_absent _ known]
    omega

theorem rowCharge_recordReturn (rv : UInt64) :
    rowCharge (recordReturn stat rv) = rowCharge stat + returnGrowth stat rv := by
  unfold recordReturn returnGrowth
  cases known : stat.returns.contains rv with
  | true => simp
  | false =>
    by_cases full : maxEdgeProvenanceReturns ≤ stat.returns.size
    · simp [full, Nat.not_lt.mpr full, rowCharge]
    simp only [rowCharge, Bool.false_eq_true, if_false, full, Bool.not_false, Bool.true_and,
      decide_eq_true_eq, Nat.not_le.mp full, if_true, ExtTreeSet.size_insert, known,
      Nat.mul_add]
    omega

theorem returnGrowth_recordFunction (function : String) (rv : UInt64) :
    returnGrowth (recordFunction stat function) rv = returnGrowth stat rv := by
  unfold recordFunction
  split
  · rfl
  split <;> rfl

variable (call : SemanticCall)

/-- Adding one call's provenance grows a row by its new function and return. -/
theorem rowCharge_recordProvenance : rowCharge (recordProvenance stat call) =
      rowCharge stat + functionGrowth stat call.function + returnGrowth stat call.rv := by
  rw [recordProvenance, rowCharge_recordReturn, rowCharge_recordFunction,
    returnGrowth_recordFunction]

/-! ## Predicted growth is exact -/

variable {edge : EdgeSemantics} {mechanism : UInt64}

theorem provenanceGrowth_eq (rv : UInt64)
    (admitted : ¬ (¬ edge.mechs.contains mechanism ∧ maxEdgeMechanisms ≤ edge.mechs.size)) :
    edge.provenanceGrowth mechanism call rv =
      (if edge.mechs[mechanism]?.isNone then mechanismCharge else 0) +
        functionGrowth (edge.mechs[mechanism]?.getD {}) call.function +
        returnGrowth (edge.mechs[mechanism]?.getD {}) rv := by
  rw [ExtTreeMap.contains_eq_isSome_getElem?] at admitted
  unfold EdgeSemantics.provenanceGrowth
  cases stat : edge.mechs[mechanism]? with
  | some row => simp [functionGrowth, returnGrowth]
  | none =>
    have room : ¬ maxEdgeMechanisms ≤ edge.mechs.size := by simpa [stat] using admitted
    simp only [Option.isNone_none, room, and_false, if_false, Option.all_none, if_true,
      Option.getD_none]
    rfl

theorem categoryGrowth_eq (prior : Option EdgeMechStat) (descriptor : SlotSemantics) :
    categoryGrowth prior descriptor = categoryCharge *
      (claimedCategories descriptor).countP fun name => !(prior.getD {}).ops.contains name := by
  have absent : ∀ name, prior.all (fun stat => !stat.ops.contains name) =
      !(prior.getD {}).ops.contains name := by
    intro name
    cases prior <;> rfl
  have counted : ∀ (names : List String) (start : Nat), names.foldl (fun bytes name =>
      if prior.all (fun stat => !stat.ops.contains name) then bytes + categoryCharge
      else bytes) start = start + categoryCharge *
        names.countP fun name => !(prior.getD {}).ops.contains name := by
    intro names
    induction names with
    | nil => simp
    | cons name rest ih =>
      intro start
      rw [List.foldl_cons, ih, absent, List.countP_cons, Nat.mul_add]
      split <;> omega
  rw [categoryGrowth, counted, Nat.zero_add]

variable (descriptor : SlotSemantics)

/-- No category is claimed twice by one descriptor. -/
theorem claimedCategories_nodup : (claimedCategories descriptor).Nodup := by
  have names : (operations.map Prod.snd).Nodup := by decide
  have apart : ∀ name ∈ operations.map Prod.snd, directName descriptor.direct ≠ some name := by
    cases descriptor.direct <;> decide
  refine List.nodup_append.mpr ⟨names.sublist (List.filter_sublist.map Prod.snd), ?_, ?_⟩
  · cases directName descriptor.direct <;> simp
  · intro name selected other direct same
    subst same
    have listed := (List.filter_sublist.map Prod.snd).subset selected
    exact apart name listed (Option.mem_toList.mp direct)

/-- A row update that keeps the provenance sets grows by its new categories and
by the call's provenance. -/
theorem rowCharge_claimRow : rowCharge (World.claimRow stat call descriptor) =
      rowCharge stat + categoryCharge * ((claimedCategories descriptor).countP fun name =>
        !stat.ops.contains name) + functionGrowth stat call.function +
        returnGrowth stat call.rv := by
  refine (rowCharge_recordProvenance _ call).trans ?_
  have categories := TreeSet.size_foldl_insert (claimedCategories_nodup descriptor) stat.ops
  simp only [rowCharge, categories, Nat.mul_add]
  change _ + functionGrowth stat call.function + returnGrowth stat call.rv = _
  omega

theorem rowCharge_attributedRow : rowCharge (World.attributedRow stat call) =
      rowCharge stat + functionGrowth stat call.function + returnGrowth stat call.rv :=
  rowCharge_recordProvenance _ call

variable (admitted : ¬ (¬ edge.mechs.contains mechanism ∧ maxEdgeMechanisms ≤ edge.mechs.size))
include admitted

/-- An attributed call grows its row by exactly the predicted provenance. -/
theorem attributedRow_growth :
    rowCharge (World.attributedRow (edge.mechs[mechanism]?.getD {}) call) =
      rowCharge? edge.mechs[mechanism]? + edge.provenanceGrowth mechanism call call.rv := by
  rw [rowCharge_attributedRow, provenanceGrowth_eq call _ admitted, rowCharge_getD]
  omega

/-- A mechanism claim grows its row by exactly the predicted bytes. -/
theorem claimRow_growth :
    rowCharge (World.claimRow (edge.mechs[mechanism]?.getD {}) call descriptor) =
      rowCharge? edge.mechs[mechanism]? + (edge.provenanceGrowth mechanism call call.rv +
        categoryGrowth edge.mechs[mechanism]? descriptor) := by
  rw [rowCharge_claimRow, provenanceGrowth_eq call _ admitted, categoryGrowth_eq, rowCharge_getD]
  omega

end P11Scope.Edge
