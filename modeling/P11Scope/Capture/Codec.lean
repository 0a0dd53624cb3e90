import P11Scope.Lib.Packed
import P11Scope.Capture.Request

/-!
# The packed boundary is lossless

Every scalar that crosses a packed boundary comes back: alias verdicts, skip
indices with a layout, value cells, kinds with a layout, request tags and the
valid facts of a request cell.
-/

namespace P11Scope.Capture

open Lib Lib.Packed

/-! ## Alias scans -/

theorem packAliasScan_holds (aliased : Bool) (flags : UInt8) :
    Holds (packAliasScan aliased flags) (aliased.toNat + flags.toNat * 2 ^ 8) 16 :=
  (Holds.ofBool aliased).or_shiftLeft (Holds.ofUInt8 flags) 8 8 (by decide)

@[simp]
theorem unpackAliasScan_packAliasScan (aliased : Bool) (flags : UInt8) :
    unpackAliasScan (packAliasScan aliased flags) = (aliased, flags) := by
  have whole := (packAliasScan_holds aliased flags).value_eq
  have bound := flags.toNat_lt
  have small := aliased.toNat_lt
  refine Prod.ext ?_ (UInt8.toNat_inj.mp ?_)
  · exact decide_and_bit _ 1 0 rfl aliased (by rw [whole]; omega)
  · simp [unpackAliasScan, whole]
    omega

theorem decodeAliasSkipLayout_encodeAliasSkipLayout (skip : UInt64) (layout : LinuxLayout) :
    decodeAliasSkipLayout (encodeAliasSkipLayout skip layout) =
      (skip &&& aliasSkipValueMask, layout) := by
  have masked := toNat_and_mask skip aliasSkipValueMask 63 rfl
  cases layout with
  | lp64 =>
    have whole : encodeAliasSkipLayout skip .lp64 = skip &&& aliasSkipValueMask :=
      UInt64.or_zero
    have clear : (skip &&& aliasSkipValueMask) &&& aliasSkipTagBit = 0 := by
      rw [and_bit_eq_zero_iff _ _ 63 rfl]
      omega
    rw [decodeAliasSkipLayout, whole, if_pos clear, UInt64.and_assoc, UInt64.and_self]
  | ilp32 =>
    have low : Holds (skip &&& aliasSkipValueMask) (skip.toNat % 2 ^ 63) 63 :=
      ⟨masked, Nat.mod_lt _ (by decide)⟩
    have whole := (low.or_shiftLeft (Holds.ofBool true) 63 63 (by decide)).value_eq
    change (encodeAliasSkipLayout skip .ilp32).toNat = _ at whole
    have tagged : encodeAliasSkipLayout skip .ilp32 &&& aliasSkipTagBit ≠ 0 := by
      rw [ne_eq, and_bit_eq_zero_iff _ _ 63 rfl, whole, Bool.toNat_true]
      omega
    rw [decodeAliasSkipLayout, if_neg tagged]
    congr 1
    apply UInt64.toNat_inj.mp
    rw [toNat_and_mask _ _ 63 rfl, whole]
    omega

/-! ## Value cells -/

theorem packStableCell_holds (cell : StableCell) :
    Holds (packStableCell cell)
      (cell.status.toNat + cell.value.toNat * 2 ^ 8 + cell.writeValue.toNat * 2 ^ 24 +
        cell.contributed.toNat * 2 ^ 32) 64 := by
  have status := (Holds.ofUInt8 cell.status).or_shiftLeft (Holds.ofUInt16 cell.value) 8 8
    (by decide)
  have flagged := status.or_shiftLeft (Holds.ofBool cell.writeValue) 24 24 (by decide)
  exact flagged.or_shiftLeft (Holds.ofUInt32 cell.contributed) 32 32 (by decide)

@[simp]
theorem unpackStableCell_packStableCell (cell : StableCell) :
    unpackStableCell (packStableCell cell) = cell := by
  have whole := (packStableCell_holds cell).value_eq
  obtain ⟨status, value, writeValue, contributed⟩ := cell
  have statusBound := status.toNat_lt
  have valueBound := value.toNat_lt
  have writeBound := writeValue.toNat_lt
  have contributedBound := contributed.toNat_lt
  unfold unpackStableCell
  congr 1
  · apply UInt8.toNat_inj.mp
    simp [whole]
    omega
  · apply UInt16.toNat_inj.mp
    simp [whole]
    omega
  · exact decide_and_bit _ 1 0 rfl writeValue (by simp [whole]; omega)
  · apply UInt32.toNat_inj.mp
    simp [whole]
    omega

@[simp]
theorem decodeStableKindLayout_encodeStableKindLayout (kind : SafeAttributeKind)
    (layout : LinuxLayout) :
    decodeStableKindLayout (encodeStableKindLayout kind layout) = some (kind, layout) := by
  cases kind <;> cases layout <;> decide

/-! ## Request cells -/

theorem decodeRequestCellTag_encodeRequestCellTag {index tag : UInt64} {layout : LinuxLayout}
    {peer : Bool} (encoded : encodeRequestCellTag index layout peer = some tag) :
    decodeRequestCellTag tag = some (index, layout, peer) := by
  unfold encodeRequestCellTag at encoded
  split at encoded
  case isTrue => cases encoded
  rename_i bounded
  have small : index.toNat < 8 := by
    simpa [maxAttributeSlots, UInt64.lt_iff_toNat_lt] using bounded
  obtain ⟨place, same⟩ : ∃ place, index.toNat = place := ⟨_, rfl⟩
  rw [same] at small
  have named : index = UInt64.ofNat place := by rw [← same, UInt64.ofNat_toNat]
  subst named
  cases encoded
  interval_cases place <;> cases layout <;> cases peer <;> decide

/-- Valid facts fit their fields. -/
theorem packRequestCell_holds (facts : RequestCellFacts) (valid : requestCellFactsValid facts) :
    ∃ packed, packRequestCell facts = some packed ∧
      Holds packed (facts.kind.toNat + facts.status.toNat * 2 ^ 8 + facts.value.toNat * 2 ^ 16 +
        facts.listFlags.toNat * 2 ^ 32 + facts.objectFlags.toNat * 2 ^ 40) 48 := by
  have object : Holds facts.objectFlags.toUInt64 facts.objectFlags.toNat 8 := by
    simp only [requestCellFactsValid, Bool.and_eq_true, decide_eq_true_eq] at valid
    have under := toNat_le_of_and_not valid.2
    exact ⟨UInt32.toNat_toUInt64 _, under.trans_lt (by decide)⟩
  have status := (Holds.ofUInt8 facts.kind).or_shiftLeft (Holds.ofUInt8 facts.status) 8 8
    (by decide)
  have value := status.or_shiftLeft (Holds.ofUInt16 facts.value) 16 16 (by decide)
  have listed := value.or_shiftLeft (Holds.ofUInt8 facts.listFlags) 32 32 (by decide)
  have whole := listed.or_shiftLeft object 40 40 (by decide)
  refine ⟨_, ?_, whole⟩
  simp [packRequestCell, valid]

/-- Valid facts survive the packed boundary. -/
theorem unpackRequestCell_packRequestCell {facts : RequestCellFacts}
    (valid : requestCellFactsValid facts) :
    unpackRequestCell ((packRequestCell facts).getD requestCellPoison) = some facts := by
  obtain ⟨packed, same, holds⟩ := packRequestCell_holds facts valid
  have whole := holds.value_eq
  have room := holds.fits
  rw [same, Option.getD_some]
  have upper : packed >>> 48 = 0 := by
    apply UInt64.toNat_inj.mp
    simp [whole]
    omega
  have kindBound := facts.kind.toNat_lt
  have statusBound := facts.status.toNat_lt
  have valueBound := facts.value.toNat_lt
  have listBound := facts.listFlags.toNat_lt
  have kind : packed.toUInt8 = facts.kind := by
    apply UInt8.toNat_inj.mp
    simp [whole]
    omega
  have status : (packed >>> 8).toUInt8 = facts.status := by
    apply UInt8.toNat_inj.mp
    simp [whole]
    omega
  have value : (packed >>> 16).toUInt16 = facts.value := by
    apply UInt16.toNat_inj.mp
    simp [whole]
    omega
  have listed : (packed >>> 32).toUInt8 = facts.listFlags := by
    apply UInt8.toNat_inj.mp
    simp [whole]
    omega
  have object : (packed >>> 40).toUInt8.toUInt32 = facts.objectFlags := by
    apply UInt32.toNat_inj.mp
    simp [whole]
    omega
  simp only [unpackRequestCell, upper, kind, status, value, listed, object]
  simp [valid]

end P11Scope.Capture
