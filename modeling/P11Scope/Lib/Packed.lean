import Mathlib

/-!
# Fields packed in a word

Or-ing a shifted field over a word it does not reach is addition, so a packed
word reads as one sum and its fields come back by division.
-/

namespace P11Scope.Lib.Packed

/-- The word holds `value` in its low `width` bits and nothing above. -/
structure Holds (word : UInt64) (value width : Nat) : Prop where
  value_eq : word.toNat = value
  fits : value < 2 ^ width

theorem Holds.ofUInt8 (field : UInt8) : Holds field.toUInt64 field.toNat 8 :=
  ⟨UInt8.toNat_toUInt64 field, field.toNat_lt⟩

theorem Holds.ofUInt16 (field : UInt16) : Holds field.toUInt64 field.toNat 16 :=
  ⟨UInt16.toNat_toUInt64 field, field.toNat_lt⟩

theorem Holds.ofUInt32 (field : UInt32) : Holds field.toUInt64 field.toNat 32 :=
  ⟨UInt32.toNat_toUInt64 field, field.toNat_lt⟩

theorem Holds.ofBool (field : Bool) : Holds field.toUInt64 field.toNat 1 := by
  cases field
  · exact ⟨rfl, by decide⟩
  · exact ⟨rfl, by decide⟩

/-- A field shifted past the word's own bits is added to it. -/
theorem Holds.or_shiftLeft {word field : UInt64} {value width part more : Nat}
    (low : Holds word value width) (high : Holds field part more) (shift : UInt64) (place : Nat)
    (apart : shift.toNat = place ∧ width ≤ place ∧ place < 64 ∧ place + more ≤ 64) :
    Holds (word ||| field <<< shift) (value + part * 2 ^ place) (place + more) := by
  obtain ⟨same, past, inside, room⟩ := apart
  have below : value < 2 ^ place := low.fits.trans_le (Nat.pow_le_pow_right (by decide) past)
  have above : part * 2 ^ place + 2 ^ place ≤ 2 ^ (place + more) := by
    rw [← Nat.succ_mul, Nat.add_comm place, Nat.pow_add]
    exact Nat.mul_le_mul_right _ high.fits
  have whole : 2 ^ (place + more) ≤ 2 ^ 64 := Nat.pow_le_pow_right (by decide) room
  refine ⟨?_, by omega⟩
  rw [UInt64.toNat_or, UInt64.toNat_shiftLeft, same, Nat.mod_eq_of_lt inside, low.value_eq,
    high.value_eq, Nat.shiftLeft_eq, Nat.mod_eq_of_lt (by omega), Nat.or_comm,
    ← Nat.shiftLeft_eq, ← Nat.shiftLeft_add_eq_or_of_lt below, Nat.add_comm]

/-- A mask of low bits takes a remainder. -/
theorem toNat_and_mask (value mask : UInt64) (width : Nat) (ones : mask.toNat = 2 ^ width - 1) :
    (value &&& mask).toNat = value.toNat % 2 ^ width := by
  rw [UInt64.toNat_and, ones, Nat.and_two_pow_sub_one_eq_mod]

/-- One bit is tested by its place. -/
theorem and_bit_eq_zero_iff (value bit : UInt64) (place : Nat) (one : bit.toNat = 2 ^ place) :
    value &&& bit = 0 ↔ value.toNat / 2 ^ place % 2 = 0 := by
  rw [← UInt64.toNat_inj, UInt64.toNat_and, one, Nat.and_two_pow, UInt64.toNat_zero,
    Nat.testBit_eq_decide_div_mod_eq]
  rcases Nat.mod_two_eq_zero_or_one (value.toNat / 2 ^ place) with even | odd
  · simp [even]
  · simp [odd]

theorem decide_and_bit (value bit : UInt64) (place : Nat) (one : bit.toNat = 2 ^ place)
    (flag : Bool) (same : value.toNat / 2 ^ place % 2 = flag.toNat) :
    decide (value &&& bit ≠ 0) = flag := by
  have tested := and_bit_eq_zero_iff value bit place one
  rw [same] at tested
  cases flag with
  | false => exact decide_eq_false (not_not_intro (tested.mpr rfl))
  | true => exact decide_eq_true fun clear => absurd (tested.mp clear) (by decide)

/-- What a mask's complement misses lies under the mask. -/
theorem toNat_le_of_and_not {value mask : UInt32} (under : value &&& ~~~mask = 0) :
    value.toNat ≤ mask.toNat := by
  have split : value = value &&& mask := by
    apply UInt32.toBitVec_inj.mp
    apply BitVec.eq_of_getLsbD_eq
    intro i inside
    have clear := congrArg (fun word => word.toBitVec.getLsbD i) under
    simp [inside] at clear ⊢
    exact clear
  rw [split, UInt32.toNat_and]
  exact Nat.and_le_right

end P11Scope.Lib.Packed
