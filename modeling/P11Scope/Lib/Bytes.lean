import Mathlib

/-!
# Little-endian bytes

Fixed-width numbers as bytes, least significant first, and the slices of a byte
string that a reader takes them from.
-/

namespace P11Scope.Lib.Bytes

/-- The low bytes of a number, least significant first. -/
def little : Nat → Nat → List UInt8
  | 0, _ => []
  | width + 1, value => UInt8.ofNat value :: little width (value / 256)

/-- The number that bytes spell, least significant first. -/
def number : List UInt8 → Nat
  | [] => 0
  | byte :: rest => byte.toNat + 256 * number rest

def slice (bytes : List UInt8) (start size : Nat) : List UInt8 := (bytes.drop start).take size

@[simp]
theorem little_length (width value : Nat) : (little width value).length = width := by
  induction width generalizing value with
  | zero => rfl
  | succ width ih => exact congrArg Nat.succ (ih (value / 256))

/-- Reading back keeps what fits the width. -/
theorem number_little (width value : Nat) : number (little width value) = value % 256 ^ width := by
  induction width generalizing value with
  | zero => exact (Nat.mod_one value).symm
  | succ width ih =>
    have low : (UInt8.ofNat value).toNat = value % 256 := UInt8.toNat_ofNat'
    rw [little, number, ih, low, Nat.pow_succ', Nat.mod_mul]

theorem number_little_of_lt (width : Nat) {value : Nat} (fits : value < 256 ^ width) :
    number (little width value) = value := by
  rw [number_little, Nat.mod_eq_of_lt fits]

/-- Only zero is spelled by zero bytes. -/
theorem little_zero_iff (width : Nat) {value : Nat} (fits : value < 256 ^ width) :
    (little width value).all (· = 0) ↔ value = 0 := by
  induction width generalizing value with
  | zero =>
    have zero : value = 0 := Nat.lt_one_iff.mp fits
    simp [little, zero]
  | succ width ih =>
    have rest := ih (Nat.div_lt_of_lt_mul (Nat.pow_succ' ▸ fits))
    have low : UInt8.ofNat value = 0 ↔ value % 256 = 0 := by
      rw [← UInt8.toNat_inj]
      rfl
    simp only [little, List.all_cons, Bool.and_eq_true, decide_eq_true_eq, rest, low]
    omega

end P11Scope.Lib.Bytes
