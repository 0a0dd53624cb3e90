import P11Scope.Lib.Flags
import P11Scope.Capture.Policy

/-!
# Checked spans and reads

Address arithmetic refuses instead of wrapping, and every access to the target
is a query: one target word, or exactly the stated number of bytes.
-/

namespace P11Scope.Capture

open Lib

/-! ## Checked arithmetic -/

def checkedAdd (base offset : UInt64) : Option UInt64 :=
  if base.toNat + offset.toNat < 2 ^ 64 then some (base + offset) else none

def saturatingAdd (base offset : UInt64) : UInt64 :=
  if base.toNat + offset.toNat < 2 ^ 64 then base + offset else 0xFFFFFFFFFFFFFFFF

def saturatingSub (value offset : UInt64) : UInt64 :=
  if offset ≤ value then value - offset else 0

/-- Checked bytes of a table of `count` three-word attribute slots. -/
def attributeTableSpan (count : UInt64) (layout : LinuxLayout) : Option UInt64 :=
  match layout with
  | .lp64 =>
    if count ≤ 0xFFFFFFFFFFFFFFFF / 24 then some ((count <<< 4) + (count <<< 3)) else none
  | .ilp32 =>
    if count ≤ 0xFFFFFFFFFFFFFFFF / 12 then some ((count <<< 3) + (count <<< 2)) else none

/-- Validate a complete span; the end is clamped at the top of the address
space. -/
def validateTargetSpan (base len : UInt64) (layout : LinuxLayout) : Option UInt64 :=
  if len = 0 then some base
  else if base = 0 then none
  else
    match layout with
    | .lp64 => (checkedAdd base (len - 1)).map fun _ => saturatingAdd base len
    | .ilp32 =>
      (checkedAdd base len).bind fun spanEnd =>
        if base > 0xFFFFFFFF ∨ spanEnd > 0x100000000 then none else some spanEnd

def spansOverlap (aBase aLen bBase bLen : UInt64) : Bool :=
  if aLen = 0 ∨ bLen = 0 then false
  else aBase < saturatingAdd bBase bLen && bBase < saturatingAdd aBase aLen

/-- The addresses of a header's selector, pointer and length words. -/
structure HeaderAddresses where
  selector : UInt64
  pointer : UInt64
  length : UInt64
  deriving DecidableEq, Repr

def attributeHeaderAddresses (base index : UInt64) (layout : LinuxLayout) :
    Option HeaderAddresses := do
  let w := layout.wordBytes
  let slot ← checkedAdd base (← attributeTableSpan index layout)
  let _ ← validateTargetSpan slot (3 * w) layout
  let pointer ← checkedAdd slot w
  let length ← checkedAdd slot (2 * w)
  pure { selector := slot, pointer := pointer, length := length }

/-! ## Reads -/

inductive ReadQuery where
  | word (address : UInt64) (layout : LinuxLayout)
  | bytes (address : UInt64) (length : Nat)
  deriving DecidableEq, Repr

/-- A failed read is distinct from every value. -/
def ReadAnswer : ReadQuery → Type
  | .word _ _ => Option UInt64
  | .bytes _ length => Option (Vector UInt8 length)

abbrev Reading := Asking ReadQuery ReadAnswer

def readWord (address : UInt64) (layout : LinuxLayout) : Reading (Option UInt64) :=
  Asking.query (ReadQuery.word address layout)

def readBytes (address : UInt64) (length : Nat) : Reading (Option (Vector UInt8 length)) :=
  Asking.query (ReadQuery.bytes address length)

/-- Read and classify one established value span. -/
def readClassifiedValue (kind : SafeAttributeKind) (ptr len : UInt64) (layout : LinuxLayout) :
    Reading (Except UInt8 UInt16) :=
  match kind with
  | .token => do
      match ← readBytes ptr 1 with
      | none => pure (.error AttrStatus.unreadable)
      | some bytes =>
        match classifyAttributeScalar kind bytes[0].toUInt64 with
        | some value => pure (.ok value)
        | none => pure (.error AttrStatus.unsupported)
  | .ecParams => do
      if len ≠ 7 ∧ len ≠ 10 then pure (.error AttrStatus.invalidLength)
      else
        match ← readBytes ptr len.toNat with
        | none => pure (.error AttrStatus.unreadable)
        | some bytes =>
          match classifyEcParams bytes.toList with
          | some curve => pure (.ok (safeCurveCode curve))
          | none => pure (.error AttrStatus.unsupported)
  | _ => do
      match ← readWord ptr layout with
      | none => pure (.error AttrStatus.unreadable)
      | some word =>
        if layout = .ilp32 ∧ word > 0xFFFFFFFF then pure (.error AttrStatus.unsupported)
        else
          match classifyAttributeScalar kind word with
          | some value => pure (.ok value)
          | none => pure (.error AttrStatus.unsupported)

/-! ## Attribute lists -/

/-- One classified cell, in memory and on the wire. -/
structure AttrCell where
  kind : UInt8 := 0
  status : UInt8 := 0
  value : UInt16 := 0
  deriving DecidableEq, Repr

structure AttributeListOutcome where
  cells : Vector AttrCell 8 := Vector.replicate 8 {}
  inspected : UInt8 := 0
  flags : UInt8 := 0
  objectFlags : UInt32 := 0
  deriving DecidableEq, Repr

structure ObjectAttributeListWire where
  cells : Vector AttrCell 8 := Vector.replicate 8 {}
  inspected : UInt8 := 0
  flags : UInt8 := 0
  reserved : UInt16 := 0
  deriving DecidableEq, Repr

def AttributeListOutcome.toWire (outcome : AttributeListOutcome) : ObjectAttributeListWire where
  cells := outcome.cells
  inspected := outcome.inspected
  flags := outcome.flags
  reserved := 0

/-- Eight places, of which the first are listed and the rest hold a filler. -/
def padWith {α : Type} (filler : α) (items : List α) : Vector α 8 :=
  Vector.ofFn fun place => (items[place.val]?).getD filler

theorem padWith_concat {α : Type} (filler : α) (items : List α) (item : α) :
    padWith filler (items ++ [item]) = (padWith filler items).setIfInBounds items.length item := by
  ext1 place inside
  simp only [padWith, Vector.getElem_ofFn, Vector.getElem_setIfInBounds]
  split
  case isTrue same => simp [same]
  case isFalse other =>
    simp only [List.getElem?_append]
    grind

/-- Eight cells, of which the first are listed and the rest are zero. -/
def padCells (cells : List AttrCell) : Vector AttrCell 8 := padWith {} cells

/-- Merge flag contributions. -/
def mergeFlags (flags : List UInt8) : UInt8 := Flags.merge 0 flags

def mergeObjectFlags (flags : List UInt32) : UInt32 := Flags.merge 0 flags

/-- Spans without a base or a length never matter to an alias check. -/
theorem alias_guard_iff (ptr len otherPtr otherLen : UInt64) (layout : LinuxLayout) :
    ((otherPtr ||| otherLen) ≠ 0 ∧ (validateTargetSpan otherPtr otherLen layout).isSome ∧
        spansOverlap ptr len otherPtr otherLen) ↔
      (otherPtr ≠ 0 ∧ otherLen ≠ 0 ∧ (validateTargetSpan otherPtr otherLen layout).isSome ∧
        spansOverlap ptr len otherPtr otherLen) := by
  constructor
  · rintro ⟨_, valid, overlap⟩
    have length : otherLen ≠ 0 := by
      intro zero
      subst zero
      simp [spansOverlap] at overlap
    refine ⟨?_, length, valid, overlap⟩
    intro zero
    subst zero
    simp [validateTargetSpan, length] at valid
  · rintro ⟨pointer, length, valid, overlap⟩
    refine ⟨?_, valid, overlap⟩
    intro zero
    rw [UInt64.or_eq_zero_iff] at zero
    exact pointer zero.1

end P11Scope.Capture
