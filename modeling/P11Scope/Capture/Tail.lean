import P11Scope.Lib.Bytes
import P11Scope.Capture.Descriptor

/-!
# The object tail and its validator

The 240-byte tail of an emitted record, field by field at its frozen offset, and
the reader's byte-level validator.
-/

namespace P11Scope.Capture

open Lib

/-! ## Codes -/

namespace HandleStatus

def absent : UInt8 := 0
def value : UInt8 := 1
def unreadable : UInt8 := 2
def invalidZero : UInt8 := 3
def invalidSpan : UInt8 := 4
def aliased : UInt8 := 5
def duplicate : UInt8 := 6
def protocolUnavailable : UInt8 := 7
def suppressed : UInt8 := 8
def changed : UInt8 := 9

end HandleStatus

namespace FindFlag

def truncated : UInt8 := 1
def changedCount : UInt8 := 2
def invalidCount : UInt8 := 4
def invalidSpan : UInt8 := 8
def countAlias : UInt8 := 16
def unreadableElement : UInt8 := 32

end FindFlag

def objectCallVersion : UInt16 := 1
def objectCallBytes : UInt16 := 240
def objectTailBytes : Nat := 240

def layoutLp64 : UInt8 := 1
def layoutIlp32 : UInt8 := 2

def LinuxLayout.code : LinuxLayout → UInt8
  | .lp64 => layoutLp64
  | .ilp32 => layoutIlp32

def deriveUnavailable : UInt8 := 0
def deriveEcdh1Cofactor : UInt8 := 4

def attrKindMax : UInt8 := 6
def attrStatusMax : UInt8 := 10
def handleStatusMax : UInt8 := 9
def objectFlagsMask : UInt32 := 0xFF
def findFlagsMask : UInt8 := 0x3F
def attrListFlagsMask : UInt8 := 0x1F
def findHandlesMax : UInt8 := 8

/-! ## The record -/

structure ObjectCallWire where
  version : UInt16 := 0
  bytes : UInt16 := 0
  descriptorIndex : UInt32 := 0
  flags : UInt32 := 0
  layout : UInt8 := 0
  action : UInt8 := 0
  entryDerive : UInt8 := 0
  reserved0 : UInt8 := 0
  inputHandles : Vector UInt64 2 := Vector.replicate 2 0
  resultHandles : Vector UInt64 2 := Vector.replicate 2 0
  findHandles : Vector UInt64 8 := Vector.replicate 8 0
  inputStatus : Vector UInt8 2 := Vector.replicate 2 0
  resultStatus : Vector UInt8 2 := Vector.replicate 2 0
  findStatus : Vector UInt8 8 := Vector.replicate 8 0
  findLen : UInt8 := 0
  findFlags : UInt8 := 0
  findValid : UInt8 := 0
  reserved1 : UInt8 := 0
  requested : Vector ObjectAttributeListWire 2 := Vector.replicate 2 {}
  resultAttributes : ObjectAttributeListWire := {}
  reserved2 : UInt32 := 0
  deriving DecidableEq, Repr

/-- The bytes of every place of a row, in order. -/
def everyPlace {α : Type} {size : Nat} (encode : α → List UInt8) (row : Vector α size) :
    List UInt8 :=
  (List.ofFn fun place : Fin size => encode (getElem row place place.2)).flatten

def AttrCell.toBytes (cell : AttrCell) : List UInt8 :=
  [cell.kind, cell.status] ++ Bytes.little 2 cell.value.toNat

def ObjectAttributeListWire.toBytes (list : ObjectAttributeListWire) : List UInt8 :=
  everyPlace AttrCell.toBytes list.cells ++ ([list.inspected, list.flags] ++
    Bytes.little 2 list.reserved.toNat)

/-- The record's memory on a little-endian target. -/
def ObjectCallWire.toBytes (tail : ObjectCallWire) : List UInt8 :=
  Bytes.little 2 tail.version.toNat ++ (Bytes.little 2 tail.bytes.toNat ++
  (Bytes.little 4 tail.descriptorIndex.toNat ++ (Bytes.little 4 tail.flags.toNat ++
  ([tail.layout, tail.action, tail.entryDerive, tail.reserved0] ++
  (everyPlace (fun word => Bytes.little 8 word.toNat) tail.inputHandles ++
  (everyPlace (fun word => Bytes.little 8 word.toNat) tail.resultHandles ++
  (everyPlace (fun word => Bytes.little 8 word.toNat) tail.findHandles ++
  (everyPlace (fun status => [status]) tail.inputStatus ++
  (everyPlace (fun status => [status]) tail.resultStatus ++
  (everyPlace (fun status => [status]) tail.findStatus ++
  ([tail.findLen, tail.findFlags, tail.findValid, tail.reserved1] ++
  (everyPlace ObjectAttributeListWire.toBytes tail.requested ++
  (tail.resultAttributes.toBytes ++ Bytes.little 4 tail.reserved2.toNat)))))))))))))

/-! ## Field readers -/

variable (tail : List UInt8)

def tailU8 (offset : Nat) : UInt8 := tail.getD offset 0

def tailU16 (offset : Nat) : UInt16 :=
  UInt16.ofNat (Bytes.number (Bytes.slice tail offset 2))

def tailU32 (offset : Nat) : UInt32 :=
  UInt32.ofNat (Bytes.number (Bytes.slice tail offset 4))

def tailU64 (offset : Nat) : UInt64 :=
  UInt64.ofNat (Bytes.number (Bytes.slice tail offset 8))

/-! ## The validator -/

/-- A value status requires a nonzero word, every other status a zero word. -/
def validHandleWord (status : UInt8) (word : UInt64) (layout : UInt8) : Bool :=
  if layout = layoutIlp32 ∧ word > 0xFFFFFFFF then false
  else if status = 1 then word ≠ 0
  else word = 0

def validAttributeList (list : List UInt8) : Bool :=
  let inspected := tailU8 list 32
  let flags := tailU8 list 33
  if inspected > 8 ∨ tailU8 list 34 ≠ 0 ∨ tailU8 list 35 ≠ 0 ∨
      flags &&& ~~~attrListFlagsMask ≠ 0 then false
  else if flags &&& AttrListFlag.uninspected ≠ 0 then
    inspected = 0 && flags = AttrListFlag.uninspected && (list.take 32).all (· = 0)
  else if inspected > 0 ∧ flags &&& 1 = 0 then false
  else if flags &&& 2 ≠ 0 ∧ inspected ≠ 8 then false
  else (List.finRange 8).all fun place =>
    let kind := tailU8 list (4 * place)
    let status := tailU8 list (4 * place + 1)
    let value := tailU16 list (4 * place + 2)
    if kind > attrKindMax ∨ status > attrStatusMax then false
    else if status ≠ 1 ∧ value ≠ 0 then false
    else !(place.val ≥ inspected.toNat && (kind ≠ 0 || status ≠ 0 || value ≠ 0))

def validFindSection (action layout : UInt8) : Bool :=
  let findLen := tailU8 tail 124
  let findFlags := tailU8 tail 125
  let findValid := tailU8 tail 126
  if tailU8 tail 127 ≠ 0 then false
  else if findLen > findHandlesMax ∨ findFlags &&& ~~~findFlagsMask ≠ 0 ∨ findValid > 1 then false
  else if action ≠ ActionCode.find then
    findLen = 0 && findFlags = 0 && findValid = 0 && (List.finRange 8).all fun place =>
      tailU8 tail (116 + place) = 0 && tailU64 tail (48 + 8 * place) = 0
  else if findValid = 0 ∧ findLen ≠ 0 then false
  else if findFlags &&& 1 ≠ 0 ∧ findLen ≠ findHandlesMax then false
  else (List.finRange 8).all fun place =>
    let status := tailU8 tail (116 + place)
    if status > handleStatusMax then false
    else if (if place.val < findLen.toNat then status = 0 else status ≠ 0) then false
    else validHandleWord status (tailU64 tail (48 + 8 * place)) layout

/-- One handle position: an absent argument stays absent, a present one carries a
status unless `optional`. -/
def validHandlePosition (arg status : UInt8) (word : UInt64) (layout : UInt8)
    (optional : Bool) : Bool :=
  if status > handleStatusMax then false
  else if arg = argNone ∧ status ≠ 0 then false
  else if arg ≠ argNone ∧ !optional ∧ status = 0 then false
  else validHandleWord status word layout

/-- One requested list: absent pairs stay zero, a half-present pair is corrupt. -/
def validRequestedList (ptrArg countArg : UInt8) (list : List UInt8) : Bool :=
  if (ptrArg ≠ argNone) ≠ (countArg ≠ argNone) then false
  else if ptrArg ≠ argNone ∧ countArg ≠ argNone then validAttributeList list
  else list.all (· = 0)

theorem lt_two (place : Fin 2) : place.val < 2 := place.2

def validateObjectTail (descriptor : ObjectDescriptorWire) : Bool :=
  let index := tailU32 tail 4
  let layout := tailU8 tail 12
  let action := tailU8 tail 13
  let entryDerive := tailU8 tail 14
  if tail.length ≠ objectTailBytes then false
  else if tailU16 tail 0 ≠ objectCallVersion ∨ tailU16 tail 2 ≠ objectCallBytes then false
  else if index = 0 ∨ index ≥ maxDescriptors then false
  else if descriptor.function.toNat ≠ index.toNat - 1 then false
  else if descriptor.action = ActionCode.none ∨ descriptor.action > ActionCode.max ∨
      descriptor.guard = GuardCode.none ∨ descriptor.guard > GuardCode.scalarDerive then false
  else if action ≠ descriptor.action then false
  else if tailU32 tail 8 &&& ~~~objectFlagsMask ≠ 0 then false
  else if layout ≠ layoutLp64 ∧ layout ≠ layoutIlp32 then false
  else if action > ActionCode.max then false
  else if entryDerive > deriveEcdh1Cofactor then false
  else if action ≠ ActionCode.derive ∧ entryDerive ≠ deriveUnavailable then false
  else if tailU8 tail 15 ≠ 0 then false
  else
    ((List.finRange 2).all fun place =>
      validHandlePosition (getElem descriptor.inputArgs place (lt_two place))
        (tailU8 tail (112 + place)) (tailU64 tail (16 + 8 * place)) layout
        (action = ActionCode.importState)) &&
    ((List.finRange 2).all fun place =>
      validHandlePosition (getElem descriptor.resultArgs place (lt_two place))
        (tailU8 tail (114 + place)) (tailU64 tail (32 + 8 * place)) layout false) &&
    validFindSection tail action layout &&
    validRequestedList (getElem descriptor.templateArgs 0 zero_lt_four)
      (getElem descriptor.templateArgs 1 one_lt_four) (Bytes.slice tail 128 36) &&
    validRequestedList (getElem descriptor.templateArgs 2 two_lt_four)
      (getElem descriptor.templateArgs 3 three_lt_four) (Bytes.slice tail 164 36) &&
    (if action ≠ ActionCode.get then (Bytes.slice tail 200 36).all (· = 0)
      else validAttributeList (Bytes.slice tail 200 36)) &&
    tailU32 tail 236 = 0

/-! ## Fields of an encoded record -/

theorem ofNat_number_little_16 (word : UInt16) :
    UInt16.ofNat (Bytes.number (Bytes.little 2 word.toNat)) = word := by
  rw [Bytes.number_little_of_lt 2 word.toNat_lt, UInt16.ofNat_toNat]

theorem ofNat_number_little_32 (word : UInt32) :
    UInt32.ofNat (Bytes.number (Bytes.little 4 word.toNat)) = word := by
  rw [Bytes.number_little_of_lt 4 word.toNat_lt, UInt32.ofNat_toNat]

theorem ofNat_number_little_64 (word : UInt64) :
    UInt64.ofNat (Bytes.number (Bytes.little 8 word.toNat)) = word := by
  rw [Bytes.number_little_of_lt 8 word.toNat_lt, UInt64.ofNat_toNat]

section Lists

variable (list : ObjectAttributeListWire) (place : Fin 8)

/-- The readers at a list's offsets return its fields. -/
theorem listKind : tailU8 list.toBytes (4 * place) = (getElem list.cells place place.2).kind := by
  fin_cases place <;> rfl

theorem listStatus :
    tailU8 list.toBytes (4 * place + 1) = (getElem list.cells place place.2).status := by
  fin_cases place <;> rfl

theorem listValue :
    tailU16 list.toBytes (4 * place + 2) = (getElem list.cells place place.2).value := by
  have read : Bytes.slice list.toBytes (4 * place + 2) 2 =
      Bytes.little 2 list.cells[place].value.toNat := by
    fin_cases place <;> rfl
  rw [tailU16, read, ofNat_number_little_16]

theorem listReserved : (tailU8 list.toBytes 34 = 0 ∧ tailU8 list.toBytes 35 = 0) ↔
    list.reserved = 0 := by
  have zeros := Bytes.little_zero_iff 2 list.reserved.toNat_lt
  rw [← UInt16.toNat_inj, UInt16.toNat_zero, ← zeros]
  have bytes : Bytes.little 2 list.reserved.toNat =
      [tailU8 list.toBytes 34, tailU8 list.toBytes 35] := rfl
  simp [bytes]

theorem AttrCell.toBytes_zero (cell : AttrCell) : cell.toBytes.all (· = 0) ↔ cell = {} := by
  obtain ⟨kind, status, value⟩ := cell
  have zeros := Bytes.little_zero_iff 2 value.toNat_lt
  simp only [AttrCell.toBytes, List.all_append, Bool.and_eq_true, zeros, AttrCell.mk.injEq,
    ← UInt16.toNat_inj, UInt16.toNat_zero]
  simp [and_assoc]

theorem everyPlace_zero {α : Type} {size : Nat} (encode : α → List UInt8) (row : Vector α size) :
    (everyPlace encode row).all (· = 0) ↔
      ∀ place : Fin size, (encode (getElem row place place.2)).all (· = 0) := by
  simp only [everyPlace, List.all_flatten, List.all_eq_true, List.mem_ofFn]
  constructor
  · exact fun every place => every _ ⟨place, rfl⟩
  · rintro every bytes ⟨place, rfl⟩
    exact every place

theorem cells_zero : (list.toBytes.take 32).all (· = 0) ↔ list.cells = Vector.replicate 8 {} := by
  have cells : list.toBytes.take 32 = everyPlace AttrCell.toBytes list.cells := rfl
  rw [cells, everyPlace_zero]
  simp only [AttrCell.toBytes_zero]
  constructor
  · intro every
    ext1 place inside
    rw [Vector.getElem_replicate]
    exact every ⟨place, inside⟩
  · intro zero place
    simp [zero]

theorem list_zero : list.toBytes.all (· = 0) ↔ list = {} := by
  have split : list.toBytes = list.toBytes.take 32 ++ [list.inspected, list.flags,
      tailU8 list.toBytes 34, tailU8 list.toBytes 35] := rfl
  rw [split, List.all_append, Bool.and_eq_true, cells_zero]
  have reserved := listReserved list
  obtain ⟨cells, inspected, flags, spare⟩ := list
  simp only [ObjectAttributeListWire.mk.injEq]
  rw [← reserved]
  simp

end Lists

end P11Scope.Capture
