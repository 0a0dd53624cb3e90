import P11Scope.Capture.Tail

/-!
# What the validator accepts

The byte-level validator accepts the encoding of a record exactly when its
fields satisfy the relations listed here.
-/

namespace P11Scope.Capture

open Lib

/-! ## Lists -/

/-- A guarded refusal leaves its negation and the rest. -/
theorem refuse_eq_true {condition : Prop} [Decidable condition] {rest : Bool} :
    (if condition then false else rest) = true ↔ ¬ condition ∧ rest = true := by
  by_cases holds : condition
  · simp [holds]
  · simp [holds]

theorem flags_inspected (flags : UInt8) :
    (flags &&& ~~~attrListFlagsMask = 0 ∧ flags &&& AttrListFlag.uninspected = 0) ↔ flags < 16 := by
  have every : ∀ word : UInt8,
      (word &&& ~~~0x1F = 0 ∧ word &&& 16 = 0) ↔ word < 16 := by decide +kernel
  exact every flags

/-- One cell of an inspected list. -/
structure InspectedCell (inspected : UInt8) (place : Fin 8) (cell : AttrCell) : Prop where
  kind : cell.kind ≤ attrKindMax
  status : cell.status ≤ attrStatusMax
  value : cell.status = 1 ∨ cell.value = 0
  free : inspected.toNat ≤ place.val → cell = {}

/-- A list whose inspection ran. -/
structure InspectedList (list : ObjectAttributeListWire) : Prop where
  inspected : list.inspected ≤ 8
  reserved : list.reserved = 0
  flags : list.flags < 16
  present : list.inspected > 0 → list.flags &&& 1 ≠ 0
  truncated : list.flags &&& 2 ≠ 0 → list.inspected = 8
  cells : ∀ place : Fin 8, InspectedCell list.inspected place list.cells[place]

/-- A list that was never inspected. -/
def uninspectedList : ObjectAttributeListWire := { flags := AttrListFlag.uninspected }

theorem inspectedCell_iff (inspected : UInt8) (place : Fin 8) (cell : AttrCell) :
    (if cell.kind > attrKindMax ∨ cell.status > attrStatusMax then false
      else if cell.status ≠ 1 ∧ cell.value ≠ 0 then false
      else !(place.val ≥ inspected.toNat &&
        (cell.kind ≠ 0 || cell.status ≠ 0 || cell.value ≠ 0))) = true ↔
      InspectedCell inspected place cell := by
  have free : (!(place.val ≥ inspected.toNat &&
      (cell.kind ≠ 0 || cell.status ≠ 0 || cell.value ≠ 0))) = true ↔
      (inspected.toNat ≤ place.val → cell = {}) := by
    obtain ⟨kind, status, value⟩ := cell
    by_cases past : inspected.toNat ≤ place.val <;> simp [past, and_assoc]
  rw [refuse_eq_true, refuse_eq_true, free, not_or, not_and_or, not_not, not_not, gt_iff_lt,
    gt_iff_lt, UInt8.not_lt, UInt8.not_lt]
  constructor
  · rintro ⟨⟨kind, status⟩, value, free⟩
    exact ⟨kind, status, value, free⟩
  · rintro ⟨kind, status, value, free⟩
    exact ⟨⟨kind, status⟩, value, free⟩

/-- The validator accepts the two honest shapes of a list. -/
theorem validAttributeList_iff (list : ObjectAttributeListWire) :
    validAttributeList list.toBytes = true ↔ list = uninspectedList ∨ InspectedList list := by
  have inspected : tailU8 list.toBytes 32 = list.inspected := rfl
  have flags : tailU8 list.toBytes 33 = list.flags := rfl
  have reserved := listReserved list
  have cells := cells_zero list
  have bits := flags_inspected list.flags
  unfold validAttributeList
  simp only [inspected, flags, listKind, listStatus, listValue, refuse_eq_true, not_or,
    not_not, gt_iff_lt, UInt8.not_lt]
  constructor
  · rintro ⟨⟨small, low, high, masked⟩, accepted⟩
    have spare := reserved.mp ⟨low, high⟩
    split at accepted
    case isTrue =>
      simp only [Bool.and_eq_true, decide_eq_true_eq] at accepted
      obtain ⟨⟨none, exact⟩, zero⟩ := accepted
      left
      obtain ⟨listed, count, word, extra⟩ := list
      simp only [uninspectedList, ObjectAttributeListWire.mk.injEq]
      exact ⟨cells.mp zero, none, exact, spare⟩
    case isFalse unmarked =>
      rw [refuse_eq_true, refuse_eq_true, List.all_eq_true] at accepted
      obtain ⟨present, truncated, each⟩ := accepted
      refine .inr ⟨small, spare, bits.mp ⟨masked, not_not.mp unmarked⟩, not_and.mp present,
        fun long => not_not.mp fun short => truncated ⟨long, short⟩, fun place => ?_⟩
      exact (inspectedCell_iff _ place _).mp (each place (List.mem_finRange place))
  · rintro (rfl | ⟨small, spare, inside, present, truncated, each⟩)
    · decide
    · obtain ⟨low, high⟩ := reserved.mpr spare
      obtain ⟨masked, unmarked⟩ := bits.mpr inside
      rw [if_neg (not_not.mpr unmarked), refuse_eq_true, refuse_eq_true, List.all_eq_true]
      exact ⟨⟨small, low, high, masked⟩, not_and.mpr present,
        fun ⟨long, short⟩ => short (truncated long),
        fun place _ => (inspectedCell_iff _ place _).mpr (each place)⟩

/-! ## Records -/

/-- A row that names an object protocol. -/
structure EligibleRow (row : ObjectDescriptorWire) : Prop where
  action : row.action ≠ ActionCode.none
  actionMax : row.action ≤ ActionCode.max
  guard : row.guard ≠ GuardCode.none
  guardMax : row.guard ≤ GuardCode.scalarDerive

/-- The Find section of a record. -/
structure FindForm (tail : ObjectCallWire) : Prop where
  reserved : tail.reserved1 = 0
  length : tail.findLen ≤ findHandlesMax
  flags : tail.findFlags &&& ~~~findFlagsMask = 0
  valid : tail.findValid ≤ 1
  other : tail.action ≠ ActionCode.find → tail.findLen = 0 ∧ tail.findFlags = 0 ∧
    tail.findValid = 0 ∧ ∀ place : Fin 8, tail.findStatus[place] = 0 ∧ tail.findHandles[place] = 0
  refused : tail.findValid = 0 → tail.findLen = 0
  truncated : tail.findFlags &&& 1 ≠ 0 → tail.findLen = findHandlesMax
  status : ∀ place : Fin 8, tail.findStatus[place] ≤ handleStatusMax
  listed : ∀ place : Fin 8, tail.findStatus[place] ≠ 0 ↔ place.val < tail.findLen.toNat
  words : ∀ place : Fin 8,
    validHandleWord tail.findStatus[place] tail.findHandles[place] tail.layout = true

/-- A requested list against the row's template pair. -/
def RequestedForm (ptrArg countArg : UInt8) (list : ObjectAttributeListWire) : Prop :=
  (ptrArg = argNone ↔ countArg = argNone) ∧
    (ptrArg = argNone → list = {}) ∧
    (ptrArg ≠ argNone → list = uninspectedList ∨ InspectedList list)

/-- The relations between a record's fields and its row. -/
structure TailForm (row : ObjectDescriptorWire) (tail : ObjectCallWire) : Prop where
  version : tail.version = objectCallVersion
  bytes : tail.bytes = objectCallBytes
  index : tail.descriptorIndex ≠ 0
  indexMax : tail.descriptorIndex < maxDescriptors
  function : row.function.toNat = tail.descriptorIndex.toNat - 1
  eligible : EligibleRow row
  action : tail.action = row.action
  flags : tail.flags &&& ~~~objectFlagsMask = 0
  layout : tail.layout = layoutLp64 ∨ tail.layout = layoutIlp32
  derive : tail.entryDerive ≤ deriveEcdh1Cofactor
  derives : row.action ≠ ActionCode.derive → tail.entryDerive = deriveUnavailable
  reserved : tail.reserved0 = 0 ∧ tail.reserved2 = 0
  inputs : ∀ place : Fin 2, validHandlePosition row.inputArgs[place] tail.inputStatus[place]
    tail.inputHandles[place] tail.layout (row.action = ActionCode.importState) = true
  results : ∀ place : Fin 2, validHandlePosition row.resultArgs[place] tail.resultStatus[place]
    tail.resultHandles[place] tail.layout false = true
  find : FindForm tail
  firstList : RequestedForm row.templateArgs[0] row.templateArgs[1] tail.requested[0]
  secondList : RequestedForm row.templateArgs[2] row.templateArgs[3] tail.requested[1]
  noResults : row.action ≠ ActionCode.get → tail.resultAttributes = {}
  resultList : row.action = ActionCode.get →
    tail.resultAttributes = uninspectedList ∨ InspectedList tail.resultAttributes

section Fields

variable (tail : ObjectCallWire)

theorem tailU64_of_slice {bytes : List UInt8} {offset : Nat} {word : UInt64}
    (read : Bytes.slice bytes offset 8 = Bytes.little 8 word.toNat) :
    tailU64 bytes offset = word := by
  rw [tailU64, read, ofNat_number_little_64]

variable (place : Fin 2)

theorem tailInput :
    tailU64 tail.toBytes (16 + 8 * place) = getElem tail.inputHandles place place.2 :=
  tailU64_of_slice (by fin_cases place <;> rfl)

theorem tailResult :
    tailU64 tail.toBytes (32 + 8 * place) = getElem tail.resultHandles place place.2 :=
  tailU64_of_slice (by fin_cases place <;> rfl)

theorem tailFind (place : Fin 8) :
    tailU64 tail.toBytes (48 + 8 * place) = tail.findHandles[place] :=
  tailU64_of_slice (by fin_cases place <;> rfl)

theorem tailInputStatus :
    tailU8 tail.toBytes (112 + place) = getElem tail.inputStatus place place.2 := by
  fin_cases place <;> rfl

theorem tailResultStatus :
    tailU8 tail.toBytes (114 + place) = getElem tail.resultStatus place place.2 := by
  fin_cases place <;> rfl

theorem tailFindStatus (place : Fin 8) :
    tailU8 tail.toBytes (116 + place) = tail.findStatus[place] := by
  fin_cases place <;> rfl

theorem tailIndex : tailU32 tail.toBytes 4 = tail.descriptorIndex :=
  ofNat_number_little_32 tail.descriptorIndex

theorem tailFlags : tailU32 tail.toBytes 8 = tail.flags := ofNat_number_little_32 tail.flags

theorem tailReserved : tailU32 tail.toBytes 236 = tail.reserved2 :=
  ofNat_number_little_32 tail.reserved2

theorem tailVersion : tailU16 tail.toBytes 0 = tail.version :=
  ofNat_number_little_16 tail.version

theorem tailBytes : tailU16 tail.toBytes 2 = tail.bytes := ofNat_number_little_16 tail.bytes

theorem validFindSection_iff :
    validFindSection tail.toBytes tail.action tail.layout = true ↔ FindForm tail := by
  have length : tailU8 tail.toBytes 124 = tail.findLen := rfl
  have flags : tailU8 tail.toBytes 125 = tail.findFlags := rfl
  have valid : tailU8 tail.toBytes 126 = tail.findValid := rfl
  have reserved : tailU8 tail.toBytes 127 = tail.reserved1 := rfl
  unfold validFindSection
  simp only [length, flags, valid, reserved, tailFind, tailFindStatus, refuse_eq_true, not_or,
    not_not, gt_iff_lt, UInt8.not_lt]
  by_cases finds : tail.action = ActionCode.find
  · simp only [finds, ne_eq, not_true_eq_false, ↓reduceIte, refuse_eq_true, List.all_eq_true,
      List.mem_finRange, true_implies, not_and, not_not, UInt8.not_lt]
    have listed (place : Fin 8) :
        (¬ if place.val < tail.findLen.toNat then tail.findStatus[place] = 0
          else ¬ tail.findStatus[place] = 0) ↔
        (tail.findStatus[place] ≠ 0 ↔ place.val < tail.findLen.toNat) := by
      split
      case isTrue inside => simp [inside]
      case isFalse outside => simp [outside]
    constructor
    · rintro ⟨spare, ⟨short, masked, boolean⟩, refused, truncated, each⟩
      exact ⟨spare, short, masked, boolean, fun other => absurd finds other, refused, truncated,
        fun place => (each place).1, fun place => (listed place).mp (each place).2.1,
        fun place => (each place).2.2⟩
    · intro form
      exact ⟨form.reserved, ⟨form.length, form.flags, form.valid⟩, form.refused, form.truncated,
        fun place => ⟨form.status place, (listed place).mpr (form.listed place),
          form.words place⟩⟩
  · simp only [finds, ne_eq, not_false_eq_true, ↓reduceIte, Bool.and_eq_true, decide_eq_true_eq,
      List.all_eq_true, List.mem_finRange, true_implies]
    constructor
    · rintro ⟨spare, ⟨short, masked, boolean⟩, ⟨⟨none, clear⟩, invalid⟩, each⟩
      have status (place : Fin 8) := (each place).1
      have word (place : Fin 8) := (each place).2
      refine ⟨spare, short, masked, boolean, fun _ => ⟨none, clear, invalid, each⟩,
        fun _ => none, ?_, ?_, ?_, ?_⟩
      · rw [clear]
        exact fun bit => absurd rfl bit
      · intro place
        rw [status place]
        exact UInt8.le_iff_toNat_le.mpr (Nat.zero_le _)
      · intro place
        simp [status place, none]
      · intro place
        rw [status place, word place]
        simp [validHandleWord]
    · intro form
      obtain ⟨none, clear, invalid, each⟩ := form.other finds
      exact ⟨form.reserved, ⟨form.length, form.flags, form.valid⟩, ⟨⟨none, clear⟩, invalid⟩, each⟩

theorem validRequestedList_iff (ptrArg countArg : UInt8) (list : ObjectAttributeListWire) :
    validRequestedList ptrArg countArg list.toBytes = true ↔
      RequestedForm ptrArg countArg list := by
  unfold validRequestedList RequestedForm
  rw [← list_zero, ← validAttributeList_iff]
  by_cases first : ptrArg = argNone
  · by_cases second : countArg = argNone
    · simp [first, second]
    · simp [first, second]
  · by_cases second : countArg = argNone
    · simp [first, second]
    · simp [first, second]

/-- The reader accepts exactly the records of this form. -/
theorem validateObjectTail_iff (row : ObjectDescriptorWire) :
    validateObjectTail tail.toBytes row = true ↔ TailForm row tail := by
  have size : tail.toBytes.length = objectTailBytes := rfl
  have layout : tailU8 tail.toBytes 12 = tail.layout := rfl
  have action : tailU8 tail.toBytes 13 = tail.action := rfl
  have derive : tailU8 tail.toBytes 14 = tail.entryDerive := rfl
  have reserved : tailU8 tail.toBytes 15 = tail.reserved0 := rfl
  have first : Bytes.slice tail.toBytes 128 36 = tail.requested[0].toBytes := rfl
  have second : Bytes.slice tail.toBytes 164 36 = tail.requested[1].toBytes := rfl
  have results : Bytes.slice tail.toBytes 200 36 = tail.resultAttributes.toBytes := rfl
  unfold validateObjectTail
  simp only [size, layout, action, derive, reserved, first, second, results, tailIndex, tailFlags,
    tailReserved, tailVersion, tailBytes, tailInput, tailResult, tailInputStatus,
    tailResultStatus, refuse_eq_true, Bool.and_eq_true, decide_eq_true_eq, List.all_eq_true,
    List.mem_finRange, true_implies, validFindSection_iff, validRequestedList_iff, not_or,
    not_and, not_not, gt_iff_lt, ge_iff_le, UInt8.not_lt, UInt32.not_le, ne_eq]
  constructor
  · rintro ⟨-, ⟨version, bytes⟩, ⟨index, indexMax⟩, function, eligible, same, flags, coded, -,
      derived, derives, spare, ⟨⟨⟨⟨⟨inputs, handles⟩, find⟩, one⟩, two⟩, list⟩, padding⟩
    rw [same] at derives inputs list
    refine ⟨version, bytes, index, indexMax, function,
      ⟨eligible.1, eligible.2.1, eligible.2.2.1, eligible.2.2.2⟩, same, flags,
      or_iff_not_imp_left.mpr coded, derived,
      derives, ⟨spare, padding⟩, inputs, handles, find, one, two, ?_, ?_⟩
    · intro other
      rw [if_pos other] at list
      exact (list_zero _).mp list
    · intro gets
      rw [if_neg (not_not.mpr gets)] at list
      exact (validAttributeList_iff _).mp list
  · intro form
    have same := form.action
    rw [same]
    refine ⟨trivial, ⟨form.version, form.bytes⟩, ⟨form.index, form.indexMax⟩, form.function,
      ⟨form.eligible.action, form.eligible.actionMax, form.eligible.guard,
        form.eligible.guardMax⟩, rfl, form.flags, or_iff_not_imp_left.mp form.layout,
      form.eligible.actionMax, form.derive, form.derives, form.reserved.1,
      ⟨⟨⟨⟨⟨form.inputs, form.results⟩, form.find⟩, form.firstList⟩, form.secondList⟩, ?_⟩,
      form.reserved.2⟩
    split
    case isTrue other => exact (list_zero _).mpr (form.noResults other)
    case isFalse gets => exact (validAttributeList_iff _).mpr (form.resultList (not_not.mp gets))

end Fields

end P11Scope.Capture
