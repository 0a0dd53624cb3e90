import P11Scope.Capture.Emission

/-!
# The emissions and the accepted tail

The Find emission writes its cells place by place and the Get emission replaces
the result list.  Both keep the relations of the tail, so that whatever a call
emits is a tail the decoder accepts.
-/

namespace P11Scope.Capture

open Lib Lib.Flags

variable {honest : (query : ReadQuery) → ReadAnswer query → Prop}
variable {descriptor : UInt32} {row : ObjectDescriptorWire} {layout : LinuxLayout}
variable {side : ObjectStart} {tail : ObjectCallWire}

/-! ## Find cells -/

/-- The cells below `upTo` hold a status and its word; the others are zero. -/
structure FindCells (layout : LinuxLayout) (upTo : Nat) (words : Vector UInt64 8)
    (statuses : Vector UInt8 8) : Prop where
  written : ∀ place : Fin 8, place.val < upTo →
    getElem statuses place place.2 ≠ 0 ∧
      SoundWord layout (getElem statuses place place.2) (getElem words place place.2)
  blank : ∀ place : Fin 8, upTo ≤ place.val →
    getElem statuses place place.2 = 0 ∧ getElem words place place.2 = 0

theorem FindCells.none (layout : LinuxLayout) :
    FindCells layout 0 (Vector.replicate 8 0) (Vector.replicate 8 0) := by
  refine ⟨fun place below => absurd below (Nat.not_lt_zero _), fun place _ => ⟨?_, ?_⟩⟩
  · rw [Fin.getElem_fin, Vector.getElem_replicate]
  · rw [Fin.getElem_fin, Vector.getElem_replicate]

variable {statuses : Vector UInt8 8} {upTo : Nat} {words : Vector UInt64 8}

theorem FindCells.sound (cells : FindCells layout upTo words statuses) (place : Fin 8) :
    SoundWord layout (getElem statuses place place.2) (getElem words place place.2) := by
  rcases Nat.lt_or_ge place.val upTo with below | above
  · exact (cells.written place below).2
  · rw [(cells.blank place above).1, (cells.blank place above).2]
    exact SoundWord.zero layout 0 (by decide)

theorem FindCells.listed (cells : FindCells layout upTo words statuses) (place : Fin 8) :
    getElem statuses place place.2 ≠ 0 ↔ place.val < upTo := by
  constructor
  · intro named
    exact Nat.lt_of_not_le fun above => named (cells.blank place above).1
  · intro below
    exact (cells.written place below).1

/-- A status other than a value leaves its word zero. -/
theorem SoundWord.eq_zero {status : UInt8} {word : UInt64} (sound : SoundWord layout status word)
    (other : status ≠ HandleStatus.value) : word = 0 := by
  have valid := sound.valid
  unfold validHandleWord at valid
  split at valid
  case isTrue => cases valid
  case isFalse =>
    rw [if_neg (show status ≠ 1 from other)] at valid
    exact of_decide_eq_true valid

theorem FindCells.write (cells : FindCells layout upTo words statuses) {status : UInt8}
    {word : UInt64} (sound : SoundWord layout status word) (present : status ≠ 0) :
    FindCells layout (upTo + 1)
      (if status = HandleStatus.value then words.setIfInBounds upTo word else words)
      (statuses.setIfInBounds upTo status) := by
  have wrote (place : Fin 8) (here : upTo = place.val) :
      (if status = HandleStatus.value then words.setIfInBounds upTo word else words)[place] =
        word := by
    split
    case isTrue => simp [here]
    case isFalse other => rw [sound.eq_zero other, (cells.blank place here.le).2]
  have kept (place : Fin 8) (away : upTo ≠ place.val) :
      (if status = HandleStatus.value then words.setIfInBounds upTo word else words)[place] =
        words[place] := by
    split
    case isTrue => simp [away]
    case isFalse => rfl
  refine ⟨fun place below => ?_, fun place above => ?_⟩
  · by_cases here : upTo = place.val
    case pos =>
      rw [wrote place here]
      simp only [Fin.getElem_fin, Vector.getElem_setIfInBounds, here, if_true]
      exact ⟨present, sound⟩
    case neg =>
      rw [kept place here]
      simp only [Fin.getElem_fin, Vector.getElem_setIfInBounds, here, if_false]
      exact cells.written place (by omega)
  · have away : upTo ≠ place.val := by omega
    rw [kept place away]
    simp only [Fin.getElem_fin, Vector.getElem_setIfInBounds, away, if_false]
    exact cells.blank place (by omega)

/-! ## Find -/

/-- The element loop before `upTo`: refused with one flag, or the cells so far. -/
inductive FindProgress (tail : ObjectCallWire) (layout : LinuxLayout) (long : Prop) (upTo : Nat) :
    FindWalk → Prop
  | refused (flags : UInt8) : FindProgress tail layout long upTo
      { tail := { tail with findFlags := FindFlag.invalidSpan }, flags := flags, refused := true }
  | listed (words : Vector UInt64 8) (statuses : Vector UInt8 8) (flags : UInt8)
      (cells : FindCells layout upTo words statuses) (masked : flags &&& ~~~findFlagsMask = 0)
      (short : flags &&& 1 ≠ 0 → long) : FindProgress tail layout long upTo
      { tail := { tail with findHandles := words, findStatus := statuses }, flags := flags }

theorem zeroFindCells_eq (blank : BlankFind tail) (words : Vector UInt64 8)
    (statuses : Vector UInt8 8) (flag : UInt8) :
    { zeroFindCells { tail with findHandles := words, findStatus := statuses } with
        findFlags := flag } = { tail with findFlags := flag } := by
  simp only [zeroFindCells, ← blank.handles, ← blank.statuses, blank.length, blank.valid]

theorem unreadable_masked (flags : UInt8) (masked : flags &&& ~~~findFlagsMask = 0) :
    (flags ||| FindFlag.unreadableElement) &&& ~~~findFlagsMask = 0 ∧
      ((flags ||| FindFlag.unreadableElement) &&& 1 ≠ 0 → flags &&& 1 ≠ 0) := by
  revert flags
  decide +kernel

theorem findElement_progress (blank : BlankFind tail) {long : Prop} (arrayPtr : UInt64)
    (index : Nat) {walk : FindWalk} (progress : FindProgress tail layout long index walk) :
    (findElement arrayPtr layout walk index).Yields honest
      (FindProgress tail layout long (index + 1)) := by
  cases progress with
  | refused flags => exact .refused flags
  | listed words statuses flags cells masked short =>
    unfold findElement
    rw [if_neg (show ¬ false = true by decide)]
    split
    · rw [zeroFindCells_eq blank]
      exact .refused flags
    refine yields_readWord fun observed _ => ?_
    obtain ⟨sound, present⟩ := wordVerdict_sound layout observed
    obtain ⟨kept, still⟩ := unreadable_masked flags masked
    refine .listed _ _ _ (cells.write sound present) ?_ ?_
    · split
      · exact kept
      · exact masked
    · split
      · exact fun set => short (still set)
      · exact short

/-- Listed elements with the count they were taken from. -/
theorem FindCells.form {flags length : UInt8} (cells : FindCells layout upTo words statuses)
    (coded : tail.layout = layout.code) (finds : tail.action = ActionCode.find)
    (reserved : tail.reserved1 = 0) (counted : length.toNat = upTo) (fits : upTo ≤ 8)
    (masked : flags &&& ~~~findFlagsMask = 0) (short : flags &&& 1 ≠ 0 → upTo = 8) :
    FindForm { tail with
      findHandles := words, findStatus := statuses, findLen := length, findFlags := flags
      findValid := 1 } where
  reserved := reserved
  length := UInt8.le_iff_toNat_le.mpr (counted ▸ fits)
  flags := masked
  valid := (by decide : (1 : UInt8) ≤ 1)
  other none := absurd finds none
  refused zero := absurd zero (by decide : (1 : UInt8) ≠ 0)
  truncated long := UInt8.toNat_inj.mp (counted.trans (short long))
  status place := (cells.sound place).finite
  listed place := counted ▸ cells.listed place
  words place := coded ▸ (cells.sound place).valid

theorem findTake_eq (count : UInt64) :
    (if count > 8 then 8 else count).toUInt8.toNat = (if count > 8 then 8 else count).toNat ∧
      (if count > 8 then 8 else count).toNat ≤ 8 := by
  have fits : (if count > 8 then 8 else count).toNat ≤ 8 := by
    split
    case isTrue => decide
    case isFalse short => exact UInt64.le_iff_toNat_le.mp (UInt64.not_lt.mp short)
  refine ⟨?_, fits⟩
  exact Nat.mod_eq_of_lt (by omega)

/-- The loop and the second read of the count keep the tail's relations. -/
theorem emitElements_form (blank : BlankFind tail) (coded : tail.layout = layout.code)
    (finds : tail.action = ActionCode.find) (side : ObjectStart) (count : UInt64)
    (form : TailForm row tail) :
    (emitElements side layout count tail).Yields honest (TailForm row) := by
  have refused (flag : UInt8) (masked : flag &&& ~~~findFlagsMask = 0) (short : flag &&& 1 = 0) :
      TailForm row { tail with findFlags := flag } :=
    { form with find := blank.form flag masked short fun other => absurd finds other }
  obtain ⟨counted, fits⟩ := findTake_eq count
  have begins : FindProgress tail layout (count > 8) 0
      { tail := tail, flags := if count > 8 then FindFlag.truncated else 0 } := by
    have same : { tail with
        findHandles := Vector.replicate 8 0, findStatus := Vector.replicate 8 0 } = tail := by
      rw [← blank.handles, ← blank.statuses]
    rw [← same]
    refine .listed _ _ _ (FindCells.none layout) ?_ ?_
    · split
      · decide
      · decide
    · split
      case isTrue long => exact fun _ => long
      case isFalse => exact fun set => absurd rfl set
  refine (Asking.Yields.foldlM_range (FindProgress tail layout (count > 8)) _
    (fun index _ _ progress => findElement_progress blank _ index progress) begins).bind ?_
  intro walk progress
  cases progress with
  | refused flags => exact refused FindFlag.invalidSpan (by decide) (by decide)
  | listed words statuses flags cells masked short =>
    refine yields_readWord fun again _ => ?_
    split
    · refine { form with find := cells.form coded finds blank.reserved counted fits masked ?_ }
      intro set
      rw [if_pos (short set)]
      rfl
    · rw [zeroFindCells_eq blank]
      exact refused FindFlag.changedCount (by decide) (by decide)

/-- Only a Find changes its tail, and what it emits keeps the relations. -/
theorem adapterEmitFind_form (facts : ReturnFacts) (filled : FilledTail row layout tail) :
    (adapterEmitFind facts descriptor row layout side tail).Yields honest
      (Settles fun emitted => TailForm row emitted ∧
        (row.action ≠ ActionCode.find → emitted = tail)) := by
  unfold adapterEmitFind
  split
  · exact trivial
  split
  · exact trivial
  split
  · exact trivial
  split
  · exact ⟨filled.form, fun _ => rfl⟩
  case isFalse named =>
  have named : row.action = ActionCode.find := not_not.mp named
  have finds : tail.action = ActionCode.find := filled.form.action.trans named
  have refused (flag : UInt8) (masked : flag &&& ~~~findFlagsMask = 0) (short : flag &&& 1 = 0) :
      TailForm row { tail with findFlags := flag } ∧
        (row.action ≠ ActionCode.find → { tail with findFlags := flag } = tail) :=
    ⟨{ filled.form with
      find := filled.blank.form flag masked short fun other => absurd finds other },
      fun other => absurd named other⟩
  split
  · exact ⟨filled.form, fun _ => rfl⟩
  split
  · exact refused FindFlag.invalidCount (by decide) (by decide)
  refine yields_readWord fun observed _ => ?_
  cases observed with
  | none => exact refused FindFlag.invalidCount (by decide) (by decide)
  | some count =>
    dsimp only
    split
    case h_1 flag stated =>
      simp only [findRefusal] at stated
      split_ifs at stated <;> cases stated <;> exact refused _ (by decide) (by decide)
    refine Asking.Yields.map ?_
    refine (emitElements_form filled.blank filled.coded finds side count filled.form).mono ?_
    exact fun emitted form => ⟨form, fun other => absurd named other⟩

/-! ## Get -/

/-- Merging public flags into a masked word keeps it masked. -/
theorem PublicFlags.masked_or {flags merged : UInt32} (known : PublicFlags merged)
    (masked : flags &&& ~~~objectFlagsMask = 0) :
    (flags ||| merged) &&& ~~~objectFlagsMask = 0 := by
  have under : merged ||| objectFlagsMask = objectFlagsMask := known
  apply UInt32.toBitVec_inj.mp
  apply BitVec.eq_of_getLsbD_eq
  intro place inside
  have first := congrArg (fun word => word.toBitVec.getLsbD place) masked
  have second := congrArg (fun word => word.toBitVec.getLsbD place) under
  simp only [UInt32.toBitVec_and, UInt32.toBitVec_or, UInt32.toBitVec_not, BitVec.getLsbD_and,
    BitVec.getLsbD_or, BitVec.getLsbD_not, inside, decide_true, Bool.true_and] at first second ⊢
  rw [Bool.and_or_distrib_right, first]
  cases bit : merged.toBitVec.getLsbD place with
  | false => simp
  | true =>
    rw [bit, Bool.true_or] at second
    simp [← second]

theorem adapterEmitGetAttributes_form (build : Build) (wired : Bool) (facts : ReturnFacts)
    (entry : EntryForm side) (form : TailForm row tail)
    (results : row.action = ActionCode.get → tail.resultAttributes = uninspectedList) :
    (adapterEmitGetAttributes build wired facts descriptor row layout side tail).Yields honest
      (Settles (TailForm row)) := by
  unfold adapterEmitGetAttributes
  split
  · exact trivial
  split
  · exact trivial
  split
  · exact trivial
  split
  · exact form
  case isFalse named =>
  have gets : row.action = ActionCode.get := not_not.mp named
  split
  · exact form
  split
  · refine { form with
      find := { form.find with reserved := form.find.reserved }
      noResults := fun other => absurd gets other, resultList := fun _ => .inl ?_ }
    rw [results gets]
    rfl
  · refine (captureGetReturnInto_form build entry facts.rv _ layout _).bind ?_
    rintro ⟨list, contributed⟩ ⟨shaped, flagged⟩
    refine { form with
      flags := ?_, find := { form.find with reserved := form.find.reserved }
      noResults := fun other => absurd gets other, resultList := fun _ => shaped }
    split
    · exact flagged.masked_or form.flags
    · exact form.flags

/-! ## Whole calls -/

/-- One call's capture: the bound row through the entry, then through the return. -/
def objectCall (build : Build) (wired : Bool) (entry : EntryFacts) (facts : ReturnFacts)
    (image : ImageIdentity) (entryNs : UInt64) (descriptor : UInt32) (row : ObjectDescriptorWire)
    (layout : LinuxLayout) : Reading (Option ObjectCallWire) :=
  andThen (objectEntry build wired entry row layout (boundSide image entryNs descriptor row layout))
    (objectReturn build wired facts descriptor row layout)

theorem objectReturn_form (build : Build) (wired : Bool) (facts : ReturnFacts)
    (canonical : CanonicalRow row) (named : descriptor ≠ 0) (inside : descriptor < maxDescriptors)
    (form : SideForm (SettledList wired) descriptor row layout side) :
    (objectReturn build wired facts descriptor row layout side).Yields honest
      (Settles (TailForm row)) := by
  refine andThen_yields (adapterFillReturn_form facts form) fun returned ready => ?_
  refine andThen_yields (adapterTailFill_form canonical named inside ready) fun tail filled => ?_
  refine andThen_yields (adapterEmitFind_form facts filled) fun found emitted => ?_
  refine adapterEmitGetAttributes_form build wired facts ready.form.entry emitted.1 fun gets => ?_
  rw [emitted.2 fun finds => absurd (finds.symm.trans gets) (by decide)]
  exact filled.results gets

theorem descriptorIndex_named (function : Fin 104) :
    UInt32.ofNat (function + 1) ≠ 0 ∧ UInt32.ofNat (function + 1) < maxDescriptors := by
  revert function
  decide +kernel

/-- Whatever a call emits, the reader accepts.  The catalog's names, the fetched
arguments, the return's evidence and the observed process are arbitrary, and the
process may answer every read anew. -/
theorem emitted_tail_accepted (build : Build) (wired : Bool) (entry : EntryFacts)
    (facts : ReturnFacts) (image : ImageIdentity) (entryNs : UInt64)
    (functionName : UInt32 → Option String) (function : Fin 104) (layout : LinuxLayout)
    {Environment : Type}
    (respond : Environment → (query : ReadQuery) → ReadAnswer query × Environment)
    (state : Environment) (tail : ObjectCallWire)
    (emitted : ((objectCall build wired entry facts image entryNs (UInt32.ofNat (function + 1))
      (canonicalObjectWire functionName (UInt32.ofNat function)) layout).play respond state).1 =
        some tail) :
    validateObjectTail tail.toBytes (canonicalObjectWire functionName (UInt32.ofNat function)) =
      true := by
  have form : (objectCall build wired entry facts image entryNs (UInt32.ofNat (function + 1))
      (canonicalObjectWire functionName (UInt32.ofNat function)) layout).Yields
        (fun _ _ => True)
        (Settles (TailForm (canonicalObjectWire functionName (UInt32.ofNat function)))) :=
    andThen_yields (objectEntry_form entry (boundSide_form image entryNs) build wired)
      fun _ settled => objectReturn_form build wired facts
        (canonicalObjectWire_canonical functionName (UInt32.ofNat function))
        (descriptorIndex_named function).1 (descriptorIndex_named function).2 settled
  have settled := form.play respond (fun _ _ => trivial) state
  rw [emitted] at settled
  exact (validateObjectTail_iff _ _).mpr settled

/-- An LP64 process that finds two objects: every word it is asked for is 2. -/
def twoFound (_ : Unit) : (query : ReadQuery) → ReadAnswer query × Unit
  | .word _ _ => (some (2 : UInt64), ())
  | .bytes _ length => ((none : Option (Vector UInt8 length)), ())

def findCall : Reading (Option ObjectCallWire) :=
  objectCall .bpf true
    { fetchArg := fun arg => some (if arg = 1 then 4096 else if arg = 2 then 8 else 8192)
      stackPointer := 0, nullCancel := false, outputNonNull := true }
    { rv := 0, mechStatus := 0, mech := 0, joined := true } {} 5 (UInt32.ofNat (27 + 1))
    (canonicalObjectWire (fun _ => some "C_FindObjects") (UInt32.ofNat 27)) .lp64

theorem emitted_tail_accepted_twoFound :
    ∃ tail, (findCall.play twoFound ()).1 = some tail ∧
      (tail.findValid, tail.findLen, tail.findStatus[1], tail.findHandles[1]) =
        (1, 2, HandleStatus.value, 2) ∧
      validateObjectTail tail.toBytes
        (canonicalObjectWire (fun _ => some "C_FindObjects") (UInt32.ofNat 27)) = true := by
  have listed : ((findCall.play twoFound ()).1.map fun tail =>
      (tail.findValid, tail.findLen, tail.findStatus[1], tail.findHandles[1])) =
        some (1, 2, HandleStatus.value, 2) := by
    decide +kernel
  obtain ⟨tail, emitted, fields⟩ := Option.map_eq_some_iff.mp listed
  exact ⟨tail, emitted, fields, emitted_tail_accepted .bpf true _ _ {} 5
    (fun _ => some "C_FindObjects") 27 .lp64 twoFound () tail emitted⟩

end P11Scope.Capture
