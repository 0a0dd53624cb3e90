import P11Scope.Capture.Flow
import P11Scope.Capture.Lists

/-!
# Every emitted tail is accepted

The entry and return steps keep the owner row in a form from which the tail's
relations follow, whatever the observed process answers and however its answers
change between reads.
-/

variable {word : UInt64} {layout : LinuxLayout} {status : UInt8} {flags : UInt32}
  {list : ObjectAttributeListWire}

namespace P11Scope.Capture

open Lib Lib.Flags

variable {honest : (query : ReadQuery) → ReadAnswer query → Prop}

/-! ## Chains of steps -/

/-- A refused step is fine; an accepted one satisfies `post`. -/
def Settles {α : Type} (post : α → Prop) : Option α → Prop
  | none => True
  | some value => post value

theorem andThen_yields {α β : Type} {step : Reading (Option α)} {next : α → Reading (Option β)}
    {middle : α → Prop} {post : β → Prop} (first : step.Yields honest (Settles middle))
    (rest : ∀ value, middle value → (next value).Yields honest (Settles post)) :
    (andThen step next).Yields honest (Settles post) := by
  refine first.bind fun result settled => ?_
  cases result with
  | none => exact trivial
  | some value => exact rest value settled

/-! ## Handle words -/

/-- A status with the word it allows. -/
structure SoundWord (layout : LinuxLayout) (status : UInt8) (word : UInt64) : Prop where
  finite : status ≤ handleStatusMax
  valid : validHandleWord status word layout.code = true

theorem SoundWord.zero (layout : LinuxLayout) (status : UInt8)
    (plain : status ≤ handleStatusMax ∧ status ≠ 1) : SoundWord layout status 0 := by
  refine ⟨plain.1, ?_⟩
  unfold validHandleWord
  rw [if_neg fun high => absurd high.2 (by decide), if_neg plain.2]
  rfl

theorem SoundWord.value (nonzero : word ≠ 0) (narrow : ¬ (layout = .ilp32 ∧ word > 0xFFFFFFFF)) :
    SoundWord layout HandleStatus.value word := by
  have coded : ¬ (layout.code = layoutIlp32 ∧ word > 0xFFFFFFFF) := by
    rintro ⟨code, high⟩
    refine narrow ⟨?_, high⟩
    cases layout with
    | lp64 => exact absurd code (by decide)
    | ilp32 => rfl
  refine ⟨by decide, ?_⟩
  unfold validHandleWord
  rw [if_neg coded]
  exact decide_eq_true nonzero

theorem validHandlePosition_of {arg : UInt8} {optional : Bool}
    (sound : SoundWord layout status word) (absent : arg = argNone → status = 0)
    (present : arg ≠ argNone → optional = false → status ≠ 0) :
    validHandlePosition arg status word layout.code optional = true := by
  unfold validHandlePosition
  rw [if_neg (UInt8.not_lt.mpr sound.finite), if_neg fun both => both.2 (absent both.1), if_neg]
  · exact sound.valid
  · rintro ⟨named, required, zero⟩
    exact present named (by simpa using required) zero

theorem handleVerdict_spec (layout : LinuxLayout) {zero : UInt8} (fetched : Option UInt64)
    (plain : zero ≤ handleStatusMax ∧ zero ≠ 1) :
    SoundWord layout (handleVerdict layout zero fetched).status
        (handleVerdict layout zero fetched).word ∧
      (zero ≠ 0 → (handleVerdict layout zero fetched).status ≠ 0) ∧
      PublicFlags (handleVerdict layout zero fetched).flags := by
  unfold handleVerdict
  cases fetched with
  | none =>
    exact ⟨SoundWord.zero layout HandleStatus.unreadable (by decide),
      fun _ => (by decide : HandleStatus.unreadable ≠ 0),
      (by decide : PublicFlags ObjectFlag.argReadFailure)⟩
  | some word =>
    dsimp only
    split
    case isTrue => exact ⟨SoundWord.zero layout zero plain, id, PublicFlags.zero⟩
    rename_i nonzero
    split
    case isTrue =>
      exact ⟨SoundWord.zero layout HandleStatus.invalidSpan (by decide), fun _ => by decide,
        PublicFlags.zero⟩
    case isFalse narrow =>
      exact ⟨SoundWord.value nonzero narrow, fun _ => (by decide : HandleStatus.value ≠ 0),
        PublicFlags.zero⟩

variable (nullCancel : Bool)

theorem suppressed_sound {verdict : HandleVerdict}
    (sound : SoundWord layout verdict.status verdict.word) :
    SoundWord layout (suppressed nullCancel verdict).status
      (suppressed nullCancel verdict).word := by
  unfold suppressed
  split
  · exact SoundWord.zero layout HandleStatus.suppressed (by decide)
  · exact sound

variable (verdict : HandleVerdict)

theorem suppressed_status_eq_zero :
    (suppressed nullCancel verdict).status = 0 ↔ verdict.status = 0 := by
  unfold suppressed
  split
  case isTrue valued =>
    rw [valued.2]
    exact (by decide : HandleStatus.suppressed = 0 ↔ HandleStatus.value = 0)
  case isFalse => exact Iff.rfl

theorem suppressed_flags : (suppressed nullCancel verdict).flags = verdict.flags := by
  unfold suppressed
  split
  · rfl
  · rfl

theorem inputVerdict_spec (facts : EntryFacts) (row : ObjectDescriptorWire)
    (layout : LinuxLayout) (arg : UInt8) :
    SoundWord layout (inputVerdict facts row layout arg).status
        (inputVerdict facts row layout arg).word ∧
      PublicFlags (inputVerdict facts row layout arg).flags := by
  unfold inputVerdict
  split
  · exact ⟨SoundWord.zero layout HandleStatus.absent (by decide), PublicFlags.zero⟩
  · have ⟨sound, _, low⟩ := handleVerdict_spec layout (facts.fetchArg arg)
      (by split <;> decide : (if row.action = ActionCode.importState then HandleStatus.absent
        else HandleStatus.invalidZero) ≤ handleStatusMax ∧ _)
    exact ⟨sound, low⟩

theorem inputVerdict_valid (facts : EntryFacts) (row : ObjectDescriptorWire)
    (layout : LinuxLayout) (arg : UInt8) :
    validHandlePosition arg (suppressed facts.nullCancel (inputVerdict facts row layout arg)).status
      (suppressed facts.nullCancel (inputVerdict facts row layout arg)).word layout.code
      (row.action = ActionCode.importState) = true := by
  refine validHandlePosition_of (suppressed_sound _ (inputVerdict_spec facts row layout arg).1)
    (fun absent => ?_) (fun present required => ?_)
  · rw [suppressed_status_eq_zero, inputVerdict, if_pos absent]
    rfl
  · rw [Ne, suppressed_status_eq_zero, inputVerdict, if_neg present]
    rw [if_neg (of_decide_eq_false required)]
    exact (handleVerdict_spec layout _ (by decide)).2.1 (by decide)

/-! ## Flags of the owner row -/

/-- Public flags leave the private bits alone. -/
theorem private_public (row : UInt16) (low : PublicFlags flags) :
    (row ||| flags.toUInt16) &&& getEntryFlagsMask = row &&& getEntryFlagsMask := by
  have under (place : Nat) := congrArg (fun word => word.toBitVec.getLsbD place) low
  have bit8 : flags.toBitVec[8] = false := by simpa [objectFlagsMask] using under 8
  have bit9 : flags.toBitVec[9] = false := by simpa [objectFlagsMask] using under 9
  have bit10 : flags.toBitVec[10] = false := by simpa [objectFlagsMask] using under 10
  have bit11 : flags.toBitVec[11] = false := by simpa [objectFlagsMask] using under 11
  apply UInt16.toBitVec_inj.mp
  apply BitVec.eq_of_getLsbD_eq
  intro place inside
  interval_cases place <;> simp [getEntryFlagsMask, getEntryFlagsShift, bit8, bit9, bit10, bit11]

/-- The mark of an uninspected list is not the truncation's bit. -/
theorem private_marked (row : UInt16) :
    (((row ||| (ObjectFlag.argReadFailure.toUInt16 ||| getEntryUninspected)) &&&
      getEntryFlagsMask) >>> getEntryFlagsShift).toUInt8 &&& 2 =
      ((row &&& getEntryFlagsMask) >>> getEntryFlagsShift).toUInt8 &&& 2 := by
  apply UInt8.toBitVec_inj.mp
  apply BitVec.eq_of_getLsbD_eq
  intro place inside
  interval_cases place <;>
    simp [getEntryFlagsMask, getEntryFlagsShift, getEntryUninspected, ObjectFlag.argReadFailure]

theorem EntryForm.merge {side : ObjectStart} (form : EntryForm side) (low : PublicFlags flags) :
    EntryForm { side with flags := side.flags ||| flags.toUInt16 } := by
  unfold EntryForm
  rw [private_public side.flags low]
  exact form

/-! ## The owner row -/

/-- The row of one call, from its binding on; `listed` says what its request
lists may be. -/
structure SideForm (listed : ObjectAttributeListWire → Prop) (descriptor : UInt32)
    (row : ObjectDescriptorWire) (layout : LinuxLayout) (side : ObjectStart) : Prop where
  index : side.descriptorIndex = descriptor
  coded : side.layout = layout.code
  derive : side.derive ≤ deriveEcdh1Cofactor
  derives : row.action ≠ ActionCode.derive → side.derive = deriveUnavailable
  inputs : side.phase ≠ Phase.entry → ∀ place : Fin 2, validHandlePosition row.inputArgs[place]
    side.inputStatuses[place] side.inputs[place] layout.code
      (row.action = ActionCode.importState) = true
  lists : ∀ pair : Fin 2, listed side.requested[pair]
  entry : EntryForm side

/-- Request lists before they are inspected. -/
def FreshList (list : ObjectAttributeListWire) : Prop := list = {}

/-- Request lists after the attribute step. -/
def SettledList (wired : Bool) (list : ObjectAttributeListWire) : Prop :=
  if wired then list = uninspectedList ∨ InspectedList list else list = {}

section Steps

variable {listed : ObjectAttributeListWire → Prop} {descriptor : UInt32}
variable {row : ObjectDescriptorWire} {side : ObjectStart}

theorem boundSide_form (image : ImageIdentity) (entryNs : UInt64) :
    SideForm FreshList descriptor row layout (boundSide image entryNs descriptor row layout) where
  index := rfl
  coded := rfl
  derive := (by decide : (0 : UInt8) ≤ deriveEcdh1Cofactor)
  derives _ := rfl
  inputs ready := absurd rfl ready
  lists pair := by
    change (Vector.replicate 2 ({} : ObjectAttributeListWire))[pair] = {}
    rw [Fin.getElem_fin, Vector.getElem_replicate]
  entry long := absurd (by decide :
    (((0 : UInt16) &&& getEntryFlagsMask) >>> getEntryFlagsShift).toUInt8 &&& 2 = 0) long

theorem inputVerdict_public (facts : EntryFacts) (row : ObjectDescriptorWire)
    (layout : LinuxLayout) (arg : UInt8) :
    PublicFlags (suppressed facts.nullCancel (inputVerdict facts row layout arg)).flags := by
  rw [suppressed_flags]
  exact (inputVerdict_spec facts row layout arg).2

theorem objectFillEntry_form (facts : EntryFacts)
    (form : SideForm listed descriptor row layout side) :
    Settles (SideForm listed descriptor row layout) (objectFillEntry facts row layout side) := by
  unfold objectFillEntry
  split
  · exact trivial
  split
  · exact form
  · have low : PublicFlags
        ((suppressed facts.nullCancel (inputVerdict facts row layout row.inputArgs[0])).flags |||
        (suppressed facts.nullCancel (inputVerdict facts row layout row.inputArgs[1])).flags |||
        (if facts.nullCancel then ObjectFlag.nullMechanismCancel else 0)) :=
      ((inputVerdict_public facts row layout _).or (inputVerdict_public facts row layout _)).or
        (PublicFlags.ite (by decide) PublicFlags.zero)
    refine { form with inputs := fun _ place => ?_, entry := form.entry.merge low }
    fin_cases place
    · exact inputVerdict_valid facts row layout row.inputArgs[0]
    · exact inputVerdict_valid facts row layout row.inputArgs[1]

theorem DeriveEntry.code_le (entry : DeriveEntry) : entry.code ≤ deriveEcdh1Cofactor := by
  cases entry with
  | accepted mechanism => cases mechanism <;> decide
  | unavailable => decide

section

variable (facts : EntryFacts) (form : SideForm listed descriptor row layout side)
include facts form

theorem adapterDeriveEntry_form : (adapterDeriveEntry facts row layout side).Yields honest
      (Settles (SideForm listed descriptor row layout)) := by
  unfold adapterDeriveEntry
  split
  case isTrue => exact trivial
  split
  case isTrue => exact form
  rename_i derives
  split
  case isTrue => exact trivial
  refine Asking.Yields.bind (Asking.Yields.of_forall (fun _ => trivial) _) fun derive _ => ?_
  exact { form with derive := derive.code_le, derives := fun other => absurd other derives }

theorem objectEntryResults_form : (objectEntryResults facts row layout side).Yields honest
      (Settles (SideForm listed descriptor row layout)) := by
  unfold objectEntryResults
  split
  · exact trivial
  split
  · exact form
  · have any (arg : UInt8) : (retainResult facts row layout arg).Yields honest
        (Settles fun _ => True) := by
      refine Asking.Yields.of_forall (fun result => ?_) _
      cases result with
      | none | some => exact trivial
    refine andThen_yields (any _) fun first _ => andThen_yields (any _) fun second _ => ?_
    exact { form with }

theorem objectEntryFind_form :
    Settles (SideForm listed descriptor row layout) (objectEntryFind facts row side) := by
  unfold objectEntryFind
  split
  · exact trivial
  · split
    · exact form
    · exact { form with }

end

theorem EntryForm.of_public (side : ObjectStart) (low : PublicFlags flags) :
    EntryForm { side with flags := flags.toUInt16 } := by
  have zero : EntryForm { side with flags := 0 } := fun long => absurd (by decide :
    (((0 : UInt16) &&& getEntryFlagsMask) >>> getEntryFlagsShift).toUInt8 &&& 2 = 0) long
  have merged := zero.merge low
  rw [UInt16.zero_or] at merged
  exact merged

/-- The input positions of a key-encapsulation row. -/
theorem kemInputs_valid (named : row.inputArgs = #v[2, argNone])
    (sound : SoundWord layout status word) (present : status ≠ 0) (place : Fin 2) :
    validHandlePosition row.inputArgs[place] #v[status, HandleStatus.absent][place]
      #v[word, 0][place] layout.code (row.action = ActionCode.importState) = true := by
  rw [named]
  fin_cases place
  · exact validHandlePosition_of sound (fun absent => absurd absent (by decide))
      fun _ _ => present
  · exact validHandlePosition_of (SoundWord.zero layout HandleStatus.absent (by decide))
      (fun _ => rfl) fun named => absurd rfl named

theorem adapterKemEntry_form (wired : Bool) (facts : EntryFacts)
    (form : SideForm listed descriptor row layout side) :
    (adapterKemEntry wired facts row layout side).Yields honest
      (Settles (SideForm listed descriptor row layout)) := by
  unfold adapterKemEntry
  split
  case isTrue => exact trivial
  split
  case isTrue => exact form
  split
  case isTrue => exact trivial
  rename_i exactRow
  have named : row.inputArgs = #v[2, argNone] := not_not.mp fun other => exactRow (.inl other)
  split
  case isTrue =>
    refine { form with inputs := fun _ place => ?_ }
    exact kemInputs_valid named (SoundWord.zero layout HandleStatus.protocolUnavailable
      (by decide)) (by decide) place
  have ⟨fine, nonzero, fetched⟩ := handleVerdict_spec layout (facts.fetchArg 2)
    (by decide : HandleStatus.invalidZero ≤ handleStatusMax ∧ _)
  have sound := suppressed_sound facts.nullCancel fine
  have present : (suppressed facts.nullCancel (handleVerdict layout
      HandleStatus.invalidZero (facts.fetchArg 2))).status ≠ 0 := by
    rw [Ne, suppressed_status_eq_zero]
    exact nonzero (by decide)
  have cancel : PublicFlags ObjectFlag.nullMechanismCancel := by decide
  have any : (kemResult facts row layout).Yields honest (Settles fun _ => True) :=
    Asking.Yields.of_forall (fun result => by cases result <;> exact trivial) _
  refine andThen_yields any fun result _ => ?_
  exact { form with
    inputs := fun _ place => kemInputs_valid named sound present place
    entry := EntryForm.of_public side
      (fetched.or (PublicFlags.ite cancel PublicFlags.zero)) }

theorem FreshList.settled {wired : Bool} (fresh : FreshList list) : SettledList wired list := by
  unfold SettledList
  split
  · right
    rw [fresh]
    exact InspectedList.bare (by decide) rfl
  · exact fresh

theorem inspectPair_form (build : Build) (layout : LinuxLayout)
    (pair peer : Option (UInt64 × UInt64)) (fresh : FreshList list) :
    (inspectPair build layout pair peer list).Yields honest fun out =>
      SettledList true out.1 ∧ PublicFlags out.2 := by
  cases pair with
  | none => exact ⟨fresh.settled, PublicFlags.zero⟩
  | some table =>
    refine (inspectRequestTemplateInto_form _ _ peer layout build list).mono ?_
    exact fun out good => ⟨.inr good.1, good.2⟩

section

variable (facts : EntryFacts) (form : SideForm FreshList descriptor row layout side)
include form

theorem SideForm.settle {wired : Bool} : SideForm (SettledList wired) descriptor row layout side :=
  { form with lists := fun pair => (form.lists pair).settled }

theorem captureGetTemplate_form : (captureGetTemplate facts row layout side).Yields honest
    (SideForm (SettledList true) descriptor row layout) := by
  have captured {out : ObjectStart} (entry : EntryCaptured side out) :
      SideForm FreshList descriptor row layout out := by
    rw [entry.rest]
    exact { form with entry := by rw [← entry.rest]; exact entry.form }
  unfold captureGetTemplate
  dsimp only
  split
  · exact form.settle
  split
  · refine Asking.Yields.map ((captureGetEntryInto_yields _ _ layout side).mono ?_)
    exact fun out entry => (captured entry).settle
  · refine (captureGetEntryInto_yields 0 0 layout side).bind fun out entry => ?_
    have kept : SideForm (SettledList true) descriptor row layout out.1 := (captured entry).settle
    refine { kept with entry := ?_ }
    unfold EntryForm
    rw [private_marked]
    exact kept.entry

theorem markUninspected_lists (pair : Fin 2) :
    SettledList true (markUninspected row side).requested[pair] := by
  have marked (place : Fin 2) : SettledList true
      (if row.pairPresent place then
        { side.requested[place] with flags := AttrListFlag.uninspected }
      else side.requested[place]) := by
    have fresh := form.lists place
    split
    · left
      rw [fresh]
      rfl
    · exact fresh.settled
  fin_cases pair
  · exact marked 0
  · exact marked 1

variable (build : Build)

theorem captureRequestPairs_form :
    (captureRequestPairs build facts row layout side).Yields honest
      (SideForm (SettledList true) descriptor row layout) := by
  have failing : PublicFlags ObjectFlag.argReadFailure := by decide
  unfold captureRequestPairs
  dsimp only
  split
  · exact { form with lists := markUninspected_lists form }
  split
  · exact { form with
      lists := markUninspected_lists form, entry := form.entry.merge failing }
  · refine (inspectPair_form build layout _ _ (form.lists 0)).bind fun first one => ?_
    refine (inspectPair_form build layout _ _ (form.lists 1)).bind fun second two => ?_
    refine { form with lists := fun pair => ?_, entry := form.entry.merge (one.2.or two.2) }
    fin_cases pair
    · exact one.1
    · exact two.1

theorem adapterAttributesEntry_form (wired : Bool) :
    (adapterAttributesEntry build wired facts row layout side).Yields honest
      (Settles (SideForm (SettledList wired) descriptor row layout)) := by
  unfold adapterAttributesEntry
  split
  · exact trivial
  cases wired with
  | false => exact form.settle
  | true =>
    simp only [Bool.not_true, Bool.false_eq_true, ↓reduceIte]
    split
    · exact Asking.Yields.map (captureGetTemplate_form facts form)
    · exact Asking.Yields.map (captureRequestPairs_form facts form build)

/-- The whole entry settles the owner row. -/
theorem objectEntry_form (wired : Bool) :
    (objectEntry build wired facts row layout side).Yields honest
      (Settles (SideForm (SettledList wired) descriptor row layout)) := by
  refine andThen_yields (objectFillEntry_form facts form) fun filled one => ?_
  refine andThen_yields (adapterDeriveEntry_form facts one) fun derived two => ?_
  refine andThen_yields (objectEntryResults_form facts two) fun retained three => ?_
  refine andThen_yields (adapterKemEntry_form wired facts three) fun acquired four => ?_
  refine andThen_yields (objectEntryFind_form facts four) fun found five => ?_
  exact adapterAttributesEntry_form facts five build wired

end

end Steps

/-! ## Result slots -/

section Slots

variable {arg : UInt8} {slot : ResultSlot}

/-- A slot after its gate: it may be read, or its status stands. -/
structure GatedSlot (arg : UInt8) (slot : ResultSlot) : Prop where
  finite : slot.status ≤ handleStatusMax
  unread : slot.status ≠ 1 ∧ slot.word = 0
  absent : arg = argNone → slot.status = 0 ∧ slot.gated = false
  present : arg ≠ argNone → slot.gated = true ∨ slot.status ≠ 0

/-- A slot ready to be published. -/
structure SettledSlot (layout : LinuxLayout) (arg : UInt8) (slot : ResultSlot) : Prop where
  sound : SoundWord layout slot.status slot.word
  absent : arg = argNone → slot.status = 0
  present : arg ≠ argNone → slot.status ≠ 0

theorem SettledSlot.valid (settled : SettledSlot layout arg slot) :
    validHandlePosition arg slot.status slot.word layout.code false = true :=
  validHandlePosition_of settled.sound settled.absent fun named _ => settled.present named

theorem gateSlot_gated (arg action : UInt8) (deriveOk : Bool) :
    GatedSlot arg (gateSlot arg action deriveOk) := by
  unfold gateSlot slotGate
  split
  case isTrue absent =>
    exact ⟨by decide, by decide, fun _ => ⟨rfl, rfl⟩, fun named => absurd absent named⟩
  rename_i named
  split
  · exact ⟨by decide, by decide, fun absent => absurd absent named, fun _ => .inr (by decide)⟩
  · exact ⟨by decide, by decide, fun absent => absurd absent named, fun _ => .inl rfl⟩

theorem gateFlag_public (arg action : UInt8) (deriveOk : Bool) :
    PublicFlags (gateFlag arg action deriveOk) :=
  PublicFlags.ite (by decide) PublicFlags.zero

section

variable (gated : GatedSlot arg slot)
include gated

theorem GatedSlot.named (readable : slot.gated = true) : arg ≠ argNone := by
  intro absent
  rw [(gated.absent absent).2] at readable
  cases readable

/-- A slot that is not read keeps its status. -/
theorem GatedSlot.settled (shut : slot.gated = false) : SettledSlot layout arg slot := by
  refine ⟨?_, fun absent => (gated.absent absent).1, fun named => ?_⟩
  · rw [gated.unread.2]
    exact SoundWord.zero layout slot.status ⟨gated.finite, gated.unread.1⟩
  · refine (gated.present named).resolve_left ?_
    rw [shut]
    decide

/-- A slot that may be read takes any nonzero status and its word. -/
theorem GatedSlot.taken (readable : slot.gated = true) (sound : SoundWord layout status word)
    (nonzero : status ≠ 0) : SettledSlot layout arg { slot with status := status, word := word } :=
  ⟨sound, fun absent => absurd absent (gated.named readable), fun _ => nonzero⟩

theorem GatedSlot.marked (readable : slot.gated = true) (status : UInt8)
    (plain : (status ≤ handleStatusMax ∧ status ≠ 1) ∧ status ≠ 0) :
    SettledSlot layout arg { slot with status := status } := by
  have taken := gated.taken readable (SoundWord.zero layout status plain.1) plain.2
  rw [← gated.unread.2] at taken
  exact taken

end

theorem wordVerdict_sound (layout : LinuxLayout) (observed : Option UInt64) :
    SoundWord layout (wordVerdict layout observed).1 (wordVerdict layout observed).2 ∧
      (wordVerdict layout observed).1 ≠ 0 := by
  let verdict := handleVerdict layout HandleStatus.invalidZero observed
  have same : wordVerdict layout observed = (verdict.status, verdict.word) := by
    cases observed with
    | none => rfl
    | some word =>
      dsimp only [wordVerdict, verdict, handleVerdict]
      split_ifs <;> rfl
  have ⟨sound, nonzero, _⟩ := handleVerdict_spec layout observed
    (by decide : HandleStatus.invalidZero ≤ handleStatusMax ∧ _)
  rw [same]
  exact ⟨sound, nonzero (by decide)⟩

variable (layout) in
/-- A slot is readable unchanged, or its span settled it. -/
theorem spanSlot_cases (gated : GatedSlot arg slot) (ptr : UInt64) :
    ((spanSlot slot ptr layout).1 = true ∧ (spanSlot slot ptr layout).2 = slot ∧
        slot.gated = true) ∨
      ((spanSlot slot ptr layout).1 = false ∧
        SettledSlot layout arg (spanSlot slot ptr layout).2) := by
  unfold spanSlot
  by_cases readable : slot.gated = true
  · rw [if_pos readable]
    unfold slotSpan
    split
    · exact .inr ⟨rfl, gated.marked readable HandleStatus.unreadable (by decide)⟩
    split
    · exact .inr ⟨rfl, gated.marked readable HandleStatus.invalidSpan (by decide)⟩
    · exact .inl ⟨rfl, rfl, readable⟩
  · rw [if_neg readable]
    exact .inr ⟨rfl, gated.settled (Bool.not_eq_true _ ▸ readable)⟩

theorem readSlot_settled (gated : GatedSlot arg slot) (ptr : UInt64) :
    (readSlot (spanSlot slot ptr layout).1 (spanSlot slot ptr layout).2 ptr layout).Yields honest
      (SettledSlot layout arg) := by
  unfold readSlot
  rcases spanSlot_cases layout gated ptr with ⟨readable, same, gate⟩ | ⟨unread, settled⟩
  · rw [readable, same]
    refine yields_readWord fun observed _ => ?_
    have verdict := wordVerdict_sound layout observed
    exact gated.taken gate verdict.1 verdict.2
  · rw [unread]
    exact settled

theorem SettledSlot.duplicated (settled : SettledSlot layout arg slot)
    (valued : slot.status = HandleStatus.value) :
    SettledSlot layout arg { slot with status := HandleStatus.duplicate, word := 0 } := by
  refine ⟨SoundWord.zero layout HandleStatus.duplicate (by decide), fun absent => ?_,
    fun _ => (by decide : HandleStatus.duplicate ≠ 0)⟩
  have zero := settled.absent absent
  rw [valued] at zero
  exact absurd zero (by decide)

theorem crossCheck_settled {otherArg : UInt8} {first second : ResultSlot}
    (one : SettledSlot layout arg first) (two : SettledSlot layout otherArg second) :
    SettledSlot layout arg (crossCheck first second).1 ∧
      SettledSlot layout otherArg (crossCheck first second).2.1 ∧
      PublicFlags (crossCheck first second).2.2 := by
  have duplicate : PublicFlags ObjectFlag.duplicateResult := by decide
  have partly : PublicFlags ObjectFlag.partialResult := by decide
  refine ⟨?_, ?_, (PublicFlags.ite duplicate PublicFlags.zero).or
    (PublicFlags.ite partly PublicFlags.zero)⟩
  · dsimp only [crossCheck]
    split
    case isTrue same => exact one.duplicated same.1
    case isFalse => exact one
  · dsimp only [crossCheck]
    split
    case isTrue same => exact two.duplicated same.2.1
    case isFalse => exact two

/-- Both published slots, with public flags. -/
structure SettledResults (layout : LinuxLayout) (row : ObjectDescriptorWire)
    (found : ResultSlot × ResultSlot × UInt32) : Prop where
  first : SettledSlot layout (getElem row.resultArgs 0 Nat.two_pos) found.1
  second : SettledSlot layout (getElem row.resultArgs 1 Nat.one_lt_two) found.2.1
  flags : PublicFlags found.2.2

theorem readResults_settled {row : ObjectDescriptorWire} (ptrs : Vector UInt64 2)
    {first second : ResultSlot} (one : GatedSlot (getElem row.resultArgs 0 Nat.two_pos) first)
    (two : GatedSlot (getElem row.resultArgs 1 Nat.one_lt_two) second) :
    (readResults layout ptrs first second).Yields honest (SettledResults layout row) := by
  unfold readResults
  dsimp only
  split
  case isTrue overlap =>
    simp only [Bool.and_eq_true] at overlap
    rcases spanSlot_cases layout one ptrs[0] with ⟨_, firstSame, firstGate⟩ | ⟨unread, _⟩
    · rcases spanSlot_cases layout two ptrs[1] with ⟨_, secondSame, secondGate⟩ | ⟨unread, _⟩
      · rw [firstSame, secondSame]
        exact ⟨one.marked firstGate HandleStatus.aliased (by decide),
          two.marked secondGate HandleStatus.aliased (by decide),
          (by decide : PublicFlags ObjectFlag.aliased)⟩
      · rw [unread] at overlap
        cases overlap.1.2
    · rw [unread] at overlap
      cases overlap.1.1
  case isFalse =>
    refine (readSlot_settled one ptrs[0]).bind fun firstRead firstSettled => ?_
    refine (readSlot_settled two ptrs[1]).bind fun secondRead secondSettled => ?_
    obtain ⟨left, right, flags⟩ := crossCheck_settled firstSettled secondSettled
    exact ⟨left, right, flags⟩

theorem resultSlots_settled (facts : ReturnFacts) (row : ObjectDescriptorWire)
    (layout : LinuxLayout) (side : ObjectStart) :
    (resultSlots facts row layout side).Yields honest (SettledResults layout row) := by
  unfold resultSlots
  dsimp only
  generalize (decide (row.action ≠ ActionCode.derive) ||
    authorizeDeriveReturn (DeriveEntry.ofCode side.derive) facts) = deriveOk
  have one := gateSlot_gated row.resultArgs[0] row.action deriveOk
  have two := gateSlot_gated row.resultArgs[1] row.action deriveOk
  have low := (gateFlag_public row.resultArgs[0] row.action deriveOk).or
    (gateFlag_public row.resultArgs[1] row.action deriveOk)
  split
  case isTrue shut =>
    simp only [Bool.and_eq_true, Bool.not_eq_true'] at shut
    exact ⟨one.settled shut.1, two.settled shut.2, low⟩
  split
  case isTrue =>
    have refused {arg : UInt8} {slot : ResultSlot} (gated : GatedSlot arg slot) :
        SettledSlot layout arg (if slot.gated then
          { slot with status := HandleStatus.protocolUnavailable } else slot) := by
      split
      case isTrue gate =>
        exact gated.marked gate HandleStatus.protocolUnavailable (by decide)
      case isFalse shut => exact gated.settled (Bool.not_eq_true _ ▸ shut)
    exact ⟨refused one, refused two, low⟩
  case isFalse =>
    refine (readResults_settled side.resultPtrs one two).bind fun found settled => ?_
    exact ⟨settled.first, settled.second, low.or settled.flags⟩

end Slots

/-! ## The tail -/

section Tails

variable {wired : Bool} {descriptor : UInt32} {row : ObjectDescriptorWire}
variable {side : ObjectStart} {tail : ObjectCallWire}

/-- The row after its result handles were read. -/
structure ReturnedSide (wired : Bool) (descriptor : UInt32) (row : ObjectDescriptorWire)
    (layout : LinuxLayout) (side : ObjectStart) : Prop where
  form : SideForm (SettledList wired) descriptor row layout side
  ready : side.phase ≠ Phase.entry
  results : row.action ≠ ActionCode.find → ∀ place : Fin 2,
    validHandlePosition row.resultArgs[place] side.resultStatuses[place] side.resultPtrs[place]
      layout.code false = true

theorem adapterFillReturn_form (facts : ReturnFacts)
    (form : SideForm (SettledList wired) descriptor row layout side) :
    (adapterFillReturn facts row layout side).Yields honest
      (Settles (ReturnedSide wired descriptor row layout)) := by
  have returning : Phase.returning ≠ Phase.entry := by decide
  unfold adapterFillReturn
  split
  case isTrue => exact trivial
  split
  case isTrue => exact trivial
  rename_i ready
  have started : side.phase ≠ Phase.entry := by
    rw [not_not.mp ready]
    decide
  split
  case isTrue => exact trivial
  split
  case isTrue finds =>
    exact ⟨{ form with inputs := fun _ => form.inputs started }, returning,
      fun other => absurd finds other⟩
  refine (resultSlots_settled facts row layout side).bind fun found settled => ?_
  refine ⟨{ form with
    inputs := fun _ => form.inputs started, entry := form.entry.merge settled.flags },
    returning, fun _ place => ?_⟩
  fin_cases place
  · exact settled.first.valid
  · exact settled.second.valid

/-- A record whose Find section is still zero. -/
structure BlankFind (tail : ObjectCallWire) : Prop where
  handles : tail.findHandles = Vector.replicate 8 0
  statuses : tail.findStatus = Vector.replicate 8 0
  length : tail.findLen = 0
  flags : tail.findFlags = 0
  valid : tail.findValid = 0
  reserved : tail.reserved1 = 0

theorem rowAccepted_eligible (accepted : rowAccepted row descriptor = true) : EligibleRow row := by
  simp only [rowAccepted, Bool.and_eq_true, decide_eq_true_eq] at accepted
  exact ⟨accepted.1.1.1.2, accepted.1.1.2, accepted.1.2, accepted.2⟩

theorem rowAccepted_function (accepted : rowAccepted row descriptor = true)
    (named : descriptor ≠ 0) : row.function.toNat = descriptor.toNat - 1 := by
  simp only [rowAccepted, Bool.and_eq_true, decide_eq_true_eq] at accepted
  have positive : 1 ≤ descriptor := by
    refine Nat.pos_of_ne_zero fun zero => named ?_
    exact UInt32.toNat_inj.mp zero
  rw [accepted.1.1.1.1, UInt32.toNat_sub_of_le _ _ positive]
  rfl

theorem requestedTail_form (canonical : CanonicalRow row)
    (form : SideForm (SettledList wired) descriptor row layout side) :
    RequestedForm (getElem row.templateArgs 0 zero_lt_four)
        (getElem row.templateArgs 1 one_lt_four) (requestedTail wired row side 0) ∧
      RequestedForm (getElem row.templateArgs 2 two_lt_four)
        (getElem row.templateArgs 3 three_lt_four) (requestedTail wired row side 1) := by
  have settled (pair : Fin 2) (present : row.pairPresent pair = true) :
      requestedTail wired row side pair = uninspectedList ∨
        InspectedList (requestedTail wired row side pair) := by
    have list := form.lists pair
    unfold requestedTail
    rw [if_pos present]
    unfold SettledList at list
    split
    case isTrue full =>
      rw [if_pos full] at list
      exact list
    rename_i stub
    rw [if_neg stub] at list
    rw [list]
    exact .inl rfl
  have absent (pair : Fin 2) (missing : row.pairPresent pair = false) :
      requestedTail wired row side pair = {} := by
    unfold requestedTail
    rw [missing]
    rfl
  refine ⟨⟨canonical.firstPair, fun none => absent 0 ?_, fun named => settled 0 ?_⟩,
    ⟨canonical.secondPair, fun none => absent 1 ?_, fun named => settled 1 ?_⟩⟩
  · simp [ObjectDescriptorWire.pairPresent, none]
  · simp [ObjectDescriptorWire.pairPresent, named, canonical.firstPair.not.mp named]
  · simp [ObjectDescriptorWire.pairPresent, none]
  · simp [ObjectDescriptorWire.pairPresent, named, canonical.secondPair.not.mp named]

/-- A zero Find section with at most a refusal's flag. -/
theorem BlankFind.form (blank : BlankFind tail) (flag : UInt8)
    (masked : flag &&& ~~~findFlagsMask = 0) (short : flag &&& 1 = 0)
    (other : tail.action ≠ ActionCode.find → flag = 0) :
    FindForm { tail with findFlags := flag } := by
  have status (place : Fin 8) : tail.findStatus[place] = 0 := by
    rw [blank.statuses, Fin.getElem_fin, Vector.getElem_replicate]
  have word (place : Fin 8) : tail.findHandles[place] = 0 := by
    rw [blank.handles, Fin.getElem_fin, Vector.getElem_replicate]
  have length : tail.findLen.toNat = 0 := by rw [blank.length]; rfl
  refine ⟨blank.reserved, ?_, masked, ?_, fun none => ?_, fun _ => blank.length,
    fun long => absurd short long, fun place => ?_, fun place => ?_, fun place => ?_⟩
  · rw [blank.length]
    decide
  · rw [blank.valid]
    decide
  · exact ⟨blank.length, other none, blank.valid, fun place => ⟨status place, word place⟩⟩
  · rw [status place]
    decide
  · rw [status place, length]
    simp
  · rw [status place, word place]
    simp [validHandleWord]

theorem BlankFind.formed (blank : BlankFind tail) : FindForm tail := by
  have same : { tail with findFlags := 0 } = tail := by rw [← blank.flags]
  exact same ▸ blank.form 0 rfl rfl fun _ => rfl

/-- A Find's own result positions: the array is unavailable, the second is absent. -/
theorem findPosition_valid
    (args : getElem row.resultArgs 0 Nat.two_pos ≠ argNone ∧
      getElem row.resultArgs 1 Nat.one_lt_two = argNone) (code : UInt8) (place : Fin 2) :
    validHandlePosition row.resultArgs[place]
      (#v[HandleStatus.protocolUnavailable, HandleStatus.absent] : Vector UInt8 2)[place]
      (#v[0, 0] : Vector UInt64 2)[place] code false = true := by
  fin_cases place
  · simp [validHandlePosition, validHandleWord, args.1]
    decide
  · simp [validHandlePosition, validHandleWord, args.2]
    decide

theorem masked_public (flags : UInt32) : flags &&& objectFlagsMask &&& ~~~objectFlagsMask = 0 := by
  rw [UInt32.and_assoc]
  exact UInt32.and_zero

/-- A tail as the fill leaves it: no Find cell and no result attribute yet. -/
structure FilledTail (row : ObjectDescriptorWire) (layout : LinuxLayout) (tail : ObjectCallWire) :
    Prop where
  form : TailForm row tail
  blank : BlankFind tail
  coded : tail.layout = layout.code
  results : row.action = ActionCode.get → tail.resultAttributes = uninspectedList

theorem adapterTailFill_form (canonical : CanonicalRow row) (named : descriptor ≠ 0)
    (inside : descriptor < maxDescriptors)
    (returned : ReturnedSide wired descriptor row layout side) :
    Settles (FilledTail row layout) (adapterTailFill wired descriptor row side) := by
  have form := returned.form
  obtain ⟨first, second⟩ := requestedTail_form canonical form
  unfold adapterTailFill
  split
  case isTrue => exact trivial
  split
  case isTrue => exact trivial
  rename_i refused
  have accepted : rowAccepted row descriptor = true := by simpa using refused
  have coded : layout.code = layoutLp64 ∨ layout.code = layoutIlp32 := by
    cases layout with
    | lp64 => exact .inl rfl
    | ilp32 => exact .inr rfl
  refine ⟨?_, ⟨rfl, rfl, rfl, rfl, rfl, rfl⟩, form.coded, fun gets => if_pos gets⟩
  refine
    { version := rfl, bytes := rfl, index := named, indexMax := inside
      function := rowAccepted_function accepted named
      eligible := rowAccepted_eligible accepted
      action := rfl
      flags := masked_public _
      layout := form.coded ▸ coded
      derive := form.derive
      derives := form.derives
      reserved := ⟨rfl, rfl⟩
      inputs := ?_, results := ?_, find := ?_
      firstList := first, secondList := second
      noResults := fun other => if_neg other
      resultList := fun gets => .inl (if_pos gets) }
  · intro place
    rw [form.coded]
    exact form.inputs returned.ready place
  · intro place
    by_cases finds : row.action = ActionCode.find
    case pos =>
      rw [if_pos finds, if_pos finds]
      exact findPosition_valid (canonical.findResults finds) side.layout place
    case neg =>
      rw [if_neg finds, if_neg finds, form.coded]
      exact returned.results finds place
  · refine BlankFind.formed ?_
    exact ⟨rfl, rfl, rfl, rfl, rfl, rfl⟩

end Tails

end P11Scope.Capture
