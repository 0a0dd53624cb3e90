import P11Scope.Capture.Codec

/-!
# What the request walker can publish

Whatever the observed process answers, the facts of a slot are valid, so they
survive the packed boundary, and a nonzero value is an approved code.
-/

namespace P11Scope.Capture

open Lib

variable {honest : (query : ReadQuery) → ReadAnswer query → Prop} {layout : LinuxLayout}

theorem yields_readWord {α : Type} {address : UInt64} {next : Option UInt64 → Reading α}
    {post : α → Prop}
    (every : ∀ word : Option UInt64, honest (.word address layout) word →
      (next word).Yields honest post) : (readWord address layout >>= next).Yields honest post :=
  Asking.Yields.query_bind every

theorem yields_readBytes {α : Type} {address : UInt64} {length : Nat}
    {next : Option (Vector UInt8 length) → Reading α} {post : α → Prop}
    (every : ∀ bytes : Option (Vector UInt8 length), honest (.bytes address length) bytes →
      (next bytes).Yields honest post) :
    (readBytes address length >>= next).Yields honest post :=
  Asking.Yields.query_bind every

/-! ## Classified values -/

variable (kind : SafeAttributeKind)

/-- The codes a value of this kind may publish. -/
def ApprovedCode (code : UInt16) : Prop :=
  (∃ scalar ∈ approvedScalars kind, code = scalar.toUInt16) ∨
    kind = .ecParams ∧ ∃ curve, code = safeCurveCode curve

theorem classifyAttributeScalar_approved {kind : SafeAttributeKind} {word : UInt64}
    {code : UInt16} (classified : classifyAttributeScalar kind word = some code) :
    ApprovedCode kind code := by
  unfold classifyAttributeScalar at classified
  split at classified
  case isTrue approved => exact .inl ⟨word, approved, (Option.some.inj classified).symm⟩
  case isFalse => cases classified

/-- A classification is an approved code or one of three refusals. -/
def Classified : Except UInt8 UInt16 → Prop
  | .ok code => ApprovedCode kind code
  | .error status => status = AttrStatus.unreadable ∨ status = AttrStatus.unsupported ∨
      status = AttrStatus.invalidLength

theorem classifyAttributeScalar_classified (word : UInt64) : Asking.Yields honest (Classified kind)
      (match classifyAttributeScalar kind word with
        | some value => (pure (.ok value) : Reading (Except UInt8 UInt16))
        | none => pure (.error AttrStatus.unsupported)) := by
  cases classified : classifyAttributeScalar kind word with
  | none => exact .inr (.inl rfl)
  | some code => exact classifyAttributeScalar_approved classified

theorem readClassifiedValue_yields (ptr len : UInt64) (layout : LinuxLayout) :
    (readClassifiedValue kind ptr len layout).Yields honest (Classified kind) := by
  cases kind with
  | token =>
    refine yields_readBytes fun answer _ => ?_
    cases answer with
    | none => exact .inl rfl
    | some bytes => exact classifyAttributeScalar_classified .token bytes[0].toUInt64
  | ecParams =>
    dsimp only [readClassifiedValue]
    split
    · exact .inr (.inr rfl)
    refine yields_readBytes fun answer _ => ?_
    cases answer with
    | none => exact .inl rfl
    | some bytes =>
      dsimp only
      cases classifyEcParams bytes.toList with
      | none => exact .inr (.inl rfl)
      | some curve => exact .inr ⟨rfl, curve, rfl⟩
  | _ =>
    refine yields_readWord fun answer _ => ?_
    cases answer with
    | none => exact .inl rfl
    | some word =>
      dsimp only
      split
      · exact .inr (.inl rfl)
      · exact classifyAttributeScalar_classified _ word

/-! ## Value cells -/

/-- Only a classified value status carries a value. -/
structure SoundCell (cell : StableCell) : Prop where
  status : cell.status ≤ AttrStatus.insufficientCapacity
  value : cell.value = 0 ∨ cell.status = AttrStatus.value ∧ ApprovedCode kind cell.value
  contributed : cell.contributed = 0 ∨ cell.contributed = ObjectFlag.changedMetadata

variable {status : UInt8}

/-- A cell without a value is sound. -/
theorem SoundCell.empty (writeValue : Bool) (finite : status ≤ AttrStatus.insufficientCapacity) :
    SoundCell kind { status := status, value := 0, writeValue := writeValue, contributed := 0 } :=
  ⟨finite, .inl rfl, .inl rfl⟩

variable (base index : UInt64) (kind : SafeAttributeKind)

theorem stableCellCore_recheck_yields (ptr len : UInt64) (layout : LinuxLayout)
    {value : Option UInt16} (approved : ∀ code, value = some code → ApprovedCode kind code) :
    (stableCellCore.recheck base index kind ptr len layout value).Yields honest
      (SoundCell kind) := by
  unfold stableCellCore.recheck
  cases attributeHeaderAddresses base index layout with
  | none => exact SoundCell.empty kind false (by decide)
  | some addresses =>
    refine yields_readWord fun selector _ => ?_
    refine yields_readWord fun pointer _ => ?_
    refine yields_readWord fun length _ => ?_
    cases selector with
    | none => exact SoundCell.empty kind false (by decide)
    | some selector =>
      cases pointer with
      | none => exact SoundCell.empty kind false (by decide)
      | some ptr2 =>
        cases length with
        | none => exact SoundCell.empty kind false (by decide)
        | some len2 =>
          dsimp only
          split
          · cases value with
            | none => exact SoundCell.empty kind true (by decide)
            | some code =>
              have finite : AttrStatus.value ≤ AttrStatus.insufficientCapacity := by
                decide
              exact ⟨finite, .inr ⟨rfl, approved code rfl⟩, .inl rfl⟩
          · exact ⟨by decide, .inl rfl, .inr rfl⟩

theorem stableCellCore_yields (ptr len : UInt64) (layout : LinuxLayout) :
    (stableCellCore base index kind ptr len layout).Yields honest (SoundCell kind) := by
  refine (readClassifiedValue_yields kind ptr len layout).bind fun classified sound => ?_
  cases classified with
  | ok code =>
    refine stableCellCore_recheck_yields base index kind ptr len layout ?_
    intro other same
    exact Option.some.inj same ▸ sound
  | error status =>
    dsimp only
    split
    · refine stableCellCore_recheck_yields base index kind ptr len layout ?_
      exact fun _ none => nomatch none
    rcases sound with unread | unsupported | invalid
    · exact unread ▸ SoundCell.empty kind false (by decide)
    · exact unsupported ▸ SoundCell.empty kind false (by decide)
    · exact invalid ▸ SoundCell.empty kind false (by decide)

variable (build : Build)

/-- The packed form is decoded and packed around the core. -/
theorem stableCell_eq (ptr len : UInt64) (layout : LinuxLayout) :
    stableCell build base index kind ptr len layout =
      stableCellCore base index kind ptr len layout := by
  cases build with
  | host => rfl
  | bpf =>
    simp [stableCell, stableCellPacked]

/-! ## Alias scans -/

variable {index skip : UInt64}

/-- The packed argument keeps apart the same slots. -/
theorem masked_skip_iff (small : index < 8) (bounded : skip < 8 ∨ skip = noSkip) :
    index = skip &&& aliasSkipValueMask ↔ index = skip := by
  have below := UInt64.lt_iff_toNat_lt.mp small
  rw [← UInt64.toNat_inj, ← UInt64.toNat_inj, Packed.toNat_and_mask _ _ 63 rfl]
  rcases bounded with bound | none
  · have bound := UInt64.lt_iff_toNat_lt.mp bound
    rw [Nat.mod_eq_of_lt (bound.trans (by decide))]
  subst none
  change index.toNat < 8 at below
  change index.toNat = 2 ^ 63 - 1 ↔ index.toNat = 2 ^ 64 - 1
  omega

variable (base count ptr len : UInt64)

theorem aliasScanCore_masked (layout : LinuxLayout) (bounded : skip < 8 ∨ skip = noSkip) :
    aliasScanCore base count (skip &&& aliasSkipValueMask) ptr len layout =
      aliasScanCore base count skip ptr len layout := by
  have same : ((slotIndices count).filter fun index => index ≠ skip &&& aliasSkipValueMask) =
      (slotIndices count).filter fun index => index ≠ skip :=
    List.filter_congr fun index listed => decide_eq_decide.mpr
      (not_congr (masked_skip_iff (lt_eight_of_mem_slotIndices listed) bounded))
  unfold aliasScanCore
  rw [same]

/-- Both builds scan the same slots. -/
theorem requestAliasScan_eq (layout : LinuxLayout) (bounded : skip < 8 ∨ skip = noSkip) :
    requestAliasScan build base count skip ptr len layout =
      aliasScanCore base count skip ptr len layout := by
  cases build with
  | host => rfl
  | bpf =>
    simp [requestAliasScan, aliasScanPacked, decodeAliasSkipLayout_encodeAliasSkipLayout,
      aliasScanCore_masked base count ptr len layout bounded]

/-- The only flag a scan or a slot contributes. -/
def HeaderFlag (flags : UInt8) : Prop := flags = 0 ∨ flags = AttrListFlag.headerReadFailure

theorem HeaderFlag.or {first second : UInt8} (one : HeaderFlag first) (two : HeaderFlag second) :
    HeaderFlag (first ||| second) := by
  rcases one with rfl | rfl
  · rw [UInt8.zero_or]
    exact two
  · rcases two with rfl | rfl
    · exact .inr (by decide)
    · exact .inr (by decide)

theorem mergeFlags_headerFlag {flags : List UInt8} (each : ∀ flag ∈ flags, HeaderFlag flag) :
    HeaderFlag (mergeFlags flags) :=
  List.foldlRecOn flags (· ||| ·) (motive := HeaderFlag) (.inl rfl)
    fun _ merged flag listed => merged.or (each flag listed)

theorem scanNeighbour_yields (base ptr len : UInt64) (layout : LinuxLayout) (index : UInt64) :
    (scanNeighbour base ptr len layout index).Yields honest fun found =>
      HeaderFlag found.2 := by
  unfold scanNeighbour
  cases attributeHeaderAddresses base index layout with
  | none => exact .inr rfl
  | some addresses =>
    refine yields_readWord fun selector _ => ?_
    cases selector with
    | none => exact .inr rfl
    | some selector =>
      dsimp only
      cases safeAttributeKind selector with
      | none => exact .inl rfl
      | some kind =>
        refine yields_readWord fun pointer _ => ?_
        cases pointer with
        | none => exact yields_readWord fun _ _ => .inr rfl
        | some otherPtr =>
          refine yields_readWord fun length _ => ?_
          cases length with
          | none => exact .inr rfl
          | some otherLen => exact .inl rfl

theorem aliasScanCore_yields (base count skip ptr len : UInt64) (layout : LinuxLayout) :
    (aliasScanCore base count skip ptr len layout).Yields honest fun found =>
      HeaderFlag found.2 := by
  unfold aliasScanCore
  split
  · exact .inl rfl
  refine (Asking.Yields.mapM fun index _ =>
    scanNeighbour_yields base ptr len layout index).bind ?_
  intro found each
  refine mergeFlags_headerFlag fun flag listed => ?_
  obtain ⟨pair, member, same⟩ := List.mem_map.mp listed
  exact same ▸ each pair member

/-! ## Request cells -/

/-- Facts that name their kind and carry at most an approved value. -/
structure SoundFacts (facts : RequestCellFacts) : Prop where
  kind : facts.kind = 0 ∨ (kindFromCode facts.kind).isSome
  status : facts.status ≤ AttrStatus.insufficientCapacity
  value : facts.value = 0 ∨ facts.status = AttrStatus.value ∧
    ∃ kind, facts.kind = safeKindCode kind ∧ ApprovedCode kind facts.value
  listFlags : HeaderFlag facts.listFlags
  objectFlags : facts.objectFlags = 0 ∨ facts.objectFlags = ObjectFlag.aliased ∨
    facts.objectFlags = ObjectFlag.changedMetadata

theorem safeKindCode_ne_zero : safeKindCode kind ≠ 0 := by
  cases kind <;> decide

theorem SoundFacts.valid {facts : RequestCellFacts} (sound : SoundFacts facts) :
    requestCellFactsValid facts := by
  have value : facts.value = 0 ∨ facts.kind ≠ 0 ∧ facts.status = AttrStatus.value := by
    refine sound.value.imp_right ?_
    rintro ⟨status, kind, named, _⟩
    exact ⟨named ▸ safeKindCode_ne_zero kind, status⟩
  have listed : facts.listFlags &&& ~~~AttrListFlag.headerReadFailure = 0 := by
    rcases sound.listFlags with none | failed
    · rw [none]
      decide
    · rw [failed]
      decide
  have object :
      facts.objectFlags &&& ~~~(ObjectFlag.aliased ||| ObjectFlag.changedMetadata) = 0 := by
    rcases sound.objectFlags with none | aliased | changed
    · rw [none]
      decide
    · rw [aliased]
      decide
    · rw [changed]
      decide
  simpa [requestCellFactsValid, sound.kind, sound.status, listed, object] using value

/-- Facts without a value or an object flag. -/
theorem SoundFacts.plain {kind listFlags : UInt8} (known : kind = 0 ∨ (kindFromCode kind).isSome)
    (finite : status ≤ AttrStatus.insufficientCapacity) (flag : HeaderFlag listFlags) :
    SoundFacts { kind := kind, status := status, listFlags := listFlags } :=
  ⟨known, finite, .inl rfl, flag, .inl rfl⟩

theorem kindFromCode_isSome : safeKindCode kind = 0 ∨ (kindFromCode (safeKindCode kind)).isSome :=
  .inr (by rw [kindFromCode_safeKindCode]; rfl)

theorem spanStatus_le {header : Header} (ruled : spanStatus header layout = some status) :
    status ≤ AttrStatus.insufficientCapacity := by
  unfold spanStatus at ruled
  split at ruled
  · cases ruled
    decide
  split at ruled
  · cases ruled
    decide
  · split at ruled
    · cases ruled
      decide
    · cases ruled

variable (peer : Option (UInt64 × UInt64))

theorem peerAliasScan_yields (ptr len : UInt64) (layout : LinuxLayout) :
    (peerAliasScan build peer ptr len layout).Yields honest fun found => HeaderFlag found.2 := by
  cases peer with
  | none => exact .inl rfl
  | some table =>
    dsimp only [peerAliasScan]
    rw [requestAliasScan_eq build _ _ _ _ _ (.inr rfl)]
    exact aliasScanCore_yields _ _ _ _ _ layout

theorem peerAliasScan_build (ptr len : UInt64) (layout : LinuxLayout) :
    peerAliasScan build peer ptr len layout = peerAliasScan .host peer ptr len layout := by
  cases peer with
  | none => rfl
  | some table => exact requestAliasScan_eq build _ _ _ _ _ (.inr rfl)

section

variable (build : Build) (base count : UInt64) (peer : Option (UInt64 × UInt64))
  (layout : LinuxLayout)

theorem judgeCell_yields (header : Header) (bounded : index < 8) :
    (judgeCell build base count index peer layout header).Yields honest SoundFacts := by
  unfold judgeCell
  rw [requestAliasScan_eq build _ _ _ _ _ (.inl bounded), stableCell_eq]
  refine (aliasScanCore_yields base count index _ _ layout).bind fun own ownFlag => ?_
  refine (peerAliasScan_yields build peer _ _ layout).bind fun other otherFlag => ?_
  have known := kindFromCode_isSome header.kind
  have flag := ownFlag.or otherFlag
  split
  · exact ⟨known, (by decide : AttrStatus.aliased ≤ _), .inl rfl, flag, .inr (.inl rfl)⟩
  refine (stableCellCore_yields base index header.kind _ _ layout).bind fun cell sound => ?_
  refine ⟨known, sound.status, ?_, flag, sound.contributed.imp_right .inr⟩
  split
  · exact sound.value.imp_right fun ⟨status, approved⟩ => ⟨status, header.kind, rfl, approved⟩
  · exact .inl rfl

theorem requestCellCore_yields (bounded : index < 8) :
    (requestCellCore build base count index peer layout).Yields honest SoundFacts := by
  have unread : HeaderFlag AttrListFlag.headerReadFailure := .inr rfl
  have unreadable : AttrStatus.unreadable ≤ AttrStatus.insufficientCapacity := by decide
  unfold requestCellCore
  cases attributeHeaderAddresses base index layout with
  | none => exact SoundFacts.plain (.inl rfl) (by decide) unread
  | some addresses =>
    refine yields_readWord fun selector _ => ?_
    cases selector with
    | none => exact SoundFacts.plain (.inl rfl) (by decide) unread
    | some selector =>
      dsimp only
      cases safeAttributeKind selector with
      | none => exact SoundFacts.plain (.inl rfl) (by decide) (.inl rfl)
      | some kind =>
        have known := kindFromCode_isSome kind
        refine yields_readWord fun pointer _ => ?_
        cases pointer with
        | none => exact SoundFacts.plain known unreadable unread
        | some ptr =>
          refine yields_readWord fun length _ => ?_
          cases length with
          | none => exact SoundFacts.plain known unreadable unread
          | some len =>
            dsimp only
            cases ruled : spanStatus ⟨kind, selector, ptr, len⟩ layout with
            | some status => exact SoundFacts.plain known (spanStatus_le ruled) (.inl rfl)
            | none => exact judgeCell_yields build base count peer layout _ bounded

/-- Both builds judge a slot by the same program. -/
theorem requestCellCore_build (bounded : index < 8) :
    requestCellCore build base count index peer layout =
      requestCellCore .host base count index peer layout := by
  have judges (header : Header) : judgeCell build base count index peer layout header =
      judgeCell .host base count index peer layout header := by
    unfold judgeCell
    rw [requestAliasScan_eq build _ _ _ _ _ (.inl bounded), stableCell_eq, peerAliasScan_build]
    rfl
  unfold requestCellCore
  simp only [judges]

end

variable {count : UInt64}

/-- Inside an accepted table the packed boundary changes nothing. -/
theorem requestCell_eq {base : UInt64} (accepted : tableValid base count layout)
    (headers : (checkedAdd base (headerBytes count layout)).isSome)
    (listed : index ∈ slotIndices count) : requestCell build base count index peer layout =
      requestCellCore .host base count index peer layout := by
  have bounded := lt_eight_of_mem_slotIndices listed
  have inside : ¬ index ≥ maxAttributeSlots := UInt64.not_le.mpr bounded
  have within : ¬ index ≥ inspectedSlots count := UInt64.not_le.mpr (mem_slotIndices.mp listed)
  obtain ⟨tag, encoded⟩ : ∃ tag, encodeRequestCellTag index layout peer.isSome = some tag :=
    ⟨_, if_neg inside⟩
  have decoded := decodeRequestCellTag_encodeRequestCellTag encoded
  have peers : (if peer.isSome then some ((peer.getD (0, 0)).1, (peer.getD (0, 0)).2) else none) =
      peer := by
    cases peer with
    | none | some => rfl
  have present : (checkedAdd base (headerBytes count layout)).isNone = false := by
    rw [← Option.not_isSome, headers]
    rfl
  have passes : (!tableValid base count layout || decide (index ≥ inspectedSlots count) ||
      (checkedAdd base (headerBytes count layout)).isNone) = false := by
    rw [accepted, present, decide_eq_false within]
    rfl
  have packed : requestCellPacked build base count tag (peer.getD (0, 0)).1 (peer.getD (0, 0)).2 =
      (fun facts => (packRequestCell facts).getD requestCellPoison) <$>
        requestCellCore build base count index peer layout := by
    unfold requestCellPacked
    rw [decoded]
    dsimp only
    rw [passes, peers]
    rfl
  unfold requestCell
  rw [encoded]
  dsimp only
  rw [packed, ← requestCellCore_build build base count peer layout bounded, bind_map_left]
  refine (Asking.Yields.map_congr ?_
    (requestCellCore_yields build base count peer layout bounded)).trans (id_map _)
  intro facts sound
  rw [unpackRequestCell_packRequestCell sound.valid, Option.getD_some, id]

/-! ## The whole walk -/

/-- The cell that a slot's facts publish. -/
def RequestCellFacts.cell (facts : RequestCellFacts) : AttrCell :=
  { kind := facts.kind, status := facts.status, value := facts.value }

/-- The walk over an accepted table, without the packed boundary. -/
def walkSlots (templatePtr count : UInt64) (peer : Option (UInt64 × UInt64))
    (layout : LinuxLayout) : Reading (ObjectAttributeListWire × UInt32) := do
  let other ← peerAliasScan .host peer 0 0 layout
  let facts ← (slotIndices count).mapM fun index =>
    requestCellCore .host templatePtr count index peer layout
  pure
    ({ cells := padCells (facts.map RequestCellFacts.cell)
       inspected := (inspectedSlots count).toUInt8
       flags := listFlags count ||| other.2 ||| mergeFlags (facts.map RequestCellFacts.listFlags) },
      mergeObjectFlags (facts.map RequestCellFacts.objectFlags))

/-- Publishing slot by slot fills the cells in order and merges all flags. -/
theorem publishFacts_foldl (facts : List RequestCellFacts) (inspected flags : UInt8)
    (room : facts.length ≤ 8) :
    (((List.range facts.length).map UInt64.ofNat).zip facts).foldl
        (fun out pair => publishFacts out pair.1 pair.2)
        ({ inspected := inspected, flags := flags }, 0) =
      ({ cells := padCells (facts.map RequestCellFacts.cell), inspected := inspected
         flags := flags ||| mergeFlags (facts.map RequestCellFacts.listFlags) },
        mergeObjectFlags (facts.map RequestCellFacts.objectFlags)) := by
  induction facts using List.reverseRecOn with
  | nil =>
    have zeros : Vector.replicate 8 ({} : AttrCell) = padCells [] := by decide
    simp [← zeros, mergeFlags, mergeObjectFlags]
  | append_singleton rest last ih =>
    have shorter : rest.length < 8 := by simpa using room
    have small : rest.length % 18446744073709551616 = rest.length :=
      Nat.mod_eq_of_lt (shorter.trans (by decide))
    rw [List.length_append, List.length_singleton, List.range_succ, List.map_append,
      List.zip_append (by simp), List.foldl_append, ih shorter.le]
    simp [publishFacts, padCells, padWith_concat, mergeFlags, mergeObjectFlags,
      Flags.merge_concat, UInt8.or_assoc, small, RequestCellFacts.cell]

theorem slotIndices_length (count : UInt64) :
    (slotIndices count).length = (inspectedSlots count).toNat := by
  rw [slotIndices, List.length_map, List.length_range]

theorem slotIndices_length_le (count : UInt64) : (slotIndices count).length ≤ 8 := by
  rw [slotIndices_length, toNat_inspectedSlots]
  exact Nat.min_le_right _ _

/-- The loop over an accepted table visits each slot once and publishes in order. -/
theorem walk_eq {templatePtr : UInt64} (accepted : tableValid templatePtr count layout)
    (headers : (checkedAdd templatePtr (headerBytes count layout)).isSome) (flags : UInt8) :
    (slotIndices count).foldlM
        (fun out index =>
          publishFacts out index <$> requestCell build templatePtr count index peer layout)
        ({ inspected := (inspectedSlots count).toUInt8, flags := flags }, 0) =
      (fun facts =>
        ({ cells := padCells (facts.map RequestCellFacts.cell)
           inspected := (inspectedSlots count).toUInt8
           flags := flags ||| mergeFlags (facts.map RequestCellFacts.listFlags) },
          mergeObjectFlags (facts.map RequestCellFacts.objectFlags))) <$>
        (slotIndices count).mapM fun index =>
          requestCellCore .host templatePtr count index peer layout := by
  rw [Asking.foldlM_eq_mapM, Asking.mapM_congr fun _ listed =>
    requestCell_eq build peer accepted headers listed]
  refine Asking.Yields.map_congr ?_ (Asking.Yields.mapM_length _ _)
  intro facts sized
  have room : facts.length ≤ 8 := sized ▸ slotIndices_length_le count
  rw [slotIndices, ← slotIndices_length, ← sized]
  exact publishFacts_foldl facts _ flags room

/-- Both builds walk an accepted table the same way, and the rest is refused. -/
theorem inspectRequestTemplateInto_eq (templatePtr count : UInt64) (peer : Option (UInt64 × UInt64))
    (layout : LinuxLayout) (out : ObjectAttributeListWire) :
    inspectRequestTemplateInto build templatePtr count peer layout out =
      if tableValid templatePtr count layout ∧
          (checkedAdd templatePtr (headerBytes count layout)).isSome then
        if inspectedSlots count = 0 then pure ({ flags := listFlags count }, 0)
        else walkSlots templatePtr count peer layout
      else pure ({ flags := AttrListFlag.invalidSpan }, 0) := by
  unfold inspectRequestTemplateInto
  cases accepted : tableValid templatePtr count layout with
  | false => rfl
  | true =>
    cases headers : checkedAdd templatePtr (headerBytes count layout) with
    | none => rfl
    | some headerEnd =>
      by_cases empty : inspectedSlots count = 0
      · simp [empty, clearAttributeList]
      · have walked := walk_eq build peer accepted (by rw [headers]; rfl)
        simp [clearAttributeList, empty, walked, walkSlots, peerAliasScan_build build]

end P11Scope.Capture
