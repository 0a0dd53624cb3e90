import P11Scope.Capture.Authorization

/-!
# The request walker's reads are authorized

Scans, value cells and slots keep the exchanges authorized against every
answer.  The one exception is a peer table that ends with the address space:
the overlap check clamps its end one byte short.
-/

namespace P11Scope.Capture

open Lib List

variable {tables : Tables} {index : UInt64}
  {before trace : List (Asking.Exchange ReadQuery ReadAnswer)}

/-! ## Scans -/

section Scans

variable {table : UInt64 × UInt64} {bound : Nat}
  (known : table = tables.own ∨ tables.peer = some table)
include known

theorem scanNeighbour_always (ptr len : UInt64) (listed : index ∈ slotIndices table.2)
    (safe : SafeBelow tables bound before) :
    (scanNeighbour table.1 ptr len tables.layout index).Always
      (fun after _ => SafeBelow tables bound after) before := by
  unfold scanNeighbour
  cases inside : attributeHeaderAddresses table.1 index tables.layout with
  | none => exact safe
  | some addresses =>
    obtain ⟨selectors, pointers, lengths⟩ := slotWords inside listed
    refine always_readWord fun selected => ?_
    have first := safe.selector known selectors selected
    cases selected with
    | none => exact first
    | some selector =>
      have seen : Seen table tables.layout index.toNat 0
          (before ++ [answered addresses.selector tables.layout selector]) selector :=
        seen_answered selectors selector
      dsimp only
      cases kinded : safeAttributeKind selector with
      | none => exact first
      | some kind =>
        have allowlisted : (safeAttributeKind selector).isSome := by rw [kinded]; rfl
        refine always_readWord fun pointed => ?_
        have third := (first.words known pointers lengths seen allowlisted pointed).2
        cases pointed with
        | none => exact always_readWord third
        | some otherPtr =>
          refine always_readWord fun sized => ?_
          cases sized with
          | none | some => exact third _

/-- A scan is authorized, and a clean one found no overlap with the headers. -/
theorem aliasScanCore_always (skip ptr len : UInt64) (safe : SafeBelow tables bound before) :
    (aliasScanCore table.1 table.2 skip ptr len tables.layout).Always
      (fun after found => SafeBelow tables bound after ∧
        (tableValid table.1 table.2 tables.layout → found.1 = false →
          spansOverlap ptr len table.1 (headerBytes table.2 tables.layout) = false)) before := by
  unfold aliasScanCore
  cases accepted : tableValid table.1 table.2 tables.layout with
  | false => exact ⟨safe, fun impossible => absurd impossible Bool.false_ne_true⟩
  | true =>
    refine Asking.Always.bind (Asking.Always.mapM (fun _ => SafeBelow tables bound) ?_ safe) ?_
    · intro done index rest split after kept
      have member : index ∈ (slotIndices table.2).filter fun index => index ≠ skip :=
        split ▸ mem_append_right _ mem_cons_self
      exact scanNeighbour_always known ptr len (mem_of_mem_filter member) kept
    · intro after found kept
      exact ⟨kept, fun _ clean => (Bool.or_eq_false_iff.mp clean).1⟩

end Scans

/-! ## Value cells -/

section Cells

variable {kind : SafeAttributeKind} {len ptr : UInt64}

theorem readClassifiedValue_always {slot : Nat} (safe : SafeBelow tables slot before)
    (single : ValueRead tables before slot (valueQuery kind ptr len tables.layout)) :
    (readClassifiedValue kind ptr len tables.layout).Always
      (fun after _ => SafeBelow tables (slot + 1) after) before := by
  -- Nothing is asked after the value, whatever it is.
  cases kind with
  | token =>
    refine always_readBytes fun answer => ?_
    have read := safe.value single answer
    repeat' split
    all_goals exact read
  | ecParams =>
    dsimp only [readClassifiedValue]
    split
    · exact safe.weaken (Nat.le_succ slot)
    refine always_readBytes fun answer => ?_
    have read := safe.value single answer
    repeat' split
    all_goals exact read
  | _ =>
    refine always_readWord fun answer => ?_
    have read := safe.value single answer
    repeat' split
    all_goals exact read

/-- Rechecking a header whose selector was allowlisted reads only its words. -/
theorem recheck_always {selector : UInt64} {value : Option UInt16} {bound : Nat}
    (safe : SafeBelow tables bound before) (listed : index ∈ slotIndices tables.own.2)
    (seen : Seen tables.own tables.layout index.toNat 0 before selector)
    (allowlisted : (safeAttributeKind selector).isSome) :
    (stableCellCore.recheck tables.own.1 index kind ptr len tables.layout value).Always
      (fun after _ => SafeBelow tables bound after) before := by
  unfold stableCellCore.recheck
  cases inside : attributeHeaderAddresses tables.own.1 index tables.layout with
  | none => exact safe
  | some addresses =>
    obtain ⟨selectors, pointers, lengths⟩ := slotWords inside listed
    refine always_readWord fun selected => always_readWord fun pointed =>
      always_readWord fun sized => ?_
    have first := safe.selector (.inl rfl) selectors selected
    have third := (first.words (.inl rfl) pointers lengths (seen.mono (prefix_append _ _))
      allowlisted pointed).2 sized
    repeat' split
    all_goals exact third

theorem stableCellCore_always {selector : UInt64} (safe : SafeBelow tables index.toNat before)
    (listed : index ∈ slotIndices tables.own.2)
    (seen : Seen tables.own tables.layout index.toNat 0 before selector)
    (allowlisted : (safeAttributeKind selector).isSome)
    (single : ValueRead tables before index.toNat (valueQuery kind ptr len tables.layout)) :
    (stableCellCore tables.own.1 index kind ptr len tables.layout).Always
      (fun after _ => SafeBelow tables (index.toNat + 1) after) before := by
  refine (readClassifiedValue_always safe single).extends_before.bind ?_
  rintro after classified ⟨extended, read⟩
  cases classified with
  | ok code => exact recheck_always read listed (seen.mono extended) allowlisted
  | error status =>
    dsimp only
    split
    · exact recheck_always read listed (seen.mono extended) allowlisted
    · exact read

end Cells

/-! ## Slots -/

/-- Away from the top, a value that no scan flagged is apart from the peer. -/
theorem apart_of_peer {table : UInt64 × UInt64} {ptr len : UInt64} (walked : Walked tables)
    (low : ¬ PeerReachesTop tables) (present : tables.peer = some table)
    (accepted : tableValid table.1 table.2 tables.layout) (fits : ptr.toNat + len.toNat ≤ 2 ^ 64)
    (clear : spansOverlap ptr len table.1 (headerBytes table.2 tables.layout) = false) :
    Apart ptr.toNat len.toNat table.1.toNat (headerSize tables.layout table.2) := by
  have bytes := toNat_headerBytes table.2 tables.layout
  have below : table.1.toNat + headerSize tables.layout table.2 < 2 ^ 64 := by
    rcases tableValid_end accepted with empty | inside
    · rw [empty]
      exact table.1.toNat_lt
    refine lt_of_le_of_ne (inside.trans (addressSpace_le _)) fun top => low ?_
    have lp64 : tables.layout = .lp64 := by
      cases layout : tables.layout with
      | lp64 => rfl
      | ilp32 =>
        rw [layout] at inside top
        rw [top] at inside
        exact absurd inside (by decide)
    refine ⟨lp64, walked, table, present, accepted, ?_, top⟩
    refine Nat.pos_of_ne_zero fun none => ?_
    rw [headerSize, none, Nat.zero_min, Nat.zero_mul] at top
    exact absurd top table.1.toNat_lt.ne
  rw [← bytes] at below ⊢
  exact apart_of_not_overlap fits below clear

theorem spanStatus_eq_none {header : Header} {layout : LinuxLayout}
    (passed : spanStatus header layout = none) :
    validSafeAttributeLength header.kind header.len layout ∧
      (validateTargetSpan header.ptr header.len layout).isSome := by
  unfold spanStatus at passed
  split at passed
  · cases passed
  split at passed
  · cases passed
  case isFalse exact =>
    split at passed
    · cases passed
    case isFalse valid =>
      exact ⟨by simpa using exact, by simpa [Option.isSome_iff_ne_none] using valid⟩

theorem validSafeAttributeLength_zero (kind : SafeAttributeKind) (layout : LinuxLayout) :
    ¬ validSafeAttributeLength kind 0 layout := by
  cases kind <;> cases layout <;> decide

theorem peerAliasScan_always {bound : Nat} (ptr len : UInt64) (safe : SafeBelow tables bound before)
    : (peerAliasScan .host tables.peer ptr len tables.layout).Always
      (fun after found => SafeBelow tables bound after ∧
        ∀ table, tables.peer = some table → tableValid table.1 table.2 tables.layout →
          found.1 = false →
            spansOverlap ptr len table.1 (headerBytes table.2 tables.layout) = false) before := by
  cases present : tables.peer with
  | none => exact ⟨safe, fun _ absent => nomatch absent⟩
  | some table =>
    refine (aliasScanCore_always (.inr present) noSkip ptr len safe).mono ?_
    rintro after found ⟨kept, clear⟩
    refine ⟨kept, fun other same => ?_⟩
    cases same
    exact clear

/-- The judgement of a passed header reads at most its own value. -/
theorem judgeCell_always {header : Header} (walked : Walked tables) (low : ¬ PeerReachesTop tables)
    (listed : index ∈ slotIndices tables.own.2) (safe : SafeBelow tables index.toNat before)
    (selectors : Seen tables.own tables.layout index.toNat 0 before header.selector)
    (kinded : safeAttributeKind header.selector = some header.kind)
    (pointers : Seen tables.own tables.layout index.toNat 1 before header.ptr)
    (lengths : Seen tables.own tables.layout index.toNat 2 before header.len)
    (passed : spanStatus header tables.layout = none) :
    (judgeCell .host tables.own.1 tables.own.2 index tables.peer tables.layout header).Always
      (fun after _ => SafeBelow tables (index.toNat + 1) after) before := by
  have allowlisted : (safeAttributeKind header.selector).isSome := by rw [kinded]; rfl
  obtain ⟨exact, valid⟩ := spanStatus_eq_none passed
  have fits : header.ptr.toNat + header.len.toNat ≤ addressSpace tables.layout := by
    rcases validateTargetSpan_isSome valid with empty | inside
    · rw [empty] at exact
      exact absurd exact (validSafeAttributeLength_zero header.kind tables.layout)
    · exact inside
  have inside : header.ptr.toNat + header.len.toNat ≤ 2 ^ 64 := fits.trans (addressSpace_le _)
  refine (aliasScanCore_always (.inl rfl) index _ _ safe).extends_before.bind ?_
  rintro after own ⟨extended, safeOwn, ownClear⟩
  refine (peerAliasScan_always _ _ safeOwn).extends_before.bind ?_
  rintro later other ⟨further, safePeer, peerClear⟩
  split
  · exact safePeer.weaken (Nat.le_succ _)
  rename_i clean
  rw [Bool.or_eq_true, not_or, Bool.not_eq_true, Bool.not_eq_true] at clean
  have all := extended.trans further
  have single : ValueRead tables later index.toNat
      (valueQuery header.kind header.ptr header.len tables.layout) := by
    refine ⟨header.selector, header.kind, header.ptr, header.len, selectors.mono all, kinded,
      pointers.mono all, lengths.mono all, exact, rfl, fits, ?_, ?_⟩
    · have bytes := toNat_headerBytes tables.own.2 tables.layout
      have below := walked.below
      rw [← bytes] at below ⊢
      exact apart_of_not_overlap inside below (ownClear walked.accepted clean.1)
    · intro table present accepted
      exact apart_of_peer walked low present accepted inside
        (peerClear table present accepted clean.2)
  refine (stableCellCore_always safePeer listed (selectors.mono all) allowlisted single).bind ?_
  exact fun _ _ done => done

theorem requestCellCore_always (walked : Walked tables) (low : ¬ PeerReachesTop tables)
    (listed : index ∈ slotIndices tables.own.2) (safe : SafeBelow tables index.toNat before) :
    (requestCellCore .host tables.own.1 tables.own.2 index tables.peer tables.layout).Always
      (fun after _ => SafeBelow tables (index.toNat + 1) after) before := by
  have known : tables.own = tables.own ∨ tables.peer = some tables.own := .inl rfl
  have later := Nat.le_succ index.toNat
  unfold requestCellCore
  cases inside : attributeHeaderAddresses tables.own.1 index tables.layout with
  | none => exact safe.weaken later
  | some addresses =>
    obtain ⟨selectors, pointers, lengths⟩ := slotWords inside listed
    refine always_readWord fun selected => ?_
    have first := safe.selector known selectors selected
    cases selected with
    | none => exact first.weaken later
    | some selector =>
      have seen : Seen tables.own tables.layout index.toNat 0
          (before ++ [answered addresses.selector tables.layout selector]) selector :=
        seen_answered selectors selector
      dsimp only
      cases kinded : safeAttributeKind selector with
      | none => exact first.weaken later
      | some kind =>
        have allowlisted : (safeAttributeKind selector).isSome := by rw [kinded]; rfl
        refine always_readWord fun pointed => ?_
        have ⟨second, third⟩ := first.words known pointers lengths seen allowlisted pointed
        cases pointed with
        | none => exact second.weaken later
        | some ptr =>
          refine always_readWord fun sized => ?_
          have third := third sized
          cases sized with
          | none => exact third.weaken later
          | some len =>
            dsimp only
            cases passed : spanStatus ⟨kind, selector, ptr, len⟩ tables.layout with
            | some status => exact third.weaken later
            | none =>
              refine judgeCell_always walked low listed third ?_ kinded ?_ ?_ passed
              · exact (seen.mono (prefix_append _ _)).mono (prefix_append _ _)
              · exact (seen_answered pointers ptr).mono (prefix_append _ _)
              · exact seen_answered lengths len

/-! ## The whole walk -/

/-- The slot at a place of the walk is the one with that number. -/
theorem slotIndices_split {count : UInt64} {done rest : List UInt64}
    (split : slotIndices count = done ++ index :: rest) : index.toNat = done.length := by
  have place : (slotIndices count)[done.length]? = some index := by
    rw [split, getElem?_append_right (Nat.le_refl _), Nat.sub_self]
    rfl
  have inside : done.length < (slotIndices count).length := by
    rw [split, length_append, length_cons]
    omega
  rw [slotIndices_length] at inside
  rw [slotIndices, getElem?_map, getElem?_range inside] at place
  rw [← Option.some.inj place, UInt64.toNat_ofNat',
    Nat.mod_eq_of_lt (inside.trans (inspectedSlots count).toNat_lt)]

theorem walkSlots_always (walked : Walked tables) (low : ¬ PeerReachesTop tables) :
    (walkSlots tables.own.1 tables.own.2 tables.peer tables.layout).Always
      (fun after _ => ∃ slots, Authorized tables after slots) [] := by
  have start : SafeBelow tables 0 [] := ⟨[], .start, fun _ member => nomatch member⟩
  refine (peerAliasScan_always 0 0 start).bind fun after _ scanned => ?_
  -- After a prefix of the slots, values were read of those slots only.
  refine Asking.Always.bind (Asking.Always.mapM
    (fun done trace => SafeBelow tables done.length trace) ?_ scanned.1) ?_
  · intro done index rest split trace safe
    have listed : index ∈ slotIndices tables.own.2 :=
      split ▸ mem_append_right _ mem_cons_self
    rw [length_append]
    rw [← slotIndices_split split] at safe ⊢
    exact requestCellCore_always walked low listed safe
  · rintro later facts ⟨slots, authorized, _⟩
    exact ⟨slots, authorized⟩

/-- A published value is zero or an approved code of the cell's kind. -/
def Published (list : ObjectAttributeListWire) : Prop :=
  ∀ cell ∈ list.cells.toList, cell.value = 0 ∨
    ∃ kind, cell.kind = safeKindCode kind ∧ ApprovedCode kind cell.value

theorem mem_padCells {cells : List AttrCell} {cell : AttrCell}
    (member : cell ∈ (padCells cells).toList) : cell ∈ cells ∨ cell = {} := by
  obtain ⟨place, inside, rfl⟩ := List.getElem_of_mem member
  simp only [padCells, padWith, Vector.getElem_toList, Vector.getElem_ofFn]
  cases found : cells[place]? with
  | none => exact .inr rfl
  | some cell => exact .inl (mem_of_getElem? found)

theorem published_of_empty (flags : UInt8) : Published { flags := flags } := by
  intro cell member
  exact .inl (congrArg AttrCell.value (eq_of_mem_replicate member))

variable (base count : UInt64) (peer : Option (UInt64 × UInt64))

theorem walkSlots_yields {honest : (query : ReadQuery) → ReadAnswer query → Prop}
    (layout : LinuxLayout) :
    (walkSlots base count peer layout).Yields honest fun walk => Published walk.1 := by
  refine (peerAliasScan_yields .host peer 0 0 layout).bind fun other _ => ?_
  have cells (index : UInt64) (listed : index ∈ slotIndices count) :
      (requestCellCore .host base count index peer layout).Yields honest SoundFacts :=
    requestCellCore_yields .host base count peer layout (lt_eight_of_mem_slotIndices listed)
  refine (Asking.Yields.mapM cells).bind ?_
  intro facts sound cell member
  rcases mem_padCells member with published | zero
  · obtain ⟨found, source, rfl⟩ := mem_map.mp published
    exact (sound found source).value.imp_right fun ⟨_, kind, named, approved⟩ =>
      ⟨kind, named, approved⟩
  · exact .inl (congrArg AttrCell.value zero)

/-- Whatever the observed process answers, all reads are authorized and the
published values are approved. -/
def RequestWalkAuthorized (build : Build) (tables : Tables) (out : ObjectAttributeListWire) :
    Prop :=
  ∀ (Environment : Type)
    (respond : Environment → (query : ReadQuery) → ReadAnswer query × Environment)
    (state : Environment) (list : ObjectAttributeListWire) (flags : UInt32)
    (trace : List (Asking.Exchange ReadQuery ReadAnswer)),
    (inspectRequestTemplateInto build tables.own.1 tables.own.2 tables.peer tables.layout
      out).play respond state = ((list, flags), trace) →
    (∃ slots, Authorized tables trace slots) ∧ Published list

theorem walked_iff (tables : Tables) :
    Walked tables ↔ (tableValid tables.own.1 tables.own.2 tables.layout ∧
      (checkedAdd tables.own.1 (headerBytes tables.own.2 tables.layout)).isSome) ∧
      inspectedSlots tables.own.2 ≠ 0 := by
  have slots : inspectedSlots tables.own.2 ≠ 0 ↔ 0 < tables.own.2.toNat := by
    rw [ne_eq, ← UInt64.toNat_inj, toNat_inspectedSlots]
    change ¬ min _ 8 = 0 ↔ _
    omega
  have headers : (checkedAdd tables.own.1 (headerBytes tables.own.2 tables.layout)).isSome ↔
      tables.own.1.toNat + headerSize tables.layout tables.own.2 < 2 ^ 64 := by
    rw [checkedAdd, toNat_headerBytes]
    split
    case isTrue inside => exact ⟨fun _ => inside, fun _ => rfl⟩
    case isFalse outside => exact ⟨fun none => (nomatch none), fun inside => absurd inside outside⟩
  rw [slots, headers]
  constructor
  · rintro ⟨accepted, nonempty, below⟩
    exact ⟨⟨accepted, below⟩, nonempty⟩
  · rintro ⟨⟨accepted, below⟩, nonempty⟩
    exact ⟨accepted, nonempty, below⟩

section

variable (build : Build) (out : ObjectAttributeListWire)
include build out

/-- An own table that is not walked is not read at all. -/
theorem inspectRequestTemplateInto_unwalked (unwalked : ¬ Walked tables) :
    ∃ flags, inspectRequestTemplateInto build tables.own.1 tables.own.2 tables.peer tables.layout
      out = pure ({ flags := flags }, 0) := by
  rw [walked_iff, not_and, not_ne_iff] at unwalked
  rw [inspectRequestTemplateInto_eq]
  split
  case isTrue accepted =>
    rw [if_pos (unwalked accepted)]
    exact ⟨_, rfl⟩
  case isFalse => exact ⟨_, rfl⟩

theorem inspectRequestTemplateInto_walked (walked : Walked tables) :
    inspectRequestTemplateInto build tables.own.1 tables.own.2 tables.peer tables.layout out =
      walkSlots tables.own.1 tables.own.2 tables.peer tables.layout := by
  obtain ⟨accepted, nonempty⟩ := (walked_iff tables).mp walked
  rw [inspectRequestTemplateInto_eq, if_pos accepted, if_neg nonempty]

theorem requestWalkAuthorized_of_low (low : ¬ PeerReachesTop tables) :
    RequestWalkAuthorized build tables out := by
  intro Environment respond state list flags trace played
  by_cases walked : Walked tables
  · rw [inspectRequestTemplateInto_walked build out walked] at played
    have reads := (walkSlots_always walked low).play respond state
    have sound : (walkSlots tables.own.1 tables.own.2 tables.peer tables.layout).Yields
        (fun _ _ => True) fun walk => Published walk.1 := walkSlots_yields _ _ _ _
    have values := sound.play respond (fun _ _ => trivial) state
    rw [played] at reads values
    exact ⟨reads, values⟩
  · obtain ⟨empty, same⟩ := inspectRequestTemplateInto_unwalked build out walked
    rw [same] at played
    cases played
    exact ⟨⟨[], .start⟩, published_of_empty empty⟩

end

/-! ## A peer table at the top of the address space -/

instance (query : ReadQuery) : Inhabited (ReadAnswer query) :=
  match query with
  | .word _ _ => ⟨(none : Option UInt64)⟩
  | .bytes _ _ => ⟨none⟩

/-- The last byte of the address space. -/
def topByte : UInt64 := 0xFFFFFFFFFFFFFFFF

/-- Authorized byte reads are value reads. -/
theorem Authorized.bytes {slots : List Nat} (authorized : Authorized tables trace slots)
    {address : UInt64} {length : Nat} {answer : ReadAnswer (.bytes address length)}
    (member : ⟨.bytes address length, answer⟩ ∈ trace) :
    ∃ before index, ValueRead tables before index (.bytes address length) := by
  induction authorized with
  | start => cases member
  | header earlier word _ ih =>
    rcases mem_append.mp member with before | here
    · exact ih before
    obtain ⟨_, _, _, _, _, same, _⟩ := word
    rw [mem_singleton] at here
    cases here
    cases same
  | @value before _ _ index earlier fresh single _ ih =>
    rcases mem_append.mp member with earlier | here
    · exact ih earlier
    · rw [mem_singleton] at here
      cases here
      exact ⟨before, index, single⟩

/-- A byte read at the top is not authorized beside such a peer. -/
theorem PeerReachesTop.not_valueRead (top : PeerReachesTop tables) {index : Nat} :
    ¬ ValueRead tables before index (.bytes topByte 1) := by
  rintro ⟨selector, kind, ptr, len, _, _, _, _, exact, same, _, _, peers⟩
  obtain ⟨table, present, accepted, nonempty, reached⟩ := top.top
  have apart := peers table present accepted
  have spanned : ptr = topByte ∧ len.toNat = 1 := by
    cases kind with
    | token =>
      have one : len = 1 := by simpa [validSafeAttributeLength] using exact
      cases same
      exact ⟨rfl, by rw [one]; rfl⟩
    | ecParams =>
      rw [valueQuery, ReadQuery.bytes.injEq] at same
      exact ⟨same.1.symm, same.2.symm⟩
    | _ => cases same
  rw [spanned.1, spanned.2] at apart
  have below := table.1.toNat_lt
  have beyond := apart (2 ^ 64 - 1) (Nat.le_refl _) (by decide) (by omega)
  omega

section Reached

variable (layout : LinuxLayout) (before : List (Asking.Exchange ReadQuery ReadAnswer))

/-- A neighbour whose selector cannot be read hides its span. -/
theorem scanNeighbour_reaches (base ptr len index : UInt64) :
    ∃ found after, before <+: after ∧ found.1 = false ∧
      (scanNeighbour base ptr len layout index).Reaches before found after := by
  unfold scanNeighbour
  cases attributeHeaderAddresses base index layout with
  | none => exact ⟨_, before, prefix_rfl, rfl, .done _ before⟩
  | some addresses =>
    refine ⟨(false, AttrListFlag.headerReadFailure),
      before ++ [⟨.word addresses.selector layout, none⟩],
      prefix_append _ _, rfl, ?_⟩
    exact Asking.Reaches.query_bind none (.done _ _)

theorem aliasScanCore_reaches (base count skip : UInt64) {ptr len : UInt64}
    (clear : spansOverlap ptr len base (headerBytes count layout) = false) :
    ∃ found after, before <+: after ∧ found.1 = false ∧
      (aliasScanCore base count skip ptr len layout).Reaches before found after := by
  unfold aliasScanCore
  cases tableValid base count layout with
  | false => exact ⟨_, before, prefix_rfl, rfl, .done _ before⟩
  | true =>
    obtain ⟨found, after, extended, hidden, reached⟩ := Asking.Reaches.mapM
      (fun found : Bool × UInt8 => found.1 = false)
      (fun index _ before => scanNeighbour_reaches layout before base ptr len index) before
    refine ⟨_, after, extended, ?_, reached.bind (.done _ _)⟩
    rw [clear, Bool.false_or, any_eq_false]
    exact fun one member => Bool.not_eq_true _ ▸ hidden one member

theorem peerAliasScan_reaches (peer : Option (UInt64 × UInt64)) {ptr len : UInt64}
    (clear : ∀ table, peer = some table →
      spansOverlap ptr len table.1 (headerBytes table.2 layout) = false) :
    ∃ found after, before <+: after ∧ found.1 = false ∧
      (peerAliasScan .host peer ptr len layout).Reaches before found after := by
  cases peer with
  | none => exact ⟨_, before, prefix_rfl, rfl, .done _ before⟩
  | some table => exact aliasScanCore_reaches layout before _ _ noSkip (clear table rfl)

end Reached

/-- One byte at the top is not seen to overlap anything. -/
theorem spansOverlap_topByte (base bytes : UInt64) : spansOverlap topByte 1 base bytes = false := by
  unfold spansOverlap
  split
  · rfl
  · refine Bool.and_eq_false_iff.mpr (.inl (decide_eq_false ?_))
    rw [UInt64.not_lt]
    exact Nat.le_of_lt_succ (saturatingAdd base bytes).toNat_lt

theorem checkedAdd_of_lt {base offset : UInt64} (inside : base.toNat + offset.toNat < 2 ^ 64) :
    checkedAdd base offset = some (base + offset) := if_pos inside

theorem Walked.base_ne_zero (walked : Walked tables) : tables.own.1 ≠ 0 := by
  intro zero
  obtain ⟨table, total, valid⟩ := tableValid_span walked.accepted
  have nonempty := walked.nonempty
  have filled : table ≠ 0 := by
    rintro rfl
    have size : 0 < 3 * wordSize tables.layout := by cases tables.layout <;> decide
    exact absurd total (Nat.mul_pos nonempty size).ne
  simp [validateTargetSpan, zero, filled] at valid

/-- The first header of a walked table is addressed. -/
theorem Walked.firstHeader (walked : Walked tables) (lp64 : tables.layout = .lp64) :
    ∃ addresses, attributeHeaderAddresses tables.own.1 0 .lp64 = some addresses := by
  have nonzero := walked.base_ne_zero
  have below := walked.below
  have nonempty := walked.nonempty
  rw [lp64, headerSize] at below
  simp only [wordSize] at below
  have start : checkedAdd tables.own.1 0 = some tables.own.1 := by
    rw [checkedAdd_of_lt (by change _ + 0 < _; omega), UInt64.add_zero]
  have span : (validateTargetSpan tables.own.1 (3 * 8) .lp64).isSome := by
    have last : checkedAdd tables.own.1 23 = some _ :=
      checkedAdd_of_lt (by change _ + 23 < _; omega)
    simp [validateTargetSpan, nonzero, last]
  obtain ⟨spanEnd, spanned⟩ := Option.isSome_iff_exists.mp span
  have pointer : checkedAdd tables.own.1 8 = some _ :=
    checkedAdd_of_lt (by change _ + 8 < _; omega)
  have length : checkedAdd tables.own.1 (2 * 8) = some _ :=
    checkedAdd_of_lt (by change _ + 16 < _; omega)
  have table : attributeTableSpan 0 .lp64 = some 0 := by decide
  refine ⟨{ selector := tables.own.1, pointer := tables.own.1 + 8
            length := tables.own.1 + 2 * 8 }, ?_⟩
  simp only [attributeHeaderAddresses, LinuxLayout.wordBytes, table, start, spanned, pointer,
    length, Option.bind_eq_bind, Option.bind_some, Option.pure_def]

/-- A token value at the top byte is judged free of aliases and read. -/
theorem judgeCell_reaches (before : List (Asking.Exchange ReadQuery ReadAnswer)) :
    ∃ facts after, ⟨.bytes topByte 1, none⟩ ∈ after ∧
      (judgeCell .host base count 0 peer .lp64
        { kind := .token, selector := 1, ptr := topByte, len := 1 }).Reaches before
        facts after := by
  obtain ⟨own, middle, _, ownClear, ownReached⟩ := aliasScanCore_reaches .lp64 before base count 0
    (spansOverlap_topByte _ _)
  obtain ⟨other, later, _, otherClear, otherReached⟩ := peerAliasScan_reaches .lp64 middle peer
    fun _ _ => spansOverlap_topByte _ _
  let facts : RequestCellFacts :=
    { kind := safeKindCode .token, status := AttrStatus.unreadable
      listFlags := own.2 ||| other.2 }
  refine ⟨facts, later ++ [⟨.bytes topByte 1, none⟩], mem_append_right _ (mem_singleton_self _), ?_⟩
  refine ownReached.bind (otherReached.bind ?_)
  rw [ownClear, otherClear]
  exact Asking.Reaches.query_bind none (.done _ _)

/-- The first slot of a walked table can make the walker read the top byte. -/
theorem requestCellCore_reaches (walked : Walked tables) (lp64 : tables.layout = .lp64)
    (before : List (Asking.Exchange ReadQuery ReadAnswer)) :
    ∃ facts after, ⟨.bytes topByte 1, none⟩ ∈ after ∧
      (requestCellCore .host tables.own.1 tables.own.2 0 tables.peer .lp64).Reaches before
        facts after := by
  obtain ⟨addresses, inside⟩ := walked.firstHeader lp64
  have passed : spanStatus { kind := .token, selector := 1, ptr := topByte, len := 1 } .lp64 =
      none := by decide
  obtain ⟨facts, after, member, reached⟩ := judgeCell_reaches tables.own.1 tables.own.2 tables.peer
    (((before ++ [answered addresses.selector .lp64 1]) ++
      [answered addresses.pointer .lp64 topByte]) ++ [answered addresses.length .lp64 1])
  refine ⟨facts, after, member, ?_⟩
  unfold requestCellCore
  rw [inside]
  refine Asking.Reaches.query_bind (some 1) ?_
  refine Asking.Reaches.query_bind (some topByte) ?_
  refine Asking.Reaches.query_bind (some 1) ?_
  dsimp only
  exact reached

theorem walkSlots_reaches (walked : Walked tables) (lp64 : tables.layout = .lp64) :
    ∃ walk after, ⟨.bytes topByte 1, none⟩ ∈ after ∧
      (walkSlots tables.own.1 tables.own.2 tables.peer tables.layout).Reaches [] walk after := by
  have first : ∃ rest, slotIndices tables.own.2 = 0 :: rest := by
    have slots := toNat_inspectedSlots tables.own.2
    have nonempty := walked.nonempty
    obtain ⟨more, same⟩ : ∃ more, (inspectedSlots tables.own.2).toNat = more + 1 :=
      ⟨(inspectedSlots tables.own.2).toNat - 1, by omega⟩
    rw [slotIndices, same, range_succ_eq_map]
    exact ⟨_, rfl⟩
  obtain ⟨rest, indices⟩ := first
  rw [lp64]
  obtain ⟨other, middle, _, scanned⟩ :=
    Asking.Reaches.exists_of_nonempty (peerAliasScan .host tables.peer 0 0 .lp64) []
  obtain ⟨facts, later, member, cell⟩ := requestCellCore_reaches walked lp64 middle
  obtain ⟨others, after, extended, reached⟩ := Asking.Reaches.exists_of_nonempty
    (rest.mapM fun index =>
      requestCellCore .host tables.own.1 tables.own.2 index tables.peer .lp64) later
  have slots : ((slotIndices tables.own.2).mapM fun index =>
      requestCellCore .host tables.own.1 tables.own.2 index tables.peer .lp64).Reaches middle
        (facts :: others) after := by
    rw [indices, mapM_cons]
    exact cell.bind (reached.bind (.done _ _))
  exact ⟨_, after, extended.subset member, scanned.bind (slots.bind (.done _ _))⟩

/-- A trace with the top byte in it is not authorized beside such a peer. -/
theorem PeerReachesTop.not_authorized (top : PeerReachesTop tables)
    (member : ⟨.bytes topByte 1, none⟩ ∈ trace) : ¬ ∃ slots, Authorized tables trace slots := by
  rintro ⟨slots, authorized⟩
  obtain ⟨before, index, single⟩ := authorized.bytes member
  exact top.not_valueRead single

/-- The walk is authorized exactly when no inspected peer table ends with the
address space. -/
theorem requestWalkAuthorized_iff (build : Build) (tables : Tables)
    (out : ObjectAttributeListWire) :
    RequestWalkAuthorized build tables out ↔ ¬ PeerReachesTop tables := by
  constructor
  · intro authorized top
    obtain ⟨walk, after, member, reached⟩ := walkSlots_reaches top.walked top.lp64
    rw [← inspectRequestTemplateInto_walked build out top.walked] at reached
    obtain ⟨Environment, respond, state, same, trace⟩ := reached.exists_play
    refine top.not_authorized member ?_
    exact (authorized Environment respond state walk.1 walk.2 after
      (Prod.ext same (by rw [trace, nil_append]))).1
  · exact requestWalkAuthorized_of_low build out

/-- One own slot, and a peer slot in the last 24 bytes. -/
def topTables : Tables where
  own := (0x1000, 1)
  peer := some (0xFFFFFFFFFFFFFFE8, 1)
  layout := .lp64

/-- The own slot states a token of one byte at the top; nothing else is readable. -/
def topMemory : (query : ReadQuery) → ReadAnswer query
  | .word address _ =>
    if address = 0x1000 then some 1
    else if address = 0x1008 then some topByte
    else if address = 0x1010 then some 1
    else none
  | .bytes _ _ => none

/-- The walker reads the last byte of the peer's header as a value. -/
theorem topTables_unauthorized :
    let trace := ((inspectRequestTemplateInto .host topTables.own.1 topTables.own.2 topTables.peer
      topTables.layout {}).play (fun (_ : Unit) query => (topMemory query, ())) ()).2
    trace =
      [⟨.word 0xFFFFFFFFFFFFFFE8 .lp64, (none : Option UInt64)⟩,
        answered 0x1000 .lp64 1, answered 0x1008 .lp64 topByte, answered 0x1010 .lp64 1,
        ⟨.word 0xFFFFFFFFFFFFFFE8 .lp64, (none : Option UInt64)⟩, ⟨.bytes topByte 1, none⟩] ∧
      ¬ ∃ slots, Authorized topTables trace slots := by
  have top : PeerReachesTop topTables :=
    ⟨rfl, ⟨by decide, by decide, by decide⟩, _, rfl, by decide, by decide, by decide⟩
  exact ⟨rfl, top.not_authorized (mem_of_getElem? (i := 5) rfl)⟩

end P11Scope.Capture
