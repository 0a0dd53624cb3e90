import P11Scope.Capture.Publication

/-!
# Which reads the request walker makes

The specification speaks of slots and words by their natural-number addresses.
Each read is a selector word, a pointer or length word behind an allowlisted
selector, or the one value read of an own slot.
-/

variable {addresses : HeaderAddresses}

namespace P11Scope.Capture

open Lib

/-! ## Addresses -/

variable {base : UInt64}

theorem checkedAdd_eq_some {offset result : UInt64} (added : checkedAdd base offset = some result) :
    result.toNat = base.toNat + offset.toNat := by
  unfold checkedAdd at added
  split at added
  case isTrue inside =>
    cases added
    rw [UInt64.toNat_add, Nat.mod_eq_of_lt inside]
  case isFalse => cases added

theorem toNat_saturatingAdd (base offset : UInt64) :
    (saturatingAdd base offset).toNat = min (base.toNat + offset.toNat) (2 ^ 64 - 1) := by
  unfold saturatingAdd
  split
  case isTrue inside =>
    rw [UInt64.toNat_add]
    omega
  case isFalse outside =>
    change 2 ^ 64 - 1 = _
    omega

/-- Bytes of one target word. -/
def wordSize : LinuxLayout → Nat
  | .lp64 => 8
  | .ilp32 => 4

theorem toNat_wordBytes (layout : LinuxLayout) : layout.wordBytes.toNat = wordSize layout := by
  cases layout <;> rfl

variable {layout : LinuxLayout}

theorem attributeTableSpan_eq_some {count table : UInt64}
    (spanned : attributeTableSpan count layout = some table) :
    table.toNat = count.toNat * (3 * wordSize layout) := by
  unfold attributeTableSpan at spanned
  cases layout
  all_goals
    dsimp only at spanned
    split at spanned
    case isFalse => cases spanned
    rename_i bounded
    cases spanned
    have bound := UInt64.le_iff_toNat_le.mp bounded
    simp at bound
    simp [wordSize, UInt64.toNat_shiftLeft, Nat.shiftLeft_eq]
    omega

/-- The three words of a slot lie one after another. -/
theorem attributeHeaderAddresses_eq_some {index : UInt64}
    (inside : attributeHeaderAddresses base index layout = some addresses) :
    addresses.selector.toNat = base.toNat + (3 * index.toNat + 0) * wordSize layout ∧
      addresses.pointer.toNat = base.toNat + (3 * index.toNat + 1) * wordSize layout ∧
      addresses.length.toNat = base.toNat + (3 * index.toNat + 2) * wordSize layout := by
  unfold attributeHeaderAddresses at inside
  simp only [Option.bind_eq_bind, Option.bind_eq_some_iff, Option.pure_def, Option.some.injEq]
    at inside
  obtain ⟨table, spanned, slot, slotted, _, _, pointer, pointed, length, sized, rfl⟩ := inside
  have tables := attributeTableSpan_eq_some spanned
  have slots := checkedAdd_eq_some slotted
  have pointers := checkedAdd_eq_some pointed
  have lengths := checkedAdd_eq_some sized
  have double : (2 * layout.wordBytes).toNat = 2 * wordSize layout := by cases layout <;> rfl
  rw [toNat_wordBytes] at pointers
  rw [double] at lengths
  refine ⟨?_, ?_, ?_⟩
  · rw [slots, tables]
    ring
  · rw [pointers, slots, tables]
    ring
  · rw [lengths, slots, tables]
    ring

/-! ## The specification -/

/-- The tables of one call. -/
structure Tables where
  own : UInt64 × UInt64
  peer : Option (UInt64 × UInt64)
  layout : LinuxLayout

/-- The address is that of a slot's word, in one of the first eight slots. -/
def SlotWord (table : UInt64 × UInt64) (layout : LinuxLayout) (index field : Nat)
    (address : UInt64) : Prop :=
  index < min table.2.toNat 8 ∧
    address.toNat = table.1.toNat + (3 * index + field) * wordSize layout

/-- A word that was asked for and answered. -/
def answered (address : UInt64) (layout : LinuxLayout) (value : UInt64) :
    Asking.Exchange ReadQuery ReadAnswer :=
  ⟨.word address layout, (some value : Option UInt64)⟩

/-- The slot's word was read with this value. -/
def Seen (table : UInt64 × UInt64) (layout : LinuxLayout) (index field : Nat)
    (trace : List (Asking.Exchange ReadQuery ReadAnswer)) (value : UInt64) : Prop :=
  ∃ address, SlotWord table layout index field address ∧ answered address layout value ∈ trace

/-- A selector word, or a pointer or length word behind an allowlisted selector. -/
def HeaderRead (tables : Tables) (before : List (Asking.Exchange ReadQuery ReadAnswer))
    (query : ReadQuery) : Prop :=
  ∃ table, (table = tables.own ∨ tables.peer = some table) ∧ ∃ index field address,
    query = .word address tables.layout ∧ SlotWord table tables.layout index field address ∧
      (field = 0 ∨ (field = 1 ∨ field = 2) ∧ ∃ selector,
        Seen table tables.layout index 0 before selector ∧ (safeAttributeKind selector).isSome)

/-- No address lies in both spans. -/
def Apart (base len otherBase otherLen : Nat) : Prop :=
  ∀ address, base ≤ address → address < base + len → otherBase ≤ address →
    otherBase + otherLen ≤ address

/-- Bytes of the inspected headers of a table. -/
def headerSize (layout : LinuxLayout) (count : UInt64) : Nat :=
  min count.toNat 8 * (3 * wordSize layout)

def addressSpace : LinuxLayout → Nat
  | .lp64 => 2 ^ 64
  | .ilp32 => 2 ^ 32

/-- The one query that reads a value. -/
def valueQuery (kind : SafeAttributeKind) (ptr len : UInt64) (layout : LinuxLayout) : ReadQuery :=
  match kind with
  | .token => .bytes ptr 1
  | .ecParams => .bytes ptr len.toNat
  | _ => .word ptr layout

/-- The value read of an own slot: exact length, no wrap, apart from all
inspected headers. -/
def ValueRead (tables : Tables) (before : List (Asking.Exchange ReadQuery ReadAnswer))
    (index : Nat) (query : ReadQuery) : Prop :=
  ∃ selector kind ptr len,
    Seen tables.own tables.layout index 0 before selector ∧
      safeAttributeKind selector = some kind ∧
      Seen tables.own tables.layout index 1 before ptr ∧
      Seen tables.own tables.layout index 2 before len ∧
      validSafeAttributeLength kind len tables.layout ∧
      query = valueQuery kind ptr len tables.layout ∧
      ptr.toNat + len.toNat ≤ addressSpace tables.layout ∧
      Apart ptr.toNat len.toNat tables.own.1.toNat (headerSize tables.layout tables.own.2) ∧
      ∀ table, tables.peer = some table → tableValid table.1 table.2 tables.layout →
        Apart ptr.toNat len.toNat table.1.toNat (headerSize tables.layout table.2)

/-- Every exchange is a header read or the only value read of its own slot; the
list names the slots whose values were read. -/
inductive Authorized (tables : Tables) :
    List (Asking.Exchange ReadQuery ReadAnswer) → List Nat → Prop
  | start : Authorized tables [] []
  | header {before : List (Asking.Exchange ReadQuery ReadAnswer)} {slots : List Nat}
      {query : ReadQuery} (earlier : Authorized tables before slots)
      (word : HeaderRead tables before query) (answer : ReadAnswer query) :
      Authorized tables (before ++ [⟨query, answer⟩]) slots
  | value {before : List (Asking.Exchange ReadQuery ReadAnswer)} {slots : List Nat}
      {query : ReadQuery} {index : Nat} (earlier : Authorized tables before slots)
      (fresh : ∀ slot ∈ slots, slot < index) (single : ValueRead tables before index query)
      (answer : ReadAnswer query) :
      Authorized tables (before ++ [⟨query, answer⟩]) (slots ++ [index])

/-- The own table is one whose slots are walked. -/
structure Walked (tables : Tables) : Prop where
  accepted : tableValid tables.own.1 tables.own.2 tables.layout
  nonempty : 0 < tables.own.2.toNat
  below : tables.own.1.toNat + headerSize tables.layout tables.own.2 < 2 ^ 64

/-- Slots are walked while an inspected peer table ends with the address space. -/
structure PeerReachesTop (tables : Tables) : Prop where
  lp64 : tables.layout = .lp64
  walked : Walked tables
  top : ∃ table, tables.peer = some table ∧ tableValid table.1 table.2 tables.layout ∧
    0 < table.2.toNat ∧ table.1.toNat + headerSize tables.layout table.2 = 2 ^ 64

/-! ## Spans -/

theorem toNat_headerBytes (count : UInt64) (layout : LinuxLayout) :
    (headerBytes count layout).toNat = headerSize layout count := by
  have small := toNat_inspectedSlots count
  cases layout with
  | lp64 | ilp32 =>
    simp only [headerBytes, LinuxLayout.wordBytes, UInt64.toNat_mul, UInt64.reduceToNat]
    rw [headerSize]
    simp only [wordSize]
    omega

/-- An unflagged value is apart from headers that end below the top. -/
theorem apart_of_not_overlap {ptr len bytes : UInt64} (fits : ptr.toNat + len.toNat ≤ 2 ^ 64)
    (inside : base.toNat + bytes.toNat < 2 ^ 64) (clear : spansOverlap ptr len base bytes = false) :
    Apart ptr.toNat len.toNat base.toNat bytes.toNat := by
  intro address above below after
  by_contra reached
  have some : ¬ (len = 0 ∨ bytes = 0) := by
    rintro (rfl | rfl)
    · exact absurd below (by simpa using above)
    · exact reached (by simpa using after)
  have first := toNat_saturatingAdd base bytes
  have second := toNat_saturatingAdd ptr len
  simp only [spansOverlap, some, ↓reduceIte, Bool.and_eq_false_iff, decide_eq_false_iff_not,
    UInt64.lt_iff_toNat_lt, first, second] at clear
  omega

/-- A valid span stays inside the address space. -/
theorem validateTargetSpan_isSome {len : UInt64}
    (valid : (validateTargetSpan base len layout).isSome) :
    len = 0 ∨ base.toNat + len.toNat ≤ addressSpace layout := by
  unfold validateTargetSpan at valid
  split at valid
  case isTrue empty => exact .inl empty
  rename_i nonempty
  have positive : 1 ≤ len := by
    exact Nat.one_le_iff_ne_zero.mpr fun zero => nonempty (UInt64.toNat_inj.mp zero)
  refine .inr ?_
  split at valid
  case isTrue => cases valid
  cases layout with
  | lp64 =>
    obtain ⟨last, added⟩ := Option.isSome_iff_exists.mp valid
    obtain ⟨sum, summed, _⟩ := Option.map_eq_some_iff.mp added
    have total := checkedAdd_eq_some summed
    rw [UInt64.toNat_sub_of_le _ _ positive] at total
    have bound := sum.toNat_lt
    have one := UInt64.le_iff_toNat_le.mp positive
    change sum.toNat = base.toNat + (len.toNat - 1) at total
    change _ ≤ 2 ^ 64
    omega
  | ilp32 =>
    obtain ⟨last, added⟩ := Option.isSome_iff_exists.mp valid
    obtain ⟨sum, summed, bounded⟩ := Option.bind_eq_some_iff.mp added
    have total := checkedAdd_eq_some summed
    split at bounded
    case isTrue => cases bounded
    rename_i low
    rw [not_or] at low
    have bound := UInt64.le_iff_toNat_le.mp (UInt64.not_lt.mp low.2)
    rw [total] at bound
    exact bound

/-- An accepted table is a valid span of its whole length. -/
theorem tableValid_span {count : UInt64} (accepted : tableValid base count layout) :
    ∃ table : UInt64, table.toNat = count.toNat * (3 * wordSize layout) ∧
      (validateTargetSpan base table layout).isSome := by
  unfold tableValid at accepted
  split at accepted
  case h_1 => cases accepted
  rename_i table spanned
  exact ⟨table, attributeTableSpan_eq_some spanned, accepted⟩

/-- The inspected headers of an accepted table stay inside the address space. -/
theorem tableValid_end {count : UInt64} (accepted : tableValid base count layout) :
    headerSize layout count = 0 ∨ base.toNat + headerSize layout count ≤ addressSpace layout := by
  obtain ⟨table, total, valid⟩ := tableValid_span accepted
  have inspected : headerSize layout count ≤ table.toNat := by
    rw [total]
    exact Nat.mul_le_mul_right _ (Nat.min_le_left _ _)
  rcases validateTargetSpan_isSome valid with empty | fits
  · rw [empty] at inspected
    exact .inl (Nat.le_zero.mp inspected)
  · exact .inr (by omega)

theorem addressSpace_le (layout : LinuxLayout) : addressSpace layout ≤ 2 ^ 64 := by
  cases layout <;> decide

/-! ## Steps -/

/-- The exchanges are authorized and values were read of earlier slots only. -/
def SafeBelow (tables : Tables) (bound : Nat)
    (trace : List (Asking.Exchange ReadQuery ReadAnswer)) : Prop :=
  ∃ slots, Authorized tables trace slots ∧ ∀ slot ∈ slots, slot < bound

theorem Seen.mono {table : UInt64 × UInt64} {index field : Nat} {value : UInt64}
    {before after : List (Asking.Exchange ReadQuery ReadAnswer)} (extended : before <+: after)
    (seen : Seen table layout index field before value) :
    Seen table layout index field after value := by
  obtain ⟨address, placed, member⟩ := seen
  exact ⟨address, placed, extended.subset member⟩

variable {before : List (Asking.Exchange ReadQuery ReadAnswer)} {table : UInt64 × UInt64}

section Steps

variable {tables : Tables} {index field bound : Nat} {address : UInt64}

theorem seen_answered (placed : SlotWord table tables.layout index field address)
    (value : UInt64) :
    Seen table tables.layout index field (before ++ [answered address tables.layout value]) value :=
  ⟨address, placed, List.mem_append_right _ (List.mem_singleton_self _)⟩

/-- Reading a selector keeps the exchanges authorized. -/
theorem SafeBelow.selector (safe : SafeBelow tables bound before)
    (known : table = tables.own ∨ tables.peer = some table)
    (placed : SlotWord table tables.layout index 0 address)
    (answer : ReadAnswer (.word address tables.layout)) :
    SafeBelow tables bound (before ++ [⟨.word address tables.layout, answer⟩]) := by
  obtain ⟨slots, authorized, below⟩ := safe
  refine ⟨slots, authorized.header ?_ answer, below⟩
  exact ⟨table, known, index, 0, address, rfl, placed, .inl rfl⟩

/-- Behind an allowlisted selector the other two words may be read. -/
theorem SafeBelow.words (safe : SafeBelow tables bound before)
    (known : table = tables.own ∨ tables.peer = some table) {length selector : UInt64}
    (pointers : SlotWord table tables.layout index 1 address)
    (lengths : SlotWord table tables.layout index 2 length)
    (seen : Seen table tables.layout index 0 before selector)
    (allowlisted : (safeAttributeKind selector).isSome)
    (pointed : ReadAnswer (.word address tables.layout)) :
    SafeBelow tables bound (before ++ [⟨.word address tables.layout, pointed⟩]) ∧
      ∀ sized : ReadAnswer (.word length tables.layout), SafeBelow tables bound
        (before ++ [⟨.word address tables.layout, pointed⟩] ++
          [⟨.word length tables.layout, sized⟩]) := by
  obtain ⟨slots, authorized, below⟩ := safe
  have second := authorized.header
    ⟨table, known, index, 1, address, rfl, pointers, .inr ⟨.inl rfl, selector, seen, allowlisted⟩⟩
    pointed
  refine ⟨⟨slots, second, below⟩, fun sized => ⟨slots, second.header ?_ sized, below⟩⟩
  exact ⟨table, known, index, 2, length, rfl, lengths,
    .inr ⟨.inr rfl, selector, seen.mono (List.prefix_append _ _), allowlisted⟩⟩

/-- The value read of a slot uses the slot up. -/
theorem SafeBelow.value (safe : SafeBelow tables index before) {query : ReadQuery}
    (single : ValueRead tables before index query) (answer : ReadAnswer query) :
    SafeBelow tables (index + 1) (before ++ [⟨query, answer⟩]) := by
  obtain ⟨slots, authorized, below⟩ := safe
  refine ⟨_, authorized.value below single answer, ?_⟩
  intro slot member
  rcases List.mem_append.mp member with earlier | same
  · exact (below slot earlier).trans (Nat.lt_succ_self index)
  · rw [List.mem_singleton.mp same]
    exact Nat.lt_succ_self index

theorem SafeBelow.weaken (safe : SafeBelow tables bound before) {higher : Nat}
    (le : bound ≤ higher) : SafeBelow tables higher before := by
  obtain ⟨slots, authorized, below⟩ := safe
  exact ⟨slots, authorized, fun slot member => (below slot member).trans_le le⟩

end Steps

theorem always_readWord {α : Type} {address : UInt64} {next : Option UInt64 → Reading α}
    {post : List (Asking.Exchange ReadQuery ReadAnswer) → α → Prop}
    (every : ∀ word : Option UInt64,
      (next word).Always post (before ++ [⟨.word address layout, word⟩])) :
    (readWord address layout >>= next).Always post before :=
  Asking.Always.query_bind every

theorem always_readBytes {α : Type} {address : UInt64} {length : Nat}
    {next : Option (Vector UInt8 length) → Reading α}
    {post : List (Asking.Exchange ReadQuery ReadAnswer) → α → Prop}
    (every : ∀ bytes : Option (Vector UInt8 length),
      (next bytes).Always post (before ++ [⟨.bytes address length, bytes⟩])) :
    (readBytes address length >>= next).Always post before :=
  Asking.Always.query_bind every

/-- The addresses the walker computes are those of the slot's words. -/
theorem slotWords {index : UInt64}
    (inside : attributeHeaderAddresses table.1 index layout = some addresses)
    (listed : index ∈ slotIndices table.2) :
    SlotWord table layout index.toNat 0 addresses.selector ∧
      SlotWord table layout index.toNat 1 addresses.pointer ∧
      SlotWord table layout index.toNat 2 addresses.length := by
  have bound : index.toNat < min table.2.toNat 8 :=
    toNat_inspectedSlots table.2 ▸ UInt64.lt_iff_toNat_lt.mp (mem_slotIndices.mp listed)
  obtain ⟨selector, pointer, length⟩ := attributeHeaderAddresses_eq_some inside
  exact ⟨⟨bound, selector⟩, ⟨bound, pointer⟩, ⟨bound, length⟩⟩

end P11Scope.Capture
