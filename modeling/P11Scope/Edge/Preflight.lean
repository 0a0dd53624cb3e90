import P11Scope.Edge.Frame
import P11Scope.Edge.Runs

/-!
# Preflight covers growth

Every function that splits the reservation is a run within the growth that was
predicted for it on the state before the call.
-/

namespace P11Scope.Edge

open Std Lib Lib.TreeMap Kinds ExtTreeMap List

namespace World

variable (w : World)

theorem countOrphans_within (amount budget : Nat) : Within Step w budget (w.countOrphans amount) :=
  (quiet_within (by rfl)).mono (Nat.zero_le _)

/-! ## Mechanism claims -/

variable (call : SemanticCall)

theorem recordInitMechanism_within (descriptor : SlotSemantics)
    (claims : descriptor.transition = .initializeOperation ∨ descriptor.direct ≠ .none) :
    Within Step w (w.claimGrowth call descriptor call.rv)
      (w.recordInitMechanism call descriptor) := by
  unfold recordInitMechanism
  split
  · exact .refl _ _
  rename_i captured
  split
  · exact (quiet_within (by rfl)).mono (Nat.zero_le _)
  rename_i admitted
  have predicted : w.claimGrowth call descriptor call.rv =
      w.provenanceGrowth call.mechanism call call.rv +
        categoryGrowth w.mechs[call.mechanism]? descriptor := by
    refine if_pos ⟨claims, ?_⟩
    rw [not_or, not_not, not_not] at captured
    rw [not_and_or, not_not, Nat.not_le] at admitted
    exact ⟨captured.1, captured.2, admitted⟩
  rw [predicted]
  exact .single (.growRow (claimRow_growth call descriptor admitted))

theorem attributeOpCall_within (mechanism : UInt64) :
    Within Step w (w.provenanceGrowth mechanism call call.rv)
      (w.attributeOpCall call mechanism) := by
  unfold attributeOpCall
  split
  · exact (quiet_within (by rfl)).mono (Nat.zero_le _)
  case isFalse admitted => exact .single (.growRow (attributedRow_growth call admitted))

/-- Provenance growth never rises while other rows are added. -/
theorem provenanceGrowth_le_of_grown {before after : EdgeSemantics} {mechanism : UInt64}
    (call : SemanticCall) (rv : UInt64) (same : after.mechs[mechanism]? = before.mechs[mechanism]?)
    (grown : before.mechs.size ≤ after.mechs.size) :
    after.provenanceGrowth mechanism call rv ≤ before.provenanceGrowth mechanism call rv := by
  unfold EdgeSemantics.provenanceGrowth
  rw [same]
  dsimp only
  split
  · exact Nat.zero_le _
  rename_i admitted
  have admittedBefore :
      ¬ (before.mechs[mechanism]?.isNone ∧ maxEdgeMechanisms ≤ before.mechs.size) :=
    fun refused => admitted ⟨refused.1, refused.2.trans grown⟩
  rw [if_neg admittedBefore]

/-- Attribution touches one row and never removes any. -/
theorem attributeOpCall_mechs (mechanism : UInt64) :
    (∀ other ≠ mechanism, (w.attributeOpCall call mechanism).mechs[other]? = w.mechs[other]?) ∧
      w.mechs.size ≤ (w.attributeOpCall call mechanism).mechs.size := by
  unfold attributeOpCall
  split
  · exact ⟨fun _ _ => rfl, Nat.le_refl _⟩
  refine ⟨fun other apart => ?_, ?_⟩
  · change (w.mechs.insert mechanism _)[other]? = _
    rw [getElem?_insert_ite, if_neg apart.symm]
  · change w.mechs.size ≤ (w.mechs.insert mechanism _).size
    rw [size_insert]
    split <;> omega

/-- Attributing one call to distinct mechanisms stays within the sum predicted on
any earlier state that agrees on those rows and had no more of them. -/
theorem attributeAll_within (before : EdgeSemantics) (mechanisms : List UInt64)
    (distinct : mechanisms.Nodup) (w : World)
    (same : ∀ mechanism ∈ mechanisms, w.mechs[mechanism]? = before.mechs[mechanism]?)
    (grown : before.mechs.size ≤ w.mechs.size) : Within Step w
      (mechanisms.map fun mechanism => before.provenanceGrowth mechanism call call.rv).sum
      (w.attributeAll call mechanisms) := by
  induction mechanisms generalizing w with
  | nil => exact .refl _ _
  | cons mechanism rest ih =>
    obtain ⟨fresh, restDistinct⟩ := nodup_cons.mp distinct
    obtain ⟨others, size⟩ := w.attributeOpCall_mechs call mechanism
    have first := (w.attributeOpCall_within call mechanism).mono
      (provenanceGrowth_le_of_grown call call.rv (same mechanism mem_cons_self) grown)
    refine first.trans (ih restDistinct _ ?_ (grown.trans size))
    intro other member
    have apart : other ≠ mechanism := fun equal => fresh (equal ▸ member)
    rw [others other apart]
    exact same other (mem_cons_of_mem _ member)

/-- One step of the preflight scan keeps the bytes equal to the sum over the
mechanisms seen so far, and those distinct. -/
theorem attributionScan_spec (edge : EdgeSemantics) (call : SemanticCall) (session rv : UInt64)
    (bits : List (UInt16 × String)) (seen : List UInt64) (distinct : seen.Nodup) :
    ∃ all : List UInt64, bits.foldl
        (fun (bytes, seen) entry =>
          match (edge.active[(session, entry.1)]?).bind OpMachine.mechanism with
          | some mechanism =>
            if seen.contains mechanism then (bytes, seen)
            else (bytes + edge.provenanceGrowth mechanism call rv, seen ++ [mechanism])
          | none => (bytes, seen))
        ((seen.map fun mechanism => edge.provenanceGrowth mechanism call rv).sum, seen) =
        ((all.map fun mechanism => edge.provenanceGrowth mechanism call rv).sum, all) ∧
      all.Nodup ∧ ∀ mechanism, mechanism ∈ all ↔ mechanism ∈ seen ∨
        mechanism ∈ bits.filterMap fun entry =>
          (edge.active[(session, entry.1)]?).bind OpMachine.mechanism := by
  induction bits generalizing seen with
  | nil => exact ⟨seen, rfl, distinct, fun mechanism => by simp⟩
  | cons entry rest ih =>
    rw [foldl_cons]
    cases bound : (edge.active[(session, entry.1)]?).bind OpMachine.mechanism with
    | none =>
      obtain ⟨all, scanned, allDistinct, members⟩ := ih seen distinct
      exact ⟨all, scanned, allDistinct, by simpa [bound] using members⟩
    | some mechanism =>
      by_cases known : mechanism ∈ seen
      · obtain ⟨all, scanned, allDistinct, members⟩ := ih seen distinct
        refine ⟨all, by simpa [known] using scanned, allDistinct, fun other => ?_⟩
        rw [members, filterMap_cons, bound, mem_cons]
        grind
      · obtain ⟨all, scanned, allDistinct, members⟩ :=
          ih _ (distinct.append (nodup_singleton mechanism) (disjoint_singleton.mpr known))
        refine ⟨all, by simpa [known] using scanned, allDistinct, fun other => ?_⟩
        rw [members, filterMap_cons, bound, mem_cons, mem_append, mem_singleton, or_assoc]

variable (session : UInt64)

theorem touchedMechanisms_nodup (bits : List (UInt16 × String)) :
    (w.touchedMechanisms session bits).Nodup :=
  TreeSet.nodup_toList _

/-- The bytes preflight predicts for attribution are the sum over the touched
mechanisms. -/
theorem attributionGrowth_eq (session rv : UInt64) (bits : List (UInt16 × String)) :
    (w.attributionGrowth call session rv bits).1 =
      ((w.touchedMechanisms session bits).map fun mechanism =>
        w.provenanceGrowth mechanism call rv).sum := by
  obtain ⟨all, scanned, distinct, members⟩ :=
    attributionScan_spec w.toEdgeSemantics call session rv bits [] nodup_nil
  have bytes : (w.attributionGrowth call session rv bits).1 =
      (all.map fun mechanism => w.provenanceGrowth mechanism call rv).sum :=
    congrArg Prod.fst scanned
  rw [bytes]
  refine TreeSet.sum_map_eq_of_mem_iff _ distinct (w.touchedMechanisms_nodup session bits)
    fun mechanism => ?_
  rw [members, touchedMechanisms]
  simp

/-! ## Operations and lifecycle -/

theorem advanceMachine_within (bit : UInt16) : Within Step w 0 (w.advanceMachine session bit) := by
  unfold advanceMachine
  split
  case h_1 machine live => exact .single (.advance live .inProgress)
  case h_2 => exact .refl _ _

theorem transitionBits_within (descriptor : SlotSemantics) (origin : EffectOrigin) :
    Within Step w 0 (w.transitionBits call descriptor origin) := by
  unfold transitionBits
  split
  · exact Within.foldl_free id (fun entry _ w => w.advanceMachine_within call.session entry.1) w
  · exact w.endBits_within call.session descriptor.operations _ origin

theorem applyOperations_within (descriptor : SlotSemantics) (origin : EffectOrigin) :
    Within Step w (w.attributionGrowth call call.session call.rv
        (operationBits descriptor.operations)).1
      (w.applyOperations call descriptor origin) := by
  rw [attributionGrowth_eq]
  have attributed := attributeAll_within call w.toEdgeSemantics
    (w.touchedMechanisms call.session (operationBits descriptor.operations))
    (w.touchedMechanisms_nodup _ _)
    (w.countOrphans (w.unmatchedBits call.session (operationBits descriptor.operations)))
    (fun _ _ => rfl) (Nat.le_refl _)
  have counted := (w.countOrphans_within _ 0).trans attributed
  exact (counted.trans (transitionBits_within _ call descriptor origin)).mono (by omega)

/-- Bytes a start under this key retains. -/
def startGrowth (key : UInt64 × UInt16) : Nat :=
  if ¬ w.active.contains key ∧ w.active.size < maxEdgeActiveOps then activeMachineCharge else 0

theorem allocGeneration_of_room {w : World} (room : w.machineSeq < u64Max) :
    w.allocGeneration = ({ w with machineSeq := w.machineSeq + 1 }, some (w.machineSeq + 1)) :=
  if_pos room

theorem allocGeneration_of_full {w : World} (full : ¬ w.machineSeq < u64Max) :
    w.allocGeneration = (w, none) :=
  if_neg full

/-- Starting under a free key with identities left is one fresh start. -/
theorem startMachine_of_free {w : World} {session : UInt64} {bit : UInt16}
    (free : w.active[(session, bit)]? = none) (fits : w.active.size < maxEdgeActiveOps)
    (room : w.machineSeq < u64Max) (mechanism : Option UInt64) (receipt : Option KeyReceipt)
    (origin : EffectOrigin) :
    w.startMachine session bit (categoryName bit) mechanism receipt origin =
      w.startFresh (session, bit) mechanism receipt origin := by
  unfold startMachine startFresh
  rw [if_neg (by omega), allocGeneration_of_room room]
  simp only [free, Option.isNone_none, if_true]
  have stored := getElem?_insert_self (t := w.active) (k := (session, bit))
    (v := { mechanism := mechanism, state := .initialized, generation := w.machineSeq + 1,
            key := receipt })
  simp only [retainResourceCharge, stored, Option.bind_some]

/-- Starting over a live machine with identities left is one replacement. -/
theorem startMachine_of_live {w : World} {session : UInt64} {bit : UInt16} {old : OpMachine}
    (live : w.active[(session, bit)]? = some old) (room : w.machineSeq < u64Max)
    (mechanism : Option UInt64) (receipt : Option KeyReceipt) (origin : EffectOrigin) :
    w.startMachine session bit (categoryName bit) mechanism receipt origin =
      w.startOver (session, bit) old mechanism receipt origin := by
  have known : w.active.contains (session, bit) = true := by
    rw [contains_eq_isSome_getElem?, live]
    rfl
  unfold startMachine startOver
  rw [if_neg (by simp [known]), allocGeneration_of_room room]
  simp only [live, Option.isNone_some, Bool.false_eq_true, if_false]
  have stored := getElem?_insert_self (t := w.active) (k := (session, bit))
    (v := { mechanism := mechanism, state := .initialized, generation := w.machineSeq + 1,
            key := receipt })
  simp only [emit, stored, Option.bind_some]

theorem startMachine_within (bit : UInt16) (mechanism : Option UInt64) (receipt : Option KeyReceipt)
    (origin : EffectOrigin) :
    Within Step w (w.startGrowth (session, bit))
      (w.startMachine session bit (categoryName bit) mechanism receipt origin) := by
  by_cases refused : ¬ w.active.contains (session, bit) ∧ maxEdgeActiveOps ≤ w.active.size
  · rw [startMachine, if_pos refused]
    exact (quiet_within (by rfl)).mono (Nat.zero_le _)
  by_cases room : w.machineSeq < u64Max
  · cases live : w.active[(session, bit)]? with
    | some old =>
      rw [startMachine_of_live live room]
      exact (Within.single (.startOver live room mechanism receipt origin)).mono (Nat.zero_le _)
    | none =>
      have absent : w.active.contains (session, bit) = false := by
        rw [contains_eq_isSome_getElem?, live]
        rfl
      have fits : w.active.size < maxEdgeActiveOps := by simpa [absent] using refused
      rw [startMachine_of_free live fits room, startGrowth, if_pos ⟨by simp [absent], fits⟩]
      exact .single (.startFresh live room mechanism receipt origin)
  · rw [startMachine, if_neg refused, allocGeneration_of_full room]
    exact ((w.endMachine_within session bit .cancelled origin).trans_free
      (.single (.startExhausted _))).mono (Nat.zero_le _)

/-- Whether an `*Init` cancels instead of starting. -/
def NullCancels (descriptor : SlotSemantics) : Prop :=
  call.mechanismCapture = Capture.mechanismNull ∧
    descriptor.semanticFlags &&& SemanticFlags.nullMechanismCancel ≠ 0

variable {descriptor : SlotSemantics}

theorem applyInitBit_within {call : SemanticCall} (origin : EffectOrigin)
    (receipt : Option KeyReceipt) {entry : UInt16 × String}
    (selected : entry ∈ operationBits descriptor.operations) {budget : Nat}
    (covered : ¬ NullCancels call descriptor → w.startGrowth (call.session, entry.1) ≤ budget) :
    Within Step w budget (w.applyInitBit call descriptor origin receipt entry) := by
  unfold applyInitBit
  rw [← categoryName_of_mem_operationBits selected]
  have starts := fun w : World => fun mechanism =>
    w.startMachine_within call.session entry.1 mechanism receipt origin
  split
  case isTrue value =>
    refine (starts w _).mono (covered ?_)
    rintro ⟨null, -⟩
    rw [value] at null
    exact absurd null (by decide)
  split
  · split
    · exact (w.endMachine_within call.session entry.1 .cancelled origin).mono (Nat.zero_le _)
    case isFalse keeps =>
      refine ((quiet_within (by rfl)).trans (starts _ none)).mono ?_
      rw [Nat.zero_add]
      exact covered fun cancels => keeps cancels.2
  case isFalse notNull => exact (starts w none).mono (covered fun cancels => notNull cancels.1)

variable (origin : EffectOrigin) (keys : List KeyReceipt)

/-- A single-bit `*Init` is within the machine growth predicted for it. -/
theorem applyInit_within (single : (operationBits descriptor.operations).length = 1) {budget : Nat}
    (covered : call.rv = CkRv.ok → call.session ≠ sessionNone → ¬ NullCancels call descriptor →
      (w.machineGrowth call.session (operationBits descriptor.operations)).1 ≤ budget) :
    Within Step w budget (w.applyInit call descriptor origin keys) := by
  obtain ⟨entry, only⟩ := length_eq_one_iff.mp single
  unfold applyInit
  split
  · exact .refl _ _
  rename_i proceeds
  rw [not_or, not_not] at proceeds
  rw [only] at covered ⊢
  refine w.applyInitBit_within origin keys.head? (by rw [only]; exact mem_singleton_self _)
    fun starts => (Nat.le_of_eq ?_).trans (covered proceeds.1 proceeds.2 starts)
  simp only [startGrowth, EdgeSemantics.machineGrowth, foldl_cons, foldl_nil,
    Nat.add_zero, Nat.zero_add]
  split <;> rfl

theorem applyDirect_within (descriptor : SlotSemantics) (origin : EffectOrigin)
    (keys : List KeyReceipt) : Within Step w 0 (w.applyDirect call descriptor origin keys) := by
  unfold applyDirect
  split
  · exact .refl _ _
  by_cases room : w.machineSeq < u64Max
  · dsimp only
    rw [allocGeneration_of_room (by exact room)]
    exact .single (.completeDirect room _ _ keys origin)
  · dsimp only
    rw [allocGeneration_of_full (by exact room)]
    exact .single (.directExhausted w)

/-- Opening a session binds it within the binding growth predicted before its
stale state was retired. -/
theorem openSession_within (opens : descriptor.lifecycle = .openSession)
    (succeeded : call.rv = CkRv.ok) (named : call.session ≠ sessionNone) :
    Within Step w (w.bindingGrowth descriptor call.session call.rv)
      (w.openSession call origin) := by
  have retired := (w.retireSession_within call.session .unknown origin).trans_free
    (countReconciliation_within _ (w.retireSession call.session .unknown origin).2)
  have bindings : ((w.retireSession call.session .unknown origin).1.countReconciliation
      (w.retireSession call.session .unknown origin).2).openBindings =
      w.openBindings.erase call.session := by
    rw [← w.retireSession_openBindings call.session .unknown origin]
    cases (w.retireSession call.session .unknown origin).2 <;> rfl
  unfold openSession
  refine (retired.trans ?_).mono (Nat.zero_add _).le
  dsimp only
  split
  · exact (quiet_within (by rfl)).mono (Nat.zero_le _)
  rename_i admitted
  rw [bindings] at admitted
  have free : (w.openBindings.erase call.session)[call.session]? = none :=
    getElem?_erase_self
  have fits : (w.openBindings.erase call.session).size < maxEdgeSessions := by
    simpa using admitted
  have predicted : w.bindingGrowth descriptor call.session call.rv = openBindingCharge := by
    refine if_pos ⟨opens, succeeded, named, ?_⟩
    rw [size_erase] at fits
    split at fits
    case isTrue known => exact .inl known
    case isFalse => exact .inr fits
  rw [predicted]
  rw [← bindings] at free
  exact .single (.bindOpen free call.slotId)

theorem applyLifecycle_of_none (none : descriptor.lifecycle = .none) (call : SemanticCall)
    (origin : EffectOrigin) : w.applyLifecycle call descriptor origin = w := by
  unfold applyLifecycle
  rw [none]

/-! ## The completed pipeline -/

theorem claimMechanism_within (descriptor : SlotSemantics) :
    Within Step w (w.claimGrowth call descriptor call.rv) (w.claimMechanism call descriptor) := by
  unfold claimMechanism
  split
  case isTrue claims => exact w.recordInitMechanism_within call descriptor claims
  case isFalse => exact .refl _ _

/-- A mechanism claim leaves the bindings and the machines alone. -/
theorem claimMechanism_frame (descriptor : SlotSemantics) :
    (w.claimMechanism call descriptor).openBindings = w.openBindings ∧
      (w.claimMechanism call descriptor).active = w.active := by
  unfold claimMechanism recordInitMechanism
  split
  · split
    · exact ⟨rfl, rfl⟩
    · split <;> exact ⟨rfl, rfl⟩
  · exact ⟨rfl, rfl⟩

theorem reconcileConclusive_snd (descriptor : SlotSemantics) (origin : EffectOrigin) :
    (w.reconcileConclusive call descriptor origin).2 = EdgeSemantics.reconciles call.rv := by
  unfold reconcileConclusive EdgeSemantics.reconciles
  split
  case isTrue first => simp [first]
  rename_i first
  split
  case isTrue second => rcases second with second | second <;> simp [second]
  rename_i second
  rw [not_or] at second
  split
  case isTrue third => simp [third]
  case isFalse third => simp [first, second.1, second.2, third]

theorem reconcileConclusive_of_not_reconciles {call : SemanticCall}
    (proceeds : EdgeSemantics.reconciles call.rv = false) (descriptor : SlotSemantics)
    (origin : EffectOrigin) : (w.reconcileConclusive call descriptor origin).1 = w := by
  simp only [EdgeSemantics.reconciles, Bool.or_eq_false_iff, decide_eq_false_iff_not] at proceeds
  obtain ⟨⟨⟨first, second⟩, third⟩, fourth⟩ := proceeds
  unfold reconcileConclusive
  rw [if_neg first, if_neg (by simp [second, third]), if_neg fourth]

/-- A mechanism claim does not change what the rest of the call may grow. -/
theorem scopedGrowth_claimMechanism (descriptor : SlotSemantics) (session rv : UInt64) :
    (w.claimMechanism call descriptor).scopedGrowth call descriptor session rv =
      w.scopedGrowth call descriptor session rv := by
  obtain ⟨bindings, machines⟩ := w.claimMechanism_frame call descriptor
  have binds : (w.claimMechanism call descriptor).bindingGrowth descriptor session rv =
      w.bindingGrowth descriptor session rv := by
    unfold EdgeSemantics.bindingGrowth
    rw [bindings]
  have starts : (w.claimMechanism call descriptor).machineGrowth session
      (operationBits descriptor.operations) =
      w.machineGrowth session (operationBits descriptor.operations) := by
    unfold EdgeSemantics.machineGrowth
    rw [machines]
  unfold EdgeSemantics.scopedGrowth
  rw [binds, starts]
  split
  · rfl
  split
  case isTrue touches =>
    -- Without a mechanism claim the rows are untouched too.
    rw [claimMechanism, if_neg (not_or.mpr ⟨touches.1, not_not.mpr touches.2.1⟩)]
  case isFalse => rfl

/-- The lifecycle and operation part of a call that was not reconciled away. -/
theorem applyScoped_within (role : SingleRole descriptor) :
    Within Step w (w.scopedGrowth call descriptor call.session call.rv)
      ((w.applyLifecycle call descriptor origin).applyOperation call descriptor origin keys) := by
  by_cases operates : descriptor.operations = 0
  · have notInit : descriptor.transition ≠ .initializeOperation := by
      intro initializes
      have single := role.initialize_operations initializes
      rw [operates] at single
      exact absurd single (by decide)
    unfold applyOperation
    rw [if_neg notInit, if_neg (by simp [operates])]
    split
    case isTrue direct =>
      rw [applyLifecycle_of_none w (role.direct_lifecycle direct)]
      exact (w.applyDirect_within call descriptor origin keys).mono (Nat.zero_le _)
    by_cases opens : descriptor.lifecycle = .openSession
    · unfold applyLifecycle
      rw [opens]
      dsimp only
      split
      case isTrue admitted =>
        exact (w.openSession_within call origin opens admitted.1 admitted.2).mono
          (Nat.le_add_right _ _)
      case isFalse => exact .refl _ _
    · exact (w.applyLifecycle_within call descriptor origin opens).mono (Nat.zero_le _)
  · rw [applyLifecycle_of_none w (role.operations_lifecycle operates)]
    unfold applyOperation
    split
    case isTrue initializes =>
      refine w.applyInit_within call origin keys (role.initialize_operations initializes) ?_
      intro succeeded named starts
      rw [EdgeSemantics.scopedGrowth, if_pos ⟨initializes, succeeded, named, starts⟩]
      exact Nat.le_add_left _ _
    case isFalse continues =>
      have direct := role.operations_direct operates
      rw [if_pos ⟨direct, operates⟩]
      refine (w.applyOperations_within call descriptor origin).mono ?_
      rw [EdgeSemantics.scopedGrowth, if_neg fun initializes => continues initializes.1,
        if_pos ⟨continues, direct, operates⟩]
      exact Nat.le_add_left _ _

/-- The completed pipeline is within the growth predicted before it ran. -/
theorem applyCompleted_within : Within Step w (w.completedGrowth call call.session call.rv)
      (w.applyCompleted call (descriptorOrCountOnly call.function) origin keys) := by
  have role := descriptorOrCountOnly_singleRole call.function
  generalize known : descriptorOrCountOnly call.function = descriptor at role
  have claimed := w.claimMechanism_within call descriptor
  change Within Step w _
    (if ((w.claimMechanism call descriptor).reconcileConclusive call descriptor origin).2 then
      ((w.claimMechanism call descriptor).reconcileConclusive call descriptor origin).1
    else (((w.claimMechanism call descriptor).reconcileConclusive call descriptor
      origin).1.applyLifecycle call descriptor origin).applyOperation call descriptor origin keys)
  rw [reconcileConclusive_snd]
  unfold EdgeSemantics.completedGrowth
  rw [known]
  cases reconciles : EdgeSemantics.reconciles call.rv with
  | true => exact claimed.trans (reconcileConclusive_within _ call descriptor origin)
  | false =>
    rw [reconcileConclusive_of_not_reconciles _ reconciles]
    refine claimed.trans ?_
    rw [← scopedGrowth_claimMechanism]
    exact applyScoped_within _ call origin keys role

end World

end P11Scope.Edge
