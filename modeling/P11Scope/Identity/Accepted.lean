import P11Scope.Identity.Parser
import P11Scope.Lib.TreeSet

/-!
# Accepted runs

Whatever the parser keeps is a verdict that every record of the same range, or of
the same slot, repeats; an alias is kept with the installed slot its chain ends in.
-/

variable {done : List Record}

namespace P11Scope.Identity

open Std Lib.TreeMap Lib.TreeSet ExtTreeMap

/-! ## What one record does -/

/-- A check that did not fail. -/
theorem guard_eq_ok {ε α : Type} {refused : Prop} [Decidable refused] {invalid : ε}
    {rest : Except ε α} {result : α} :
    (if refused then .error invalid else rest) = .ok result ↔ ¬ refused ∧ rest = .ok result := by
  by_cases holds : refused
  · simp [holds]
  · simp [holds]

variable {expect : Expect} {next progress : Progress}

theorem follow_run {tgid : UInt32} (followed : progress.follow expect tgid = .ok next) :
    next.run = progress.run := by
  unfold Progress.follow at followed
  split at followed
  · obtain ⟨-, same⟩ := guard_eq_ok.mp followed
    rw [← Except.ok.inj same]
  split at followed
  · rw [← Except.ok.inj followed]
  · split at followed
    · rw [← Except.ok.inj followed]
    · cases followed

variable (run : Run)

@[simp]
theorem keep_anchors (pid : UInt32) (range : UInt64 × UInt64) (parsed : TargetVerdict) :
    (run.keep pid range parsed).anchors = run.anchors := by
  unfold Run.keep
  split
  · rfl
  · split
    · rfl
    · rfl

section

variable {record : Record}

/-- A verdict record is kept under its range. -/
theorem vma_ok (parsed : progress.vma expect record = .ok next) :
    ∃ verdict, record.parsedVerdict expect = .ok verdict ∧
      next.run = progress.run.keep record.a (record.start, record.stop) verdict := by
  obtain ⟨-, parsed⟩ := guard_eq_ok.mp parsed
  obtain ⟨-, parsed⟩ := guard_eq_ok.mp parsed
  obtain ⟨-, parsed⟩ := guard_eq_ok.mp parsed
  obtain ⟨-, parsed⟩ := guard_eq_ok.mp parsed
  split at parsed
  · cases parsed
  rename_i verdict told
  obtain ⟨-, parsed⟩ := guard_eq_ok.mp parsed
  split at parsed
  · cases parsed
  next walked followed =>
    refine ⟨verdict, told, ?_⟩
    rw [← Except.ok.inj parsed, ← follow_run followed]

/-- An anchor record is a diagnostic outside the slots or collapses into its slot;
verdicts are left alone. -/
theorem anchor_ok (parsed : progress.anchor expect record = .ok next) :
    (next.run.byPid = progress.run.byPid ∧ next.run.demotedPids = progress.run.demotedPids) ∧
      ((record.outer expect ∧ next.run.anchors = progress.run.anchors) ∨
        ∃ outcome, record.anchorOutcome expect = .ok outcome ∧
          next.run.anchors = collapse progress.run.anchors record.a outcome) := by
  obtain ⟨-, parsed⟩ := guard_eq_ok.mp parsed
  obtain ⟨-, parsed⟩ := guard_eq_ok.mp parsed
  by_cases outside : record.outer expect
  · rw [if_pos outside] at parsed
    obtain ⟨-, same⟩ := guard_eq_ok.mp parsed
    rw [← Except.ok.inj same]
    exact ⟨⟨rfl, rfl⟩, Or.inl ⟨outside, rfl⟩⟩
  rw [if_neg outside] at parsed
  split at parsed
  · cases parsed
  next outcome told =>
    rw [← Except.ok.inj parsed]
    exact ⟨⟨rfl, rfl⟩, Or.inr ⟨outcome, told, rfl⟩⟩

variable {last : Bool}

/-- The record kinds a run is made of: an end changes nothing. -/
theorem record_ok (parsed : progress.record expect last record = .ok next) :
    (record.kind = kindEnd ∧ next = progress) ∨
      (record.kind = kindVma ∧ progress.vma expect record = .ok next) ∨
      (record.kind = kindAnchor ∧ progress.anchor expect record = .ok next) := by
  obtain ⟨-, parsed⟩ := guard_eq_ok.mp parsed
  obtain ⟨-, parsed⟩ := guard_eq_ok.mp parsed
  obtain ⟨-, parsed⟩ := guard_eq_ok.mp parsed
  by_cases ended : record.kind = kindEnd
  · rw [if_pos ended] at parsed
    obtain ⟨-, parsed⟩ := guard_eq_ok.mp parsed
    obtain ⟨-, parsed⟩ := guard_eq_ok.mp parsed
    exact Or.inl ⟨ended, (Except.ok.inj parsed).symm⟩
  rw [if_neg ended] at parsed
  by_cases told : record.kind = kindVma
  · rw [if_pos told] at parsed
    exact Or.inr (Or.inl ⟨told, parsed⟩)
  rw [if_neg told] at parsed
  by_cases installed : record.kind = kindAnchor
  · rw [if_pos installed] at parsed
    exact Or.inr (Or.inr ⟨installed, parsed⟩)
  · rw [if_neg installed] at parsed
    cases parsed

end

/-- What every record adds to, the records of the run establish. -/
theorem records_induct (holds : List Record → Run → Prop)
    (step : ∀ (done : List Record) (progress next : Progress) (last : Bool) (record : Record),
      progress.record expect last record = .ok next →
        holds done progress.run → holds (done ++ [record]) next.run) (rest : List Record) :
    ∀ (done : List Record) (progress final : Progress), holds done progress.run →
      Progress.records expect rest progress = .ok final → holds (done ++ rest) final.run := by
  induction rest with
  | nil =>
    intro done progress final held parsed
    rw [List.append_nil, ← Except.ok.inj parsed]
    exact held
  | cons record rest ih =>
    intro done progress final held parsed
    unfold Progress.records at parsed
    split at parsed
    · cases parsed
    next next read =>
      have later := ih (done ++ [record]) next final
        (step done progress next _ record read held) parsed
      rwa [List.append_assoc] at later

/-! ## Verdicts -/

theorem verdictOf_insert (pid other : UInt32) (range wanted : UInt64 × UInt64)
    (parsed : TargetVerdict) :
    Run.verdictOf { run with
        byPid := run.byPid.insert pid (((run.byPid[pid]?).getD {}).insert range parsed) }
      other wanted =
      if pid = other ∧ range = wanted then some parsed else run.verdictOf other wanted := by
  unfold Run.verdictOf
  rw [getElem?_insert_ite]
  by_cases samePid : pid = other
  · subst samePid
    rw [if_pos rfl, Option.bind_some, getElem?_insert_ite]
    by_cases sameRange : range = wanted
    · rw [if_pos sameRange, if_pos ⟨rfl, sameRange⟩]
    · rw [if_neg sameRange, if_neg (fun same => sameRange same.2)]
      cases run.byPid[pid]? with
      | none | some => rfl
  · rw [if_neg samePid, if_neg (fun same => samePid same.1)]

theorem verdictOf_erase (pid other : UInt32) (range : UInt64 × UInt64)
    (demoted : ExtTreeSet UInt32) :
    Run.verdictOf { run with byPid := run.byPid.erase pid, demotedPids := demoted } other range =
      if pid = other then none else run.verdictOf other range := by
  unfold Run.verdictOf
  rw [getElem?_erase_ite]
  split
  · rfl
  · rfl

/-- The verdict records read so far, and what is kept of them: a pid is demoted
or every record of it is kept, and nothing is kept without a record. -/
structure Kept (expect : Expect) (done : List Record) (run : Run) : Prop where
  dropped : ∀ pid ∈ run.demotedPids, run.byPid[pid]? = none
  kept : ∀ record ∈ done, record.kind = kindVma → record.a ∈ run.demotedPids ∨
    ∃ verdict, record.parsedVerdict expect = .ok verdict ∧
      run.verdictOf record.a (record.start, record.stop) = some verdict
  sourced : ∀ pid range verdict, run.verdictOf pid range = some verdict →
    ∃ record ∈ done, record.kind = kindVma ∧ record.a = pid ∧
      (record.start, record.stop) = range ∧ record.parsedVerdict expect = .ok verdict

/-- What the records read so far show, they show with one more. -/
theorem exists_mem_snoc {shown : Record → Prop} (record : Record)
    (before : ∃ told ∈ done, shown told) : ∃ told ∈ done ++ [record], shown told := by
  obtain ⟨told, member, shows⟩ := before
  exact ⟨told, List.mem_append_left _ member, shows⟩

section

variable {record : Record} {run : Run}

/-- Records that are no verdicts, and that leave the verdicts alone. -/
theorem Kept.skip {next : Run} (held : Kept expect done run) (other : record.kind ≠ kindVma)
    (byPid : next.byPid = run.byPid) (demoted : next.demotedPids = run.demotedPids) :
    Kept expect (done ++ [record]) next := by
  have same : ∀ pid range, next.verdictOf pid range = run.verdictOf pid range := by
    intro pid range
    unfold Run.verdictOf
    rw [byPid]
  refine ⟨?_, ?_, ?_⟩
  · intro pid member
    rw [byPid]
    exact held.dropped pid (demoted ▸ member)
  · rw [demoted]
    simp only [same]
    refine List.forall_mem_append.mpr ⟨held.kept, List.forall_mem_singleton.mpr ?_⟩
    intro kind
    exact absurd kind other
  · intro pid range verdict found
    rw [same] at found
    exact exists_mem_snoc record (held.sourced pid range verdict found)

theorem Kept.keep {verdict : TargetVerdict} (held : Kept expect done run)
    (kind : record.kind = kindVma) (parsed : record.parsedVerdict expect = .ok verdict) :
    Kept expect (done ++ [record]) (run.keep record.a (record.start, record.stop) verdict) := by
  unfold Run.keep
  split
  next demoted =>
    refine ⟨held.dropped, ?_, ?_⟩
    · exact List.forall_mem_append.mpr
        ⟨held.kept, List.forall_mem_singleton.mpr fun _ => Or.inl demoted⟩
    · intro pid range found_verdict found
      exact exists_mem_snoc record (held.sourced pid range found_verdict found)
  next present =>
    split
    next conflicted =>
      refine ⟨?_, ?_, ?_⟩
      · intro pid member
        rw [getElem?_erase_ite]
        rcases mem_insert_iff.mp member with same | before
        · exact if_pos same
        · rw [held.dropped pid before, ite_self]
      · intro told member told_kind
        rw [verdictOf_erase, mem_insert_iff]
        by_cases same : record.a = told.a
        · exact Or.inl (Or.inl same)
        rcases List.mem_append.mp member with before | added
        · rw [if_neg same]
          exact (held.kept told before told_kind).imp_left Or.inr
        · exact absurd (congrArg Record.a (List.mem_singleton.mp added)).symm same
      · intro pid range found_verdict found
        rw [verdictOf_erase] at found
        split at found
        · cases found
        · exact exists_mem_snoc record (held.sourced pid range found_verdict found)
    next agreed =>
      have repeats : ∀ before, run.verdictOf record.a (record.start, record.stop) = some before →
          before = verdict := by
        intro before found
        rw [found] at agreed
        simpa using agreed
      refine ⟨?_, ?_, ?_⟩
      · intro pid member
        rw [getElem?_insert_ite, if_neg]
        · exact held.dropped pid member
        · rintro rfl
          exact present member
      · intro told member told_kind
        rw [verdictOf_insert]
        rcases List.mem_append.mp member with before | added
        · rcases held.kept told before told_kind with demoted | ⟨kept, told_parsed, found⟩
          · exact Or.inl demoted
          · right
            refine ⟨kept, told_parsed, ?_⟩
            split
            next same =>
              rw [← same.1, ← same.2] at found
              rw [repeats kept found]
            next => exact found
        · rw [List.mem_singleton.mp added]
          exact Or.inr ⟨verdict, parsed, by rw [if_pos ⟨rfl, rfl⟩]⟩
      · intro pid range found_verdict found
        rw [verdictOf_insert] at found
        split at found
        next same =>
          refine ⟨record, List.mem_append_right _ (List.mem_singleton.mpr rfl), kind, same.1,
            same.2, ?_⟩
          rw [parsed, Option.some.inj found]
        next => exact exists_mem_snoc record (held.sourced pid range found_verdict found)

end

theorem Kept.record {record : Record} (parsed : progress.record expect last record = .ok next)
    (held : Kept expect done progress.run) : Kept expect (done ++ [record]) next.run := by
  rcases record_ok parsed with ⟨kind, same⟩ | ⟨kind, told⟩ | ⟨kind, installed⟩
  · rw [same]
    exact held.skip (by rw [kind]; decide) rfl rfl
  · obtain ⟨verdict, parsed, grown⟩ := vma_ok told
    rw [grown]
    exact held.keep kind parsed
  · obtain ⟨⟨byPid, demoted⟩, -⟩ := anchor_ok installed
    exact held.skip (by rw [kind]; decide) byPid demoted

theorem Kept.empty (expect : Expect) : Kept expect [] {} where
  dropped := by
    intro pid member
    exact absurd member ExtTreeSet.not_mem_empty
  kept := by
    intro record member
    cases member
  sourced := by
    intro pid range verdict found
    simp [Run.verdictOf] at found

/-! ## Outcomes -/

/-- The anchor records read so far and their collapse: a slot's outcome is that of
each of its records, unless two of them differ. -/
structure Collapsed (expect : Expect) (done : List Record) (anchors : Outcomes) : Prop where
  told : ∀ record ∈ done, record.kind = kindAnchor → ¬ record.outer expect →
    anchors[record.a]? = some .badShape ∨
      ∃ outcome, record.anchorOutcome expect = .ok outcome ∧ anchors[record.a]? = some outcome
  sourced : ∀ slot outcome, anchors[slot]? = some outcome → outcome ≠ .badShape →
    ∃ record ∈ done, record.kind = kindAnchor ∧ record.a = slot ∧
      record.anchorOutcome expect = .ok outcome

variable (anchors : Outcomes)

theorem getElem?_collapse (slot other : UInt32) (outcome : AnchorOutcome) :
    (collapse anchors slot outcome)[other]? =
      if slot = other then
        some (if anchors[slot]?.all (· = outcome) then outcome else .badShape)
      else anchors[other]? := by
  unfold collapse
  by_cases same : slot = other
  · subst same
    cases found : anchors[slot]? with
    | none => simp
    | some previous =>
      by_cases agrees : previous = outcome
      · simp [agrees, found]
      · simp [agrees]
  · rw [if_neg same]
    cases found : anchors[slot]? with
    | none => exact getElem?_insert_ite.trans (if_neg same)
    | some previous =>
      dsimp only
      split
      · rfl
      · exact getElem?_insert_ite.trans (if_neg same)

variable {anchors : Outcomes}

section

variable {record : Record}

theorem Collapsed.skip (held : Collapsed expect done anchors)
    (other : record.kind = kindAnchor → record.outer expect) :
    Collapsed expect (done ++ [record]) anchors := by
  constructor
  · refine List.forall_mem_append.mpr ⟨held.told, List.forall_mem_singleton.mpr ?_⟩
    intro kind inside
    exact absurd (other kind) inside
  · intro slot outcome found good
    exact exists_mem_snoc record (held.sourced slot outcome found good)

variable {outcome : AnchorOutcome}

theorem Collapsed.collapse (held : Collapsed expect done anchors) (kind : record.kind = kindAnchor)
    (parsed : record.anchorOutcome expect = .ok outcome) :
    Collapsed expect (done ++ [record]) (collapse anchors record.a outcome) := by
  constructor
  · intro told member told_kind inside
    rw [getElem?_collapse]
    rcases List.mem_append.mp member with before | added
    · have earlier := held.told told before told_kind inside
      split
      next same =>
        rw [same]
        -- the slot was reported before: it stays only if the outcome is repeated
        rcases earlier with bad | ⟨previous, told_parsed, found⟩
        · rw [bad]
          by_cases agrees : AnchorOutcome.badShape = outcome
          · simp [agrees]
          · simp [agrees]
        rw [found]
        by_cases agrees : previous = outcome
        · exact Or.inr ⟨previous, told_parsed, by simp [agrees]⟩
        · exact Or.inl (by simp [agrees])
      next => exact earlier
    · rw [List.mem_singleton.mp added, if_pos rfl]
      split
      · exact Or.inr ⟨outcome, parsed, rfl⟩
      · exact Or.inl rfl
  · intro slot kept found good
    rw [getElem?_collapse] at found
    split at found
    next same =>
      split at found
      · rw [Option.some.inj found] at parsed
        exact ⟨record, List.mem_append_right _ (List.mem_singleton.mpr rfl), kind, same, parsed⟩
      · exact absurd (Option.some.inj found).symm good
    next => exact exists_mem_snoc record (held.sourced slot kept found good)

end

theorem Collapsed.record {record : Record} (parsed : progress.record expect last record = .ok next)
    (held : Collapsed expect done progress.run.anchors) :
    Collapsed expect (done ++ [record]) next.run.anchors := by
  rcases record_ok parsed with ⟨kind, same⟩ | ⟨kind, told⟩ | ⟨kind, installed⟩
  · rw [same]
    exact held.skip fun other => absurd (kind.symm.trans other) (by decide)
  · obtain ⟨verdict, parsed, grown⟩ := vma_ok told
    rw [grown, keep_anchors]
    exact held.skip fun other => absurd (kind.symm.trans other) (by decide)
  · obtain ⟨-, ⟨outside, same⟩ | ⟨outcome, parsed, grown⟩⟩ := anchor_ok installed
    · rw [same]
      exact held.skip fun _ => outside
    · rw [grown]
      exact held.collapse kind parsed

theorem Collapsed.empty (expect : Expect) : Collapsed expect [] {} where
  told := by
    intro record member
    cases member
  sourced := by
    intro slot outcome found
    simp at found

/-! ## Roots -/

/-- One slot aliases the next. -/
def Aliases (anchors : Outcomes) (slot next : UInt32) : Prop :=
  anchors[slot]? = some (.dup next)

variable (fuel : Nat)

theorem resolveFrom_succ (seen : ExtTreeSet UInt32) (slot : UInt32) :
    resolveFrom anchors (fuel + 1) seen slot =
      if slot ∈ seen then .error .alias
      else
        match anchors[slot]? with
        | some (.dup next) =>
          if next = slot then .error .alias
          else resolveFrom anchors fuel (seen.insert slot) next
        | some .ok => .ok slot
        | _ => .error .alias := rfl

variable {root : UInt32}

/-- A resolved slot is installed, and the aliases lead to it. -/
theorem resolveFrom_ok : ∀ (seen : ExtTreeSet UInt32) (slot : UInt32),
      resolveFrom anchors fuel seen slot = .ok root →
        Relation.ReflTransGen (Aliases anchors) slot root ∧ anchors[root]? = some .ok := by
  induction fuel with
  | zero =>
    intro seen slot resolved
    cases resolved
  | succ fuel ih =>
    intro seen slot resolved
    obtain ⟨-, resolved⟩ := guard_eq_ok.mp resolved
    cases found : anchors[slot]? with
    | none => rw [found] at resolved; cases resolved
    | some outcome =>
      rw [found] at resolved
      cases outcome with
      | dup next =>
        obtain ⟨-, resolved⟩ := guard_eq_ok.mp resolved
        obtain ⟨leads, installed⟩ := ih _ next resolved
        exact ⟨Relation.ReflTransGen.head found leads, installed⟩
      | ok =>
        rw [← Except.ok.inj resolved]
        exact ⟨.refl, found⟩
      | full | badShape | conflict => cases resolved

section

variable (installed : anchors[root]? = some .ok)

include installed

/-- A chain of aliases to an installed root never returns to its start. -/
theorem not_transGen_aliases {slot : UInt32}
    (leads : Relation.ReflTransGen (Aliases anchors) slot root) :
    ¬ Relation.TransGen (Aliases anchors) slot slot := by
  intro cycle
  induction leads using Relation.ReflTransGen.head_induction_on with
  | refl =>
    obtain ⟨next, aliased, -⟩ := Relation.TransGen.head'_iff.mp cycle
    rw [Aliases, installed] at aliased
    cases aliased
  | head step _ ih =>
    obtain ⟨next, aliased, back⟩ := Relation.TransGen.head'_iff.mp cycle
    cases step.symm.trans aliased
    exact ih (Relation.TransGen.tail' back step)

/-- The fuel is enough: the slots seen are distinct aliases, none of them ahead. -/
theorem resolveFrom_leads : ∀ (seen : ExtTreeSet UInt32) (slot : UInt32),
      Relation.ReflTransGen (Aliases anchors) slot root →
      (∀ passed ∈ seen, passed ∈ anchors ∧
        ¬ Relation.ReflTransGen (Aliases anchors) slot passed) →
      anchors.size < fuel + seen.size → resolveFrom anchors fuel seen slot = .ok root := by
  induction fuel with
  | zero =>
    intro seen slot leads apart enough
    have bounded : seen.size ≤ anchors.size := by
      rw [← ExtTreeSet.length_toList, ← length_keys]
      refine (List.subperm_of_subset (Lib.TreeSet.nodup_toList seen) ?_).length_le
      intro slot member
      exact mem_keys.mpr (apart slot (ExtTreeSet.mem_toList.mp member)).1
    omega
  | succ fuel ih =>
    intro seen slot leads apart enough
    have fresh : slot ∉ seen := fun member => (apart slot member).2 .refl
    rw [resolveFrom_succ, if_neg fresh]
    have acyclic := not_transGen_aliases installed leads
    rcases leads.cases_head with rfl | ⟨next, step, leads⟩
    · rw [installed]
    have found : anchors[slot]? = some (.dup next) := step
    rw [found]
    dsimp only
    rw [if_neg fun same : next = slot => acyclic (.single (same ▸ step))]
    apply ih _ _ leads
    · intro passed member
      rcases mem_insert_iff.mp member with same | before
      · subst same
        exact ⟨mem_iff_isSome_getElem?.mpr (by rw [found]; rfl),
          fun path => acyclic (.head' step path)⟩
      · exact ⟨(apart passed before).1, fun path => (apart passed before).2 (.head step path)⟩
    · rw [ExtTreeSet.size_insert, if_neg fun held =>
        fresh (ExtTreeSet.mem_iff_contains.mpr held)]
      omega

end

/-- A slot resolves exactly to the installed slot its aliases lead to: no other
is returned, and a chain is refused only if it returns or ends elsewhere. -/
theorem resolveAnchorRoot_eq_ok_iff (anchors : Outcomes) (slot root : UInt32) :
    resolveAnchorRoot anchors slot = .ok root ↔
      Relation.ReflTransGen (Aliases anchors) slot root ∧ anchors[root]? = some .ok := by
  constructor
  · exact resolveFrom_ok _ _ _
  · rintro ⟨leads, installed⟩
    refine resolveFrom_leads _ installed _ _ leads ?_ (Nat.lt_add_right _ (Nat.lt_succ_self _))
    intro passed member
    exact absurd member ExtTreeSet.not_mem_empty

/-- Resolution in progress: aliases still lead along the collapsed ones, and the
slots done are given by their installed root. -/
structure Resolving (collapsed : Outcomes) (waiting : List UInt32) (anchors : Outcomes) :
    Prop where
  installed : ∀ slot : UInt32, anchors[slot]? = some AnchorOutcome.ok ↔
    collapsed[slot]? = some AnchorOutcome.ok
  leads : ∀ slot next : UInt32, Aliases anchors slot next →
    Relation.TransGen (Aliases collapsed) slot next
  rooted : ∀ slot root : UInt32, Aliases anchors slot root →
    slot ∈ waiting ∨ collapsed[root]? = some AnchorOutcome.ok

variable {collapsed : Outcomes} {slot : UInt32}

theorem Resolving.insert {waiting : List UInt32}
    (held : Resolving collapsed (slot :: waiting) anchors)
    (alias_ : ∃ next, Aliases anchors slot next)
    (resolved : resolveAnchorRoot anchors slot = .ok root) :
    Resolving collapsed waiting (anchors.insert slot (.dup root)) := by
  obtain ⟨next, hop⟩ := alias_
  obtain ⟨path, rootOk⟩ := resolveFrom_ok _ _ _ resolved
  have reached : Relation.TransGen (Aliases collapsed) slot root := by
    rcases Relation.reflTransGen_iff_eq_or_transGen.mp path with same | path
    · rw [Aliases, ← same, rootOk] at hop
      cases hop
    · exact Relation.TransGen.lift' id held.leads slot root path
  have elsewhere : ∀ other, slot ≠ other →
      (anchors.insert slot (AnchorOutcome.dup root))[other]? = anchors[other]? := by
    intro other apart
    exact getElem?_insert_ite.trans (if_neg apart)
  refine ⟨?_, ?_, ?_⟩
  · intro other
    by_cases same : slot = other
    · subst same
      rw [← held.installed, hop]
      simp
    · rw [elsewhere other same]
      exact held.installed other
  · intro other next hop
    unfold Aliases at hop
    by_cases same : slot = other
    · subst same
      rw [getElem?_insert_self] at hop
      cases hop
      exact reached
    · rw [elsewhere other same] at hop
      exact held.leads other next hop
  · intro other next hop
    unfold Aliases at hop
    by_cases same : slot = other
    · subst same
      rw [getElem?_insert_self] at hop
      cases hop
      exact Or.inr ((held.installed root).mp rootOk)
    rw [elsewhere other same] at hop
    rcases held.rooted other next hop with member | ok
    · rcases List.mem_cons.mp member with head | later
      · exact absurd head.symm same
      · exact Or.inl later
    · exact Or.inr ok

theorem resolveAll_ok {final : Outcomes} (waiting : List UInt32) :
    ∀ anchors, Resolving collapsed waiting anchors →
      (∀ slot ∈ waiting, ∃ next, Aliases anchors slot next) →
      resolveAll waiting anchors = .ok final → Resolving collapsed [] final := by
  induction waiting with
  | nil =>
    intro anchors held _ resolved
    rw [← Except.ok.inj resolved]
    exact held
  | cons slot rest ih =>
    intro anchors held waiting resolved
    unfold resolveAll at resolved
    split at resolved
    · cases resolved
    rename_i root found
    refine ih _ (held.insert (waiting slot (List.mem_cons_self ..)) found) ?_ resolved
    intro other member
    unfold Aliases
    rw [getElem?_insert_ite]
    split
    · exact ⟨root, rfl⟩
    · exact waiting other (List.mem_cons_of_mem _ member)

theorem mem_dupSlots : slot ∈ dupSlots anchors ↔ ∃ next, Aliases anchors slot next := by
  unfold dupSlots Aliases
  simp only [List.mem_map, List.mem_filter, Prod.exists, exists_and_right, exists_eq_right,
    mem_toList_iff_getElem?_eq_some]
  constructor
  · rintro ⟨outcome, found, isDup⟩
    cases outcome with
    | dup next => exact ⟨next, found⟩
    | _ => cases isDup
  · rintro ⟨next, found⟩
    exact ⟨_, found, rfl⟩

/-! ## Accepted runs -/

variable {bytes : List UInt8} {run : Run} {record : Record}

/-- What the verdicts and the outcomes of an accepted run come from. -/
theorem parse_ok (accepted : parse bytes expect = .ok run) :
    ∃ collapsed, Kept expect (recordsOf bytes) { run with anchors := collapsed } ∧
      Collapsed expect (recordsOf bytes) collapsed ∧ Resolving collapsed [] run.anchors := by
  obtain ⟨-, accepted⟩ := guard_eq_ok.mp accepted
  obtain ⟨-, accepted⟩ := guard_eq_ok.mp accepted
  obtain ⟨-, accepted⟩ := guard_eq_ok.mp accepted
  obtain ⟨-, accepted⟩ := guard_eq_ok.mp accepted
  split at accepted
  · cases accepted
  rename_i progress read
  obtain ⟨-, accepted⟩ := guard_eq_ok.mp accepted
  split at accepted
  · cases accepted
  rename_i anchors resolved
  rw [← Except.ok.inj accepted]
  refine ⟨progress.run.anchors, ?_, ?_, ?_⟩
  · exact records_induct (Kept expect) (fun _ _ _ _ _ => Kept.record) (recordsOf bytes) [] {}
      progress (Kept.empty expect) read
  · exact records_induct (fun done run => Collapsed expect done run.anchors)
      (fun _ _ _ _ _ => Collapsed.record) (recordsOf bytes) [] {} progress
      (Collapsed.empty expect) read
  · refine resolveAll_ok _ _ ?_ (fun slot member => mem_dupSlots.mp member) resolved
    refine ⟨fun _ => Iff.rfl, fun _ _ hop => .single hop, ?_⟩
    intro slot root hop
    exact Or.inl (mem_dupSlots.mpr ⟨root, hop⟩)

theorem parsedVerdict_slot (parsed : record.parsedVerdict expect = .ok (.slot slot)) :
    record.verdict = slot ∧ slot ≠ verdictNone := by
  unfold Record.parsedVerdict at parsed
  split at parsed
  · cases parsed
  next matched =>
    split at parsed
    · rw [← TargetVerdict.slot.inj (Except.ok.inj parsed)]
      exact ⟨rfl, matched⟩
    · cases parsed

/-- A range answered with a slot was shown, and every record of it names the slot. -/
theorem parse_verdict {pid : UInt32} {range : UInt64 × UInt64}
    (accepted : parse bytes expect = .ok run)
    (answered : run.verdictOf pid range = some (.slot slot)) : slot ≠ verdictNone ∧
      (∃ record ∈ recordsOf bytes, record.kind = kindVma ∧ record.a = pid ∧
        (record.start, record.stop) = range) ∧
      ∀ record ∈ recordsOf bytes, record.kind = kindVma → record.a = pid →
        (record.start, record.stop) = range → record.verdict = slot := by
  obtain ⟨collapsed, kept, -, -⟩ := parse_ok accepted
  obtain ⟨first, member, kind, samePid, sameRange, parsed⟩ := kept.sourced pid range _ answered
  refine ⟨(parsedVerdict_slot parsed).2, ⟨first, member, kind, samePid, sameRange⟩, ?_⟩
  intro record member kind samePid sameRange
  rcases kept.kept record member kind with demoted | ⟨verdict, parsed, found⟩
  · have gone := kept.dropped record.a demoted
    rw [samePid] at gone
    rw [Run.verdictOf, gone] at answered
    cases answered
  · rw [samePid, sameRange] at found
    have same : some verdict = some (.slot slot) := found.symm.trans answered
    rw [Option.some.inj same] at parsed
    exact (parsedVerdict_slot parsed).1

theorem plainOutcome_ok {plain : AnchorOutcome}
    (parsed : record.plainOutcome expect plain = .ok outcome) :
    outcome = plain ∧ record.a < expect.slots := by
  obtain ⟨-, parsed⟩ := guard_eq_ok.mp parsed
  obtain ⟨inside, parsed⟩ := guard_eq_ok.mp parsed
  exact ⟨(Except.ok.inj parsed).symm, UInt32.not_le.mp inside⟩

/-- The records behind an installed slot and behind an alias. -/
theorem anchorOutcome_ok (parsed : record.anchorOutcome expect = .ok outcome) :
    (outcome = .ok → record.verdict = anchorOk ∧ record.a < expect.slots) ∧
      ∀ slot, outcome = .dup slot → record.verdict = anchorDup ∧ record.a < expect.slots ∧
        record.start.toUInt32 = slot := by
  unfold Record.anchorOutcome at parsed
  split at parsed
  next verdict =>
    obtain ⟨same, inside⟩ := plainOutcome_ok parsed
    exact ⟨fun _ => ⟨verdict, inside⟩, fun slot dup => by rw [same] at dup; cases dup⟩
  split at parsed
  next verdict =>
    obtain ⟨-, parsed⟩ := guard_eq_ok.mp parsed
    obtain ⟨inside, parsed⟩ := guard_eq_ok.mp parsed
    rw [← Except.ok.inj parsed]
    have bounded := UInt32.not_le.mp fun outside => inside (Or.inl outside)
    constructor
    · intro ok
      cases ok
    · intro slot dup
      exact ⟨verdict, bounded, AnchorOutcome.dup.inj dup⟩
  next =>
    -- the other outcomes install nothing
    have other : outcome = .full ∨ outcome = .badShape ∨ outcome = .conflict := by
      split at parsed
      · exact Or.inl (plainOutcome_ok parsed).1
      split at parsed
      · obtain ⟨-, parsed⟩ := guard_eq_ok.mp parsed
        exact Or.inr (Or.inl (Except.ok.inj parsed).symm)
      · split at parsed
        · exact Or.inr (Or.inr (plainOutcome_ok parsed).1)
        · cases parsed
    rcases other with same | same | same
    · simp [same]
    · simp [same]
    · simp [same]

/-- The records of a slot that is installed or an alias all tell the same. -/
theorem Collapsed.agrees {records : List Record} (held : Collapsed expect records collapsed)
    (found : collapsed[slot]? = some outcome) (useful : outcome = .ok ∨ ∃ next, outcome = .dup next)
    : (∃ record ∈ records, record.kind = kindAnchor ∧ record.a = slot ∧
        record.anchorOutcome expect = .ok outcome) ∧
      ∀ record ∈ records, record.kind = kindAnchor → record.a = slot →
        record.anchorOutcome expect = .ok outcome := by
  have good : outcome ≠ .badShape := by
    rintro rfl
    rcases useful with same | ⟨next, same⟩
    · cases same
    · cases same
  obtain ⟨first, member, kind, at_, parsed⟩ := held.sourced slot outcome found good
  have bounded : slot < expect.slots := by
    obtain ⟨ok, dup⟩ := anchorOutcome_ok parsed
    rcases useful with same | ⟨next, same⟩
    · exact at_ ▸ (ok same).2
    · exact at_ ▸ (dup next same).2.1
  refine ⟨⟨first, member, kind, at_, parsed⟩, ?_⟩
  intro record member kind at_
  have inside : ¬ record.outer expect := by
    rintro ⟨-, outside⟩
    rw [at_] at outside
    exact absurd bounded (UInt32.not_lt.mpr outside)
  rcases held.told record member kind inside with bad | ⟨told, told_parsed, same⟩
  · rw [at_, found] at bad
    exact absurd (Option.some.inj bad) good
  · rw [at_, found] at same
    rw [told_parsed, Option.some.inj same]

variable (accepted : parse bytes expect = .ok run)
include accepted

/-- An installed slot of an accepted run reported nothing but its installation. -/
theorem parse_installed (installed : run.anchors[slot]? = some .ok) :
    (∃ record ∈ recordsOf bytes, record.kind = kindAnchor ∧ record.a = slot) ∧
      ∀ record ∈ recordsOf bytes, record.kind = kindAnchor → record.a = slot →
        record.verdict = anchorOk := by
  obtain ⟨collapsed, -, held, resolved⟩ := parse_ok accepted
  obtain ⟨⟨first, member, kind, at_, -⟩, all⟩ :=
    held.agrees ((resolved.installed slot).mp installed) (Or.inl rfl)
  refine ⟨⟨first, member, kind, at_⟩, fun record member kind at_ => ?_⟩
  exact ((anchorOutcome_ok (all record member kind at_)).1 rfl).1

/-- An alias of an accepted run reported one slot, and its root is that slot unless
that slot is an alias itself. -/
theorem parse_alias (alias_ : run.anchors[slot]? = some (.dup root)) :
    ∃ next, (∃ record ∈ recordsOf bytes, record.kind = kindAnchor ∧ record.a = slot) ∧
      (∀ record ∈ recordsOf bytes, record.kind = kindAnchor → record.a = slot →
        record.verdict = anchorDup ∧ record.start.toUInt32 = next) ∧
      (root = next ∨ ∃ record ∈ recordsOf bytes, record.kind = kindAnchor ∧ record.a = next ∧
        record.verdict = anchorDup) := by
  obtain ⟨collapsed, -, held, resolved⟩ := parse_ok accepted
  obtain ⟨next, hop, path⟩ := Relation.TransGen.head'_iff.mp (resolved.leads slot root alias_)
  obtain ⟨⟨first, member, kind, at_, -⟩, all⟩ := held.agrees hop (Or.inr ⟨next, rfl⟩)
  refine ⟨next, ⟨first, member, kind, at_⟩, fun record member kind at_ => ?_, ?_⟩
  · obtain ⟨verdict, -, named⟩ := (anchorOutcome_ok (all record member kind at_)).2 next rfl
    exact ⟨verdict, named⟩
  · rcases Relation.ReflTransGen.cases_head path with same | ⟨later, hop, -⟩
    · exact Or.inl same.symm
    · obtain ⟨⟨told, member, kind, at_, parsed⟩, -⟩ := held.agrees hop (Or.inr ⟨later, rfl⟩)
      exact Or.inr ⟨told, member, kind, at_, ((anchorOutcome_ok parsed).2 later rfl).1⟩

end P11Scope.Identity
