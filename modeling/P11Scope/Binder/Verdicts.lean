import P11Scope.Binder.State

/-!
# What one verdict does to the tables

Images and incarnations are bound to each other one to one.  A verdict repeats
a bound image, leaves the row unbound, or binds a free image to a free
incarnation after rules 1 to 4 passed.  The posting trace keeps the first
binding of every image together with the row it was reached from.
-/

variable {caller : CallerId}

namespace P11Scope.Binder

open Std List

/-! ## Lookups after an update -/

namespace Tables

/-- The stored entry of an exec sequence, or the entry it would start from. -/
def seen (tables : Tables) (cookie : DomainCookie) (exec : UInt64) : ExecSeen :=
  (tables.cookies.getD cookie ∅).getD exec {}

theorem boundTo_eq_seen (tables : Tables) (cookie : DomainCookie) (exec : UInt64) :
    tables.boundTo cookie exec = (tables.seen cookie exec).bound := by
  unfold boundTo seen
  rw [ExtTreeMap.getD_eq_getD_getElem? (a := cookie)]
  cases stored : tables.cookies[cookie]? with
  | none => simp
  | some execs =>
    rw [ExtTreeMap.getD_eq_getD_getElem? (a := exec)]
    cases found : execs[exec]? with
    | none | some => simp [found]

section

variable (tables : Tables) (cookie other : DomainCookie) (exec sequence : UInt64)
  (update : ExecSeen → ExecSeen)

theorem seen_touch :
    (tables.touch cookie exec update).seen other sequence =
      if cookie = other ∧ exec = sequence then update (tables.seen cookie exec)
      else tables.seen other sequence := by
  unfold touch seen
  by_cases sameCookie : cookie = other
  · subst sameCookie
    by_cases sameExec : exec = sequence
    · subst sameExec
      simp
    · simp [ExtTreeMap.getD_insert, sameExec]
  · simp [ExtTreeMap.getD_insert, sameCookie]

/-- A sighted row's entry keeps what the image is bound to. -/
theorem boundTo_touch (keeps : ∀ entry, (update entry).bound = entry.bound) :
    (tables.touch cookie exec update).boundTo other sequence = tables.boundTo other sequence := by
  rw [boundTo_eq_seen, boundTo_eq_seen, seen_touch]
  split
  · next same => rw [keeps, same.1, same.2]
  · rfl

theorem boundTo_bind (caller : CallerId) : (tables.bind cookie exec caller).boundTo other sequence =
      if cookie = other ∧ exec = sequence then some caller else tables.boundTo other sequence := by
  change (tables.touch cookie exec fun seen => { seen with bound := some caller }).boundTo other
    sequence = _
  rw [boundTo_eq_seen, boundTo_eq_seen, seen_touch]
  split
  · rfl
  · rfl

end

theorem callers_bind (tables : Tables) (cookie : DomainCookie) (exec : UInt64)
    (caller other : CallerId) :
    (tables.bind cookie exec caller).callers[other]? =
      if caller = other then some (cookie, exec) else tables.callers[other]? := by
  change (tables.callers.insert caller (cookie, exec))[other]? = _
  rw [ExtTreeMap.getElem?_insert]
  simp

/-- Images and incarnations hold each other. -/
def Linked (tables : Tables) : Prop :=
  ∀ cookie exec caller,
    tables.boundTo cookie exec = some caller ↔ tables.callers[caller]? = some (cookie, exec)

theorem linked_empty : Linked {} := by
  intro cookie exec caller
  constructor
  · intro bound
    simp [boundTo] at bound
  · intro held
    simp at held

theorem Linked.bind {tables : Tables} (linked : tables.Linked) {cookie : DomainCookie}
    {exec : UInt64} (freeImage : tables.boundTo cookie exec = none)
    (freeCaller : tables.callers[caller]? = none) : (tables.bind cookie exec caller).Linked := by
  intro other sequence holder
  rw [boundTo_bind, callers_bind]
  by_cases sameImage : cookie = other ∧ exec = sequence
  · obtain ⟨rfl, rfl⟩ := sameImage
    by_cases sameCaller : caller = holder
    · simp [sameCaller]
    -- The image was free, so no other incarnation held it.
    have unheld : tables.callers[holder]? ≠ some (cookie, exec) := by
      intro held
      rw [← linked, freeImage] at held
      cases held
    simp [sameCaller, unheld]
  · by_cases sameCaller : caller = holder
    · subst sameCaller
      have unbound : tables.boundTo other sequence ≠ some caller := by
        intro bound
        rw [linked, freeCaller] at bound
        cases bound
      have apart : ¬ (cookie, exec) = (other, sequence) := fun same =>
        sameImage (Prod.mk.injEq .. ▸ same)
      simp [sameImage, unbound, apart]
    · simp only [sameImage, sameCaller, if_false]
      exact linked other sequence holder

end Tables

/-! ## One verdict -/

/-- Rules 1 to 4 for a waiting row: its horizons arrived, the query answered the
row's cookie, and nothing speaks against the incarnation since its admission. -/
structure Passes (evidence : Evidence) (pending : Pending) (sighting : Sighting) : Prop where
  covered : evidence.horizonsCover pending = true
  settled : evidence.awaitsRevalidation pending = false
  sighted : pending.sighting = some sighting
  answered : sighting.query = .cookie pending.row.cookie
  admitted : sighting.firstSeenNs ≤ pending.row.recordedAtNs
  eligible : evidence.predatesCoverage sighting.firstSeenNs = true →
    ∃ revalidated, evidence.revalidated = some revalidated ∧
      revalidated.contains sighting.caller = true
  noExec : ∀ ns, evidence.execNs[pending.row.hostTgid]? = some ns → ns < sighting.firstSeenNs
  noLoss : ∀ ns, evidence.lossNs = some ns → ns < sighting.firstSeenNs

variable {evidence : Evidence}

theorem refusal_eq_none {tables : Tables} {row : WitnessRow} {sighting : Sighting}
    (clear : refusal evidence tables row sighting = none) :
    sighting.firstSeenNs ≤ row.recordedAtNs ∧
      (evidence.predatesCoverage sighting.firstSeenNs = true →
        ∃ revalidated, evidence.revalidated = some revalidated ∧
          revalidated.contains sighting.caller = true) ∧
      (∀ ns, evidence.execNs[row.hostTgid]? = some ns → ns < sighting.firstSeenNs) ∧
      ∀ ns, evidence.lossNs = some ns → ns < sighting.firstSeenNs := by
  unfold refusal at clear
  split at clear
  · cases clear
  next admitted =>
  split at clear
  · cases clear
  next eligible =>
  split at clear
  · cases clear
  next quiet =>
  split at clear
  · cases clear
  next kept =>
  refine ⟨Nat.le_of_not_lt admitted, ?_, ?_, ?_⟩
  · intro predates
    rw [predates, Bool.true_and, Bool.not_eq_true', Bool.not_eq_false, Option.any_eq_true]
      at eligible
    exact eligible
  · intro ns stored
    rw [stored] at quiet
    simpa using quiet
  · intro ns stored
    rw [stored] at kept
    simpa using kept

/-- Everything a verdict can be. -/
inductive Ruled (evidence : Evidence) (tables : Tables) (pending : Pending) : Verdict → Prop where
  | cached {caller : CallerId}
      (held : tables.boundTo pending.row.cookie pending.row.execId = some caller) :
      Ruled evidence tables pending ⟨.bound caller, tables, none⟩
  | unbound {verdict : Verdict} {reason : UnboundReason}
      (refused : verdict.binding = .unbound reason)
      (images : verdict.tables.cookies = tables.cookies)
      (holders : verdict.tables.callers = tables.callers) :
      Ruled evidence tables pending verdict
  | fresh {sighting : Sighting}
      (passes : Passes evidence pending sighting)
      (freeImage : tables.boundTo pending.row.cookie pending.row.execId = none)
      (freeCaller : tables.callers[sighting.caller]? = none) :
      Ruled evidence tables pending
        ⟨.bound sighting.caller,
          tables.bind pending.row.cookie pending.row.execId sighting.caller, none⟩

variable {pending : Pending}

theorem decide_ruled (covered : evidence.horizonsCover pending = true)
    (settled : evidence.awaitsRevalidation pending = false) (tables : Tables) :
    Ruled evidence tables pending (decide evidence tables pending) := by
  simp only [decide]
  cases image : tables.boundTo pending.row.cookie pending.row.execId with
  | some caller => exact .cached image
  | none =>
    cases sighted : pending.sighting with
    | none => exact .unbound rfl rfl rfl
    | some sighting =>
      cases answer : sighting.query with
      | noCookie | exited | unavailable => simp only [answer]; exact .unbound rfl rfl rfl
      | cookie answered =>
        simp only [answer]
        by_cases same : answered = pending.row.cookie
        · rw [if_neg (not_not.mpr same)]
          cases holder : tables.callers[sighting.caller]? with
          | some held =>
            change Ruled _ _ _ (heldVerdict tables pending.row sighting.caller held)
            unfold heldVerdict
            repeat' split
            all_goals exact .unbound rfl rfl rfl
          | none =>
            cases clear : refusal evidence tables pending.row sighting with
            | some reason => exact .unbound rfl rfl rfl
            | none =>
              obtain ⟨admitted, eligible, noExec, noLoss⟩ := refusal_eq_none clear
              exact .fresh ⟨covered, settled, sighted, same ▸ answer, admitted, eligible,
                noExec, noLoss⟩ image holder
        · rw [if_pos same]
          exact .unbound rfl rfl rfl

/-! ## The trace and the tables -/

/-- The posting binds an image to an incarnation. -/
def Posting.binds (cookie : DomainCookie) (exec : UInt64) (caller : CallerId)
    (posting : Posting) : Prop :=
  ∃ row rule, posting = .decided ⟨row, .bound caller⟩ rule ∧ row.cookie = cookie ∧
    row.execId = exec

/-- The first binding of an image in a trace, with the waiting row it was
reached from. -/
structure FirstBound (trace : List Posting) (cookie : DomainCookie) (exec : UInt64)
    (caller : CallerId) (pending : Pending) : Prop where
  split : ∃ before after,
    trace = before ++ .decided ⟨pending.row, .bound caller⟩ (some pending) :: after ∧
      ∀ posting ∈ before, ∀ other, ¬ posting.binds cookie exec other
  cookie_eq : pending.row.cookie = cookie
  exec_eq : pending.row.execId = exec

theorem FirstBound.append {trace : List Posting} {cookie : DomainCookie} {exec : UInt64}
    (first : FirstBound trace cookie exec caller pending) (more : List Posting) :
    FirstBound (trace ++ more) cookie exec caller pending := by
  obtain ⟨⟨before, after, rfl, unbound⟩, cookie_eq, exec_eq⟩ := first
  exact ⟨⟨before, after ++ more, by simp, unbound⟩, cookie_eq, exec_eq⟩

/-- The tables are what the trace bound: each bound image was bound first by a
waiting row that is `Good` for its incarnation, and every later binding of the
image repeats it. -/
structure Traced (Good : Pending → CallerId → Prop) (trace : List Posting) (tables : Tables) :
    Prop where
  linked : tables.Linked
  recorded : ∀ posting ∈ trace, ∀ cookie exec caller, posting.binds cookie exec caller →
    tables.boundTo cookie exec = some caller
  grounded : ∀ cookie exec caller, tables.boundTo cookie exec = some caller →
    ∃ pending, FirstBound trace cookie exec caller pending ∧ Good pending caller

variable {Good : Pending → CallerId → Prop} {trace : List Posting} {tables : Tables}

theorem Traced.empty : Traced Good [] {} where
  linked := Tables.linked_empty
  recorded := by
    intro posting member
    cases member
  grounded := by
    intro cookie exec caller bound
    simp [Tables.boundTo] at bound

/-- Postings that repeat what the tables hold change nothing. -/
theorem Traced.append (traced : Traced Good trace tables) {after : Tables} {more : List Posting}
    (images : ∀ cookie exec, after.boundTo cookie exec = tables.boundTo cookie exec)
    (holders : after.callers = tables.callers)
    (repeats : ∀ posting ∈ more, ∀ cookie exec caller, posting.binds cookie exec caller →
      tables.boundTo cookie exec = some caller) :
    Traced Good (trace ++ more) after where
  linked := by
    intro cookie exec caller
    rw [images, holders]
    exact traced.linked cookie exec caller
  recorded := by
    intro posting member cookie exec caller binds
    rw [images]
    rcases mem_append.mp member with old | new
    · exact traced.recorded posting old cookie exec caller binds
    · exact repeats posting new cookie exec caller binds
  grounded := by
    intro cookie exec caller bound
    rw [images] at bound
    obtain ⟨pending, first, good⟩ := traced.grounded cookie exec caller bound
    exact ⟨pending, first.append more, good⟩

/-- A fresh binding enters the trace as the first one of its image. -/
theorem Traced.bind (traced : Traced Good trace tables)
    (freeImage : tables.boundTo pending.row.cookie pending.row.execId = none)
    (freeCaller : tables.callers[caller]? = none) (good : Good pending caller) (more : List Posting)
    (silent : ∀ posting ∈ more, ∀ cookie exec other, ¬ posting.binds cookie exec other) :
    Traced Good (trace ++ (more ++ [.decided ⟨pending.row, .bound caller⟩ (some pending)]))
      (tables.bind pending.row.cookie pending.row.execId caller) where
  linked := traced.linked.bind freeImage freeCaller
  recorded := by
    intro posting member cookie exec other binds
    rw [Tables.boundTo_bind]
    rcases mem_append.mp member with old | new
    · have bound := traced.recorded posting old cookie exec other binds
      split
      · next same =>
          rw [← same.1, ← same.2, freeImage] at bound
          cases bound
      · exact bound
    · rcases mem_append.mp new with quiet | last
      · exact absurd binds (silent posting quiet cookie exec other)
      · obtain ⟨row, rule, rfl, rfl, rfl⟩ := binds
        simp only [mem_singleton, Posting.decided.injEq, Decision.mk.injEq,
          Binding.bound.injEq] at last
        obtain ⟨⟨rfl, rfl⟩, -⟩ := last
        simp
  grounded := by
    intro cookie exec other bound
    rw [Tables.boundTo_bind] at bound
    split at bound
    · next same =>
        obtain ⟨rfl, rfl⟩ := same
        cases bound
        refine ⟨pending, ⟨⟨trace ++ more, [], by simp, ?_⟩, rfl, rfl⟩, good⟩
        intro posting member holder binds
        rcases mem_append.mp member with old | quiet
        · have held := traced.recorded posting old _ _ holder binds
          rw [freeImage] at held
          cases held
        · exact silent posting quiet _ _ holder binds
    · obtain ⟨held, first, fine⟩ := traced.grounded cookie exec other bound
      exact ⟨held, first.append _, fine⟩

theorem not_binds_dequeued (cookie : DomainCookie) (exec : UInt64) (caller : CallerId) :
    ¬ Posting.dequeued.binds cookie exec caller := by
  rintro ⟨row, rule, same, -⟩
  cases same

theorem not_binds_unbound (row : WitnessRow) (reason : UnboundReason) (rule : Option Pending)
    (cookie : DomainCookie) (exec : UInt64) (caller : CallerId) :
    ¬ (Posting.decided ⟨row, .unbound reason⟩ rule).binds cookie exec caller := by
  rintro ⟨other, basis, same, -⟩
  cases same

/-- The postings of one decided row, in front of those of the later rows. -/
def Verdict.postings (verdict : Verdict) (pending : Pending) : List Posting :=
  .dequeued :: (verdict.transition.toList.map .proved ++
    [.decided ⟨pending.row, verdict.binding⟩ (some pending)])

theorem Traced.decide {verdict : Verdict} (traced : Traced Good trace tables)
    (ruled : Ruled evidence tables pending verdict)
    (good : ∀ sighting, Passes evidence pending sighting → Good pending sighting.caller) :
    Traced Good (trace ++ verdict.postings pending) verdict.tables := by
  cases ruled with
  | @cached caller held =>
    refine traced.append (fun _ _ => rfl) rfl ?_
    intro posting member cookie exec other binds
    simp only [Verdict.postings, Option.toList_none, map_nil, nil_append,
      mem_cons, not_mem_nil, or_false] at member
    rcases member with rfl | rfl
    · exact absurd binds (not_binds_dequeued cookie exec other)
    · obtain ⟨row, rule, same, rfl, rfl⟩ := binds
      cases same
      exact held
  | @unbound _ reason refused images holders =>
    refine traced.append ?_ holders ?_
    · intro cookie exec
      unfold Tables.boundTo
      rw [images]
    · intro posting member cookie exec other binds
      simp only [Verdict.postings, refused, mem_cons, mem_append, mem_map,
        not_mem_nil, or_false] at member
      rcases member with rfl | ⟨transition, -, rfl⟩ | rfl
      · exact absurd binds (not_binds_dequeued cookie exec other)
      · obtain ⟨row, rule, same, -⟩ := binds
        cases same
      · exact absurd binds (not_binds_unbound _ _ _ cookie exec other)
  | @fresh sighting passes freeImage freeCaller =>
    have bound := traced.bind freeImage freeCaller (good sighting passes) [.dequeued] (by
        intro posting member cookie exec other
        rw [mem_singleton] at member
        rw [member]
        exact not_binds_dequeued cookie exec other)
    simpa [Verdict.postings] using bound

/-- The decision loop keeps the trace, whatever waits. -/
theorem decideReady_traced (waiting : List Pending) (traced : Traced Good trace tables)
    (good : ∀ pending ∈ waiting, ∀ sighting, Passes evidence pending sighting →
      Good pending sighting.caller) :
    Traced Good (trace ++ (decideReady evidence tables waiting).postings)
      (decideReady evidence tables waiting).tables := by
  induction waiting generalizing trace tables with
  | nil => simpa [decideReady] using traced
  | cons head rest ih =>
    unfold decideReady
    split
    · simpa using traced
    rename_i ready
    simp only [Bool.or_eq_true, Bool.not_eq_true', not_or, Bool.not_eq_false,
      Bool.not_eq_true] at ready
    have ruled := decide_ruled ready.1 ready.2 tables
    have decided := traced.decide ruled (good head mem_cons_self)
    have later := ih decided fun pending member =>
      good pending (mem_cons_of_mem head member)
    simpa [Verdict.postings] using later

section

variable (limits : BinderLimits) (readNs : Option Nat)
include limits readNs

/-- Everything absorbing one row can do. -/
theorem absorbRow_cases (tables : Tables) (pending : List Pending) (offered : Offered) :
    (∃ caller, tables.boundTo offered.row.cookie offered.row.execId = some caller ∧
      absorbRow limits readNs tables pending offered =
        ⟨tables, pending, [.seen offered.row, .decided ⟨offered.row, .bound caller⟩ none]⟩) ∨
    absorbRow limits readNs tables pending offered =
      ⟨tables, pending, [.seen offered.row, .decided ⟨offered.row, .unbound .capacity⟩ none]⟩ ∨
    absorbRow limits readNs tables pending offered =
      ⟨tables.touch offered.row.cookie offered.row.execId fun seen =>
          { seen with lastT0Ns := max seen.lastT0Ns offered.row.recordedAtNs },
        pending ++ [⟨offered.row, readNs, offered.sighting⟩], [.seen offered.row, .queued]⟩ := by
  simp only [absorbRow]
  cases image : tables.boundTo offered.row.cookie offered.row.execId with
  | some caller => exact .inl ⟨caller, rfl, rfl⟩
  | none =>
    right
    simp only
    split
    · exact .inl rfl
    · exact .inr rfl

theorem absorbRow_traced (pending : List Pending) (offered : Offered)
    (traced : Traced Good trace tables) :
    Traced Good (trace ++ (absorbRow limits readNs tables pending offered).postings)
      (absorbRow limits readNs tables pending offered).tables := by
  rcases absorbRow_cases limits readNs tables pending offered with
    ⟨caller, image, same⟩ | same | same
  · rw [same]
    refine traced.append (fun _ _ => rfl) rfl ?_
    rintro posting member cookie exec holder ⟨row, rule, rfl, rfl, rfl⟩
    simp only [mem_cons, reduceCtorEq, false_or, not_mem_nil, or_false,
      Posting.decided.injEq, Decision.mk.injEq, Binding.bound.injEq] at member
    obtain ⟨⟨rfl, rfl⟩, -⟩ := member
    exact image
  · rw [same]
    refine traced.append (fun _ _ => rfl) rfl ?_
    rintro posting member cookie exec holder ⟨row, rule, rfl, -⟩
    simp at member
  · rw [same]
    have images := fun cookie exec => Tables.boundTo_touch tables offered.row.cookie cookie
      offered.row.execId exec
      (fun seen => { seen with lastT0Ns := max seen.lastT0Ns offered.row.recordedAtNs })
      fun _ => rfl
    refine traced.append images rfl ?_
    rintro posting member cookie exec caller ⟨row, rule, rfl, -⟩
    simp at member

theorem absorbRows_traced (rows : List Offered) (pending : List Pending)
    (traced : Traced Good trace tables) :
    Traced Good (trace ++ (absorbRows limits readNs tables pending rows).postings)
      (absorbRows limits readNs tables pending rows).tables := by
  induction rows generalizing trace tables pending with
  | nil => simpa [absorbRows] using traced
  | cons offered rest ih =>
    have first := absorbRow_traced limits readNs pending offered traced
    have later := ih (absorbRow limits readNs tables pending offered).pending first
    simpa [absorbRows] using later

end

theorem not_binds_of_mem_finishRows {waiting : List Pending} {posting : Posting}
    (member : posting ∈ finishRows evidence waiting) (cookie : DomainCookie) (exec : UInt64)
    (caller : CallerId) : ¬ posting.binds cookie exec caller := by
  induction waiting with
  | nil => cases member
  | cons head rest ih =>
    simp only [finishRows, mem_cons] at member
    rcases member with rfl | rfl | later
    · exact not_binds_dequeued cookie exec caller
    · exact not_binds_unbound _ _ _ cookie exec caller
    · exact ih later

end P11Scope.Binder
