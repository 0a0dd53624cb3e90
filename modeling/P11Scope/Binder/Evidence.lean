import P11Scope.Binder.Verdicts

/-!
# The evidence against the exec history

Execs happen outside the binder.  A faithful capture delivers each exec after
the coverage start, or counts it lost, before a complete drain and a readable
health read that both started after it.  What the evidence fields of one domain
know about the absorbed batches then rules out an exec between an admission and
the read of a row that passes the rules.
-/

namespace P11Scope.Binder

open Std List

/-! ## What the batches show -/

/-- A complete drain started after the instant. -/
def DrainedAfter (events : List Event) (ns : Nat) : Prop :=
  ∃ batch started, Event.lifecycle batch ∈ events ∧ batch.drained = true ∧
    stamp batch.startedNs = some started ∧ ns < started

/-- A readable health read started after the instant. -/
def HealthAfter (events : List Event) (ns : Nat) : Prop :=
  ∃ batch read, Event.witnesses batch ∈ events ∧ batch.health.discoveryCounters.isSome = true ∧
    stamp batch.healthReadNs = some read ∧ ns < read

/-- A lifecycle batch holds the exec's record. -/
def Delivered (events : List Event) (tgid : UInt32) (ns : Nat) : Prop :=
  ∃ batch record, Event.lifecycle batch ∈ events ∧ record ∈ batch.records ∧
    record.kind = discoveryKindExec ∧ record.tgid = tgid ∧ record.hookTsNs = ns

/-- The lost-record counter of a readable health read. -/
def WitnessBatch.ringLossCount (batch : WitnessBatch) : Option Nat :=
  batch.health.discoveryCounters.map fun counters => counters.1

/-- The malformed-record counter of a readable health read. -/
def WitnessBatch.malformedCount (batch : WitnessBatch) : Option Nat :=
  batch.health.discoveryCounters.map fun _ => batch.health.malformedDiscovery

/-- A health read after the instant shows a count that no read up to the instant
showed. -/
def Rose (counter : WitnessBatch → Option Nat) (events : List Event) (ns : Nat) : Prop :=
  ∃ batch count, Event.witnesses batch ∈ events ∧ counter batch = some count ∧
    ns < batch.healthReadNs ∧ 0 < count ∧
    ∀ earlier seen, Event.witnesses earlier ∈ events → counter earlier = some seen →
      earlier.healthReadNs ≤ ns → seen < count

def CountedLost (events : List Event) (ns : Nat) : Prop :=
  Rose WitnessBatch.ringLossCount events ns ∨ Rose WitnessBatch.malformedCount events ns

def Event.coverageStart? : Event → Option Nat
  | .coverage _ startNs => some startNs
  | _ => none

/-- The first report of where exec coverage began. -/
def coverageStart (events : List Event) : Option Nat := events.findSome? Event.coverageStart?

/-- Every exec since the coverage start is delivered or counted lost, once a
complete drain and a readable health read that started after it are in. -/
def Faithful (execs : UInt32 → Nat → Prop) (events : List Event) : Prop :=
  ∀ seen, seen <+: events → ∀ start, coverageStart seen = some start →
    ∀ tgid ns, execs tgid ns → start ≤ ns → DrainedAfter seen ns → HealthAfter seen ns →
      Delivered seen tgid ns ∨ CountedLost seen ns

/-- What binding an incarnation through a waiting row rests on. -/
structure Attested (execs : UInt32 → Nat → Prop) (events : List Event) (pending : Pending)
    (caller : CallerId) : Prop where
  grounds : ∃ sighting readNs start, pending.sighting = some sighting ∧
    sighting.caller = caller ∧ sighting.query = .cookie pending.row.cookie ∧
    pending.readNs = some readNs ∧ coverageStart events = some start ∧
    sighting.firstSeenNs ≤ pending.row.recordedAtNs ∧
    (∀ ns, execs pending.row.hostTgid ns → start ≤ ns → sighting.firstSeenNs ≤ ns →
      ¬ ns ≤ readNs) ∧
    (sighting.firstSeenNs < start → ∃ domain passStartNs revalidated,
      Event.revalidation domain passStartNs revalidated ∈ events ∧ start ≤ passStartNs ∧
        revalidated.contains caller = true)

/-! ## Instants only move forward -/

/-- An instant at or after the given one is remembered. -/
def Since (remembered : Option Nat) (ns : Nat) : Prop :=
  ∃ instant, remembered = some instant ∧ ns ≤ instant

theorem since_latest_new (was : Option Nat) (ns : Nat) : Since (latest was ns) ns := by
  cases was with
  | none => exact ⟨ns, rfl, Nat.le_refl ns⟩
  | some before => exact ⟨max before ns, rfl, Nat.le_max_right before ns⟩

theorem Since.latest {was : Option Nat} {ns : Nat} (since : Since was ns) (later : Nat) :
    Since (latest was later) ns := by
  obtain ⟨before, rfl, reached⟩ := since
  exact ⟨max before later, rfl, reached.trans (Nat.le_max_left before later)⟩

theorem Since.mono {remembered : Option Nat} {earlier later : Nat} (since : Since remembered later)
    (order : earlier ≤ later) : Since remembered earlier := by
  obtain ⟨instant, stored, reached⟩ := since
  exact ⟨instant, stored, order.trans reached⟩

theorem eq_or_eq_of_latest {was : Option Nat} {ns found : Nat}
    (stored : latest was ns = some found) :
    was = some found ∨ found = ns := by
  cases was with
  | none =>
    right
    exact (Option.some.inj stored).symm
  | some before =>
    have same : max before ns = found := Option.some.inj stored
    rcases Nat.le_total before ns with order | order
    · rw [Nat.max_eq_right order] at same
      exact .inr same.symm
    · rw [Nat.max_eq_left order] at same
      exact .inl (congrArg some same)

namespace Evidence

/-- Records and losses were added and nothing else changed. -/
structure Grows (before after : Evidence) : Prop where
  lifecycleNs : after.lifecycleNs = before.lifecycleNs
  healthNs : after.healthNs = before.healthNs
  coverageNs : after.coverageNs = before.coverageNs
  revalidated : after.revalidated = before.revalidated
  ringLoss : after.ringLoss = before.ringLoss
  malformed : after.malformed = before.malformed
  execNs : ∀ (tgid : UInt32) (ns : Nat), Since before.execNs[tgid]? ns →
    Since after.execNs[tgid]? ns
  lossNs : ∀ ns, Since before.lossNs ns → Since after.lossNs ns

variable (evidence : Evidence)

theorem Grows.refl : Grows evidence evidence :=
  ⟨rfl, rfl, rfl, rfl, rfl, rfl, fun _ _ since => since, fun _ since => since⟩

theorem Grows.trans {first second third : Evidence} (left : Grows first second)
    (right : Grows second third) : Grows first third where
  lifecycleNs := right.lifecycleNs.trans left.lifecycleNs
  healthNs := right.healthNs.trans left.healthNs
  coverageNs := right.coverageNs.trans left.coverageNs
  revalidated := right.revalidated.trans left.revalidated
  ringLoss := right.ringLoss.trans left.ringLoss
  malformed := right.malformed.trans left.malformed
  execNs tgid ns since := right.execNs tgid ns (left.execNs tgid ns since)
  lossNs ns since := right.lossNs ns (left.lossNs ns since)

theorem noteLoss_grows (ns : Nat) : Grows evidence (evidence.noteLoss ns) :=
  ⟨rfl, rfl, rfl, rfl, rfl, rfl, fun _ _ since => since, fun _ since => since.latest ns⟩

/-- The exec is remembered by its tgid, or as a loss at or after it. -/
def Remembers (tgid : UInt32) (ns : Nat) : Prop :=
  Since evidence.execNs[tgid]? ns ∨ Since evidence.lossNs ns

theorem Remembers.grows {before after : Evidence} {tgid : UInt32} {ns : Nat}
    (remembers : before.Remembers tgid ns) (grows : Grows before after) :
    after.Remembers tgid ns := by
  rcases remembers with stored | lost
  · exact .inl (grows.execNs tgid ns stored)
  · exact .inr (grows.lossNs ns lost)

variable (limit : Nat) (evidence : Evidence)

theorem noteRecord_grows (record : DiscoveryRecord) :
    Grows evidence (evidence.noteRecord limit record) := by
  unfold noteRecord
  split
  · exact .refl evidence
  split
  · exact noteLoss_grows evidence _
  · refine ⟨rfl, rfl, rfl, rfl, rfl, rfl, ?_, fun _ since => since⟩
    rintro tgid ns ⟨before, stored, reached⟩
    rw [ExtTreeMap.getElem?_insert]
    by_cases same : record.tgid = tgid
    · subst same
      rw [if_pos (by simp), ExtTreeMap.getD_eq_getD_getElem?, stored]
      exact ⟨_, rfl, reached.trans (Nat.le_max_left ..)⟩
    · rw [if_neg (by simpa using same)]
      exact ⟨before, stored, reached⟩

theorem noteRecord_remembers {record : DiscoveryRecord} (exec : record.kind = discoveryKindExec) :
    (evidence.noteRecord limit record).Remembers record.tgid record.hookTsNs := by
  unfold noteRecord
  rw [if_neg (not_not.mpr exec)]
  split
  · exact .inr (since_latest_new _ _)
  · left
    simp only [ExtTreeMap.getElem?_insert_self]
    exact ⟨_, rfl, Nat.le_max_right ..⟩

theorem noteRecords_grows (records : List DiscoveryRecord) :
    Grows evidence (records.foldl (noteRecord limit) evidence) := by
  induction records generalizing evidence with
  | nil => exact .refl evidence
  | cons record rest ih => exact (noteRecord_grows limit evidence record).trans (ih _)

theorem noteRecords_remembers {records : List DiscoveryRecord} {record : DiscoveryRecord}
    (member : record ∈ records) (exec : record.kind = discoveryKindExec) :
    (records.foldl (noteRecord limit) evidence).Remembers record.tgid record.hookTsNs := by
  induction records generalizing evidence with
  | nil => cases member
  | cons head rest ih =>
    rcases mem_cons.mp member with rfl | later
    · exact (noteRecord_remembers limit evidence exec).grows (noteRecords_grows limit _ rest)
    · exact ih _ later

theorem noteFailure_grows (batch : DiscoveryBatch) :
    Grows evidence (evidence.noteFailure batch) := by
  unfold noteFailure
  split
  · exact noteLoss_grows evidence _
  · exact .refl evidence

theorem noteMetadataHealth_grows (batch : WitnessBatch) :
    Grows evidence (evidence.noteMetadataHealth batch) := by
  unfold noteMetadataHealth
  (repeat' split) <;>
    exact ⟨rfl, rfl, rfl, rfl, rfl, rfl, fun _ _ since => since, fun _ since => since⟩

end Evidence

/-! ## Loss counters -/

/-- A remembered counter is the largest count read, and every level it reached
was dated as a loss at the read that showed it. -/
structure Counted (counter : WitnessBatch → Option Nat) (events : List Event) (value : Nat)
    (lossNs : Option Nat) : Prop where
  reached : ∀ batch count, Event.witnesses batch ∈ events → counter batch = some count →
    count ≤ value
  dated : ∀ level, 0 < level → level ≤ value → ∃ batch count, Event.witnesses batch ∈ events ∧
    counter batch = some count ∧ level ≤ count ∧ Since lossNs batch.healthReadNs

namespace Counted

variable {counter : WitnessBatch → Option Nat} {events : List Event} {value : Nat}
  {lossNs : Option Nat} (counted : Counted counter events value lossNs)
include counted

/-- A rise after an instant is remembered as a loss after it. -/
theorem lost {ns : Nat} (rose : Rose counter events ns) : Since lossNs ns := by
  obtain ⟨batch, count, member, read, -, positive, above⟩ := rose
  obtain ⟨dated, level, present, shown, least, since⟩ :=
    counted.dated count positive (counted.reached batch count member read)
  refine since.mono ?_
  by_contra early
  have smaller := above dated level present shown (by omega)
  omega

/-- Later losses keep a counter counted. -/
theorem later {after : Option Nat} (kept : ∀ ns, Since lossNs ns → Since after ns) :
    Counted counter events value after where
  reached := counted.reached
  dated := by
    intro level positive within
    obtain ⟨batch, count, member, read, least, since⟩ := counted.dated level positive within
    exact ⟨batch, count, member, read, least, kept _ since⟩

/-- An event without a reading of the counter leaves it counted. -/
theorem append {event : Event} (silent : ∀ batch, event = .witnesses batch → counter batch = none) :
    Counted counter (events ++ [event]) value lossNs where
  reached := by
    intro batch count member read
    rcases mem_append.mp member with old | new
    · exact counted.reached batch count old read
    · have none_read := silent batch (mem_singleton.mp new).symm
      rw [none_read] at read
      cases read
  dated := by
    intro level positive within
    obtain ⟨batch, count, member, rest⟩ := counted.dated level positive within
    exact ⟨batch, count, mem_append_left _ member, rest⟩

/-- A reading raises the counter to itself and, when it is higher than before,
is dated as a loss. -/
theorem read {batch : WitnessBatch} {count : Nat} {after : Option Nat}
    (shown : counter batch = some count) (kept : ∀ ns, Since lossNs ns → Since after ns)
    (risen : value < count → Since after batch.healthReadNs) :
    Counted counter (events ++ [.witnesses batch]) (max value count) after where
  reached := by
    intro other seen member read
    rcases mem_append.mp member with old | new
    · exact (counted.reached other seen old read).trans (Nat.le_max_left value count)
    · cases mem_singleton.mp new
      rw [shown] at read
      cases read
      exact Nat.le_max_right value count
  dated := by
    intro level positive within
    by_cases low : level ≤ value
    · obtain ⟨other, seen, member, read, least, since⟩ := counted.dated level positive low
      exact ⟨other, seen, mem_append_left _ member, read, least, kept _ since⟩
    · have reach : level ≤ count := by omega
      exact ⟨batch, count, mem_append_right _ mem_cons_self, shown, reach, risen (by omega)⟩

end Counted

/-! ## What the evidence knows -/

/-- The evidence fields of one domain against the batches absorbed so far. -/
structure Evidence.Knows (events : List Event) (evidence : Evidence) : Prop where
  drained : ∀ ns, evidence.lifecycleNs = some ns → ∃ batch, Event.lifecycle batch ∈ events ∧
    batch.drained = true ∧ stamp batch.startedNs = some ns
  health : ∀ ns, evidence.healthNs = some ns → ∃ batch, Event.witnesses batch ∈ events ∧
    batch.health.discoveryCounters.isSome = true ∧ stamp batch.healthReadNs = some ns
  coverage : evidence.coverageNs = coverageStart events
  revalidation : ∀ revalidated, evidence.revalidated = some revalidated →
    ∃ domain passStartNs start, Event.revalidation domain passStartNs revalidated ∈ events ∧
      evidence.coverageNs = some start ∧ start ≤ passStartNs
  delivered : ∀ tgid ns, Delivered events tgid ns → evidence.Remembers tgid ns
  ringLoss : Counted WitnessBatch.ringLossCount events evidence.ringLoss evidence.lossNs
  malformed : Counted WitnessBatch.malformedCount events evidence.malformed evidence.lossNs

theorem Counted.empty (counter : WitnessBatch → Option Nat) : Counted counter [] 0 none where
  reached := by
    intro batch count member
    cases member
  dated := by
    omega

namespace Evidence

theorem Knows.empty : Knows [] {} where
  drained := nofun
  health := nofun
  coverage := rfl
  revalidation := nofun
  delivered := by
    rintro tgid ns ⟨batch, record, member, -⟩
    cases member
  ringLoss := .empty _
  malformed := .empty _

theorem coverageStart_append (events : List Event) (event : Event) :
    coverageStart (events ++ [event]) = (coverageStart events).or event.coverageStart? := by
  simp [coverageStart, findSome?_append]

variable {events : List Event} {evidence : Evidence}

section

variable (knows : evidence.Knows events)
include knows

/-- More records and losses keep everything that was known. -/
theorem Knows.grows {after : Evidence} (grows : Grows evidence after) : after.Knows events where
  drained := by
    rw [grows.lifecycleNs]
    exact knows.drained
  health := by
    rw [grows.healthNs]
    exact knows.health
  coverage := grows.coverageNs.trans knows.coverage
  revalidation := by
    rw [grows.revalidated, grows.coverageNs]
    exact knows.revalidation
  delivered := by
    intro tgid ns found
    exact (knows.delivered tgid ns found).grows grows
  ringLoss := by
    rw [grows.ringLoss]
    exact knows.ringLoss.later grows.lossNs
  malformed := by
    rw [grows.malformed]
    exact knows.malformed.later grows.lossNs

section

variable {event : Event}
  (silent : ∀ batch, event = .witnesses batch → batch.health.discoveryCounters = none)
  (remembers : ∀ batch, event = .lifecycle batch → ∀ record ∈ batch.records,
    record.kind = discoveryKindExec → evidence.Remembers record.tgid record.hookTsNs)
include silent remembers

/-- An event joins the history once its records are remembered; it can only add
a first coverage start. -/
theorem Knows.record : Knows (events ++ [event])
      { evidence with coverageNs := evidence.coverageNs.or event.coverageStart? } where
  drained := by
    intro ns stored
    obtain ⟨batch, member, rest⟩ := knows.drained ns stored
    exact ⟨batch, mem_append_left _ member, rest⟩
  health := by
    intro ns stored
    obtain ⟨batch, member, rest⟩ := knows.health ns stored
    exact ⟨batch, mem_append_left _ member, rest⟩
  coverage := by
    rw [coverageStart_append, ← knows.coverage]
  revalidation := by
    intro revalidated stored
    obtain ⟨domain, passStartNs, start, member, covered, order⟩ :=
      knows.revalidation revalidated stored
    refine ⟨domain, passStartNs, start, mem_append_left _ member, ?_, order⟩
    rw [covered, Option.some_or]
  delivered := by
    rintro tgid ns ⟨batch, record, member, present, exec, rfl, rfl⟩
    rcases mem_append.mp member with old | new
    · exact knows.delivered _ _ ⟨batch, record, old, present, exec, rfl, rfl⟩
    · exact remembers batch (mem_singleton.mp new).symm record present exec
  ringLoss := by
    refine knows.ringLoss.append fun batch same => ?_
    simp [WitnessBatch.ringLossCount, silent batch same]
  malformed := by
    refine knows.malformed.append fun batch same => ?_
    simp [WitnessBatch.malformedCount, silent batch same]

/-- A note that changes nothing. -/
theorem Knows.ignore (uncovered : event.coverageStart? = none) :
    evidence.Knows (events ++ [event]) := by
  have recorded := knows.record silent remembers
  rwa [uncovered, Option.or_none] at recorded

end

theorem Knows.noteRevalidation (domain : NativeDomainId) {passStartNs start : Nat}
    (revalidated : ExtTreeSet CallerId) (covered : evidence.coverageNs = some start)
    (order : start ≤ passStartNs) : Knows (events ++ [.revalidation domain passStartNs revalidated])
      { evidence with revalidated := some revalidated } := by
  have ignored : evidence.Knows (events ++ [.revalidation domain passStartNs revalidated]) :=
    knows.ignore nofun nofun rfl
  refine { ignored with revalidation := ?_ }
  intro found stored
  cases stored
  exact ⟨domain, passStartNs, start, mem_append_right _ mem_cons_self, covered, order⟩

/-- A lifecycle quantum: its records and losses, then its drain. -/
theorem Knows.absorbLifecycle (limit : Nat) (batch : DiscoveryBatch) :
    Knows (events ++ [.lifecycle batch]) (evidence.absorbLifecycle limit batch) := by
  have recorded := noteRecords_grows limit evidence batch.records
  have failed := noteFailure_grows (batch.records.foldl (noteRecord limit) evidence) batch
  have kept : Knows (events ++ [.lifecycle batch])
      ((batch.records.foldl (noteRecord limit) evidence).noteFailure batch) := by
    refine (knows.grows (recorded.trans failed)).ignore nofun ?_ rfl
    intro other same record present exec
    cases same
    exact (noteRecords_remembers limit evidence present exec).grows failed
  simp only [Evidence.absorbLifecycle, noteDrain]
  cases started : stamp batch.startedNs with
  | none => exact kept
  | some ns =>
    simp only
    split
    · next complete =>
        refine { kept with drained := ?_ }
        intro found stored
        rcases eq_or_eq_of_latest stored with before | rfl
        · exact kept.drained found before
        · exact ⟨batch, mem_append_right _ mem_cons_self, complete, started⟩
    · exact kept

end

/-- What a readable health read changes: losses are dated when a counter rose. -/
theorem noteCounters_spec (evidence : Evidence) {batch : WitnessBatch}
    {counters : Nat × Nat × Nat × Nat × Nat}
    (read : batch.health.discoveryCounters = some counters) :
    (∀ ns, Since evidence.lossNs ns → Since (evidence.noteCounters batch counters.1).lossNs ns) ∧
    (evidence.ringLoss < counters.1 ∨ evidence.malformed < batch.health.malformedDiscovery →
      Since (evidence.noteCounters batch counters.1).lossNs batch.healthReadNs) ∧
    (evidence.noteCounters batch counters.1).lifecycleNs = evidence.lifecycleNs ∧
    (evidence.noteCounters batch counters.1).coverageNs = evidence.coverageNs ∧
    (evidence.noteCounters batch counters.1).revalidated = evidence.revalidated ∧
    (evidence.noteCounters batch counters.1).execNs = evidence.execNs := by
  have rose : (ringLossRose evidence.ringLoss batch.health.discoveryCounters).isSome = true ↔
      evidence.ringLoss < counters.1 := by
    rw [read]
    simp [ringLossRose]
  simp only [noteCounters]
  split
  · exact ⟨fun _ since => since.latest _, fun _ => since_latest_new _ _, rfl, rfl, rfl, rfl⟩
  · next still =>
      refine ⟨fun _ since => since, ?_, rfl, rfl, rfl, rfl⟩
      intro risen
      rw [Bool.or_eq_true, rose, decide_eq_true_iff] at still
      exact absurd risen still

/-- A witness read's health: a readable one moves the horizon and dates a rise. -/
theorem Knows.absorbHealth (knows : evidence.Knows events) (batch : WitnessBatch) :
    Knows (events ++ [.witnesses batch]) (evidence.absorbHealth batch) := by
  have noted := knows.grows (noteMetadataHealth_grows evidence batch)
  simp only [Evidence.absorbHealth]
  generalize evidence.noteMetadataHealth batch = before at noted ⊢
  cases read : batch.health.discoveryCounters with
  | none =>
    refine noted.ignore ?_ nofun rfl
    intro other same
    cases same
    exact read
  | some counters =>
    obtain ⟨kept, dated, lifecycleNs, coverageNs, revalidated, execNs⟩ :=
      noteCounters_spec before read
    refine ⟨?_, ?_, ?_, ?_, ?_, ?_, ?_⟩
    · rw [lifecycleNs]
      intro ns stored
      obtain ⟨other, member, rest⟩ := noted.drained ns stored
      exact ⟨other, mem_append_left _ member, rest⟩
    · intro ns stored
      have earlier : before.healthNs = some ns → ∃ other,
          Event.witnesses other ∈ events ++ [.witnesses batch] ∧
          other.health.discoveryCounters.isSome = true ∧
          stamp other.healthReadNs = some ns := by
        intro stored
        obtain ⟨other, member, rest⟩ := noted.health ns stored
        exact ⟨other, mem_append_left _ member, rest⟩
      simp only [noteCounters] at stored
      cases stamped : stamp batch.healthReadNs with
      | none =>
        rw [stamped] at stored
        exact earlier stored
      | some readNs =>
        rw [stamped] at stored
        rcases eq_or_eq_of_latest stored with old | rfl
        · exact earlier old
        · exact ⟨batch, mem_append_right _ mem_cons_self, by rw [read]; rfl,
            stamped⟩
    · rw [coverageNs, coverageStart_append, noted.coverage]
      exact (Option.or_none ..).symm
    · rw [revalidated, coverageNs]
      intro found stored
      obtain ⟨domain, passStartNs, start, member, rest⟩ := noted.revalidation found stored
      exact ⟨domain, passStartNs, start, mem_append_left _ member, rest⟩
    · rintro tgid ns ⟨other, record, member, rest⟩
      rcases mem_append.mp member with old | new
      · unfold Remembers
        rw [execNs]
        exact (noted.delivered tgid ns ⟨other, record, old, rest⟩).imp_right (kept ns)
      · cases mem_singleton.mp new
    · exact noted.ringLoss.read (by simp [WitnessBatch.ringLossCount, read]) kept
        fun rose => dated (.inl rose)
    · exact noted.malformed.read (by simp [WitnessBatch.malformedCount, read]) kept
        fun rose => dated (.inr rose)

end Evidence

/-! ## A row that passes the rules -/

theorem coverageStart_prefix {seen events : List Event} {start : Nat} (early : seen <+: events)
    (covered : coverageStart seen = some start) : coverageStart events = some start := by
  obtain ⟨rest, rfl⟩ := early
  unfold coverageStart at covered ⊢
  rw [findSome?_append, covered, Option.some_or]

/-- Under a faithful capture, a waiting row that passes rules 1 to 4 is attested:
a drain and a health read after its read are in, so an exec since the admission
would be remembered. -/
theorem Passes.attested {execs : UInt32 → Nat → Prop} {seen events : List Event}
    {evidence : Evidence} {pending : Pending} {sighting : Sighting}
    (passes : Passes evidence pending sighting) (knows : evidence.Knows seen)
    (early : seen <+: events) (faithful : Faithful execs events) :
    Attested execs events pending sighting.caller := by
  obtain ⟨readNs, stamped, drainLater, healthLater⟩ :
      ∃ readNs, pending.readNs = some readNs ∧
        (∃ ns, evidence.lifecycleNs = some ns ∧ readNs < ns) ∧
        ∃ ns, evidence.healthNs = some ns ∧ readNs < ns := by
    have covered := passes.covered
    simp only [Evidence.horizonsCover, Option.any_eq_true, Bool.and_eq_true,
      decide_eq_true_eq] at covered
    exact covered
  obtain ⟨drainNs, drainStored, drainLater⟩ := drainLater
  obtain ⟨healthNs, healthStored, healthLater⟩ := healthLater
  obtain ⟨drain, drainIn, complete, drainStamp⟩ := knows.drained drainNs drainStored
  obtain ⟨health, healthIn, readable, healthStamp⟩ := knows.health healthNs healthStored
  -- An unreported coverage start makes every incarnation predate it, and then a
  -- revalidation is needed, which a known start precedes.
  obtain ⟨start, covered⟩ : ∃ start, evidence.coverageNs = some start := by
    cases known : evidence.coverageNs with
    | some start => exact ⟨start, rfl⟩
    | none =>
      have predates : evidence.predatesCoverage sighting.firstSeenNs = true := by
        simp [Evidence.predatesCoverage, known]
      obtain ⟨revalidated, stored, -⟩ := passes.eligible predates
      obtain ⟨-, -, start, -, found, -⟩ := knows.revalidation revalidated stored
      rw [known] at found
      cases found
  have coveredSeen : coverageStart seen = some start := knows.coverage.symm.trans covered
  refine ⟨sighting, readNs, start, passes.sighted, rfl, passes.answered, stamped,
    coverageStart_prefix early coveredSeen, passes.admitted, ?_, ?_⟩
  · intro ns happened since admitted beforeRead
    have shown := faithful seen early start coveredSeen pending.row.hostTgid ns happened since
      ⟨drain, drainNs, drainIn, complete, drainStamp, by omega⟩
      ⟨health, healthNs, healthIn, readable, healthStamp, by omega⟩
    have lost : Since evidence.lossNs ns → False := by
      rintro ⟨lossNs, stored, reached⟩
      have before := passes.noLoss lossNs stored
      omega
    rcases shown with delivered | ringLoss | malformed
    · rcases knows.delivered _ _ delivered with ⟨execNs, stored, reached⟩ | since
      · have before := passes.noExec execNs stored
        omega
      · exact lost since
    · exact lost (knows.ringLoss.lost ringLoss)
    · exact lost (knows.malformed.lost malformed)
  · intro predates
    have early' : evidence.predatesCoverage sighting.firstSeenNs = true := by
      simp [Evidence.predatesCoverage, covered, predates]
    obtain ⟨revalidated, stored, contains⟩ := passes.eligible early'
    obtain ⟨domain, passStartNs, found, member, known, order⟩ :=
      knows.revalidation revalidated stored
    rw [covered] at known
    cases known
    exact ⟨domain, passStartNs, revalidated, early.subset member, order, contains⟩

end P11Scope.Binder
