import Mathlib

/-!
# Logs of lifetimes

A log records the opening and closing of numbered lifetimes and points that
open and close at once.  A log is coherent when identities only grow and every
closing names a lifetime that is live at that position, under the tag it was
opened with.  Appending a fresh opening, a point or the closing of a live
lifetime keeps a log coherent.
-/

variable {id : Nat}

namespace P11Scope.Lib.Lifetimes

open List

variable {Tag : Type}

/-- One entry of a lifetime log. -/
inductive Event (Tag : Type) where
  | opened (id : Nat) (tag : Tag)
  | closed (id : Nat) (tag : Tag)
  | point (id : Nat)

/-- The identity an entry draws, if it draws one. -/
def Event.draws : Event Tag → Option Nat
  | .opened id _ => some id
  | .closed _ _ => none
  | .point id => some id

/-- The identities drawn along a log. -/
def identities (log : List (Event Tag)) : List Nat := log.filterMap Event.draws

/-- A lifetime that was opened under this tag and not closed. -/
def Live (log : List (Event Tag)) (id : Nat) (tag : Tag) : Prop :=
  .opened id tag ∈ log ∧ ∀ other, .closed id other ∉ log

/-- Identities grow, stay within the bound, and every closing closes a live
lifetime. -/
structure Coherent (log : List (Event Tag)) (bound : Nat) : Prop where
  increasing : (identities log).Pairwise (· < ·)
  bounded : ∀ id ∈ identities log, id ≤ bound
  closes : ∀ before id tag after, log = before ++ .closed id tag :: after → Live before id tag

theorem identities_append (first second : List (Event Tag)) :
    identities (first ++ second) = identities first ++ identities second :=
  filterMap_append

variable (log : List (Event Tag))

theorem identities_snoc_closed (id : Nat) (tag : Tag) :
    identities (log ++ [.closed id tag]) = identities log :=
  (identities_append log _).trans (append_nil _)

theorem mem_identities_of_opened {log : List (Event Tag)} {tag : Tag}
    (opened : .opened id tag ∈ log) : id ∈ identities log :=
  mem_filterMap.mpr ⟨_, opened, rfl⟩

theorem coherent_nil (bound : Nat) : Coherent ([] : List (Event Tag)) bound where
  increasing := List.Pairwise.nil
  bounded := nofun
  closes := fun before id tag after equation => by simp at equation

/-- A position in an extended log is the new entry or a position of the old log. -/
theorem snoc_split {log before after : List (Event Tag)} {last entry : Event Tag}
    (equation : log ++ [last] = before ++ entry :: after) :
    (log = before ∧ last = entry) ∨ ∃ rest, log = before ++ entry :: rest := by
  rcases eq_nil_or_concat after with empty | ⟨rest, final, shape⟩
  · subst empty
    obtain ⟨same, lasts⟩ := append_inj' equation rfl
    exact .inl ⟨same, by simpa using lasts⟩
  · subst shape
    rw [concat_eq_append, ← cons_append, ← append_assoc] at equation
    exact .inr ⟨rest, (append_inj' equation rfl).1⟩

namespace Coherent

variable {log : List (Event Tag)} {bound : Nat}

section

variable (coherent : Coherent log bound)
include coherent

/-- Whatever was closed had drawn its identity. -/
theorem mem_identities_of_closed {tag : Tag} (closed : .closed id tag ∈ log) :
    id ∈ identities log := by
  obtain ⟨before, after, equation⟩ := append_of_mem closed
  have opened := (coherent.closes before id tag after equation).1
  have logged : .opened id tag ∈ log := by
    rw [equation]
    exact mem_append_left _ opened
  exact mem_identities_of_opened logged

/-- An entry that draws an identity above the bound extends the log. -/
theorem snoc_fresh {entry : Event Tag} (draws : entry.draws = some id) (fresh : bound < id) :
    Coherent (log ++ [entry]) id where
  increasing := by
    have last : identities [entry] = [id] := by simp [identities, draws]
    rw [identities_append, last, pairwise_append]
    refine ⟨coherent.increasing, pairwise_singleton _ _, ?_⟩
    intro old known new equal
    rw [mem_singleton] at equal
    have := coherent.bounded old known
    omega
  bounded := by
    have last : identities [entry] = [id] := by simp [identities, draws]
    rw [identities_append, last]
    intro other member
    rcases mem_append.mp member with old | new
    · have := coherent.bounded other old
      omega
    · rw [mem_singleton.mp new]
  closes := by
    intro before closedId tag after equation
    rcases snoc_split equation with ⟨-, same⟩ | ⟨rest, inside⟩
    · subst same
      cases draws
    · exact coherent.closes before closedId tag rest inside

/-- The closing of a live lifetime extends the log. -/
theorem snoc_close {tag : Tag} (live : Live log id tag) :
    Coherent (log ++ [.closed id tag]) bound where
  increasing := by
    rw [identities_snoc_closed]
    exact coherent.increasing
  bounded := by
    rw [identities_snoc_closed]
    exact coherent.bounded
  closes := by
    intro before closedId closedTag after equation
    rcases snoc_split equation with ⟨whole, same⟩ | ⟨rest, inside⟩
    · cases same
      exact whole ▸ live
    · exact coherent.closes before closedId closedTag rest inside

/-- Opening a fresh lifetime makes it live and nothing else. -/
theorem live_snoc_open {tag : Tag} (fresh : bound < id) (other : Nat) (otherTag : Tag) :
    Live (log ++ [.opened id tag]) other otherTag ↔
      Live log other otherTag ∨ (other = id ∧ otherTag = tag) := by
  constructor
  · rintro ⟨opened, unclosed⟩
    rcases mem_append.mp opened with old | new
    · exact .inl ⟨old, fun tag member => unclosed tag (mem_append_left _ member)⟩
    · cases mem_singleton.mp new
      exact .inr ⟨rfl, rfl⟩
  · rintro (⟨opened, unclosed⟩ | ⟨rfl, rfl⟩)
    · refine ⟨mem_append_left _ opened, fun tag member => ?_⟩
      rcases mem_append.mp member with old | new
      · exact unclosed tag old
      · cases mem_singleton.mp new
    · refine ⟨mem_append_right _ (mem_singleton_self _), fun tag member => ?_⟩
      rcases mem_append.mp member with old | new
      · have := coherent.bounded _ (coherent.mem_identities_of_closed old)
        omega
      · cases mem_singleton.mp new

end

end Coherent

/-- A point opens nothing that stays live. -/
theorem live_snoc_point (id other : Nat) (tag : Tag) :
    Live (log ++ [.point id]) other tag ↔ Live log other tag := by
  simp [Live]

/-- Closing a lifetime ends it and no other. -/
theorem live_snoc_close (id other : Nat) (tag otherTag : Tag) :
    Live (log ++ [.closed id tag]) other otherTag ↔ Live log other otherTag ∧ other ≠ id := by
  constructor
  · rintro ⟨opened, unclosed⟩
    have still : .opened other otherTag ∈ log := by simpa using opened
    refine ⟨⟨still, fun tag member => unclosed tag (mem_append_left _ member)⟩, ?_⟩
    rintro rfl
    exact unclosed tag (mem_append_right _ (mem_singleton_self _))
  · rintro ⟨⟨opened, unclosed⟩, apart⟩
    refine ⟨mem_append_left _ opened, fun otherTag member => ?_⟩
    rcases mem_append.mp member with old | new
    · exact unclosed otherTag old
    · cases mem_singleton.mp new
      exact apart rfl

end P11Scope.Lib.Lifetimes
