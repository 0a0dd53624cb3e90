import Mathlib

/-!
# Classes joined by a list of pairs

The least equivalence that contains every pair of a list, and what one more pair
does to it.
-/

namespace P11Scope.Lib

variable {Item : Type} {pairs : List (Item × Item)} {left right first second : Item}

/-- Two items are linked by a chain of pairs. -/
def SameClass (pairs : List (Item × Item)) : Item → Item → Prop :=
  Relation.EqvGen fun first second => (first, second) ∈ pairs

namespace SameClass

theorem refl (item : Item) : SameClass pairs item item := Relation.EqvGen.refl item

section

variable (joined : SameClass pairs first second)
include joined

theorem symm : SameClass pairs second first :=
  Relation.EqvGen.symm _ _ joined

theorem trans {third : Item} (also : SameClass pairs second third) : SameClass pairs first third :=
  Relation.EqvGen.trans _ _ _ joined also

theorem weaken (pair : Item × Item) : SameClass (pair :: pairs) first second :=
  Relation.EqvGen.mono (fun _ _ member => List.mem_cons_of_mem pair member) first second joined

end

theorem pair : SameClass ((left, right) :: pairs) left right :=
  Relation.EqvGen.rel _ _ List.mem_cons_self

/-- One more pair joins exactly its two classes. -/
theorem cons_iff : SameClass ((left, right) :: pairs) first second ↔
    SameClass pairs first second ∨
      (SameClass pairs first left ∧ SameClass pairs right second) ∨
      (SameClass pairs first right ∧ SameClass pairs left second) := by
  constructor
  · intro joined
    induction joined with
    | rel first second member =>
      rcases List.mem_cons.mp member with same | inside
      · cases same
        exact .inr (.inl ⟨refl _, refl _⟩)
      · exact .inl (Relation.EqvGen.rel _ _ inside)
    | refl item => exact .inl (refl item)
    | symm first second _ ih =>
      rcases ih with joined | ⟨here, there⟩ | ⟨here, there⟩
      · exact .inl joined.symm
      · exact .inr (.inr ⟨there.symm, here.symm⟩)
      · exact .inr (.inl ⟨there.symm, here.symm⟩)
    | trans first second third _ _ ih also =>
      rcases ih with joined | ⟨here, there⟩ | ⟨here, there⟩ <;>
        rcases also with next | ⟨toward, away⟩ | ⟨toward, away⟩
      · exact .inl (joined.trans next)
      · exact .inr (.inl ⟨joined.trans toward, away⟩)
      · exact .inr (.inr ⟨joined.trans toward, away⟩)
      · exact .inr (.inl ⟨here, there.trans next⟩)
      · exact .inr (.inl ⟨here, away⟩)
      · exact .inl (here.trans away)
      · exact .inr (.inr ⟨here, there.trans next⟩)
      · exact .inl (here.trans away)
      · exact .inr (.inr ⟨here, away⟩)
  · rintro (joined | ⟨here, there⟩ | ⟨here, there⟩)
    · exact joined.weaken _
    · exact (here.weaken _).trans (pair.trans (there.weaken _))
    · exact (here.weaken _).trans (pair.symm.trans (there.weaken _))

/-- Items outside the pairs are joined to themselves only. -/
theorem eq_or_known {Known : Item → Prop}
    (closed : ∀ pair ∈ pairs, Known pair.1 ∧ Known pair.2)
    (joined : SameClass pairs first second) : first = second ∨ (Known first ∧ Known second) := by
  induction joined with
  | rel first second member => exact .inr (closed _ member)
  | refl item => exact .inl rfl
  | symm first second _ ih =>
    rcases ih with rfl | known
    · exact .inl rfl
    · exact .inr known.symm
  | trans first second third _ _ ih also =>
    rcases ih with rfl | known
    · exact also
    · rcases also with rfl | next
      · exact .inr known
      · exact .inr ⟨known.1, next.2⟩

end SameClass

end P11Scope.Lib
