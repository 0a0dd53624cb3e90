import Mathlib

/-!
# Merged flags

Flags are merged by a bitwise or.  A word lies under another when the merge adds
nothing to it; merging a list gives the least word over all its members.
-/

namespace P11Scope.Lib.Flags

variable {α : Type} [OrOp α]

/-- Every bit of the first is a bit of the second. -/
def Under (first second : α) : Prop := first ||| second = second

/-- All flags of a list, over a base. -/
def merge (zero : α) (flags : List α) : α := flags.foldl (· ||| ·) zero

@[simp]
theorem merge_nil (zero : α) : merge zero [] = zero := rfl

theorem merge_concat (zero : α) (flags : List α) (flag : α) :
    merge zero (flags ++ [flag]) = merge zero flags ||| flag :=
  List.foldl_append

theorem Under.refl [Std.IdempotentOp (α := α) (· ||| ·)] (flags : α) : Under flags flags :=
  Std.IdempotentOp.idempotent flags

theorem or_comm [Std.Commutative (α := α) (· ||| ·)] (first second : α) :
    first ||| second = second ||| first :=
  Std.Commutative.comm first second

theorem Under.antisymm [Std.Commutative (α := α) (· ||| ·)] {first second : α}
    (one : Under first second) (two : Under second first) : first = second := by
  unfold Under at one two
  rw [← two, or_comm, one]

section

variable [Std.Associative (α := α) (· ||| ·)]

theorem or_assoc (first second third : α) :
    first ||| second ||| third = first ||| (second ||| third) :=
  Std.Associative.assoc first second third

theorem Under.or {first second whole : α} (one : Under first whole) (two : Under second whole) :
    Under (first ||| second) whole := by
  unfold Under at one two ⊢
  rw [or_assoc, two, one]

theorem Under.trans {first second third : α} (one : Under first second)
    (two : Under second third) : Under first third := by
  unfold Under at one two ⊢
  rw [← two, ← or_assoc, one]

variable [Std.IdempotentOp (α := α) (· ||| ·)]

theorem Under.left (first second : α) : Under first (first ||| second) := by
  unfold Under
  rw [← or_assoc, Under.refl first]

variable [Std.Commutative (α := α) (· ||| ·)]

theorem Under.right (first second : α) : Under second (first ||| second) := by
  rw [or_comm]
  exact .left second first

variable {zero : α}

/-- A merge lies under a word exactly when all its members do. -/
theorem under_merge_iff {flags : List α} {whole : α} :
    Under (merge zero flags) whole ↔ Under zero whole ∧ ∀ flag ∈ flags, Under flag whole := by
  induction flags using List.reverseRecOn with
  | nil => simp
  | append_singleton rest last ih =>
    rw [merge_concat, List.forall_mem_append, List.forall_mem_singleton, ← and_assoc, ← ih]
    constructor
    · intro both
      exact ⟨(Under.left _ _).trans both, (Under.right _ _).trans both⟩
    · rintro ⟨one, two⟩
      exact one.or two

theorem under_merge_of_mem {flags : List α} {flag : α} (member : flag ∈ flags) :
    Under flag (merge zero flags) :=
  (under_merge_iff.mp (Under.refl _)).2 flag member

end

end P11Scope.Lib.Flags
