import P11Scope.Journal.LedgerConservation

/-!
# The charges of one role

What a ledger holds in one role, as a set of keys with their bytes: a charge adds
its own key, a release takes its own key out, and a call on another role changes
nothing.
-/

namespace P11Scope.Journal

namespace StagingLedger

/-- The memberships of one role, slot by slot. -/
def lane (ledger : StagingLedger) (role : Role) (place : Fin maxUnsettledStaged) :
    Option (Membership Nat) :=
  ledger.members (place, role.index)

end StagingLedger

namespace Desk

variable {slotBytes others : Nat} {desk after : Desk} {role other : Role} {key : RoleKey}

theorem Untouched.lane (untouched : Untouched slotBytes desk after) (role : Role) :
    after.ledger.lane role = desk.ledger.lane role := by
  funext place
  rw [StagingLedger.lane, StagingLedger.lane, untouched.members]

theorem Charged.lane_other {bytes : Nat} (charged : Charged desk after role key bytes)
    (apart : other ≠ role) : after.ledger.lane other = desk.ledger.lane other := by
  obtain ⟨there, _, added⟩ := charged.added
  funext place
  rw [StagingLedger.lane, StagingLedger.lane, added,
    Function.update_of_ne fun equal =>
      ReservationTable.index_injective apart (Prod.mk.inj equal).2]

theorem Released.lane_other (released : Released desk after role key) (apart : other ≠ role) :
    after.ledger.lane other = desk.ledger.lane other := by
  funext place
  cases released with
  | absent members _ => rw [StagingLedger.lane, StagingLedger.lane, members]
  | taken there member _ _ members =>
    rw [StagingLedger.lane, StagingLedger.lane, members,
      Function.update_of_ne fun equal =>
        ReservationTable.index_injective apart (Prod.mk.inj equal).2]

end Desk

end P11Scope.Journal
