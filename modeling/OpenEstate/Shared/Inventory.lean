/-
Unit statuses and the transitions between them.
-/

import Mathlib.Tactic.TypeStar

namespace OpenEstate

inductive UnitStatus
  | available | held | blocked | booked | allotted | registered | cancelled
  deriving DecidableEq

def UnitStatus.text : UnitStatus → String
  | .available => "AVAILABLE"
  | .held => "HELD"
  | .blocked => "BLOCKED"
  | .booked => "BOOKED"
  | .allotted => "ALLOTTED"
  | .registered => "REGISTERED"
  | .cancelled => "CANCELLED"

theorem UnitStatus.text_injective {one other : UnitStatus} (same : one.text = other.text) :
    one = other := by
  revert same
  cases one <;> cases other <;> decide

inductive ActorType
  | user | system
  deriving DecidableEq

def unitTransitions : UnitStatus → List UnitStatus
  | .available => [.held, .blocked, .booked]
  | .held => [.booked, .available]
  | .blocked => [.available]
  | .booked => [.allotted, .cancelled]
  | .allotted => [.registered, .cancelled]
  | .registered => []
  | .cancelled => [.available]

def isValidTransition (fromStatus toStatus : UnitStatus) : Bool :=
  toStatus ∈ unitTransitions fromStatus

def reasonRequiredStatuses : List UnitStatus := [.blocked, .cancelled]

def systemOnlyTargetStatuses : List UnitStatus := [.booked, .allotted, .registered, .cancelled]

def isSystemOnlyTarget (toStatus : UnitStatus) : Bool :=
  toStatus ∈ systemOnlyTargetStatuses

end OpenEstate
