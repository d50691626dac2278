set_option autoImplicit false

namespace BeanRegistry

inductive Progress where
  | created
  | running (position : Nat)
  | targetInvoked
  | returned
  | failed
  deriving DecidableEq, Repr

namespace Progress

def stage : Progress → Nat
  | .created => 0
  | .running _ => 1
  | .targetInvoked => 2
  | .returned => 3
  | .failed => 4

def position : Progress → Nat
  | .running position => position
  | _ => 0

instance : Ord Progress where
  compare left right :=
    (compare left.stage right.stage).then (compare left.position right.position)

instance : LT Progress where
  lt left right := compare left right = .lt

instance (left right : Progress) : Decidable (left < right) :=
  inferInstanceAs (Decidable (compare left right = .lt))

def advance (current next : Progress) : Progress :=
  if current < next then next else current

def isFinished : Progress → Bool
  | .returned | .failed => true
  | _ => false

def text : Progress → String
  | .created => "Created"
  | .running position => "Running(" ++ toString position ++ ")"
  | .targetInvoked => "TargetInvoked"
  | .returned => "Returned"
  | .failed => "Failed"

end Progress
end BeanRegistry
