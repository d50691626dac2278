import BeanRegistry.Failure
import BeanRegistry.Floating.Shortest
import BeanRegistry.Text.Quoted

set_option autoImplicit false

namespace BeanRegistry

structure Object (Content : Type) where
  identity : Nat
  content : Content

inductive Value (Content : Type) where
  | void
  | bool (value : Bool)
  | int8 (value : Int8)
  | int16 (value : Int16)
  | int32 (value : Int32)
  | int64 (value : Int64)
  | float32 (pattern : UInt32)
  | float64 (pattern : UInt64)
  | char (value : Char)
  | object (value : Object Content)

@[reducible] def Kind.Carrier (Content : Type) : Kind → Type
  | .void => Unit
  | .bool => Bool
  | .int8 => Int8
  | .int16 => Int16
  | .int32 => Int32
  | .int64 => Int64
  | .float32 => UInt32
  | .float64 => UInt64
  | .char => Char
  | .object => Object Content

namespace Value

variable {Content : Type}

def kind : Value Content → Kind
  | .void => .void
  | .bool _ => .bool
  | .int8 _ => .int8
  | .int16 _ => .int16
  | .int32 _ => .int32
  | .int64 _ => .int64
  | .float32 _ => .float32
  | .float64 _ => .float64
  | .char _ => .char
  | .object _ => .object

def isVoid : Value Content → Bool
  | .void => true
  | _ => false

def wrap : (kind : Kind) → kind.Carrier Content → Value Content
  | .void, _ => .void
  | .bool, value => .bool value
  | .int8, value => .int8 value
  | .int16, value => .int16 value
  | .int32, value => .int32 value
  | .int64, value => .int64 value
  | .float32, pattern => .float32 pattern
  | .float64, pattern => .float64 pattern
  | .char, value => .char value
  | .object, value => .object value

def unwrap : (kind : Kind) → Value Content → Except ChainFailure (kind.Carrier Content)
  | .void, .void => .ok ()
  | .bool, .bool value => .ok value
  | .int8, .int8 value => .ok value
  | .int16, .int16 value => .ok value
  | .int32, .int32 value => .ok value
  | .int64, .int64 value => .ok value
  | .float32, .float32 pattern => .ok pattern
  | .float64, .float64 pattern => .ok pattern
  | .char, .char value => .ok value
  | .object, .object value => .ok value
  | expected, value => .error (.typeMismatch expected value.kind)

section Unwrapping

variable {kind : Kind} {value : Value Content}

theorem unwrap_wrap (kind : Kind) (carried : kind.Carrier Content) :
    (wrap kind carried).unwrap kind = .ok carried := by
  cases kind <;> rfl

@[simp] theorem kind_wrap (carried : kind.Carrier Content) : (wrap kind carried).kind = kind := by
  cases kind <;> rfl

theorem kind_eq_iff : value.kind = kind ↔ ∃ carried, value = wrap kind carried := by
  constructor
  · rintro rfl
    cases value with
    | void => exact ⟨(), rfl⟩
    | _ carried => exact ⟨carried, rfl⟩
  · rintro ⟨carried, rfl⟩
    exact kind_wrap carried

theorem unwrap_mismatch (apart : value.kind ≠ kind) :
    value.unwrap kind = .error (.typeMismatch kind value.kind) := by
  cases kind <;> cases value <;> first | rfl | exact absurd rfl apart

theorem unwrap_eq_ok_iff {carried : kind.Carrier Content} :
    value.unwrap kind = .ok carried ↔ value = wrap kind carried := by
  constructor
  · intro unwrapped
    by_cases same : value.kind = kind
    · obtain ⟨held, rfl⟩ := kind_eq_iff.mp same
      rw [unwrap_wrap] at unwrapped
      cases unwrapped
      rfl
    · rw [unwrap_mismatch same] at unwrapped
      cases unwrapped
  · rintro rfl
    exact unwrap_wrap kind carried

end Unwrapping

def equal : Value Content → Value Content → Bool
  | .void, .void => true
  | .bool left, .bool right => left == right
  | .int8 left, .int8 right => left == right
  | .int16 left, .int16 right => left == right
  | .int32 left, .int32 right => left == right
  | .int64 left, .int64 right => left == right
  | .float32 left, .float32 right => Floating.single.equal left.toNat right.toNat
  | .float64 left, .float64 right => Floating.double.equal left.toNat right.toNat
  | .char left, .char right => left == right
  | .object left, .object right => left.identity == right.identity
  | _, _ => false

def payload? : Value Content → Option String
  | .void | .object _ => none
  | .bool value => some (if value then "true" else "false")
  | .int8 value => some (toString value.toInt)
  | .int16 value => some (toString value.toInt)
  | .int32 value => some (toString value.toInt)
  | .int64 value => some (toString value.toInt)
  | .float32 pattern => some (Floating.single.text pattern.toNat)
  | .float64 pattern => some (Floating.double.text pattern.toNat)
  | .char value => some (Text.quoted value)

def text (value : Value Content) : String :=
  match value.payload? with
  | none => value.kind.label
  | some payload => value.kind.label ++ "(" ++ payload ++ ")"

end Value
end BeanRegistry
