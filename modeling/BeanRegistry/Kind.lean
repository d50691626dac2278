set_option autoImplicit false

namespace BeanRegistry

inductive Kind where
  | void
  | bool
  | int8
  | int16
  | int32
  | int64
  | float32
  | float64
  | char
  | object
  deriving DecidableEq, Repr

namespace Kind

def text : Kind → String
  | .void => "void"
  | .bool => "bool"
  | .int8 => "i8"
  | .int16 => "i16"
  | .int32 => "i32"
  | .int64 => "i64"
  | .float32 => "f32"
  | .float64 => "f64"
  | .char => "char"
  | .object => "object"

def label : Kind → String
  | .void => "Void"
  | .bool => "Bool"
  | .int8 => "I8"
  | .int16 => "I16"
  | .int32 => "I32"
  | .int64 => "I64"
  | .float32 => "F32"
  | .float64 => "F64"
  | .char => "Char"
  | .object => "Object"

def wrapping : List Kind :=
  [.bool, .int8, .int16, .int32, .int64, .float32, .float64, .char, .object]

end Kind
end BeanRegistry
