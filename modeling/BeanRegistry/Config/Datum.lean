set_option autoImplicit false

namespace BeanRegistry.Config

inductive Datum where
  | text (content : String)
  | whole (value : Int)
  | fractional
  | truth (value : Bool)
  | moment
  | list
  | record
  deriving DecidableEq, Repr

end BeanRegistry.Config
