set_option autoImplicit false

namespace BeanRegistry

structure Application where
  Content : Type
  Event : Type
  Memory : Type
  Recipe : Type
  Custom : Type
  Hook : Type

structure FactoryId where
  index : Nat
  deriving DecidableEq, Repr

structure RegistryId where
  index : Nat
  deriving DecidableEq, Repr

structure ChainId where
  index : Nat
  deriving DecidableEq, Repr

-- A registry lives as long as somebody holds a share in it.
structure Owner where
  registry : RegistryId
  serial : Nat
  deriving DecidableEq, Repr

end BeanRegistry
