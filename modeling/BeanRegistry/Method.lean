import BeanRegistry.Failure

set_option autoImplicit false

namespace BeanRegistry

structure Method where
  enclosingType : String
  name : String
  parameterTypes : List String
  returnType : String
  isNative : Bool
  deriving DecidableEq, Repr

namespace Method

def text (method : Method) : String :=
  method.enclosingType ++ "." ++ method.name ++ "(" ++ String.intercalate ", " method.parameterTypes
    ++ ") -> " ++ method.returnType

def missingPiece? (method : Method) : Option ChainPiece :=
  if method.enclosingType.isEmpty then some .enclosingType
  else if method.name.isEmpty then some .methodName
  else if method.returnType.isEmpty then some .returnType
  else none

end Method
end BeanRegistry
