import BeanRegistry.Factory.Produce

set_option autoImplicit false

namespace BeanRegistry

variable {app : Application}

def resolve (code : Code app) (handle : Handler app) (registry : RegistryId) (name : String) :
    Eval app (Except BeanFailure (Object app.Content)) := do
  match ((← get).registry registry).factory? name with
  | none => pure (.error (.notFound name))
  | some factory =>
    match ← produce code handle factory with
    | .error error => pure (.error (.creationFailed name (.bean error)))
    | .ok bean => pure (.ok bean)

def isSingletonNamed (world : World app) (registry : RegistryId) (name : String) :
    Except BeanFailure Bool :=
  match (world.registry registry).factory? name with
  | none => .error (.notFound name)
  | some factory =>
    match world.factory? factory with
    | none => .error (.notFound name)
    | some bean => .ok bean.isSingleton

end BeanRegistry
