import BeanRegistry.Registry.Resolve

set_option autoImplicit false

namespace BeanRegistry

variable {app : Application}

def register (code : Code app) (handle : Handler app) (declarations : Declarations) (name : String)
    (factory : FactoryId) : Eval app (Except BeanFailure Declarations) := do
  match declarations.admits name with
  | .error fault => pure (.error (.invalidConfiguration fault))
  | .ok () =>
    discard (tellName code handle factory name)
    let isSingleton := (((← get).factory? factory).map Factory.isSingleton).getD false
    Eval.note (.registered name isSingleton)
    pure (.ok (declarations.withBean name factory))

def introduce (code : Code app) (handle : Handler app) (registry : RegistryId) :
    List (String × FactoryId) → Eval app Unit
  | [] => pure ()
  | (name, factory) :: rest => do
    discard (tellName code handle factory name)
    discard (tellRegistry code handle factory registry)
    introduce code handle registry rest

def loadEagerly (code : Code app) (handle : Handler app) (registry : RegistryId) :
    List String → Eval app (Except BeanFailure Unit)
  | [] => pure (.ok ())
  | name :: rest => do
    match ← resolve code handle registry name with
    | .error error => pure (.error error)
    | .ok _ =>
      match isSingletonNamed (← get) registry name with
      | .error error => pure (.error error)
      | .ok false => pure (.error (.invalidConfiguration (.eagerPrototype name)))
      | .ok true => loadEagerly code handle registry rest

def build (code : Code app) (handle : Handler app) (declarations : Declarations) :
    Eval app (Except BeanFailure Owner) := do
  match declarations.registry with
  | .error fault => pure (.error (.invalidConfiguration fault))
  | .ok registry =>
    let identity ← modifyGet fun world => world.addRegistry registry
    introduce code handle identity declarations.beans
    registry.aliases.forM fun resolved => Eval.note (.aliased resolved)
    let owner ← modifyGet fun world => world.grant identity
    match ← loadEagerly code handle identity declarations.eager with
    | .error error =>
      modify fun world => world.release owner
      pure (.error error)
    | .ok () =>
      Eval.note (.built registry.names.length registry.aliases.length declarations.eager.length)
      pure (.ok owner)

end BeanRegistry
