import BeanRegistry.Operation

set_option autoImplicit false

namespace BeanRegistry

structure BeanType (Content : Type) where
  name : String
  holds : Content → Bool

def BeanType.check {Content : Type} (type : BeanType Content) (name : String)
    (bean : Object Content) : Except BeanFailure (Object Content) :=
  if type.holds bean.content then .ok bean else .error (.typeMismatch name type.name)

namespace Script

variable {app : Application}

def request (operation : Operation app) : Script app operation.Answer :=
  Program.request operation

def emit (event : app.Event) : Script app Unit :=
  request (.emit event)

def readMemory : Script app app.Memory :=
  request .readMemory

def writeMemory (memory : app.Memory) : Script app Unit :=
  request (.writeMemory memory)

def newObject (content : app.Content) : Script app (Object app.Content) :=
  request (.newObject content)

def newFactory (scope : Scope) (recipe : app.Recipe) : Script app FactoryId :=
  request (.newFactory scope recipe)

def produce (factory : FactoryId) : Script app (Except BeanFailure (Object app.Content)) :=
  request (.produce factory)

def resolve (registry : RegistryId) (name : String) :
    Script app (Except BeanFailure (Object app.Content)) :=
  request (.resolve registry name)

def resolveTyped (registry : RegistryId) (type : BeanType app.Content) (name : String) :
    Script app (Except BeanFailure (Object app.Content)) := do
  match ← resolve registry name with
  | .error error => pure (.error error)
  | .ok bean => pure (type.check name bean)

def acquire (registry : RegistryId) : Script app (Except Failure Owner) := do
  match ← request (.acquire registry) with
  | none => pure (.error .registryDropped)
  | some owner => pure (.ok owner)

def holding {Result : Type} (owner : Owner) (use : RegistryId → Script app Result) :
    Script app Result := do
  let result ← use owner.registry
  request (.release owner)
  pure result

def drive (chain : ChainId) : Script app (Except Failure (Value app.Content)) :=
  request (.driveChain chain)

def driveAs (kind : Kind) (chain : ChainId) :
    Script app (Except Failure (kind.Carrier app.Content)) := do
  match ← drive chain with
  | .error failure => pure (.error failure)
  | .ok value =>
    match value.unwrap kind with
    | .error error => pure (.error (.chain error))
    | .ok carried => pure (.ok carried)

end Script

namespace Creation

variable {app : Application}

def acquire (creation : Creation) : Script app (Except Failure Owner) :=
  match creation.registry with
  | none => pure (.error (.bean (.invalidConfiguration (.unregisteredBean creation.beanName))))
  | some registry => Script.acquire registry

def resolve (creation : Creation) (name : String) :
    Script app (Except Failure (Object app.Content)) := do
  match ← creation.acquire with
  | .error failure => pure (.error failure)
  | .ok owner =>
    match ← Script.holding owner fun registry => Script.resolve registry name with
    | .error error => pure (.error (.bean error))
    | .ok bean => pure (.ok bean)

def resolveTyped (creation : Creation) (type : BeanType app.Content) (name : String) :
    Script app (Except Failure (Object app.Content)) := do
  match ← creation.acquire with
  | .error failure => pure (.error failure)
  | .ok owner =>
    match ← Script.holding owner fun registry => Script.resolveTyped registry type name with
    | .error error => pure (.error (.bean error))
    | .ok bean => pure (.ok bean)

end Creation
end BeanRegistry
