import BeanRegistry.Program
import BeanRegistry.World

set_option autoImplicit false

namespace BeanRegistry

inductive Operation (app : Application) where
  | emit (event : app.Event)
  | readMemory
  | writeMemory (memory : app.Memory)
  | newObject (content : app.Content)
  | newFactory (scope : Scope) (recipe : app.Recipe)
  | newCustomFactory (factory : CustomFactory app)
  | inspectFactory (factory : FactoryId)
  | produce (factory : FactoryId)
  | tellName (factory : FactoryId) (name : String)
  | tellRegistry (factory : FactoryId) (registry : RegistryId)
  | register (declarations : Declarations) (name : String) (factory : FactoryId)
  | build (declarations : Declarations)
  | inspectRegistry (registry : RegistryId)
  | resolve (registry : RegistryId) (name : String)
  | isSingleton (registry : RegistryId) (name : String)
  | isActive (registry : RegistryId)
  | acquire (registry : RegistryId)
  | share (owner : Owner)
  | release (owner : Owner)
  | newChain (chain : Chain app)
  | configureChain (chain : ChainId) (settings : List (ChainSetting app))
  | inspectChain (chain : ChainId)
  | driveChain (chain : ChainId)

@[reducible] def Operation.Answer {app : Application} : Operation app → Type
  | .emit _ => Unit
  | .readMemory => app.Memory
  | .writeMemory _ => Unit
  | .newObject _ => Object app.Content
  | .newFactory _ _ => FactoryId
  | .newCustomFactory _ => FactoryId
  | .inspectFactory _ => Option (Factory app)
  | .produce _ => Except BeanFailure (Object app.Content)
  | .tellName _ _ => Bool
  | .tellRegistry _ _ => Bool
  | .register _ _ _ => Except BeanFailure Declarations
  | .build _ => Except BeanFailure Owner
  | .inspectRegistry _ => Registry
  | .resolve _ _ => Except BeanFailure (Object app.Content)
  | .isSingleton _ _ => Except BeanFailure Bool
  | .isActive _ => Bool
  | .acquire _ => Option Owner
  | .share _ => Owner
  | .release _ => Unit
  | .newChain _ => ChainId
  | .configureChain _ _ => Unit
  | .inspectChain _ => Option (ChainCell app)
  | .driveChain _ => Except Failure (Value app.Content)

inductive HookOperation (app : Application) where
  | common (operation : Operation app)
  | proceed

@[reducible] def HookOperation.Answer {app : Application} : HookOperation app → Type
  | .common operation => operation.Answer
  | .proceed => Except Failure (Value app.Content)

abbrev Script (app : Application) (Result : Type) : Type :=
  Program (Operation app) Operation.Answer Result

abbrev HookScript (app : Application) (Result : Type) : Type :=
  Program (HookOperation app) HookOperation.Answer Result

def Script.asHook {app : Application} {Result : Type} : Script app Result → HookScript app Result
  | .done result => .done result
  | .ask operation next => .ask (.common operation) fun answer => Script.asHook (next answer)

structure Code (app : Application) where
  create : app.Recipe → Creation → Script app (Except Failure (Product app))
  -- Runs once a creation returned, before a nested factory is unwrapped.
  followUp : app.Recipe → Product app → Creation → Script app (Except Failure Unit)
  produce : app.Custom → Script app (Except BeanFailure (Object app.Content))
  nameTold : app.Custom → String → Script app Unit
  registryTold : app.Custom → RegistryId → Script app Unit
  before : app.Hook → Invocation app → HookScript app (Except Failure Unit)
  afterReturning : app.Hook → Value app.Content → Invocation app →
    HookScript app (Except Failure Unit)
  afterThrowing : app.Hook → Failure → Invocation app →
    HookScript app (Except Failure (Value app.Content))
  afterFinally : app.Hook → Invocation app → HookScript app Unit
  around : app.Hook → Invocation app → HookScript app (Except Failure (Value app.Content))
  target : app.Hook → Invocation app → HookScript app (Except Failure (Value app.Content))

end BeanRegistry
