import BeanRegistry.Evaluation

set_option autoImplicit false

namespace BeanRegistry

variable {app : Application}

def tellName (code : Code app) (handle : Handler app) (factory : FactoryId) (name : String) :
    Eval app Bool := do
  match (← get).factory? factory with
  | some (.recipe _) =>
    modify fun world => world.mapFactory factory fun learner => learner.learnName name
    Eval.note (.toldName factory name)
    pure true
  | some (.custom custom) =>
    if custom.isNameAware then
      Eval.note (.toldName factory name)
      handle.script (code.nameTold custom.code name)
      pure true
    else pure false
  | none => pure false

def tellRegistry (code : Code app) (handle : Handler app) (factory : FactoryId)
    (registry : RegistryId) : Eval app Bool := do
  match (← get).factory? factory with
  | some (.recipe _) =>
    modify fun world => world.mapFactory factory fun learner => learner.learnRegistry registry
    Eval.note (.toldRegistry factory registry)
    pure true
  | some (.custom custom) =>
    if custom.isRegistryAware then
      Eval.note (.toldRegistry factory registry)
      handle.script (code.registryTold custom.code registry)
      pure true
    else pure false
  | none => pure false

end BeanRegistry
