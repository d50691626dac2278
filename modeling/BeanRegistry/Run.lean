import BeanRegistry.Chain.Proceed
import BeanRegistry.Registry.Build

set_option autoImplicit false

namespace BeanRegistry

variable {app : Application}

def carryOut (code : Code app) (handle : Handler app) :
    (operation : Operation app) → Eval app operation.Answer
  | .emit event => Eval.note (.event event)
  | .readMemory => do pure (← get).memory
  | .writeMemory memory => modify fun world => { world with memory }
  | .newObject content => modifyGet fun world => world.addObject content
  | .newFactory scope recipe =>
    modifyGet fun world => world.addFactory (.recipe (RecipeFactory.ofRecipe scope recipe))
  | .newCustomFactory factory => modifyGet fun world => world.addFactory (.custom factory)
  | .inspectFactory factory => do pure ((← get).factory? factory)
  | .produce factory => produce code handle factory
  | .tellName factory name => tellName code handle factory name
  | .tellRegistry factory registry => tellRegistry code handle factory registry
  | .register declarations name factory => register code handle declarations name factory
  | .build declarations => build code handle declarations
  | .inspectRegistry registry => do pure ((← get).registry registry)
  | .resolve registry name => resolve code handle registry name
  | .isSingleton registry name => do pure (isSingletonNamed (← get) registry name)
  | .isActive registry => do pure ((← get).isActive registry)
  | .acquire registry => modifyGet fun world => world.acquire registry
  | .share owner => modifyGet fun world => world.share owner
  | .release owner => modify fun world => world.release owner
  | .newChain chain => modifyGet fun world => world.addChain chain
  | .configureChain chain settings =>
    modify fun world => world.mapChain chain fun cell =>
      { cell with chain := cell.chain.configure settings }
  | .inspectChain chain => do pure ((← get).chain? chain)
  | .driveChain chain => driveChain handle chain

def perform (code : Code app) : Nat → Handler app
  | 0, _ => fun _ => none
  | budget + 1, .request operation => carryOut code (perform code budget) operation
  | budget + 1, .proceed passage position =>
    proceedAt code (perform code budget) passage position

def World.run {Result : Type} (world : World app) (code : Code app) (budget : Nat)
    (script : Script app Result) : Option (Result × World app) :=
  (perform code budget).script script world

end BeanRegistry
