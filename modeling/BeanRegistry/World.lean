import BeanRegistry.Chain.Configuration
import BeanRegistry.Factory.Basic
import BeanRegistry.Journal

set_option autoImplicit false

namespace BeanRegistry

structure RegistryCell where
  registry : Registry
  owners : List Nat

structure ChainCell (app : Application) where
  chain : Chain app
  progress : Progress

structure World (app : Application) where
  factories : Array (Factory app)
  registries : Array RegistryCell
  chains : Array (ChainCell app)
  guards : Guards
  fresh : Nat
  -- The newest step first.
  journal : List (Step app)
  memory : app.Memory

namespace World

variable {app : Application}

def initial (memory : app.Memory) : World app :=
  { factories := #[], registries := #[], chains := #[], guards := Guards.empty, fresh := 0
    journal := [], memory }

def factory? (world : World app) (factory : FactoryId) : Option (Factory app) :=
  world.factories[factory.index]?

def recipeFactory? (world : World app) (factory : FactoryId) : Option (RecipeFactory app) :=
  match world.factory? factory with
  | some (.recipe recipe) => some recipe
  | _ => none

def chain? (world : World app) (chain : ChainId) : Option (ChainCell app) :=
  world.chains[chain.index]?

def registryCell? (world : World app) (registry : RegistryId) : Option RegistryCell :=
  world.registries[registry.index]?

def registry (world : World app) (registry : RegistryId) : Registry :=
  ((world.registryCell? registry).map RegistryCell.registry).getD Registry.empty

def isActive (world : World app) (registry : RegistryId) : Bool :=
  match world.registryCell? registry with
  | some cell => !cell.owners.isEmpty
  | none => false

-- The bound of a registry counts only while the registry is alive.
def nestingBound (world : World app) (factory : RecipeFactory app) : Nat :=
  match factory.registry with
  | some registry =>
    if world.isActive registry then (world.registry registry).nestingBound else defaultNestingBound
  | none => defaultNestingBound

def note (world : World app) (step : Step app) : World app :=
  { world with journal := step :: world.journal }

def withGuards (world : World app) (guards : Guards) : World app :=
  { world with guards }

def mapFactory (world : World app) (factory : FactoryId)
    (change : RecipeFactory app → RecipeFactory app) : World app :=
  { world with factories := world.factories.modify factory.index (Factory.mapRecipe change) }

def mapChain (world : World app) (chain : ChainId) (change : ChainCell app → ChainCell app) :
    World app :=
  { world with chains := world.chains.modify chain.index change }

def mapOwners (world : World app) (registry : RegistryId) (change : List Nat → List Nat) :
    World app :=
  { world with
    registries := world.registries.modify registry.index fun cell =>
      { cell with owners := change cell.owners } }

def grant (world : World app) (registry : RegistryId) : Owner × World app :=
  let owner : Owner := { registry, serial := world.fresh }
  (owner,
    ({ world with fresh := world.fresh + 1 }.mapOwners registry (world.fresh :: ·)).note
      (.granted owner))

def isHeld (world : World app) (owner : Owner) : Bool :=
  match world.registryCell? owner.registry with
  | some cell => cell.owners.contains owner.serial
  | none => false

def share (world : World app) (owner : Owner) : Owner × World app :=
  if world.isHeld owner then world.grant owner.registry else (owner, world)

def acquire (world : World app) (registry : RegistryId) : Option Owner × World app :=
  if world.isActive registry then
    let (owner, after) := world.grant registry
    (some owner, after)
  else (none, world)

def release (world : World app) (owner : Owner) : World app :=
  (world.mapOwners owner.registry fun owners => owners.filter (· != owner.serial)).note
    (.released owner)

def addFactory (world : World app) (factory : Factory app) : FactoryId × World app :=
  (⟨world.factories.size⟩, { world with factories := world.factories.push factory })

def addChain (world : World app) (chain : Chain app) : ChainId × World app :=
  (⟨world.chains.size⟩,
    { world with chains := world.chains.push { chain, progress := .created } })

def addRegistry (world : World app) (registry : Registry) : RegistryId × World app :=
  (⟨world.registries.size⟩,
    { world with registries := world.registries.push { registry, owners := [] } })

def addObject (world : World app) (content : app.Content) : Object app.Content × World app :=
  (⟨world.fresh, content⟩, { world with fresh := world.fresh + 1 })

def history (world : World app) : List (Step app) :=
  world.journal.reverse

end World
end BeanRegistry
