import BeanRegistry.Application
import BeanRegistry.Value

set_option autoImplicit false

namespace BeanRegistry

inductive Scope where
  | singleton
  | prototype
  deriving DecidableEq, Repr

structure RecipeFactory (app : Application) where
  scope : Scope
  recipe : app.Recipe
  name : Option String
  registry : Option RegistryId
  cached : Option (Object app.Content)

structure CustomFactory (app : Application) where
  code : app.Custom
  isSingleton : Bool
  isNameAware : Bool
  isRegistryAware : Bool

inductive Factory (app : Application) where
  | recipe (factory : RecipeFactory app)
  | custom (factory : CustomFactory app)

-- A factory that is handed back produces the bean.
inductive Product (app : Application) where
  | bean (bean : Object app.Content)
  | factory (nested : FactoryId)

def Product.text {app : Application} : Product app → String
  | .bean _ => "`bean`"
  | .factory _ => "`factory bean`"

structure Creation where
  beanName : String
  registry : Option RegistryId
  deriving DecidableEq, Repr

namespace RecipeFactory

variable {app : Application}

def ofRecipe (scope : Scope) (recipe : app.Recipe) : RecipeFactory app :=
  { scope, recipe, name := none, registry := none, cached := none }

def displayName (factory : RecipeFactory app) : String :=
  factory.name.getD "<unnamed>"

def creation (factory : RecipeFactory app) : Creation :=
  { beanName := factory.displayName, registry := factory.registry }

def ready? (factory : RecipeFactory app) : Option (Object app.Content) :=
  match factory.scope with
  | .singleton => factory.cached
  | .prototype => none

def isCreated (factory : RecipeFactory app) : Bool :=
  factory.ready?.isSome

def learnName (factory : RecipeFactory app) (name : String) : RecipeFactory app :=
  { factory with name := factory.name <|> some name }

def learnRegistry (factory : RecipeFactory app) (registry : RegistryId) : RecipeFactory app :=
  { factory with registry := factory.registry <|> some registry }

def keep (factory : RecipeFactory app) (bean : Object app.Content) : RecipeFactory app :=
  match factory.scope with
  | .singleton => { factory with cached := some bean }
  | .prototype => factory

end RecipeFactory

namespace Factory

variable {app : Application}

def isSingleton : Factory app → Bool
  | .recipe factory => factory.scope = .singleton
  | .custom factory => factory.isSingleton

def isNameAware : Factory app → Bool
  | .recipe _ => true
  | .custom factory => factory.isNameAware

def isRegistryAware : Factory app → Bool
  | .recipe _ => true
  | .custom factory => factory.isRegistryAware

def mapRecipe (change : RecipeFactory app → RecipeFactory app) : Factory app → Factory app
  | .recipe factory => .recipe (change factory)
  | .custom factory => .custom factory

end Factory
end BeanRegistry
