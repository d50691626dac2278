import BeanRegistry.Factory.Tell

set_option autoImplicit false

namespace BeanRegistry

variable {app : Application}

-- The depth meant for this factory is claimed whether it passes or not.
def enterGuards (factory : FactoryId) (recipe : RecipeFactory app) :
    Eval app (Except BeanFailure Nat) := do
  let world ← get
  let depth := world.guards.depth
  Eval.changeGuards Guards.claim
  match world.guards.refusal? factory recipe.displayName (world.nestingBound recipe) with
  | some error =>
    Eval.noteGuards (.refused factory)
    pure (.error error)
  | none =>
    Eval.changeGuards fun guards => guards.push factory
    Eval.noteGuards (.entered factory)
    pure (.ok depth)

def lendName (code : Code app) (handle : Handler app) (factory nested : FactoryId) :
    Eval app Unit := do
  match (← get).recipeFactory? factory with
  | none => pure ()
  | some lender =>
    match lender.name with
    | none => pure ()
    | some name => discard (tellName code handle nested name)

def lendRegistry (code : Code app) (handle : Handler app) (factory nested : FactoryId) :
    Eval app Unit := do
  match (← get).recipeFactory? factory with
  | none => pure ()
  | some lender =>
    match lender.registry with
    | none => pure ()
    | some registry => discard (tellRegistry code handle nested registry)

-- A nested factory was never registered, so it is told what the factory that unwraps it knows.
def lendIdentity (code : Code app) (handle : Handler app) (factory nested : FactoryId) :
    Eval app Unit := do
  lendName code handle factory nested
  lendRegistry code handle factory nested

def unwrap (code : Code app) (handle : Handler app) (factory nested : FactoryId) (depth : Nat) :
    Eval app (Except BeanFailure (Object app.Content)) := do
  lendIdentity code handle factory nested
  Eval.noteGuards (.unwrapping factory nested)
  Eval.changeGuards fun guards => { guards with pendingDepth := some (depth + 1) }
  let outcome ← handle (.request (.produce nested))
  Eval.changeGuards Guards.claim
  pure outcome

def createBean (code : Code app) (handle : Handler app) (factory : FactoryId)
    (recipe : RecipeFactory app) (depth : Nat) :
    Eval app (Except Failure (Object app.Content)) := do
  Eval.noteGuards (.creating factory)
  match ← handle.script (code.create recipe.recipe recipe.creation) with
  | .error failure => pure (.error failure)
  | .ok product =>
    Eval.noteGuards (.followingUp factory)
    match ← handle.script (code.followUp recipe.recipe product recipe.creation) with
    | .error failure => pure (.error failure)
    | .ok () =>
      match product with
      | .bean bean => pure (.ok bean)
      | .factory nested =>
        match ← unwrap code handle factory nested depth with
        | .error error => pure (.error (.bean error))
        | .ok bean => pure (.ok bean)

def keepBean (factory : FactoryId) (bean : Object app.Content) : Eval app Unit := do
  match (← get).recipeFactory? factory with
  | none => pure ()
  | some recipe =>
    match recipe.scope with
    | .prototype => pure ()
    | .singleton =>
      modify fun world => world.mapFactory factory fun keeper => keeper.keep bean
      Eval.note (.kept factory recipe.displayName)

def leaveGuards (factory : FactoryId) (succeeded : Bool) : Eval app Unit := do
  Eval.changeGuards Guards.pop
  Eval.noteGuards (.left factory succeeded)

def produceByRecipe (code : Code app) (handle : Handler app) (factory : FactoryId)
    (recipe : RecipeFactory app) : Eval app (Except BeanFailure (Object app.Content)) := do
  match recipe.ready? with
  | some bean => pure (.ok bean)
  | none =>
    match ← enterGuards factory recipe with
    | .error error => pure (.error error)
    | .ok depth =>
      match ← createBean code handle factory recipe depth with
      | .error failure =>
        leaveGuards factory false
        pure (.error (.unableToCreate failure))
      | .ok bean =>
        keepBean factory bean
        leaveGuards factory true
        pure (.ok bean)

def produce (code : Code app) (handle : Handler app) (factory : FactoryId) :
    Eval app (Except BeanFailure (Object app.Content)) := do
  match (← get).factory? factory with
  | some (.recipe recipe) => produceByRecipe code handle factory recipe
  | some (.custom custom) => handle.script (code.produce custom.code)
  | none => pure (.error (.notFound ""))

end BeanRegistry
