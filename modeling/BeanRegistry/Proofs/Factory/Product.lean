import BeanRegistry.Proofs.Run.Discipline

set_option autoImplicit false

namespace BeanRegistry

variable {app : Application} {code : Code app} {handle : Handler app}

def makeProduct (code : Code app) (handle : Handler app) (factory : FactoryId)
    (recipe : RecipeFactory app) : Eval app (Except Failure (Product app)) := do
  Eval.noteGuards (.creating factory)
  match ← handle.script (code.create recipe.recipe recipe.creation) with
  | .error failure => pure (.error failure)
  | .ok product =>
    Eval.noteGuards (.followingUp factory)
    match ← handle.script (code.followUp recipe.recipe product recipe.creation) with
    | .error failure => pure (.error failure)
    | .ok () => pure (.ok product)

def deliver (code : Code app) (handle : Handler app) (factory : FactoryId) (depth : Nat) :
    Except Failure (Product app) → Eval app (Except Failure (Object app.Content))
  | .error failure => pure (.error failure)
  | .ok (.bean bean) => pure (.ok bean)
  | .ok (.factory nested) => do
    match ← unwrap code handle factory nested depth with
    | .error error => pure (.error (.bean error))
    | .ok bean => pure (.ok bean)

theorem createBean_eq (factory : FactoryId) (recipe : RecipeFactory app) (depth : Nat) :
    createBean code handle factory recipe depth =
      makeProduct code handle factory recipe >>= deliver code handle factory depth := by
  simp only [createBean, makeProduct, bind_assoc]
  refine congrArg _ (funext fun _ => congrArg _ (funext fun created => ?_))
  cases created with
  | error failure => rfl
  | ok product =>
    simp only [bind_assoc]
    refine congrArg _ (funext fun _ => congrArg _ (funext fun followed => ?_))
    cases followed with
    | error failure => rfl
    | ok _ => cases product <;> rfl

def World.unwrapping (world : World app) (factory nested : FactoryId) (depth : Nat) : World app :=
  (world.note (.unwrapping factory nested world.guards)).withGuards
    { world.guards with pendingDepth := some (depth + 1) }

theorem unwrap_eq {factory nested : FactoryId} {world told : World app}
    (lent : lendIdentity code handle factory nested world = some ((), told)) (depth : Nat) :
    unwrap code handle factory nested depth world =
      (handle (.request (.produce nested)) (told.unwrapping factory nested depth)).bind fun answer =>
        some (answer.1, answer.2.withGuards answer.2.guards.claim) := by
  rw [unwrap, Eval.bind_apply, lent]
  rfl

theorem keepBean_eq {world : World app} {factory : FactoryId} {recipe : RecipeFactory app}
    (known : world.recipeFactory? factory = some recipe) (bean : Object app.Content) :
    keepBean factory bean world =
      match recipe.scope with
      | .prototype => some ((), world)
      | .singleton =>
        some ((), (world.mapFactory factory fun keeper => keeper.keep bean).note
          (.kept factory recipe.displayName)) := by
  simp only [keepBean, Eval.get_bind, known]
  cases recipe.scope <;> rfl

end BeanRegistry
