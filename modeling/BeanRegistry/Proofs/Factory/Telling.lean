import BeanRegistry.Proofs.Factory.Known
import BeanRegistry.Proofs.Factory.Product

set_option autoImplicit false

namespace BeanRegistry

variable {app : Application} {code : Code app} {handle : Handler app}

structure Learning (before after : World app) : Prop where
  guards : after.guards = before.guards
  registries : after.registries = before.registries
  fresh : after.fresh = before.fresh
  journal : ∃ steps, after.journal = steps ++ before.journal ∧ ∀ step ∈ steps, step.production? = none

theorem Learning.refl (world : World app) : Learning world world :=
  ⟨rfl, rfl, rfl, [], rfl, nofun⟩

theorem Learning.trans {first middle last : World app} (before : Learning first middle)
    (rest : Learning middle last) : Learning first last where
  guards := rest.guards.trans before.guards
  registries := rest.registries.trans before.registries
  fresh := rest.fresh.trans before.fresh
  journal := journal_trans before.journal rest.journal

theorem tellName_recipe {world : World app} {factory : FactoryId} {recipe : RecipeFactory app}
    (known : world.recipeFactory? factory = some recipe) (name : String) :
    tellName code handle factory name world =
      some (true, (world.mapFactory factory fun learner => learner.learnName name).note
        (.toldName factory name)) := by
  have found := World.recipeFactory?_eq_some_iff.mp known
  simp only [tellName, Eval.get_bind, found]
  rfl

theorem tellRegistry_recipe {world : World app} {factory : FactoryId} {recipe : RecipeFactory app}
    (known : world.recipeFactory? factory = some recipe) (registry : RegistryId) :
    tellRegistry code handle factory registry world =
      some (true, (world.mapFactory factory fun learner => learner.learnRegistry registry).note
        (.toldRegistry factory registry)) := by
  have found := World.recipeFactory?_eq_some_iff.mp known
  simp only [tellRegistry, Eval.get_bind, found]
  rfl

theorem discard_eq {Result : Type} {evaluation : Eval app Result} {world after : World app}
    {result : Result} (answered : evaluation world = some (result, after)) :
    (discard evaluation : Eval app Unit) world = some ((), after) := by
  change (evaluation world).bind (fun answer => some ((), answer.2)) = _
  rw [answered]
  rfl

def RecipeFactory.borrow (borrower lender : RecipeFactory app) : RecipeFactory app :=
  { borrower with
    name := borrower.name <|> lender.name
    registry := borrower.registry <|> lender.registry }

section Lending

variable (code : Code app) (handle : Handler app) {world : World app} {factory nested : FactoryId}
  {lender borrower : RecipeFactory app}
  (known : world.recipeFactory? factory = some lender)
  (found : world.recipeFactory? nested = some borrower)

include known found

omit known in
theorem lend_nothing :
    Learning world world ∧ ∀ other, world.recipeFactory? other =
      if nested = other then some borrower else world.recipeFactory? other := by
  refine ⟨.refl world, fun other => ?_⟩
  split
  next same => rw [← same, found]
  next => rfl

omit known in
theorem lend_told {change : RecipeFactory app → RecipeFactory app} {step : Step app}
    (unproductive : step.production? = none) :
    let told := (world.mapFactory nested change).note step
    Learning world told ∧ ∀ other, told.recipeFactory? other =
      if nested = other then some (change borrower) else world.recipeFactory? other := by
  intro told
  refine ⟨⟨rfl, rfl, rfl, [step], rfl, by simpa using unproductive⟩, fun other => ?_⟩
  refine (world.recipeFactory?_mapFactory nested other change).trans ?_
  split
  next same =>
    rw [← same, found]
    rfl
  next => rfl

theorem lendName_recipe :
    ∃ after, lendName code handle factory nested world = some ((), after) ∧ Learning world after ∧
      ∀ other, after.recipeFactory? other =
        if nested = other then some { borrower with name := borrower.name <|> lender.name }
        else world.recipeFactory? other := by
  simp only [lendName, Eval.get_bind, known]
  cases named : lender.name with
  | none => simpa [Option.or_none] using ⟨world, rfl, lend_nothing found⟩
  | some name => exact ⟨_, discard_eq (tellName_recipe found name), lend_told found rfl⟩

theorem lendRegistry_recipe :
    ∃ after, lendRegistry code handle factory nested world = some ((), after) ∧ Learning world after ∧
      ∀ other, after.recipeFactory? other =
        if nested = other then some { borrower with registry := borrower.registry <|> lender.registry }
        else world.recipeFactory? other := by
  simp only [lendRegistry, Eval.get_bind, known]
  cases registered : lender.registry with
  | none => simpa [Option.or_none] using ⟨world, rfl, lend_nothing found⟩
  | some registry => exact ⟨_, discard_eq (tellRegistry_recipe found registry), lend_told found rfl⟩

theorem lendIdentity_recipe :
    ∃ after, lendIdentity code handle factory nested world = some ((), after) ∧ Learning world after ∧
      ∀ other, after.recipeFactory? other =
        if nested = other then some (borrower.borrow lender) else world.recipeFactory? other := by
  obtain ⟨middle, lent, learning, names⟩ := lendName_recipe code handle known found
  have borrowed := names nested
  rw [if_pos rfl] at borrowed
  obtain ⟨still, lends, same⟩ : ∃ still, middle.recipeFactory? factory = some still ∧
      still.registry = lender.registry := by
    rw [names]
    split
    next own =>
      rw [← own, found] at known
      cases known
      exact ⟨_, rfl, rfl⟩
    next => exact ⟨lender, known, rfl⟩
  obtain ⟨after, lending, learned, registries⟩ := lendRegistry_recipe code handle lends borrowed
  refine ⟨after, ?_, learning.trans learned, fun other => ?_⟩
  · rw [lendIdentity, Eval.bind_apply, lent]
    exact lending
  · rw [registries, same]
    split
    next => rfl
    next apart => rw [names, if_neg apart]

end Lending

end BeanRegistry
