import BeanRegistry.Proofs.Factory.Product

set_option autoImplicit false

namespace BeanRegistry

def Operation.asksForBeans {app : Application} : Operation app → Bool
  | .produce _ | .resolve _ _ | .build _ => true
  | _ => false

theorem World.isActive_of_isHeld {app : Application} {world : World app} {owner : Owner}
    (held : world.isHeld owner = true) : world.isActive owner.registry = true := by
  unfold World.isHeld at held
  unfold World.isActive
  split at held
  next cell _ =>
    cases owners : cell.owners with
    | nil => simp [owners] at held
    | cons serial rest => rfl
  next => cases held

namespace Discipline

variable {app : Application} {Index : Type} {discipline : Discipline app Index}
  {handle : Index → Handler app} (code : Code app)
  (plain : ∀ {world after : World app}, CarefulMove world after → discipline.Allows world after)
  (answered : discipline.Answers handle)

section Chains

variable {passage : Passage app}
  (passing : ∀ {world after : World app}, PassageMove passage world after → discipline.Allows world after)

include plain answered passing

theorem runHook_holds {Result : Type} (position : Nat)
    {rest : Index → Eval app (Except Failure (Value app.Content))}
    (continued : ∀ world, discipline.Holds world fun index => rest index world)
    (script : HookScript app Result) (world : World app) :
    discipline.Holds world fun index =>
      runHook (handle index) passage position (rest index) script world := by
  refine discipline.bind (discipline.step _ (passing (.note _ _ rfl rfl))) fun _ _ => ?_
  refine discipline.bind (hook_holds plain answered continued script _) fun _ _ => ?_
  refine discipline.bind (discipline.step _ (passing (.note _ _ rfl rfl))) fun _ _ => ?_
  exact discipline.step _ (plain (.stay _))

theorem invokeAdvice_holds (position : Nat)
    {rest : Index → Eval app (Except Failure (Value app.Content))}
    (continued : ∀ world, discipline.Holds world fun index => rest index world)
    (advice : Advice app.Hook) (world : World app) :
    discipline.Holds world fun index =>
      invokeAdvice code (handle index) passage position (rest index) advice world := by
  have hooked {Result : Type} (script : HookScript app Result) :=
    runHook_holds plain answered passing position continued script
  cases advice with
  | before hook =>
    refine discipline.bind (hooked _ _) fun outcome _ => ?_
    cases outcome with
    | error failure => exact discipline.step _ (plain (.stay _))
    | ok _ => exact continued _
  | afterReturning hook =>
    refine discipline.bind (continued _) fun outcome _ => ?_
    cases outcome with
    | error failure => exact discipline.step _ (plain (.stay _))
    | ok result =>
      refine discipline.bind (hooked _ _) fun verdict _ => ?_
      cases verdict <;> exact discipline.step _ (plain (.stay _))
  | afterThrowing hook =>
    refine discipline.bind (continued _) fun outcome _ => ?_
    cases outcome with
    | ok result => exact discipline.step _ (plain (.stay _))
    | error failure =>
      refine discipline.bind (hooked _ _) fun verdict _ => ?_
      cases verdict with
      | error other => exact discipline.step _ (plain (.stay _))
      | ok result =>
        refine discipline.bind (discipline.step _ (passing (.note _ _ rfl rfl)))
          fun _ _ => ?_
        exact discipline.step _ (plain (.stay _))
  | afterFinally hook =>
    refine discipline.bind (continued _) fun _ _ => ?_
    refine discipline.bind (hooked _ _) fun _ _ => ?_
    exact discipline.step _ (plain (.stay _))
  | interceptor around => exact hook_holds plain answered continued _ _

omit answered in
theorem enclosed_holds {body : Index → Eval app (Except Failure (Value app.Content))} (position : Nat)
    (isTarget : Bool) (held : ∀ world, discipline.Holds world fun index => body index world)
    (world : World app) :
    discipline.Holds world fun index =>
      (do
        openPosition passage position isTarget
        let outcome ← body index
        closePosition passage position outcome
        pure outcome : Eval app (Except Failure (Value app.Content))) world := by
  refine discipline.bind (discipline.step _ (passing (.opened _ position isTarget))) fun _ _ => ?_
  refine discipline.bind (held _) fun _ _ => ?_
  refine discipline.bind (discipline.step _ (passing (.note _ _ rfl rfl))) fun _ _ => ?_
  exact discipline.step _ (plain (.stay _))

-- What a passage does at a position may keep to more than what surrounds it.
theorem proceedAt_within {outer : Discipline app Index} (position : Nat)
    (stays : ∀ world, outer.Allows world world)
    (enclosed : ∀ {body : Index → Eval app (Except Failure (Value app.Content))} (isTarget : Bool),
      (∀ world, discipline.Holds world fun index => body index world) →
        ∀ world, outer.Holds world fun index =>
          (do
            openPosition passage position isTarget
            let outcome ← body index
            closePosition passage position outcome
            pure outcome : Eval app (Except Failure (Value app.Content))) world)
    (continued : ∀ world, discipline.Holds world fun index =>
      handle index (.proceed passage (position + 1)) world) (world : World app) :
    outer.Holds world fun index => proceedAt code (handle index) passage position world := by
  unfold proceedAt
  cases passage.advices[position]? with
  | some advice =>
    exact enclosed false (invokeAdvice_holds code plain answered passing position continued advice) world
  | none =>
    dsimp only
    split
    · exact enclosed true (hook_holds plain answered continued _) world
    · exact outer.step _ (stays world)

theorem proceedAt_holds (position : Nat)
    (continued : ∀ world, discipline.Holds world fun index =>
      handle index (.proceed passage (position + 1)) world) (world : World app) :
    discipline.Holds world fun index =>
      proceedAt code (handle index) passage position world :=
  proceedAt_within code plain answered passing position (fun world => plain (.stay world))
    (enclosed_holds plain passing position) continued world

omit answered passing in
theorem driveChain_holds
    (chained : ∀ {world after : World app}, ChainMove world after → discipline.Allows world after)
    (passed : ∀ passage world, discipline.Holds world fun index => handle index (.proceed passage 0) world)
    (chain : ChainId) (world : World app) :
    discipline.Holds world fun index => driveChain (handle index) chain world := by
  refine discipline.bind (discipline.step _ (plain (.stay world))) fun known after => ?_
  generalize (known.chain? chain).getD { chain := Chain.empty, progress := .created } = cell
  dsimp only
  cases cell.chain.start chain cell.progress with
  | error error => exact discipline.step _ (plain (.stay after))
  | ok passage =>
    refine discipline.bind (passed passage after) fun outcome _ => ?_
    exact discipline.step _ (chained (.finish _ chain passage.invocation.method
      (if outcome.isOk then .returned else .failed)))

end Chains

section Productions

theorem discarded {Result : Type} (plain : ∀ world : World app, discipline.Allows world world)
    {evaluation : Index → Eval app Result} {world : World app}
    (kept : discipline.Holds world fun index => evaluation index world) :
    discipline.Holds world fun index => discard (evaluation index) world :=
  discipline.bind kept fun _ after => discipline.step () (plain after)

include plain answered

theorem lendName_holds (factory nested : FactoryId) (world : World app) :
    discipline.Holds world fun index => lendName code (handle index) factory nested world := by
  have stays (world : World app) := plain (.stay world)
  refine discipline.bind (discipline.step _ (stays world)) fun known after => ?_
  cases known.recipeFactory? factory with
  | none => exact discipline.step _ (stays after)
  | some lender =>
    dsimp only
    cases lender.name with
    | none => exact discipline.step _ (stays after)
    | some name => exact discarded stays (tellName_holds code plain answered nested name after)

theorem lendRegistry_holds (factory nested : FactoryId) (world : World app) :
    discipline.Holds world fun index => lendRegistry code (handle index) factory nested world := by
  have stays (world : World app) := plain (.stay world)
  refine discipline.bind (discipline.step _ (stays world)) fun known after => ?_
  cases known.recipeFactory? factory with
  | none => exact discipline.step _ (stays after)
  | some lender =>
    dsimp only
    cases lender.registry with
    | none => exact discipline.step _ (stays after)
    | some registry =>
      exact discarded stays (tellRegistry_holds code plain answered nested registry after)

theorem lendIdentity_holds (factory nested : FactoryId) (world : World app) :
    discipline.Holds world fun index =>
      lendIdentity code (handle index) factory nested world :=
  discipline.bind (lendName_holds code plain answered factory nested world) fun _ after =>
    lendRegistry_holds code plain answered factory nested after

section Pipeline

variable {factory : FactoryId}
  (passing : ∀ {world after : World app}, PipelineMove factory world after → discipline.Allows world after)

include passing

theorem makeProduct_holds (recipe : RecipeFactory app) (world : World app) :
    discipline.Holds world fun index => makeProduct code (handle index) factory recipe world := by
  have scripted {Result : Type} (script : Script app Result) := script_holds plain answered script
  refine discipline.bind (discipline.step _ (passing (.creating _))) fun _ _ => ?_
  refine discipline.bind (scripted _ _) fun created _ => ?_
  cases created with
  | error failure => exact discipline.step _ (plain (.stay _))
  | ok product =>
    refine discipline.bind (discipline.step _ (passing (.followingUp _))) fun _ _ => ?_
    refine discipline.bind (scripted _ _) fun followed _ => ?_
    cases followed <;> exact discipline.step _ (plain (.stay _))

theorem createBean_holds (recipe : RecipeFactory app) (depth : Nat)
    (unwrapped : ∀ nested world, discipline.Holds world fun index =>
      unwrap code (handle index) factory nested depth world) (world : World app) :
    discipline.Holds world fun index =>
      createBean code (handle index) factory recipe depth world := by
  simp only [createBean_eq]
  refine discipline.bind (makeProduct_holds code plain answered passing recipe world) fun made _ => ?_
  match made with
  | .error failure => exact discipline.step _ (plain (.stay _))
  | .ok (.bean bean) => exact discipline.step _ (plain (.stay _))
  | .ok (.factory nested) =>
    refine discipline.bind (unwrapped nested _) fun outcome _ => ?_
    cases outcome <;> exact discipline.step _ (plain (.stay _))

omit answered in
theorem keepBean_holds (bean : Object app.Content) (world : World app) :
    discipline.Holds world fun _ : Index => keepBean factory bean world := by
  refine discipline.bind (discipline.step _ (plain (.stay world))) fun known after => ?_
  cases known.recipeFactory? factory with
  | none => exact discipline.step _ (plain (.stay _))
  | some recipe =>
    dsimp only
    cases recipe.scope with
    | prototype => exact discipline.step _ (plain (.stay _))
    | singleton =>
      refine discipline.bind (discipline.step _ (passing (.keep _ bean))) fun _ _ => ?_
      exact discipline.step _ (passing (.kept _ _))

end Pipeline

variable (productive : ∀ {world after : World app}, ProductionMove world after →
  discipline.Allows world after)

include productive

theorem unwrap_holds (factory nested : FactoryId) (depth : Nat) (world : World app) :
    discipline.Holds world fun index =>
      unwrap code (handle index) factory nested depth world := by
  refine discipline.bind (lendIdentity_holds code plain answered factory nested world) fun _ _ => ?_
  refine discipline.bind (discipline.step _ (productive (.note _ _ factory rfl))) fun _ _ => ?_
  refine discipline.bind (discipline.step _ (productive (.guard _ _))) fun _ _ => ?_
  refine discipline.bind (answered (.produce nested) _) fun _ _ => ?_
  refine discipline.bind (discipline.step _ (productive (.guard _ _))) fun _ _ => ?_
  exact discipline.step _ (plain (.stay _))

omit answered in
theorem enterGuards_holds (factory : FactoryId) (recipe : RecipeFactory app) (world : World app) :
    discipline.Holds world fun _ : Index => enterGuards factory recipe world := by
  refine discipline.bind (discipline.step _ (plain (.stay world))) fun known after => ?_
  refine discipline.bind (discipline.step _ (productive (.guard _ _))) fun _ _ => ?_
  cases known.guards.refusal? factory recipe.displayName (known.nestingBound recipe) with
  | some error =>
    refine discipline.bind (discipline.step _ (productive (.note _ _ factory rfl))) fun _ _ => ?_
    exact discipline.step _ (plain (.stay _))
  | none =>
    refine discipline.bind (discipline.step _ (productive (.guard _ _))) fun _ _ => ?_
    refine discipline.bind (discipline.step _ (productive (.note _ _ factory rfl))) fun _ _ => ?_
    exact discipline.step _ (plain (.stay _))

omit plain answered in
theorem leaveGuards_holds (factory : FactoryId) (succeeded : Bool) (world : World app) :
    discipline.Holds world fun _ : Index => leaveGuards factory succeeded world :=
  discipline.bind (discipline.step _ (productive (.guard _ _))) fun _ _ =>
    discipline.step _ (productive (.note _ _ factory rfl))

theorem produceByRecipe_holds (factory : FactoryId) (recipe : RecipeFactory app) (world : World app) :
    discipline.Holds world fun index =>
      produceByRecipe code (handle index) factory recipe world := by
  have passing {world after : World app} (passed : PipelineMove factory world after) :
      discipline.Allows world after := productive (.pipeline factory passed)
  unfold produceByRecipe
  cases recipe.ready? with
  | some bean => exact discipline.step _ (plain (.stay _))
  | none =>
    refine discipline.bind (enterGuards_holds plain productive factory recipe world) fun entered _ => ?_
    cases entered with
    | error error => exact discipline.step _ (plain (.stay _))
    | ok depth =>
      refine discipline.bind (createBean_holds code plain answered passing recipe depth
        (fun nested => unwrap_holds code plain answered productive factory nested depth) _)
        fun created _ => ?_
      cases created with
      | error failure =>
        exact discipline.bind (leaveGuards_holds productive factory false _) fun _ _ =>
          discipline.step _ (plain (.stay _))
      | ok bean =>
        refine discipline.bind (keepBean_holds plain passing bean _) fun _ _ => ?_
        exact discipline.bind (leaveGuards_holds productive factory true _) fun _ _ =>
          discipline.step _ (plain (.stay _))

end Productions

section Operations

variable (produced : ∀ (factory : FactoryId) (recipe : RecipeFactory app) (world : World app),
  world.factory? factory = some (.recipe recipe) →
    discipline.Holds world fun index =>
      produceByRecipe code (handle index) factory recipe world)

include plain answered produced

theorem produce_holds (factory : FactoryId) (world : World app) :
    discipline.Holds world fun index => produce code (handle index) factory world := by
  simp only [produce, Eval.get_bind]
  cases found : world.factory? factory with
  | none => exact discipline.step _ (plain (.stay world))
  | some known =>
    cases known with
    | recipe recipe => exact produced factory recipe world found
    | custom custom => exact script_holds plain answered _ world

theorem resolve_holds (registry : RegistryId) (name : String) (world : World app) :
    discipline.Holds world fun index =>
      resolve code (handle index) registry name world := by
  refine discipline.bind (discipline.step _ (plain (.stay world))) fun known after => ?_
  cases (known.registry registry).factory? name with
  | none => exact discipline.step _ (plain (.stay after))
  | some factory =>
    refine discipline.bind (produce_holds code plain answered produced factory after) fun outcome _ => ?_
    cases outcome <;> exact discipline.step _ (plain (.stay _))

omit produced in
theorem register_holds (declarations : Declarations) (name : String) (factory : FactoryId)
    (world : World app) :
    discipline.Holds world fun index =>
      register code (handle index) declarations name factory world := by
  unfold register
  cases declarations.admits name with
  | error fault => exact discipline.step _ (plain (.stay world))
  | ok _ =>
    refine discipline.bind (discarded (fun _ => plain (.stay _))
      (tellName_holds code plain answered factory name world)) fun _ _ => ?_
    refine discipline.bind (discipline.step _ (plain (.stay _))) fun _ _ => ?_
    refine discipline.bind (discipline.step _ (plain (.note _ _ rfl rfl rfl))) fun _ _ => ?_
    exact discipline.step _ (plain (.stay _))

omit produced in
theorem introduce_holds (registry : RegistryId) (beans : List (String × FactoryId)) (world : World app) :
    discipline.Holds world fun index =>
      introduce code (handle index) registry beans world := by
  induction beans generalizing world with
  | nil => exact discipline.step _ (plain (.stay world))
  | cons bean rest ih =>
    obtain ⟨name, factory⟩ := bean
    refine discipline.bind (discarded (fun _ => plain (.stay _))
      (tellName_holds code plain answered factory name world)) fun _ _ => ?_
    refine discipline.bind (discarded (fun _ => plain (.stay _))
      (tellRegistry_holds code plain answered factory registry _)) fun _ _ => ?_
    exact ih _

theorem loadEagerly_holds (registry : RegistryId) (names : List String) (world : World app) :
    discipline.Holds world fun index =>
      loadEagerly code (handle index) registry names world := by
  induction names generalizing world with
  | nil => exact discipline.step _ (plain (.stay world))
  | cons name rest ih =>
    refine discipline.bind (resolve_holds code plain answered produced registry name world)
      fun outcome after => ?_
    cases outcome with
    | error error => exact discipline.step _ (plain (.stay after))
    | ok _ =>
      refine discipline.bind (discipline.step _ (plain (.stay after))) fun known _ => ?_
      cases isSingletonNamed known registry name with
      | error error => exact discipline.step _ (plain (.stay _))
      | ok isSingleton =>
        cases isSingleton with
        | false => exact discipline.step _ (plain (.stay _))
        | true => exact ih _

omit answered produced in
theorem noteAliases (aliases : List Alias) (world : World app) :
    discipline.Holds world fun _ : Index =>
      (aliases.forM fun resolved => Eval.note (.aliased resolved) : Eval app Unit) world := by
  induction aliases generalizing world with
  | nil => exact discipline.step _ (plain (.stay world))
  | cons resolved rest ih =>
    exact discipline.bind (discipline.step _ (plain (.note _ _ rfl rfl rfl))) fun _ after => ih after

theorem build_holds
    (founding : ∀ (world : World app) (identity : RegistryId),
      discipline.Allows world (world.grant identity).2)
    (declarations : Declarations) (world : World app) :
    discipline.Holds world fun index =>
      build code (handle index) declarations world := by
  unfold build
  cases described : declarations.registry with
  | error fault => exact discipline.step _ (plain (.stay world))
  | ok registry =>
    refine discipline.bind (discipline.step _ (plain (.addRegistry world declarations registry described)))
      fun identity _ => ?_
    refine discipline.bind (introduce_holds code plain answered identity declarations.beans _)
      fun _ _ => ?_
    refine discipline.bind (noteAliases plain registry.aliases _) fun _ _ => ?_
    refine discipline.bind (discipline.step _ (founding _ identity)) fun owner _ => ?_
    refine discipline.bind (loadEagerly_holds code plain answered produced identity declarations.eager _)
      fun loaded _ => ?_
    cases loaded with
    | error error =>
      exact discipline.bind (discipline.step _ (plain (.release _ owner))) fun _ _ =>
        discipline.step _ (plain (.stay _))
    | ok _ =>
      exact discipline.bind (discipline.step _ (plain (.note _ _ rfl rfl rfl))) fun _ _ =>
        discipline.step _ (plain (.stay _))

omit produced in
theorem carryOut_aside {operation : Operation app} (aside : operation.asksForBeans = false)
    (driven : ∀ chain world,
      discipline.Holds world fun index => driveChain (handle index) chain world) (world : World app) :
    discipline.Holds world fun index =>
      carryOut code (handle index) operation world := by
  have stays {Result : Type} (result : Result) : discipline.Holds world fun _ : Index =>
      some (result, world) := discipline.step result (plain (.stay world))
  cases operation with
  | produce factory => cases aside
  | resolve registry name => cases aside
  | build declarations => cases aside
  | emit event => exact discipline.step _ (plain (.note _ _ rfl rfl rfl))
  | readMemory => exact stays world.memory
  | writeMemory memory => exact discipline.step _ (plain (.aside (.remember world memory) rfl))
  | newObject content => exact discipline.step _ (plain (.aside (.addObject world content) rfl))
  | newFactory scope recipe => exact discipline.step _ (plain (.aside (.addRecipe world scope recipe) rfl))
  | newCustomFactory custom => exact discipline.step _ (plain (.aside (.addCustom world custom) rfl))
  | inspectFactory factory => exact stays (world.factory? factory)
  | tellName factory name => exact tellName_holds code plain answered factory name world
  | tellRegistry factory registry => exact tellRegistry_holds code plain answered factory registry world
  | register declarations name factory =>
    exact register_holds code plain answered declarations name factory world
  | inspectRegistry registry => exact stays (world.registry registry)
  | isSingleton registry name => exact stays (isSingletonNamed world registry name)
  | isActive registry => exact stays (world.isActive registry)
  | acquire registry =>
    change discipline.Holds world fun _ => some (world.acquire registry)
    unfold World.acquire
    split
    next alive => exact discipline.step _ (plain (.grant world registry alive))
    next => exact discipline.step _ (plain (.stay world))
  | share owner =>
    change discipline.Holds world fun _ => some (world.share owner)
    unfold World.share
    split
    next held => exact discipline.step _ (plain (.grant world owner.registry (World.isActive_of_isHeld held)))
    next => exact discipline.step _ (plain (.stay world))
  | release owner => exact discipline.step _ (plain (.release world owner))
  | newChain chain => exact discipline.step _ (plain (.aside (.addChain world chain) rfl))
  | configureChain chain settings =>
    exact discipline.step _ (plain (.aside (.configure world chain settings) rfl))
  | inspectChain chain => exact stays (world.chain? chain)
  | driveChain chain => exact driven chain world

theorem carryOut_holds
    (built : ∀ declarations world,
      discipline.Holds world fun index => build code (handle index) declarations world)
    (driven : ∀ chain world,
      discipline.Holds world fun index => driveChain (handle index) chain world)
    (operation : Operation app) (world : World app) :
    discipline.Holds world fun index =>
      carryOut code (handle index) operation world := by
  cases operation with
  | produce factory => exact produce_holds code plain answered produced factory world
  | resolve registry name => exact resolve_holds code plain answered produced registry name world
  | build declarations => exact built declarations world
  | _ => exact carryOut_aside code plain answered rfl driven world

end Operations

end Discipline
end BeanRegistry
