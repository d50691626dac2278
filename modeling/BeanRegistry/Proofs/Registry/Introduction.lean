import BeanRegistry.Proofs.Registry.Founding
import BeanRegistry.Proofs.Run.Requests

set_option autoImplicit false

namespace BeanRegistry

variable {app : Application} {code : Code app}

structure Factory.Alike (early late : Factory app) : Prop where
  single : late.isSingleton = early.isSingleton
  named : late.isNameAware = early.isNameAware
  housed : late.isRegistryAware = early.isRegistryAware

theorem Factory.Alike.refl (factory : Factory app) : factory.Alike factory :=
  ⟨rfl, rfl, rfl⟩

theorem Factory.Alike.trans {early middle late : Factory app} (before : early.Alike middle)
    (rest : middle.Alike late) : early.Alike late :=
  ⟨rest.single.trans before.single, rest.named.trans before.named, rest.housed.trans before.housed⟩

-- No factory goes away or becomes another one, and no step is taken back.
structure Stays (before after : World app) : Prop where
  factories : ∀ {factory early}, before.factory? factory = some early →
    ∃ late, after.factory? factory = some late ∧ early.Alike late
  history : ∃ steps, after.history = before.history ++ steps

theorem Stays.trans {first middle last : World app} (before : Stays first middle) (rest : Stays middle last) :
    Stays first last := by
  refine ⟨fun known => ?_, ?_⟩
  · obtain ⟨between, found, alike⟩ := before.factories known
    obtain ⟨late, still, alike_too⟩ := rest.factories found
    exact ⟨late, still, alike.trans alike_too⟩
  · obtain ⟨early, grown⟩ := before.history
    obtain ⟨late, grown_on⟩ := rest.history
    exact ⟨early ++ late, by rw [grown_on, grown, List.append_assoc]⟩

theorem Stays.of_eq {before after : World app} (steps : List (Step app))
    (factories : after.factories = before.factories) (journal : after.journal = steps ++ before.journal) :
    Stays before after := by
  refine ⟨fun {factory early} known => ⟨early, ?_, .refl early⟩, steps.reverse, ?_⟩
  · simpa [World.factory?, factories] using known
  · simp [World.history, journal]

theorem Stays.of_mapFactory (world : World app) (changed : FactoryId)
    {change : RecipeFactory app → RecipeFactory app}
    (scope : ∀ recipe, (change recipe).scope = recipe.scope) :
    Stays world (world.mapFactory changed change) := by
  refine ⟨fun {factory early} known => ?_, [], (List.append_nil _).symm⟩
  rw [World.factory?_mapFactory, known]
  split
  · refine ⟨_, rfl, ?_⟩
    cases early with
    | recipe recipe => exact ⟨by simp [Factory.mapRecipe, Factory.isSingleton, scope], rfl, rfl⟩
    | custom custom => exact .refl _
  · exact ⟨early, rfl, .refl early⟩

theorem Stays.of_addFactory (world : World app) (added : Factory app) :
    Stays world (world.addFactory added).2 := by
  refine ⟨fun {factory early} known => ⟨early, ?_, .refl early⟩, [], (List.append_nil _).symm⟩
  simp only [World.factory?, World.addFactory, Array.getElem?_push] at known ⊢
  split
  next beyond => simp [beyond] at known
  next => exact known

theorem PlainMove.stays {before after : World app} (move : PlainMove before after) : Stays before after := by
  cases move with
  | learnName factory name => exact .of_mapFactory before factory fun _ => rfl
  | learnRegistry factory registry => exact .of_mapFactory before factory fun _ => rfl
  | addRecipe scope recipe => exact .of_addFactory before _
  | addCustom custom => exact .of_addFactory before _
  | note step unproductive outside => exact .of_eq [step] rfl rfl
  | grant registry => exact .of_eq [_] rfl rfl
  | release owner => exact .of_eq [_] rfl rfl
  | _ => exact .of_eq [] rfl rfl

theorem ChainMove.stays {before after : World app} (move : ChainMove before after) : Stays before after := by
  cases move with
  | finish chain method progress => exact .of_eq [_] rfl rfl
  | pass passage passed => cases passed <;> exact .of_eq [_] rfl rfl

theorem ProductionMove.stays {before after : World app} (move : ProductionMove before after) :
    Stays before after := by
  cases move with
  | guard guards => exact .of_eq [] rfl rfl
  | note step factory productive => exact .of_eq [step] rfl rfl
  | pipeline factory passed =>
    cases passed with
    | keep bean => exact .of_mapFactory before factory (RecipeFactory.keep_scope · bean)
    | _ => exact .of_eq [_] rfl rfl

theorem stays_keeps (code : Code app) : code.Keeps Stays :=
  .of_moves code Stays.trans PlainMove.stays ChainMove.stays ProductionMove.stays

theorem Stays.journal {before after : World app} (stays : Stays before after) :
    ∃ steps, after.journal = steps ++ before.journal := by
  obtain ⟨steps, grown⟩ := stays.history
  exact ⟨steps.reverse, by simpa [World.history] using congrArg List.reverse grown⟩

def Notes (before after : World app) (noted : List (Step app)) : Prop :=
  ∃ steps, after.history = before.history ++ steps ∧ noted.Sublist steps

section Notes

variable {first middle last world : World app} {noted more part : List (Step app)}

theorem Notes.trans (before : Notes first middle noted) (rest : Notes middle last more) :
    Notes first last (noted ++ more) := by
  obtain ⟨early, grown, among⟩ := before
  obtain ⟨late, grown_on, among_too⟩ := rest
  exact ⟨early ++ late, by rw [grown_on, grown, List.append_assoc], among.append among_too⟩

theorem Notes.sublist (notes : Notes first last noted) (among : part.Sublist noted) :
    Notes first last part := by
  obtain ⟨steps, grown, all⟩ := notes
  exact ⟨steps, grown, among.trans all⟩

theorem Stays.notes (stays : Stays first last) : Notes first last [] := by
  obtain ⟨steps, grown⟩ := stays.history
  exact ⟨steps, grown, List.nil_sublist steps⟩

theorem Notes.note {step : Step app} (stays : Stays (world.note step) last) : Notes world last [step] := by
  obtain ⟨steps, grown⟩ := stays.history
  refine ⟨step :: steps, ?_, (List.nil_sublist steps).cons_cons step⟩
  rw [grown]
  simp [World.history, World.note]

end Notes

def Factory.tellings (factory : FactoryId) (name : String) (home : RegistryId) (told : Factory app) :
    List (Step app) :=
  (if told.isNameAware then [.toldName factory name] else []) ++
    if told.isRegistryAware then [.toldRegistry factory home] else []

def World.tellings (world : World app) (home : RegistryId) (beans : List (String × FactoryId)) :
    List (Step app) :=
  beans.flatMap fun bean => ((world.factory? bean.2).map (Factory.tellings bean.2 bean.1 home)).getD []

section Telling

variable {world after : World app} {factory : FactoryId} {known : Factory app} {answer : Bool}

-- What a custom factory is told is there before its own code hears of it.
theorem heard_notes {isAware : Bool} {told : Step app} {script : Script app Unit}
    (heard : (do
      if isAware then
        Eval.note told
        (unbounded code).script script
        pure true
      else pure false : Eval app Bool) world = some (answer, after)) :
    Notes world after (if isAware then [told] else []) := by
  have kept := stays_keeps code
  cases isAware with
  | false =>
    cases heard
    exact (kept.plain (.stay world)).notes
  | true =>
    obtain ⟨_, noted, noting, heard⟩ := Eval.bind_eq_some_iff.mp heard
    cases noting
    obtain ⟨_, last, hearing, ended⟩ := Eval.bind_eq_some_iff.mp heard
    cases ended
    have answers := (kept.unbounded_keeps.handles kept.trans).answers
    exact .note (Discipline.script_holds kept.careful answers script _ _ _ hearing)

theorem tellName_notes (found : world.factory? factory = some known) {name : String}
    (telling : tellName code (unbounded code) factory name world = some (answer, after)) :
    Notes world after (if known.isNameAware then [.toldName factory name] else []) := by
  cases known with
  | recipe recipe =>
    rw [tellName_recipe (World.recipeFactory?_eq_some_iff.mpr found)] at telling
    cases telling
    exact ⟨[_], by simp [World.history, World.note, World.mapFactory], .refl _⟩
  | custom custom =>
    simp only [tellName, Eval.get_bind, found] at telling
    exact heard_notes telling

theorem tellRegistry_notes (found : world.factory? factory = some known) {home : RegistryId}
    (telling : tellRegistry code (unbounded code) factory home world = some (answer, after)) :
    Notes world after (if known.isRegistryAware then [.toldRegistry factory home] else []) := by
  cases known with
  | recipe recipe =>
    rw [tellRegistry_recipe (World.recipeFactory?_eq_some_iff.mpr found)] at telling
    cases telling
    exact ⟨[_], by simp [World.history, World.note, World.mapFactory], .refl _⟩
  | custom custom =>
    simp only [tellRegistry, Eval.get_bind, found] at telling
    exact heard_notes telling

theorem Stays.tellings (stays : Stays world after) (home : RegistryId) (beans : List (String × FactoryId)) :
    (world.tellings home beans).Sublist (after.tellings home beans) := by
  induction beans with
  | nil => exact List.Sublist.refl []
  | cons bean rest ih =>
    refine List.Sublist.append ?_ ih
    dsimp only
    cases found : world.factory? bean.2 with
    | none => exact List.nil_sublist _
    | some early =>
      obtain ⟨late, still, alike⟩ := stays.factories found
      simp [still, Factory.tellings, alike.named, alike.housed]

theorem introduce_notes {home : RegistryId} {beans : List (String × FactoryId)}
    (introduced : introduce code (unbounded code) home beans world = some ((), after)) :
    Notes world after (world.tellings home beans) := by
  induction beans generalizing world with
  | nil =>
    cases introduced
    exact ((stays_keeps code).plain (.stay _)).notes
  | cons bean rest ih =>
    obtain ⟨name, factory⟩ := bean
    have kept := stays_keeps code
    have answers := (kept.unbounded_keeps.handles kept.trans).answers
    obtain ⟨_, named, telling, introduced⟩ := Eval.bind_eq_some_iff.mp introduced
    obtain ⟨_, housed, handing, introduced⟩ := Eval.bind_eq_some_iff.mp introduced
    obtain ⟨⟨_, _⟩, told, same⟩ := Option.bind_eq_some_iff.mp telling
    cases same
    obtain ⟨⟨_, _⟩, handed, same⟩ := Option.bind_eq_some_iff.mp handing
    cases same
    have naming : Stays world named :=
      Discipline.tellName_holds code kept.careful answers factory name world _ _ told
    have housing : Stays named housed :=
      Discipline.tellRegistry_holds code kept.careful answers factory home named _ _ handed
    have others := (ih introduced).sublist ((naming.trans housing).tellings home rest)
    cases found : world.factory? factory with
    | none =>
      have both := (naming.trans housing).notes.trans others
      simpa [World.tellings, found] using both
    | some early =>
      obtain ⟨late, still, alike⟩ := naming.factories found
      have both := (tellName_notes found told).trans (tellRegistry_notes still handed)
      have all := both.trans others
      simpa [World.tellings, found, Factory.tellings, alike.housed] using all

end Telling

-- A factory made from a recipe learns what it is told; a custom one runs its own code if it is aware.
inductive Hears (code : Code app) (factory : FactoryId) (told : Step app)
    (learns : RecipeFactory app → RecipeFactory app) (isAware : CustomFactory app → Bool)
    (script : app.Custom → Script app Unit) (world : World app) : World app → Prop where
  | missing (unknown : world.factory? factory = none) :
      Hears code factory told learns isAware script world world
  | learns {recipe : RecipeFactory app} (known : world.factory? factory = some (.recipe recipe)) :
      Hears code factory told learns isAware script world ((world.mapFactory factory learns).note told)
  | unaware {custom : CustomFactory app} (known : world.factory? factory = some (.custom custom))
      (unaware : isAware custom = false) : Hears code factory told learns isAware script world world
  | runs {custom : CustomFactory app} {after : World app}
      (known : world.factory? factory = some (.custom custom)) (aware : isAware custom = true)
      (ran : (unbounded code).script (script custom.code) (world.note told) = some ((), after)) :
      Hears code factory told learns isAware script world after

def HearsName (code : Code app) (factory : FactoryId) (name : String) : World app → World app → Prop :=
  Hears code factory (.toldName factory name)
    (·.learnName name) CustomFactory.isNameAware (code.nameTold · name)

def HearsRegistry (code : Code app) (factory : FactoryId) (home : RegistryId) :
    World app → World app → Prop :=
  Hears code factory (.toldRegistry factory home) (·.learnRegistry home) CustomFactory.isRegistryAware
    (code.registryTold · home)

inductive Introduces (code : Code app) (home : RegistryId) :
    List (String × FactoryId) → World app → World app → Prop where
  | done (world : World app) : Introduces code home [] world world
  | next {name : String} {factory : FactoryId} {rest : List (String × FactoryId)}
      {world named housed after : World app} (nameHeard : HearsName code factory name world named)
      (registryHeard : HearsRegistry code factory home named housed)
      (introduces : Introduces code home rest housed after) :
      Introduces code home ((name, factory) :: rest) world after

section Hearing

variable {world after : World app} {factory : FactoryId}

theorem hears_iff {tell : Eval app Bool} {told : Step app} {learns : RecipeFactory app → RecipeFactory app}
    {isAware : CustomFactory app → Bool} {script : app.Custom → Script app Unit}
    (missing : world.factory? factory = none → tell world = some (false, world))
    (taught : ∀ recipe, world.factory? factory = some (.recipe recipe) →
      tell world = some (true, (world.mapFactory factory learns).note told))
    (heard : ∀ custom, world.factory? factory = some (.custom custom) → tell world =
      if isAware custom then
        ((unbounded code).script (script custom.code) >>= fun _ => pure true) (world.note told)
      else some (false, world)) :
    (∃ answer, tell world = some (answer, after)) ↔
      Hears code factory told learns isAware script world after := by
  cases known : world.factory? factory with
  | none =>
    rw [missing known]
    constructor
    · rintro ⟨_, ⟨⟩⟩
      exact .missing known
    · rintro (_ | found | ⟨found, _⟩ | ⟨found, _, _⟩)
      · exact ⟨false, rfl⟩
      all_goals cases known.symm.trans found
  | some learner =>
    cases learner with
    | recipe recipe =>
      rw [taught recipe known]
      constructor
      · rintro ⟨_, ⟨⟩⟩
        exact .learns known
      · rintro (unknown | found | ⟨found, _⟩ | ⟨found, _, _⟩)
        · cases known.symm.trans unknown
        · exact ⟨true, rfl⟩
        all_goals cases known.symm.trans found
    | custom custom =>
      rw [heard custom known]
      constructor
      · rintro ⟨answer, hears⟩
        by_cases aware : isAware custom = true
        · rw [if_pos aware] at hears
          obtain ⟨_, _, ran, same⟩ := Eval.bind_eq_some_iff.mp hears
          cases same
          exact .runs known aware ran
        · rw [if_neg aware] at hears
          cases hears
          exact .unaware known (Bool.not_eq_true _ ▸ aware)
      · rintro (unknown | found | ⟨found, unaware⟩ | ⟨found, aware, ran⟩)
        · cases known.symm.trans unknown
        · cases known.symm.trans found
        · cases known.symm.trans found
          exact ⟨false, by rw [if_neg (by simp [unaware])]⟩
        · cases known.symm.trans found
          exact ⟨true, by rw [if_pos aware, Eval.bind_apply, ran]; rfl⟩

theorem tellName_iff {name : String} :
    (∃ answer, tellName code (unbounded code) factory name world = some (answer, after)) ↔
      HearsName code factory name world after := by
  refine hears_iff (fun unknown => ?_) (fun recipe found => ?_) fun custom found => ?_
  · simp only [tellName, Eval.get_bind, unknown]
    rfl
  · exact tellName_recipe (World.recipeFactory?_eq_some_iff.mpr found) name
  · simp only [tellName, Eval.get_bind, found]
    cases custom.isNameAware <;> rfl

theorem tellRegistry_iff {home : RegistryId} :
    (∃ answer, tellRegistry code (unbounded code) factory home world = some (answer, after)) ↔
      HearsRegistry code factory home world after := by
  refine hears_iff (fun unknown => ?_) (fun recipe found => ?_) fun custom found => ?_
  · simp only [tellRegistry, Eval.get_bind, unknown]
    rfl
  · exact tellRegistry_recipe (World.recipeFactory?_eq_some_iff.mpr found) home
  · simp only [tellRegistry, Eval.get_bind, found]
    cases custom.isRegistryAware <;> rfl

theorem discard_eq_some_iff {Result : Type} {evaluation : Eval app Result} :
    (discard evaluation : Eval app Unit) world = some ((), after) ↔
      ∃ result, evaluation world = some (result, after) := by
  constructor
  · intro discarded
    change (evaluation world).bind (fun answer => some ((), answer.2)) = _ at discarded
    obtain ⟨⟨result, _⟩, answered, same⟩ := Option.bind_eq_some_iff.mp discarded
    cases same
    exact ⟨result, answered⟩
  · rintro ⟨result, answered⟩
    exact discard_eq answered

theorem introduce_eq_some_iff {home : RegistryId} {beans : List (String × FactoryId)} :
    introduce code (unbounded code) home beans world = some ((), after) ↔
    Introduces code home beans world after := by
  induction beans generalizing world with
  | nil =>
    constructor
    · rintro ⟨⟩
      exact .done _
    · rintro ⟨⟩
      rfl
  | cons bean rest ih =>
    obtain ⟨name, factory⟩ := bean
    constructor
    · intro introduced
      obtain ⟨_, named, told, introduced⟩ := Eval.bind_eq_some_iff.mp introduced
      obtain ⟨_, housed, handed, introduced⟩ := Eval.bind_eq_some_iff.mp introduced
      exact .next (tellName_iff.mp (discard_eq_some_iff.mp told))
        (tellRegistry_iff.mp (discard_eq_some_iff.mp handed)) (ih.mp introduced)
    · rintro (_ | ⟨named, housed, introduces⟩)
      have told := discard_eq_some_iff.mpr (tellName_iff.mpr named)
      have handed := discard_eq_some_iff.mpr (tellRegistry_iff.mpr housed)
      exact Eval.bind_eq_some_iff.mpr
        ⟨(), _, told, Eval.bind_eq_some_iff.mpr ⟨(), _, handed, ih.mpr introduces⟩⟩

end Hearing

def Operation.isInert : Operation app → Bool
  | .produce _ | .tellName _ _ | .tellRegistry _ _ | .register _ _ _ | .build _ | .resolve _ _
  | .driveChain _ =>
    false
  | _ => true

structure Code.HearsQuietly (code : Code app) : Prop where
  name : ∀ custom name, (code.nameTold custom name).Every (·.isInert = true)
  registry : ∀ custom registry, (code.registryTold custom registry).Every (·.isInert = true)

section Quietly

def idle (code : Code app) : Handler app
  | .request operation =>
    if operation.isInert then carryOut code (fun _ _ => none) operation else fun _ => none
  | .proceed _ _ => fun _ => none

theorem script_idle {Result : Type} {script : Script app Result} (inert : script.Every (·.isInert = true)) :
    (unbounded code).script script = (idle code).script script := by
  induction script with
  | done result => rfl
  | ask operation next ih =>
    have here : unbounded code (.request operation) = idle code (.request operation) := by
      have allowed : operation.isInert = true := inert.1
      rw [unbounded_request, idle, if_pos allowed]
      cases operation <;> first | (cases allowed; done) | rfl
    have rest (answer : operation.Answer) := ih answer (inert.2 answer)
    simp only [Handler.script, Program.run, Handler.common, here] at rest ⊢
    simp only [rest]

theorem introduce_idle (quietly : code.HearsQuietly) (home : RegistryId) (beans : List (String × FactoryId)) :
    introduce code (unbounded code) home beans = introduce code (idle code) home beans := by
  have named (factory : FactoryId) (name : String) :
      tellName code (unbounded code) factory name = tellName code (idle code) factory name := by
    simp only [tellName, script_idle (quietly.name _ _)]
  have housed (factory : FactoryId) :
      tellRegistry code (unbounded code) factory home = tellRegistry code (idle code) factory home := by
    simp only [tellRegistry, script_idle (quietly.registry _ _)]
  induction beans with
  | nil => rfl
  | cons bean rest ih => simp only [introduce, named, housed, ih]

theorem Quiet.trans {first middle last : World app} (before : Quiet first middle) (rest : Quiet middle last) :
    Quiet first last where
  scopes found := rest.scopes (before.scopes found)
  ready factory := (rest.ready factory).trans (before.ready factory)
  guards := rest.guards.trans before.guards
  bounded bounded := rest.bounded (before.bounded bounded)
  journal := journal_trans before.journal rest.journal

theorem introduce_quiet (quietly : code.HearsQuietly) {home : RegistryId} {beans : List (String × FactoryId)}
    {world after : World app}
    (introduced : introduce code (unbounded code) home beans world = some ((), after)) :
    Quiet world after := by
  let discipline : Discipline app Unit := .keeping Quiet Quiet.trans
  have plain {world after : World app} (move : CarefulMove world after) : discipline.Allows world after :=
    move.plain.quiet
  have answers : discipline.Answers fun _ => idle code := by
    intro operation world outcome after answered
    simp only [idle] at answered
    split at answered
    next inert =>
      have aside : operation.asksForBeans = false := by cases operation <;> first | (cases inert; done) | rfl
      have silent : discipline.Answers fun _ => (fun _ _ => none : Handler app) :=
        fun _ _ _ _ answered => nomatch answered
      refine Discipline.carryOut_aside code plain silent aside ?_ world outcome after answered
      exact Discipline.driveChain_holds plain (fun move => move.quiet) fun _ _ _ _
        answered => nomatch answered
    next => cases answered
  rw [introduce_idle quietly] at introduced
  exact Discipline.introduce_holds code plain answers home beans world () after introduced

theorem script_answers {Result : Type} {script : Script app Result} (inert : script.Every (·.isInert = true))
    (world : World app) : ((unbounded code).script script).Gives world fun _ _ => True := by
  induction script generalizing world with
  | done result => exact ⟨result, world, rfl, trivial⟩
  | ask operation next ih =>
    have answers : (unbounded code (.request operation)).Gives world fun _ _ => True := by
      have allowed : operation.isInert = true := inert.1
      rw [unbounded_request]
      cases operation <;> first | (cases allowed; done) | exact ⟨_, _, rfl, trivial⟩
    exact answers.bind fun answer after _ => ih answer (inert.2 answer) after

theorem heard_answers {script : Script app Unit} (inert : script.Every (·.isInert = true)) (isAware : Bool)
    (told : Step app) (world : World app) :
    (do
      if isAware then
        Eval.note told
        (unbounded code).script script
        pure true
      else pure false : Eval app Bool).Gives world fun _ _ => True := by
  cases isAware with
  | false => exact ⟨false, world, rfl, trivial⟩
  | true =>
    have hearing : ((unbounded code).script script).Gives (world.note told) _ := script_answers inert _
    exact hearing.bind fun _ after _ => ⟨true, after, rfl, trivial⟩

theorem tellName_answers (quietly : code.HearsQuietly) (factory : FactoryId) (name : String)
    (world : World app) : (tellName code (unbounded code) factory name).Gives world fun _ _ => True := by
  rw [Eval.Gives, tellName, Eval.get_bind]
  cases world.factory? factory with
  | none => exact ⟨false, world, rfl, trivial⟩
  | some known =>
    cases known with
    | recipe _ => exact ⟨true, _, rfl, trivial⟩
    | custom custom => exact heard_answers (quietly.name custom.code name) custom.isNameAware _ world

theorem tellRegistry_answers (quietly : code.HearsQuietly) (factory : FactoryId) (home : RegistryId)
    (world : World app) : (tellRegistry code (unbounded code) factory home).Gives world fun _ _ => True := by
  rw [Eval.Gives, tellRegistry, Eval.get_bind]
  cases world.factory? factory with
  | none => exact ⟨false, world, rfl, trivial⟩
  | some known =>
    cases known with
    | recipe _ => exact ⟨true, _, rfl, trivial⟩
    | custom custom => exact heard_answers (quietly.registry custom.code home) custom.isRegistryAware _ world

theorem introduce_answers (quietly : code.HearsQuietly) (home : RegistryId)
    (beans : List (String × FactoryId))
    (world : World app) : (introduce code (unbounded code) home beans).Gives world fun _ _ => True := by
  induction beans generalizing world with
  | nil => exact ⟨(), world, rfl, trivial⟩
  | cons bean rest ih =>
    obtain ⟨name, factory⟩ := bean
    have heard {Result : Type} {evaluation : Eval app Result} {world : World app}
        (answers : evaluation.Gives world fun _ _ => True) :
        (discard evaluation : Eval app Unit).Gives world fun _ _ => True :=
      answers.bind fun _ after _ => ⟨(), after, rfl, trivial⟩
    refine (heard (tellName_answers quietly factory name world)).bind fun _ named _ => ?_
    exact (heard (tellRegistry_answers quietly factory home named)).bind fun _ housed _ => ih housed

end Quietly

end BeanRegistry
