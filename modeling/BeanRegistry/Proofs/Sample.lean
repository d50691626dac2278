import BeanRegistry.Proofs.Registry.Assembly

set_option autoImplicit false

namespace BeanRegistry.Sample

inductive Hook where
  | heed
  | refuse
  | retry

abbrev app : Application where
  Content := Unit
  Event := String
  Memory := Unit
  Recipe := List String
  Custom := Empty
  Hook := Hook

def refusal : Failure :=
  .application "refused"

def judge : Hook → Except Failure Unit
  | .refuse => .error refusal
  | .heed | .retry => .ok ()

def emit (event : String) : HookScript app Unit :=
  .ask (.common (.emit event)) .done

def code : Code app where
  create names creation := creation.assemble names fun _ => ()
  followUp _ _ _ := pure (.ok ())
  produce custom := nomatch custom
  nameTold custom _ := nomatch custom
  registryTold custom _ := nomatch custom
  before hook _ := do
    emit "before"
    pure (judge hook)
  afterReturning hook _ _ := do
    emit "after returning"
    pure (judge hook)
  afterThrowing hook failure _ := do
    emit "after throwing"
    match hook with
    | .heed => pure (.ok .void)
    | .refuse | .retry => pure (.error failure)
  afterFinally _ _ := emit "after finally"
  around hook _ := do
    emit "around"
    match ← (.ask .proceed .done : HookScript app (Except Failure (Value Unit))), hook with
    | .error _, .retry => .ask .proceed .done
    | outcome, _ => pure outcome
  target hook _ := do
    emit "target"
    match hook with
    | .refuse => pure (.error refusal)
    | .heed | .retry => pure (.ok (.bool true))

def passage (advices : List (Advice Hook)) : Passage app where
  chain := ⟨0⟩
  invocation :=
    { target := ⟨0, ()⟩
      method :=
        { enclosingType := "Account", name := "withdraw", parameterTypes := ["int"]
          returnType := "bool", isNative := false }
      parameters := [.int32 7] }
  advices
  targetMethod := .heed

def chain (passage : Passage app) : Chain app where
  target := some passage.invocation.target
  method := some passage.invocation.method
  parameters := passage.invocation.parameters
  advices := passage.advices
  targetMethod := some passage.targetMethod

def configured (passage : Passage app) : World app :=
  { World.initial () with chains := #[⟨chain passage, .created⟩] }

-- A house whose door and windows share their glass, next to a maze that leads back to itself.
def recipes : List (String × Scope × List String) :=
  [("house", .singleton, ["door", "window"]), ("door", .prototype, ["glass"]),
    ("window", .singleton, ["pane"]), ("glass", .singleton, []), ("maze", .singleton, ["glass", "maze"])]

def declarations : Declarations where
  beans := (recipes.map Prod.fst).zipIdx.map fun entry => (entry.1, ⟨entry.2⟩)
  aliases := [⟨"pane", "glass"⟩]
  eager := ["window"]
  nestingBound := 1

def needs (factory : FactoryId) : List String :=
  (recipes[factory.index]?.map fun entry => entry.2.2).getD []

def furnished : World app :=
  { World.initial () with
    factories := (recipes.map fun entry => .recipe (.ofRecipe entry.2.1 entry.2.2)).toArray }

inductive Doll where
  | solid
  | around (inner : Doll)
  -- Asks for beans, whatever comes of it, and has another one like itself inside.
  | endless (names : List String)

abbrev toys : Application where
  Content := Unit
  Event := Empty
  Memory := Unit
  Recipe := Doll
  Custom := Empty
  Hook := Empty

def Doll.reveal (creation : Creation) : Doll → Script toys (Except Failure (Product toys))
  | .solid => do
    let bean ← Script.newObject ()
    pure (.ok (.bean bean))
  | .around inner => do
    let nested ← Script.newFactory .singleton inner
    pure (.ok (.factory nested))
  | .endless names => do
    let _ ← creation.gather names
    let nested ← Script.newFactory .prototype (.endless names)
    pure (.ok (.factory nested))

def unpack : Code toys where
  create doll creation := doll.reveal creation
  followUp _ _ _ := pure (.ok ())
  produce custom := nomatch custom
  nameTold custom _ := nomatch custom
  registryTold custom _ := nomatch custom
  before hook _ := nomatch hook
  afterReturning hook _ _ := nomatch hook
  afterThrowing hook _ _ := nomatch hook
  afterFinally hook _ := nomatch hook
  around hook _ := nomatch hook
  target hook _ := nomatch hook

-- A kit asks for its parts by their names; then it is broken, is put together, or is what another kit is.
structure Kit where
  parts : List String
  yields : Except Failure (Option FactoryId)

abbrev kits : Application where
  Content := Unit
  Event := Empty
  Memory := Unit
  Recipe := Kit
  Custom := Empty
  Hook := Empty

def Kit.unfold (creation : Creation) (kit : Kit) : Script kits (Except Failure (Product kits)) :=
  match kit.yields with
  | .ok nested => creation.compose kit.parts (fun _ => ()) nested
  | .error failure => do
    match ← creation.gather kit.parts with
    | .error other => pure (.error other)
    | .ok _ => pure (.error failure)

def furnish : Code kits where
  create kit creation := kit.unfold creation
  followUp _ _ _ := pure (.ok ())
  produce custom := nomatch custom
  nameTold custom _ := nomatch custom
  registryTold custom _ := nomatch custom
  before hook _ := nomatch hook
  afterReturning hook _ _ := nomatch hook
  afterThrowing hook _ _ := nomatch hook
  afterFinally hook _ := nomatch hook
  around hook _ := nomatch hook
  target hook _ := nomatch hook

def enlisted (name : String) (kit : Kit) : RecipeFactory kits :=
  { RecipeFactory.ofRecipe .singleton kit with name := some name, registry := some ⟨0⟩ }

-- A lamp that needs a wick; neither was told anything yet.
def lampShop : World kits :=
  { World.initial () with
    factories := #[.recipe (.ofRecipe .singleton ⟨["wick"], .ok none⟩),
      .recipe (.ofRecipe .singleton ⟨[], .ok none⟩)] }

def lamps : Declarations :=
  (Declarations.empty.withBean "lamp" ⟨0⟩).withBean "wick" ⟨1⟩

end BeanRegistry.Sample
