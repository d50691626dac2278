import BeanRegistry.Script

set_option autoImplicit false

namespace BeanRegistry

variable {app : Application}

namespace Creation

def gather (creation : Creation) :
    List String → Script app (Except Failure (List (Object app.Content)))
  | [] => pure (.ok [])
  | name :: rest => do
    match ← creation.resolve name with
    | .error failure => pure (.error failure)
    | .ok bean =>
      match ← creation.gather rest with
      | .error failure => pure (.error failure)
      | .ok beans => pure (.ok (bean :: beans))

def assemble (creation : Creation) (names : List String)
    (content : List (Object app.Content) → app.Content) : Script app (Except Failure (Product app)) := do
  match ← creation.gather names with
  | .error failure => pure (.error failure)
  | .ok beans =>
    let bean ← Script.newObject (content beans)
    pure (.ok (.bean bean))

def compose (creation : Creation) (names : List String)
    (content : List (Object app.Content) → app.Content) (nested : Option FactoryId) :
    Script app (Except Failure (Product app)) := do
  match ← creation.gather names with
  | .error failure => pure (.error failure)
  | .ok beans =>
    match nested with
    | some inner => pure (.ok (.factory inner))
    | none =>
      let bean ← Script.newObject (content beans)
      pure (.ok (.bean bean))

end Creation

def Code.Assembles (code : Code app) (recipe : app.Recipe) (names : List String) : Prop :=
  (∃ content : Creation → List (Object app.Content) → app.Content,
    ∀ creation, code.create recipe creation = creation.assemble names (content creation)) ∧
  ∀ product creation, code.followUp recipe product creation = pure (.ok ())

def Code.Composes (code : Code app) (recipe : app.Recipe) (names : List String) (nested : Option FactoryId) :
    Prop :=
  (∃ content : Creation → List (Object app.Content) → app.Content,
    ∀ creation, code.create recipe creation = creation.compose names (content creation) nested) ∧
  ∀ product creation, code.followUp recipe product creation = pure (.ok ())

def Failure.innermost (failure : Failure) : Failure :=
  (failure :: failure.sources).getLast (List.cons_ne_nil _ _)

theorem Failure.innermost_creationFailed (name : String) (source : Failure) :
    (Failure.bean (.creationFailed name source)).innermost = source.innermost := by
  simp [innermost, Failure.sources, BeanFailure.sources]

theorem Failure.innermost_unableToCreate (source : Failure) :
    (Failure.bean (.unableToCreate source)).innermost = source.innermost := by
  simp [innermost, Failure.sources, BeanFailure.sources]

end BeanRegistry
