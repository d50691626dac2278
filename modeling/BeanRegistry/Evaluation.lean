import BeanRegistry.Operation

set_option autoImplicit false

namespace BeanRegistry

abbrev Eval (app : Application) : Type → Type :=
  StateT (World app) Option

inductive Call (app : Application) where
  | request (operation : Operation app)
  | proceed (passage : Passage app) (position : Nat)

@[reducible] def Call.Answer {app : Application} : Call app → Type
  | .request operation => operation.Answer
  | .proceed _ _ => Except Failure (Value app.Content)

abbrev Handler (app : Application) : Type :=
  (call : Call app) → Eval app call.Answer

namespace Handler

variable {app : Application} {Result : Type}

def common (handle : Handler app) (operation : Operation app) : Eval app operation.Answer :=
  handle (.request operation)

def around (handle : Handler app) (rest : Eval app (Except Failure (Value app.Content))) :
    (operation : HookOperation app) → Eval app operation.Answer
  | .common operation => handle (.request operation)
  | .proceed => rest

def script (handle : Handler app) (script : Script app Result) : Eval app Result :=
  script.run handle.common

def hook (handle : Handler app) (rest : Eval app (Except Failure (Value app.Content)))
    (script : HookScript app Result) : Eval app Result :=
  script.run (handle.around rest)

end Handler

namespace Eval

variable {app : Application}

def note (step : Step app) : Eval app Unit :=
  modify fun world => world.note step

def noteGuards (step : Guards → Step app) : Eval app Unit :=
  modify fun world => world.note (step world.guards)

def changeGuards (change : Guards → Guards) : Eval app Unit :=
  modify fun world => world.withGuards (change world.guards)

end Eval
end BeanRegistry
