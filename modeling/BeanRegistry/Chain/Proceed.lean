import BeanRegistry.Evaluation

set_option autoImplicit false

namespace BeanRegistry

variable {app : Application}

def runHook {Result : Type} (handle : Handler app) (passage : Passage app) (position : Nat)
    (rest : Eval app (Except Failure (Value app.Content))) (hook : HookScript app Result) :
    Eval app Result := do
  Eval.note (.hookStarted passage.chain position)
  let result ← handle.hook rest hook
  Eval.note (.hookEnded passage.chain position)
  pure result

def invokeAdvice (code : Code app) (handle : Handler app) (passage : Passage app) (position : Nat)
    (rest : Eval app (Except Failure (Value app.Content))) :
    Advice app.Hook → Eval app (Except Failure (Value app.Content))
  | .before hook => do
    match ← runHook handle passage position rest (code.before hook passage.invocation) with
    | .error failure => pure (.error failure)
    | .ok () => rest
  | .afterReturning hook => do
    match ← rest with
    | .error failure => pure (.error failure)
    | .ok result =>
      match ← runHook handle passage position rest
          (code.afterReturning hook result passage.invocation) with
      | .error failure => pure (.error failure)
      | .ok () => pure (.ok result)
  | .afterThrowing hook => do
    match ← rest with
    | .ok result => pure (.ok result)
    | .error failure =>
      match ← runHook handle passage position rest
          (code.afterThrowing hook failure passage.invocation) with
      | .error other => pure (.error other)
      | .ok result =>
        Eval.note (.suppressed passage.chain position passage.invocation.method)
        pure (.ok result)
  | .afterFinally hook => do
    let outcome ← rest
    runHook handle passage position rest (code.afterFinally hook passage.invocation)
    pure outcome
  | .interceptor hook => handle.hook rest (code.around hook passage.invocation)

-- A chain never moves back, so entering a position again leaves it as far as it was.
def openPosition (passage : Passage app) (position : Nat) (isTarget : Bool) : Eval app Unit := do
  let reached := if isTarget then Progress.targetInvoked else .running position
  modify fun world => world.mapChain passage.chain fun cell =>
    { cell with progress := cell.progress.advance reached }
  let progress := (((← get).chain? passage.chain).map ChainCell.progress).getD reached
  Eval.note (.opened passage.chain position isTarget passage.invocation.method progress)

def closePosition (passage : Passage app) (position : Nat)
    (outcome : Except Failure (Value app.Content)) : Eval app Unit :=
  Eval.note (.closed passage.chain position outcome.isOk)

def proceedAt (code : Code app) (handle : Handler app) (passage : Passage app) (position : Nat) :
    Eval app (Except Failure (Value app.Content)) := do
  let rest := handle (.proceed passage (position + 1))
  match passage.advices[position]? with
  | some advice =>
    openPosition passage position false
    let outcome ← invokeAdvice code handle passage position rest advice
    closePosition passage position outcome
    pure outcome
  | none =>
    if position = passage.advices.length then
      openPosition passage position true
      let outcome ← handle.hook rest (code.target passage.targetMethod passage.invocation)
      closePosition passage position outcome
      pure outcome
    else pure (.error (.chain (.alreadyProceeded .targetInvoked)))

def driveChain (handle : Handler app) (chain : ChainId) :
    Eval app (Except Failure (Value app.Content)) := do
  let cell := ((← get).chain? chain).getD { chain := Chain.empty, progress := .created }
  match cell.chain.start chain cell.progress with
  | .error error => pure (.error (.chain error))
  | .ok passage =>
    let outcome ← handle (.proceed passage 0)
    let progress := if outcome.isOk then Progress.returned else .failed
    modify fun world => world.mapChain chain fun cell => { cell with progress }
    Eval.note (.finished chain passage.invocation.method progress)
    pure outcome

end BeanRegistry
