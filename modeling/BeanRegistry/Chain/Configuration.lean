import BeanRegistry.Application
import BeanRegistry.Chain.Advice
import BeanRegistry.Method
import BeanRegistry.Value

set_option autoImplicit false

namespace BeanRegistry

structure Chain (app : Application) where
  target : Option (Object app.Content)
  method : Option Method
  parameters : List (Value app.Content)
  -- The first advice wraps all others.
  advices : List (Advice app.Hook)
  targetMethod : Option app.Hook

inductive ChainSetting (app : Application) where
  | target (target : Object app.Content)
  | method (method : Method)
  | parameters (parameters : List (Value app.Content))
  | targetMethod (hook : app.Hook)
  | advice (advice : Advice app.Hook)

structure Invocation (app : Application) where
  target : Object app.Content
  method : Method
  parameters : List (Value app.Content)

structure Passage (app : Application) where
  chain : ChainId
  invocation : Invocation app
  advices : List (Advice app.Hook)
  targetMethod : app.Hook

def parameterAt {Content : Type} (parameters : List (Value Content)) (position : Nat) :
    Except ChainFailure (Value Content) :=
  match parameters[position]? with
  | some value => .ok value
  | none => .error (.parameterOutOfBounds position parameters.length)

namespace Invocation

variable {app : Application}

def parameter (invocation : Invocation app) (position : Nat) :
    Except ChainFailure (Value app.Content) :=
  parameterAt invocation.parameters position

end Invocation

namespace Chain

variable {app : Application}

def empty : Chain app :=
  { target := none, method := none, parameters := [], advices := [], targetMethod := none }

def set (chain : Chain app) : ChainSetting app → Chain app
  | .target target => { chain with target := some target }
  | .method method => { chain with method := some method }
  | .parameters parameters => { chain with parameters := parameters }
  | .targetMethod hook => { chain with targetMethod := some hook }
  | .advice advice => { chain with advices := chain.advices ++ [advice] }

def configure (chain : Chain app) (settings : List (ChainSetting app)) : Chain app :=
  settings.foldl set chain

def parameter (chain : Chain app) (position : Nat) : Except ChainFailure (Value app.Content) :=
  parameterAt chain.parameters position

def parameterAs (chain : Chain app) (kind : Kind) (position : Nat) :
    Except ChainFailure (kind.Carrier app.Content) :=
  match chain.parameter position with
  | .error error => .error error
  | .ok value => value.unwrap kind

def passage (chain : Chain app) (identity : ChainId) : Except ChainPiece (Passage app) :=
  match chain.target with
  | none => .error .target
  | some target =>
    match chain.method with
    | none => .error .method
    | some method =>
      match method.missingPiece? with
      | some piece => .error piece
      | none =>
        match chain.targetMethod with
        | none => .error .targetMethod
        | some targetMethod =>
          .ok
            { chain := identity
              invocation := { target, method, parameters := chain.parameters }
              advices := chain.advices
              targetMethod }

def start (chain : Chain app) (identity : ChainId) (progress : Progress) :
    Except ChainFailure (Passage app) :=
  if progress = .created then
    match chain.passage identity with
    | .error piece => .error (.notConfigured piece)
    | .ok passage => .ok passage
  else .error (.alreadyProceeded progress)

end Chain
end BeanRegistry
