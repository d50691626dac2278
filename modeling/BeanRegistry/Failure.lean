import BeanRegistry.Chain.Progress
import BeanRegistry.Kind
import BeanRegistry.Misconfiguration

set_option autoImplicit false

namespace BeanRegistry

inductive ChainPiece where
  | target
  | method
  | enclosingType
  | methodName
  | returnType
  | targetMethod
  deriving DecidableEq, Repr

def ChainPiece.text : ChainPiece → String
  | .target => "target"
  | .method => "method"
  | .enclosingType => "enclosing type"
  | .methodName => "method name"
  | .returnType => "return type"
  | .targetMethod => "target method"

inductive ChainFailure where
  | notConfigured (piece : ChainPiece)
  | alreadyProceeded (progress : Progress)
  | typeMismatch (expected found : Kind)
  | parameterOutOfBounds (position count : Nat)
  deriving DecidableEq, Repr

def ChainFailure.message : ChainFailure → String
  | .notConfigured piece => "interceptor chain is missing its " ++ piece.text
  | .alreadyProceeded progress =>
    "interceptor chain cannot proceed again, it is already " ++ progress.text
  | .typeMismatch expected found =>
    "expected a " ++ expected.text ++ " value but found " ++ found.text
  | .parameterOutOfBounds position count =>
    "parameter index " ++ toString position ++ " is out of bounds for " ++ toString count ++
      " parameters"

mutual

inductive BeanFailure where
  | notFound (name : String)
  | creationFailed (name : String) (source : Failure)
  | unableToCreate (source : Failure)
  | circularFactory (name : String)
  | nestingTooDeep (name : String) (bound : Nat)
  | typeMismatch (name : String) (expected : String)
  | invalidConfiguration (cause : Misconfiguration)

inductive Failure where
  | application (text : String)
  | text (message : String)
  | registryDropped
  | chain (error : ChainFailure)
  | bean (error : BeanFailure)

end

mutual

def BeanFailure.message : BeanFailure → String
  | .notFound name => "unable to find bean \"" ++ name ++ "\""
  | .creationFailed name source =>
    "unable to get bean \"" ++ name ++ "\" because " ++ source.message
  | .unableToCreate source => "unable to create bean, because " ++ source.message
  | .circularFactory name =>
    "factory bean \"" ++ name ++ "\" was asked for its bean while producing it"
  | .nestingTooDeep name bound =>
    "factory bean \"" ++ name ++ "\" nests more than " ++ toString bound ++ " factories"
  | .typeMismatch name expected => "bean \"" ++ name ++ "\" is not of type " ++ expected
  | .invalidConfiguration cause => "invalid configuration: " ++ cause.message

def Failure.message : Failure → String
  | .application text => text
  | .text message => message
  | .registryDropped => "bean registry is dropped, all related factory beans are dropped too"
  | .chain error => error.message
  | .bean error => error.message

end

mutual

def BeanFailure.sources : BeanFailure → List Failure
  | .creationFailed _ source => source :: source.sources
  | .unableToCreate source => source :: source.sources
  | _ => []

def Failure.sources : Failure → List Failure
  | .bean error => error.sources
  | _ => []

end

namespace BeanFailure

def beanName? : BeanFailure → Option String
  | .notFound name | .creationFailed name _ | .circularFactory name | .nestingTooDeep name _
  | .typeMismatch name _ => some name
  | .unableToCreate _ | .invalidConfiguration _ => none

def rootCause? {α : Type} (error : BeanFailure) (wanted : Failure → Option α) : Option α :=
  (Failure.bean error :: error.sources).findSome? wanted

end BeanFailure

namespace Failure

def application? : Failure → Option String
  | .application message => some message
  | _ => none

def chain? : Failure → Option ChainFailure
  | .chain error => some error
  | _ => none

def registryDropped? : Failure → Option Unit
  | .registryDropped => some ()
  | _ => none

end Failure
end BeanRegistry
