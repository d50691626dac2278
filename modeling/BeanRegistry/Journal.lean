import BeanRegistry.Chain.Advice
import BeanRegistry.Factory.Guards
import BeanRegistry.Method
import BeanRegistry.Registry.Table

set_option autoImplicit false

namespace BeanRegistry

inductive Level where
  | trace
  | debug
  | info
  | warn
  deriving DecidableEq, Repr

def Level.text : Level → String
  | .trace => "TRACE"
  | .debug => "DEBUG"
  | .info => "INFO"
  | .warn => "WARN"

structure LogRecord where
  level : Level
  message : String
  fields : List (String × String)
  deriving DecidableEq, Repr

-- Steps of a production show the guards as they stand at that moment.
inductive Step (app : Application) where
  | event (event : app.Event)
  | registered (name : String) (isSingleton : Bool)
  | aliased (resolved : Alias)
  | built (beans aliases eager : Nat)
  | granted (owner : Owner)
  | released (owner : Owner)
  | toldName (factory : FactoryId) (name : String)
  | toldRegistry (factory : FactoryId) (registry : RegistryId)
  | refused (factory : FactoryId) (guards : Guards)
  | entered (factory : FactoryId) (guards : Guards)
  | creating (factory : FactoryId) (guards : Guards)
  | followingUp (factory : FactoryId) (guards : Guards)
  | unwrapping (factory nested : FactoryId) (guards : Guards)
  | kept (factory : FactoryId) (name : String)
  | left (factory : FactoryId) (succeeded : Bool) (guards : Guards)
  -- The position after the last advice is the target method.
  | opened (chain : ChainId) (position : Nat) (isTarget : Bool) (method : Method)
    (progress : Progress)
  | closed (chain : ChainId) (position : Nat) (succeeded : Bool)
  | hookStarted (chain : ChainId) (position : Nat)
  | hookEnded (chain : ChainId) (position : Nat)
  | suppressed (chain : ChainId) (position : Nat) (method : Method)
  | finished (chain : ChainId) (method : Method) (progress : Progress)

def Step.record? {app : Application} : Step app → Option LogRecord
  | .registered name isSingleton =>
    some ⟨.debug, "registered factory bean",
      [("bean", name), ("singleton", if isSingleton then "true" else "false")]⟩
  | .aliased resolved =>
    some ⟨.debug, "registered alias", [("alias", resolved.name), ("bean", resolved.bean)]⟩
  | .built beans aliases eager =>
    some ⟨.info, "bean registry built",
      [("beans", toString beans), ("aliases", toString aliases), ("eager", toString eager)]⟩
  | .kept _ name => some ⟨.debug, "singleton bean created", [("bean", name)]⟩
  | .opened _ position isTarget method _ =>
    if isTarget then some ⟨.trace, "invoking target method", [("method", method.text)]⟩
    else
      some ⟨.trace, "entering interceptor",
        [("method", method.text), ("index", toString position)]⟩
  | .suppressed _ _ method =>
    some ⟨.warn, "after throwing advice suppressed a failure",
      [("method", method.name), ("enclosing_type", method.enclosingType)]⟩
  | .finished _ method progress =>
    some ⟨.trace, "interceptor chain finished",
      [("method", method.text), ("state", progress.text)]⟩
  | _ => none

end BeanRegistry
