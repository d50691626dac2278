import BeanRegistry.Application
import BeanRegistry.Failure

set_option autoImplicit false

namespace BeanRegistry

def defaultNestingBound : Nat := 32

structure Guards where
  producing : List FactoryId
  -- Set while a nested factory is asked for its bean, until a factory claims it.
  pendingDepth : Option Nat
  deriving DecidableEq, Repr

namespace Guards

def empty : Guards := { producing := [], pendingDepth := none }

-- A factory that nobody unwraps starts over at nothing.
def depth (guards : Guards) : Nat :=
  guards.pendingDepth.getD 0

def claim (guards : Guards) : Guards :=
  { guards with pendingDepth := none }

-- A circle is found before a nesting that is too deep.
def refusal? (guards : Guards) (factory : FactoryId) (name : String) (bound : Nat) :
    Option BeanFailure :=
  if factory ∈ guards.producing then some (.circularFactory name)
  else if bound ≤ guards.depth then some (.nestingTooDeep name bound)
  else none

def push (guards : Guards) (factory : FactoryId) : Guards :=
  { guards with producing := factory :: guards.producing }

def pop (guards : Guards) : Guards :=
  { guards with producing := guards.producing.tail }

end Guards
end BeanRegistry
