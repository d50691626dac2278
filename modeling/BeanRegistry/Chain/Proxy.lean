import BeanRegistry.Chain.Configuration

set_option autoImplicit false

namespace BeanRegistry

structure Proxied (app : Application) where
  target : Object app.Content
  method : Method
  advices : List (Advice app.Hook)
  targetMethod : app.Hook

def Proxied.call {app : Application} (proxied : Proxied app)
    (parameters : List (Value app.Content)) : Chain app :=
  { target := some proxied.target
    method := some proxied.method
    parameters
    advices := proxied.advices
    targetMethod := some proxied.targetMethod }

end BeanRegistry
