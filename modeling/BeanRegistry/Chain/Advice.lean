set_option autoImplicit false

namespace BeanRegistry

inductive Advice (Hook : Type) where
  | before (hook : Hook)
  | afterReturning (hook : Hook)
  | afterThrowing (hook : Hook)
  | afterFinally (hook : Hook)
  -- Decides whether, when and how often the rest of the chain runs.
  | interceptor (hook : Hook)

def Advice.text {Hook : Type} : Advice Hook → String
  | .before _ => "`before advice`"
  | .afterReturning _ => "`after returning advice`"
  | .afterThrowing _ => "`after throwing advice`"
  | .afterFinally _ => "`after finally advice`"
  | .interceptor _ => "`method interceptor`"

end BeanRegistry
