set_option autoImplicit false

namespace BeanRegistry

inductive Misconfiguration where
  | described (text : String)
  | emptyName
  | duplicateName (name : String)
  | aliasWithoutBean (entry : String)
  | aliasEmptySide (entry : String)
  | aliasShadows (name : String)
  | aliasUnknownBean (name : String) (bean : String)
  | zeroNesting
  | eagerPrototype (name : String)
  | unregisteredBean (name : String)
  | missingFile (path : String)
  | malformedDocument
  | wrongType (key : String)
  deriving DecidableEq, Repr

def Misconfiguration.message : Misconfiguration → String
  | .described text => text
  | .emptyName => "bean name must not be empty"
  | .duplicateName name => "bean \"" ++ name ++ "\" is registered twice"
  | .aliasWithoutBean entry => "alias \"" ++ entry ++ "\" is not of the form alias=beanName"
  | .aliasEmptySide entry => "alias \"" ++ entry ++ "\" has an empty side"
  | .aliasShadows name => "alias \"" ++ name ++ "\" shadows an existing bean or alias"
  | .aliasUnknownBean name bean =>
    "alias \"" ++ name ++ "\" refers to unknown bean \"" ++ bean ++ "\""
  | .zeroNesting => "max_factory_nesting must be at least 1"
  | .eagerPrototype name => "the bean \"" ++ name ++ "\" must be a singleton to be loaded eagerly"
  | .unregisteredBean name => "bean \"" ++ name ++ "\" is not registered in any registry"
  | .missingFile path => "configuration file " ++ path ++ " does not exist"
  | .malformedDocument => "the document is malformed"
  | .wrongType key => "the value of " ++ key ++ " has the wrong type"

end BeanRegistry
