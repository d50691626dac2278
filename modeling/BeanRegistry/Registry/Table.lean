import BeanRegistry.Application
import BeanRegistry.Factory.Guards
import BeanRegistry.Failure
import BeanRegistry.Text.NameList

set_option autoImplicit false

namespace BeanRegistry

structure Declarations where
  beans : List (String × FactoryId)
  aliases : List Alias
  eager : List String
  nestingBound : Nat

structure Registry where
  names : List String
  aliases : List Alias
  table : List (String × FactoryId)
  nestingBound : Nat

namespace Declarations

def withAlias (declarations : Declarations) (name bean : String) : Declarations :=
  { declarations with aliases := declarations.aliases ++ [{ name, bean }] }

def withAliases (declarations : Declarations) (text : String) : Except BeanFailure Declarations :=
  match NameList.aliases text with
  | .error fault => .error (.invalidConfiguration fault)
  | .ok aliases => .ok { declarations with aliases := declarations.aliases ++ aliases }

def withEager (declarations : Declarations) (name : String) : Declarations :=
  { declarations with eager := declarations.eager ++ [name] }

def withEagerBeans (declarations : Declarations) (text : String) : Declarations :=
  { declarations with eager := declarations.eager ++ NameList.names text }

def withNestingBound (declarations : Declarations) (bound : Nat) : Declarations :=
  { declarations with nestingBound := bound }

def admits (declarations : Declarations) (name : String) : Except Misconfiguration Unit :=
  if name.isEmpty then .error .emptyName
  else if (declarations.beans.lookup name).isSome then .error (.duplicateName name)
  else .ok ()

def withBean (declarations : Declarations) (name : String) (factory : FactoryId) : Declarations :=
  { declarations with beans := declarations.beans ++ [(name, factory)] }

end Declarations

-- The aliases that were resolved are those declared before.
def aliasTarget (isBean : String → Bool) (resolved : List Alias) (declared : Alias) :
    Except Misconfiguration String :=
  let earlier := fun name => (resolved.find? fun known => known.name == name).map Alias.bean
  if declared.name.isEmpty || declared.bean.isEmpty then
    .error (.aliasEmptySide (declared.name ++ "=" ++ declared.bean))
  else if isBean declared.name || (earlier declared.name).isSome then
    .error (.aliasShadows declared.name)
  else if isBean declared.bean then .ok declared.bean
  else
    match earlier declared.bean with
    | some target => .ok target
    | none => .error (.aliasUnknownBean declared.name declared.bean)

def resolveAliases (isBean : String → Bool) :
    List Alias → List Alias → Except Misconfiguration (List Alias)
  | resolved, [] => .ok resolved
  | resolved, declared :: rest =>
    match aliasTarget isBean resolved declared with
    | .error fault => .error fault
    | .ok target => resolveAliases isBean (resolved ++ [{ declared with bean := target }]) rest

def indexAlias (table : List (String × FactoryId)) (resolved : Alias) :
    List (String × FactoryId) :=
  match table.lookup resolved.bean with
  | some factory => table ++ [(resolved.name, factory)]
  | none => table

namespace Declarations

def empty : Declarations :=
  { beans := [], aliases := [], eager := [], nestingBound := defaultNestingBound }

def isBean (declarations : Declarations) (name : String) : Bool :=
  (declarations.beans.lookup name).isSome

-- A bound of zero is found before any bad alias.
def registry (declarations : Declarations) : Except Misconfiguration Registry :=
  if declarations.nestingBound = 0 then .error .zeroNesting
  else
    match resolveAliases declarations.isBean [] declarations.aliases with
    | .error fault => .error fault
    | .ok resolved =>
      .ok
        { names := declarations.beans.map Prod.fst
          aliases := resolved
          table := resolved.foldl indexAlias declarations.beans
          nestingBound := declarations.nestingBound }

end Declarations

namespace Registry

def empty : Registry :=
  { names := [], aliases := [], table := [], nestingBound := defaultNestingBound }

def factory? (registry : Registry) (name : String) : Option FactoryId :=
  registry.table.lookup name

def contains (registry : Registry) (name : String) : Bool :=
  (registry.factory? name).isSome

def aliasTarget? (registry : Registry) (name : String) : Option String :=
  (registry.aliases.find? fun known => known.name == name).map Alias.bean

end Registry
end BeanRegistry
