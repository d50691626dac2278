import BeanRegistry.Misconfiguration
import BeanRegistry.Text.Blank
import BeanRegistry.Text.Pieces

set_option autoImplicit false

namespace BeanRegistry

structure Alias where
  name : String
  bean : String
  deriving DecidableEq, Repr

namespace NameList

open Text

def entries (text : List Char) : List (List Char) :=
  ((pieces ',' text).map trim).filter fun entry => !entry.isEmpty

def names (text : String) : List String :=
  (entries text.toList).map String.ofList

def entryAlias (entry : List Char) : Except Misconfiguration Alias :=
  match cutAtFirst '=' entry with
  | none => .error (.aliasWithoutBean (String.ofList entry))
  | some (left, right) =>
    if (trim left).isEmpty || (trim right).isEmpty then
      .error (.aliasEmptySide (String.ofList entry))
    else .ok { name := String.ofList (trim left), bean := String.ofList (trim right) }

def aliasesOf : List (List Char) → Except Misconfiguration (List Alias)
  | [] => .ok []
  | entry :: rest =>
    match entryAlias entry with
    | .error fault => .error fault
    | .ok head =>
      match aliasesOf rest with
      | .error fault => .error fault
      | .ok tail => .ok (head :: tail)

def aliases (text : String) : Except Misconfiguration (List Alias) :=
  aliasesOf (entries text.toList)

def render (list : List String) : String :=
  String.ofList (join ',' (list.map String.toList))

end NameList
end BeanRegistry
