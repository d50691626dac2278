import BeanRegistry.Config.EnvironmentValue
import BeanRegistry.Config.Toml.Document
import BeanRegistry.Registry.Table

set_option autoImplicit false

namespace BeanRegistry

structure Settings where
  aliases : String
  eagerBeans : String
  nestingBound : Nat
  deriving DecidableEq, Repr

namespace Settings

open Config

def default : Settings :=
  { aliases := "", eagerBeans := "", nestingBound := defaultNestingBound }

def aliasList (settings : Settings) : Except Misconfiguration (List Alias) :=
  NameList.aliases settings.aliases

def eagerNames (settings : Settings) : List String :=
  NameList.names settings.eagerBeans

abbrev Source : Type := String → Option Datum

-- The text of a document gives a source, unless it is malformed, and a variable sets a key, or none.
structure Readers where
  ofDocument : String → Option Source
  ofVariable : String → String → Option (String × Datum)

def ofEntries (entries : Toml.Entries) : Source := fun key =>
  (entries.lookup key).map Toml.Node.toDatum

def variableParts (name : String) : Option (List (List Char)) :=
  let letters := (Text.trim name.toList).map Char.toLower
  let start := "aop_ctx_".toList
  if start.isPrefixOf letters then some (Text.pieces '.' (Text.trim (letters.drop start.length)))
  else none

-- Dots in the name lead into records, and a name with an empty part sets nothing.
def ofVariable (name value : String) : Option (String × Datum) :=
  match variableParts name with
  | none | some [] => none
  | some (key :: inner) =>
    if (key :: inner).any List.isEmpty then none
    else
      some (String.ofList key, if inner.isEmpty then EnvironmentValue.ofText value else .record)

def setVariable (environment : List (String × String)) (name value : String) :
    List (String × String) :=
  if (environment.lookup name).isSome then
    environment.map fun entry => if entry.1 = name then (name, value) else entry
  else environment ++ [(name, value)]

-- Of several variables for one key the last counts.
def ofEnvironment (readers : Readers) (environment : List (String × String)) : Source := fun key =>
  (environment.filterMap fun entry => readers.ofVariable entry.1 entry.2).reverse.lookup key

def winner (sources : List Source) (key : String) : Option Datum :=
  sources.findSome? fun source => source key

def textOf (sources : List Source) (key : String) (fallback : String) :
    Except Misconfiguration String :=
  match winner sources key with
  | none => .ok fallback
  | some (.text content) => .ok content
  | some _ => .error (.wrongType key)

def countOf (sources : List Source) (key : String) (fallback : Nat) :
    Except Misconfiguration Nat :=
  match winner sources key with
  | none => .ok fallback
  | some (.whole value) => if 0 ≤ value then .ok value.toNat else .error (.wrongType key)
  | some _ => .error (.wrongType key)

def extract (sources : List Source) : Except Misconfiguration Settings := do
  let aliases ← textOf sources "aliases" default.aliases
  let eagerBeans ← textOf sources "eager_beans" default.eagerBeans
  let nestingBound ← countOf sources "max_factory_nesting" default.nestingBound
  pure { aliases, eagerBeans, nestingBound }

def validate (settings : Settings) : Except Misconfiguration Settings :=
  if settings.nestingBound = 0 then .error .zeroNesting
  else
    match settings.aliasList with
    | .error fault => .error fault
    | .ok _ => .ok settings

def Readers.load (readers : Readers) (document : Option String) (environment : List (String × String)) :
    Except Misconfiguration Settings :=
  match document with
  | none => (extract [ofEnvironment readers environment]).bind validate
  | some content =>
    match readers.ofDocument content with
    | none => .error .malformedDocument
    | some held => (extract [ofEnvironment readers environment, held]).bind validate

def standardReaders : Readers where
  ofDocument content := (Toml.entries? content).map ofEntries
  ofVariable := ofVariable

def load (document : Option String) (environment : List (String × String)) :
    Except Misconfiguration Settings :=
  standardReaders.load document environment

def loadFile (path : String) (content : Option String) (environment : List (String × String)) :
    Except Misconfiguration Settings :=
  match content with
  | none => .error (.missingFile path)
  | some document => load (some document) environment

end Settings

def Declarations.withSettings (declarations : Declarations) (settings : Settings) :
    Except BeanFailure Declarations :=
  match declarations.withAliases settings.aliases with
  | .error error => .error error
  | .ok extended =>
    .ok ((extended.withEagerBeans settings.eagerBeans).withNestingBound settings.nestingBound)

end BeanRegistry
