import BeanRegistry.Config.Datum

set_option autoImplicit false

namespace BeanRegistry.Config.Toml

inductive Origin where
  | implied
  | dotted
  | declared
  deriving DecidableEq, Repr

inductive Node where
  | datum (datum : Datum)
  | table (origin : Origin) (entries : List (String × Node))
  | tables (elements : List (List (String × Node)))

abbrev Entries : Type := List (String × Node)

def Node.toDatum : Node → Datum
  | .datum held => held
  | .table _ _ => .record
  | .tables _ => .list

namespace Entries

def replace (entries : Entries) (key : String) (node : Node) : Entries :=
  entries.map fun entry => if entry.1 = key then (key, node) else entry

-- Dotted keys may not lead into a table that a header declared.
def change (byDots : Bool) (edit : Origin → Entries → Option Entries) :
    List String → Origin → Entries → Option Entries
  | [], origin, entries => edit origin entries
  | key :: rest, _, entries =>
    match entries.lookup key with
    | none =>
      let origin := if byDots then Origin.dotted else .implied
      (change byDots edit rest origin []).map fun inner => entries ++ [(key, .table origin inner)]
    | some (.datum _) => none
    | some (.table origin inner) =>
      if byDots && origin = .declared then none
      else
        (change byDots edit rest origin inner).map fun inner =>
          replace entries key (.table origin inner)
    | some (.tables elements) =>
      match elements.getLast? with
      | none => none
      | some last =>
        (change byDots edit rest .declared last).map fun last =>
          replace entries key (.tables (elements.dropLast ++ [last]))

-- Dotted keys add to tables made by dotted keys only, and plain keys to all others.
def insert (isDotted : Bool) (key : String) (datum : Datum) (origin : Origin) (entries : Entries) :
    Option Entries :=
  if (origin = .dotted) != isDotted then none
  else if (entries.lookup key).isSome then none
  else some (entries ++ [(key, .datum datum)])

def insertAt (path : List String) (key : String) (datum : Datum) (origin : Origin)
    (entries : Entries) : Option Entries :=
  change true (insert (!path.isEmpty) key datum) path origin entries

def declareTable (key : String) (_ : Origin) (entries : Entries) : Option Entries :=
  match entries.lookup key with
  | none => some (entries ++ [(key, .table .declared [])])
  | some (.table .implied inner) => some (replace entries key (.table .declared inner))
  | some _ => none

def declareElement (key : String) (_ : Origin) (entries : Entries) : Option Entries :=
  match entries.lookup key with
  | none => some (entries ++ [(key, .tables [[]])])
  | some (.tables elements) => some (replace entries key (.tables (elements ++ [[]])))
  | some _ => none

end Entries

structure Path where
  parents : List String
  key : String

def Path.all (path : Path) : List String :=
  path.parents ++ [path.key]

inductive Line where
  | pair (path : Path) (datum : Datum)
  | table (path : Path)
  | element (path : Path)

def entriesOf : List String → Entries → List Line → Option Entries
  | _, entries, [] => some entries
  | current, entries, .pair path datum :: rest =>
    match Entries.change false (Entries.insertAt path.parents path.key datum) current .declared
        entries with
    | none => none
    | some entries => entriesOf current entries rest
  | _, entries, .table path :: rest =>
    match Entries.change false (Entries.declareTable path.key) path.parents .declared entries with
    | none => none
    | some entries => entriesOf path.all entries rest
  | _, entries, .element path :: rest =>
    match Entries.change false (Entries.declareElement path.key) path.parents .declared entries with
    | none => none
    | some entries => entriesOf path.all entries rest

end BeanRegistry.Config.Toml
