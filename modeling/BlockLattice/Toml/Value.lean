-- TOML documents as values. Floats and dates carry no payload: no setting of
-- this library is of either kind, so only their place in a document counts.
namespace BlockLattice

namespace Toml

-- How a table came to be, which decides what may still be added to it.
inductive Origin where
  | braces
  | header
  -- By a longer header that runs through it.
  | implied
  | dotted
deriving DecidableEq, Repr

end Toml

inductive Toml where
  | text (s : String)
  | integer (n : Int)
  | float
  | bool (b : Bool)
  | moment
  | array (items : List Toml)
  | table (origin : Toml.Origin) (entries : List (String × Toml))
  | tables (elements : List (List (String × Toml)))

namespace Toml

abbrev Entries := List (String × Toml)

def Entries.find? (entries : Entries) (key : String) : Option Toml :=
  (List.find? (fun e => e.1 == key) entries).map Prod.snd

def Entries.put (entries : Entries) (key : String) (value : Toml) : Entries :=
  if (entries.find? key).isSome then entries.map fun e => if e.1 == key then (key, value) else e
  else entries ++ [(key, value)]

def changeLast (change : Entries → Option Entries) : List Entries → Option (List Entries)
  | [] => none
  | [last] => (change last).map fun last => [last]
  | first :: rest => (changeLast change rest).map (first :: ·)

-- Adds a value under a dotted key. A key is given once; tables on the way must
-- have been made by dotted keys, or stand only in passing under a header.
def assign (value : Toml) : List String → Entries → Option Entries
  | [], _ => none
  | [key], entries => if (entries.find? key).isSome then none else some (entries.put key value)
  | key :: next :: path, entries =>
    match entries.find? key with
    | none => (assign value (next :: path) []).map fun inner => entries.put key (.table .dotted inner)
    | some (.table origin inner) =>
      if origin = .dotted ∨ (origin = .implied ∧ path ≠ []) then
        (assign value (next :: path) inner).map fun inner => entries.put key (.table origin inner)
      else none
    | some (.tables elements) =>
      if path = [] then none
      else (changeLast (assign value (next :: path)) elements).map fun elements =>
        entries.put key (.tables elements)
    | some _ => none

def underHeader (change : String → Entries → Option Entries) : List String → Entries → Option Entries
  | [], _ => none
  | [key], entries => change key entries
  | key :: next :: path, entries =>
    match entries.find? key with
    | none => (underHeader change (next :: path) []).map fun inner => entries.put key (.table .implied inner)
    | some (.table origin inner) =>
      if origin = .braces then none
      else (underHeader change (next :: path) inner).map fun inner => entries.put key (.table origin inner)
    | some (.tables elements) =>
      (changeLast (underHeader change (next :: path)) elements).map fun elements =>
        entries.put key (.tables elements)
    | some _ => none

-- A table has one header; only a table that was merely run through may get it.
def openTable : List String → Entries → Option Entries :=
  underHeader fun key entries =>
    match entries.find? key with
    | none => some (entries.put key (.table .header []))
    | some (.table .implied inner) => some (entries.put key (.table .header inner))
    | some _ => none

def openElement : List String → Entries → Option Entries :=
  underHeader fun key entries =>
    match entries.find? key with
    | none => some (entries.put key (.tables [[]]))
    | some (.tables elements) => some (entries.put key (.tables (elements ++ [[]])))
    | some _ => none

def inTable (change : Entries → Option Entries) : List String → Entries → Option Entries
  | [], entries => change entries
  | key :: path, entries =>
    match entries.find? key with
    | some (.table origin inner) =>
      (inTable change path inner).map fun inner => entries.put key (.table origin inner)
    | some (.tables elements) =>
      (changeLast (inTable change path) elements).map fun elements => entries.put key (.tables elements)
    | _ => none

inductive Statement where
  | assign (path : List String) (value : Toml)
  | header (path : List String)
  | element (path : List String)

def Statement.run : List String × Entries → Statement → Option (List String × Entries)
  | (current, root), .assign path value =>
    (inTable (Toml.assign value path) current root).map fun root => (current, root)
  | (_, root), .header path => (openTable path root).map fun root => (path, root)
  | (_, root), .element path => (openElement path root).map fun root => (path, root)

def ofStatements? (statements : List Statement) : Option Entries :=
  (statements.foldlM Statement.run ([], [])).map Prod.snd

end Toml
end BlockLattice
