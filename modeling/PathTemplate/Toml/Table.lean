import PathTemplate.Toml.Node

/-!
# Building tables

Entries and headers name a place by a path of keys.  The tables on the way are created where they
are absent.  A path is refused if it leads through a value, or into a table that may no longer grow;
a key that is taken is refused as well.
-/

namespace PathTemplate.Toml

/-- A path of keys is never empty. -/
structure KeyPath where
  first : String
  rest : List String
  deriving Repr, DecidableEq

namespace Entries

def replace (entries : Entries) (key : String) (node : Node) : Entries :=
  entries.map fun (k, v) => if k = key then (k, node) else (k, v)

def erase (entries : Entries) (key : String) : Entries :=
  entries.filter fun (k, _) => k ≠ key

/-- Whether a path that creates tables of origin `via` may lead into a table.  Headers lead into
every table but an inline one.  A dotted key adds to a table of its own kind only, and on the way to
that may pass tables without a header. -/
def admits (via origin : Origin) (isLast : Bool) : Bool :=
  match via, origin with
  | _, .inline => false
  | .dotted, .dotted => true
  | .dotted, .implied => !isLast
  | .dotted, _ => false
  | _, _ => true

/-- Changes the table in which the last key of a path stands.  An array of tables stands for the
last of its tables. -/
def changeAt (via : Origin) (change : Entries → String → Option Entries) :
    Entries → String → List String → Option Entries
  | entries, key, [] => change entries key
  | entries, key, next :: rest =>
    match entries.lookup key with
    | none => do
      let inner ← changeAt via change [] next rest
      return entries ++ [(key, .table via inner)]
    | some (.table origin inner) => do
      guard (admits via origin rest.isEmpty)
      let inner ← changeAt via change inner next rest
      return replace entries key (.table origin inner)
    | some (.rows tables) => do
      guard (via = .implied ∨ rest ≠ [])
      let inner ← changeAt via change (← tables.getLast?) next rest
      return replace entries key (.rows (tables.dropLast ++ [inner]))
    | some _ => none

def change (via : Origin) (path : KeyPath) (f : Entries → String → Option Entries)
    (entries : Entries) : Option Entries :=
  changeAt via f entries path.first path.rest

def add (node : Node) (entries : Entries) (key : String) : Option Entries := do
  guard (entries.lookup key).isNone
  return entries ++ [(key, node)]

def assign (entries : Entries) (path : KeyPath) (node : Node) : Option Entries :=
  entries.change .dotted path (add node)

def assignAll (entries : Entries) (assignments : List (KeyPath × Node)) : Option Entries :=
  assignments.foldlM (fun entries (path, node) => entries.assign path node) entries

/-- Adds a table with a header.  A table that earlier headers only implied keeps its entries and
moves to the end. -/
def addTable (assignments : List (KeyPath × Node)) (entries : Entries) (key : String) :
    Option Entries :=
  match entries.lookup key with
  | none => do
    let table ← assignAll [] assignments
    return entries ++ [(key, .table .header table)]
  | some (.table .implied inner) => do
    let table ← assignAll inner assignments
    return erase entries key ++ [(key, .table .header table)]
  | some _ => none

def addRow (assignments : List (KeyPath × Node)) (entries : Entries) (key : String) :
    Option Entries := do
  let table ← assignAll [] assignments
  match entries.lookup key with
  | none => return entries ++ [(key, .rows [table])]
  | some (.rows tables) => return replace entries key (.rows (tables ++ [table]))
  | some _ => none

end Entries
end PathTemplate.Toml
