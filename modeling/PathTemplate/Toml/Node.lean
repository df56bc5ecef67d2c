import PathTemplate.Toml.Value

/-!
# Values while a document is put together

A table keeps its entries in the order of the document and remembers how it came to be, since that
decides which later parts of the document may still add to it.  An array whose tables have headers
of their own is kept apart from other arrays for the same reason.
-/

namespace PathTemplate.Toml

inductive Origin where
  /-- The table has a header of its own. -/
  | header
  /-- The table stands on the way to a table that has a header. -/
  | implied
  /-- The table stands on the way to an entry with a dotted key. -/
  | dotted
  /-- The table is written as a value, and is complete where it stands. -/
  | inline
  deriving Repr, DecidableEq

inductive Node where
  | string (content : String)
  | integer (n : Int)
  | float (x : Binary64)
  | boolean (b : Bool)
  | dateTime
  | array (items : List Node)
  | table (origin : Origin) (entries : List (String × Node))
  /-- An array of tables, each of which has a header of its own. -/
  | rows (tables : List (List (String × Node)))

abbrev Entries := List (String × Node)

mutual

/-- What a node says, whichever way it is written. -/
def Node.value : Node → Value
  | .string content => .string content
  | .integer n => .integer n
  | .float x => .float x
  | .boolean b => .boolean b
  | .dateTime => .dateTime
  | .array items => .array (itemValues items)
  | .table _ entries => .ofEntries (entryValues entries)
  | .rows tables => .array (rowValues tables)

def itemValues : List Node → List Value
  | [] => []
  | node :: rest => node.value :: itemValues rest

def entryValues : List (String × Node) → List (String × Value)
  | [] => []
  | (key, node) :: rest => (key, node.value) :: entryValues rest

def rowValues : List (List (String × Node)) → List Value
  | [] => []
  | entries :: rest => .ofEntries (entryValues entries) :: rowValues rest

end

end PathTemplate.Toml
