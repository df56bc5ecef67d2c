import PathTemplate.Decimal.Binary64

/-!
# Values of a TOML document

A value is what a document says, without the way in which it is written.  A table has its entries in
the order of their keys, and a date or a time is not told apart from others.
-/

namespace PathTemplate.Toml

inductive Value where
  | string (content : String)
  | integer (n : Int)
  | float (x : Binary64)
  | boolean (b : Bool)
  /-- A date, a time or both. -/
  | dateTime
  | array (items : List Value)
  | table (entries : List (String × Value))

/-- The table of entries that are listed in any order. -/
def Value.ofEntries (entries : List (String × Value)) : Value :=
  .table (entries.mergeSort fun left right => (compare left.1 right.1).isLE)

end PathTemplate.Toml
