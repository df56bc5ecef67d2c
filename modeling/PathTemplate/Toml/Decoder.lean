import PathTemplate.Toml.Value

/-!
# Decoders

A decoder reads a document and is then asked for its values one by one.  A question says what kind
of value is expected, and a value of another kind is refused with a message.
-/

namespace PathTemplate.Toml

structure Decoder where
  /-- A value as the decoder holds it, which may show how it is written. -/
  Item : Type
  value : Item → Value
  /-- The value is an array of tables, each of which has a header of its own. -/
  hasHeaders : Item → Bool
  /-- The entries of the topmost table of a document, in the order of the document. -/
  read? : String → Option (List (String × Item))
  boolean : Item → Except String Bool
  /-- One of several names, with what the document says about it. -/
  choice : Item → Except String (String × Option Item)
  /-- Makes sure that nothing is said about a name. -/
  noContent : Item → Except String Unit
  unknownName : String → List String → String
  repeatedKey : String → String

namespace Decoder

variable (decoder : Decoder)

/-- What an entry says, whichever way it is written. -/
def datum (entry : String × decoder.Item) : String × Value :=
  (entry.1, decoder.value entry.2)

def data (entries : List (String × decoder.Item)) : List (String × Value) :=
  entries.map decoder.datum

/-- What can be relied on.  The keys of a document are distinct, and an answer follows from the
value.  A refusal does so too, but the one of an array that says something about a name may also
depend on whether its tables have headers. -/
structure Lawful : Prop where
  nodup_keys {text : String} {entries : List (String × decoder.Item)}
    (h : decoder.read? text = some entries) : (entries.map Prod.fst).Nodup
  array_of_hasHeaders {item : decoder.Item} (h : decoder.hasHeaders item = true) :
    ∃ items, decoder.value item = .array items
  boolean_of_boolean {item : decoder.Item} {b : Bool} (h : decoder.value item = .boolean b) :
    decoder.boolean item = .ok b
  boolean_of_other {item : decoder.Item} (h : ∀ b, decoder.value item ≠ .boolean b) :
    ∃ message, ∀ other, decoder.value other = decoder.value item →
      decoder.boolean other = .error message
  choice_of_string {item : decoder.Item} {name : String} (h : decoder.value item = .string name) :
    decoder.choice item = .ok (name, none)
  choice_of_table {item : decoder.Item} {name : String} {inner : Value}
    (h : decoder.value item = .table [(name, inner)]) :
    ∃ content, decoder.value content = inner ∧ decoder.choice item = .ok (name, some content)
  choice_of_other {item : decoder.Item} (hstring : ∀ name, decoder.value item ≠ .string name)
    (htable : ∀ name inner, decoder.value item ≠ .table [(name, inner)]) :
    ∃ message, ∀ other, decoder.value other = decoder.value item →
      decoder.choice other = .error message
  noContent_of_empty {item : decoder.Item}
    (h : decoder.value item = .table [] ∨ decoder.value item = .array []) :
    decoder.noContent item = .ok ()
  noContent_of_other {item : decoder.Item} (htable : decoder.value item ≠ .table [])
    (harray : decoder.value item ≠ .array []) :
    ∃ message, ∀ other, decoder.value other = decoder.value item →
      decoder.hasHeaders other = decoder.hasHeaders item → decoder.noContent other = .error message

end Decoder
end PathTemplate.Toml
