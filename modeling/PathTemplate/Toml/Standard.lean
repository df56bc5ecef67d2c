import PathTemplate.Decimal.Shortest
import PathTemplate.Text.Quoted
import PathTemplate.Toml.Decoder
import PathTemplate.Toml.Document

/-!
# The decoder in use

A name is written as a string, or as the only key of a table, which then has what is said about the
name; an empty table and an empty array say nothing.  A value that does not fit is described by its
content or by its type, and an array differently by whether its tables have headers.
-/

namespace PathTemplate.Toml

namespace Value

def typeName : Value → String
  | string _ => "string"
  | integer _ => "integer"
  | float _ => "float"
  | boolean _ => "boolean"
  | dateTime => "datetime"
  | array _ => "array"
  | table _ => "table"

def describe : Value → String
  | string content => "string " ++ Text.quote content
  | integer n => "integer `" ++ toString n ++ "`"
  | float x => "floating point `" ++ x.text ++ "`"
  | boolean b => "boolean `" ++ toString b ++ "`"
  | dateTime | table _ => "map"
  | array _ => "sequence"

end Value

namespace Node

def hasHeaders : Node → Bool
  | rows _ => true
  | _ => false

def asBoolean : Node → Except String Bool
  | boolean b => .ok b
  | found => .error ("invalid type: " ++ found.value.describe ++ ", expected a boolean")

def asChoice : Node → Except String (String × Option Node)
  | string name => .ok (name, none)
  | table _ [] => .error "wanted exactly 1 element, found 0 elements"
  | table _ [(name, content)] => .ok (name, some content)
  | table .. => .error "wanted exactly 1 element, more than 1 element"
  | _ => .error "wanted string or table"

def asNoContent : Node → Except String Unit
  | table _ [] | array [] | rows [] => .ok ()
  | table .. | array _ => .error "expected empty table"
  | rows _ => .error "expected empty array"
  | found => .error ("expected table, found " ++ found.value.typeName)

end Node

def oneOf : List String → String
  | [] => "there are no variants"
  | [name] => "expected `" ++ name ++ "`"
  | [name, other] => "expected `" ++ name ++ "` or `" ++ other ++ "`"
  | names => "expected one of " ++ ", ".intercalate (names.map fun name => "`" ++ name ++ "`")

def standard : Decoder where
  Item := Node
  value := Node.value
  hasHeaders := Node.hasHeaders
  read? := parse?
  boolean := Node.asBoolean
  choice := Node.asChoice
  noContent := Node.asNoContent
  unknownName name names := "unknown variant `" ++ name ++ "`, " ++ oneOf names
  repeatedKey key := "duplicate field `" ++ key ++ "`"

end PathTemplate.Toml
