import PathTemplate.Toml.Moment
import PathTemplate.Toml.Number
import PathTemplate.Toml.Table

/-!
# Documents

A document is a list of entries, followed by sections that each start with a header and hold entries
again.  It is read in two steps: the text gives the entries and sections, and these are put together
into one table, which fails if two of them take the same place.
-/

namespace PathTemplate.Toml

/-- Arrays and inline tables may be nested to this depth. -/
def maxNesting : Nat := 79

def maxKeyParts : Nat := 79

def keyPath : Reader KeyPath := do
  let part := spaces *> simpleKey <* spaces
  match ← Reader.sepBy1 part (Reader.char '.') with
  | first :: rest =>
    guard (rest.length < maxKeyParts)
    return ⟨first, rest⟩
  | [] => failure

def boolean : Reader Bool :=
  (do Reader.literal "true"; return true) <|> (do Reader.literal "false"; return false)

def scalar : Reader Node :=
  .string <$> string <|> .boolean <$> boolean <|> (do moment; return .dateTime) <|>
    .float <$> float <|> .integer <$> integer

def entry (node : Reader Node) : Reader (KeyPath × Node) := do
  let path ← keyPath
  Reader.char '='
  spaces
  return (path, ← node)

/-- Items may stand on lines of their own, and a comma may follow the last of them. -/
def array (node : Reader Node) : Reader Node := do
  Reader.char '['
  let items ← Reader.sepBy (trivia *> node <* trivia) (Reader.char ',')
  if items ≠ [] then
    Reader.char ',' <|> pure ()
  trivia
  Reader.char ']'
  return .array items

/-- Entries stand on one line, and no comma follows the last of them. -/
def inlineTable (node : Reader Node) : Reader Node := do
  Reader.char '\x7b'
  let assignments ← Reader.sepBy (entry node <* spaces) (Reader.char ',')
  spaces
  Reader.char '\x7d'
  let some entries := Entries.assignAll [] assignments | failure
  return .table .inline entries

def node : Nat → Reader Node
  | 0 => scalar
  | depth + 1 => scalar <|> array (node depth) <|> inlineTable (node depth)

inductive Heading where
  | table (path : KeyPath)
  | row (path : KeyPath)

def heading : Reader Heading :=
  (do
    Reader.literal "[["
    let path ← keyPath
    Reader.literal "]]"
    return .row path) <|>
  (do
    Reader.char '['
    let path ← keyPath
    Reader.char ']'
    return .table path)

structure Section where
  heading : Heading
  assignments : List (KeyPath × Node)

def assignments : Reader (List (KeyPath × Node)) := do
  trivia
  Reader.many (entry (node maxNesting) <* lineEnd <* trivia)

def sections : Reader (List Section) :=
  Reader.many do
    let heading ← heading
    lineEnd
    return ⟨heading, ← assignments⟩

def Entries.addSection (entries : Entries) (part : Section) : Option Entries :=
  match part.heading with
  | .table path => entries.change .implied path (addTable part.assignments)
  | .row path => entries.change .implied path (addRow part.assignments)

def unifyLineEnds : List Char → List Char
  | [] => []
  | c :: cs =>
    if c = '\r' ∧ cs.head? = some '\n' then unifyLineEnds cs else c :: unifyLineEnds cs

def byteOrderMark : Char := '\ufeff'

/-- The entries of the document's topmost table, in the order of the document. -/
def parse? (text : String) : Option Entries := do
  let cs := text.toList
  let cs := if cs.head? = some byteOrderMark then cs.tail else cs
  let reader := do return (← assignments, ← sections)
  let (top, parts) ← Reader.readAll reader (unifyLineEnds cs)
  parts.foldlM Entries.addSection (← Entries.assignAll [] top)

end PathTemplate.Toml
