/-!
# Readers

A reader takes characters from the front of a text, or fails.  Of two alternatives the second is
tried where the first fails, from the same place.
-/

namespace PathTemplate.Toml

abbrev Reader := StateT (List Char) Option

namespace Reader

def peek? : Reader (Option Char) := fun cs => some (cs.head?, cs)

def satisfy (p : Char → Bool) : Reader Char
  | c :: cs => if p c then some (c, cs) else none
  | [] => none

def char (c : Char) : Reader Unit := do
  let _ ← satisfy (· == c)

def literal (text : String) : Reader Unit :=
  text.toList.forM char

def takeWhile (p : Char → Bool) : Reader (List Char) := fun cs => some (cs.span p)

def takeWhile1 (p : Char → Bool) : Reader (List Char) := do
  let taken ← takeWhile p
  guard (taken ≠ [])
  return taken

def atEnd : Reader Unit
  | [] => some ((), [])
  | _ :: _ => none

/-- Reads items as long as they can be read and take at least one character each. -/
def manyFrom (item : Reader α) (cs : List Char) : List α × List Char :=
  match item cs with
  | none => ([], cs)
  | some (a, rest) =>
    if rest.length < cs.length then
      let (items, final) := manyFrom item rest
      (a :: items, final)
    else
      ([], cs)
termination_by cs.length

def many (item : Reader α) : Reader (List α) := fun cs => some (manyFrom item cs)

def sepBy1 (item : Reader α) (separator : Reader Unit) : Reader (List α) := do
  let first ← item
  let rest ← many (separator *> item)
  return first :: rest

def sepBy (item : Reader α) (separator : Reader Unit) : Reader (List α) :=
  sepBy1 item separator <|> pure []

def readAll (reader : Reader α) (cs : List Char) : Option α := do
  let (a, _) ← (reader <* atEnd).run cs
  return a

end Reader

def isSpace (c : Char) : Bool :=
  c == ' ' || c == '\t'

/-- The characters of comments and of text between quotes: all but the control characters, of which
only the tab is one of them. -/
def isPlain (c : Char) : Bool :=
  c == '\t' || (0x20 ≤ c.toNat && c.toNat != 0x7F)

def spaces : Reader Unit := do
  let _ ← Reader.takeWhile isSpace

def comment : Reader Unit := do
  Reader.char '#'
  let _ ← Reader.takeWhile isPlain

def trivia : Reader Unit := do
  let gap : Reader Unit := do
    let _ ← Reader.takeWhile1 fun c => isSpace c || c == '\n'
  let _ ← Reader.many (gap <|> comment)

def lineEnd : Reader Unit := do
  spaces
  comment <|> pure ()
  Reader.char '\n' <|> Reader.atEnd

end PathTemplate.Toml
