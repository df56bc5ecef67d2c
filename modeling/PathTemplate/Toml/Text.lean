import PathTemplate.Toml.Reader

/-!
# Strings and keys

Text stands between single or double quotes; between three of them it may run over several lines.
Only double quotes have escapes.
-/

namespace PathTemplate.Toml

def isHexDigit (c : Char) : Bool :=
  c.isDigit || ('a' ≤ c && c ≤ 'f') || ('A' ≤ c && c ≤ 'F')

def digitValue (c : Char) : Nat :=
  if c.isDigit then c.toNat - '0'.toNat
  else if c.isLower then c.toNat - 'a'.toNat + 10
  else c.toNat - 'A'.toNat + 10

def numeral (base : Nat) (digits : List Char) : Nat :=
  digits.foldl (fun n c => base * n + digitValue c) 0

def codePoint (count : Nat) : Reader Char := do
  let digits ← (List.range count).mapM fun _ => Reader.satisfy isHexDigit
  let n := numeral 16 digits
  if h : n.isValidChar then return Char.ofNatAux n h else failure

def escape : Reader Char := do
  Reader.char '\\'
  match ← Reader.satisfy fun _ => true with
  | 'b' => return '\x08'
  | 't' => return '\t'
  | 'n' => return '\n'
  | 'f' => return '\x0c'
  | 'r' => return '\r'
  | '"' => return '"'
  | '\\' => return '\\'
  | 'u' => codePoint 4
  | 'U' => codePoint 8
  | _ => failure

def escapedText : Reader (List Char) :=
  Reader.takeWhile1 (fun c => isPlain c && c != '"' && c != '\\') <|>
    (do return [← escape])

def basicString : Reader (List Char) := do
  Reader.char '"'
  let parts ← Reader.many escapedText
  Reader.char '"'
  return parts.flatten

def literalString : Reader (List Char) := do
  Reader.char '\''
  let content ← Reader.takeWhile fun c => isPlain c && c != '\''
  Reader.char '\''
  return content

/-- A backslash at the end of a line takes away the line end and all that is blank after it. -/
def continuedLine : Reader (List Char) := do
  Reader.char '\\'
  spaces
  Reader.char '\n'
  let _ ← Reader.takeWhile fun c => isSpace c || c == '\n'
  return []

/-- Text over several lines.  It ends at three quotes in a row; up to two more quotes right before
them belong to the text, as fewer than three do anywhere.  A line end right at its start does not
belong to it. -/
def multiline (quote : Char) (part : Reader (List Char)) : Reader (List Char) := do
  let mark := [quote, quote, quote]
  mark.forM Reader.char
  Reader.char '\n' <|> pure ()
  let loneQuotes : Reader (List Char) := do
    let quotes ← Reader.takeWhile1 (· == quote)
    guard (quotes.length < 3)
    return quotes
  let lineBreak : Reader (List Char) := do
    Reader.char '\n'
    return ['\n']
  let parts ← Reader.many (part <|> lineBreak <|> loneQuotes)
  let closing ← Reader.takeWhile (· == quote)
  guard (3 ≤ closing.length ∧ closing.length ≤ 5)
  return parts.flatten ++ closing.drop 3

def multilineBasic : Reader (List Char) :=
  multiline '"' (continuedLine <|> escapedText)

def multilineLiteral : Reader (List Char) :=
  multiline '\'' (Reader.takeWhile1 fun c => isPlain c && c != '\'')

def string : Reader String := do
  let content ← multilineBasic <|> basicString <|> multilineLiteral <|> literalString
  return String.ofList content

def isBareKeyChar (c : Char) : Bool :=
  c.isAlphanum || c == '_' || c == '-'

def simpleKey : Reader String := do
  let content ← basicString <|> literalString <|> Reader.takeWhile1 isBareKeyChar
  return String.ofList content

end PathTemplate.Toml
